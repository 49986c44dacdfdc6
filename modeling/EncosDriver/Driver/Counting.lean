import EncosDriver.Driver.RoutingSteps

set_option autoImplicit false

namespace EncosDriver.Driver

open Lib

def CreateBusPc.counted : CreateBusPc → Bool
  | .enter | .await _ => false
  | .construct | .publish | .complete => true
  | .rollback counted _ | .drainGate counted | .endAdapter counted _ => counted

def CreateDevicePc.busCounted : CreateDevicePc → Bool
  | .endAdapter _ _ => false
  | pc => pc.creation.any fun creation => creation.busCounted

def CreateGlovePc.counted : CreateGlovePc → Bool
  | .enter | .await _ => false
  | .endAdapter counted _ => counted
  | _ => true

def Frame.creates (parent : Pointer) : Frame → Nat
  | .createBus key pc => if pc.counted && key.adapter = parent then 1 else 0
  | .createDevice bus _ pc =>
    (if pc.busCounted && bus = parent then 1 else 0) +
      if pc.creation.any fun creation => creation.adapterCounted && creation.busKey.adapter = parent then 1 else 0
  | .createGlove key pc => if pc.counted && key.adapter = parent then 1 else 0
  | _ => 0

def Effect.begins (parent : Pointer) : Effect → Nat
  | .leadBus _ key counted => if counted && key.adapter = parent then 1 else 0
  | .leadDevice _ _ counted => counted.count parent
  | .leadGlove _ key _ => if key.adapter = parent then 1 else 0
  | _ => 0

def Effect.concludes (parent : Pointer) : Effect → Nat
  | .endChildCreation ended => if ended = parent then 1 else 0
  | _ => 0

def Counted (state : DriverState) : Prop :=
  ∀ parent, state.shared.childCreations.count parent = state.tally fun call => call.frame.creates parent

theorem count_begin (creations : ChildCreations) (begun parent : Pointer) :
    (creations.beginChildCreationLocked begun).count parent = creations.count parent + if begun = parent then 1 else 0 := by
  simp only [ChildCreations.beginChildCreationLocked, ChildCreations.count, Table.find_put]
  by_cases same : parent = begun
  · simp [same]
  · simp [same, Ne.symm same]

theorem count_begin_all (creations : ChildCreations) (begun : List Pointer) (parent : Pointer) :
    (creations.beginAll begun).count parent = creations.count parent + begun.count parent := by
  induction begun generalizing creations with
  | nil => rfl
  | cons first rest ih =>
    have unfolded : creations.beginAll (first :: rest) = (creations.beginChildCreationLocked first).beginAll rest := rfl
    rw [unfolded, ih, count_begin, List.count_cons]
    by_cases same : first = parent
    · simp only [same, ↓reduceIte, beq_self_eq_true]
      omega
    · simp [same]

theorem count_end (creations : ChildCreations) (ended parent : Pointer) :
    (creations.endChildCreation ended).count parent = creations.count parent - if ended = parent then 1 else 0 := by
  cases found : creations.find ended with
  | none =>
    by_cases same : ended = parent
    · subst same
      simp [ChildCreations.endChildCreation, found, ChildCreations.count]
    · simp [ChildCreations.endChildCreation, found, same]
  | some amount =>
    by_cases same : ended = parent
    · subst same
      by_cases last : amount - 1 = 0
      · simp [ChildCreations.endChildCreation, found, ChildCreations.count, last]
      · simp [ChildCreations.endChildCreation, found, ChildCreations.count, last]
    · by_cases last : amount - 1 = 0
      · simp [ChildCreations.endChildCreation, found, ChildCreations.count, last, same, Ne.symm same]
      · simp [ChildCreations.endChildCreation, found, ChildCreations.count, last, same, Ne.symm same]

theorem apply_count (tables : Tables) (effect : Effect) (parent : Pointer) :
    (effect.apply tables).childCreations.count parent =
      tables.childCreations.count parent + effect.begins parent - effect.concludes parent := by
  cases effect with
  | leadBus call key counted =>
    simp only [Effect.apply, count_begin_all, Effect.begins, Effect.concludes, Nat.sub_zero]
    cases counted <;> simp [List.count_cons]
  | leadDevice call key counted => exact count_begin_all _ _ _
  | leadGlove call key busKeys =>
    simp only [Effect.apply, count_begin_all, Effect.begins, Effect.concludes, Nat.sub_zero]
    simp [List.count_cons]
  | endChildCreation ended => exact count_end _ _ _
  | _ => rfl

theorem create_bus_flow (tables : Tables) (self : CallId) (choice : Choice) (key : BusKey) (pc : CreateBusPc)
    (result : SectionResult) (parent : Pointer) (ran : runCreateBus tables self choice key pc = some result) :
    result.frame.creates parent + result.effect.concludes parent =
      (Frame.createBus key pc).creates parent + result.effect.begins parent := by
  unfold runCreateBus draining at ran
  repeat' split at ran
  all_goals cases ran
  all_goals simp_all [Frame.creates, Effect.begins, Effect.concludes, CreateBusPc.counted]

theorem create_device_flow (tables : Tables) (self : CallId) (choice : Choice) (bus : Pointer) (recipe : DeviceRecipe)
    (pc : CreateDevicePc) (result : SectionResult) (parent : Pointer)
    (ran : runCreateDevice tables self choice bus recipe pc = some result) :
    result.frame.creates parent + result.effect.concludes parent =
      (Frame.createDevice bus recipe pc).creates parent + result.effect.begins parent := by
  unfold runCreateDevice draining at ran
  repeat' split at ran
  all_goals cases ran
  all_goals simp_all [Frame.creates, Effect.begins, Effect.concludes, CreateDevicePc.busCounted, CreateDevicePc.creation,
    List.count_cons, Nat.add_comm]

variable (tables : Tables) (replyOf : CallId → Option Reply) (self fresh : CallId) (choice : Choice)

theorem create_glove_flow (key : GloveKey) (pc : CreateGlovePc) (result : SectionResult) (parent : Pointer)
    (ran : runCreateGlove tables replyOf self fresh choice key pc = some result) :
    result.frame.creates parent + result.effect.concludes parent =
      (Frame.createGlove key pc).creates parent + result.effect.begins parent := by
  unfold runCreateGlove draining at ran
  repeat' split at ran
  all_goals cases ran
  all_goals simp_all [Frame.creates, Effect.begins, Effect.concludes, CreateGlovePc.counted]

def Frame.isCreate : Frame → Bool
  | .createBus _ _ | .createDevice _ _ _ | .createGlove _ _ => true
  | _ => false

theorem not_create_creates (frame : Frame) (other : frame.isCreate = false) (parent : Pointer) : frame.creates parent = 0 := by
  cases frame <;> first | rfl | cases other

theorem create_stays (frame next : Frame) (continues : frame.Continues next) (other : frame.isCreate = false) :
    next.isCreate = false := by
  cases frame <;> first
    | (cases other; done)
    | cases next <;> first | rfl | exact continues.elim

theorem run_creates (state : DriverState) (id : CallId) (choice : Choice) (call : Call) (result : SectionResult)
    (runs : Runs state id choice call result) (parent : Pointer) :
    result.frame.creates parent + result.effect.concludes parent = call.frame.creates parent + result.effect.begins parent := by
  have from' := runs_from state id choice call result runs
  obtain ⟨-, ran⟩ := runs
  cases creates : call.frame.isCreate with
  | true =>
    obtain ⟨context, frame⟩ := call
    cases frame with
    | createBus key pc => exact create_bus_flow _ _ choice key pc result parent ran
    | createDevice bus recipe pc => exact create_device_flow _ _ choice bus recipe pc result parent ran
    | createGlove key pc => exact create_glove_flow _ _ _ _ choice key pc result parent ran
    | _ => cases creates
  | false =>
    have after := create_stays _ _ (frame_continues _ _ _ _ _ _ _ _ ran) creates
    rw [not_create_creates _ creates, not_create_creates _ after]
    cases effect : result.effect with
    | leadBus made key counted | leadGlove made key busKeys =>
      rw [effect] at from'
      rw [from'.2.1] at creates
      cases creates
    | leadDevice made key counted =>
      rw [effect] at from'
      obtain ⟨-, bus, recipe, busKey, -, frame, -⟩ := from'
      rw [frame] at creates
      cases creates
    | endChildCreation ended =>
      rw [effect] at from'
      rcases from' with ⟨key, reply, -, frame, -⟩ | ⟨bus, recipe, creation, reply, -, -, frame, -⟩ |
        ⟨bus, recipe, creation, reply, -, -, frame, -⟩ | ⟨key, reply, -, frame, -⟩
      all_goals
        rw [frame] at creates
        cases creates
    | _ => rfl

theorem request_creates (request : Request) (parent : Pointer) : request.frame.creates parent = 0 := by
  cases request <;> rfl

theorem entered_creates (tables : Tables) (fresh : CallId) (frame : Frame) (result : CallbackContext × Frame) (parent : Pointer)
    (entered : enterCallback tables fresh frame = some result) : frame.creates parent = 0 ∧ result.2.creates parent = 0 := by
  unfold enterCallback at entered
  split at entered
  all_goals cases entered
  all_goals exact ⟨rfl, rfl⟩

theorem step_counted (state next : DriverState) (action : Action) (numbered : World.Numbered state) (counted : Counted state)
    (steps : Steps state action next) : Counted next := by
  intro parent
  have before := counted parent
  cases steps with
  | begins action request notRun =>
    rw [World.tally_start _ _ _ numbered, begin_call_frame, request_creates]
    exact before
  | enters id call request context frame present entered =>
    have tallied := World.tally_advance (fun call : Call => call.frame.creates parent) state id call
      ⟨state.shared, { call with frame := frame }, some (beginCall context request)⟩ numbered present
      (by rintro _ ⟨⟩; exact request_creates request parent)
    obtain ⟨earlier, later⟩ := entered_creates _ _ _ _ parent entered
    simp only at later tallied
    rw [World.advance_shared]
    simp only [before]
    omega
  | runs id call choice result present ran =>
    have run : Runs state id choice call result := ⟨present, ran⟩
    have tallied := World.tally_advance (fun call : Call => call.frame.creates parent) state id call
      ⟨result.effect.apply state.shared, { call with frame := result.frame }, result.nested.map (beginCall call.context)⟩ numbered present
      (by
        intro child started
        obtain ⟨request, -, rfl⟩ := Option.map_eq_some_iff.mp started
        exact request_creates request parent)
    have written := apply_count state.shared result.effect parent
    have flow := run_creates state id choice call result run parent
    have most := World.amount_le_tally (fun call : Call => call.frame.creates parent) state id call present
    simp only at tallied most
    rw [World.advance_shared]
    simp only [written]
    omega

def DestroyBusPc.emptied : DestroyBusPc → Bool
  | .accept | .drainGate _ | .waitCreations _ => false
  | _ => true

def DestroyAdapterPc.emptied : DestroyAdapterPc → Bool
  | .accept | .waitCreations _ => false
  | _ => true

def Frame.Emptied (tables : Tables) (_ : CallId) : Frame → Prop
  | .destroyBus bus _ pc => pc.emptied → tables.childCreations.find bus = none
  | .destroyAdapter adapter pc => pc.emptied → tables.childCreations.find adapter = none
  | _ => True

theorem begin_all_absent (creations : ChildCreations) (begun : List Pointer) (parent : Pointer) (outside : parent ∉ begun)
    (absent : creations.find parent = none) : (creations.beginAll begun).find parent = none := by
  induction begun generalizing creations with
  | nil => exact absent
  | cons first rest ih =>
    rw [List.mem_cons, not_or] at outside
    have unfolded : creations.beginAll (first :: rest) = (creations.beginChildCreationLocked first).beginAll rest := rfl
    rw [unfolded]
    refine ih _ outside.2 ?_
    simp [ChildCreations.beginChildCreationLocked, outside.1, absent]

theorem end_absent (creations : ChildCreations) (ended parent : Pointer) (absent : creations.find parent = none) :
    (creations.endChildCreation ended).find parent = none := by
  unfold ChildCreations.endChildCreation
  split
  · exact absent
  · next amount found =>
    have different : parent ≠ ended := by
      rintro rfl
      rw [absent] at found
      cases found
    split <;> simp [different, absent]

theorem open_not_deleting (tables : Tables) (adapter : Pointer) (open' : tables.adapterOpen adapter = true) :
    tables.adapterNames.find adapter ≠ none ∧ tables.deleting.find adapter = none := by
  simp only [Tables.adapterOpen, Bool.and_eq_true, Table.contains_true, decide_eq_true_eq, not_not] at open'
  exact open'

theorem not_retiring (tables : Tables) (bus adapter : Pointer) (kept : parentRetiring tables bus adapter = false) :
    tables.deleting.find bus = none ∧ tables.resettingBuses.find bus = none ∧ tables.deleting.find adapter = none := by
  simpa [parentRetiring, and_assoc] using kept

theorem apply_no_creation (tables : Tables) (self : CallId) (context : CallbackContext) (frame next : Frame) (effect : Effect)
    (from' : effect.From tables self context frame next) (parent : Pointer) (marked : tables.deleting.find parent ≠ none)
    (absent : tables.childCreations.find parent = none) : (effect.apply tables).childCreations.find parent = none := by
  cases effect with
  | leadBus call key counted =>
    have kept := (open_not_deleting tables key.adapter from'.2.2.1).2
    refine begin_all_absent _ _ _ ?_ absent
    cases counted with
    | false => exact List.not_mem_nil
    | true =>
      rw [if_pos rfl, List.mem_singleton]
      rintro rfl
      exact marked kept
  | leadDevice call key counted =>
    obtain ⟨-, bus, recipe, busKey, -, -, -, kept, -, cases⟩ := from'
    obtain ⟨busKept, -, adapterKept⟩ := not_retiring tables bus busKey.adapter kept
    have notBus : parent ≠ bus := fun same => marked (same ▸ busKept)
    have notAdapter : parent ≠ busKey.adapter := fun same => marked (same ▸ adapterKept)
    refine begin_all_absent _ _ _ ?_ absent
    rcases cases with ⟨rfl, -⟩ | ⟨rfl, -⟩ | ⟨rfl, -⟩
    all_goals simp [notBus, notAdapter]
  | leadGlove call key busKeys =>
    have kept := (open_not_deleting tables key.adapter from'.2.2.2.2.1).2
    refine begin_all_absent _ _ _ ?_ absent
    rw [List.mem_singleton]
    rintro rfl
    exact marked kept
  | endChildCreation ended => exact end_absent _ ended parent absent
  | _ => exact absent

theorem destroy_bus_emptied
    (context : CallbackContext) (bus : Pointer) (allowed : Bool) (pc : DestroyBusPc) (result : SectionResult)
    (ran : runDestroyBus tables replyOf self fresh choice context bus allowed pc = some result)
    (known : (Frame.destroyBus bus allowed pc).Emptied tables self) : result.frame.Emptied (result.effect.apply tables) self := by
  unfold runDestroyBus draining at ran
  repeat' split at ran
  all_goals cases ran
  all_goals simp_all [Frame.Emptied, DestroyBusPc.emptied, Effect.apply]

theorem destroy_adapter_emptied (context : CallbackContext) (adapter : Pointer) (pc : DestroyAdapterPc) (result : SectionResult)
    (ran : runDestroyAdapter tables replyOf self fresh choice context adapter pc = some result)
    (known : (Frame.destroyAdapter adapter pc).Emptied tables self) : result.frame.Emptied (result.effect.apply tables) self := by
  unfold runDestroyAdapter draining at ran
  repeat' split at ran
  all_goals cases ran
  all_goals simp_all [Frame.Emptied, DestroyAdapterPc.emptied, Effect.apply]

theorem marked_deleting (state : DriverState) (grounded : Grounded state) (id : CallId) (call : Call)
    (present : state.calls.find id = some call) (object : Pointer) (holds : call.frame.token = some (.deleting object)) :
    state.shared.deleting.find object = some id :=
  (grounded.owned (.deleting object) id).mpr ⟨call, present, holds⟩

theorem emptied_kept : KeptLocally (fun state _ _ => Grounded state) Frame.Emptied where
  fresh := by
    intro tables id request
    cases request <;> first | trivial | nofun
  entered := entered_receives _ fun _ _ _ _ _ => trivial
  own := by
    intro state id choice call result _ emptied runs
    have before := emptied id call runs.present
    have ran := runs.ran
    have continues := frame_continues _ _ _ _ _ _ _ _ ran
    cases frame : call.frame with
    | destroyBus bus allowed pc =>
      rw [frame] at ran before
      exact destroy_bus_emptied _ _ _ _ choice call.context bus allowed pc result ran before
    | destroyAdapter adapter pc =>
      rw [frame] at ran before
      exact destroy_adapter_emptied _ _ _ _ choice call.context adapter pc result ran before
    | _ =>
      rw [frame] at continues
      cases next : result.frame with
      | destroyBus bus allowed pc | destroyAdapter adapter pc =>
        rw [next] at continues
        exact continues.elim
      | _ => trivial
  others := by
    intro state id choice call result other otherCall grounded _ runs _ found holds
    have from' := runs_from state id choice call result runs
    have marked (object : Pointer) (holds : otherCall.frame.token = some (.deleting object)) :
        state.shared.deleting.find object ≠ none := by
      simp [marked_deleting state grounded other otherCall found object holds]
    cases frame : otherCall.frame with
    | destroyBus bus allowed pc =>
      rw [frame] at holds marked
      intro emptied
      refine apply_no_creation _ _ _ _ _ _ from' bus (marked bus ?_) (holds emptied)
      cases pc <;> first | rfl | cases emptied
    | destroyAdapter adapter pc =>
      rw [frame] at holds marked
      intro emptied
      refine apply_no_creation _ _ _ _ _ _ from' adapter (marked adapter ?_) (holds emptied)
      cases pc <;> first | rfl | cases emptied
    | _ => trivial

theorem counted_not_emptied (state : DriverState) (counted : Counted state) (id : CallId) (call : Call)
    (present : state.calls.find id = some call) (parent : Pointer) (creates : 0 < call.frame.creates parent) :
    state.shared.childCreations.find parent ≠ none := by
  intro absent
  have most := World.amount_le_tally (fun call : Call => call.frame.creates parent) state id call present
  have amount := counted parent
  simp only [ChildCreations.count, absent, Option.getD_none] at amount
  omega

def Frame.Sheltered (tables : Tables) (_ : CallId) : Frame → Prop
  | .createDevice bus _ pc =>
    (∀ creation, pc.creation = some creation → pc.busCounted → tables.busKeys.find bus = some creation.busKey) ∧
      match pc with
      | .construct creation | .publish creation | .commit creation => creation.busCounted = true ∧ creation.adapterCounted = true
      | _ => True
  | _ => True

theorem create_device_sheltered (tables : Tables) (self : CallId) (choice : Choice) (bus : Pointer) (recipe : DeviceRecipe)
    (pc : CreateDevicePc) (result : SectionResult) (ran : runCreateDevice tables self choice bus recipe pc = some result)
    (known : (Frame.createDevice bus recipe pc).Sheltered tables self) :
    result.frame.Sheltered (result.effect.apply tables) self := by
  unfold runCreateDevice draining at ran
  repeat' split at ran
  all_goals cases ran
  all_goals first
    | trivial
    | simp_all [Frame.Sheltered, CreateDevicePc.creation, CreateDevicePc.busCounted, Effect.apply, Tables.recipeCommit]

structure Guarded (state : DriverState) : Prop where
  grounded : Grounded state
  counted : Counted state
  emptied : Every Frame.Emptied state

theorem sheltered_kept : KeptLocally (fun state _ _ => Guarded state) Frame.Sheltered where
  fresh := by
    intro tables id request
    cases request <;> first | trivial | exact ⟨nofun, trivial⟩
  entered := entered_receives _ fun _ _ _ _ _ => trivial
  own := by
    intro state id choice call result _ sheltered runs
    have before := sheltered id call runs.present
    have ran := runs.ran
    have continues := frame_continues _ _ _ _ _ _ _ _ ran
    cases frame : call.frame with
    | createDevice bus recipe pc =>
      rw [frame] at ran before
      exact create_device_sheltered _ _ choice bus recipe pc result ran before
    | _ =>
      rw [frame] at continues
      cases next : result.frame with
      | createDevice bus recipe pc =>
        rw [next] at continues
        exact continues.elim
      | _ => trivial
  others := by
    intro state id choice call result other otherCall known _ runs _ found holds
    cases frame : otherCall.frame with
    | createDevice bus recipe pc =>
      rw [frame] at holds
      refine ⟨fun creation named inside => ?_, holds.2⟩
      have there := holds.1 creation named inside
      have creates : 0 < otherCall.frame.creates bus := by
        simp only [frame, Frame.creates, inside, Bool.true_and, decide_true, ↓reduceIte]
        omega
      have counted := counted_not_emptied state known.counted other otherCall found bus creates
      have from' := runs_from state id choice call result runs
      cases effect : result.effect with
      | publishBus made key =>
        simp only [Effect.apply]
        rw [Table.find_emplace]
        by_cases same : bus = made
        · simp [← same, there]
        · rw [if_neg same]
          exact there
      | rollbackBus made key constructed =>
        rw [effect] at from'
        obtain ⟨rfl, counted, frame, -⟩ := from'
        have different : bus ≠ made := by
          rintro rfl
          refine backed_absent .bus state (known.grounded.backed .bus) bus call runs.present (by rw [frame]; exact id) ?_
          simp [Tables.has, there]
        cases constructed <;> simp [Effect.apply, Tables.removePointer, different, there]
      | eraseBus gone key =>
        rw [effect] at from'
        obtain ⟨allowed, frame, -⟩ := from'
        have emptied := known.emptied id call runs.present
        rw [frame] at emptied
        have different : bus ≠ gone := by
          rintro rfl
          exact counted (emptied rfl)
        simp [Effect.apply, different, there]
      | _ => exact there
    | _ => trivial

theorem reachable_guarded (allowed : DriverState → Action → Prop) (state : DriverState)
    (reached : ReachableWith system allowed state) : Guarded state ∧ Every Frame.Sheltered state := by
  refine reachable_invariant system allowed (fun state => Guarded state ∧ Every Frame.Sheltered state) ?_ ?_ state reached
  · rintro _ rfl
    refine ⟨⟨reachable_grounded Always initial (.start initial rfl), fun parent => rfl, ?_⟩, ?_⟩
    · exact fun id call present => by simp [initial] at present
    · exact fun id call present => by simp [initial] at present
  · rintro state action next ⟨⟨grounded, counted, emptied⟩, sheltered⟩ _ taken
    have steps := step_cases state next action taken
    refine ⟨⟨step_grounded state next action grounded steps, step_counted state next action grounded.numbered counted steps,
      every_kept _ Frame.Emptied emptied_kept state next action emptied (fun _ _ _ => grounded) steps⟩, ?_⟩
    exact every_kept _ Frame.Sheltered sheltered_kept state next action sheltered (fun _ _ _ => ⟨grounded, counted, emptied⟩) steps

end EncosDriver.Driver
