import EncosDriver.Driver.Keyed
import EncosDriver.Driver.DispatchSafety

set_option autoImplicit false

namespace EncosDriver.Driver

open Lib

def keysFree (state : DriverState) : Action → Bool
  | .run id choice =>
    match (state.calls.find id).map Call.frame with
    | some (.createDevice bus recipe (.commit creation)) =>
      choice = .fail || parentRetiring state.shared bus creation.busKey.adapter || !state.shared.devices.contains (recipe.key bus)
    | some (.createDevice bus recipe (.rollbackErase _)) => !state.shared.devices.contains (recipe.key bus)
    | _ => true
  | _ => true

abbrev KeysFree (state : DriverState) (action : Action) : Prop := keysFree state action = true

def Effect.ends : Effect → Option DeviceKey
  | .commitDevice _ bus recipe => some (recipe.key bus)
  | .commitThrows _ key | .eraseCreation key _ => some key
  | _ => none

variable (state : DriverState) (id : CallId) (choice : Choice) (call : Call) (result : SectionResult)

theorem run_vacant (runs : Runs state id choice call result) (free : KeysFree state (.run id choice)) (key : DeviceKey)
    (ends : result.effect.ends = some key) : state.shared.devices.find key = none := by
  have from' := runs_from state id choice call result runs
  obtain ⟨present, ran⟩ := runs
  simp only [KeysFree, keysFree, present, Option.map_some] at free
  have committing (bus : Pointer) (recipe : DeviceRecipe) (creation : DeviceCreation)
      (frame : call.frame = .createDevice bus recipe (.commit creation)) (writes : result.effect ≠ .nothing) :
      state.shared.devices.find (recipe.key bus) = none := by
    rw [frame] at ran free
    simp only [runFrame, runCreateDevice] at ran
    split at ran
    · cases ran
      exact absurd rfl writes
    · next proceeds =>
      rw [not_or] at proceeds
      simpa [proceeds.1, proceeds.2] using free
  cases effect : result.effect with
  | commitDevice made bus recipe =>
    rw [effect] at from' ends committing
    obtain ⟨rfl, creation, frame, -⟩ := from'
    cases ends
    exact committing bus recipe creation frame (fun other => by cases other)
  | commitThrows made key' =>
    rw [effect] at from' ends committing
    obtain ⟨rfl, bus, recipe, creation, rfl, frame, -⟩ := from'
    cases ends
    exact committing bus recipe creation frame (fun other => by cases other)
  | eraseCreation key' made =>
    rw [effect] at from' ends
    obtain ⟨bus, recipe, creation, rfl, -, frame, -⟩ := from'
    cases ends
    rw [frame] at free
    simpa using free
  | _ =>
    rw [effect] at ends
    cases ends

def Tables.Inverse (tables : Tables) : Prop := Table.Inverse tables.devices tables.deviceKeys

theorem run_inverse (ground : Groundwork state) (inverse : state.shared.Inverse) (runs : Runs state id choice call result)
    (free : KeysFree state (.run id choice)) : (result.effect.apply state.shared).Inverse := by
  have from' := runs_from state id choice call result runs
  have vacant := run_vacant state id choice call result runs free
  have settled := ground.consistent.settled id call runs.present
  cases effect : result.effect with
  | commitDevice made bus recipe =>
    rw [effect] at from' vacant
    obtain ⟨rfl, creation, frame, -⟩ := from'
    have unkeyed := uncommitted_unkeyed state ground made call runs.present (by rw [frame]; exact id)
    exact Table.Inverse.emplace inverse (vacant _ rfl) unkeyed
  | commitThrows made key =>
    rw [effect] at from' vacant
    obtain ⟨rfl, bus, recipe, creation, -, frame, -⟩ := from'
    have unkeyed := uncommitted_unkeyed state ground made call runs.present (by rw [frame]; exact id)
    exact Table.Inverse.remove inverse (.inr ⟨vacant _ rfl, unkeyed⟩)
  | eraseCreation key made =>
    rw [effect] at from' vacant
    obtain ⟨bus, recipe, creation, -, rfl, frame, -⟩ := from'
    have unkeyed := uncommitted_unkeyed state ground id call runs.present (by rw [frame]; exact not_false)
    have gone := vacant _ rfl
    simp only [Effect.apply]
    cases named : creation.device with
    | none =>
      intro other device
      rw [Table.find_remove, Table.absent_if _ _ _ gone]
      exact inverse other device
    | some made =>
      rw [settled_device state id call ground.consistent.settled runs.present bus recipe creation frame made named]
      exact Table.Inverse.remove inverse (.inr ⟨gone, unkeyed⟩)
  | eraseDevice target key =>
    rw [effect] at from'
    obtain ⟨expected, frame, -⟩ := from'
    rw [frame] at settled
    exact Table.Inverse.remove inverse (.inl ((inverse key target).mpr settled))
  | migrate migration =>
    rw [effect] at from'
    obtain ⟨busKey, registration, entry, ready⟩ := migration_ready _ _ _ _ from'.2.2.1
    exact Table.Inverse.rekey inverse ready.registered ready.keyFree ready.moves.symm
  | _ => exact inverse

def Frame.Childless (tables : Tables) (_ : CallId) : Frame → Prop
  | .destroyBus bus _ pc =>
    match pc with
    | .erase _ | .finish => ∀ key device, tables.devices.find key = some device → key.bus ≠ bus
    | _ => True
  | _ => True

theorem destroy_bus_childless (tables : Tables) (replyOf : CallId → Option Reply) (self fresh : CallId) (choice : Choice)
    (context : CallbackContext) (bus : Pointer) (allowed : Bool) (pc : DestroyBusPc) (result : SectionResult)
    (ran : runDestroyBus tables replyOf self fresh choice context bus allowed pc = some result)
    (known : (Frame.destroyBus bus allowed pc).Childless tables self) : result.frame.Childless (result.effect.apply tables) self := by
  cases pc with
  | waitChildren key =>
    simp only [runDestroyBus] at ran
    split at ran
    · next gone =>
      cases ran
      intro other device found
      simp only [Tables.busChildrenGone, Bool.and_eq_true, List.all_eq_true] at gone
      simpa using gone.1 _ ((Table.mem_to_list tables.devices other device).mpr found)
    · cases ran
  | erase key =>
    cases ran
    exact known
  | _ =>
    simp only [runDestroyBus, draining] at ran
    repeat' split at ran
    all_goals cases ran
    all_goals trivial

theorem childless_kept : KeptLocally (fun state _ _ => Grounded state) Frame.Childless where
  fresh := by
    intro tables id request
    cases request <;> trivial
  entered := entered_receives _ fun _ _ _ _ _ => trivial
  own := by
    intro state id choice call result _ childless runs
    have before := childless id call runs.present
    have ran := runs.ran
    have continues := frame_continues _ _ _ _ _ _ _ _ ran
    cases frame : call.frame with
    | destroyBus bus allowed pc =>
      rw [frame] at ran before
      exact destroy_bus_childless _ _ _ _ choice call.context bus allowed pc result ran before
    | _ =>
      rw [frame] at continues
      cases next : result.frame with
      | destroyBus bus allowed pc =>
        rw [next] at continues
        exact continues.elim
      | _ => trivial
  others := by
    intro state id choice call result other otherCall grounded _ runs _ found holds
    have from' := runs_from state id choice call result runs
    have kept (bus : Pointer) (token : otherCall.frame.token = some (.deleting bus))
        (none : ∀ key device, state.shared.devices.find key = some device → key.bus ≠ bus) (key : DeviceKey) (device : Pointer)
        (there : (result.effect.apply state.shared).devices.find key = some device) : key.bus ≠ bus := by
      have marked := marked_deleting state grounded other otherCall found bus token
      rcases apply_listed _ _ _ _ _ _ from' key device there with ⟨old, held, same, -⟩ | ⟨parent, recipe, effect, atKey⟩
      · exact same ▸ none old device held
      · rw [effect] at from'
        obtain ⟨-, creation, -, -, kept⟩ := from'
        have unmarked := (not_retiring state.shared parent _ kept).1
        have parented : key.bus = parent := by rw [atKey]; rfl
        rw [parented]
        rintro rfl
        rw [marked] at unmarked
        cases unmarked
    cases frame : otherCall.frame with
    | destroyBus bus allowed pc =>
      rw [frame] at holds kept
      cases pc with
      | erase key => exact kept bus rfl holds
      | finish => exact kept bus rfl holds
      | _ => trivial
    | _ => trivial

def Tables.Parented (tables : Tables) : Prop :=
  ∀ device key, tables.deviceKeys.find device = some key → tables.busKeys.find key.bus ≠ none

theorem run_parented (ground : Groundwork state) (inverse : state.shared.Inverse) (childless : Every Frame.Childless state)
    (parented : state.shared.Parented) (runs : Runs state id choice call result) : (result.effect.apply state.shared).Parented := by
  intro device key keyed
  have from' := runs_from state id choice call result runs
  cases effect : result.effect with
  | commitDevice made bus recipe =>
    rw [effect] at from' keyed
    obtain ⟨rfl, creation, frame, -⟩ := from'
    have unkeyed := uncommitted_unkeyed state ground made call runs.present (by rw [frame]; exact id)
    simp only [Effect.apply, Table.find_emplace_absent _ _ _ _ unkeyed] at keyed
    by_cases own : device = made
    · rw [if_pos own, Option.some.injEq] at keyed
      have sheltered := ground.sheltered made call runs.present
      rw [frame] at sheltered
      have there := sheltered.1 creation rfl sheltered.2.1
      rw [← keyed]
      exact Option.ne_none_iff_exists'.mpr ⟨_, there⟩
    · rw [if_neg own] at keyed
      exact parented device key keyed
  | migrate migration =>
    rw [effect] at from' keyed
    obtain ⟨busKey, registration, entry, ready⟩ := migration_ready _ _ _ _ from'.2.2.1
    by_cases own : device = migration.motor
    · simp only [Effect.apply, Tables.migrate, Table.find_modify, if_pos own, ready.registered, Option.map_some,
        Option.some.injEq] at keyed
      rw [← keyed, ready.target]
      exact Option.ne_none_iff_exists'.mpr ⟨_, ready.busFound⟩
    · exact parented device key (by simpa [Effect.apply, Tables.migrate, own] using keyed)
  | publishBus made key' =>
    rw [effect] at keyed
    have before := parented device key keyed
    simp only [Effect.apply, Table.find_emplace]
    split
    · intro other
      cases other
    · exact before
  | rollbackBus made key' constructed =>
    rw [effect] at from' keyed
    obtain ⟨rfl, counted, frame, -⟩ := from'
    have before := parented device key keyed
    have different : key.bus ≠ made := by
      intro same
      rw [same] at before
      exact backed_absent .bus state (ground.backed .bus) made call runs.present (by rw [frame]; exact id) before
    cases constructed with
    | true => simpa [Effect.apply, Tables.removePointer, different] using before
    | false => exact before
  | eraseBus bus key' =>
    rw [effect] at from' keyed
    obtain ⟨allowed, frame, -⟩ := from'
    have gone := childless id call runs.present
    rw [frame] at gone
    have different : key.bus ≠ bus := gone key device ((inverse key device).mpr keyed)
    simpa [Effect.apply, different] using parented device key keyed
  | commitThrows made key' | eraseDevice target key' =>
    rw [effect] at keyed
    exact parented device key (remove_some _ _ device key keyed)
  | eraseCreation key' made =>
    rw [effect] at keyed
    exact parented device key (remove_pointer_some _ _ device key keyed)
  | _ =>
    rw [effect] at keyed
    exact parented device key keyed

structure Bijective (state : DriverState) : Prop where
  ground : Groundwork state
  constructs : Every Frame.Constructs state
  childless : Every Frame.Childless state
  attached : state.shared.Attached
  numbered : state.shared.Numbered
  inverse : state.shared.Inverse
  parented : state.shared.Parented

theorem initial_bijective : Bijective initial where
  ground := reachable_groundwork Always initial (.start initial rfl)
  constructs := fun id call present => by simp [initial] at present
  childless := fun id call present => by simp [initial] at present
  attached := fun device key keyed => by simp [initial] at keyed
  numbered := fun device key keyed => by simp [initial] at keyed
  inverse := fun key device => by simp [initial]
  parented := fun device key keyed => by simp [initial] at keyed

theorem reachable_numbered_motors (allowed : DriverState → Action → Prop) (state : DriverState)
    (reached : ReachableWith system allowed state) : Every Frame.Constructs state ∧ state.shared.Numbered := by
  refine reachable_invariant_under system allowed Groundwork (fun state => Every Frame.Constructs state ∧ state.shared.Numbered)
    (reachable_groundwork allowed) ?_ ?_ state reached
  · rintro _ rfl
    exact ⟨initial_bijective.constructs, initial_bijective.numbered⟩
  · rintro state action next ground - ⟨constructs, numbered⟩ - taken
    have steps := step_cases state next action taken
    refine ⟨every_kept _ Frame.Constructs constructs_kept state next action constructs (fun _ _ _ => ground) steps, ?_⟩
    refine tables_kept (fun now _ _ => now = state) Tables.Numbered ?_ state next action numbered (fun _ _ _ => rfl) steps
    rintro now id choice call result rfl numbered runs
    exact run_numbered now id choice call result ground constructs numbered runs

theorem reachable_bijective (state : DriverState) (reached : ReachableWith system KeysFree state) : Bijective state := by
  refine reachable_invariant_under system KeysFree (fun state => Agreement state ∧ Every Frame.Constructs state ∧ state.shared.Numbered)
    Bijective (fun state reached => ⟨reachable_agreement _ state reached, reachable_numbered_motors _ state reached⟩) ?_ ?_ state reached
  · rintro _ rfl
    exact initial_bijective
  · rintro state action next ⟨⟨ground, -, -, -⟩, -⟩ ⟨⟨groundNext, attached, -, -⟩, constructs, numbered⟩ bijective free taken
    have steps := step_cases state next action taken
    have shared (Inv : Tables → Prop) (before : Inv state.shared)
        (kept : ∀ id choice call result, action = .run id choice → Runs state id choice call result →
          Inv (result.effect.apply state.shared)) : Inv next.shared := by
      refine tables_kept (fun now id choice => now = state ∧ action = .run id choice) Inv ?_ state next action before
        (fun id choice same => ⟨rfl, same⟩) steps
      rintro now id choice call result ⟨rfl, same⟩ - runs
      exact kept id choice call result same runs
    refine
      { ground := groundNext
        constructs := constructs
        childless := every_kept _ Frame.Childless childless_kept state next action bijective.childless
          (fun _ _ _ => ground.placed.grounded) steps
        attached := attached
        numbered := numbered
        inverse := shared _ bijective.inverse fun id choice call result same runs =>
          run_inverse state id choice call result ground bijective.inverse runs (same ▸ free)
        parented := shared _ bijective.parented fun id choice call result _ runs =>
          run_parented state id choice call result ground bijective.inverse bijective.childless bijective.parented runs }

structure Marked (state : DriverState) : Prop where
  owned : ∀ token id, state.shared.owner token = some id ↔ ∃ call, state.calls.find id = some call ∧ call.frame.token = some token
  alone : ∀ token first second call other, state.calls.find first = some call → state.calls.find second = some other →
    call.frame.token = some token → other.frame.token = some token → first = second

structure Sheltered (state : DriverState) : Prop where
  counted : ∀ parent, state.shared.childCreations.count parent = state.tally fun call => call.frame.creates parent
  parent : ∀ id call bus recipe pc creation, state.calls.find id = some call → call.frame = .createDevice bus recipe pc →
    pc.creation = some creation → pc.busCounted = true → state.shared.busKeys.find bus = some creation.busKey
  bus : ∀ id call bus expected pc, state.calls.find id = some call → call.frame = .destroyBus bus expected pc → pc.emptied = true →
    ∀ other creating, state.calls.find other = some creating → creating.frame.creates bus = 0
  adapter : ∀ id call adapter pc, state.calls.find id = some call → call.frame = .destroyAdapter adapter pc → pc.emptied = true →
    ∀ other creating, state.calls.find other = some creating → creating.frame.creates adapter = 0

structure RoutesOwned (tables : Tables) : Prop where
  routed : tables.Routed
  injective : ∀ first second record, tables.routes.find first = some record → tables.routes.find second = some record → first = second
  live : ∀ key record, tables.routes.find key = some record → ∃ registration route, tables.registrations.find record.device = some registration ∧
    tables.records.find record = some route ∧ route.retiring = false ∧ route.device = record.device ∧ route.bus = registration.bus

structure MotorsAddressed (tables : Tables) : Prop where
  numbered : ∀ motor key, tables.deviceKeys.find motor = some key → key.kind = .motor → MotorHas tables motor key.idx.toUInt32.toUInt16
  receives : ∀ motor key, tables.deviceKeys.find motor = some key → key.kind = .motor → tables.deleting.find motor = none →
    tables.ReceivesAt key.bus motor key.idx ∧
      ∀ other, tables.deviceKeys.find other = some key → tables.deleting.find other = none → other = motor

theorem draining_reached : ∃ state, ReachableWith system KeysFree state ∧ Reachable system state ∧ state.shared.owner (.deleting 2) = some 4 ∧
    state.shared.devices.find (motorKey 1 2) = some 3 := by
  have checked : (runChecked system keysFree initial drainingRun).any (fun state =>
      decide (state.shared.owner (.deleting 2) = some 4 ∧ state.shared.devices.find (motorKey 1 2) = some 3)) = true := by
    decide +kernel
  obtain ⟨state, reached, facts⟩ := run_checked_found system KeysFree keysFree (fun _ _ free => free) drainingRun initial
    (.start _ rfl) _ checked
  exact ⟨state, reached, reachable_forget system KeysFree state reached, of_decide_eq_true facts⟩

theorem marks_owned (state : DriverState) (reached : Reachable system state) : Marked state := by
  have owned := reachable_owned Always state reached
  refine ⟨owned, ?_⟩
  intro token first second call other found foundOther holds holdsOther
  exact World.owned_unique state owned token first second call other found foundOther holds holdsOther

theorem marks_owned_draining : ∃ state, Marked state ∧ state.shared.owner (.deleting 2) = some 4 := by
  obtain ⟨state, -, reached, deleting, -⟩ := draining_reached
  exact ⟨state, marks_owned state reached, deleting⟩

theorem creations_sheltered (state : DriverState) (reached : Reachable system state) : Sheltered state := by
  obtain ⟨⟨-, counted, emptied⟩, sheltered⟩ := reachable_guarded Always state reached
  have none (parent : Pointer) (absent : state.shared.childCreations.find parent = none) (other : CallId) (creating : Call)
      (found : state.calls.find other = some creating) : creating.frame.creates parent = 0 := by
    by_contra creates
    exact counted_not_emptied state counted other creating found parent (Nat.pos_of_ne_zero creates) absent
  refine ⟨counted, ?_, ?_, ?_⟩
  · intro id call bus recipe pc creation found frame inside below
    have own := sheltered id call found
    rw [frame] at own
    exact own.1 creation inside below
  · intro id call bus expected pc found frame waited
    have own := emptied id call found
    rw [frame] at own
    exact none bus (own waited)
  · intro id call adapter pc found frame waited
    have own := emptied id call found
    rw [frame] at own
    exact none adapter (own waited)

def Frame.emptiedBus : Frame → Option Pointer
  | .destroyBus bus _ pc => if pc.emptied then some bus else none
  | _ => none

theorem emptied_bus (frame : Frame) (bus : Pointer) (found : frame.emptiedBus = some bus) :
    ∃ allowed pc, frame = .destroyBus bus allowed pc ∧ pc.emptied = true := by
  unfold Frame.emptiedBus at found
  split at found
  · next target allowed pc =>
      split at found
      · next emptied =>
          cases found
          exact ⟨allowed, pc, rfl, emptied⟩
      · cases found
  · cases found

def shelteredRun : List Action :=
  .call (.createAdapter "can0") :: runsOf 0 2 ++ .call (.createBus ⟨0, 0⟩) :: runsOf 1 5 ++ .call (.createBus ⟨0, 1⟩) :: runsOf 2 5 ++
    .call (.createDevice 1 (.motor 1)) :: runsOf 3 1 ++ .call (.destroyBus 2 false) :: runsOf 4 3 ++
    .call (.destroyBus 1 false) :: runsOf 5 2

theorem creations_sheltered_destruction :
    ∃ state, Sheltered state ∧ (state.shared.isDeleting 1 ∧ state.shared.isDeleting 2) ∧
      (state.tally (fun call => call.frame.creates 1) = 1 ∧ state.tally (fun call => call.frame.creates 0) = 1) ∧
      ∀ other creating, state.calls.find other = some creating → creating.frame.creates 2 = 0 := by
  have checked : (runActions system initial shelteredRun).any (fun state =>
      decide (state.shared.isDeleting 1 ∧ state.shared.isDeleting 2) &&
        (decide (state.shared.childCreations.count 1 = 1 ∧ state.shared.childCreations.count 0 = 1) &&
          (state.calls.find 4).any fun call => call.frame.emptiedBus = some 2)) = true := by decide +kernel
  obtain ⟨state, reached, facts⟩ := run_actions_found system shelteredRun initial (.start _ rfl) _ checked
  simp only [Bool.and_eq_true, decide_eq_true_eq] at facts
  obtain ⟨deleting, counted, emptied⟩ := facts
  obtain ⟨call, found, waited⟩ := (Option.any_eq_true _ _).mp emptied
  obtain ⟨allowed, pc, frame, passed⟩ := emptied_bus call.frame 2 (of_decide_eq_true waited)
  have sheltered := creations_sheltered state reached
  refine ⟨state, sheltered, deleting, ⟨?_, ?_⟩, sheltered.bus 4 call 2 allowed pc found frame passed⟩
  · rw [← sheltered.counted, counted.1]
  · rw [← sheltered.counted, counted.2]

theorem routes_owned (state : DriverState) (reached : Reachable system state) : RoutesOwned state.shared := by
  have routed := (reachable_placed Always state reached).1.routed
  refine ⟨routed, exact_record_unique state.shared routed, ?_⟩
  intro key record found
  obtain ⟨entry, ⟨registration, registered, inside⟩, -, -, rfl⟩ := (routed.exact key record).mp found
  obtain ⟨raw, valid⟩ := routed.registrations _ registration registered
  obtain ⟨-, route, recorded, open', own, bus, -⟩ := valid.records entry inside
  exact ⟨registration, route, registered, recorded, open', own, bus⟩

theorem routes_owned_draining : ∃ state : DriverState, RoutesOwned state.shared ∧ state.shared.devices.find (motorKey 1 2) = some 3 := by
  obtain ⟨state, -, reached, -, listed⟩ := draining_reached
  exact ⟨state, routes_owned state reached, listed⟩

theorem motors_addressed (state : DriverState) (reached : Reachable system state) : MotorsAddressed state.shared := by
  have agreement := reachable_agreement Always state reached
  have routed := agreement.ground.placed.routed
  refine ⟨(reachable_numbered_motors Always state reached).2, ?_⟩
  intro motor key keyed kind live
  refine ⟨live_motor_receives state.shared routed agreement.attached motor key keyed kind live, ?_⟩
  intro other keyedOther liveOther
  exact live_motor_unique state.shared routed agreement.attached other motor key keyedOther keyed kind liveOther live

theorem motors_addressed_draining : ∃ state : DriverState, MotorsAddressed state.shared ∧ state.shared.devices.find (motorKey 1 2) = some 3 := by
  obtain ⟨state, -, reached, -, listed⟩ := draining_reached
  exact ⟨state, motors_addressed state reached, listed⟩

/-- Migrations onto the key of a creation in progress apart, keys and devices are inverse to each other. -/
theorem keys_bijective (state : DriverState) (reached : ReachableWith system KeysFree state) :
    (∀ key device, state.shared.devices.find key = some device ↔ state.shared.deviceKeys.find device = some key) ∧
      ∀ device key, state.shared.deviceKeys.find device = some key → state.shared.busKeys.find key.bus ≠ none :=
  ⟨(reachable_bijective state reached).inverse, (reachable_bijective state reached).parented⟩

theorem keys_bijective_draining : ∃ state : DriverState, state.shared.deviceKeys.find 3 = some (motorKey 1 2) := by
  obtain ⟨state, reached, -, -, listed⟩ := draining_reached
  exact ⟨state, ((keys_bijective state reached).1 _ _).mp listed⟩

def Effect.EndsReservation (motor : Pointer) (motorIdx : Int32) : Effect → Prop
  | .release other newMotorIdx => other = motor ∧ newMotorIdx = motorIdx
  | .migrate migration => migration.motor = motor ∧ migration.newMotorIdx = motorIdx
  | _ => False

def Tables.Reserves (tables after : Tables) (Ends : Pointer → Int32 → Prop) : Prop :=
  (∀ key held, tables.motorIndexReservations.find key = some held →
      after.motorIndexReservations.find key = some held ∨ ∃ bus motorIdx, key = motorKey bus motorIdx ∧ Ends held.motor motorIdx) ∧
    ∀ route motor, tables.motorRouteReservations.find route = some motor →
      after.motorRouteReservations.find route = some motor ∨
        ∃ bus motorIdx, route = routeKey bus motorIdx.toUInt32 ∧ Ends motor motorIdx

theorem releasable_motor (tables : Tables) (motor bus : Pointer) (newMotorIdx : Int32)
    (found : tables.releasable motor newMotorIdx = some bus) (held : MotorIndexReservation)
    (reserved : tables.motorIndexReservations.find (motorKey bus newMotorIdx) = some held) : held.motor = motor := by
  unfold Tables.releasable at found
  split at found
  · cases found
  split at found
  · rename_i own
    cases found
    simpa [reserved] using own
  · cases found

theorem run_reserved (runs : Runs state id choice call result) :
    state.shared.Reserves (result.effect.apply state.shared) result.effect.EndsReservation := by
  have from' := runs_from state id choice call result runs
  cases effect : result.effect with
  | reserve newKey newRoute reservation =>
    exact ⟨fun _ _ reserved => .inl (Table.emplace_some _ _ _ _ _ reserved),
      fun _ _ reserved => .inl (Table.emplace_some _ _ _ _ _ reserved)⟩
  | release other newMotorIdx =>
    simp only [Tables.Reserves, Effect.apply, Tables.releaseMotorIndexReservation, Effect.EndsReservation]
    constructor
    · intro key held reserved
      split
      · exact .inl reserved
      · rename_i bus found
        rw [Table.find_remove]
        split
        · rename_i same
          exact .inr ⟨bus, newMotorIdx, same, (releasable_motor _ _ _ _ found held (same ▸ reserved)).symm, rfl⟩
        · exact .inl reserved
    · intro route motor reserved
      split
      · exact .inl reserved
      · rename_i busKey _
        by_cases ends : route = routeKey busKey newMotorIdx.toUInt32 ∧ other = motor
        · exact .inr ⟨busKey, newMotorIdx, ends.1, ends.2, rfl⟩
        · refine .inl ((Table.find_remove_matching _ _ _ _).mpr ⟨reserved, ?_⟩)
          simpa [eq_comm] using ends
  | migrate migration =>
    rw [effect] at from'
    obtain ⟨busKey, registration, entry, ready⟩ := migration_ready _ _ _ _ from'.2.2.1
    simp only [Tables.Reserves, Effect.apply, Tables.migrate, Table.find_remove, Effect.EndsReservation]
    constructor
    · intro key held reserved
      split
      · rename_i same
        exact .inr ⟨_, _, same.trans ready.target, (ready.reservedByMotor held (same ▸ reserved)).symm, rfl⟩
      · exact .inl reserved
    · intro route motor reserved
      split
      · rename_i same
        exact .inr ⟨_, _, same.trans ready.targetRoute, (ready.routeReservedByMotor motor (same ▸ reserved)).symm, rfl⟩
      · exact .inl reserved
  | _ => exact ⟨fun _ _ reserved => .inl reserved, fun _ _ reserved => .inl reserved⟩

def Tables.Unrouted (tables : Tables) : Prop :=
  ∀ route motor, tables.motorRouteReservations.find route = some motor → tables.routes.find route = none

theorem detached_unrouted (tables : Tables) (device : Pointer) (route : RouteKey) (free : tables.routes.find route = none) :
    (tables.detachRegistrationLocked device).routes.find route = none := by
  simp only [Tables.detachRegistrationLocked]
  split
  · exact free
  · refine Option.eq_none_iff_forall_ne_some.mpr fun record found => ?_
    cases free.symm.trans ((Table.find_remove_matching _ _ _ _).mp found).1

theorem run_unrouted (unrouted : state.shared.Unrouted) (runs : Runs state id choice call result) : (result.effect.apply state.shared).Unrouted := by
  have from' := runs_from state id choice call result runs
  intro route motor reserved
  cases effect : result.effect with
  | publishRoutes made bus adapter domain recipe =>
    rw [effect] at from' reserved
    obtain ⟨rfl, creation, -, -, -, -, -, clear⟩ := from'
    cases found : ((Effect.publishRoutes made bus adapter domain recipe).apply state.shared).routes.find route with
    | none => rfl
    | some record =>
      obtain before | ⟨entry, inside, exact', rfl, -⟩ := (published_exact _ made adapter bus _ _ clear route record).mp found
      · cases (unrouted _ _ reserved).symm.trans before
      · rw [prepared_claim _ _ _ _ inside] at exact'
        simp only [Tables.routesConflict, exact', Bool.or_eq_false_iff, Bool.false_eq_true, if_false, List.any_eq_false] at clear
        have reserved : state.shared.motorRouteReservations.find entry.key = some motor := reserved
        exact absurd (by simp [Table.contains, reserved]) (clear.2.1 entry inside)
  | detachDevice device | acceptDevice by_ device bus =>
    rw [effect] at reserved
    exact detached_unrouted _ _ _ (unrouted route motor reserved)
  | reserve newKey newRoute reservation =>
    rw [effect] at from' reserved
    obtain ⟨by_, newMotorIdx, -, -, decided⟩ := from'
    simp only [Effect.apply, Tables.reserve, Table.find_emplace] at reserved ⊢
    split at reserved
    · rename_i same
      simp only [Tables.reserveDecision] at decided
      repeat' split at decided
      all_goals cases decided
      rename_i free _ _ _ _ _ _ _ _ _
      rw [same, ← Option.not_isSome_iff_eq_none]
      exact free
    · exact unrouted route motor reserved
  | release other newMotorIdx =>
    rw [effect] at reserved
    simp only [Effect.apply, Tables.releaseMotorIndexReservation] at reserved ⊢
    split at reserved
    · exact unrouted route motor reserved
    · exact unrouted route motor ((Table.find_remove_matching _ _ _ _).mp reserved).1
  | migrate migration =>
    rw [effect] at from' reserved
    obtain ⟨busKey, registration, entry, ready⟩ := migration_ready _ _ _ _ from'.2.2.1
    simp only [Effect.apply, Tables.migrate, Table.find_remove] at reserved ⊢
    split at reserved
    · cases reserved
    rename_i other
    have different : migration.newRoute ≠ ⟨migration.newRoute.adapter, migration.oldRoute.uniqueId⟩ := by
      intro same
      have free := ready.routeFree
      rw [same, ready.targetRoute, ready.oldRoute] at free
      exact ready.oldRouteFound free
    rw [Table.find_rekey _ _ _ _ ready.routeFree different, if_neg other, unrouted route motor reserved, ite_self]
  | _ =>
    rw [effect] at reserved
    exact unrouted route motor reserved

/-- A motor's reservation lasts until that motor releases it or migrates, and no device has its route meanwhile. -/
theorem reservations_kept (state : DriverState) (reached : Reachable system state) :
    state.shared.Unrouted ∧ ∀ id choice call result, Runs state id choice call result →
      state.shared.Reserves (result.effect.apply state.shared) result.effect.EndsReservation := by
  refine ⟨?_, fun id choice call result runs => run_reserved state id choice call result runs⟩
  refine reachable_invariant system Always (fun state => state.shared.Unrouted) ?_ ?_ state reached
  · rintro _ rfl route motor reserved
    cases reserved
  · intro state action next unrouted _ taken
    refine tables_kept (fun _ _ _ => True) Tables.Unrouted ?_ state next action unrouted (fun _ _ _ => trivial)
      (step_cases state next action taken)
    exact fun now id choice call result _ unrouted runs => run_unrouted now id choice call result unrouted runs

def Frame.releasing : Frame → Option (Pointer × Int32)
  | .release motor newMotorIdx => some (motor, newMotorIdx)
  | _ => none

theorem releasing_frame (frame : Frame) (motor : Pointer) (motorIdx : Int32) (found : frame.releasing = some (motor, motorIdx)) :
    frame = .release motor motorIdx := by
  unfold Frame.releasing at found
  split at found
  · cases found
    rfl
  · cases found

def reservedRun : List Action :=
  twoMotorsRun ++ .call (.reserveMotorIndex 2 5) :: runsOf 4 2 ++ [.call (.releaseMotorIndexReservation 3 5)]

theorem reservations_kept_other_release :
    ∃ state next, step state (.run 5 .proceed) = some next ∧
      (state.shared.routes.find (routeKey ⟨0, 0⟩ 5) = none ∧
        state.shared.motorRouteReservations.find (routeKey ⟨0, 0⟩ 5) = some 2) ∧
      (next.shared.motorIndexReservations.find (motorKey 1 5)).map MotorIndexReservation.motor = some 2 ∧
      next.shared.motorRouteReservations.find (routeKey ⟨0, 0⟩ 5) = some 2 := by
  have checked : (runActions system initial reservedRun).any (fun state =>
      decide ((state.shared.motorIndexReservations.find (motorKey 1 5)).map MotorIndexReservation.motor = some 2 ∧
        state.shared.motorRouteReservations.find (routeKey ⟨0, 0⟩ 5) = some 2) &&
      (state.calls.find 5).any fun call => call.frame.releasing = some (3, 5)) = true := by decide +kernel
  obtain ⟨state, reached, facts⟩ := run_actions_found system reservedRun initial (.start _ rfl) _ checked
  simp only [Bool.and_eq_true, decide_eq_true_eq] at facts
  obtain ⟨⟨index, route⟩, releases⟩ := facts
  obtain ⟨held, reserved, owner⟩ := Option.map_eq_some_iff.mp index
  obtain ⟨call, found, releasing⟩ := (Option.any_eq_true _ _).mp releases
  have frame := releasing_frame call.frame 3 5 (of_decide_eq_true releasing)
  let result : SectionResult := { effect := .release 3 5, frame := .finished (.verdict true) }
  have ran : runFrame state.shared (replyOf state.calls) 5 state.nextCall .proceed call.context call.frame = some result := by
    rw [frame]
    rfl
  obtain ⟨unrouted, kept⟩ := reservations_kept state reached
  obtain ⟨indices, routes⟩ := kept 5 .proceed call result ⟨found, ran⟩
  refine ⟨state, state.advance 5 ⟨result.effect.apply state.shared, { call with frame := result.frame }, none⟩, ?_,
    ⟨unrouted _ _ route, route⟩, ?_, ?_⟩
  · simp only [step, found, sectionMove, ran, Option.map_some]
    rfl
  · rcases indices _ held reserved with still | ⟨bus, motorIdx, -, ends⟩
    · exact (congrArg (Option.map MotorIndexReservation.motor) still).trans (congrArg some owner)
    · exact absurd (ends.1.trans owner) (by decide)
  · rcases routes _ 2 route with still | ⟨bus, motorIdx, -, ends⟩
    · exact still
    · exact absurd ends.1 (by decide)

end EncosDriver.Driver
