import EncosDriver.Driver.Keyed

set_option autoImplicit false

namespace EncosDriver.Driver

open Lib

theorem mem_motors_on_bus (tables : Tables) (bus motor : Pointer) :
    motor ∈ tables.motorsOnBus bus ↔ ∃ key, tables.devices.find key = some motor ∧ key.bus = bus ∧ key.kind = .motor := by
  simp only [Tables.motorsOnBus, Tables.devicesOn, List.mem_map, List.mem_filter, decide_eq_true_eq]
  constructor
  · rintro ⟨-, ⟨⟨⟨key, device⟩, ⟨inside, onBus⟩, rfl⟩, kind⟩, rfl⟩
    exact ⟨key, (Table.mem_to_list _ _ _).mp inside, onBus, kind⟩
  · rintro ⟨key, found, onBus, kind⟩
    exact ⟨(motor, key.kind), ⟨⟨(key, motor), ⟨(Table.mem_to_list _ _ _).mpr found, onBus⟩, rfl⟩, kind⟩, rfl⟩

structure Tables.Converged (tables : Tables) (bus : Pointer) : Prop where
  keyed : ∀ key motor, tables.devices.find key = some motor → key.bus = bus → key.kind = .motor →
    tables.deviceKeys.find motor = some key ∧ key.idx = 1
  alone : ∀ first second, first ∈ tables.motorsOnBus bus → second ∈ tables.motorsOnBus bus → first = second

-- The bus lists no motor, or exactly one: it has index one and receives on the
-- exact route of index one, unless a destruction of it has been accepted, which
-- has detached the route.
def Tables.IdOneOnly (tables : Tables) (bus : Pointer) : Prop :=
  tables.motorsOnBus bus = [] ∨ ∃ motor key, tables.motorsOnBus bus = [motor] ∧ tables.deviceKeys.find motor = some key ∧
    key.bus = bus ∧ key.idx = 1 ∧ (tables.isDeleting motor ∨ tables.ReceivesAt bus motor 1)

theorem motors_on_bus_single (tables : Tables) (bus motor : Pointer) (inside : motor ∈ tables.motorsOnBus bus)
    (converged : tables.Converged bus) : tables.motorsOnBus bus = [motor] := by
  have entries : (tables.devices.toList.filter fun entry => entry.1.bus = bus && entry.1.kind = .motor).map Prod.snd =
      tables.motorsOnBus bus := by
    simp only [Tables.motorsOnBus, Tables.devicesOn, List.filter_map, List.map_map, List.filter_filter]
    refine congrArg₂ List.map rfl (List.filter_congr fun entry _ => ?_)
    simp [Bool.and_comm]
  have distinct : ((tables.devices.toList.filter fun entry => entry.1.bus = bus && entry.1.kind = .motor).map Prod.fst).Nodup :=
    (Table.to_list_distinct tables.devices).sublist (List.Sublist.map _ List.filter_sublist)
  have same : ∀ entry ∈ tables.devices.toList.filter (fun entry => entry.1.bus = bus && entry.1.kind = .motor),
      tables.deviceKeys.find motor = some entry.1 := by
    rintro ⟨key, device⟩ listed
    simp only [List.mem_filter, Bool.and_eq_true, decide_eq_true_eq] at listed
    have found := (Table.mem_to_list _ _ _).mp listed.1
    rw [converged.alone motor device inside ((mem_motors_on_bus _ _ _).mpr ⟨key, found, listed.2⟩)]
    exact (converged.keyed key device found listed.2.1 listed.2.2).1
  rw [← entries] at inside ⊢
  generalize tables.devices.toList.filter (fun entry => entry.1.bus = bus && entry.1.kind = .motor) = listed at *
  cases listed with
  | nil => cases inside
  | cons first rest =>
    cases rest with
    | nil => simpa [eq_comm] using inside
    | cons second others =>
      have one := same first (by simp)
      have two := same second (by simp)
      rw [one, Option.some.injEq] at two
      simp [two] at distinct

theorem converged_id_one (state : DriverState) (agreement : Agreement state) (bus : Pointer)
    (converged : state.shared.Converged bus) : state.shared.IdOneOnly bus := by
  cases motors : state.shared.motorsOnBus bus with
  | nil => exact .inl motors
  | cons motor rest =>
    have inside : motor ∈ state.shared.motorsOnBus bus := by simp [motors]
    obtain ⟨key, found, onBus, kind⟩ := (mem_motors_on_bus _ _ _).mp inside
    obtain ⟨keyed, index⟩ := converged.keyed key motor found onBus kind
    refine .inr ⟨motor, key, motors_on_bus_single _ bus motor inside converged, keyed, onBus, index, ?_⟩
    by_cases live : state.shared.deleting.find motor = none
    · have receives := live_motor_receives state.shared agreement.ground.placed.routed agreement.attached motor key keyed kind live
      rw [onBus, index] at receives
      exact .inr receives
    · exact .inl live

def succeeding (state : DriverState) (bus : Pointer) : Bool :=
  match (state.shared.resettingBuses.find bus).bind state.calls.find with
  | some { frame := .resetBus _ (.clear true), .. } => true
  | _ => false

def undisturbed (state : DriverState) : Action → Bool
  | .run id _ =>
    match (state.calls.find id).map Call.frame with
    | some (.migrate motor _ .commit) => !(state.shared.deviceKeys.find motor).any fun key => succeeding state key.bus
    | _ => true
  | _ => true

abbrev Undisturbed (state : DriverState) (action : Action) : Prop := undisturbed state action = true

theorem reset_marks (state : DriverState) (grounded : Grounded state) (id : CallId) (call : Call) (bus : Pointer) (pc : ResetBusPc)
    (present : state.calls.find id = some call) (frame : call.frame = .resetBus bus pc) (started : pc ≠ .mark) :
    state.shared.resettingBuses.find bus = some id := by
  refine (grounded.owned (.resetting bus) id).mpr ⟨call, present, ?_⟩
  simp only [frame]
  cases pc <;> first | exact absurd rfl started | rfl

theorem migrates_elsewhere (state : DriverState) (id : CallId) (choice : Choice) (call : Call) (result : SectionResult)
    (runs : Runs state id choice call result) (allowed : Undisturbed state (.run id choice)) (bus : Pointer)
    (reset : CallId) (resetCall : Call) (marked : state.shared.resettingBuses.find bus = some reset)
    (found : state.calls.find reset = some resetCall) (frame : resetCall.frame = .resetBus bus (.clear true))
    (migration : Tables.Migration) (effect : result.effect = .migrate migration) : migration.oldKey.bus ≠ bus := by
  have from' := runs_from state id choice call result runs
  rw [effect] at from'
  obtain ⟨before, -, decided, -⟩ := from'
  obtain ⟨busKey, registration, entry, ready⟩ := migration_ready _ _ _ _ decided
  rintro rfl
  have succeeds : succeeding state migration.oldKey.bus = true := by
    obtain ⟨context, frame'⟩ := resetCall
    obtain rfl : frame' = _ := frame
    simp [succeeding, marked, found]
  simp [Undisturbed, undisturbed, runs.present, before, ready.registered, succeeds] at allowed

theorem run_listing (state : DriverState) (id : CallId) (choice : Choice) (call : Call) (result : SectionResult)
    (agreement : Agreement state) (runs : Runs state id choice call result) (bus : Pointer)
    (marked : state.shared.resettingBuses.find bus ≠ none)
    (elsewhere : ∀ migration, result.effect = .migrate migration → migration.oldKey.bus ≠ bus)
    (converged : state.shared.Converged bus) (key : DeviceKey) (motor : Pointer)
    (found : (result.effect.apply state.shared).devices.find key = some motor) (onBus : key.bus = bus) (kind : key.kind = .motor) :
    state.shared.devices.find key = some motor ∧
      (result.effect.apply state.shared).deviceKeys.find motor = state.shared.deviceKeys.find motor := by
  have from' := runs_from state id choice call result runs
  have settled := agreement.ground.consistent.settled id call runs.present
  have keyed (before : state.shared.devices.find key = some motor) := (converged.keyed key motor before onBus kind).1
  have another (uncommitted : ¬ call.frame.backs id .device) (before : state.shared.devices.find key = some motor) :
      motor ≠ id := by
    rintro rfl
    have unkeyed := uncommitted_unkeyed state agreement.ground motor call runs.present uncommitted
    rw [keyed before] at unkeyed
    cases unkeyed
  cases effect : result.effect with
  | commitDevice made parent recipe =>
    rw [effect] at from' found
    obtain ⟨rfl, creation, frame, -, kept⟩ := from'
    have different : key ≠ recipe.key parent := by
      rintro rfl
      exact marked (onBus ▸ (not_retiring state.shared parent _ kept).2.1)
    simp only [Effect.apply, Table.find_emplace, if_neg different] at found
    have own := another (by rw [frame]; exact not_false) found
    exact ⟨found, by simp only [Effect.apply, Table.find_emplace, if_neg own]⟩
  | commitThrows made key' =>
    rw [effect] at from' found
    obtain ⟨rfl, parent, recipe, creation, -, frame, -⟩ := from'
    have before := remove_some _ _ _ _ found
    have own := another (by rw [frame]; exact not_false) before
    exact ⟨before, by simp only [Effect.apply, Table.find_remove, if_neg own]⟩
  | eraseCreation key' made =>
    rw [effect] at from' found
    obtain ⟨parent, recipe, creation, -, rfl, frame, -⟩ := from'
    have before := remove_some _ _ _ _ found
    have own := another (by rw [frame]; exact not_false) before
    refine ⟨before, ?_⟩
    cases named : creation.device with
    | none => rfl
    | some made =>
      have same := settled_device state id call agreement.ground.consistent.settled runs.present parent recipe creation frame
        made named
      simp only [Effect.apply, Tables.removePointer, Table.find_remove, same, if_neg own]
  | eraseDevice target key' =>
    rw [effect] at from' found
    obtain ⟨expected, frame, -⟩ := from'
    rw [frame] at settled
    have there : state.shared.deviceKeys.find target = some key' := settled
    have before := remove_some _ _ _ _ found
    have different : motor ≠ target := by
      rintro rfl
      have same := keyed before
      rw [there, Option.some.injEq] at same
      simp [Effect.apply, same] at found
    exact ⟨before, by simp only [Effect.apply, Table.find_remove, if_neg different]⟩
  | migrate migration =>
    have away := elsewhere migration effect
    rw [effect] at from' found
    obtain ⟨busKey, registration, entry, ready⟩ := migration_ready _ _ _ _ from'.2.2.1
    have notNew : key ≠ migration.newKey := by
      rintro rfl
      rw [ready.target] at onBus
      exact away onBus
    simp only [Effect.apply, Tables.migrate, Table.find_rekey _ _ _ _ ready.keyFree ready.moves.symm, if_neg notNew] at found
    split at found
    · cases found
    · have different : motor ≠ migration.motor := by
        rintro rfl
        have same := keyed found
        rw [ready.registered, Option.some.injEq] at same
        exact away (same ▸ onBus)
      exact ⟨found, by simp only [Effect.apply, Tables.migrate, Table.find_modify, if_neg different]⟩
  | _ =>
    rw [effect] at found
    exact ⟨found, rfl⟩

def Frame.Resets (Holds : Tables → Pointer → ResetBusPc → Prop) (tables : Tables) (_ : CallId) : Frame → Prop
  | .resetBus bus pc => Holds tables bus pc
  | _ => True

theorem resets_kept (Known : DriverState → CallId → Choice → Prop) (Holds : Tables → Pointer → ResetBusPc → Prop)
    (first : ∀ tables bus, Holds tables bus .mark)
    (own : ∀ state id choice call result bus pc after, Known state id choice → Holds state.shared bus pc →
      Runs state id choice call result → call.frame = .resetBus bus pc → result.frame = .resetBus bus after →
        Holds (result.effect.apply state.shared) bus after)
    (others : ∀ state id choice call result other otherCall bus pc, Known state id choice → Runs state id choice call result →
      state.calls.find other = some otherCall → otherCall.frame = .resetBus bus pc → Holds state.shared bus pc →
        Holds (result.effect.apply state.shared) bus pc) : KeptLocally Known (Frame.Resets Holds) where
  fresh := by
    intro tables id request
    cases request with
    | resetBusMotorsToIdOne bus => exact first tables bus
    | _ => trivial
  entered := entered_receives _ fun _ _ _ _ _ => trivial
  own := by
    intro state id choice call result known every runs
    have before := every id call runs.present
    have continues := frame_continues _ _ _ _ _ _ _ _ runs.ran
    cases next : result.frame with
    | resetBus bus after =>
      rw [next] at continues
      cases frame : call.frame with
      | resetBus bus' pc =>
        rw [frame] at continues before
        obtain rfl : bus = bus' := continues
        exact own state id choice call result bus pc after known before runs frame next
      | _ =>
        rw [frame] at continues
        exact continues.elim
    | _ => trivial
  others := by
    intro state id choice call result other otherCall known _ runs _ found holds
    cases frame : otherCall.frame with
    | resetBus bus pc =>
      rw [frame] at holds
      exact others state id choice call result other otherCall bus pc known runs found frame holds
    | _ => trivial

def Tables.Surveyed (tables : Tables) (bus : Pointer) : ResetBusPc → Prop
  | .single motor => ∀ other ∈ tables.motorsOnBus bus, other = motor
  | _ => True

def Tables.Succeeds (tables : Tables) (bus : Pointer) : ResetBusPc → Prop
  | .clear true => tables.Converged bus
  | _ => True

theorem reset_bus_quiet (tables : Tables) (replyOf : CallId → Option Reply) (self fresh : CallId) (bus : Pointer)
    (pc : ResetBusPc) (result : SectionResult) (ran : runResetBus tables replyOf self fresh bus pc = some result) :
    result.effect = .nothing ∨ result.effect = .markResetting self bus ∨ result.effect = .clearResetting bus := by
  unfold runResetBus at ran
  repeat' split at ran
  all_goals cases ran
  all_goals simp

theorem reset_bus_surveyed (tables : Tables) (replyOf : CallId → Option Reply) (self fresh : CallId) (bus : Pointer)
    (pc after : ResetBusPc) (result : SectionResult) (ran : runResetBus tables replyOf self fresh bus pc = some result)
    (next : result.frame = .resetBus bus after) : (result.effect.apply tables).Surveyed bus after := by
  unfold runResetBus at ran
  repeat' split at ran
  all_goals cases ran
  all_goals cases next
  all_goals try trivial
  rename_i single
  intro other inside
  simpa [Effect.apply, single] using inside

theorem reset_bus_decides (tables : Tables) (agreed : tables.Agreed) (replyOf : CallId → Option Reply) (self fresh : CallId)
    (bus : Pointer) (pc : ResetBusPc) (result : SectionResult) (ran : runResetBus tables replyOf self fresh bus pc = some result)
    (known : tables.Surveyed bus pc) (decided : result.frame = .resetBus bus (.clear true)) :
    tables.Converged bus ∧ ∀ motor ∈ tables.motorsOnBus bus, tables.deleting.find motor = none := by
  unfold runResetBus at ran
  repeat' split at ran
  all_goals cases ran
  all_goals try cases decided
  · rename_i empty
    refine ⟨⟨fun key motor found onBus kind => ?_, ?_⟩, ?_⟩
    · have inside := (mem_motors_on_bus _ _ _).mpr ⟨key, found, onBus, kind⟩
      rw [empty] at inside
      cases inside
    · simp [empty]
    · simp [empty]
  · rename_i motor _ key keyed passed
    have live : tables.deleting.find motor = none := by simpa using passed.2
    refine ⟨⟨fun listed other found onBus kind => ?_, fun first second one two => (known first one).trans (known second two).symm⟩,
      fun other inside => known other inside ▸ live⟩
    obtain rfl := known other ((mem_motors_on_bus _ _ _).mpr ⟨listed, found, onBus, kind⟩)
    obtain rfl := (agreed listed other key found keyed).2.2 live
    exact ⟨keyed, passed.1⟩

theorem run_fewer (state : DriverState) (id : CallId) (choice : Choice) (call : Call) (result : SectionResult)
    (runs : Runs state id choice call result) (bus : Pointer) (marked : state.shared.resettingBuses.find bus ≠ none)
    (motor : Pointer) (inside : motor ∈ (result.effect.apply state.shared).motorsOnBus bus) :
    motor ∈ state.shared.motorsOnBus bus := by
  have from' := runs_from state id choice call result runs
  obtain ⟨key, found, onBus, kind⟩ := (mem_motors_on_bus _ _ _).mp inside
  rcases apply_listed _ _ _ _ _ _ from' key motor found with ⟨old, held, sameBus, sameKind⟩ | ⟨parent, recipe, effect, atKey⟩
  · exact (mem_motors_on_bus _ _ _).mpr ⟨old, held, sameBus.trans onBus, sameKind.trans kind⟩
  · rw [effect] at from'
    obtain ⟨-, creation, -, -, kept⟩ := from'
    have parented : parent = bus := by
      rw [← onBus, atKey]
      rfl
    exact absurd (not_retiring state.shared parent _ kept).2.1 (parented ▸ marked)

theorem surveyed_kept : KeptLocally (fun state _ _ => Grounded state) (Frame.Resets Tables.Surveyed) := by
  refine resets_kept _ _ (fun _ _ => trivial) ?_ ?_
  · intro state id choice call result bus pc after _ _ runs frame next
    have ran := runs.ran
    rw [frame] at ran
    exact reset_bus_surveyed _ _ _ _ bus pc after result ran next
  · intro state id choice call result other otherCall bus pc grounded runs found frame holds
    cases pc with
    | single motor =>
      have marked := reset_marks state grounded other otherCall bus _ found frame nofun
      exact fun listed inside => holds listed
        (run_fewer state id choice call result runs bus (by rw [marked]; nofun) listed inside)
    | _ => trivial

structure ResetGround (state : DriverState) : Prop where
  agreement : Agreement state
  surveyed : Every (Frame.Resets Tables.Surveyed) state

theorem reachable_reset_ground (allowed : DriverState → Action → Prop) (state : DriverState)
    (reached : ReachableWith system allowed state) : ResetGround state := by
  refine ⟨reachable_agreement allowed state reached, ?_⟩
  refine reachable_invariant_under system allowed Agreement (Every (Frame.Resets Tables.Surveyed)) (reachable_agreement allowed)
    ?_ ?_ state reached
  · rintro _ rfl id call present
    simp [initial] at present
  · intro state action next agreement _ surveyed _ taken
    exact every_kept _ (Frame.Resets Tables.Surveyed) surveyed_kept state next action surveyed
      (fun _ _ _ => agreement.ground.placed.grounded) (step_cases state next action taken)

theorem succeeds_kept : KeptLocally (fun state id choice => ResetGround state ∧ Undisturbed state (.run id choice))
    (Frame.Resets Tables.Succeeds) := by
  refine resets_kept _ _ (fun _ _ => trivial) ?_ ?_
  · intro state id choice call result bus pc after known _ runs frame next
    have surveyed := known.1.surveyed id call runs.present
    have ran := runs.ran
    rw [frame] at ran surveyed
    cases after with
    | clear accepted =>
      cases accepted with
      | true =>
        have converged := (reset_bus_decides _ known.1.agreement.agreed _ _ _ bus pc result ran surveyed next).1
        rcases reset_bus_quiet _ _ _ _ bus pc result ran with effect | effect | effect
        all_goals
          rw [effect]
          exact ⟨converged.keyed, converged.alone⟩
      | false => trivial
    | _ => trivial
  · intro state id choice call result other otherCall bus pc known runs found frame holds
    obtain ⟨ground, allowed⟩ := known
    cases pc with
    | clear accepted =>
      cases accepted with
      | true =>
        have converged : state.shared.Converged bus := holds
        have marked := reset_marks state ground.agreement.ground.placed.grounded other otherCall bus _ found frame nofun
        have resetting : state.shared.resettingBuses.find bus ≠ none := by rw [marked]; nofun
        have listing := run_listing state id choice call result ground.agreement runs bus resetting
          (migrates_elsewhere state id choice call result runs allowed bus other otherCall marked found frame) converged
        refine ⟨fun key motor there onBus kind => ?_, fun first second one two => ?_⟩
        · obtain ⟨before, same⟩ := listing key motor there onBus kind
          rw [same]
          exact converged.keyed key motor before onBus kind
        · exact converged.alone first second (run_fewer state id choice call result runs bus resetting first one)
            (run_fewer state id choice call result runs bus resetting second two)
      | false => trivial
    | _ => trivial

theorem reachable_succeeds (state : DriverState) (reached : ReachableWith system Undisturbed state) :
    Every (Frame.Resets Tables.Succeeds) state := by
  refine reachable_invariant_under system Undisturbed ResetGround (Every (Frame.Resets Tables.Succeeds))
    (reachable_reset_ground Undisturbed) ?_ ?_ state reached
  · rintro _ rfl id call present
    simp [initial] at present
  · intro state action next ground _ succeeds allowed taken
    refine every_kept _ (Frame.Resets Tables.Succeeds) succeeds_kept state next action succeeds ?_ (step_cases state next action taken)
    rintro id choice rfl
    exact ⟨ground, allowed⟩

def ResetBusPc.targets : ResetBusPc → List Pointer
  | .single motor => [motor]
  | .choose motors remaining => motors ++ remaining
  | .destroyOthers survivor remaining | .awaitDestroy survivor remaining _ => survivor :: remaining
  | .inspect survivor => [survivor]
  | _ => []

def Frame.targets : Frame → List Pointer
  | .resetBus _ pc => pc.targets
  | _ => []

def Frame.Chooses : Frame → Prop
  | .resetBus _ (.choose motors _) => motors ≠ []
  | _ => True

theorem reset_bus_targets (tables : Tables) (replyOf : CallId → Option Reply) (self fresh : CallId) (bus : Pointer)
    (pc : ResetBusPc) (result : SectionResult) (ran : runResetBus tables replyOf self fresh bus pc = some result)
    (chooses : (Frame.resetBus bus pc).Chooses) :
    result.frame.Chooses ∧ ∀ motor ∈ result.frame.targets, motor ∈ pc.targets ∨ pc = .survey ∧ motor ∈ tables.motorsOnBus bus := by
  have kept (motors : List Pointer) (motor chosen : Pointer) (there : chosen ∈ motors)
      (inside : motor ∈ chosen :: motors.erase chosen) : motor ∈ motors := by
    rcases List.mem_cons.mp inside with rfl | rest
    · exact there
    · exact List.mem_of_mem_erase rest
  cases pc with
  | survey =>
    simp only [runResetBus] at ran
    repeat' split at ran
    all_goals cases ran
    all_goals first
      | (refine ⟨trivial, ?_⟩; simp [Frame.targets, ResetBusPc.targets]; done)
      | skip
    · rename_i single
      exact ⟨trivial, by simp [Frame.targets, ResetBusPc.targets, single]⟩
    · rename_i none _
      exact ⟨none, by simp [Frame.targets, ResetBusPc.targets]⟩
  | single motor =>
    simp only [runResetBus] at ran
    repeat' split at ran
    all_goals cases ran
    all_goals refine ⟨?_, by simp [Frame.targets, ResetBusPc.targets]⟩
    all_goals first | trivial | exact List.cons_ne_nil _ _
  | choose motors remaining =>
    cases remaining with
    | nil =>
      cases ran
      have there : motors.headD 0 ∈ motors := by
        cases motors with
        | nil => exact absurd rfl chooses
        | cons first rest => exact List.mem_cons_self
      exact ⟨trivial, fun motor inside => .inl (List.mem_append_left _ (kept motors motor _ there inside))⟩
    | cons first rest =>
      simp only [runResetBus] at ran
      split at ran
      · cases ran
        refine ⟨trivial, fun motor inside => .inl ?_⟩
        rcases List.mem_cons.mp inside with rfl | others
        · exact List.mem_append_right _ List.mem_cons_self
        · exact List.mem_append_left _ (List.mem_of_mem_erase others)
      · cases ran
        refine ⟨chooses, fun motor inside => .inl ?_⟩
        rcases List.mem_append.mp inside with left | right
        · exact List.mem_append_left _ left
        · exact List.mem_append_right _ (List.mem_cons_of_mem _ right)
  | destroyOthers survivor remaining =>
    cases remaining with
    | nil =>
      cases ran
      exact ⟨trivial, fun motor inside => .inl inside⟩
    | cons first rest =>
      cases ran
      refine ⟨trivial, fun motor inside => .inl ?_⟩
      rcases List.mem_cons.mp inside with rfl | others
      · exact List.mem_cons_self
      · exact List.mem_cons_of_mem _ (List.mem_cons_of_mem _ others)
  | awaitDestroy survivor remaining child =>
    simp only [runResetBus] at ran
    split at ran
    · cases ran
    · cases ran
      exact ⟨trivial, fun motor inside => .inl inside⟩
  | _ =>
    simp only [runResetBus] at ran
    repeat' split at ran
    all_goals cases ran
    all_goals exact ⟨trivial, by simp [Frame.targets, ResetBusPc.targets]⟩

-- A survey of this reset, earlier in the run, listed the motor on the bus.
def SurveyedBy (state : DriverState) (id : CallId) (bus motor : Pointer) : Prop :=
  ∃ earlier call, Reachable system earlier ∧ earlier.calls.find id = some call ∧ call.frame = .resetBus bus .survey ∧
    motor ∈ earlier.shared.motorsOnBus bus ∧ RunsWhile system (fun _ => True) earlier state

theorem SurveyedBy.later {state next : DriverState} {action : Action} {id : CallId} {bus motor : Pointer}
    (surveyed : SurveyedBy state id bus motor) (taken : step state action = some next) : SurveyedBy next id bus motor := by
  obtain ⟨earlier, call, reached, present, frame, listed, ran⟩ := surveyed
  exact ⟨earlier, call, reached, present, frame, listed, .next state next action ran trivial taken⟩

def TargetsSurveyed (state : DriverState) : Prop :=
  ∀ id call, state.calls.find id = some call → call.frame.Chooses ∧
    ∀ bus pc, call.frame = .resetBus bus pc → ∀ motor ∈ pc.targets, SurveyedBy state id bus motor

theorem request_targets (request : Request) : request.frame.Chooses ∧ request.frame.targets = [] := by
  cases request <;> exact ⟨trivial, rfl⟩

theorem entered_targets (tables : Tables) (fresh : CallId) (frame : Frame) (result : CallbackContext × Frame)
    (entered : enterCallback tables fresh frame = some result) : result.2.Chooses ∧ result.2.targets = [] := by
  unfold enterCallback at entered
  split at entered
  all_goals cases entered
  all_goals exact ⟨trivial, rfl⟩

theorem run_targets (state : DriverState) (id : CallId) (choice : Choice) (call : Call) (result : SectionResult)
    (runs : Runs state id choice call result) (chooses : call.frame.Chooses) :
    result.frame.Chooses ∧ ∀ motor ∈ result.frame.targets, motor ∈ call.frame.targets ∨
      ∃ bus, call.frame = .resetBus bus .survey ∧ motor ∈ state.shared.motorsOnBus bus := by
  have ran := runs.ran
  have continues := frame_continues _ _ _ _ _ _ _ _ ran
  cases frame : call.frame with
  | resetBus bus pc =>
    rw [frame] at ran chooses
    obtain ⟨still, targets⟩ := reset_bus_targets _ _ _ _ bus pc result ran chooses
    exact ⟨still, fun motor inside => (targets motor inside).imp_right fun ⟨surveys, listed⟩ => ⟨bus, surveys ▸ rfl, listed⟩⟩
  | _ =>
    rw [frame] at continues
    cases next : result.frame with
    | resetBus bus pc =>
      rw [next] at continues
      exact continues.elim
    | _ => exact ⟨trivial, nofun⟩

theorem step_targets (state next : DriverState) (action : Action) (reached : Reachable system state) (targets : TargetsSurveyed state)
    (taken : step state action = some next) : TargetsSurveyed next := by
  have kept (id : CallId) (call : Call) (present : state.calls.find id = some call) :
      call.frame.Chooses ∧ ∀ bus pc, call.frame = .resetBus bus pc → ∀ motor ∈ pc.targets, SurveyedBy next id bus motor := by
    obtain ⟨chooses, surveyed⟩ := targets id call present
    exact ⟨chooses, fun bus pc frame motor inside => (surveyed bus pc frame motor inside).later taken⟩
  have none (id : CallId) (frame : Frame) (idle : frame.Chooses ∧ frame.targets = []) :
      frame.Chooses ∧ ∀ bus pc, frame = .resetBus bus pc → ∀ motor ∈ pc.targets, SurveyedBy next id bus motor := by
    refine ⟨idle.1, ?_⟩
    rintro bus pc rfl motor inside
    have empty : pc.targets = [] := idle.2
    rw [empty] at inside
    cases inside
  intro other otherCall found
  cases step_cases state next action taken with
  | begins action request notRun =>
    rw [World.find_start] at found
    split at found
    · cases found
      exact none _ _ (request_targets request)
    · exact kept other otherCall found
  | enters id call request context frame present entered =>
    rcases World.find_advance_cases state id other _ otherCall found with ⟨rfl, rfl⟩ | ⟨rfl, started⟩ | ⟨-, there⟩
    · exact none _ _ (entered_targets _ _ _ _ entered)
    · cases started
      exact none _ _ (request_targets request)
    · exact kept other otherCall there
  | runs id call choice result present ran =>
    rcases World.find_advance_cases state id other _ otherCall found with ⟨rfl, rfl⟩ | ⟨rfl, started⟩ | ⟨-, there⟩
    · obtain ⟨chooses, before⟩ := run_targets state other choice call result ⟨present, ran⟩ (targets other call present).1
      refine ⟨chooses, fun bus pc next motor inside => ?_⟩
      have continues := frame_continues _ _ _ _ _ _ _ _ ran
      rw [show result.frame = .resetBus bus pc from next] at before continues
      rcases before motor inside with old | ⟨surveyedBus, frame, listed⟩
      · cases frame : call.frame with
        | resetBus sameBus earlierPc =>
          rw [frame] at continues old
          obtain rfl : bus = sameBus := continues
          exact ((targets other call present).2 bus earlierPc frame motor old).later taken
        | _ =>
          rw [frame] at continues
          exact continues.elim
      · rw [frame] at continues
        obtain rfl : bus = surveyedBus := continues
        exact ⟨state, call, reached, present, frame, listed, .next state _ (.run other choice) .here trivial taken⟩
    · obtain ⟨request, -, rfl⟩ := Option.map_eq_some_iff.mp started
      exact none _ _ (request_targets request)
    · exact kept other otherCall there

theorem reachable_targets (state : DriverState) (reached : Reachable system state) : TargetsSurveyed state := by
  refine reachable_invariant_under system Always (Reachable system) TargetsSurveyed (fun _ known => known) ?_ ?_ state reached
  · rintro _ rfl id call present
    simp [initial] at present
  · intro state action next known _ targets _ taken
    exact step_targets state next action known targets taken

theorem reset_bus_nests (tables : Tables) (replyOf : CallId → Option Reply) (self fresh : CallId) (bus : Pointer)
    (pc : ResetBusPc) (result : SectionResult) (ran : runResetBus tables replyOf self fresh bus pc = some result)
    (request : Request) (nested : result.nested = some request) :
    ∃ motor ∈ pc.targets, request = .destroyDevice motor .motor ∨
      request = .migrateMotorIndex motor 1 ∧ ∃ key, tables.deviceKeys.find motor = some key ∧ key.kind = .motor ∧ key.bus = bus := by
  unfold runResetBus at ran
  repeat' split at ran
  all_goals cases ran
  all_goals cases nested
  · rename_i survivor motor rest
    exact ⟨motor, List.mem_cons_of_mem _ List.mem_cons_self, .inl rfl⟩
  · rename_i survivor _ key keyed on _
    exact ⟨survivor, List.mem_cons_self, .inr ⟨rfl, key, keyed, on.1, on.2.1⟩⟩

theorem reset_bus_returns (tables : Tables) (replyOf : CallId → Option Reply) (self fresh : CallId) (bus : Pointer)
    (pc : ResetBusPc) (result : SectionResult) (ran : runResetBus tables replyOf self fresh bus pc = some result)
    (accepted : result.frame = .finished (.verdict true)) : pc = .clear true ∧ result.effect = .clearResetting bus := by
  unfold runResetBus at ran
  repeat' split at ran
  all_goals cases ran
  all_goals cases accepted
  exact ⟨rfl, rfl⟩

structure Tables.SameDevices (tables next : Tables) : Prop where
  devices : next.devices = tables.devices
  deviceKeys : next.deviceKeys = tables.deviceKeys
  registrations : next.registrations = tables.registrations
  routes : next.routes = tables.routes
  claimRoutes : next.claimRoutes = tables.claimRoutes
  records : next.records = tables.records

/-- In every run, the section of a reset that decides for success finds no motor on the bus, or one live motor of index
one on the route of index one, and unless a migration commits there in between this holds when the reset returns.
Whatever it answers, no section of the reset changes the device or the route tables: it only has motors destroyed or moved
to index one that a survey of its own found on the bus, and moves none that is not registered there at that moment. -/
theorem reset_bus_law (state next : DriverState) (reached : Reachable system state) (id : CallId) (choice : Choice) (call : Call)
    (bus : Pointer) (pc : ResetBusPc) (present : state.calls.find id = some call) (frame : call.frame = .resetBus bus pc)
    (taken : step state (.run id choice) = some next) :
    ((∀ after, next.calls.find id = some after → after.frame = .resetBus bus (.clear true) →
        state.shared.IdOneOnly bus ∧ ∀ motor ∈ state.shared.motorsOnBus bus, ¬ state.shared.isDeleting motor) ∧
      (ReachableWith system Undisturbed state → replyOf next.calls id = some (.verdict true) → next.shared.IdOneOnly bus)) ∧
    state.shared.SameDevices next.shared ∧
    ∀ child, next.calls.find state.nextCall = some child → ∃ motor, SurveyedBy state id bus motor ∧
      (child.frame = (Request.destroyDevice motor .motor).frame ∨
        child.frame = (Request.migrateMotorIndex motor 1).frame ∧
          ∃ key, state.shared.deviceKeys.find motor = some key ∧ key.kind = .motor ∧ key.bus = bus) := by
  obtain ⟨agreement, surveyed⟩ := reachable_reset_ground Always state reached
  have targets := (reachable_targets state reached id call present).2 bus pc frame
  have known := surveyed id call present
  have grounded := agreement.ground.placed.grounded
  have agreementNext := reachable_agreement Always next (.next state next (.run id choice) reached trivial taken)
  cases step_cases state next _ taken with
  | begins action request notRun => exact absurd rfl (notRun id choice)
  | runs id call' choice result present' ran =>
    obtain rfl : call = call' := Option.some.inj (present.symm.trans present')
    rw [frame] at ran known
    have self := World.find_advance_self state id ⟨result.effect.apply state.shared, { call with frame := result.frame },
      result.nested.map (beginCall call.context)⟩ (grounded.numbered id call present)
    refine ⟨⟨fun after found decided => ?_, fun permitted returned => ?_⟩, ?_, fun child found => ?_⟩
    · rw [self] at found
      cases found
      obtain ⟨converged, live⟩ := reset_bus_decides _ agreement.agreed _ _ _ bus pc result ran known decided
      exact ⟨converged_id_one state agreement bus converged, fun motor inside => not_not_intro (live motor inside)⟩
    · have accepted := reply_of_finished _ _ _ _ self returned
      obtain ⟨rfl, effect⟩ := reset_bus_returns _ _ _ _ bus pc result ran accepted
      have succeeds := reachable_succeeds state permitted id call present
      rw [frame] at succeeds
      have converged : state.shared.Converged bus := succeeds
      refine converged_id_one _ agreementNext bus ?_
      rw [World.advance_shared, effect]
      exact ⟨converged.keyed, converged.alone⟩
    · rw [World.advance_shared]
      rcases reset_bus_quiet _ _ _ _ bus pc result ran with effect | effect | effect
      all_goals
        rw [effect]
        exact ⟨rfl, rfl, rfl, rfl, rfl, rfl⟩
    · rcases World.find_advance_cases state id state.nextCall _ child found with ⟨same, -⟩ | ⟨-, started⟩ | ⟨-, there⟩
      · exact absurd (grounded.numbered id call present) (by rw [same]; exact Nat.lt_irrefl _)
      · obtain ⟨request, nested, rfl⟩ := Option.map_eq_some_iff.mp started
        obtain ⟨motor, inside, cases⟩ := reset_bus_nests _ _ _ _ bus pc result ran request nested
        refine ⟨motor, targets motor inside, ?_⟩
        rcases cases with rfl | ⟨rfl, keyed⟩
        · exact .inl rfl
        · exact .inr ⟨rfl, keyed⟩
      · exact absurd (grounded.numbered _ child there) (Nat.lt_irrefl _)

def Frame.clearing : Frame → Option Pointer
  | .resetBus bus (.clear true) => some bus
  | _ => none

theorem Frame.clearing_iff {frame : Frame} {bus : Pointer} :
    frame.clearing = some bus ↔ frame = .resetBus bus (.clear true) := by
  unfold clearing
  split
  · simp
  · next other =>
      refine iff_of_false (fun found => by cases found) ?_
      rintro rfl
      exact other bus rfl

def resetRun : List Action := twoMotorsRun ++ .call (.resetBusMotorsToIdOne 1) :: runsOf 4 6 ++ runsOf 5 6 ++ runsOf 4 5

theorem two_motors_reset : ∃ state next, step state (.run 4 .proceed) = some next ∧ replyOf next.calls 4 = some (.verdict true) ∧
    next.shared.IdOneOnly 1 ∧ next.shared.motorsOnBus 1 = [2] ∧ state.shared.SameDevices next.shared := by
  have checked : (runChecked system undisturbed initial resetRun).any (fun state =>
      ((state.calls.find 4).any fun call => call.frame.clearing = some 1) &&
      (step state (.run 4 .proceed)).any fun next =>
        replyOf next.calls 4 = some (.verdict true) && next.shared.motorsOnBus 1 = [2]) = true := by decide +kernel
  obtain ⟨state, reached, facts⟩ := run_checked_found system Undisturbed undisturbed (fun _ _ passed => passed) resetRun initial
    (.start _ rfl) _ checked
  simp only [Bool.and_eq_true] at facts
  obtain ⟨resetting, steps⟩ := facts
  obtain ⟨call, present, inside⟩ := (Option.any_eq_true _ _).mp resetting
  obtain ⟨next, taken, returned⟩ := (Option.any_eq_true _ _).mp steps
  simp only [Bool.and_eq_true, decide_eq_true_eq] at returned
  have frame := Frame.clearing_iff.mp (of_decide_eq_true inside)
  have law := reset_bus_law state next (reachable_forget system Undisturbed state reached) 4 .proceed call 1 _ present frame taken
  exact ⟨state, next, taken, returned.1, law.1.2 reached returned.1, returned.2, law.2.1⟩

def occupiedRun : List Action :=
  .call (.createAdapter "can0") :: runsOf 0 2 ++ .call (.createBus ⟨0, 0⟩) :: runsOf 1 5 ++
    .call (.createDevice 1 (.motor 2)) :: runsOf 2 6 ++ .call (.createDevice 1 (.motor 3)) :: runsOf 3 6 ++
    .call (.createDevice 1 (.external 7 0 ⟨[1], false, by decide⟩)) :: runsOf 4 6

def failingReset : List Action := runsOf 5 7 ++ runsOf 6 6 ++ runsOf 5 3 ++ runsOf 7 3 ++ runsOf 5 2

theorem failing_reset_destroys : ¬ ∀ before after actions bus, Reachable system before →
    runActions system before (.call (.resetBusMotorsToIdOne bus) :: actions) = some after →
      (∀ action ∈ actions, ∃ id choice, action = .run id choice ∧ before.nextCall ≤ id) →
        replyOf after.calls before.nextCall = some (.verdict false) →
          after.shared.devices = before.shared.devices ∧ after.shared.routes = before.shared.routes := by
  intro claimed
  have checked : (runActions system initial occupiedRun).any (fun before =>
      before.nextCall = 5 &&
        (runActions system before (.call (.resetBusMotorsToIdOne 1) :: failingReset)).any fun after =>
          replyOf after.calls 5 = some (.verdict false) && after.shared.motorsOnBus 1 ≠ before.shared.motorsOnBus 1) = true := by
    decide +kernel
  obtain ⟨before, reached, facts⟩ := run_actions_found system occupiedRun initial (.start _ rfl) _ checked
  simp only [Bool.and_eq_true, decide_eq_true_eq] at facts
  obtain ⟨numbered, runs⟩ := facts
  obtain ⟨after, ran, outcome⟩ := (Option.any_eq_true _ _).mp runs
  simp only [Bool.and_eq_true, decide_eq_true_eq] at outcome
  have own : ∀ action ∈ failingReset, ∃ id choice, action = .run id choice ∧ before.nextCall ≤ id := by
    rw [numbered]
    intro action inside
    simp only [failingReset, runsOf, List.mem_append, List.mem_replicate] at inside
    obtain (((⟨-, rfl⟩ | ⟨-, rfl⟩) | ⟨-, rfl⟩) | ⟨-, rfl⟩) | ⟨-, rfl⟩ := inside
    all_goals exact ⟨_, _, rfl, by decide⟩
  have same := (claimed before after failingReset 1 reached ran own (numbered ▸ outcome.1)).1
  exact outcome.2 (by simp only [Tables.motorsOnBus, Tables.devicesOn, same])

end EncosDriver.Driver
