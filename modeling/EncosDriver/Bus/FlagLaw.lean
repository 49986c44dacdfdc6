import EncosDriver.Bus.FlagSafety

set_option autoImplicit false

namespace EncosDriver.Bus

open Lib Driver

def Elsewhere (bus : Pointer) (state next : BusState) : Prop :=
  next.shared.hasExternalDevice bus = state.shared.hasExternalDevice bus ∧
    ∀ key device, key.bus = bus → key.kind ≠ .motor →
      (next.shared.tables.Registered key device ↔ state.shared.tables.Registered key device)

def Own (get : CallId) (state : BusState) : Action → Prop
  | .run id _ => id = get
  | .driver (.run creation _) =>
    ∃ bus recipe wasExternal, state.calls.find get = some (.get bus recipe (.await wasExternal creation))
  | _ => False

def Alone (get : CallId) (bus : Pointer) (state : BusState) (action : Action) : Prop :=
  Own get state action ∨ ∀ next, step state action = some next → Elsewhere bus state next

def runsFrom (first : BusState) : System BusState Action := { system with init := fun state => state = first }

def Fewer (first now : Shared) (bus : Pointer) : Prop :=
  ∀ key device, key.bus = bus → key.kind ≠ .motor → now.tables.Registered key device → first.tables.Registered key device

def succeeded : Driver.Frame → Prop
  | .createDevice _ _ (.endBus _ reply) | .createDevice _ _ (.endAdapter _ reply) | .finished reply => ∃ device, reply = .object device
  | _ => False

def InCreation (bus : Pointer) (recipe : DeviceRecipe) (frame : Driver.Frame) : Prop :=
  (∃ pc, frame = .createDevice bus recipe pc) ∨ ∃ reply, frame = .finished reply

def Creates (first now : Shared) (bus : Pointer) (recipe : DeviceRecipe) (creation : CallId) : Prop :=
  ∃ call, now.driver.calls.find creation = some call ∧ InCreation bus recipe call.frame ∧
    (Fewer first now bus ∨ succeeded call.frame)

def Attempt (first now : Shared) (bus : Pointer) : Frame → Prop
  | .get on recipe pc =>
    on = bus ∧
      match pc with
      | .acquire | .readFlag => now.hasExternalDevice bus = first.hasExternalDevice bus ∧ Fewer first now bus
      | .setFlag wasExternal =>
        wasExternal = first.hasExternalDevice bus ∧ now.hasExternalDevice bus = first.hasExternalDevice bus ∧
          Fewer first now bus
      | .create wasExternal | .check wasExternal =>
        wasExternal = first.hasExternalDevice bus ∧ now.hasExternalDevice bus = true ∧ Fewer first now bus
      | .await wasExternal creation =>
        wasExternal = first.hasExternalDevice bus ∧ now.hasExternalDevice bus = true ∧
          Creates first now bus recipe creation
      | .clear => first.hasExternalDevice bus = false
      | .leave reply => reply = .thrown → now.hasExternalDevice bus = first.hasExternalDevice bus
  | .finished reply => reply = .thrown → now.hasExternalDevice bus = first.hasExternalDevice bus
  | .detect _ _ => False

theorem registered_external (tables : Tables) (bus : Pointer) (has : hasRegisteredExternalDevice tables bus = true) :
    ∃ key device, key.bus = bus ∧ key.kind ≠ .motor ∧ tables.Registered key device := by
  unfold hasRegisteredExternalDevice at has
  split at has
  · cases has
  · split at has
    · cases has
    · obtain ⟨⟨key, device⟩, inside, matching⟩ := List.any_eq_true.mp has
      simp only [ne_eq, not_not, Bool.and_eq_true, decide_eq_true_eq] at matching
      obtain ⟨⟨onBus, other⟩, unmarked⟩ := matching
      exact ⟨key, device, onBus, other, (Table.mem_to_list _ key device).mp inside, unmarked⟩

variable (first now next : Shared)

theorem fewer_same (bus : Pointer)
    (same : ∀ key device, key.bus = bus → key.kind ≠ .motor →
      next.tables.Registered key device → now.tables.Registered key device)
    (fewer : Fewer first now bus) : Fewer first next bus :=
  fun key device onBus other registered => fewer key device onBus other (same key device onBus other registered)

theorem attempt_elsewhere (bus : Pointer) (frame : Frame)
    (flag : next.hasExternalDevice bus = now.hasExternalDevice bus)
    (same : ∀ key device, key.bus = bus → key.kind ≠ .motor →
      next.tables.Registered key device → now.tables.Registered key device)
    (still : ∀ on recipe wasExternal creation call, frame = .get on recipe (.await wasExternal creation) →
      now.driver.calls.find creation = some call → InCreation bus recipe call.frame →
      next.driver.calls.find creation = some call)
    (attempt : Attempt first now bus frame) : Attempt first next bus frame := by
  cases frame with
  | finished reply => exact fun thrown => flag.trans (attempt thrown)
  | detect on pc => exact attempt
  | get on recipe pc =>
    obtain ⟨rfl, attempt⟩ := attempt
    refine ⟨rfl, ?_⟩
    cases pc with
    | acquire | readFlag => exact ⟨flag.trans attempt.1, fewer_same first now next on same attempt.2⟩
    | setFlag was | create was | check was =>
      exact ⟨attempt.1, flag.trans attempt.2.1, fewer_same first now next on same attempt.2.2⟩
    | await was creation =>
      obtain ⟨before, set, call, found, inside, outcome⟩ := attempt
      refine ⟨before, flag.trans set, call, still on recipe was creation call rfl found inside, inside, ?_⟩
      exact outcome.imp_left (fewer_same first now next on same)
    | clear => exact attempt
    | leave reply => exact fun thrown => flag.trans (attempt thrown)

theorem attempt_section (fails : Bool) (bus : Pointer) (recipe : DeviceRecipe) (pc : GetPc)
    (after : Frame)
    (occupied : (∃ key device, key.bus = bus ∧ key.kind ≠ .motor ∧ first.tables.Registered key device) →
      first.hasExternalDevice bus = true)
    (attempt : Attempt first now bus (.get bus recipe pc)) (ran : runGet now fails bus recipe pc = some (next, after)) :
    Attempt first next bus after := by
  obtain ⟨-, attempt⟩ := attempt
  cases pc with
  | acquire =>
    simp only [runGet] at ran
    split at ran
    all_goals cases ran
    · exact ⟨rfl, attempt⟩
    · exact fun _ => attempt.1
  | readFlag =>
    simp only [runGet] at ran
    split at ran
    all_goals cases ran
    · exact ⟨rfl, attempt.1, attempt⟩
    · exact ⟨rfl, fun _ => attempt.1⟩
  | setFlag was =>
    cases ran
    exact ⟨rfl, attempt.1, set_flag_same now bus true, attempt.2.2⟩
  | create was =>
    simp only [runGet] at ran
    split at ran
    all_goals cases ran
    · exact ⟨rfl, attempt⟩
    · refine ⟨rfl, attempt.1, attempt.2.1, beginCall {} (.createDevice bus recipe), ?_, .inl ⟨.enter, rfl⟩, .inl attempt.2.2⟩
      rw [World.find_start, if_pos rfl]
  | await was creation =>
    obtain ⟨before, set, call, found, inside, outcome⟩ := attempt
    simp only [runGet] at ran
    cases replied : replyOf now.driver.calls creation with
    | none => simp [replied] at ran
    | some reply =>
      cases reply with
      | object device =>
        simp only [replied] at ran
        cases ran
        exact ⟨rfl, fun other => by cases other⟩
      | _ =>
        simp only [replied] at ran
        cases ran
        refine ⟨rfl, before, set, outcome.resolve_right ?_⟩
        intro returned
        obtain ⟨context, frame⟩ := call
        simp only [replyOf, found] at replied
        split at replied
        · rename_i finished
          cases finished
          cases replied
          obtain ⟨device, impossible⟩ := returned
          cases impossible
        · cases replied
  | check was =>
    obtain ⟨before, set, fewer⟩ := attempt
    simp only [runGet] at ran
    by_cases stays : (was || hasRegisteredExternalDevice now.tables bus) = true
    · rw [if_pos stays] at ran
      cases ran
      refine ⟨rfl, fun _ => set.trans ?_⟩
      rcases Bool.or_eq_true_iff.mp stays with external | has
      · exact external.symm.trans before
      · obtain ⟨key, device, onBus, other, registered⟩ := registered_external now.tables bus has
        exact (occupied ⟨key, device, onBus, other, fewer key device onBus other registered⟩).symm
    · rw [if_neg stays] at ran
      cases ran
      refine ⟨rfl, before.symm.trans ?_⟩
      rw [Bool.not_eq_true, Bool.or_eq_false_iff] at stays
      exact stays.1
  | clear =>
    cases ran
    exact ⟨rfl, fun _ => (set_flag_same now bus false).trans attempt.symm⟩
  | leave reply =>
    cases ran
    exact attempt

theorem creation_section (tables : Tables) (replyOf : CallId → Option Reply) (self fresh : CallId) (choice : Choice)
    (context : CallbackContext) (frame : Driver.Frame) (result : SectionResult) (bus : Pointer) (recipe : DeviceRecipe)
    (ran : Driver.runFrame tables replyOf self fresh choice context frame = some result)
    (inside : InCreation bus recipe frame) :
    InCreation bus recipe result.frame ∧ gloveBus frame result.frame = none ∧
      (succeeded frame ∨ (∃ on made, result.effect = .commitDevice self on made) → succeeded result.frame) := by
  rcases inside with ⟨pc, rfl⟩ | ⟨reply, rfl⟩
  · simp only [Driver.runFrame] at ran
    unfold runCreateDevice draining at ran
    repeat' split at ran
    all_goals cases ran
    all_goals simp [InCreation, gloveBus, succeeded]
  · cases ran

theorem driver_other_call (driver next : DriverState) (action : Driver.Action) (id : CallId) (call : Call)
    (numbered : World.Numbered driver) (taken : Driver.step driver action = some next)
    (present : driver.calls.find id = some call) (closed : ∀ tables fresh, enterCallback tables fresh call.frame = none)
    (not : ∀ choice, action ≠ .run id choice) : next.calls.find id = some call := by
  have old := numbered id call present
  have steps := step_cases driver next action taken
  cases steps with
  | begins action request notRun =>
    rw [World.find_start, if_neg (Nat.ne_of_lt old)]
    exact present
  | enters other entering request context frame found entered =>
    have different : id ≠ other := by
      rintro rfl
      rw [present, Option.some.injEq] at found
      rw [← found, closed] at entered
      cases entered
    rw [World.find_advance_other driver other id _ different old]
    exact present
  | runs other running choice result found ran =>
    have different : id ≠ other := by
      rintro rfl
      exact not choice rfl
    rw [World.find_advance_other driver other id _ different old]
    exact present

theorem in_creation_closed (bus : Pointer) (recipe : DeviceRecipe) (frame : Driver.Frame) (inside : InCreation bus recipe frame)
    (tables : Tables) (fresh : CallId) : enterCallback tables fresh frame = none := by
  rcases inside with ⟨pc, rfl⟩ | ⟨reply, rfl⟩
  · rfl
  · rfl

theorem run_driver_calls (shared next : Shared) (self : CallId) (fails : Bool) (frame after : Frame)
    (numbered : World.Numbered shared.driver) (ran : runFrame shared self fails frame = some (next, after)) (id : CallId)
    (call : Call) (present : shared.driver.calls.find id = some call) : next.driver.calls.find id = some call := by
  have old := Nat.ne_of_lt (numbered id call present)
  cases frame with
  | finished reply => cases ran
  | detect bus pc =>
    simp only [runFrame] at ran
    unfold runDetect at ran
    repeat' split at ran
    all_goals cases ran
    all_goals exact present
  | get bus recipe pc =>
    simp only [runFrame] at ran
    unfold runGet at ran
    repeat' split at ran
    all_goals cases ran
    all_goals first
      | exact present
      | rw [World.find_start, if_neg old]
        exact present

theorem attempt_creation (first : Shared) (state : BusState) (creation : CallId) (choice : Choice) (next : DriverState)
    (bus : Pointer) (recipe : DeviceRecipe) (was : Bool) (orderly : Orderly state)
    (taken : Driver.step state.shared.driver (.run creation choice) = some next)
    (attempt : Attempt first state.shared bus (.get bus recipe (.await was creation))) :
    Attempt first (driverMoved state.shared (.run creation choice) next) bus (.get bus recipe (.await was creation)) := by
  obtain ⟨-, before, set, call, found, inside, outcome⟩ := attempt
  have numbered := orderly.consistent.grounded.numbered
  have steps := step_cases _ next _ taken
  cases steps with
  | begins action request notRun => exact absurd rfl (notRun creation choice)
  | runs id running choice result present ran =>
    rw [found] at present
    cases present
    obtain ⟨stays, unflagged, returns⟩ := creation_section _ _ _ _ choice _ _ result bus recipe ran inside
    have runs : Runs state.shared.driver creation choice call result := ⟨found, ran⟩
    have moved := World.find_advance_self state.shared.driver creation
      ⟨result.effect.apply state.shared.driver.shared, { call with frame := result.frame },
        result.nested.map (beginCall call.context)⟩ (numbered creation call found)
    refine ⟨rfl, before, driver_moved_flag _ _ _ bus (.inl set), { call with frame := result.frame }, ?_, stays, ?_⟩
    · rw [driver_moved_driver]
      exact moved
    · by_cases done : succeeded call.frame ∨ ∃ on made, result.effect = .commitDevice creation on made
      · exact .inr (returns done)
      · refine .inl (fewer_same first state.shared _ bus ?_ (outcome.resolve_right fun made => done (.inl made)))
        intro key device onBus other registered
        rw [Shared.tables, driver_moved_driver, World.advance_shared] at registered
        rcases run_registered _ creation choice call result orderly.consistent runs key device other registered with
          held | ⟨on, made, committed, -, -⟩
        · exact held
        · exact absurd (.inr ⟨on, made, committed⟩) done

theorem attempt_step (first : Shared) (get : CallId) (bus : Pointer) (state next : BusState) (action : Action) (frame : Frame)
    (occupied : (∃ key device, key.bus = bus ∧ key.kind ≠ .motor ∧ first.tables.Registered key device) →
      first.hasExternalDevice bus = true)
    (orderly : Orderly state) (alone : Alone get bus state action) (taken : step state action = some next)
    (present : state.calls.find get = some frame) (attempt : Attempt first state.shared bus frame) :
    ∃ after, next.calls.find get = some after ∧ Attempt first next.shared bus after := by
  have old := orderly.numbered get frame present
  have elsewhere (not : ¬ Own get state action) (calls : next.calls.find get = some frame)
      (still : ∀ on recipe was creation call, frame = .get on recipe (.await was creation) →
        state.shared.driver.calls.find creation = some call → InCreation bus recipe call.frame →
        next.shared.driver.calls.find creation = some call) :
      ∃ after, next.calls.find get = some after ∧ Attempt first next.shared bus after := by
    obtain ⟨flag, same⟩ := alone.resolve_left not next taken
    exact ⟨frame, calls, attempt_elsewhere first state.shared next.shared bus frame flag
      (fun key device onBus other => (same key device onBus other).mp) still attempt⟩
  have steps := bus_step_cases state next action taken
  cases steps with
  | begins request =>
    refine elsewhere not_false ?_ (fun _ _ _ _ _ _ found _ => found)
    rw [World.find_start, if_neg (Nat.ne_of_lt old)]
    exact present
  | runs id fails running after shared found ran =>
    by_cases own : id = get
    · subst own
      rw [present] at found
      cases found
      refine ⟨after, World.find_advance_self state id _ old, ?_⟩
      rw [World.advance_shared]
      cases frame with
      | finished reply => cases ran
      | detect on pc => exact attempt.elim
      | get on recipe pc =>
        have same := attempt.1
        subst same
        exact attempt_section first state.shared shared fails on recipe pc after occupied attempt ran
    · refine elsewhere own ?_ ?_
      · rw [World.find_advance_other state id get _ (Ne.symm own) old]
        exact present
      · intro on recipe was creation call _ there _
        rw [World.advance_shared]
        exact run_driver_calls state.shared shared id fails running after orderly.consistent.grounded.numbered ran
          creation call there
  | moves action moved may ran =>
    by_cases own : Own get state (.driver action)
    · refine ⟨frame, present, ?_⟩
      cases action with
      | run creation choice =>
        obtain ⟨on, recipe, was, waits⟩ := own
        rw [present] at waits
        cases waits
        have same := attempt.1
        subst same
        exact attempt_creation first state creation choice moved on recipe was orderly ran attempt
      | _ => exact own.elim
    · refine elsewhere own present ?_
      rintro on recipe was creation call rfl there inside
      rw [driver_moved_driver]
      refine driver_other_call _ moved action creation call orderly.consistent.grounded.numbered ran there
        (in_creation_closed bus recipe call.frame inside) ?_
      rintro choice rfl
      exact own ⟨on, recipe, was, present⟩

theorem attempt_run (first final : BusState) (get : CallId) (bus : Pointer) (recipe : DeviceRecipe) (orderly : Orderly first)
    (flagged : Flagged first) (begun : first.calls.find get = some (.get bus recipe .acquire))
    (reached : ReachableWith (runsFrom first) (Alone get bus) final) :
    ∃ frame, final.calls.find get = some frame ∧ Attempt first.shared final.shared bus frame := by
  have invariant : Orderly final ∧
      ∃ frame, final.calls.find get = some frame ∧ Attempt first.shared final.shared bus frame := by
    refine reachable_invariant (runsFrom first) (Alone get bus) (fun state => Orderly state ∧
      ∃ frame, state.calls.find get = some frame ∧ Attempt first.shared state.shared bus frame) ?_ ?_ final reached
    · rintro _ rfl
      exact ⟨orderly, _, begun, rfl, rfl, fun _ _ _ _ registered => registered⟩
    · rintro state action next ⟨orderly, frame, present, attempt⟩ alone taken
      exact ⟨step_orderly state next action orderly (bus_step_cases state next action taken),
        attempt_step first.shared get bus state next action frame (flagged.occupied bus) orderly alone taken present attempt⟩
  exact invariant.2

/-- The flag stands for every device that is not a motor, and a failed call that was alone restores it, in the runs that
never clear the flag of a bus on which such a device is registered or being created. -/
theorem external_flag_law (state : BusState) (reached : ReachableWith system Spares state) :
    (∀ bus key device, key.bus = bus → key.kind ≠ .motor → state.shared.tables.Registered key device →
      state.shared.hasExternalDevice bus = true) ∧
    ∀ get bus recipe final, state.calls.find get = some (.get bus recipe .acquire) →
      ReachableWith (runsFrom state) (Alone get bus) final → final.calls.find get = some (.finished .thrown) →
      final.shared.hasExternalDevice bus = state.shared.hasExternalDevice bus := by
  obtain ⟨orderly, flagged⟩ := reachable_flagged state reached
  refine ⟨fun bus key device onBus other registered => flagged.occupied bus ⟨key, device, onBus, other, registered⟩, ?_⟩
  intro get bus recipe final begun alone failed
  obtain ⟨frame, found, attempt⟩ := attempt_run state final get bus recipe orderly flagged begun alone
  rw [failed] at found
  cases found
  exact attempt rfl

def setUp : List Action :=
  [.driver (.call (.createAdapter "can0")), .driver (.run 0 .proceed), .driver (.run 0 .proceed),
    .driver (.call (.createBus ⟨0, 0⟩)), .driver (.run 1 .proceed), .driver (.run 1 .proceed), .driver (.run 1 .proceed),
    .driver (.run 1 .proceed), .driver (.run 1 .proceed)]

def gotBattery (get : CallId) : List Action :=
  [.request (.getBattery 1 3), .run get false, .run get false, .run get false, .run get false, .driver (.run 2 .proceed),
    .driver (.run 2 .proceed), .driver (.run 2 .proceed), .driver (.run 2 .proceed), .driver (.run 2 .proceed),
    .driver (.run 2 .proceed), .run get false, .run get false]

def batteryKey : DeviceKey := ⟨1, .battery, 3, 0, 0⟩

def neverTakesBack (state : BusState) : Action → Bool
  | .run id _ =>
    match state.calls.find id with
    | some (.detect _ (.write false)) => false
    | some (.get _ _ .clear) => false
    | _ => true
  | _ => true

theorem never_takes_back_spares (state : BusState) (action : Action) (never : neverTakesBack state action = true) :
    Spares state action := by
  intro bus takes
  cases action with
  | run id fails =>
    rcases takes with found | ⟨recipe, found⟩
    · simp [neverTakesBack, found] at never
    · simp [neverTakesBack, found] at never
  | _ => exact takes.elim

theorem external_flag_law_failing :
    ∃ state final, ReachableWith (runsFrom state) (Alone 1 1) final ∧ final.calls.find 1 = some (.finished .thrown) ∧
      state.shared.hasExternalDevice 1 = true ∧
      final.shared.hasExternalDevice 1 = state.shared.hasExternalDevice 1 := by
  -- The battery is there; then GetImu fails in its constructor.
  have checked : (runChecked system neverTakesBack initial (setUp ++ gotBattery 0 ++ [.request (.getImu 1 0)])).any
      (fun state =>
        decide (state.calls.find 1 = some (.get 1 (.imu 0) .acquire) ∧
          state.shared.tables.devices.find batteryKey = some 2 ∧ state.shared.tables.deleting.find 2 = none) &&
        (runChecked (runsFrom state) (fun _ action => match action with | .run id _ => id = 1 | _ => false) state
          [.run 1 false, .run 1 false, .run 1 false, .run 1 true, .run 1 false, .run 1 false]).any
          fun final => decide (final.calls.find 1 = some (.finished .thrown))) = true := by
    decide +kernel
  obtain ⟨state, reached, facts⟩ := run_checked_found system Spares neverTakesBack never_takes_back_spares _ initial
    (.start initial rfl) _ checked
  obtain ⟨there, onwards⟩ := Bool.and_eq_true_iff.mp facts
  obtain ⟨begun, registered⟩ := of_decide_eq_true there
  obtain ⟨final, alone, failed⟩ := run_checked_found (runsFrom state) (Alone 1 1) _ (by
    intro state action own
    cases action with
    | run id fails =>
      have same : id = 1 := of_decide_eq_true own
      exact .inl same
    | _ => cases own) _ state (.start state rfl) _ onwards
  have thrown := of_decide_eq_true failed
  have law := external_flag_law state reached
  exact ⟨state, final, alone, thrown, law.1 1 batteryKey 2 rfl (by decide) registered, law.2 1 1 _ final begun alone thrown⟩

def Frame.isFinished : Frame → Bool
  | .finished _ => true
  | _ => false

def driverFinished : Driver.Frame → Bool
  | .finished _ => true
  | _ => false

def quiet (state : BusState) : Bool :=
  (state.calls.toList.all fun entry => entry.2.isFinished) &&
    state.shared.driver.calls.toList.all fun entry => driverFinished entry.2.frame

/-- The detection finds no device, the battery is registered while it sleeps, and it then clears the flag. -/
theorem external_flag_broken :
    ¬ ∀ state, Reachable system state → quiet state = true → ∀ bus key device, key.bus = bus → key.kind ≠ .motor →
      state.shared.tables.Registered key device → state.shared.hasExternalDevice bus = true := by
  intro law
  obtain ⟨state, reached, facts⟩ := run_actions_found system
    (setUp ++ [.request (.detectExternalDevice 1), .run 0 false, .run 0 false, .run 0 false] ++ gotBattery 1 ++
      [.run 0 false, .run 0 false, .run 0 false, .run 0 false])
    initial (.start initial rfl)
    (fun state => decide (quiet state = true ∧ state.shared.tables.devices.find batteryKey = some 2 ∧
      state.shared.tables.deleting.find 2 = none ∧ state.shared.hasExternalDevice 1 = false)) (by decide +kernel)
  obtain ⟨calm, registered, unmarked, cleared⟩ := of_decide_eq_true facts
  have held := law state reached calm 1 batteryKey 2 rfl (by decide) ⟨registered, unmarked⟩
  rw [cleared] at held
  cases held

end EncosDriver.Bus
