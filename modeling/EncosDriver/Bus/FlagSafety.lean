import EncosDriver.Bus.ExternalDevice

set_option autoImplicit false

namespace EncosDriver.Bus

open Lib Driver

def mayCommit : CreateDevicePc → Bool
  | .enter | .await _ | .construct _ | .publish _ | .commit _ => true
  | _ => false

def Creating (bus : Pointer) : Driver.Frame → Prop
  | .createDevice on recipe pc => on = bus ∧ recipe.kind ≠ .motor ∧ mayCommit pc = true
  | .createGlove _ pc =>
    match pc with
    | .createPart parts | .awaitPart parts _ => parts.buses.getLast? = some bus
    | _ => False
  | _ => False

def DriverCreating (driver : DriverState) (bus : Pointer) : Prop :=
  ∃ id call, driver.calls.find id = some call ∧ Creating bus call.frame

def Underway (state : BusState) (bus : Pointer) : Prop :=
  DriverCreating state.shared.driver bus ∨
    ∃ id recipe wasExternal, state.calls.find id = some (.get bus recipe (.create wasExternal))

theorem glove_part_bus (parts : GloveParts) (part : Pointer × DeviceRecipe) (next : nextGlovePart parts = some part) :
    parts.buses.getLast? = some part.1 := by
  unfold nextGlovePart at next
  cases last : parts.buses.getLast? with
  | none => simp [last] at next
  | some bus =>
    simp only [last] at next
    split at next
    · rw [← Option.some.inj next]
    · split at next
      · rw [← Option.some.inj next]
      · cases next

theorem glove_add_buses (parts : GloveParts) (part : Pointer) : (parts.add part).buses = parts.buses := by
  unfold GloveParts.add
  split
  · rfl
  · rfl

variable (tables : Tables)

theorem run_creating (replyOf : CallId → Option Reply) (self fresh : CallId) (choice : Choice)
    (context : CallbackContext) (frame : Driver.Frame) (result : SectionResult) (bus : Pointer)
    (ran : Driver.runFrame tables replyOf self fresh choice context frame = some result)
    (creating : Creating bus result.frame) : Creating bus frame ∨ gloveBus frame result.frame = some bus := by
  cases frame with
  | finished reply => cases ran
  | createDevice on recipe pc =>
    simp only [Driver.runFrame] at ran
    unfold runCreateDevice draining at ran
    repeat' split at ran
    all_goals cases ran
    all_goals simp_all [Creating, mayCommit]
  | createGlove key pc =>
    simp only [Driver.runFrame] at ran
    unfold runCreateGlove draining at ran
    repeat' split at ran
    all_goals cases ran
    all_goals simp_all [Creating, gloveBus, glove_add_buses]
  | _ =>
    simp only [Driver.runFrame] at ran
    first
      | unfold runCreateAdapter at ran
      | unfold runCreateBus draining at ran
      | unfold runDestroyDevice draining at ran
      | unfold runDestroyBus draining at ran
      | unfold runDestroyGlove draining at ran
      | unfold runDestroyAdapter draining at ran
      | unfold runReserve at ran
      | unfold runRelease at ran
      | unfold runMigrate at ran
      | unfold runResetBus at ran
      | unfold runConfigure at ran
      | unfold runOperate at ran
      | unfold runReceive afterRoutes at ran
    repeat' split at ran
    all_goals cases ran
    all_goals cases creating

theorem nested_creating (replyOf : CallId → Option Reply) (self fresh : CallId) (choice : Choice)
    (context : CallbackContext) (frame : Driver.Frame) (result : SectionResult) (bus : Pointer) (request : Driver.Request)
    (ran : Driver.runFrame tables replyOf self fresh choice context frame = some result)
    (nested : result.nested = some request) (creating : Creating bus request.frame) : Creating bus frame := by
  cases frame with
  | finished reply => cases ran
  | createGlove key pc =>
    simp only [Driver.runFrame] at ran
    unfold runCreateGlove draining at ran
    repeat' split at ran
    all_goals cases ran
    all_goals cases nested
    all_goals first
      | cases creating; done
      | obtain ⟨rfl, -⟩ := creating
        exact glove_part_bus _ _ ‹_›
  | _ =>
    simp only [Driver.runFrame] at ran
    first
      | unfold runCreateAdapter at ran
      | unfold runCreateBus draining at ran
      | unfold runCreateDevice draining at ran
      | unfold runDestroyDevice draining at ran
      | unfold runDestroyBus draining at ran
      | unfold runDestroyGlove draining at ran
      | unfold runDestroyAdapter draining at ran
      | unfold runReserve at ran
      | unfold runRelease at ran
      | unfold runMigrate at ran
      | unfold runResetBus at ran
      | unfold runConfigure at ran
      | unfold runOperate at ran
      | unfold runReceive afterRoutes at ran
    repeat' split at ran
    all_goals cases ran
    all_goals cases nested
    all_goals cases creating

theorem client_creating (bus : Pointer) (request : Driver.Request)
    (motors : ∀ on recipe, request = .createDevice on recipe → recipe.kind = .motor) : ¬ Creating bus request.frame := by
  intro creating
  cases request with
  | createDevice on recipe => exact creating.2.1 (motors on recipe rfl)
  | _ => cases creating

theorem start_creating (driver : DriverState) (call : Call) (bus : Pointer) (not : ¬ Creating bus call.frame)
    (creating : DriverCreating (driver.start call) bus) : DriverCreating driver bus := by
  obtain ⟨id, holder, found, creates⟩ := creating
  rw [World.find_start] at found
  by_cases fresh : id = driver.nextCall
  · rw [if_pos fresh, Option.some.injEq] at found
    exact absurd (found ▸ creates) not
  · rw [if_neg fresh] at found
    exact ⟨id, holder, found, creates⟩

theorem entered_creating (fresh : CallId) (frame : Driver.Frame) (result : CallbackContext × Driver.Frame)
    (bus : Pointer) (entered : enterCallback tables fresh frame = some result) : ¬ Creating bus result.2 := by
  unfold enterCallback at entered
  split at entered
  all_goals cases entered
  all_goals exact not_false

variable (driver next : DriverState)

theorem callback_creating (delivery : CallId) (request : Driver.Request) (bus : Pointer)
    (may : clientMay (.callback delivery request) = true)
    (taken : Driver.step driver (.callback delivery request) = some next) (creating : DriverCreating next bus) :
    DriverCreating driver bus := by
  have not : ¬ Creating bus request.frame := by
    refine client_creating bus request ?_
    rintro on recipe rfl
    exact of_decide_eq_true may
  simp only [Driver.step] at taken
  by_cases allowed : request.isPublic
  · rw [if_pos allowed] at taken
    cases present : driver.calls.find delivery with
    | none => simp [present] at taken
    | some call =>
      simp only [present, callbackMove] at taken
      cases entered : enterCallback driver.shared driver.nextCall call.frame with
      | none => simp [entered] at taken
      | some result =>
        simp only [entered, Option.map_some] at taken
        cases taken
        obtain ⟨id, holder, found, creates⟩ := creating
        rcases World.find_advance_cases driver delivery id _ holder found with ⟨-, rfl⟩ | ⟨-, started⟩ | ⟨-, kept⟩
        · exact absurd creates (entered_creating _ _ _ _ bus entered)
        · cases started
          exact absurd creates not
        · exact ⟨id, holder, kept, creates⟩
  · rw [if_neg allowed] at taken
    cases taken

theorem section_creating (id : CallId) (choice : Choice) (bus : Pointer)
    (numbered : World.Numbered driver) (taken : Driver.step driver (.run id choice) = some next)
    (creating : DriverCreating next bus) :
    DriverCreating driver bus ∨ flaggedBy driver next (.run id choice) = some bus := by
  have steps := step_cases driver next _ taken
  cases steps with
  | begins action request notRun => exact absurd rfl (notRun id choice)
  | runs id call choice result present ran =>
    obtain ⟨other, holder, found, creates⟩ := creating
    rcases World.find_advance_cases driver id other _ holder found with ⟨rfl, rfl⟩ | ⟨-, started⟩ | ⟨-, kept⟩
    · rcases run_creating _ _ _ _ choice _ _ result bus ran creates with before | flagged
      · exact .inl ⟨other, call, present, before⟩
      · refine .inr ?_
        simp only [flaggedBy, present, World.find_advance_self driver other _ (numbered other call present)]
        exact flagged
    · obtain ⟨request, nested, rfl⟩ := Option.map_eq_some_iff.mp started
      exact .inl ⟨id, call, present, nested_creating _ _ _ _ choice _ _ result bus request ran nested creates⟩
    · exact .inl ⟨other, holder, kept, creates⟩

theorem driver_creating (action : Driver.Action) (bus : Pointer)
    (numbered : World.Numbered driver) (may : clientMay action = true) (taken : Driver.step driver action = some next)
    (creating : DriverCreating next bus) :
    DriverCreating driver bus ∨ flaggedBy driver next action = some bus := by
  cases action with
  | call request =>
    simp only [Driver.step] at taken
    by_cases allowed : request.isPublic
    · rw [if_pos allowed] at taken
      cases taken
      refine .inl (start_creating driver _ bus (client_creating bus request ?_) creating)
      rintro on recipe rfl
      exact of_decide_eq_true may
    · rw [if_neg allowed] at taken
      cases taken
  | receive adapter messages =>
    simp only [Driver.step] at taken
    cases taken
    exact .inl (start_creating driver _ bus (by exact not_false) creating)
  | callback delivery request => exact .inl (callback_creating driver next delivery request bus may taken creating)
  | run id choice => exact section_creating driver next id choice bus numbered taken creating

theorem driver_registered (action : Driver.Action) (consistent : Consistent driver)
    (taken : Driver.step driver action = some next) (key : DeviceKey) (device : Pointer) (other : key.kind ≠ .motor)
    (registered : next.shared.Registered key device) :
    driver.shared.Registered key device ∨ DriverCreating driver key.bus := by
  have steps := step_cases driver next action taken
  cases steps with
  | begins action request notRun => exact .inl registered
  | enters id call request context frame present entered =>
    rw [World.advance_shared] at registered
    exact .inl registered
  | runs id call choice result present ran =>
    rw [World.advance_shared] at registered
    have runs : Runs driver id choice call result := ⟨present, ran⟩
    rcases run_registered driver id choice call result consistent runs key device other registered with
      before | ⟨bus, recipe, committed, rfl, rfl⟩
    · exact .inl before
    · have from' := runs_from driver device choice call result runs
      rw [committed] at from'
      obtain ⟨-, creation, frame, -⟩ := from'
      refine .inr ⟨device, call, present, ?_⟩
      rw [frame]
      exact ⟨rfl, other, rfl⟩

def takesBack (state : BusState) (bus : Pointer) : Action → Prop
  | .run id _ =>
    state.calls.find id = some (.detect bus (.write false)) ∨
      ∃ recipe, state.calls.find id = some (.get bus recipe .clear)
  | _ => False

def Occupied (state : BusState) (bus : Pointer) : Prop :=
  ∃ key device, key.bus = bus ∧ key.kind ≠ .motor ∧ state.shared.tables.Registered key device

-- The flag of a bus is cleared only while no device but motors is registered on
-- it and no creation of one is underway.
def Spares (state : BusState) (action : Action) : Prop :=
  ∀ bus, takesBack state bus action → ¬ Occupied state bus ∧ ¬ Underway state bus

structure Orderly (state : BusState) : Prop where
  consistent : Consistent state.shared.driver
  numbered : World.Numbered state

structure Flagged (state : BusState) : Prop where
  occupied : ∀ bus, Occupied state bus → state.shared.hasExternalDevice bus = true
  underway : ∀ bus, Underway state bus → state.shared.hasExternalDevice bus = true

variable (shared : Shared)

@[simp] theorem set_flag_same (bus : Pointer) (value : Bool) :
    (shared.setExternalDeviceFlag bus value).hasExternalDevice bus = value := by
  simp [Shared.setExternalDeviceFlag, Shared.hasExternalDevice]

@[simp] theorem set_flag_other (bus other : Pointer) (value : Bool) (different : other ≠ bus) :
    (shared.setExternalDeviceFlag bus value).hasExternalDevice other = shared.hasExternalDevice other := by
  simp [Shared.setExternalDeviceFlag, Shared.hasExternalDevice, different]

theorem driver_moved_flag (action : Driver.Action) (next : DriverState) (bus : Pointer)
    (held : shared.hasExternalDevice bus = true ∨ flaggedBy shared.driver next action = some bus) :
    (driverMoved shared action next).hasExternalDevice bus = true := by
  unfold driverMoved
  cases flagged : flaggedBy shared.driver next action with
  | none =>
    rw [flagged] at held
    exact held.resolve_right nofun
  | some marked =>
    by_cases same : bus = marked
    · simp [same]
    · rw [flagged, Option.some.injEq] at held
      rw [set_flag_other _ marked bus true same]
      exact held.resolve_right (fun equal => same equal.symm)

theorem driver_moved_driver (action : Driver.Action) (next : DriverState) : (driverMoved shared action next).driver = next := by
  unfold driverMoved
  split
  · rfl
  · rfl

variable (state : BusState)

theorem driver_step_flagged (action : Driver.Action) (next : DriverState) (orderly : Orderly state)
    (flagged : Flagged state) (may : clientMay action = true)
    (taken : Driver.step state.shared.driver action = some next) :
    Flagged { state with shared := driverMoved state.shared action next } where
  occupied := by
    rintro bus ⟨key, device, rfl, other, registered⟩
    simp only [Shared.tables, driver_moved_driver] at registered
    refine driver_moved_flag state.shared action next key.bus (.inl ?_)
    rcases driver_registered _ next action orderly.consistent taken key device other registered with before | creating
    · exact flagged.occupied key.bus ⟨key, device, rfl, other, before⟩
    · exact flagged.underway key.bus (.inl creating)
  underway := by
    intro bus underway
    refine driver_moved_flag state.shared action next bus ?_
    rcases underway with creating | about
    · simp only [driver_moved_driver] at creating
      rcases driver_creating _ next action bus orderly.consistent.grounded.numbered may taken creating with before | marked
      · exact .inl (flagged.underway bus (.inl before))
      · exact .inr marked
    · exact .inl (flagged.underway bus (.inr about))

structure Sectioned (shared next : Shared) (frame after : Frame) : Prop where
  consistent : Consistent shared.driver → Consistent next.driver
  registered : ∀ key device, next.tables.Registered key device → shared.tables.Registered key device
  creating : ∀ bus, DriverCreating next.driver bus →
    DriverCreating shared.driver bus ∨ ∃ recipe wasExternal, frame = .get bus recipe (.create wasExternal)
  flag : ∀ bus, shared.hasExternalDevice bus = true →
    next.hasExternalDevice bus = true ∨ frame = .detect bus (.write false) ∨ ∃ recipe, frame = .get bus recipe .clear
  sets : ∀ bus recipe wasExternal, after = .get bus recipe (.create wasExternal) → next.hasExternalDevice bus = true

variable (shared next : Shared)

theorem sectioned_idle (frame after : Frame) (driver : next.driver = shared.driver)
    (flags : next.externalDeviceFlag = shared.externalDeviceFlag)
    (not : ∀ bus recipe wasExternal, after ≠ .get bus recipe (.create wasExternal)) : Sectioned shared next frame after where
  consistent := fun consistent => driver ▸ consistent
  registered := by
    intro key device registered
    rwa [Shared.tables, driver] at registered
  creating := fun bus creating => .inl (driver ▸ creating)
  flag := by
    intro bus held
    refine .inl ?_
    rwa [Shared.hasExternalDevice, flags]
  sets := fun bus recipe wasExternal same => absurd same (not bus recipe wasExternal)

theorem sectioned_beside (gates : OperationRegistry) (mailboxes : Table Pointer (List MotorMessage))
    (frame after : Frame) (not : ∀ bus recipe wasExternal, after ≠ .get bus recipe (.create wasExternal)) :
    Sectioned shared
      (shared.withTables { shared.tables with operationRegistry := gates, unknownMessages := mailboxes }) frame after where
  consistent := fun consistent => consistent_beside shared.driver gates mailboxes consistent
  registered := fun _ _ registered => registered
  creating := fun _ creating => .inl creating
  flag := fun _ held => .inl held
  sets := fun bus recipe wasExternal same => absurd same (not bus recipe wasExternal)

theorem sectioned_flag (bus : Pointer) (value : Bool) (frame after : Frame)
    (marks : value = false → frame = .detect bus (.write false) ∨ ∃ recipe, frame = .get bus recipe .clear)
    (sets : ∀ on recipe wasExternal, after = .get on recipe (.create wasExternal) → on = bus ∧ value = true) :
    Sectioned shared (shared.setExternalDeviceFlag bus value) frame after where
  consistent := id
  registered := fun _ _ registered => registered
  creating := fun _ creating => .inl creating
  flag := by
    intro on held
    by_cases same : on = bus
    · subst same
      cases value with
      | true => exact .inl (set_flag_same shared on true)
      | false => exact .inr (marks rfl)
    · exact .inl (by rwa [set_flag_other shared bus on value same])
  sets := by
    intro on recipe wasExternal same
    obtain ⟨rfl, rfl⟩ := sets on recipe wasExternal same
    exact set_flag_same shared on true

theorem sectioned_create (bus : Pointer) (recipe : DeviceRecipe) (wasExternal : Bool) :
    Sectioned shared { shared with driver := shared.driver.start (beginCall {} (.createDevice bus recipe)) }
      (.get bus recipe (.create wasExternal)) (.get bus recipe (.await wasExternal shared.driver.nextCall)) where
  consistent := fun consistent =>
    step_consistent shared.driver _ (.call (.createDevice bus recipe)) consistent (.begins _ _ nofun)
  registered := fun _ _ registered => registered
  creating := by
    rintro on ⟨id, call, found, creates⟩
    rw [World.find_start] at found
    by_cases fresh : id = shared.driver.nextCall
    · rw [if_pos fresh] at found
      cases found
      obtain ⟨rfl, -⟩ := creates
      exact .inr ⟨recipe, wasExternal, rfl⟩
    · rw [if_neg fresh] at found
      exact .inl ⟨id, call, found, creates⟩
  flag := fun _ held => .inl held
  sets := nofun

theorem get_sectioned (fails : Bool) (bus : Pointer) (recipe : DeviceRecipe) (pc : GetPc)
    (after : Frame) (ran : runGet shared fails bus recipe pc = some (next, after)) :
    Sectioned shared next (.get bus recipe pc) after := by
  cases pc with
  | acquire =>
    simp only [runGet] at ran
    split at ran
    all_goals cases ran
    · exact sectioned_beside shared _ _ _ _ (fun _ _ _ other => by cases other)
    · exact sectioned_idle _ _ _ _ rfl rfl (fun _ _ _ other => by cases other)
  | readFlag | await wasExternal creation | check wasExternal =>
    simp only [runGet] at ran
    split at ran
    all_goals cases ran
    all_goals exact sectioned_idle _ _ _ _ rfl rfl (fun _ _ _ other => by cases other)
  | setFlag wasExternal =>
    cases ran
    refine sectioned_flag shared bus true _ _ nofun ?_
    rintro on made was ⟨⟩
    exact ⟨rfl, rfl⟩
  | create wasExternal =>
    simp only [runGet] at ran
    split at ran
    all_goals cases ran
    · exact sectioned_idle _ _ _ _ rfl rfl (fun _ _ _ other => by cases other)
    · exact sectioned_create shared bus recipe wasExternal
  | clear =>
    cases ran
    exact sectioned_flag shared bus false _ _ (fun _ => .inr ⟨recipe, rfl⟩) (fun _ _ _ other => by cases other)
  | leave reply =>
    cases ran
    exact sectioned_beside shared _ _ _ _ (fun _ _ _ other => by cases other)

theorem detect_sectioned (self : CallId) (bus : Pointer) (pc : DetectPc) (after : Frame)
    (ran : runDetect shared self bus pc = some (next, after)) : Sectioned shared next (.detect bus pc) after := by
  cases pc with
  | acquire =>
    simp only [runDetect] at ran
    split at ran
    all_goals cases ran
    · exact sectioned_beside shared _ _ _ _ (fun _ _ _ other => by cases other)
    · exact sectioned_idle _ _ _ _ rfl rfl (fun _ _ _ other => by cases other)
  | lock =>
    simp only [runDetect] at ran
    split at ran
    all_goals cases ran
    exact sectioned_idle _ _ _ _ rfl rfl (fun _ _ _ other => by cases other)
  | check =>
    simp only [runDetect] at ran
    split at ran
    all_goals cases ran
    · exact sectioned_idle _ _ _ _ rfl rfl (fun _ _ _ other => by cases other)
    · exact sectioned_beside shared _ _ _ _ (fun _ _ _ other => by cases other)
  | listen | leave detected =>
    cases ran
    exact sectioned_beside shared _ _ _ _ (fun _ _ _ other => by cases other)
  | write detected =>
    cases ran
    exact sectioned_flag shared bus detected _ _ (fun cleared => .inl (by rw [cleared])) (fun _ _ _ other => by cases other)
  | unlock detected =>
    cases ran
    exact sectioned_idle _ _ _ _ rfl rfl (fun _ _ _ other => by cases other)

theorem run_sectioned (self : CallId) (fails : Bool) (frame after : Frame)
    (ran : runFrame shared self fails frame = some (next, after)) : Sectioned shared next frame after := by
  cases frame with
  | finished reply => cases ran
  | get bus recipe pc => exact get_sectioned shared next fails bus recipe pc after ran
  | detect bus pc => exact detect_sectioned shared next self bus pc after ran

inductive Steps (state : BusState) : Action → BusState → Prop where
  | begins (request : Request) : Steps state (.request request) (state.start request.frame)
  | runs (id : CallId) (fails : Bool) (frame after : Frame) (next : Shared)
      (present : state.calls.find id = some frame) (ran : runFrame state.shared id fails frame = some (next, after)) :
      Steps state (.run id fails) (state.advance id ⟨next, after, none⟩)
  | moves (action : Driver.Action) (next : DriverState) (may : clientMay action = true)
      (taken : Driver.step state.shared.driver action = some next) :
      Steps state (.driver action) { state with shared := driverMoved state.shared action next }

theorem bus_step_cases (state next : BusState) (action : Action) (taken : step state action = some next) :
    Steps state action next := by
  cases action with
  | request request =>
    simp only [step, Option.some.injEq] at taken
    exact taken ▸ .begins request
  | run id fails =>
    simp only [step] at taken
    cases present : state.calls.find id with
    | none => simp [present] at taken
    | some frame =>
      simp only [present] at taken
      obtain ⟨moved, ran, rfl⟩ := Option.map_eq_some_iff.mp taken
      exact .runs id fails frame moved.2 moved.1 present ran
  | driver action =>
    simp only [step] at taken
    by_cases may : clientMay action = true
    · rw [if_pos may] at taken
      obtain ⟨moved, ran, rfl⟩ := Option.map_eq_some_iff.mp taken
      exact .moves action moved may ran
    · rw [if_neg may] at taken
      cases taken

theorem step_orderly (state next : BusState) (action : Action) (orderly : Orderly state)
    (steps : Steps state action next) : Orderly next := by
  cases steps with
  | begins request => exact ⟨orderly.consistent, World.numbered_start state _ orderly.numbered⟩
  | runs id fails frame after shared present ran =>
    refine ⟨?_, World.numbered_advance state id _ orderly.numbered (orderly.numbered id frame present)⟩
    rw [World.advance_shared]
    exact (run_sectioned state.shared shared id fails frame after ran).consistent orderly.consistent
  | moves action next may taken =>
    refine ⟨?_, orderly.numbered⟩
    rw [driver_moved_driver]
    exact step_consistent _ next action orderly.consistent (step_cases _ next action taken)

theorem run_step_flagged (id : CallId) (fails : Bool) (frame after : Frame) (next : Shared)
    (flagged : Flagged state) (spared : Spares state (.run id fails)) (present : state.calls.find id = some frame)
    (ran : runFrame state.shared id fails frame = some (next, after)) :
    Flagged (state.advance id ⟨next, after, none⟩) := by
  have sectioned := run_sectioned state.shared next id fails frame after ran
  -- A flag that stands for something is not taken back by a step that spares it.
  have kept (bus : Pointer) (needed : Occupied state bus ∨ Underway state bus) : next.hasExternalDevice bus = true := by
    have held : state.shared.hasExternalDevice bus = true := needed.elim (flagged.occupied bus) (flagged.underway bus)
    rcases sectioned.flag bus held with stays | taken
    · exact stays
    · have spares : ¬ Occupied state bus ∧ ¬ Underway state bus := by
        refine spared bus ?_
        rcases taken with rfl | ⟨recipe, rfl⟩
        · exact .inl present
        · exact .inr ⟨recipe, present⟩
      exact (needed.elim spares.1 spares.2).elim
  constructor
  · rintro bus ⟨key, device, onBus, other, registered⟩
    rw [World.advance_shared] at registered ⊢
    exact kept bus (.inl ⟨key, device, onBus, other, sectioned.registered key device registered⟩)
  · intro bus underway
    rw [World.advance_shared]
    rcases underway with creating | ⟨other, recipe, wasExternal, found⟩
    · rw [World.advance_shared] at creating
      rcases sectioned.creating bus creating with before | ⟨recipe, wasExternal, rfl⟩
      · exact kept bus (.inr (.inl before))
      · exact kept bus (.inr (.inr ⟨id, recipe, wasExternal, present⟩))
    · rcases World.find_advance_cases state id other _ _ found with ⟨-, same⟩ | ⟨-, started⟩ | ⟨-, before⟩
      · exact sectioned.sets bus recipe wasExternal same.symm
      · cases started
      · exact kept bus (.inr (.inr ⟨other, recipe, wasExternal, before⟩))

theorem step_flagged (state next : BusState) (action : Action) (orderly : Orderly state) (flagged : Flagged state)
    (spared : Spares state action) (steps : Steps state action next) : Flagged next := by
  cases steps with
  | begins request =>
    refine ⟨fun bus occupied => flagged.occupied bus occupied, ?_⟩
    rintro bus (creating | ⟨id, recipe, wasExternal, found⟩)
    · exact flagged.underway bus (.inl creating)
    · rw [World.find_start] at found
      by_cases fresh : id = state.nextCall
      · rw [if_pos fresh, Option.some.injEq] at found
        cases request <;> cases found
      · rw [if_neg fresh] at found
        exact flagged.underway bus (.inr ⟨id, recipe, wasExternal, found⟩)
  | runs id fails frame after shared present ran =>
    exact run_step_flagged state id fails frame after shared flagged spared present ran
  | moves action next may taken => exact driver_step_flagged state action next orderly flagged may taken

theorem initial_orderly : Orderly initial :=
  ⟨initial_consistent, fun id frame present => by simp [initial] at present⟩

theorem reachable_flagged (reached : ReachableWith system Spares state) :
    Orderly state ∧ Flagged state := by
  refine reachable_invariant system Spares (fun state => Orderly state ∧ Flagged state) ?_ ?_ state reached
  · rintro _ rfl
    refine ⟨initial_orderly, ?_, ?_⟩
    · rintro bus ⟨key, device, -, -, registered, -⟩
      simp [initial, Driver.initial] at registered
    · rintro bus (⟨id, call, found, -⟩ | ⟨id, recipe, wasExternal, found⟩)
      · simp [initial, Driver.initial] at found
      · simp [initial] at found
  · rintro state action next ⟨orderly, flagged⟩ spared taken
    have steps := bus_step_cases state next action taken
    exact ⟨step_orderly state next action orderly steps, step_flagged state next action orderly flagged spared steps⟩

end EncosDriver.Bus
