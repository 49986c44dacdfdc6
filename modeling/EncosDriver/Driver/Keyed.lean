import EncosDriver.Driver.Counting

set_option autoImplicit false

namespace EncosDriver.Driver

open Lib

structure Groundwork (state : DriverState) : Prop where
  placed : Placed state
  publishes : Every Frame.Publishes state
  consistent : Consistent state
  guarded : Guarded state
  sheltered : Every Frame.Sheltered state

theorem Groundwork.backed {state : DriverState} (ground : Groundwork state) (place : Place) : Backed place state :=
  ground.placed.grounded.backed place

variable (allowed : DriverState → Action → Prop) (state : DriverState)

theorem reachable_consistent (reached : ReachableWith system allowed state) : Consistent state := by
  refine reachable_invariant system allowed Consistent ?_ ?_ state reached
  · rintro _ rfl
    exact initial_consistent
  · exact fun state action next consistent _ taken => step_consistent state next action consistent (step_cases state next action taken)

theorem reachable_groundwork (reached : ReachableWith system allowed state) : Groundwork state where
  placed := (reachable_placed allowed state reached).1
  publishes := (reachable_placed allowed state reached).2
  consistent := reachable_consistent allowed state reached
  guarded := (reachable_guarded allowed state reached).1
  sheltered := (reachable_guarded allowed state reached).2

theorem uncommitted_unkeyed (state : DriverState) (ground : Groundwork state) (id : CallId) (call : Call)
    (present : state.calls.find id = some call) (not : ¬ call.frame.backs id .device) : state.shared.deviceKeys.find id = none := by
  by_contra held
  exact backed_absent .device state (ground.backed .device) id call present not held

variable (state : DriverState) (id : CallId) (choice : Choice) (call : Call) (result : SectionResult)

theorem unmarked_before (settled : Every Frame.Settled state) (runs : Runs state id choice call result) (device : Pointer)
    (keyed : (result.effect.apply state.shared).deviceKeys.find device ≠ none)
    (kept : (result.effect.apply state.shared).deleting.find device = none) : state.shared.deleting.find device = none := by
  have from' := runs_from state id choice call result runs
  have known := settled id call runs.present
  have ended (object : Pointer) (gone : state.shared.deviceKeys.find object = none)
      (same : (result.effect.apply state.shared).deviceKeys = state.shared.deviceKeys) : device ≠ object := by
    rintro rfl
    rw [same] at keyed
    exact keyed gone
  cases effect : result.effect with
  | finishDevice target =>
    rw [effect] at from' kept ended
    obtain ⟨expected, frame, -⟩ := from'
    rw [frame] at known
    simpa [Effect.apply, ended target known rfl] using kept
  | finishBus bus =>
    rw [effect] at from' kept ended
    obtain ⟨allowed, frame, -⟩ := from'
    rw [frame] at known
    simpa [Effect.apply, ended bus (known (fun other => by cases other)) rfl] using kept
  | finishAdapter adapter =>
    rw [effect] at from' kept ended
    obtain ⟨frame, -⟩ := from'
    rw [frame] at known
    simpa [Effect.apply, ended adapter (known (fun other => by cases other)) rfl] using kept
  | acceptDevice made target bus | acceptBus made bus key | acceptAdapter made adapter =>
    rw [effect] at kept
    simp only [Effect.apply, Table.find_put] at kept
    split at kept
    · cases kept
    · exact kept
  | _ =>
    rw [effect] at kept
    exact kept

def Tables.Attached (tables : Tables) : Prop :=
  ∀ device key, tables.deviceKeys.find device = some key → tables.deleting.find device = none →
    tables.registrations.find device ≠ none

theorem run_attached (ground : Groundwork state) (attached : state.shared.Attached) (runs : Runs state id choice call result) :
    (result.effect.apply state.shared).Attached := by
  intro device key keyed kept
  have from' := runs_from state id choice call result runs
  have known := ground.publishes id call runs.present
  have live := unmarked_before state id choice call result ground.consistent.settled runs device (by rw [keyed]; intro none; cases none) kept
  cases effect : result.effect with
  | commitDevice made bus recipe =>
    rw [effect] at from' keyed
    obtain ⟨rfl, creation, frame, -⟩ := from'
    have unkeyed := uncommitted_unkeyed state ground made call runs.present (by rw [frame]; exact id)
    simp only [Effect.apply, Table.find_emplace_absent _ _ _ _ unkeyed] at keyed
    by_cases own : device = made
    · rw [frame] at known
      rw [own]
      exact Option.ne_none_iff_exists'.mpr ⟨_, (known creation rfl).2 rfl⟩
    · rw [if_neg own] at keyed
      exact attached device key keyed live
  | publishRoutes made bus adapter domain recipe =>
    rw [effect] at keyed
    have before := attached device key keyed live
    simp only [Effect.apply, Tables.publishRoutes, Table.find_put]
    split
    · intro none
      cases none
    · exact before
  | detachDevice made =>
    rw [effect] at from' keyed
    obtain ⟨rfl, bus, recipe, creation, frame, -⟩ := from'
    have unkeyed := uncommitted_unkeyed state ground made call runs.present (by rw [frame]; exact id)
    have different : device ≠ made := by
      rintro rfl
      have there : state.shared.deviceKeys.find device = some key := keyed
      rw [unkeyed] at there
      cases there
    simpa [Effect.apply, Tables.detachRegistrationLocked, different] using attached device key keyed live
  | acceptDevice made target bus =>
    rw [effect] at keyed kept
    have different : device ≠ target := by
      rintro rfl
      simp [Effect.apply] at kept
    simpa [Effect.apply, Tables.detachRegistrationLocked, different] using attached device key keyed live
  | migrate migration =>
    rw [effect] at from' keyed
    obtain ⟨busKey, registration, entry, ready⟩ := migration_ready _ _ _ _ from'.2.2.1
    have there := migrated_registration state.shared migration busKey registration entry ready device
    simp only [Effect.apply, there]
    by_cases own : device = migration.motor
    · simp [own]
    · rw [if_neg own]
      exact attached device key (by simpa [Effect.apply, Tables.migrate, own] using keyed) live
  | commitThrows made key' | eraseDevice target key' =>
    rw [effect] at keyed
    exact attached device key (remove_some _ _ device key keyed) live
  | eraseCreation key' made =>
    rw [effect] at keyed
    exact attached device key (remove_pointer_some _ _ device key keyed) live
  | _ =>
    rw [effect] at keyed
    exact attached device key keyed live

def Frame.Constructs (tables : Tables) (self : CallId) : Frame → Prop
  | .createDevice _ (.motor idx) (.publish _) | .createDevice _ (.motor idx) (.commit _) =>
    MotorHas tables self idx.toUInt32.toUInt16
  | _ => True

variable (tables : Tables)

theorem create_device_constructs (self : CallId) (choice : Choice) (bus : Pointer) (recipe : DeviceRecipe)
    (pc : CreateDevicePc) (result : SectionResult) (ran : runCreateDevice tables self choice bus recipe pc = some result)
    (known : (Frame.createDevice bus recipe pc).Constructs tables self) :
    result.frame.Constructs (result.effect.apply tables) self := by
  cases recipe with
  | motor idx =>
    unfold runCreateDevice draining at ran
    repeat' split at ran
    all_goals cases ran
    all_goals first | trivial | exact known | skip
    exact ⟨_, Table.put_same _ _ _, rfl⟩
  | _ =>
    have continues := frame_continues tables (fun _ => none) self 0 choice {} (.createDevice bus _ pc) result ran
    cases next : result.frame with
    | createDevice bus' recipe' pc' =>
      rw [next] at continues
      obtain ⟨-, rfl⟩ := continues
      trivial
    | _ => trivial

theorem migrates_another (ground : Groundwork state) (other : CallId) (otherCall : Call)
    (found : state.calls.find other = some otherCall) (not : ¬ otherCall.frame.backs other .device)
    (migration : Tables.Migration) (motor : Pointer) (newMotorIdx : Int32)
    (decided : state.shared.migrateDecision motor newMotorIdx = .migrate migration) : migration.motor ≠ other := by
  rintro rfl
  obtain ⟨busKey, registration, entry, ready⟩ := migration_ready _ _ _ _ decided
  have registered := ready.registered
  rw [uncommitted_unkeyed state ground _ otherCall found not] at registered
  cases registered

theorem constructs_kept : KeptLocally (fun state _ _ => Groundwork state) Frame.Constructs where
  fresh := by
    intro tables id request
    cases request with
    | createDevice bus recipe => cases recipe <;> trivial
    | _ => trivial
  entered := entered_receives _ fun _ _ _ _ _ => trivial
  own := by
    intro state id choice call result _ constructs runs
    have before := constructs id call runs.present
    have ran := runs.ran
    have continues := frame_continues _ _ _ _ _ _ _ _ ran
    cases frame : call.frame with
    | createDevice bus recipe pc =>
      rw [frame] at ran before
      exact create_device_constructs _ _ choice bus recipe pc result ran before
    | _ =>
      rw [frame] at continues
      cases next : result.frame with
      | createDevice bus recipe pc =>
        rw [next] at continues
        exact continues.elim
      | _ => trivial
  others := by
    intro state id choice call result other otherCall ground _ runs different found holds
    have from' := runs_from state id choice call result runs
    have kept (idx : UInt16) (not : ¬ otherCall.frame.backs other .device) (has : MotorHas state.shared other idx) :
        MotorHas (result.effect.apply state.shared) other idx := by
      refine apply_motor_has _ _ _ _ _ _ from' other idx has ?_ ?_
      · intro recipe registered effect
        rw [effect] at from'
        exact different from'.1
      · intro migration effect
        rw [effect] at from'
        exact migrates_another state ground other otherCall found not migration _ _ from'.2.2.1
    cases frame : otherCall.frame with
    | createDevice bus recipe pc =>
      rw [frame] at holds
      cases recipe with
      | motor idx =>
        cases pc with
        | publish creation => exact kept _ (by rw [frame]; exact not_false) holds
        | commit creation => exact kept _ (by rw [frame]; exact not_false) holds
        | _ => trivial
      | _ => trivial
    | _ => trivial

def Tables.Numbered (tables : Tables) : Prop :=
  ∀ device key, tables.deviceKeys.find device = some key → key.kind = .motor →
    MotorHas tables device key.idx.toUInt32.toUInt16

theorem run_numbered (ground : Groundwork state) (constructs : Every Frame.Constructs state) (numbered : state.shared.Numbered)
    (runs : Runs state id choice call result) : (result.effect.apply state.shared).Numbered := by
  intro device key keyed motor
  have from' := runs_from state id choice call result runs
  have known := constructs id call runs.present
  have kept (before : state.shared.deviceKeys.find device = some key)
      (moved : ∀ migration, result.effect = .migrate migration → migration.motor ≠ device) :
      MotorHas (result.effect.apply state.shared) device key.idx.toUInt32.toUInt16 := by
    refine apply_motor_has _ _ _ _ _ _ from' device _ (numbered device key before motor) ?_ moved
    intro recipe registered effect
    rw [effect] at from'
    obtain ⟨rfl, bus, creation, frame, -⟩ := from'
    rw [uncommitted_unkeyed state ground device call runs.present (by rw [frame]; exact id)] at before
    cases before
  by_cases migrates : ∃ migration, result.effect = .migrate migration
  · obtain ⟨migration, effect⟩ := migrates
    by_cases own : device = migration.motor
    · rw [effect] at from' keyed ⊢
      obtain ⟨busKey, registration, entry, ready⟩ := migration_ready _ _ _ _ from'.2.2.1
      simp only [Effect.apply, Tables.migrate, Table.find_modify, if_pos own, ready.registered, Option.map_some,
        Option.some.injEq] at keyed
      obtain ⟨held, found, -⟩ := numbered _ _ ready.registered ready.kind
      subst keyed own
      rw [ready.target]
      simp only [MotorHas, Effect.apply, Tables.migrate, Table.find_modify, ↓reduceIte, found, Option.map_some,
        Option.some.injEq, exists_eq_left']
      rfl
    · refine kept ?_ (fun other same => ?_)
      · rw [effect] at keyed
        simpa [Effect.apply, Tables.migrate, own] using keyed
      · rw [effect, Effect.migrate.injEq] at same
        exact same ▸ Ne.symm own
  · replace kept (before : state.shared.deviceKeys.find device = some key) :=
      kept before fun migration same => absurd ⟨migration, same⟩ migrates
    cases effect : result.effect with
    | migrate migration => exact absurd ⟨migration, effect⟩ migrates
    | commitDevice made bus recipe =>
      rw [effect] at from' keyed kept
      obtain ⟨rfl, creation, frame, -⟩ := from'
      have unkeyed := uncommitted_unkeyed state ground made call runs.present (by rw [frame]; exact id)
      simp only [Effect.apply, Table.find_emplace_absent _ _ _ _ unkeyed] at keyed
      by_cases own : device = made
      · rw [if_pos own, Option.some.injEq] at keyed
        subst keyed own
        obtain ⟨idx, rfl⟩ := recipe_motor recipe motor
        rw [frame] at known
        exact recipe_commit_motor_has state.shared bus (.motor idx) device device _ known
      · rw [if_neg own] at keyed
        exact kept keyed
    | commitThrows made key' | eraseDevice target key' =>
      rw [effect] at keyed kept
      exact kept (remove_some _ _ device key keyed)
    | eraseCreation key' made =>
      rw [effect] at keyed kept
      exact kept (remove_pointer_some _ _ device key keyed)
    | _ =>
      rw [effect] at keyed kept
      exact kept keyed

theorem apply_listed (self : CallId) (context : CallbackContext) (frame next : Frame) (effect : Effect)
    (from' : effect.From tables self context frame next) (key : DeviceKey) (device : Pointer)
    (found : (effect.apply tables).devices.find key = some device) :
    (∃ old, tables.devices.find old = some device ∧ old.bus = key.bus ∧ old.kind = key.kind) ∨
      ∃ bus recipe, effect = .commitDevice device bus recipe ∧ key = recipe.key bus := by
  cases effect with
  | commitDevice call bus recipe =>
    simp only [Effect.apply, Table.find_emplace] at found
    by_cases atKey : key = recipe.key bus
    · cases taken : tables.devices.find (recipe.key bus) with
      | none =>
        rw [if_pos atKey, taken, Option.getD_none, Option.some.injEq] at found
        exact .inr ⟨bus, recipe, by rw [found], atKey⟩
      | some old =>
        rw [if_pos atKey, taken, Option.getD_some] at found
        exact .inl ⟨key, by rw [atKey, taken, found], rfl, rfl⟩
    · rw [if_neg atKey] at found
      exact .inl ⟨key, found, rfl, rfl⟩
  | commitThrows call key' | eraseCreation key' made | eraseDevice target key' =>
    exact .inl ⟨key, remove_some _ _ key device found, rfl, rfl⟩
  | migrate migration =>
    obtain ⟨busKey, registration, entry, ready⟩ := migration_ready _ _ _ _ from'.2.2.1
    simp only [Effect.apply, Tables.migrate, Table.find_rekey _ _ _ _ ready.keyFree ready.moves.symm] at found
    by_cases atNew : key = migration.newKey
    · rw [if_pos atNew] at found
      refine .inl ⟨migration.oldKey, found, ?_⟩
      rw [atNew, ready.target]
      exact ⟨rfl, ready.kind⟩
    · rw [if_neg atNew] at found
      split at found
      · cases found
      · exact .inl ⟨key, found, rfl, rfl⟩
  | _ => exact .inl ⟨key, found, rfl, rfl⟩

def ListedEntered (state : DriverState) : Prop :=
  ∀ key device, state.shared.devices.find key = some device → Entered state device

theorem step_listed_entered (state next : DriverState) (action : Action) (grounded : Grounded state)
    (listed : ListedEntered state) (steps : Steps state action next) : ListedEntered next := by
  intro key device found
  cases steps with
  | begins action request notRun =>
    exact step_entered state _ action grounded.numbered (.begins action request notRun) device (listed key device found)
  | enters id call request context frame present entered =>
    rw [World.advance_shared] at found
    exact step_entered state _ _ grounded.numbered (.enters id call request context frame present entered) device (listed key device found)
  | runs id call choice result present ran =>
    rw [World.advance_shared] at found
    have from' := runs_from state id choice call result ⟨present, ran⟩
    rcases apply_listed _ _ _ _ _ _ from' key device found with ⟨old, held, -⟩ | ⟨bus, recipe, effect, -⟩
    · exact step_entered state _ _ grounded.numbered (.runs id call choice result present ran) device (listed old device held)
    · rw [effect] at from'
      obtain ⟨rfl, creation, -, after, -⟩ := from'
      refine ⟨_, World.find_advance_self state device _ (grounded.numbered device call present), .inr (.inr ?_)⟩
      simp only [after]
      rfl

def Tables.ReceivesAt (tables : Tables) (bus motor : Pointer) (idx : Int32) : Prop :=
  ∃ domain record registration, tables.busObjects.find bus = some domain ∧
    tables.registrations.find motor = some registration ∧
    registration.routes = [⟨routeKey domain idx.toUInt32, record, false⟩] ∧ record.device = motor ∧
    tables.routes.find (routeKey domain idx.toUInt32) = some record

theorem live_motor_receives (routed : tables.Routed) (attached : tables.Attached) (motor : Pointer)
    (key : DeviceKey) (keyed : tables.deviceKeys.find motor = some key) (kind : key.kind = .motor)
    (live : tables.deleting.find motor = none) : tables.ReceivesAt key.bus motor key.idx := by
  obtain ⟨registration, found⟩ := Option.ne_none_iff_exists'.mp (attached motor key keyed live)
  obtain ⟨-, named⟩ := routed.named motor key registration keyed found
  obtain ⟨domain, record, object, -, routes⟩ := named kind
  obtain ⟨own, registered⟩ := registers_record tables routed motor registration found _ (routes ▸ List.mem_singleton_self _)
  refine ⟨domain, record, registration, object, found, routes, own, ?_⟩
  exact (routed.exact _ record).mpr ⟨_, registered, rfl, rfl, rfl⟩

theorem live_motor_unique (routed : tables.Routed) (attached : tables.Attached) (first second : Pointer)
    (key : DeviceKey) (firstKeyed : tables.deviceKeys.find first = some key) (secondKeyed : tables.deviceKeys.find second = some key)
    (kind : key.kind = .motor) (firstLive : tables.deleting.find first = none) (secondLive : tables.deleting.find second = none) :
    first = second := by
  obtain ⟨domain, record, -, object, -, -, own, found⟩ :=
    live_motor_receives tables routed attached first key firstKeyed kind firstLive
  obtain ⟨domain', record', -, object', -, -, own', found'⟩ :=
    live_motor_receives tables routed attached second key secondKeyed kind secondLive
  rw [object, Option.some.injEq] at object'
  rw [← object', found, Option.some.injEq] at found'
  rw [← own, ← own', found']

def Tables.Agreed (tables : Tables) : Prop :=
  ∀ key device registered, tables.devices.find key = some device → tables.deviceKeys.find device = some registered →
    registered.bus = key.bus ∧ registered.kind = key.kind ∧ (tables.deleting.find device = none → registered = key)

theorem run_agreed
    (ground : Groundwork state) (attached : state.shared.Attached) (listed : ListedEntered state) (agreed : state.shared.Agreed)
    (runs : Runs state id choice call result) : (result.effect.apply state.shared).Agreed := by
  intro key device registered found keyed
  have from' := runs_from state id choice call result runs
  have live := unmarked_before state id choice call result ground.consistent.settled runs device (by rw [keyed]; nofun)
  -- Most sections leave the device under the key that it was listed and registered with.
  have same (before : state.shared.devices.find key = some device) (earlier : state.shared.deviceKeys.find device = some registered) :
      registered.bus = key.bus ∧ registered.kind = key.kind ∧
        ((result.effect.apply state.shared).deleting.find device = none → registered = key) := by
    obtain ⟨bus, kind, equal⟩ := agreed key device registered before earlier
    exact ⟨bus, kind, fun kept => equal (live kept)⟩
  cases effect : result.effect with
  | commitDevice made bus recipe =>
    rw [effect] at from' found keyed same
    obtain ⟨rfl, creation, frame, -⟩ := from'
    have unkeyed := uncommitted_unkeyed state ground made call runs.present (by rw [frame]; exact id)
    have elsewhere (before : state.shared.devices.find key = some device) :
        state.shared.deviceKeys.find device = some registered := by
      have different : device ≠ made := by
        rintro rfl
        obtain ⟨holder, present, entered⟩ := listed key device before
        rw [runs.present, Option.some.injEq] at present
        rw [← present, frame] at entered
        simp [Frame.entered, Frame.backs] at entered
      simpa only [Effect.apply, Table.find_emplace, if_neg different] using keyed
    simp only [Effect.apply, Table.find_emplace] at found
    by_cases atKey : key = recipe.key bus
    · cases taken : state.shared.devices.find (recipe.key bus) with
      | none =>
        rw [if_pos atKey, taken, Option.getD_none, Option.some.injEq] at found
        rw [← found] at keyed
        simp only [Effect.apply, Table.find_emplace, ↓reduceIte, unkeyed, Option.getD_none, Option.some.injEq] at keyed
        obtain rfl : registered = key := by rw [← keyed, atKey]
        exact ⟨rfl, rfl, fun _ => rfl⟩
      | some old =>
        rw [if_pos atKey, taken, Option.getD_some, Option.some.injEq] at found
        have before : state.shared.devices.find key = some device := by rw [atKey, taken, found]
        exact same before (elsewhere before)
    · rw [if_neg atKey] at found
      exact same found (elsewhere found)
  | migrate migration =>
    rw [effect] at from' found keyed live same
    obtain ⟨busKey, registration, entry, ready⟩ := migration_ready _ _ _ _ from'.2.2.1
    simp only [Effect.apply, Tables.migrate, Table.find_rekey _ _ _ _ ready.keyFree ready.moves.symm] at found
    simp only [Effect.apply, Tables.migrate, Table.find_modify, ready.registered, Option.map_some] at keyed
    by_cases atNew : key = migration.newKey
    · rw [if_pos atNew] at found
      by_cases own : device = migration.motor
      · rw [if_pos own, Option.some.injEq] at keyed
        obtain rfl : registered = key := by rw [← keyed, atNew]
        exact ⟨rfl, rfl, fun _ => rfl⟩
      · rw [if_neg own] at keyed
        obtain ⟨bus, kind, equal⟩ := agreed _ device registered found keyed
        rw [atNew, ready.target]
        refine ⟨bus, kind.trans ready.kind, fun kept => ?_⟩
        rw [equal (live kept)] at keyed
        exact absurd (live_motor_unique state.shared ground.placed.routed attached device migration.motor _ keyed
          ready.registered ready.kind (live kept) ready.kept) own
    · rw [if_neg atNew] at found
      by_cases atOld : key = migration.oldKey
      · rw [if_pos atOld] at found
        cases found
      · rw [if_neg atOld] at found
        have different : device ≠ migration.motor := by
          rintro rfl
          exact atOld ((agreed key _ _ found ready.registered).2.2 ready.kept).symm
        rw [if_neg different] at keyed
        exact same found keyed
  | commitThrows made key' | eraseDevice target key' =>
    rw [effect] at found keyed same
    exact same (remove_some _ _ _ _ found) (remove_some _ _ _ _ keyed)
  | eraseCreation key' made =>
    rw [effect] at found keyed same
    exact same (remove_some _ _ _ _ found) (remove_pointer_some _ _ _ _ keyed)
  | _ =>
    rw [effect] at found keyed same
    exact same found keyed

structure Agreement (state : DriverState) : Prop where
  ground : Groundwork state
  attached : state.shared.Attached
  listed : ListedEntered state
  agreed : state.shared.Agreed

theorem reachable_agreement (allowed : DriverState → Action → Prop) (state : DriverState)
    (reached : ReachableWith system allowed state) : Agreement state := by
  refine reachable_invariant_under system allowed Groundwork Agreement (reachable_groundwork allowed) ?_ ?_ state reached
  · rintro _ rfl
    exact
      { ground := reachable_groundwork allowed initial (.start initial rfl)
        attached := fun device key keyed => by simp [initial] at keyed
        listed := fun key device found => by simp [initial] at found
        agreed := fun key device registered found => by simp [initial] at found }
  · intro state action next ground groundNext before _ taken
    have steps := step_cases state next action taken
    refine ⟨groundNext, ?_, step_listed_entered state next action ground.placed.grounded before.listed steps, ?_⟩
    · refine tables_kept (fun now _ _ => now = state) Tables.Attached ?_ state next action before.attached (fun _ _ _ => rfl) steps
      rintro now id choice call result rfl attached runs
      exact run_attached now id choice call result ground attached runs
    · refine tables_kept (fun now _ _ => now = state) Tables.Agreed ?_ state next action before.agreed (fun _ _ _ => rfl) steps
      rintro now id choice call result rfl agreed runs
      exact run_agreed now id choice call result ground before.attached before.listed agreed runs

end EncosDriver.Driver
