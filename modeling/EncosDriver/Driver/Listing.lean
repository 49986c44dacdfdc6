import EncosDriver.Driver.Backing

set_option autoImplicit false

namespace EncosDriver.Driver

open Lib

variable (tables : Tables) (self : CallId) (context : CallbackContext)

/-- Which sections can change what the device tables say of one object. A call changes the entries of its own object;
those of others change when they are destroyed or migrated. -/
theorem apply_device_key (frame next : Frame)
    (effect : Effect) (from' : effect.From tables self context frame next) (creation : ∀ bus recipe creation,
      frame = .createDevice bus recipe (.rollbackErase creation) → ∀ device, creation.device = some device → device = self)
    (object : Pointer) :
    (effect.apply tables).deviceKeys.find object = tables.deviceKeys.find object ∨ object = self ∨
      (∃ key, effect = .eraseDevice object key) ∨ ∃ migration, effect = .migrate migration ∧ migration.motor = object := by
  cases effect with
  | commitDevice call bus recipe =>
    obtain ⟨rfl, -⟩ := from'
    by_cases same : object = call
    · exact .inr (.inl same)
    · exact .inl (by simp [Effect.apply, Table.find_emplace, same])
  | commitThrows call key =>
    obtain ⟨rfl, -⟩ := from'
    by_cases same : object = call
    · exact .inr (.inl same)
    · exact .inl (by simp [Effect.apply, same])
  | eraseCreation key device =>
    obtain ⟨bus, recipe, made, -, rfl, before, -⟩ := from'
    cases named : made.device with
    | none => exact .inl (by simp [Effect.apply, Tables.removePointer])
    | some device =>
      have own := creation bus recipe made before device named
      by_cases same : object = device
      · exact .inr (.inl (same.trans own))
      · exact .inl (by simp [Effect.apply, Tables.removePointer, same])
  | eraseDevice device key =>
    by_cases same : object = device
    · exact .inr (.inr (.inl ⟨key, by rw [same]⟩))
    · exact .inl (by simp [Effect.apply, same])
  | migrate migration =>
    by_cases same : object = migration.motor
    · exact .inr (.inr (.inr ⟨migration, rfl, same.symm⟩))
    · exact .inl (by simp [Effect.apply, Tables.migrate, same])
  | _ => exact .inl rfl

theorem apply_registration (frame next : Frame)
    (effect : Effect) (from' : effect.From tables self context frame next) (object : Pointer) :
    (effect.apply tables).registrations.find object = tables.registrations.find object ∨ object = self ∨
      (∃ bus, effect = .acceptDevice self object bus) ∨
      ∃ migration, effect = .migrate migration ∧ migration.motor = object := by
  cases effect with
  | publishRoutes call bus adapter domain recipe =>
    obtain ⟨rfl, -⟩ := from'
    by_cases same : object = call
    · exact .inr (.inl same)
    · exact .inl (by simp [Effect.apply, Tables.publishRoutes, same])
  | detachDevice device =>
    obtain ⟨rfl, -⟩ := from'
    by_cases same : object = device
    · exact .inr (.inl same)
    · exact .inl (by simp [Effect.apply, Tables.detachRegistrationLocked, same])
  | acceptDevice call device bus =>
    obtain ⟨rfl, -⟩ := from'
    by_cases same : object = device
    · exact .inr (.inr (.inl ⟨bus, by rw [same]⟩))
    · exact .inl (by simp [Effect.apply, Tables.detachRegistrationLocked, same])
  | migrate migration =>
    by_cases same : object = migration.motor
    · exact .inr (.inr (.inr ⟨migration, rfl, same.symm⟩))
    · exact .inl (by simp [Effect.apply, Tables.migrate, same])
  | _ => exact .inl rfl

def MotorHas (tables : Tables) (motor : Pointer) (idx : UInt16) : Prop :=
  ∃ held, tables.motors.find motor = some held ∧ held.idx = idx

theorem modify_motor_has (tables : Tables) (target motor : Pointer) (idx : UInt16) (change : Motor → Motor)
    (kept : ∀ held, (change held).idx = held.idx) (has : MotorHas tables motor idx) :
    ∃ held, (tables.motors.modify target change).find motor = some held ∧ held.idx = idx := by
  obtain ⟨held, found, index⟩ := has
  by_cases hit : motor = target
  · exact ⟨change held, by simp [hit ▸ found, hit], (kept held).trans index⟩
  · exact ⟨held, by simp [hit, found], index⟩

theorem configured_motor_has (tables : Tables) (adapter : Pointer) (setting : Setting) (motor : Pointer) (idx : UInt16)
    (has : MotorHas tables motor idx) : MotorHas (tables.configured adapter setting) motor idx := by
  have status (change : StatusConfig → StatusConfig) (idempotent : ∀ config, change (change config) = change config) :
      MotorHas (tables.configureAdapterStatus adapter change) motor idx := by
    obtain ⟨held, found, index⟩ := has
    by_cases opened : tables.adapterOpen adapter
    · simp only [MotorHas, Tables.configureAdapterStatus, opened, ↓reduceIte]
      rw [Table.find_modify_all _ _ _ (fun held => by simp [idempotent]), found]
      by_cases inside : motor ∈ tables.motorsOn adapter
      · exact ⟨{ held with status := change held.status }, by rw [if_pos inside]; rfl, index⟩
      · exact ⟨held, by rw [if_neg inside], index⟩
    · simp only [MotorHas, Tables.configureAdapterStatus, opened]
      exact ⟨held, found, index⟩
  cases setting with
  | lifeCycle maxLifeCycle => exact status _ fun _ => rfl
  | medianFilter windowSize => exact status _ fun _ => rfl
  | limitFilter maxDeltas => exact status _ fun _ => rfl
  | callback rawBusIdx motorIdx callback =>
    simp only [MotorHas, Tables.configured, Tables.configureAdapterStatusCallback]
    split
    · cases tables.registeredMotor adapter rawBusIdx motorIdx with
      | some target => exact modify_motor_has tables target motor idx _ (fun _ => rfl) has
      | none => exact has
    · exact has

theorem recipe_commit_motor_has (tables : Tables) (bus : Pointer) (recipe : DeviceRecipe) (device motor : Pointer)
    (idx : UInt16) (has : MotorHas tables motor idx) : MotorHas (tables.recipeCommit bus recipe device) motor idx := by
  cases recipe with
  | motor motorIdx =>
    simp only [MotorHas, Tables.recipeCommit, Tables.applyMotorStatusConfigurationLocked]
    split
    · exact has
    · split
      · exact modify_motor_has tables device motor idx _ (fun _ => rfl) has
      · exact has
  | _ => exact has

theorem apply_motor_has (frame next : Frame)
    (effect : Effect) (from' : effect.From tables self context frame next) (motor : Pointer) (idx : UInt16)
    (has : MotorHas tables motor idx) (unmade : ∀ recipe registered, effect ≠ .construct motor recipe registered)
    (kept : ∀ migration, effect = .migrate migration → migration.motor ≠ motor) :
    MotorHas (effect.apply tables) motor idx := by
  cases effect with
  | construct call recipe registered =>
    have different : motor ≠ call := fun same => unmade recipe registered (by rw [same])
    cases recipe with
    | motor made => simpa [MotorHas, Effect.apply, different] using has
    | _ => exact has
  | commitDevice call bus recipe => exact recipe_commit_motor_has tables bus recipe call motor idx has
  | migrate migration =>
    have different : motor ≠ migration.motor := (kept migration rfl).symm
    simpa [MotorHas, Effect.apply, Tables.migrate, different] using has
  | configure adapter setting => exact configured_motor_has tables adapter setting motor idx has
  | _ => exact has

def Tables.Distinct (tables : Tables) : Prop :=
  ∀ object, tables.has .device object → ¬ tables.has .bus object ∧ ¬ tables.has .adapter object

def Tables.Listed (tables : Tables) : Prop :=
  ∀ key device, key.kind ≠ .motor → tables.devices.find key = some device → tables.deviceKeys.find device = some key

def CreateDevicePc.creation : CreateDevicePc → Option DeviceCreation
  | .enter | .await _ => none
  | .construct creation | .publish creation | .commit creation | .rollbackDetach creation | .drainRoutes creation _
  | .drainGate creation | .rollbackErase creation | .rollbackComplete creation | .endBus creation _
  | .endAdapter creation _ => some creation

-- What a call in progress knows of the registered devices: the one it creates is
-- its own, the one it destroys keeps its key until it is erased, and a bus or an
-- adapter that it destroys is not a device.
def Frame.Settled (tables : Tables) (self : CallId) : Frame → Prop
  | .createDevice _ _ pc => ∀ creation device, pc.creation = some creation → creation.device = some device → device = self
  | .destroyDevice device _ pc =>
    match pc with
    | .accept => True
    | .drainRoutes key _ | .drainGate key | .erase key => tables.deviceKeys.find device = some key
    | .finish => tables.deviceKeys.find device = none
  | .destroyBus bus _ pc => pc ≠ .accept → tables.deviceKeys.find bus = none
  | .destroyAdapter adapter pc => pc ≠ .accept → tables.deviceKeys.find adapter = none
  | _ => True

theorem inserting_frame (frame next : Frame) (effect : Effect)
    (from' : effect.From tables self context frame next) (place other : Place)
    (named : place = .device ∨ place = .bus ∨ place = .adapter) (otherNamed : other = .device ∨ other = .bus ∨ other = .adapter)
    (different : other ≠ place) (object : CallId) (inserted : effect.inserts place = some object) :
    object = self ∧ ¬ frame.backs self other ∧ effect.inserts other = none := by
  rcases named with rfl | rfl | rfl
  · cases effect <;> try (cases inserted; done)
    obtain ⟨rfl, creation, rfl, -⟩ := from'
    cases inserted
    rcases otherNamed with rfl | rfl | rfl
    · exact absurd rfl different
    · exact ⟨rfl, id, rfl⟩
    · exact ⟨rfl, id, rfl⟩
  · cases effect <;> try (cases inserted; done)
    obtain ⟨rfl, rfl, -⟩ := from'
    cases inserted
    rcases otherNamed with rfl | rfl | rfl
    · exact ⟨rfl, id, rfl⟩
    · exact absurd rfl different
    · exact ⟨rfl, id, rfl⟩
  · cases effect <;> try (cases inserted; done)
    obtain ⟨rfl, rfl, -⟩ := from'
    cases inserted
    rcases otherNamed with rfl | rfl | rfl
    · exact ⟨rfl, id, rfl⟩
    · exact ⟨rfl, id, rfl⟩
    · exact absurd rfl different

variable (state : DriverState) (id : CallId) (choice : Choice) (call : Call) (result : SectionResult)

theorem kinds_apart (backed : ∀ place, Backed place state) (runs : Runs state id choice call result) (place other : Place)
    (named : place = .device ∨ place = .bus ∨ place = .adapter) (otherNamed : other = .device ∨ other = .bus ∨ other = .adapter)
    (different : other ≠ place) (apart : ∀ object, state.shared.has place object → ¬ state.shared.has other object)
    (object : CallId) (held : (result.effect.apply state.shared).has place object) :
    ¬ (result.effect.apply state.shared).has other object := by
  intro both
  have from' := runs_from state id choice call result runs
  rcases apply_has state.shared result.effect place object held with before | inserted
  · rcases apply_has state.shared result.effect other object both with otherBefore | otherInserted
    · exact apart object before otherBefore
    · obtain ⟨rfl, not, -⟩ := inserting_frame _ _ _ _ _ _ from' other place otherNamed named different.symm object otherInserted
      exact backed_absent place state (backed place) object call runs.present not before
  · obtain ⟨rfl, not, absent⟩ := inserting_frame _ _ _ _ _ _ from' place other named otherNamed different object inserted
    rcases apply_has state.shared result.effect other object both with otherBefore | otherInserted
    · exact backed_absent other state (backed other) object call runs.present not otherBefore
    · rw [absent] at otherInserted
      cases otherInserted

theorem run_distinct
    (backed : ∀ place, Backed place state) (distinct : state.shared.Distinct) (runs : Runs state id choice call result) :
    (result.effect.apply state.shared).Distinct := by
  intro object device
  constructor
  · exact kinds_apart state id choice call result backed runs .device .bus (.inl rfl) (.inr (.inl rfl)) (by decide)
      (fun object held => (distinct object held).1) object device
  · exact kinds_apart state id choice call result backed runs .device .adapter (.inl rfl) (.inr (.inr rfl)) (by decide)
      (fun object held => (distinct object held).2) object device

theorem entered_device_keys (runs : Runs state id choice call result) (entered : call.frame.entered id) :
    (result.effect.apply state.shared).deviceKeys.find id = state.shared.deviceKeys.find id := by
  have from' := runs_from state id choice call result runs
  cases effect : result.effect with
  | commitDevice made bus recipe =>
    rw [effect] at from'
    obtain ⟨-, creation, frame, -⟩ := from'
    simp [frame, Frame.entered, Frame.backs] at entered
  | commitThrows made key =>
    rw [effect] at from'
    obtain ⟨-, bus, recipe, creation, -, frame, -⟩ := from'
    simp [frame, Frame.entered, Frame.backs] at entered
  | eraseCreation key device =>
    rw [effect] at from'
    obtain ⟨bus, recipe, creation, -, -, frame, -⟩ := from'
    simp [frame, Frame.entered, Frame.backs] at entered
  | eraseDevice device key =>
    rw [effect] at from'
    obtain ⟨expected, frame, -⟩ := from'
    simp [frame, Frame.entered, Frame.backs] at entered
  | migrate migration =>
    rw [effect] at from'
    simp [from'.1, Frame.entered, Frame.backs] at entered
  | _ => rfl

theorem settled_device (settled : Every Frame.Settled state)
    (present : state.calls.find id = some call) (bus : Pointer) (recipe : DeviceRecipe) (creation : DeviceCreation)
    (frame : call.frame = .createDevice bus recipe (.rollbackErase creation)) (device : Pointer)
    (named : creation.device = some device) : device = id := by
  have known := settled id call present
  rw [frame] at known
  exact known creation device rfl named

theorem marked_device_key (id other : CallId) (choice : Choice) (call otherCall : Call)
    (result : SectionResult) (grounded : Grounded state) (settled : Every Frame.Settled state)
    (runs : Runs state id choice call result) (different : other ≠ id) (found : state.calls.find other = some otherCall)
    (object : Pointer) (holds : otherCall.frame.token = some (.deleting object)) :
    (result.effect.apply state.shared).deviceKeys.find object = state.shared.deviceKeys.find object := by
  have from' := runs_from state id choice call result runs
  have marked : state.shared.owner (.deleting object) = some other :=
    (grounded.owned (.deleting object) other).mpr ⟨otherCall, found, holds⟩
  have deleting : state.shared.deleting.find object = some other := marked
  have creations := settled_device state id call settled runs.present
  rcases apply_device_key _ _ _ _ _ _ from' creations object with same | own | ⟨key, erased⟩ | ⟨migration, migrated, motor⟩
  · exact same
  · subst own
    have there : state.shared.deleting.find object ≠ none := by simp [deleting]
    obtain ⟨holder, present, entered⟩ := grounded.deletingEntered object there
    rw [runs.present, Option.some.injEq] at present
    exact entered_device_keys state object choice call result runs (present ▸ entered)
  · rw [erased] at from'
    obtain ⟨expected, frame, -⟩ := from'
    have token : call.frame.token = some (.deleting object) := by rw [frame]; rfl
    exact absurd (World.owned_unique state grounded.owned _ other id otherCall call found runs.present holds token) different
  · rw [migrated] at from'
    obtain ⟨busKey, registration, entry, ready⟩ := migration_ready _ _ _ _ from'.2.2.1
    rw [← motor, ready.kept] at deleting
    cases deleting

theorem settled_others (tables next : Tables) (self : CallId) (frame : Frame)
    (same : ∀ object, frame.token = some (.deleting object) → next.deviceKeys.find object = tables.deviceKeys.find object)
    (settled : frame.Settled tables self) : frame.Settled next self := by
  cases frame with
  | destroyDevice device expected pc =>
    cases pc with
    | accept => trivial
    | _ =>
      simp only [Frame.Settled] at settled ⊢
      rw [same device rfl]
      exact settled
  | destroyBus bus allowed pc =>
    intro started
    cases pc with
    | accept => exact absurd rfl started
    | _ =>
      rw [same bus rfl]
      exact settled started
  | destroyAdapter adapter pc =>
    intro started
    cases pc with
    | accept => exact absurd rfl started
    | _ =>
      rw [same adapter rfl]
      exact settled started
  | _ => exact settled

theorem create_device_settled (tables : Tables) (self : CallId) (choice : Choice) (bus : Pointer) (recipe : DeviceRecipe)
    (pc : CreateDevicePc) (result : SectionResult) (ran : runCreateDevice tables self choice bus recipe pc = some result)
    (settled : (Frame.createDevice bus recipe pc).Settled tables self) :
    result.frame.Settled (result.effect.apply tables) self := by
  unfold runCreateDevice draining at ran
  repeat' split at ran
  all_goals cases ran
  all_goals first
    | trivial
    | rintro _ device ⟨⟩ made
      first
        | exact settled _ device rfl made
        | cases made; rfl
        | cases made

theorem destroy_device_settled (tables : Tables) (self : CallId) (context : CallbackContext) (device : Pointer)
    (expected : DeviceKind) (pc : DestroyDevicePc) (result : SectionResult)
    (ran : runDestroyDevice tables self context device expected pc = some result)
    (settled : (Frame.destroyDevice device expected pc).Settled tables self) :
    result.frame.Settled (result.effect.apply tables) self := by
  unfold runDestroyDevice draining at ran
  repeat' split at ran
  all_goals cases ran
  all_goals simp_all [Frame.Settled, Effect.apply, Tables.detachRegistrationLocked]

theorem destroy_bus_settled (tables : Tables) (replyOf : CallId → Option Reply) (self fresh : CallId) (choice : Choice)
    (context : CallbackContext) (bus : Pointer) (allowGloveInternal : Bool) (pc : DestroyBusPc) (result : SectionResult)
    (ran : runDestroyBus tables replyOf self fresh choice context bus allowGloveInternal pc = some result)
    (distinct : tables.Distinct) (settled : (Frame.destroyBus bus allowGloveInternal pc).Settled tables self) :
    result.frame.Settled (result.effect.apply tables) self := by
  have busOnly (key : BusKey) (found : tables.busKeys.find bus = some key) : tables.deviceKeys.find bus = none := by
    by_contra device
    exact (distinct bus device).1 (by simp [Tables.has, found])
  unfold runDestroyBus draining at ran
  repeat' split at ran
  all_goals cases ran
  all_goals simp_all [Frame.Settled, Effect.apply]

theorem destroy_adapter_settled (tables : Tables) (replyOf : CallId → Option Reply) (self fresh : CallId) (choice : Choice)
    (context : CallbackContext) (adapter : Pointer) (pc : DestroyAdapterPc) (result : SectionResult)
    (ran : runDestroyAdapter tables replyOf self fresh choice context adapter pc = some result)
    (distinct : tables.Distinct) (settled : (Frame.destroyAdapter adapter pc).Settled tables self) :
    result.frame.Settled (result.effect.apply tables) self := by
  have adapterOnly (name : String) (found : tables.adapterNames.find adapter = some name) :
      tables.deviceKeys.find adapter = none := by
    by_contra device
    exact (distinct adapter device).2 (by simp [Tables.has, found])
  unfold runDestroyAdapter draining at ran
  repeat' split at ran
  all_goals cases ran
  all_goals simp_all [Frame.Settled, Effect.apply]

theorem settled_own
    (distinct : state.shared.Distinct) (settled : Every Frame.Settled state) (runs : Runs state id choice call result) :
    result.frame.Settled (result.effect.apply state.shared) id := by
  have before := settled id call runs.present
  have ran := runs.ran
  cases frame : call.frame with
  | finished reply =>
    rw [frame] at ran
    cases ran
  | createDevice bus recipe pc =>
    rw [frame] at ran before
    exact create_device_settled _ _ choice bus recipe pc result ran before
  | destroyDevice device expected pc =>
    rw [frame] at ran before
    exact destroy_device_settled _ _ call.context device expected pc result ran before
  | destroyBus bus allowed pc =>
    rw [frame] at ran before
    exact destroy_bus_settled _ _ _ _ choice call.context bus allowed pc result ran distinct before
  | destroyAdapter adapter pc =>
    rw [frame] at ran before
    exact destroy_adapter_settled _ _ _ _ choice call.context adapter pc result ran distinct before
  | _ =>
    rw [frame] at ran
    simp only [runFrame] at ran
    first
      | unfold runCreateAdapter at ran
      | unfold runCreateBus draining at ran
      | unfold runCreateGlove draining at ran
      | unfold runDestroyGlove draining at ran
      | unfold runReserve at ran
      | unfold runRelease at ran
      | unfold runMigrate at ran
      | unfold runResetBus at ran
      | unfold runConfigure at ran
      | unfold runOperate at ran
      | unfold runReceive afterRoutes at ran
    repeat' split at ran
    all_goals cases ran
    all_goals trivial

def Distinguished (state : DriverState) : Prop := Grounded state ∧ state.shared.Distinct

theorem settled_kept : KeptLocally (fun state _ _ => Distinguished state) Frame.Settled where
  fresh := by
    intro tables id request
    cases request <;> first | trivial | (intro started; exact absurd rfl started) | nofun
  entered := entered_receives _ fun _ _ _ _ _ => trivial
  own := fun state id choice call result known settled runs => settled_own state id choice call result known.2 settled runs
  others := by
    intro state id choice call result other otherCall known settled runs different found holds
    refine settled_others state.shared _ other otherCall.frame ?_ holds
    intro object token
    exact marked_device_key state id other choice call otherCall result known.1 settled runs different found object token

theorem run_listed (grounded : Grounded state) (settled : Every Frame.Settled state) (listed : state.shared.Listed)
    (runs : Runs state id choice call result) : (result.effect.apply state.shared).Listed := by
  intro key device other found
  have from' := runs_from state id choice call result runs
  have uncommitted (not : ¬ call.frame.backs id .device) (elsewhere : DeviceKey) (external : elsewhere.kind ≠ .motor) :
      state.shared.devices.find elsewhere ≠ some id := by
    intro held
    exact backed_absent .device state (grounded.backed .device) id call runs.present not
      (by simp [Tables.has, listed elsewhere id external held])
  cases effect : result.effect with
  | commitDevice made bus recipe =>
    rw [effect] at from' found
    obtain ⟨rfl, creation, frame, -⟩ := from'
    have not : ¬ call.frame.backs made .device := by rw [frame]; exact not_false
    have unnamed : state.shared.deviceKeys.find made = none := by
      by_contra held
      exact backed_absent .device state (grounded.backed .device) made call runs.present not held
    simp only [Effect.apply, Table.find_emplace_absent _ _ _ _ unnamed]
    simp only [Effect.apply, Table.find_emplace] at found
    by_cases atKey : key = recipe.key bus
    · cases old : state.shared.devices.find (recipe.key bus) with
      | none =>
        simp only [atKey, old, ↓reduceIte, Option.getD_none, Option.some.injEq] at found
        rw [if_pos found.symm, atKey]
      | some holder =>
        simp only [atKey, old, ↓reduceIte, Option.getD_some, Option.some.injEq] at found
        subst found
        have before := listed key holder other (atKey ▸ old)
        rw [if_neg (by rintro rfl; rw [unnamed] at before; cases before)]
        exact before
    · rw [if_neg atKey] at found
      have before := listed key device other found
      rw [if_neg (by rintro rfl; rw [unnamed] at before; cases before)]
      exact before
  | commitThrows made key' =>
    rw [effect] at from' found
    obtain ⟨rfl, bus, recipe, creation, -, frame, -⟩ := from'
    have fresh := uncommitted (by rw [frame]; exact not_false) key other
    simp only [Effect.apply, Table.find_remove] at found ⊢
    by_cases atKey : key = key'
    · simp [atKey] at found
    · rw [if_neg atKey] at found
      have different : device ≠ made := fun same => fresh (by rw [← same]; exact found)
      rw [if_neg different]
      exact listed key device other found
  | eraseCreation key' erased =>
    rw [effect] at from' found
    obtain ⟨bus, recipe, creation, -, rfl, frame, -⟩ := from'
    have fresh := uncommitted (by rw [frame]; exact not_false) key other
    simp only [Effect.apply, Table.find_remove] at found
    by_cases atKey : key = key'
    · simp [atKey] at found
    · rw [if_neg atKey] at found
      have before := listed key device other found
      cases named : creation.device with
      | none => simpa [Effect.apply, Tables.removePointer, named] using before
      | some made =>
        have own := settled_device state id call settled runs.present bus recipe creation frame made named
        have different : device ≠ made := fun same => fresh (by rw [← own, ← same]; exact found)
        simpa [Effect.apply, Tables.removePointer, named, different] using before
  | eraseDevice erased key' =>
    rw [effect] at from' found
    obtain ⟨expected, frame, -⟩ := from'
    have known := settled id call runs.present
    rw [frame] at known
    simp only [Frame.Settled] at known
    simp only [Effect.apply, Table.find_remove] at found ⊢
    by_cases atKey : key = key'
    · simp [atKey] at found
    · rw [if_neg atKey] at found
      have before := listed key device other found
      rw [if_neg (by rintro rfl; rw [known, Option.some.injEq] at before; exact atKey before.symm)]
      exact before
  | migrate migration =>
    rw [effect] at from' found
    obtain ⟨busKey, registration, entry, ready⟩ := migration_ready _ _ _ _ from'.2.2.1
    have atNew : key ≠ migration.newKey := by
      rintro rfl
      rw [ready.target] at other
      exact other rfl
    have atOld : key ≠ migration.oldKey := by
      rintro rfl
      exact other ready.kind
    simp only [Effect.apply, Tables.migrate, Table.find_rekey _ _ _ _ ready.keyFree ready.moves.symm, if_neg atNew,
      if_neg atOld] at found
    have before := listed key device other found
    have different : device ≠ migration.motor := by
      rintro rfl
      rw [ready.registered, Option.some.injEq] at before
      exact atOld before.symm
    simpa [Effect.apply, Tables.migrate, different] using before
  | _ =>
    rw [effect] at found
    exact listed key device other found

structure Consistent (state : DriverState) : Prop where
  grounded : Grounded state
  distinct : state.shared.Distinct
  settled : Every Frame.Settled state
  listed : state.shared.Listed

theorem step_grounded (state next : DriverState) (action : Action) (grounded : Grounded state)
    (steps : Steps state action next) : Grounded next where
  numbered := step_numbered state next action steps grounded.numbered
  owned := step_owned state next action grounded.numbered grounded.owned steps
  backed := fun place => step_backed place state next action grounded.numbered (grounded.backed place) steps
  deletingEntered := step_deleting_entered state next action grounded.numbered grounded.backed grounded.deletingEntered steps

theorem step_consistent (state next : DriverState) (action : Action) (consistent : Consistent state)
    (steps : Steps state action next) : Consistent next := by
  obtain ⟨grounded, distinct, settled, listed⟩ := consistent
  refine ⟨step_grounded state next action grounded steps, ?_, ?_, ?_⟩
  · exact tables_kept (fun now _ _ => now = state) Tables.Distinct
      (fun now id choice call result same before runs => run_distinct now id choice call result (same ▸ grounded.backed) before runs)
      state next action distinct (fun _ _ _ => rfl) steps
  · exact every_kept _ Frame.Settled settled_kept state next action settled (fun _ _ _ => ⟨grounded, distinct⟩) steps
  · exact tables_kept (fun now _ _ => now = state) Tables.Listed
      (fun now id choice call result same before runs =>
        run_listed now id choice call result (same ▸ grounded) (same ▸ settled) before runs)
      state next action listed (fun _ _ _ => rfl) steps

theorem initial_consistent : Consistent initial where
  grounded := reachable_grounded Always initial (.start initial rfl)
  distinct := fun object device => by simp [Tables.has, initial] at device
  settled := fun id call present => by simp [initial] at present
  listed := fun key device _ found => by simp [initial] at found

theorem consistent_beside (gates : OperationRegistry) (mailboxes : Table Pointer (List MotorMessage))
    (consistent : Consistent state) :
    Consistent
      { state with shared := { state.shared with operationRegistry := gates, unknownMessages := mailboxes } } where
  grounded :=
    { numbered := consistent.grounded.numbered
      owned := by
        intro held id
        refine Iff.trans ?_ (consistent.grounded.owned held id)
        cases held <;> rfl
      backed := by
        intro place id held
        refine consistent.grounded.backed place id ?_
        cases place <;> exact held
      deletingEntered := consistent.grounded.deletingEntered }
  distinct := consistent.distinct
  settled := by
    intro id call present
    have settled := consistent.settled id call present
    exact settled_others state.shared _ id call.frame (fun _ _ => rfl) settled
  listed := consistent.listed

def Tables.Registered (tables : Tables) (key : DeviceKey) (device : Pointer) : Prop :=
  tables.devices.find key = some device ∧ tables.deleting.find device = none

theorem run_registered
    (consistent : Consistent state) (runs : Runs state id choice call result) (key : DeviceKey) (device : Pointer)
    (other : key.kind ≠ .motor) (registered : (result.effect.apply state.shared).Registered key device) :
    state.shared.Registered key device ∨
      ∃ bus recipe, result.effect = .commitDevice id bus recipe ∧ key = recipe.key bus ∧ device = id := by
  obtain ⟨found, unmarked⟩ := registered
  have from' := runs_from state id choice call result runs
  have known := consistent.settled id call runs.present
  -- Ending a destruction unmarks only an object that is not listed any more.
  have unlisted (object : Pointer) (gone : state.shared.deviceKeys.find object = none)
      (held : state.shared.devices.find key = some device) : device ≠ object := by
    rintro rfl
    rw [consistent.listed key device other held] at gone
    cases gone
  cases effect : result.effect with
  | commitDevice made bus recipe =>
    rw [effect] at from' found unmarked
    obtain ⟨rfl, -⟩ := from'
    simp only [Effect.apply, Table.find_emplace] at found
    by_cases atKey : key = recipe.key bus
    · cases old : state.shared.devices.find (recipe.key bus) with
      | none =>
        simp only [atKey, old, ↓reduceIte, Option.getD_none, Option.some.injEq] at found
        exact .inr ⟨bus, recipe, rfl, atKey, found.symm⟩
      | some holder =>
        simp only [atKey, old, ↓reduceIte, Option.getD_some, Option.some.injEq] at found
        exact .inl ⟨by rw [atKey, old, found], unmarked⟩
    · rw [if_neg atKey] at found
      exact .inl ⟨found, unmarked⟩
  | commitThrows made key' | eraseCreation key' erased | eraseDevice erased key' =>
    rw [effect] at found unmarked
    simp only [Effect.apply, Table.find_remove] at found
    by_cases atKey : key = key'
    · simp [atKey] at found
    · exact .inl ⟨by simpa [atKey] using found, unmarked⟩
  | migrate migration =>
    rw [effect] at from' found unmarked
    obtain ⟨busKey, registration, entry, ready⟩ := migration_ready _ _ _ _ from'.2.2.1
    have atNew : key ≠ migration.newKey := by
      rintro rfl
      rw [ready.target] at other
      exact other rfl
    have atOld : key ≠ migration.oldKey := by
      rintro rfl
      exact other ready.kind
    simp only [Effect.apply, Tables.migrate, Table.find_rekey _ _ _ _ ready.keyFree ready.moves.symm, if_neg atNew,
      if_neg atOld] at found
    exact .inl ⟨found, unmarked⟩
  | acceptDevice call device' bus =>
    rw [effect] at found unmarked
    refine .inl ⟨found, ?_⟩
    by_cases same : device = device'
    · simp [Effect.apply, same] at unmarked
    · simpa [Effect.apply, same] using unmarked
  | acceptBus call bus key' =>
    rw [effect] at found unmarked
    refine .inl ⟨found, ?_⟩
    by_cases same : device = bus
    · simp [Effect.apply, same] at unmarked
    · simpa [Effect.apply, same] using unmarked
  | acceptAdapter call adapter =>
    rw [effect] at found unmarked
    refine .inl ⟨found, ?_⟩
    by_cases same : device = adapter
    · simp [Effect.apply, same] at unmarked
    · simpa [Effect.apply, same] using unmarked
  | finishDevice device' =>
    rw [effect] at from' found unmarked
    obtain ⟨expected, frame, -⟩ := from'
    rw [frame] at known
    have different := unlisted device' known found
    exact .inl ⟨found, by simpa [Effect.apply, different] using unmarked⟩
  | finishBus bus =>
    rw [effect] at from' found unmarked
    obtain ⟨allowed, frame, -⟩ := from'
    rw [frame] at known
    have different := unlisted bus (known (fun other => by cases other)) found
    exact .inl ⟨found, by simpa [Effect.apply, different] using unmarked⟩
  | finishAdapter adapter =>
    rw [effect] at from' found unmarked
    obtain ⟨frame, -⟩ := from'
    rw [frame] at known
    have different := unlisted adapter (known (fun other => by cases other)) found
    exact .inl ⟨found, by simpa [Effect.apply, different] using unmarked⟩
  | _ =>
    rw [effect] at found unmarked
    exact .inl ⟨found, unmarked⟩

end EncosDriver.Driver
