import EncosDriver.Wasm.Indexed

set_option autoImplicit false

namespace EncosDriver.Wasm

open Lib

def Store.resolve (store : Store) : DeviceKind → Handle → Answer DeviceEntry
  | .motor => store.resolveMotor
  | .battery => store.resolveBattery
  | .imu => store.resolveImu

@[simp] theorem resolve_device (store : Store) (kind : DeviceKind) (handle : Handle) :
    store.resolve kind handle = store.resolveDevice kind handle := by
  cases kind <;> rfl

-- The handle was given out for an adapter of the interface, and resolves to it.
def World.StandsForAdapter (world : World) (interfaceName : String) (handle : Handle) : Prop :=
  ∃ adapter entry, (handle, .adapter adapter) ∈ world.births ∧ world.store.resolveAdapter handle = .success entry ∧
    entry.adapter = some adapter ∧ entry.interfaceName = interfaceName

-- The handle was given out for a bus of the adapter handle, and resolves to the
-- bus with this index.
def World.StandsForBus (world : World) (parent : Handle) (rawIdx : Int) (handle : Handle) : Prop :=
  ∃ entry, (handle, .bus parent) ∈ world.births ∧ world.store.resolveBus handle = .success entry ∧
    entry.adapterHandle = parent ∧ entry.key.rawIdx = rawIdx

-- The handle was given out for a device of the bus handle, and resolves to the
-- device with this index.
def World.StandsForDevice (world : World) (kind : DeviceKind) (bus : Handle) (idx : Int) (handle : Handle) : Prop :=
  ∃ entry, (handle, .device kind bus) ∈ world.births ∧ world.store.resolve kind handle = .success entry ∧
    entry.busHandle = bus ∧ entry.idx = idx

-- What a call that gives out a handle leaves: a handle that stands for what was
-- asked for, and no record of any other one; and the call does give out a handle
-- when nothing refuses it.
structure Hands (before : World) (result : World × Answer Handle) (stands : Handle → Prop) (granted : Prop) : Prop where
  given : ∀ handle, result.2 = .success handle → stands handle
  births : result.1.births = before.births ∨
    ∃ handle birth, result.2 = .success handle ∧ result.1.births = before.births ++ [(handle, birth)]
  disposed : result.1.disposed = before.disposed
  grants : granted → ∃ handle, result.2 = .success handle

def World.Room (world : World) : Prop := world.store.nextHandle ≠ 4294967295

variable (world : World)

theorem hands_nothing (next : World) (answer : Answer Handle) (stands : Handle → Prop) (granted : Prop)
    (births : next.births = world.births) (disposed : next.disposed = world.disposed)
    (refused : ∀ handle, answer ≠ .success handle) (unasked : ¬ granted) : Hands world (next, answer) stands granted :=
  ⟨fun handle given => absurd given (refused handle), .inl births, disposed, fun asked => absurd asked unasked⟩

theorem create_hands (sound : Sound world) (entry : AdapterEntry) (made : Made Bool)
    (adopt : Manager → Made AdapterId → Option (AdapterId × Option AdapterId)) (code : ErrorCode) (message : String)
    (granted : Prop) (free : granted → entry.interfaceName ∉ world.store.pendingAdapterInterfaces) (room : granted → world.Room)
    (adopts : granted → ∃ adapter pair, (world.manager.createAdapter entry.interfaceName made).2 = .made adapter ∧
      adopt (world.manager.createAdapter entry.interfaceName made).1 (.made adapter) = some pair) :
    Hands world (world.create entry made adopt code message)
      (World.StandsForAdapter (world.create entry made adopt code message).1 entry.interfaceName) granted := by
  unfold World.create
  split
  · next pending => exact hands_nothing world _ _ _ _ rfl rfl (fun _ same => by cases same) fun asked => free asked pending
  · rcases reserve_cases world sound.accounted { entry with valid := false } with full | reserved
    · rw [full]
      refine hands_nothing world _ _ _ _ rfl rfl (fun _ same => by cases same) fun asked => ?_
      have fresh := adapters_fresh world sound.accounted
      have unused := sound.accounted.reserved
      unfold Store.reserve Store.allocateHandle at full
      rw [if_neg (room asked)] at full
      simp only [Table.contains, fresh, unused, Option.isSome_none, Bool.or_self, Bool.false_eq_true, if_false, reduceCtorEq] at full
    · rw [reserved]
      dsimp only
      split
      · next threw =>
          refine hands_nothing world _ _ _ _ rfl rfl (fun _ same => by cases same) fun asked => ?_
          obtain ⟨adapter, -, made', -⟩ := adopts asked
          rw [threw] at made'
          cases made'
      · split
        · next refused =>
            refine hands_nothing world _ _ _ _ rfl rfl (fun _ same => by cases same) fun asked => ?_
            obtain ⟨adapter, pair, made', adopted⟩ := adopts asked
            rw [made', adopted] at refused
            cases refused
        · next adapter fake adopted =>
            refine ⟨?_, .inr ⟨_, _, rfl, rfl⟩, rfl, fun _ => ⟨_, rfl⟩⟩
            intro handle given
            obtain rfl := Answer.success.inj given
            have found := published_adapters world.store entry adapter fake world.store.nextHandle
            rw [Table.put_same] at found
            exact ⟨adapter, _, List.mem_append_right _ (List.mem_singleton_self _),
              (resolve_adapter_success _ _ _).mpr ⟨found, rfl⟩, rfl, rfl⟩

theorem get_bus_hands (sound : Sound world) (indexed : world.store.Indexed) (adapterHandle : Handle) (slaveIdx busIdx rawIdx : Int)
    (bus : BusId) :
    Hands world (world.getBus adapterHandle slaveIdx busIdx (.made (rawIdx, bus)))
      (World.StandsForBus (world.getBus adapterHandle slaveIdx busIdx (.made (rawIdx, bus))).1 adapterHandle rawIdx)
      ((∃ entry, world.store.resolveAdapter adapterHandle = .success entry) ∧ world.Room) := by
  unfold World.getBus
  cases resolved : world.store.resolveAdapter adapterHandle with
  | failure code message => exact hands_nothing world _ _ _ _ rfl rfl nofun fun ⟨⟨_, other⟩, _⟩ => nomatch other
  | thrown => exact hands_nothing world _ _ _ _ rfl rfl nofun fun ⟨⟨_, other⟩, _⟩ => nomatch other
  | success adapter =>
    obtain ⟨found, valid⟩ := (resolve_adapter_success _ _ _).mp resolved
    dsimp only
    cases listed : adapter.busHandlesByRawIndex.find rawIdx with
    | some handle =>
      refine ⟨?_, .inl rfl, rfl, fun _ => ⟨handle, rfl⟩⟩
      intro other given
      obtain rfl := Answer.success.inj given
      obtain ⟨held, at', parented, keyed⟩ := indexed.buses adapterHandle adapter rawIdx handle found valid listed
      obtain ⟨busValid, born, -⟩ := sound.family.buses handle held at'
      exact ⟨held, parented ▸ born, (resolve_bus_success _ _ _).mpr ⟨at', busValid, adapter, parented ▸ resolved⟩, parented, keyed⟩
    | none =>
      by_cases full : world.store.nextHandle = 4294967295
      · simp only [Store.allocateHandle, full, if_true]
        exact hands_nothing world _ _ _ _ rfl rfl nofun fun asked => asked.2 full
      · simp only [Store.allocateHandle, full, if_false]
        refine ⟨?_, .inr ⟨_, _, rfl, rfl⟩, rfl, fun _ => ⟨_, rfl⟩⟩
        intro handle given
        obtain rfl := Answer.success.inj given
        refine ⟨_, List.mem_append_right _ (List.mem_singleton_self _), (resolve_bus_success _ _ _).mpr
          ⟨Table.put_same _ _ _, rfl, adapter.addBus rawIdx world.store.nextHandle, ?_⟩, rfl, rfl⟩
        refine (resolve_adapter_success _ _ _).mpr ⟨?_, valid⟩
        simp only [Table.find_modify, if_true, found, Option.map_some]

theorem enter_hands (sound : Sound world) (kind : DeviceKind) (busHandle : Handle) (bus : BusEntry) (idx : Int) (device : DeviceId)
    (there : world.store.buses.find busHandle = some bus) :
    Hands world (world.enter kind busHandle bus idx device)
      (World.StandsForDevice (world.enter kind busHandle bus idx device).1 kind busHandle idx) world.Room := by
  have after := enter_sound world sound kind busHandle bus idx device there
  unfold World.enter Store.allocateHandle at after ⊢
  by_cases full : world.store.nextHandle = 4294967295
  · simp only [full, if_true]
    exact hands_nothing world _ _ _ _ rfl rfl nofun fun asked => asked full
  · simp only [full, if_false] at after ⊢
    refine ⟨?_, .inr ⟨_, _, rfl, rfl⟩, rfl, fun _ => ⟨_, rfl⟩⟩
    intro handle given
    obtain rfl := Answer.success.inj given
    refine ⟨{ adapterHandle := bus.adapterHandle, busHandle := busHandle, idx := idx, device := device },
      List.mem_append_right _ (List.mem_singleton_self _), ?_, rfl, rfl⟩
    have held : (({ world.store with nextHandle := world.store.nextHandle + 1 } : Store).addDevice kind world.store.nextHandle
        { adapterHandle := bus.adapterHandle, busHandle := busHandle, idx := idx, device := device }).buses.find busHandle =
          some (bus.addDevice kind idx world.store.nextHandle) := by
      simp only [Store.addDevice, Table.find_modify, if_true, there, Option.map_some]
    obtain ⟨valid, -, entry, found, open', -⟩ := after.family.buses busHandle _ held
    rw [resolve_device]
    refine (resolve_device_success _ _ _ _).mpr ⟨?_, rfl, _, (resolve_bus_success _ _ _).mpr ⟨held, valid, entry, ?_⟩⟩
    · simp only [Store.addDevice, if_true, Table.put_same]
    · exact (resolve_adapter_success _ _ _).mpr ⟨found, open'⟩

theorem listed_stands (sound : Sound world) (indexed : world.store.Indexed) (kind : DeviceKind) (busHandle : Handle) (bus : BusEntry)
    (idx : Int) (handle : Handle) (resolved : world.store.resolveBus busHandle = .success bus)
    (listed : (bus.handlesByIndex kind).find idx = some handle) : world.StandsForDevice kind busHandle idx handle := by
  obtain ⟨there, -⟩ := (resolve_bus_success _ _ _).mp resolved
  obtain ⟨device, held, own, same⟩ := indexed.devices busHandle bus kind idx handle there listed
  obtain ⟨valid, born, -⟩ := sound.family.devices kind handle device held
  refine ⟨device, own ▸ born, ?_, own, same⟩
  rw [resolve_device]
  exact (resolve_device_success _ _ _ _).mpr ⟨held, valid, bus, own ▸ resolved⟩

theorem get_device_hands (sound : Sound world) (indexed : world.store.Indexed) (kind : DeviceKind) (message : String)
    (busHandle : Handle) (idx : Int) (made : Made DeviceId) :
    Hands world (world.getDevice kind message busHandle idx made)
      (World.StandsForDevice (world.getDevice kind message busHandle idx made).1 kind busHandle idx)
      ((∃ bus, world.store.resolveBus busHandle = .success bus) ∧ (∃ device, made = .made device) ∧ world.Room) := by
  unfold World.getDevice
  cases resolved : world.store.resolveBus busHandle with
  | failure code message => exact hands_nothing world _ _ _ _ rfl rfl nofun fun ⟨⟨_, other⟩, _⟩ => nomatch other
  | thrown => exact hands_nothing world _ _ _ _ rfl rfl nofun fun ⟨⟨_, other⟩, _⟩ => nomatch other
  | success bus =>
    have there := ((resolve_bus_success _ _ _).mp resolved).1
    dsimp only
    cases listed : (bus.handlesByIndex kind).find idx with
    | some handle =>
      refine ⟨?_, .inl rfl, rfl, fun _ => ⟨handle, rfl⟩⟩
      intro other given
      obtain rfl := Answer.success.inj given
      exact listed_stands world sound indexed kind busHandle bus idx handle resolved listed
    | none =>
      cases made with
      | threw => exact hands_nothing world _ _ _ _ rfl rfl nofun fun ⟨_, ⟨_, other⟩, _⟩ => nomatch other
      | null => exact hands_nothing world _ _ _ _ rfl rfl nofun fun ⟨_, ⟨_, other⟩, _⟩ => nomatch other
      | made device =>
        have entered := enter_hands world sound kind busHandle bus idx device there
        exact ⟨entered.given, entered.births, entered.disposed, fun asked => entered.grants asked.2.2⟩

-- The first half of GetMotorWithModel answers at once with the handle that the
-- bus keeps, or begins a creation.
structure Begins (before : World) (result : World × Option (Answer Handle)) (busHandle : Handle) (motorIdx : Int) : Prop where
  given : ∀ handle, result.2 = some (.success handle) → before.StandsForDevice .motor busHandle motorIdx handle
  births : result.1.births = before.births ∧ result.1.disposed = before.disposed
  begins : result.2 = none → result.1.creating = some (busHandle, motorIdx)
  grants : (∃ bus, before.store.resolveBus busHandle = .success bus) → before.store.motorCreationAdapter = none →
    result.2 = none ∨ ∃ handle, result.2 = some (.success handle)

theorem get_motor_begins (sound : Sound world) (indexed : world.store.Indexed) (busHandle : Handle) (motorIdx : Int) :
    Begins world (world.getMotorWithModel busHandle motorIdx) busHandle motorIdx := by
  have refused (answer : Answer Handle) (fails : ∀ handle, answer ≠ .success handle)
      (ungranted : ¬ ((∃ bus, world.store.resolveBus busHandle = .success bus) ∧ world.store.motorCreationAdapter = none)) :
      Begins world (world, some answer) busHandle motorIdx :=
    ⟨fun handle given => absurd (Option.some.inj given) (fails handle), ⟨rfl, rfl⟩, nofun,
      fun resolves idle => absurd ⟨resolves, idle⟩ ungranted⟩
  unfold World.getMotorWithModel
  cases resolved : world.store.resolveBus busHandle with
  | failure code message => exact refused _ nofun fun ⟨⟨_, other⟩, _⟩ => nomatch resolved.symm.trans other
  | thrown => exact refused _ nofun fun ⟨⟨_, other⟩, _⟩ => nomatch resolved.symm.trans other
  | success bus =>
    obtain ⟨-, -, adapter, parent⟩ := (resolve_bus_success _ _ _).mp resolved
    dsimp only
    cases listed : (bus.handlesByIndex .motor).find motorIdx with
    | some handle =>
      refine ⟨?_, ⟨rfl, rfl⟩, nofun, fun _ _ => .inr ⟨handle, rfl⟩⟩
      intro other given
      obtain rfl := Answer.success.inj (Option.some.inj given)
      exact listed_stands world sound indexed .motor busHandle bus motorIdx handle resolved listed
    | none =>
      cases idle : world.store.motorCreationAdapter with
      | some other => exact refused _ nofun fun asked => nomatch idle.symm.trans asked.2
      | none =>
        rw [parent]
        exact ⟨nofun, ⟨rfl, rfl⟩, fun _ => rfl, fun _ _ => .inl rfl⟩

theorem finish_motor_hands (sound : Sound world) (busHandle : Handle) (motorIdx : Int)
    (under : world.creating = some (busHandle, motorIdx)) (made : Made DeviceId) :
    ∃ result, world.finishMotor made = some result ∧
      Hands world result (result.1.StandsForDevice .motor busHandle motorIdx) ((∃ device, made = .made device) ∧ world.Room) := by
  obtain ⟨bus, -, there, -⟩ := sound.family.creating busHandle motorIdx under
  unfold World.finishMotor
  rw [under]
  cases made with
  | threw => exact ⟨_, rfl, hands_nothing world _ _ _ _ rfl rfl nofun fun ⟨⟨_, other⟩, _⟩ => nomatch other⟩
  | null => exact ⟨_, rfl, hands_nothing world _ _ _ _ rfl rfl nofun fun ⟨⟨_, other⟩, _⟩ => nomatch other⟩
  | made device =>
    dsimp only
    rw [there]
    have entered := enter_hands world.endCreation (end_creation_sound world sound) .motor busHandle bus motorIdx device there
    exact ⟨_, rfl, entered.given, entered.births, entered.disposed, fun asked => entered.grants asked.2⟩

structure CallsLaw (world : World) : Prop where
  createAdapter : ∀ adapterType interfaceName made,
    Hands world (world.createAdapter adapterType interfaceName made)
      (World.StandsForAdapter (world.createAdapter adapterType interfaceName made).1 interfaceName)
      (adapterType ≠ "" ∧ interfaceName ∉ world.store.pendingAdapterInterfaces ∧ (∃ fake, made = .made fake) ∧ world.Room)
  createFakeAdapter : ∀ interfaceName made,
    Hands world (world.createFakeAdapter interfaceName made)
      (World.StandsForAdapter (world.createFakeAdapter interfaceName made).1 interfaceName)
      (interfaceName ∉ world.store.pendingAdapterInterfaces ∧ (∃ fake, made = .made fake) ∧
        (∀ adapter, world.manager.adapters.find interfaceName = some adapter → world.manager.isFake adapter = true) ∧ world.Room)
  getBus : ∀ adapterHandle slaveIdx busIdx rawIdx bus,
    Hands world (world.getBus adapterHandle slaveIdx busIdx (.made (rawIdx, bus)))
      (World.StandsForBus (world.getBus adapterHandle slaveIdx busIdx (.made (rawIdx, bus))).1 adapterHandle rawIdx)
      ((∃ entry, world.store.resolveAdapter adapterHandle = .success entry) ∧ world.Room)
  getBusRefused : ∀ adapterHandle slaveIdx busIdx (made : Made (Int × BusId)), (∀ object, made ≠ .made object) →
    (∀ handle, (world.getBus adapterHandle slaveIdx busIdx made).2 ≠ .success handle) ∧
      (world.getBus adapterHandle slaveIdx busIdx made).1 = world
  getMotorWithModel : ∀ busHandle motorIdx, Begins world (world.getMotorWithModel busHandle motorIdx) busHandle motorIdx
  finishMotor : ∀ busHandle motorIdx, world.creating = some (busHandle, motorIdx) → ∀ made,
    ∃ result, world.finishMotor made = some result ∧
      Hands world result (result.1.StandsForDevice .motor busHandle motorIdx) ((∃ device, made = .made device) ∧ world.Room)
  getBattery : ∀ busHandle batteryIdx made,
    Hands world (world.getBattery busHandle batteryIdx made)
      (World.StandsForDevice (world.getBattery busHandle batteryIdx made).1 .battery busHandle batteryIdx)
      ((∃ bus, world.store.resolveBus busHandle = .success bus) ∧ (∃ device, made = .made device) ∧ world.Room)
  getImu : ∀ busHandle imuIdx made,
    Hands world (world.getImu busHandle imuIdx made)
      (World.StandsForDevice (world.getImu busHandle imuIdx made).1 .imu busHandle imuIdx)
      ((∃ bus, world.store.resolveBus busHandle = .success bus) ∧ (∃ device, made = .made device) ∧ world.Room)

theorem get_bus_refused (adapterHandle : Handle) (slaveIdx busIdx : Int) (made : Made (Int × BusId))
    (refused : ∀ object, made ≠ .made object) :
    (∀ handle, (world.getBus adapterHandle slaveIdx busIdx made).2 ≠ .success handle) ∧
      (world.getBus adapterHandle slaveIdx busIdx made).1 = world := by
  unfold World.getBus
  split
  · exact ⟨nofun, rfl⟩
  · exact ⟨nofun, rfl⟩
  · cases made with
    | threw | null => exact ⟨nofun, rfl⟩
    | made object => exact absurd rfl (refused object)

theorem register_fake (manager : Manager) (name : String)
    (others : ∀ adapter, manager.adapters.find name = some adapter → manager.isFake adapter = true) :
    (manager.register name true).1.isFake (manager.register name true).2 = true := by
  unfold Manager.register
  cases found : manager.adapters.find name with
  | some adapter => exact others adapter found
  | none => simp [Manager.isFake]

theorem calls_law (sound : Sound world) (indexed : world.store.Indexed) : CallsLaw world where
  createAdapter adapterType interfaceName made := by
    unfold World.createAdapter
    split
    · next empty => exact hands_nothing world _ _ _ _ rfl rfl nofun fun asked => asked.1 empty
    · refine create_hands world sound _ made adoptAny _ _ _ (fun asked => asked.2.1) (fun asked => asked.2.2.2) ?_
      rintro ⟨-, -, ⟨fake, rfl⟩, -⟩
      exact ⟨_, _, rfl, rfl⟩
  createFakeAdapter interfaceName made := by
    refine create_hands world sound _ (fakeFactory made) adoptFake _ _ _ (fun asked => asked.1) (fun asked => asked.2.2.2) ?_
    rintro ⟨-, ⟨fake, rfl⟩, others, -⟩
    have registered := register_fake world.manager interfaceName others
    exact ⟨_, ((world.manager.register interfaceName true).2, some (world.manager.register interfaceName true).2), rfl, if_pos registered⟩
  getBus := get_bus_hands world sound indexed
  getBusRefused := get_bus_refused world
  getMotorWithModel := get_motor_begins world sound indexed
  finishMotor := finish_motor_hands world sound
  getBattery := get_device_hands world sound indexed .battery _
  getImu := get_device_hands world sound indexed .imu _

end EncosDriver.Wasm
