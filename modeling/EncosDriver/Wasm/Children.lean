import EncosDriver.Wasm.Family

set_option autoImplicit false

namespace EncosDriver.Wasm

open Lib

structure Sound (world : World) : Prop where
  accounted : Accounted world
  family : Family world

structure Store.Same (store next : Store) : Prop where
  motor : next.motorCreationAdapter = store.motorCreationAdapter
  handles : store.nextHandle ≤ next.nextHandle
  adapters : ∀ handle, next.adapters.find handle = store.adapters.find handle
  buses : ∀ handle, next.buses.find handle = store.buses.find handle
  devices : ∀ kind handle, (next.devices kind).find handle = (store.devices kind).find handle
  leases : ∀ adapter, next.adapterHandleLeases.find adapter = store.adapterHandleLeases.find adapter
  pendings : next.pendingAdapterDeletions = store.pendingAdapterDeletions
  interfaces : next.pendingAdapterInterfaces = store.pendingAdapterInterfaces

theorem core_same (store next : Store) (same : store.Same next) : CoreSame store next := by
  refine ⟨same.handles, fun handle => by rw [same.adapters], fun adapter => ?_, same.leases,
    fun adapter => by rw [same.pendings], same.interfaces⟩
  exact Table.sum_congr _ _ _ same.adapters

variable (world : World)

theorem sound_same (sound : Sound world) (store : Store) (same : world.store.Same store)
    (creating : Option (Handle × Int)) (under : creating = world.creating ∨ creating = none) :
    Sound { world with store := store, creating := creating } := by
  have accounted := accounted_same world sound.accounted store (core_same _ _ same)
  refine ⟨?_, ?_⟩
  · exact ⟨accounted.bounded, accounted.past, accounted.distinct, accounted.manager, accounted.reserved,
      accounted.entries, accounted.kept, accounted.ended, accounted.leases, accounted.pendings, accounted.interfaces⟩
  · refine family_adapters world _ sound.family ?_ ?_ same.buses same.devices (fun _ inside => inside)
      (fun _ _ inside => .inl inside) rfl ?_ (fun _ => same.motor)
    · intro handle entry found _
      exact (same.adapters handle).trans found
    · intro handle entry found _
      exact .inl ((same.adapters handle).symm.trans found)
    · intro bus idx given
      rcases under with same' | ended
      · rw [← same']
        exact given
      · rw [show creating = some (bus, idx) from given] at ended
        cases ended

theorem sound_manager (sound : Sound world) (manager : Manager) (managed : manager.Sound)
    (destroyed : manager.destroyed = world.manager.destroyed)
    (objects : ∀ adapter object, world.manager.objects.find adapter = some object →
      manager.objects.find adapter = some object) : Sound { world with manager := manager } := by
  refine ⟨accounted_manager world sound.accounted manager managed destroyed objects, ?_⟩
  obtain ⟨buses, busKept, busListed, devices, deviceKept, deviceListed, creating⟩ := sound.family
  exact ⟨buses, busKept, busListed, devices, deviceKept, deviceListed, creating⟩

theorem register_world_sound (sound : Sound world) (name : String) (fake : Bool) :
    Sound { world with manager := (world.manager.register name fake).1 } := by
  obtain ⟨managed, destroyed, objects, -⟩ := register_sound world.manager name fake sound.accounted.manager
  exact sound_manager world sound _ managed destroyed objects

theorem manager_create_sound (sound : Sound world) (name : String) (made : Made Bool) :
    Sound { world with manager := (world.manager.createAdapter name made).1 } ∧
      ∀ adapter, (world.manager.createAdapter name made).2 = .made adapter →
        ∃ managed, (world.manager.createAdapter name made).1.objects.find adapter = some managed ∧ managed.name = name := by
  cases made with
  | threw | null => exact ⟨sound, nofun⟩
  | made fake =>
    refine ⟨register_world_sound world sound name fake, ?_⟩
    intro adapter same
    obtain ⟨-, -, -, held⟩ := register_sound world.manager name fake sound.accounted.manager
    have equal : (world.manager.register name fake).2 = adapter := Made.made.inj same
    rw [← equal]
    exact held

theorem reserve_cases (accounted : Accounted world) (entry : AdapterEntry) :
    world.store.reserve entry = .exhausted ∨
      world.store.reserve entry = .reserved world.store.nextHandle
        { world.store with
          nextHandle := world.store.nextHandle + 1
          adapters := world.store.adapters.put world.store.nextHandle entry
          adapterHandleLeases := world.store.adapterHandleLeases.put none 0 } := by
  unfold Store.reserve Store.allocateHandle
  by_cases full : world.store.nextHandle = 4294967295
  · exact .inl (by simp [full])
  · refine .inr ?_
    have fresh := adapters_fresh world accounted
    have unused := accounted.reserved
    simp [full, Table.contains, fresh, unused]

theorem released_same (accounted : Accounted world) (entry : AdapterEntry) :
    world.store.Same (Store.release
      { world.store with
        nextHandle := world.store.nextHandle + 1
        adapters := world.store.adapters.put world.store.nextHandle entry
        adapterHandleLeases := world.store.adapterHandleLeases.put none 0 } world.store.nextHandle) := by
  refine ⟨rfl, Nat.le_succ _, ?_, fun _ => rfl, fun _ _ => rfl, ?_, rfl, rfl⟩
  · intro handle
    simp only [Store.release, Table.find_remove, Table.find_put]
    by_cases new : handle = world.store.nextHandle
    · simp [new, adapters_fresh world accounted]
    · simp [new]
  · intro adapter
    simp only [Store.release, Table.find_remove, Table.find_put]
    by_cases none' : adapter = none
    · simp [none', accounted.reserved]
    · simp [none']

def Store.reserved (store : Store) (entry : AdapterEntry) : Store :=
  { store with
    nextHandle := store.nextHandle + 1
    adapters := store.adapters.put store.nextHandle { entry with valid := false }
    adapterHandleLeases := store.adapterHandleLeases.put none 0 }

variable (store : Store)

theorem published_adapters (entry : AdapterEntry) (adapter : AdapterId) (fake : Option AdapterId)
    (handle : Handle) :
    ((store.reserved entry).publish store.nextHandle adapter fake).adapters.find handle =
      (store.adapters.put store.nextHandle
        { entry with adapter := some adapter, fakeAdapter := fake, valid := true }).find handle := by
  simp only [Store.publish, Store.reserved, Table.find_modify, Table.find_put]
  by_cases new : handle = store.nextHandle
  · simp [new]
  · simp [new]

theorem published_leases (accounted : Accounted world) (entry : AdapterEntry) (adapter : AdapterId)
    (fake : Option AdapterId) (other : Option AdapterId) :
    ((world.store.reserved entry).publish world.store.nextHandle adapter fake).adapterHandleLeases.find other =
      if other = some adapter then some (world.store.references adapter + 1)
      else world.store.adapterHandleLeases.find other := by
  have lease := accounted.leases adapter
  simp only [Store.publish, Store.reserved, Table.find_put]
  rw [if_neg (Option.some_ne_none adapter), lease]
  by_cases unused : world.store.references adapter = 0
  · simp only [unused, if_true]
    by_cases own : other = some adapter
    · simp [own]
    · by_cases none' : other = none
      · simp [none', accounted.reserved]
      · simp [own, none']
  · simp only [unused, if_false]
    by_cases own : other = some adapter
    · simp [own]
    · by_cases none' : other = none
      · simp [none', accounted.reserved]
      · simp [own, none']

theorem publish_sound (sound : Sound world) (manager : Manager) (kept : Sound { world with manager := manager })
    (entry : AdapterEntry) (adapter : AdapterId) (fake : Option AdapterId) (managed : Managed)
    (held : manager.objects.find adapter = some managed) (name : managed.name = entry.interfaceName)
    (free : entry.interfaceName ∉ world.store.pendingAdapterInterfaces)
    (plain : entry.disposing = false ∧ entry.childBusHandles = [] ∧ ∀ kind, entry.childHandles kind = []) :
    Sound { world with
      store := (world.store.reserved entry).publish world.store.nextHandle adapter fake
      manager := manager
      births := world.births ++ [(world.store.nextHandle, .adapter adapter)] } := by
  have adapters := published_adapters world.store entry adapter fake
  refine ⟨?_, ?_⟩
  · exact accounted_publish _ kept.accounted _
      { entry with adapter := some adapter, fakeAdapter := fake, valid := true } adapter managed held rfl name
      free ⟨rfl, plain.1⟩ rfl adapters (published_leases world sound.accounted entry adapter fake) rfl rfl
  · refine family_adapters world _ sound.family ?_ ?_ (fun _ => rfl) (fun _ _ => rfl)
      (fun _ inside => List.mem_append_left _ inside) ?_ rfl (fun _ _ given => given) (fun _ => rfl)
    · intro handle before found _
      refine (adapters handle).trans ?_
      rw [Table.find_put, if_neg]
      · exact found
      · rintro rfl
        rw [adapters_fresh world sound.accounted] at found
        cases found
    · intro handle after found _
      have at' := (adapters handle).symm.trans found
      rw [Table.find_put] at at'
      split at at'
      · cases at'
        exact .inr plain.2
      · exact .inl at'
    · intro handle birth inside
      rcases List.mem_append.mp inside with before | new
      · exact .inl before
      · have same := List.mem_singleton.mp new
        simp only [Prod.mk.injEq] at same
        exact .inr ⟨adapter, same.2⟩

theorem create_sound (sound : Sound world) (entry : AdapterEntry) (made : Made Bool)
    (adopt : Manager → Made AdapterId → Option (AdapterId × Option AdapterId)) (code : ErrorCode) (message : String)
    (plain : entry.disposing = false ∧ entry.childBusHandles = [] ∧ ∀ kind, entry.childHandles kind = [])
    (adopts : ∀ manager got adapter fake, adopt manager got = some (adapter, fake) → got = .made adapter) :
    Sound (world.create entry made adopt code message).1 := by
  unfold World.create
  split
  · exact sound
  · rename_i free
    rcases reserve_cases world sound.accounted { entry with valid := false } with full | reserved
    · rw [full]
      exact sound
    · rw [reserved]
      obtain ⟨kept, named⟩ := manager_create_sound world sound entry.interfaceName made
      have failed := sound_same _ kept _ (released_same world sound.accounted { entry with valid := false })
        world.creating (.inl rfl)
      simp only
      cases got : (world.manager.createAdapter entry.interfaceName made).2 with
      | threw => exact failed
      | null =>
        simp only
        cases adopted : adopt (world.manager.createAdapter entry.interfaceName made).1 .null with
        | none => exact failed
        | some pair => cases adopts _ _ pair.1 pair.2 adopted
      | made adapter =>
        simp only
        cases adopted : adopt (world.manager.createAdapter entry.interfaceName made).1 (.made adapter) with
        | none => exact failed
        | some pair =>
          have same := Made.made.inj (adopts _ _ pair.1 pair.2 adopted)
          obtain ⟨managed, held, name⟩ := named adapter got
          rw [same] at held
          exact publish_sound world sound _ kept entry pair.1 pair.2 managed held name free plain

variable (handle : Handle)

theorem resolve_adapter_success (entry : AdapterEntry) :
    store.resolveAdapter handle = .success entry ↔ store.adapters.find handle = some entry ∧ entry.valid = true := by
  unfold Store.resolveAdapter
  cases found : store.adapters.find handle with
  | none => simp
  | some held =>
    cases valid : held.valid with
    | false =>
      simp only [valid, Bool.false_eq_true, if_false, reduceCtorEq, Option.some.injEq, false_iff, not_and]
      rintro rfl
      rw [valid]
      exact Bool.noConfusion
    | true =>
      simp only [valid, if_true, Answer.success.injEq, Option.some.injEq]
      exact ⟨fun same => ⟨same, same ▸ valid⟩, fun same => same.1⟩

theorem resolve_bus_success (entry : BusEntry) :
    store.resolveBus handle = .success entry ↔ store.buses.find handle = some entry ∧ entry.valid = true ∧
      ∃ adapter, store.resolveAdapter entry.adapterHandle = .success adapter := by
  unfold Store.resolveBus
  cases found : store.buses.find handle with
  | none => simp
  | some held =>
    cases valid : held.valid with
    | false =>
      simp only [valid, Bool.false_eq_true, if_false, reduceCtorEq, Option.some.injEq, false_iff, not_and]
      rintro rfl valid'
      rw [valid] at valid'
      cases valid'
    | true =>
      simp only [valid, if_true, Option.some.injEq]
      cases resolved : store.resolveAdapter held.adapterHandle with
      | success adapter =>
        simp only [Answer.success.injEq]
        exact ⟨fun same => ⟨same, same ▸ valid, adapter, same ▸ resolved⟩, fun same => same.1⟩
      | failure code message | thrown =>
        simp only [reduceCtorEq, false_iff]
        rintro ⟨rfl, -, adapter, resolved'⟩
        rw [resolved] at resolved'
        cases resolved'

theorem resolve_device_success (kind : DeviceKind) (handle : Handle) (entry : DeviceEntry) :
    store.resolveDevice kind handle = .success entry ↔ (store.devices kind).find handle = some entry ∧
      entry.valid = true ∧ ∃ bus, store.resolveBus entry.busHandle = .success bus := by
  unfold Store.resolveDevice
  cases found : (store.devices kind).find handle with
  | none => simp
  | some held =>
    cases valid : held.valid with
    | false =>
      simp only [valid, Bool.false_eq_true, if_false, reduceCtorEq, Option.some.injEq, false_iff, not_and]
      rintro rfl valid'
      rw [valid] at valid'
      cases valid'
    | true =>
      simp only [valid, if_true, Option.some.injEq]
      cases resolved : store.resolveBus held.busHandle with
      | success bus =>
        simp only [Answer.success.injEq]
        exact ⟨fun same => ⟨same, same ▸ valid, bus, same ▸ resolved⟩, fun same => same.1⟩
      | failure code message | thrown =>
        simp only [reduceCtorEq, false_iff]
        rintro ⟨rfl, -, bus, resolved'⟩
        rw [resolved] at resolved'
        cases resolved'

theorem references_modify (change : AdapterEntry → AdapterEntry)
    (kept : ∀ entry, (change entry).adapter = entry.adapter) (adapter : AdapterId) :
    (store.adapters.modify handle change).sum (holds adapter) = store.references adapter := by
  refine Table.sum_modify store.adapters (holds adapter) handle change ?_
  intro entry _
  simp only [holds, kept]

theorem accounted_child (accounted : Accounted world) (birth : Birth)
    (child : ∀ adapter, birth ≠ .adapter adapter) (store : Store) (handle : Handle)
    (change : AdapterEntry → AdapterEntry) (kept : ∀ entry, (change entry).core = entry.core)
    (handles : store.nextHandle = world.store.nextHandle + 1)
    (adapters : store.adapters = world.store.adapters.modify handle change)
    (leases : store.adapterHandleLeases = world.store.adapterHandleLeases)
    (pendings : store.pendingAdapterDeletions = world.store.pendingAdapterDeletions)
    (interfaces : store.pendingAdapterInterfaces = world.store.pendingAdapterInterfaces) :
    Accounted { world with store := store, births := world.births ++ [(world.store.nextHandle, birth)] } := by
  refine accounted_same _ (accounted_born world accounted birth child) store ⟨?_, ?_, ?_, ?_, ?_, interfaces⟩
  · exact handles.ge
  · intro other
    rw [adapters, Table.find_modify]
    split
    · rename_i same
      rw [same]
      cases world.store.adapters.find handle with
      | none => rfl
      | some entry => exact congrArg some (kept entry)
    · rfl
  · intro adapter
    rw [Store.references, adapters]
    refine references_modify world.store handle change (fun entry => ?_) adapter
    exact congrArg Prod.fst (kept entry)
  · exact fun adapter => by rw [leases]
  · exact fun adapter => by rw [pendings]

theorem get_bus_sound (sound : Sound world) (adapterHandle : Handle) (slaveIdx busIdx : Int)
    (made : Made (Int × BusId)) : Sound (world.getBus adapterHandle slaveIdx busIdx made).1 := by
  unfold World.getBus
  cases resolved : world.store.resolveAdapter adapterHandle with
  | failure code message | thrown => exact sound
  | success adapter =>
    obtain ⟨found, valid⟩ := (resolve_adapter_success _ _ _).mp resolved
    cases made with
    | threw | null => exact sound
    | made object =>
      simp only
      cases listed : adapter.busHandlesByRawIndex.find object.1 with
      | some handle => exact sound
      | none =>
        simp only [Store.allocateHandle]
        by_cases full : world.store.nextHandle = 4294967295
        · simp only [full, if_true]
          exact sound
        · simp only [full, if_false]
          refine ⟨?_, ?_⟩
          · exact accounted_child world sound.accounted (.bus adapterHandle) (fun _ other => by cases other) _ adapterHandle
              (fun entry => entry.addBus object.1 world.store.nextHandle) (fun entry => rfl) rfl rfl rfl rfl rfl
          · refine family_bus world _ sound.accounted sound.family adapterHandle adapter
              (adapter.addBus object.1 world.store.nextHandle)
              { adapterHandle := adapterHandle, bus := object.2, key := ⟨object.1, slaveIdx, busIdx⟩ }
              found valid ⟨valid, rfl, rfl, rfl⟩ ⟨rfl, rfl⟩
              ?_ ?_ rfl rfl rfl rfl rfl
            · intro other
              rw [Table.find_modify, found, Option.map_some]
            · exact fun other => Table.find_put _ _ _ _

theorem enter_sound (sound : Sound world) (kind : DeviceKind) (busHandle : Handle) (bus : BusEntry)
    (idx : Int) (device : DeviceId) (there : world.store.buses.find busHandle = some bus) :
    Sound (world.enter kind busHandle bus idx device).1 := by
  unfold World.enter Store.allocateHandle
  by_cases full : world.store.nextHandle = 4294967295
  · simp only [full, if_true]
    exact sound
  · simp only [full, if_false]
    obtain ⟨valid, -, entry, found, open', -⟩ := sound.family.buses busHandle bus there
    have resolved : world.store.resolveAdapter bus.adapterHandle = .success entry :=
      (resolve_adapter_success _ _ _).mpr ⟨found, open'⟩
    have resolved' : Store.resolveAdapter { world.store with nextHandle := world.store.nextHandle + 1 } bus.adapterHandle =
        .success entry := resolved
    refine ⟨?_, ?_⟩
    · refine accounted_child world sound.accounted (.device kind busHandle) nofun _ bus.adapterHandle
        (fun entry => entry.addDevice kind world.store.nextHandle) (fun entry => rfl) rfl ?_ rfl rfl rfl
      simp only [Store.addDevice, resolved']
    · refine family_device world _ sound.accounted sound.family kind busHandle bus
        (bus.addDevice kind idx world.store.nextHandle) entry (entry.addDevice kind world.store.nextHandle)
        { adapterHandle := bus.adapterHandle, busHandle := busHandle, idx := idx, device := device } there found open'
        ⟨open', rfl, rfl, fun _ => rfl⟩ ⟨rfl, rfl, rfl⟩ ⟨valid, rfl⟩ ?_ ?_ ?_ rfl rfl (fun _ _ given => given)
        (fun _ => rfl)
      · intro other
        simp only [Store.addDevice, resolved', Table.find_modify, found, Option.map_some]
      · intro other
        simp only [Store.addDevice, Table.find_modify, there, Option.map_some]
      · intro other handle
        simp only [Store.addDevice]
        by_cases same : other = kind
        · subst same
          simp
        · simp [same]

theorem get_device_sound (sound : Sound world) (kind : DeviceKind) (message : String) (busHandle : Handle)
    (idx : Int) (made : Made DeviceId) : Sound (world.getDevice kind message busHandle idx made).1 := by
  unfold World.getDevice
  cases resolved : world.store.resolveBus busHandle with
  | failure code message | thrown => exact sound
  | success bus =>
    have there := ((resolve_bus_success _ _ _).mp resolved).1
    simp only
    cases (bus.handlesByIndex kind).find idx with
    | some handle => exact sound
    | none =>
      cases made with
      | threw | null => exact sound
      | made device => exact enter_sound world sound kind busHandle bus idx device there

theorem get_motor_sound (sound : Sound world) (busHandle : Handle) (motorIdx : Int) :
    Sound (world.getMotorWithModel busHandle motorIdx).1 := by
  unfold World.getMotorWithModel
  cases resolved : world.store.resolveBus busHandle with
  | failure code message | thrown => exact sound
  | success bus =>
    have there := ((resolve_bus_success _ _ _).mp resolved).1
    simp only
    cases (bus.handlesByIndex .motor).find motorIdx with
    | some handle => exact sound
    | none =>
      cases world.store.motorCreationAdapter with
      | some other => exact sound
      | none =>
        cases resolved' : world.store.resolveAdapter bus.adapterHandle with
        | failure code message | thrown => exact sound
        | success adapter =>
          obtain ⟨found, open'⟩ := (resolve_adapter_success _ _ _).mp resolved'
          refine ⟨?_, ?_⟩
          · obtain ⟨bounded, past, distinct, manager, reserved, entries, kept, ended, leases, pendings, names⟩ :=
              sound.accounted
            exact ⟨bounded, past, distinct, manager, reserved, entries, kept, ended, leases, pendings, names⟩
          · obtain ⟨buses, busKept, busListed, devices, deviceKept, deviceListed, -⟩ := sound.family
            refine ⟨buses, busKept, busListed, devices, deviceKept, deviceListed, ?_⟩
            intro bus' idx under
            cases under
            exact ⟨bus, adapter, there, found, open', rfl⟩

theorem end_creation_sound (sound : Sound world) : Sound world.endCreation := by
  refine ⟨?_, ?_⟩
  · obtain ⟨bounded, past, distinct, manager, reserved, entries, kept, ended, leases, pendings, names⟩ := sound.accounted
    exact ⟨bounded, past, distinct, manager, reserved, entries, kept, ended, leases, pendings, names⟩
  · obtain ⟨buses, busKept, busListed, devices, deviceKept, deviceListed, -⟩ := sound.family
    exact ⟨buses, busKept, busListed, devices, deviceKept, deviceListed, nofun⟩

theorem finish_motor_sound (sound : Sound world) (made : Made DeviceId) (result : World × Answer Handle)
    (ran : world.finishMotor made = some result) : Sound result.1 := by
  unfold World.finishMotor at ran
  have ended := end_creation_sound world sound
  cases under : world.creating with
  | none => simp [under] at ran
  | some call =>
    obtain ⟨busHandle, motorIdx⟩ := call
    simp only [under] at ran
    cases made with
    | threw | null =>
      cases ran
      exact ended
    | made device =>
      cases there : world.store.buses.find busHandle with
      | none => simp [there] at ran
      | some bus =>
        simp only [there] at ran
        cases ran
        exact enter_sound world.endCreation ended .motor busHandle bus motorIdx device there

end EncosDriver.Wasm
