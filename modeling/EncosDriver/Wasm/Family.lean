import EncosDriver.Wasm.Leases

set_option autoImplicit false

namespace EncosDriver.Wasm

open Lib

structure Family (world : World) : Prop where
  buses : ∀ handle bus, world.store.buses.find handle = some bus →
    bus.valid = true ∧ (handle, .bus bus.adapterHandle) ∈ world.births ∧
      ∃ entry, world.store.adapters.find bus.adapterHandle = some entry ∧ entry.valid = true ∧
        handle ∈ entry.childBusHandles
  busKept : ∀ handle parent, (handle, .bus parent) ∈ world.births →
    (∃ adapter, (parent, .adapter adapter) ∈ world.births) ∧
      (parent ∉ world.disposed → ∃ bus, world.store.buses.find handle = some bus ∧ bus.adapterHandle = parent)
  busListed : ∀ parent entry, world.store.adapters.find parent = some entry → entry.valid = true →
    ∀ handle ∈ entry.childBusHandles, ∃ bus, world.store.buses.find handle = some bus ∧ bus.adapterHandle = parent
  devices : ∀ kind handle device, (world.store.devices kind).find handle = some device →
    device.valid = true ∧ (handle, .device kind device.busHandle) ∈ world.births ∧
      (∃ bus, world.store.buses.find device.busHandle = some bus ∧ bus.adapterHandle = device.adapterHandle) ∧
      ∃ entry, world.store.adapters.find device.adapterHandle = some entry ∧ handle ∈ entry.childHandles kind
  deviceKept : ∀ kind handle bus, (handle, .device kind bus) ∈ world.births →
    ∃ parent, (bus, .bus parent) ∈ world.births ∧
      (parent ∉ world.disposed → ∃ device, (world.store.devices kind).find handle = some device ∧ device.busHandle = bus)
  deviceListed : ∀ parent entry, world.store.adapters.find parent = some entry → entry.valid = true →
    ∀ kind, ∀ handle ∈ entry.childHandles kind,
      ∃ device, (world.store.devices kind).find handle = some device ∧ device.adapterHandle = parent
  creating : ∀ bus idx, world.creating = some (bus, idx) → ∃ entry adapter, world.store.buses.find bus = some entry ∧
    world.store.adapters.find entry.adapterHandle = some adapter ∧ adapter.valid = true ∧
      world.store.motorCreationAdapter = adapter.adapter

theorem births_unique (world : World) (accounted : Accounted world) (handle : Handle) (first second : Birth)
    (one : (handle, first) ∈ world.births) (two : (handle, second) ∈ world.births) : first = second := by
  have same := List.inj_on_of_nodup_map accounted.distinct one two rfl
  exact congrArg Prod.snd same

variable (world next : World)

theorem family_adapters (family : Family world)
    (kept : ∀ handle entry, world.store.adapters.find handle = some entry → entry.valid = true →
      next.store.adapters.find handle = some entry)
    (gained : ∀ handle entry, next.store.adapters.find handle = some entry → entry.valid = true →
      world.store.adapters.find handle = some entry ∨
        (entry.childBusHandles = [] ∧ ∀ kind, entry.childHandles kind = []))
    (buses : ∀ handle, next.store.buses.find handle = world.store.buses.find handle)
    (devices : ∀ kind handle, (next.store.devices kind).find handle = (world.store.devices kind).find handle)
    (born : ∀ birth, birth ∈ world.births → birth ∈ next.births)
    (children : ∀ handle birth, (handle, birth) ∈ next.births →
      (handle, birth) ∈ world.births ∨ ∃ adapter, birth = .adapter adapter)
    (disposed : next.disposed = world.disposed)
    (creating : ∀ bus idx, next.creating = some (bus, idx) → world.creating = some (bus, idx))
    (motor : next.creating ≠ none → next.store.motorCreationAdapter = world.store.motorCreationAdapter) :
    Family next := by
  have bus_old : ∀ handle parent, (handle, Birth.bus parent) ∈ next.births → (handle, Birth.bus parent) ∈ world.births := by
    intro handle parent inside
    rcases children handle _ inside with before | ⟨adapter, same⟩
    · exact before
    · cases same
  have device_old : ∀ handle kind bus, (handle, Birth.device kind bus) ∈ next.births →
      (handle, Birth.device kind bus) ∈ world.births := by
    intro handle kind bus inside
    rcases children handle _ inside with before | ⟨adapter, same⟩
    · exact before
    · cases same
  refine ⟨?_, ?_, ?_, ?_, ?_, ?_, ?_⟩
  · intro handle bus found
    rw [buses] at found
    obtain ⟨valid, at', entry, held, open', listed⟩ := family.buses handle bus found
    exact ⟨valid, born _ at', entry, kept _ entry held open', open', listed⟩
  · intro handle parent inside
    obtain ⟨⟨adapter, made⟩, there⟩ := family.busKept handle parent (bus_old handle parent inside)
    refine ⟨⟨adapter, born _ made⟩, ?_⟩
    rw [disposed, buses]
    exact there
  · intro parent entry held open' handle listed
    rw [buses]
    rcases gained parent entry held open' with before | ⟨none', -⟩
    · exact family.busListed parent entry before open' handle listed
    · rw [none'] at listed
      cases listed
  · intro kind handle device found
    rw [devices] at found
    obtain ⟨valid, at', ⟨bus, at'', parent⟩, entry, held, listed⟩ := family.devices kind handle device found
    refine ⟨valid, born _ at', ⟨bus, by rw [buses]; exact at'', parent⟩, entry, ?_, listed⟩
    obtain ⟨-, -, entry', held', open', -⟩ := family.buses device.busHandle bus at''
    rw [parent, held] at held'
    cases held'
    exact kept _ entry held open'
  · intro kind handle bus inside
    obtain ⟨parent, at', there⟩ := family.deviceKept kind handle bus (device_old handle kind bus inside)
    refine ⟨parent, born _ at', ?_⟩
    rw [disposed, devices]
    exact there
  · intro parent entry held open' kind handle listed
    rw [devices]
    rcases gained parent entry held open' with before | ⟨-, none'⟩
    · exact family.deviceListed parent entry before open' kind handle listed
    · rw [none'] at listed
      cases listed
  · intro bus idx under
    obtain ⟨entry, adapter, at', held, open', same⟩ := family.creating bus idx (creating bus idx under)
    refine ⟨entry, adapter, by rw [buses]; exact at', kept _ adapter held open', open', ?_⟩
    rw [motor (by rw [under]; exact Option.some_ne_none _)]
    exact same

theorem buses_fresh (world : World) (accounted : Accounted world) (family : Family world) :
    world.store.buses.find world.store.nextHandle = none := by
  cases found : world.store.buses.find world.store.nextHandle with
  | none => rfl
  | some bus => exact absurd (accounted.bounded _ (family.buses _ bus found).2.1) (Nat.lt_irrefl _)

theorem devices_fresh (world : World) (accounted : Accounted world) (family : Family world) (kind : DeviceKind) :
    (world.store.devices kind).find world.store.nextHandle = none := by
  cases found : (world.store.devices kind).find world.store.nextHandle with
  | none => rfl
  | some device => exact absurd (accounted.bounded _ (family.devices kind _ device found).2.1) (Nat.lt_irrefl _)

theorem family_dispose (accounted : Accounted world) (family : Family world) (handle : Handle)
    (entry : AdapterEntry) (found : world.store.adapters.find handle = some entry) (open' : entry.valid = true)
    (unused : world.store.motorCreationAdapter ≠ entry.adapter)
    (others : ∀ other, other ≠ handle → next.store.adapters.find other = world.store.adapters.find other)
    (closed : ∀ after, next.store.adapters.find handle = some after → after.valid = false)
    (buses : ∀ other, next.store.buses.find other =
      if other ∈ entry.childBusHandles then none else world.store.buses.find other)
    (devices : ∀ kind other, (next.store.devices kind).find other =
      if other ∈ entry.childHandles kind then none else (world.store.devices kind).find other)
    (births : next.births = world.births) (disposed : next.disposed = handle :: world.disposed)
    (creating : next.creating = world.creating)
    (motor : next.store.motorCreationAdapter = world.store.motorCreationAdapter) : Family next := by
  have bus_stays : ∀ other bus, world.store.buses.find other = some bus → bus.adapterHandle ≠ handle →
      next.store.buses.find other = some bus := by
    intro other bus at' away
    rw [buses, if_neg]
    · exact at'
    · intro listed
      obtain ⟨bus', at'', parent⟩ := family.busListed handle entry found open' other listed
      rw [at'] at at''
      cases at''
      exact away parent
  have bus_left : ∀ other bus, next.store.buses.find other = some bus →
      world.store.buses.find other = some bus ∧ bus.adapterHandle ≠ handle := by
    intro other bus at'
    rw [buses] at at'
    split at at'
    · cases at'
    · rename_i free
      refine ⟨at', fun parent => free ?_⟩
      obtain ⟨-, -, entry', held, -, listed⟩ := family.buses other bus at'
      rw [parent, found] at held
      cases held
      exact listed
  have device_left : ∀ kind other device, (next.store.devices kind).find other = some device →
      (world.store.devices kind).find other = some device ∧ device.adapterHandle ≠ handle := by
    intro kind other device at'
    rw [devices] at at'
    split at at'
    · cases at'
    · rename_i free
      refine ⟨at', fun parent => free ?_⟩
      obtain ⟨-, -, -, entry', held, listed⟩ := family.devices kind other device at'
      rw [parent, found] at held
      cases held
      exact listed
  have open_other : ∀ other after, next.store.adapters.find other = some after → after.valid = true →
      other ≠ handle ∧ world.store.adapters.find other = some after := by
    intro other after held valid
    have different : other ≠ handle := by
      rintro rfl
      rw [closed after held] at valid
      cases valid
    rw [others other different] at held
    exact ⟨different, held⟩
  refine ⟨?_, ?_, ?_, ?_, ?_, ?_, ?_⟩
  · intro other bus at'
    obtain ⟨before, away⟩ := bus_left other bus at'
    obtain ⟨valid, born, entry', held, open'', listed⟩ := family.buses other bus before
    refine ⟨valid, births ▸ born, entry', ?_, open'', listed⟩
    rw [others _ away]
    exact held
  · intro other parent born
    rw [births] at born
    obtain ⟨made, there⟩ := family.busKept other parent born
    rw [births, disposed]
    refine ⟨made, fun kept => ?_⟩
    simp only [List.mem_cons, not_or] at kept
    obtain ⟨bus, at', same⟩ := there kept.2
    exact ⟨bus, bus_stays other bus at' (same ▸ kept.1), same⟩
  · intro parent after held valid other listed
    obtain ⟨different, before⟩ := open_other parent after held valid
    obtain ⟨bus, at', same⟩ := family.busListed parent after before valid other listed
    exact ⟨bus, bus_stays other bus at' (same ▸ different), same⟩
  · intro kind other device at'
    obtain ⟨before, away⟩ := device_left kind other device at'
    obtain ⟨valid, born, ⟨bus, at'', parent⟩, entry', held, listed⟩ := family.devices kind other device before
    refine ⟨valid, births ▸ born, ⟨bus, bus_stays _ bus at'' (parent ▸ away), parent⟩, entry', ?_, listed⟩
    rw [others _ away]
    exact held
  · intro kind other bus born
    rw [births] at born
    obtain ⟨parent, at', there⟩ := family.deviceKept kind other bus born
    rw [births, disposed]
    refine ⟨parent, at', fun kept => ?_⟩
    simp only [List.mem_cons, not_or] at kept
    obtain ⟨device, held, same⟩ := there kept.2
    refine ⟨device, ?_, same⟩
    rw [devices, if_neg]
    · exact held
    · -- A device that the entry lists has its bus there, which was born there.
      intro listed
      obtain ⟨device', held', owner⟩ := family.deviceListed handle entry found open' kind other listed
      rw [held] at held'
      cases held'
      obtain ⟨-, -, ⟨bus', at'', owner'⟩, -⟩ := family.devices kind other device held
      obtain ⟨-, born', -⟩ := family.buses device.busHandle bus' at''
      rw [same, owner', owner] at born'
      have equal := births_unique world accounted bus _ _ born' at'
      exact kept.1 (Birth.bus.inj equal).symm
  · intro parent after held valid kind other listed
    obtain ⟨different, before⟩ := open_other parent after held valid
    obtain ⟨device, at', same⟩ := family.deviceListed parent after before valid kind other listed
    refine ⟨device, ?_, same⟩
    rw [devices, if_neg]
    · exact at'
    · intro listed'
      obtain ⟨device', at'', owner⟩ := family.deviceListed handle entry found open' kind other listed'
      rw [at'] at at''
      cases at''
      exact different (same.symm.trans owner)
  · intro bus idx under
    rw [creating] at under
    obtain ⟨bus', adapter, at', held, valid, same⟩ := family.creating bus idx under
    have different : bus'.adapterHandle ≠ handle := by
      intro equal
      rw [equal, found] at held
      cases held
      exact unused same
    refine ⟨bus', adapter, bus_stays bus bus' at' different, ?_, valid, motor.trans same⟩
    rw [others _ different]
    exact held

theorem family_bus (accounted : Accounted world) (family : Family world) (parent : Handle)
    (entry after : AdapterEntry) (bus : BusEntry)
    (found : world.store.adapters.find parent = some entry) (open' : entry.valid = true)
    (grown : after.valid = true ∧ after.adapter = entry.adapter ∧ after.childHandles = entry.childHandles ∧
      after.childBusHandles = entry.childBusHandles ++ [world.store.nextHandle])
    (given : bus.valid = true ∧ bus.adapterHandle = parent)
    (adapters : ∀ other, next.store.adapters.find other =
      if other = parent then some after else world.store.adapters.find other)
    (buses : ∀ other, next.store.buses.find other =
      if other = world.store.nextHandle then some bus else world.store.buses.find other)
    (devices : next.store.devices = world.store.devices)
    (births : next.births = world.births ++ [(world.store.nextHandle, .bus parent)])
    (disposed : next.disposed = world.disposed) (creating : next.creating = world.creating)
    (motor : next.store.motorCreationAdapter = world.store.motorCreationAdapter) : Family next := by
  have fresh := buses_fresh world accounted family
  have stays : ∀ other before, world.store.buses.find other = some before → next.store.buses.find other = some before := by
    intro other before at'
    rw [buses, if_neg]
    · exact at'
    · rintro rfl
      rw [fresh] at at'
      cases at'
  have born_old : ∀ birth ∈ world.births, birth ∈ next.births := by
    intro birth inside
    rw [births]
    exact List.mem_append_left _ inside
  have new_born : (world.store.nextHandle, Birth.bus parent) ∈ next.births := by
    rw [births]
    exact List.mem_append_right _ (List.mem_singleton_self _)
  have lists : ∀ other before, world.store.adapters.find other = some before → ∃ now,
      next.store.adapters.find other = some now ∧ now.valid = before.valid ∧ now.adapter = before.adapter ∧
        now.childHandles = before.childHandles ∧ ∀ handle ∈ before.childBusHandles, handle ∈ now.childBusHandles := by
    intro other before held
    rw [adapters]
    by_cases same : other = parent
    · rw [same, found] at held
      cases held
      refine ⟨after, if_pos same, grown.1.trans open'.symm, grown.2.1, grown.2.2.1, fun handle listed => ?_⟩
      rw [grown.2.2.2]
      exact List.mem_append_left _ listed
    · exact ⟨before, by rw [if_neg same]; exact held, rfl, rfl, rfl, fun handle listed => listed⟩
  refine ⟨?_, ?_, ?_, ?_, ?_, ?_, ?_⟩
  · intro other before at'
    rw [buses] at at'
    split at at'
    · rename_i new
      cases at'
      rw [new, given.2]
      refine ⟨given.1, new_born, after, by rw [adapters, if_pos rfl], grown.1, ?_⟩
      rw [grown.2.2.2]
      exact List.mem_append_right _ (List.mem_singleton_self _)
    · obtain ⟨valid, born, entry', held, valid', listed⟩ := family.buses other before at'
      obtain ⟨now, held', still, -, -, more⟩ := lists _ entry' held
      exact ⟨valid, born_old _ born, now, held', still.trans valid', more _ listed⟩
  · intro other owner born
    rw [births] at born
    rw [disposed]
    rcases List.mem_append.mp born with before | new
    · obtain ⟨⟨adapter, made⟩, there⟩ := family.busKept other owner before
      refine ⟨⟨adapter, born_old _ made⟩, fun kept => ?_⟩
      obtain ⟨bus', at', same⟩ := there kept
      exact ⟨bus', stays other bus' at', same⟩
    · have same := List.mem_singleton.mp new
      simp only [Prod.mk.injEq, Birth.bus.injEq] at same
      obtain ⟨adapter, -, -, made, -⟩ := accounted.entries parent entry found
      rw [same.1, same.2]
      exact ⟨⟨adapter, born_old _ made⟩, fun _ => ⟨bus, by rw [buses, if_pos rfl], given.2⟩⟩
  · intro other now held valid handle listed
    rw [adapters] at held
    by_cases same : other = parent
    · rw [if_pos same] at held
      cases held
      rw [grown.2.2.2] at listed
      rcases List.mem_append.mp listed with before | new
      · obtain ⟨bus', at', owner⟩ := family.busListed parent entry found open' handle before
        exact ⟨bus', stays handle bus' at', owner.trans same.symm⟩
      · rw [List.mem_singleton.mp new]
        exact ⟨bus, by rw [buses, if_pos rfl], given.2.trans same.symm⟩
    · rw [if_neg same] at held
      obtain ⟨bus', at', owner⟩ := family.busListed other now held valid handle listed
      exact ⟨bus', stays handle bus' at', owner⟩
  · intro kind handle device at'
    rw [devices] at at'
    obtain ⟨valid, born, ⟨bus', at'', owner⟩, entry', held, listed⟩ := family.devices kind handle device at'
    obtain ⟨now, held', -, -, children, -⟩ := lists _ entry' held
    exact ⟨valid, born_old _ born, ⟨bus', stays _ bus' at'', owner⟩, now, held', by rw [children]; exact listed⟩
  · intro kind handle owner born
    rw [births] at born
    rw [disposed, devices]
    rcases List.mem_append.mp born with before | new
    · obtain ⟨parent', at', there⟩ := family.deviceKept kind handle owner before
      exact ⟨parent', born_old _ at', there⟩
    · have same := List.mem_singleton.mp new
      simp only [Prod.mk.injEq, reduceCtorEq, and_false] at same
  · intro other now held valid kind handle listed
    rw [devices]
    rw [adapters] at held
    by_cases same : other = parent
    · rw [if_pos same] at held
      cases held
      rw [grown.2.2.1] at listed
      rw [same]
      exact family.deviceListed parent entry found open' kind handle listed
    · rw [if_neg same] at held
      exact family.deviceListed other now held valid kind handle listed
  · intro bus' idx under
    rw [creating] at under
    obtain ⟨held, adapter, at', at'', valid, same⟩ := family.creating bus' idx under
    obtain ⟨now, held', still, equal, -, -⟩ := lists _ adapter at''
    refine ⟨held, now, stays bus' held at', held', still.trans valid, ?_⟩
    rw [motor, equal]
    exact same

theorem family_device (accounted : Accounted world) (family : Family world) (kind : DeviceKind)
    (busHandle : Handle) (bus newBus : BusEntry) (entry after : AdapterEntry) (device : DeviceEntry)
    (there : world.store.buses.find busHandle = some bus)
    (found : world.store.adapters.find bus.adapterHandle = some entry) (open' : entry.valid = true)
    (grown : after.valid = true ∧ after.adapter = entry.adapter ∧ after.childBusHandles = entry.childBusHandles ∧
      ∀ other, after.childHandles other =
        if other = kind then entry.childHandles kind ++ [world.store.nextHandle] else entry.childHandles other)
    (given : device.valid = true ∧ device.busHandle = busHandle ∧ device.adapterHandle = bus.adapterHandle)
    (still : newBus.valid = true ∧ newBus.adapterHandle = bus.adapterHandle)
    (adapters : ∀ other, next.store.adapters.find other =
      if other = bus.adapterHandle then some after else world.store.adapters.find other)
    (buses : ∀ other, next.store.buses.find other =
      if other = busHandle then some newBus else world.store.buses.find other)
    (devices : ∀ other handle, (next.store.devices other).find handle =
      if other = kind ∧ handle = world.store.nextHandle then some device else (world.store.devices other).find handle)
    (births : next.births = world.births ++ [(world.store.nextHandle, .device kind busHandle)])
    (disposed : next.disposed = world.disposed)
    (creating : ∀ bus idx, next.creating = some (bus, idx) → world.creating = some (bus, idx))
    (motor : next.creating ≠ none → next.store.motorCreationAdapter = world.store.motorCreationAdapter) :
    Family next := by
  have born_old : ∀ birth ∈ world.births, birth ∈ next.births := by
    intro birth inside
    rw [births]
    exact List.mem_append_left _ inside
  have new_born : (world.store.nextHandle, Birth.device kind busHandle) ∈ next.births := by
    rw [births]
    exact List.mem_append_right _ (List.mem_singleton_self _)
  have bus_valid := (family.buses busHandle bus there).1
  have moved : ∀ other before, world.store.buses.find other = some before → ∃ now,
      next.store.buses.find other = some now ∧ now.adapterHandle = before.adapterHandle := by
    intro other before at'
    rw [buses]
    by_cases same : other = busHandle
    · rw [same, there] at at'
      cases at'
      exact ⟨newBus, if_pos same, still.2⟩
    · exact ⟨before, by rw [if_neg same]; exact at', rfl⟩
  have lists : ∀ other before, world.store.adapters.find other = some before → ∃ now,
      next.store.adapters.find other = some now ∧ now.valid = before.valid ∧ now.adapter = before.adapter ∧
        now.childBusHandles = before.childBusHandles ∧
        ∀ kind handle, handle ∈ before.childHandles kind → handle ∈ now.childHandles kind := by
    intro other before held
    rw [adapters]
    by_cases same : other = bus.adapterHandle
    · rw [same, found] at held
      cases held
      refine ⟨after, if_pos same, grown.1.trans open'.symm, grown.2.1, grown.2.2.1, fun other handle listed => ?_⟩
      rw [grown.2.2.2]
      split
      · rename_i equal
        exact List.mem_append_left _ (equal ▸ listed)
      · exact listed
    · exact ⟨before, by rw [if_neg same]; exact held, rfl, rfl, rfl, fun _ _ listed => listed⟩
  have stays : ∀ other handle before, (world.store.devices other).find handle = some before →
      (next.store.devices other).find handle = some before := by
    intro other handle before at'
    rw [devices, if_neg]
    · exact at'
    · rintro ⟨rfl, rfl⟩
      rw [devices_fresh world accounted family] at at'
      cases at'
  have bus_back : ∀ other now, next.store.buses.find other = some now → ∃ before,
      world.store.buses.find other = some before ∧ now.adapterHandle = before.adapterHandle ∧ now.valid = true := by
    intro other now at'
    rw [buses] at at'
    by_cases same : other = busHandle
    · rw [if_pos same] at at'
      cases at'
      exact ⟨bus, same ▸ there, still.2, still.1⟩
    · rw [if_neg same] at at'
      exact ⟨now, at', rfl, (family.buses other now at').1⟩
  refine ⟨?_, ?_, ?_, ?_, ?_, ?_, ?_⟩
  · intro other now at'
    obtain ⟨before, at'', owner, valid⟩ := bus_back other now at'
    obtain ⟨-, born, entry', held, open'', listed⟩ := family.buses other before at''
    obtain ⟨after', held', valid', -, buses', -⟩ := lists _ entry' held
    rw [owner]
    exact ⟨valid, born_old _ born, after', held', valid'.trans open'', by rw [buses']; exact listed⟩
  · intro other owner born
    rw [births] at born
    rw [disposed]
    rcases List.mem_append.mp born with before | new
    · obtain ⟨⟨adapter, made⟩, kept⟩ := family.busKept other owner before
      refine ⟨⟨adapter, born_old _ made⟩, fun open'' => ?_⟩
      obtain ⟨bus', at', same⟩ := kept open''
      obtain ⟨now, at'', equal⟩ := moved other bus' at'
      exact ⟨now, at'', equal.trans same⟩
    · have same := List.mem_singleton.mp new
      simp only [Prod.mk.injEq, reduceCtorEq, and_false] at same
  · intro other now held valid handle listed
    rw [adapters] at held
    have before : ∃ bus', world.store.buses.find handle = some bus' ∧ bus'.adapterHandle = other := by
      by_cases same : other = bus.adapterHandle
      · rw [if_pos same] at held
        cases held
        rw [grown.2.2.1] at listed
        rw [same]
        exact family.busListed _ entry found open' handle listed
      · rw [if_neg same] at held
        exact family.busListed other now held valid handle listed
    obtain ⟨bus', at', owner⟩ := before
    obtain ⟨now', at'', equal⟩ := moved handle bus' at'
    exact ⟨now', at'', equal.trans owner⟩
  · intro other handle held at'
    rw [devices] at at'
    split at at'
    · rename_i new
      cases at'
      rw [new.1, new.2, given.2.1, given.2.2]
      refine ⟨given.1, new_born, ⟨newBus, by rw [buses, if_pos rfl], still.2⟩, after, by rw [adapters, if_pos rfl], ?_⟩
      rw [grown.2.2.2, if_pos rfl]
      exact List.mem_append_right _ (List.mem_singleton_self _)
    · obtain ⟨valid, born, ⟨bus', at'', owner⟩, entry', held', listed⟩ := family.devices other handle held at'
      obtain ⟨now, at₃, equal⟩ := moved _ bus' at''
      obtain ⟨after', held'', -, -, -, more⟩ := lists _ entry' held'
      exact ⟨valid, born_old _ born, ⟨now, at₃, equal.trans owner⟩, after', held'', more other handle listed⟩
  · intro other handle owner born
    rw [births] at born
    rw [disposed]
    rcases List.mem_append.mp born with before | new
    · obtain ⟨parent, at', kept⟩ := family.deviceKept other handle owner before
      refine ⟨parent, born_old _ at', fun open'' => ?_⟩
      obtain ⟨held, at'', same⟩ := kept open''
      exact ⟨held, stays other handle held at'', same⟩
    · have same := List.mem_singleton.mp new
      simp only [Prod.mk.injEq, Birth.device.injEq] at same
      obtain ⟨-, born', -⟩ := family.buses busHandle bus there
      rw [same.1, same.2.1, same.2.2]
      exact ⟨bus.adapterHandle, born_old _ born', fun _ => ⟨device, by rw [devices, if_pos ⟨rfl, rfl⟩], given.2.1⟩⟩
  · intro parent now held valid other handle listed
    rw [adapters] at held
    by_cases same : parent = bus.adapterHandle
    · rw [if_pos same] at held
      cases held
      rw [grown.2.2.2] at listed
      have before : handle ∈ entry.childHandles other ∨ (other = kind ∧ handle = world.store.nextHandle) := by
        split at listed
        · rename_i equal
          rcases List.mem_append.mp listed with old | new
          · exact .inl (equal ▸ old)
          · exact .inr ⟨equal, List.mem_singleton.mp new⟩
        · exact .inl listed
      rcases before with old | new
      · obtain ⟨held, at', owner⟩ := family.deviceListed _ entry found open' other handle old
        exact ⟨held, stays other handle held at', owner.trans same.symm⟩
      · exact ⟨device, by rw [devices, if_pos new], given.2.2.trans same.symm⟩
    · rw [if_neg same] at held
      obtain ⟨held', at', owner⟩ := family.deviceListed parent now held valid other handle listed
      exact ⟨held', stays other handle held' at', owner⟩
  · intro bus' idx under
    obtain ⟨held, adapter, at', at'', valid, same⟩ := family.creating bus' idx (creating bus' idx under)
    obtain ⟨now, at₃, owner⟩ := moved bus' held at'
    obtain ⟨after', held', still', equal, -, -⟩ := lists _ adapter at''
    refine ⟨now, after', at₃, by rw [owner]; exact held', still'.trans valid, ?_⟩
    rw [motor (by rw [under]; exact Option.some_ne_none _), equal]
    exact same

end EncosDriver.Wasm
