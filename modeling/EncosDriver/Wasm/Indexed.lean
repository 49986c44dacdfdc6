import EncosDriver.Wasm.Disposal

set_option autoImplicit false

namespace EncosDriver.Wasm

open Lib

-- The handles that an open adapter and a bus keep by index lead to children of
-- theirs with this index.
structure Store.Indexed (store : Store) : Prop where
  buses : ∀ parent entry rawIdx handle, store.adapters.find parent = some entry → entry.valid = true →
    entry.busHandlesByRawIndex.find rawIdx = some handle →
      ∃ bus, store.buses.find handle = some bus ∧ bus.adapterHandle = parent ∧ bus.key.rawIdx = rawIdx
  devices : ∀ busHandle bus kind idx handle, store.buses.find busHandle = some bus →
    (bus.handlesByIndex kind).find idx = some handle →
      ∃ device, (store.devices kind).find handle = some device ∧ device.busHandle = busHandle ∧ device.idx = idx

theorem indexed_adapters (store next : Store) (indexed : store.Indexed)
    (buses : ∀ handle, next.buses.find handle = store.buses.find handle)
    (devices : ∀ kind handle, (next.devices kind).find handle = (store.devices kind).find handle)
    (adapters : ∀ handle entry, next.adapters.find handle = some entry → entry.valid = true →
      store.adapters.find handle = some entry ∨ entry.busHandlesByRawIndex = ∅) : next.Indexed where
  buses := by
    intro parent entry rawIdx handle found open' listed
    rw [buses]
    rcases adapters parent entry found open' with before | bare
    · exact indexed.buses parent entry rawIdx handle before open' listed
    · rw [bare] at listed
      cases listed
  devices := by
    intro busHandle bus kind idx handle found listed
    rw [buses] at found
    rw [devices]
    exact indexed.devices busHandle bus kind idx handle found listed

theorem same_indexed (store next : Store) (indexed : store.Indexed) (same : store.Same next) : next.Indexed :=
  indexed_adapters store next indexed same.buses same.devices fun handle _ found _ => .inl ((same.adapters handle).symm.trans found)

variable (world : World)

theorem create_indexed (sound : Sound world) (indexed : world.store.Indexed) (entry : AdapterEntry) (made : Made Bool)
    (adopt : Manager → Made AdapterId → Option (AdapterId × Option AdapterId)) (code : ErrorCode) (message : String)
    (bare : entry.busHandlesByRawIndex = ∅) : (world.create entry made adopt code message).1.store.Indexed := by
  unfold World.create
  split
  · exact indexed
  · rcases reserve_cases world sound.accounted { entry with valid := false } with full | reserved
    · rw [full]
      exact indexed
    · rw [reserved]
      have failed := same_indexed _ _ indexed (released_same world sound.accounted { entry with valid := false })
      have published (adapter : AdapterId) (fake : Option AdapterId) :
          ((world.store.reserved entry).publish world.store.nextHandle adapter fake).Indexed := by
        refine indexed_adapters world.store _ indexed (fun _ => rfl) (fun _ _ => rfl) fun handle after found _ => ?_
        have at' := (published_adapters world.store entry adapter fake handle).symm.trans found
        rw [Table.find_put] at at'
        split at at'
        · cases at'
          exact .inr bare
        · exact .inl at'
      dsimp only
      split
      · exact failed
      · split
        · exact failed
        · exact published _ _

theorem get_bus_indexed (sound : Sound world) (indexed : world.store.Indexed) (adapterHandle : Handle) (slaveIdx busIdx : Int)
    (made : Made (Int × BusId)) : (world.getBus adapterHandle slaveIdx busIdx made).1.store.Indexed := by
  unfold World.getBus
  cases resolved : world.store.resolveAdapter adapterHandle with
  | failure code message | thrown => exact indexed
  | success adapter =>
    obtain ⟨found, valid⟩ := (resolve_adapter_success _ _ _).mp resolved
    cases made with
    | threw | null => exact indexed
    | made object =>
      dsimp only
      cases listed : adapter.busHandlesByRawIndex.find object.1 with
      | some handle => exact indexed
      | none =>
        simp only [Store.allocateHandle]
        by_cases full : world.store.nextHandle = 4294967295
        · simp only [full, if_true]
          exact indexed
        · simp only [full, if_false]
          have fresh := buses_fresh world sound.accounted sound.family
          have kept (handle : Handle) (bus : BusEntry) (held : world.store.buses.find handle = some bus) :
              handle ≠ world.store.nextHandle := by
            rintro rfl
            rw [fresh] at held
            cases held
          refine ⟨?_, ?_⟩
          · intro parent entry rawIdx handle there open' inside
            dsimp only at there ⊢
            rw [Table.find_modify] at there
            by_cases own : parent = adapterHandle
            · subst own
              rw [if_pos rfl, found] at there
              cases there
              simp only [AdapterEntry.addBus, Table.find_put] at inside
              by_cases new : rawIdx = object.1
              · rw [if_pos new] at inside
                cases inside
                exact ⟨_, Table.put_same _ _ _, rfl, new.symm⟩
              · rw [if_neg new] at inside
                obtain ⟨bus, held, same⟩ := indexed.buses parent adapter rawIdx handle found valid inside
                exact ⟨bus, (Table.put_other _ _ _ _ (kept handle bus held)).trans held, same⟩
            · rw [if_neg own] at there
              obtain ⟨bus, held, same⟩ := indexed.buses parent entry rawIdx handle there open' inside
              exact ⟨bus, (Table.put_other _ _ _ _ (kept handle bus held)).trans held, same⟩
          · intro busHandle bus kind idx handle there inside
            dsimp only at there
            rw [Table.find_put] at there
            split at there
            · cases there
              cases inside
            · exact indexed.devices busHandle bus kind idx handle there inside

theorem enter_indexed (sound : Sound world) (indexed : world.store.Indexed) (kind : DeviceKind) (busHandle : Handle) (bus : BusEntry)
    (idx : Int) (device : DeviceId) (there : world.store.buses.find busHandle = some bus) :
    (world.enter kind busHandle bus idx device).1.store.Indexed := by
  unfold World.enter Store.allocateHandle
  by_cases full : world.store.nextHandle = 4294967295
  · simp only [full, if_true]
    exact indexed
  · simp only [full, if_false]
    have fresh := devices_fresh world sound.accounted sound.family
    have busEntry (handle : Handle) (after : BusEntry)
        (held : (world.store.buses.modify busHandle fun bus => bus.addDevice kind idx world.store.nextHandle).find handle = some after) :
        ∃ before, world.store.buses.find handle = some before ∧ before.adapterHandle = after.adapterHandle ∧
          before.key = after.key ∧ (after = before ∨ handle = busHandle ∧ after = before.addDevice kind idx world.store.nextHandle) := by
      rw [Table.find_modify] at held
      split at held
      · next own =>
          obtain ⟨before, found, rfl⟩ := Option.map_eq_some_iff.mp held
          exact ⟨before, own ▸ found, rfl, rfl, .inr ⟨own, rfl⟩⟩
      · exact ⟨after, held, rfl, rfl, .inl rfl⟩
    refine ⟨?_, ?_⟩
    · intro parent entry rawIdx handle found open' listed
      have before : ∃ entry, world.store.adapters.find parent = some entry ∧ entry.valid = true ∧
          entry.busHandlesByRawIndex.find rawIdx = some handle := by
        simp only [Store.addDevice] at found
        split at found
        · rw [Table.find_modify] at found
          split at found
          · next own =>
              obtain ⟨before, held, rfl⟩ := Option.map_eq_some_iff.mp found
              exact ⟨before, own ▸ held, open', listed⟩
          · exact ⟨entry, found, open', listed⟩
        · exact ⟨entry, found, open', listed⟩
      obtain ⟨entry, found, open', listed⟩ := before
      obtain ⟨held, at', parented, keyed⟩ := indexed.buses parent entry rawIdx handle found open' listed
      simp only [Store.addDevice, Table.find_modify]
      by_cases own : handle = busHandle
      · rw [if_pos own, ← own, at']
        exact ⟨_, rfl, parented, keyed⟩
      · rw [if_neg own]
        exact ⟨held, at', parented, keyed⟩
    · intro other after kind' idx' handle found listed
      obtain ⟨before, held, -, -, cases⟩ := busEntry other after found
      have old (at' : (before.handlesByIndex kind').find idx' = some handle) :
          ∃ found, ((world.store.addDevice kind world.store.nextHandle
            { adapterHandle := bus.adapterHandle, busHandle := busHandle, idx := idx, device := device }).devices kind').find handle =
              some found ∧ found.busHandle = other ∧ found.idx = idx' := by
        obtain ⟨entry, there, same⟩ := indexed.devices other before kind' idx' handle held at'
        refine ⟨entry, ?_, same⟩
        simp only [Store.addDevice]
        split
        · next own =>
            subst own
            rw [Table.put_other]
            · exact there
            · rintro rfl
              rw [fresh] at there
              cases there
        · exact there
      rcases cases with rfl | ⟨rfl, rfl⟩
      · exact old listed
      · simp only [BusEntry.addDevice] at listed
        split at listed
        · next own =>
            subst own
            rw [Table.find_put] at listed
            split at listed
            · next same =>
                cases listed
                refine ⟨{ adapterHandle := bus.adapterHandle, busHandle := other, idx := idx, device := device }, ?_, rfl, same.symm⟩
                simp only [Store.addDevice, if_true, Table.put_same]
            · exact old listed
        · exact old listed

theorem get_device_indexed (sound : Sound world) (indexed : world.store.Indexed) (kind : DeviceKind) (message : String)
    (busHandle : Handle) (idx : Int) (made : Made DeviceId) :
    (world.getDevice kind message busHandle idx made).1.store.Indexed := by
  unfold World.getDevice
  cases resolved : world.store.resolveBus busHandle with
  | failure code message | thrown => exact indexed
  | success bus =>
    have there := ((resolve_bus_success _ _ _).mp resolved).1
    dsimp only
    split
    · exact indexed
    · cases made with
      | threw | null => exact indexed
      | made device => exact enter_indexed world sound indexed kind busHandle bus idx device there

theorem get_motor_indexed (indexed : world.store.Indexed) (busHandle : Handle) (motorIdx : Int) :
    (world.getMotorWithModel busHandle motorIdx).1.store.Indexed := by
  unfold World.getMotorWithModel
  repeat' split
  all_goals first | exact indexed | exact ⟨indexed.buses, indexed.devices⟩

theorem finish_motor_indexed (sound : Sound world) (indexed : world.store.Indexed) (made : Made DeviceId)
    (result : World × Answer Handle) (ran : world.finishMotor made = some result) : result.1.store.Indexed := by
  have ended : world.endCreation.store.Indexed := ⟨indexed.buses, indexed.devices⟩
  unfold World.finishMotor at ran
  split at ran
  · cases ran
  · next busHandle motorIdx _ =>
      split at ran
      · cases ran
        exact ended
      · cases ran
        exact ended
      · split at ran
        · cases ran
        · next bus there =>
            cases ran
            exact enter_indexed world.endCreation (end_creation_sound world sound) ended .motor busHandle bus motorIdx _ there

theorem poll_indexed (indexed : world.store.Indexed) (drains : AdapterId → Drain) :
    (world.pollPendingAdapterDeletionsOnce drains).1.store.Indexed := by
  have fold : ∀ (entries : List (AdapterId × PendingAdapterDeletion)) (polled : Polled),
      polled.world.store.Indexed → (entries.foldl (pollOne drains) polled).world.store.Indexed := by
    intro entries
    induction entries with
    | nil => exact fun _ indexed => indexed
    | cons entry rest ih =>
      intro polled indexed
      refine ih _ ?_
      rcases poll_one_cases drains polled entry.1 entry.2 with same | ⟨after, -, -, -, same⟩ | same
      · rw [same]
        exact indexed
      · rw [same]
        exact ⟨indexed.buses, indexed.devices⟩
      · rw [same]
        refine indexed_adapters _ _ indexed (fun _ => rfl) (fun _ _ => rfl) fun handle entry found _ => .inl ?_
        simp only [World.endPending, Table.find_remove] at found
        split at found
        · cases found
        · exact found
  exact fold _ _ indexed

theorem closed_indexed (sound : Sound world) (indexed : world.store.Indexed) (next : Store) (handle : Handle) (entry : AdapterEntry)
    (found : world.store.adapters.find handle = some entry) (open' : entry.valid = true)
    (closed : Closed world.store next handle entry) : next.Indexed := by
  have buses (other : Handle) : next.buses.find other = if other ∈ entry.childBusHandles then none else world.store.buses.find other := by
    rw [closed.buses]
    exact Table.find_extract_all _ _ _
  have devices (kind : DeviceKind) (other : Handle) :
      (next.devices kind).find other = if other ∈ entry.childHandles kind then none else (world.store.devices kind).find other := by
    rw [closed.devices]
    exact Table.find_extract_all _ _ _
  refine ⟨?_, ?_⟩
  · intro parent after rawIdx child there valid listed
    have different : parent ≠ handle := by
      rintro rfl
      rw [closed.closed after there] at valid
      cases valid
    rw [closed.others parent different] at there
    obtain ⟨bus, held, parented, keyed⟩ := indexed.buses parent after rawIdx child there valid listed
    refine ⟨bus, ?_, parented, keyed⟩
    rw [buses, if_neg]
    · exact held
    · intro inside
      obtain ⟨own, held', same⟩ := sound.family.busListed handle entry found open' child inside
      rw [held] at held'
      cases held'
      exact different (parented.symm.trans same)
  · intro busHandle bus kind idx child there listed
    rw [buses] at there
    split at there
    · cases there
    · next outside =>
        obtain ⟨device, held, own, same⟩ := indexed.devices busHandle bus kind idx child there listed
        refine ⟨device, ?_, own, same⟩
        rw [devices, if_neg]
        · exact held
        · intro inside
          obtain ⟨other, held', parented⟩ := sound.family.deviceListed handle entry found open' kind child inside
          rw [held] at held'
          cases held'
          obtain ⟨-, -, ⟨parent, at', joined⟩, -⟩ := sound.family.devices kind child device held
          rw [own, there] at at'
          cases at'
          obtain ⟨-, -, holder, found', -, member⟩ := sound.family.buses busHandle bus there
          rw [joined, parented, found] at found'
          cases found'
          exact outside member

end EncosDriver.Wasm
