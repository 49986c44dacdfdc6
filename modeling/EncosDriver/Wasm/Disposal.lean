import EncosDriver.Wasm.Children

set_option autoImplicit false

namespace EncosDriver.Wasm

open Lib

theorem destroy_refused (manager : Manager) (adapter : AdapterId) : manager.destroyAdapter adapter false = (manager, false) := by
  unfold Manager.destroyAdapter
  cases manager.objects.find adapter with
  | none => rfl
  | some managed => rfl

variable (world : World)

theorem tombstone_sound (sound : Sound world) (adapter : AdapterId) (pending : PendingAdapterDeletion)
    (held : world.store.pendingAdapterDeletions.find adapter = some pending) :
    (world.manager.destroyAdapter pending.adapter true).2 = true ∧
      Sound { world with
        manager := (world.manager.destroyAdapter pending.adapter true).1
        store := { world.store with
          pendingAdapterInterfaces := world.store.pendingAdapterInterfaces.erase pending.interfaceName
          pendingAdapterDeletions := world.store.pendingAdapterDeletions.remove adapter
          adapterHandleLeases := world.store.adapterHandleLeases.remove (some pending.adapter)
          adapters := world.store.adapters.remove pending.adapterHandle } } := by
  obtain ⟨own, single, tomb, found, own', invalid, -⟩ := sound.accounted.pendings adapter pending held
  obtain ⟨object, managed, own'', born, object', name, stands⟩ := sound.accounted.entries _ tomb found
  have past : pending.adapterHandle ∈ world.disposed := by
    rcases stands with ⟨valid, -⟩ | ⟨-, -, past, -⟩
    · rw [invalid] at valid
      cases valid
    · exact past
  rw [own]
  obtain ⟨done, accounted⟩ := accounted_destroy world sound.accounted
    { world.store with
      pendingAdapterInterfaces := world.store.pendingAdapterInterfaces.erase pending.interfaceName
      pendingAdapterDeletions := world.store.pendingAdapterDeletions.remove adapter
      adapterHandleLeases := world.store.adapterHandleLeases.remove (some adapter)
      adapters := world.store.adapters.remove pending.adapterHandle }
    world.disposed pending.adapterHandle tomb adapter found own' single rfl (fun _ => rfl) (fun _ => rfl) (fun _ => rfl)
    (by
      intro name
      simp only [Finset.mem_erase, held, Option.some.injEq, forall_eq', and_comm])
    (by
      intro other
      constructor
      · exact .inr
      · rintro (rfl | before)
        · exact past
        · exact before)
  refine ⟨done, accounted, ?_⟩
  refine family_adapters world _ sound.family ?_ ?_ (fun _ => rfl) (fun _ _ => rfl) (fun _ inside => inside)
    (fun _ _ inside => .inl inside) rfl (fun _ _ given => given) (fun _ => rfl)
  · intro handle entry at' open'
    rw [Table.find_remove, if_neg]
    · exact at'
    · rintro rfl
      rw [found] at at'
      cases at'
      rw [invalid] at open'
      cases open'
  · intro handle entry at' _
    rw [Table.find_remove] at at'
    split at at'
    · cases at'
    · exact .inl at'

theorem retry_sound (sound : Sound world) (adapter : AdapterId)
    (pending after : PendingAdapterDeletion) (held : world.store.pendingAdapterDeletions.find adapter = some pending)
    (same : after.adapterHandle = pending.adapterHandle ∧ after.adapter = pending.adapter ∧
      after.interfaceName = pending.interfaceName) :
    Sound { world with
      store := { world.store with
        pendingAdapterDeletions := world.store.pendingAdapterDeletions.put adapter after } } := by
  refine ⟨accounted_retry world sound.accounted adapter pending after held same, ?_⟩
  obtain ⟨buses, busKept, busListed, devices, deviceKept, deviceListed, creating⟩ := sound.family
  exact ⟨buses, busKept, busListed, devices, deviceKept, deviceListed, creating⟩

variable (drains : AdapterId → Drain)

theorem poll_one_cases (polled : Polled) (adapter : AdapterId)
    (pending : PendingAdapterDeletion) :
    (pollOne drains polled (adapter, pending)).world = polled.world ∨
      (∃ after, after.adapterHandle = pending.adapterHandle ∧ after.adapter = pending.adapter ∧
        after.interfaceName = pending.interfaceName ∧
          (pollOne drains polled (adapter, pending)).world = polled.world.notePending adapter after) ∨
      (pollOne drains polled (adapter, pending)).world =
        polled.world.endPending (polled.world.manager.destroyAdapter pending.adapter true).1 adapter pending := by
  have refused : ∀ polled' : Polled,
      polled' =
        (if kMaximumDeletionRetries ≤ pending.retryCount + 1 then
          { polled with world := polled.world.notePending adapter pending.exhaust }
        else
          { world := polled.world.notePending adapter pending.retry
            needsRetry := true
            nextDelayMs := min polled.nextDelayMs pending.retry.retryDelayMs }) →
      ∃ after, after.adapterHandle = pending.adapterHandle ∧ after.adapter = pending.adapter ∧
        after.interfaceName = pending.interfaceName ∧ polled'.world = polled.world.notePending adapter after := by
    rintro polled' rfl
    split
    · exact ⟨pending.exhaust, rfl, rfl, rfl, rfl⟩
    · exact ⟨pending.retry, rfl, rfl, rfl, rfl⟩
  unfold pollOne
  cases tired : pending.exhausted with
  | true => exact .inl (by simp only [tired, if_true])
  | false =>
    simp only [tired, Bool.false_eq_true, if_false]
    cases drained : (drains adapter).drained with
    | false =>
      simp only [Bool.false_eq_true, if_false]
      exact .inr (.inl (refused _ rfl))
    | true =>
      cases accepts : (drains adapter).accepts with
      | false =>
        simp only [destroy_refused, Bool.false_eq_true, if_true, if_false]
        exact .inr (.inl (refused _ rfl))
      | true =>
        simp only [if_true]
        split
        · exact .inr (.inr rfl)
        · exact .inr (.inl (refused _ rfl))

theorem poll_one_sound (polled : Polled) (sound : Sound polled.world) (adapter : AdapterId)
    (pending : PendingAdapterDeletion) (held : polled.world.store.pendingAdapterDeletions.find adapter = some pending) :
    Sound (pollOne drains polled (adapter, pending)).world ∧
      ∀ other, other ≠ adapter → (pollOne drains polled (adapter, pending)).world.store.pendingAdapterDeletions.find other =
        polled.world.store.pendingAdapterDeletions.find other := by
  rcases poll_one_cases drains polled adapter pending with same | ⟨after, handle, own, name, same⟩ | same
  · rw [same]
    exact ⟨sound, fun _ _ => rfl⟩
  · rw [same]
    exact ⟨retry_sound polled.world sound adapter pending after held ⟨handle, own, name⟩,
      fun other different => Table.put_other _ _ _ _ different⟩
  · rw [same]
    refine ⟨(tombstone_sound polled.world sound adapter pending held).2, fun other different => ?_⟩
    simp only [World.endPending, Table.find_remove, if_neg different]

theorem poll_fold_sound (entries : List (AdapterId × PendingAdapterDeletion)) (polled : Polled)
    (sound : Sound polled.world) (distinct : (entries.map Prod.fst).Nodup)
    (held : ∀ entry ∈ entries, polled.world.store.pendingAdapterDeletions.find entry.1 = some entry.2) :
    Sound (entries.foldl (pollOne drains) polled).world := by
  induction entries generalizing polled with
  | nil => exact sound
  | cons entry rest ih =>
    simp only [List.map_cons, List.nodup_cons] at distinct
    obtain ⟨after, others⟩ := poll_one_sound drains polled sound entry.1 entry.2 (held entry List.mem_cons_self)
    refine ih _ after distinct.2 ?_
    intro other inside
    have different : other.1 ≠ entry.1 := fun same => distinct.1 (same ▸ List.mem_map_of_mem inside)
    exact (others other.1 different).trans (held other (List.mem_cons_of_mem _ inside))

theorem poll_sound (sound : Sound world) (drains : AdapterId → Drain) :
    Sound (world.pollPendingAdapterDeletionsOnce drains).1 := by
  refine poll_fold_sound drains _ { world := world } sound ?_ ?_
  · exact Table.to_list_distinct world.store.pendingAdapterDeletions
  · exact fun entry inside => (Table.mem_to_list _ _ _).mp inside

theorem removed_adapters (store : Store) (handle other : Handle) (entry : AdapterEntry) :
    (store.removeChildren handle entry).store.adapters.find other =
      if other = handle then some { entry with disposing := true } else store.adapters.find other :=
  Table.find_put _ _ _ _

theorem restored_same (sound : Sound world) (handle : Handle) (entry : AdapterEntry)
    (found : world.store.adapters.find handle = some entry) (open' : entry.valid = true)
    (quiet : entry.disposing = false) :
    world.store.Same ((world.store.removeChildren handle entry).restore handle entry) := by
  have entry_same : { entry with disposing := false } = entry := by
    cases entry
    cases quiet
    rfl
  refine ⟨rfl, le_refl _, ?_, ?_, ?_, fun _ => rfl, rfl, rfl⟩
  · intro other
    simp only [Removed.restore, Table.find_put, removed_adapters, entry_same]
    by_cases same : other = handle
    · simp [same, found]
    · simp [same]
  · intro other
    have restored := Table.find_restored world.store.buses entry.childBusHandles
      (fun bus => { bus with valid := true }) (by
        intro child bus listed held
        have valid := (sound.family.buses child bus held).1
        cases bus
        cases valid
        rfl) other
    simp only [Removed.restore, Store.removeChildren, List.map_map]
    exact restored
  · intro kind other
    have restored := Table.find_restored (world.store.devices kind) (entry.childHandles kind)
      (fun device => { device with valid := true }) (by
        intro child device listed held
        have valid := (sound.family.devices kind child device held).1
        cases device
        cases valid
        rfl) other
    simp only [Removed.restore, Store.removeChildren, List.map_map]
    exact restored

theorem open_not_pending (accounted : Accounted world) (handle : Handle) (entry : AdapterEntry)
    (adapter : AdapterId) (found : world.store.adapters.find handle = some entry) (own : entry.adapter = some adapter)
    (open' : entry.valid = true) (single : world.store.references adapter = 1) :
    world.store.pendingAdapterDeletions.find adapter = none := by
  cases held : world.store.pendingAdapterDeletions.find adapter with
  | none => rfl
  | some pending =>
    obtain ⟨-, -, tomb, found', own', invalid, -⟩ := accounted.pendings adapter pending held
    have same := references_two world.store handle pending.adapterHandle entry tomb adapter found own found' own' single
    rw [same, found] at found'
    cases found'
    rw [open'] at invalid
    cases invalid

theorem lease_references (accounted : Accounted world) (adapter : AdapterId) (count : Nat)
    (lease : world.store.adapterHandleLeases.find (some adapter) = some count) :
    world.store.references adapter = count := by
  have counted := accounted.leases adapter
  rw [lease] at counted
  split at counted
  · cases counted
  · exact (Option.some.inj counted).symm

-- A store in which an entry is closed, with its children taken out, and the
-- other entries are as before.
structure Closed (store next : Store) (handle : Handle) (entry : AdapterEntry) : Prop where
  others : ∀ other, other ≠ handle → next.adapters.find other = store.adapters.find other
  closed : ∀ after, next.adapters.find handle = some after → after.valid = false
  buses : next.buses = (store.removeChildren handle entry).store.buses
  devices : next.devices = (store.removeChildren handle entry).store.devices
  motor : next.motorCreationAdapter = store.motorCreationAdapter

theorem disposed_family (world next : World) (sound : Sound world) (handle : Handle) (entry : AdapterEntry)
    (found : world.store.adapters.find handle = some entry) (open' : entry.valid = true)
    (unused : world.store.motorCreationAdapter ≠ entry.adapter) (closed : Closed world.store next.store handle entry)
    (births : next.births = world.births) (disposed : next.disposed = handle :: world.disposed)
    (creating : next.creating = world.creating) : Family next := by
  refine family_dispose world next sound.accounted sound.family handle entry found open' unused closed.others closed.closed ?_ ?_
    births disposed creating closed.motor
  · intro other
    rw [closed.buses]
    exact Table.find_extract_all _ _ _
  · intro kind other
    rw [closed.devices]
    exact Table.find_extract_all _ _ _

def Ends (world : World) (handle : Handle) (entry : AdapterEntry) (result : World × ErrorCode) : Prop :=
  (result.2 ≠ .ok ∧ ∃ store, result.1 = { world with store := store } ∧ world.store.Same store) ∨
    (result.2 = .ok ∧ Sound { result.1 with disposed := handle :: world.disposed } ∧
      result.1.disposed = world.disposed ∧ result.1.births = world.births ∧ Closed world.store result.1.store handle entry)

theorem closed_removed (store : Store) (handle : Handle) (entry : AdapterEntry) (leases : Table (Option AdapterId) Nat) :
    Closed store
      { (store.removeChildren handle entry).store with
        adapterHandleLeases := leases
        adapters := (store.removeChildren handle entry).store.adapters.remove handle } handle entry := by
  refine ⟨?_, ?_, rfl, rfl, rfl⟩
  · intro other different
    simp only [Table.find_remove, removed_adapters, different, if_false]
  · intro after at'
    simp at at'

theorem deletion_begins (store : Store) (handle : Handle) (entry : AdapterEntry) (adapter : AdapterId) (own : entry.adapter = some adapter)
    (lease : store.adapterHandleLeases.find (some adapter) = some 1) (free : store.pendingAdapterDeletions.find adapter = none) :
    (store.removeChildren handle entry).store.beginPendingAdapterDeletion handle = some
      { (store.removeChildren handle entry).store with
        pendingAdapterDeletions := store.pendingAdapterDeletions.put adapter
          { adapterHandle := handle, interfaceName := entry.interfaceName, adapter := adapter }
        pendingAdapterInterfaces := insert entry.interfaceName store.pendingAdapterInterfaces
        adapters := (store.removeChildren handle entry).store.adapters.put handle
          { entry with valid := false, disposing := true } } := by
  have leased : (store.removeChildren handle entry).store.adapterHandleLeases.find (some adapter) = some 1 := lease
  have unlisted : (store.removeChildren handle entry).store.pendingAdapterDeletions.contains adapter = false := by
    simpa [Store.removeChildren] using free
  unfold Store.beginPendingAdapterDeletion
  simp only [removed_adapters, if_true, own, unlisted, leased, ne_eq, not_true_eq_false, if_false, Bool.false_eq_true]
  rfl

theorem last_ends (emscripten : Bool) (world : World) (sound : Sound world) (handle : Handle) (entry : AdapterEntry)
    (adapter : AdapterId) (drain : Drain) (found : world.store.adapters.find handle = some entry)
    (own : entry.adapter = some adapter) (open' : entry.valid = true) (quiet : entry.disposing = false)
    (unused : world.store.motorCreationAdapter ≠ entry.adapter)
    (lease : world.store.adapterHandleLeases.find (some adapter) = some 1) :
    Ends world handle entry
      (world.disposeLast emscripten handle entry adapter (world.store.removeChildren handle entry) drain) := by
  have single := lease_references world sound.accounted adapter 1 lease
  have free := open_not_pending world sound.accounted handle entry adapter found own open' single
  have restored := restored_same world sound handle entry found open' quiet
  obtain ⟨object, managed, own', born, held, name, -⟩ := sound.accounted.entries handle entry found
  have same : object = adapter := Option.some.inj (own'.symm.trans own)
  subst same
  unfold World.disposeLast
  split
  · rw [deletion_begins world.store handle entry object own lease free]
    have closed : Closed world.store
        { (world.store.removeChildren handle entry).store with
          pendingAdapterDeletions := world.store.pendingAdapterDeletions.put object
            { adapterHandle := handle, interfaceName := entry.interfaceName, adapter := object }
          pendingAdapterInterfaces := insert entry.interfaceName world.store.pendingAdapterInterfaces
          adapters := (world.store.removeChildren handle entry).store.adapters.put handle
            { entry with valid := false, disposing := true } } handle entry := by
      refine ⟨?_, ?_, rfl, rfl, rfl⟩
      · intro other different
        simp only [Table.find_put, removed_adapters, different, if_false]
      · intro after at'
        simp only [Table.find_put, if_true, Option.some.injEq] at at'
        rw [← at']
    refine .inr ⟨rfl, ⟨?_, disposed_family world _ sound handle entry found open' unused closed rfl rfl rfl⟩, rfl, rfl, closed⟩
    refine accounted_begin world sound.accounted _ handle entry
      { entry with valid := false, disposing := true } object
      { adapterHandle := handle, interfaceName := entry.interfaceName, adapter := object } found own single
      ⟨own, rfl, rfl, rfl⟩ ⟨rfl, rfl, rfl⟩ free rfl ?_ rfl rfl rfl
    intro other
    simp only [Table.find_put, removed_adapters]
    by_cases equal : other = handle
    · simp [equal]
    · simp [equal]
  · cases accepts : drain.accepts with
    | false =>
      simp only [destroy_refused, Bool.false_eq_true, if_false]
      exact .inl ⟨(fun other => by cases other), _, rfl, restored⟩
    | true =>
      obtain ⟨done, accounted⟩ := accounted_destroy world sound.accounted
        { (world.store.removeChildren handle entry).store with
          adapterHandleLeases := world.store.adapterHandleLeases.remove (some object)
          adapters := (world.store.removeChildren handle entry).store.adapters.remove handle }
        (handle :: world.disposed) handle entry object found own single rfl
        (by
          intro other
          simp only [Table.find_remove, removed_adapters]
          by_cases equal : other = handle
          · simp [equal]
          · simp [equal])
        (fun _ => rfl)
        (by
          intro other
          simp only [Store.removeChildren, Table.find_remove]
          by_cases equal : other = object
          · rw [equal, if_pos rfl]
            exact free
          · rw [if_neg equal])
        (by
          intro given
          simp only [Store.removeChildren, free, reduceCtorEq, false_implies, implies_true, and_true])
        (fun other => List.mem_cons)
      simp only [done, if_true]
      have closed := closed_removed world.store handle entry (world.store.adapterHandleLeases.remove (some object))
      exact .inr ⟨rfl, ⟨accounted, disposed_family world _ sound handle entry found open' unused closed rfl rfl rfl⟩, rfl, rfl, closed⟩

theorem valid_ends (emscripten : Bool) (world : World) (sound : Sound world) (handle : Handle) (entry : AdapterEntry)
    (drain : Drain) (found : world.store.adapters.find handle = some entry) (open' : entry.valid = true)
    (quiet : entry.disposing = false) : Ends world handle entry (world.disposeValid emscripten handle entry drain) := by
  have restored := restored_same world sound handle entry found open' quiet
  obtain ⟨adapter, managed, own, -⟩ := sound.accounted.entries handle entry found
  unfold World.disposeValid
  split
  · exact .inl ⟨(fun other => by cases other), world.store, rfl, rfl, le_refl _, fun _ => rfl, fun _ => rfl, fun _ _ => rfl, fun _ => rfl, rfl, rfl⟩
  · rename_i unused
    have leases : (world.store.removeChildren handle entry).store.adapterHandleLeases = world.store.adapterHandleLeases := rfl
    simp only [leases]
    cases lease : world.store.adapterHandleLeases.find entry.adapter with
    | none =>
      rw [own]
      exact .inl ⟨(fun other => by cases other), _, rfl, restored⟩
    | some count =>
      rcases count with _ | _ | count
      · rw [own]
        exact .inl ⟨(fun other => by cases other), _, rfl, restored⟩
      · rw [own] at lease
        simp only [own]
        exact last_ends emscripten world sound handle entry adapter drain found own open' quiet unused lease
      · rw [own] at lease
        simp only [own]
        have closed := closed_removed world.store handle entry (world.store.adapterHandleLeases.put (some adapter) (count + 1))
        refine .inr ⟨rfl, ⟨?_, disposed_family world _ sound handle entry found open' unused closed rfl rfl rfl⟩, rfl, rfl, closed⟩
        refine accounted_drop world sound.accounted _ handle entry adapter count found own open' lease rfl ?_ ?_ rfl rfl
        · intro other
          simp only [Table.find_remove, removed_adapters]
          by_cases equal : other = handle
          · simp [equal]
          · simp [equal]
        · exact fun other => Table.find_put _ _ _ _

end EncosDriver.Wasm
