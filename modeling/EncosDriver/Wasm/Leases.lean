import EncosDriver.Wasm.Accounts

set_option autoImplicit false

namespace EncosDriver.Wasm

open Lib

theorem references_put (store : Store) (handle : Handle) (entry : AdapterEntry) (adapter : AdapterId)
    (absent : store.adapters.find handle = none) :
    (store.adapters.put handle entry).sum (holds adapter) = store.references adapter + holds adapter handle entry := by
  have total := Table.sum_put store.adapters (holds adapter) handle entry
  rw [Table.share_absent _ _ handle absent] at total
  exact total

variable (world : World)

theorem accounted_publish (accounted : Accounted world) (store : Store) (entry : AdapterEntry)
    (adapter : AdapterId) (managed : Managed) (held : world.manager.objects.find adapter = some managed)
    (own : entry.adapter = some adapter) (name : managed.name = entry.interfaceName)
    (free : entry.interfaceName ∉ world.store.pendingAdapterInterfaces)
    (open' : entry.valid = true ∧ entry.disposing = false)
    (handles : store.nextHandle = world.store.nextHandle + 1)
    (adapters : ∀ handle, store.adapters.find handle = (world.store.adapters.put world.store.nextHandle entry).find handle)
    (leases : ∀ other, store.adapterHandleLeases.find other =
      if other = some adapter then some (world.store.references adapter + 1)
      else world.store.adapterHandleLeases.find other)
    (pendings : store.pendingAdapterDeletions = world.store.pendingAdapterDeletions)
    (interfaces : store.pendingAdapterInterfaces = world.store.pendingAdapterInterfaces) :
    Accounted { world with
      store := store
      births := world.births ++ [(world.store.nextHandle, .adapter adapter)] } := by
  have absent := adapters_fresh world accounted
  have counts : ∀ other, store.references other =
      world.store.references other + if other = adapter then 1 else 0 := by
    intro other
    rw [Store.references, Table.sum_congr store.adapters _ (holds other) adapters,
      references_put world.store _ entry other absent]
    simp only [holds, own, Option.some.injEq, eq_comm]
  have away : ∀ other pending, world.store.pendingAdapterDeletions.find other = some pending → other ≠ adapter := by
    intro other pending found same
    obtain ⟨-, -, tomb, found', own', -, name'⟩ := accounted.pendings other pending found
    obtain ⟨object, managed', own'', -, held', name'', -⟩ := accounted.entries _ tomb found'
    have objects : object = adapter := Option.some.inj (own''.symm.trans (own'.trans (congrArg some same)))
    rw [objects, held] at held'
    cases held'
    exact free ((accounted.interfaces _).mpr ⟨other, pending, found, by rw [← name', ← name'', name]⟩)
  refine ⟨?_, ?_, ?_, accounted.manager, ?_, ?_, ?_, ?_, ?_, ?_, ?_⟩
  · intro birth inside
    rw [handles]
    rcases List.mem_append.mp inside with before | new
    · exact Nat.lt_succ_of_lt (accounted.bounded birth before)
    · rw [List.mem_singleton.mp new]
      exact Nat.lt_succ_self _
  · intro handle inside
    rw [handles]
    exact Nat.lt_succ_of_lt (accounted.past handle inside)
  · rw [List.map_append, List.nodup_append]
    refine ⟨accounted.distinct, List.nodup_singleton _, ?_⟩
    intro handle inside other new same
    obtain ⟨birth, before, rfl⟩ := List.mem_map.mp inside
    exact absurd (same.trans (List.mem_singleton.mp new)) (Nat.ne_of_lt (accounted.bounded birth before))
  · rw [leases, if_neg (by simp)]
    exact accounted.reserved
  · intro handle found entry'
    rw [adapters, Table.find_put] at entry'
    by_cases new : handle = world.store.nextHandle
    · rw [if_pos new] at entry'
      cases entry'
      subst new
      refine ⟨adapter, managed, own, List.mem_append_right _ (List.mem_singleton_self _), held, name, .inl ?_⟩
      exact ⟨open'.1, open'.2, fun inside => Nat.lt_irrefl _ (accounted.past _ inside)⟩
    · rw [if_neg new] at entry'
      obtain ⟨object, managed', own', born, held', name', stands⟩ := accounted.entries handle found entry'
      refine ⟨object, managed', own', List.mem_append_left _ born, held', name', ?_⟩
      simp only [World.Standing, pendings]
      exact stands
  · intro handle object born open''
    rw [adapters, Table.find_put]
    rcases List.mem_append.mp born with before | new
    · have older : handle ≠ world.store.nextHandle := Nat.ne_of_lt (accounted.bounded _ before)
      rw [if_neg older]
      exact accounted.kept handle object before open''
    · have same := List.mem_singleton.mp new
      simp only [Prod.mk.injEq, Birth.adapter.injEq] at same
      rw [if_pos same.1]
      exact ⟨entry, rfl, own.trans (congrArg some same.2.symm)⟩
  · intro handle object born
    rw [counts]
    rcases List.mem_append.mp born with before | new
    · rcases accounted.ended handle object before with gone | some'
      · exact .inl gone
      · exact .inr (Nat.add_pos_left some' _)
    · have same := List.mem_singleton.mp new
      simp only [Prod.mk.injEq, Birth.adapter.injEq] at same
      rw [if_pos same.2]
      exact .inr (Nat.succ_pos _)
  · intro other
    rw [leases, counts]
    by_cases same : other = adapter
    · simp [same]
    · have different : some other ≠ some adapter := fun equal => same (Option.some.inj equal)
      rw [if_neg different, if_neg same, Nat.add_zero]
      exact accounted.leases other
  · intro other pending found
    rw [pendings] at found
    obtain ⟨own', single, tomb, found', rest⟩ := accounted.pendings other pending found
    refine ⟨own', ?_, tomb, ?_, rest⟩
    · rw [counts, if_neg (away other pending found), Nat.add_zero]
      exact single
    · have older : pending.adapterHandle ≠ world.store.nextHandle := by
        intro same
        rw [same, absent] at found'
        cases found'
      rw [adapters, Table.find_put, if_neg older]
      exact found'
  · intro other
    simp only [interfaces, pendings]
    exact accounted.interfaces other

theorem accounted_drop (accounted : Accounted world) (store : Store) (handle : Handle)
    (entry : AdapterEntry) (adapter : AdapterId) (count : Nat)
    (found : world.store.adapters.find handle = some entry) (own : entry.adapter = some adapter)
    (open' : entry.valid = true) (lease : world.store.adapterHandleLeases.find (some adapter) = some (count + 2))
    (handles : store.nextHandle = world.store.nextHandle)
    (adapters : ∀ other, store.adapters.find other = (world.store.adapters.remove handle).find other)
    (leases : ∀ other, store.adapterHandleLeases.find other =
      if other = some adapter then some (count + 1) else world.store.adapterHandleLeases.find other)
    (pendings : store.pendingAdapterDeletions = world.store.pendingAdapterDeletions)
    (interfaces : store.pendingAdapterInterfaces = world.store.pendingAdapterInterfaces) :
    Accounted { world with store := store, disposed := handle :: world.disposed } := by
  have counted : world.store.references adapter = count + 2 := by
    have lease' := accounted.leases adapter
    rw [lease] at lease'
    split at lease'
    · cases lease'
    · exact (Option.some.inj lease').symm
  have counts : ∀ other, store.references other + (if other = adapter then 1 else 0) = world.store.references other := by
    intro other
    rw [Store.references, Table.sum_congr store.adapters _ (holds other) adapters,
      ← references_remove world.store handle entry other found]
    simp only [holds, own, Option.some.injEq, eq_comm]
  have tombs : ∀ other tomb, world.store.adapters.find other = some tomb → tomb.valid = false → other ≠ handle := by
    intro other tomb found' invalid same
    rw [same, found] at found'
    cases found'
    rw [open'] at invalid
    cases invalid
  obtain ⟨object, managed, own', born, -⟩ := accounted.entries handle entry found
  refine ⟨?_, ?_, accounted.distinct, accounted.manager, ?_, ?_, ?_, ?_, ?_, ?_, ?_⟩
  · rw [handles]
    exact accounted.bounded
  · intro other inside
    rw [handles]
    rcases List.mem_cons.mp inside with rfl | before
    · exact accounted.bounded _ born
    · exact accounted.past other before
  · rw [leases, if_neg (by simp)]
    exact accounted.reserved
  · intro other after found'
    rw [adapters, Table.find_remove] at found'
    by_cases same : other = handle
    · simp [same] at found'
    · rw [if_neg same] at found'
      obtain ⟨object', managed', own'', born', held, name, stands⟩ := accounted.entries other after found'
      refine ⟨object', managed', own'', born', held, name, ?_⟩
      simp only [World.Standing, pendings, List.mem_cons, same, false_or]
      exact stands
  · intro other object' born' open''
    simp only [List.mem_cons, not_or] at open''
    rw [adapters, Table.find_remove, if_neg open''.1]
    exact accounted.kept other object' born' open''.2
  · intro other object' born'
    rcases accounted.ended other object' born' with gone | some'
    · exact .inl gone
    · have split := counts object'
      by_cases same : object' = adapter
      · rw [if_pos same, same, counted] at split
        have positive : 0 < store.references adapter := by omega
        exact .inr (same ▸ positive)
      · rw [if_neg same] at split
        have positive : 0 < store.references object' := by omega
        exact .inr positive
  · intro other
    have split := counts other
    rw [leases]
    by_cases same : other = adapter
    · rw [if_pos same, same, counted] at split
      have left : store.references adapter = count + 1 := by omega
      rw [if_pos (congrArg some same), same, left, if_neg (Nat.succ_ne_zero count)]
    · rw [if_neg same, Nat.add_zero] at split
      rw [if_neg (fun equal => same (Option.some.inj equal)), split]
      exact accounted.leases other
  · intro other pending held
    rw [pendings] at held
    obtain ⟨own'', single, tomb, found', tomb', invalid, name⟩ := accounted.pendings other pending held
    have split := counts other
    have different : other ≠ adapter := by
      intro same
      rw [same, counted] at single
      omega
    rw [if_neg different] at split
    have still : store.references other = 1 := by omega
    refine ⟨own'', still, tomb, ?_, tomb', invalid, name⟩
    rw [adapters, Table.find_remove, if_neg (tombs _ tomb found' invalid)]
    exact found'
  · intro other
    simp only [interfaces, pendings]
    exact accounted.interfaces other

theorem accounted_destroy (accounted : Accounted world) (store : Store) (disposed : List Handle)
    (handle : Handle) (entry : AdapterEntry) (adapter : AdapterId)
    (found : world.store.adapters.find handle = some entry) (own : entry.adapter = some adapter)
    (single : world.store.references adapter = 1)
    (handles : store.nextHandle = world.store.nextHandle)
    (adapters : ∀ other, store.adapters.find other = (world.store.adapters.remove handle).find other)
    (leases : ∀ other, store.adapterHandleLeases.find other =
      (world.store.adapterHandleLeases.remove (some adapter)).find other)
    (pendings : ∀ other, store.pendingAdapterDeletions.find other =
      (world.store.pendingAdapterDeletions.remove adapter).find other)
    (interfaces : ∀ name, name ∈ store.pendingAdapterInterfaces ↔
      name ∈ world.store.pendingAdapterInterfaces ∧
        ∀ pending, world.store.pendingAdapterDeletions.find adapter = some pending → name ≠ pending.interfaceName)
    (closed : ∀ other, other ∈ disposed ↔ other = handle ∨ other ∈ world.disposed) :
    (world.manager.destroyAdapter adapter true).2 = true ∧
      Accounted { world with
        store := store
        manager := (world.manager.destroyAdapter adapter true).1
        disposed := disposed } := by
  obtain ⟨object, managed, own', born, held, named, stands⟩ := accounted.entries handle entry found
  have same : object = adapter := Option.some.inj (own'.symm.trans own)
  subst same
  have counts : ∀ other, store.references other + (if other = object then 1 else 0) = world.store.references other := by
    intro other
    rw [Store.references, Table.sum_congr store.adapters _ (holds other) adapters,
      ← references_remove world.store handle entry other found]
    simp only [holds, own, Option.some.injEq, eq_comm]
  have others : ∀ other second, world.store.adapters.find other = some second → second.adapter = some object →
      other = handle := fun other second found' own'' =>
    references_two world.store handle other entry second object found own found' own'' single
  simp only [Manager.destroyAdapter, held, if_true]
  refine ⟨trivial, ?_, ?_, accounted.distinct, ?_, ?_, ?_, ?_, ?_, ?_, ?_, ?_⟩
  · rw [handles]
    exact accounted.bounded
  · intro other inside
    rw [handles]
    rcases (closed other).mp inside with rfl | before
    · exact accounted.bounded _ born
    · exact accounted.past other before
  · have sound := accounted.manager
    refine ⟨?_, ?_, ?_, ?_, ?_⟩
    · intro other managed' held'
      rw [Table.find_remove] at held'
      split at held'
      · cases held'
      · rename_i different
        have at' := sound.named other managed' held'
        rw [Table.find_remove, if_neg]
        · exact at'
        · intro same
          rw [same, sound.named object managed held] at at'
          exact different (Option.some.inj at').symm
    · intro name other at'
      rw [Table.find_remove] at at'
      split at at'
      · cases at'
      · rename_i different
        obtain ⟨managed', held', same⟩ := sound.known name other at'
        refine ⟨managed', ?_, same⟩
        rw [Table.find_remove, if_neg]
        · exact held'
        · intro equal
          rw [equal, held] at held'
          cases held'
          exact different same.symm
    · intro other managed' held'
      rw [Table.find_remove] at held'
      split at held'
      · cases held'
      · exact sound.bounded other managed' held'
    · refine List.Nodup.append sound.once (List.nodup_singleton _) ?_
      intro other inside new
      rw [List.mem_singleton.mp new] at inside
      have absent := (sound.gone object inside).1
      rw [held] at absent
      cases absent
    · intro other inside
      rw [Table.find_remove]
      rcases List.mem_append.mp inside with before | new
      · obtain ⟨absent, below⟩ := sound.gone other before
        refine ⟨?_, below⟩
        split
        · rfl
        · exact absent
      · rw [List.mem_singleton.mp new, if_pos rfl]
        exact ⟨rfl, sound.bounded object managed held⟩
  · rw [leases, Table.find_remove, if_neg (by simp)]
    exact accounted.reserved
  · intro other after found'
    rw [adapters, Table.find_remove] at found'
    split at found'
    · cases found'
    · rename_i different
      obtain ⟨object', managed', own'', born', held', name, stands'⟩ := accounted.entries other after found'
      have distinct : object' ≠ object := fun equal => different (others other after found' (equal ▸ own''))
      refine ⟨object', managed', own'', born', ?_, name, ?_⟩
      · rw [Table.find_remove, if_neg distinct]
        exact held'
      · simp only [World.Standing, pendings, closed, Table.find_remove, distinct, different, false_or, if_false]
        exact stands'
  · intro other object' born' open'
    simp only [closed, not_or] at open'
    rw [adapters, Table.find_remove, if_neg open'.1]
    exact accounted.kept other object' born' open'.2
  · intro other object' born'
    by_cases equal : object' = object
    · exact .inl (List.mem_append_right _ (List.mem_singleton.mpr equal))
    · rcases accounted.ended other object' born' with gone | some'
      · exact .inl (List.mem_append_left _ gone)
      · have split := counts object'
        rw [if_neg equal] at split
        have positive : 0 < store.references object' := by omega
        exact .inr positive
  · intro other
    have split := counts other
    rw [leases, Table.find_remove]
    by_cases equal : other = object
    · rw [if_pos equal, equal, single] at split
      have none' : store.references object = 0 := by omega
      rw [if_pos (congrArg some equal), equal, none', if_pos rfl]
    · rw [if_neg equal, Nat.add_zero] at split
      rw [if_neg (fun same => equal (Option.some.inj same)), split]
      exact accounted.leases other
  · intro other pending at'
    rw [pendings, Table.find_remove] at at'
    split at at'
    · cases at'
    · rename_i different
      obtain ⟨own'', single', tomb, found', tomb', invalid, name⟩ := accounted.pendings other pending at'
      have split := counts other
      rw [if_neg different] at split
      have still : store.references other = 1 := by omega
      refine ⟨own'', still, tomb, ?_, tomb', invalid, name⟩
      rw [adapters, Table.find_remove, if_neg]
      · exact found'
      · intro same
        rw [same, found] at found'
        cases found'
        exact different (Option.some.inj (tomb'.symm.trans own))
  · intro name
    rw [interfaces, accounted.interfaces]
    constructor
    · rintro ⟨⟨other, pending, at', rfl⟩, free⟩
      refine ⟨other, pending, ?_, rfl⟩
      rw [pendings, Table.find_remove, if_neg]
      · exact at'
      · intro equal
        rw [equal] at at'
        exact free pending at' rfl
    · rintro ⟨other, pending, at', rfl⟩
      rw [pendings, Table.find_remove] at at'
      split at at'
      · cases at'
      · rename_i different
        refine ⟨⟨other, pending, at', rfl⟩, ?_⟩
        -- Two pending deletions of one interface would be of one adapter.
        intro own'' at'' equal
        obtain ⟨-, -, tomb, found', tomb', -, name⟩ := accounted.pendings other pending at'
        obtain ⟨-, -, tomb₂, found₂, tomb₂', -, name₂⟩ := accounted.pendings object own'' at''
        obtain ⟨first, managed₁, has₁, -, held₁, named₁, -⟩ := accounted.entries _ tomb found'
        obtain ⟨second, managed₂, has₂, -, held₂, named₂, -⟩ := accounted.entries _ tomb₂ found₂
        have at₁ := accounted.manager.named first managed₁ held₁
        have at₂ := accounted.manager.named second managed₂ held₂
        have names : managed₁.name = managed₂.name := by
          rw [named₁, name, equal, ← name₂, named₂]
        rw [names, at₂] at at₁
        have firsts : first = other := Option.some.inj (has₁.symm.trans tomb')
        have seconds : second = object := Option.some.inj (has₂.symm.trans tomb₂')
        exact different (firsts.symm.trans ((Option.some.inj at₁).symm.trans seconds))

theorem accounted_begin (accounted : Accounted world) (store : Store) (handle : Handle)
    (entry after : AdapterEntry) (adapter : AdapterId) (pending : PendingAdapterDeletion)
    (found : world.store.adapters.find handle = some entry) (own : entry.adapter = some adapter)
    (single : world.store.references adapter = 1)
    (closed : after.adapter = some adapter ∧ after.interfaceName = entry.interfaceName ∧ after.valid = false ∧
      after.disposing = true)
    (noted : pending.adapterHandle = handle ∧ pending.adapter = adapter ∧ pending.interfaceName = entry.interfaceName)
    (free : world.store.pendingAdapterDeletions.find adapter = none)
    (handles : store.nextHandle = world.store.nextHandle)
    (adapters : ∀ other, store.adapters.find other = (world.store.adapters.put handle after).find other)
    (leases : store.adapterHandleLeases = world.store.adapterHandleLeases)
    (pendings : store.pendingAdapterDeletions = world.store.pendingAdapterDeletions.put adapter pending)
    (interfaces : store.pendingAdapterInterfaces = insert entry.interfaceName world.store.pendingAdapterInterfaces) :
    Accounted { world with store := store, disposed := handle :: world.disposed } := by
  obtain ⟨object, managed, own', born, held, named, -⟩ := accounted.entries handle entry found
  have same : object = adapter := Option.some.inj (own'.symm.trans own)
  subst same
  have counts : ∀ other, store.references other = world.store.references other := by
    intro other
    have total := Table.sum_put world.store.adapters (holds other) handle after
    rw [Table.share_found _ _ handle entry found] at total
    have equal : holds other handle entry = holds other handle after := by
      simp only [holds, own, closed.1]
    rw [Store.references, Table.sum_congr store.adapters _ (holds other) adapters, Store.references]
    omega
  have others : ∀ other second, world.store.adapters.find other = some second → second.adapter = some object →
      other = handle := fun other second found' own'' =>
    references_two world.store handle other entry second object found own found' own'' single
  refine ⟨?_, ?_, accounted.distinct, accounted.manager, ?_, ?_, ?_, ?_, ?_, ?_, ?_⟩
  · rw [handles]
    exact accounted.bounded
  · intro other inside
    rw [handles]
    rcases List.mem_cons.mp inside with rfl | before
    · exact accounted.bounded _ born
    · exact accounted.past other before
  · rw [leases]
    exact accounted.reserved
  · intro other second found'
    rw [adapters, Table.find_put] at found'
    by_cases equal : other = handle
    · rw [if_pos equal] at found'
      cases found'
      subst equal
      refine ⟨object, managed, closed.1, born, held, named.trans closed.2.1.symm, .inr ?_⟩
      refine ⟨closed.2.2.1, closed.2.2.2, List.mem_cons_self, pending, ?_, noted.1⟩
      rw [pendings, Table.put_same]
    · rw [if_neg equal] at found'
      obtain ⟨object', managed', own'', born', held', name, stands⟩ := accounted.entries other second found'
      have distinct : object' ≠ object := fun same => equal (others other second found' (same ▸ own''))
      refine ⟨object', managed', own'', born', held', name, ?_⟩
      simp only [World.Standing, pendings, List.mem_cons, equal, false_or, Table.find_put, distinct, if_false]
      exact stands
  · intro other object' born' open'
    simp only [List.mem_cons, not_or] at open'
    rw [adapters, Table.find_put, if_neg open'.1]
    exact accounted.kept other object' born' open'.2
  · intro other object' born'
    rw [counts]
    exact accounted.ended other object' born'
  · intro other
    rw [leases, counts]
    exact accounted.leases other
  · intro other pending' at'
    rw [pendings, Table.find_put] at at'
    by_cases equal : other = object
    · rw [if_pos equal] at at'
      cases at'
      refine ⟨noted.2.1.trans equal.symm, (counts other).trans (equal ▸ single), after, ?_, equal ▸ closed.1,
        closed.2.2.1, closed.2.1.trans noted.2.2.symm⟩
      rw [adapters, Table.find_put, if_pos noted.1]
    · rw [if_neg equal] at at'
      obtain ⟨own'', single', tomb, found', tomb', invalid, name⟩ := accounted.pendings other pending' at'
      refine ⟨own'', (counts other).trans single', tomb, ?_, tomb', invalid, name⟩
      rw [adapters, Table.find_put, if_neg]
      · exact found'
      · intro same
        rw [same, found] at found'
        cases found'
        exact equal (Option.some.inj (tomb'.symm.trans own))
  · intro name
    rw [interfaces, Finset.mem_insert, accounted.interfaces]
    constructor
    · rintro (rfl | ⟨other, pending', at', rfl⟩)
      · exact ⟨object, pending, by rw [pendings, Table.put_same], noted.2.2⟩
      · refine ⟨other, pending', ?_, rfl⟩
        rw [pendings, Table.find_put, if_neg]
        · exact at'
        · intro equal
          rw [equal, free] at at'
          cases at'
    · rintro ⟨other, pending', at', rfl⟩
      rw [pendings, Table.find_put] at at'
      split at at'
      · cases at'
        exact .inl noted.2.2
      · exact .inr ⟨other, pending', at', rfl⟩

theorem accounted_retry (accounted : Accounted world) (adapter : AdapterId)
    (pending after : PendingAdapterDeletion) (held : world.store.pendingAdapterDeletions.find adapter = some pending)
    (same : after.adapterHandle = pending.adapterHandle ∧ after.adapter = pending.adapter ∧
      after.interfaceName = pending.interfaceName) :
    Accounted { world with
      store := { world.store with
        pendingAdapterDeletions := world.store.pendingAdapterDeletions.put adapter after } } := by
  refine ⟨accounted.bounded, accounted.past, accounted.distinct, accounted.manager, accounted.reserved, ?_,
    accounted.kept, accounted.ended, accounted.leases, ?_, ?_⟩
  · intro handle entry found
    obtain ⟨object, managed, own, born, held', name, stands⟩ := accounted.entries handle entry found
    refine ⟨object, managed, own, born, held', name, ?_⟩
    rcases stands with open' | ⟨invalid, disposing, past, noted, at', handle'⟩
    · exact .inl open'
    · refine .inr ⟨invalid, disposing, past, ?_⟩
      by_cases equal : object = adapter
      · rw [equal, held] at at'
        cases at'
        exact ⟨after, by rw [equal, Table.put_same], same.1.trans handle'⟩
      · exact ⟨noted, by rw [Table.find_put, if_neg equal]; exact at', handle'⟩
  · intro other pending' at'
    rw [Table.find_put] at at'
    by_cases equal : other = adapter
    · rw [if_pos equal] at at'
      cases at'
      obtain ⟨own, single, rest⟩ := accounted.pendings adapter pending held
      rw [equal, same.1, same.2.1, same.2.2]
      exact ⟨own, single, rest⟩
    · rw [if_neg equal] at at'
      exact accounted.pendings other pending' at'
  · intro name
    rw [accounted.interfaces]
    constructor
    · rintro ⟨other, pending', at', rfl⟩
      by_cases equal : other = adapter
      · rw [equal, held] at at'
        cases at'
        exact ⟨adapter, after, Table.put_same .., same.2.2⟩
      · exact ⟨other, pending', by rw [Table.find_put, if_neg equal]; exact at', rfl⟩
    · rintro ⟨other, pending', at', rfl⟩
      rw [Table.find_put] at at'
      by_cases equal : other = adapter
      · rw [if_pos equal] at at'
        cases at'
        exact ⟨adapter, pending, held, same.2.2.symm⟩
      · rw [if_neg equal] at at'
        exact ⟨other, pending', at', rfl⟩

end EncosDriver.Wasm
