import EncosDriver.Wasm.Runtime

set_option autoImplicit false

namespace EncosDriver.Wasm

open Lib

def holds (adapter : AdapterId) (_ : Handle) (entry : AdapterEntry) : Nat := if entry.adapter = some adapter then 1 else 0

def Store.references (store : Store) (adapter : AdapterId) : Nat := store.adapters.sum (holds adapter)

structure Manager.Sound (manager : Manager) : Prop where
  named : ∀ adapter managed, manager.objects.find adapter = some managed → manager.adapters.find managed.name = some adapter
  known : ∀ name adapter, manager.adapters.find name = some adapter →
    ∃ managed, manager.objects.find adapter = some managed ∧ managed.name = name
  bounded : ∀ adapter managed, manager.objects.find adapter = some managed → adapter < manager.nextAdapter
  once : manager.destroyed.Nodup
  gone : ∀ adapter ∈ manager.destroyed, manager.objects.find adapter = none ∧ adapter < manager.nextAdapter

def World.Standing (world : World) (handle : Handle) (entry : AdapterEntry) (adapter : AdapterId) : Prop :=
  (entry.valid = true ∧ entry.disposing = false ∧ handle ∉ world.disposed) ∨
    (entry.valid = false ∧ entry.disposing = true ∧ handle ∈ world.disposed ∧
      ∃ pending, world.store.pendingAdapterDeletions.find adapter = some pending ∧ pending.adapterHandle = handle)

structure Accounted (world : World) : Prop where
  bounded : ∀ birth ∈ world.births, birth.1 < world.store.nextHandle
  past : ∀ handle ∈ world.disposed, handle < world.store.nextHandle
  distinct : (world.births.map Prod.fst).Nodup
  manager : world.manager.Sound
  reserved : world.store.adapterHandleLeases.find none = none
  entries : ∀ handle entry, world.store.adapters.find handle = some entry → ∃ adapter managed,
    entry.adapter = some adapter ∧ (handle, .adapter adapter) ∈ world.births ∧
      world.manager.objects.find adapter = some managed ∧ managed.name = entry.interfaceName ∧
      world.Standing handle entry adapter
  kept : ∀ handle adapter, (handle, .adapter adapter) ∈ world.births → handle ∉ world.disposed →
    ∃ entry, world.store.adapters.find handle = some entry ∧ entry.adapter = some adapter
  ended : ∀ handle adapter, (handle, .adapter adapter) ∈ world.births →
    adapter ∈ world.manager.destroyed ∨ 0 < world.store.references adapter
  leases : ∀ adapter, world.store.adapterHandleLeases.find (some adapter) =
    if world.store.references adapter = 0 then none else some (world.store.references adapter)
  pendings : ∀ adapter pending, world.store.pendingAdapterDeletions.find adapter = some pending →
    pending.adapter = adapter ∧ world.store.references adapter = 1 ∧
      ∃ entry, world.store.adapters.find pending.adapterHandle = some entry ∧ entry.adapter = some adapter ∧
        entry.valid = false ∧ entry.interfaceName = pending.interfaceName
  interfaces : ∀ name, name ∈ world.store.pendingAdapterInterfaces ↔
    ∃ adapter pending, world.store.pendingAdapterDeletions.find adapter = some pending ∧ pending.interfaceName = name

theorem holds_own (adapter : AdapterId) (handle : Handle) (entry : AdapterEntry) (own : entry.adapter = some adapter) :
    holds adapter handle entry = 1 := if_pos own

theorem references_remove (store : Store) (handle : Handle) (entry : AdapterEntry) (adapter : AdapterId)
    (found : store.adapters.find handle = some entry) :
    (store.adapters.remove handle).sum (holds adapter) + holds adapter handle entry = store.references adapter := by
  rw [← Table.share_found _ (holds adapter) handle entry found]
  exact Table.sum_remove store.adapters (holds adapter) handle

theorem references_two (store : Store) (handle other : Handle) (entry second : AdapterEntry) (adapter : AdapterId)
    (found : store.adapters.find handle = some entry) (own : entry.adapter = some adapter)
    (found' : store.adapters.find other = some second) (own' : second.adapter = some adapter)
    (single : store.references adapter = 1) : other = handle := by
  by_contra different
  have split := references_remove store handle entry adapter found
  rw [holds_own adapter handle entry own] at split
  have still : (store.adapters.remove handle).find other = some second := by
    rw [Table.find_remove, if_neg different]
    exact found'
  have part := Table.share_le_sum (store.adapters.remove handle) (holds adapter) other
  rw [Table.share_found _ _ other second still, holds_own adapter other second own'] at part
  omega

theorem register_sound (manager : Manager) (name : String) (fake : Bool) (sound : manager.Sound) :
    (manager.register name fake).1.Sound ∧ (manager.register name fake).1.destroyed = manager.destroyed ∧
      (∀ adapter managed, manager.objects.find adapter = some managed →
        (manager.register name fake).1.objects.find adapter = some managed) ∧
      ∃ managed, (manager.register name fake).1.objects.find (manager.register name fake).2 = some managed ∧
        managed.name = name := by
  unfold Manager.register
  cases found : manager.adapters.find name with
  | some adapter => exact ⟨sound, rfl, fun _ _ held => held, sound.known name adapter found⟩
  | none =>
    have fresh : ∀ adapter managed, manager.objects.find adapter = some managed → adapter ≠ manager.nextAdapter :=
      fun adapter managed held => Nat.ne_of_lt (sound.bounded adapter managed held)
    refine ⟨⟨?_, ?_, ?_, sound.once, ?_⟩, rfl, ?_, ⟨⟨name, fake⟩, by simp, rfl⟩⟩
    · intro adapter managed held
      simp only [Table.find_put] at held ⊢
      by_cases new : adapter = manager.nextAdapter
      · rw [if_pos new] at held
        cases held
        simp [new]
      · rw [if_neg new] at held
        have at' := sound.named adapter managed held
        have other : managed.name ≠ name := by
          intro same
          rw [same, found] at at'
          cases at'
        rw [if_neg other]
        exact at'
    · intro given adapter held
      simp only [Table.find_put] at held ⊢
      by_cases own : given = name
      · rw [if_pos own] at held
        cases held
        exact ⟨⟨name, fake⟩, by simp, own.symm⟩
      · rw [if_neg own] at held
        obtain ⟨managed, at', same⟩ := sound.known given adapter held
        exact ⟨managed, by rw [if_neg (fresh adapter managed at')]; exact at', same⟩
    · intro adapter managed held
      simp only [Table.find_put] at held ⊢
      by_cases new : adapter = manager.nextAdapter
      · exact Nat.lt_succ_of_le (le_of_eq new)
      · rw [if_neg new] at held
        exact Nat.lt_succ_of_lt (sound.bounded adapter managed held)
    · intro adapter inside
      obtain ⟨absent, below⟩ := sound.gone adapter inside
      refine ⟨?_, Nat.lt_succ_of_lt below⟩
      rw [Table.find_put, if_neg (Nat.ne_of_lt below)]
      exact absent
    · intro adapter managed held
      rw [Table.find_put, if_neg (fresh adapter managed held)]
      exact held

variable (world : World)

theorem accounted_manager (accounted : Accounted world) (manager : Manager) (sound : manager.Sound)
    (destroyed : manager.destroyed = world.manager.destroyed)
    (objects : ∀ adapter managed, world.manager.objects.find adapter = some managed →
      manager.objects.find adapter = some managed) : Accounted { world with manager := manager } := by
  refine ⟨accounted.bounded, accounted.past, accounted.distinct, sound, accounted.reserved, ?_, accounted.kept, ?_, accounted.leases,
    accounted.pendings, accounted.interfaces⟩
  · intro handle entry found
    obtain ⟨adapter, managed, own, born, held, name, stands⟩ := accounted.entries handle entry found
    exact ⟨adapter, managed, own, born, objects adapter managed held, name, stands⟩
  · intro handle adapter born
    rw [destroyed]
    exact accounted.ended handle adapter born

def AdapterEntry.core (entry : AdapterEntry) : Option AdapterId × String × Bool × Bool :=
  (entry.adapter, entry.interfaceName, entry.valid, entry.disposing)

structure CoreSame (store next : Store) : Prop where
  handles : store.nextHandle ≤ next.nextHandle
  adapters : ∀ handle, (next.adapters.find handle).map AdapterEntry.core = (store.adapters.find handle).map AdapterEntry.core
  references : ∀ adapter, next.references adapter = store.references adapter
  leases : ∀ adapter, next.adapterHandleLeases.find adapter = store.adapterHandleLeases.find adapter
  pendings : ∀ adapter, next.pendingAdapterDeletions.find adapter = store.pendingAdapterDeletions.find adapter
  interfaces : next.pendingAdapterInterfaces = store.pendingAdapterInterfaces

theorem core_found (store next : Store) (same : CoreSame store next) (handle : Handle) (entry : AdapterEntry)
    (found : next.adapters.find handle = some entry) :
    ∃ before, store.adapters.find handle = some before ∧ before.adapter = entry.adapter ∧
      before.interfaceName = entry.interfaceName ∧ before.valid = entry.valid ∧ before.disposing = entry.disposing := by
  have cores := same.adapters handle
  rw [found, Option.map_some] at cores
  obtain ⟨before, found', core⟩ := Option.map_eq_some_iff.mp cores.symm
  simp only [AdapterEntry.core, Prod.mk.injEq] at core
  exact ⟨before, found', core.1, core.2.1, core.2.2.1, core.2.2.2⟩

theorem core_kept (store next : Store) (same : CoreSame store next) (handle : Handle) (entry : AdapterEntry)
    (found : store.adapters.find handle = some entry) :
    ∃ after, next.adapters.find handle = some after ∧ after.adapter = entry.adapter ∧
      after.interfaceName = entry.interfaceName ∧ after.valid = entry.valid ∧ after.disposing = entry.disposing := by
  have cores := same.adapters handle
  rw [found, Option.map_some] at cores
  obtain ⟨after, found', core⟩ := Option.map_eq_some_iff.mp cores
  simp only [AdapterEntry.core, Prod.mk.injEq] at core
  exact ⟨after, found', core.1, core.2.1, core.2.2.1, core.2.2.2⟩

theorem accounted_same (accounted : Accounted world) (store : Store) (same : CoreSame world.store store) :
    Accounted { world with store := store } := by
  refine ⟨fun birth inside => (accounted.bounded birth inside).trans_le same.handles,
    fun handle inside => (accounted.past handle inside).trans_le same.handles, accounted.distinct, accounted.manager, ?_, ?_, ?_, ?_, ?_, ?_, ?_⟩
  · rw [same.leases]
    exact accounted.reserved
  · intro handle entry found
    obtain ⟨before, found', own, name, valid, disposing⟩ := core_found _ _ same handle entry found
    obtain ⟨adapter, managed, own', born, held, name', stands⟩ := accounted.entries handle before found'
    refine ⟨adapter, managed, own ▸ own', born, held, name'.trans name, ?_⟩
    simp only [World.Standing, same.pendings]
    rw [← valid, ← disposing]
    exact stands
  · intro handle adapter born open'
    obtain ⟨entry, found, own⟩ := accounted.kept handle adapter born open'
    obtain ⟨after, found', own', -⟩ := core_kept _ _ same handle entry found
    exact ⟨after, found', own'.trans own⟩
  · intro handle adapter born
    rw [same.references]
    exact accounted.ended handle adapter born
  · intro adapter
    rw [same.leases, same.references]
    exact accounted.leases adapter
  · intro adapter pending held
    rw [same.pendings] at held
    obtain ⟨own, single, entry, found, own', invalid, name⟩ := accounted.pendings adapter pending held
    obtain ⟨after, found', own'', name', valid, -⟩ := core_kept _ _ same pending.adapterHandle entry found
    refine ⟨own, (same.references adapter).trans single, after, found', own''.trans own', valid.trans invalid, name'.trans name⟩
  · intro name
    simp only [same.interfaces, same.pendings]
    exact accounted.interfaces name

theorem accounted_born (accounted : Accounted world) (birth : Birth)
    (child : ∀ adapter, birth ≠ .adapter adapter) :
    Accounted { world with
      store := { world.store with nextHandle := world.store.nextHandle + 1 }
      births := world.births ++ [(world.store.nextHandle, birth)] } := by
  have old : ∀ handle adapter, (handle, Birth.adapter adapter) ∈ world.births ++ [(world.store.nextHandle, birth)] →
      (handle, Birth.adapter adapter) ∈ world.births := by
    intro handle adapter inside
    rcases List.mem_append.mp inside with before | new
    · exact before
    · have same := List.mem_singleton.mp new
      simp only [Prod.mk.injEq] at same
      exact absurd same.2.symm (child adapter)
  refine ⟨?_, fun handle inside => Nat.lt_succ_of_lt (accounted.past handle inside), ?_, accounted.manager,
    accounted.reserved, ?_, ?_, ?_, accounted.leases, accounted.pendings, accounted.interfaces⟩
  · intro entry inside
    rcases List.mem_append.mp inside with before | new
    · exact Nat.lt_succ_of_lt (accounted.bounded entry before)
    · rw [List.mem_singleton.mp new]
      exact Nat.lt_succ_self _
  · rw [List.map_append, List.nodup_append]
    refine ⟨accounted.distinct, List.nodup_singleton _, ?_⟩
    intro handle inside other new same
    obtain ⟨entry, before, rfl⟩ := List.mem_map.mp inside
    have at' := accounted.bounded entry before
    exact absurd (same.trans (List.mem_singleton.mp new)) (Nat.ne_of_lt at')
  · intro handle entry found
    obtain ⟨adapter, managed, own, born, rest⟩ := accounted.entries handle entry found
    exact ⟨adapter, managed, own, List.mem_append_left _ born, rest⟩
  · exact fun handle adapter born => accounted.kept handle adapter (old handle adapter born)
  · exact fun handle adapter born => accounted.ended handle adapter (old handle adapter born)

theorem adapters_fresh (accounted : Accounted world) :
    world.store.adapters.find world.store.nextHandle = none := by
  cases found : world.store.adapters.find world.store.nextHandle with
  | none => rfl
  | some entry =>
    obtain ⟨adapter, managed, -, born, -⟩ := accounted.entries _ entry found
    exact absurd (accounted.bounded _ born) (Nat.lt_irrefl _)

end EncosDriver.Wasm
