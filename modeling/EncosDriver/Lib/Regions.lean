import Mathlib.Data.List.Induction
import Mathlib.Tactic.Ring

set_option autoImplicit false

namespace EncosDriver.Lib.Regions

variable {Cell : Type}

def store (memory : Nat → Cell) (start : Nat) (cells : List Cell) : Nat → Cell := fun address =>
  if start ≤ address then (cells[address - start]?).getD (memory address) else memory address

def load (memory : Nat → Cell) (start size : Nat) : List Cell := (List.range size).map fun step => memory (start + step)

def Apart (start size other otherSize : Nat) : Prop := start + size ≤ other ∨ other + otherSize ≤ start

variable (memory : Nat → Cell)

@[simp] theorem load_length (start size : Nat) : (load memory start size).length = size := by
  rw [load, List.length_map, List.length_range]

theorem load_store_same (start : Nat) (cells : List Cell) :
    load (store memory start cells) start cells.length = cells := by
  apply List.ext_getElem
  · rw [load_length]
  · intro step inside within
    simp [load, store, within]

theorem load_store_apart (start other size : Nat) (cells : List Cell)
    (apart : Apart start cells.length other size) : load (store memory start cells) other size = load memory other size := by
  rw [load, load]
  refine List.map_congr_left fun step inside => ?_
  have bounded := List.mem_range.mp inside
  rw [store]
  rcases apart with before | behind
  · have past : cells.length ≤ other + step - start := by omega
    rw [if_pos (by omega), List.getElem?_eq_none past, Option.getD_none]
  · rw [if_neg (by omega)]

def storeAll (memory : Nat → Cell) (writes : List (Nat × List Cell)) : Nat → Cell :=
  writes.foldl (fun memory write => store memory write.1 write.2) memory

theorem load_store_all (writes : List (Nat × List Cell)) (write : Nat × List Cell) (inside : write ∈ writes)
    (apart : ∀ other ∈ writes, other = write ∨ Apart other.1 other.2.length write.1 write.2.length) :
    load (storeAll memory writes) write.1 write.2.length = write.2 := by
  induction writes using List.reverseRecOn with
  | nil => cases inside
  | append_singleton writes last ih =>
    have split : storeAll memory (writes ++ [last]) = store (storeAll memory writes) last.1 last.2 := by
      simp [storeAll]
    rw [split]
    by_cases same : last = write
    · subst same
      exact load_store_same _ _ _
    · have elsewhere := (apart last (List.mem_append_right _ (List.mem_singleton_self last))).resolve_left same
      have earlier : write ∈ writes := (List.mem_append.mp inside).resolve_right fun here => same (List.mem_singleton.mp here).symm
      rw [load_store_apart _ _ _ _ _ elsewhere]
      exact ih earlier fun other before => apart other (List.mem_append_left _ before)

section Packed

variable {Key : Type} [DecidableEq Key]

def packed : List (Key × Nat) → Key → Nat
  | [], _ => 0
  | entry :: rest, key => if entry.1 = key then 0 else entry.2 + packed rest key

theorem packed_apart (entries : List (Key × Nat)) (distinct : (entries.map Prod.fst).Nodup) (first second : Key × Nat)
    (firstInside : first ∈ entries) (secondInside : second ∈ entries) (different : first.1 ≠ second.1) :
    Apart (packed entries first.1) first.2 (packed entries second.1) second.2 := by
  induction entries with
  | nil => cases firstInside
  | cons entry rest ih =>
    obtain ⟨fresh, others⟩ := List.nodup_cons.mp distinct
    have apart (other : Key × Nat) (inside : other ∈ rest) : entry.1 ≠ other.1 := by
      intro same
      exact fresh (same ▸ List.mem_map_of_mem inside)
    rcases List.mem_cons.mp firstInside with rfl | firstRest
    · rcases List.mem_cons.mp secondInside with rfl | secondRest
      · exact absurd rfl different
      · left
        rw [packed, if_pos rfl, packed, if_neg different, Nat.zero_add]
        exact Nat.le_add_right _ _
    · rcases List.mem_cons.mp secondInside with rfl | secondRest
      · right
        rw [packed, if_pos rfl, packed, if_neg different.symm, Nat.zero_add]
        exact Nat.le_add_right _ _
      · have behind := ih others firstRest secondRest
        rw [packed, if_neg (apart first firstRest), packed, if_neg (apart second secondRest)]
        unfold Apart at behind ⊢
        omega

end Packed

end EncosDriver.Lib.Regions
