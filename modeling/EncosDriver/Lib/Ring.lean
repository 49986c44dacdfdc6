import Mathlib.Data.List.Basic
import Mathlib.Data.Nat.ModEq

set_option autoImplicit false

namespace EncosDriver.Lib

-- An overwriting ring: each slot keeps the entry written last with its sequence
-- number, counted from one. The sequences that are still inside the window are
-- all in place.
structure Ring (capacity : Nat) (Entry : Type) where
  slots : Nat → Option (Nat × Entry)
  producerSequence : Nat
  consumerSequence : Nat
  positive : 0 < capacity
  started : 1 ≤ consumerSequence ∧ consumerSequence ≤ producerSequence + 1
  formed : ∀ sequence, 0 < sequence → sequence ≤ producerSequence → producerSequence < sequence + capacity →
    ∃ entry, slots ((sequence - 1) % capacity) = some (sequence, entry)

namespace Ring

variable {capacity : Nat} {Entry : Type}

def empty (capacity : Nat) (Entry : Type) (positive : 0 < capacity) : Ring capacity Entry where
  slots := fun _ => none
  producerSequence := 0
  consumerSequence := 1
  positive := positive
  started := by omega
  formed := by
    intro sequence positive bounded
    omega

theorem slot_distinct (capacity first second : Nat) (less : first < second) (near : second < first + capacity) :
    first % capacity ≠ second % capacity := by
  intro same
  have divides : capacity ∣ second - first := (Nat.modEq_iff_dvd' (Nat.le_of_lt less)).mp same
  have large := Nat.le_of_dvd (by omega) divides
  omega

def push (ring : Ring capacity Entry) (entry : Entry) : Ring capacity Entry where
  slots := fun index =>
    if index = ring.producerSequence % capacity then some (ring.producerSequence + 1, entry) else ring.slots index
  producerSequence := ring.producerSequence + 1
  consumerSequence := ring.consumerSequence
  positive := ring.positive
  started := by
    have started := ring.started
    omega
  formed := by
    intro sequence positive bounded near
    by_cases newest : sequence = ring.producerSequence + 1
    · subst newest
      exact ⟨entry, by simp⟩
    · have different := slot_distinct capacity (sequence - 1) ring.producerSequence (by omega) (by omega)
      simp only [if_neg different]
      exact ring.formed sequence positive (by omega) (by omega)

def oldest (ring : Ring capacity Entry) : Nat :=
  max ring.consumerSequence (if ring.producerSequence > capacity then ring.producerSequence - capacity + 1 else 1)

variable (ring : Ring capacity Entry)

theorem oldest_eq : ring.oldest = max ring.consumerSequence (ring.producerSequence + 1 - capacity) := by
  have started := ring.started
  have positive := ring.positive
  unfold oldest
  split <;> omega

theorem oldest_bound :
    1 ≤ ring.oldest ∧ ring.consumerSequence ≤ ring.oldest ∧ ring.oldest ≤ ring.producerSequence + 1 ∧
      ring.producerSequence < ring.oldest + capacity ∧
        (ring.consumerSequence ≤ ring.producerSequence → ring.oldest ≤ ring.producerSequence) := by
  have started := ring.started
  have positive := ring.positive
  rw [oldest_eq]
  omega

def advance (ring : Ring capacity Entry) (unread : ring.consumerSequence ≤ ring.producerSequence) : Ring capacity Entry :=
  { ring with
    consumerSequence := ring.oldest + 1
    started := by
      have bound := ring.oldest_bound
      omega }

def pop (ring : Ring capacity Entry) : Option (Entry × Ring capacity Entry) :=
  if consumed : ring.consumerSequence > ring.producerSequence then none
  else
    match ring.slots ((ring.oldest - 1) % capacity) with
    | some (sequence, entry) => if sequence = ring.oldest then some (entry, ring.advance (Nat.not_lt.mp consumed)) else none
    | none => none

def drain : Nat → Ring capacity Entry → List Entry × Ring capacity Entry
  | 0, ring => ([], ring)
  | count + 1, ring =>
    match ring.pop with
    | none => ([], ring)
    | some (entry, rest) =>
      let drained := drain count rest
      (entry :: drained.1, drained.2)

def entryAt (ring : Ring capacity Entry) (sequence : Nat) : Option Entry :=
  (ring.slots ((sequence - 1) % capacity)).map fun slot => slot.2

def queued (ring : Ring capacity Entry) : List Entry :=
  (List.range' ring.oldest (ring.producerSequence + 1 - ring.oldest)).filterMap ring.entryAt

theorem entry_in_place (sequence : Nat) (started : 1 ≤ sequence)
    (bounded : sequence ≤ ring.producerSequence) (near : ring.producerSequence < sequence + capacity) :
    ∃ entry, ring.slots ((sequence - 1) % capacity) = some (sequence, entry) ∧ ring.entryAt sequence = some entry := by
  obtain ⟨entry, place⟩ := ring.formed sequence (by omega) bounded near
  exact ⟨entry, place, by simp [entryAt, place]⟩

theorem window_cons (start count : Nat) (started : 1 ≤ start) (ends : start + count = ring.producerSequence)
    (near : ring.producerSequence < start + capacity) :
    ∃ entry, ring.slots ((start - 1) % capacity) = some (start, entry) ∧
      (List.range' start (count + 1)).filterMap ring.entryAt = entry :: (List.range' (start + 1) count).filterMap ring.entryAt := by
  obtain ⟨entry, place, read⟩ := ring.entry_in_place start started (by omega) near
  exact ⟨entry, place, by rw [List.range'_succ, List.filterMap_cons, read]⟩

theorem window_length (count start : Nat) (started : 1 ≤ start)
    (ends : start + count = ring.producerSequence + 1) (near : ring.producerSequence < start + capacity) :
    ((List.range' start count).filterMap ring.entryAt).length = count := by
  induction count generalizing start with
  | zero => rfl
  | succ count ih =>
    obtain ⟨entry, _, read⟩ := ring.window_cons start count started (by omega) near
    rw [read, List.length_cons, ih (start + 1) (by omega) (by omega) (by omega)]

theorem queued_length : ring.queued.length = ring.producerSequence + 1 - ring.oldest ∧ ring.queued.length ≤ capacity := by
  have bound := ring.oldest_bound
  have length := ring.window_length (ring.producerSequence + 1 - ring.oldest) ring.oldest (by omega) (by omega) (by omega)
  exact ⟨length, by unfold queued; omega⟩

theorem advance_oldest (unread : ring.consumerSequence ≤ ring.producerSequence) :
    (ring.advance unread).oldest = ring.oldest + 1 := by
  have bound := ring.oldest_bound
  rw [oldest_eq]
  simp only [advance]
  omega

theorem pop_queued :
    match ring.pop with
    | none => ring.queued = []
    | some (entry, rest) => ring.queued = entry :: rest.queued := by
  have bound := ring.oldest_bound
  by_cases consumed : ring.consumerSequence > ring.producerSequence
  · have length := ring.queued_length.1
    simp only [pop, dif_pos consumed]
    exact List.length_eq_zero_iff.mp (by omega)
  · obtain ⟨entry, place, read⟩ := ring.window_cons ring.oldest (ring.producerSequence - ring.oldest) (by omega) (by omega) (by omega)
    have whole : ring.producerSequence + 1 - ring.oldest = ring.producerSequence - ring.oldest + 1 := by omega
    have rest : ring.producerSequence + 1 - (ring.oldest + 1) = ring.producerSequence - ring.oldest := by omega
    simp only [pop, dif_neg consumed, place, ↓reduceIte]
    rw [queued, queued, whole, read, advance_oldest]
    simp only [advance, rest]
    rfl

theorem push_queued (entry : Entry) :
    (ring.push entry).queued = (ring.queued ++ [entry]).drop (ring.queued.length + 1 - capacity) := by
  have bound := ring.oldest_bound
  have positive := ring.positive
  have length := ring.queued_length.1
  have newest : (ring.push entry).entryAt (ring.producerSequence + 1) = some entry := by simp [entryAt, push]
  have others (sequence : Nat) (above : ring.oldest ≤ sequence) (below : sequence ≤ ring.producerSequence)
      (inside : ring.producerSequence + 1 < sequence + capacity) : (ring.push entry).entryAt sequence = ring.entryAt sequence := by
    have different := slot_distinct capacity (sequence - 1) ring.producerSequence (by omega) (by omega)
    simp [entryAt, push, different]
  have unchanged (start count : Nat) (above : ring.oldest ≤ start) (ends : start + count = ring.producerSequence + 1)
      (inside : ring.producerSequence + 1 < start + capacity) :
      (List.range' start count).filterMap (ring.push entry).entryAt = (List.range' start count).filterMap ring.entryAt := by
    apply List.filterMap_congr
    intro sequence member
    obtain ⟨index, less, rfl⟩ := List.mem_range'.mp member
    exact others _ (by omega) (by omega) (by omega)
  by_cases room : ring.producerSequence + 1 < ring.oldest + capacity
  · have first : (ring.push entry).oldest = ring.oldest := by
      rw [oldest_eq] at room ⊢
      rw [oldest_eq]
      simp only [push]
      omega
    have noDrop : ring.queued.length + 1 - capacity = 0 := by omega
    have grown : ring.producerSequence + 1 + 1 - ring.oldest = (ring.producerSequence + 1 - ring.oldest) + 1 := by omega
    have last : ring.oldest + (ring.producerSequence + 1 - ring.oldest) = ring.producerSequence + 1 := by omega
    rw [noDrop, List.drop_zero]
    simp only [queued, first, show (ring.push entry).producerSequence = ring.producerSequence + 1 from rfl, grown,
      List.range'_1_concat, List.filterMap_append, last]
    rw [unchanged ring.oldest _ (Nat.le_refl _) last room]
    simp [newest]
  · have first : (ring.push entry).oldest = ring.oldest + 1 := by
      rw [oldest_eq] at room bound ⊢
      rw [oldest_eq]
      simp only [push]
      omega
    obtain ⟨lost, _, read⟩ := ring.window_cons ring.oldest (ring.producerSequence - ring.oldest) (by omega) (by omega) (by omega)
    have whole : ring.producerSequence + 1 - ring.oldest = ring.producerSequence - ring.oldest + 1 := by omega
    have dropped : ring.queued.length + 1 - capacity = 1 := by omega
    have kept : ring.producerSequence + 1 + 1 - (ring.oldest + 1) = (ring.producerSequence - ring.oldest) + 1 := by omega
    have last : ring.oldest + 1 + (ring.producerSequence - ring.oldest) = ring.producerSequence + 1 := by omega
    rw [dropped]
    simp only [queued, first, show (ring.push entry).producerSequence = ring.producerSequence + 1 from rfl, kept,
      List.range'_1_concat, List.filterMap_append, last]
    rw [unchanged (ring.oldest + 1) _ (by omega) last (by omega), whole, read]
    simp [newest]

theorem empty_queued (capacity : Nat) (Entry : Type) (positive : 0 < capacity) : (empty capacity Entry positive).queued = [] := by
  apply List.length_eq_zero_iff.mp
  rw [(empty capacity Entry positive).queued_length.1, oldest_eq]
  simp only [empty]
  omega

theorem drain_queued (count : Nat) (ring : Ring capacity Entry) (enough : ring.queued.length ≤ count) :
    (drain count ring).1 = ring.queued ∧ (drain count ring).2.queued = [] := by
  induction count generalizing ring with
  | zero =>
    have none : ring.queued = [] := List.length_eq_zero_iff.mp (by omega)
    exact ⟨none.symm, none⟩
  | succ count ih =>
    have popped := ring.pop_queued
    simp only [drain]
    split at popped
    · exact ⟨popped.symm, popped⟩
    · next entry rest taken =>
        rw [popped] at enough ⊢
        obtain ⟨drained, left⟩ := ih rest (by simpa using enough)
        exact ⟨by rw [drained], left⟩

end Ring

end EncosDriver.Lib
