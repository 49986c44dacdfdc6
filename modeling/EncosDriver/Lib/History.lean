import Mathlib.Data.List.Basic

set_option autoImplicit false

namespace EncosDriver.Lib

section History

variable {Event : Type}

def Since (mark clean : Event → Prop) (history : List Event) : Prop :=
  ∃ before event after, history = before ++ event :: after ∧ mark event ∧ ∀ later ∈ after, clean later

theorem since_mark (mark clean : Event → Prop) (history : List Event) (event : Event) (marks : mark event) :
    Since mark clean (history ++ [event]) := by
  refine ⟨history, event, [], rfl, marks, ?_⟩
  intro later among
  cases among

theorem since_clean (mark clean : Event → Prop) (history : List Event) (event : Event)
    (since : Since mark clean history) (cleans : clean event) : Since mark clean (history ++ [event]) := by
  obtain ⟨before, first, after, split, marks, quiet⟩ := since
  refine ⟨before, first, after ++ [event], by rw [split, List.append_assoc, List.cons_append], marks, ?_⟩
  intro later among
  rcases List.mem_append.mp among with old | new
  · exact quiet later old
  · rw [List.mem_singleton.mp new]
    exact cleans

def Window (first second : Event → Bool) (history : List Event) (firsts seconds : Nat) : Prop :=
  ∃ before newest, history = before ++ newest ∧ newest.countP first = firsts ∧ newest.countP second = seconds

variable (first second : Event → Bool) (history : List Event)

theorem window_empty : Window first second history 0 0 :=
  ⟨history, [], (List.append_nil history).symm, rfl, rfl⟩

theorem window_append (firsts seconds : Nat) (event : Event) (window : Window first second history firsts seconds) :
    Window first second (history ++ [event]) (firsts + if first event then 1 else 0)
      (seconds + if second event then 1 else 0) := by
  obtain ⟨before, newest, split, countedFirst, countedSecond⟩ := window
  refine ⟨before, newest ++ [event], by rw [split, List.append_assoc], ?_, ?_⟩
  · rw [List.countP_append, countedFirst, List.countP_singleton]
  · rw [List.countP_append, countedSecond, List.countP_singleton]

theorem window_skip (firsts seconds : Nat) (event : Event)
    (window : Window first second history firsts seconds) (neither : first event = false ∧ second event = false) :
    Window first second (history ++ [event]) firsts seconds := by
  have grown := window_append first second history firsts seconds event window
  simpa only [neither.1, neither.2, Bool.false_eq_true, ↓reduceIte, Nat.add_zero] using grown

end History

section Newest

variable {Item : Type}

def newest (capacity : Nat) (items : List Item) : List Item := items.drop (items.length - capacity)

@[simp] theorem newest_nil (capacity : Nat) : newest capacity ([] : List Item) = [] := List.drop_nil

variable (capacity : Nat) (items : List Item)

theorem newest_fits (fits : items.length ≤ capacity) : newest capacity items = items := by
  rw [newest, Nat.sub_eq_zero_of_le fits, List.drop_zero]

theorem newest_length : (newest capacity items).length = min capacity items.length := by
  rw [newest, List.length_drop]
  omega

theorem newest_suffix : newest capacity items <:+ items := List.drop_suffix _ _

theorem newest_append (capacity : Nat) (front back : List Item) :
    newest capacity (newest capacity front ++ newest capacity back) = newest capacity (front ++ back) := by
  simp only [newest, List.length_append, List.length_drop, List.drop_append, List.drop_drop]
  congr 1
  · exact List.drop_eq_drop_iff.mpr (by omega)
  · exact List.drop_eq_drop_iff.mpr (by omega)

theorem newest_append_left (capacity : Nat) (front back : List Item) :
    newest capacity (newest capacity front ++ back) = newest capacity (front ++ back) := by
  simp only [newest, List.length_append, List.length_drop, List.drop_append, List.drop_drop]
  congr 1
  · exact List.drop_eq_drop_iff.mpr (by omega)
  · exact List.drop_eq_drop_iff.mpr (by omega)

theorem newest_push (item : Item) :
    (if capacity < (newest capacity items ++ [item]).length then (newest capacity items ++ [item]).tail
      else newest capacity items ++ [item]) = newest capacity (items ++ [item]) := by
  have short := newest_length capacity items
  rw [← newest_append_left]
  generalize newest capacity items = kept at short ⊢
  split
  · next longer =>
    have one : (kept ++ [item]).length - capacity = 1 := by
      simp only [List.length_append, List.length_singleton] at longer ⊢
      omega
    rw [newest, one, List.drop_one]
  · next within => exact (newest_fits _ _ (Nat.le_of_not_lt within)).symm

end Newest

end EncosDriver.Lib
