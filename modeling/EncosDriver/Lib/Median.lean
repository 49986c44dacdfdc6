import Mathlib.Data.List.Basic
import Mathlib.Order.Lattice

set_option autoImplicit false

namespace EncosDriver.Lib

variable {Value : Type} [LinearOrder Value]

structure UpperMedian (values : List Value) (middle : Value) : Prop where
  member : middle ∈ values
  below : values.countP (fun value => value < middle) ≤ values.length / 2
  upTo : values.length / 2 < values.countP fun value => value ≤ middle

theorem upper_median_perm (first second : List Value) (perm : first.Perm second) (middle : Value)
    (isMedian : UpperMedian first middle) : UpperMedian second middle := by
  obtain ⟨member, below, upTo⟩ := isMedian
  rw [perm.countP_eq, perm.length_eq] at below upTo
  exact ⟨perm.mem_iff.mp member, below, upTo⟩

theorem sorted_middle (values : List Value) (sorted : values.Pairwise (· ≤ ·)) (inside : values.length / 2 < values.length) :
    UpperMedian values values[values.length / 2] := by
  have parts : values = values.take (values.length / 2) ++ values[values.length / 2] :: values.drop (values.length / 2 + 1) := by
    rw [List.getElem_cons_drop, List.take_append_drop]
  generalize middleIs : values[values.length / 2] = middle at parts
  have front : (values.take (values.length / 2)).length = values.length / 2 := by
    rw [List.length_take, Nat.min_eq_left (Nat.le_of_lt inside)]
  have ordered := sorted
  rw [parts, List.pairwise_append, List.pairwise_cons] at ordered
  obtain ⟨_, ⟨after, _⟩, before⟩ := ordered
  refine ⟨middleIs ▸ List.getElem_mem inside, ?_, ?_⟩
  · have none : (middle :: values.drop (values.length / 2 + 1)).countP (fun value => value < middle) = 0 := by
      refine List.countP_eq_zero.mpr fun value member less => ?_
      rcases List.mem_cons.mp member with rfl | later
      · exact lt_irrefl _ (of_decide_eq_true less)
      · exact absurd (of_decide_eq_true less) (not_lt.mpr (after value later))
    have few : (values.take (values.length / 2)).countP (fun value => value < middle) ≤ values.length / 2 :=
      Nat.le_trans List.countP_le_length (Nat.le_of_eq front)
    have split : values.countP (fun value => value < middle) = (values.take (values.length / 2)).countP (fun value => value < middle) +
        (middle :: values.drop (values.length / 2 + 1)).countP (fun value => value < middle) := by
      rw [← List.countP_append, ← parts]
    omega
  · have all : (values.take (values.length / 2)).countP (fun value => value ≤ middle) = values.length / 2 := by
      refine (List.countP_eq_length.mpr fun value member => ?_).trans front
      exact decide_eq_true (before value member middle List.mem_cons_self)
    have one : 0 < (middle :: values.drop (values.length / 2 + 1)).countP fun value => value ≤ middle :=
      List.countP_pos_iff.mpr ⟨middle, List.mem_cons_self, decide_eq_true (le_refl middle)⟩
    have split : values.countP (fun value => value ≤ middle) = (values.take (values.length / 2)).countP (fun value => value ≤ middle) +
        (middle :: values.drop (values.length / 2 + 1)).countP (fun value => value ≤ middle) := by
      rw [← List.countP_append, ← parts]
    omega

def sortUp (values : List Value) : List Value := values.mergeSort fun first second => !decide (second < first)

theorem sort_up_middle (values : List Value) (used : values ≠ []) :
    ∃ middle, (sortUp values)[(sortUp values).length / 2]? = some middle ∧ UpperMedian values middle := by
  have perm : (sortUp values).Perm values := List.mergeSort_perm values _
  have sorted : (sortUp values).Pairwise (· ≤ ·) := by
    have pairs : (sortUp values).Pairwise fun first second => (!decide (second < first)) = true :=
      List.pairwise_mergeSort (fun first second third => by simpa using le_trans)
        (fun first second => by simpa using le_total first second) values
    exact pairs.imp fun ordered => by simpa using ordered
  have positive : 0 < (sortUp values).length := by
    rw [perm.length_eq]
    exact List.length_pos_of_ne_nil used
  have inside : (sortUp values).length / 2 < (sortUp values).length := Nat.div_lt_self positive (by decide)
  exact ⟨_, List.getElem?_eq_getElem inside, upper_median_perm _ values perm _ (sorted_middle _ sorted inside)⟩

end EncosDriver.Lib
