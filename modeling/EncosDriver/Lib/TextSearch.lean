import Mathlib.Data.List.TakeWhile

set_option autoImplicit false

namespace EncosDriver.Lib.TextSearch

variable {Symbol : Type}

section Pattern

variable [DecidableEq Symbol]

def find (pattern : List Symbol) : List Symbol → Option Nat
  | [] => if pattern = [] then some 0 else none
  | symbol :: rest => if pattern.isPrefixOf (symbol :: rest) then some 0 else (find pattern rest).map (· + 1)

theorem find_here (pattern rest : List Symbol) : find pattern (pattern ++ rest) = some 0 := by
  cases whole : pattern ++ rest with
  | nil => rw [find, if_pos (List.append_eq_nil_iff.mp whole).1]
  | cons symbol following =>
    have present : pattern.isPrefixOf (symbol :: following) = true :=
      List.isPrefixOf_iff_prefix.mpr (whole ▸ List.prefix_append pattern rest)
    rw [find, if_pos present]

theorem find_up_to (pattern front rest : List Symbol) :
    ∃ index, index ≤ front.length ∧ find pattern (front ++ pattern) = some index ∧
      find pattern (front ++ (pattern ++ rest)) = some index := by
  induction front with
  | nil =>
    have alone := find_here pattern []
    rw [List.append_nil] at alone
    exact ⟨0, Nat.le_refl _, alone, find_here pattern rest⟩
  | cons symbol front ih =>
    obtain ⟨index, within, short, long⟩ := ih
    have fits : pattern.length ≤ (symbol :: front ++ pattern).length := by
      rw [List.length_append]
      omega
    have same : pattern.isPrefixOf (symbol :: front ++ (pattern ++ rest)) = pattern.isPrefixOf (symbol :: front ++ pattern) := by
      rw [Bool.eq_iff_iff, List.isPrefixOf_iff_prefix, List.isPrefixOf_iff_prefix, ← List.append_assoc]
      exact ⟨fun present => List.prefix_of_prefix_length_le present (List.prefix_append _ _) fits,
        fun present => present.trans (List.prefix_append _ _)⟩
    simp only [List.cons_append] at same ⊢
    cases present : pattern.isPrefixOf (symbol :: (front ++ pattern)) with
    | true =>
      rw [present] at same
      refine ⟨0, Nat.zero_le _, ?_, ?_⟩
      · rw [find, if_pos present]
      · rw [find, if_pos same]
    | false =>
      rw [present] at same
      refine ⟨index + 1, Nat.succ_le_succ within, ?_, ?_⟩
      · rw [find, present, if_neg Bool.false_ne_true, short, Option.map_some]
      · rw [find, same, if_neg Bool.false_ne_true, long, Option.map_some]

end Pattern

def findOf (wanted : Symbol → Bool) (text : List Symbol) (start : Nat) : Option Nat :=
  ((text.drop start).findIdx? wanted).map (start + ·)

theorem find_of_at (wanted : Symbol → Bool) (text skipped rest : List Symbol) (symbol : Symbol) (start : Nat)
    (shape : text.drop start = skipped ++ symbol :: rest) (unwanted : ∀ other ∈ skipped, wanted other = false)
    (here : wanted symbol = true) :
    findOf wanted text start = some (start + skipped.length) ∧ text.drop (start + skipped.length) = symbol :: rest := by
  refine ⟨?_, ?_⟩
  · have none : skipped.findIdx? wanted = none := List.findIdx?_eq_none_iff.mpr unwanted
    rw [findOf, shape, List.findIdx?_append, none, List.findIdx?_cons, here]
    simp
  · rw [← List.drop_drop, shape, List.drop_left' rfl]

theorem find_symbol_at [DecidableEq Symbol] (wanted : Symbol) (text skipped rest : List Symbol) (start : Nat)
    (shape : text.drop start = skipped ++ wanted :: rest) (absent : wanted ∉ skipped) :
    findOf (· == wanted) text start = some (start + skipped.length) ∧ text.drop (start + skipped.length) = wanted :: rest := by
  refine find_of_at (· == wanted) text skipped rest wanted start shape ?_ (beq_self_eq_true wanted)
  intro other inside
  rw [beq_eq_false_iff_ne]
  rintro rfl
  exact absent inside

theorem find_of_front (wanted : Symbol → Bool) (text front rest : List Symbol) (symbol : Symbol) (start : Nat)
    (shape : text.drop start = front ++ symbol :: rest) (here : wanted symbol = true) :
    findOf wanted text start = some (start + (front.takeWhile fun other => !wanted other).length) ∧
      text.drop (start + (front.takeWhile fun other => !wanted other).length) =
        (front.dropWhile fun other => !wanted other) ++ symbol :: rest := by
  have unwanted : ∀ other ∈ front.takeWhile fun other => !wanted other, wanted other = false := by
    intro other inside
    have taken := List.mem_takeWhile_imp (p := fun other => !wanted other) inside
    exact (Bool.not_eq_true' _).mp taken
  rw [← List.takeWhile_append_dropWhile (p := fun other => !wanted other) (l := front), List.append_assoc] at shape
  cases left : front.dropWhile fun other => !wanted other with
  | nil =>
    rw [left] at shape
    exact find_of_at wanted text _ rest symbol start shape unwanted here
  | cons found behind =>
    have first := List.head?_dropWhile_not (fun other => !wanted other) front
    rw [left] at first shape
    exact find_of_at wanted text _ (behind ++ symbol :: rest) found start shape unwanted (Bool.not_eq_false' .. |>.mp first)

end EncosDriver.Lib.TextSearch
