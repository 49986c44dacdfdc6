import Mathlib.Data.List.TakeWhile
import Mathlib.Algebra.Group.Nat.Defs

set_option autoImplicit false

namespace EncosDriver.Lib.Decimal

-- Decimal numbers as text. A canonical one is what printing a number gives:
-- digits only, at least one of them, and no zero in front of others.
def value (text : List Char) : Nat := Nat.ofDigitChars 10 text 0

def print (number : Nat) : List Char := Nat.toDigits 10 number

def canonical (text : List Char) : Bool :=
  !text.isEmpty && text.all Char.isDigit && !(decide (text.length > 1) && text.head? == some '0')

variable (text : List Char)

theorem canonical_checks : canonical text = true ↔
    text.isEmpty = false ∧ text.all Char.isDigit = true ∧ ¬ (text.length > 1 ∧ text.head? = some '0') := by
  rw [canonical, Bool.and_eq_true, Bool.and_eq_true, Bool.not_eq_true', Bool.not_eq_true', and_assoc]
  refine and_congr_right fun _ => and_congr_right fun _ => ?_
  rw [← Bool.not_eq_true, Bool.and_eq_true, decide_eq_true_eq, beq_iff_eq]

theorem digit_bounds (c : Char) (digit : c.isDigit = true) : 48 ≤ c.toNat ∧ c.toNat ≤ 57 := by
  simp only [Char.isDigit, Bool.and_eq_true, decide_eq_true_eq] at digit
  exact ⟨UInt32.le_iff_toNat_le.mp digit.1, UInt32.le_iff_toNat_le.mp digit.2⟩

theorem digit_rebuilt (c : Char) (digit : c.isDigit = true) : Nat.digitChar (c.toNat - 48) = c := by
  obtain ⟨low, high⟩ := digit_bounds c digit
  apply Char.toNat_inj.mp
  rw [Nat.toNat_digitChar_of_lt_ten (by omega)]
  omega

theorem print_behind (digits : text.all Char.isDigit = true) (number : Nat) (positive : 0 < number) :
    print number ++ text = print (Nat.ofDigitChars 10 text number) := by
  induction text generalizing number with
  | nil => simp
  | cons c rest ih =>
    rw [List.all_cons, Bool.and_eq_true] at digits
    obtain ⟨low, high⟩ := digit_bounds c digits.1
    have small : c.toNat - 48 < 10 := by omega
    have longer := Nat.toDigits_append_toDigits (b := 10) (by decide) positive small
    rw [Nat.toDigits_of_lt_base small, digit_rebuilt c digits.1] at longer
    have grown : 0 < 10 * number + (c.toNat - 48) := by omega
    calc print number ++ c :: rest = (Nat.toDigits 10 number ++ [c]) ++ rest := by simp [print]
      _ = print (10 * number + (c.toNat - 48)) ++ rest := by rw [longer, print]
      _ = print (Nat.ofDigitChars 10 rest (10 * number + (c.toNat - 48))) := ih digits.2 _ grown
      _ = print (Nat.ofDigitChars 10 (c :: rest) number) := by rw [Nat.ofDigitChars_cons]; rfl

theorem print_value (standard : canonical text = true) : print (value text) = text := by
  obtain ⟨present, digits, leading⟩ := (canonical_checks text).mp standard
  cases text with
  | nil => cases present
  | cons c rest =>
    rw [List.all_cons, Bool.and_eq_true] at digits
    obtain ⟨low, high⟩ := digit_bounds c digits.1
    have small : c.toNat - 48 < 10 := by omega
    have first : print (c.toNat - 48) = [c] := by rw [print, Nat.toDigits_of_lt_base small, digit_rebuilt c digits.1]
    have counted : value (c :: rest) = Nat.ofDigitChars 10 rest (c.toNat - 48) := by
      rw [value, Nat.ofDigitChars_cons]
      simp
    by_cases zero : c = '0'
    · subst zero
      have alone : rest = [] := by
        cases rest with
        | nil => rfl
        | cons => simp at leading
      subst alone
      rfl
    · have positive : 0 < c.toNat - 48 := by
        have other : c.toNat ≠ 48 := fun same => zero (Char.toNat_inj.mp same)
        omega
      have behind := print_behind rest digits.2 (c.toNat - 48) positive
      rw [counted, ← behind, first]
      rfl

variable (number : Nat)

theorem value_print : value (print number) = number := Nat.ofDigitChars_ten_toDigits

theorem print_digits : (print number).all Char.isDigit = true :=
  List.all_eq_true.mpr fun _ inside => Nat.isDigit_of_mem_toDigits (by decide) (by decide) inside

theorem print_present : print number ≠ [] := Nat.toDigits_ne_nil

theorem value_bound (digits : text.all Char.isDigit = true) : value text < 10 ^ text.length := by
  induction text with
  | nil => decide
  | cons c rest ih =>
    rw [List.all_cons, Bool.and_eq_true] at digits
    obtain ⟨low, high⟩ := digit_bounds c digits.1
    have tail := ih digits.2
    have split : value (c :: rest) = 10 ^ rest.length * (c.toNat - 48) + value rest := by
      rw [value, Nat.ofDigitChars_cons, Nat.ofDigitChars_eq_ofDigitChars_zero]
      simp [value]
    have nine : 10 ^ rest.length * (c.toNat - 48) ≤ 10 ^ rest.length * 9 := Nat.mul_le_mul_left _ (by omega)
    rw [split, List.length_cons, Nat.pow_succ]
    omega

theorem print_length (number count : Nat) (positive : 0 < count) : (print number).length ≤ count ↔ number < 10 ^ count :=
  Nat.length_toDigits_le_iff (by decide) positive

theorem canonical_print : canonical (print number) = true := by
  have digits := print_digits number
  have leading : ¬ ((print number).length > 1 ∧ (print number).head? = some '0') := by
    rintro ⟨long, zero⟩
    cases shape : print number with
    | nil => exact print_present number shape
    | cons c rest =>
      rw [shape] at long zero digits
      cases zero
      rw [List.all_cons, Bool.and_eq_true] at digits
      rw [List.length_cons] at long
      have same : value rest = number := by
        rw [← value_print number, shape, value, value, Nat.ofDigitChars_cons]
        rfl
      have small := value_bound rest digits.2
      have short := (print_length number rest.length (by omega)).mpr (same ▸ small)
      rw [shape, List.length_cons] at short
      omega
  exact (canonical_checks _).mpr ⟨List.isEmpty_eq_false_iff.mpr (print_present number), digits, leading⟩

variable (mark : Char)

theorem cut_at (text : List Char) (marked : text.contains mark = true) :
    text = text.takeWhile (· ≠ mark) ++ mark :: text.drop ((text.takeWhile (· ≠ mark)).length + 1) := by
  induction text with
  | nil => cases marked
  | cons c rest ih =>
    by_cases here : c = mark
    · subst here
      simp
    · have later : rest.contains mark = true := by
        rw [List.contains_cons, Bool.or_eq_true, beq_iff_eq] at marked
        exact marked.resolve_left fun same => here same.symm
      rw [List.takeWhile_cons, if_pos (decide_eq_true here), List.length_cons, List.drop_succ_cons, List.cons_append,
        ← ih later]

theorem uncut (text : List Char) (unmarked : text.contains mark = false) :
    text.takeWhile (· ≠ mark) = text := by
  refine List.takeWhile_eq_self_iff.mpr fun c inside => decide_eq_true ?_
  rintro rfl
  rw [List.contains_iff_mem.mpr inside] at unmarked
  cases unmarked

theorem print_unmarked (other : mark.isDigit = false) (number : Nat) :
    (print number).contains mark = false := by
  cases marked : (print number).contains mark with
  | false => rfl
  | true =>
    have digit := List.all_eq_true.mp (print_digits number) mark (List.contains_iff_mem.mp marked)
    rw [other] at digit
    cases digit

theorem cut_print (other : mark.isDigit = false) (number : Nat) (rest : List Char) :
    (print number ++ mark :: rest).takeWhile (· ≠ mark) = print number := by
  have front : ∀ c ∈ print number, decide (c ≠ mark) = true := by
    intro c inside
    refine decide_eq_true ?_
    rintro rfl
    rw [← Bool.not_eq_true] at other
    exact other (List.all_eq_true.mp (print_digits number) c inside)
  rw [List.takeWhile_append_of_pos front]
  simp

end EncosDriver.Lib.Decimal
