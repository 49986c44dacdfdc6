import EncosDriver.Lib.Binary32
import EncosDriver.Lib.Decimal

set_option autoImplicit false

namespace EncosDriver.Lib.Numeral

abbrev Text := List Char

def isSpace (c : Char) : Bool := c = ' ' || (9 ≤ c.toNat && c.toNat ≤ 13)

def isHexDigit (c : Char) : Bool := c.isDigit || ('a' ≤ c && c ≤ 'f') || ('A' ≤ c && c ≤ 'F')

def digitValue (c : Char) : Nat := if c.isDigit then c.toNat - 48 else if c ≤ 'F' then c.toNat - 55 else c.toNat - 87

def positional (base : Nat) (digits : Text) : Nat := digits.foldl (fun before c => base * before + digitValue c) 0

def sign (text : Text) : Bool × Text :=
  match text with
  | '-' :: rest => (true, rest)
  | '+' :: rest => (false, rest)
  | _ => (false, text)

def mantissa (isDigit : Char → Bool) (text : Text) : Text × Nat × Text :=
  let whole := text.takeWhile isDigit
  match text.dropWhile isDigit with
  | '.' :: tail => (whole ++ tail.takeWhile isDigit, (tail.takeWhile isDigit).length, tail.dropWhile isDigit)
  | after => (whole, 0, after)

def exponent (marks text : Text) : Int × Text :=
  match text with
  | mark :: tail =>
    let digits := (sign tail).2.takeWhile Char.isDigit
    if marks.contains mark = true ∧ digits ≠ [] then
      (if (sign tail).1 then -(positional 10 digits : Int) else positional 10 digits, (sign tail).2.dropWhile Char.isDigit)
    else (0, text)
  | [] => (0, [])

def unsigned (isDigit : Char → Bool) (base power : Nat) (marks text : Text) : Option (ℚ × Text) :=
  let (digits, behind, after) := mantissa isDigit text
  if digits = [] then none
  else some (positional base digits / base ^ behind * (power : ℚ) ^ (exponent marks after).1, (exponent marks after).2)

def decimal (text : Text) : Option (ℚ × Text) := unsigned Char.isDigit 10 10 ['e', 'E'] text

def magnitude (text : Text) : Option (ℚ × Text) :=
  match text with
  | '0' :: mark :: tail =>
    if mark = 'x' ∨ mark = 'X' then (unsigned isHexDigit 16 2 ['p', 'P'] tail).or (decimal text) else decimal text
  | _ => decimal text

inductive Number where
  | finite (value : ℚ)
  | infinite
  | notANumber

def payload (text : Text) : Text :=
  match text with
  | '(' :: tail =>
    match tail.dropWhile fun c => c.isAlphanum || c = '_' with
    | ')' :: rest => rest
    | _ => text
  | _ => text

def word (text : Text) : Option (Number × Text) :=
  let lower := text.map Char.toLower
  if "infinity".toList.isPrefixOf lower then some (.infinite, text.drop 8)
  else if "inf".toList.isPrefixOf lower then some (.infinite, text.drop 3)
  else if "nan".toList.isPrefixOf lower then some (.notANumber, payload (text.drop 3))
  else none

def strtod (text : Text) : Option (Number × Text) :=
  let (negative, body) := sign (text.dropWhile isSpace)
  (word body).or ((magnitude body).map fun read => (.finite (if negative then -read.1 else read.1), read.2))

def printInteger (number : Int) : Text :=
  if number < 0 then '-' :: Decimal.print number.natAbs else Decimal.print number.natAbs

def padded (places number : Nat) : Text := List.replicate (places - (Decimal.print number).length) '0' ++ Decimal.print number

def scaledDigits (places : Nat) (value : ℚ) : Nat := (Binary32.nearestEven (|value| * 10 ^ places)).toNat

def printFixed (places : Nat) (value : ℚ) : Text :=
  let text := Decimal.print (scaledDigits places value / 10 ^ places) ++ '.' :: padded places (scaledDigits places value % 10 ^ places)
  if value < 0 then '-' :: text else text

theorem positional_value (digits : Text) (all : digits.all Char.isDigit = true) : positional 10 digits = Decimal.value digits := by
  rw [positional, Decimal.value, Nat.ofDigitChars_eq_foldl]
  refine List.foldl_ext _ _ _ fun before c inside => ?_
  rw [digitValue, if_pos (List.all_eq_true.mp all c inside)]
  rfl

theorem strtod_digit (c : Char) (rest : Text) (digit : c.isDigit = true) :
    strtod (c :: rest) = (magnitude (c :: rest)).map fun read => (.finite read.1, read.2) := by
  obtain ⟨low, high⟩ := Decimal.digit_bounds c digit
  have different (other : Char) (outside : other.toNat < 48 ∨ 57 < other.toNat) : c ≠ other := by
    rintro rfl
    omega
  have space : isSpace c = false := by
    rw [isSpace, decide_eq_false (different ' ' (by decide)), Bool.false_or, decide_eq_false (show ¬ c.toNat ≤ 13 by omega), Bool.and_false]
  have unsignedFront : sign (c :: rest) = (false, c :: rest) := by
    rw [sign]
    · rintro tail same
      exact different '-' (by decide) (List.cons.inj same).1
    · rintro tail same
      exact different '+' (by decide) (List.cons.inj same).1
  have small : c.toLower = c := by
    refine dif_neg ?_
    rintro ⟨upper, _⟩
    have above : 65 ≤ c.toNat := UInt32.le_iff_toNat_le.mp upper
    omega
  have wordless : word (c :: rest) = none := by
    have first := different 'i' (by decide)
    have second := different 'n' (by decide)
    simp [word, small, first.symm, second.symm]
  rw [strtod, List.dropWhile_cons, space, if_neg (by decide), unsignedFront]
  simp only [wordless, Option.none_or, Bool.false_eq_true, ↓reduceIte]

theorem magnitude_decimal (c second : Char) (rest : Text) (unmarked : second ≠ 'x' ∧ second ≠ 'X') :
    magnitude (c :: second :: rest) = decimal (c :: second :: rest) := by
  unfold magnitude
  split
  · rename_i mark tail same
    obtain ⟨_, rfl, _⟩ := same
    rw [if_neg (not_or.mpr unmarked)]
  · rfl

theorem digit_unmarked (c : Char) (digit : c.isDigit = true) : c ≠ 'x' ∧ c ≠ 'X' := by
  constructor <;> (rintro rfl; revert digit; decide)

theorem take_digits (digits rest : Text) (all : digits.all Char.isDigit = true) (mark : Char) (other : mark.isDigit = false) :
    (digits ++ mark :: rest).takeWhile Char.isDigit = digits ∧ (digits ++ mark :: rest).dropWhile Char.isDigit = mark :: rest := by
  have every := List.all_eq_true.mp all
  constructor
  · rw [List.takeWhile_append_of_pos every, List.takeWhile_cons, other, if_neg (by decide), List.append_nil]
  · rw [List.dropWhile_append_of_pos every, List.dropWhile_cons, other, if_neg (by decide)]

theorem all_digits (digits : Text) (all : digits.all Char.isDigit = true) :
    digits.takeWhile Char.isDigit = digits ∧ digits.dropWhile Char.isDigit = [] := by
  have every := List.all_eq_true.mp all
  exact ⟨List.takeWhile_eq_self_iff.mpr every, List.dropWhile_eq_nil_iff.mpr every⟩

theorem decimal_whole (whole : Text) (all : whole.all Char.isDigit = true) (present : whole ≠ []) :
    decimal whole = some ((Decimal.value whole : ℚ), []) := by
  obtain ⟨taken, dropped⟩ := all_digits whole all
  simp [decimal, unsigned, mantissa, taken, dropped, present, exponent, positional_value whole all]

theorem decimal_point (whole fraction : Text) (all : whole.all Char.isDigit = true) (behind : fraction.all Char.isDigit = true)
    (present : whole ≠ []) :
    decimal (whole ++ '.' :: fraction) = some ((Decimal.value (whole ++ fraction) : ℚ) / 10 ^ fraction.length, []) := by
  obtain ⟨taken, dropped⟩ := take_digits whole fraction all '.' rfl
  obtain ⟨fractionTaken, fractionDropped⟩ := all_digits fraction behind
  have both : (whole ++ fraction).all Char.isDigit = true := by rw [List.all_append, all, behind, Bool.and_true]
  simp [decimal, unsigned, mantissa, taken, dropped, fractionTaken, fractionDropped, present, exponent, positional_value _ both]

theorem strtod_whole (whole : Text) (all : whole.all Char.isDigit = true) (present : whole ≠ []) :
    strtod whole = some (.finite (Decimal.value whole), []) := by
  have read := decimal_whole whole all present
  cases whole with
  | nil => exact absurd rfl present
  | cons c rest =>
    have digits := List.all_eq_true.mp all
    have same : magnitude (c :: rest) = decimal (c :: rest) := by
      cases rest with
      | nil =>
        unfold magnitude
        split
        · rename_i same
          cases same
        · rfl
      | cons second rest => exact magnitude_decimal c second rest (digit_unmarked second (digits second (by simp)))
    rw [strtod_digit c rest (digits c (by simp)), same, read]
    rfl

theorem strtod_point (whole fraction : Text) (all : whole.all Char.isDigit = true) (behind : fraction.all Char.isDigit = true)
    (present : whole ≠ []) :
    strtod (whole ++ '.' :: fraction) = some (.finite (Decimal.value (whole ++ fraction) / 10 ^ fraction.length), []) := by
  have read := decimal_point whole fraction all behind present
  cases whole with
  | nil => exact absurd rfl present
  | cons c rest =>
    have digits := List.all_eq_true.mp all
    have same : magnitude (c :: rest ++ '.' :: fraction) = decimal (c :: rest ++ '.' :: fraction) := by
      cases rest with
      | nil => exact magnitude_decimal c '.' fraction (by decide)
      | cons second rest => exact magnitude_decimal c second _ (digit_unmarked second (digits second (by simp)))
    rw [List.cons_append] at same read ⊢
    rw [strtod_digit c _ (digits c (by simp)), same, read]
    rfl

theorem strtod_integer (number : Nat) : strtod (printInteger number) = some (.finite number, []) := by
  have read := strtod_whole (Decimal.print number) (Decimal.print_digits number) (Decimal.print_present number)
  rw [Decimal.value_print] at read
  rw [printInteger, if_neg (by omega), Int.natAbs_natCast, read]

variable (places number : Nat)

theorem padded_digits : (padded places number).all Char.isDigit = true := by
  rw [padded, List.all_append, Decimal.print_digits, Bool.and_true, List.all_replicate]
  simp

theorem padded_length (positive : 0 < places) (fits : number < 10 ^ places) :
    (padded places number).length = places := by
  have short := (Decimal.print_length number places positive).mpr fits
  rw [padded, List.length_append, List.length_replicate]
  omega

theorem padded_value : Decimal.value (padded places number) = number := by
  rw [padded, Decimal.value, Nat.ofDigitChars_append, Nat.ofDigitChars_replicate_zero, Nat.mul_zero]
  exact Decimal.value_print number

theorem strtod_fixed (places : Nat) (positive : 0 < places) (value : ℚ) (nonneg : 0 ≤ value) :
    strtod (printFixed places value) = some (.finite (scaledDigits places value / 10 ^ places), []) := by
  have fits := Nat.mod_lt (scaledDigits places value) (show 0 < 10 ^ places by positivity)
  have read := strtod_point (Decimal.print (scaledDigits places value / 10 ^ places))
    (padded places (scaledDigits places value % 10 ^ places)) (Decimal.print_digits _) (padded_digits _ _) (Decimal.print_present _)
  have front := Decimal.value_print (scaledDigits places value / 10 ^ places)
  have behind := padded_value places (scaledDigits places value % 10 ^ places)
  rw [Decimal.value] at front behind
  rw [padded_length _ _ positive fits, Decimal.value, Nat.ofDigitChars_append, Nat.ofDigitChars_eq_ofDigitChars_zero,
    padded_length _ _ positive fits, front, behind, Nat.div_add_mod] at read
  rw [printFixed, if_neg (not_lt.mpr nonneg)]
  exact read

end EncosDriver.Lib.Numeral
