import Mathlib.Data.List.TakeWhile
import Mathlib.Data.UInt
import Mathlib.Tactic.Ring

set_option autoImplicit false

namespace EncosDriver.Lib.Hex

def isDigit (char : UInt8) : Bool := (48 ≤ char && char ≤ 57) || (65 ≤ char && char ≤ 70) || (97 ≤ char && char ≤ 102)

def digitValue (char : UInt8) : Nat :=
  if char ≤ 57 then char.toNat - 48 else if char ≤ 70 then char.toNat - 55 else char.toNat - 87

def digit (value : Nat) : UInt8 := if value < 10 then UInt8.ofNat (48 + value) else UInt8.ofNat (87 + value)

def lower (char : UInt8) : UInt8 := if 65 ≤ char ∧ char ≤ 70 then char + 32 else char

def value (digits : List UInt8) : Nat := digits.foldl (fun before char => before * 16 + digitValue char) 0

def text : Nat → Nat → List UInt8
  | 0, number => if number = 0 then [] else text 0 (number / 16) ++ [digit (number % 16)]
  | width + 1, number => text width (number / 16) ++ [digit (number % 16)]
termination_by width number => width + number
decreasing_by
  · omega
  · have shorter := Nat.div_le_self number 16
    omega

def isSpace (char : UInt8) : Bool := char = 32 || (9 ≤ char && char ≤ 13)

def sign (text : List UInt8) : Bool × List UInt8 :=
  match text with
  | 45 :: rest => (true, rest)
  | 43 :: rest => (false, rest)
  | _ => (false, text)

def skipPrefix (text : List UInt8) : List UInt8 :=
  match text with
  | 48 :: mark :: char :: rest => if (mark = 120 ∨ mark = 88) ∧ isDigit char then char :: rest else text
  | _ => text

def unsigned (text : List UInt8) : List UInt8 := (sign (text.dropWhile isSpace)).2

def magnitude (text : List UInt8) : List UInt8 := (skipPrefix (unsigned text)).takeWhile isDigit

-- The conversion of std::stoi with base sixteen; none stands for its exceptions.
def stoi (text : List UInt8) : Option Int :=
  let number : Int := if (sign (text.dropWhile isSpace)).1 then -(value (magnitude text) : Int) else value (magnitude text)
  if magnitude text = [] then none
  else if number < -2147483648 ∨ number > 2147483647 then none
  else some number

theorem byte_cases (property : UInt8 → Prop) (holds : ∀ index : Fin 256, property (UInt8.ofNat index.val)) (char : UInt8) :
    property char := by
  have value := holds ⟨char.toNat, char.toNat_lt⟩
  simpa only [UInt8.ofNat_toNat] using value

variable (char : UInt8)

theorem digit_value_bound : isDigit char = true → digitValue char < 16 :=
  byte_cases (fun char => isDigit char = true → digitValue char < 16) (by decide +kernel) char

theorem lower_digit : isDigit char = true → lower char = digit (digitValue char) :=
  byte_cases (fun char => isDigit char = true → lower char = digit (digitValue char)) (by decide +kernel) char

theorem digit_facts (number : Nat) (small : number < 16) :
    isDigit (digit number) = true ∧ digitValue (digit number) = number ∧ lower (digit number) = digit number := by
  have every : ∀ index : Fin 16, isDigit (digit index.val) = true ∧ digitValue (digit index.val) = index.val ∧
      lower (digit index.val) = digit index.val := by decide
  exact every ⟨number, small⟩

theorem lower_is_digit : isDigit (lower char) = isDigit char :=
  byte_cases (fun char => isDigit (lower char) = isDigit char) (by decide +kernel) char

theorem digit_not_space : isDigit char = true → isSpace char = false ∧ char ≠ 45 ∧ char ≠ 43 :=
  byte_cases (fun char => isDigit char = true → isSpace char = false ∧ char ≠ 45 ∧ char ≠ 43) (by decide +kernel) char

theorem value_append (front : List UInt8) (char : UInt8) : value (front ++ [char]) = value front * 16 + digitValue char := by
  simp [value]

variable (digits : List UInt8)

theorem value_bound (all : digits.all isDigit = true) : value digits < 16 ^ digits.length := by
  induction digits using List.reverseRecOn with
  | nil => simp [value]
  | append_singleton front char ih =>
    simp only [List.all_append, List.all_cons, List.all_nil, Bool.and_true, Bool.and_eq_true] at all
    have before := ih all.1
    have last := digit_value_bound char all.2
    rw [value_append, List.length_append, List.length_singleton, Nat.pow_succ]
    omega

variable (width number : Nat)

theorem text_digits : (text width number).all isDigit = true := by
  induction width, number using text.induct with
  | case1 => rw [text]; rfl
  | case2 number nonzero ih =>
    rw [text, if_neg nonzero, List.all_append, ih]
    simp [(digit_facts (number % 16) (Nat.mod_lt _ (by decide))).1]
  | case3 width number ih =>
    rw [text, List.all_append, ih]
    simp [(digit_facts (number % 16) (Nat.mod_lt _ (by decide))).1]

theorem value_text : value (text width number) = number := by
  induction width, number using text.induct with
  | case1 => rw [text]; rfl
  | case2 number nonzero ih =>
    rw [text, if_neg nonzero, value_append, ih, (digit_facts (number % 16) (Nat.mod_lt _ (by decide))).2.1]
    omega
  | case3 width number ih =>
    rw [text, value_append, ih, (digit_facts (number % 16) (Nat.mod_lt _ (by decide))).2.1]
    omega

theorem text_length (fits : number < 16 ^ width) : (text width number).length = width := by
  induction width generalizing number with
  | zero =>
    have zero : number = 0 := by simpa using fits
    subst zero
    rw [text]
    rfl
  | succ width ih =>
    rw [Nat.pow_succ] at fits
    rw [text, List.length_append, ih (number / 16) (Nat.div_lt_of_lt_mul (by omega))]
    rfl

theorem text_value (all : digits.all isDigit = true) : text digits.length (value digits) = digits.map lower := by
  induction digits using List.reverseRecOn with
  | nil => rw [List.length_nil, text]; rfl
  | append_singleton front char ih =>
    simp only [List.all_append, List.all_cons, List.all_nil, Bool.and_true, Bool.and_eq_true] at all
    have last := digit_value_bound char all.2
    have high : (value front * 16 + digitValue char) / 16 = value front := by omega
    have low : (value front * 16 + digitValue char) % 16 = digitValue char := by omega
    rw [value_append, List.length_append, List.length_singleton, text, high, low, ih all.1, ← lower_digit char all.2,
      List.map_append, List.map_singleton]

theorem all_lower : (digits.map lower).all isDigit = digits.all isDigit := by
  rw [List.all_map]
  congr 1
  funext char
  exact lower_is_digit char

def Lenient (text : List UInt8) : Bool :=
  match unsigned text with
  | char :: _ => isDigit char
  | [] => false

variable (text : List UInt8)

theorem magnitude_empty : magnitude text = [] ↔ Lenient text = false := by
  unfold magnitude Lenient skipPrefix
  cases body : unsigned text with
  | nil => simp
  | cons first rest =>
    have plain : (first :: rest).takeWhile isDigit = [] ↔ isDigit first = false := by
      rw [List.takeWhile_cons]
      split <;> simp_all
    split
    · rename_i mark char tail same
      cases same
      split
      · rename_i marked
        rw [List.takeWhile_cons, if_pos marked.2]
        have zero : isDigit 48 = true := rfl
        simp [zero]
      · exact plain
    · exact plain

theorem magnitude_digits (all : text.all isDigit = true) :
    unsigned text = text ∧ (sign (text.dropWhile isSpace)).1 = false ∧ magnitude text = text := by
  have blanks : text.dropWhile isSpace = text := by
    cases text with
    | nil => rfl
    | cons first rest =>
      simp only [List.all_cons, Bool.and_eq_true] at all
      simp [(digit_not_space first all.1).1]
  have noSign : sign text = (false, text) := by
    unfold sign
    split
    · exact absurd rfl (digit_not_space 45 (by simp_all)).2.1
    · exact absurd rfl (digit_not_space 43 (by simp_all)).2.2
    · rfl
  have noPrefix : skipPrefix text = text := by
    unfold skipPrefix
    split
    · rename_i mark char rest
      simp only [List.all_cons, Bool.and_eq_true] at all
      split
      · rename_i marked
        rcases marked.1 with rfl | rfl
        · exact absurd all.2.1 (by decide)
        · exact absurd all.2.1 (by decide)
      · rfl
    · rfl
  have whole : text.takeWhile isDigit = text := by
    have each : ∀ char ∈ text, isDigit char = true := List.all_eq_true.mp all
    exact List.takeWhile_eq_self_iff.mpr each
  refine ⟨?_, ?_, ?_⟩
  · rw [unsigned, blanks, noSign]
  · rw [blanks, noSign]
  · rw [magnitude, unsigned, blanks, noSign, noPrefix, whole]

theorem stoi_digits (all : text.all isDigit = true) (present : text ≠ [])
    (fits : value text ≤ 2147483647) : stoi text = some (value text : Int) := by
  obtain ⟨-, positive, whole⟩ := magnitude_digits text all
  simp only [stoi, positive, whole, present, ↓reduceIte, Bool.false_eq_true]
  rw [if_neg (by omega)]

theorem stoi_digits_range (all : text.all isDigit = true) (large : value text > 2147483647) : stoi text = none := by
  obtain ⟨-, positive, whole⟩ := magnitude_digits text all
  simp only [stoi, positive, whole, Bool.false_eq_true, ↓reduceIte]
  split
  · rfl
  · rw [if_pos (by omega)]

theorem magnitude_sublist : (magnitude text).Sublist text := by
  have signed : (sign (text.dropWhile isSpace)).2.Sublist (text.dropWhile isSpace) := by
    unfold sign
    split
    · rename_i rest same
      rw [same]
      exact List.sublist_cons_self _ _
    · rename_i rest same
      rw [same]
      exact List.sublist_cons_self _ _
    · exact List.Sublist.refl _
  have marked : (skipPrefix (unsigned text)).Sublist (unsigned text) := by
    unfold skipPrefix
    split
    · split
      · rename_i same _
        rw [same]
        exact (List.sublist_cons_self _ _).trans (List.sublist_cons_self _ _)
      · exact List.Sublist.refl _
    · exact List.Sublist.refl _
  exact (List.takeWhile_sublist isDigit).trans (marked.trans (signed.trans (List.dropWhile_sublist isSpace)))

theorem magnitude_all : (magnitude text).all isDigit = true := List.all_takeWhile

theorem magnitude_whole (long : text.length ≤ (magnitude text).length) : text.all isDigit = true := by
  have same := (magnitude_sublist text).eq_of_length_le long
  rw [← same]
  exact magnitude_all text

theorem stoi_converts (short : text.length ≤ 8) :
    (stoi text).isSome = true ↔ Lenient text = true ∧ ¬ (text.all isDigit = true ∧ value text > 2147483647) := by
  by_cases all : text.all isDigit = true
  · by_cases large : value text > 2147483647
    · simp [stoi_digits_range text all large, all, large]
    · by_cases empty : text = []
      · subst empty
        decide
      · have lenient : Lenient text = true := by
          cases found : Lenient text with
          | true => rfl
          | false =>
            have none := (magnitude_empty text).mpr found
            rw [(magnitude_digits text all).2.2] at none
            exact absurd none empty
        simp [stoi_digits text all empty (by omega), lenient, large]
  · have shorter : (magnitude text).length ≤ 7 := by
      by_contra long
      exact all (magnitude_whole text (by omega))
    have bound := value_bound (magnitude text) (magnitude_all text)
    have most : 16 ^ (magnitude text).length ≤ 16 ^ 7 := Nat.pow_le_pow_right (by decide) shorter
    have limit : 16 ^ 7 = 268435456 := rfl
    have inRange : ¬ ((if (sign (text.dropWhile isSpace)).1 then -(value (magnitude text) : Int) else value (magnitude text)) <
        -2147483648 ∨ (if (sign (text.dropWhile isSpace)).1 then -(value (magnitude text) : Int) else
          value (magnitude text)) > 2147483647) := by
      split <;> omega
    have empty := magnitude_empty text
    simp only [stoi, inRange, ↓reduceIte, all, false_and, not_false_eq_true, and_true, Bool.false_eq_true]
    cases found : Lenient text with
    | true =>
      have present : magnitude text ≠ [] := fun none => by simp [empty.mp none] at found
      simp [present]
    | false => simp [empty.mpr found]

end EncosDriver.Lib.Hex
