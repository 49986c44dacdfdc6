import EncosDriver.Lib.Decimal

set_option autoImplicit false

namespace EncosDriver.Ethernet

open Lib

-- One pass of the loop of ParseIPv4 over what is left of the text: the number up
-- to the next dot and what lies behind that dot. None stands for the exception.
def parsePart (last : Bool) (rest : List Char) : Option (UInt8 × List Char) :=
  let part := rest.takeWhile (· ≠ '.')
  let dotted := rest.contains '.'
  if part.isEmpty ∨ part.length > 3 ∨ ¬ part.all Char.isDigit ∨ (part.length > 1 ∧ part.head? = some '0') ∨
      (!last) = !dotted then none
  else if Decimal.value part > 255 then none
  else some (UInt8.ofNat (Decimal.value part), rest.drop (part.length + 1))

def parseIPv4 (text : List Char) : Option (Vector UInt8 4) := do
  let (first, rest) ← parsePart false text
  let (second, rest) ← parsePart false rest
  let (third, rest) ← parsePart false rest
  let (fourth, _) ← parsePart true rest
  return #v[first, second, third, fourth]

def formatIPv4 (bytes : Vector UInt8 4) : List Char :=
  Decimal.print bytes[0].toNat ++ '.' :: (Decimal.print bytes[1].toNat ++ '.' :: (Decimal.print bytes[2].toNat ++ '.' ::
    Decimal.print bytes[3].toNat))

theorem byte_print (byte : UInt8) :
    (Decimal.print byte.toNat).length ≤ 3 ∧ Decimal.value (Decimal.print byte.toNat) = byte.toNat :=
  ⟨(Decimal.print_length byte.toNat 3 (by decide)).mpr (by have := byte.toNat_lt; omega), Decimal.value_print _⟩

theorem parse_part_back (last : Bool) (byte : UInt8) (rest behind : List Char) (part : rest.takeWhile (· ≠ '.') =
    Decimal.print byte.toNat) (dotted : rest.contains '.' = !last) (dropped : rest.drop ((Decimal.print byte.toNat).length + 1) = behind) :
    parsePart last rest = some (byte, behind) := by
  obtain ⟨short, same⟩ := byte_print byte
  obtain ⟨present, digits, leading⟩ := (Decimal.canonical_checks _).mp (Decimal.canonical_print byte.toNat)
  have bound := byte.toNat_lt
  unfold parsePart
  dsimp only
  rw [part, dotted, dropped, if_neg, same, if_neg (by omega), UInt8.ofNat_toNat]
  rintro (empty | long | nondigit | zero | ending)
  · rw [present] at empty
    cases empty
  · omega
  · exact nondigit digits
  · exact leading zero
  · cases last <;> cases ending

theorem parse_part_forth (last : Bool) (rest behind : List Char) (byte : UInt8) (parsed : parsePart last rest = some (byte, behind)) :
    rest = if last then Decimal.print byte.toNat else Decimal.print byte.toNat ++ '.' :: behind := by
  unfold parsePart at parsed
  dsimp only at parsed
  split at parsed
  · cases parsed
  rename_i shaped
  split at parsed
  · cases parsed
  rename_i small
  cases parsed
  simp only [not_or, not_not] at shaped
  obtain ⟨present, _, digits, leading, ending⟩ := shaped
  have standard := (Decimal.canonical_checks (rest.takeWhile (· ≠ '.'))).mpr
    ⟨Bool.eq_false_iff.mpr present, digits, leading⟩
  have exact : (UInt8.ofNat (Decimal.value (rest.takeWhile (· ≠ '.')))).toNat = Decimal.value (rest.takeWhile (· ≠ '.')) :=
    UInt8.toNat_ofNat_of_lt' (by rw [UInt8.size]; omega)
  rw [exact, Decimal.print_value _ standard]
  cases last with
  | true =>
    have dotless : rest.contains '.' = false := by
      cases dotted : rest.contains '.' with
      | false => rfl
      | true => rw [dotted] at ending; exact absurd rfl ending
    rw [if_pos rfl, Decimal.uncut '.' rest dotless]
  | false =>
    have dotted : rest.contains '.' = true := by
      cases dotted : rest.contains '.' with
      | true => rfl
      | false => rw [dotted] at ending; exact absurd rfl ending
    rw [if_neg Bool.false_ne_true]
    exact Decimal.cut_at '.' rest dotted

theorem parse_dotted (byte : UInt8) (behind : List Char) :
    parsePart false (Decimal.print byte.toNat ++ '.' :: behind) = some (byte, behind) := by
  exact parse_part_back false byte _ behind (Decimal.cut_print '.' rfl byte.toNat behind) (by simp) (by simp)

theorem parse_last (byte : UInt8) : ∃ behind, parsePart true (Decimal.print byte.toNat) = some (byte, behind) := by
  have dotless := Decimal.print_unmarked '.' rfl byte.toNat
  exact ⟨_, parse_part_back true byte _ _ (Decimal.uncut '.' _ dotless) dotless rfl⟩

theorem parse_iff_format (text : List Char) (address : Vector UInt8 4) :
    parseIPv4 text = some address ↔ text = formatIPv4 address := by
  constructor
  · intro parsed
    simp only [parseIPv4, Option.bind_eq_bind, Option.bind_eq_some_iff, Prod.exists] at parsed
    obtain ⟨first, rest, parsedFirst, second, rest', parsedSecond, third, rest'', parsedThird, fourth, behind, parsedFourth,
      made⟩ := parsed
    cases made
    rw [parse_part_forth false _ _ _ parsedFirst, parse_part_forth false _ _ _ parsedSecond,
      parse_part_forth false _ _ _ parsedThird, parse_part_forth true _ _ _ parsedFourth]
    rfl
  · rintro rfl
    obtain ⟨behind, parsed⟩ := parse_last address[3]
    simp only [parseIPv4, formatIPv4, parse_dotted, parsed, Option.bind_eq_bind, Option.bind_some]
    refine congrArg some (Vector.ext fun index inside => ?_)
    match index, inside with
    | 0, _ => rfl
    | 1, _ => rfl
    | 2, _ => rfl
    | 3, _ => rfl

def Dotted (text : List Char) : Prop :=
  ∃ parts : Fin 4 → List Char, (∀ index, Decimal.canonical (parts index) = true ∧ Decimal.value (parts index) ≤ 255) ∧
    text = parts 0 ++ '.' :: (parts 1 ++ '.' :: (parts 2 ++ '.' :: parts 3))

theorem format_dotted (text : List Char) : (∃ address, text = formatIPv4 address) ↔ Dotted text := by
  constructor
  · rintro ⟨address, rfl⟩
    refine ⟨fun index => Decimal.print address[index].toNat, fun index => ⟨Decimal.canonical_print _, ?_⟩, rfl⟩
    have bound := address[index].toNat_lt
    rw [Decimal.value_print]
    omega
  · rintro ⟨parts, shaped, rfl⟩
    have printed (index : Fin 4) : Decimal.print (UInt8.ofNat (Decimal.value (parts index))).toNat = parts index := by
      rw [UInt8.toNat_ofNat_of_lt' (by have := (shaped index).2; rw [UInt8.size]; omega),
        Decimal.print_value _ (shaped index).1]
    refine ⟨Vector.ofFn fun index => UInt8.ofNat (Decimal.value (parts index)), ?_⟩
    simp only [formatIPv4, Vector.getElem_ofFn]
    exact (congrArg₂ (· ++ '.' :: ·) (printed 0) (congrArg₂ (· ++ '.' :: ·) (printed 1)
      (congrArg₂ (· ++ '.' :: ·) (printed 2) (printed 3)))).symm

theorem ipv4_text :
    (∀ text, (∃ address, parseIPv4 text = some address) ↔ Dotted text) ∧
      (∀ text address, parseIPv4 text = some address → formatIPv4 address = text) ∧
      ∀ address, parseIPv4 (formatIPv4 address) = some address := by
  refine ⟨?_, ?_, ?_⟩
  · intro text
    rw [← format_dotted]
    exact exists_congr fun address => parse_iff_format text address
  · exact fun text address parsed => ((parse_iff_format text address).mp parsed).symm
  · exact fun address => (parse_iff_format _ address).mpr rfl

theorem ipv4_text_sample : formatIPv4 #v[192, 168, 1, 10] = "192.168.1.10".toList :=
  ipv4_text.2.1 "192.168.1.10".toList #v[192, 168, 1, 10] (by decide)

end EncosDriver.Ethernet
