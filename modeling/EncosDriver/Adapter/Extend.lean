import EncosDriver.Lib.Decimal
import EncosDriver.Lib.Table
import Mathlib.Data.Nat.Bitwise
import Mathlib.Data.Char
import Mathlib.Data.List.Lex

set_option autoImplicit false

namespace EncosDriver.Adapter.Extend

open Lib

abbrev Text := List Char

inductive Json where
  | scalar (text : Text)
  | array (items : List Json)
  | object (members : List (Text × Json))

def collapse (members : List (Text × Json)) : Table Text Json := (∅ : Table Text Json).putAll members

def items (object : Table Text Json) : List (Text × Json) := object.toList.mergeSort fun first second => decide (first.1 ≤ second.1)

def kBusesKey : Text := "buses".toList
def kMaxSlave : Nat := 0x7FFF
def kMaxBus : Nat := 0xFF
def kMaxInt : Nat := 0x7FFFFFFF
def kMaxLongLong : Nat := 0x7FFFFFFFFFFFFFFF

inductive ExtendError where
  | notObject
  | busesNotObject
  | overridesNotObject (key : Text)
  | notInteger (key : Text)
  | notPair (key : Text)
  | outOfRange (key : Text)
  | repeated (key : Text)
  | overflow
deriving DecidableEq, Repr

def ExtendError.what : ExtendError → Option Text
  | .notObject => some "adapter extend configuration MUST be a JSON object".toList
  | .busesNotObject => some "adapter extend 'buses' MUST be a JSON object".toList
  | .overridesNotObject key => some ("adapter extend 'buses.".toList ++ key ++ "' MUST be a JSON object".toList)
  | .notInteger key => some ("adapter extend bus key '".toList ++ key ++ "' MUST be a non-negative decimal integer".toList)
  | .notPair key =>
    some ("adapter extend bus key '".toList ++ key ++ "' MUST be '<slave>:<bus>' or a bare runtime index".toList)
  | .outOfRange key => some ("adapter extend bus key '".toList ++ key ++ "' exceeds the encodable range".toList)
  | .repeated key => some ("adapter extend declares bus '".toList ++ key ++ "' more than once".toList)
  | .overflow => none

def packBus (slave bus : Nat) : Nat := (slave <<< 16) ||| (bus &&& 0xFFFF)

inductive Parsed where
  | value (number : Nat)
  | refused
  | overflow
deriving DecidableEq, Repr

def accumulate : Text → Nat → Parsed
  | [], accumulated => .value accumulated
  | digit :: rest, accumulated =>
    if digit < '0' ∨ digit > '9' then .refused
    else
      let next := accumulated * 10 + (digit.toNat - '0'.toNat)
      if next > kMaxLongLong then .overflow
      else if next > kMaxInt then .refused
      else accumulate rest next

def parseUnsigned (text : Text) : Parsed :=
  if text.isEmpty ∨ (text.length > 1 ∧ text.head? = some '0') then .refused else accumulate text 0

def encodable (key : Text) (slave bus : Nat) : Except ExtendError (Nat × Nat) :=
  if slave > kMaxSlave ∨ bus > kMaxBus then .error (.outOfRange key) else .ok (slave, bus)

def parseBusKey (key : Text) : Except ExtendError (Nat × Nat) :=
  if key.contains ':' = false then
    match parseUnsigned key with
    | .value index => encodable key (index >>> 16) (index &&& 0xFFFF)
    | .refused => .error (.notInteger key)
    | .overflow => .error .overflow
  else
    let first := key.takeWhile (· ≠ ':')
    let second := key.drop (first.length + 1)
    if second.contains ':' = true then .error (.notPair key)
    else
      match parseUnsigned first, parseUnsigned second with
      | .value slave, .value bus => encodable key slave bus
      | .overflow, _ => .error .overflow
      | .value _, .overflow => .error .overflow
      | _, _ => .error (.notPair key)

inductive ExtendText where
  | empty
  | malformed
  | document (json : Json)

structure AdapterExtend where
  common : Table Text Json := ∅
  busOverrides : Table Nat (Table Text Json) := ∅
  declaredBuses : List (Nat × Nat) := []

def addBus (result : AdapterExtend) (member : Text × Json) : Except ExtendError AdapterExtend :=
  match member.2 with
  | .object fields => do
      let bus ← parseBusKey member.1
      let index := packBus bus.1 bus.2
      if result.busOverrides.contains index = true then .error (.repeated member.1)
      else
        .ok { result with
          busOverrides := result.busOverrides.emplace index (collapse fields)
          declaredBuses := result.declaredBuses ++ [bus] }
  | _ => .error (.overridesNotObject member.1)

def addMember (result : AdapterExtend) (member : Text × Json) : Except ExtendError AdapterExtend :=
  if member.1 ≠ kBusesKey then .ok { result with common := result.common.put member.1 member.2 }
  else
    match member.2 with
    | .object buses => (items (collapse buses)).foldlM addBus result
    | _ => .error .busesNotObject

def parse : ExtendText → Except ExtendError AdapterExtend
  | .empty => .ok {}
  | .malformed => .error .notObject
  | .document (.object top) => (items (collapse top)).foldlM addMember {}
  | .document _ => .error .notObject

def AdapterExtend.scope (extend : AdapterExtend) (slave bus : Nat) : Table Text Json :=
  match extend.busOverrides.find (packBus slave bus) with
  | none => extend.common
  | some overrides => extend.common.putAll (items overrides)

theorem digit_range (c : Char) : ¬ (c < '0' ∨ c > '9') ↔ c.isDigit = true := by
  simp only [Char.isDigit, Bool.and_eq_true, decide_eq_true_eq, not_or, gt_iff_lt, Char.not_lt]
  rfl

variable (text : Text)

theorem accumulate_safe (accumulated : Nat) (small : accumulated ≤ kMaxInt) :
    accumulate text accumulated ≠ .overflow := by
  have int : kMaxInt = 2147483647 := rfl
  have longLong : kMaxLongLong = 9223372036854775807 := rfl
  induction text generalizing accumulated with
  | nil => nofun
  | cons digit rest ih =>
    unfold accumulate
    split
    · nofun
    · rename_i range
      obtain ⟨_, high⟩ := Decimal.digit_bounds digit ((digit_range digit).mp range)
      have zero : '0'.toNat = 48 := rfl
      dsimp only
      rw [if_neg (by omega)]
      split
      · nofun
      · exact ih _ (by omega)

theorem digits_grow (start : Nat) : start ≤ Nat.ofDigitChars 10 text start := by
  rw [Nat.ofDigitChars_eq_ofDigitChars_zero]
  have factor := Nat.le_mul_of_pos_left start (Nat.pow_pos (n := text.length) (show 0 < 10 by decide))
  omega

theorem accumulate_value (accumulated number : Nat) (small : accumulated ≤ kMaxInt) :
    accumulate text accumulated = .value number ↔
      text.all Char.isDigit = true ∧ number = Nat.ofDigitChars 10 text accumulated ∧ number ≤ kMaxInt := by
  have int : kMaxInt = 2147483647 := rfl
  have longLong : kMaxLongLong = 9223372036854775807 := rfl
  induction text generalizing accumulated with
  | nil =>
    simp only [accumulate, Parsed.value.injEq, List.all_nil, Nat.ofDigitChars_nil, true_and]
    constructor
    · rintro rfl
      exact ⟨rfl, small⟩
    · exact fun same => same.1.symm
  | cons digit rest ih =>
    rw [List.all_cons, Bool.and_eq_true, Nat.ofDigitChars_cons, Nat.mul_comm 10]
    unfold accumulate
    split
    · rename_i range
      refine ⟨nofun, fun shaped => absurd range ((digit_range digit).mpr shaped.1.1)⟩
    · rename_i range
      have isDigit := (digit_range digit).mp range
      obtain ⟨_, high⟩ := Decimal.digit_bounds digit isDigit
      have zero : '0'.toNat = 48 := rfl
      dsimp only
      rw [if_neg (by omega)]
      split
      · rename_i large
        refine ⟨nofun, fun shaped => ?_⟩
        have grown := digits_grow rest (accumulated * 10 + (digit.toNat - '0'.toNat))
        omega
      · have later := ih (accumulated * 10 + (digit.toNat - '0'.toNat)) (by omega)
        exact later.trans ⟨fun shaped => ⟨⟨isDigit, shaped.1⟩, shaped.2⟩, fun shaped => ⟨shaped.1.2, shaped.2⟩⟩

theorem parse_unsigned_safe : parseUnsigned text ≠ .overflow := by
  unfold parseUnsigned
  split
  · nofun
  · exact accumulate_safe text 0 (by decide)

theorem parse_unsigned_iff (number : Nat) :
    parseUnsigned text = .value number ↔ text = Decimal.print number ∧ number ≤ kMaxInt := by
  unfold parseUnsigned
  constructor
  · intro parsed
    split at parsed
    · cases parsed
    rename_i shaped
    obtain ⟨digits, value, bound⟩ := (accumulate_value text 0 number (by decide)).mp parsed
    rw [not_or, Bool.not_eq_true] at shaped
    have standard := (Decimal.canonical_checks text).mpr ⟨shaped.1, digits, shaped.2⟩
    refine ⟨?_, bound⟩
    rw [value]
    exact (Decimal.print_value text standard).symm
  · rintro ⟨rfl, bound⟩
    obtain ⟨present, _, leading⟩ := (Decimal.canonical_checks _).mp (Decimal.canonical_print number)
    rw [if_neg]
    · exact (accumulate_value _ 0 number (by decide)).mpr
        ⟨Decimal.print_digits number, (Decimal.value_print number).symm, bound⟩
    · rintro (empty | zero)
      · rw [present] at empty
        cases empty
      · exact leading zero

theorem pack_value (slave bus : Nat) (small : bus < 65536) : packBus slave bus = slave * 65536 + bus := by
  have mask : (0xFFFF : Nat) = 2 ^ 16 - 1 := by decide
  rw [packBus, mask, Nat.and_two_pow_sub_one_eq_mod, Nat.mod_eq_of_lt (by omega), Nat.shiftLeft_eq, Nat.mul_comm slave,
    ← Nat.two_pow_add_eq_or_of_lt (by omega)]

theorem unpack_value (index : Nat) : index >>> 16 = index / 65536 ∧ index &&& 0xFFFF = index % 65536 := by
  have mask : (0xFFFF : Nat) = 2 ^ 16 - 1 := by decide
  exact ⟨Nat.shiftRight_eq_div_pow index 16, by rw [mask, Nat.and_two_pow_sub_one_eq_mod]⟩

theorem encodable_iff (key : Text) (slave bus slave' bus' : Nat) :
    encodable key slave bus = .ok (slave', bus') ↔ slave ≤ kMaxSlave ∧ bus ≤ kMaxBus ∧ slave = slave' ∧ bus = bus' := by
  unfold encodable
  split
  · rename_i large
    exact ⟨nofun, fun shaped => absurd large (by omega)⟩
  · rename_i small
    simp only [Except.ok.injEq, Prod.mk.injEq]
    exact ⟨fun same => ⟨by omega, by omega, same⟩, fun shaped => shaped.2.2⟩

theorem parse_bus_key_safe (key : Text) : parseBusKey key ≠ .error .overflow := by
  have ranged (slave bus : Nat) : encodable key slave bus ≠ .error .overflow := by
    unfold encodable
    split <;> nofun
  unfold parseBusKey
  dsimp only
  split
  · split
    · exact ranged _ _
    · nofun
    · rename_i overflown
      exact absurd overflown (parse_unsigned_safe key)
  · split
    · nofun
    · split
      · exact ranged _ _
      · rename_i overflown
        exact absurd overflown (parse_unsigned_safe _)
      · rename_i overflown
        exact absurd overflown (parse_unsigned_safe _)
      · nofun

theorem parse_bus_key_iff (key : Text) (slave bus : Nat) : parseBusKey key = .ok (slave, bus) ↔
    slave ≤ kMaxSlave ∧ bus ≤ kMaxBus ∧
      (key = Decimal.print (slave * 65536 + bus) ∨ key = Decimal.print slave ++ ':' :: Decimal.print bus) := by
  have slaves : kMaxSlave = 32767 := rfl
  have buses : kMaxBus = 255 := rfl
  have int : kMaxInt = 2147483647 := rfl
  constructor
  · intro parsed
    unfold parseBusKey at parsed
    dsimp only at parsed
    split at parsed
    · rename_i bare
      split at parsed
      · rename_i index number
        obtain ⟨same, _⟩ := (parse_unsigned_iff key index).mp number
        obtain ⟨high, low⟩ := unpack_value index
        obtain ⟨slaveFits, busFits, slaveEq, busEq⟩ := (encodable_iff ..).mp parsed
        exact ⟨by omega, by omega, .inl (by rw [same]; congr 1; omega)⟩
      · cases parsed
      · cases parsed
    · rename_i marked
      split at parsed
      · cases parsed
      · split at parsed
        · rename_i first second firstParsed secondParsed
          obtain ⟨firstSame, _⟩ := (parse_unsigned_iff _ first).mp firstParsed
          obtain ⟨secondSame, _⟩ := (parse_unsigned_iff _ second).mp secondParsed
          obtain ⟨slaveFits, busFits, slaveEq, busEq⟩ := (encodable_iff ..).mp parsed
          have whole := Decimal.cut_at ':' key (Bool.not_eq_false _ ▸ marked)
          rw [secondSame, firstSame] at whole
          exact ⟨by omega, by omega, .inr (by rw [whole, slaveEq, busEq])⟩
        · cases parsed
        · cases parsed
        · cases parsed
  · rintro ⟨slaveFits, busFits, bare | pair⟩
    · have number := (parse_unsigned_iff key (slave * 65536 + bus)).mpr ⟨bare, by omega⟩
      have unmarked : key.contains ':' = false := bare ▸ Decimal.print_unmarked ':' rfl _
      obtain ⟨high, low⟩ := unpack_value (slave * 65536 + bus)
      rw [parseBusKey, if_pos unmarked, number]
      exact (encodable_iff ..).mpr ⟨by omega, by omega, by omega, by omega⟩
    · have first := Decimal.cut_print ':' rfl slave (Decimal.print bus)
      have second : key.drop ((Decimal.print slave).length + 1) = Decimal.print bus := by
        rw [pair]
        simp
      have marked : ¬ key.contains ':' = false := by
        rw [pair]
        simp
      have parsedSlave := (parse_unsigned_iff (Decimal.print slave) slave).mpr ⟨rfl, by omega⟩
      have parsedBus := (parse_unsigned_iff (Decimal.print bus) bus).mpr ⟨rfl, by omega⟩
      have alone : ¬ (Decimal.print bus).contains ':' = true := by
        rw [Decimal.print_unmarked ':' rfl bus]
        exact Bool.false_ne_true
      rw [← pair] at first
      rw [parseBusKey, if_neg marked]
      dsimp only
      rw [first, second, if_neg alone, parsedSlave, parsedBus]
      exact (encodable_iff ..).mpr ⟨slaveFits, busFits, rfl, rfl⟩

theorem pack_injective (first second : Text) (bus bus' : Nat × Nat) (parsed : parseBusKey first = .ok bus)
    (parsed' : parseBusKey second = .ok bus') : packBus bus.1 bus.2 = packBus bus'.1 bus'.2 ↔ bus = bus' := by
  have buses : kMaxBus = 255 := rfl
  obtain ⟨_, fits, _⟩ := (parse_bus_key_iff first bus.1 bus.2).mp parsed
  obtain ⟨_, fits', _⟩ := (parse_bus_key_iff second bus'.1 bus'.2).mp parsed'
  rw [pack_value _ _ (by omega), pack_value _ _ (by omega)]
  constructor
  · intro same
    exact Prod.ext (by omega) (by omega)
  · rintro rfl
    rfl

end EncosDriver.Adapter.Extend
