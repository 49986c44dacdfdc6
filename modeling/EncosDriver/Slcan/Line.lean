import EncosDriver.Lib.Hex
import EncosDriver.Message.Types

set_option autoImplicit false

namespace EncosDriver.Slcan

open Lib Message

def carriageReturn : UInt8 := 13
def lineFeed : UInt8 := 10

def commandType (extended rtr : Bool) : UInt8 := if extended then (if rtr then 82 else 84) else if rtr then 114 else 116

def idWidth (extended : Bool) : Nat := if extended then 8 else 3

def maxId (extended : Bool) : UInt32 := if extended then 0x1FFFFFFF else 0x7FF

def commandText (extended rtr : Bool) (id : UInt32) (len : UInt8) (data : List UInt8) : List UInt8 :=
  commandType extended rtr :: (Hex.text (idWidth extended) id.toNat ++ Hex.text 1 len.toNat ++
    if rtr then [] else (data.take len.toNat).flatMap fun byte => Hex.text 2 byte.toNat)

-- What Send writes to the serial port; none stands for a message that it drops.
def send (message : MotorMessage) : Option (List UInt8) :=
  let flags := sanitizeCanFrameFlags message.data.frameFlags
  let extended := canFrameFlagsUseExtendedId flags
  let rtr := canFrameFlagsUseRtr flags
  if canFrameFlagsHaveValidCanFdBits flags = false then none
  else if canFrameFlagsUseCanFd flags = true then none
  else if message.data.len > 8 then none
  else if message.data.id > maxId extended then none
  else some (commandText extended rtr message.data.id message.data.len message.data.data.toList ++ [carriageReturn])

def idField (extended : Bool) (line : List UInt8) : List UInt8 := (line.drop 1).take (idWidth extended)

def lenField (extended : Bool) (line : List UInt8) : List UInt8 := (line.drop (1 + idWidth extended)).take 1

def dataStart (extended : Bool) : Nat := 1 + idWidth extended + 1

def receiveData : Nat → List UInt8 → Option (List UInt8)
  | 0, _ => some []
  | count + 1, text => do
      let byte ← Hex.stoi (text.take 2)
      let bytes ← receiveData count (text.drop 2)
      return UInt8.ofInt byte :: bytes

-- ReceiveLine once the first character is known; none stands for a line that
-- delivers nothing.
def receiveFields (extended rtr : Bool) (line : List UInt8) : Option MotorMessage :=
  if line.length < dataStart extended then none
  else do
    let id ← Hex.stoi (idField extended line)
    let announced ← Hex.stoi (lenField extended line)
    let len := if announced > 8 then 8 else announced
    let dataLen := if rtr then 0 else len.toNat * 2
    if line.length < dataStart extended + dataLen then none
    else
      let data ← receiveData (if rtr then 0 else len.toNat) (line.drop (dataStart extended))
      return ⟨0, ⟨UInt32.ofInt id,
        sanitizeCanFrameFlags ((if extended then kCanFrameFlagEff else 0) ||| (if rtr then kCanFrameFlagRtr else 0)),
        UInt8.ofInt len, payload data⟩⟩

def receiveLine (line : List UInt8) : Option MotorMessage :=
  match line with
  | [] => none
  | type :: _ =>
    if type ≠ 116 ∧ type ≠ 114 ∧ type ≠ 84 ∧ type ≠ 82 then none
    else receiveFields (type = 84 || type = 82) (type = 114 || type = 82) line

def dataCount (extended rtr : Bool) (line : List UInt8) : Nat :=
  if rtr then 0 else min 8 (Hex.value (lenField extended line))

def dataFields : Nat → List UInt8 → List (List UInt8)
  | 0, _ => []
  | count + 1, text => text.take 2 :: dataFields count (text.drop 2)

def fields (extended rtr : Bool) (line : List UInt8) : List (List UInt8) :=
  idField extended line :: lenField extended line ::
    dataFields (dataCount extended rtr line) (line.drop (dataStart extended))

theorem single_value (field : List UInt8) (one : field.length = 1) (lenient : Hex.Lenient field = true) :
    field.all Hex.isDigit = true ∧ Hex.value field < 16 := by
  obtain ⟨char, rfl⟩ := List.length_eq_one_iff.mp one
  have every := Hex.byte_cases (fun char => Hex.Lenient [char] = true → [char].all Hex.isDigit = true) (by decide +kernel) char
  have digits := every lenient
  exact ⟨digits, Hex.value_bound [char] digits⟩

variable (extended : Bool) (line : List UInt8)

theorem len_field_length (long : dataStart extended ≤ line.length) : (lenField extended line).length = 1 := by
  unfold dataStart at long
  simp only [lenField, List.length_take, List.length_drop]
  omega

theorem id_field_length (long : dataStart extended ≤ line.length) : (idField extended line).length = idWidth extended := by
  unfold dataStart at long
  simp only [idField, List.length_take, List.length_drop]
  omega

theorem receive_data_converts (count : Nat) (text : List UInt8) :
    (receiveData count text).isSome = true ↔ ∀ field ∈ dataFields count text, Hex.Lenient field = true := by
  induction count generalizing text with
  | zero => simp [receiveData, dataFields]
  | succ count ih =>
    have short : (text.take 2).length ≤ 2 := List.length_take_le _ _
    have converts := Hex.stoi_converts (text.take 2) (by omega)
    have small : ¬ ((text.take 2).all Hex.isDigit = true ∧ Hex.value (text.take 2) > 2147483647) := by
      rintro ⟨all, large⟩
      have bound := Hex.value_bound (text.take 2) all
      have most : 16 ^ (text.take 2).length ≤ 16 ^ 2 := Nat.pow_le_pow_right (by decide) short
      omega
    have first : (Hex.stoi (text.take 2)).isSome = true ↔ Hex.Lenient (text.take 2) = true := by
      rw [converts]
      exact and_iff_left small
    have rest := ih (text.drop 2)
    rw [dataFields, List.forall_mem_cons, ← first, ← rest, receiveData]
    cases Hex.stoi (text.take 2) with
    | none => simp
    | some byte => cases receiveData count (text.drop 2) <;> simp

def lineFlags (extended rtr : Bool) : UInt8 :=
  sanitizeCanFrameFlags ((if extended then kCanFrameFlagEff else 0) ||| (if rtr then kCanFrameFlagRtr else 0))

def Complete (extended rtr : Bool) (line : List UInt8) : Prop :=
  dataStart extended ≤ line.length ∧ dataStart extended + dataCount extended rtr line * 2 ≤ line.length

theorem len_converted (announced : Int) (long : dataStart extended ≤ line.length)
    (converted : Hex.stoi (lenField extended line) = some announced) :
    (lenField extended line).all Hex.isDigit = true ∧ Hex.value (lenField extended line) < 16 ∧
      announced = Hex.value (lenField extended line) := by
  have one := len_field_length extended line long
  have converts := (Hex.stoi_converts (lenField extended line) (by omega)).mp (by rw [converted]; rfl)
  obtain ⟨digits, small⟩ := single_value _ one converts.1
  have present : lenField extended line ≠ [] := by
    intro empty
    rw [empty] at one
    cases one
  have value := Hex.stoi_digits _ digits present (by omega)
  rw [converted, Option.some.injEq] at value
  exact ⟨digits, small, value⟩

theorem byte_of_nat (number : Nat) : UInt8.ofInt number = UInt8.ofNat number := by
  have reduced : ((number : Int) % 2 ^ 8).toNat = number % 2 ^ 8 := by omega
  apply UInt8.toNat_inj.mp
  rw [UInt8.ofInt, reduced, UInt8.toNat_ofNat', UInt8.toNat_ofNat', Nat.mod_mod]

variable (extended rtr : Bool) (line : List UInt8) (message : MotorMessage)

theorem receive_fields_iff :
    receiveFields extended rtr line = some message ↔
      Complete extended rtr line ∧ Hex.Lenient (lenField extended line) = true ∧
      ∃ id bytes, Hex.stoi (idField extended line) = some id ∧
        receiveData (dataCount extended rtr line) (line.drop (dataStart extended)) = some bytes ∧
        message = ⟨0, ⟨UInt32.ofInt id, lineFlags extended rtr,
          UInt8.ofNat (min 8 (Hex.value (lenField extended line))), payload bytes⟩⟩ := by
  unfold receiveFields Complete
  split
  · rename_i short
    exact ⟨nofun, fun held => absurd held.1.1 (by omega)⟩
  rename_i long
  have longer : dataStart extended ≤ line.length := by omega
  cases convertedId : Hex.stoi (idField extended line) with
  | none =>
    constructor
    · nofun
    · rintro ⟨-, -, id, bytes, found, -⟩
      cases found
  | some id =>
    have one := len_field_length extended line longer
    cases converted : Hex.stoi (lenField extended line) with
    | none =>
      constructor
      · nofun
      · rintro ⟨-, lenient, -⟩
        obtain ⟨digits, small⟩ := single_value _ one lenient
        have converts := (Hex.stoi_converts (lenField extended line) (by omega)).mpr ⟨lenient, by omega⟩
        rw [converted] at converts
        cases converts
    | some announced =>
      obtain ⟨digits, small, same⟩ := len_converted extended line announced longer converted
      have lenient := ((Hex.stoi_converts (lenField extended line) (by omega)).mp (by rw [converted]; rfl)).1
      have len : (if announced > 8 then 8 else announced) = ((min 8 (Hex.value (lenField extended line)) : Nat) : Int) := by
        split <;> omega
      have count : (if rtr then 0 else min 8 (Hex.value (lenField extended line))) = dataCount extended rtr line := rfl
      have size : (if rtr then 0 else min 8 (Hex.value (lenField extended line)) * 2) = dataCount extended rtr line * 2 := by
        unfold dataCount
        split <;> omega
      simp only [Option.bind_eq_bind, Option.bind_some, len, Int.toNat_natCast, count, size, byte_of_nat]
      split
      · rename_i short
        exact ⟨nofun, fun held => absurd held.1.2 (by omega)⟩
      · rename_i enough
        constructor
        · intro delivered
          obtain ⟨bytes, read, made⟩ := Option.bind_eq_some_iff.mp delivered
          exact ⟨⟨longer, by omega⟩, lenient, id, bytes, rfl, read, (Option.some.inj made).symm⟩
        · rintro ⟨-, -, other, bytes, found, read, rfl⟩
          cases found
          rw [read]
          rfl

structure WellFormed (extended rtr : Bool) (line : List UInt8) : Prop where
  digits : ∀ field ∈ fields extended rtr line, field.all Hex.isDigit = true
  len : Hex.value (lenField extended line) ≤ 8
  id : Hex.value (idField extended line) ≤ (maxId extended).toNat

-- The conversions of all fields succeed: each starts with a digit behind blanks
-- and a sign, and the identifier is not eight digits of a value that an int
-- cannot hold.
def Converts (extended rtr : Bool) (line : List UInt8) : Prop :=
  (∀ field ∈ fields extended rtr line, Hex.Lenient field = true) ∧
    ¬ ((idField extended line).all Hex.isDigit = true ∧ Hex.value (idField extended line) > 2147483647)

def Slips (line : List UInt8) : Prop :=
  ∃ extended rtr, line.head? = some (commandType extended rtr) ∧ Complete extended rtr line ∧
    Converts extended rtr line ∧ ¬ WellFormed extended rtr line

def Equivalent (line command : List UInt8) : Prop :=
  ∃ type body rest, line = type :: (body ++ rest) ∧ command = type :: body.map Hex.lower ++ [carriageReturn]

def Faithful (line : List UInt8) : Prop :=
  ∀ message, receiveLine line = some message →
    ∃ extended rtr command, line.head? = some (commandType extended rtr) ∧ WellFormed extended rtr line ∧
      send message = some command ∧ Equivalent line command

theorem command_type_cases (type : UInt8) (known : ¬ (type ≠ 116 ∧ type ≠ 114 ∧ type ≠ 84 ∧ type ≠ 82)) :
    type = commandType (type = 84 || type = 82) (type = 114 || type = 82) := by
  simp only [ne_eq, not_and, not_not] at known
  by_cases t : type = 116
  · subst t
    rfl
  by_cases r : type = 114
  · subst r
    rfl
  by_cases extendedT : type = 84
  · subst extendedT
    rfl
  rw [known t r extendedT]
  rfl

theorem receive_line_iff (line : List UInt8) (message : MotorMessage) : receiveLine line = some message ↔
    ∃ extended rtr, line.head? = some (commandType extended rtr) ∧ receiveFields extended rtr line = some message := by
  unfold receiveLine
  cases line with
  | nil => exact ⟨nofun, fun ⟨_, _, empty, _⟩ => by cases empty⟩
  | cons type rest =>
    dsimp only
    split
    · rename_i unknown
      refine ⟨nofun, ?_⟩
      rintro ⟨extended, rtr, first, -⟩
      cases first
      cases extended <;> cases rtr <;> exact absurd unknown (by decide)
    · rename_i known
      constructor
      · intro received
        exact ⟨_, _, congrArg some (command_type_cases type known), received⟩
      · rintro ⟨extended, rtr, first, received⟩
        cases first
        cases extended <;> cases rtr <;> exact received

theorem delivered_iff (extended rtr : Bool) (line : List UInt8) :
    (receiveFields extended rtr line).isSome = true ↔ Complete extended rtr line ∧ Converts extended rtr line := by
  have data := receive_data_converts (dataCount extended rtr line) (line.drop (dataStart extended))
  rw [Option.isSome_iff_exists] at data
  rw [Option.isSome_iff_exists, Converts, fields, List.forall_mem_cons, List.forall_mem_cons, ← data]
  constructor
  · rintro ⟨message, delivered⟩
    obtain ⟨complete, len, id, bytes, converted, read, -⟩ := (receive_fields_iff extended rtr line message).mp delivered
    have short : (idField extended line).length ≤ 8 := by
      rw [id_field_length extended line complete.1]
      cases extended <;> decide
    have lenient := (Hex.stoi_converts _ short).mp (by rw [converted]; rfl)
    exact ⟨complete, ⟨lenient.1, len, bytes, read⟩, lenient.2⟩
  · rintro ⟨complete, ⟨lenient, len, bytes, read⟩, inRange⟩
    have short : (idField extended line).length ≤ 8 := by
      rw [id_field_length extended line complete.1]
      cases extended <;> decide
    have converts := (Hex.stoi_converts _ short).mpr ⟨lenient, inRange⟩
    obtain ⟨id, converted⟩ := Option.isSome_iff_exists.mp converts
    exact ⟨_, (receive_fields_iff extended rtr line _).mpr ⟨complete, len, id, bytes, converted, read, rfl⟩⟩

theorem read_written (count : Nat) (text bytes : List UInt8)
    (digits : ∀ field ∈ dataFields count text, field.all Hex.isDigit = true) (long : count * 2 ≤ text.length)
    (read : receiveData count text = some bytes) : bytes.length = count ∧
      (bytes.flatMap fun byte => Hex.text 2 byte.toNat) = (text.take (count * 2)).map Hex.lower := by
  induction count generalizing text bytes with
  | zero =>
    cases read
    simp
  | succ count ih =>
    rw [dataFields, List.forall_mem_cons] at digits
    obtain ⟨first, others⟩ := digits
    have two : (text.take 2).length = 2 := by
      rw [List.length_take]
      omega
    have bound := Hex.value_bound (text.take 2) first
    rw [two] at bound
    have present : text.take 2 ≠ [] := by
      intro empty
      rw [empty] at two
      cases two
    have converted := Hex.stoi_digits (text.take 2) first present (by omega)
    simp only [receiveData, converted, Option.bind_eq_bind, Option.bind_some] at read
    obtain ⟨following, remaining, made⟩ := Option.bind_eq_some_iff.mp read
    cases made
    obtain ⟨counted, written⟩ := ih (text.drop 2) following others (by rw [List.length_drop]; omega) remaining
    have byte : (UInt8.ofInt (Hex.value (text.take 2) : Int)).toNat = Hex.value (text.take 2) := by
      rw [byte_of_nat, UInt8.toNat_ofNat_of_lt' (by have size : UInt8.size = 256 := rfl; omega)]
    have same := Hex.text_value (text.take 2) first
    rw [two] at same
    have split : (count + 1) * 2 = 2 + count * 2 := by omega
    refine ⟨by rw [List.length_cons, counted], ?_⟩
    rw [List.flatMap_cons, byte, same, written, split, List.take_add, List.map_append]

theorem payload_take (bytes : List UInt8) (count : Nat) (counted : bytes.length = count) (fits : count ≤ 8) :
    (payload bytes).toList.take count = bytes := by
  apply List.ext_getElem
  · rw [List.length_take, Vector.length_toList]
    omega
  · intro index inside within
    simp [payload, within]

theorem line_flags_facts (extended rtr : Bool) :
    canFrameFlagsHaveValidCanFdBits (lineFlags extended rtr) = true ∧ canFrameFlagsUseCanFd (lineFlags extended rtr) = false ∧
      canFrameFlagsUseExtendedId (lineFlags extended rtr) = extended ∧ canFrameFlagsUseRtr (lineFlags extended rtr) = rtr ∧
      sanitizeCanFrameFlags (lineFlags extended rtr) = lineFlags extended rtr := by
  cases extended <;> cases rtr <;> decide

theorem send_line_flags (extended rtr : Bool) (bus : Int32) (id : UInt32) (len : UInt8) (data : Vector UInt8 8) :
    send ⟨bus, ⟨id, lineFlags extended rtr, len, data⟩⟩ =
      if len > 8 then none else if id > maxId extended then none
      else some (commandText extended rtr id len data.toList ++ [carriageReturn]) := by
  obtain ⟨valid, plain, wide, remote, clean⟩ := line_flags_facts extended rtr
  simp only [send, clean, valid, plain, wide, remote, Bool.true_eq_false, Bool.false_eq_true, ↓reduceIte]

theorem line_split (extended : Bool) (line : List UInt8) (size : Nat) :
    (line.drop 1).take (idWidth extended + 1 + size) =
      idField extended line ++ lenField extended line ++ (line.drop (dataStart extended)).take size := by
  rw [List.take_add, List.take_add, List.drop_drop, List.drop_drop]
  rfl

theorem well_formed_sent (starts : line.head? = some (commandType extended rtr)) (formed : WellFormed extended rtr line)
    (delivered : receiveFields extended rtr line = some message) :
    ∃ command, send message = some command ∧ Equivalent line command := by
  obtain ⟨complete, -, id, bytes, converted, read, rfl⟩ := (receive_fields_iff extended rtr line message).mp delivered
  have fieldsDigits := formed.digits
  rw [fields, List.forall_mem_cons, List.forall_mem_cons] at fieldsDigits
  obtain ⟨idDigits, lenDigits, dataDigits⟩ := fieldsDigits
  have idLength := id_field_length extended line complete.1
  have lenLength := len_field_length extended line complete.1
  have most : (maxId extended).toNat ≤ 2147483647 := by cases extended <;> decide
  have idBound := formed.id
  have lenBound := formed.len
  have present : idField extended line ≠ [] := by
    intro empty
    rw [empty] at idLength
    cases extended <;> cases idLength
  rw [Hex.stoi_digits _ idDigits present (by omega), Option.some.injEq] at converted
  have idValue : (UInt32.ofInt id).toNat = Hex.value (idField extended line) := by
    have reduced : ((Hex.value (idField extended line) : Int) % 2 ^ 32).toNat = Hex.value (idField extended line) := by omega
    rw [← converted, UInt32.ofInt, reduced,
      UInt32.toNat_ofNat_of_lt' (by have size : UInt32.size = 4294967296 := rfl; omega)]
  have lenValue : (UInt8.ofNat (min 8 (Hex.value (lenField extended line)))).toNat = Hex.value (lenField extended line) := by
    rw [Nat.min_eq_right lenBound, UInt8.toNat_ofNat_of_lt' (by have size : UInt8.size = 256 := rfl; omega)]
  have fits : ¬ UInt8.ofNat (min 8 (Hex.value (lenField extended line))) > 8 := by
    rw [gt_iff_lt, UInt8.lt_iff_toNat_lt, lenValue]
    exact Nat.not_lt.mpr lenBound
  have inRange : ¬ UInt32.ofInt id > maxId extended := by
    rw [gt_iff_lt, UInt32.lt_iff_toNat_lt, idValue]
    exact Nat.not_lt.mpr idBound
  have longData : dataCount extended rtr line * 2 ≤ (line.drop (dataStart extended)).length := by
    have enough := complete.2
    rw [List.length_drop]
    omega
  obtain ⟨counted, written⟩ := read_written _ _ bytes dataDigits longData read
  have idText := Hex.text_value _ idDigits
  have lenText := Hex.text_value _ lenDigits
  have data : (if rtr then [] else ((payload bytes).toList.take (Hex.value (lenField extended line))).flatMap
      fun byte => Hex.text 2 byte.toNat) =
      ((line.drop (dataStart extended)).take (dataCount extended rtr line * 2)).map Hex.lower := by
    cases rtr with
    | true => rfl
    | false =>
      have count : dataCount extended false line = Hex.value (lenField extended line) := Nat.min_eq_right lenBound
      rw [count] at counted written ⊢
      rw [if_neg (by decide), payload_take bytes _ counted lenBound, written]
  rw [idLength] at idText
  rw [lenLength] at lenText
  refine ⟨_, by rw [send_line_flags, if_neg fits, if_neg inRange], ?_⟩
  refine ⟨commandType extended rtr, (line.drop 1).take (idWidth extended + 1 + dataCount extended rtr line * 2),
    (line.drop 1).drop (idWidth extended + 1 + dataCount extended rtr line * 2), ?_, ?_⟩
  · rw [List.take_append_drop]
    cases line with
    | nil => cases starts
    | cons first rest =>
      cases starts
      rfl
  · rw [commandText, idValue, lenValue, data, idText, lenText, line_split, List.map_append, List.map_append]

theorem field_of_text (field : List UInt8) (width number : Nat) (same : field.map Hex.lower = Hex.text width number) :
    field.all Hex.isDigit = true ∧ Hex.value field = number := by
  have digits : field.all Hex.isDigit = true := by
    rw [← Hex.all_lower, same]
    exact Hex.text_digits width number
  have values := congrArg Hex.value ((Hex.text_value field digits).trans same)
  rw [Hex.value_text, Hex.value_text] at values
  exact ⟨digits, values⟩

theorem data_fields_digits (count : Nat) (text : List UInt8) (digits : (text.take (count * 2)).all Hex.isDigit = true) :
    ∀ field ∈ dataFields count text, field.all Hex.isDigit = true := by
  induction count generalizing text with
  | zero => nofun
  | succ count ih =>
    have split : (count + 1) * 2 = 2 + count * 2 := by omega
    rw [split, List.take_add, List.all_append, Bool.and_eq_true] at digits
    rw [dataFields, List.forall_mem_cons]
    exact ⟨digits.1, ih (text.drop 2) digits.2⟩

theorem data_text_digits (data : List UInt8) : (data.flatMap fun byte => Hex.text 2 byte.toNat).all Hex.isDigit = true := by
  induction data with
  | nil => rfl
  | cons byte rest ih => rw [List.flatMap_cons, List.all_append, Hex.text_digits, ih]; rfl

theorem data_text_length (data : List UInt8) : (data.flatMap fun byte => Hex.text 2 byte.toNat).length = data.length * 2 := by
  induction data with
  | nil => rfl
  | cons byte rest ih =>
    have small := byte.toNat_lt
    rw [List.flatMap_cons, List.length_append, Hex.text_length 2 byte.toNat (by omega), ih, List.length_cons]
    omega

theorem sent_well_formed (extended rtr : Bool) (line command : List UInt8) (message : MotorMessage)
    (starts : line.head? = some (commandType extended rtr))
    (delivered : receiveFields extended rtr line = some message) (sent : send message = some command)
    (equivalent : Equivalent line command) : WellFormed extended rtr line := by
  obtain ⟨complete, lenLenient, id, bytes, -, -, rfl⟩ := (receive_fields_iff extended rtr line message).mp delivered
  rw [send_line_flags] at sent
  split at sent
  · cases sent
  rename_i fits
  split at sent
  · cases sent
  rename_i inRange
  obtain ⟨type, body, rest, rfl, written⟩ := equivalent
  cases sent
  simp only [commandText, List.cons_append, List.cons.injEq] at written
  obtain ⟨-, written⟩ := written
  have bodyText := (List.append_cancel_right written).symm
  obtain ⟨front, dataText, rfl, frontText, dataSame⟩ := List.map_eq_append_iff.mp bodyText
  obtain ⟨idText, lenText, rfl, idSame, lenSame⟩ := List.map_eq_append_iff.mp frontText
  have lenSmall : (UInt8.ofNat (min 8 (Hex.value (lenField extended (type :: (idText ++ lenText ++ dataText ++ rest)))))).toNat ≤ 8 :=
    Nat.le_of_not_lt fun large => fits (UInt8.lt_iff_toNat_lt.mpr large)
  have idSmall : (UInt32.ofInt id).toNat ≤ (maxId extended).toNat :=
    Nat.le_of_not_lt fun large => inRange (UInt32.lt_iff_toNat_lt.mpr large)
  have widths : (maxId extended).toNat < 16 ^ idWidth extended := by cases extended <;> decide
  have idLength : idText.length = idWidth extended := by
    rw [← List.length_map Hex.lower, idSame, Hex.text_length _ _ (Nat.lt_of_le_of_lt idSmall widths)]
  have lenLength : lenText.length = 1 := by
    rw [← List.length_map Hex.lower, lenSame, Hex.text_length 1 _ (by omega)]
  have idFieldSame : idField extended (type :: (idText ++ lenText ++ dataText ++ rest)) = idText := by
    rw [idField, List.drop_one, List.tail_cons, ← idLength, List.append_assoc, List.append_assoc, List.take_left]
  have lenFieldSame : lenField extended (type :: (idText ++ lenText ++ dataText ++ rest)) = lenText := by
    rw [lenField, Nat.add_comm, List.drop_succ_cons, ← idLength, List.append_assoc, List.append_assoc, List.drop_left,
      ← lenLength, List.take_left]
  have dataSame' : (type :: (idText ++ lenText ++ dataText ++ rest)).drop (dataStart extended) = dataText ++ rest := by
    have start : dataStart extended = (idText ++ lenText).length + 1 := by
      rw [List.length_append, idLength, lenLength, dataStart]
      omega
    rw [start, List.drop_succ_cons, List.append_assoc, List.drop_left]
  obtain ⟨idDigits, idValue⟩ := field_of_text _ _ _ idSame
  obtain ⟨lenDigits, lenValue⟩ := field_of_text _ _ _ lenSame
  rw [lenFieldSame] at lenSmall lenValue dataSame
  have lenBound : Hex.value lenText ≤ 8 := by omega
  have dataDigits : dataText.all Hex.isDigit = true := by
    rw [← Hex.all_lower, dataSame]
    split
    · rfl
    · exact data_text_digits _
  have covered : dataText.length = dataCount extended rtr (type :: (idText ++ lenText ++ dataText ++ rest)) * 2 := by
    rw [← List.length_map Hex.lower, dataSame, dataCount, lenFieldSame]
    split
    · rfl
    · rw [data_text_length, ← lenValue, List.length_take, Vector.length_toList, Nat.min_comm]
  refine ⟨?_, ?_, ?_⟩
  · rw [fields, List.forall_mem_cons, List.forall_mem_cons, idFieldSame, lenFieldSame, dataSame']
    refine ⟨idDigits, lenDigits, data_fields_digits _ _ ?_⟩
    rw [← covered, List.take_left]
    exact dataDigits
  · rw [lenFieldSame]
    exact lenBound
  · rw [idFieldSame, idValue]
    exact idSmall

theorem well_formed_iff_sent
    (starts : line.head? = some (commandType extended rtr)) (delivered : receiveFields extended rtr line = some message) :
    WellFormed extended rtr line ↔ ∃ command, send message = some command ∧ Equivalent line command :=
  ⟨fun formed => well_formed_sent extended rtr line message starts formed delivered,
    fun ⟨command, sent, equivalent⟩ => sent_well_formed extended rtr line command message starts delivered sent equivalent⟩

theorem command_type_injective (extended rtr otherExtended otherRtr : Bool)
    (same : commandType extended rtr = commandType otherExtended otherRtr) : extended = otherExtended ∧ rtr = otherRtr := by
  revert extended rtr otherExtended otherRtr
  decide

theorem receive_faithful_iff (line : List UInt8) : Faithful line ↔ ¬ Slips line := by
  constructor
  · rintro faithful ⟨extended, rtr, starts, complete, converts, malformed⟩
    obtain ⟨message, delivered⟩ := Option.isSome_iff_exists.mp ((delivered_iff extended rtr line).mpr ⟨complete, converts⟩)
    obtain ⟨_, _, command, again, formed, -⟩ :=
      faithful message ((receive_line_iff line message).mpr ⟨extended, rtr, starts, delivered⟩)
    obtain ⟨rfl, rfl⟩ := command_type_injective _ _ _ _ (Option.some.inj (starts.symm.trans again))
    exact malformed formed
  · intro clean message received
    obtain ⟨extended, rtr, starts, delivered⟩ := (receive_line_iff line message).mp received
    obtain ⟨complete, converts⟩ := (delivered_iff extended rtr line).mp (by rw [delivered]; rfl)
    have formed : WellFormed extended rtr line := by
      by_contra malformed
      exact clean ⟨extended, rtr, starts, complete, converts, malformed⟩
    obtain ⟨command, sent, equivalent⟩ := (well_formed_iff_sent extended rtr line message starts delivered).mp formed
    exact ⟨extended, rtr, command, starts, formed, sent, equivalent⟩

def wideLine : List UInt8 := [116, 70, 70, 70, 48]

theorem wide_line_delivered :
    ∃ message, receiveLine wideLine = some message ∧ message.data.id = 0xFFF ∧ message.data.frameFlags = 0 ∧
      send message = none ∧ ¬ Faithful wideLine := by
  have received : receiveLine wideLine = some ⟨0, ⟨0xFFF, 0, 0, payload []⟩⟩ := by decide +kernel
  have refused : send ⟨0, ⟨0xFFF, 0, 0, payload []⟩⟩ = none := by decide
  refine ⟨_, received, rfl, rfl, refused, ?_⟩
  intro faithful
  obtain ⟨_, _, command, -, -, sent, -⟩ := faithful _ received
  rw [refused] at sent
  cases sent

end EncosDriver.Slcan
