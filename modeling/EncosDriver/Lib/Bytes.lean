import Mathlib.Tactic.IntervalCases
import Mathlib.Tactic.Ring

set_option autoImplicit false

namespace EncosDriver.Lib

-- Bytes are read off the front of what is left unread. An access beyond the last
-- byte is a fault of its own, so that a reader which never makes one can be told
-- from one that refuses.
inductive ReadFault where
  | pastEnd
  | refused
deriving DecidableEq, Repr

theorem bind_ok {Fault First Second : Type} (first : Except Fault First) (next : First → Except Fault Second) (result : Second) :
    (first >>= next) = .ok result ↔ ∃ value, first = .ok value ∧ next value = .ok result := by
  cases first with
  | error fault => simp [bind, Except.bind]
  | ok value => simp [bind, Except.bind]

@[simp] theorem ok_bind {Fault First Second : Type} (value : First) (next : First → Except Fault Second) :
    ((.ok value : Except Fault First) >>= next) = next value := rfl

@[simp] theorem error_bind {Fault First Second : Type} (fault : Fault) (next : First → Except Fault Second) :
    ((.error fault : Except Fault First) >>= next) = .error fault := rfl

structure Codec (Value : Type) where
  width : Nat
  write : Value → List UInt8
  read : List UInt8 → Except ReadFault (Value × List UInt8)
  writes : ∀ value, (write value).length = width
  back : ∀ value rest, read (write value ++ rest) = .ok (value, rest)
  forth : ∀ unread value rest, read unread = .ok (value, rest) → unread = write value ++ rest
  inside : ∀ unread, width ≤ unread.length → ∃ value rest, read unread = .ok (value, rest)

namespace Codec

def writeU8 (value : UInt8) : List UInt8 := [value]

def readU8 : List UInt8 → Except ReadFault (UInt8 × List UInt8)
  | byte :: rest => .ok (byte, rest)
  | [] => .error .pastEnd

def writeU16Le (value : UInt16) : List UInt8 := [(value &&& 0xFF).toUInt8, ((value >>> 8) &&& 0xFF).toUInt8]

def readU16Le : List UInt8 → Except ReadFault (UInt16 × List UInt8)
  | low :: high :: rest => .ok (low.toUInt16 ||| (high.toUInt16 <<< 8), rest)
  | _ => .error .pastEnd

def writeU32Le (value : UInt32) : List UInt8 :=
  [(value &&& 0xFF).toUInt8, ((value >>> 8) &&& 0xFF).toUInt8, ((value >>> 16) &&& 0xFF).toUInt8,
    ((value >>> 24) &&& 0xFF).toUInt8]

def readU32Le : List UInt8 → Except ReadFault (UInt32 × List UInt8)
  | first :: second :: third :: fourth :: rest =>
    .ok (first.toUInt32 ||| (second.toUInt32 <<< 8) ||| (third.toUInt32 <<< 16) ||| (fourth.toUInt32 <<< 24), rest)
  | _ => .error .pastEnd

def u8 : Codec UInt8 where
  width := 1
  write := writeU8
  read := readU8
  writes := fun _ => rfl
  back := fun _ _ => rfl
  forth := by
    intro unread value rest ran
    cases unread with
    | nil => cases ran
    | cons byte tail =>
      cases ran
      rfl
  inside := by
    intro unread long
    cases unread with
    | nil => cases long
    | cons byte tail => exact ⟨byte, tail, rfl⟩

theorem join_split_u16 (value : UInt16) :
    (value &&& 0xFF).toUInt8.toUInt16 ||| (((value >>> 8) &&& 0xFF).toUInt8.toUInt16 <<< 8) = value := by
  apply UInt16.eq_of_toBitVec_eq
  simp only [UInt16.toBitVec_or, UInt16.toBitVec_and, UInt16.toBitVec_shiftLeft, UInt16.toBitVec_shiftRight,
    UInt8.toBitVec_toUInt16, UInt16.toBitVec_toUInt8]
  ext index inRange
  simp
  interval_cases index <;> simp

theorem split_join_u16 (low high : UInt8) :
    writeU16Le (low.toUInt16 ||| (high.toUInt16 <<< 8)) = [low, high] := by
  simp only [writeU16Le, List.cons.injEq, and_true]
  constructor
  all_goals
    apply UInt8.eq_of_toBitVec_eq
    simp only [UInt16.toBitVec_or, UInt16.toBitVec_and, UInt16.toBitVec_shiftLeft, UInt16.toBitVec_shiftRight,
      UInt8.toBitVec_toUInt16, UInt16.toBitVec_toUInt8]
    ext index inRange
    simp
    interval_cases index <;> simp

theorem join_split_u32 (value : UInt32) :
    (value &&& 0xFF).toUInt8.toUInt32 ||| (((value >>> 8) &&& 0xFF).toUInt8.toUInt32 <<< 8) |||
      (((value >>> 16) &&& 0xFF).toUInt8.toUInt32 <<< 16) ||| (((value >>> 24) &&& 0xFF).toUInt8.toUInt32 <<< 24) = value := by
  apply UInt32.eq_of_toBitVec_eq
  simp only [UInt32.toBitVec_or, UInt32.toBitVec_and, UInt32.toBitVec_shiftLeft, UInt32.toBitVec_shiftRight,
    UInt8.toBitVec_toUInt32, UInt32.toBitVec_toUInt8]
  ext index inRange
  simp
  interval_cases index <;> simp

theorem split_join_u32 (first second third fourth : UInt8) :
    writeU32Le (first.toUInt32 ||| (second.toUInt32 <<< 8) ||| (third.toUInt32 <<< 16) ||| (fourth.toUInt32 <<< 24)) =
      [first, second, third, fourth] := by
  simp only [writeU32Le, List.cons.injEq, and_true]
  refine ⟨?_, ?_, ?_, ?_⟩
  all_goals
    apply UInt8.eq_of_toBitVec_eq
    simp only [UInt32.toBitVec_or, UInt32.toBitVec_and, UInt32.toBitVec_shiftLeft, UInt32.toBitVec_shiftRight,
      UInt8.toBitVec_toUInt32, UInt32.toBitVec_toUInt8]
    ext index inRange
    simp
    interval_cases index <;> simp

def u16Le : Codec UInt16 where
  width := 2
  write := writeU16Le
  read := readU16Le
  writes := fun _ => rfl
  back := by
    intro value rest
    simp only [writeU16Le, List.cons_append, List.nil_append, readU16Le, join_split_u16]
  forth := by
    intro unread value rest ran
    match unread, ran with
    | low :: high :: tail, ran =>
      cases ran
      rw [split_join_u16]
      rfl
  inside := by
    intro unread long
    match unread, long with
    | low :: high :: tail, _ => exact ⟨_, tail, rfl⟩

def u32Le : Codec UInt32 where
  width := 4
  write := writeU32Le
  read := readU32Le
  writes := fun _ => rfl
  back := by
    intro value rest
    simp only [writeU32Le, List.cons_append, List.nil_append, readU32Le, join_split_u32]
  forth := by
    intro unread value rest ran
    match unread, ran with
    | first :: second :: third :: fourth :: tail, ran =>
      cases ran
      rw [split_join_u32]
      rfl
  inside := by
    intro unread long
    match unread, long with
    | first :: second :: third :: fourth :: tail, _ => exact ⟨_, tail, rfl⟩

def i32Le : Codec Int32 where
  width := 4
  write := fun value => writeU32Le value.toUInt32
  read := fun unread => (readU32Le unread).map fun result => (result.1.toInt32, result.2)
  writes := fun _ => rfl
  back := by
    intro value rest
    have unsigned : readU32Le (writeU32Le value.toUInt32 ++ rest) = _ := u32Le.back value.toUInt32 rest
    rw [unsigned]
    rfl
  forth := by
    intro unread value rest ran
    cases read : readU32Le unread with
    | error fault => simp [read, Except.map] at ran
    | ok result =>
      simp only [read, Except.map, Except.ok.injEq, Prod.mk.injEq] at ran
      obtain ⟨rfl, rfl⟩ := ran
      exact u32Le.forth unread result.1 result.2 read
  inside := by
    intro unread long
    obtain ⟨value, rest, ran⟩ := u32Le.inside unread long
    have unsigned : readU32Le unread = .ok (value, rest) := ran
    exact ⟨value.toInt32, rest, by rw [unsigned]; rfl⟩

@[simp] theorem u8_width : u8.width = 1 := rfl
@[simp] theorem u16_le_width : u16Le.width = 2 := rfl
@[simp] theorem u32_le_width : u32Le.width = 4 := rfl
@[simp] theorem i32_le_width : i32Le.width = 4 := rfl

variable {Value : Type} (codec : Codec Value)

theorem read_length (unread rest : List UInt8) (value : Value)
    (ran : codec.read unread = .ok (value, rest)) : unread.length = codec.width + rest.length := by
  rw [codec.forth unread value rest ran, List.length_append, codec.writes]

def writeAll {Value : Type} (codec : Codec Value) (values : List Value) : List UInt8 := values.flatMap codec.write

def readMany {Value : Type} (codec : Codec Value) : Nat → List UInt8 → Except ReadFault (List Value × List UInt8)
  | 0, unread => .ok ([], unread)
  | count + 1, unread => do
      let (value, unread) ← codec.read unread
      let (values, unread) ← readMany codec count unread
      return (value :: values, unread)

variable (values : List Value)

theorem write_all_length : (writeAll codec values).length = values.length * codec.width := by
  induction values with
  | nil => simp [writeAll]
  | cons value rest ih =>
    have unfolded : writeAll codec (value :: rest) = codec.write value ++ writeAll codec rest := rfl
    rw [unfolded, List.length_append, codec.writes, ih, List.length_cons]
    ring

theorem write_all_part (rest : List UInt8) (start count : Nat) (inside : start + count ≤ values.length) :
    ((writeAll codec values ++ rest).drop (start * codec.width)).take (count * codec.width) =
      writeAll codec ((values.drop start).take count) := by
  have parts : values = values.take start ++ ((values.drop start).take count ++ (values.drop start).drop count) := by
    rw [List.take_append_drop, List.take_append_drop]
  have before : (writeAll codec (values.take start)).length = start * codec.width := by
    rw [write_all_length, List.length_take, Nat.min_eq_left (by omega)]
  have here : (writeAll codec ((values.drop start).take count)).length = count * codec.width := by
    rw [write_all_length, List.length_take, List.length_drop, Nat.min_eq_left (by omega)]
  have written : writeAll codec values ++ rest = writeAll codec (values.take start) ++
      (writeAll codec ((values.drop start).take count) ++ (writeAll codec ((values.drop start).drop count) ++ rest)) := by
    conv_lhs => rw [parts]
    simp only [writeAll, List.flatMap_append, List.append_assoc]
  rw [written, List.drop_left' before, List.take_left' here]

theorem read_many_back (rest : List UInt8) :
    readMany codec values.length (writeAll codec values ++ rest) = .ok (values, rest) := by
  induction values with
  | nil => rfl
  | cons value tail ih =>
    have unfolded : writeAll codec (value :: tail) ++ rest = codec.write value ++ (writeAll codec tail ++ rest) := by
      simp [writeAll]
    rw [unfolded, List.length_cons, readMany, codec.back]
    simp only [bind, Except.bind, ih]
    rfl

theorem read_many_forth (count : Nat) (unread rest : List UInt8) (values : List Value)
    (ran : readMany codec count unread = .ok (values, rest)) :
    values.length = count ∧ unread = writeAll codec values ++ rest := by
  induction count generalizing unread values with
  | zero =>
    cases ran
    exact ⟨rfl, rfl⟩
  | succ count ih =>
    simp only [readMany, bind_ok] at ran
    obtain ⟨⟨value, following⟩, first, ⟨others, last⟩, remaining, made⟩ := ran
    cases made
    obtain ⟨counted, tail⟩ := ih following others remaining
    have head := codec.forth unread value following first
    refine ⟨by simp [counted], ?_⟩
    rw [head, tail]
    simp [writeAll]

theorem read_many_inside (count : Nat) (unread : List UInt8)
    (long : count * codec.width ≤ unread.length) : ∃ values rest, readMany codec count unread = .ok (values, rest) := by
  induction count generalizing unread with
  | zero => exact ⟨[], unread, rfl⟩
  | succ count ih =>
    have split : (count + 1) * codec.width = count * codec.width + codec.width := by ring
    obtain ⟨value, rest, first⟩ := codec.inside unread (by omega)
    have shorter := read_length codec unread rest value first
    obtain ⟨values, remaining, others⟩ := ih rest (by omega)
    exact ⟨value :: values, remaining, by simp [readMany, first, others, bind, Except.bind, pure, Except.pure]⟩

end Codec

end EncosDriver.Lib
