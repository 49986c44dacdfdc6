import EncosDriver.Lib.Stream
import EncosDriver.Message.Types
import Mathlib.Tactic.IntervalCases

set_option autoImplicit false

namespace EncosDriver.Serial

open Lib Message

def headerSize (extended : Bool) : Nat := if extended then 6 else 4

def checksum (bytes : List UInt8) : UInt8 := bytes.foldl (· + ·) 0

def frameMessage (extended : Bool) (packet : List UInt8) (len : Nat) : MotorMessage :=
  let byte := fun index => (packet.getD index 0).toUInt32
  { busIdx := 0
    data :=
      { id :=
          if extended then (byte 1 <<< 24) ||| (byte 2 <<< 16) ||| (byte 3 <<< 8) ||| byte 4
          else (byte 1 <<< 8) ||| byte 2
        frameFlags := if extended then sanitizeCanFrameFlags kCanFrameFlagEff else 0
        len := UInt8.ofNat (len - headerSize extended - 1)
        data := payload ((packet.drop (headerSize extended)).take (len - headerSize extended - 1)) } }

inductive Examined where
  | advance
  | stop
  | frame (len : Nat) (message : MotorMessage)
deriving DecidableEq, Repr

def examineCandidate (extended : Bool) (unread : List UInt8) : Examined :=
  match unread[headerSize extended - 1]? with
  | none => .stop
  | some lenByte =>
    if lenByte.toNat > headerSize extended + 8 + 1 ∨ lenByte.toNat ≤ headerSize extended then .advance
    else if lenByte.toNat > unread.length then .stop
    else if some (checksum (unread.take (lenByte.toNat - 1))) ≠ unread[lenByte.toNat - 1]? then .advance
    else .frame lenByte.toNat (frameMessage extended unread lenByte.toNat)

def examine (unread : List UInt8) : Examined :=
  if unread.head? = some 0xAA then examineCandidate false unread
  else if unread.head? = some 0xBB then examineCandidate true unread
  else .advance

variable (extended : Bool) (unread : List UInt8)

theorem examine_candidate_frame (len : Nat) (message : MotorMessage)
    (found : examineCandidate extended unread = .frame len message) :
    headerSize extended < len ∧ len ≤ headerSize extended + 9 ∧ len ≤ unread.length := by
  unfold examineCandidate at found
  repeat' split at found
  all_goals cases found
  omega

theorem examine_frame_bounds (len : Nat) (message : MotorMessage)
    (found : examine unread = .frame len message) : 4 < len ∧ len ≤ 15 ∧ len ≤ unread.length := by
  unfold examine at found
  split at found
  · have bounds := examine_candidate_frame false unread len message found
    simp only [headerSize, Bool.false_eq_true, ↓reduceIte] at bounds
    omega
  · split at found
    · have bounds := examine_candidate_frame true unread len message found
      simp only [headerSize, ↓reduceIte] at bounds
      omega
    · cases found

def parseLoop (unread : List UInt8) (messages : MotorMessages) : MotorMessages × List UInt8 :=
  if unread = [] then (messages, [])
  else
    match _found : examine unread with
    | .advance => parseLoop (unread.drop 1) messages
    | .stop => (messages, unread)
    | .frame len message => parseLoop (unread.drop len) (messages ++ [message])
termination_by unread.length
decreasing_by
  · rename_i present
    have positive := List.length_pos_iff.mpr present
    rw [List.length_drop]
    omega
  · have bounds := examine_frame_bounds unread len message _found
    rw [List.length_drop]
    omega

def kReadBufferSize : Nat := 4096

structure UsbSerialAdapter where
  readBuffer : List UInt8 := []
  delivered : MotorMessages := []
deriving DecidableEq, Repr

def parseBuffer (adapter : UsbSerialAdapter) : UsbSerialAdapter :=
  let parsed := parseLoop adapter.readBuffer []
  { readBuffer := parsed.2, delivered := adapter.delivered ++ parsed.1 }

def receivePass (adapter : UsbSerialAdapter) (data : List UInt8) : UsbSerialAdapter × List UInt8 :=
  let count := min data.length (kReadBufferSize - adapter.readBuffer.length)
  (parseBuffer { adapter with readBuffer := adapter.readBuffer ++ data.take count }, data.drop count)

-- ReceiveBytes runs that loop until no byte is left; a pass on a full buffer
-- would take none and the loop would not end. `none` is a call still running
-- after `passes` passes.
def receiveBytes : Nat → UsbSerialAdapter → List UInt8 → Option UsbSerialAdapter
  | _, adapter, [] => some adapter
  | 0, _, _ :: _ => none
  | passes + 1, adapter, data => receiveBytes passes (receivePass adapter data).1 (receivePass adapter data).2

-- The wire format, stated without the parser: a header byte, the id from its
-- highest byte on, the length of the frame, the data and the checksum of
-- everything before it.
def headerByte (extended : Bool) : UInt8 := if extended then 0xBB else 0xAA

def idSize (extended : Bool) : Nat := if extended then 4 else 2

def bigEndian (bytes : List UInt8) : UInt32 := bytes.foldl (fun value byte => (value <<< 8) ||| byte.toUInt32) 0

def sealed (bytes : List UInt8) : List UInt8 := bytes ++ [checksum bytes]

structure FrameParts where
  extended : Bool
  id : List UInt8
  data : List UInt8
  idComplete : id.length = idSize extended
  dataShort : data.length ≤ 8

def FrameParts.bytes (parts : FrameParts) : List UInt8 :=
  sealed (headerByte parts.extended :: parts.id ++ [UInt8.ofNat (headerSize parts.extended + parts.data.length + 1)] ++ parts.data)

def FrameParts.message (parts : FrameParts) : MotorMessage :=
  { busIdx := 0
    data :=
      { id := bigEndian parts.id
        frameFlags := if parts.extended then kCanFrameFlagEff else 0
        len := UInt8.ofNat parts.data.length
        data := payload parts.data } }

def LengthFits (extended : Bool) (len : UInt8) : Prop := headerSize extended < len.toNat ∧ len.toNat ≤ headerSize extended + 9

-- A candidate starts with a header byte; its length is known once the header is
-- complete.
structure Candidate (extended : Bool) (len : UInt8) (unread : List UInt8) : Prop where
  starts : unread.head? = some (headerByte extended)
  length : unread[headerSize extended - 1]? = some len

inductive Invalid : List UInt8 → Prop where
  | noHeader (byte : UInt8) (rest : List UInt8) (standard : byte ≠ headerByte false) (extended : byte ≠ headerByte true) :
      Invalid (byte :: rest)
  | badLength (extended : Bool) (len : UInt8) (unread : List UInt8) (candidate : Candidate extended len unread)
      (bad : ¬ LengthFits extended len) : Invalid unread
  | badChecksum (extended : Bool) (len : UInt8) (unread : List UInt8) (candidate : Candidate extended len unread)
      (fits : LengthFits extended len) (complete : len.toNat ≤ unread.length)
      (bad : some (checksum (unread.take (len.toNat - 1))) ≠ unread[len.toNat - 1]?) : Invalid unread

inductive Incomplete : List UInt8 → Prop where
  | header (extended : Bool) (unread : List UInt8) (starts : unread.head? = some (headerByte extended))
      (short : unread.length < headerSize extended) : Incomplete unread
  | body (extended : Bool) (len : UInt8) (unread : List UInt8) (candidate : Candidate extended len unread)
      (fits : LengthFits extended len) (short : unread.length < len.toNat) : Incomplete unread

-- The left-to-right scan: it skips one byte on an invalid candidate and a whole
-- frame on a valid one, and stops at the first candidate that is still
-- incomplete.
inductive Scans : List UInt8 → MotorMessages → List UInt8 → Prop where
  | done : Scans [] [] []
  | skip (byte : UInt8) (rest left : List UInt8) (messages : MotorMessages) (invalid : Invalid (byte :: rest))
      (following : Scans rest messages left) : Scans (byte :: rest) messages left
  | frame (parts : FrameParts) (rest left : List UInt8) (messages : MotorMessages) (following : Scans rest messages left) :
      Scans (parts.bytes ++ rest) (parts.message :: messages) left
  | incomplete (unread : List UInt8) (waits : Incomplete unread) : Scans unread [] unread

theorem examine_starts (starts : unread.head? = some (headerByte extended)) :
    examine unread = examineCandidate extended unread := by
  cases extended with
  | false => simp [examine, starts, headerByte]
  | true => simp [examine, starts, headerByte]

theorem wire_id_standard (high low : UInt8) :
    bigEndian [high, low] = (high.toUInt32 <<< 8) ||| low.toUInt32 := by
  simp [bigEndian]

theorem wire_id_extended (first second third fourth : UInt8) :
    bigEndian [first, second, third, fourth] =
      (first.toUInt32 <<< 24) ||| (second.toUInt32 <<< 16) ||| (third.toUInt32 <<< 8) ||| fourth.toUInt32 := by
  have twice (byte : UInt8) : byte.toUInt32 <<< 8 <<< 8 = byte.toUInt32 <<< 16 :=
    (UInt32.shiftLeft_add (by decide) (by decide) (by decide)).symm
  have thrice (byte : UInt8) : byte.toUInt32 <<< 16 <<< 8 = byte.toUInt32 <<< 24 :=
    (UInt32.shiftLeft_add (by decide) (by decide) (by decide)).symm
  simp [bigEndian, UInt32.shiftLeft_or, twice, thrice]

theorem examine_sealed (head data rest : List UInt8) (complete : head.length = headerSize extended)
    (len : head[headerSize extended - 1]? = some (UInt8.ofNat (headerSize extended + data.length + 1)))
    (short : data.length ≤ 8) :
    examineCandidate extended (sealed (head ++ data) ++ rest) =
      .frame (headerSize extended + data.length + 1)
        (frameMessage extended (sealed (head ++ data) ++ rest) (headerSize extended + data.length + 1)) := by
  have bounds : 4 ≤ headerSize extended ∧ headerSize extended ≤ 6 := by cases extended <;> decide
  have value : (UInt8.ofNat (headerSize extended + data.length + 1)).toNat = headerSize extended + data.length + 1 :=
    UInt8.toNat_ofNat_of_lt' (by change _ < 256; omega)
  have known : (sealed (head ++ data) ++ rest)[headerSize extended - 1]? =
      some (UInt8.ofNat (headerSize extended + data.length + 1)) := by
    rw [← len, sealed, List.append_assoc, List.append_assoc, List.getElem?_append_left (by omega)]
  have covered : (head ++ data).length = headerSize extended + data.length := by rw [List.length_append, complete]
  have before : (sealed (head ++ data) ++ rest).take (headerSize extended + data.length) = head ++ data := by
    rw [sealed, List.append_assoc, List.take_left' covered]
  have last : (sealed (head ++ data) ++ rest)[headerSize extended + data.length]? = some (checksum (head ++ data)) := by
    rw [sealed, List.append_assoc, List.getElem?_append_right (by omega), covered]
    simp
  have long : ¬ headerSize extended + data.length + 1 > (sealed (head ++ data) ++ rest).length := by
    simp only [sealed, List.length_append, covered, List.length_singleton]
    omega
  have fits : ¬ (headerSize extended + data.length + 1 > headerSize extended + 8 + 1 ∨
      headerSize extended + data.length + 1 ≤ headerSize extended) := by omega
  simp only [examineCandidate, known, value, fits, long, Nat.add_sub_cancel, before, last, ne_eq, not_true_eq_false, ↓reduceIte]

variable (parts : FrameParts)

theorem parts_bytes :
    ∃ head, head.length = headerSize parts.extended ∧ parts.bytes = sealed (head ++ parts.data) ∧
      head[headerSize parts.extended - 1]? = some (UInt8.ofNat (headerSize parts.extended + parts.data.length + 1)) ∧
      head = headerByte parts.extended :: parts.id ++ [UInt8.ofNat (headerSize parts.extended + parts.data.length + 1)] := by
  have complete := parts.idComplete
  have sizes : headerSize parts.extended = idSize parts.extended + 2 := by cases parts.extended <;> rfl
  refine ⟨_, ?_, rfl, ?_, rfl⟩
  · simp only [List.length_append, List.length_cons, List.length_nil]
    omega
  · rw [List.getElem?_append_right (by simp only [List.length_cons]; omega)]
    have index : headerSize parts.extended - 1 - (headerByte parts.extended :: parts.id).length = 0 := by
      simp only [List.length_cons]
      omega
    rw [index]
    rfl

theorem parts_length : parts.bytes.length = headerSize parts.extended + parts.data.length + 1 := by
  obtain ⟨head, complete, bytes, -⟩ := parts_bytes parts
  rw [bytes, sealed, List.length_append, List.length_append, complete, List.length_singleton]

theorem frame_message_parts (rest : List UInt8) :
    frameMessage parts.extended (parts.bytes ++ rest) (headerSize parts.extended + parts.data.length + 1) = parts.message := by
  obtain ⟨head, complete, bytes, -, shape⟩ := parts_bytes parts
  have size : headerSize parts.extended + parts.data.length + 1 - headerSize parts.extended - 1 = parts.data.length := by omega
  have body : ((parts.bytes ++ rest).drop (headerSize parts.extended)).take parts.data.length = parts.data := by
    rw [bytes, sealed, List.append_assoc, List.append_assoc, List.drop_left' complete, List.take_left' rfl]
  rw [frameMessage, size, body]
  obtain ⟨extended, id, data, idComplete, dataShort⟩ := parts
  cases extended with
  | false =>
    match id, idComplete with
    | [high, low], _ =>
      simp only at bytes shape
      simp [bytes, shape, sealed, FrameParts.message, wire_id_standard]
  | true =>
    match id, idComplete with
    | [first, second, third, fourth], _ =>
      simp only at bytes shape
      simp [bytes, shape, sealed, FrameParts.message, wire_id_extended]
      rfl

theorem examine_parts (rest : List UInt8) :
    examine (parts.bytes ++ rest) = .frame parts.bytes.length parts.message := by
  obtain ⟨head, complete, bytes, len, shape⟩ := parts_bytes parts
  have starts : (parts.bytes ++ rest).head? = some (headerByte parts.extended) := by
    rw [bytes, shape]
    rfl
  have whole := examine_sealed parts.extended head parts.data rest complete len parts.dataShort
  rw [← bytes, frame_message_parts] at whole
  rw [examine_starts _ _ starts, whole, parts_length]

theorem head_extended (byte : UInt8) (starts : unread.head? = some byte) (other : List UInt8) :
    (unread ++ other).head? = some byte := by
  cases unread with
  | nil => cases starts
  | cons first rest => exact starts

theorem candidate_append (len : UInt8) (unread more : List UInt8) (candidate : Candidate extended len unread) :
    Candidate extended len (unread ++ more) := by
  refine ⟨head_extended unread _ candidate.starts more, ?_⟩
  have inside := (List.getElem?_eq_some_iff.mp candidate.length).1
  rw [List.getElem?_append_left inside]
  exact candidate.length

theorem invalid_append (unread more : List UInt8) (invalid : Invalid unread) : Invalid (unread ++ more) := by
  cases invalid with
  | noHeader byte rest standard extended => exact .noHeader byte (rest ++ more) standard extended
  | badLength extended len _ candidate bad => exact .badLength extended len _ (candidate_append _ _ _ more candidate) bad
  | badChecksum extended len _ candidate fits complete bad =>
    have positive := fits.1
    refine .badChecksum extended len _ (candidate_append _ _ _ more candidate) fits (by rw [List.length_append]; omega) ?_
    rw [List.take_append_of_le_length (by omega), List.getElem?_append_left (by omega)]
    exact bad

theorem examine_invalid (invalid : Invalid unread) : examine unread = .advance := by
  cases invalid with
  | noHeader byte rest standard extended =>
    have notStandard : ¬ byte = 0xAA := standard
    have notExtended : ¬ byte = 0xBB := extended
    simp [examine, notStandard, notExtended]
  | badLength extended len _ candidate bad =>
    have out : len.toNat > headerSize extended + 8 + 1 ∨ len.toNat ≤ headerSize extended := by
      simp only [LengthFits, not_and_or, not_lt, not_le] at bad
      omega
    rw [examine_starts extended unread candidate.starts]
    simp only [examineCandidate, candidate.length, out, ↓reduceIte]
  | badChecksum extended len _ candidate fits complete bad =>
    obtain ⟨above, below⟩ := fits
    have within : ¬ (len.toNat > headerSize extended + 8 + 1 ∨ len.toNat ≤ headerSize extended) := by omega
    rw [examine_starts extended unread candidate.starts]
    simp only [examineCandidate, candidate.length, within, not_lt.mpr complete, bad, gt_iff_lt, ne_eq, not_false_eq_true,
      ↓reduceIte]

theorem examine_incomplete (waits : Incomplete unread) : examine unread = .stop := by
  cases waits with
  | header extended _ starts short =>
    have absent : unread[headerSize extended - 1]? = none := List.getElem?_eq_none (by omega)
    rw [examine_starts extended unread starts]
    simp only [examineCandidate, absent]
  | body extended len _ candidate fits short =>
    obtain ⟨above, below⟩ := fits
    have within : ¬ (len.toNat > headerSize extended + 8 + 1 ∨ len.toNat ≤ headerSize extended) := by omega
    rw [examine_starts extended unread candidate.starts]
    simp only [examineCandidate, candidate.length, within, short, gt_iff_lt, ↓reduceIte]

theorem sealed_parts (len : UInt8) (unread : List UInt8) (candidate : Candidate extended len unread)
    (fits : LengthFits extended len) (complete : len.toNat ≤ unread.length)
    (good : some (checksum (unread.take (len.toNat - 1))) = unread[len.toNat - 1]?) :
    ∃ (parts : FrameParts) (rest : List UInt8), unread = parts.bytes ++ rest := by
  obtain ⟨above, below⟩ := fits
  have sizes : headerSize extended = idSize extended + 2 := by cases extended <;> rfl
  obtain ⟨first, tail, rfl⟩ : ∃ first tail, unread = first :: tail := by
    cases unread with
    | nil => cases candidate.starts
    | cons first tail => exact ⟨first, tail, rfl⟩
  have header : first = headerByte extended := Option.some.inj candidate.starts
  have lenAt : tail[idSize extended]? = some len := by
    have known := candidate.length
    rwa [sizes, show idSize extended + 2 - 1 = idSize extended + 1 by omega, List.getElem?_cons_succ] at known
  have longTail : len.toNat ≤ tail.length + 1 := complete
  let parts : FrameParts :=
    { extended := extended
      id := tail.take (idSize extended)
      data := (tail.drop (idSize extended + 1)).take (len.toNat - headerSize extended - 1)
      idComplete := by
        rw [List.length_take]
        omega
      dataShort := by
        rw [List.length_take]
        omega }
  have dataLength : parts.data.length = len.toNat - headerSize extended - 1 := by
    simp only [parts, List.length_take, List.length_drop]
    omega
  have lenByte : UInt8.ofNat (headerSize extended + parts.data.length + 1) = len := by
    rw [dataLength, show headerSize extended + (len.toNat - headerSize extended - 1) + 1 = len.toNat by omega]
    exact UInt8.ofNat_toNat
  have before : (first :: tail).take (len.toNat - 1) =
      headerByte extended :: parts.id ++ [UInt8.ofNat (headerSize extended + parts.data.length + 1)] ++ parts.data := by
    have count : len.toNat - 1 = (idSize extended + 1 + (len.toNat - headerSize extended - 1)) + 1 := by omega
    rw [lenByte, count, List.take_succ_cons, header, List.take_add, List.take_add_one, lenAt]
    rfl
  have last : (first :: tail)[len.toNat - 1]? = some (checksum ((first :: tail).take (len.toNat - 1))) := good.symm
  refine ⟨parts, (first :: tail).drop len.toNat, ?_⟩
  have whole : (first :: tail).take len.toNat = parts.bytes := by
    have count : len.toNat = (len.toNat - 1) + 1 := by omega
    rw [count, List.take_add_one, last, before]
    rfl
  rw [← whole, List.take_append_drop]

inductive Decided (unread : List UInt8) : Examined → Prop where
  | advance (invalid : Invalid unread) : Decided unread .advance
  | stop (waits : Incomplete unread) : Decided unread .stop
  | frame (parts : FrameParts) (rest : List UInt8) (whole : unread = parts.bytes ++ rest) :
      Decided unread (.frame parts.bytes.length parts.message)

theorem examine_candidate_decided (starts : unread.head? = some (headerByte extended)) :
    Decided unread (examine unread) := by
  cases known : unread[headerSize extended - 1]? with
  | none =>
    have waits : Incomplete unread := by
      have short := List.getElem?_eq_none_iff.mp known
      have size : 0 < headerSize extended := by cases extended <;> decide
      exact .header extended unread starts (by omega)
    rw [examine_incomplete unread waits]
    exact .stop waits
  | some len =>
    have candidate : Candidate extended len unread := ⟨starts, known⟩
    by_cases fits : LengthFits extended len
    · by_cases complete : len.toNat ≤ unread.length
      · by_cases good : some (checksum (unread.take (len.toNat - 1))) = unread[len.toNat - 1]?
        · obtain ⟨parts, rest, whole⟩ := sealed_parts extended len unread candidate fits complete good
          have examined := examine_parts parts rest
          rw [← whole] at examined
          rw [examined]
          exact .frame parts rest whole
        · have invalid : Invalid unread := .badChecksum extended len unread candidate fits complete good
          rw [examine_invalid unread invalid]
          exact .advance invalid
      · have waits : Incomplete unread := .body extended len unread candidate fits (not_le.mp complete)
        rw [examine_incomplete unread waits]
        exact .stop waits
    · have invalid : Invalid unread := .badLength extended len unread candidate fits
      rw [examine_invalid unread invalid]
      exact .advance invalid

theorem examine_decided (present : unread ≠ []) : Decided unread (examine unread) := by
  obtain ⟨byte, rest, rfl⟩ := List.exists_cons_of_ne_nil present
  by_cases standard : byte = headerByte false
  · exact examine_candidate_decided false _ (by rw [standard]; rfl)
  · by_cases extended : byte = headerByte true
    · exact examine_candidate_decided true _ (by rw [extended]; rfl)
    · have invalid : Invalid (byte :: rest) := .noHeader byte rest standard extended
      rw [examine_invalid _ invalid]
      exact .advance invalid

end EncosDriver.Serial
