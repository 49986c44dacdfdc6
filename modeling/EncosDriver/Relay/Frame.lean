import EncosDriver.Lib.Bytes
import EncosDriver.Message.Types

set_option autoImplicit false

namespace EncosDriver.Relay

open Lib Message

inductive RelayFrameType where
  | relayToHelper
  | helperToRelay
deriving DecidableEq, Repr

def RelayFrameType.byte : RelayFrameType → UInt8
  | .relayToHelper => 1
  | .helperToRelay => 2

structure RelayFrame where
  type : RelayFrameType
  records : MotorMessages
deriving DecidableEq, Repr

def kMagic : List UInt8 := [0x45, 0x4D, 0x52, 0x31]
def kHeaderSize : Nat := 8
def kRecordSize : Nat := 18
def kMaxRecordsPerFrame : Nat := 255

def writeRecord (record : MotorMessage) : List UInt8 :=
  Codec.i32Le.write record.busIdx ++ Codec.u32Le.write record.data.id ++ Codec.u8.write record.data.frameFlags ++
    Codec.u8.write record.data.len ++ Codec.writeAll Codec.u8 record.data.data.toList

def writeHeader (type : RelayFrameType) (count : Nat) (reserved : UInt16) : List UInt8 :=
  Codec.writeAll Codec.u8 kMagic ++ Codec.u8.write type.byte ++ Codec.u8.write (UInt8.ofNat count) ++
    Codec.u16Le.write reserved

def encodeFrames (type : RelayFrameType) (records : MotorMessages) : List UInt8 :=
  if records = [] then []
  else
    writeHeader type (min kMaxRecordsPerFrame records.length) 0 ++
      (records.take kMaxRecordsPerFrame).flatMap writeRecord ++
      encodeFrames type (records.drop kMaxRecordsPerFrame)
termination_by records.length
decreasing_by
  rename_i present
  have positive := List.length_pos_iff.mpr present
  simp only [List.length_drop, kMaxRecordsPerFrame]
  omega

def encodeRelayFrames (type : RelayFrameType) (records : MotorMessages) : List UInt8 :=
  encodeFrames type records ++ if records.isEmpty then writeHeader type 0 0 else []

def frameType (byte : UInt8) : Option RelayFrameType :=
  if byte = RelayFrameType.relayToHelper.byte then some .relayToHelper
  else if byte = RelayFrameType.helperToRelay.byte then some .helperToRelay
  else none

def decodeRecord (unread : List UInt8) : Except ReadFault (MotorMessage × List UInt8) := do
  let (busIdx, unread) ← Codec.i32Le.read unread
  let (id, unread) ← Codec.u32Le.read unread
  let (frameFlags, unread) ← Codec.u8.read unread
  let (len, unread) ← Codec.u8.read unread
  if len > 8 then throw .refused
  let (data, unread) ← Codec.readMany Codec.u8 8 unread
  return (⟨busIdx, ⟨id, frameFlags, len, payload data⟩⟩, unread)

def decodeRecords : Nat → List UInt8 → Except ReadFault (MotorMessages × List UInt8)
  | 0, unread => .ok ([], unread)
  | count + 1, unread => do
      let (record, unread) ← decodeRecord unread
      let (records, unread) ← decodeRecords count unread
      return (record :: records, unread)

def decodeFrame (unread : List UInt8) : Except ReadFault (RelayFrame × List UInt8) := do
  if unread.length < kHeaderSize then throw .refused
  let (magic, unread) ← Codec.readMany Codec.u8 4 unread
  if magic ≠ kMagic then throw .refused
  let (typeByte, unread) ← Codec.u8.read unread
  match frameType typeByte with
  | none => throw .refused
  | some type =>
    let (count, unread) ← Codec.u8.read unread
    let (_reserved, unread) ← Codec.u16Le.read unread
    if unread.length < count.toNat * kRecordSize then throw .refused
    let (records, unread) ← decodeRecords count.toNat unread
    return (⟨type, records⟩, unread)

theorem frame_type_byte (type : RelayFrameType) : frameType type.byte = some type := by
  cases type <;> rfl

theorem frame_type_sound (byte : UInt8) (type : RelayFrameType) (known : frameType byte = some type) : type.byte = byte := by
  unfold frameType at known
  split at known
  · rename_i same
    cases known
    exact same.symm
  · split at known
    · rename_i same
      cases known
      exact same.symm
    · cases known

theorem write_record_length (record : MotorMessage) : (writeRecord record).length = kRecordSize := by
  simp only [writeRecord, List.length_append, Codec.writes, Codec.write_all_length, Vector.length_toList]
  rfl

theorem decode_record_back (record : MotorMessage) (rest : List UInt8) (fits : record.data.len ≤ 8) :
    decodeRecord (writeRecord record ++ rest) = .ok (record, rest) := by
  have bytes := Codec.read_many_back Codec.u8 record.data.data.toList rest
  rw [Vector.length_toList] at bytes
  simp only [decodeRecord, writeRecord, List.append_assoc, Codec.back, ok_bind, gt_iff_lt, UInt8.not_lt.mpr fits, ↓reduceIte, bytes,
    payload_to_list]
  rfl

theorem decode_record_forth (unread rest : List UInt8) (record : MotorMessage)
    (ran : decodeRecord unread = .ok (record, rest)) : unread = writeRecord record ++ rest ∧ record.data.len ≤ 8 := by
  simp only [decodeRecord, bind_ok] at ran
  obtain ⟨⟨busIdx, one⟩, readBus, ⟨id, two⟩, readId, ⟨frameFlags, three⟩, readFlags, ⟨len, four⟩, readLen, ran⟩ := ran
  split at ran
  · cases ran
  · rename_i fits
    obtain ⟨⟨bytes, five⟩, readData, made⟩ := (bind_ok _ _ _).mp ran
    cases made
    dsimp only at readId readFlags readLen readData fits ⊢
    obtain ⟨counted, dataBytes⟩ := Codec.read_many_forth Codec.u8 8 four five bytes readData
    refine ⟨?_, UInt8.not_lt.mp fits⟩
    rw [Codec.i32Le.forth _ _ _ readBus, Codec.u32Le.forth _ _ _ readId, Codec.u8.forth _ _ _ readFlags,
      Codec.u8.forth _ _ _ readLen, dataBytes]
    simp only [writeRecord, to_list_payload bytes counted, List.append_assoc]

theorem decode_record_inside (unread : List UInt8) (long : kRecordSize ≤ unread.length) :
    decodeRecord unread ≠ .error .pastEnd := by
  have size : kRecordSize = 18 := rfl
  obtain ⟨busIdx, one, readBus⟩ := Codec.i32Le.inside unread (by simp only [Codec.i32_le_width]; omega)
  have afterBus := Codec.read_length _ _ _ _ readBus
  rw [Codec.i32_le_width] at afterBus
  obtain ⟨id, two, readId⟩ := Codec.u32Le.inside one (by simp only [Codec.u32_le_width]; omega)
  have afterId := Codec.read_length _ _ _ _ readId
  rw [Codec.u32_le_width] at afterId
  obtain ⟨frameFlags, three, readFlags⟩ := Codec.u8.inside two (by simp only [Codec.u8_width]; omega)
  have afterFlags := Codec.read_length _ _ _ _ readFlags
  rw [Codec.u8_width] at afterFlags
  obtain ⟨len, four, readLen⟩ := Codec.u8.inside three (by simp only [Codec.u8_width]; omega)
  have afterLen := Codec.read_length _ _ _ _ readLen
  rw [Codec.u8_width] at afterLen
  obtain ⟨bytes, five, readData⟩ := Codec.read_many_inside Codec.u8 8 four (by simp only [Codec.u8_width]; omega)
  simp only [decodeRecord, readBus, readId, readFlags, readLen, readData, ok_bind]
  split <;> nofun

theorem decode_records_back (records : MotorMessages) (rest : List UInt8) (fit : ∀ record ∈ records, record.data.len ≤ 8) :
    decodeRecords records.length (records.flatMap writeRecord ++ rest) = .ok (records, rest) := by
  induction records with
  | nil => rfl
  | cons record tail ih =>
    have one := decode_record_back record (tail.flatMap writeRecord ++ rest) (fit record List.mem_cons_self)
    have others := ih fun other inside => fit other (List.mem_cons_of_mem _ inside)
    simp only [List.flatMap_cons, List.length_cons, List.append_assoc, decodeRecords, one, ok_bind, others]
    rfl

theorem decode_records_forth (count : Nat) (unread rest : List UInt8) (records : MotorMessages)
    (ran : decodeRecords count unread = .ok (records, rest)) :
    records.length = count ∧ unread = records.flatMap writeRecord ++ rest ∧ ∀ record ∈ records, record.data.len ≤ 8 := by
  induction count generalizing unread records with
  | zero =>
    cases ran
    exact ⟨rfl, rfl, nofun⟩
  | succ count ih =>
    simp only [decodeRecords, bind_ok] at ran
    obtain ⟨⟨record, following⟩, first, ⟨others, last⟩, remaining, made⟩ := ran
    cases made
    obtain ⟨counted, tail, fit⟩ := ih following others remaining
    obtain ⟨head, fits⟩ := decode_record_forth unread following record first
    refine ⟨by simp [counted], ?_, ?_⟩
    · rw [head, tail]
      simp
    · intro other inside
      rcases List.mem_cons.mp inside with rfl | inside
      · exact fits
      · exact fit other inside

theorem decode_records_inside (count : Nat) (unread : List UInt8) (long : count * kRecordSize ≤ unread.length) :
    decodeRecords count unread ≠ .error .pastEnd := by
  induction count generalizing unread with
  | zero => nofun
  | succ count ih =>
    have split : (count + 1) * kRecordSize = count * kRecordSize + kRecordSize := Nat.succ_mul _ _
    cases first : decodeRecord unread with
    | error fault =>
      have inside := decode_record_inside unread (by omega)
      rw [first] at inside
      simpa only [decodeRecords, first, error_bind, ne_eq, Except.error.injEq] using inside
    | ok result =>
      obtain ⟨consumed, -⟩ := decode_record_forth unread result.2 result.1 first
      have shorter := congrArg List.length consumed
      rw [List.length_append, write_record_length] at shorter
      have others := ih result.2 (by omega)
      cases remaining : decodeRecords count result.2 with
      | error fault =>
        rw [remaining] at others
        simpa only [decodeRecords, first, ok_bind, remaining, error_bind, ne_eq, Except.error.injEq] using others
      | ok rest =>
        simp only [decodeRecords, first, ok_bind, remaining]
        nofun

def frameBytes (frame : RelayFrame) (reserved : UInt16) : List UInt8 :=
  writeHeader frame.type frame.records.length reserved ++ frame.records.flatMap writeRecord

theorem header_length (type : RelayFrameType) (count : Nat) (reserved : UInt16) :
    (writeHeader type count reserved).length = kHeaderSize := by
  simp only [writeHeader, List.length_append, Codec.writes, Codec.write_all_length]
  rfl

theorem records_length (records : MotorMessages) : (records.flatMap writeRecord).length = records.length * kRecordSize := by
  induction records with
  | nil => simp
  | cons record rest ih =>
    rw [List.flatMap_cons, List.length_append, write_record_length, ih, List.length_cons]
    ring

theorem decode_frame_back (frame : RelayFrame) (reserved : UInt16) (rest : List UInt8)
    (bounded : frame.records.length ≤ kMaxRecordsPerFrame) (fit : ∀ record ∈ frame.records, record.data.len ≤ 8) :
    decodeFrame (frameBytes frame reserved ++ rest) = .ok (frame, rest) := by
  have long : ¬ (frameBytes frame reserved ++ rest).length < kHeaderSize := by
    simp only [frameBytes, List.length_append, header_length]
    omega
  have magic (following : List UInt8) : Codec.readMany Codec.u8 4 (Codec.writeAll Codec.u8 kMagic ++ following) = .ok (kMagic, following) :=
    Codec.read_many_back Codec.u8 kMagic following
  have count : (UInt8.ofNat frame.records.length).toNat = frame.records.length := by
    have limit : kMaxRecordsPerFrame = 255 := rfl
    exact UInt8.toNat_ofNat_of_lt' (by change _ < 256; omega)
  have enough : ¬ (frame.records.flatMap writeRecord ++ rest).length < frame.records.length * kRecordSize := by
    rw [List.length_append, records_length]
    omega
  have records := decode_records_back frame.records rest fit
  rw [decodeFrame, if_neg long]
  simp only [frameBytes, writeHeader, List.append_assoc, magic, ok_bind, ne_eq, not_true_eq_false, ↓reduceIte, Codec.back,
    frame_type_byte, count, enough, records]
  rfl

variable (unread rest : List UInt8) (frame : RelayFrame)

theorem decode_frame_forth (ran : decodeFrame unread = .ok (frame, rest)) :
    ∃ reserved, unread = frameBytes frame reserved ++ rest ∧ frame.records.length ≤ kMaxRecordsPerFrame ∧
      ∀ record ∈ frame.records, record.data.len ≤ 8 := by
  rw [decodeFrame] at ran
  split at ran
  · cases ran
  obtain ⟨⟨magic, one⟩, readMagic, ran⟩ := (bind_ok _ _ _).mp ran
  by_cases sameMagic : magic = kMagic
  swap
  · simp only [ne_eq, sameMagic, not_false_eq_true, ↓reduceIte, throw, throwThe, MonadExceptOf.throw, error_bind] at ran
    cases ran
  simp only [ne_eq, sameMagic, not_true_eq_false, ↓reduceIte] at ran
  obtain ⟨⟨typeByte, two⟩, readType, ran⟩ := (bind_ok _ _ _).mp ran
  split at ran
  · cases ran
  rename_i type known
  simp only [bind_ok] at ran
  obtain ⟨⟨count, three⟩, readCount, ⟨reserved, four⟩, readReserved, ran⟩ := ran
  split at ran
  · cases ran
  obtain ⟨⟨records, five⟩, readRecords, made⟩ := (bind_ok _ _ _).mp ran
  cases made
  dsimp only at readType readCount readReserved readRecords known ⊢
  obtain ⟨-, magicBytes⟩ := Codec.read_many_forth Codec.u8 4 unread one magic readMagic
  obtain ⟨counted, recordBytes, fit⟩ := decode_records_forth count.toNat four five records readRecords
  have countBound := count.toNat_lt
  refine ⟨reserved, ?_, ?_, fit⟩
  · have countByte : UInt8.ofNat records.length = count := by rw [counted, UInt8.ofNat_toNat]
    rw [magicBytes, sameMagic, Codec.u8.forth _ _ _ readType, Codec.u8.forth _ _ _ readCount,
      Codec.u16Le.forth _ _ _ readReserved, recordBytes]
    simp only [frameBytes, writeHeader, frame_type_sound typeByte type known, countByte, List.append_assoc]
  · have limit : kMaxRecordsPerFrame = 255 := rfl
    omega

theorem decode_frame_inside (unread : List UInt8) : decodeFrame unread ≠ .error .pastEnd := by
  rw [decodeFrame]
  split
  · nofun
  rename_i long
  have size : kHeaderSize = 8 := rfl
  obtain ⟨magic, one, readMagic⟩ := Codec.read_many_inside Codec.u8 4 unread (by simp only [Codec.u8_width]; omega)
  obtain ⟨magicCount, magicBytes⟩ := Codec.read_many_forth _ _ _ _ _ readMagic
  have afterMagic := congrArg List.length magicBytes
  rw [List.length_append, Codec.write_all_length, magicCount, Codec.u8_width] at afterMagic
  obtain ⟨typeByte, two, readType⟩ := Codec.u8.inside one (by simp only [Codec.u8_width]; omega)
  have afterType := Codec.read_length _ _ _ _ readType
  rw [Codec.u8_width] at afterType
  obtain ⟨count, three, readCount⟩ := Codec.u8.inside two (by simp only [Codec.u8_width]; omega)
  have afterCount := Codec.read_length _ _ _ _ readCount
  rw [Codec.u8_width] at afterCount
  obtain ⟨reserved, four, readReserved⟩ := Codec.u16Le.inside three (by simp only [Codec.u16_le_width]; omega)
  simp only [readMagic, readType, readCount, readReserved, ok_bind]
  split
  · nofun
  split
  · nofun
  split
  · nofun
  rename_i enough
  have records := decode_records_inside count.toNat four (not_lt.mp enough)
  cases read : decodeRecords count.toNat four with
  | error fault => simpa only [read, error_bind, ne_eq, Except.error.injEq] using records
  | ok result => nofun

theorem decode_frame_shorter (ran : decodeFrame unread = .ok (frame, rest)) : rest.length < unread.length := by
  obtain ⟨reserved, consumed, -⟩ := decode_frame_forth unread rest frame ran
  have header := header_length frame.type frame.records.length reserved
  have size : kHeaderSize = 8 := rfl
  rw [consumed]
  simp only [frameBytes, List.length_append]
  omega

def decodeRelayFrames (unread : List UInt8) : Except ReadFault (List RelayFrame) :=
  if unread = [] then .ok []
  else
    match _ran : decodeFrame unread with
    | .error fault => .error fault
    | .ok (frame, rest) => do
        let frames ← decodeRelayFrames rest
        return frame :: frames
termination_by unread.length
decreasing_by exact decode_frame_shorter unread rest frame _ran

theorem decode_frames_step (ran : decodeFrame unread = .ok (frame, rest)) :
    decodeRelayFrames unread = (decodeRelayFrames rest).map (frame :: ·) := by
  have present : unread ≠ [] := by
    rintro rfl
    exact absurd (decode_frame_shorter [] rest frame ran) (Nat.not_lt_zero _)
  rw [decodeRelayFrames, if_neg present]
  split
  · rename_i fault failed
    rw [ran] at failed
    cases failed
  · rename_i other following again
    rw [ran] at again
    cases again
    rfl

theorem decode_frames_fault (unread : List UInt8) (fault : ReadFault) (present : unread ≠ [])
    (ran : decodeFrame unread = .error fault) : decodeRelayFrames unread = .error fault := by
  rw [decodeRelayFrames, if_neg present]
  split
  · rename_i other failed
    rw [ran] at failed
    cases failed
    rfl
  · rename_i frame rest again
    rw [ran] at again
    cases again

def framesOf (type : RelayFrameType) (records : MotorMessages) : List RelayFrame :=
  if records = [] then [] else ⟨type, records.take kMaxRecordsPerFrame⟩ :: framesOf type (records.drop kMaxRecordsPerFrame)
termination_by records.length
decreasing_by
  rename_i present
  have positive := List.length_pos_iff.mpr present
  simp only [List.length_drop, kMaxRecordsPerFrame]
  omega

variable (type : RelayFrameType) (records : MotorMessages)

theorem frames_of_cut :
    (framesOf type records).flatMap RelayFrame.records = records ∧
      ∀ frame ∈ framesOf type records, frame.type = type ∧ frame.records.length ≤ kMaxRecordsPerFrame := by
  induction records using framesOf.induct with
  | case1 =>
    rw [framesOf]
    simp
  | case2 records present ih =>
    rw [framesOf, if_neg present]
    obtain ⟨joined, shaped⟩ := ih
    refine ⟨?_, ?_⟩
    · rw [List.flatMap_cons, joined]
      exact List.take_append_drop _ _
    · intro frame inside
      rcases List.mem_cons.mp inside with rfl | inside
      · exact ⟨rfl, List.length_take_le _ _⟩
      · exact shaped frame inside

theorem decode_encode_frames (fit : ∀ record ∈ records, record.data.len ≤ 8) :
    decodeRelayFrames (encodeFrames type records) = .ok (framesOf type records) := by
  induction records using framesOf.induct with
  | case1 =>
    rw [encodeFrames, framesOf, decodeRelayFrames]
    simp
  | case2 records present ih =>
    have others := ih fun record inside => fit record (List.mem_of_mem_drop inside)
    have first := decode_frame_back ⟨type, records.take kMaxRecordsPerFrame⟩ 0 (encodeFrames type (records.drop kMaxRecordsPerFrame))
      (List.length_take_le _ _) fun record inside => fit record (List.mem_of_mem_take inside)
    rw [encodeFrames, if_neg present, framesOf, if_neg present]
    rw [frameBytes, List.length_take] at first
    rw [decode_frames_step _ _ _ first, others]
    rfl

theorem encode_frames_bytes : encodeFrames type records = (framesOf type records).flatMap fun frame => frameBytes frame 0 := by
  induction records using framesOf.induct with
  | case1 =>
    rw [encodeFrames, framesOf]
    simp
  | case2 records present ih =>
    rw [encodeFrames, if_neg present, framesOf, if_neg present, List.flatMap_cons, ← ih, frameBytes, List.length_take]

def sentFrames (type : RelayFrameType) (records : MotorMessages) : List RelayFrame :=
  if records = [] then [⟨type, []⟩] else framesOf type records

theorem encode_relay_bytes :
    encodeRelayFrames type records = (sentFrames type records).flatMap fun frame => frameBytes frame 0 := by
  by_cases empty : records = []
  · subst empty
    rw [encodeRelayFrames, encodeFrames]
    simp [sentFrames, frameBytes]
  · rw [encodeRelayFrames, encode_frames_bytes, sentFrames, if_neg empty]
    simp [empty]

theorem decode_encode_relay (fit : ∀ record ∈ records, record.data.len ≤ 8) :
    decodeRelayFrames (encodeRelayFrames type records) = .ok (sentFrames type records) := by
  by_cases empty : records = []
  · subst empty
    have one := decode_frame_back ⟨type, []⟩ 0 [] (Nat.zero_le _) nofun
    have bytes : encodeRelayFrames type [] = frameBytes ⟨type, []⟩ 0 ++ [] := by
      rw [encode_relay_bytes]
      simp [sentFrames]
    rw [bytes, decode_frames_step _ _ _ one, decodeRelayFrames]
    rfl
  · have whole : encodeRelayFrames type records = encodeFrames type records := by simp [encodeRelayFrames, empty]
    rw [whole, decode_encode_frames type records fit, sentFrames, if_neg empty]

theorem sent_frames_shape :
    (sentFrames type records).flatMap RelayFrame.records = records ∧
      ∀ frame ∈ sentFrames type records, frame.type = type ∧ frame.records.length ≤ kMaxRecordsPerFrame := by
  by_cases empty : records = []
  · subst empty
    simp [sentFrames]
  · rw [sentFrames, if_neg empty]
    exact frames_of_cut type records

theorem sent_frames_single (frame : RelayFrame) (bounded : frame.records.length ≤ kMaxRecordsPerFrame) :
    sentFrames frame.type frame.records = [frame] := by
  by_cases empty : frame.records = []
  · obtain ⟨type, records⟩ := frame
    cases empty
    rfl
  · have shorter : frame.records.drop kMaxRecordsPerFrame = [] := List.drop_eq_nil_of_le bounded
    rw [sentFrames, if_neg empty, framesOf, if_neg empty, shorter, framesOf, List.take_of_length_le bounded]
    simp

def withReserved (reserved : UInt16) (bytes : List UInt8) : List UInt8 :=
  bytes.take 6 ++ Codec.u16Le.write reserved ++ bytes.drop 8

theorem frame_bytes_reserved (frame : RelayFrame) (reserved : UInt16) (bounded : frame.records.length ≤ kMaxRecordsPerFrame) :
    frameBytes frame reserved = withReserved reserved (encodeRelayFrames frame.type frame.records) := by
  rw [encode_relay_bytes, sent_frames_single frame bounded, List.flatMap_cons, List.flatMap_nil, List.append_nil]
  rfl

theorem decode_frames_forth (data : List UInt8) :
    decodeRelayFrames data = .error .refused ∨
      ∃ frames reserved, decodeRelayFrames data = .ok frames ∧ reserved.length = frames.length ∧
        (∀ frame ∈ frames, frame.records.length ≤ kMaxRecordsPerFrame ∧ ∀ record ∈ frame.records, record.data.len ≤ 8) ∧
        data = (List.zipWith frameBytes frames reserved).flatten := by
  induction data using decodeRelayFrames.induct with
  | case1 =>
    refine .inr ⟨[], [], ?_, rfl, nofun, rfl⟩
    rw [decodeRelayFrames]
    simp
  | case2 data present fault ran =>
    left
    rw [decode_frames_fault data fault present ran]
    cases fault with
    | pastEnd => exact absurd ran (decode_frame_inside data)
    | refused => rfl
  | case3 data present frame rest ran ih =>
    rw [decode_frames_step data rest frame ran]
    rcases ih with refused | ⟨frames, reserved, decoded, counted, shaped, bytes⟩
    · left
      rw [refused]
      rfl
    · right
      obtain ⟨first, consumed, bounded, fit⟩ := decode_frame_forth data rest frame ran
      refine ⟨frame :: frames, first :: reserved, by rw [decoded]; rfl, by simp [counted], ?_, ?_⟩
      · intro other inside
        rcases List.mem_cons.mp inside with rfl | inside
        · exact ⟨bounded, fit⟩
        · exact shaped other inside
      · rw [consumed, bytes]
        rfl

/-- Encoding and decoding are inverse up to the reserved bytes, and no input makes the decoder read past its end. -/
theorem relay_codec :
    (∀ (type : RelayFrameType) (records : MotorMessages), (∀ record ∈ records, record.data.len ≤ 8) →
      ∃ frames, decodeRelayFrames (encodeRelayFrames type records) = .ok frames ∧
        encodeRelayFrames type records = (frames.flatMap fun frame => frameBytes frame 0) ∧
        (∀ frame ∈ frames, frame.type = type ∧ frame.records.length ≤ kMaxRecordsPerFrame) ∧
        frames.flatMap RelayFrame.records = records ∧ (records = [] → frames = [⟨type, []⟩])) ∧
    ∀ data : List UInt8,
      decodeRelayFrames data = .error .refused ∨
        ∃ frames reserved, decodeRelayFrames data = .ok frames ∧ reserved.length = frames.length ∧
          data = (List.zipWith (fun frame bytes => withReserved bytes (encodeRelayFrames frame.type frame.records))
            frames reserved).flatten := by
  refine ⟨?_, ?_⟩
  · intro type records fit
    obtain ⟨joined, shaped⟩ := sent_frames_shape type records
    refine ⟨sentFrames type records, decode_encode_relay type records fit, encode_relay_bytes type records, shaped, joined, ?_⟩
    rintro rfl
    rfl
  · intro data
    rcases decode_frames_forth data with refused | ⟨frames, reserved, decoded, counted, shaped, bytes⟩
    · exact .inl refused
    · refine .inr ⟨frames, reserved, decoded, counted, bytes.trans (congrArg List.flatten ?_)⟩
      apply List.ext_getElem
      · simp
      · intro index inside _
        rw [List.length_zipWith] at inside
        have present : index < frames.length := by omega
        rw [List.getElem_zipWith, List.getElem_zipWith]
        exact frame_bytes_reserved _ _ (shaped _ (List.getElem_mem present)).1

def sampleRecord : MotorMessage := ⟨-2, ⟨0x12345678, 1, 8, payload [1, 2, 3, 4, 5, 6, 7, 8]⟩⟩

theorem relay_codec_sample :
    ∃ frames, decodeRelayFrames (encodeRelayFrames .relayToHelper [sampleRecord]) = .ok frames ∧
      frames.flatMap RelayFrame.records = [sampleRecord] := by
  obtain ⟨frames, decoded, -, -, joined, -⟩ := relay_codec.1 .relayToHelper [sampleRecord] (by decide)
  exact ⟨frames, decoded, joined⟩

end EncosDriver.Relay
