import EncosDriver.Lib.Bytes
import EncosDriver.Message.Types
import Mathlib.Data.UInt

set_option autoImplicit false

namespace EncosDriver.GsUsb

open Lib

def kClassicFrameSize : Nat := 20
def kFdFrameSize : Nat := 76

def kCanEff : UInt32 := 0x80000000
def kCanRtr : UInt32 := 0x40000000
def kCanExtIdMask : UInt32 := 0x1FFFFFFF
def kCanStdIdMask : UInt32 := 0x7FF

def kFrameFlagFd : UInt8 := 0x02
def kFrameFlagBrs : UInt8 := 0x04
def kFrameFlagEsi : UInt8 := 0x08

structure Frame where
  echoId : UInt32
  canId : UInt32
  dlc : UInt8
  channel : UInt8
  flags : UInt8
  reserved : UInt8
  data : Vector UInt8 64
deriving DecidableEq, Repr

def frameSize (flags : UInt8) : Nat := if flags &&& kFrameFlagFd ≠ 0 then kFdFrameSize else kClassicFrameSize

def dataSize (flags dlc : UInt8) : Nat := if flags &&& kFrameFlagFd ≠ 0 then dlc.toNat else min dlc.toNat 8

def filled (bytes : List UInt8) (size : Nat) : Vector UInt8 64 :=
  Vector.ofFn fun index => if index.val < size then bytes.getD index 0 else 0

def readLe32 (first second third fourth : UInt8) : UInt32 :=
  first.toUInt32 ||| (second.toUInt32 <<< 8) ||| (third.toUInt32 <<< 16) ||| (fourth.toUInt32 <<< 24)

def encodeFrame (frame : Frame) (capacity : Nat) : Option (List UInt8) :=
  if capacity < frameSize frame.flags then none
  else if dataSize frame.flags frame.dlc > 64 then none
  else
    some (Codec.writeU32Le frame.echoId ++ Codec.writeU32Le frame.canId ++ [frame.dlc, frame.channel, frame.flags, 0] ++
      frame.data.toList.take (dataSize frame.flags frame.dlc) ++
      List.replicate (frameSize frame.flags - 12 - dataSize frame.flags frame.dlc) 0)

def decodeFrame (data : List UInt8) : Option (Frame × Nat) :=
  if data.length < kClassicFrameSize then none
  else
    match data with
    | echo0 :: echo1 :: echo2 :: echo3 :: id0 :: id1 :: id2 :: id3 :: dlc :: channel :: flags :: _ :: body =>
      let canId := readLe32 id0 id1 id2 id3
      if flags &&& ~~~(kFrameFlagFd ||| kFrameFlagBrs ||| kFrameFlagEsi) ≠ 0 then none
      else if data.length < frameSize flags then none
      else if canId &&& kCanEff = 0 ∧ canId &&& kCanExtIdMask > kCanStdIdMask then none
      else if flags &&& kFrameFlagFd ≠ 0 ∧ (dlc > 15 ∨ canId &&& kCanRtr ≠ 0) then none
      else if flags &&& kFrameFlagFd = 0 ∧ (dlc > 8 ∨ flags &&& (kFrameFlagBrs ||| kFrameFlagEsi) ≠ 0) then none
      else
        some (⟨readLe32 echo0 echo1 echo2 echo3, canId, dlc, channel, flags, 0, filled body (dataSize flags dlc)⟩,
          frameSize flags)
    | _ => none

def Frame.Legal (frame : Frame) : Prop :=
  frame.flags &&& ~~~(kFrameFlagFd ||| kFrameFlagBrs ||| kFrameFlagEsi) = 0 ∧
    ¬ (frame.canId &&& kCanEff = 0 ∧ frame.canId &&& kCanExtIdMask > kCanStdIdMask) ∧
    ¬ (frame.flags &&& kFrameFlagFd ≠ 0 ∧ (frame.dlc > 15 ∨ frame.canId &&& kCanRtr ≠ 0)) ∧
    ¬ (frame.flags &&& kFrameFlagFd = 0 ∧ (frame.dlc > 8 ∨ frame.flags &&& (kFrameFlagBrs ||| kFrameFlagEsi) ≠ 0))

instance (frame : Frame) : Decidable frame.Legal := by
  unfold Frame.Legal
  infer_instance

theorem data_size_fits (frame : Frame) (small : dataSize frame.flags frame.dlc ≤ 64) :
    12 + dataSize frame.flags frame.dlc ≤ frameSize frame.flags := by
  unfold dataSize frameSize at *
  split <;> simp_all [kFdFrameSize, kClassicFrameSize] <;> omega

variable (frame : Frame) (capacity : Nat)

theorem encode_some (room : frameSize frame.flags ≤ capacity)
    (small : dataSize frame.flags frame.dlc ≤ 64) : ∃ bytes, encodeFrame frame capacity = some bytes :=
  ⟨_, by rw [encodeFrame, if_neg (Nat.not_lt.mpr room), if_neg (Nat.not_lt.mpr small)]⟩

theorem encode_frame_length (bytes : List UInt8)
    (encoded : encodeFrame frame capacity = some bytes) : bytes.length = frameSize frame.flags := by
  unfold encodeFrame at encoded
  split at encoded
  · cases encoded
  split at encoded
  · cases encoded
  rename_i small
  have fits := data_size_fits frame (by omega)
  cases encoded
  simp only [List.length_append, List.length_take, Vector.length_toList, List.length_replicate, Codec.writeU32Le,
    List.length_cons, List.length_nil]
  omega

theorem filled_prefix (data : List UInt8) (rest : List UInt8) (size : Nat) (inside : size ≤ data.length) :
    filled (data.take size ++ rest) size = filled data size := by
  ext index bound
  simp only [filled, Vector.getElem_ofFn]
  split
  · rename_i within
    rw [List.getD_eq_getElem?_getD, List.getElem?_append_left (by rw [List.length_take]; omega),
      List.getElem?_take_of_lt within, List.getD_eq_getElem?_getD]
  · rfl

def Frame.carried (frame : Frame) : Frame :=
  { frame with reserved := 0, data := filled frame.data.toList (dataSize frame.flags frame.dlc) }

theorem decode_encode_append (bytes rest : List UInt8) (encoded : encodeFrame frame capacity = some bytes) :
    decodeFrame (bytes ++ rest) = if frame.Legal then some (frame.carried, bytes.length) else none := by
  have sized := encode_frame_length frame capacity bytes encoded
  have classic : kClassicFrameSize ≤ frameSize frame.flags := by
    unfold frameSize
    split <;> decide
  unfold encodeFrame at encoded
  split at encoded
  · cases encoded
  split at encoded
  · cases encoded
  rename_i small
  have body := filled_prefix frame.data.toList
    (List.replicate (frameSize frame.flags - 12 - dataSize frame.flags frame.dlc) 0 ++ rest)
    (dataSize frame.flags frame.dlc) (by rw [Vector.length_toList]; omega)
  have echo : readLe32 _ _ _ _ = frame.echoId := Codec.join_split_u32 frame.echoId
  have id : readLe32 _ _ _ _ = frame.canId := Codec.join_split_u32 frame.canId
  have long : ¬ (bytes ++ rest).length < kClassicFrameSize := by rw [List.length_append]; omega
  have available : ¬ (bytes ++ rest).length < frameSize frame.flags := by rw [List.length_append]; omega
  cases Option.some.inj encoded
  rw [List.append_assoc, List.append_assoc] at long available ⊢
  simp only [Codec.writeU32Le, List.cons_append, List.nil_append] at sized long available ⊢
  rw [decodeFrame, if_neg long]
  dsimp only
  rw [id, echo, body, sized, if_neg available]
  by_cases legal : frame.Legal
  · have parts := legal
    obtain ⟨defined, standard, fd, plain⟩ := parts
    rw [if_pos legal, if_neg (not_not.mpr defined), if_neg standard, if_neg fd, if_neg plain]
    rfl
  · rw [if_neg legal]
    split_ifs with undefined nonstandard fd plain
    · rfl
    · rfl
    · rfl
    · rfl
    · exact absurd ⟨not_not.mp undefined, nonstandard, fd, plain⟩ legal

theorem decode_encode_frame (bytes : List UInt8) (encoded : encodeFrame frame capacity = some bytes) :
    decodeFrame bytes = if frame.Legal then some (frame.carried, bytes.length) else none := by
  have alone := decode_encode_append frame capacity bytes [] encoded
  rwa [List.append_nil] at alone

open Message

def idMask (extended : Bool) : UInt32 := if extended then kCanExtIdMask else kCanStdIdMask

def echoIdOf (counter : UInt32) : UInt32 := counter % 9 + 1

def outgoing (message : MotorMessage) (counter : UInt32) : Frame :=
  let flags := sanitizeCanFrameFlags message.data.frameFlags
  let extended := canFrameFlagsUseExtendedId flags
  let dlc := if message.data.len < 8 then message.data.len else 8
  { echoId := echoIdOf counter
    canId := message.data.id &&& idMask extended ||| (if extended then kCanEff else 0) |||
      (if canFrameFlagsUseRtr flags then kCanRtr else 0)
    dlc := dlc
    channel := message.busIdx.toUInt32.toUInt8
    flags := if canFrameFlagsUseCanFd flags then kFrameFlagFd ||| kFrameFlagBrs else 0
    reserved := 0
    data := filled message.data.data.toList dlc.toNat }

def writeFrame (message : MotorMessage) (counter : UInt32) (written : Bool) : Option (List UInt8) :=
  match encodeFrame (outgoing message counter) kFdFrameSize with
  | none => none
  | some bytes => if written then some bytes else none

def incoming (frame : Frame) : MotorMessage :=
  let extended : Bool := frame.canId &&& kCanEff ≠ 0
  let len := if frame.dlc < 8 then frame.dlc else 8
  { busIdx := frame.channel.toUInt32.toInt32
    data :=
      { id := frame.canId &&& idMask extended
        frameFlags := sanitizeCanFrameFlags ((if extended then kCanFrameFlagEff else 0) |||
          (if frame.canId &&& kCanRtr ≠ 0 then kCanFrameFlagRtr else 0) |||
          (if frame.flags &&& kFrameFlagFd ≠ 0 then kCanFrameFlagFdMask else 0))
        len := len
        data := payload (frame.data.toList.take len.toNat) } }

structure SameMessage (sent received : MotorMessage) : Prop where
  bus : received.busIdx = sent.busIdx
  id : received.data.id = sent.data.id
  flags : sanitizeCanFrameFlags received.data.frameFlags = sanitizeCanFrameFlags sent.data.frameFlags
  len : received.data.len = sent.data.len
  data : ∀ index : Fin 8, index.val < sent.data.len.toNat → received.data.data[index] = sent.data.data[index]

structure Representable (message : MotorMessage) : Prop where
  id : message.data.id ≤ idMask (canFrameFlagsUseExtendedId message.data.frameFlags)
  bus : 0 ≤ message.busIdx ∧ message.busIdx ≤ 255
  len : message.data.len ≤ 8
  fdBits : canFrameFlagsHaveValidCanFdBits message.data.frameFlags = true
  fdRemote : ¬ (canFrameFlagsUseCanFd message.data.frameFlags = true ∧ canFrameFlagsUseRtr message.data.frameFlags = true)

def Faithful (message : MotorMessage) : Prop :=
  ∀ counter written bytes, writeFrame message counter written = some bytes →
    ∃ frame, decodeFrame bytes = some (frame, bytes.length) ∧ SameMessage message (incoming frame)

theorem or_and (first second mask : UInt32) : (first ||| second) &&& mask = first &&& mask ||| second &&& mask :=
  UInt32.toBitVec_inj.mp BitVec.and_or_distrib_right

theorem marked_id (id : UInt32) (extended rtr : Bool) (canId : UInt32)
    (made : canId = id &&& idMask extended ||| (if extended then kCanEff else 0) ||| (if rtr then kCanRtr else 0)) :
    (canId &&& kCanEff = if extended then kCanEff else 0) ∧ (canId &&& kCanRtr = if rtr then kCanRtr else 0) ∧
      canId &&& idMask extended = id &&& idMask extended := by
  subst made
  refine ⟨?_, ?_, ?_⟩
  · have other : idMask extended &&& kCanEff = 0 := by cases extended <;> rfl
    have marker : (if extended then kCanEff else 0) &&& kCanEff = if extended then kCanEff else 0 := by cases extended <;> rfl
    have remote : (if rtr then kCanRtr else 0) &&& kCanEff = 0 := by cases rtr <;> rfl
    rw [or_and, or_and, UInt32.and_assoc, other, marker, remote, UInt32.and_zero, UInt32.zero_or, UInt32.or_zero]
  · have other : idMask extended &&& kCanRtr = 0 := by cases extended <;> rfl
    have marker : (if extended then kCanEff else 0) &&& kCanRtr = 0 := by cases extended <;> rfl
    have remote : (if rtr then kCanRtr else 0) &&& kCanRtr = if rtr then kCanRtr else 0 := by cases rtr <;> rfl
    rw [or_and, or_and, UInt32.and_assoc, other, marker, remote, UInt32.and_zero, UInt32.or_zero, UInt32.zero_or]
  · have marker : (if extended then kCanEff else 0) &&& idMask extended = 0 := by cases extended <;> rfl
    have remote : (if rtr then kCanRtr else 0) &&& idMask extended = 0 := by cases extended <;> cases rtr <;> rfl
    rw [or_and, or_and, UInt32.and_assoc, UInt32.and_self, marker, remote, UInt32.or_zero, UInt32.or_zero]

theorem marked_standard (id : UInt32) (rtr : Bool) :
    (id &&& kCanStdIdMask ||| (if rtr then kCanRtr else 0)) &&& kCanExtIdMask ≤ kCanStdIdMask := by
  have masks : kCanStdIdMask &&& kCanExtIdMask = kCanStdIdMask := rfl
  have remote : (if rtr then kCanRtr else 0) &&& kCanExtIdMask = 0 := by cases rtr <;> rfl
  rw [or_and, UInt32.and_assoc, masks, remote, UInt32.or_zero, UInt32.le_iff_toNat_le, UInt32.toNat_and]
  exact Nat.and_le_right

theorem masked_same (id : UInt32) (extended : Bool) : id &&& idMask extended = id ↔ id ≤ idMask extended := by
  have bits (size : Nat) (mask : UInt32) (value : mask.toNat = 2 ^ size - 1) : id &&& mask = id ↔ id ≤ mask := by
    rw [← UInt32.toNat_inj, UInt32.toNat_and, value, Nat.and_two_pow_sub_one_eq_mod, UInt32.le_iff_toNat_le, value]
    have positive : 0 < 2 ^ size := Nat.two_pow_pos size
    constructor
    · intro same
      have bound := Nat.mod_lt id.toNat positive
      omega
    · intro bound
      exact Nat.mod_eq_of_lt (by omega)
  cases extended with
  | false => exact bits 11 kCanStdIdMask rfl
  | true => exact bits 29 kCanExtIdMask rfl

def carriedFlags (extended rtr fd : Bool) : UInt8 :=
  (if extended then kCanFrameFlagEff else 0) ||| (if rtr then kCanFrameFlagRtr else 0) |||
    (if fd then kCanFrameFlagFdMask else 0)

theorem carried_flags_same (flags : UInt8) :
    sanitizeCanFrameFlags (carriedFlags (canFrameFlagsUseExtendedId flags) (canFrameFlagsUseRtr flags)
      (canFrameFlagsUseCanFd flags)) = sanitizeCanFrameFlags flags ↔ canFrameFlagsHaveValidCanFdBits flags = true := by
  have every := sanitized_cases (fun flags => sanitizeCanFrameFlags (carriedFlags (canFrameFlagsUseExtendedId flags)
    (canFrameFlagsUseRtr flags) (canFrameFlagsUseCanFd flags)) = sanitizeCanFrameFlags flags ↔
      canFrameFlagsHaveValidCanFdBits flags = true) (by decide) flags
  simpa only [sanitized_extended, sanitized_rtr, sanitized_can_fd, sanitize_sanitize, canFrameFlagsHaveValidCanFdBits]
    using every

def cut (len : UInt8) : UInt8 := if len < 8 then len else 8

theorem cut_small (len : UInt8) : (cut len).toNat ≤ 8 := by
  unfold cut
  split
  · rename_i small
    have bound : len.toNat < 8 := UInt8.lt_iff_toNat_lt.mp small
    omega
  · decide

theorem cut_cut (len : UInt8) : cut (cut len) = cut len := by
  by_cases small : len < 8
  · simp only [cut, small, ↓reduceIte]
  · simp [cut, small]

theorem cut_same (len : UInt8) : cut len = len ↔ len ≤ 8 := by
  have bound : (8 : UInt8).toNat = 8 := rfl
  unfold cut
  split
  · rename_i small
    exact ⟨fun _ => UInt8.le_of_lt small, fun _ => rfl⟩
  · rename_i large
    rw [UInt8.le_iff_toNat_le, ← UInt8.toNat_inj, bound]
    have above : ¬ len.toNat < 8 := fun small => large (UInt8.lt_iff_toNat_lt.mpr small)
    omega

def carried (message : MotorMessage) : MotorMessage :=
  let extended := canFrameFlagsUseExtendedId message.data.frameFlags
  { busIdx := message.busIdx.toUInt32.toUInt8.toUInt32.toInt32
    data :=
      { id := message.data.id &&& idMask extended
        frameFlags := sanitizeCanFrameFlags (carriedFlags extended (canFrameFlagsUseRtr message.data.frameFlags)
          (canFrameFlagsUseCanFd message.data.frameFlags))
        len := cut message.data.len
        data := payload (message.data.data.toList.take (cut message.data.len).toNat) } }

theorem filled_get (bytes : List UInt8) (size index : Nat) (inside : index < size) (fits : size ≤ 64) :
    (filled bytes size).toList.getD index 0 = bytes.getD index 0 := by
  have bound : index < 64 := by omega
  simp [filled, List.getD_eq_getElem?_getD, bound, inside]

theorem payload_filled (data : Vector UInt8 8) (size count : Nat) (fits : size ≤ 8) (covers : count = size) :
    payload ((filled (filled data.toList size).toList count).toList.take size) = payload (data.toList.take size) := by
  subst covers
  ext index inside
  simp only [payload, Vector.getElem_ofFn, List.getD_eq_getElem?_getD]
  by_cases within : index < count
  · rw [List.getElem?_take_of_lt within, List.getElem?_take_of_lt within, ← List.getD_eq_getElem?_getD,
      ← List.getD_eq_getElem?_getD, filled_get _ _ _ within (by omega), filled_get _ _ _ within (by omega)]
  · rw [List.getElem?_take_eq_none (by omega), List.getElem?_take_eq_none (by omega)]

variable (message : MotorMessage) (counter : UInt32)

theorem outgoing_size :
    dataSize (outgoing message counter).flags (outgoing message counter).dlc = (cut message.data.len).toNat := by
  have small := cut_small message.data.len
  have same : (outgoing message counter).dlc = cut message.data.len := rfl
  rw [same]
  unfold dataSize
  split <;> omega

theorem outgoing_flags :
    (outgoing message counter).flags =
      if canFrameFlagsUseCanFd message.data.frameFlags then kFrameFlagFd ||| kFrameFlagBrs else 0 := by
  simp only [outgoing, sanitized_can_fd]

theorem outgoing_id :
    (outgoing message counter).canId = message.data.id &&& idMask (canFrameFlagsUseExtendedId message.data.frameFlags) |||
      (if canFrameFlagsUseExtendedId message.data.frameFlags then kCanEff else 0) |||
      (if canFrameFlagsUseRtr message.data.frameFlags then kCanRtr else 0) := by
  simp only [outgoing, sanitized_extended, sanitized_rtr]

theorem encode_outgoing : ∃ bytes, encodeFrame (outgoing message counter) kFdFrameSize = some bytes := by
  have room : frameSize (outgoing message counter).flags ≤ kFdFrameSize := by
    unfold frameSize
    split <;> decide
  have small := cut_small message.data.len
  have size := outgoing_size message counter
  exact encode_some (outgoing message counter) kFdFrameSize room (by omega)

theorem outgoing_legal : (outgoing message counter).Legal ↔
    ¬ (canFrameFlagsUseCanFd message.data.frameFlags = true ∧ canFrameFlagsUseRtr message.data.frameFlags = true) := by
  obtain ⟨eff, remote, -⟩ := marked_id message.data.id (canFrameFlagsUseExtendedId message.data.frameFlags)
    (canFrameFlagsUseRtr message.data.frameFlags) _ (outgoing_id message counter)
  have dlc : (outgoing message counter).dlc = cut message.data.len := rfl
  have small := cut_small message.data.len
  have notLong : ¬ cut message.data.len > 15 := by
    rw [gt_iff_lt, UInt8.lt_iff_toNat_lt]
    exact fun long => absurd (Nat.lt_of_lt_of_le long small) (by decide)
  have notLonger : ¬ cut message.data.len > 8 := by
    rw [gt_iff_lt, UInt8.lt_iff_toNat_lt]
    exact fun long => absurd (Nat.lt_of_lt_of_le long small) (by decide)
  have standard : ¬ ((outgoing message counter).canId &&& kCanEff = 0 ∧
      (outgoing message counter).canId &&& kCanExtIdMask > kCanStdIdMask) := by
    rw [eff]
    rintro ⟨unmarked, above⟩
    cases extended : canFrameFlagsUseExtendedId message.data.frameFlags with
    | true => simp [extended, kCanEff] at unmarked
    | false =>
      have bound := marked_standard message.data.id (canFrameFlagsUseRtr message.data.frameFlags)
      have same : (outgoing message counter).canId = message.data.id &&& kCanStdIdMask |||
          (if canFrameFlagsUseRtr message.data.frameFlags then kCanRtr else 0) := by
        rw [outgoing_id, extended]
        simp [idMask]
      rw [same] at above
      exact UInt32.not_lt.mpr bound above
  unfold Frame.Legal
  rw [dlc, outgoing_flags, remote]
  cases fd : canFrameFlagsUseCanFd message.data.frameFlags with
  | false =>
    have none : (0 : UInt8) &&& kFrameFlagFd = 0 := rfl
    have plain : (0 : UInt8) &&& (kFrameFlagBrs ||| kFrameFlagEsi) = 0 := rfl
    simp only [Bool.false_eq_true, ↓reduceIte, false_and, not_false_eq_true, iff_true, none, plain, ne_eq, not_true_eq_false,
      notLonger, or_false, and_false, and_true, UInt8.zero_and]
    exact ⟨trivial, standard⟩
  | true =>
    have both : (kFrameFlagFd ||| kFrameFlagBrs) &&& kFrameFlagFd ≠ 0 := by decide
    have defined : (kFrameFlagFd ||| kFrameFlagBrs) &&& ~~~(kFrameFlagFd ||| kFrameFlagBrs ||| kFrameFlagEsi) = 0 := rfl
    cases rtr : canFrameFlagsUseRtr message.data.frameFlags with
    | false => simpa [both, defined, notLong] using standard
    | true => simp [both, kCanRtr]

theorem incoming_outgoing : incoming (outgoing message counter).carried = carried message := by
  obtain ⟨eff, remote, masked⟩ := marked_id message.data.id (canFrameFlagsUseExtendedId message.data.frameFlags)
    (canFrameFlagsUseRtr message.data.frameFlags) _ (outgoing_id message counter)
  have extended : decide ((outgoing message counter).canId &&& kCanEff ≠ 0) =
      canFrameFlagsUseExtendedId message.data.frameFlags := by
    rw [eff]
    cases canFrameFlagsUseExtendedId message.data.frameFlags <;> rfl
  have rtr : ((outgoing message counter).canId &&& kCanRtr ≠ 0) ↔ canFrameFlagsUseRtr message.data.frameFlags = true := by
    rw [remote]
    cases canFrameFlagsUseRtr message.data.frameFlags <;> decide
  have fd : ((outgoing message counter).flags &&& kFrameFlagFd ≠ 0) ↔ canFrameFlagsUseCanFd message.data.frameFlags = true := by
    rw [outgoing_flags]
    cases canFrameFlagsUseCanFd message.data.frameFlags <;> decide
  have data := payload_filled message.data.data (cut message.data.len).toNat
    (dataSize (outgoing message counter).flags (outgoing message counter).dlc) (cut_small message.data.len)
    (outgoing_size message counter)
  have len : (if (outgoing message counter).dlc < 8 then (outgoing message counter).dlc else 8) = cut message.data.len :=
    cut_cut message.data.len
  have stored : (outgoing message counter).data = filled message.data.data.toList (cut message.data.len).toNat := rfl
  dsimp only [incoming, Frame.carried, carried, carriedFlags]
  rw [extended, masked, len, stored, data]
  simp only [rtr, fd]
  rfl

theorem signed_value (word : UInt32) : word.toInt32.toInt =
    if word.toNat < 2147483648 then (word.toNat : Int) else (word.toNat : Int) - 4294967296 := by
  have value : word.toInt32.toInt = _ := BitVec.toInt_eq_toNat_cond word.toBitVec
  have size : (2 : Nat) ^ 32 = 4294967296 := rfl
  rw [value, size, UInt32.toNat_toBitVec]
  split <;> split <;> omega

theorem narrowed_bus (bus : Int32) : bus.toUInt32.toUInt8.toUInt32.toInt32 = bus ↔ 0 ≤ bus ∧ bus ≤ 255 := by
  have low : (0 : Int32).toInt = 0 := rfl
  have high : (255 : Int32).toInt = 255 := rfl
  have back : bus.toUInt32.toInt32 = bus := rfl
  have value := signed_value bus.toUInt32
  have byte := signed_value bus.toUInt32.toUInt8.toUInt32
  have bound := bus.toUInt32.toNat_lt
  rw [back] at value
  rw [UInt8.toNat_toUInt32, UInt32.toNat_toUInt8] at byte
  rw [← Int32.toInt_inj, byte, Int32.le_iff_toInt_le, Int32.le_iff_toInt_le, low, high, value]
  split <;> split <;> omega

theorem carried_same : SameMessage message (carried message) ↔
    message.data.id ≤ idMask (canFrameFlagsUseExtendedId message.data.frameFlags) ∧
      (0 ≤ message.busIdx ∧ message.busIdx ≤ 255) ∧ message.data.len ≤ 8 ∧
      canFrameFlagsHaveValidCanFdBits message.data.frameFlags = true := by
  have flags := carried_flags_same message.data.frameFlags
  constructor
  · intro same
    refine ⟨(masked_same _ _).mp same.id, (narrowed_bus _).mp same.bus, (cut_same _).mp same.len, flags.mp ?_⟩
    simpa only [carried, sanitize_sanitize] using same.flags
  · rintro ⟨id, bus, len, fdBits⟩
    refine ⟨(narrowed_bus _).mpr bus, (masked_same _ _).mpr id, ?_, (cut_same _).mpr len, ?_⟩
    · simpa only [carried, sanitize_sanitize] using flags.mpr fdBits
    · intro index inside
      have whole := (cut_same _).mpr len
      simp only [carried, whole, payload, Fin.getElem_fin, Vector.getElem_ofFn, List.getD_eq_getElem?_getD,
        List.getElem?_take_of_lt inside]
      simp

/-- A message comes back as itself whenever WriteFrame accepts it exactly when the wire has room for all of it. -/
theorem wire_fidelity (message : MotorMessage) : Faithful message ↔ Representable message := by
  have received (counter : UInt32) (bytes : List UInt8)
      (encoded : encodeFrame (outgoing message counter) kFdFrameSize = some bytes) :=
    decode_encode_frame (outgoing message counter) kFdFrameSize bytes encoded
  constructor
  · intro faithful
    obtain ⟨bytes, encoded⟩ := encode_outgoing message 0
    obtain ⟨frame, decoded, same⟩ := faithful 0 true bytes (by rw [writeFrame, encoded]; rfl)
    rw [received 0 bytes encoded] at decoded
    split at decoded
    · rename_i legal
      cases decoded
      rw [incoming_outgoing] at same
      obtain ⟨id, bus, len, fdBits⟩ := (carried_same message).mp same
      exact ⟨id, bus, len, fdBits, (outgoing_legal message 0).mp legal⟩
    · cases decoded
  · intro representable counter written bytes accepted
    obtain ⟨whole, encoded⟩ := encode_outgoing message counter
    rw [writeFrame, encoded] at accepted
    dsimp only at accepted
    split at accepted
    · cases accepted
      have legal := (outgoing_legal message counter).mpr representable.fdRemote
      refine ⟨(outgoing message counter).carried, by rw [received counter bytes encoded, if_pos legal], ?_⟩
      rw [incoming_outgoing]
      exact (carried_same message).mpr ⟨representable.id, representable.bus, representable.len, representable.fdBits⟩
    · cases accepted

def wideMessage : MotorMessage := ⟨0, ⟨0x800, 0, 8, #v[1, 2, 3, 4, 5, 6, 7, 8]⟩⟩

theorem wide_message_altered :
    ∃ bytes frame, writeFrame wideMessage 0 true = some bytes ∧ decodeFrame bytes = some (frame, bytes.length) ∧
      (incoming frame).data.id = 0 ∧ ¬ Faithful wideMessage := by
  obtain ⟨bytes, encoded⟩ := encode_outgoing wideMessage 0
  have accepted : writeFrame wideMessage 0 true = some bytes := by
    rw [writeFrame, encoded]
    rfl
  have decoded : decodeFrame bytes = some ((outgoing wideMessage 0).carried, bytes.length) := by
    rw [decode_encode_frame _ _ _ encoded, if_pos ((outgoing_legal wideMessage 0).mpr (by decide))]
  have altered : (incoming (outgoing wideMessage 0).carried).data.id = 0 := by
    rw [incoming_outgoing]
    rfl
  refine ⟨bytes, _, accepted, decoded, altered, ?_⟩
  intro faithful
  obtain ⟨frame, again, same⟩ := faithful 0 true bytes accepted
  rw [decoded] at again
  cases again
  have other := same.id
  rw [altered] at other
  exact absurd other (by decide)

end EncosDriver.GsUsb
