import EncosDriver.Motor.Command

set_option autoImplicit false

namespace EncosDriver.Fake

open Message Motor

inductive FakeCommandKind where
  | unknown
  | pvtControl
  | posControl
  | spdControl
  | curControl
  | torControl
  | stop
  | brake
  | setId
  | setPos
  | resetZeroPos
  | getParameter
  | setParameter
deriving DecidableEq, Repr

-- A real-valued field is kept as the code that it is computed from; an
-- enumeration that a byte is cast to, as that byte.
inductive FakeCommandPayload where
  | monostate
  | pvtControl (kpInt kdInt posInt spdInt torInt : UInt16)
  | posControl (positionBits : UInt32) (spdInt curInt : UInt16) (feedbackType : UInt8)
  | spdControl (speedBits : UInt32) (cur : UInt16) (feedbackType : UInt8)
  | curControl (raw : Int16) (feedbackType : UInt8)
  | torControl (raw : Int16) (feedbackType : UInt8)
  | stop (mode : UInt8) (raw : Int16) (feedbackType : UInt8)
  | brake (enabled waitForAck : Bool)
  | setId (sourceId targetId : UInt16) (waitForAck : Bool)
  | setPos (centideg : Int16) (waitForAck : Bool)
  | resetZeroPos (waitForAck isLegacyReset : Bool)
  | getParameter (parameter : UInt8)
  | setParameter (parameter : Option MotorParameter) (rawParameterId : UInt8) (rawValue : List UInt8) (waitForAck : Bool)
deriving DecidableEq, Repr

structure FakeCommandRecord where
  busIdx : Int32
  motorIdx : Int32
  rawFrameFlags : UInt8
  kind : FakeCommandKind
  payload : FakeCommandPayload
deriving DecidableEq, Repr

def fakeWriteParameterFromRawId : UInt8 → Option MotorParameter
  | 0x05 => some .pvtKpRange
  | 0x06 => some .pvtKdRange
  | 0x07 => some .pvtPosRange
  | 0x08 => some .pvtSpdRange
  | 0x09 => some .pvtTorRange
  | 0x0A => some .pvtCurRange
  | 0x0B => some .canTimeout
  | 0x0C => some .curKpKi
  | 0x0D => some .spdKpKi
  | 0x0E => some .posKpKd
  | _ => none

def fakeRawIdFromWriteParameter : MotorParameter → UInt8
  | .pvtKpRange => 0x05
  | .pvtKdRange => 0x06
  | .pvtPosRange => 0x07
  | .pvtSpdRange => 0x08
  | .pvtTorRange => 0x09
  | .pvtCurRange => 0x0A
  | .canTimeout => 0x0B
  | .curKpKi => 0x0C
  | .spdKpKi => 0x0D
  | .posKpKd => 0x0E
  | parameter => parameter.value

def word (high low : UInt8) : UInt16 := (high.toUInt16 <<< 8) ||| low.toUInt16

def word32 (first second third fourth : UInt8) : UInt32 :=
  (first.toUInt32 <<< 24) ||| (second.toUInt32 <<< 16) ||| (third.toUInt32 <<< 8) ||| fourth.toUInt32

def positionBits (data : Vector UInt8 8) : UInt32 :=
  word32 (((data.get 0 &&& 0x1F) <<< 3) ||| (data.get 1 >>> 5)) (((data.get 1 &&& 0x1F) <<< 3) ||| (data.get 2 >>> 5))
    (((data.get 2 &&& 0x1F) <<< 3) ||| (data.get 3 >>> 5)) (((data.get 3 &&& 0x1F) <<< 3) ||| (data.get 4 >>> 5))

def decodePosControl (data : Vector UInt8 8) : FakeCommandPayload :=
  .posControl (positionBits data)
    (((data.get 4 &&& 0x1F).toUInt16 <<< 10) ||| ((data.get 5).toUInt16 <<< 2) ||| ((data.get 6).toUInt16 >>> 6))
    (((data.get 6 &&& 0x3F).toUInt16 <<< 6) ||| ((data.get 7).toUInt16 >>> 2)) (data.get 7 &&& 0x03)

def decodePVTControl (data : Vector UInt8 8) : FakeCommandPayload :=
  .pvtControl (((data.get 0).toUInt16 <<< 7) ||| ((data.get 1).toUInt16 >>> 1)) (((data.get 1 &&& 0x01).toUInt16 <<< 8) ||| (data.get 2).toUInt16)
    (((data.get 3).toUInt16 <<< 8) ||| (data.get 4).toUInt16) (((data.get 5).toUInt16 <<< 4) ||| ((data.get 6).toUInt16 >>> 4))
    (((data.get 6 &&& 0x0F).toUInt16 <<< 8) ||| (data.get 7).toUInt16)

def decodeTarget (data : Vector UInt8 8) : FakeCommandKind × FakeCommandPayload :=
  let selector := (data.get 0 >>> 2) &&& 0x07
  let raw := (word (data.get 1) (data.get 2)).toInt16
  if selector = 0 then (.curControl, .curControl raw (data.get 0 &&& 0x03))
  else if selector = 1 then (.torControl, .torControl raw (data.get 0 &&& 0x03))
  else (.stop, .stop selector raw (data.get 0 &&& 0x03))

def decodePayload (pack : MotorPackMsg) : FakeCommandKind × FakeCommandPayload :=
  let data := pack.data
  if pack.id = 0x7FF ∧ pack.len = 6 ∧ data.get 3 = 0x04 then
    (.setId, .setId (word (data.get 0) (data.get 1)) (word (data.get 4) (data.get 5)) true)
  else if pack.id = 0x7FF ∧ pack.len = 6 ∧ data.get 3 = 0x03 then (.setPos, .setPos (word (data.get 4) (data.get 5)).toInt16 true)
  else if pack.id = 0x7FF ∧ pack.len = 4 ∧ data.get 3 = 0x03 then (.resetZeroPos, .resetZeroPos true true)
  else if pack.len = 2 ∧ data.get 0 = (0x07 : UInt8) <<< 5 then (.getParameter, .getParameter (data.get 1))
  else if pack.len = 3 ∧ data.get 0 &&& 0xFC = 0x74 ∧ data.get 1 = 0 ∧ data.get 2 ≤ 1 then (.brake, .brake (data.get 2 = 0) true)
  else if pack.len = 7 ∧ data.get 0 &&& 0xE0 = 0x40 then
    (.spdControl, .spdControl (word32 (data.get 1) (data.get 2) (data.get 3) (data.get 4)) (word (data.get 5) (data.get 6)) (data.get 0 &&& 0x1F))
  else if pack.len = 8 ∧ data.get 0 &&& 0xE0 = 0x20 then (.posControl, decodePosControl data)
  else if pack.len = 3 ∧ data.get 0 &&& 0xE0 = 0x60 then decodeTarget data
  else if pack.len = 8 then (.pvtControl, decodePVTControl data)
  else if 3 ≤ pack.len ∧ data.get 0 &&& 0xE0 = 0xC0 then
    (.setParameter, .setParameter (fakeWriteParameterFromRawId (data.get 1)) (data.get 1) ((data.toList.take pack.len.toNat).drop 2)
      (data.get 0 &&& 0x01 ≠ 0))
  else (.unknown, .monostate)

def logicalMotorId (pack : MotorPackMsg) : Int32 :=
  if pack.id = 0x7FF ∧ 2 ≤ pack.len then (word (pack.data.get 0) (pack.data.get 1)).toUInt32.toInt32 else pack.id.toInt32

def decodeFakeCommand (message : MotorMessage) : FakeCommandRecord :=
  let decoded := decodePayload message.data
  ⟨message.busIdx, logicalMotorId message.data, message.data.frameFlags, decoded.1, decoded.2⟩

open Lib

theorem high_bits (value : UInt16) (width : Nat) (fits : value.toNat < 2 ^ width) (index : Nat) (inside : index < 16)
    (high : width ≤ index) : value.toBitVec[index] = false := by
  have bit : value.toBitVec.getLsbD index = false :=
    Nat.testBit_lt_two_pow (Nat.lt_of_lt_of_le fits (Nat.pow_le_pow_right (by decide) high))
  rwa [BitVec.getLsbD_eq_getElem inside] at bit

theorem feedback_bits (feedback : UInt8) (small : feedback ≤ 3) (index : Nat) (inside : index < 8) (high : 2 ≤ index) :
    feedback.toBitVec[index] = false := by
  have fits : feedback.toBitVec.toNat < 2 ^ 2 := Nat.lt_succ_of_le small
  have bit : feedback.toBitVec.getLsbD index = false :=
    Nat.testBit_lt_two_pow (Nat.lt_of_lt_of_le fits (Nat.pow_le_pow_right (by decide) high))
  rwa [BitVec.getLsbD_eq_getElem inside] at bit

theorem word_bytes (value : UInt16) : word (value >>> 8).toUInt8 (value &&& 0xFF).toUInt8 = value := read_u16_be value

theorem low_byte (value : UInt32) : (value &&& 0xFF).toUInt8 = value.toUInt8 := by
  apply UInt8.eq_of_toBitVec_eq
  simp only [UInt32.toBitVec_and, UInt32.toBitVec_toUInt8]
  ext index inRange
  simp
  interval_cases index <;> simp

theorem word32_bytes (value : UInt32) :
    word32 (value >>> 24).toUInt8 (value >>> 16).toUInt8 (value >>> 8).toUInt8 value.toUInt8 = value := by
  have joined := Codec.join_split_u32 value
  simp only [low_byte] at joined
  have turned (first second third fourth : UInt32) : first ||| second ||| third ||| fourth = fourth ||| third ||| second ||| first := by
    ac_rfl
  exact (turned _ _ _ _).trans joined

section Pvt

variable (kpInt kdInt spdInt torInt : UInt16)

theorem kp_field (fits : kpInt.toNat < 2 ^ 12) :
    ((kpInt >>> 7).toUInt8.toUInt16 <<< 7) ||| ((((kpInt &&& 0x7F) <<< 1) ||| ((kdInt &&& 0x100) >>> 8)).toUInt8.toUInt16 >>> 1) =
      kpInt := by
  apply UInt16.eq_of_toBitVec_eq
  simp only [UInt16.toBitVec_or, UInt16.toBitVec_and, UInt16.toBitVec_shiftLeft, UInt16.toBitVec_shiftRight,
    UInt8.toBitVec_toUInt16, UInt16.toBitVec_toUInt8]
  ext index inRange
  simp
  interval_cases index <;> simp [high_bits kpInt 12 fits]

theorem kd_field (fits : kdInt.toNat < 2 ^ 9) :
    (((((kpInt &&& 0x7F) <<< 1) ||| ((kdInt &&& 0x100) >>> 8)).toUInt8 &&& 0x01).toUInt16 <<< 8) ||| (kdInt &&& 0xFF).toUInt8.toUInt16 =
      kdInt := by
  apply UInt16.eq_of_toBitVec_eq
  simp only [UInt16.toBitVec_or, UInt16.toBitVec_and, UInt16.toBitVec_shiftLeft, UInt16.toBitVec_shiftRight,
    UInt8.toBitVec_toUInt16, UInt16.toBitVec_toUInt8, UInt8.toBitVec_and]
  ext index inRange
  simp
  interval_cases index <;> simp [high_bits kdInt 9 fits]

theorem spd_field (spdFits : spdInt.toNat < 2 ^ 12) (torFits : torInt.toNat < 2 ^ 12) :
    ((spdInt >>> 4).toUInt8.toUInt16 <<< 4) ||| ((((spdInt &&& 0x0F) <<< 4) ||| (torInt >>> 8)).toUInt8.toUInt16 >>> 4) = spdInt := by
  apply UInt16.eq_of_toBitVec_eq
  simp only [UInt16.toBitVec_or, UInt16.toBitVec_and, UInt16.toBitVec_shiftLeft, UInt16.toBitVec_shiftRight,
    UInt8.toBitVec_toUInt16, UInt16.toBitVec_toUInt8]
  ext index inRange
  simp
  interval_cases index <;> simp [high_bits spdInt 12 spdFits, high_bits torInt 12 torFits]

theorem tor_field (fits : torInt.toNat < 2 ^ 12) :
    (((((spdInt &&& 0x0F) <<< 4) ||| (torInt >>> 8)).toUInt8 &&& 0x0F).toUInt16 <<< 8) ||| (torInt &&& 0xFF).toUInt8.toUInt16 =
      torInt := by
  apply UInt16.eq_of_toBitVec_eq
  simp only [UInt16.toBitVec_or, UInt16.toBitVec_and, UInt16.toBitVec_shiftLeft, UInt16.toBitVec_shiftRight,
    UInt8.toBitVec_toUInt16, UInt16.toBitVec_toUInt8, UInt8.toBitVec_and]
  ext index inRange
  simp
  interval_cases index <;> simp [high_bits torInt 12 fits]

theorem speed_code_field (spdFits : spdInt.toNat < 2 ^ 12) :
    ((spdInt >>> 4).toUInt8.toUInt16 <<< 4) |||
      (((((spdInt &&& 0x0F) <<< 4) ||| ((torInt >>> 8) &&& 0x0F)).toUInt8 &&& 0xF0) >>> 4).toUInt16 = spdInt := by
  apply UInt16.eq_of_toBitVec_eq
  simp only [UInt16.toBitVec_or, UInt16.toBitVec_and, UInt16.toBitVec_shiftLeft, UInt16.toBitVec_shiftRight,
    UInt8.toBitVec_toUInt16, UInt16.toBitVec_toUInt8, UInt8.toBitVec_and, UInt8.toBitVec_shiftRight]
  ext index inRange
  simp
  interval_cases index <;> simp [high_bits spdInt 12 spdFits]

theorem current_code_field (torFits : torInt.toNat < 2 ^ 12) :
    (((((spdInt &&& 0x0F) <<< 4) ||| ((torInt >>> 8) &&& 0x0F)).toUInt8 &&& 0x0F).toUInt16 <<< 8) ||| (torInt &&& 0xFF).toUInt8.toUInt16 =
      torInt := by
  apply UInt16.eq_of_toBitVec_eq
  simp only [UInt16.toBitVec_or, UInt16.toBitVec_and, UInt16.toBitVec_shiftLeft, UInt16.toBitVec_shiftRight,
    UInt8.toBitVec_toUInt16, UInt16.toBitVec_toUInt8, UInt8.toBitVec_and]
  ext index inRange
  simp
  interval_cases index <;> simp [high_bits torInt 12 torFits]

/-- The three free bits of the first byte are what tells the command from a position command. -/
theorem kp_free (fits : kpInt.toNat < 2 ^ 12) : (kpInt >>> 7).toUInt8 &&& 0xE0 = 0 := by
  apply UInt8.eq_of_toBitVec_eq
  simp only [UInt8.toBitVec_and, UInt16.toBitVec_shiftRight, UInt16.toBitVec_toUInt8]
  ext index inRange
  simp
  interval_cases index <;> simp [high_bits kpInt 12 fits]

end Pvt

section Position

variable (spdInt curInt : UInt16)

theorem regrouped_byte (above middle below : UInt8) (aboveFree : above &&& 0x1F = 0) (belowFree : below >>> 5 = 0) :
    (((above ||| (middle >>> 3)) &&& 0x1F) <<< 3) ||| (((middle <<< 5) ||| below) >>> 5) = middle := by
  have split : (above ||| (middle >>> 3)) &&& (0x1F : UInt8) = (above &&& (0x1F : UInt8)) ||| ((middle >>> 3) &&& (0x1F : UInt8)) := by
    apply UInt8.eq_of_toBitVec_eq
    simp only [UInt8.toBitVec_or, UInt8.toBitVec_and]
    ext index inRange
    simp [Bool.and_or_distrib_right]
  rw [split, aboveFree, UInt8.zero_or, UInt8.shiftRight_or, belowFree, UInt8.or_zero]
  apply UInt8.eq_of_toBitVec_eq
  simp only [UInt8.toBitVec_or, UInt8.toBitVec_and, UInt8.toBitVec_shiftLeft, UInt8.toBitVec_shiftRight]
  ext index inRange
  simp
  interval_cases index <;> simp

theorem above_free (byte : UInt8) : (byte <<< 5) &&& 0x1F = 0 := by
  apply UInt8.eq_of_toBitVec_eq
  simp only [UInt8.toBitVec_and, UInt8.toBitVec_shiftLeft]
  ext index inRange
  simp
  interval_cases index <;> simp

theorem below_free (byte : UInt8) : (byte >>> 3) >>> 5 = 0 := by
  apply UInt8.eq_of_toBitVec_eq
  simp only [UInt8.toBitVec_shiftRight]
  ext index inRange
  simp

theorem spd_free (fits : spdInt.toNat < 2 ^ 15) : (spdInt >>> 10).toUInt8 >>> 5 = 0 := by
  apply UInt8.eq_of_toBitVec_eq
  simp only [UInt8.toBitVec_shiftRight, UInt16.toBitVec_shiftRight, UInt16.toBitVec_toUInt8]
  ext index inRange
  simp
  interval_cases index <;> simp [high_bits spdInt 15 fits]

theorem position_field (fits : spdInt.toNat < 2 ^ 15) (first second third fourth : UInt8) :
    word32 (((((0x20 : UInt8) ||| (first >>> 3)) &&& 0x1F) <<< 3) ||| (((first <<< 5) ||| (second >>> 3)) >>> 5))
        (((((first <<< 5) ||| (second >>> 3)) &&& 0x1F) <<< 3) ||| (((second <<< 5) ||| (third >>> 3)) >>> 5))
        (((((second <<< 5) ||| (third >>> 3)) &&& 0x1F) <<< 3) ||| (((third <<< 5) ||| (fourth >>> 3)) >>> 5))
        (((((third <<< 5) ||| (fourth >>> 3)) &&& 0x1F) <<< 3) ||| (((fourth <<< 5) ||| (spdInt >>> 10).toUInt8) >>> 5)) =
      word32 first second third fourth := by
  rw [regrouped_byte 0x20 first (second >>> 3) (by decide) (below_free second),
    regrouped_byte (first <<< 5) second (third >>> 3) (above_free first) (below_free third),
    regrouped_byte (second <<< 5) third (fourth >>> 3) (above_free second) (below_free fourth),
    regrouped_byte (third <<< 5) fourth (spdInt >>> 10).toUInt8 (above_free third) (spd_free spdInt fits)]

theorem spd_low_field (fits : spdInt.toNat < 2 ^ 15) (curFits : curInt.toNat < 2 ^ 12) (below : UInt8) :
    (((below <<< 5) ||| (spdInt >>> 10).toUInt8) &&& 0x1F).toUInt16 <<< 10 ||| ((spdInt &&& 0x3FC) >>> 2).toUInt8.toUInt16 <<< 2 |||
      (((spdInt &&& 0x03) <<< 6) ||| (curInt >>> 6)).toUInt8.toUInt16 >>> 6 = spdInt := by
  apply UInt16.eq_of_toBitVec_eq
  simp only [UInt16.toBitVec_or, UInt16.toBitVec_and, UInt16.toBitVec_shiftLeft, UInt16.toBitVec_shiftRight,
    UInt8.toBitVec_toUInt16, UInt16.toBitVec_toUInt8, UInt8.toBitVec_and, UInt8.toBitVec_or, UInt8.toBitVec_shiftLeft]
  ext index inRange
  simp
  interval_cases index <;> simp [high_bits spdInt 15 fits, high_bits curInt 12 curFits]

theorem cur_field (fits : curInt.toNat < 2 ^ 12) (feedback : UInt8) (small : feedback ≤ 3) :
    ((((spdInt &&& 0x03) <<< 6) ||| (curInt >>> 6)).toUInt8 &&& 0x3F).toUInt16 <<< 6 |||
      (((curInt &&& 0x3F) <<< 2).toUInt8 ||| feedback).toUInt16 >>> 2 = curInt := by
  apply UInt16.eq_of_toBitVec_eq
  simp only [UInt16.toBitVec_or, UInt16.toBitVec_and, UInt16.toBitVec_shiftLeft, UInt16.toBitVec_shiftRight,
    UInt8.toBitVec_toUInt16, UInt16.toBitVec_toUInt8, UInt8.toBitVec_and, UInt8.toBitVec_or]
  ext index inRange
  simp
  interval_cases index <;> simp [high_bits curInt 12 fits, feedback_bits feedback small]

theorem feedback_field (feedback : UInt8) (small : feedback ≤ 3) : (((curInt &&& 0x3F) <<< 2).toUInt8 ||| feedback) &&& 0x03 = feedback := by
  apply UInt8.eq_of_toBitVec_eq
  simp only [UInt16.toBitVec_and, UInt16.toBitVec_shiftLeft, UInt16.toBitVec_toUInt8, UInt8.toBitVec_and, UInt8.toBitVec_or]
  ext index inRange
  simp
  interval_cases index <;> simp [feedback_bits feedback small]

theorem first_byte (high : UInt8) : ((0x20 : UInt8) ||| (high >>> 3)) &&& 0xE0 = 0x20 := by
  apply UInt8.eq_of_toBitVec_eq
  simp only [UInt8.toBitVec_and, UInt8.toBitVec_or, UInt8.toBitVec_shiftRight]
  ext index inRange
  simp
  interval_cases index <;> simp

end Position

theorem target_byte (ctrlMode feedback : UInt8) (mode : ctrlMode ≤ 4) (small : feedback ≤ 3) :
    ((0x60 : UInt8) ||| (ctrlMode <<< 2) ||| feedback) &&& 0xE0 = 0x60 ∧
      ((0x60 : UInt8) ||| (ctrlMode <<< 2) ||| feedback) &&& 0xFC ≠ 0x74 ∧
        (((0x60 : UInt8) ||| (ctrlMode <<< 2) ||| feedback) >>> 2) &&& 0x07 = ctrlMode ∧
          ((0x60 : UInt8) ||| (ctrlMode <<< 2) ||| feedback) &&& 0x03 = feedback := by
  have modes : ∀ mode : Fin 5, ∀ feedback : Fin 4,
      ((0x60 : UInt8) ||| ((UInt8.ofNat mode) <<< 2) ||| UInt8.ofNat feedback) &&& 0xE0 = 0x60 ∧
        ((0x60 : UInt8) ||| ((UInt8.ofNat mode) <<< 2) ||| UInt8.ofNat feedback) &&& 0xFC ≠ 0x74 ∧
          (((0x60 : UInt8) ||| ((UInt8.ofNat mode) <<< 2) ||| UInt8.ofNat feedback) >>> 2) &&& 0x07 = UInt8.ofNat mode ∧
            ((0x60 : UInt8) ||| ((UInt8.ofNat mode) <<< 2) ||| UInt8.ofNat feedback) &&& 0x03 = UInt8.ofNat feedback := by decide
  have found := modes ⟨ctrlMode.toNat, Nat.lt_succ_of_le mode⟩ ⟨feedback.toNat, Nat.lt_succ_of_le small⟩
  simpa only [UInt8.ofNat_toNat] using found

end EncosDriver.Fake
