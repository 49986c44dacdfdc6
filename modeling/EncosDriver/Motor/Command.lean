import EncosDriver.Message.Types
import EncosDriver.Lib.Bytes

set_option autoImplicit false

namespace EncosDriver.Motor

open Message

inductive MotorStopMode where
  | fullBrake
  | dynamicBrake
  | regenerativeBrake
deriving DecidableEq, Repr

def MotorStopMode.value : MotorStopMode → UInt8
  | .fullBrake => 2
  | .dynamicBrake => 3
  | .regenerativeBrake => 4

inductive MotorCommunicationMode where
  | classicCan
  | canFd
  | canOpen
deriving DecidableEq, Repr

def MotorCommunicationMode.value : MotorCommunicationMode → UInt8
  | .classicCan => 0
  | .canFd => 1
  | .canOpen => 2

inductive MotorParameter where
  | position
  | speed
  | current
  | power
  | kt
  | pvtKpRange
  | pvtKdRange
  | pvtPosRange
  | pvtSpdRange
  | pvtTorRange
  | pvtCurRange
  | uuid
  | canTimeout
  | curKpKi
  | spdKpKi
  | posKpKd
  | brakeStatus
  | encoderAngle
  | productId
  | hardwareVersion
  | firmwareVersion
deriving DecidableEq, Repr

def MotorParameter.value : MotorParameter → UInt8
  | .position => 1
  | .speed => 2
  | .current => 3
  | .power => 4
  | .kt => 22
  | .pvtKpRange => 23
  | .pvtKdRange => 24
  | .pvtPosRange => 25
  | .pvtSpdRange => 26
  | .pvtTorRange => 27
  | .pvtCurRange => 28
  | .uuid => 29
  | .canTimeout => 31
  | .curKpKi => 32
  | .spdKpKi => 33
  | .posKpKd => 34
  | .brakeStatus => 37
  | .encoderAngle => 39
  | .productId => 48
  | .hardwareVersion => 49
  | .firmwareVersion => 50

structure MotorImpl where
  idx : UInt16
  frameFlags : UInt8
  fwVersion : UInt32
deriving DecidableEq, Repr

namespace MotorImpl

def systemId : UInt32 := 0x7FF

def bigEndian (word : UInt16) : List UInt8 := [(word >>> 8).toUInt8, (word &&& 0xFF).toUInt8]

def pack (motor : MotorImpl) (id : UInt32) (len : UInt8) (bytes : List UInt8) : MotorPackMsg :=
  ⟨id, sanitizeCanFrameFlags motor.frameFlags, len, payload bytes⟩

def pvtControl (motor : MotorImpl) (kpInt kdInt posInt spdInt torInt : UInt16) : MotorPackMsg :=
  motor.pack motor.idx.toUInt32 8
    [(kpInt >>> 7).toUInt8,
      (((kpInt &&& 0x7F) <<< 1) ||| ((kdInt &&& 0x100) >>> 8)).toUInt8,
      (kdInt &&& 0xFF).toUInt8,
      (posInt >>> 8).toUInt8,
      (posInt &&& 0xFF).toUInt8,
      (spdInt >>> 4).toUInt8,
      (((spdInt &&& 0x0F) <<< 4) ||| (torInt >>> 8)).toUInt8,
      (torInt &&& 0xFF).toUInt8]

def posControl (motor : MotorImpl) (positionBits : UInt32) (spdInt curInt : UInt16) (feedback : UInt8) : MotorPackMsg :=
  let positionByte := fun shift : UInt32 => (positionBits >>> shift).toUInt8
  motor.pack motor.idx.toUInt32 8
    [(0x20 : UInt8) ||| (positionByte 24 >>> 3),
      (positionByte 24 <<< 5) ||| (positionByte 16 >>> 3),
      (positionByte 16 <<< 5) ||| (positionByte 8 >>> 3),
      (positionByte 8 <<< 5) ||| (positionByte 0 >>> 3),
      (positionByte 0 <<< 5) ||| (spdInt >>> 10).toUInt8,
      ((spdInt &&& 0x3FC) >>> 2).toUInt8,
      (((spdInt &&& 0x03) <<< 6) ||| (curInt >>> 6)).toUInt8,
      ((curInt &&& 0x3F) <<< 2).toUInt8 ||| feedback]

def spdControl (motor : MotorImpl) (speedBits : UInt32) (cur : UInt16) (feedback : UInt8) : MotorPackMsg :=
  motor.pack motor.idx.toUInt32 7
    [0x40 ||| feedback,
      (speedBits >>> 24).toUInt8,
      (speedBits >>> 16).toUInt8,
      (speedBits >>> 8).toUInt8,
      speedBits.toUInt8,
      (cur >>> 8).toUInt8,
      (cur &&& 0xFF).toUInt8]

def target (motor : MotorImpl) (ctrlMode : UInt8) (value : Int16) (feedback : UInt8) : MotorPackMsg :=
  motor.pack motor.idx.toUInt32 3 (((0x60 : UInt8) ||| (ctrlMode <<< 2) ||| feedback) :: bigEndian value.toUInt16)

def curControl (motor : MotorImpl) (cur : Int16) (feedback : UInt8) : MotorPackMsg := motor.target 0 cur feedback

def torControl (motor : MotorImpl) (tor : Int16) (feedback : UInt8) : MotorPackMsg := motor.target 1 tor feedback

def stop (motor : MotorImpl) (mode : MotorStopMode) (cur : Int16) (feedback : UInt8) : MotorPackMsg :=
  motor.target (if motor.fwVersion = 0 then mode.value else 2) cur feedback

def brake (motor : MotorImpl) (enabled : Bool) : Option MotorPackMsg :=
  if motor.fwVersion ≠ 0 then none
  else some (motor.pack motor.idx.toUInt32 3 [((0x03 : UInt8) <<< 5) ||| ((0x05 : UInt8) <<< 2) ||| 0x01, 0, if enabled then 0 else 1])

def setId (motor : MotorImpl) (newIdx : UInt16) : MotorPackMsg :=
  motor.pack systemId 6 (bigEndian motor.idx ++ [0x00, 0x04] ++ bigEndian newIdx)

def setPos (motor : MotorImpl) (position : Int16) : MotorPackMsg :=
  motor.pack systemId 6 (bigEndian motor.idx ++ [0x00, 0x03] ++ bigEndian position.toUInt16)

def resetZeroPos (motor : MotorImpl) : MotorPackMsg := motor.pack systemId 4 (bigEndian motor.idx ++ [0x00, 0x03])

def writePair (motor : MotorImpl) (parameterId : UInt8) (first second : UInt16) : MotorPackMsg :=
  motor.pack motor.idx.toUInt32 6 ([(0x06 : UInt8) <<< 5, parameterId] ++ bigEndian first ++ bigEndian second)

def setPVTKpRange (motor : MotorImpl) (min max : UInt16) : MotorPackMsg := motor.writePair 0x05 min max
def setPVTKdRange (motor : MotorImpl) (min max : UInt16) : MotorPackMsg := motor.writePair 0x06 min max
def setPVTPosRange (motor : MotorImpl) (min max : Int16) : MotorPackMsg := motor.writePair 0x07 min.toUInt16 max.toUInt16
def setPVTSpdRange (motor : MotorImpl) (min max : Int16) : MotorPackMsg := motor.writePair 0x08 min.toUInt16 max.toUInt16
def setPVTTorRange (motor : MotorImpl) (min max : Int16) : MotorPackMsg := motor.writePair 0x09 min.toUInt16 max.toUInt16
def setPVTCurRange (motor : MotorImpl) (min max : Int16) : MotorPackMsg := motor.writePair 0x0a min.toUInt16 max.toUInt16
def setCurPI (motor : MotorImpl) (kpInt kiInt : UInt16) : MotorPackMsg := motor.writePair 0x0c kpInt kiInt
def setSpdPI (motor : MotorImpl) (kpInt kiInt : UInt16) : MotorPackMsg := motor.writePair 0x0d kpInt kiInt
def setPosPD (motor : MotorImpl) (kpInt kdInt : UInt16) : MotorPackMsg := motor.writePair 0x0e kpInt kdInt

def setCanTimeout (motor : MotorImpl) (timeoutMs : UInt16) : MotorPackMsg :=
  motor.pack motor.idx.toUInt32 4 ([(0x06 : UInt8) <<< 5, 0x0b] ++ bigEndian timeoutMs)

def setCommunicationMode (motor : MotorImpl) (mode : MotorCommunicationMode) (waitForAck : Bool) : Option MotorPackMsg :=
  if motor.fwVersion ≠ 0 then none
  else some (motor.pack motor.idx.toUInt32 3 [((0x06 : UInt8) <<< 5) ||| ((0 : UInt8) <<< 2) ||| (if waitForAck then 1 else 0), 0x02, mode.value])

def getParameter (motor : MotorImpl) (parameter : MotorParameter) : MotorPackMsg :=
  motor.pack motor.idx.toUInt32 2 [(0x07 : UInt8) <<< 5, parameter.value]

end MotorImpl

inductive MotorCommand where
  | pvtControl (kpInt kdInt posInt spdInt torInt : UInt16)
  | posControl (positionBits : UInt32) (spdInt curInt : UInt16) (feedback : UInt8)
  | spdControl (speedBits : UInt32) (cur : UInt16) (feedback : UInt8)
  | curControl (cur : Int16) (feedback : UInt8)
  | torControl (tor : Int16) (feedback : UInt8)
  | stop (mode : MotorStopMode) (cur : Int16) (feedback : UInt8)
  | brake (enabled : Bool)
  | setId (newIdx : UInt16)
  | setPos (position : Int16)
  | resetZeroPos
  | setPVTKpRange (min max : UInt16)
  | setPVTKdRange (min max : UInt16)
  | setPVTPosRange (min max : Int16)
  | setPVTSpdRange (min max : Int16)
  | setPVTTorRange (min max : Int16)
  | setPVTCurRange (min max : Int16)
  | setCanTimeout (timeoutMs : UInt16)
  | setCommunicationMode (mode : MotorCommunicationMode) (waitForAck : Bool)
  | setCurPI (kpInt kiInt : UInt16)
  | setSpdPI (kpInt kiInt : UInt16)
  | setPosPD (kpInt kdInt : UInt16)
  | getParameter (parameter : MotorParameter)
deriving DecidableEq, Repr

def MotorCommand.message (motor : MotorImpl) : MotorCommand → Option MotorPackMsg
  | .pvtControl kpInt kdInt posInt spdInt torInt => some (motor.pvtControl kpInt kdInt posInt spdInt torInt)
  | .posControl positionBits spdInt curInt feedback => some (motor.posControl positionBits spdInt curInt feedback)
  | .spdControl speedBits cur feedback => some (motor.spdControl speedBits cur feedback)
  | .curControl cur feedback => some (motor.curControl cur feedback)
  | .torControl tor feedback => some (motor.torControl tor feedback)
  | .stop mode cur feedback => some (motor.stop mode cur feedback)
  | .brake enabled => motor.brake enabled
  | .setId newIdx => some (motor.setId newIdx)
  | .setPos position => some (motor.setPos position)
  | .resetZeroPos => some motor.resetZeroPos
  | .setPVTKpRange min max => some (motor.setPVTKpRange min max)
  | .setPVTKdRange min max => some (motor.setPVTKdRange min max)
  | .setPVTPosRange min max => some (motor.setPVTPosRange min max)
  | .setPVTSpdRange min max => some (motor.setPVTSpdRange min max)
  | .setPVTTorRange min max => some (motor.setPVTTorRange min max)
  | .setPVTCurRange min max => some (motor.setPVTCurRange min max)
  | .setCanTimeout timeoutMs => some (motor.setCanTimeout timeoutMs)
  | .setCommunicationMode mode waitForAck => motor.setCommunicationMode mode waitForAck
  | .setCurPI kpInt kiInt => some (motor.setCurPI kpInt kiInt)
  | .setSpdPI kpInt kiInt => some (motor.setSpdPI kpInt kiInt)
  | .setPosPD kpInt kdInt => some (motor.setPosPD kpInt kdInt)
  | .getParameter parameter => some (motor.getParameter parameter)

def feedbackByte (feedback : Int32) : UInt8 := feedback.toUInt32.toUInt8

namespace MotorImpl

-- The instances of a command are those of the feedback types 0 to 3. One of a
-- type of its own throws where the argument is another, and without a bus
-- nothing is sent.
def sendMatching (attached : Bool) (feedbackType : Fin 4) (feedback : Int32) (message : UInt8 → MotorPackMsg) : Option MotorPackMsg :=
  if feedbackType.val ≠ 0 ∧ Int32.ofNat feedbackType.val ≠ feedback then none
  else if attached then some (message (feedbackByte feedback)) else none

theorem matching_sent (attached : Bool) (feedbackType : Fin 4) (feedback : Int32) (message : UInt8 → MotorPackMsg) (pack : MotorPackMsg) :
    sendMatching attached feedbackType feedback message = some pack ↔
      (attached = true ∧ (feedbackType.val = 0 ∨ Int32.ofNat feedbackType.val = feedback)) ∧ pack = message (feedbackByte feedback) := by
  rw [sendMatching]
  by_cases mismatched : feedbackType.val ≠ 0 ∧ Int32.ofNat feedbackType.val ≠ feedback
  · rw [if_pos mismatched]
    constructor
    · exact nofun
    · rintro ⟨⟨_, zero | same⟩, _⟩
      · exact absurd zero mismatched.1
      · exact absurd same mismatched.2
  · rw [if_neg mismatched]
    rw [not_and_or, not_ne_iff, not_ne_iff] at mismatched
    cases attached with
    | false => exact ⟨nofun, fun sent => nomatch sent.1.1⟩
    | true =>
      rw [if_pos rfl, Option.some.injEq]
      exact ⟨fun same => ⟨⟨rfl, mismatched⟩, same.symm⟩, fun sent => sent.2.symm⟩

def posControlCall (motor : MotorImpl) (attached : Bool) (feedbackType : Fin 4) (positionBits : UInt32) (spdInt : Fin (2 ^ 15))
    (curInt : Fin (2 ^ 12)) (feedback : Int32) : Option MotorPackMsg :=
  sendMatching attached feedbackType feedback (motor.posControl positionBits (UInt16.ofNat spdInt.val) (UInt16.ofNat curInt.val))

def spdControlCall (motor : MotorImpl) (attached : Bool) (feedbackType : Fin 4) (speedBits : UInt32) (cur : UInt16) (feedback : Int32) :
    Option MotorPackMsg :=
  sendMatching attached feedbackType feedback (motor.spdControl speedBits cur)

def curControlCall (motor : MotorImpl) (attached : Bool) (feedbackType : Fin 4) (cur : Int16) (feedback : Int32) : Option MotorPackMsg :=
  sendMatching attached feedbackType feedback (motor.curControl cur)

def torControlCall (motor : MotorImpl) (attached : Bool) (feedbackType : Fin 4) (tor : Int16) (feedback : Int32) : Option MotorPackMsg :=
  sendMatching attached feedbackType feedback (motor.torControl tor)

def stopCall (motor : MotorImpl) (attached : Bool) (_feedbackType : Fin 4) (mode : MotorStopMode) (cur : Int16) (feedback : Int32) :
    Option MotorPackMsg :=
  if attached then some (motor.stop mode cur (feedbackByte feedback)) else none

end MotorImpl

inductive ControlCall where
  | posControl (positionBits : UInt32) (spdInt : Fin (2 ^ 15)) (curInt : Fin (2 ^ 12))
  | spdControl (speedBits : UInt32) (cur : UInt16)
  | curControl (cur : Int16)
  | torControl (tor : Int16)
  | stop (mode : MotorStopMode) (cur : Int16)
deriving DecidableEq, Repr

namespace ControlCall

def send (motor : MotorImpl) (attached : Bool) (feedbackType : Fin 4) (feedback : Int32) : ControlCall → Option MotorPackMsg
  | .posControl positionBits spdInt curInt => motor.posControlCall attached feedbackType positionBits spdInt curInt feedback
  | .spdControl speedBits cur => motor.spdControlCall attached feedbackType speedBits cur feedback
  | .curControl cur => motor.curControlCall attached feedbackType cur feedback
  | .torControl tor => motor.torControlCall attached feedbackType tor feedback
  | .stop mode cur => motor.stopCall attached feedbackType mode cur feedback

def command (feedback : UInt8) : ControlCall → MotorCommand
  | .posControl positionBits spdInt curInt => .posControl positionBits (UInt16.ofNat spdInt.val) (UInt16.ofNat curInt.val) feedback
  | .spdControl speedBits cur => .spdControl speedBits cur feedback
  | .curControl cur => .curControl cur feedback
  | .torControl tor => .torControl tor feedback
  | .stop mode cur => .stop mode cur feedback

def matchesType : ControlCall → Bool
  | .stop _ _ => false
  | _ => true

def feedbackLimit : ControlCall → Int
  | .spdControl _ _ => 31
  | _ => 3

end ControlCall

open MotorImpl

inductive RawType where
  | float
  | uint8
  | uint16
  | uint32
  | int
  | rangeUint16
  | rangeInt16
  | encoderAngle
  | kpKi
  | kpKd
deriving DecidableEq, Repr

def MotorParameter.rawType : MotorParameter → RawType
  | .position => .float
  | .speed => .float
  | .current => .float
  | .power => .float
  | .kt => .uint16
  | .pvtKpRange => .rangeUint16
  | .pvtKdRange => .rangeUint16
  | .pvtPosRange => .rangeInt16
  | .pvtSpdRange => .rangeInt16
  | .pvtTorRange => .rangeInt16
  | .pvtCurRange => .rangeInt16
  | .uuid => .int
  | .canTimeout => .uint16
  | .curKpKi => .kpKi
  | .spdKpKi => .kpKi
  | .posKpKd => .kpKd
  | .brakeStatus => .uint8
  | .encoderAngle => .encoderAngle
  | .productId => .uint32
  | .hardwareVersion => .uint32
  | .firmwareVersion => .uint32

structure KpKi where
  kp : UInt16
  ki : UInt16
deriving DecidableEq, Repr

structure KpKd where
  kp : UInt16
  kd : UInt16
deriving DecidableEq, Repr

inductive RawValue where
  | float (bits : UInt32)
  | uint8 (value : UInt8)
  | uint16 (value : UInt16)
  | uint32 (value : UInt32)
  | int (value : Int32)
  | rangeUint16 (min max : UInt16)
  | rangeInt16 (min max : Int16)
  | encoderAngle (calFlag : UInt8) (rawAngle calAngle : Int16)
  | kpKi (gains : KpKi)
  | kpKd (gains : KpKd)
deriving DecidableEq, Repr

def RawType.payloadSize : RawType → Nat
  | .float => 4
  | .uint8 => 1
  | .uint16 => 2
  | .uint32 => 4
  | .int => 4
  | .rangeUint16 => 4
  | .rangeInt16 => 4
  | .encoderAngle => 5
  | .kpKi => 4
  | .kpKd => 4

def readU16Be (first second : UInt8) : UInt16 := (first.toUInt16 <<< 8) ||| second.toUInt16

theorem read_u16_be (value : UInt16) : readU16Be (value >>> 8).toUInt8 (value &&& 0xFF).toUInt8 = value := by
  apply UInt16.eq_of_toBitVec_eq
  simp only [readU16Be, UInt16.toBitVec_or, UInt16.toBitVec_and, UInt16.toBitVec_shiftLeft, UInt16.toBitVec_shiftRight,
    UInt8.toBitVec_toUInt16, UInt16.toBitVec_toUInt8]
  ext index inRange
  simp
  interval_cases index <;> simp

def readI16Be (first second : UInt8) : Int16 := (readU16Be first second).toInt16

def readU32Be (first second third fourth : UInt8) : UInt32 :=
  (first.toUInt32 <<< 24) ||| (second.toUInt32 <<< 16) ||| (third.toUInt32 <<< 8) ||| fourth.toUInt32

def decodeParameterRaw (rawType : RawType) (pack : MotorPackMsg) : RawValue :=
  let data := pack.data
  match rawType with
  | .float => .float (readU32Be (data.get 2) (data.get 3) (data.get 4) (data.get 5))
  | .uint8 => .uint8 (data.get 2)
  | .uint16 => .uint16 (readU16Be (data.get 2) (data.get 3))
  | .uint32 => .uint32 (readU32Be (data.get 2) (data.get 3) (data.get 4) (data.get 5))
  | .int => .int (readU32Be (data.get 2) (data.get 3) (data.get 4) (data.get 5)).toInt32
  | .rangeUint16 => .rangeUint16 (readU16Be (data.get 2) (data.get 3)) (readU16Be (data.get 4) (data.get 5))
  | .rangeInt16 => .rangeInt16 (readI16Be (data.get 2) (data.get 3)) (readI16Be (data.get 4) (data.get 5))
  | .encoderAngle => .encoderAngle (data.get 2) (readI16Be (data.get 3) (data.get 4)) (readI16Be (data.get 5) (data.get 6))
  | .kpKi => .kpKi ⟨readU16Be (data.get 2) (data.get 3), readU16Be (data.get 4) (data.get 5)⟩
  | .kpKd => .kpKd ⟨readU16Be (data.get 2) (data.get 3), readU16Be (data.get 4) (data.get 5)⟩

def packetHasPayload (pack : MotorPackMsg) (offset size : Nat) : Bool := offset + size ≤ pack.len.toNat

abbrev Checker := MotorPackMsg → Bool

def parameterChecker (parameterId : UInt8) (expectedPayload : List UInt8) : Checker := fun pack =>
  packetHasPayload pack 0 (3 + expectedPayload.length) && pack.data.get 0 == 0xFF && pack.data.get 1 == 0xFE &&
    pack.data.get 2 == parameterId && (pack.data.toList.drop 3).take expectedPayload.length == expectedPayload

def getParameterChecker (parameter : MotorParameter) : Checker := fun pack =>
  pack.data.get 0 == (0x05 : UInt8) <<< 5 && pack.data.get 1 == parameter.value &&
    packetHasPayload pack 2 parameter.rawType.payloadSize

def systemChecker (idx : UInt16) (code : UInt8) : Checker := fun pack =>
  pack.data.get 0 == (idx >>> 8).toUInt8 && pack.data.get 1 == (idx &&& 0xFF).toUInt8 && pack.data.get 3 == code

def brakeChecker (enabled : Bool) : Checker := fun pack =>
  pack.len == 2 && (pack.data.get 0 == 0xC0 || pack.data.get 0 == 0xA0) && pack.data.get 1 == if enabled then 0 else 1

def MotorCommand.checker (motor : MotorImpl) : MotorCommand → Option Checker
  | .brake enabled => some (brakeChecker enabled)
  | .setId newIdx => some (systemChecker newIdx 0x04)
  | .setPos _ => some (systemChecker motor.idx 0x03)
  | .resetZeroPos => some (systemChecker motor.idx 0x03)
  | .setPVTKpRange min max => some (parameterChecker 0x05 (bigEndian min ++ bigEndian max))
  | .setPVTKdRange min max => some (parameterChecker 0x06 (bigEndian min ++ bigEndian max))
  | .setPVTPosRange min max => some (parameterChecker 0x07 (bigEndian min.toUInt16 ++ bigEndian max.toUInt16))
  | .setPVTSpdRange min max => some (parameterChecker 0x08 (bigEndian min.toUInt16 ++ bigEndian max.toUInt16))
  | .setPVTTorRange min max => some (parameterChecker 0x09 (bigEndian min.toUInt16 ++ bigEndian max.toUInt16))
  | .setPVTCurRange min max => some (parameterChecker 0x0a (bigEndian min.toUInt16 ++ bigEndian max.toUInt16))
  | .setCanTimeout timeoutMs => some (parameterChecker 0x0b (bigEndian timeoutMs))
  | .setCommunicationMode mode waitForAck => if waitForAck then some (parameterChecker 0x02 [mode.value]) else none
  | .setCurPI kpInt kiInt => some (parameterChecker 0x0c (bigEndian kpInt ++ bigEndian kiInt))
  | .setSpdPI kpInt kiInt => some (parameterChecker 0x0d (bigEndian kpInt ++ bigEndian kiInt))
  | .setPosPD kpInt kdInt => some (parameterChecker 0x0e (bigEndian kpInt ++ bigEndian kdInt))
  | .getParameter parameter => some (getParameterChecker parameter)
  | _ => none

end EncosDriver.Motor
