import Mathlib.Algebra.Group.Int.Defs
import EncosDriver.Motor.Command

set_option autoImplicit false

namespace EncosDriver.Motor

class FloatArithmetic (Number : Type) extends Add Number, Sub Number, Mul Number, Div Number, Neg Number where
  ofInt : Int → Number
  truncate : Number → Int
  less : Number → Number → Bool
  equal : Number → Number → Bool
  pi : Number
  toBits : Number → UInt32
  ofBits : UInt32 → Number

export FloatArithmetic (ofInt truncate less equal pi toBits ofBits)

instance : FloatArithmetic Float32 where
  ofInt := Float32.ofInt
  truncate value := value.toModel.toInt64.toInt
  less first second := first < second
  equal first second := first == second
  pi := 3.14159265358979323846
  toBits := Float32.toBits
  ofBits := Float32.ofBits

section Conversions

variable {Number : Type} [FloatArithmetic Number]

def clamp (value low high : Number) : Number := if less value low then low else if less high value then high else value

def absolute (value : Number) : Number := if less value (ofInt 0) then -value else value

def floatToUint (x xMin xMax : Number) (bits : Nat) : Int :=
  truncate ((clamp x xMin xMax - xMin) * ofInt (2 ^ bits - 1) / (xMax - xMin))

def uintToFloat (xInt : Int) (xMin xMax : Number) (bits : Nat) : Number :=
  ofInt xInt * (xMax - xMin) / ofInt (2 ^ bits - 1) + xMin

end Conversions

structure Range (Number : Type) where
  min : Number
  max : Number
deriving DecidableEq

structure MotorProperties (Number : Type) where
  kp : Range Number
  kd : Range Number
  position : Range Number
  speed : Range Number
  torque : Range Number
  current : Range Number
  kt : Number
  brake : Bool
  fwVersion : UInt32
deriving DecidableEq

structure MotorError where
  code : UInt8
deriving DecidableEq, Repr

namespace MotorError

def noError : MotorError := ⟨0⟩
def overTemperature : MotorError := ⟨1⟩
def overCurrent : MotorError := ⟨2⟩
def voltageHigh : MotorError := ⟨3⟩
def voltageLow : MotorError := ⟨4⟩
def encoderError : MotorError := ⟨5⟩
def brakeVoltageHigh : MotorError := ⟨6⟩
def driverError : MotorError := ⟨7⟩
def overTemperatureWarning : MotorError := ⟨8⟩
def outputEncoderError : MotorError := ⟨9⟩
def fetOverTemperature : MotorError := ⟨10⟩
def overSpeed : MotorError := ⟨11⟩
def temperatureWarning : MotorError := ⟨12⟩
def noResponse : MotorError := ⟨255⟩

end MotorError

structure MotorStatus (Number : Type) where
  error : MotorError
  position : Number
  speed : Number
  current : Number
  motorTemperature : Number
  mosTemperature : Number
deriving DecidableEq

open Message

structure MotorFeedbackMsg2 (Number : Type) where
  error : MotorError
  position : Number
  current : Number
  motorTemperature : Number

structure MotorFeedbackMsg3 (Number : Type) where
  error : MotorError
  speed : Number
  current : Number
  motorTemperature : Number

def decodeMotorError (raw : UInt8) (fwVersion : UInt32) : MotorError :=
  if fwVersion = 0 then ⟨raw⟩
  else
    match raw with
    | 6 => .outputEncoderError
    | 7 => .fetOverTemperature
    | 8 => .overSpeed
    | 9 => .driverError
    | 31 => .temperatureWarning
    | _ => ⟨raw⟩

section Numbers

variable {Number : Type} [FloatArithmetic Number]

def decodeTemperature (raw : UInt8) (fwVersion : UInt32) : Number :=
  if fwVersion = 0 then (ofInt raw.toNat - ofInt 50) / ofInt 2 else ofInt raw.toNat - ofInt 55

def feedbackError (pack : MotorPackMsg) (ranges : MotorProperties Number) : MotorError :=
  decodeMotorError (pack.data.get 0 &&& 0x1F) ranges.fwVersion

def isFeedback (pack : MotorPackMsg) (feedbackType : UInt8) : Bool := packetHasPayload pack 0 8 && pack.data.get 0 >>> 5 == feedbackType

def decodeFeedback1 (pack : MotorPackMsg) (ranges : MotorProperties Number) : Option (MotorStatus Number) :=
  if isFeedback pack 1 then
    let data := pack.data
    let posInt := ((data.get 1).toUInt16 <<< 8) ||| (data.get 2).toUInt16
    let spdInt := ((data.get 3).toUInt16 <<< 4) ||| ((data.get 4 &&& 0xF0) >>> 4).toUInt16
    let curInt := ((data.get 4 &&& 0x0F).toUInt16 <<< 8) ||| (data.get 5).toUInt16
    some {
      error := feedbackError pack ranges
      position := uintToFloat posInt.toNat ranges.position.min ranges.position.max 16
      speed := uintToFloat spdInt.toNat ranges.speed.min ranges.speed.max 12
      current := uintToFloat curInt.toNat ranges.current.min ranges.current.max 12
      motorTemperature := decodeTemperature (data.get 6) ranges.fwVersion
      mosTemperature := decodeTemperature (data.get 7) ranges.fwVersion }
  else none

def unsignedCurrent (data : Vector UInt8 8) : Number :=
  ofInt (((data.get 5).toUInt16 <<< 8) ||| (data.get 6).toUInt16).toNat / ofInt 100

def decodeFeedback2 (pack : MotorPackMsg) (ranges : MotorProperties Number) : Option (MotorFeedbackMsg2 Number) :=
  if isFeedback pack 2 then
    let data := pack.data
    some {
      error := feedbackError pack ranges
      position := ofBits (readU32Be (data.get 1) (data.get 2) (data.get 3) (data.get 4)) / ofInt 180 * pi
      current := unsignedCurrent data
      motorTemperature := decodeTemperature (data.get 7) ranges.fwVersion }
  else none

def decodeFeedback3 (pack : MotorPackMsg) (ranges : MotorProperties Number) : Option (MotorFeedbackMsg3 Number) :=
  if isFeedback pack 3 then
    let data := pack.data
    some {
      error := feedbackError pack ranges
      speed := ofBits (readU32Be (data.get 1) (data.get 2) (data.get 3) (data.get 4)) / ofInt 30 * pi
      current := unsignedCurrent data
      motorTemperature := decodeTemperature (data.get 7) ranges.fwVersion }
  else none

end Numbers

end EncosDriver.Motor
