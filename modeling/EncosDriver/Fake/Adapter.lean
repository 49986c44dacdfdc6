import EncosDriver.Fake.Protocol
import EncosDriver.Motor.Feedback
import EncosDriver.Lib.Table

set_option autoImplicit false

namespace EncosDriver.Fake

open Message Motor

structure FakeMotorSnapshot (Number : Type) where
  ranges : MotorProperties Number
  positionRad : Number
  speedRadS : Number
  currentA : Number
  torqueNm : Number
  motorTempC : Number
  mosTempC : Number
  acceleration : Number
  kt : Number
  canTimeoutMs : UInt16
  replyFrameFlags : UInt8
  -- The mode as the byte that was written.
  communicationMode : UInt8
  error : MotorError
  brakeEnabled : Bool
  fwVersion : Option UInt32
  productId : UInt32
  hwVersion : UInt32
  curGainRaw : KpKi
  spdGainRaw : KpKi
  posGainRaw : KpKd
  calFlag : UInt8
  rawAngleDeg : Number
  calAngleDeg : Number
deriving DecidableEq

def encodeU32 (value : UInt32) : List UInt8 :=
  [(value >>> 24).toUInt8, (value >>> 16).toUInt8, (value >>> 8).toUInt8, value.toUInt8]

def encodeU16 (value : UInt16) : List UInt8 := [(value >>> 8).toUInt8, (value &&& 0xFF).toUInt8]

def encodeI16 (value : Int16) : List UInt8 := encodeU16 value.toUInt16

def parameterHiddenFromOldFirmware : MotorParameter → Bool
  | .encoderAngle => true
  | .productId => true
  | .hardwareVersion => true
  | _ => false

def parameterFromValue : UInt8 → Option MotorParameter
  | 1 => some .position
  | 2 => some .speed
  | 3 => some .current
  | 4 => some .power
  | 22 => some .kt
  | 23 => some .pvtKpRange
  | 24 => some .pvtKdRange
  | 25 => some .pvtPosRange
  | 26 => some .pvtSpdRange
  | 27 => some .pvtTorRange
  | 28 => some .pvtCurRange
  | 29 => some .uuid
  | 31 => some .canTimeout
  | 32 => some .curKpKi
  | 33 => some .spdKpKi
  | 34 => some .posKpKd
  | 37 => some .brakeStatus
  | 39 => some .encoderAngle
  | 48 => some .productId
  | 49 => some .hardwareVersion
  | 50 => some .firmwareVersion
  | _ => none

@[simp] theorem parameter_from_value (parameter : MotorParameter) : parameterFromValue parameter.value = some parameter := by
  cases parameter <;> rfl

def makeParameterReply (busIdx : Int32) (id : UInt32) (parameter : UInt8) (bytes : List UInt8) (frameFlags : UInt8) : MotorMessage :=
  ⟨busIdx, ⟨id, frameFlags, UInt8.ofNat (bytes.length + 2), payload ((0x05 : UInt8) <<< 5 :: parameter :: bytes.take 6)⟩⟩

def makeRawWriteAckMessage (busIdx : Int32) (id : UInt32) (rawParameterId : UInt8) (bytes : List UInt8) (frameFlags : UInt8) : MotorMessage :=
  ⟨busIdx, ⟨id, frameFlags, UInt8.ofNat (bytes.length + 3), payload (0xFF :: 0xFE :: rawParameterId :: bytes.take 5)⟩⟩

def makeWriteAck (busIdx : Int32) (id : UInt32) (parameter : MotorParameter) (bytes : List UInt8) (frameFlags : UInt8) : MotorMessage :=
  makeRawWriteAckMessage busIdx id (fakeRawIdFromWriteParameter parameter) bytes frameFlags

def makeSystemAck (busIdx : Int32) (high low code : UInt8) : MotorMessage :=
  ⟨busIdx, ⟨0x7FF, 0, 4, payload [high, low, 0x00, code]⟩⟩

def makeBrakeAck (busIdx : Int32) (id : UInt32) (error : MotorError) (enabled : Bool) : MotorMessage :=
  ⟨busIdx, ⟨id, 0, 2, payload [0xC0 ||| error.code, if enabled then 0 else 1]⟩⟩

section Numbers

variable {Number : Type} [FloatArithmetic Number]

def snapshotIsNewFirmware (snapshot : FakeMotorSnapshot Number) : Bool := snapshot.fwVersion.getD 0 ≠ 0

def encodeFloatBe (value : Number) : List UInt8 := encodeU32 (toBits value)

def toUint16 (value : Number) : UInt16 := UInt16.ofInt (truncate value)

def toInt16 (value : Number) : Int16 := Int16.ofInt (truncate value)

def encodeTemperature (celsius : Number) (newFirmware : Bool) : UInt8 :=
  let raw := if newFirmware then celsius + ofInt 55 else celsius * ofInt 2 + ofInt 50
  UInt8.ofInt (truncate (clamp raw (ofInt 0) (ofInt 255)))

def encodeRangeI16 (range : Range Number) (scale : Int) : List UInt8 :=
  encodeI16 (toInt16 (range.min * ofInt scale)) ++ encodeI16 (toInt16 (range.max * ofInt scale))

def encodeRangeU16 (range : Range Number) : List UInt8 := encodeU16 (toUint16 range.min) ++ encodeU16 (toUint16 range.max)

def parameterPayload (snapshot : FakeMotorSnapshot Number) : MotorParameter → List UInt8
  | .position => encodeFloatBe (snapshot.positionRad * ofInt 180 / pi)
  | .speed => encodeFloatBe (snapshot.speedRadS * ofInt 30 / pi)
  | .current => encodeFloatBe snapshot.currentA
  | .encoderAngle => snapshot.calFlag ::
      (encodeI16 (toInt16 (snapshot.rawAngleDeg * ofInt 100)) ++ encodeI16 (toInt16 (snapshot.calAngleDeg * ofInt 100)))
  | .curKpKi => encodeU16 snapshot.curGainRaw.kp ++ encodeU16 snapshot.curGainRaw.ki
  | .spdKpKi => encodeU16 snapshot.spdGainRaw.kp ++ encodeU16 snapshot.spdGainRaw.ki
  | .posKpKd => encodeU16 snapshot.posGainRaw.kp ++ encodeU16 snapshot.posGainRaw.kd
  | .productId => encodeU32 snapshot.productId
  | .hardwareVersion => encodeU32 snapshot.hwVersion
  | .firmwareVersion => encodeU32 (snapshot.fwVersion.getD 0)
  | .kt => encodeU16 (toUint16 (snapshot.kt * ofInt 100))
  | .pvtKpRange => encodeRangeU16 snapshot.ranges.kp
  | .pvtKdRange => encodeRangeU16 snapshot.ranges.kd
  | .pvtPosRange => encodeRangeI16 snapshot.ranges.position 100
  | .pvtSpdRange => encodeRangeI16 snapshot.ranges.speed 100
  | .pvtTorRange => encodeRangeI16 snapshot.ranges.torque 10
  | .pvtCurRange => encodeRangeI16 snapshot.ranges.current 10
  | .canTimeout => encodeU16 snapshot.canTimeoutMs
  | .brakeStatus => [if snapshot.brakeEnabled then 0 else 1]
  | .power => encodeFloatBe (ofInt 0 : Number)
  | .uuid => encodeFloatBe (ofInt 0 : Number)

def motionBytes (status : MotorStatus Number) (position speed current : Range Number) (newFirmware : Bool) : List UInt8 :=
  let posInt := UInt16.ofInt (floatToUint status.position position.min position.max 16)
  let spdInt := UInt16.ofInt (floatToUint status.speed speed.min speed.max 12)
  let curInt := UInt16.ofInt (floatToUint status.current current.min current.max 12)
  [(posInt >>> 8).toUInt8, (posInt &&& 0xFF).toUInt8, (spdInt >>> 4).toUInt8,
    (((spdInt &&& 0x0F) <<< 4) ||| ((curInt >>> 8) &&& 0x0F)).toUInt8, (curInt &&& 0xFF).toUInt8,
    encodeTemperature status.motorTemperature newFirmware, encodeTemperature status.mosTemperature newFirmware]

def floatBytes (quantity current motorTemperature : Number) (newFirmware : Bool) : List UInt8 :=
  encodeFloatBe quantity ++ encodeI16 (toInt16 (current * ofInt 100)) ++ [encodeTemperature motorTemperature newFirmware]

def makeFeedbackMessage (busIdx : Int32) (id : UInt32) (snapshot : Option (FakeMotorSnapshot Number)) (status : MotorStatus Number)
    (feedbackType : Int) : MotorMessage :=
  let newFirmware := (snapshot.map snapshotIsNewFirmware).getD false
  let first := UInt8.ofInt (feedbackType * 32) ||| status.error.code
  let rest :=
    if feedbackType = 1 then
      motionBytes status ((snapshot.map (·.ranges.position)).getD ⟨-(ofInt 25 / ofInt 2), ofInt 25 / ofInt 2⟩)
        ((snapshot.map (·.ranges.speed)).getD ⟨-(ofInt 18), ofInt 18⟩) ((snapshot.map (·.ranges.current)).getD ⟨ofInt 0, ofInt 0⟩) newFirmware
    else if feedbackType = 2 then floatBytes (status.position * ofInt 180 / pi) status.current status.motorTemperature newFirmware
    else floatBytes (status.speed * ofInt 30 / pi) status.current status.motorTemperature newFirmware
  ⟨busIdx, ⟨id, 0, 8, payload (first :: rest)⟩⟩

end Numbers

open Lib

structure FakeMotionState (Number : Type) where
  lastUpdate : Int
  currentSpeed : Number
  targetSpeed : Number
  accelerationScale : Number

inductive FakeReplyMode where
  | automatic
  | manual
deriving DecidableEq, Repr

inductive FakeWritePolicy where
  | success
  | failure
  | ignore
deriving DecidableEq, Repr

structure FakeReplyRecord where
  busIdx : Int32
  motorIdx : Int32
  commandKind : FakeCommandKind
  policy : FakeWritePolicy
  automatic : Bool
deriving DecidableEq, Repr

abbrev Key := Int32 × Int32

structure FakeAdapter (Number : Type) where
  snapshots : Table Key (FakeMotorSnapshot Number)
  motions : Table Key (FakeMotionState Number)
  parameterPolicies : Table Key (Table MotorParameter FakeWritePolicy)
  replyMode : FakeReplyMode
  autoCreateMotorEnabled : Bool
  commandRecordingEnabled : Bool
  commandRecords : List FakeCommandRecord
  replyRecords : List FakeReplyRecord
  rawSentMessages : List MotorMessage
  positionErrorEnabled : Bool

-- What a call takes from outside: the clock in nanoseconds, the deviation drawn
-- within a bound, and the model's own properties.
structure Moment (Number : Type) where
  now : Int
  deviation : Number → Number
  modelRanges : MotorProperties Number

def kMaxCommandRecords : Nat := 100000

section Numbers

variable {Number : Type} [FloatArithmetic Number]

def createSnapshot (ranges : MotorProperties Number) : FakeMotorSnapshot Number where
  ranges := ranges
  positionRad := ofInt 0
  speedRadS := ofInt 0
  currentA := ofInt 0
  torqueNm := ofInt 0
  motorTempC := ofInt 25
  mosTempC := ofInt 25
  acceleration := ofInt 5
  kt := ranges.kt
  canTimeoutMs := 1000
  replyFrameFlags := 0
  communicationMode := 0
  error := .noError
  brakeEnabled := false
  fwVersion := some 0
  productId := 0
  hwVersion := 0
  curGainRaw := ⟨0, 0⟩
  spdGainRaw := ⟨0, 0⟩
  posGainRaw := ⟨0, 0⟩
  calFlag := 0
  rawAngleDeg := ofInt 0
  calAngleDeg := ofInt 0

def steadyMotion (moment : Moment Number) (speed : Number) : FakeMotionState Number := ⟨moment.now, speed, speed, ofInt 1⟩

def advanceMotion (moment : Moment Number) (positionErrorEnabled : Bool) (snapshot : FakeMotorSnapshot Number) :
    Option (FakeMotionState Number) → FakeMotorSnapshot Number × FakeMotionState Number
  | none => (snapshot, steadyMotion moment snapshot.speedRadS)
  | some motion =>
    let elapsed := ofInt (moment.now - motion.lastUpdate) / ofInt 1000000000
    if !less (ofInt 0) elapsed then ({ snapshot with speedRadS := motion.currentSpeed }, { motion with lastUpdate := moment.now })
    else
      let maxDelta := absolute snapshot.acceleration * motion.accelerationScale * elapsed
      let speedDelta := motion.targetSpeed - motion.currentSpeed
      let bounded := if less maxDelta speedDelta then maxDelta else if less speedDelta (-maxDelta) then -maxDelta else speedDelta
      let endSpeed := motion.currentSpeed + bounded
      let baseIncrement := (motion.currentSpeed + endSpeed) * (ofInt 1 / ofInt 2) * elapsed
      let increment :=
        if positionErrorEnabled then baseIncrement + moment.deviation (ofInt 1 / ofInt 10 * absolute baseIncrement) else baseIncrement
      let still := equal baseIncrement (ofInt 0)
      ({ snapshot with positionRad := if still then snapshot.positionRad else snapshot.positionRad + increment, speedRadS := endSpeed },
        { motion with lastUpdate := moment.now, currentSpeed := endSpeed })

def drivenMotion (moment : Moment Number) (snapshot : FakeMotorSnapshot Number) (motion : FakeMotionState Number) (value : Number) :
    FakeMotionState Number :=
  let top := absolute snapshot.ranges.speed.max
  if less (absolute value) (ofInt 1 / ofInt 1000000) then
    { motion with lastUpdate := moment.now, targetSpeed := motion.currentSpeed, accelerationScale := ofInt 0 }
  else
    { motion with
      lastUpdate := moment.now
      targetSpeed := (if less (ofInt 0) value then ofInt 1 else -(ofInt 1)) * top
      accelerationScale := ofInt 1 }

def FakeMotorSnapshot.status (snapshot : FakeMotorSnapshot Number) : MotorStatus Number :=
  ⟨snapshot.error, snapshot.positionRad, snapshot.speedRadS, snapshot.currentA, snapshot.motorTempC, snapshot.mosTempC⟩

def applyWrite (snapshot : FakeMotorSnapshot Number) (parameter : Option MotorParameter) (rawParameterId : UInt8) (rawValue : List UInt8) :
    FakeMotorSnapshot Number :=
  let first := word (rawValue.getD 0 0) (rawValue.getD 1 0)
  let second := word (rawValue.getD 2 0) (rawValue.getD 3 0)
  let unsigned : Range Number := ⟨ofInt first.toNat, ofInt second.toNat⟩
  let signed := fun scale : Int =>
    (⟨ofInt first.toInt16.toInt / ofInt scale, ofInt second.toInt16.toInt / ofInt scale⟩ : Range Number)
  if rawParameterId = 0x02 ∧ rawValue ≠ [] then { snapshot with communicationMode := rawValue.getD 0 0 }
  else
    match parameter with
    | some .canTimeout => if 2 ≤ rawValue.length then { snapshot with canTimeoutMs := first } else snapshot
    | some written =>
      if 4 ≤ rawValue.length then
        match written with
        | .pvtKpRange => { snapshot with ranges := { snapshot.ranges with kp := unsigned } }
        | .pvtKdRange => { snapshot with ranges := { snapshot.ranges with kd := unsigned } }
        | .pvtPosRange => { snapshot with ranges := { snapshot.ranges with position := signed 100 } }
        | .pvtSpdRange => { snapshot with ranges := { snapshot.ranges with speed := signed 100 } }
        | .pvtTorRange => { snapshot with ranges := { snapshot.ranges with torque := signed 10 } }
        | .pvtCurRange => { snapshot with ranges := { snapshot.ranges with current := signed 10 } }
        | .curKpKi => { snapshot with curGainRaw := ⟨first, second⟩ }
        | .spdKpKi => { snapshot with spdGainRaw := ⟨first, second⟩ }
        | .posKpKd => { snapshot with posGainRaw := ⟨first, second⟩ }
        | _ => snapshot
      else snapshot
    | none => snapshot

namespace FakeAdapter

def put (adapter : FakeAdapter Number) (key : Key) (snapshot : FakeMotorSnapshot Number) (motion : FakeMotionState Number) :
    FakeAdapter Number :=
  { adapter with snapshots := adapter.snapshots.put key snapshot, motions := adapter.motions.put key motion }

def putSnapshot (adapter : FakeAdapter Number) (key : Key) (snapshot : FakeMotorSnapshot Number) : FakeAdapter Number :=
  { adapter with snapshots := adapter.snapshots.put key snapshot }

def current (adapter : FakeAdapter Number) (moment : Moment Number) (key : Key) : Option (FakeMotorSnapshot Number) :=
  match adapter.snapshots.find key with
  | some snapshot => some snapshot
  | none => if adapter.autoCreateMotorEnabled then some (createSnapshot moment.modelRanges) else none

def record (adapter : FakeAdapter Number) (command : FakeCommandRecord) : FakeAdapter Number :=
  if adapter.commandRecordingEnabled then
    let records := adapter.commandRecords ++ [command]
    { adapter with commandRecords := if kMaxCommandRecords < records.length then records.tail else records }
  else adapter

def feedback (adapter : FakeAdapter Number) (message : MotorMessage) (status : MotorStatus Number) (feedbackType : UInt8) :
    Option MotorMessage :=
  if feedbackType = 0 then none
  else
    some (makeFeedbackMessage message.busIdx message.data.id (adapter.snapshots.find (message.busIdx, message.data.id.toInt32)) status
      feedbackType.toNat)

def writePolicy (adapter : FakeAdapter Number) (key : Key) (parameter : Option MotorParameter) : FakeWritePolicy :=
  match adapter.parameterPolicies.find key, parameter with
  | some policies, some written => (policies.find written).getD .success
  | _, _ => .success

def getParameter (adapter : FakeAdapter Number) (moment : Moment Number) (message : MotorMessage) (key : Key)
    (snapshot : FakeMotorSnapshot Number) (value : UInt8) : FakeAdapter Number × Option MotorMessage :=
  let parameter := parameterFromValue value
  let hidden := (parameter.map parameterHiddenFromOldFirmware).getD false
  if snapshot.fwVersion.isNone || (!snapshotIsNewFirmware snapshot && hidden) then (adapter, none)
  else
    let advances := parameter = some .position ∨ parameter = some .speed ∨ parameter = some .current
    let advanced := advanceMotion moment adapter.positionErrorEnabled snapshot (adapter.motions.find key)
    let read := if advances then advanced.1 else snapshot
    let bytes := match parameter with
      | some known => parameterPayload read known
      | none => encodeFloatBe (ofInt 0 : Number)
    (if advances then adapter.put key advanced.1 advanced.2 else adapter,
      some (makeParameterReply message.busIdx message.data.id value bytes read.replyFrameFlags))

def setParameter (adapter : FakeAdapter Number) (message : MotorMessage) (key : Key) (snapshot : FakeMotorSnapshot Number)
    (parameter : Option MotorParameter) (rawParameterId : UInt8) (rawValue : List UInt8) : FakeAdapter Number × Option MotorMessage :=
  let policy := adapter.writePolicy key parameter
  let replied := { adapter with
    replyRecords := adapter.replyRecords ++ [⟨message.busIdx, message.data.id.toInt32, .setParameter, policy, true⟩] }
  if policy ≠ .success then (replied, none)
  else
    let written := applyWrite snapshot parameter rawParameterId rawValue
    (replied.putSnapshot key written,
      some (match parameter with
        | some known => makeWriteAck message.busIdx message.data.id known rawValue written.replyFrameFlags
        | none => makeRawWriteAckMessage message.busIdx message.data.id rawParameterId rawValue written.replyFrameFlags))

def respond (adapter : FakeAdapter Number) (moment : Moment Number) (message : MotorMessage) (key : Key)
    (snapshot : FakeMotorSnapshot Number) : FakeCommandPayload → FakeAdapter Number × Option MotorMessage
  | .pvtControl _ _ posInt spdInt torInt =>
    let ranges := snapshot.ranges
    let speed := uintToFloat spdInt.toNat ranges.speed.min ranges.speed.max 12
    let torque := uintToFloat torInt.toNat ranges.torque.min ranges.torque.max 12
    let moved := { snapshot with
      positionRad := uintToFloat posInt.toNat ranges.position.min ranges.position.max 16
      speedRadS := speed
      torqueNm := torque
      currentA := torque }
    let after := adapter.put key moved (steadyMotion moment speed)
    (after, after.feedback message moved.status 1)
  | .posControl positionBits spdInt curInt feedbackType =>
    let position := ofBits positionBits * pi / ofInt 180
    let speed := uintToFloat spdInt.toNat (ofInt 0) (ofInt 32767 / ofInt 10) 15 * pi / ofInt 30
    let current := uintToFloat curInt.toNat (ofInt 0) (ofInt 4095 / ofInt 10) 12
    let moved := { snapshot with positionRad := position, speedRadS := ofInt 0, currentA := current }
    let after := adapter.put key moved (steadyMotion moment (ofInt 0))
    (after, after.feedback message { moved.status with speed := speed } feedbackType)
  | .spdControl speedBits cur feedbackType =>
    let speed := ofBits speedBits * pi / ofInt 30
    let advanced := advanceMotion moment adapter.positionErrorEnabled snapshot (adapter.motions.find key)
    let moved := { advanced.1 with currentA := ofInt cur.toNat / ofInt 10, speedRadS := speed }
    let after := adapter.put key moved (steadyMotion moment speed)
    (after, after.feedback message moved.status feedbackType)
  | .curControl raw feedbackType =>
    let current := ofInt raw.toInt / ofInt 100
    let advanced := advanceMotion moment adapter.positionErrorEnabled snapshot (adapter.motions.find key)
    let moved := { advanced.1 with currentA := current }
    let after := adapter.put key moved (drivenMotion moment moved advanced.2 current)
    (after, after.feedback message moved.status feedbackType)
  | .torControl raw feedbackType =>
    let torque := ofInt raw.toInt / ofInt 100
    let advanced := advanceMotion moment adapter.positionErrorEnabled snapshot (adapter.motions.find key)
    let moved := { advanced.1 with torqueNm := torque, currentA := torque }
    let after := adapter.put key moved (drivenMotion moment moved advanced.2 torque)
    (after, after.feedback message moved.status feedbackType)
  | .stop _ raw feedbackType =>
    let moved := { snapshot with speedRadS := ofInt 0, currentA := ofInt raw.toInt / ofInt 100 }
    let after := adapter.put key moved (steadyMotion moment (ofInt 0))
    (after, after.feedback message moved.status feedbackType)
  | .brake enabled _ =>
    (adapter.putSnapshot key { snapshot with brakeEnabled := enabled },
      some (makeBrakeAck message.busIdx message.data.id snapshot.error enabled))
  | .setPos centideg _ =>
    (adapter.putSnapshot key { snapshot with positionRad := ofInt centideg.toInt / ofInt 100 * pi / ofInt 180 },
      some (makeSystemAck message.busIdx (message.data.data.get 0) (message.data.data.get 1) 0x03))
  | .resetZeroPos _ _ =>
    (adapter.putSnapshot key { snapshot with positionRad := ofInt 0 },
      some (makeSystemAck message.busIdx (message.data.data.get 0) (message.data.data.get 1) 0x03))
  | .setId _ targetId _ =>
    (adapter, some (makeSystemAck message.busIdx (targetId >>> 8).toUInt8 (targetId &&& 0xFF).toUInt8 0x04))
  | .getParameter value => adapter.getParameter moment message key snapshot value
  | .setParameter parameter rawParameterId rawValue _ => adapter.setParameter message key snapshot parameter rawParameterId rawValue
  | .monostate => (adapter, none)

def received (adapter : FakeAdapter Number) (moment : Moment Number) (message : MotorMessage) : FakeAdapter Number :=
  let key := (message.busIdx, logicalMotorId message.data)
  let logged := { adapter with rawSentMessages := adapter.rawSentMessages ++ [message] }
  let created := match adapter.snapshots.find key, adapter.current moment key with
    | none, some fresh => logged.put key fresh (steadyMotion moment fresh.speedRadS)
    | _, _ => logged
  created.record (decodeFakeCommand message)

def send (adapter : FakeAdapter Number) (moment : Moment Number) (message : MotorMessage) : FakeAdapter Number × Option MotorMessage :=
  let key := (message.busIdx, logicalMotorId message.data)
  let ready := adapter.received moment message
  match adapter.current moment key with
  | none => (ready, none)
  | some snapshot =>
    if ready.replyMode = .automatic then ready.respond moment message key snapshot (decodePayload message.data).2 else (ready, none)

end FakeAdapter

end Numbers

end EncosDriver.Fake
