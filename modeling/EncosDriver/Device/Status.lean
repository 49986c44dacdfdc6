import EncosDriver.Driver.Tables
import EncosDriver.Motor.Feedback

set_option autoImplicit false

namespace EncosDriver.Device

open Driver Message Motor

def second : Int := 1000000000

def readU16Le (data : Vector UInt8 8) (offset : Nat) : UInt16 :=
  (data.toList.getD offset 0).toUInt16 ||| ((data.toList.getD (offset + 1) 0).toUInt16 <<< 8)

def readI16Le (data : Vector UInt8 8) (offset : Nat) : Int16 := (readU16Le data offset).toInt16

def hasBit (data : Vector UInt8 8) (offset : Nat) (mask : UInt8) : Bool := data.toList.getD offset 0 &&& mask ≠ 0

def extractUnsignedIntel (data : Vector UInt8 8) (startBit bitLen : Nat) : UInt32 :=
  (List.range bitLen).foldl
    (fun result bit =>
      if hasBit data ((startBit + bit) / 8) ((1 : UInt8) <<< UInt8.ofNat ((startBit + bit) % 8)) then
        result ||| ((1 : UInt32) <<< UInt32.ofNat bit)
      else result)
    0

-- What happens to a device that only receives: each action is one critical
-- section, with the clock reading it uses.
inductive StatusEvent where
  | frame (now : Int) (message : MotorPackMsg)
  | getStatus (now : Int)
  | setOnStatus (isSet : Bool)
deriving DecidableEq, Repr

def StatusEvent.time : StatusEvent → Option Int
  | .frame now _ => some now
  | .getStatus now => some now
  | .setOnStatus _ => none

def InOrder (history : List StatusEvent) : Prop := (history.filterMap StatusEvent.time).Pairwise (· ≤ ·)

instance (history : List StatusEvent) : Decidable (InOrder history) := inferInstanceAs (Decidable (List.Pairwise _ _))

structure Handled (Status State : Type) where
  state : State
  handed : Option Status
  accepted : Bool

section Readings

variable {Number : Type} [FloatArithmetic Number]

def ofU16 (raw : UInt16) : Number := ofInt raw.toNat

def ofI16 (raw : Int16) : Number := ofInt raw.toInt

end Readings

namespace Imu

def stateTimeout : Int := second

structure ImuAcceleration (Number : Type) where
  x : Number
  y : Number
  z : Number
deriving DecidableEq

structure ImuAngularVelocity (Number : Type) where
  x : Number
  y : Number
  z : Number
deriving DecidableEq

structure ImuEulerAngle (Number : Type) where
  pitch : Number
  roll : Number
  heading : Number
deriving DecidableEq

structure ImuQuaternion (Number : Type) where
  qw : Number
  qx : Number
  qy : Number
  qz : Number
deriving DecidableEq

structure ImuStatus (Number : Type) where
  acceleration : Option (ImuAcceleration Number) := none
  angularVelocity : Option (ImuAngularVelocity Number) := none
  eulerAngle : Option (ImuEulerAngle Number) := none
  quaternion : Option (ImuQuaternion Number) := none
deriving DecidableEq

structure Impl (Number : Type) where
  lastAccelerationUpdate : Int := 0
  lastAngularVelocityUpdate : Int := 0
  lastEulerAngleUpdate : Int := 0
  lastQuaternionUpdate : Int := 0
  currentStatus : ImuStatus Number := {}
  onStatus : Bool := false
deriving DecidableEq

inductive ImuUpdate (Number : Type) where
  | acceleration (parsed : ImuAcceleration Number)
  | angularVelocity (parsed : ImuAngularVelocity Number)
  | eulerAngle (parsed : ImuEulerAngle Number)
  | quaternion (parsed : ImuQuaternion Number)
deriving DecidableEq

section Methods

variable {Number : Type} [FloatArithmetic Number]

def scale (raw : UInt32) (resolution offset : Number) : Number := ofInt raw.toNat * resolution + offset

def decode (idx : UInt16) (message : MotorPackMsg) : Option (ImuUpdate Number) :=
  let routeIds := imuStatusIds idx
  let data := message.data
  let word := fun offset resolution base => (scale (readU16Le data offset).toUInt32 resolution base : Number)
  let field := fun start =>
    (scale (extractUnsignedIntel data start 20) (ofInt 1 / ofInt 128) (ofInt (-4000)) : Number)
  if message.id = routeIds.getD 0 0 ∧ 6 ≤ message.len then
    let reading := fun offset => word offset (ofInt 1 / ofInt 100) (ofInt (-320))
    some (.acceleration ⟨reading 0, reading 2, reading 4⟩)
  else if message.id = routeIds.getD 1 0 ∧ 8 ≤ message.len then
    some (.angularVelocity ⟨field 0, field 20, field 40⟩)
  else if message.id = routeIds.getD 2 0 ∧ 6 ≤ message.len then
    let reading := fun offset => word offset (ofInt 1 / ofInt 128) (ofInt (-250))
    some (.eulerAngle ⟨reading 0, reading 2, reading 4⟩)
  else if message.id = routeIds.getD 3 0 ∧ 8 ≤ message.len then
    let reading := fun offset => word offset (ofInt 30519 / ofInt 1000000000) (ofInt (-1))
    some (.quaternion ⟨reading 0, reading 2, reading 4, reading 6⟩)
  else none

def Impl.store (impl : Impl Number) (now : Int) : ImuUpdate Number → Impl Number
  | .acceleration parsed =>
    { impl with
      currentStatus := { impl.currentStatus with acceleration := some parsed }
      lastAccelerationUpdate := now }
  | .angularVelocity parsed =>
    { impl with
      currentStatus := { impl.currentStatus with angularVelocity := some parsed }
      lastAngularVelocityUpdate := now }
  | .eulerAngle parsed =>
    { impl with
      currentStatus := { impl.currentStatus with eulerAngle := some parsed }
      lastEulerAngleUpdate := now }
  | .quaternion parsed =>
    { impl with
      currentStatus := { impl.currentStatus with quaternion := some parsed }
      lastQuaternionUpdate := now }

def Impl.onMessage (impl : Impl Number) (idx : UInt16) (now : Int) (message : MotorPackMsg) :
    Handled (ImuStatus Number) (Impl Number) :=
  match decode idx message with
  | none => ⟨impl, none, false⟩
  | some update =>
    let stored := impl.store now update
    ⟨stored, if stored.onStatus then some stored.currentStatus else none, true⟩

def Impl.getStatusSnapshot (impl : Impl Number) (now : Int) : ImuStatus Number × Impl Number :=
  let status := impl.currentStatus
  let status : ImuStatus Number := {
    acceleration := if stateTimeout < now - impl.lastAccelerationUpdate then none else status.acceleration
    angularVelocity := if stateTimeout < now - impl.lastAngularVelocityUpdate then none else status.angularVelocity
    eulerAngle := if stateTimeout < now - impl.lastEulerAngleUpdate then none else status.eulerAngle
    quaternion := if stateTimeout < now - impl.lastQuaternionUpdate then none else status.quaternion }
  (status, { impl with currentStatus := status })

def Impl.step (impl : Impl Number) (idx : UInt16) : StatusEvent → Impl Number
  | .frame now message => (impl.onMessage idx now message).state
  | .getStatus now => (impl.getStatusSnapshot now).2
  | .setOnStatus isSet => { impl with onStatus := isSet }

def run (idx : UInt16) (history : List StatusEvent) : Impl Number := history.foldl (·.step idx ·) {}

end Methods

end Imu

namespace Battery

def stateTimeout : Int := second

structure BatteryState (Number : Type) where
  isMaster : Bool
  soc : Number
  voltage : Number
  allowedDischargeCurrent : Number
  allowedChargeCurrent : Number
deriving DecidableEq

structure BatteryTemp (Number : Type) where
  battery : Number
  mos : Number
  dischargeCurrent : Number
  chargeCurrent : Number
deriving DecidableEq

structure BatteryError where
  couldNotCharge : Bool := false
  couldNotDischarge : Bool := false
  lowBattery : Bool := false
  overCurrentSteady : Bool := false
  overCurrentPeak : Bool := false
  overCurrentCharge : Bool := false
  batteryOverTemp : Bool := false
  mosOverTemp : Bool := false
  couldNotCommunicate : Bool := false
  stoppedEmergency : Bool := false
  chargerFault : Bool := false
  commTimeout : Bool := false
deriving DecidableEq, Repr

structure BatteryActiveCommands where
  shutdownRequest : Bool
  dischargeRequest : Bool
  forceShutdownBroadcast : Bool
  allowCharging : Bool
  faultShutdownBroadcast : Bool
  mosStatus : Bool
deriving DecidableEq, Repr

structure BatteryStatus (Number : Type) where
  state : Option (BatteryState Number) := none
  temp : Option (BatteryTemp Number) := none
  activeCommands : Option BatteryActiveCommands := none
  error : BatteryError := {}
deriving DecidableEq

structure Impl (Number : Type) where
  lastStateUpdate : Int := 0
  lastTempUpdate : Int := 0
  lastErrorUpdate : Int := 0
  lastActiveCommandsUpdate : Int := 0
  currentStatus : BatteryStatus Number := {}
  onStatus : Bool := false
deriving DecidableEq

inductive BatteryUpdate (Number : Type) where
  | state (parsed : BatteryState Number)
  | temp (parsed : BatteryTemp Number)
  | error (parsed : BatteryError)
  | activeCommands (parsed : BatteryActiveCommands)
deriving DecidableEq

section Methods

variable {Number : Type} [FloatArithmetic Number]

def decodeError (data : Vector UInt8 8) : BatteryError where
  couldNotCharge := hasBit data 0 0x01
  couldNotDischarge := hasBit data 0 0x02
  lowBattery := hasBit data 0 0x04
  overCurrentSteady := hasBit data 0 0x08
  overCurrentPeak := hasBit data 0 0x10
  overCurrentCharge := hasBit data 0 0x20
  batteryOverTemp := hasBit data 0 0x40
  mosOverTemp := hasBit data 0 0x80
  couldNotCommunicate := hasBit data 1 0x01
  stoppedEmergency := hasBit data 1 0x02
  chargerFault := hasBit data 1 0x04

def decode (idx : UInt16) (message : MotorPackMsg) : Option (BatteryUpdate Number) :=
  let routeIds := batteryStatusIds idx
  let data := message.data
  let current := fun offset => (ofU16 (readU16Le data offset) * (ofInt 1 / ofInt 100000) : Number)
  if message.id = routeIds.getD 0 0 ∧ 8 ≤ message.len then
    some (.state ⟨data.toList.getD 0 0 ≠ 0, ofInt (data.toList.getD 1 0).toNat / ofInt 100,
      ofU16 (readU16Le data 2) * (ofInt 1 / ofInt 100), current 4, current 6⟩)
  else if message.id = routeIds.getD 1 0 ∧ 8 ≤ message.len then
    some (.temp ⟨ofI16 (readI16Le data 0), ofI16 (readI16Le data 2), current 4, current 6⟩)
  else if message.id = routeIds.getD 2 0 ∧ 2 ≤ message.len then some (.error (decodeError data))
  else if message.id = routeIds.getD 3 0 ∧ 1 ≤ message.len then
    some (.activeCommands ⟨hasBit data 0 0x01, hasBit data 0 0x02, hasBit data 0 0x04, hasBit data 0 0x08, hasBit data 0 0x10,
      hasBit data 0 0x20⟩)
  else none

def Impl.store (impl : Impl Number) (now : Int) : BatteryUpdate Number → Impl Number
  | .state parsed =>
    { impl with currentStatus := { impl.currentStatus with state := some parsed }, lastStateUpdate := now }
  | .temp parsed =>
    { impl with currentStatus := { impl.currentStatus with temp := some parsed }, lastTempUpdate := now }
  | .error parsed =>
    { impl with currentStatus := { impl.currentStatus with error := parsed }, lastErrorUpdate := now }
  | .activeCommands parsed =>
    { impl with
      currentStatus := { impl.currentStatus with activeCommands := some parsed }
      lastActiveCommandsUpdate := now }

def Impl.onMessage (impl : Impl Number) (idx : UInt16) (now : Int) (message : MotorPackMsg) :
    Handled (BatteryStatus Number) (Impl Number) :=
  match decode idx message with
  | none => ⟨impl, none, false⟩
  | some update =>
    let stored := impl.store now update
    ⟨stored, if stored.onStatus then some stored.currentStatus else none, true⟩

def commTimeoutError : BatteryError := { commTimeout := true }

def Impl.getStatusSnapshot (impl : Impl Number) (now : Int) : BatteryStatus Number × Impl Number :=
  let status := impl.currentStatus
  let status : BatteryStatus Number := {
    state := if stateTimeout < now - impl.lastStateUpdate then none else status.state
    temp := if stateTimeout < now - impl.lastTempUpdate then none else status.temp
    activeCommands := if stateTimeout < now - impl.lastActiveCommandsUpdate then none else status.activeCommands
    error := if stateTimeout < now - impl.lastErrorUpdate then commTimeoutError else status.error }
  (status, { impl with currentStatus := status })

def Impl.step (impl : Impl Number) (idx : UInt16) : StatusEvent → Impl Number
  | .frame now message => (impl.onMessage idx now message).state
  | .getStatus now => (impl.getStatusSnapshot now).2
  | .setOnStatus isSet => { impl with onStatus := isSet }

def run (idx : UInt16) (history : List StatusEvent) : Impl Number := history.foldl (·.step idx ·) {}

end Methods

end Battery

end EncosDriver.Device
