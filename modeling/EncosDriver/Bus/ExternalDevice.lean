import EncosDriver.Driver.Listing

set_option autoImplicit false

namespace EncosDriver.Bus

open Lib Driver

-- The manager together with what its buses share between their calls: the
-- external device flag, which a new bus has cleared, and the mutex of the
-- consumer of unknown messages.
structure Shared where
  driver : DriverState := initial
  externalDeviceFlag : Table Pointer Bool := ∅
  consumerMutex : Table Pointer CallId := ∅

namespace Shared

abbrev tables (shared : Shared) : Tables := shared.driver.shared

def withTables (shared : Shared) (tables : Tables) : Shared :=
  { shared with driver := { shared.driver with shared := tables } }

def hasExternalDevice (shared : Shared) (bus : Pointer) : Bool := (shared.externalDeviceFlag.find bus).getD false

def setExternalDeviceFlag (shared : Shared) (bus : Pointer) (value : Bool) : Shared :=
  { shared with externalDeviceFlag := shared.externalDeviceFlag.put bus value }

def gateOpen (shared : Shared) (bus : Pointer) : Bool :=
  match shared.tables.operationRegistry.find bus with
  | some gate => !gate.retiring
  | none => false

def enterGate (shared : Shared) (bus : Pointer) : Shared :=
  shared.withTables { shared.tables with operationRegistry := shared.tables.operationRegistry.enter bus }

def leaveGate (shared : Shared) (bus : Pointer) : Shared :=
  shared.withTables { shared.tables with operationRegistry := shared.tables.operationRegistry.leave bus }

def unknownMessages (shared : Shared) (bus : Pointer) : List MotorMessage := (shared.tables.unknownMessages.find bus).getD []

def emptyMailbox (shared : Shared) (bus : Pointer) : Shared :=
  shared.withTables { shared.tables with unknownMessages := shared.tables.unknownMessages.put bus [] }

end Shared

def hasRegisteredExternalDevice (tables : Tables) (bus : Pointer) : Bool :=
  match tables.busKeys.find bus with
  | none => false
  | some parent =>
    if tables.isDeleting bus ∨ tables.isDeleting parent.adapter then false
    else
      tables.devices.toList.any fun entry =>
        entry.1.bus = bus && entry.1.kind ≠ .motor && ¬ tables.isDeleting entry.2

inductive GetPc where
  | acquire
  | readFlag
  | setFlag (wasExternal : Bool)
  | create (wasExternal : Bool)
  | await (wasExternal : Bool) (creation : CallId)
  | check (wasExternal : Bool)
  | clear
  | leave (reply : Reply)
deriving DecidableEq, Repr

inductive DetectPc where
  | acquire
  | lock
  | check
  | listen
  | write (detected : Bool)
  | unlock (detected : Bool)
  | leave (detected : Bool)
deriving DecidableEq, Repr

inductive Frame where
  | finished (reply : Reply)
  | get (bus : Pointer) (recipe : DeviceRecipe) (pc : GetPc)
  | detect (bus : Pointer) (pc : DetectPc)
deriving DecidableEq, Repr

inductive Request where
  | getBattery (bus : Pointer) (batteryIdx : Int32)
  | getImu (bus : Pointer) (imuIdx : Int32)
  | getPms (bus : Pointer)
  | getDevice (bus : Pointer) (typeToken configToken : Nat) (routes : ExternalRoutes)
  | detectExternalDevice (bus : Pointer)
deriving DecidableEq, Repr

def Request.frame : Request → Frame
  | .getBattery bus batteryIdx => .get bus (.battery batteryIdx) .acquire
  | .getImu bus imuIdx => .get bus (.imu imuIdx) .acquire
  | .getPms bus => .get bus .pms .acquire
  | .getDevice bus typeToken configToken routes => .get bus (.external typeToken configToken routes) .acquire
  | .detectExternalDevice bus => .detect bus .acquire

def runGet (shared : Shared) (fails : Bool) (bus : Pointer) (recipe : DeviceRecipe) : GetPc → Option (Shared × Frame)
  | .acquire =>
    if shared.gateOpen bus then some (shared.enterGate bus, .get bus recipe .readFlag)
    else some (shared, .finished .thrown)
  -- HasExternalDevice enters the gate once more and leaves it again.
  | .readFlag =>
    if shared.gateOpen bus then some (shared, .get bus recipe (.setFlag (shared.hasExternalDevice bus)))
    else some (shared, .get bus recipe (.leave .thrown))
  | .setFlag wasExternal => some (shared.setExternalDeviceFlag bus true, .get bus recipe (.create wasExternal))
  | .create wasExternal =>
    if fails then some (shared, .get bus recipe (.check wasExternal))
    else
      some ({ shared with driver := shared.driver.start (beginCall {} (.createDevice bus recipe)) },
        .get bus recipe (.await wasExternal shared.driver.nextCall))
  | .await wasExternal creation =>
    match replyOf shared.driver.calls creation with
    | none => none
    | some (.object device) => some (shared, .get bus recipe (.leave (.object device)))
    | some _ => some (shared, .get bus recipe (.check wasExternal))
  | .check wasExternal =>
    if wasExternal || hasRegisteredExternalDevice shared.tables bus then some (shared, .get bus recipe (.leave .thrown))
    else some (shared, .get bus recipe .clear)
  | .clear => some (shared.setExternalDeviceFlag bus false, .get bus recipe (.leave .thrown))
  | .leave reply => some (shared.leaveGate bus, .finished reply)

def runDetect (shared : Shared) (self : CallId) (bus : Pointer) : DetectPc → Option (Shared × Frame)
  | .acquire =>
    if shared.gateOpen bus then some (shared.enterGate bus, .detect bus .lock)
    else some (shared, .finished (.verdict false))
  | .lock =>
    if shared.consumerMutex.contains bus then none
    else some ({ shared with consumerMutex := shared.consumerMutex.put bus self }, .detect bus .check)
  | .check =>
    if hasRegisteredExternalDevice shared.tables bus then some (shared, .detect bus (.write true))
    else some (shared.emptyMailbox bus, .detect bus .listen)
  -- The second of sleep lies before this section.
  | .listen => some (shared.emptyMailbox bus, .detect bus (.write (shared.unknownMessages bus ≠ [])))
  | .write detected => some (shared.setExternalDeviceFlag bus detected, .detect bus (.unlock detected))
  | .unlock detected =>
    some ({ shared with consumerMutex := shared.consumerMutex.remove bus }, .detect bus (.leave detected))
  | .leave detected => some (shared.leaveGate bus, .finished (.verdict detected))

def runFrame (shared : Shared) (self : CallId) (fails : Bool) : Frame → Option (Shared × Frame)
  | .finished _ => none
  | .get bus recipe pc => runGet shared fails bus recipe pc
  | .detect bus pc => runDetect shared self bus pc

def gloveBus : Driver.Frame → Driver.Frame → Option Pointer
  | .createGlove _ (.awaitBus _ _), .createGlove _ (.createPart parts) => parts.buses.getLast?
  | _, _ => none

def flaggedBy (driver next : DriverState) : Driver.Action → Option Pointer
  | .run id _ =>
    match driver.calls.find id, next.calls.find id with
    | some before, some after => gloveBus before.frame after.frame
    | _, _ => none
  | _ => none

def clientMay : Driver.Action → Bool
  | .call (.createDevice _ recipe) => recipe.kind = .motor
  | .callback _ (.createDevice _ recipe) => recipe.kind = .motor
  | _ => true

abbrev BusState := World Shared Frame

inductive Action where
  | request (request : Request)
  | run (id : CallId) (fails : Bool)
  -- Any other thread moves the manager on: a creation, a destruction, a glove, a reset, a delivery.
  | driver (action : Driver.Action)
deriving DecidableEq, Repr

def driverMoved (shared : Shared) (action : Driver.Action) (next : DriverState) : Shared :=
  match flaggedBy shared.driver next action with
  | some bus => { shared with driver := next }.setExternalDeviceFlag bus true
  | none => { shared with driver := next }

def step (state : BusState) : Action → Option BusState
  | .request request => some (state.start request.frame)
  | .run id fails =>
    match state.calls.find id with
    | none => none
    | some frame =>
      (runFrame state.shared id fails frame).map fun moved => state.advance id ⟨moved.1, moved.2, none⟩
  | .driver action =>
    if clientMay action then
      (Driver.step state.shared.driver action).map fun next =>
        { state with shared := driverMoved state.shared action next }
    else none

def initial : BusState := ⟨{}, ∅, 0⟩

def system : System BusState Action where
  init := fun state => state = initial
  step := step

end EncosDriver.Bus
