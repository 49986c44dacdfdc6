import EncosDriver.Driver.Sections

set_option autoImplicit false

namespace EncosDriver.Driver

inductive Reply where
  | object (pointer : Pointer)
  | verdict (accepted : Bool)
  | thrown
  | undefined
deriving DecidableEq, Repr

inductive Setting where
  | lifeCycle (maxLifeCycle : Int32)
  | medianFilter (windowSize : Nat)
  | limitFilter (maxDeltas : MotorStatus)
  | callback (rawBusIdx motorIdx : Int32) (callback : Option Callback)
deriving DecidableEq, Repr

inductive Request where
  | createAdapter (name : String)
  | createBus (key : BusKey)
  | createDevice (bus : Pointer) (recipe : DeviceRecipe)
  | createGlove (key : GloveKey)
  | destroyDevice (device : Pointer) (expected : DeviceKind)
  | destroyBus (bus : Pointer) (allowGloveInternal : Bool)
  | destroyGlove (glove : Pointer)
  | destroyAdapter (adapter : Pointer)
  | reserveMotorIndex (motor : Pointer) (newMotorIdx : Int32)
  | releaseMotorIndexReservation (motor : Pointer) (newMotorIdx : Int32)
  | migrateMotorIndex (motor : Pointer) (newMotorIdx : Int32)
  | resetBusMotorsToIdOne (bus : Pointer)
  | configure (adapter : Pointer) (setting : Setting)
  | operate (object : Pointer)
  | receive (adapter : Pointer) (messages : List MotorMessage)
deriving DecidableEq, Repr

-- What a client may call: glove buses go only through DestroyGlove, the parts of
-- a glove only through CreateGlove, and frames enter only on the receive
-- threads.
def Request.isPublic : Request → Bool
  | .destroyBus _ allowGloveInternal => !allowGloveInternal
  | .createDevice _ recipe => recipe.bindsCallback
  | .receive _ _ => false
  | _ => true

inductive CreateAdapterPc where
  | enter
  | await (publication : CallId)
  | publish
  | abandon
deriving DecidableEq, Repr

inductive CreateBusPc where
  | enter
  | await (publication : CallId)
  | construct
  | publish
  | complete
  | rollback (counted constructed : Bool)
  | drainGate (counted : Bool)
  | endAdapter (counted : Bool) (reply : Reply)
deriving DecidableEq, Repr

-- The locals of CreateDevice once it leads: the bus key it read, which parents
-- it has counted itself on and the device, which is null until constructed.
structure DeviceCreation where
  busKey : BusKey
  busCounted : Bool
  adapterCounted : Bool
  device : Option Pointer
deriving DecidableEq, Repr

inductive CreateDevicePc where
  | enter
  | await (publication : CallId)
  | construct (creation : DeviceCreation)
  | publish (creation : DeviceCreation)
  | commit (creation : DeviceCreation)
  | rollbackDetach (creation : DeviceCreation)
  | drainRoutes (creation : DeviceCreation) (records : List RecordId)
  | drainGate (creation : DeviceCreation)
  | rollbackErase (creation : DeviceCreation)
  | rollbackComplete (creation : DeviceCreation)
  | endBus (creation : DeviceCreation) (reply : Reply)
  | endAdapter (creation : DeviceCreation) (reply : Reply)
deriving DecidableEq, Repr

structure GloveParts where
  buses : List Pointer
  encoders : List Pointer
  calibrators : List Pointer
  facade : Option Pointer
deriving DecidableEq, Repr

inductive CreateGlovePc where
  | enter
  | await (publication : CallId)
  | getBus (parts : GloveParts)
  | awaitBus (parts : GloveParts) (child : CallId)
  | createPart (parts : GloveParts)
  | awaitPart (parts : GloveParts) (child : CallId)
  | facade (parts : GloveParts)
  | readRouteIds (parts : GloveParts) (remaining : List (Pointer × Pointer))
  | activate (parts : GloveParts) (device bus : Pointer) (canIds : List UInt32) (remaining : List (Pointer × Pointer))
  | publish (parts : GloveParts)
  | rollbackRetire (parts : GloveParts)
  | rollbackDrain (parts : GloveParts)
  | rollbackBuses (parts : GloveParts) (remaining : List Pointer)
  | awaitRollbackBus (parts : GloveParts) (remaining : List Pointer) (bus : Pointer) (child : CallId)
  | waitRollbackBus (parts : GloveParts) (remaining : List Pointer) (bus : Pointer)
  | rollbackErase (parts : GloveParts)
  | endAdapter (counted : Bool) (reply : Reply)
deriving DecidableEq, Repr

inductive DestroyDevicePc where
  | accept
  | drainRoutes (key : DeviceKey) (records : List RecordId)
  | drainGate (key : DeviceKey)
  | erase (key : DeviceKey)
  | finish
deriving DecidableEq, Repr

inductive DestroyBusPc where
  | accept
  | drainGate (key : BusKey)
  | waitCreations (key : BusKey)
  | collect (key : BusKey)
  | children (key : BusKey) (remaining : List (Pointer × DeviceKind))
  | awaitChild (key : BusKey) (remaining : List (Pointer × DeviceKind)) (child : CallId)
  | waitChildren (key : BusKey)
  | erase (key : BusKey)
  | finish
deriving DecidableEq, Repr

inductive DestroyGlovePc where
  | accept
  | drainGate (key : GloveKey)
  | fingers (key : GloveKey) (remaining : List Pointer) (allDestroyed : Bool)
  | awaitFinger (key : GloveKey) (remaining : List Pointer) (allDestroyed : Bool) (bus : Pointer) (child : CallId)
  | waitFinger (key : GloveKey) (remaining : List Pointer) (bus : Pointer)
  | erase (key : GloveKey) (allDestroyed : Bool)
  | finish (allDestroyed : Bool)
deriving DecidableEq, Repr

inductive DestroyAdapterPc where
  | accept
  | waitCreations (name : String)
  | collect (name : String)
  | gloves (name : String) (remaining buses : List Pointer)
  | awaitGlove (name : String) (remaining buses : List Pointer) (child : CallId)
  | buses (name : String) (remaining : List Pointer)
  | awaitBus (name : String) (remaining : List Pointer) (child : CallId)
  | waitBuses (name : String)
  | retire (name : String)
  | drainGate (name : String)
  | erase (name : String)
  | finish
deriving DecidableEq, Repr

inductive ReservePc where
  | reserve
  | hook
deriving DecidableEq, Repr

inductive MigratePc where
  | precheck
  | hook (prechecked : Bool)
  | commit
deriving DecidableEq, Repr

inductive ResetBusPc where
  | mark
  | waitCreations
  | survey
  | waitDeletions
  | single (motor : Pointer)
  | choose (motors remaining : List Pointer)
  | destroyOthers (survivor : Pointer) (remaining : List Pointer)
  | awaitDestroy (survivor : Pointer) (remaining : List Pointer) (child : CallId)
  | inspect (survivor : Pointer)
  | awaitMigrate (child : CallId)
  | clear (accepted : Bool)
deriving DecidableEq, Repr

inductive OperatePc where
  | enter
  | inside
deriving DecidableEq, Repr

inductive DispatchRoute where
  | exact
  | system
  | claim
deriving DecidableEq, Repr

-- What the dispatch of one message has done so far; a record for the statements
-- about it, which no section reads. `seen` and `seenClaim` are the tables in the
-- lookup sections.
structure DispatchReport where
  message : MotorMessage
  seen : Tables
  seenClaim : Option Tables
  called : List RecordId
  mailbox : List Pointer

inductive ReceivePc where
  | enter
  | lock
  | relay
  | inRelay (nested : Option CallId)
  | next
  | lookup (message : MotorMessage)
  | deliver (report : DispatchReport) (route : DispatchRoute) (admitted : List RecordId)
  | inCallback (report : DispatchReport) (route : DispatchRoute) (record : RecordId) (admitted : List RecordId)
      (nested : Option CallId)
  | leaveRoute (report : DispatchReport) (route : DispatchRoute) (record : RecordId) (admitted : List RecordId)
  | claimLookup (report : DispatchReport)
  | unknown (report : DispatchReport)
  | unlock
  | leave

structure Delivery where
  messages : List MotorMessage
  history : List DispatchReport

inductive Frame where
  | finished (reply : Reply)
  | createAdapter (name : String) (pc : CreateAdapterPc)
  | createBus (key : BusKey) (pc : CreateBusPc)
  | createDevice (bus : Pointer) (recipe : DeviceRecipe) (pc : CreateDevicePc)
  | createGlove (key : GloveKey) (pc : CreateGlovePc)
  | destroyDevice (device : Pointer) (expected : DeviceKind) (pc : DestroyDevicePc)
  | destroyBus (bus : Pointer) (allowGloveInternal : Bool) (pc : DestroyBusPc)
  | destroyGlove (glove : Pointer) (pc : DestroyGlovePc)
  | destroyAdapter (adapter : Pointer) (pc : DestroyAdapterPc)
  | reserve (motor : Pointer) (newMotorIdx : Int32) (pc : ReservePc)
  | release (motor : Pointer) (newMotorIdx : Int32)
  | migrate (motor : Pointer) (newMotorIdx : Int32) (pc : MigratePc)
  | resetBus (bus : Pointer) (pc : ResetBusPc)
  | configure (adapter : Pointer) (setting : Setting)
  | operate (object : Pointer) (pc : OperatePc)
  | receive (adapter : Pointer) (delivery : Delivery) (pc : ReceivePc)

structure Call where
  context : CallbackContext
  frame : Frame

def Request.frame : Request → Frame
  | .createAdapter name => .createAdapter name .enter
  | .createBus key => .createBus key .enter
  | .createDevice bus recipe => .createDevice bus recipe .enter
  | .createGlove key => .createGlove key .enter
  | .destroyDevice device expected => .destroyDevice device expected .accept
  | .destroyBus bus allowGloveInternal => .destroyBus bus allowGloveInternal .accept
  | .destroyGlove glove => .destroyGlove glove .accept
  | .destroyAdapter adapter => .destroyAdapter adapter .accept
  | .reserveMotorIndex motor newMotorIdx => .reserve motor newMotorIdx .reserve
  | .releaseMotorIndexReservation motor newMotorIdx => .release motor newMotorIdx
  | .migrateMotorIndex motor newMotorIdx => .migrate motor newMotorIdx .precheck
  | .resetBusMotorsToIdOne bus => .resetBus bus .mark
  | .configure adapter setting => .configure adapter setting
  | .operate object => .operate object .enter
  | .receive adapter messages => .receive adapter ⟨messages, []⟩ .enter

open Lib

-- What one locked section writes. The section has already decided, from the
-- tables it found, that it writes this; a call that leads a creation or marks an
-- object names itself.
inductive Effect where
  | nothing
  | leadAdapter (call : CallId) (name : String)
  | publishAdapter (call : CallId) (name : String)
  | abandonAdapter (call : CallId) (name : String)
  | leadBus (call : CallId) (key : BusKey) (counted : Bool)
  | constructBus (call : CallId) (key : BusKey)
  | publishBus (call : CallId) (key : BusKey)
  | refuse (call : CallId)
  | completeBus (call : CallId) (key : BusKey)
  | rollbackBus (call : CallId) (key : BusKey) (constructed : Bool)
  | leadDevice (call : CallId) (key : DeviceKey) (counted : List Pointer)
  | construct (call : CallId) (recipe : DeviceRecipe) (registered : Bool)
  | publishRoutes (call bus adapter : Pointer) (domain : BusKey) (recipe : DeviceRecipe)
  | commitDevice (call bus : Pointer) (recipe : DeviceRecipe)
  | commitThrows (call : CallId) (key : DeviceKey)
  | detachDevice (device : Pointer)
  | eraseCreation (key : DeviceKey) (device : Option Pointer)
  | abandonDevice (call : CallId) (key : DeviceKey)
  | endChildCreation (parent : Pointer)
  | reclaim (object : Pointer)
  | leadGlove (call : CallId) (key : GloveKey) (busKeys : List BusKey)
  | refuseGlove (call : CallId)
  | constructGlove (call : CallId) (buses : List Pointer)
  | activateRoutes (device : Pointer)
  | publishGlove (call : CallId) (key : GloveKey) (buses : List Pointer) (busKeys : List BusKey)
  | retire (object : Pointer)
  | rollbackGlove (call : CallId) (key : GloveKey) (parts : GloveParts) (busKeys : List BusKey)
  | acceptDevice (call device : Pointer) (bus : Pointer)
  | eraseDevice (device : Pointer) (key : DeviceKey)
  | finishDevice (device : Pointer)
  | acceptBus (call bus : Pointer) (key : BusKey)
  | eraseBus (bus : Pointer) (key : BusKey)
  | finishBus (bus : Pointer)
  | acceptGlove (call glove : Pointer)
  | eraseGlove (glove : Pointer) (key : GloveKey)
  | finishGlove (glove : Pointer)
  | acceptAdapter (call adapter : Pointer)
  | eraseAdapter (adapter : Pointer) (name : String)
  | finishAdapter (adapter : Pointer)
  | reserve (newKey : DeviceKey) (newRoute : RouteKey) (reservation : MotorIndexReservation)
  | release (motor : Pointer) (newMotorIdx : Int32)
  | migrate (migration : Tables.Migration)
  | configure (adapter : Pointer) (setting : Setting)
  | enterGate (object : Pointer)
  | leaveGate (object : Pointer)
  | lockReceive (call adapter : Pointer)
  | unlockReceive (adapter : Pointer)
  | enterRoutes (records : List RecordId)
  | leaveRoute (record : RecordId)
  | pushUnknown (bus : Pointer) (message : MotorMessage)
  | markResetting (call bus : Pointer)
  | clearResetting (bus : Pointer)

namespace Tables

def configured (tables : Tables) (adapter : Pointer) : Setting → Tables
  | .lifeCycle maxLifeCycle => tables.configureAdapterStatusLifeCycle adapter maxLifeCycle
  | .medianFilter windowSize => tables.configureAdapterStatusMedianFilter adapter windowSize
  | .limitFilter maxDeltas => tables.configureAdapterStatusLimitFilter adapter maxDeltas
  | .callback rawBusIdx motorIdx callback => tables.configureAdapterStatusCallback adapter rawBusIdx motorIdx callback

def configure (tables : Tables) (adapter : Pointer) (setting : Setting) : Tables :=
  { tables with
    adapterStatusConfigs := (tables.configured adapter setting).adapterStatusConfigs
    statusCallbacks := (tables.configured adapter setting).statusCallbacks
    motors := (tables.configured adapter setting).motors }

def retiredWithAdapter (tables : Tables) (adapter : Pointer) : List Pointer :=
  ((tables.busesOn adapter).filter fun bus => bus ∉ tables.gloveInternalBuses).flatMap fun bus =>
    bus :: tables.registeredDevicesOn bus

def removePointer {Value : Type} (table : Table Pointer Value) : Option Pointer → Table Pointer Value
  | some pointer => table.remove pointer
  | none => table

end Tables

open Tables

def Effect.apply (tables : Tables) : Effect → Tables
  | .nothing => tables
  | .leadAdapter call name =>
    { tables with
      pendingAdapters := tables.pendingAdapters.put name call
      publications := tables.publications.put call .incomplete }
  | .publishAdapter call name =>
    { tables with
      operationRegistry := tables.operationRegistry.register call
      adapters := tables.adapters.emplace name call
      adapterNames := tables.adapterNames.emplace call name
      pendingAdapters := tables.pendingAdapters.remove name
      publications := tables.publications.put call (.published call) }
  | .abandonAdapter call name =>
    { tables with
      pendingAdapters := tables.pendingAdapters.remove name
      publications := tables.publications.put call .failed }
  | .leadBus call key counted =>
    { tables with
      childCreations := tables.childCreations.beginAll (if counted then [key.adapter] else [])
      pendingBuses := tables.pendingBuses.put key call
      publications := tables.publications.put call .incomplete }
  | .constructBus call key => { tables with busObjects := tables.busObjects.put call key }
  | .publishBus call key =>
    { tables with
      operationRegistry := tables.operationRegistry.register call
      buses := tables.buses.emplace key call
      busKeys := tables.busKeys.emplace call key
      domainBuses := tables.domainBuses.emplace key call }
  -- The object is entered and removed again within the section; only its closed gate is left.
  | .refuse call => { tables with operationRegistry := (tables.operationRegistry.register call).retire call }
  | .completeBus call key =>
    { tables with
      pendingBuses := tables.pendingBuses.remove key
      publications := tables.publications.put call (.published call) }
  | .rollbackBus call key constructed =>
    { tables with
      operationRegistry := if constructed then tables.operationRegistry.retire call else tables.operationRegistry
      buses := tables.buses.remove key
      busKeys := removePointer tables.busKeys (if constructed then some call else none)
      pendingBuses := tables.pendingBuses.remove key
      publications := tables.publications.put call .failed }
  | .leadDevice call key counted =>
    { tables with
      childCreations := tables.childCreations.beginAll counted
      pendingDevices := tables.pendingDevices.put key call
      publications := tables.publications.put call .incomplete }
  | .construct call recipe registered =>
    { tables with
      operationRegistry := if registered then tables.operationRegistry.register call else tables.operationRegistry
      motors :=
        match recipe with
        | .motor idx => tables.motors.put call { idx := idx.toUInt32.toUInt16 }
        | _ => tables.motors }
  | .publishRoutes call bus adapter domain recipe =>
    { tables.publishRoutes call adapter bus domain recipe with
      initializingDeviceKeys := tables.initializingDeviceKeys.emplace call (recipe.key bus) }
  | .commitDevice call bus recipe =>
    { tables.recipeCommit bus recipe call with
      initializingDeviceKeys := tables.initializingDeviceKeys.remove call
      devices := tables.devices.emplace (recipe.key bus) call
      deviceKeys := tables.deviceKeys.emplace call (recipe.key bus)
      pendingDevices := tables.pendingDevices.remove (recipe.key bus)
      publications := tables.publications.put call (.published call) }
  | .commitThrows call key =>
    { tables with
      initializingDeviceKeys := tables.initializingDeviceKeys.remove call
      devices := tables.devices.remove key
      deviceKeys := tables.deviceKeys.remove call }
  | .detachDevice device =>
    { tables.detachRegistrationLocked device with operationRegistry := tables.operationRegistry.retire device }
  | .eraseCreation key device =>
    { tables with
      devices := tables.devices.remove key
      deviceKeys := removePointer tables.deviceKeys device
      initializingDeviceKeys := removePointer tables.initializingDeviceKeys device }
  | .abandonDevice call key =>
    { tables with
      pendingDevices := tables.pendingDevices.remove key
      publications := tables.publications.put call .failed }
  | .endChildCreation parent => { tables with childCreations := tables.childCreations.endChildCreation parent }
  | .reclaim object => { tables with operationRegistry := tables.operationRegistry.reclaimRetired object }
  | .leadGlove call key busKeys =>
    { tables with
      childCreations := tables.childCreations.beginAll [key.adapter]
      pendingGloveBusKeys := tables.pendingGloveBusKeys ∪ busKeys.toFinset
      pendingGloves := tables.pendingGloves.put key call
      publications := tables.publications.put call .incomplete }
  | .refuseGlove call => { tables with publications := tables.publications.put call .failed }
  | .constructGlove call buses => { tables with gloveBuses := tables.gloveBuses.put call buses }
  | .activateRoutes device => tables.registerReceiveRoutes device
  | .publishGlove call key buses busKeys =>
    { tables with
      operationRegistry := tables.operationRegistry.register call
      gloveInternalBuses := tables.gloveInternalBuses ∪ buses.toFinset
      gloves := tables.gloves.emplace key call
      gloveKeys := tables.gloveKeys.emplace call key
      pendingGloveBusKeys := tables.pendingGloveBusKeys \ busKeys.toFinset
      pendingGloves := tables.pendingGloves.remove key
      publications := tables.publications.put call (.published call) }
  | .retire object => { tables with operationRegistry := tables.operationRegistry.retire object }
  | .rollbackGlove call key parts busKeys =>
    { tables with
      gloves := tables.gloves.remove key
      gloveKeys := removePointer tables.gloveKeys parts.facade
      pendingGloveBusKeys := tables.pendingGloveBusKeys \ busKeys.toFinset
      gloveInternalBuses := tables.gloveInternalBuses \ parts.buses.toFinset
      pendingGloves := tables.pendingGloves.remove key
      publications := tables.publications.put call .failed }
  | .acceptDevice call device bus =>
    { tables.detachRegistrationLocked device with
      operationRegistry := tables.operationRegistry.retire device
      deleting := tables.deleting.put device call
      deletingDeviceParents := tables.deletingDeviceParents.put device bus }
  | .eraseDevice device key =>
    { tables with devices := tables.devices.remove key, deviceKeys := tables.deviceKeys.remove device }
  | .finishDevice device =>
    { tables with
      deleting := tables.deleting.remove device
      deletingDeviceParents := tables.deletingDeviceParents.remove device }
  | .acceptBus call bus key =>
    { tables with
      operationRegistry := tables.operationRegistry.retireAll (bus :: tables.registeredDevicesOn bus)
      deleting := tables.deleting.put bus call
      deletingBusParents := tables.deletingBusParents.put bus key.adapter
      domainBuses := tables.domainBuses.remove key }
  | .eraseBus bus key =>
    { tables with
      buses := tables.buses.remove key
      busKeys := tables.busKeys.remove bus
      gloveInternalBuses := tables.gloveInternalBuses.erase bus }
  | .finishBus bus =>
    { tables with
      deleting := tables.deleting.remove bus
      deletingBusParents := tables.deletingBusParents.remove bus }
  | .acceptGlove call glove =>
    { tables with
      operationRegistry := tables.operationRegistry.retire glove
      deletingGloves := tables.deletingGloves.put glove call }
  | .eraseGlove glove key =>
    { tables with gloves := tables.gloves.remove key, gloveKeys := tables.gloveKeys.remove glove }
  | .finishGlove glove => { tables with deletingGloves := tables.deletingGloves.remove glove }
  | .acceptAdapter call adapter =>
    { tables with
      operationRegistry :=
        tables.operationRegistry.retireAll (tables.retiredWithAdapter adapter ++ tables.glovesOn adapter)
      deleting := tables.deleting.put adapter call }
  | .eraseAdapter adapter name =>
    { tables with
      adapters := tables.adapters.remove name
      adapterNames := tables.adapterNames.remove adapter
      adapterStatusConfigs := tables.adapterStatusConfigs.remove adapter
      statusCallbacks := tables.statusCallbacks.retain fun key => key.adapter ≠ adapter }
  | .finishAdapter adapter => { tables with deleting := tables.deleting.remove adapter }
  | .reserve newKey newRoute reservation => tables.reserve newKey newRoute reservation
  | .release motor newMotorIdx => tables.releaseMotorIndexReservation motor newMotorIdx
  | .migrate migration => tables.migrate migration
  | .configure adapter setting => tables.configure adapter setting
  | .enterGate object => { tables with operationRegistry := tables.operationRegistry.enter object }
  | .leaveGate object => { tables with operationRegistry := tables.operationRegistry.leave object }
  | .lockReceive call adapter => { tables with receiveLocks := tables.receiveLocks.put adapter call }
  | .unlockReceive adapter => { tables with receiveLocks := tables.receiveLocks.remove adapter }
  | .enterRoutes records =>
    { tables with
      records := tables.records.modifyAll records fun route => { route with inFlight := route.inFlight + 1 } }
  | .leaveRoute record =>
    { tables with records := tables.records.modify record fun route => { route with inFlight := route.inFlight - 1 } }
  | .pushUnknown bus message =>
    { tables with
      unknownMessages := tables.unknownMessages.put bus ((tables.unknownMessages.find bus).getD [] ++ [message]) }
  | .markResetting call bus => { tables with resettingBuses := tables.resettingBuses.put bus call }
  | .clearResetting bus => { tables with resettingBuses := tables.resettingBuses.remove bus }

end EncosDriver.Driver
