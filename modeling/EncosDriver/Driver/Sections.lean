import EncosDriver.Driver.Tables

set_option autoImplicit false

namespace EncosDriver.Driver

open Lib

namespace Tables

def preparedRoutes (device : Pointer) (bus : BusKey) (recipe : DeviceRecipe) : List RouteEntry :=
  if recipe.claimsBus then [⟨routeKey bus kDeviceClaimBusRouteId, ⟨device, 0⟩, true⟩]
  else recipe.canIds.zipIdx.map fun id => ⟨routeKey bus id.1, ⟨device, id.2⟩, false⟩

def routeDomain (tables : Tables) (adapter bus : Pointer) : Option BusKey :=
  (tables.busKeys.find bus).map fun key => ⟨adapter, key.rawIdx⟩

def routesConflict (tables : Tables) (device : Pointer) (domain : BusKey) (recipe : DeviceRecipe) : Bool :=
  let routes := preparedRoutes device domain recipe
  tables.registrations.contains device ||
    if recipe.claimsBus then tables.claimRoutes.contains domain
    else
      (routes.any fun entry => tables.routes.contains entry.key || tables.motorRouteReservations.contains entry.key) ||
        ¬ (routes.map fun entry => entry.key).Nodup

def publishRoutes (tables : Tables) (device adapter bus : Pointer) (domain : BusKey) (recipe : DeviceRecipe) : Tables :=
  let routes := preparedRoutes device domain recipe
  let record : RouteRecord := ⟨device, bus, adapter, recipe.bindsCallback, 0, false⟩
  { tables with
    registrations := tables.registrations.put device ⟨adapter, bus, routes⟩
    records := tables.records.emplaceAll (routes.map fun entry => (entry.record, record))
    claimRoutes := if recipe.claimsBus then tables.claimRoutes.put domain ⟨device, 0⟩ else tables.claimRoutes
    routes :=
      if recipe.claimsBus then tables.routes
      else tables.routes.emplaceAll (routes.map fun entry => (entry.key, entry.record)) }

def exactEntries (retired : DeviceRegistration) : List (RouteKey × RecordId) :=
  (retired.routes.filter fun entry => ¬ entry.claim).map fun entry => (⟨retired.adapter, entry.key.uniqueId⟩, entry.record)

def claimEntries (retired : DeviceRegistration) : List (BusKey × RecordId) :=
  (retired.routes.filter fun entry => entry.claim).map fun entry =>
    (⟨retired.adapter, rawIdxOf entry.key.uniqueId⟩, entry.record)

def retiredRecords (retired : DeviceRegistration) : List RecordId := retired.routes.map fun entry => entry.record

def registeredRecords (tables : Tables) (device : Pointer) : List RecordId :=
  match tables.registrations.find device with
  | none => []
  | some registration => retiredRecords registration

def detachRegistrationLocked (tables : Tables) (device : Pointer) : Tables :=
  { tables with
    registrations := tables.registrations.remove device
    records := tables.records.modifyAll (tables.registeredRecords device) fun record => { record with retiring := true }
    claimRoutes :=
      match tables.registrations.find device with
      | none => tables.claimRoutes
      | some retired => tables.claimRoutes.removeMatching (claimEntries retired)
    routes :=
      match tables.registrations.find device with
      | none => tables.routes
      | some retired => tables.routes.removeMatching (exactEntries retired) }

def activatable (tables : Tables) (adapter : Pointer) (canIds : List UInt32) (entry : RouteEntry) : Bool :=
  entry.key.adapter = adapter && canIds.contains entry.key.uniqueId.toUInt32 &&
    tables.routes.find ⟨adapter, entry.key.uniqueId⟩ = some entry.record &&
    match tables.records.find entry.record with
    | some record => !record.retiring && !record.callback
    | none => false

def routesActivatable (tables : Tables) (device adapter bus : Pointer) (canIds : List UInt32) : Bool :=
  match tables.deviceKeys.find device, tables.busKeys.find bus, tables.registrations.find device with
  | some deviceKey, some busKey, some existing =>
    deviceKey.bus = bus && busKey.adapter = adapter && ¬ tables.isDeleting device && ¬ tables.isDeleting bus &&
      ¬ tables.isDeleting adapter && ¬ canIds.isEmpty && existing.routes.length = canIds.length &&
      existing.routes.all (tables.activatable adapter canIds)
  | _, _, _ => false

def registerReceiveRoutes (tables : Tables) (device : Pointer) : Tables :=
  { tables with
    records := tables.records.modifyAll (tables.registeredRecords device) fun record => { record with callback := true } }

def motorsOn (tables : Tables) (adapter : Pointer) : List Pointer :=
  (tables.devices.toList.filter fun entry =>
    entry.1.kind = .motor && (tables.busKeys.find entry.1.bus).any fun bus => bus.adapter = adapter).map fun entry => entry.2

def configureAdapterStatus (tables : Tables) (adapter : Pointer) (change : StatusConfig → StatusConfig) : Tables :=
  { tables with
    adapterStatusConfigs :=
      if tables.adapterOpen adapter then
        tables.adapterStatusConfigs.put adapter (change ((tables.adapterStatusConfigs.find adapter).getD {}))
      else tables.adapterStatusConfigs
    motors :=
      if tables.adapterOpen adapter then
        tables.motors.modifyAll (tables.motorsOn adapter) fun motor => { motor with status := change motor.status }
      else tables.motors }

def configureAdapterStatusLifeCycle (tables : Tables) (adapter : Pointer) (maxLifeCycle : Int32) : Tables :=
  tables.configureAdapterStatus adapter fun config => { config with maxLifeCycle := maxLifeCycle }

def configureAdapterStatusMedianFilter (tables : Tables) (adapter : Pointer) (windowSize : Nat) : Tables :=
  tables.configureAdapterStatus adapter fun config => { config with medianWindowSize := windowSize }

def configureAdapterStatusLimitFilter (tables : Tables) (adapter : Pointer) (maxDeltas : MotorStatus) : Tables :=
  tables.configureAdapterStatus adapter fun config => { config with limitMaxDeltas := maxDeltas }

def registeredMotor (tables : Tables) (adapter : Pointer) (rawBusIdx motorIdx : Int32) : Option Pointer :=
  match tables.buses.find ⟨adapter, rawBusIdx⟩ with
  | none => none
  | some bus => tables.devices.find (motorKey bus motorIdx)

def configureAdapterStatusCallback (tables : Tables) (adapter : Pointer) (rawBusIdx motorIdx : Int32)
    (callback : Option Callback) : Tables :=
  let key := routeKey ⟨adapter, rawBusIdx⟩ motorIdx.toUInt32
  { tables with
    statusCallbacks :=
      if tables.adapterOpen adapter then
        match callback with
        | some callback => tables.statusCallbacks.put key callback
        | none => tables.statusCallbacks.remove key
      else tables.statusCallbacks
    motors :=
      if tables.adapterOpen adapter then
        match tables.registeredMotor adapter rawBusIdx motorIdx with
        | some motor => tables.motors.modify motor fun motor => { motor with userOnStatus := callback }
        | none => tables.motors
      else tables.motors }

def applyMotorStatusConfigurationLocked (tables : Tables) (bus : Pointer) (motorIdx : Int32) (motor : Pointer) : Tables :=
  { tables with
    motors :=
      match tables.busKeys.find bus with
      | none => tables.motors
      | some busKey =>
        if tables.adapterOpen busKey.adapter then
          tables.motors.modify motor fun motor =>
            { motor with
              status := (tables.adapterStatusConfigs.find busKey.adapter).getD {}
              userOnStatus := tables.statusCallbacks.find (routeKey busKey motorIdx.toUInt32) }
        else tables.motors }

def recipeCommit (tables : Tables) (bus : Pointer) (recipe : DeviceRecipe) (device : Pointer) : Tables :=
  { tables with
    motors :=
      match recipe with
      | .motor idx => (tables.applyMotorStatusConfigurationLocked bus idx device).motors
      | _ => tables.motors }

def preparedCallback (tables : Tables) (oldRoute newRoute : RouteKey) : Option Callback × Bool :=
  match tables.statusCallbacks.find newRoute with
  | some callback => (some callback, true)
  | none =>
    match tables.statusCallbacks.find oldRoute with
    | some callback => (some callback, true)
    | none => (none, false)

inductive ReserveDecision where
  | answer (accepted : Bool)
  | reserve (newKey : DeviceKey) (newRoute : RouteKey) (reservation : MotorIndexReservation)
deriving DecidableEq, Repr

def reserveDecision (tables : Tables) (motor : Pointer) (newMotorIdx : Int32) : ReserveDecision :=
  match tables.deviceKeys.find motor with
  | none => .answer false
  | some current =>
    if current.kind ≠ .motor ∨ tables.isDeleting motor then .answer false
    else
      let newKey := motorKey current.bus newMotorIdx
      if newKey = current then .answer true
      else
        match tables.busKeys.find current.bus with
        | none => .answer false
        | some busKey =>
          if tables.isDeleting current.bus ∨ tables.isDeleting busKey.adapter ∨ tables.devices.contains newKey ∨
              tables.pendingDevices.contains newKey then .answer false
          else
            let newRoute := routeKey busKey newMotorIdx.toUInt32
            if tables.routes.contains newRoute then .answer false
            else
              match tables.motorIndexReservations.find newKey with
              | some reservation => .answer (reservation.motor = motor)
              | none =>
                match tables.motorRouteReservations.find newRoute with
                | some holder => .answer (holder = motor)
                | none =>
                  match tables.registrations.find motor with
                  | some { routes := [entry], .. } =>
                    let prepared := tables.preparedCallback entry.key newRoute
                    .reserve newKey newRoute ⟨motor, prepared.1, prepared.2⟩
                  | _ => .answer false

def reserve (tables : Tables) (newKey : DeviceKey) (newRoute : RouteKey) (reservation : MotorIndexReservation) : Tables :=
  { tables with
    motorIndexReservations := tables.motorIndexReservations.emplace newKey reservation
    motorRouteReservations := tables.motorRouteReservations.emplace newRoute reservation.motor }

def releasable (tables : Tables) (motor : Pointer) (newMotorIdx : Int32) : Option Pointer :=
  match tables.deviceKeys.find motor with
  | none => none
  | some current =>
    if (tables.motorIndexReservations.find (motorKey current.bus newMotorIdx)).any fun held => held.motor = motor then
      some current.bus
    else none

def releaseMotorIndexReservation (tables : Tables) (motor : Pointer) (newMotorIdx : Int32) : Tables :=
  { tables with
    motorIndexReservations :=
      match tables.releasable motor newMotorIdx with
      | none => tables.motorIndexReservations
      | some bus => tables.motorIndexReservations.remove (motorKey bus newMotorIdx)
    motorRouteReservations :=
      match (tables.releasable motor newMotorIdx).bind tables.busKeys.find with
      | none => tables.motorRouteReservations
      | some busKey => tables.motorRouteReservations.removeMatching [(routeKey busKey newMotorIdx.toUInt32, motor)] }

structure Migration where
  motor : Pointer
  newMotorIdx : Int32
  oldKey : DeviceKey
  newKey : DeviceKey
  oldRoute : RouteKey
  newRoute : RouteKey
  callback : Option Callback
  install : Bool
deriving DecidableEq, Repr

def migrationCallback (tables : Tables) (newKey : DeviceKey) (oldRoute newRoute : RouteKey) : Option Callback × Bool :=
  match tables.motorIndexReservations.find newKey with
  | some held => (held.callback, held.installCallback)
  | none => tables.preparedCallback oldRoute newRoute

inductive MigrateDecision where
  | answer (accepted : Bool)
  | migrate (migration : Migration)
deriving DecidableEq, Repr

def migrateDecision (tables : Tables) (motor : Pointer) (newMotorIdx : Int32) : MigrateDecision :=
  match tables.deviceKeys.find motor with
  | none => .answer false
  | some oldKey =>
    if oldKey.kind ≠ .motor ∨ tables.isDeleting motor then .answer false
    else
      let newKey := motorKey oldKey.bus newMotorIdx
      if oldKey = newKey then .answer true
      else
        if tables.devices.contains newKey ∨
            (tables.motorIndexReservations.find newKey).any (fun held => held.motor ≠ motor) then .answer false
        else
          match tables.busKeys.find oldKey.bus with
          | none => .answer false
          | some busKey =>
            if tables.isDeleting oldKey.bus ∨ tables.isDeleting busKey.adapter then .answer false
            else
              let newRoute := routeKey busKey newMotorIdx.toUInt32
              if tables.routes.contains newRoute ∨
                  (tables.motorRouteReservations.find newRoute).any (fun holder => holder ≠ motor) then .answer false
              else
                match tables.registrations.find motor with
                | some { routes := [entry], .. } =>
                  if ¬ tables.routes.contains ⟨busKey.adapter, entry.key.uniqueId⟩ then .answer false
                  else
                    let prepared := tables.migrationCallback newKey entry.key newRoute
                    .migrate ⟨motor, newMotorIdx, oldKey, newKey, entry.key, newRoute, prepared.1, prepared.2⟩
                | _ => .answer false

-- The extracted device node is empty where the device table has lost the motor's
-- key; setting the key of an empty node is undefined.
def migrationDefined (tables : Tables) (migration : Migration) : Bool := tables.devices.contains migration.oldKey

def setFrontKey (key : RouteKey) (registration : DeviceRegistration) : DeviceRegistration :=
  match registration.routes with
  | [] => registration
  | entry :: rest => { registration with routes := { entry with key := key } :: rest }

def migrate (tables : Tables) (migration : Migration) : Tables :=
  { tables with
    routes := tables.routes.rekey ⟨migration.newRoute.adapter, migration.oldRoute.uniqueId⟩ migration.newRoute
    devices := tables.devices.rekey migration.oldKey migration.newKey
    registrations := tables.registrations.modify migration.motor (setFrontKey migration.newRoute)
    deviceKeys := tables.deviceKeys.modify migration.motor fun _ => migration.newKey
    statusCallbacks :=
      if tables.statusCallbacks.contains migration.newRoute then tables.statusCallbacks.remove migration.oldRoute
      else tables.statusCallbacks.rekey migration.oldRoute migration.newRoute
    motors := tables.motors.modify migration.motor fun motor =>
      { motor with
        idx := migration.newMotorIdx.toUInt32.toUInt16
        userOnStatus := if migration.install then migration.callback else motor.userOnStatus }
    motorIndexReservations := tables.motorIndexReservations.remove migration.newKey
    motorRouteReservations := tables.motorRouteReservations.remove migration.newRoute }

end Tables

end EncosDriver.Driver
