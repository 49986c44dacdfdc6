import EncosDriver.Lib.Table
import Mathlib.Data.Finset.Basic

set_option autoImplicit false

namespace EncosDriver.Driver

abbrev CallId := Nat

-- An object is named by the call that allocates it, for as long as anybody holds
-- its address: a pointer that outlives its object names no other one. A reset of
-- a bus holds the motors it has surveyed over several locked sections, so what
-- it does to a surveyed name is what the source does as long as the allocator
-- does not hand a freed address out again meanwhile.
abbrev Pointer := Nat

inductive DeviceKind where
  | motor
  | battery
  | imu
  | pms
  | gloveEncoder
  | gloveCalibrator
  | external
deriving DecidableEq, Repr

structure BusKey where
  adapter : Pointer
  rawIdx : Int32
deriving DecidableEq, Repr

structure GloveKey where
  adapter : Pointer
  slaveId : Int32
deriving DecidableEq, Repr

structure DeviceKey where
  bus : Pointer
  kind : DeviceKind
  idx : Int32
  typeToken : Nat
  configToken : Nat
deriving DecidableEq, Repr

structure RouteKey where
  adapter : Pointer
  uniqueId : UInt64
deriving DecidableEq, Repr

def motorKey (bus : Pointer) (idx : Int32) : DeviceKey := ⟨bus, .motor, idx, 0, 0⟩

def makeReceiveUniqueId (rawBusIdx : Int32) (canId : UInt32) : UInt64 :=
  (rawBusIdx.toUInt32.toUInt64 <<< 32) ||| canId.toUInt64

def routeKey (bus : BusKey) (canId : UInt32) : RouteKey := ⟨bus.adapter, makeReceiveUniqueId bus.rawIdx canId⟩

variable (rawBusIdx : Int32)

theorem unique_id_value (canId : UInt32) :
    (makeReceiveUniqueId rawBusIdx canId).toNat = rawBusIdx.toUInt32.toNat * 2 ^ 32 + canId.toNat := by
  have rawBound := rawBusIdx.toUInt32.toNat_lt
  have idBound := canId.toNat_lt
  have shifted : (rawBusIdx.toUInt32.toUInt64 <<< 32).toNat = rawBusIdx.toUInt32.toNat <<< 32 := by
    simp only [UInt64.toNat_shiftLeft, UInt32.toNat_toUInt64]
    rw [Nat.mod_eq_of_lt]
    · rfl
    · rw [Nat.shiftLeft_eq]
      have : (32 : UInt64).toNat % 64 = 32 := rfl
      rw [this]
      omega
  rw [makeReceiveUniqueId, UInt64.toNat_or, shifted, UInt32.toNat_toUInt64,
    ← Nat.shiftLeft_add_eq_or_of_lt idBound, Nat.shiftLeft_eq]

def rawIdxOf (uniqueId : UInt64) : Int32 := Int32.ofUInt32 (uniqueId >>> 32).toUInt32

theorem unique_id_upper (canId : UInt32) :
    ((makeReceiveUniqueId rawBusIdx canId) >>> 32).toUInt32 = rawBusIdx.toUInt32 := by
  have value := unique_id_value rawBusIdx canId
  have rawBound := rawBusIdx.toUInt32.toNat_lt
  have idBound := canId.toNat_lt
  apply UInt32.toNat_inj.mp
  simp only [UInt64.toNat_toUInt32, UInt64.toNat_shiftRight, value]
  have : (32 : UInt64).toNat % 64 = 32 := rfl
  rw [this, Nat.shiftRight_eq_div_pow]
  omega

theorem raw_idx_of_unique_id (canId : UInt32) :
    rawIdxOf (makeReceiveUniqueId rawBusIdx canId) = rawBusIdx := by
  rw [rawIdxOf, unique_id_upper]

def kDeviceClaimBusRouteId : UInt32 := 0xFFFFFFFF

def batteryStatusIds (idx : UInt16) : List UInt32 :=
  [0x3F4 + idx.toUInt32, 0x2F4 + idx.toUInt32, 0x0F4 + idx.toUInt32, 0x1F4 + idx.toUInt32]

def imuCanId (pgn : UInt32) (idx : UInt16) : UInt32 := ((3 : UInt32) <<< 26) ||| (pgn <<< 8) ||| (0x59 + idx.toUInt32)

def imuStatusIds (idx : UInt16) : List UInt32 :=
  [imuCanId 0xF02D idx, imuCanId 0xF02A idx, imuCanId 0xF029 idx, imuCanId 0xF030 idx]

def kPmsStatusIds : List UInt32 := [0x18F0FFF2, 0x18F1FFF2, 0x18F2FFF2]

def kGloveEncoderBaseId : UInt32 := 0x8100

def kGloveCalibrationId : UInt32 := 0x8150

structure ExternalRoutes where
  canIds : List UInt32
  claimsBus : Bool
  resolved : if claimsBus then canIds = [kDeviceClaimBusRouteId] else kDeviceClaimBusRouteId ∉ canIds
deriving DecidableEq, Repr

inductive DeviceRecipe where
  | motor (idx : Int32)
  | battery (idx : Int32)
  | imu (idx : Int32)
  | pms
  | gloveEncoder (globalIdx : Fin 50)
  | gloveCalibrator (finger : Fin 5)
  | external (typeToken configToken : Nat) (routes : ExternalRoutes)
deriving DecidableEq, Repr

namespace DeviceRecipe

def kind : DeviceRecipe → DeviceKind
  | .motor _ => .motor
  | .battery _ => .battery
  | .imu _ => .imu
  | .pms => .pms
  | .gloveEncoder _ => .gloveEncoder
  | .gloveCalibrator _ => .gloveCalibrator
  | .external _ _ _ => .external

def idx : DeviceRecipe → Int32
  | .motor idx => idx
  | .battery idx => idx
  | .imu idx => idx
  | .pms => 0
  | .gloveEncoder globalIdx => Int32.ofNat globalIdx
  | .gloveCalibrator finger => Int32.ofNat finger
  | .external _ _ _ => 0

def typeToken : DeviceRecipe → Nat
  | .external typeToken _ _ => typeToken
  | _ => 0

def configToken : DeviceRecipe → Nat
  | .external _ configToken _ => configToken
  | _ => 0

def canIds : DeviceRecipe → List UInt32
  | .motor idx => [idx.toUInt32]
  | .battery idx => batteryStatusIds idx.toUInt32.toUInt16
  | .imu idx => imuStatusIds idx.toUInt32.toUInt16
  | .pms => kPmsStatusIds
  | .gloveEncoder globalIdx => [kGloveEncoderBaseId + UInt32.ofNat globalIdx]
  | .gloveCalibrator _ => [kGloveCalibrationId]
  | .external _ _ routes => routes.canIds

def claimsBus : DeviceRecipe → Bool
  | .external _ _ routes => routes.claimsBus
  | _ => false

def bindsCallback : DeviceRecipe → Bool
  | .gloveEncoder _ => false
  | .gloveCalibrator _ => false
  | _ => true

def key (recipe : DeviceRecipe) (bus : Pointer) : DeviceKey :=
  ⟨bus, recipe.kind, recipe.idx, recipe.typeToken, recipe.configToken⟩

end DeviceRecipe

theorem recipe_motor (recipe : DeviceRecipe) (motor : recipe.kind = .motor) : ∃ idx, recipe = .motor idx := by
  cases recipe with
  | motor idx => exact ⟨idx, rfl⟩
  | _ => cases motor

open Lib

structure RecordId where
  device : Pointer
  index : Nat
deriving DecidableEq, Repr

structure RouteRecord where
  device : Pointer
  bus : Pointer
  adapter : Pointer
  callback : Bool
  inFlight : Nat
  retiring : Bool
deriving DecidableEq, Repr

structure RouteEntry where
  key : RouteKey
  record : RecordId
  claim : Bool
deriving DecidableEq, Repr

structure DeviceRegistration where
  adapter : Pointer
  bus : Pointer
  routes : List RouteEntry
deriving DecidableEq, Repr

inductive PendingCreation where
  | incomplete
  | published (result : Pointer)
  | failed
deriving DecidableEq, Repr

abbrev Callback := Nat
abbrev MotorStatus := Nat

structure MotorIndexReservation where
  motor : Pointer
  callback : Option Callback
  installCallback : Bool
deriving DecidableEq, Repr

structure StatusConfig where
  maxLifeCycle : Int32 := 2147483647
  medianWindowSize : Nat := 0
  limitMaxDeltas : MotorStatus := 0
deriving DecidableEq, Repr

structure Motor where
  idx : UInt16
  status : StatusConfig := {}
  userOnStatus : Option Callback := none
deriving DecidableEq, Repr

structure Gate where
  active : Nat := 0
  retiring : Bool := false
deriving DecidableEq, Repr

abbrev OperationRegistry := Table Pointer Gate

namespace OperationRegistry

def register (registry : OperationRegistry) (object : Pointer) : OperationRegistry := registry.put object {}

def retire (registry : OperationRegistry) (object : Pointer) : OperationRegistry :=
  registry.modify object fun gate => { gate with retiring := true }

def retireAll (registry : OperationRegistry) (objects : List Pointer) : OperationRegistry :=
  registry.modifyAll objects fun gate => { gate with retiring := true }

def reclaimRetired (registry : OperationRegistry) (object : Pointer) : OperationRegistry :=
  match registry.find object with
  | some gate => if gate.retiring && gate.active = 0 then registry.remove object else registry
  | none => registry

def enter (registry : OperationRegistry) (object : Pointer) : OperationRegistry :=
  registry.modify object fun gate => { gate with active := gate.active + 1 }

def leave (registry : OperationRegistry) (object : Pointer) : OperationRegistry :=
  registry.modify object fun gate => { gate with active := gate.active - 1 }

def hasActiveOperations (registry : OperationRegistry) (object : Pointer) : Bool :=
  match registry.find object with
  | some gate => gate.active ≠ 0
  | none => false

end OperationRegistry

abbrev ChildCreations := Table Pointer Nat

namespace ChildCreations

def count (creations : ChildCreations) (parent : Pointer) : Nat := (creations.find parent).getD 0

def beginChildCreationLocked (creations : ChildCreations) (parent : Pointer) : ChildCreations :=
  creations.put parent (creations.count parent + 1)

def beginAll (creations : ChildCreations) (parents : List Pointer) : ChildCreations :=
  parents.foldl beginChildCreationLocked creations

def endChildCreation (creations : ChildCreations) (parent : Pointer) : ChildCreations :=
  match creations.find parent with
  | none => creations
  | some count => if count - 1 = 0 then creations.remove parent else creations.put parent (count - 1)

end ChildCreations

structure CallbackContext where
  device : Option Pointer := none
  bus : Option Pointer := none
  adapter : Option Pointer := none
  rawReceive : Bool := false
deriving DecidableEq, Repr

structure MotorMessage where
  busIdx : Int32
  id : UInt32
deriving DecidableEq, Repr

-- The tables of the manager and of its adapters. A route table of one adapter is
-- the part of `routes`, `claimRoutes` and `domainBuses` whose keys carry that
-- adapter. `busObjects` and `gloveBuses` hold what the constructors of a bus and
-- of a glove facade store in them. `deleting`, `deletingGloves` and
-- `resettingBuses` are sets: the value names the call that marked the object and
-- no section reads it.
structure Tables where
  adapters : Table String Pointer := ∅
  adapterNames : Table Pointer String := ∅
  buses : Table BusKey Pointer := ∅
  busKeys : Table Pointer BusKey := ∅
  busObjects : Table Pointer BusKey := ∅
  gloveInternalBuses : Finset Pointer := ∅
  pendingGloveBusKeys : Finset BusKey := ∅
  gloves : Table GloveKey Pointer := ∅
  gloveKeys : Table Pointer GloveKey := ∅
  gloveBuses : Table Pointer (List Pointer) := ∅
  devices : Table DeviceKey Pointer := ∅
  deviceKeys : Table Pointer DeviceKey := ∅
  initializingDeviceKeys : Table Pointer DeviceKey := ∅
  motorIndexReservations : Table DeviceKey MotorIndexReservation := ∅
  pendingAdapters : Table String CallId := ∅
  pendingBuses : Table BusKey CallId := ∅
  pendingDevices : Table DeviceKey CallId := ∅
  pendingGloves : Table GloveKey CallId := ∅
  publications : Table CallId PendingCreation := ∅
  deleting : Table Pointer CallId := ∅
  deletingGloves : Table Pointer CallId := ∅
  deletingDeviceParents : Table Pointer Pointer := ∅
  deletingBusParents : Table Pointer Pointer := ∅
  childCreations : ChildCreations := ∅
  resettingBuses : Table Pointer CallId := ∅
  adapterStatusConfigs : Table Pointer StatusConfig := ∅
  statusCallbacks : Table RouteKey Callback := ∅
  motorRouteReservations : Table RouteKey Pointer := ∅
  registrations : Table Pointer DeviceRegistration := ∅
  records : Table RecordId RouteRecord := ∅
  routes : Table RouteKey RecordId := ∅
  claimRoutes : Table BusKey RecordId := ∅
  domainBuses : Table BusKey Pointer := ∅
  operationRegistry : OperationRegistry := ∅
  receiveLocks : Table Pointer CallId := ∅
  motors : Table Pointer Motor := ∅
  unknownMessages : Table Pointer (List MotorMessage) := ∅

namespace Tables

abbrev isDeleting (tables : Tables) (object : Pointer) : Prop := tables.deleting.find object ≠ none

abbrev isResetting (tables : Tables) (bus : Pointer) : Prop := tables.resettingBuses.find bus ≠ none

def devicesOn (tables : Tables) (bus : Pointer) : List (Pointer × DeviceKind) :=
  (tables.devices.toList.filter fun entry => entry.1.bus = bus).map fun entry => (entry.2, entry.1.kind)

def motorsOnBus (tables : Tables) (bus : Pointer) : List Pointer :=
  ((tables.devicesOn bus).filter fun child => child.2 = .motor).map fun child => child.1

def busesOn (tables : Tables) (adapter : Pointer) : List Pointer :=
  (tables.buses.toList.filter fun entry => entry.1.adapter = adapter).map fun entry => entry.2

def glovesOn (tables : Tables) (adapter : Pointer) : List Pointer :=
  (tables.gloves.toList.filter fun entry => entry.1.adapter = adapter).map fun entry => entry.2

def registeredDevicesOn (tables : Tables) (bus : Pointer) : List Pointer :=
  ((tables.devicesOn bus).map fun child => child.1).filter fun child => tables.registrations.contains child

def busChildrenGone (tables : Tables) (bus : Pointer) : Bool :=
  (tables.devices.toList.all fun entry => entry.1.bus ≠ bus) &&
    tables.deletingDeviceParents.toList.all fun entry => entry.2 ≠ bus

def adapterBusesGone (tables : Tables) (adapter : Pointer) : Bool :=
  (tables.buses.toList.all fun entry => entry.1.adapter ≠ adapter) &&
    tables.deletingBusParents.toList.all fun entry => entry.2 ≠ adapter

def busDeviceDeletionsGone (tables : Tables) (bus : Pointer) : Bool :=
  tables.deletingDeviceParents.toList.all fun entry => entry.2 ≠ bus

def recordBusy (tables : Tables) (record : RecordId) : Bool :=
  match tables.records.find record with
  | some route => route.inFlight ≠ 0
  | none => false

def adapterOpen (tables : Tables) (adapter : Pointer) : Bool :=
  tables.adapterNames.contains adapter && ¬ tables.isDeleting adapter

end Tables

end EncosDriver.Driver
