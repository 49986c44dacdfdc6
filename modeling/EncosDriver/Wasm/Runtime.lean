import EncosDriver.Lib.Table
import EncosDriver.Lib.System
import Mathlib.Data.Finset.Basic

set_option autoImplicit false

namespace EncosDriver.Wasm

open Lib

abbrev Handle := Nat
abbrev AdapterId := Nat
abbrev BusId := Nat
abbrev DeviceId := Nat

inductive ErrorCode where
  | ok
  | invalidArgument
  | invalidHandle
  | disposed
  | wrongAdapterType
  | operationFailed
  | noResponse
  | unsupported
  | resourceExhausted
  | internalError
deriving DecidableEq, Repr

inductive Answer (Value : Type) where
  | success (value : Value)
  | failure (code : ErrorCode) (message : String)
  | thrown
deriving DecidableEq, Repr

inductive DeviceKind where
  | motor
  | battery
  | imu
deriving DecidableEq, Repr

structure AdapterEntry where
  adapter : Option AdapterId := none
  fakeAdapter : Option AdapterId := none
  interfaceName : String
  busHandlesByRawIndex : Table Int Handle := ∅
  childBusHandles : List Handle := []
  childHandles : DeviceKind → List Handle := fun _ => []
  fakeToolsEnabled : Bool := false
  disposing : Bool := false
  valid : Bool := true

structure BusKey where
  rawIdx : Int
  slaveIdx : Int
  busIdx : Int
deriving DecidableEq, Repr

structure BusEntry where
  adapterHandle : Handle
  bus : BusId
  key : BusKey
  handlesByIndex : DeviceKind → Table Int Handle := fun _ => ∅
  valid : Bool := true

structure DeviceEntry where
  adapterHandle : Handle
  busHandle : Handle
  idx : Int
  device : DeviceId
  valid : Bool := true
deriving DecidableEq, Repr

structure PendingAdapterDeletion where
  adapterHandle : Handle
  interfaceName : String
  adapter : AdapterId
  retryCount : Nat := 0
  retryDelayMs : Nat := 1
  exhausted : Bool := false
deriving DecidableEq, Repr

structure Store where
  motorCreationAdapter : Option AdapterId := none
  nextHandle : Nat := 1
  adapters : Table Handle AdapterEntry := ∅
  buses : Table Handle BusEntry := ∅
  devices : DeviceKind → Table Handle DeviceEntry := fun _ => ∅
  adapterHandleLeases : Table (Option AdapterId) Nat := ∅
  pendingAdapterDeletions : Table AdapterId PendingAdapterDeletion := ∅
  pendingAdapterInterfaces : Finset String := ∅

structure Managed where
  name : String
  fake : Bool
deriving DecidableEq, Repr

-- What the store sees of the driver manager: one living adapter for an interface
-- name. A name stands for one object for ever; `destroyed` lists the deleted
-- ones.
structure Manager where
  adapters : Table String AdapterId := ∅
  objects : Table AdapterId Managed := ∅
  nextAdapter : AdapterId := 0
  destroyed : List AdapterId := []

inductive Made (Value : Type) where
  | threw
  | null
  | made (value : Value)
deriving DecidableEq, Repr

def Manager.register (manager : Manager) (name : String) (fake : Bool) : Manager × AdapterId :=
  match manager.adapters.find name with
  | some adapter => (manager, adapter)
  | none =>
    ({ manager with
        adapters := manager.adapters.put name manager.nextAdapter
        objects := manager.objects.put manager.nextAdapter ⟨name, fake⟩
        nextAdapter := manager.nextAdapter + 1 }, manager.nextAdapter)

def Manager.createAdapter (manager : Manager) (name : String) : Made Bool → Manager × Made AdapterId
  | .threw => (manager, .threw)
  | .null => (manager, .null)
  | .made fake => ((manager.register name fake).1, .made (manager.register name fake).2)

def Manager.isFake (manager : Manager) (adapter : AdapterId) : Bool :=
  (manager.objects.find adapter).any fun managed => managed.fake

def Manager.destroyAdapter (manager : Manager) (adapter : AdapterId) (accepts : Bool) : Manager × Bool :=
  match manager.objects.find adapter with
  | none => (manager, false)
  | some managed =>
    if accepts then
      ({ manager with
          adapters := manager.adapters.remove managed.name
          objects := manager.objects.remove adapter
          destroyed := manager.destroyed ++ [adapter] }, true)
    else (manager, false)

inductive Birth where
  | adapter (adapter : AdapterId)
  | bus (adapter : Handle)
  | device (kind : DeviceKind) (bus : Handle)
deriving DecidableEq, Repr

-- The store with its manager and a motor creation under way. `births` and
-- `disposed` are records for the statements: the handles given out, with what
-- each stands for, and those disposed of.
structure World where
  store : Store := {}
  manager : Manager := {}
  creating : Option (Handle × Int) := none
  births : List (Handle × Birth) := []
  disposed : List Handle := []

def Store.resolveAdapter (store : Store) (handle : Handle) : Answer AdapterEntry :=
  match store.adapters.find handle with
  | none => .failure .invalidHandle "invalid adapter handle"
  | some entry => if entry.valid then .success entry else .failure .invalidHandle "invalid adapter handle"

def Store.resolveBus (store : Store) (handle : Handle) : Answer BusEntry :=
  match store.buses.find handle with
  | none => .failure .invalidHandle "invalid bus handle"
  | some entry =>
    if entry.valid then
      match store.resolveAdapter entry.adapterHandle with
      | .success _ => .success entry
      | .failure code message => .failure code message
      | .thrown => .thrown
    else .failure .invalidHandle "invalid bus handle"

def DeviceKind.invalid : DeviceKind → String
  | .motor => "invalid motor handle"
  | .battery => "invalid battery handle"
  | .imu => "invalid IMU handle"

def Store.resolveDevice (store : Store) (kind : DeviceKind) (handle : Handle) : Answer DeviceEntry :=
  match (store.devices kind).find handle with
  | none => .failure .invalidHandle kind.invalid
  | some entry =>
    if entry.valid then
      match store.resolveBus entry.busHandle with
      | .success _ => .success entry
      | .failure code message => .failure code message
      | .thrown => .thrown
    else .failure .invalidHandle kind.invalid

def Store.resolveMotor (store : Store) (handle : Handle) : Answer DeviceEntry := store.resolveDevice .motor handle
def Store.resolveBattery (store : Store) (handle : Handle) : Answer DeviceEntry := store.resolveDevice .battery handle
def Store.resolveImu (store : Store) (handle : Handle) : Answer DeviceEntry := store.resolveDevice .imu handle

def Store.allocateHandle (store : Store) : Option (Handle × Store) :=
  if store.nextHandle = 4294967295 then none
  else some (store.nextHandle, { store with nextHandle := store.nextHandle + 1 })

inductive Reservation where
  | exhausted
  | failed (store : Store)
  | reserved (handle : Handle) (store : Store)

def Store.reserve (store : Store) (entry : AdapterEntry) : Reservation :=
  match store.allocateHandle with
  | none => .exhausted
  | some (handle, store) =>
    if store.adapters.contains handle || store.adapterHandleLeases.contains none then
      .failed { store with adapters := store.adapters.remove handle }
    else
      .reserved handle
        { store with
          adapters := store.adapters.put handle entry
          adapterHandleLeases := store.adapterHandleLeases.put none 0 }

def Store.release (store : Store) (handle : Handle) : Store :=
  { store with
    adapterHandleLeases := store.adapterHandleLeases.remove none
    adapters := store.adapters.remove handle }

def Store.publish (store : Store) (handle : Handle) (adapter : AdapterId) (fake : Option AdapterId) : Store :=
  { store with
    adapterHandleLeases :=
      match store.adapterHandleLeases.find (some adapter) with
      | none => (store.adapterHandleLeases.remove none).put (some adapter) 1
      | some count => (store.adapterHandleLeases.remove none).put (some adapter) (count + 1)
    adapters := store.adapters.modify handle fun entry =>
      { entry with adapter := some adapter, fakeAdapter := fake, valid := true } }

-- What CreateAdapter and CreateFakeAdapter share. `adopt` says which objects of
-- the manager the call takes, and as which fake adapter.
def World.create (world : World) (entry : AdapterEntry) (made : Made Bool)
    (adopt : Manager → Made AdapterId → Option (AdapterId × Option AdapterId)) (code : ErrorCode) (message : String) :
    World × Answer Handle :=
  if entry.interfaceName ∈ world.store.pendingAdapterInterfaces then
    (world, .failure .disposed "adapter interface is pending disposal")
  else
    match world.store.reserve { entry with valid := false } with
    | .exhausted => (world, .thrown)
    | .failed store =>
      ({ world with store := store }, .failure .internalError "failed to reserve adapter handle storage")
    | .reserved handle store =>
      let result := world.manager.createAdapter entry.interfaceName made
      match result.2 with
      | .threw => ({ world with store := store.release handle, manager := result.1 }, .thrown)
      | got =>
        match adopt result.1 got with
        | none => ({ world with store := store.release handle, manager := result.1 }, .failure code message)
        | some (adapter, fake) =>
          ({ world with
              store := store.publish handle adapter fake
              manager := result.1
              births := world.births ++ [(handle, .adapter adapter)] }, .success handle)

def adoptAny (_ : Manager) : Made AdapterId → Option (AdapterId × Option AdapterId)
  | .made adapter => some (adapter, none)
  | _ => none

def adoptFake (manager : Manager) : Made AdapterId → Option (AdapterId × Option AdapterId)
  | .made adapter => if manager.isFake adapter then some (adapter, some adapter) else none
  | _ => none

def World.createAdapter (world : World) (adapterType interfaceName : String) (made : Made Bool) : World × Answer Handle :=
  if adapterType = "" then (world, .failure .invalidArgument "adapter_type must not be empty")
  else world.create { interfaceName := interfaceName } made adoptAny .operationFailed "MakeAdapter returned null"

def fakeFactory : Made Bool → Made Bool
  | .made _ => .made true
  | other => other

def World.createFakeAdapter (world : World) (interfaceName : String) (made : Made Bool) : World × Answer Handle :=
  world.create { interfaceName := interfaceName, fakeToolsEnabled := true } (fakeFactory made) adoptFake .wrongAdapterType
    "interface is not managed as a Fake adapter"

def AdapterEntry.addBus (entry : AdapterEntry) (rawIdx : Int) (handle : Handle) : AdapterEntry :=
  { entry with
    busHandlesByRawIndex := entry.busHandlesByRawIndex.put rawIdx handle
    childBusHandles := entry.childBusHandles ++ [handle] }

def AdapterEntry.addDevice (entry : AdapterEntry) (kind : DeviceKind) (handle : Handle) : AdapterEntry :=
  { entry with
    childHandles := fun other => if other = kind then entry.childHandles kind ++ [handle] else entry.childHandles other }

def BusEntry.addDevice (entry : BusEntry) (kind : DeviceKind) (idx : Int) (handle : Handle) : BusEntry :=
  { entry with
    handlesByIndex := fun other =>
      if other = kind then (entry.handlesByIndex kind).put idx handle else entry.handlesByIndex other }

def World.getBus (world : World) (adapterHandle : Handle) (slaveIdx busIdx : Int) (made : Made (Int × BusId)) :
    World × Answer Handle :=
  match world.store.resolveAdapter adapterHandle with
  | .failure code message => (world, .failure code message)
  | .thrown => (world, .thrown)
  | .success adapter =>
    match made with
    | .threw => (world, .thrown)
    | .null => (world, .failure .operationFailed "GetBus returned null")
    | .made (rawIdx, bus) =>
      match adapter.busHandlesByRawIndex.find rawIdx with
      | some handle => (world, .success handle)
      | none =>
        match world.store.allocateHandle with
        | none => (world, .thrown)
        | some (handle, store) =>
          ({ world with
              store := { store with
                buses := store.buses.put handle
                  { adapterHandle := adapterHandle, bus := bus, key := ⟨rawIdx, slaveIdx, busIdx⟩ }
                adapters := store.adapters.modify adapterHandle fun entry => entry.addBus rawIdx handle }
              births := world.births ++ [(handle, .bus adapterHandle)] }, .success handle)

def Store.addDevice (store : Store) (kind : DeviceKind) (handle : Handle) (entry : DeviceEntry) : Store :=
  { store with
    devices := fun other =>
      if other = kind then (store.devices kind).put handle entry else store.devices other
    buses := store.buses.modify entry.busHandle fun bus => bus.addDevice kind entry.idx handle
    adapters :=
      match store.resolveAdapter entry.adapterHandle with
      | .success _ => store.adapters.modify entry.adapterHandle fun adapter => adapter.addDevice kind handle
      | _ => store.adapters }

def World.enter (world : World) (kind : DeviceKind) (busHandle : Handle) (bus : BusEntry) (idx : Int) (device : DeviceId) :
    World × Answer Handle :=
  match world.store.allocateHandle with
  | none => (world, .thrown)
  | some (handle, store) =>
    ({ world with
        store := store.addDevice kind handle
          { adapterHandle := bus.adapterHandle, busHandle := busHandle, idx := idx, device := device }
        births := world.births ++ [(handle, .device kind busHandle)] }, .success handle)

def World.getDevice (world : World) (kind : DeviceKind) (message : String) (busHandle : Handle) (idx : Int)
    (made : Made DeviceId) : World × Answer Handle :=
  match world.store.resolveBus busHandle with
  | .failure code message => (world, .failure code message)
  | .thrown => (world, .thrown)
  | .success bus =>
    match (bus.handlesByIndex kind).find idx with
    | some handle => (world, .success handle)
    | none =>
      match made with
      | .threw => (world, .thrown)
      | .null => (world, .failure .operationFailed message)
      | .made device => world.enter kind busHandle bus idx device

def World.getBattery (world : World) (busHandle : Handle) (batteryIdx : Int) (made : Made DeviceId) :
    World × Answer Handle :=
  world.getDevice .battery "GetBattery returned null" busHandle batteryIdx made

def World.getImu (world : World) (busHandle : Handle) (imuIdx : Int) (made : Made DeviceId) : World × Answer Handle :=
  world.getDevice .imu "GetImu returned null" busHandle imuIdx made

def World.getMotorWithModel (world : World) (busHandle : Handle) (motorIdx : Int) : World × Option (Answer Handle) :=
  match world.store.resolveBus busHandle with
  | .failure code message => (world, some (.failure code message))
  | .thrown => (world, some .thrown)
  | .success bus =>
    match (bus.handlesByIndex .motor).find motorIdx with
    | some handle => (world, some (.success handle))
    | none =>
      match world.store.motorCreationAdapter with
      | some _ => (world, some (.failure .operationFailed "motor creation is in progress"))
      | none =>
        match world.store.resolveAdapter bus.adapterHandle with
        | .failure code message => (world, some (.failure code message))
        | .thrown => (world, some .thrown)
        | .success adapter =>
          ({ world with
              store := { world.store with motorCreationAdapter := adapter.adapter }
              creating := some (busHandle, motorIdx) }, none)

def World.endCreation (world : World) : World :=
  { world with store := { world.store with motorCreationAdapter := none }, creating := none }

def World.finishMotor (world : World) (made : Made DeviceId) : Option (World × Answer Handle) :=
  match world.creating with
  | none => none
  | some (busHandle, motorIdx) =>
    match made with
    | .threw => some (world.endCreation, .thrown)
    | .null => some (world.endCreation, .failure .operationFailed "GetMotor returned null")
    | .made device =>
      match world.store.buses.find busHandle with
      | none => none
      | some bus => some (world.endCreation.enter .motor busHandle bus motorIdx device)

structure Drain where
  drained : Bool
  accepts : Bool
deriving DecidableEq, Repr

def kMaximumDeletionRetries : Nat := 64

structure Polled where
  world : World
  needsRetry : Bool := false
  nextDelayMs : Nat := 64

def PendingAdapterDeletion.exhaust (pending : PendingAdapterDeletion) : PendingAdapterDeletion :=
  { pending with retryCount := pending.retryCount + 1, exhausted := true }

def PendingAdapterDeletion.retry (pending : PendingAdapterDeletion) : PendingAdapterDeletion :=
  { pending with retryCount := pending.retryCount + 1, retryDelayMs := min (pending.retryDelayMs * 2) 64 }

def World.notePending (world : World) (adapter : AdapterId) (pending : PendingAdapterDeletion) : World :=
  { world with
    store := { world.store with
      pendingAdapterDeletions := world.store.pendingAdapterDeletions.put adapter pending } }

def World.endPending (world : World) (manager : Manager) (adapter : AdapterId) (pending : PendingAdapterDeletion) : World :=
  { world with
    manager := manager
    store := { world.store with
      pendingAdapterInterfaces := world.store.pendingAdapterInterfaces.erase pending.interfaceName
      pendingAdapterDeletions := world.store.pendingAdapterDeletions.remove adapter
      adapterHandleLeases := world.store.adapterHandleLeases.remove (some pending.adapter)
      adapters := world.store.adapters.remove pending.adapterHandle } }

def pollOne (drains : AdapterId → Drain) (polled : Polled) (entry : AdapterId × PendingAdapterDeletion) : Polled :=
  let pending := entry.2
  if pending.exhausted then polled
  else
    let drain := drains entry.1
    let result :=
      if drain.drained then polled.world.manager.destroyAdapter pending.adapter drain.accepts
      else (polled.world.manager, false)
    if result.2 then { polled with world := polled.world.endPending result.1 entry.1 pending }
    else if kMaximumDeletionRetries ≤ pending.retryCount + 1 then
      { polled with world := polled.world.notePending entry.1 pending.exhaust }
    else
      { world := polled.world.notePending entry.1 pending.retry
        needsRetry := true
        nextDelayMs := min polled.nextDelayMs pending.retry.retryDelayMs }

def World.pollLoop (world : World) (drains : AdapterId → Drain) : Polled :=
  world.store.pendingAdapterDeletions.toList.foldl (pollOne drains) { world := world }

def World.pollPendingAdapterDeletionsOnce (world : World) (drains : AdapterId → Drain) : World × Nat :=
  let polled := world.pollLoop drains
  (polled.world, if polled.needsRetry then polled.nextDelayMs else 0)

def Store.beginPendingAdapterDeletion (store : Store) (adapterHandle : Handle) : Option Store :=
  match store.adapters.find adapterHandle with
  | none => none
  | some entry =>
    match entry.adapter with
    | none => none
    | some adapter =>
      if store.pendingAdapterDeletions.contains adapter then none
      else if store.adapterHandleLeases.find (some adapter) ≠ some 1 then none
      else some
        { store with
          pendingAdapterDeletions := store.pendingAdapterDeletions.put adapter
            { adapterHandle := adapterHandle, interfaceName := entry.interfaceName, adapter := adapter }
          pendingAdapterInterfaces := insert entry.interfaceName store.pendingAdapterInterfaces
          adapters := store.adapters.put adapterHandle { entry with valid := false, disposing := true } }

structure Removed where
  store : Store
  buses : List (Handle × BusEntry)
  devices : DeviceKind → List (Handle × DeviceEntry)

def invalidBus (node : Handle × BusEntry) : Handle × BusEntry := (node.1, { node.2 with valid := false })
def invalidDevice (node : Handle × DeviceEntry) : Handle × DeviceEntry := (node.1, { node.2 with valid := false })
def validBus (node : Handle × BusEntry) : Handle × BusEntry := (node.1, { node.2 with valid := true })
def validDevice (node : Handle × DeviceEntry) : Handle × DeviceEntry := (node.1, { node.2 with valid := true })

def Store.removeChildren (store : Store) (handle : Handle) (entry : AdapterEntry) : Removed where
  store := { store with
    adapters := store.adapters.put handle { entry with disposing := true }
    devices := fun kind => ((store.devices kind).extractAll (entry.childHandles kind)).1
    buses := (store.buses.extractAll entry.childBusHandles).1 }
  devices := fun kind => ((store.devices kind).extractAll (entry.childHandles kind)).2.map invalidDevice
  buses := (store.buses.extractAll entry.childBusHandles).2.map invalidBus

def Removed.restore (removed : Removed) (handle : Handle) (entry : AdapterEntry) : Store :=
  { removed.store with
    adapters := removed.store.adapters.put handle { entry with disposing := false }
    devices := fun kind => (removed.store.devices kind).emplaceAll ((removed.devices kind).map validDevice)
    buses := removed.store.buses.emplaceAll (removed.buses.map validBus) }

def World.disposeLast (emscripten : Bool) (world : World) (handle : Handle) (entry : AdapterEntry) (adapter : AdapterId)
    (removed : Removed) (drain : Drain) : World × ErrorCode :=
  if emscripten && !drain.drained then
    match removed.store.beginPendingAdapterDeletion handle with
    | none => ({ world with store := removed.restore handle entry }, .internalError)
    | some store => ({ world with store := store }, .ok)
  else
    let result := world.manager.destroyAdapter adapter drain.accepts
    if result.2 then
      ({ world with
          manager := result.1
          store := { removed.store with
            adapterHandleLeases := removed.store.adapterHandleLeases.remove (some adapter)
            adapters := removed.store.adapters.remove handle } }, .ok)
    else ({ world with store := removed.restore handle entry }, .operationFailed)

def World.disposeValid (emscripten : Bool) (world : World) (handle : Handle) (entry : AdapterEntry) (drain : Drain) :
    World × ErrorCode :=
  if world.store.motorCreationAdapter = entry.adapter then (world, .operationFailed)
  else
    let removed := world.store.removeChildren handle entry
    match entry.adapter, removed.store.adapterHandleLeases.find entry.adapter with
    | some adapter, some 1 => world.disposeLast emscripten handle entry adapter removed drain
    | adapter, some (count + 2) =>
      ({ world with
          store := { removed.store with
            adapterHandleLeases := removed.store.adapterHandleLeases.put adapter (count + 1)
            adapters := removed.store.adapters.remove handle } }, .ok)
    | none, some 1 => ({ world with store := removed.restore handle entry }, .operationFailed)
    | _, _ => ({ world with store := removed.restore handle entry }, .internalError)

def World.disposePending (world : World) (handle : Handle) (entry : AdapterEntry) (drains : AdapterId → Drain) :
    World × ErrorCode :=
  match entry.adapter with
  | none => (world, .invalidHandle)
  | some adapter =>
    match world.store.pendingAdapterDeletions.find adapter with
    | none => (world, .invalidHandle)
    | some pending =>
      if pending.adapterHandle ≠ handle then (world, .invalidHandle)
      else if !pending.exhausted then (world, .ok)
      else
        let again := world.notePending adapter { pending with exhausted := false, retryCount := 0, retryDelayMs := 1 }
        ((again.pollPendingAdapterDeletionsOnce drains).1, .ok)

def World.dispose (emscripten : Bool) (world : World) (handle : Handle) (drain : Drain) (drains : AdapterId → Drain) :
    World × ErrorCode :=
  match world.store.adapters.find handle with
  | none => (world, .invalidHandle)
  | some entry =>
    if !entry.valid && entry.disposing then world.disposePending handle entry drains
    else if !entry.valid || entry.disposing then (world, .invalidHandle)
    else world.disposeValid emscripten handle entry drain

def World.disposeAdapter (emscripten : Bool) (world : World) (handle : Handle) (drain : Drain)
    (drains : AdapterId → Drain) : World × ErrorCode :=
  let result := world.dispose emscripten handle drain drains
  if result.2 = .ok then ({ result.1 with disposed := handle :: result.1.disposed }, .ok) else result

inductive Action where
  | createAdapter (adapterType interfaceName : String) (made : Made Bool)
  | createFakeAdapter (interfaceName : String) (made : Made Bool)
  | getBus (adapterHandle : Handle) (slaveIdx busIdx : Int) (made : Made (Int × BusId))
  | getMotorWithModel (busHandle : Handle) (motorIdx : Int)
  | finishMotor (made : Made DeviceId)
  | getBattery (busHandle : Handle) (batteryIdx : Int) (made : Made DeviceId)
  | getImu (busHandle : Handle) (imuIdx : Int) (made : Made DeviceId)
  | disposeAdapter (handle : Handle) (drain : Drain) (drains : AdapterId → Drain)
  | poll (drains : AdapterId → Drain)
  | manage (name : String) (fake : Bool)

def step (emscripten : Bool) (world : World) : Action → Option World
  | .createAdapter adapterType interfaceName made => some (world.createAdapter adapterType interfaceName made).1
  | .createFakeAdapter interfaceName made => some (world.createFakeAdapter interfaceName made).1
  | .getBus adapterHandle slaveIdx busIdx made => some (world.getBus adapterHandle slaveIdx busIdx made).1
  | .getMotorWithModel busHandle motorIdx => some (world.getMotorWithModel busHandle motorIdx).1
  | .finishMotor made => (world.finishMotor made).map Prod.fst
  | .getBattery busHandle batteryIdx made => some (world.getBattery busHandle batteryIdx made).1
  | .getImu busHandle imuIdx made => some (world.getImu busHandle imuIdx made).1
  | .disposeAdapter handle drain drains => some (world.disposeAdapter emscripten handle drain drains).1
  | .poll drains => some (world.pollPendingAdapterDeletionsOnce drains).1
  | .manage name fake => some { world with manager := (world.manager.register name fake).1 }

def system (emscripten : Bool) : System World Action where
  init := fun world => world = {}
  step := step emscripten

end EncosDriver.Wasm
