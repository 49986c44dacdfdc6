import EncosDriver.Driver.Creation

set_option autoImplicit false

namespace EncosDriver.Driver

open Lib

def Choice.next {Item : Type} (choice : Choice) (items : List Item) : Option Item :=
  match choice with
  | .pick index => items[index]?
  | _ => items.head?

def routesBusy (tables : Tables) (adapter : Pointer) (selected : RouteRecord → Bool) : Bool :=
  tables.routes.toList.any fun entry =>
    entry.1.adapter = adapter &&
      match tables.records.find entry.2 with
      | some record => selected record && record.inFlight ≠ 0
      | none => false

def deviceRefused (tables : Tables) (context : CallbackContext) (device : Pointer) : Bool :=
  context.device = some device ||
    (context.device.isSome && (tables.registeredRecords device).any tables.recordBusy)

def runDestroyDevice (tables : Tables) (self : CallId) (context : CallbackContext) (device : Pointer)
    (expected : DeviceKind) : DestroyDevicePc → Option SectionResult
  | .accept =>
    match tables.deviceKeys.find device with
    | none => answering (.verdict false)
    | some key =>
      if expected ≠ key.kind ∨ tables.isDeleting device ∨ deviceRefused tables context device then
        answering (.verdict false)
      -- `registrations.at` throws, and a missing gate terminates the process.
      else if ¬ tables.registrations.contains device ∨ ¬ tables.operationRegistry.contains device then none
      else
        writing (.acceptDevice self device key.bus)
          (.destroyDevice device expected (.drainRoutes key (tables.registeredRecords device)))
  | .drainRoutes key [] => quietly (.destroyDevice device expected (.drainGate key))
  | .drainRoutes key (record :: rest) =>
    if tables.recordBusy record then none else quietly (.destroyDevice device expected (.drainRoutes key rest))
  | .drainGate key => draining tables device (.destroyDevice device expected (.erase key))
  | .erase key => writing (.eraseDevice device key) (.destroyDevice device expected .finish)
  | .finish => writing (.finishDevice device) (.finished (.verdict true))

def busRefused (tables : Tables) (context : CallbackContext) (bus : Pointer) (key : BusKey) (allowGloveInternal : Bool) :
    Bool :=
  context.bus = some bus || (context.rawReceive && context.adapter = some key.adapter) ||
    (!allowGloveInternal && (bus ∈ tables.gloveInternalBuses || key ∈ tables.pendingGloveBusKeys)) ||
    (context.device.isSome && routesBusy tables key.adapter fun record => record.bus = bus)

def runDestroyBus (tables : Tables) (replyOf : CallId → Option Reply) (self fresh : CallId) (choice : Choice)
    (context : CallbackContext) (bus : Pointer) (allowGloveInternal : Bool) : DestroyBusPc → Option SectionResult
  | .accept =>
    match tables.busKeys.find bus with
    | none => answering (.verdict false)
    | some key =>
      if tables.isDeleting bus ∨ busRefused tables context bus key allowGloveInternal then answering (.verdict false)
      else if ¬ tables.operationRegistry.contains bus then none
      else writing (.acceptBus self bus key) (.destroyBus bus allowGloveInternal (.drainGate key))
  | .drainGate key => draining tables bus (.destroyBus bus allowGloveInternal (.waitCreations key))
  | .waitCreations key =>
    if tables.childCreations.contains bus then none else quietly (.destroyBus bus allowGloveInternal (.collect key))
  | .collect key => quietly (.destroyBus bus allowGloveInternal (.children key (tables.devicesOn bus)))
  | .children key [] => quietly (.destroyBus bus allowGloveInternal (.waitChildren key))
  | .children key remaining =>
    match choice.next remaining with
    | none => none
    | some child =>
      nesting (.destroyDevice child.1 child.2)
        (.destroyBus bus allowGloveInternal (.awaitChild key (remaining.erase child) fresh))
  | .awaitChild key remaining child =>
    match replyOf child with
    | none => none
    | some _ => quietly (.destroyBus bus allowGloveInternal (.children key remaining))
  | .waitChildren key =>
    if tables.busChildrenGone bus then quietly (.destroyBus bus allowGloveInternal (.erase key)) else none
  | .erase key => writing (.eraseBus bus key) (.destroyBus bus allowGloveInternal .finish)
  | .finish => writing (.finishBus bus) (.finished (.verdict true))

def fingerOrder (buses : List Pointer) : List Pointer := buses.tail ++ buses.take 1

def gloveRefused (tables : Tables) (context : CallbackContext) (glove : Pointer) (key : GloveKey) : Bool :=
  context.rawReceive ||
    (context.device.isSome && routesBusy tables key.adapter fun record =>
      ((tables.gloveBuses.find glove).getD []).contains record.bus)

def runDestroyGlove (tables : Tables) (replyOf : CallId → Option Reply) (self fresh : CallId)
    (context : CallbackContext) (glove : Pointer) : DestroyGlovePc → Option SectionResult
  | .accept =>
    match tables.gloveKeys.find glove with
    | none => answering (.verdict false)
    | some key =>
      if tables.deletingGloves.contains glove ∨ gloveRefused tables context glove key then answering (.verdict false)
      else if ¬ tables.operationRegistry.contains glove then none
      else writing (.acceptGlove self glove) (.destroyGlove glove (.drainGate key))
  | .drainGate key =>
    draining tables glove
      (.destroyGlove glove (.fingers key (fingerOrder ((tables.gloveBuses.find glove).getD [])) true))
  | .fingers key [] allDestroyed => quietly (.destroyGlove glove (.erase key allDestroyed))
  | .fingers key (bus :: rest) allDestroyed =>
    nesting (.destroyBus bus true) (.destroyGlove glove (.awaitFinger key rest allDestroyed bus fresh))
  | .awaitFinger key rest allDestroyed bus child =>
    match replyOf child with
    | none => none
    | some (.verdict true) => quietly (.destroyGlove glove (.fingers key rest allDestroyed))
    | some _ => quietly (.destroyGlove glove (.waitFinger key rest bus))
  | .waitFinger key rest bus =>
    if tables.busChildrenGone bus then quietly (.destroyGlove glove (.fingers key rest false)) else none
  | .erase key allDestroyed => writing (.eraseGlove glove key) (.destroyGlove glove (.finish allDestroyed))
  | .finish allDestroyed => writing (.finishGlove glove) (.finished (.verdict allDestroyed))

def adapterRefused (tables : Tables) (context : CallbackContext) (adapter : Pointer) : Bool :=
  context.adapter = some adapter ||
    (context.adapter.isSome && tables.operationRegistry.hasActiveOperations adapter) ||
    ((context.device.isSome || context.rawReceive) && routesBusy tables adapter fun record => record.adapter = adapter)

def runDestroyAdapter (tables : Tables) (replyOf : CallId → Option Reply) (self fresh : CallId) (choice : Choice)
    (context : CallbackContext) (adapter : Pointer) : DestroyAdapterPc → Option SectionResult
  | .accept =>
    match tables.adapterNames.find adapter with
    | none => answering (.verdict false)
    | some name =>
      if tables.isDeleting adapter ∨ adapterRefused tables context adapter then answering (.verdict false)
      else writing (.acceptAdapter self adapter) (.destroyAdapter adapter (.waitCreations name))
  | .waitCreations name =>
    if tables.childCreations.contains adapter then none else quietly (.destroyAdapter adapter (.collect name))
  | .collect name =>
    quietly (.destroyAdapter adapter (.gloves name (tables.glovesOn adapter) (tables.busesOn adapter)))
  | .gloves name [] buses => quietly (.destroyAdapter adapter (.buses name buses))
  | .gloves name remaining buses =>
    match choice.next remaining with
    | none => none
    | some glove =>
      nesting (.destroyGlove glove) (.destroyAdapter adapter (.awaitGlove name (remaining.erase glove) buses fresh))
  | .awaitGlove name remaining buses child =>
    match replyOf child with
    | none => none
    | some _ => quietly (.destroyAdapter adapter (.gloves name remaining buses))
  | .buses name [] => quietly (.destroyAdapter adapter (.waitBuses name))
  | .buses name remaining =>
    match choice.next remaining with
    | none => none
    | some bus =>
      nesting (.destroyBus bus false) (.destroyAdapter adapter (.awaitBus name (remaining.erase bus) fresh))
  | .awaitBus name remaining child =>
    match replyOf child with
    | none => none
    | some _ => quietly (.destroyAdapter adapter (.buses name remaining))
  | .waitBuses name =>
    if tables.adapterBusesGone adapter then quietly (.destroyAdapter adapter (.retire name)) else none
  | .retire name =>
    if tables.operationRegistry.contains adapter then writing (.retire adapter) (.destroyAdapter adapter (.drainGate name)) else none
  | .drainGate name => draining tables adapter (.destroyAdapter adapter (.erase name))
  | .erase name => writing (.eraseAdapter adapter name) (.destroyAdapter adapter .finish)
  | .finish => writing (.finishAdapter adapter) (.finished (.verdict true))

end EncosDriver.Driver
