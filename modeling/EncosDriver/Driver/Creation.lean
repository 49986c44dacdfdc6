import EncosDriver.Driver.Effects

set_option autoImplicit false

namespace EncosDriver.Driver

open Lib

-- How the scheduler resolves what the source leaves open: a section that may
-- throw does so, early or late, or a walk over an unordered table takes its next
-- entry.
inductive Choice where
  | proceed
  | fail
  | failLate
  | pick (index : Nat)
deriving DecidableEq, Repr

structure SectionResult where
  effect : Effect
  frame : Frame
  nested : Option Request := none

abbrev quietly (frame : Frame) : Option SectionResult := some { effect := .nothing, frame := frame }

abbrev writing (effect : Effect) (frame : Frame) : Option SectionResult := some { effect := effect, frame := frame }

abbrev nesting (request : Request) (frame : Frame) : Option SectionResult :=
  some { effect := .nothing, frame := frame, nested := some request }

abbrev answering (reply : Reply) : Option SectionResult := quietly (.finished reply)

def draining (tables : Tables) (object : Pointer) (frame : Frame) : Option SectionResult :=
  if tables.operationRegistry.hasActiveOperations object then none else writing (.reclaim object) frame

def runCreateAdapter (tables : Tables) (self : CallId) (choice : Choice) (name : String) :
    CreateAdapterPc → Option SectionResult
  | .enter =>
    match tables.adapters.find name with
    | some adapter => if tables.isDeleting adapter then none else answering (.object adapter)
    | none =>
      match tables.pendingAdapters.find name with
      | some publication => quietly (.createAdapter name (.await publication))
      | none => writing (.leadAdapter self name) (.createAdapter name .publish)
  | .await publication =>
    match tables.publications.find publication with
    | some (.published _) => quietly (.createAdapter name .enter)
    | some .failed => answering .thrown
    | _ => none
  | .publish =>
    if choice = .proceed then writing (.publishAdapter self name) (.finished (.object self))
    else quietly (.createAdapter name .abandon)
  | .abandon => writing (.abandonAdapter self name) (.finished .thrown)

def runCreateBus (tables : Tables) (self : CallId) (choice : Choice) (key : BusKey) : CreateBusPc → Option SectionResult
  | .enter =>
    if ¬ tables.adapterOpen key.adapter then answering .thrown
    else
      match tables.buses.find key with
      | some bus => if tables.isDeleting bus then none else answering (.object bus)
      | none =>
        match tables.pendingBuses.find key with
        | some publication => quietly (.createBus key (.await publication))
        | none =>
          -- BeginChildCreationLocked throws before it counts.
          if choice = .fail then writing (.leadBus self key false) (.createBus key (.rollback false false))
          else writing (.leadBus self key true) (.createBus key .construct)
  | .await publication =>
    match tables.publications.find publication with
    | some (.published bus) => if tables.isDeleting bus then quietly (.createBus key .enter) else answering (.object bus)
    | some .failed => answering .thrown
    | _ => none
  | .construct =>
    if choice = .fail then quietly (.createBus key (.rollback true false))
    else writing (.constructBus self key) (.createBus key .publish)
  | .publish =>
    if choice = .fail ∨ tables.isDeleting key.adapter then quietly (.createBus key (.rollback true true))
    else if choice = .failLate ∨ tables.domainBuses.contains key then
      writing (.refuse self) (.createBus key (.rollback true true))
    else writing (.publishBus self key) (.createBus key .complete)
  | .complete => writing (.completeBus self key) (.createBus key (.endAdapter true (.object self)))
  | .rollback counted constructed =>
    writing (.rollbackBus self key constructed) (.createBus key (.drainGate counted))
  | .drainGate counted => draining tables self (.createBus key (.endAdapter counted .thrown))
  | .endAdapter counted reply =>
    if counted then writing (.endChildCreation key.adapter) (.finished reply) else quietly (.finished reply)

def parentRetiring (tables : Tables) (bus adapter : Pointer) : Bool :=
  tables.isDeleting bus || tables.isResetting bus || tables.isDeleting adapter

def runCreateDevice (tables : Tables) (self : CallId) (choice : Choice) (bus : Pointer) (recipe : DeviceRecipe) :
    CreateDevicePc → Option SectionResult
  | .enter =>
    match tables.busKeys.find bus with
    | none => answering .thrown
    | some busKey =>
      if parentRetiring tables bus busKey.adapter then answering .thrown
      else
        match tables.devices.find (recipe.key bus) with
        | some device => if tables.isDeleting device then none else answering (.object device)
        | none =>
          match tables.pendingDevices.find (recipe.key bus) with
          | some publication => quietly (.createDevice bus recipe (.await publication))
          | none =>
            match choice with
            -- The first or the second BeginChildCreationLocked throws.
            | .fail =>
              writing (.leadDevice self (recipe.key bus) [])
                (.createDevice bus recipe (.rollbackErase ⟨busKey, false, false, none⟩))
            | .failLate =>
              writing (.leadDevice self (recipe.key bus) [bus])
                (.createDevice bus recipe (.rollbackErase ⟨busKey, true, false, none⟩))
            | _ =>
              writing (.leadDevice self (recipe.key bus) [bus, busKey.adapter])
                (.createDevice bus recipe (.construct ⟨busKey, true, true, none⟩))
  | .await publication =>
    match tables.publications.find publication with
    | some (.published device) =>
      if tables.isDeleting device then quietly (.createDevice bus recipe .enter) else answering (.object device)
    | some .failed => answering .thrown
    | _ => none
  | .construct creation =>
    match choice with
    | .fail => quietly (.createDevice bus recipe (.rollbackErase creation))
    | .failLate =>
      writing (.construct self recipe false)
        (.createDevice bus recipe (.rollbackDetach { creation with device := some self }))
    | _ =>
      writing (.construct self recipe true) (.createDevice bus recipe (.publish { creation with device := some self }))
  | .publish creation =>
    match tables.routeDomain creation.busKey.adapter bus with
    | none => quietly (.createDevice bus recipe (.rollbackDetach creation))
    | some domain =>
      if choice = .fail ∨ parentRetiring tables bus creation.busKey.adapter ∨
          tables.routesConflict self domain recipe then
        quietly (.createDevice bus recipe (.rollbackDetach creation))
      else
        writing (.publishRoutes self bus creation.busKey.adapter domain recipe)
          (.createDevice bus recipe (.commit creation))
  | .commit creation =>
    if choice = .fail ∨ parentRetiring tables bus creation.busKey.adapter then
      quietly (.createDevice bus recipe (.rollbackDetach creation))
    else if choice = .failLate then
      writing (.commitThrows self (recipe.key bus)) (.createDevice bus recipe (.rollbackDetach creation))
    else writing (.commitDevice self bus recipe) (.createDevice bus recipe (.endBus creation (.object self)))
  | .rollbackDetach creation =>
    writing (.detachDevice self) (.createDevice bus recipe (.drainRoutes creation (tables.registeredRecords self)))
  | .drainRoutes creation [] => quietly (.createDevice bus recipe (.drainGate creation))
  | .drainRoutes creation (record :: rest) =>
    if tables.recordBusy record then none else quietly (.createDevice bus recipe (.drainRoutes creation rest))
  | .drainGate creation => draining tables self (.createDevice bus recipe (.rollbackErase creation))
  | .rollbackErase creation =>
    writing (.eraseCreation (recipe.key bus) creation.device) (.createDevice bus recipe (.rollbackComplete creation))
  | .rollbackComplete creation =>
    writing (.abandonDevice self (recipe.key bus)) (.createDevice bus recipe (.endBus creation .thrown))
  | .endBus creation reply =>
    if creation.busCounted then writing (.endChildCreation bus) (.createDevice bus recipe (.endAdapter creation reply))
    else quietly (.createDevice bus recipe (.endAdapter creation reply))
  | .endAdapter creation reply =>
    if creation.adapterCounted then writing (.endChildCreation creation.busKey.adapter) (.finished reply)
    else quietly (.finished reply)

def gloveBusKey (key : GloveKey) (finger : Nat) : BusKey :=
  ⟨key.adapter, (key.slaveId <<< 16) ||| (Int32.ofNat finger &&& 0xFF)⟩

def gloveBusKeys (key : GloveKey) : List BusKey := (List.range 5).map (gloveBusKey key)

def nextGlovePart (parts : GloveParts) : Option (Pointer × DeviceRecipe) :=
  match parts.buses.getLast? with
  | none => none
  | some bus =>
    let finger := parts.buses.length - 1
    if encoders : parts.encoders.length < 50 ∧ parts.encoders.length < parts.buses.length * 10 then
      some (bus, .gloveEncoder ⟨parts.encoders.length, encoders.1⟩)
    else if calibrators : finger < 5 ∧ parts.calibrators.length < parts.buses.length then
      some (bus, .gloveCalibrator ⟨finger, calibrators.1⟩)
    else none

def GloveParts.add (parts : GloveParts) (part : Pointer) : GloveParts :=
  if parts.encoders.length < parts.buses.length * 10 then { parts with encoders := parts.encoders ++ [part] }
  else { parts with calibrators := parts.calibrators ++ [part] }

def GloveParts.activations (parts : GloveParts) : List (Pointer × Pointer) :=
  (parts.encoders.zipIdx.map fun part => (part.1, parts.buses.getD (part.2 / 10) 0)) ++ parts.calibrators.zip parts.buses

def runCreateGlove (tables : Tables) (replyOf : CallId → Option Reply) (self fresh : CallId) (choice : Choice)
    (key : GloveKey) : CreateGlovePc → Option SectionResult
  | .enter =>
    if ¬ tables.adapterOpen key.adapter then answering .thrown
    else
      match tables.gloves.find key with
      | some glove => if tables.deletingGloves.contains glove then none else answering (.object glove)
      | none =>
        match tables.pendingGloves.find key with
        | some publication => quietly (.createGlove key (.await publication))
        | none =>
          if choice = .fail then writing (.refuseGlove self) (.finished .thrown)
          else writing (.leadGlove self key (gloveBusKeys key)) (.createGlove key (.getBus ⟨[], [], [], none⟩))
  | .await publication =>
    match tables.publications.find publication with
    | some (.published glove) =>
      if tables.deletingGloves.contains glove then quietly (.createGlove key .enter) else answering (.object glove)
    | some .failed => answering .thrown
    | _ => none
  | .getBus parts =>
    if parts.buses.length < 5 then
      nesting (.createBus (gloveBusKey key parts.buses.length)) (.createGlove key (.awaitBus parts fresh))
    else quietly (.createGlove key (.facade parts))
  | .awaitBus parts child =>
    match replyOf child with
    | none => none
    | some (.object bus) => quietly (.createGlove key (.createPart { parts with buses := parts.buses ++ [bus] }))
    | some _ => quietly (.createGlove key (.rollbackRetire parts))
  | .createPart parts =>
    match nextGlovePart parts with
    | none => quietly (.createGlove key (.getBus parts))
    | some part => nesting (.createDevice part.1 part.2) (.createGlove key (.awaitPart parts fresh))
  | .awaitPart parts child =>
    match replyOf child with
    | none => none
    | some (.object part) => quietly (.createGlove key (.createPart (parts.add part)))
    | some _ => quietly (.createGlove key (.rollbackRetire parts))
  | .facade parts =>
    if choice = .fail then quietly (.createGlove key (.rollbackRetire parts))
    else
      writing (.constructGlove self parts.buses)
        (.createGlove key (.readRouteIds { parts with facade := some self } parts.activations))
  | .readRouteIds parts [] => quietly (.createGlove key (.publish parts))
  | .readRouteIds parts ((device, bus) :: rest) =>
    match tables.registrations.find device with
    | none => quietly (.createGlove key (.rollbackRetire parts))
    | some registration =>
      quietly (.createGlove key (.activate parts device bus
        (registration.routes.map fun entry => entry.key.uniqueId.toUInt32) rest))
  | .activate parts device bus canIds rest =>
    if choice = .fail ∨ ¬ tables.routesActivatable device key.adapter bus canIds then
      quietly (.createGlove key (.rollbackRetire parts))
    else writing (.activateRoutes device) (.createGlove key (.readRouteIds parts rest))
  | .publish parts =>
    if choice = .fail ∨ tables.isDeleting key.adapter then quietly (.createGlove key (.rollbackRetire parts))
    else if choice = .failLate then writing (.refuse self) (.createGlove key (.rollbackRetire parts))
    else
      writing (.publishGlove self key parts.buses (gloveBusKeys key)) (.createGlove key (.endAdapter true (.object self)))
  | .rollbackRetire parts => writing (.retire self) (.createGlove key (.rollbackDrain parts))
  | .rollbackDrain parts => draining tables self (.createGlove key (.rollbackBuses parts parts.buses))
  | .rollbackBuses parts [] => quietly (.createGlove key (.rollbackErase parts))
  | .rollbackBuses parts (bus :: rest) =>
    nesting (.destroyBus bus true) (.createGlove key (.awaitRollbackBus parts rest bus fresh))
  | .awaitRollbackBus parts rest bus child =>
    match replyOf child with
    | none => none
    | some (.verdict true) => quietly (.createGlove key (.rollbackBuses parts rest))
    | some _ => quietly (.createGlove key (.waitRollbackBus parts rest bus))
  | .waitRollbackBus parts rest bus =>
    if tables.busChildrenGone bus then quietly (.createGlove key (.rollbackBuses parts rest)) else none
  | .rollbackErase parts =>
    writing (.rollbackGlove self key parts (gloveBusKeys key)) (.createGlove key (.endAdapter true .thrown))
  | .endAdapter counted reply =>
    if counted then writing (.endChildCreation key.adapter) (.finished reply) else quietly (.finished reply)

end EncosDriver.Driver
