import EncosDriver.Driver.Ownership

set_option autoImplicit false

namespace EncosDriver.Driver

open Lib

structure MigrationReady (tables : Tables) (migration : Tables.Migration) (busKey : BusKey)
    (registration : DeviceRegistration) (entry : RouteEntry) : Prop where
  registered : tables.deviceKeys.find migration.motor = some migration.oldKey
  kind : migration.oldKey.kind = .motor
  kept : tables.deleting.find migration.motor = none
  target : migration.newKey = motorKey migration.oldKey.bus migration.newMotorIdx
  moves : migration.oldKey ≠ migration.newKey
  keyFree : tables.devices.find migration.newKey = none
  reservedByMotor : ∀ held, tables.motorIndexReservations.find migration.newKey = some held → held.motor = migration.motor
  busFound : tables.busKeys.find migration.oldKey.bus = some busKey
  busKept : tables.deleting.find migration.oldKey.bus = none
  adapterKept : tables.deleting.find busKey.adapter = none
  targetRoute : migration.newRoute = routeKey busKey migration.newMotorIdx.toUInt32
  routeFree : tables.routes.find migration.newRoute = none
  routeReservedByMotor : ∀ holder, tables.motorRouteReservations.find migration.newRoute = some holder →
    holder = migration.motor
  registrationFound : tables.registrations.find migration.motor = some registration
  oneRoute : registration.routes = [entry]
  oldRoute : migration.oldRoute = entry.key
  oldRouteFound : tables.routes.find ⟨busKey.adapter, entry.key.uniqueId⟩ ≠ none
  prepared : (migration.callback, migration.install) =
    tables.migrationCallback migration.newKey migration.oldRoute migration.newRoute

theorem migrate_decision_motor (tables : Tables) (motor : Pointer) (newMotorIdx : Int32) (migration : Tables.Migration)
    (decided : tables.migrateDecision motor newMotorIdx = .migrate migration) :
    migration.motor = motor ∧ migration.newMotorIdx = newMotorIdx := by
  simp only [Tables.migrateDecision] at decided
  repeat' split at decided
  all_goals cases decided
  exact ⟨rfl, rfl⟩

theorem migration_ready (tables : Tables) (motor : Pointer) (newMotorIdx : Int32) (migration : Tables.Migration)
    (decided : tables.migrateDecision motor newMotorIdx = .migrate migration) :
    ∃ busKey registration entry, MigrationReady tables migration busKey registration entry := by
  simp only [Tables.migrateDecision] at decided
  repeat' split at decided
  all_goals cases decided
  rename_i current registered open' moves keyFree _ busKey busFound parents routeFree _ adapter bus entry registration found
  simp only [ne_eq, not_or, not_not] at open' keyFree parents routeFree
  simp only [Table.contains_true, ne_eq, not_not, Option.any_eq_true, decide_eq_true_eq, not_exists, not_and] at keyFree routeFree found
  exact ⟨busKey, _, entry,
    { registered := registered, kind := open'.1, kept := open'.2, target := rfl, moves := moves, keyFree := keyFree.1
      reservedByMotor := keyFree.2, busFound := busFound, busKept := parents.1, adapterKept := parents.2
      targetRoute := rfl, routeFree := routeFree.1, routeReservedByMotor := routeFree.2
      registrationFound := registration, oneRoute := rfl, oldRoute := rfl, oldRouteFound := found, prepared := rfl }⟩

-- What is known of a section that writes a given effect: where its call stood
-- before and stands after, and what the section has checked.
def Effect.From (tables : Tables) (self : CallId) (context : CallbackContext) (frame next : Frame) : Effect → Prop
  | .nothing => True
  | .leadAdapter call name =>
    call = self ∧ frame = .createAdapter name .enter ∧ next = .createAdapter name .publish ∧
      tables.adapters.find name = none
  | .publishAdapter call name =>
    call = self ∧ frame = .createAdapter name .publish ∧ next = .finished (.object self)
  | .abandonAdapter call name => call = self ∧ frame = .createAdapter name .abandon ∧ next = .finished .thrown
  | .leadBus call key counted =>
    call = self ∧ frame = .createBus key .enter ∧ tables.adapterOpen key.adapter = true ∧ tables.buses.find key = none ∧
      next = if counted then .createBus key .construct else .createBus key (.rollback false false)
  | .constructBus call key => call = self ∧ frame = .createBus key .construct ∧ next = .createBus key .publish
  | .publishBus call key =>
    call = self ∧ frame = .createBus key .publish ∧ next = .createBus key .complete ∧
      ¬ tables.isDeleting key.adapter ∧ tables.domainBuses.find key = none
  | .refuse call =>
    call = self ∧
      ((∃ key, frame = .createBus key .publish ∧ next = .createBus key (.rollback true true)) ∨
        ∃ key parts, frame = .createGlove key (.publish parts) ∧ next = .createGlove key (.rollbackRetire parts))
  | .completeBus call key =>
    call = self ∧ frame = .createBus key .complete ∧ next = .createBus key (.endAdapter true (.object self))
  | .rollbackBus call key constructed =>
    call = self ∧ ∃ counted, frame = .createBus key (.rollback counted constructed) ∧ next = .createBus key (.drainGate counted)
  | .leadDevice call key counted =>
    call = self ∧ ∃ bus recipe busKey, key = recipe.key bus ∧ frame = .createDevice bus recipe .enter ∧
      tables.busKeys.find bus = some busKey ∧ parentRetiring tables bus busKey.adapter = false ∧
      tables.devices.find key = none ∧
      ((counted = [] ∧ next = .createDevice bus recipe (.rollbackErase ⟨busKey, false, false, none⟩)) ∨
        (counted = [bus] ∧ next = .createDevice bus recipe (.rollbackErase ⟨busKey, true, false, none⟩)) ∨
        (counted = [bus, busKey.adapter] ∧ next = .createDevice bus recipe (.construct ⟨busKey, true, true, none⟩)))
  | .construct call recipe registered =>
    call = self ∧ ∃ bus creation, frame = .createDevice bus recipe (.construct creation) ∧
      next = .createDevice bus recipe
        (if registered then .publish { creation with device := some self }
          else .rollbackDetach { creation with device := some self })
  | .publishRoutes call bus adapter domain recipe =>
    call = self ∧ ∃ creation, frame = .createDevice bus recipe (.publish creation) ∧ adapter = creation.busKey.adapter ∧
      next = .createDevice bus recipe (.commit creation) ∧ tables.routeDomain adapter bus = some domain ∧
      parentRetiring tables bus adapter = false ∧ tables.routesConflict self domain recipe = false
  | .commitDevice call bus recipe =>
    call = self ∧ ∃ creation, frame = .createDevice bus recipe (.commit creation) ∧
      next = .createDevice bus recipe (.endBus creation (.object self)) ∧
      parentRetiring tables bus creation.busKey.adapter = false
  | .commitThrows call key =>
    call = self ∧ ∃ bus recipe creation, key = recipe.key bus ∧ frame = .createDevice bus recipe (.commit creation) ∧
      next = .createDevice bus recipe (.rollbackDetach creation)
  | .detachDevice device =>
    device = self ∧ ∃ bus recipe creation, frame = .createDevice bus recipe (.rollbackDetach creation) ∧
      next = .createDevice bus recipe (.drainRoutes creation (tables.registeredRecords self))
  | .eraseCreation key device =>
    ∃ bus recipe creation, key = recipe.key bus ∧ device = creation.device ∧
      frame = .createDevice bus recipe (.rollbackErase creation) ∧
      next = .createDevice bus recipe (.rollbackComplete creation)
  | .abandonDevice call key =>
    call = self ∧ ∃ bus recipe creation, key = recipe.key bus ∧
      frame = .createDevice bus recipe (.rollbackComplete creation) ∧
      next = .createDevice bus recipe (.endBus creation .thrown)
  | .endChildCreation parent =>
    (∃ key reply, parent = key.adapter ∧ frame = .createBus key (.endAdapter true reply) ∧ next = .finished reply) ∨
      (∃ bus recipe creation reply, parent = bus ∧ creation.busCounted = true ∧
        frame = .createDevice bus recipe (.endBus creation reply) ∧
        next = .createDevice bus recipe (.endAdapter creation reply)) ∨
      (∃ bus recipe creation reply, parent = creation.busKey.adapter ∧ creation.adapterCounted = true ∧
        frame = .createDevice bus recipe (.endAdapter creation reply) ∧ next = .finished reply) ∨
      (∃ key reply, parent = key.adapter ∧ frame = .createGlove key (.endAdapter true reply) ∧ next = .finished reply)
  | .reclaim object => tables.operationRegistry.hasActiveOperations object = false
  | .leadGlove call key busKeys =>
    call = self ∧ frame = .createGlove key .enter ∧ next = .createGlove key (.getBus ⟨[], [], [], none⟩) ∧
      busKeys = gloveBusKeys key ∧ tables.adapterOpen key.adapter = true ∧ tables.gloves.find key = none
  | .refuseGlove call => call = self ∧ ∃ key, frame = .createGlove key .enter ∧ next = .finished .thrown
  | .constructGlove call buses =>
    call = self ∧ ∃ key parts, buses = parts.buses ∧ frame = .createGlove key (.facade parts) ∧
      next = .createGlove key (.readRouteIds { parts with facade := some self } parts.activations)
  | .activateRoutes device =>
    ∃ key parts bus canIds rest, frame = .createGlove key (.activate parts device bus canIds rest) ∧
      next = .createGlove key (.readRouteIds parts rest) ∧ tables.routesActivatable device key.adapter bus canIds = true
  | .publishGlove call key buses busKeys =>
    call = self ∧ busKeys = gloveBusKeys key ∧ ∃ parts, buses = parts.buses ∧ frame = .createGlove key (.publish parts) ∧
      next = .createGlove key (.endAdapter true (.object self)) ∧ ¬ tables.isDeleting key.adapter
  | .retire object =>
    (object = self ∧ ∃ key parts, frame = .createGlove key (.rollbackRetire parts) ∧
      next = .createGlove key (.rollbackDrain parts)) ∨
      ∃ name, frame = .destroyAdapter object (.retire name) ∧ next = .destroyAdapter object (.drainGate name)
  | .rollbackGlove call key parts busKeys =>
    call = self ∧ busKeys = gloveBusKeys key ∧ frame = .createGlove key (.rollbackErase parts) ∧
      next = .createGlove key (.endAdapter true .thrown)
  | .acceptDevice call device bus =>
    call = self ∧ ∃ expected key, bus = key.bus ∧ frame = .destroyDevice device expected .accept ∧
      next = .destroyDevice device expected (.drainRoutes key (tables.registeredRecords device)) ∧
      tables.deviceKeys.find device = some key ∧ expected = key.kind ∧ ¬ tables.isDeleting device ∧
      deviceRefused tables context device = false ∧ tables.registrations.find device ≠ none
  | .eraseDevice device key =>
    ∃ expected, frame = .destroyDevice device expected (.erase key) ∧ next = .destroyDevice device expected .finish
  | .finishDevice device => ∃ expected, frame = .destroyDevice device expected .finish ∧ next = .finished (.verdict true)
  | .acceptBus call bus key =>
    call = self ∧ ∃ allowed, frame = .destroyBus bus allowed .accept ∧ next = .destroyBus bus allowed (.drainGate key) ∧
      tables.busKeys.find bus = some key ∧ ¬ tables.isDeleting bus ∧ busRefused tables context bus key allowed = false
  | .eraseBus bus key => ∃ allowed, frame = .destroyBus bus allowed (.erase key) ∧ next = .destroyBus bus allowed .finish
  | .finishBus bus => ∃ allowed, frame = .destroyBus bus allowed .finish ∧ next = .finished (.verdict true)
  | .acceptGlove call glove =>
    call = self ∧ ∃ key, frame = .destroyGlove glove .accept ∧ next = .destroyGlove glove (.drainGate key) ∧
      tables.gloveKeys.find glove = some key ∧ tables.deletingGloves.find glove = none ∧
      gloveRefused tables context glove key = false
  | .eraseGlove glove key =>
    ∃ destroyed, frame = .destroyGlove glove (.erase key destroyed) ∧ next = .destroyGlove glove (.finish destroyed)
  | .finishGlove glove => ∃ destroyed, frame = .destroyGlove glove (.finish destroyed) ∧ next = .finished (.verdict destroyed)
  | .acceptAdapter call adapter =>
    call = self ∧ ∃ name, frame = .destroyAdapter adapter .accept ∧ next = .destroyAdapter adapter (.waitCreations name) ∧
      tables.adapterNames.find adapter = some name ∧ ¬ tables.isDeleting adapter ∧
      adapterRefused tables context adapter = false
  | .eraseAdapter adapter name =>
    frame = .destroyAdapter adapter (.erase name) ∧ next = .destroyAdapter adapter .finish
  | .finishAdapter adapter => frame = .destroyAdapter adapter .finish ∧ next = .finished (.verdict true)
  | .reserve newKey newRoute reservation =>
    ∃ motor newMotorIdx, frame = .reserve motor newMotorIdx .reserve ∧ next = .reserve motor newMotorIdx .hook ∧
      tables.reserveDecision motor newMotorIdx = .reserve newKey newRoute reservation
  | .release _ _ => ∃ accepted, next = .finished (.verdict accepted)
  | .migrate migration =>
    frame = .migrate migration.motor migration.newMotorIdx .commit ∧ next = .finished (.verdict true) ∧
      tables.migrateDecision migration.motor migration.newMotorIdx = .migrate migration ∧
      tables.migrationDefined migration = true
  | .configure adapter setting => frame = .configure adapter setting ∧ next = .finished (.verdict true)
  | .enterGate object =>
    (∃ gate, tables.operationRegistry.find object = some gate ∧ gate.retiring = false) ∧
      ((∃ delivery, frame = .receive object delivery .enter ∧ next = .receive object delivery .lock) ∨
        frame = .operate object .enter ∧ next = .operate object .inside)
  | .leaveGate object =>
    (∃ delivery, frame = .receive object delivery .leave ∧ next = .finished (.verdict true)) ∨
      frame = .operate object .inside ∧ next = .finished (.verdict true)
  | .lockReceive call adapter =>
    call = self ∧ tables.receiveLocks.find adapter = none ∧
      ∃ delivery, frame = .receive adapter delivery .lock ∧ next = .receive adapter delivery .relay
  | .unlockReceive adapter =>
    ∃ delivery, frame = .receive adapter delivery .unlock ∧ next = .receive adapter delivery .leave
  | .enterRoutes records =>
    ∃ adapter delivery report route, next = .receive adapter delivery (.deliver report route records) ∧
      ((∃ message, frame = .receive adapter delivery (.lookup message) ∧ report = ⟨message, tables, none, [], []⟩ ∧
        ((message.id = systemFrameId ∧ route = .system ∧ records = tables.systemRoutes adapter message.busIdx) ∨
          (message.id ≠ systemFrameId ∧ route = .exact ∧
            ∃ record, records = [record] ∧ tables.exactRoute adapter message = some record))) ∨
        ∃ before, frame = .receive adapter delivery (.claimLookup before) ∧ route = .claim ∧
          report = { before with seenClaim := some tables } ∧
          ∃ record, records = [record] ∧ tables.claimRoute adapter before.message.busIdx = some record)
  | .leaveRoute record =>
    ∃ adapter delivery report route rest, frame = .receive adapter delivery (.leaveRoute report route record rest) ∧
      next = .receive adapter delivery (.deliver report route rest)
  | .pushUnknown bus message =>
    ∃ adapter delivery report, frame = .receive adapter delivery (.unknown report) ∧ message = report.message ∧
      tables.domainBuses.find ⟨adapter, report.message.busIdx⟩ = some bus ∧
      next = .receive adapter (delivery.record { report with mailbox := report.mailbox ++ [bus] }) .next
  | .markResetting call bus =>
    call = self ∧ frame = .resetBus bus .mark ∧ next = .resetBus bus .waitCreations ∧
      ∃ key, tables.busKeys.find bus = some key ∧ parentRetiring tables bus key.adapter = false
  | .clearResetting bus => ∃ accepted, frame = .resetBus bus (.clear accepted) ∧ next = .finished (.verdict accepted)

variable (tables : Tables) (self : CallId) (context : CallbackContext) (choice : Choice)

theorem create_adapter_from (name : String) (pc : CreateAdapterPc)
    (result : SectionResult) (ran : runCreateAdapter tables self choice name pc = some result) :
    result.effect.From tables self context (Frame.createAdapter name pc) result.frame := by
  unfold runCreateAdapter at ran
  repeat' split at ran
  all_goals cases ran
  all_goals trivial

theorem create_bus_from (key : BusKey) (pc : CreateBusPc)
    (result : SectionResult) (ran : runCreateBus tables self choice key pc = some result) :
    result.effect.From tables self context (Frame.createBus key pc) result.frame := by
  unfold runCreateBus draining at ran
  repeat' split at ran
  all_goals cases ran
  all_goals first | trivial | simp_all [Effect.From]

theorem create_device_from (bus : Pointer) (recipe : DeviceRecipe) (pc : CreateDevicePc)
    (result : SectionResult) (ran : runCreateDevice tables self choice bus recipe pc = some result) :
    result.effect.From tables self context (Frame.createDevice bus recipe pc) result.frame := by
  unfold runCreateDevice draining at ran
  repeat' split at ran
  all_goals cases ran
  all_goals first | trivial | simp_all [Effect.From]

variable (tables : Tables) (replyOf : CallId → Option Reply) (self fresh : CallId)

variable (context : CallbackContext)

theorem create_glove_from (choice : Choice) (key : GloveKey) (pc : CreateGlovePc)
    (result : SectionResult) (ran : runCreateGlove tables replyOf self fresh choice key pc = some result) :
    result.effect.From tables self context (Frame.createGlove key pc) result.frame := by
  unfold runCreateGlove draining at ran
  repeat' split at ran
  all_goals cases ran
  all_goals first | trivial | simp_all [Effect.From]

theorem destroy_device_from (device : Pointer) (expected : DeviceKind) (pc : DestroyDevicePc)
    (result : SectionResult) (ran : runDestroyDevice tables self context device expected pc = some result) :
    result.effect.From tables self context (Frame.destroyDevice device expected pc) result.frame := by
  unfold runDestroyDevice draining at ran
  repeat' split at ran
  all_goals cases ran
  all_goals first | trivial | simp_all [Effect.From]

variable (choice : Choice) (context : CallbackContext)

theorem destroy_bus_from (bus : Pointer) (allowGloveInternal : Bool) (pc : DestroyBusPc)
    (result : SectionResult) (ran : runDestroyBus tables replyOf self fresh choice context bus allowGloveInternal pc = some result) :
    result.effect.From tables self context (Frame.destroyBus bus allowGloveInternal pc) result.frame := by
  unfold runDestroyBus draining at ran
  repeat' split at ran
  all_goals cases ran
  all_goals first | trivial | simp_all [Effect.From]

theorem destroy_glove_from (glove : Pointer) (pc : DestroyGlovePc)
    (result : SectionResult) (ran : runDestroyGlove tables replyOf self fresh context glove pc = some result) :
    result.effect.From tables self context (Frame.destroyGlove glove pc) result.frame := by
  unfold runDestroyGlove draining at ran
  repeat' split at ran
  all_goals cases ran
  all_goals first | trivial | simp_all [Effect.From]

theorem destroy_adapter_from (adapter : Pointer) (pc : DestroyAdapterPc)
    (result : SectionResult) (ran : runDestroyAdapter tables replyOf self fresh choice context adapter pc = some result) :
    result.effect.From tables self context (Frame.destroyAdapter adapter pc) result.frame := by
  unfold runDestroyAdapter draining at ran
  repeat' split at ran
  all_goals cases ran
  all_goals first | trivial | simp_all [Effect.From]

theorem reserve_from (choice : Choice) (motor : Pointer) (newMotorIdx : Int32) (pc : ReservePc)
    (result : SectionResult) (ran : runReserve tables choice motor newMotorIdx pc = some result) :
    result.effect.From tables self context (Frame.reserve motor newMotorIdx pc) result.frame := by
  unfold runReserve at ran
  repeat' split at ran
  all_goals cases ran
  all_goals first | trivial | simp_all [Effect.From]

theorem migrate_from (choice : Choice) (motor : Pointer) (newMotorIdx : Int32) (pc : MigratePc)
    (result : SectionResult) (ran : runMigrate tables choice motor newMotorIdx pc = some result) :
    result.effect.From tables self context (Frame.migrate motor newMotorIdx pc) result.frame := by
  unfold runMigrate at ran
  repeat' split at ran
  all_goals cases ran
  all_goals try trivial
  rename_i decided _ defined
  obtain ⟨same, index⟩ := migrate_decision_motor tables motor newMotorIdx _ decided
  subst same index
  exact ⟨rfl, rfl, decided, defined⟩

theorem reset_bus_from (bus : Pointer) (pc : ResetBusPc)
    (result : SectionResult) (ran : runResetBus tables replyOf self fresh bus pc = some result) :
    result.effect.From tables self context (Frame.resetBus bus pc) result.frame := by
  unfold runResetBus at ran
  repeat' split at ran
  all_goals cases ran
  all_goals first | trivial | simp_all [Effect.From]

theorem operate_from (object : Pointer) (pc : OperatePc)
    (result : SectionResult) (ran : runOperate tables object pc = some result) :
    result.effect.From tables self context (Frame.operate object pc) result.frame := by
  unfold runOperate at ran
  repeat' split at ran
  all_goals cases ran
  all_goals first | trivial | simp_all [Effect.From]

theorem receive_from (choice : Choice) (adapter : Pointer) (delivery : Delivery) (pc : ReceivePc)
    (result : SectionResult) (ran : runReceive tables replyOf self choice adapter delivery pc = some result) :
    result.effect.From tables self context (Frame.receive adapter delivery pc) result.frame := by
  unfold runReceive afterRoutes at ran
  repeat' split at ran
  all_goals cases ran
  all_goals first | trivial | simp_all [Effect.From]

theorem frame_from (frame : Frame) (result : SectionResult)
    (ran : runFrame tables replyOf self fresh choice context frame = some result) :
    result.effect.From tables self context frame result.frame := by
  cases frame with
  | finished reply => cases ran
  | createAdapter name pc => exact create_adapter_from tables self context choice name pc result ran
  | createBus key pc => exact create_bus_from tables self context choice key pc result ran
  | createDevice bus recipe pc => exact create_device_from tables self context choice bus recipe pc result ran
  | createGlove key pc => exact create_glove_from tables replyOf self fresh context choice key pc result ran
  | destroyDevice device expected pc => exact destroy_device_from tables self context device expected pc result ran
  | destroyBus bus allowed pc => exact destroy_bus_from tables replyOf self fresh choice context bus allowed pc result ran
  | destroyGlove glove pc => exact destroy_glove_from tables replyOf self fresh context glove pc result ran
  | destroyAdapter adapter pc => exact destroy_adapter_from tables replyOf self fresh choice context adapter pc result ran
  | reserve motor newMotorIdx pc => exact reserve_from tables self context choice motor newMotorIdx pc result ran
  | release motor newMotorIdx =>
    cases ran
    exact ⟨true, rfl⟩
  | migrate motor newMotorIdx pc => exact migrate_from tables self context choice motor newMotorIdx pc result ran
  | resetBus bus pc => exact reset_bus_from tables replyOf self fresh context bus pc result ran
  | configure adapter setting =>
    cases ran
    exact ⟨rfl, rfl⟩
  | operate object pc => exact operate_from tables self context object pc result ran
  | receive adapter delivery pc => exact receive_from tables replyOf self context choice adapter delivery pc result ran

theorem runs_from (state : DriverState) (id : CallId) (choice : Choice) (call : Call) (result : SectionResult)
    (runs : Runs state id choice call result) :
    result.effect.From state.shared id call.context call.frame result.frame :=
  frame_from state.shared _ id _ choice call.context call.frame result runs.ran

def Frame.Continues : Frame → Frame → Prop
  | _, .finished _ => True
  | .createAdapter name _, .createAdapter name' _ => name' = name
  | .createBus key _, .createBus key' _ => key' = key
  | .createDevice bus recipe _, .createDevice bus' recipe' _ => bus' = bus ∧ recipe' = recipe
  | .createGlove key _, .createGlove key' _ => key' = key
  | .destroyDevice device expected _, .destroyDevice device' expected' _ => device' = device ∧ expected' = expected
  | .destroyBus bus allowed _, .destroyBus bus' allowed' _ => bus' = bus ∧ allowed' = allowed
  | .destroyGlove glove _, .destroyGlove glove' _ => glove' = glove
  | .destroyAdapter adapter _, .destroyAdapter adapter' _ => adapter' = adapter
  | .reserve motor idx _, .reserve motor' idx' _ => motor' = motor ∧ idx' = idx
  | .migrate motor idx _, .migrate motor' idx' _ => motor' = motor ∧ idx' = idx
  | .resetBus bus _, .resetBus bus' _ => bus' = bus
  | .operate object _, .operate object' _ => object' = object
  | .receive adapter _ _, .receive adapter' _ _ => adapter' = adapter
  | _, _ => False

theorem frame_continues (frame : Frame) (result : SectionResult)
    (ran : runFrame tables replyOf self fresh choice context frame = some result) : frame.Continues result.frame := by
  cases frame with
  | finished reply => cases ran
  | _ =>
    simp only [runFrame] at ran
    first
      | unfold runCreateAdapter at ran
      | unfold runCreateBus draining at ran
      | unfold runCreateDevice draining at ran
      | unfold runCreateGlove draining at ran
      | unfold runDestroyDevice draining at ran
      | unfold runDestroyBus draining at ran
      | unfold runDestroyGlove draining at ran
      | unfold runDestroyAdapter draining at ran
      | unfold runReserve at ran
      | unfold runRelease at ran
      | unfold runMigrate at ran
      | unfold runResetBus at ran
      | unfold runConfigure at ran
      | unfold runOperate at ran
      | unfold runReceive afterRoutes at ran
    repeat' split at ran
    all_goals cases ran
    all_goals trivial

end EncosDriver.Driver
