import EncosDriver.Driver.Destruction

set_option autoImplicit false

namespace EncosDriver.Driver

open Lib

def systemFrameId : UInt32 := 0x7FF

namespace Tables

def liveRecord (tables : Tables) (record : RecordId) : Bool :=
  match tables.records.find record with
  | some route => !route.retiring && route.callback
  | none => false

def systemRoutes (tables : Tables) (adapter : Pointer) (rawBusIdx : Int32) : List RecordId :=
  (tables.routes.toList.filter fun entry =>
    entry.1.adapter = adapter && (entry.1.uniqueId >>> (32 : UInt64)).toUInt32 = rawBusIdx.toUInt32 &&
      tables.liveRecord entry.2).map fun entry => entry.2

def exactRoute (tables : Tables) (adapter : Pointer) (message : MotorMessage) : Option RecordId :=
  (tables.routes.find (routeKey ⟨adapter, message.busIdx⟩ message.id)).filter tables.liveRecord

def claimRoute (tables : Tables) (adapter : Pointer) (rawBusIdx : Int32) : Option RecordId :=
  (tables.claimRoutes.find ⟨adapter, rawBusIdx⟩).filter tables.liveRecord

def routeContext (tables : Tables) (record : RecordId) : CallbackContext :=
  match tables.records.find record with
  | some route => ⟨some route.device, some route.bus, some route.adapter, false⟩
  | none => {}

end Tables

def Delivery.record (delivery : Delivery) (report : DispatchReport) : Delivery :=
  { delivery with history := delivery.history ++ [report] }

-- Where the dispatch of a message goes when the last admitted record has been
-- left: a hit on an exact route ends it, a system frame goes on to the claim
-- route and a claim to the mailbox.
def afterRoutes (adapter : Pointer) (delivery : Delivery) (report : DispatchReport) : DispatchRoute → Frame
  | .exact => .receive adapter (delivery.record report) .next
  | .system => .receive adapter delivery (.claimLookup report)
  | .claim => .receive adapter delivery (.unknown report)

def runReceive (tables : Tables) (replyOf : CallId → Option Reply) (self : CallId) (choice : Choice) (adapter : Pointer)
    (delivery : Delivery) : ReceivePc → Option SectionResult
  | .enter =>
    match tables.operationRegistry.find adapter with
    | some gate =>
      if gate.retiring then answering (.verdict false)
      else writing (.enterGate adapter) (.receive adapter delivery .lock)
    | none => answering (.verdict false)
  | .lock =>
    if tables.receiveLocks.contains adapter then none
    else writing (.lockReceive self adapter) (.receive adapter delivery .relay)
  -- The relay callback is copied here; it may be empty.
  | .relay =>
    if choice = .fail then quietly (.receive adapter delivery .next)
    else quietly (.receive adapter delivery (.inRelay none))
  | .inRelay none => quietly (.receive adapter delivery .next)
  | .inRelay (some child) =>
    match replyOf child with
    | none => none
    | some _ => quietly (.receive adapter delivery (.inRelay none))
  | .next =>
    match delivery.messages with
    | [] => quietly (.receive adapter delivery .unlock)
    | message :: rest =>
      if tables.domainBuses.contains ⟨adapter, message.busIdx⟩ then
        quietly (.receive adapter { delivery with messages := rest } (.lookup message))
      else quietly (.receive adapter { delivery with messages := rest } .next)
  | .lookup message =>
    if message.id = systemFrameId then
      writing (.enterRoutes (tables.systemRoutes adapter message.busIdx))
        (.receive adapter delivery
          (.deliver ⟨message, tables, none, [], []⟩ .system (tables.systemRoutes adapter message.busIdx)))
    else
      match tables.exactRoute adapter message with
      | some record =>
        writing (.enterRoutes [record])
          (.receive adapter delivery (.deliver ⟨message, tables, none, [], []⟩ .exact [record]))
      | none => quietly (.receive adapter delivery (.claimLookup ⟨message, tables, none, [], []⟩))
  | .deliver report route [] => quietly (afterRoutes adapter delivery report route)
  | .deliver report route (record :: rest) =>
    quietly (.receive adapter delivery
      (.inCallback { report with called := report.called ++ [record] } route record rest none))
  | .inCallback report route record rest none =>
    quietly (.receive adapter delivery (.leaveRoute report route record rest))
  | .inCallback report route record rest (some child) =>
    match replyOf child with
    | none => none
    | some _ => quietly (.receive adapter delivery (.inCallback report route record rest none))
  | .leaveRoute report route record rest =>
    writing (.leaveRoute record) (.receive adapter delivery (.deliver report route rest))
  | .claimLookup report =>
    match tables.claimRoute adapter report.message.busIdx with
    | some record =>
      writing (.enterRoutes [record])
        (.receive adapter delivery (.deliver { report with seenClaim := some tables } .claim [record]))
    | none => quietly (.receive adapter delivery (.unknown { report with seenClaim := some tables }))
  | .unknown report =>
    match tables.domainBuses.find ⟨adapter, report.message.busIdx⟩ with
    | none => quietly (.receive adapter (delivery.record report) .next)
    | some bus =>
      writing (.pushUnknown bus report.message)
        (.receive adapter (delivery.record { report with mailbox := report.mailbox ++ [bus] }) .next)
  | .unlock => writing (.unlockReceive adapter) (.receive adapter delivery .leave)
  | .leave => writing (.leaveGate adapter) (.finished (.verdict true))

def runOperate (tables : Tables) (object : Pointer) : OperatePc → Option SectionResult
  | .enter =>
    match tables.operationRegistry.find object with
    | some gate => if gate.retiring then answering .thrown else writing (.enterGate object) (.operate object .inside)
    | none => answering .thrown
  | .inside => writing (.leaveGate object) (.finished (.verdict true))

def runReserve (tables : Tables) (choice : Choice) (motor : Pointer) (newMotorIdx : Int32) : ReservePc → Option SectionResult
  | .reserve =>
    match tables.reserveDecision motor newMotorIdx with
    | .answer accepted => answering (.verdict accepted)
    | .reserve newKey newRoute reservation =>
      if choice = .fail then answering (.verdict false)
      else writing (.reserve newKey newRoute reservation) (.reserve motor newMotorIdx .hook)
  -- A hook that throws makes the call release its reservation again.
  | .hook =>
    if choice = .fail then writing (.release motor newMotorIdx) (.finished (.verdict false))
    else answering (.verdict true)

def runRelease (motor : Pointer) (newMotorIdx : Int32) : Option SectionResult :=
  writing (.release motor newMotorIdx) (.finished (.verdict true))

def migrationPrechecked (tables : Tables) (motor : Pointer) (newMotorIdx : Int32) : Bool :=
  match tables.deviceKeys.find motor with
  | none => false
  | some current =>
    (tables.motorIndexReservations.find (motorKey current.bus newMotorIdx)).any fun held => held.motor = motor

def runMigrate (tables : Tables) (choice : Choice) (motor : Pointer) (newMotorIdx : Int32) :
    MigratePc → Option SectionResult
  | .precheck => quietly (.migrate motor newMotorIdx (.hook (migrationPrechecked tables motor newMotorIdx)))
  | .hook prechecked =>
    if choice = .fail ∧ prechecked = false then answering (.verdict false)
    else quietly (.migrate motor newMotorIdx .commit)
  | .commit =>
    match tables.migrateDecision motor newMotorIdx with
    | .answer accepted => answering (.verdict accepted)
    | .migrate migration =>
      -- Copying a callback may throw, but only where no reservation holds a prepared one.
      if choice = .fail ∧ tables.motorIndexReservations.find migration.newKey = none then answering (.verdict false)
      else if tables.migrationDefined migration then writing (.migrate migration) (.finished (.verdict true))
      else answering .undefined

def runConfigure (adapter : Pointer) (setting : Setting) : Option SectionResult :=
  writing (.configure adapter setting) (.finished (.verdict true))

def runResetBus (tables : Tables) (replyOf : CallId → Option Reply) (self fresh : CallId) (bus : Pointer) :
    ResetBusPc → Option SectionResult
  | .mark =>
    match tables.busKeys.find bus with
    | none => answering (.verdict false)
    | some key =>
      if parentRetiring tables bus key.adapter then answering (.verdict false)
      else writing (.markResetting self bus) (.resetBus bus .waitCreations)
  | .waitCreations => if tables.childCreations.contains bus then none else quietly (.resetBus bus .survey)
  | .survey =>
    match tables.busKeys.find bus with
    | none => quietly (.resetBus bus (.clear false))
    | some key =>
      if tables.isDeleting bus ∨ tables.isDeleting key.adapter then quietly (.resetBus bus (.clear false))
      else
        if ¬ tables.busDeviceDeletionsGone bus then quietly (.resetBus bus .waitDeletions)
        else
          match tables.motorsOnBus bus with
          | [] => quietly (.resetBus bus (.clear true))
          | [motor] => quietly (.resetBus bus (.single motor))
          | motors => quietly (.resetBus bus (.choose motors motors))
  | .waitDeletions => if tables.busDeviceDeletionsGone bus then quietly (.resetBus bus .survey) else none
  | .single motor =>
    match tables.deviceKeys.find motor with
    | some key =>
      if key.idx = 1 ∧ ¬ tables.isDeleting motor then quietly (.resetBus bus (.clear true))
      else quietly (.resetBus bus (.choose [motor] [motor]))
    | none => quietly (.resetBus bus (.choose [motor] [motor]))
  | .choose motors [] => quietly (.resetBus bus (.destroyOthers (motors.headD 0) (motors.erase (motors.headD 0))))
  | .choose motors (motor :: rest) =>
    if (tables.deviceKeys.find motor).any fun key => key.idx = 1 then
      quietly (.resetBus bus (.destroyOthers motor (motors.erase motor)))
    else quietly (.resetBus bus (.choose motors rest))
  | .destroyOthers survivor [] => quietly (.resetBus bus (.inspect survivor))
  | .destroyOthers survivor (motor :: rest) =>
    nesting (.destroyDevice motor .motor) (.resetBus bus (.awaitDestroy survivor rest fresh))
  | .awaitDestroy survivor rest child =>
    match replyOf child with
    | none => none
    | some _ => quietly (.resetBus bus (.destroyOthers survivor rest))
  | .inspect survivor =>
    match tables.deviceKeys.find survivor with
    | some key =>
      if key.kind = .motor ∧ key.bus = bus ∧ ¬ tables.isDeleting survivor then
        if key.idx = 1 then quietly (.resetBus bus .survey)
        else nesting (.migrateMotorIndex survivor 1) (.resetBus bus (.awaitMigrate fresh))
      else quietly (.resetBus bus .waitDeletions)
    | none => quietly (.resetBus bus .waitDeletions)
  | .awaitMigrate child =>
    match replyOf child with
    | none => none
    | some (.verdict true) => quietly (.resetBus bus .survey)
    | some _ => quietly (.resetBus bus (.clear false))
  | .clear accepted => writing (.clearResetting bus) (.finished (.verdict accepted))

end EncosDriver.Driver
