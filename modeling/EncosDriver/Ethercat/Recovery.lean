import EncosDriver.Ethercat.Handle
import EncosDriver.Lib.Calls
import EncosDriver.Lib.History

set_option autoImplicit false

namespace EncosDriver.Ethercat.Recovery

open Lib Message

def kWkcErrorPeriod : Nat := 100
def kWkcErrorMax : Nat := 20

def EC_STATE_NONE : Nat := 0x00
def EC_STATE_PRE_OP : Nat := 0x02
def EC_STATE_SAFE_OP : Nat := 0x04
def EC_STATE_OPERATIONAL : Nat := 0x08
def EC_STATE_ACK : Nat := 0x10
def EC_STATE_ERROR : Nat := 0x10

structure SlaveInfo where
  group : Nat
  obytes : Nat
  mapped : Bool

structure Line where
  slavecount : Nat
  slaves : Nat → SlaveInfo
  configs : List SlaveConfig
  currentGroup : Nat
  expectedWkc : Int

def Line.group (line : Line) : List Nat :=
  (List.range' 1 line.slavecount).filter fun slave => (line.slaves slave).group = line.currentGroup

structure Slave where
  state : Nat
  islost : Bool
  outputs : List UInt8

-- The events of the loop's thread. `saw` is one slave of the group as a check
-- looked at it, `checked` the end of a check with all it saw, `began` an
-- exchange with the flag it loaded, `asked` and `granted` the two loads of Ok()
-- that found true.
inductive Event where
  | transitioned
  | read (succeeded : Bool)
  | saw (slave state : Nat)
  | checked (allOperational : Bool) (seen : List (Nat × Nat))
  | degraded
  | began (operational : Bool)
  | wrote (outputs : List (List UInt8))
  | exchanged (valid : Bool)
  | asked
  | granted
  | called (messages : MotorMessages)
deriving DecidableEq, Repr

inductive Caller where
  | reading
  | visiting (slave : Nat) (seen : List (Nat × Nat))
  | exchanging
deriving DecidableEq, Repr

-- Each constructor names the next section of CheckState or of ExchangeOnce; a
-- section ends before the next access to `running_` or `in_operational_`, or to
-- the send queue.
inductive LoopPc where
  | idle
  | checking
  | reading
  | judging (allOperational : Bool)
  | visiting (slave : Nat) (allOperational : Bool) (seen : List (Nat × Nat))
  | weighing (slave : Nat) (seen : List (Nat × Nat))
  | acting (slave : Nat) (seen : List (Nat × Nat))
  | settling (allOperational : Bool) (seen : List (Nat × Nat))
  | degrading (caller : Caller)
  | entering
  | loading
  | preparing (wasOperational : Bool)
  | writing (wasOperational : Bool) (frame : OutputFrame)
  | receiving (wasOperational : Bool)
  | confirming
  | recovering
  | asking
  | granting
  | calling

def Caller.back : Caller → LoopPc
  | .reading => .visiting 1 false []
  | .visiting slave seen => .acting slave seen
  | .exchanging => .idle

inductive Submitted where
  | single (message : MotorMessage)
  | several (messages : MotorMessages)
  | synchronized (messages : MotorMessages)

def Submitted.queue (handle : Handle) : Submitted → Handle
  | .single message => handle.queueMessage message
  | .several messages => handle.queueMessages messages
  | .synchronized messages => handle.queueSynchronizedMessages messages

inductive SendPc where
  | entering
  | queueing
  | done
deriving DecidableEq, Repr

inductive StopPc where
  | storing
  | lowering
  | done
deriving DecidableEq, Repr

inductive Call where
  | send (submitted : Submitted) (pc : SendPc)
  | requestStop (pc : StopPc)

-- The member `history` is a record: nothing in the code reads it.
structure Shared where
  running : Bool := true
  inOperational : Bool := false
  slavesOperational : Bool := false
  wkc : Int := 0
  wkcErrorCount : Nat := 0
  wkcErrorIteration : Nat := 0
  slaves : Nat → Slave
  docheckstate : Bool := false
  inputs : List (Option Packet) := []
  handle : Handle := {}
  loop : LoopPc := .idle
  history : List Event := []

def Shared.ok (shared : Shared) : Bool := shared.running && shared.inOperational

def Shared.goto (shared : Shared) (pc : LoopPc) : Shared := { shared with loop := pc }

def Shared.record (shared : Shared) (event : Event) : Shared := { shared with history := shared.history ++ [event] }

-- The polls of the start-up transition: the working counter and the state that
-- stands for all slaves.
def lastPoll (poll : Nat → Int × Nat) (number : Nat) : Nat → Int × Nat
  | 0 => poll number
  | retries + 1 => if (poll number).2 = EC_STATE_OPERATIONAL then poll number else lastPoll poll (number + 1) retries

def transitionToOperational (poll : Nat → Int × Nat) (shared : Shared) : Option Shared :=
  let last := lastPoll poll 0 40
  if last.2 = EC_STATE_OPERATIONAL then
    some ({ shared with wkc := last.1, inOperational := false, slavesOperational := true }.record .transitioned)
  else none

def degrade (shared : Shared) : Shared :=
  { shared with inOperational := false, slavesOperational := false }.record .degraded

-- What the calls of one section get from outside: the states after the first and
-- its result, the same of a recovery attempt after it, what a receive left in
-- the inputs, and whether a callback is set.
structure Reply where
  result : Int := 0
  states : Nat → Nat := fun _ => 0
  recovered : Bool := false
  recoveredStates : Nat → Nat := fun _ => 0
  inputs : List (Option Packet) := []
  callback : Bool := true

def setStates (slaves : Nat → Slave) (states : Nat → Nat) : Nat → Slave :=
  fun slave => { slaves slave with state := states slave }

def setLost (slaves : Nat → Slave) (slave : Nat) (islost : Bool) : Nat → Slave :=
  Function.update slaves slave { slaves slave with islost := islost }

def setState (slaves : Nat → Slave) (slave state : Nat) : Nat → Slave :=
  Function.update slaves slave { slaves slave with state := state }

-- What a check does for a slave that is not operational: an acknowledgement or a
-- request, a new configuration, or an attempt to find it again.
def recoverSlave (slaves : Nat → Slave) (slave : Nat) (reply : Reply) : Nat → Slave :=
  let state := (slaves slave).state
  if state = EC_STATE_SAFE_OP + EC_STATE_ERROR then setState slaves slave (EC_STATE_SAFE_OP + EC_STATE_ACK)
  else if state = EC_STATE_SAFE_OP then setState slaves slave EC_STATE_OPERATIONAL
  else if state > EC_STATE_NONE then
    let configured := setStates slaves reply.states
    if reply.result ≥ EC_STATE_PRE_OP then setLost configured slave false else configured
  else
    let polled := setStates slaves reply.states
    if (polled slave).state = EC_STATE_NONE then
      let attempted := setStates (setLost polled slave true) reply.recoveredStates
      if reply.recovered then setLost attempted slave false else attempted
    else polled

def idBytes (id : UInt32) : List UInt8 := [id.toUInt8, (id >>> 8).toUInt8, (id >>> 16).toUInt8, (id >>> 24).toUInt8]

def slotBytes (message : MotorPackMsg) : List UInt8 :=
  idBytes message.id ++ [message.frameFlags, message.len] ++ message.data.toList

def bufferBytes (buffer : OutputBuffer) : List UInt8 :=
  match (classifyOutputPdoSize buffer.payloadSize).format.traits with
  | none => List.replicate buffer.payloadSize 0
  | some traits =>
    let header := if traits.hasMotorNum then [buffer.packet.motorNum, 0] else []
    let packed := header ++ buffer.packet.motor.flatMap fun slot => slotBytes slot.data
    (packed ++ List.replicate buffer.payloadSize 0).take buffer.payloadSize

def writeOutput (info : SlaveInfo) (packet : Option OutputBuffer) (outputs : List UInt8) : List UInt8 :=
  if !info.mapped then outputs
  else
    match packet.filter fun buffer => buffer.active with
    | some buffer => (bufferBytes buffer).take info.obytes ++ List.replicate (info.obytes - min buffer.payloadSize info.obytes) 0
    | none => List.replicate info.obytes 0

def writeOutputs (line : Line) (packets : OutputFrame) (slaves : Nat → Slave) : Nat → Slave :=
  fun slave =>
    if 1 ≤ slave ∧ slave ≤ line.slavecount then
      { slaves slave with outputs := writeOutput (line.slaves slave) packets[slave - 1]? (slaves slave).outputs }
    else slaves slave

def mappedOutputs (line : Line) (slaves : Nat → Slave) : List (List UInt8) :=
  ((List.range' 1 line.slavecount).filter fun slave => (line.slaves slave).mapped).map fun slave => (slaves slave).outputs

def readInputs (line : Line) (shared : Shared) : MotorMessages := decodeInputs line.configs shared.inputs line.slavecount

def Shared.receive (shared : Shared) (reply : Reply) (valid : Bool) : Shared :=
  { shared with
    wkc := reply.result
    inputs := reply.inputs
    wkcErrorCount := if kWkcErrorPeriod ≤ shared.wkcErrorIteration then 0 else shared.wkcErrorCount
    wkcErrorIteration := if kWkcErrorPeriod ≤ shared.wkcErrorIteration then 0 else shared.wkcErrorIteration
    history := shared.history ++ [.exchanged valid] }

def badWkc (line : Line) (wkc : Int) : Bool := wkc < line.expectedWkc ∨ line.expectedWkc ≤ 0

def judgeExchange (line : Line) (shared : Shared) (wasOperational : Bool) (reply : Reply) : Shared :=
  if badWkc line reply.result then
    let received := shared.receive reply false
    if !wasOperational then { received with slavesOperational := false }.goto .idle
    else
      { received with
        wkcErrorCount := received.wkcErrorCount + 1
        wkcErrorIteration := received.wkcErrorIteration + 1 }.goto
          (if received.wkcErrorCount + 1 ≥ kWkcErrorMax then .degrading .exchanging else .idle)
  else
    let received := shared.receive reply true
    { received with wkcErrorIteration := received.wkcErrorIteration + 1 }.goto
      (if wasOperational then .asking else .confirming)

def visit (line : Line) (shared : Shared) (slave : Nat) (allOperational : Bool) (seen : List (Nat × Nat)) : Shared :=
  if slave ≤ line.slavecount ∧ shared.running then
    if (line.slaves slave).group ≠ line.currentGroup then shared.goto (.visiting (slave + 1) allOperational seen)
    else
      let state := (shared.slaves slave).state
      let looked := shared.record (.saw slave state)
      if state = EC_STATE_OPERATIONAL then
        { looked with slaves := setLost looked.slaves slave false }.goto
          (.visiting (slave + 1) allOperational (seen ++ [(slave, state)]))
      else looked.goto (.weighing slave (seen ++ [(slave, state)]))
  else shared.goto (.settling allOperational seen)

def work (line : Line) (shared : Shared) (reply : Reply) : Option Shared :=
  match shared.loop with
  | .idle => none
  | .checking => some (shared.goto (if shared.running then .reading else .idle))
  | .reading =>
    let allOperational : Bool := reply.result > EC_STATE_NONE ∧ line.slavecount > 0
    some (({ shared with slaves := setStates shared.slaves reply.states }.record (.read allOperational)).goto
      (.judging allOperational))
  | .judging allOperational =>
    some (shared.goto (if !allOperational && shared.inOperational then .degrading .reading else .visiting 1 allOperational []))
  | .visiting slave allOperational seen => some (visit line shared slave allOperational seen)
  | .weighing slave seen =>
    some (shared.goto (if shared.inOperational then .degrading (.visiting slave seen) else .acting slave seen))
  | .acting slave seen =>
    some ({ shared with slaves := recoverSlave shared.slaves slave reply }.goto (.visiting (slave + 1) false seen))
  | .settling allOperational seen =>
    some (({ shared with slavesOperational := allOperational, docheckstate := !allOperational }.record
      (.checked allOperational seen)).goto .idle)
  | .degrading caller => some ((degrade shared).goto caller.back)
  | .entering => some (shared.goto (if shared.running then .loading else .idle))
  | .loading => some ((shared.record (.began shared.inOperational)).goto (.preparing shared.inOperational))
  | .preparing wasOperational =>
    if wasOperational then
      let prepared := shared.handle.prepareNextFrame line.configs line.slavecount
      let frame := ((shared.handle.flushPendingMessagesLocked line.configs line.slavecount).sendFrames.head?.map
        fun queued => queued.frame).getD []
      some ({ shared with handle := prepared }.goto (.writing true frame))
    else some (shared.goto (.writing false []))
  | .writing wasOperational frame =>
    let written := { shared with slaves := writeOutputs line frame shared.slaves }
    some ((written.record (.wrote (mappedOutputs line written.slaves))).goto (.receiving wasOperational))
  | .receiving wasOperational => some (judgeExchange line shared wasOperational reply)
  | .confirming => some (shared.goto (if shared.running && shared.slavesOperational then .recovering else .asking))
  | .recovering =>
    some ({ shared with inOperational := true, wkcErrorCount := 0, wkcErrorIteration := 0 }.goto .asking)
  | .asking => some (if shared.running then (shared.record .asked).goto .granting else shared.goto .idle)
  | .granting => some (if shared.inOperational then (shared.record .granted).goto .calling else shared.goto .idle)
  | .calling => some ((if reply.callback then shared.record (.called (readInputs line shared)) else shared).goto .idle)

abbrev Moved := Option (Move Shared Call)

def moved (shared : Shared) (call : Call) : Moved := some ⟨shared, call, none⟩

def send (line : Line) (shared : Shared) (submitted : Submitted) : SendPc → Moved
  | .entering =>
    if !shared.running || line.slavecount = 0 then moved shared (.send submitted .done)
    else moved shared (.send submitted .queueing)
  | .queueing => moved { shared with handle := submitted.queue shared.handle } (.send submitted .done)
  | .done => none

def requestStop (shared : Shared) : StopPc → Moved
  | .storing => moved { shared with running := false } (.requestStop .lowering)
  | .lowering => moved { shared with inOperational := false } (.requestStop .done)
  | .done => none

def run (line : Line) (shared : Shared) : Call → Moved
  | .send submitted pc => send line shared submitted pc
  | .requestStop pc => requestStop shared pc

inductive Action where
  | checkState
  | exchangeOnce
  | work (reply : Reply)
  | send (submitted : Submitted)
  | requestStop
  | run (id : Nat)

abbrev State := World Shared Call

def begin (state : State) (pc : LoopPc) : Option State :=
  match state.shared.loop with
  | .idle => some { state with shared := state.shared.goto pc }
  | _ => none

def step (line : Line) (state : State) : Action → Option State
  | .checkState => begin state .checking
  | .exchangeOnce => begin state .entering
  | .work reply => (work line state.shared reply).map fun shared => { state with shared := shared }
  | .send submitted => some (state.start (.send submitted .entering))
  | .requestStop => some (state.start (.requestStop .storing))
  | .run id =>
    match state.calls.find id with
    | none => none
    | some call => (run line state.shared call).map fun move => state.advance id move

def system (line : Line) : System State Action where
  init := fun state =>
    ∃ poll slaves shared, transitionToOperational poll { slaves := slaves } = some shared ∧ state = ⟨shared, ∅, 0⟩
  step := step line

end EncosDriver.Ethercat.Recovery
