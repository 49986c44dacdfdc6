import EncosDriver.Port.Answers

set_option autoImplicit false

namespace EncosDriver.Motor.LogTransport

open Lib Port

inductive MotorCommandLogType where
  | pvtControl
  | posControl
  | spdControl
  | curControl
  | torControl
  | stop
  | brake
deriving DecidableEq, Repr

def kMotorCommandLogKp : UInt16 := 0x001
def kMotorCommandLogKd : UInt16 := 0x002
def kMotorCommandLogPosition : UInt16 := 0x004
def kMotorCommandLogSpeed : UInt16 := 0x008
def kMotorCommandLogCurrent : UInt16 := 0x010
def kMotorCommandLogTorque : UInt16 := 0x020
def kMotorCommandLogStopMode : UInt16 := 0x040
def kMotorCommandLogBrakeEnabled : UInt16 := 0x080
def kMotorCommandLogFeedback : UInt16 := 0x100

def kMotorCommandLogPortCapacity : Nat := 1024
def kMotorStatusLogPortCapacity : Nat := 1024

structure MotorCommandLogRecord (Number : Type) where
  timestampNs : Int64
  kp : Number
  kd : Number
  position : Number
  speed : Number
  current : Number
  torque : Number
  stopMode : Int32
  feedback : Int32
  fields : UInt16
  type : MotorCommandLogType
  brakeEnabled : Bool

structure MotorStatusLogRecord (Number : Type) where
  timestampNs : Int64
  error : Int32
  position : Number
  speed : Number
  current : Number
  motorTemperature : Number
  mosTemperature : Number

inductive Field (Number : Type) where
  | integer (value : Int)
  | real (value : Number)
  | flag (value : Bool)
  | text (value : String)
  | empty
deriving DecidableEq, Repr

inductive Kind where
  | command
  | status
deriving DecidableEq, Repr

def capacity : Kind → Nat
  | .command => kMotorCommandLogPortCapacity
  | .status => kMotorStatusLogPortCapacity

section Rows

variable {Number : Type}

def commandType : MotorCommandLogType → String
  | .pvtControl => "PVTControl"
  | .posControl => "PosControl"
  | .spdControl => "SpdControl"
  | .curControl => "CurControl"
  | .torControl => "TorControl"
  | .stop => "Stop"
  | .brake => "Brake"

def optional (fields bit : UInt16) (field : Field Number) : Field Number := if fields &&& bit ≠ 0 then field else .empty

def commandRow (record : MotorCommandLogRecord Number) : List (Field Number) :=
  [.integer record.timestampNs.toInt, .text (commandType record.type),
    optional record.fields kMotorCommandLogKp (.real record.kp), optional record.fields kMotorCommandLogKd (.real record.kd),
    optional record.fields kMotorCommandLogPosition (.real record.position),
    optional record.fields kMotorCommandLogSpeed (.real record.speed),
    optional record.fields kMotorCommandLogCurrent (.real record.current),
    optional record.fields kMotorCommandLogTorque (.real record.torque),
    optional record.fields kMotorCommandLogStopMode (.integer record.stopMode.toInt),
    optional record.fields kMotorCommandLogBrakeEnabled (.flag record.brakeEnabled),
    optional record.fields kMotorCommandLogFeedback (.integer record.feedback.toInt)]

def statusRow (record : MotorStatusLogRecord Number) : List (Field Number) :=
  [.integer record.timestampNs.toInt, .integer record.error.toInt, .real record.position, .real record.speed, .real record.current,
    .real record.motorTemperature, .real record.mosTemperature]

end Rows

structure Layout (Word Number : Type) where
  size : Kind → Nat
  command : List Word → MotorCommandLogRecord Number
  status : List Word → MotorStatusLogRecord Number

variable {Word Number : Type}

def Layout.row (layout : Layout Word Number) : Kind → List Word → List (Field Number)
  | .command, words => commandRow (layout.command words)
  | .status, words => statusRow (layout.status words)

-- What a LogWriter has taken, each row with the number of its record, and how
-- much of it a flush has seen to the file.
structure Writer (Number : Type) where
  rows : List (Nat × List (Field Number)) := []
  flushed : Nat := 0

-- Each constructor names the next section of Drain. FinalizeIfReady starts at
-- `finalizing` and holds the completion mutex while it asks the ports.
inductive DrainPc (Word : Type) where
  | idle
  | checking
  | popping (kind : Kind)
  | writing (kind : Kind) (sequence : Nat) (words : List Word)
  | storingWrite (text : String)
  | finalizing
  | asking (kind : Kind)
  | flushing (kind : Kind)
  | storingFlush (text : String)
  | marking

inductive ClosePc where
  | entering
  | requesting
  | waiting
  | returned
  | threw (text : String)
deriving DecidableEq, Repr

-- In `publishing` is a message whose publisher is past its check of `closing`.
-- `begun` is what the ports had announced when the first Close began, `failures`
-- what the writers have thrown, and `failuresBefore` that at the moment the
-- session was closed; nothing in the code reads these three.
structure Session (layout : Layout Word Number) where
  ports : (kind : Kind) → PortState (layout.size kind) Word
  publishing : (kind : Kind) → Option (Message (layout.size kind) Word) := fun _ => none
  writers : Kind → Writer Number := fun _ => {}
  closing : Bool := false
  closeRequested : Bool := false
  closed : Bool := false
  error : Option String := none
  failed : Bool := false
  worker : DrainPc Word := .idle
  closers : Nat → ClosePc := fun _ => .entering
  begun : Kind → Nat := fun _ => 0
  failures : List String := []
  failuresBefore : List String := []

inductive Answer where
  | returns
  | throws (text : String) (kept : Bool)
deriving DecidableEq, Repr

variable {layout : Layout Word Number}

namespace Session

def setPort (session : Session layout) (kind : Kind) (port : PortState (layout.size kind) Word) : Session layout :=
  { session with ports := Function.update session.ports kind port }

def setWriter (session : Session layout) (kind : Kind) (writer : Writer Number) : Session layout :=
  { session with writers := Function.update session.writers kind writer }

def act (session : Session layout) (kind : Kind) (action : PortAction (layout.size kind) Word) : Session layout :=
  session.setPort kind ((portStep (capacity kind) (session.ports kind) action).getD (session.ports kind))

def call (session : Session layout) (kind : Kind) (call : ConsumerCall) (pc : DrainPc Word) : Session layout :=
  { session.act kind (.call call) with worker := pc }

def append (session : Session layout) (kind : Kind) (sequence : Nat) (words : List Word) : Session layout :=
  let writer := session.writers kind
  session.setWriter kind { writer with rows := writer.rows ++ [(sequence, layout.row kind words)] }

def flush (session : Session layout) (kind : Kind) : Session layout :=
  let writer := session.writers kind
  session.setWriter kind { writer with flushed := writer.rows.length }

def fail (session : Session layout) (text : String) (pc : DrainPc Word) : Session layout :=
  { session with failures := session.failures ++ [text], worker := pc }

def storeError (session : Session layout) (text : String) : Session layout :=
  match session.error with
  | some _ => session
  | none => { session with error := some text, failed := true }

def popNext (session : Session layout) : Kind → Session layout
  | .command => session.call .status .pop (.popping .status)
  | .status => { session with worker := .finalizing }

def askNext (session : Session layout) : Kind → Session layout
  | .command => session.call .status .empty (.asking .status)
  | .status => { session with worker := .flushing .command }

def flushNext (session : Session layout) : Kind → Session layout
  | .command => { session with worker := .flushing .status }
  | .status => { session with worker := .marking }

def afterPop (session : Session layout) (kind : Kind) : Session layout :=
  match (session.ports kind).consumer.call, (session.ports kind).returned.getLast? with
  | some _, _ => session
  | none, some (.popped sequence words) => { session with worker := .writing kind sequence words }
  | none, _ => session.popNext kind

def afterEmpty (session : Session layout) (kind : Kind) : Session layout :=
  match (session.ports kind).consumer.call, (session.ports kind).returned.getLast? with
  | some _, _ => session
  | none, some (.isEmpty true) => session.askNext kind
  | none, _ => { session with worker := .idle }

end Session

open Session

def work (session : Session layout) (answer : Answer) : Session layout :=
  match session.worker with
  | .idle => { session with worker := .checking }
  | .checking =>
    if session.failed then { session with worker := .finalizing } else session.call .command .pop (.popping .command)
  | .popping kind => (session.act kind .consumer).afterPop kind
  | .writing kind sequence words =>
    match answer with
    | .returns => (session.append kind sequence words).call kind .pop (.popping kind)
    | .throws text kept =>
      (if kept then session.append kind sequence words else session).fail text (.storingWrite text)
  | .storingWrite text => { session.storeError text with worker := .finalizing }
  | .finalizing =>
    if !session.closeRequested || session.closed then { session with worker := .idle }
    else if session.failed then { session with worker := .flushing .command }
    else session.call .command .empty (.asking .command)
  | .asking kind => (session.act kind .consumer).afterEmpty kind
  | .flushing kind =>
    match answer with
    | .returns => (session.flush kind).flushNext kind
    | .throws text _ => session.fail text (.storingFlush text)
  | .storingFlush text => { session.storeError text with worker := .marking }
  | .marking => { session with closed := true, failuresBefore := session.failures, worker := .idle }

def DrainPc.locks : DrainPc Word → Bool
  | .asking _ => true
  | _ => false

def Session.setCloser (session : Session layout) (id : Nat) (pc : ClosePc) : Session layout :=
  { session with closers := Function.update session.closers id pc }

def close (session : Session layout) (id : Nat) : Option (Session layout) :=
  match session.closers id with
  | .entering =>
    some { session.setCloser id .requesting with
      closing := true
      begun := if session.closing then session.begun else fun kind => (session.ports kind).producerSequence }
  | .requesting =>
    if session.worker.locks then none else some { session.setCloser id .waiting with closeRequested := true }
  | .waiting =>
    if session.worker.locks || !session.closed then none
    else
      match session.error with
      | none => some (session.setCloser id .returned)
      | some text => some (session.setCloser id (.threw text))
  | _ => none

def publish (session : Session layout) (kind : Kind) (message : Message (layout.size kind) Word) : Option (Session layout) :=
  match session.publishing kind, (session.ports kind).producer with
  | none, .idle =>
    if session.closing then some session
    else some { session with publishing := Function.update session.publishing kind (some message) }
  | _, _ => none

def produce (session : Session layout) (kind : Kind) : Option (Session layout) :=
  match session.publishing kind with
  | some message =>
    (portStep (capacity kind) (session.ports kind) (.push message)).map fun port =>
      { session.setPort kind port with publishing := Function.update session.publishing kind none }
  | none => (portStep (capacity kind) (session.ports kind) .producer).map (session.setPort kind)

inductive Action (layout : Layout Word Number) where
  | publish (kind : Kind) (message : Message (layout.size kind) Word)
  | produce (kind : Kind)
  | work (answer : Answer)
  | close (id : Nat)

def step (session : Session layout) : Action layout → Option (Session layout)
  | .publish kind message => publish session kind message
  | .produce kind => produce session kind
  | .work answer => some (work session answer)
  | .close id => close session id

structure InitialSession (session : Session layout) : Prop where
  ports : ∀ kind, InitialPort (session.ports kind)
  fresh : session = { ports := session.ports }

def system (layout : Layout Word Number) : System (Session layout) (Action layout) := ⟨InitialSession, step⟩

end EncosDriver.Motor.LogTransport
