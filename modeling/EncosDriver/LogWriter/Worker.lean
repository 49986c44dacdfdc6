import EncosDriver.Lib.FileStream
import EncosDriver.Lib.System
import EncosDriver.Lib.Csv
import Mathlib.Data.List.Forall2

set_option autoImplicit false

namespace EncosDriver.LogWriter

open Lib

abbrev WriterId := Nat
abbrev CallId := Nat

def escapeCsvString (value : Octets) : Octets :=
  if value.any fun byte => byte = 0x2C || byte = 0x22 || byte = 0x0D || byte = 0x0A then
    [0x22] ++ (value.flatMap fun byte => if byte = 0x22 then [0x22, byte] else [byte]) ++ [0x22]
  else value

def row (fields : List Octets) : Octets := [(0x2C : UInt8)].intercalate (fields.map escapeCsvString) ++ [0x0A]

def appendRow (buffer : Octets) (fields : List Octets) : Octets := buffer ++ row fields

def kFlushThreshold : Nat := 1024 * 1024

-- Why a writer failed: four failures of the worker, and the failure of an
-- interaction, which only tests inject.
inductive Failure where
  | injected
  | interaction
  | compression
  | write
  | flush
deriving DecidableEq, Repr

-- One log writer with the state it shares with the worker. `text` and `chunks`
-- are records for the statements, which no section reads: all rows appended so
-- far, and all data handed to the file.
structure Writer where
  mutex : Option CallId := none
  buffer : Octets
  file : FileStream := {}
  submitted : Nat := 0
  completed : Nat := 0
  error : Option Failure := none
  text : Octets
  chunks : List Octets := []
deriving DecidableEq, Repr

structure Task where
  data : Octets
  sequence : Nat
  flush : Bool
deriving DecidableEq, Repr

inductive WritePc where
  | enter
  | check
  | append
  | sequence
  | push (sequence : Nat) (data : Octets)
  | unlock (failure : Option Failure)
deriving DecidableEq, Repr

inductive FlushPc where
  | enter
  | sequence
  | push (sequence : Nat) (data : Octets)
  | wait (sequence : Nat)
  | unlock (failure : Option Failure)
deriving DecidableEq, Repr

-- A call remembers what held when it began: `late` that its writer had failed,
-- `before` how much text had been submitted.
inductive Frame where
  | write (fields : List Octets) (late : Bool) (pc : WritePc)
  | flush (before : Nat) (late : Bool) (pc : FlushPc)
  | wrote (fields : List Octets) (late : Bool)
  | flushed (before : Nat) (late : Bool)
  | thrown (failure : Failure)
deriving DecidableEq, Repr

inductive Request where
  | write (fields : List Octets)
  | flush
deriving DecidableEq, Repr

def Request.frame (writer : Writer) : Request → Frame
  | .write fields => .write fields writer.error.isSome .enter
  | .flush => .flush writer.text.length writer.error.isSome .enter

def newWriter (headers : List Octets) : Writer := { buffer := appendRow [] headers, text := appendRow [] headers }

structure Section where
  writer : Writer
  task : Option Task := none
  frame : Frame

def runWrite (writer : Writer) (self : CallId) (injected : Bool) (fields : List Octets) (late : Bool) : WritePc → Option Section
  | .enter =>
    match writer.mutex with
    | some _ => none
    | none => some { writer := { writer with mutex := some self }, frame := .write fields late .check }
  | .check =>
    match writer.error with
    | some failure => some { writer := writer, frame := .write fields late (.unlock (some failure)) }
    | none =>
      if injected then
        some
          { writer := { writer with error := some .interaction }
            frame := .write fields late (.unlock (some .interaction)) }
      else some { writer := writer, frame := .write fields late .append }
  | .append =>
    some
      { writer := { writer with buffer := appendRow writer.buffer fields, text := appendRow writer.text fields }
        frame := .write fields late
          (if kFlushThreshold ≤ (appendRow writer.buffer fields).length then .sequence else .unlock none) }
  | .sequence =>
    some
      { writer := { writer with buffer := [], submitted := writer.submitted + 1 }
        frame := .write fields late (.push (writer.submitted + 1) writer.buffer) }
  | .push sequence data =>
    some { writer := writer, task := some ⟨data, sequence, false⟩, frame := .write fields late (.unlock none) }
  | .unlock failure =>
    some
      { writer := { writer with mutex := none }
        frame :=
          match failure with
          | none => .wrote fields late
          | some failure => .thrown failure }

def runFlush (writer : Writer) (self : CallId) (before : Nat) (late : Bool) : FlushPc → Option Section
  | .enter =>
    match writer.mutex with
    | some _ => none
    | none => some { writer := { writer with mutex := some self }, frame := .flush before late .sequence }
  | .sequence =>
    some
      { writer := { writer with buffer := [], submitted := writer.submitted + 1 }
        frame := .flush before late (.push (writer.submitted + 1) writer.buffer) }
  | .push sequence data =>
    some { writer := writer, task := some ⟨data, sequence, true⟩, frame := .flush before late (.wait sequence) }
  | .wait sequence =>
    if sequence ≤ writer.completed then some { writer := writer, frame := .flush before late (.unlock writer.error) }
    else none
  | .unlock failure =>
    some
      { writer := { writer with mutex := none }
        frame :=
          match failure with
          | none => .flushed before late
          | some failure => .thrown failure }

def runCall (writer : Writer) (self : CallId) (injected : Bool) : Frame → Option Section
  | .write fields late pc => runWrite writer self injected fields late pc
  | .flush before late pc => runFlush writer self before late pc
  | _ => none

inductive Stage where
  | check (task : Task)
  | write (task : Task)
  | flush (task : Task)
  | complete (task : Task) (failure : Option Failure)
deriving DecidableEq, Repr

inductive Outcome where
  | succeed (spilled : Nat)
  | injected
  | compression
  | short (kept spilled : Nat)
deriving DecidableEq, Repr

def handOver (writer : Writer) (data : Octets) (file : FileStream) : Writer :=
  { writer with file := file, chunks := writer.chunks ++ [data] }

def runStage (codec : Compression) (writer : Writer) (outcome : Outcome) : Stage → Writer × Option Stage
  | .check task =>
    match writer.error with
    | some _ => (writer, some (.complete task none))
    | none => (writer, some (.write task))
  | .write task =>
    match outcome with
    | .injected => (writer, some (.complete task (some .injected)))
    | .compression =>
      if task.data = [] then (writer, some (.flush task)) else (writer, some (.complete task (some .compression)))
    | .short kept spilled =>
      if task.data = [] then (writer, some (.flush task))
      else
        (handOver writer task.data (writer.file.short (codec.compress task.data) kept spilled),
          some (.complete task (some .write)))
    | .succeed spilled =>
      if task.data = [] then (writer, some (.flush task))
      else (handOver writer task.data (writer.file.accept (codec.compress task.data) spilled), some (.flush task))
  | .flush task =>
    if task.flush then
      match outcome with
      | .short _ spilled =>
        ({ writer with file := writer.file.flushShort spilled }, some (.complete task (some .flush)))
      | _ => ({ writer with file := writer.file.flushed }, some (.complete task none))
    else (writer, some (.complete task none))
  -- The first failure of a writer stays.
  | .complete task failure =>
    ({ writer with
        error := if writer.error = none then failure else writer.error
        completed := task.sequence }, none)

-- A writer, once constructed, and the calls on it. `headers` and `rows` are the
-- history of the client: what its writer was created with, and the rows with
-- their calls in the order in which the calls submitted them.
structure Client where
  writer : Option Writer := none
  calls : CallId → Option Frame := fun _ => none
  headers : List Octets := []
  rows : List (CallId × List Octets) := []

structure State where
  clients : WriterId → Client := fun _ => {}
  tasks : List (WriterId × Task) := []
  worker : Option (WriterId × Stage) := none

def State.set (state : State) (id : WriterId) (client : Client) : State :=
  { state with clients := Function.update state.clients id client }

inductive Action where
  | create (id : WriterId) (headers : List Octets)
  | begin (id : WriterId) (call : CallId) (request : Request)
  | run (id : WriterId) (call : CallId) (injected : Bool)
  | work (outcome : Outcome)
deriving DecidableEq, Repr

def Frame.submits (call : CallId) : Frame → List (CallId × List Octets)
  | .write fields _ .append => [(call, fields)]
  | _ => []

def Client.moved (client : Client) (call : CallId) (frame : Frame) (moved : Section) : Client where
  writer := some moved.writer
  calls := Function.update client.calls call (some moved.frame)
  headers := client.headers
  rows := client.rows ++ frame.submits call

def step (codec : Compression) (state : State) : Action → Option State
  | .create id headers =>
    match (state.clients id).writer with
    | some _ => none
    | none => some (state.set id { state.clients id with writer := some (newWriter headers), headers := headers })
  | .begin id call request =>
    match (state.clients id).writer, (state.clients id).calls call with
    | some writer, none =>
      some (state.set id
        { state.clients id with calls := Function.update (state.clients id).calls call (some (request.frame writer)) })
    | _, _ => none
  | .run id call injected =>
    match (state.clients id).writer, (state.clients id).calls call with
    | some writer, some frame =>
      (runCall writer call injected frame).map fun moved =>
        { state.set id ((state.clients id).moved call frame moved) with
          tasks := state.tasks ++ (moved.task.map fun task => (id, task)).toList }
    | _, _ => none
  | .work outcome =>
    match state.worker with
    | none =>
      match state.tasks with
      | [] => none
      | (id, task) :: rest => some { state with tasks := rest, worker := some (id, .check task) }
    | some (id, stage) =>
      match (state.clients id).writer with
      | none => none
      | some writer =>
        let done := runStage codec writer outcome stage
        some { state.set id { state.clients id with writer := some done.1 } with
          worker := done.2.map fun stage => (id, stage) }

def system (codec : Compression) : System State Action where
  init := fun state => state = {}
  step := step codec

def rfc4180 : Csv.Dialect UInt8 where
  comma := 0x2C
  quote := 0x22
  lineFeed := 0x0A
  carriageReturn := 0x0D
  comma_quote := by decide
  comma_lineFeed := by decide
  lineFeed_quote := by decide

theorem escaped_stands (value : Octets) : Csv.Stands rfc4180 value (escapeCsvString value) := by
  rw [escapeCsvString]
  split
  · exact .quoted value
  · rename_i unescaped
    refine .plain value ?_
    intro byte inside
    have ordinary : ¬(byte = 0x2C ∨ byte = 0x22 ∨ byte = 0x0D ∨ byte = 0x0A) := by
      intro special
      refine unescaped (List.any_eq_true.mpr ⟨byte, inside, ?_⟩)
      simpa [or_assoc] using special
    simp only [not_or] at ordinary
    obtain ⟨notComma, notQuote, notReturn, notFeed⟩ := ordinary
    exact ⟨notComma, notQuote, notFeed, notReturn⟩

theorem escaped_fields (fields : List Octets) : List.Forall₂ (Csv.Stands rfc4180) fields (fields.map escapeCsvString) :=
  List.forall₂_map_right_iff.mpr (List.forall₂_same.mpr fun field _ => escaped_stands field)

theorem append_rows (buffer : Octets) (rows : List (List Octets)) :
    rows.foldl appendRow buffer = buffer ++ rows.flatMap row := by
  induction rows generalizing buffer with
  | nil => simp
  | cons fields rows ih => rw [List.foldl_cons, ih, appendRow, List.append_assoc, List.flatMap_cons]

theorem rows_written (rows : List (List Octets)) (filled : ∀ fields ∈ rows, fields ≠ []) : Csv.Rows rfc4180 rows (rows.flatMap row) := by
  induction rows with
  | nil => exact .nil
  | cons fields rows ih =>
    have following := ih fun other inside => filled other (List.mem_cons_of_mem _ inside)
    cases fields with
    | nil => exact absurd rfl (filled [] List.mem_cons_self)
    | cons field fields =>
      rw [List.flatMap_cons]
      exact .cons field (escapeCsvString field) fields (fields.map escapeCsvString) rows (rows.flatMap row) (escaped_stands field)
        (escaped_fields fields) following

theorem csv_round_trip (columns : Nat) (positive : 1 ≤ columns) (rows : List (Vector Octets columns)) :
    Csv.read rfc4180 ((rows.map Vector.toList).foldl appendRow []) = some (rows.map Vector.toList) := by
  rw [append_rows, List.nil_append]
  refine Csv.read_rows rfc4180 _ _ (rows_written _ ?_)
  intro fields inside
  obtain ⟨array, -, rfl⟩ := List.mem_map.mp inside
  refine List.ne_nil_of_length_pos ?_
  rw [Vector.length_toList]
  exact positive

theorem csv_round_trip_quoted :
    Csv.read rfc4180 (([#v[[0x61, 0x22, 0x2C, 0x0A, 0x0D], []]].map Vector.toList).foldl appendRow []) =
      some ([#v[[0x61, 0x22, 0x2C, 0x0A, 0x0D], []]].map Vector.toList) :=
  csv_round_trip 2 (by decide) [#v[[0x61, 0x22, 0x2C, 0x0A, 0x0D], []]]

end EncosDriver.LogWriter
