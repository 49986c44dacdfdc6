import EncosDriver.Lib.HazardCells
import Mathlib.Logic.Function.Basic
import Mathlib.Algebra.Group.Nat.Defs

set_option autoImplicit false

namespace EncosDriver.Port

open Lib

def word32 : Nat := 2 ^ 32

@[irreducible] def word64 : Nat := 2 ^ 64

theorem word64_value : word64 = 2 ^ 64 := by
  unfold word64
  rfl

def kPortNoHazard : Nat := HazardCells.noHazard

inductive PrepareStage where
  | odd
  | low
  | high
  | cell
  | even
deriving DecidableEq, Repr

structure PortSequenceMetadata where
  version : Nat := 0
  sequenceLow : Nat := 0
  sequenceHigh : Nat := 0
  writerVersion : Nat := 0
deriving DecidableEq, Repr

structure PortSlotMetadata extends PortSequenceMetadata where
  cell : Nat := 0
deriving DecidableEq, Repr

namespace PortSequenceMetadata

def nextVersion (metadata : PortSequenceMetadata) : Nat := (metadata.writerVersion + 2) % word32

def prepare (metadata : PortSequenceMetadata) (sequence : Nat) : PrepareStage → PortSequenceMetadata
  | .odd => { metadata with version := (metadata.nextVersion + (word32 - 1)) % word32 }
  | .low => { metadata with sequenceLow := sequence % word32 }
  | .high => { metadata with sequenceHigh := sequence / word32 }
  | .cell => metadata
  | .even => { metadata with version := metadata.nextVersion, writerVersion := metadata.nextVersion }

end PortSequenceMetadata

def PortSlotMetadata.prepare (metadata : PortSlotMetadata) (sequence cell : Nat) (stage : PrepareStage) :
    PortSlotMetadata :=
  match stage with
  | .cell => { metadata with cell := cell }
  | _ => { metadata with toPortSequenceMetadata := metadata.toPortSequenceMetadata.prepare sequence stage }

def readSequence (before low high after : Nat) : Option Nat :=
  if before % 2 ≠ 0 ∨ before ≠ after then none else some (low + high * word32)

abbrev Message (size : Nat) (Word : Type) := Fin size → Word

structure Slot (size : Nat) (Word : Type) where
  payloads : Nat → Message size Word
  metadata : Nat → PortSlotMetadata
  readerHazard : Nat
  publishedActive : Nat
  producerActive : Nat

structure PortHeadPublication where
  metadata : Nat → PortSequenceMetadata
  readerHazard : Nat
  publishedActive : Nat
  producerActive : Nat

inductive ProducerPc (size : Nat) (Word : Type) where
  | idle
  | loadHazard (message : Message size Word)
  | copyPayload (message : Message size Word) (cell copied : Nat)
  | prepare (message : Message size Word) (cell : Nat) (stage : PrepareStage)
  | storeActive (cell : Nat)
  | loadHeadHazard
  | prepareHead (cell : Nat) (stage : PrepareStage)
  | storeHeadActive (cell : Nat)

inductive ConsumerCall where
  | pop
  | empty
  | clear
deriving DecidableEq, Repr

inductive TargetResult (Word : Type) where
  | missing (retry : Bool) (resync : Nat)
  | found (words : List Word)
deriving DecidableEq, Repr

inductive ConsumerPc (Word : Type) where
  | idle
  | loadHeadActive (call : ConsumerCall)
  | storeHeadHazard (call : ConsumerCall) (cell : Nat)
  | recheckHead (call : ConsumerCall) (cell : Nat)
  | clearHeadHazard (call : ConsumerCall)
  | readHeadVersion (call : ConsumerCall) (cell : Nat)
  | readHeadLow (call : ConsumerCall) (cell before : Nat)
  | readHeadHigh (call : ConsumerCall) (cell before low : Nat)
  | readHeadVersionAgain (call : ConsumerCall) (cell before low high : Nat)
  | releaseHead (call : ConsumerCall) (cell : Nat) (snapshot : Option Nat)
  | loadActive
  | storeHazard (cell : Nat)
  | recheck (cell : Nat)
  | readVersion (cell : Nat)
  | readLow (cell before : Nat)
  | readHigh (cell before low : Nat)
  | readCell (cell before low high : Nat)
  | readVersionAgain (cell before low high stored : Nat)
  | copyMessage (cell : Nat) (words : List Word)
  | clearHazard (cell : Nat) (result : TargetResult Word)
  | abandonHazard

inductive Returned (Word : Type) where
  | popped (sequence : Nat) (words : List Word)
  | nothing
  | head (sequence : Nat)
  | isEmpty (answer : Bool)
  | cleared
deriving DecidableEq, Repr

-- The members `pushes` and `returned` are histories: nothing in the code reads
-- them.
structure PortState (size : Nat) (Word : Type) where
  slots : Nat → Slot size Word
  head : PortHeadPublication
  producerSequence : Nat
  consumerSequence : Nat
  producer : ProducerPc size Word
  consumer : ConsumerPc Word
  pushes : List (Message size Word)
  returned : List (Returned Word)

variable {size : Nat} {Word : Type}

def slotIndex (len sequence : Nat) : Nat := (sequence + (word64 - 1)) % word64 % len

namespace PortState

def setSlot (state : PortState size Word) (index : Nat) (slot : Slot size Word) : PortState size Word :=
  { state with slots := Function.update state.slots index slot }

abbrev nextSequence (state : PortState size Word) : Nat := (state.producerSequence + 1) % word64

abbrev producerIndex (len : Nat) (state : PortState size Word) : Nat := slotIndex len state.nextSequence

abbrev consumerIndex (len : Nat) (state : PortState size Word) : Nat := slotIndex len state.consumerSequence

end PortState

open PortState HazardCells

def nextStage : PrepareStage → Option PrepareStage
  | .odd => some .low
  | .low => some .high
  | .high => some .cell
  | .cell => some .even
  | .even => none

def nextHeadStage : PrepareStage → Option PrepareStage
  | .high => some .even
  | stage => nextStage stage

def Slot.writeWord (slot : Slot size Word) (cell : Nat) (offset : Fin size) (word : Word) : Slot size Word :=
  { slot with payloads := Function.update slot.payloads cell (Function.update (slot.payloads cell) offset word) }

def Slot.writeMetadata (slot : Slot size Word) (cell : Nat) (metadata : PortSlotMetadata) : Slot size Word :=
  { slot with metadata := Function.update slot.metadata cell metadata }

-- Push, one load or store at a time. The final step also performs the plain
-- writes of producer-owned fields that follow it in the source.
def producerStep (len : Nat) (state : PortState size Word) : Option (PortState size Word) :=
  let index := state.producerIndex len
  let slot := state.slots index
  match state.producer with
  | .idle => none
  | .loadHazard message =>
    some { state with producer := .copyPayload message (nextCell slot.producerActive slot.readerHazard) 0 }
  | .copyPayload message cell copied =>
    if inside : copied < size then
      some { state.setSlot index (slot.writeWord cell ⟨copied, inside⟩ (message ⟨copied, inside⟩)) with
        producer := .copyPayload message cell (copied + 1) }
    else some { state with producer := .prepare message cell .odd }
  | .prepare message cell stage =>
    let written := slot.writeMetadata cell ((slot.metadata cell).prepare state.nextSequence cell stage)
    some { state.setSlot index written with
      producer := match nextStage stage with
        | some stage => .prepare message cell stage
        | none => .storeActive cell }
  | .storeActive cell =>
    some { state.setSlot index { slot with publishedActive := cell, producerActive := cell } with
      producer := .loadHeadHazard }
  | .loadHeadHazard =>
    some { state with producer := .prepareHead (nextCell state.head.producerActive state.head.readerHazard) .odd }
  | .prepareHead cell stage =>
    let metadata := (state.head.metadata cell).prepare state.nextSequence stage
    some { state with
      head := { state.head with metadata := Function.update state.head.metadata cell metadata }
      producer := match nextHeadStage stage with
        | some stage => .prepareHead cell stage
        | none => .storeHeadActive cell }
  | .storeHeadActive cell =>
    some { state with
      head := { state.head with publishedActive := cell, producerActive := cell }
      producerSequence := state.nextSequence
      producer := .idle }

def PortState.answer (state : PortState size Word) (value : Returned Word) : PortState size Word :=
  { state with returned := state.returned ++ [value] }

def oldest (len head : Nat) : Nat := if len < head then head - len + 1 else 1

def afterHead (len : Nat) (state : PortState size Word) (call : ConsumerCall) (head : Nat) : PortState size Word :=
  let state := state.answer (.head head)
  match call with
  | .pop =>
    if head < state.consumerSequence then { state.answer .nothing with consumer := .idle }
    else
      { state with
        consumerSequence :=
          if state.consumerSequence < oldest len head then oldest len head else state.consumerSequence
        consumer := .loadActive }
  | .empty => { state.answer (.isEmpty (decide (head < state.consumerSequence))) with consumer := .idle }
  | .clear =>
    { state.answer .cleared with
      consumerSequence := (head + 1) % word64
      consumer := .idle }

def afterTarget (len : Nat) (state : PortState size Word) (result : TargetResult Word) : PortState size Word :=
  match result with
  | .found words =>
    { state.answer (.popped state.consumerSequence words) with
      consumerSequence := (state.consumerSequence + 1) % word64
      consumer := .idle }
  | .missing false _ => { state.answer .nothing with consumer := .idle }
  | .missing true resync =>
    { state with
      consumerSequence :=
        if state.consumerSequence < resync ∧ state.consumerSequence < oldest len resync then oldest len resync
        else state.consumerSequence
      consumer := .loadHeadActive .pop }

def PortState.setHeadHazard (state : PortState size Word) (hazard : Nat) : PortState size Word :=
  { state with head := { state.head with readerHazard := hazard } }

def PortState.setHazard (state : PortState size Word) (index hazard : Nat) : PortState size Word :=
  state.setSlot index { state.slots index with readerHazard := hazard }

def judgeSnapshot (target cell : Nat) (snapshot : Option Nat) (stored : Nat) : Option (TargetResult Word) :=
  match snapshot with
  | none => some (.missing true target)
  | some sequence =>
    if stored ≠ cell then some (.missing true target)
    else if sequence ≠ target then some (.missing (decide (target < sequence)) sequence)
    else none

def consumerStep (len : Nat) (state : PortState size Word) : Option (PortState size Word) :=
  let index := state.consumerIndex len
  let slot := state.slots index
  match state.consumer with
  | .idle => none
  | .loadHeadActive call => some { state with consumer := .storeHeadHazard call state.head.publishedActive }
  | .storeHeadHazard call cell => some { state.setHeadHazard cell with consumer := .recheckHead call cell }
  | .recheckHead call cell =>
    if state.head.publishedActive ≠ cell then some { state with consumer := .clearHeadHazard call }
    else some { state with consumer := .readHeadVersion call cell }
  | .clearHeadHazard call => some { state.setHeadHazard kPortNoHazard with consumer := .loadHeadActive call }
  | .readHeadVersion call cell =>
    some { state with consumer := .readHeadLow call cell (state.head.metadata cell).version }
  | .readHeadLow call cell before =>
    some { state with consumer := .readHeadHigh call cell before (state.head.metadata cell).sequenceLow }
  | .readHeadHigh call cell before low =>
    some { state with
      consumer := .readHeadVersionAgain call cell before low (state.head.metadata cell).sequenceHigh }
  | .readHeadVersionAgain call cell before low high =>
    some { state with
      consumer := .releaseHead call cell (readSequence before low high (state.head.metadata cell).version) }
  | .releaseHead call _ snapshot =>
    match snapshot with
    | none => some { state.setHeadHazard kPortNoHazard with consumer := .loadHeadActive call }
    | some head => some (afterHead len (state.setHeadHazard kPortNoHazard) call head)
  | .loadActive => some { state with consumer := .storeHazard slot.publishedActive }
  | .storeHazard cell => some { state.setHazard index cell with consumer := .recheck cell }
  | .recheck cell =>
    if slot.publishedActive ≠ cell then some { state with consumer := .abandonHazard }
    else some { state with consumer := .readVersion cell }
  | .abandonHazard =>
    some (afterTarget len (state.setHazard index kPortNoHazard) (.missing true state.consumerSequence))
  | .readVersion cell => some { state with consumer := .readLow cell (slot.metadata cell).version }
  | .readLow cell before => some { state with consumer := .readHigh cell before (slot.metadata cell).sequenceLow }
  | .readHigh cell before low =>
    some { state with consumer := .readCell cell before low (slot.metadata cell).sequenceHigh }
  | .readCell cell before low high =>
    some { state with consumer := .readVersionAgain cell before low high (slot.metadata cell).cell }
  | .readVersionAgain cell before low high stored =>
    let snapshot := readSequence before low high (slot.metadata cell).version
    some { state with
      consumer := match judgeSnapshot state.consumerSequence cell snapshot stored with
        | some result => .clearHazard cell result
        | none => .copyMessage cell [] }
  | .copyMessage cell words =>
    if inside : words.length < size then
      some { state with consumer := .copyMessage cell (words ++ [slot.payloads cell ⟨words.length, inside⟩]) }
    else some { state with consumer := .clearHazard cell (.found words) }
  | .clearHazard _ result => some (afterTarget len (state.setHazard index kPortNoHazard) result)

inductive PortAction (size : Nat) (Word : Type) where
  | push (message : Message size Word)
  | producer
  | call (call : ConsumerCall)
  | consumer

def portStep (len : Nat) (state : PortState size Word) : PortAction size Word → Option (PortState size Word)
  | .push message =>
    match state.producer with
    | .idle => some { state with producer := .loadHazard message, pushes := state.pushes ++ [message] }
    | _ => none
  | .producer => producerStep len state
  | .call call =>
    match state.consumer with
    | .idle => some { state with consumer := .loadHeadActive call }
    | _ => none
  | .consumer => consumerStep len state

structure InitialPort (state : PortState size Word) : Prop where
  slots : ∀ index, ∃ payloads, state.slots index = ⟨payloads, fun _ => {}, kPortNoHazard, 0, 0⟩
  head : state.head = ⟨fun _ => {}, kPortNoHazard, 0, 0⟩
  producerSequence : state.producerSequence = 0
  consumerSequence : state.consumerSequence = 1
  producer : state.producer = .idle
  consumer : state.consumer = .idle
  pushes : state.pushes = []
  returned : state.returned = []

def port (len size : Nat) (Word : Type) : System (PortState size Word) (PortAction size Word) :=
  ⟨InitialPort, portStep len⟩

end EncosDriver.Port
