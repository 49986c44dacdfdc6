import EncosDriver.Lib.Table
import EncosDriver.Message.Types
import EncosDriver.Lib.System

set_option autoImplicit false

namespace EncosDriver.Ethercat

open Lib Message

-- A message in the order of the submissions, with the synchronized batch it is
-- part of, if any; `origin` and `batch` are a record that no section reads.
structure Submission where
  message : MotorMessage
  origin : Nat
  batch : Option Nat
deriving DecidableEq, Repr

structure Slot where
  data : MotorPackMsg
  origins : List Submission
deriving DecidableEq, Repr

def emptySlot : Slot := ⟨⟨0, 0, 0, payload []⟩, []⟩

def kSystemCommandId : UInt32 := 0x7FF

structure PacketTraits where
  busCount : Nat
  motorsPerBus : Nat
  hasMotorNum : Bool
  size : Nat
deriving DecidableEq, Repr

inductive SlaveFormat where
  | none
  | classicCan2Bus
  | classicCan8Bus
  | canFd8Bus
  | canFd8Bus10Slots
  | canFd3Bus
  | glove
deriving DecidableEq, Repr

def SlaveFormat.traits : SlaveFormat → Option PacketTraits
  | .none => Option.none
  | .classicCan2Bus => some ⟨2, 3, true, 86⟩
  | .classicCan8Bus => some ⟨8, 3, true, 340⟩
  | .canFd8Bus => some ⟨8, 8, false, 896⟩
  | .canFd8Bus10Slots => some ⟨8, 10, false, 1120⟩
  | .canFd3Bus => some ⟨3, 8, false, 336⟩
  | .glove => some ⟨5, 10, false, 700⟩

def kEthercatMaxMessageSize : Nat := 1120

structure SlaveConfig where
  format : SlaveFormat
  busCount : Nat
  motorsPerBus : Nat
  messageSize : Nat
deriving DecidableEq, Repr

def classifyOutputPdoSize (outputPdoSize : Nat) : SlaveConfig :=
  if outputPdoSize = 86 then ⟨.classicCan2Bus, 2, 3, 86⟩
  else if outputPdoSize = 340 then ⟨.classicCan8Bus, 8, 3, 340⟩
  else if outputPdoSize = 896 then ⟨.canFd8Bus, 8, 8, 896⟩
  else if outputPdoSize = 1120 then ⟨.canFd8Bus10Slots, 8, 10, 1120⟩
  else if outputPdoSize = 336 then ⟨.canFd3Bus, 3, 8, 336⟩
  else if outputPdoSize = 700 then ⟨.glove, 5, 10, 700⟩
  else ⟨.none, 0, 0, outputPdoSize⟩

structure Packet where
  motorNum : UInt8
  motor : List Slot
deriving DecidableEq, Repr

def Packet.slotWhere (packet : Packet) (start count : Nat) (wanted : Slot → Bool) : Option Nat :=
  (((packet.motor.drop start).take count).findIdx? wanted).map (start + ·)

def replaceable (id : UInt32) (slot : Slot) : Bool := slot.data.len ≠ 0 && slot.data.id = id && slot.data.data.get 0 >>> 5 ≤ 0x03

def overwriteSlot (submission : Submission) (slot : Slot) : Slot :=
  { data :=
      { slot.data with
        frameFlags := sanitizeCanFrameFlags submission.message.data.frameFlags
        len := submission.message.data.len
        data := submission.message.data.data }
    origins := submission :: slot.origins }

def fillSlot (submission : Submission) (slot : Slot) : Slot :=
  { data := { submission.message.data with frameFlags := sanitizeCanFrameFlags submission.message.data.frameFlags }
    origins := submission :: slot.origins }

def insertMessageIntoPacket (traits : PacketTraits) (packet : Packet) (busIdx : Nat) (submission : Submission) : Option Packet :=
  if busIdx ≥ traits.busCount then none
  else
    match
      if submission.message.data.id ≠ kSystemCommandId then
        packet.slotWhere (busIdx * traits.motorsPerBus) traits.motorsPerBus (replaceable submission.message.data.id)
      else none with
    | some slot => some { packet with motor := packet.motor.modify slot (overwriteSlot submission) }
    | none =>
      match packet.slotWhere (busIdx * traits.motorsPerBus) traits.motorsPerBus fun slot => slot.data.len = 0 with
      | some slot =>
        some
          { motorNum := if traits.hasMotorNum then packet.motorNum + 1 else packet.motorNum
            motor := packet.motor.modify slot (fillSlot submission) }
      | none => none

structure OutputBuffer where
  active : Bool
  payloadSize : Nat
  packet : Packet
deriving DecidableEq, Repr

def inactiveBuffer : OutputBuffer := ⟨false, 0, ⟨0, []⟩⟩

def resetBuffer (traits : PacketTraits) : OutputBuffer :=
  ⟨true, traits.size, ⟨0, List.replicate (traits.busCount * traits.motorsPerBus) emptySlot⟩⟩

abbrev OutputFrame := List OutputBuffer

def tryInsertMessageIntoFrame (traits : PacketTraits) (frame : OutputFrame) (slave busIdx : Nat) (submission : Submission)
    (messageSize : Nat) : OutputFrame × Bool :=
  match frame[slave]? with
  | none => (frame, false)
  | some buffer =>
    if messageSize ≠ traits.size ∨ messageSize > kEthercatMaxMessageSize then (frame, false)
    else
      let ready := if !buffer.active || buffer.payloadSize ≠ messageSize then resetBuffer traits else buffer
      match insertMessageIntoPacket traits ready.packet busIdx submission with
      | none => (frame.set slave ready, false)
      | some packet => (frame.set slave { ready with packet := packet }, true)

def slaveIdxOf (encoded : Int32) : UInt16 := ((encoded >>> 16) + 1).toUInt32.toUInt16

def busIdxOf (encoded : Int32) : UInt16 := (encoded &&& 0xFFFF).toUInt32.toUInt16

def encodeBus (slave bus : Nat) : Int32 := ((UInt32.ofNat slave <<< 16) ||| (UInt32.ofNat bus &&& 0xFFFF)).toInt32

structure Target where
  slave : Nat
  bus : Nat
  config : SlaveConfig
deriving DecidableEq, Repr

def targetOf (configs : List SlaveConfig) (slaveCount : Nat) (encoded : Int32) : Option Target :=
  if slaveIdxOf encoded = 0 ∨ (slaveIdxOf encoded).toNat > slaveCount then none
  else
    match configs[(slaveIdxOf encoded).toNat - 1]? with
    | none => none
    | some config =>
      if config.busCount = 0 ∨ (busIdxOf encoded).toNat ≥ config.busCount ∨ config.motorsPerBus = 0 then none
      else some ⟨(slaveIdxOf encoded).toNat - 1, (busIdxOf encoded).toNat, config⟩

def tryInsert (target : Target) (submission : Submission) (frame : OutputFrame) : OutputFrame × Bool :=
  match target.config.format.traits with
  | none => (frame, false)
  | some traits => tryInsertMessageIntoFrame traits frame target.slave target.bus submission target.config.messageSize

structure QueuedFrame where
  frame : OutputFrame
  busGenerations : Table Int32 Nat

def insertIntoQueue (target : Target) (generation : Nat) (submission : Submission) : List QueuedFrame → List QueuedFrame × Bool
  | [] => ([], false)
  | queued :: rest =>
    if (queued.busGenerations.find submission.message.busIdx).any fun found => found ≠ generation then
      let following := insertIntoQueue target generation submission rest
      (queued :: following.1, following.2)
    else
      let inserted := tryInsert target submission queued.frame
      if inserted.2 then
        ({ frame := inserted.1, busGenerations := queued.busGenerations.emplace submission.message.busIdx generation } :: rest, true)
      else
        let following := insertIntoQueue target generation submission rest
        ({ queued with frame := inserted.1 } :: following.1, following.2)

def generationOf (busGenerations : Table Int32 Nat) (encoded : Int32) : Nat := (busGenerations.find encoded).getD 0

def packMessage (configs : List SlaveConfig) (slaveCount : Nat) (busGenerations : Table Int32 Nat) (sendQueue : List QueuedFrame)
    (submission : Submission) : List QueuedFrame :=
  match targetOf configs slaveCount submission.message.busIdx with
  | none => sendQueue
  | some target =>
    let generation := generationOf busGenerations submission.message.busIdx
    let walked := insertIntoQueue target generation submission sendQueue
    if walked.2 then walked.1
    else
      let inserted := tryInsert target submission (List.replicate slaveCount inactiveBuffer)
      if inserted.2 then
        walked.1 ++ [{ frame := inserted.1, busGenerations := Table.emplace ∅ submission.message.busIdx generation }]
      else walked.1

def packMessagesIntoQueue (configs : List SlaveConfig) (slaveCount : Nat) (busGenerations : Table Int32 Nat)
    (sendQueue : List QueuedFrame) (messages : List Submission) : List QueuedFrame :=
  if slaveCount = 0 then sendQueue else messages.foldl (packMessage configs slaveCount busGenerations) sendQueue

def packMessages (configs : List SlaveConfig) (slaveCount : Nat) (messages : List Submission) : List OutputFrame :=
  (packMessagesIntoQueue configs slaveCount ∅ [] messages).map fun queued => queued.frame

def collectPackableBuses (configs : List SlaveConfig) (slaveCount : Nat) (messages : List Submission) : List Int32 :=
  ((messages.filter fun submission => (targetOf configs slaveCount submission.message.busIdx).isSome).map
    fun submission => submission.message.busIdx).dedup

def forwardMessages (motors : List Slot) (slave bus : Nat) : MotorMessages :=
  (motors.filter fun slot => slot.data.len ≠ 0).map fun slot =>
    ⟨encodeBus slave bus, { slot.data with frameFlags := sanitizeCanFrameFlags slot.data.frameFlags }⟩

def decodePacketInputs (traits : PacketTraits) (input : Packet) (busCount slave : Nat) : MotorMessages :=
  (List.range (min busCount traits.busCount)).flatMap fun bus =>
    forwardMessages ((input.motor.drop (bus * traits.motorsPerBus)).take traits.motorsPerBus) slave bus

def decodeSlave (configs : List SlaveConfig) (inputs : List (Option Packet)) (slave : Nat) : MotorMessages :=
  match configs[slave]?, inputs[slave]? with
  | some config, some (some input) =>
    if config.busCount = 0 then []
    else
      match config.format.traits with
      | none => []
      | some traits => decodePacketInputs traits input config.busCount slave
  | _, _ => []

def decodeInputs (configs : List SlaveConfig) (inputs : List (Option Packet)) (slaveCount : Nat) : MotorMessages :=
  (List.range slaveCount).flatMap (decodeSlave configs inputs)

def decodeFrame (configs : List SlaveConfig) (slaveCount : Nat) (frame : OutputFrame) : MotorMessages :=
  decodeInputs configs (frame.map fun buffer => if buffer.active then some buffer.packet else none) slaveCount

structure PendingBatch where
  messages : List Submission
  synchronized : Bool

def kSendQueueHighLoadThreshold : Nat := 3

-- The members `submitted`, `synchronizedBatches`, `handed` and `discarded` are
-- histories: nothing in the code reads them.
structure Handle where
  pendingBatches : List PendingBatch := []
  sendFrames : List QueuedFrame := []
  busGenerations : Table Int32 Nat := ∅
  queuedFrameCount : Nat := 0
  submitted : List Submission := []
  synchronizedBatches : Nat := 0
  handed : List QueuedFrame := []
  discarded : List QueuedFrame := []

namespace Handle

def number (handle : Handle) (messages : MotorMessages) (batch : Option Nat) : List Submission :=
  messages.zipIdx.map fun entry => ⟨entry.1, handle.submitted.length + entry.2, batch⟩

def appendPendingMessagesLocked (handle : Handle) (messages : List Submission) (synchronized : Bool) : Handle :=
  match synchronized, handle.pendingBatches.getLast? with
  | false, some ⟨pending, false⟩ =>
    { handle with pendingBatches := handle.pendingBatches.dropLast ++ [⟨pending ++ messages, false⟩] }
  | _, _ => { handle with pendingBatches := handle.pendingBatches ++ [⟨messages, synchronized⟩] }

def queueMessage (handle : Handle) (message : MotorMessage) : Handle :=
  let opened : Handle :=
    match handle.pendingBatches.getLast? with
    | some ⟨_, false⟩ => handle
    | _ => { handle with pendingBatches := handle.pendingBatches ++ [⟨[], false⟩] }
  let submissions := handle.number [message] none
  match opened.pendingBatches.getLast? with
  | none => opened
  | some last =>
    { opened with
      pendingBatches := opened.pendingBatches.dropLast ++ [{ last with messages := last.messages ++ submissions }]
      submitted := opened.submitted ++ submissions }

def queueMessages (handle : Handle) (messages : MotorMessages) : Handle :=
  if messages.isEmpty then handle
  else
    let submissions := handle.number messages none
    { handle.appendPendingMessagesLocked submissions false with submitted := handle.submitted ++ submissions }

def queueSynchronizedMessages (handle : Handle) (messages : MotorMessages) : Handle :=
  if messages.isEmpty then handle
  else
    let submissions := handle.number messages (some handle.synchronizedBatches)
    { handle.appendPendingMessagesLocked submissions true with
      submitted := handle.submitted ++ submissions
      synchronizedBatches := handle.synchronizedBatches + 1 }

def advanceGenerations (busGenerations : Table Int32 Nat) (buses : List Int32) : Table Int32 Nat :=
  buses.foldl (fun generations bus => generations.put bus (generationOf generations bus + 1)) busGenerations

def packBatchIntoSegmentsLocked (configs : List SlaveConfig) (slaveCount : Nat) (handle : Handle) (batch : PendingBatch) : Handle :=
  if batch.messages.isEmpty then handle
  else
    let packableBuses := collectPackableBuses configs slaveCount batch.messages
    let before := if batch.synchronized then advanceGenerations handle.busGenerations packableBuses else handle.busGenerations
    let packed := packMessagesIntoQueue configs slaveCount before handle.sendFrames batch.messages
    { handle with
      sendFrames := packed
      queuedFrameCount := handle.queuedFrameCount + (packed.length - handle.sendFrames.length)
      busGenerations := if batch.synchronized then advanceGenerations before packableBuses else before }

def trim (handle : Handle) : Handle :=
  if handle.queuedFrameCount > kSendQueueHighLoadThreshold then
    { handle with
      sendFrames := handle.sendFrames.getLast?.toList
      queuedFrameCount := 1
      discarded := handle.discarded ++ handle.sendFrames.dropLast }
  else handle

def flushPendingMessagesLocked (configs : List SlaveConfig) (slaveCount : Nat) (handle : Handle) : Handle :=
  if handle.pendingBatches.isEmpty then handle
  else
    trim (handle.pendingBatches.foldl (packBatchIntoSegmentsLocked configs slaveCount) { handle with pendingBatches := [] })

def prepareNextFrame (configs : List SlaveConfig) (slaveCount : Nat) (handle : Handle) : Handle :=
  let flushed := flushPendingMessagesLocked configs slaveCount handle
  match flushed.sendFrames with
  | [] => flushed
  | front :: rest =>
    { flushed with
      sendFrames := rest
      queuedFrameCount := flushed.queuedFrameCount - 1
      handed := flushed.handed ++ [front] }

end Handle

inductive Action where
  | queueMessage (message : MotorMessage)
  | queueMessages (messages : MotorMessages)
  | queueSynchronizedMessages (messages : MotorMessages)
  | flush
  | prepareNextFrame
deriving DecidableEq, Repr

def step (configs : List SlaveConfig) (slaveCount : Nat) (handle : Handle) : Action → Option Handle
  | .queueMessage message => some (handle.queueMessage message)
  | .queueMessages messages => some (handle.queueMessages messages)
  | .queueSynchronizedMessages messages => some (handle.queueSynchronizedMessages messages)
  | .flush => some (handle.flushPendingMessagesLocked configs slaveCount)
  | .prepareNextFrame => some (handle.prepareNextFrame configs slaveCount)

def system (configs : List SlaveConfig) (slaveCount : Nat) : System Handle Action where
  init := fun handle => handle = {}
  step := step configs slaveCount

structure Topology (configs : List SlaveConfig) (slaveCount : Nat) : Prop where
  classified : ∀ config ∈ configs, ∃ size, config = classifyOutputPdoSize size
  configured : slaveCount ≤ configs.length

end EncosDriver.Ethercat
