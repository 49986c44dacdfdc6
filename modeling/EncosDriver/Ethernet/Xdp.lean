import EncosDriver.Ethernet.Packet
import EncosDriver.Lib.System
import EncosDriver.Lib.Table

set_option autoImplicit false

namespace EncosDriver.Ethernet

open Lib Message

namespace Xdp

def kFrameSize : Nat := 2048
def kFrameCount : Nat := 2048
def kRxSize : Nat := 1024
def kTxSize : Nat := 512
def kUmemSize : Nat := kFrameSize * kFrameCount

structure Descriptor where
  addr : Nat
  len : Nat
deriving DecidableEq, Repr

def frameOf (addr : Nat) : Nat := addr &&& (2 ^ 64 - kFrameSize)

structure Peers where
  multi : Bool
  routes : Table Nat Route
  sources : Table (List UInt8) Nat

inductive Call where
  | send (slave : Nat) (messages : MotorMessages)
  | receive

inductive Pc where
  | idle
  | reaping (call : Call)
  | releasing (call : Call) (count : Nat)
  | reserving (slave : Nat) (messages : MotorMessages)
  | writing (address : Nat) (bytes : List UInt8)
  | submitting (descriptor : Descriptor)
  | kicking (sent : Bool)
  | returned (sent : Bool)
  | waking
  | peeking
  | draining (messages : MotorMessages) (count : Nat)
  | refilling (messages : MotorMessages)
  | answered (messages : MotorMessages)

-- The shared memory, the four rings, what the kernel has taken from two of them,
-- and the two lists of the transport. A ring holds what was submitted and not
-- yet taken; of a ring the kernel fills, what was taken and not released still
-- uses up its slots.
structure Transport where
  peers : Peers
  memory : Nat → UInt8
  fill : List Nat
  kernelRx : List Nat
  rx : List Descriptor
  rxUnreleased : Nat
  tx : List Descriptor
  kernelTx : List Nat
  completion : List Nat
  completionUnreleased : Nat
  freeTx : List Nat
  pendingFill : List Nat
  pc : Pc

def frames (first count : Nat) : List Nat := (List.range count).map fun index => (first + index) * kFrameSize

def mapped (peers : Peers) (memory : Nat → UInt8) : Transport :=
  { peers := peers, memory := memory, fill := frames 0 kRxSize, kernelRx := [], rx := [], rxUnreleased := 0, tx := [],
    kernelTx := [], completion := [], completionUnreleased := 0, freeTx := frames kRxSize (kFrameCount - kRxSize),
    pendingFill := [], pc := .idle }

def resting : Pc → Bool
  | .idle | .returned _ | .answered _ => true
  | _ => false

def bytesAt (memory : Nat → UInt8) (address count : Nat) : List UInt8 :=
  (List.range count).map fun index => memory (address + index)

def writeAt (memory : Nat → UInt8) (address : Nat) (bytes : List UInt8) : Nat → UInt8 := fun position =>
  if address ≤ position then bytes[position - address]?.getD (memory position) else memory position

def encode (peers : Peers) (slave : Nat) (messages : MotorMessages) : Option (List UInt8) :=
  match peers.routes.find slave with
  | none => none
  | some route => (encodePayload messages).bind (encodePacket route)

def decodeFrom (peers : Peers) (data : List UInt8) : Option MotorMessages :=
  let source := if data.length ≥ 30 then (data.drop 26).take 4 else [0, 0, 0, 0]
  match peers.sources.find source with
  | none => some []
  | some slave =>
    match peers.routes.find slave with
    | none => none
    | some route =>
      match decodePacket route data with
      | .error _ => some []
      | .ok messages =>
        if peers.multi then
          some (messages.map fun message => { message with busIdx := message.busIdx ||| Int32.ofNat (slave <<< 16) })
        else some messages

def receiveAll (peers : Peers) (memory : Nat → UInt8) :
    List Descriptor → MotorMessages → List Nat → Option MotorMessages × List Nat
  | [], result, pending => (some result, pending)
  | descriptor :: rest, result, pending =>
    if descriptor.addr + descriptor.len > kUmemSize then (none, pending)
    else
      match decodeFrom peers (bytesAt memory descriptor.addr descriptor.len) with
      | none => (none, pending)
      | some messages => receiveAll peers memory rest (result ++ messages) (pending ++ [frameOf descriptor.addr])

-- How many entries a peek sees, whether a reservation finds room, whether the
-- wake-up fails: the rings and the kernel decide. The last four are the steps of
-- the kernel.
inductive Action where
  | begin (call : Call)
  | reap (count : Nat)
  | release
  | reserve (room : Bool)
  | write
  | submit
  | kick (fails : Bool)
  | peek (count : Nat)
  | drain
  | refill (room : Bool)
  | takeFill
  | deliver (index offset : Nat) (bytes : List UInt8)
  | takeTx
  | complete (index : Nat)

def stepSend (transport : Transport) : Action → Option Transport
  | .reserve room =>
    match transport.pc with
    | .reserving slave messages =>
      match encode transport.peers slave messages with
      | none => some { transport with pc := .idle }
      | some bytes =>
        match transport.freeTx.getLast? with
        | none => some { transport with pc := .kicking false }
        | some address =>
          if room = false then some { transport with pc := .kicking false }
          else if transport.tx.length < kTxSize then
            some { transport with freeTx := transport.freeTx.dropLast, pc := .writing address bytes }
          else none
    | _ => none
  | .write =>
    match transport.pc with
    | .writing address bytes =>
      some { transport with
        memory := writeAt transport.memory address bytes
        pc := .submitting ⟨address, bytes.length⟩ }
    | _ => none
  | .submit =>
    match transport.pc with
    | .submitting descriptor => some { transport with tx := transport.tx ++ [descriptor], pc := .kicking true }
    | _ => none
  | .kick fails =>
    match transport.pc with
    | .kicking sent => some { transport with pc := if fails then .idle else .returned sent }
    | .waking => some { transport with pc := if fails then .idle else .peeking }
    | _ => none
  | _ => none

def stepReceive (transport : Transport) : Action → Option Transport
  | .peek count =>
    match transport.pc with
    | .peeking =>
      if count ≤ 64 ∧ count ≤ transport.rx.length then
        let received := receiveAll transport.peers transport.memory (transport.rx.take count) [] transport.pendingFill
        some { transport with
          rx := transport.rx.drop count
          rxUnreleased := transport.rxUnreleased + count
          pendingFill := received.2
          pc := match received.1 with
            | none => .idle
            | some messages => .draining messages count }
      else none
    | _ => none
  | .drain =>
    match transport.pc with
    | .draining messages count =>
      some { transport with rxUnreleased := transport.rxUnreleased - count, pc := .refilling messages }
    | _ => none
  -- Between reserving a slot and submitting it nobody else can see it.
  | .refill room =>
    match transport.pc with
    | .refilling messages =>
      match transport.pendingFill.getLast? with
      | none => some { transport with pc := .answered messages }
      | some address =>
        if room = false then some { transport with pc := .answered messages }
        else if transport.fill.length < kRxSize then
          some { transport with fill := transport.fill ++ [address], pendingFill := transport.pendingFill.dropLast }
        else none
    | _ => none
  | _ => none

def stepCall (transport : Transport) : Action → Option Transport
  | .begin call => if resting transport.pc then some { transport with pc := .reaping call } else none
  | .reap count =>
    match transport.pc with
    | .reaping call =>
      if count ≤ kTxSize ∧ count ≤ transport.completion.length then
        some { transport with
          freeTx := transport.freeTx ++ transport.completion.take count
          completion := transport.completion.drop count
          completionUnreleased := transport.completionUnreleased + count
          pc := .releasing call count }
      else none
    | _ => none
  | .release =>
    match transport.pc with
    | .releasing call count =>
      some { transport with
        completionUnreleased := transport.completionUnreleased - count
        pc := match call with
          | .send slave messages => .reserving slave messages
          | .receive => .waking }
    | _ => none
  | _ => none

def stepKernel (transport : Transport) : Action → Option Transport
  | .takeFill =>
    match transport.fill with
    | [] => none
    | address :: rest => some { transport with fill := rest, kernelRx := transport.kernelRx ++ [address] }
  | .deliver index offset bytes =>
    match transport.kernelRx[index]? with
    | none => none
    | some address =>
      if offset < kFrameSize ∧ offset + bytes.length ≤ kFrameSize ∧
          transport.rx.length + transport.rxUnreleased < kRxSize then
        some { transport with
          memory := writeAt transport.memory (address + offset) bytes
          kernelRx := transport.kernelRx.eraseIdx index
          rx := transport.rx ++ [⟨address + offset, bytes.length⟩] }
      else none
  | .takeTx =>
    match transport.tx with
    | [] => none
    | descriptor :: rest => some { transport with tx := rest, kernelTx := transport.kernelTx ++ [descriptor.addr] }
  | .complete index =>
    match transport.kernelTx[index]? with
    | none => none
    | some address =>
      if transport.completion.length + transport.completionUnreleased < kTxSize then
        some { transport with
          kernelTx := transport.kernelTx.eraseIdx index
          completion := transport.completion ++ [address] }
      else none
  | _ => none

def step (transport : Transport) (action : Action) : Option Transport :=
  match action with
  | .begin _ | .reap _ | .release => stepCall transport action
  | .reserve _ | .write | .submit | .kick _ => stepSend transport action
  | .peek _ | .drain | .refill _ => stepReceive transport action
  | .takeFill | .deliver _ _ _ | .takeTx | .complete _ => stepKernel transport action

def system : System Transport Action where
  init := fun transport => ∃ peers memory, transport = mapped peers memory ∧
    ∀ source slave, peers.sources.find source = some slave → (peers.routes.find slave).isSome = true
  step := step

inductive Owner where
  | receiveSide
  | pendingRefill
  | freeList
  | sending
  | inFlight
deriving DecidableEq, Repr

def Owner.receives : Owner → Bool
  | .receiveSide | .pendingRefill => true
  | _ => false

def heldBySend : Pc → List Nat
  | .writing address _ => [address]
  | .submitting descriptor => [descriptor.addr]
  | _ => []

def owns (transport : Transport) : Owner → List Nat
  | .receiveSide => transport.fill ++ transport.kernelRx ++ transport.rx.map fun descriptor => frameOf descriptor.addr
  | .pendingRefill => transport.pendingFill
  | .freeList => transport.freeTx
  | .sending => heldBySend transport.pc
  | .inFlight => transport.tx.map Descriptor.addr ++ transport.kernelTx ++ transport.completion

end Xdp

end EncosDriver.Ethernet
