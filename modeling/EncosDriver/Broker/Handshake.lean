import Mathlib.Data.List.Range
import Mathlib.Data.Vector.Defs

set_option autoImplicit false

namespace EncosDriver.Broker

def kStatusOk : UInt8 := 0
def kStatusError : UInt8 := 1
def kEperm : Int32 := 1
def kEtimedout : Int32 := 110
def kMsgEscalateRestarting : String := "ESCALATE_RESTARTING"

def kHandshakeSize : Int := 1 + 3 + 4 + 4 + 32 + 192

structure Handshake where
  status : UInt8
  errorNumber : Int32
  escalationPid : Int32
  nonce : Vector UInt8 32
  message : Vector UInt8 192

inductive BrokerPeerPhase where
  | direct
  | escalated
deriving DecidableEq, Repr

structure PeerCredentials where
  pid : Int
  uid : Nat
deriving DecidableEq, Repr

section Ancillary

variable (word : Nat)

def cmsgAlign (length : Nat) : Nat := (length + word - 1) / word * word

def cmsgHeader : Nat := word + 4 + 4

def cmsgSpace (length : Nat) : Nat := cmsgAlign word length + cmsgAlign word (cmsgHeader word)

-- What the kernel installs into `char ctrl[CMSG_SPACE(sizeof(int))]` at most.
def descriptorCapacity : Nat := (cmsgSpace word 4 - cmsgHeader word) / 4

end Ancillary

-- The descriptors of the process that belong to the call. A number stands for
-- one open file, not for its slot.
structure Descriptors where
  next : Nat
  opened : List Nat
  closed : List Nat
deriving DecidableEq, Repr

namespace Descriptors

def openMany (table : Descriptors) (count : Nat) : Descriptors :=
  ⟨table.next + count, table.opened ++ List.range' table.next count, table.closed⟩

def close (table : Descriptors) (fd : Nat) : Descriptors := { table with closed := table.closed ++ [fd] }

def closeAny (table : Descriptors) : Option Nat → Descriptors
  | none => table
  | some fd => table.close fd

end Descriptors

-- What a peer does on its connection, and what the system calls on it answer.
-- `executable` is the identity of the peer's program when it is asked for.
structure Connection where
  credentials : Option PeerCredentials
  timeoutSet : Bool
  bytes : Int
  truncated : Bool
  handshake : Handshake
  attached : Nat
  executable : Option (Nat × Nat)

inductive Arrival where
  | nobody
  | tooLate
  | connected (connection : Connection)

structure Pass where
  arrival : Arrival
  brokerExited : Bool

structure Request where
  word : Nat
  nonce : Vector UInt8 32
  brokerPid : Int
  realUid : Nat
  executable : Nat × Nat

structure ReceivedBrokerHandshake where
  handshake : Handshake
  peer : PeerCredentials
  executable : Option (Nat × Nat)
  fd : Option Nat

def isAuthorizedBrokerPeer (peer : PeerCredentials) (executable : Option (Nat × Nat)) (phase : BrokerPeerPhase)
    (request : Request) : Bool :=
  if peer.pid ≤ 0 then false
  else
    match phase with
    | .direct => decide (peer.pid = request.brokerPid ∧ peer.uid = request.realUid)
    | .escalated =>
      if peer.uid ≠ request.realUid ∧ peer.uid ≠ 0 then false else decide (executable = some request.executable)

def installed (word : Nat) (connection : Connection) : Nat :=
  if connection.bytes > 0 then min connection.attached (descriptorCapacity word) else 0

def controlTruncated (word : Nat) (connection : Connection) : Bool :=
  decide (connection.bytes > 0 ∧ connection.attached > descriptorCapacity word)

def receiveConnectedBrokerHandshake (word : Nat) (table : Descriptors) (connFd : Nat) (connection : Connection) :
    Option ReceivedBrokerHandshake × Descriptors :=
  match connection.credentials with
  | none => (none, table.close connFd)
  | some peer =>
    if connection.timeoutSet = false then (none, table.close connFd)
    else
      let receivedFd := if installed word connection = 0 then none else some table.next
      let table := (table.openMany (installed word connection)).close connFd
      if connection.bytes ≠ kHandshakeSize ∨ connection.truncated = true ∨ controlTruncated word connection = true then
        (none, table.closeAny receivedFd)
      else (some ⟨connection.handshake, peer, connection.executable, receivedFd⟩, table)

def receiveBrokerHandshake (word : Nat) (table : Descriptors) : Arrival → Option ReceivedBrokerHandshake × Descriptors
  | .nobody => (none, table)
  | .tooLate => (none, (table.openMany 1).close table.next)
  | .connected connection => receiveConnectedBrokerHandshake word (table.openMany 1) table.next connection

structure Client where
  table : Descriptors
  rawFd : Option Nat
  handshakeOk : Bool
  escalationObserved : Bool
  peerPhase : BrokerPeerPhase
  escalationPid : Int32
  escalationExitWindowStarted : Bool
  lastHandshake : Handshake
  finished : Bool

def listenFd : Nat := 0

def padded (text : String) : Vector UInt8 192 :=
  Vector.ofFn fun index => (text.toList[index.val]?.map fun letter => UInt8.ofNat letter.toNat).getD 0

def start (request : Request) : Client :=
  { table := ⟨1, [listenFd], []⟩, rawFd := none, handshakeOk := false, escalationObserved := false, peerPhase := .direct,
    escalationPid := -1, escalationExitWindowStarted := false, finished := false,
    lastHandshake := ⟨kStatusError, kEtimedout, 0, request.nonce, padded "timeout waiting for fd broker handshake"⟩ }

def isEscalationRestartingMessage (message : Vector UInt8 192) : Bool :=
  decide (kMsgEscalateRestarting.toList.map (fun letter => UInt8.ofNat letter.toNat) <+: message.toList)

def observeEscalationExit (client : Client) (brokerExited : Bool) : Client :=
  if client.peerPhase ≠ .escalated ∨ client.escalationExitWindowStarted = true ∨ brokerExited = false then client
  else { client with escalationExitWindowStarted := true }

def answer (request : Request) (client : Client) (received : ReceivedBrokerHandshake) (brokerExited : Bool) : Client :=
  let handshake := received.handshake
  let dropped := { client with lastHandshake := handshake, table := client.table.closeAny received.fd }
  if handshake.nonce ≠ request.nonce then dropped
  else if isAuthorizedBrokerPeer received.peer received.executable client.peerPhase request = false then
    observeEscalationExit dropped brokerExited
  else if received.fd.isSome ∧ handshake.status = kStatusOk then
    { client with lastHandshake := handshake, rawFd := received.fd, handshakeOk := true, finished := true }
  else if client.peerPhase = .direct ∧ handshake.status = kStatusError ∧ handshake.errorNumber = kEperm ∧
      isEscalationRestartingMessage handshake.message = true then
    if handshake.escalationPid ≤ 0 then { dropped with escalationObserved := true, finished := true }
    else
      observeEscalationExit
        { dropped with escalationObserved := true, escalationPid := handshake.escalationPid, peerPhase := .escalated }
        brokerExited
  else if handshake.status = kStatusError ∧ handshake.message[0] ≠ 0 then { dropped with finished := true }
  else observeEscalationExit dropped brokerExited

def pass (request : Request) (client : Client) (turn : Pass) : Client :=
  let received := receiveBrokerHandshake request.word client.table turn.arrival
  match received.1 with
  | none => observeEscalationExit { client with table := received.2 } turn.brokerExited
  | some handshake => answer request { client with table := received.2 } handshake turn.brokerExited

def loop (request : Request) (client : Client) (turn : Pass) : Client :=
  if client.finished then client else pass request client turn

def run (request : Request) (passes : List Pass) : Client := passes.foldl (loop request) (start request)

def requestFd (request : Request) (passes : List Pass) : Option Nat × Descriptors :=
  let client := run request passes
  (if client.handshakeOk then client.rawFd else none, client.table.close listenFd)

end EncosDriver.Broker
