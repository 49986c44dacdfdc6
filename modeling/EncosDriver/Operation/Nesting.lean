import EncosDriver.Operation.Gate
import EncosDriver.Lib.Calls
import EncosDriver.Lib.System

set_option autoImplicit false

namespace EncosDriver.Operation

open Lib

namespace Nesting

structure DeviceOperation where
  gate : Nat
  ownsAdmission : Bool
deriving DecidableEq, Repr

structure GateCell where
  gate : OperationGate := {}
  waitMutex : Option Nat := none
deriving DecidableEq, Repr

-- In `loose` are the gates of entered operations that no DeviceOperation stands
-- for; any thread may leave one. `admissions` and `departures` count the
-- successful calls of TryEnter and the calls of Leave.
structure Shared where
  cells : Nat → GateCell := fun _ => {}
  loose : List Nat := []
  admissions : Nat → Nat := fun _ => 0
  departures : Nat → Nat := fun _ => 0
  terminated : Bool := false

inductive Pc where
  | idle
  | entering (gate : Nat) (loaded : OperationGate)
  | admitted (gate : Nat)
  | notifying (gate : Nat) (push : Option DeviceOperation)
  | locking (gate : Nat)
  | checking (gate : Nat)
  | sleeping (gate : Nat)
deriving DecidableEq, Repr

structure Thread where
  pc : Pc := .idle
  chain : List DeviceOperation := []
deriving DecidableEq, Repr

namespace Shared

def gateOf (shared : Shared) (gate : Nat) : OperationGate := (shared.cells gate).gate

def setGate (shared : Shared) (gate : Nat) (word : OperationGate) : Shared :=
  { shared with cells := fun other => if other = gate then { shared.cells other with gate := word } else shared.cells other }

def setMutex (shared : Shared) (gate : Nat) (owner : Option Nat) : Shared :=
  { shared with
    cells := fun other => if other = gate then { shared.cells other with waitMutex := owner } else shared.cells other }

def enter (shared : Shared) (gate : Nat) : Shared :=
  { shared.setGate gate (shared.gateOf gate).entered with
    admissions := fun other => if other = gate then shared.admissions other + 1 else shared.admissions other }

def leave (shared : Shared) (gate : Nat) : Shared :=
  { shared.setGate gate (shared.gateOf gate).left with
    departures := fun other => if other = gate then shared.departures other + 1 else shared.departures other
    terminated := shared.terminated || decide ((shared.gateOf gate).active = 0) }

end Shared

def isActive (gate : Nat) (chain : List DeviceOperation) : Bool := chain.any (fun active => active.gate = gate)

def afterLeave (word : OperationGate) (gate : Nat) (chain : List DeviceOperation) (push : Option DeviceOperation) : Thread :=
  if word.lastOfRetiring then ⟨.notifying gate push, chain⟩ else ⟨.idle, push.toList ++ chain⟩

inductive Call where
  | tryEnter (gate : Nat)
  | exchange (spurious : Bool)
  | keep
  | construct
  | destroy
  | leave (gate : Nat)
  | notify
  | retire (gate : Nat)
  | waitForDrain (gate : Nat)
  | lock
  | check
  | wake
deriving DecidableEq, Repr

def turn (id : Nat) (shared : Shared) (thread : Thread) : Call → Option (Shared × Thread)
  | .tryEnter gate =>
    match thread.pc with
    | .idle => some (shared, { thread with pc := .entering gate (shared.gateOf gate) })
    | _ => none
  | .exchange spurious =>
    match thread.pc with
    | .entering gate loaded =>
      if loaded.isRetiring || loaded.isFull then some (shared, { thread with pc := .idle })
      else if shared.gateOf gate = loaded ∧ spurious = false then
        some (shared.enter gate, { thread with pc := .admitted gate })
      else some (shared, { thread with pc := .entering gate (shared.gateOf gate) })
    | _ => none
  | .keep =>
    match thread.pc with
    | .admitted gate => some ({ shared with loose := gate :: shared.loose }, { thread with pc := .idle })
    | _ => none
  | .construct =>
    match thread.pc with
    | .admitted gate =>
      if isActive gate thread.chain then
        some (shared.leave gate, afterLeave (shared.gateOf gate) gate thread.chain (some ⟨gate, false⟩))
      else some (shared, ⟨.idle, ⟨gate, true⟩ :: thread.chain⟩)
    | _ => none
  | .destroy =>
    match thread.pc, thread.chain with
    | .idle, active :: previous =>
      if active.ownsAdmission then
        some (shared.leave active.gate, afterLeave (shared.gateOf active.gate) active.gate previous none)
      else some (shared, ⟨.idle, previous⟩)
    | _, _ => none
  | .leave gate =>
    match thread.pc with
    | .idle =>
      if gate ∈ shared.loose then
        some ({ shared.leave gate with loose := shared.loose.erase gate },
          afterLeave (shared.gateOf gate) gate thread.chain none)
      else none
    | _ => none
  | .notify =>
    match thread.pc with
    | .notifying gate push =>
      if (shared.cells gate).waitMutex = none then some (shared, ⟨.idle, push.toList ++ thread.chain⟩) else none
    | _ => none
  | .retire gate =>
    match thread.pc with
    | .idle => some (shared.setGate gate (shared.gateOf gate).retired, thread)
    | _ => none
  | .waitForDrain gate =>
    match thread.pc with
    | .idle => some (shared, { thread with pc := .locking gate })
    | _ => none
  | .lock =>
    match thread.pc with
    | .locking gate =>
      if (shared.cells gate).waitMutex = none then
        some (shared.setMutex gate (some id), { thread with pc := .checking gate })
      else none
    | _ => none
  | .check =>
    match thread.pc with
    | .checking gate =>
      let pc := if (shared.gateOf gate).hasActiveOperations then Pc.sleeping gate else Pc.idle
      some (shared.setMutex gate none, { thread with pc := pc })
    | _ => none
  -- A notified waiter wakes, and so may any other at any time.
  | .wake =>
    match thread.pc with
    | .sleeping gate => some (shared, { thread with pc := .locking gate })
    | _ => none

inductive Action where
  | spawn
  | call (thread : Nat) (call : Call)
deriving DecidableEq, Repr

abbrev GateWorld := World Shared Thread

def step (world : GateWorld) : Action → Option GateWorld
  | .spawn => some (world.start {})
  | .call id call =>
    match world.calls.find id with
    | none => none
    | some thread => (turn id world.shared thread call).map fun after => world.advance id ⟨after.1, after.2, none⟩

def system : System GateWorld Action where
  init := fun world => world = ⟨{}, ∅, 0⟩
  step := step

def standing (gate : Nat) (thread : Thread) : Nat :=
  (if thread.pc = .admitted gate then 1 else 0) + (if isActive gate thread.chain then 1 else 0)

def operations (world : GateWorld) (gate : Nat) : Nat :=
  world.shared.loose.count gate + world.tally (standing gate)

end Nesting

end EncosDriver.Operation
