import EncosDriver.Lib.Calls
import EncosDriver.Lib.System
import EncosDriver.Message.Types

set_option autoImplicit false

namespace EncosDriver.Motor

open Lib Message

structure Waiter where
  locked : Option Nat := none
  completed : Bool := false
  cancelled : Bool := false
deriving DecidableEq, Repr

inductive Outcome where
  | returned (completed : Bool)
  | threw
deriving DecidableEq, Repr

inductive SendPc where
  | entering
  | registered
  | sending
  | waiting
  | leaving (outcome : Outcome)
  | erasing (outcome : Outcome)
  | done (outcome : Outcome)
deriving DecidableEq, Repr

inductive ReceivePc where
  | entering
  | visiting (remaining : List Nat)
  | checking (waiter : Nat) (remaining : List Nat)
  | writing (waiter : Nat) (remaining : List Nat)
  | done
deriving DecidableEq, Repr

inductive CancelPc where
  | entering
  | cancelling (remaining : List Nat)
  | draining
  | done
deriving DecidableEq, Repr

inductive Call where
  | sendAndWait (message : MotorPackMsg) (pc : SendPc)
  | onMessage (message : MotorPackMsg) (pc : ReceivePc)
  | cancelWaiters (drains : Bool) (pc : CancelPc)
deriving DecidableEq, Repr

inductive Answer where
  | returns
  | rejects
  | throws
deriving DecidableEq, Repr

-- The state under the waiter mutex, the waiters themselves, and what has been
-- sent, accepted, written and finished so far.
structure Shared where
  rejectingWaiters : Bool := false
  activeWaiterOperations : Nat := 0
  registered : List Nat := []
  waiters : Table Nat Waiter := ∅
  sent : List (Nat × MotorPackMsg) := []
  accepted : List (Nat × MotorPackMsg) := []
  started : List (Nat × MotorPackMsg) := []
  finished : List (Nat × MotorPackMsg) := []

namespace Shared

def unlocked (shared : Shared) (id : Nat) : Option Waiter := (shared.waiters.find id).filter fun waiter => waiter.locked.isNone

def setWaiter (shared : Shared) (id : Nat) (waiter : Waiter) : Shared := { shared with waiters := shared.waiters.put id waiter }

def register (shared : Shared) (id : Nat) : Shared :=
  { shared with
    activeWaiterOperations := shared.activeWaiterOperations + 1
    registered := shared.registered ++ [id]
    waiters := shared.waiters.put id {} }

def unregister (shared : Shared) (id : Nat) : Shared :=
  { shared with
    activeWaiterOperations := shared.activeWaiterOperations - 1
    registered := shared.registered.filter fun other => other ≠ id }

end Shared

abbrev Moved := Option (Move Shared Call)

def moved (shared : Shared) (call : Call) : Moved := some ⟨shared, call, none⟩

def sendAndWaitErased (shared : Shared) (id : Nat) (answer : Answer) (message : MotorPackMsg) : SendPc → Moved
  | .entering =>
    if shared.rejectingWaiters then moved shared (.sendAndWait message (.done (.returned false)))
    else moved (shared.register id) (.sendAndWait message .registered)
  | .registered =>
    match answer with
    | .throws => moved shared (.sendAndWait message (.leaving .threw))
    | _ => moved { shared with sent := shared.sent ++ [(id, message)] } (.sendAndWait message .sending)
  | .sending =>
    match answer with
    | .throws => moved shared (.sendAndWait message (.leaving .threw))
    | _ => moved shared (.sendAndWait message .waiting)
  -- The wait may time out at any moment.
  | .waiting =>
    match shared.unlocked id with
    | none => none
    | some waiter => moved shared (.sendAndWait message (.leaving (.returned waiter.completed)))
  | .leaving outcome =>
    match shared.unlocked id with
    | none => none
    | some waiter => moved (shared.setWaiter id { waiter with cancelled := true }) (.sendAndWait message (.erasing outcome))
  | .erasing outcome => moved (shared.unregister id) (.sendAndWait message (.done outcome))
  | .done _ => none

def onMessage (shared : Shared) (id : Nat) (answer : Answer) (message : MotorPackMsg) : ReceivePc → Moved
  | .entering => moved shared (.onMessage message (.visiting shared.registered))
  | .visiting [] => moved shared (.onMessage message .done)
  | .visiting (visited :: remaining) =>
    match shared.unlocked visited with
    | none => none
    | some waiter =>
      if waiter.cancelled || waiter.completed then moved shared (.onMessage message (.visiting remaining))
      else moved (shared.setWaiter visited { waiter with locked := some id }) (.onMessage message (.checking visited remaining))
  | .checking visited remaining =>
    match shared.waiters.find visited with
    | none => none
    | some waiter =>
      match answer with
      | .returns =>
        moved
          { shared with
            accepted := shared.accepted ++ [(visited, message)]
            started := shared.started ++ [(visited, message)] }
          (.onMessage message (.writing visited remaining))
      | .rejects => moved (shared.setWaiter visited { waiter with locked := none }) (.onMessage message (.visiting remaining))
      | .throws =>
        moved (shared.setWaiter visited { waiter with locked := none, cancelled := true }) (.onMessage message (.visiting remaining))
  | .writing visited remaining =>
    match shared.waiters.find visited with
    | none => none
    | some waiter =>
      match answer with
      | .throws =>
        moved (shared.setWaiter visited { waiter with locked := none, cancelled := true }) (.onMessage message (.visiting remaining))
      | _ =>
        moved
          { shared.setWaiter visited { waiter with locked := none, completed := true } with
            finished := shared.finished ++ [(visited, message)] }
          (.onMessage message (.visiting remaining))
  | .done => none

def afterCancelling (drains : Bool) : CancelPc := if drains then .draining else .done

def cancelWaiters (shared : Shared) (drains : Bool) : CancelPc → Moved
  | .entering =>
    if shared.rejectingWaiters then moved shared (.cancelWaiters drains (afterCancelling drains))
    else
      moved { shared with rejectingWaiters := true, registered := [] } (.cancelWaiters drains (.cancelling shared.registered))
  | .cancelling [] => moved shared (.cancelWaiters drains (afterCancelling drains))
  | .cancelling (visited :: remaining) =>
    match shared.unlocked visited with
    | none => none
    | some waiter =>
      moved (shared.setWaiter visited { waiter with cancelled := true }) (.cancelWaiters drains (.cancelling remaining))
  | .draining => if shared.activeWaiterOperations = 0 then moved shared (.cancelWaiters drains .done) else none
  | .done => none

def run (shared : Shared) (id : Nat) (answer : Answer) : Call → Moved
  | .sendAndWait message pc => sendAndWaitErased shared id answer message pc
  | .onMessage message pc => onMessage shared id answer message pc
  | .cancelWaiters drains pc => cancelWaiters shared drains pc

inductive Action where
  | sendAndWait (message : MotorPackMsg)
  | onMessage (message : MotorPackMsg)
  | cancelWaiters (drains : Bool)
  | run (id : Nat) (answer : Answer)
deriving DecidableEq, Repr

abbrev State := World Shared Call

def step (state : State) : Action → Option State
  | .sendAndWait message => some (state.start (.sendAndWait message .entering))
  | .onMessage message => some (state.start (.onMessage message .entering))
  | .cancelWaiters drains => some (state.start (.cancelWaiters drains .entering))
  | .run id answer =>
    match state.calls.find id with
    | none => none
    | some call => (run state.shared id answer call).map fun move => state.advance id move

def initial : State := ⟨{}, ∅, 0⟩

def system : System State Action where
  init := fun state => state = initial
  step := step

open World

def entriesOf (id : Nat) (entries : List (Nat × MotorPackMsg)) : List (Nat × MotorPackMsg) := entries.filter fun entry => entry.1 = id

structure WaiterOk (started finished : List (Nat × MotorPackMsg)) (id : Nat) (waiter : Waiter) : Prop where
  held : waiter.locked ≠ none → waiter.completed = false ∧ waiter.cancelled = false
  completed : waiter.completed = true ↔ ∃ message, (id, message) ∈ finished
  fresh : waiter.locked = none → waiter.completed = false → waiter.cancelled = false → entriesOf id started = []
  once : (entriesOf id started).length ≤ 1

structure StoreOk (shared : Shared) : Prop where
  waiters : ∀ id waiter, shared.waiters.find id = some waiter → WaiterOk shared.started shared.finished id waiter
  startedKnown : ∀ entry ∈ shared.started, shared.waiters.find entry.1 ≠ none
  finishedKnown : ∀ entry ∈ shared.finished, shared.waiters.find entry.1 ≠ none
  accepted : ∀ entry ∈ shared.finished, entry ∈ shared.accepted
  listed : ∀ id ∈ shared.registered, shared.waiters.find id ≠ none
  closed : shared.rejectingWaiters = true → shared.registered = []

namespace Shared

def Known (shared : Shared) (ids : List Nat) : Prop := ∀ id ∈ ids, shared.waiters.find id ≠ none

def Cancelled (shared : Shared) (id : Nat) : Prop := ∃ waiter, shared.waiters.find id = some waiter ∧ waiter.cancelled = true

def HeldBy (shared : Shared) (id holder : Nat) : Prop := ∃ waiter, shared.waiters.find id = some waiter ∧ waiter.locked = some holder

end Shared

def CallOk (shared : Shared) (id : Nat) : Call → Prop
  | .sendAndWait _ .entering => shared.waiters.find id = none
  | .sendAndWait _ (.erasing _) => shared.Cancelled id
  | .sendAndWait _ (.done outcome) => shared.Cancelled id ∨ (outcome = .returned false ∧ shared.waiters.find id = none)
  | .sendAndWait _ _ => shared.waiters.find id ≠ none
  | .onMessage _ (.visiting remaining) => shared.Known remaining
  | .onMessage _ (.checking visited remaining) =>
    shared.Known remaining ∧ shared.HeldBy visited id ∧ entriesOf visited shared.started = []
  | .onMessage message (.writing visited remaining) =>
    shared.Known remaining ∧ shared.HeldBy visited id ∧ entriesOf visited shared.started = [(visited, message)] ∧
      (visited, message) ∈ shared.accepted
  | .onMessage _ _ => True
  | .cancelWaiters _ .entering => True
  | .cancelWaiters _ (.cancelling remaining) => shared.rejectingWaiters = true ∧ shared.Known remaining
  | .cancelWaiters _ .draining => shared.rejectingWaiters = true
  | .cancelWaiters drains .done => shared.rejectingWaiters = true ∧ (drains = true → shared.activeWaiterOperations = 0)

def Call.operating : Call → Nat
  | .sendAndWait _ .entering => 0
  | .sendAndWait _ (.done _) => 0
  | .sendAndWait _ _ => 1
  | _ => 0

structure WaiterInv (state : State) : Prop where
  numbered : Numbered state
  store : StoreOk state.shared
  calls : ∀ id call, state.calls.find id = some call → CallOk state.shared id call
  counted : state.shared.activeWaiterOperations = state.tally Call.operating
  below : ∀ id, state.shared.waiters.find id ≠ none → id < state.nextCall

structure Later (id : Nat) (before after : Shared) : Prop where
  kept : ∀ other waiter, before.waiters.find other = some waiter →
    ∃ later, after.waiters.find other = some later ∧ (waiter.cancelled = true → later.cancelled = true)
  absent : ∀ other, other ≠ id → before.waiters.find other = none → after.waiters.find other = none
  held : ∀ other holder, holder ≠ id → before.HeldBy other holder →
    after.HeldBy other holder ∧ entriesOf other after.started = entriesOf other before.started
  accepted : ∀ entry ∈ before.accepted, entry ∈ after.accepted
  rejecting : before.rejectingWaiters = true → after.rejectingWaiters = true
  idle : before.rejectingWaiters = true → before.activeWaiterOperations = 0 → after.activeWaiterOperations = 0

theorem later_found (id other : Nat) (before after : Shared) (later : Later id before after)
    (found : before.waiters.find other ≠ none) : after.waiters.find other ≠ none := by
  obtain ⟨waiter, at_⟩ := Option.ne_none_iff_exists'.mp found
  obtain ⟨new, located, _⟩ := later.kept other waiter at_
  rw [located]
  exact Option.some_ne_none new

theorem later_known (id : Nat) (before after : Shared) (later : Later id before after) (ids : List Nat) (known : before.Known ids) :
    after.Known ids := fun other member => later_found id other before after later (known other member)

theorem later_cancelled (id other : Nat) (before after : Shared) (later : Later id before after) (cancelled : before.Cancelled other) :
    after.Cancelled other := by
  obtain ⟨waiter, at_, marked⟩ := cancelled
  obtain ⟨new, located, still⟩ := later.kept other waiter at_
  exact ⟨new, located, still marked⟩

theorem later_call (id other : Nat) (before after : Shared) (call : Call) (later : Later id before after) (different : other ≠ id)
    (fine : CallOk before other call) : CallOk after other call := by
  have known := later_known id before after later
  cases call with
  | sendAndWait message pc =>
    cases pc with
    | entering => exact later.absent other different fine
    | erasing outcome => exact later_cancelled id other before after later fine
    | done outcome =>
      rcases fine with cancelled | ⟨refused, absent⟩
      · exact .inl (later_cancelled id other before after later cancelled)
      · exact .inr ⟨refused, later.absent other different absent⟩
    | _ => exact later_found id other before after later fine
  | onMessage message pc =>
    cases pc with
    | visiting remaining => exact known remaining fine
    | checking visited remaining =>
      obtain ⟨listed, held, unstarted⟩ := fine
      obtain ⟨still, same⟩ := later.held visited other different held
      exact ⟨known remaining listed, still, same.trans unstarted⟩
    | writing visited remaining =>
      obtain ⟨listed, held, started, accepted⟩ := fine
      obtain ⟨still, same⟩ := later.held visited other different held
      exact ⟨known remaining listed, still, same.trans started, later.accepted _ accepted⟩
    | _ => trivial
  | cancelWaiters drains pc =>
    cases pc with
    | entering => trivial
    | cancelling remaining => exact ⟨later.rejecting fine.1, known remaining fine.2⟩
    | draining => exact later.rejecting fine
    | done => exact ⟨later.rejecting fine.1, fun drained => later.idle fine.1 (fine.2 drained)⟩

theorem inv_advance (state : State) (id : Nat) (call next : Call) (shared : Shared) (inv : WaiterInv state)
    (present : state.calls.find id = some call) (later : Later id state.shared shared) (store : StoreOk shared)
    (own : CallOk shared id next)
    (counted : shared.activeWaiterOperations + call.operating = state.shared.activeWaiterOperations + next.operating)
    (below : ∀ other, shared.waiters.find other ≠ none → state.shared.waiters.find other ≠ none ∨ other = id) :
    WaiterInv (state.advance id ⟨shared, next, none⟩) := by
  have known := inv.numbered id call present
  refine ⟨numbered_advance state id _ inv.numbered known, ?_, ?_, ?_, ?_⟩
  · rw [advance_shared]
    exact store
  · rw [advance_shared]
    refine advance_every state id ⟨shared, next, none⟩ CallOk inv.calls own ?_ (fun child started => by cases started)
    intro other otherCall different _ fine
    exact later_call id other state.shared shared otherCall later different fine
  · have tallied := tally_advance Call.operating state id call ⟨shared, next, none⟩ inv.numbered present
      (fun child started => by cases started)
    have before := inv.counted
    simp only [advance_shared] at tallied ⊢
    omega
  · intro other found
    rw [advance_shared] at found
    rcases below other found with old | rfl
    · exact inv.below other old
    · exact known

theorem inv_start (state : State) (call : Call) (inv : WaiterInv state) (idle : call.operating = 0)
    (fine : CallOk state.shared state.nextCall call) : WaiterInv (state.start call) := by
  refine ⟨numbered_start state call inv.numbered, inv.store, ?_, ?_, ?_⟩
  · intro id other found
    rw [find_start] at found
    split at found
    · next new =>
        cases found
        exact new ▸ fine
    · exact inv.calls id other found
  · rw [start_shared, tally_start Call.operating state call inv.numbered, idle, inv.counted, Nat.add_zero]
  · intro id found
    exact Nat.lt_succ_of_lt (inv.below id found)

end EncosDriver.Motor
