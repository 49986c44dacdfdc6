import EncosDriver.Lib.Calls
import EncosDriver.Lib.RequestQueue
import EncosDriver.Lib.System

set_option autoImplicit false

namespace EncosDriver.Ethernet.Management

open Lib

structure ReconfigureRequest (Timing : Type) where
  channel : Nat
  timing : Timing
deriving DecidableEq, Repr

inductive ReconfigurePc where
  | entering
  | queueing
  | waiting
  | done (ended : Ended)
deriving DecidableEq, Repr

inductive StopPc where
  | failing
  | joining
  | done
deriving DecidableEq, Repr

structure Service (Timing : Type) where
  channel : Nat
  timing : Timing
  failure : Option String
deriving DecidableEq, Repr

inductive Call (Timing : Type) where
  | reconfigure (request : ReconfigureRequest Timing) (pc : ReconfigurePc)
  | stop (pc : StopPc)
deriving DecidableEq, Repr

inductive WorkerPc where
  | scheduling
  | head
  | servicing
  | configuring
  | receiving
  | unsubscribing
  | failing
  | done
deriving DecidableEq, Repr

structure Shared (Timing : Type) where
  running : Bool := true
  requests : RequestQueue (ReconfigureRequest Timing) (Service Timing) Completion := {}
  worker : WorkerPc := .scheduling

variable {Timing : Type}

def stopping : String := "Ethernet management is stopping"

def unserviced : String := "Ethernet management did not service the bus reconfiguration"

def noChannel (channel : Nat) : String := s!"Ethernet gateway has no CAN channel {channel}"

def Shared.failPendingRequests (shared : Shared Timing) : Shared Timing :=
  { shared with running := false, requests := shared.requests.failAll (.exception stopping) }

abbrev Moved (Timing : Type) := Option (Move (Shared Timing) (Call Timing))

def moved (shared : Shared Timing) (call : Call Timing) : Moved Timing := some ⟨shared, call, none⟩

-- The promise's ticket is the identity of the call. `elapsed` says that the ten
-- seconds are over, which may be noticed just as the answer arrives.
def reconfigure (channelCount : Nat) (shared : Shared Timing) (id : Nat) (elapsed : Bool)
    (request : ReconfigureRequest Timing) : ReconfigurePc → Moved Timing
  | .entering =>
    if channelCount ≤ request.channel then
      moved shared (.reconfigure request (.done (.threw (noChannel request.channel))))
    else moved shared (.reconfigure request .queueing)
  | .queueing =>
    if shared.running then
      moved { shared with requests := shared.requests.push id request } (.reconfigure request .waiting)
    else moved shared (.reconfigure request (.done (.threw stopping)))
  | .waiting =>
    if elapsed then moved shared (.reconfigure request (.done (.threw unserviced)))
    else
      match shared.requests.result id with
      | none => none
      | some .value => moved shared (.reconfigure request (.done .returned))
      | some (.exception text) => moved shared (.reconfigure request (.done (.threw text)))
  | .done _ => none

def stop (shared : Shared Timing) : StopPc → Moved Timing
  | .failing => moved shared.failPendingRequests (.stop .joining)
  | .joining => if shared.worker = .done then moved shared (.stop .done) else none
  | .done => none

-- What the section the worker runs meets outside this file: the scheduler, the
-- gateway, the socket or the logger. `refused` is
-- SetManagementThreadScheduling's false.
inductive Event where
  | completes
  | refused
  | throws (text : String)
deriving DecidableEq, Repr

def serviceRequest (request : ReconfigureRequest Timing) (failure : Option String) : Service Timing × Completion :=
  (⟨request.channel, request.timing, failure⟩,
    match failure with
    | none => .value
    | some text => .exception text)

def Shared.service (shared : Shared Timing) (failure : Option String) : Shared Timing :=
  match shared.requests.serving with
  | none => shared
  | some (_, request) =>
    let serviced := serviceRequest request failure
    { shared with requests := shared.requests.answer serviced.1 serviced.2, worker := .receiving }

def work (shared : Shared Timing) (event : Event) : Option (Shared Timing) :=
  match shared.worker, event with
  | .scheduling, .completes => some { shared with worker := .head }
  | .scheduling, .refused => some { shared with worker := .failing }
  | .head, .completes => some { shared with worker := if shared.running then .servicing else .unsubscribing }
  | .servicing, .completes =>
    match shared.requests.pending with
    | [] => some { shared with worker := .receiving }
    | _ => some { shared with requests := shared.requests.take, worker := .configuring }
  | .configuring, .completes => some (shared.service none)
  | .configuring, .throws text => some (shared.service (some text))
  | .receiving, .completes => some { shared with worker := .head }
  | .unsubscribing, .completes => some { shared with worker := .failing }
  | .scheduling, .throws _ | .servicing, .throws _ | .receiving, .throws _ | .unsubscribing, .throws _ =>
    some { shared with worker := .failing }
  | .failing, .completes => some { shared.failPendingRequests with worker := .done }
  | _, _ => none

def run (channelCount : Nat) (shared : Shared Timing) (id : Nat) (elapsed : Bool) : Call Timing → Moved Timing
  | .reconfigure request pc => reconfigure channelCount shared id elapsed request pc
  | .stop pc => stop shared pc

inductive Action (Timing : Type) where
  | reconfigure (request : ReconfigureRequest Timing)
  | stop
  | run (id : Nat) (elapsed : Bool)
  | work (event : Event)
deriving DecidableEq, Repr

abbrev State (Timing : Type) := World (Shared Timing) (Call Timing)

def step (channelCount : Nat) (state : State Timing) : Action Timing → Option (State Timing)
  | .reconfigure request => some (state.start (.reconfigure request .entering))
  | .stop => some (state.start (.stop .failing))
  | .run id elapsed =>
    match state.calls.find id with
    | none => none
    | some call => (run channelCount state.shared id elapsed call).map fun move => state.advance id move
  | .work event => (work state.shared event).map fun shared => { state with shared := shared }

def system (channelCount : Nat) (Timing : Type) : System (State Timing) (Action Timing) where
  init := fun state => state = ⟨{}, ∅, 0⟩
  step := step channelCount

open RequestQueue World

variable {Timing : Type}

def Configured (request : ReconfigureRequest Timing) (service : Service Timing) : Prop :=
  service = ⟨request.channel, request.timing, none⟩

structure SharedInv (shared : Shared Timing) : Prop where
  conserved : Conserved shared.requests
  granted : Granted (fun completion => completion = .value) Configured shared.requests
  serving : shared.worker ≠ .configuring → shared.requests.serving = none
  drained : shared.running = false → shared.requests.pending = []
  ended : shared.worker = .done → shared.running = false

def CallOk (shared : Shared Timing) (id : Nat) : Call Timing → Prop
  | .reconfigure request .waiting => (id, request) ∈ shared.requests.accepted
  | .reconfigure request (.done .returned) => (id, .value) ∈ shared.requests.answered ∧ (id, request) ∈ shared.requests.accepted
  | .stop .done => shared.worker = .done
  | _ => True

def Queued (_ : Nat) : Call Timing → Prop
  | .reconfigure _ .waiting | .reconfigure _ (.done _) => True
  | _ => False

abbrev Inv (state : State Timing) : Prop :=
  Sound SharedInv (fun shared id => id ∈ shared.requests.accepted.map Prod.fst) Queued CallOk state

structure Later (shared next : Shared Timing) : Prop where
  answered : ∀ entry ∈ shared.requests.answered, entry ∈ next.requests.answered
  accepted : ∀ entry ∈ shared.requests.accepted, entry ∈ next.requests.accepted
  ended : shared.worker = .done → next.worker = .done

theorem CallOk.later {shared next : Shared Timing} {id : Nat} {call : Call Timing} (ok : CallOk shared id call)
    (later : Later shared next) : CallOk next id call := by
  cases call with
  | reconfigure request pc =>
    cases pc with
    | done ended =>
      cases ended with
      | returned => exact ⟨later.answered _ ok.1, later.accepted _ ok.2⟩
      | threw text => trivial
    | waiting => exact later.accepted _ ok
    | _ => trivial
  | stop pc =>
    cases pc with
    | done => exact later.ended ok
    | _ => trivial

variable (shared : Shared Timing)

theorem fail_pending_inv (inv : SharedInv shared) : SharedInv shared.failPendingRequests :=
  ⟨fail_all_conserved _ _ inv.conserved, fail_all_granted _ _ _ _ nofun inv.granted,
    inv.serving, fun _ => rfl, fun _ => rfl⟩

theorem fail_pending_later : Later shared shared.failPendingRequests :=
  ⟨fun _ member => List.mem_append_left _ member, fun _ member => member, fun ended => ended⟩

theorem push_inv (id : Nat) (request : ReconfigureRequest Timing) (inv : SharedInv shared)
    (running : shared.running = true) (fresh : id ∉ shared.requests.accepted.map Prod.fst) :
    SharedInv { shared with requests := shared.requests.push id request } := by
  refine ⟨push_conserved _ id request inv.conserved fresh, inv.granted, inv.serving, ?_, inv.ended⟩
  intro stopped
  rw [running] at stopped
  cases stopped

structure Worked (shared next : Shared Timing) : Prop where
  inv : SharedInv next
  later : Later shared next
  accepted : next.requests.accepted = shared.requests.accepted

theorem moves_on (worker : WorkerPc) (inv : SharedInv shared)
    (idle : shared.worker ≠ .configuring) (unfinished : shared.worker ≠ .done) (goes : worker ≠ .done) :
    Worked shared { shared with worker := worker } :=
  ⟨⟨inv.conserved, inv.granted, fun _ => inv.serving idle, inv.drained, fun ended => absurd ended goes⟩,
    ⟨fun _ member => member, fun _ member => member, fun ended => absurd ended unfinished⟩, rfl⟩

theorem services (inv : SharedInv shared) (idle : shared.worker = .servicing) :
    Worked shared { shared with requests := shared.requests.take, worker := .configuring } := by
  have free : shared.requests.serving = none := inv.serving (by rw [idle]; exact nofun)
  obtain ⟨accepted, answered⟩ := take_same shared.requests
  refine ⟨⟨take_conserved _ inv.conserved free, take_granted _ _ _ inv.granted, fun other => absurd rfl other, ?_,
    nofun⟩, ⟨?_, ?_, ?_⟩, accepted⟩
  · intro stopped
    have empty := inv.drained stopped
    exact (congrArg RequestQueue.pending (take_pending _ empty)).trans empty
  · intro entry member
    rw [answered]
    exact member
  · intro entry member
    rw [accepted]
    exact member
  · intro ended
    rw [idle] at ended
    cases ended

theorem serviced (failure : Option String) (inv : SharedInv shared) (busy : shared.worker = .configuring) :
    Worked shared (shared.service failure) := by
  unfold Shared.service
  split
  · exact ⟨inv, ⟨fun _ member => member, fun _ member => member, fun ended => ended⟩, rfl⟩
  · next ticket request serving =>
      obtain ⟨accepted, answered, free, pending⟩ := answer_grows shared.requests (serviceRequest request failure).1
        (serviceRequest request failure).2
      refine ⟨⟨answer_conserved _ _ _ inv.conserved, answer_granted _ _ _ _ _ ?_ inv.granted, fun _ => free, ?_,
        nofun⟩, ⟨answered, ?_, ?_⟩, accepted⟩
      · intro other found inService value
        obtain rfl : request = found := congrArg Prod.snd (Option.some.inj (serving.symm.trans inService))
        cases failure with
        | none => rfl
        | some text => cases value
      · intro stopped
        exact pending.trans (inv.drained stopped)
      · intro entry member
        exact accepted ▸ member
      · intro ended
        rw [busy] at ended
        cases ended

theorem fails (inv : SharedInv shared) (here : shared.worker = .failing) :
    Worked shared { shared.failPendingRequests with worker := .done } := by
  have failed := fail_pending_inv shared inv
  have free : shared.requests.serving = none := inv.serving (by rw [here]; exact nofun)
  exact ⟨⟨failed.conserved, failed.granted, fun _ => free, failed.drained, fun _ => rfl⟩,
    ⟨(fail_pending_later shared).answered, (fail_pending_later shared).accepted, fun _ => rfl⟩, rfl⟩

theorem work_inv (shared next : Shared Timing) (event : Event) (inv : SharedInv shared)
    (taken : work shared event = some next) : Worked shared next := by
  have passes : ∀ worker, { shared with worker := worker } = next → shared.worker ≠ .configuring →
      shared.worker ≠ .done → worker ≠ .done → Worked shared next := by
    intro worker same idle unfinished goes
    subst same
    exact moves_on shared worker inv idle unfinished goes
  cases here : shared.worker with
  | scheduling =>
    rw [here] at passes
    cases event <;> simp only [work, here, Option.some.injEq] at taken <;> exact passes _ taken nofun nofun nofun
  | head =>
    rw [here] at passes
    cases event <;> simp only [work, here, Option.some.injEq, reduceCtorEq] at taken
    refine passes _ taken nofun nofun ?_
    split <;> exact nofun
  | servicing =>
    rw [here] at passes
    cases event with
    | completes =>
      cases waiting : shared.requests.pending with
      | nil =>
        simp only [work, here, waiting, Option.some.injEq] at taken
        exact passes _ taken nofun nofun nofun
      | cons front rest =>
        simp only [work, here, waiting] at taken
        cases taken
        exact services shared inv here
    | refused => simp only [work, here, reduceCtorEq] at taken
    | throws text =>
      simp only [work, here, Option.some.injEq] at taken
      exact passes _ taken nofun nofun nofun
  | configuring =>
    cases event with
    | completes | throws text =>
      simp only [work, here] at taken
      cases taken
      exact serviced shared _ inv here
    | refused => simp only [work, here, reduceCtorEq] at taken
  | receiving | unsubscribing =>
    rw [here] at passes
    cases event <;> simp only [work, here, Option.some.injEq, reduceCtorEq] at taken <;>
      exact passes _ taken nofun nofun nofun
  | failing =>
    cases event <;> simp only [work, here, Option.some.injEq, reduceCtorEq] at taken
    subst taken
    exact fails shared inv here
  | done => cases event <;> simp only [work, here, reduceCtorEq] at taken

structure Moves (shared : Shared Timing) (id : Nat) (move : Move (Shared Timing) (Call Timing)) : Prop where
  inv : SharedInv move.shared
  later : Later shared move.shared
  others : ∀ other, other ≠ id → other ∈ move.shared.requests.accepted.map Prod.fst → other ∈ shared.requests.accepted.map Prod.fst
  queued : id ∈ move.shared.requests.accepted.map Prod.fst → Queued id move.call
  ok : CallOk move.shared id move.call
  started : move.started = none

theorem stays (id : Nat) (call : Call Timing) (inv : SharedInv shared)
    (queued : id ∈ shared.requests.accepted.map Prod.fst → Queued id call) (ok : CallOk shared id call) :
    Moves shared id ⟨shared, call, none⟩ :=
  ⟨inv, ⟨fun _ member => member, fun _ member => member, fun ended => ended⟩, fun _ _ member => member, queued, ok, rfl⟩

variable (channelCount : Nat)

theorem reconfigure_inv (shared : Shared Timing) (id : Nat) (elapsed : Bool)
    (request : ReconfigureRequest Timing) (pc : ReconfigurePc) (move : Move (Shared Timing) (Call Timing))
    (inv : SharedInv shared) (queued : id ∈ shared.requests.accepted.map Prod.fst → Queued id (.reconfigure request pc))
    (ok : CallOk shared id (.reconfigure request pc))
    (taken : reconfigure channelCount shared id elapsed request pc = some move) : Moves shared id move := by
  cases pc with
  | entering =>
    simp only [reconfigure] at taken
    split at taken <;> cases taken
    · exact stays shared id _ inv (fun _ => trivial) trivial
    · exact stays shared id _ inv queued trivial
  | queueing =>
    simp only [reconfigure] at taken
    split at taken <;> cases taken
    · next running =>
        refine ⟨push_inv shared id request inv running queued, ⟨fun _ member => member, ?_, fun ended => ended⟩, ?_,
          fun _ => trivial, List.mem_append_right _ (List.mem_singleton_self _), rfl⟩
        · intro entry member
          exact List.mem_append_left _ member
        intro other different member
        simp only [push, List.map_append] at member
        rcases List.mem_append.mp member with earlier | latest
        · exact earlier
        · exact absurd (List.mem_singleton.mp latest) different
    · exact stays shared id _ inv (fun _ => trivial) trivial
  | waiting =>
    simp only [reconfigure] at taken
    split at taken
    · cases taken
      exact stays shared id _ inv (fun _ => trivial) trivial
    · split at taken
      · cases taken
      · next found =>
          cases taken
          exact stays shared id _ inv (fun _ => trivial) ⟨result_answered _ _ _ found, ok⟩
      · cases taken
        exact stays shared id _ inv (fun _ => trivial) trivial
  | done ended => cases taken

theorem stop_inv (id : Nat) (pc : StopPc) (move : Move (Shared Timing) (Call Timing))
    (inv : SharedInv shared) (queued : id ∈ shared.requests.accepted.map Prod.fst → Queued id (.stop pc : Call Timing))
    (taken : stop shared pc = some move) : Moves shared id move := by
  cases pc with
  | failing =>
    cases taken
    exact ⟨fail_pending_inv shared inv, fail_pending_later shared, fun _ _ member => member, queued, trivial, rfl⟩
  | joining =>
    simp only [stop] at taken
    split at taken
    · next ended =>
        cases taken
        exact stays shared id _ inv queued ended
    · cases taken
  | done => cases taken

theorem run_inv (shared : Shared Timing) (id : Nat) (elapsed : Bool) (call : Call Timing)
    (move : Move (Shared Timing) (Call Timing)) (inv : SharedInv shared)
    (queued : id ∈ shared.requests.accepted.map Prod.fst → Queued id call) (ok : CallOk shared id call)
    (taken : run channelCount shared id elapsed call = some move) : Moves shared id move := by
  cases call with
  | reconfigure request pc => exact reconfigure_inv channelCount shared id elapsed request pc move inv queued ok taken
  | stop pc => exact stop_inv shared id pc move inv queued taken

theorem step_inv (state next : State Timing) (action : Action Timing) (inv : Inv state)
    (taken : step channelCount state action = some next) : Inv next := by
  cases action with
  | reconfigure request | stop =>
    cases taken
    exact sound_start state _ inv trivial
  | run id elapsed =>
    cases present : state.calls.find id with
    | none => simp only [step, present, reduceCtorEq] at taken
    | some call =>
      simp only [step, present] at taken
      obtain ⟨move, moved, rfl⟩ := Option.map_eq_some_iff.mp taken
      have moves := run_inv channelCount state.shared id elapsed call move inv.store (sound_owns state id call inv present)
        (inv.calls id call present) moved
      exact sound_advance state id call move inv present moves.inv moves.others moves.queued moves.ok
        (fun _ _ _ ok => ok.later moves.later) moves.started
  | work event =>
    obtain ⟨shared, worked, rfl⟩ := Option.map_eq_some_iff.mp taken
    have works := work_inv state.shared shared event inv.store worked
    refine sound_store state shared inv works.inv ?_ (fun _ _ ok => ok.later works.later)
    intro id member
    rw [works.accepted] at member
    exact member

theorem management_inv :
    ∀ state, Reachable (system channelCount Timing) state → Inv state := by
  refine reachable_invariant (system channelCount Timing) Always Inv ?_ ?_
  · intro state initial
    subst initial
    refine ⟨?_, ⟨empty_conserved, ?_, fun _ => rfl, fun _ => rfl, nofun⟩, ?_, ?_⟩
    · intro id call found
      cases found
    · intro entry member
      cases member
    · intro id member
      cases member
    · intro id call found
      cases found
  · intro state action next inv _ taken
    exact step_inv channelCount state next action inv taken

def Returns (state : State Timing) (id : Nat) (request : ReconfigureRequest Timing) : Prop :=
  state.calls.find id = some (.reconfigure request (.done .returned))

def Over (state : State Timing) : Prop := state.shared.worker = .done ∨ ∃ id, state.calls.find id = some (.stop .done)

theorem management_completes (state : State Timing)
    (reached : Reachable (system channelCount Timing) state) :
    Completes Configured state.shared.requests (Returns state) (Over state) := by
  have inv := management_inv channelCount state reached
  refine conserved_completes _ _ _ _ inv.store.conserved inv.store.granted ?_ ?_
  · intro finished
    have ended : state.shared.worker = .done := by
      rcases finished with ended | ⟨id, found⟩
      · exact ended
      · exact inv.calls id _ found
    exact ⟨inv.store.drained (inv.store.ended ended), inv.store.serving (by rw [ended]; exact nofun)⟩
  · intro id request found
    exact inv.calls id _ found

end EncosDriver.Ethernet.Management
