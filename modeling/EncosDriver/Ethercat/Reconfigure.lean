import EncosDriver.Lib.Calls
import EncosDriver.Lib.RequestQueue
import EncosDriver.Lib.System

set_option autoImplicit false

namespace EncosDriver.Ethercat.Reconfigure

open Lib

def kGatewayChannelCount : Nat := 8

structure AdapterExtend (Override : Type) where
  declaredBuses : List (Int × Int)
  busOverride : Int → Int → Option Override

structure Line where
  slavecount : Int
  busCounts : List Nat

-- Each constructor names the next section of ReconfigureBuses. `running_` is
-- also written without the mutex, so the check and the push under it are two
-- steps.
inductive ReconfigurePc where
  | entering
  | locking
  | pushing
  | waiting
  | done (ended : Ended)
deriving DecidableEq, Repr

inductive StopPc where
  | storing
  | failing
  | done
deriving DecidableEq, Repr

inductive Call (Override : Type) where
  | reconfigureBuses (extend : AdapterExtend Override) (pc : ReconfigurePc)
  | requestStop (pc : StopPc)

inductive LoopPc where
  | head
  | exchanging
  | servicing
  | applying
  | sleeping
  | ended
deriving DecidableEq, Repr

inductive Applied where
  | accepted
  | refused
  | threw (text : String)
deriving DecidableEq, Repr

structure ApplyCall (Override : Type) where
  slave : Int
  channel : Int
  override : Override
  applied : Applied

structure Shared (Override : Type) where
  running : Bool := true
  locked : Option Nat := none
  requests : RequestQueue (AdapterExtend Override) (List (ApplyCall Override)) Completion := {}
  loop : LoopPc := .head

variable {Override : Type}

def notRunning : String := "Ethercat adapter is no longer running; bus timing not updated"

def stopped : String := "EtherCAT handle stopped; bus timing update aborted"

def unserviced : String := "Ethercat bus timing update was not serviced by the loop"

def rejected : String := "CAN timing update was rejected by the slave"

def Line.check (line : Line) (bus : Int × Int) : Option String :=
  if bus.1 < 0 ∨ line.slavecount ≤ bus.1 then some s!"Ethercat adapter has no slave '{bus.1}'"
  else
    match line.busCounts[bus.1.toNat]? with
    | none => some s!"Ethercat slave {bus.1} has no CAN channel '{bus.2}'"
    | some busCount =>
      if bus.2 < 0 ∨ (busCount : Int) ≤ bus.2 ∨ (kGatewayChannelCount : Int) ≤ bus.2 then
        some s!"Ethercat slave {bus.1} has no CAN channel '{bus.2}'"
      else none

abbrev Moved (Override : Type) := Option (Move (Shared Override) (Call Override))

def moved (shared : Shared Override) (call : Call Override) : Moved Override := some ⟨shared, call, none⟩

-- The promise's ticket is the identity of the call. `elapsed` says that the
-- fifteen seconds are over, which may be noticed just as the answer arrives.
def reconfigureBuses (line : Line) (shared : Shared Override) (id : Nat) (elapsed : Bool)
    (extend : AdapterExtend Override) : ReconfigurePc → Moved Override
  | .entering =>
    if ¬ shared.running ∨ line.slavecount ≤ 0 then
      moved shared (.reconfigureBuses extend (.done (.threw notRunning)))
    else
      match extend.declaredBuses.findSome? line.check with
      | some text => moved shared (.reconfigureBuses extend (.done (.threw text)))
      | none => moved shared (.reconfigureBuses extend .locking)
  | .locking =>
    if shared.locked.isSome then none
    else if shared.running then moved { shared with locked := some id } (.reconfigureBuses extend .pushing)
    else moved shared (.reconfigureBuses extend (.done (.threw stopped)))
  | .pushing =>
    moved { shared with locked := none, requests := shared.requests.push id extend } (.reconfigureBuses extend .waiting)
  | .waiting =>
    if elapsed then moved shared (.reconfigureBuses extend (.done (.threw unserviced)))
    else
      match shared.requests.result id with
      | none => none
      | some .value => moved shared (.reconfigureBuses extend (.done .returned))
      | some (.exception text) => moved shared (.reconfigureBuses extend (.done (.threw text)))
  | .done _ => none

def requestStop (shared : Shared Override) : StopPc → Moved Override
  | .storing => moved { shared with running := false } (.requestStop .failing)
  | .failing =>
    if shared.locked.isSome then none
    else moved { shared with requests := shared.requests.failAll (.exception stopped) } (.requestStop .done)
  | .done => none

-- The body of ServicePendingReconfigure's try block: the calls it makes, and
-- what it leaves in the promise.
def serviceBuses (extend : AdapterExtend Override) (apply : Int → Int → Override → Applied) :
    List (Int × Int) → List (ApplyCall Override) × Completion
  | [] => ([], .value)
  | bus :: rest =>
    match extend.busOverride bus.1 bus.2 with
    | none => serviceBuses extend apply rest
    | some override =>
      let applied := apply (bus.1 + 1) bus.2 override
      let call : ApplyCall Override := ⟨bus.1 + 1, bus.2, override, applied⟩
      match applied with
      | .accepted =>
        let others := serviceBuses extend apply rest
        (call :: others.1, others.2)
      | .refused => ([call], .exception rejected)
      | .threw text => ([call], .exception text)

inductive Event (Override : Type) where
  | completes (apply : Int → Int → Override → Applied)
  | throws

def work (shared : Shared Override) (event : Event Override) : Option (Shared Override) :=
  match shared.loop, event with
  | .head, .completes _ => some { shared with loop := if shared.running then .exchanging else .ended }
  | .exchanging, .completes _ => some { shared with loop := .servicing }
  | .servicing, .completes _ =>
    if shared.locked.isSome then none
    else
      match shared.requests.pending with
      | [] => some { shared with loop := .sleeping }
      | _ => some { shared with requests := shared.requests.take, loop := .applying }
  | .applying, .completes apply =>
    match shared.requests.serving with
    | none => none
    | some (_, extend) =>
      let serviced := serviceBuses extend apply extend.declaredBuses
      some { shared with requests := shared.requests.answer serviced.1 serviced.2, loop := .sleeping }
  | .sleeping, .completes _ => some { shared with loop := .head }
  | .exchanging, .throws | .servicing, .throws | .sleeping, .throws => some { shared with loop := .ended }
  | _, _ => none

def run (line : Line) (shared : Shared Override) (id : Nat) (elapsed : Bool) : Call Override → Moved Override
  | .reconfigureBuses extend pc => reconfigureBuses line shared id elapsed extend pc
  | .requestStop pc => requestStop shared pc

inductive Action (Override : Type) where
  | reconfigureBuses (extend : AdapterExtend Override)
  | requestStop
  | run (id : Nat) (elapsed : Bool)
  | work (event : Event Override)

abbrev State (Override : Type) := World (Shared Override) (Call Override)

def step (line : Line) (state : State Override) : Action Override → Option (State Override)
  | .reconfigureBuses extend => some (state.start (.reconfigureBuses extend .entering))
  | .requestStop => some (state.start (.requestStop .storing))
  | .run id elapsed =>
    match state.calls.find id with
    | none => none
    | some call => (run line state.shared id elapsed call).map fun move => state.advance id move
  | .work event => (work state.shared event).map fun shared => { state with shared := shared }

def system (line : Line) (Override : Type) : System (State Override) (Action Override) where
  init := fun state => state = ⟨{}, ∅, 0⟩
  step := step line

open RequestQueue World

variable {Override : Type}

def Applies (extend : AdapterExtend Override) (calls : List (ApplyCall Override)) : Prop :=
  calls = extend.declaredBuses.filterMap fun bus =>
    (extend.busOverride bus.1 bus.2).map fun override => ⟨bus.1 + 1, bus.2, override, .accepted⟩

structure SharedInv (shared : Shared Override) : Prop where
  conserved : Conserved shared.requests
  granted : Granted (fun completion => completion = .value) Applies shared.requests
  serving : shared.loop ≠ .applying → shared.requests.serving = none

def Closed (shared : Shared Override) : Prop :=
  shared.running = false ∧ shared.requests.pending = [] ∧ shared.locked = none

def CallOk (shared : Shared Override) (id : Nat) : Call Override → Prop
  | .reconfigureBuses _ .pushing => shared.locked = some id
  | .reconfigureBuses extend .waiting => (id, extend) ∈ shared.requests.accepted
  | .reconfigureBuses extend (.done .returned) => (id, .value) ∈ shared.requests.answered ∧ (id, extend) ∈ shared.requests.accepted
  | .requestStop .failing => shared.running = false
  | .requestStop .done => Closed shared
  | _ => True

def Queued (_ : Nat) : Call Override → Prop
  | .reconfigureBuses _ .waiting | .reconfigureBuses _ (.done _) => True
  | _ => False

abbrev Inv (state : State Override) : Prop :=
  Sound SharedInv (fun shared id => id ∈ shared.requests.accepted.map Prod.fst) Queued CallOk state

structure Later (shared next : Shared Override) : Prop where
  answered : ∀ entry ∈ shared.requests.answered, entry ∈ next.requests.answered
  accepted : ∀ entry ∈ shared.requests.accepted, entry ∈ next.requests.accepted
  stopped : shared.running = false → next.running = false
  closed : Closed shared → Closed next

theorem CallOk.later {shared next : Shared Override} {id : Nat} {call : Call Override} (ok : CallOk shared id call)
    (later : Later shared next) (held : shared.locked = some id → next.locked = some id) : CallOk next id call := by
  cases call with
  | reconfigureBuses extend pc =>
    cases pc with
    | pushing => exact held ok
    | waiting => exact later.accepted _ ok
    | done ended =>
      cases ended with
      | returned => exact ⟨later.answered _ ok.1, later.accepted _ ok.2⟩
      | threw text => trivial
    | _ => trivial
  | requestStop pc =>
    cases pc with
    | storing => trivial
    | failing => exact later.stopped ok
    | done => exact later.closed ok

structure Worked (shared next : Shared Override) : Prop where
  inv : SharedInv next
  later : Later shared next
  locked : next.locked = shared.locked
  accepted : next.requests.accepted = shared.requests.accepted

variable (shared : Shared Override)

theorem moves_on (loop : LoopPc) (inv : SharedInv shared) (idle : shared.loop ≠ .applying) :
    Worked shared { shared with loop := loop } :=
  ⟨⟨inv.conserved, inv.granted, fun _ => inv.serving idle⟩,
    ⟨fun _ member => member, fun _ member => member, fun halted => halted, fun closed => closed⟩, rfl, rfl⟩

theorem services (inv : SharedInv shared) (idle : shared.loop ≠ .applying) :
    Worked shared { shared with requests := shared.requests.take, loop := .applying } := by
  obtain ⟨accepted, answered⟩ := take_same shared.requests
  refine ⟨⟨take_conserved _ inv.conserved (inv.serving idle), take_granted _ _ _ inv.granted, fun other => absurd rfl other⟩,
    ⟨?_, ?_, fun halted => halted, ?_⟩, rfl, accepted⟩
  · intro entry member
    rw [answered]
    exact member
  · intro entry member
    rw [accepted]
    exact member
  · intro ⟨halted, empty, free⟩
    exact ⟨halted, (congrArg RequestQueue.pending (take_pending _ empty)).trans empty, free⟩

theorem service_applies (extend : AdapterExtend Override) (apply : Int → Int → Override → Applied) (buses : List (Int × Int))
    (value : (serviceBuses extend apply buses).2 = .value) :
    (serviceBuses extend apply buses).1 = buses.filterMap fun bus =>
      (extend.busOverride bus.1 bus.2).map fun override => ⟨bus.1 + 1, bus.2, override, .accepted⟩ := by
  induction buses with
  | nil => rfl
  | cons bus rest ih =>
    rw [serviceBuses] at value ⊢
    cases found : extend.busOverride bus.1 bus.2 with
    | none =>
      simp only [found] at value ⊢
      rw [ih value, List.filterMap_cons_none (by rw [found]; rfl)]
    | some override =>
      simp only [found] at value ⊢
      cases applied : apply (bus.1 + 1) bus.2 override with
      | accepted =>
        simp only [applied] at value ⊢
        rw [ih value, List.filterMap_cons_some (by rw [found]; rfl)]
      | refused => simp only [applied, reduceCtorEq] at value
      | threw text => simp only [applied, reduceCtorEq] at value

theorem completes (ticket : Nat) (extend : AdapterExtend Override) (apply : Int → Int → Override → Applied) (inv : SharedInv shared)
    (serving : shared.requests.serving = some (ticket, extend)) :
    Worked shared { shared with
      requests := shared.requests.answer (serviceBuses extend apply extend.declaredBuses).1 (serviceBuses extend apply extend.declaredBuses).2
      loop := .sleeping } := by
  obtain ⟨accepted, answered, free, pending⟩ := answer_grows shared.requests (serviceBuses extend apply extend.declaredBuses).1
    (serviceBuses extend apply extend.declaredBuses).2
  refine ⟨⟨answer_conserved _ _ _ inv.conserved, answer_granted _ _ _ _ _ ?_ inv.granted, fun _ => free⟩,
    ⟨answered, ?_, fun halted => halted, fun closed => ⟨closed.1, pending.trans closed.2.1, closed.2.2⟩⟩, rfl, accepted⟩
  · intro other found inService value
    obtain rfl : extend = found := congrArg Prod.snd (Option.some.inj (serving.symm.trans inService))
    exact service_applies extend apply _ value
  · intro entry member
    exact accepted ▸ member

theorem work_inv (shared next : Shared Override) (event : Event Override) (inv : SharedInv shared)
    (taken : work shared event = some next) : Worked shared next := by
  have passes : ∀ loop, { shared with loop := loop } = next → shared.loop ≠ .applying → Worked shared next := by
    intro loop same idle
    subst same
    exact moves_on shared loop inv idle
  cases here : shared.loop with
  | head | exchanging | sleeping =>
    rw [here] at passes
    cases event <;> simp only [work, here, Option.some.injEq, reduceCtorEq] at taken <;> exact passes _ taken nofun
  | servicing =>
    cases event with
    | completes apply =>
      simp only [work, here] at taken
      split at taken
      · cases taken
      · split at taken
        · exact passes _ (Option.some.inj taken) (by rw [here]; exact nofun)
        · cases taken
          exact services shared inv (by rw [here]; exact nofun)
    | throws =>
      simp only [work, here, Option.some.injEq] at taken
      exact passes _ taken (by rw [here]; exact nofun)
  | applying =>
    cases event with
    | completes apply =>
      simp only [work, here] at taken
      split at taken
      · cases taken
      · next ticket extend serving =>
          cases taken
          exact completes shared ticket extend apply inv serving
    | throws => simp only [work, here, reduceCtorEq] at taken
  | ended => cases event <;> simp only [work, here, reduceCtorEq] at taken

structure Moves (shared : Shared Override) (id : Nat) (move : Move (Shared Override) (Call Override)) : Prop where
  inv : SharedInv move.shared
  later : Later shared move.shared
  held : ∀ other, other ≠ id → shared.locked = some other → move.shared.locked = some other
  others : ∀ other, other ≠ id → other ∈ move.shared.requests.accepted.map Prod.fst → other ∈ shared.requests.accepted.map Prod.fst
  queued : id ∈ move.shared.requests.accepted.map Prod.fst → Queued id move.call
  ok : CallOk move.shared id move.call
  started : move.started = none

theorem stays (id : Nat) (call : Call Override) (inv : SharedInv shared)
    (queued : id ∈ shared.requests.accepted.map Prod.fst → Queued id call) (ok : CallOk shared id call) :
    Moves shared id ⟨shared, call, none⟩ :=
  ⟨inv, ⟨fun _ member => member, fun _ member => member, fun halted => halted, fun closed => closed⟩, fun _ _ held => held,
    fun _ _ member => member, queued, ok, rfl⟩

theorem locks (id : Nat) (extend : AdapterExtend Override) (inv : SharedInv shared)
    (free : shared.locked = none) (running : shared.running = true) (queued : id ∉ shared.requests.accepted.map Prod.fst) :
    Moves shared id ⟨{ shared with locked := some id }, .reconfigureBuses extend .pushing, none⟩ := by
  refine ⟨⟨inv.conserved, inv.granted, inv.serving⟩,
    ⟨fun _ member => member, fun _ member => member, fun halted => halted, ?_⟩, ?_,
    fun _ _ member => member, fun member => absurd member queued, rfl, rfl⟩
  · intro closed
    rw [closed.1] at running
    cases running
  · intro other _ held
    rw [free] at held
    cases held

theorem pushes (id : Nat) (extend : AdapterExtend Override) (inv : SharedInv shared)
    (mine : shared.locked = some id) (queued : id ∉ shared.requests.accepted.map Prod.fst) :
    Moves shared id ⟨{ shared with locked := none, requests := shared.requests.push id extend },
      .reconfigureBuses extend .waiting, none⟩ := by
  refine ⟨⟨push_conserved _ id extend inv.conserved queued, inv.granted, inv.serving⟩,
    ⟨fun _ member => member, ?_, fun halted => halted, ?_⟩, ?_, ?_, fun _ => trivial,
    List.mem_append_right _ (List.mem_singleton_self _), rfl⟩
  · intro entry member
    exact List.mem_append_left _ member
  · intro closed
    rw [closed.2.2] at mine
    cases mine
  · intro other different held
    rw [mine] at held
    exact absurd (Option.some.inj held).symm different
  · intro other different member
    simp only [push, List.map_append] at member
    rcases List.mem_append.mp member with earlier | latest
    · exact earlier
    · exact absurd (List.mem_singleton.mp latest) different

variable (line : Line)

theorem reconfigure_inv (shared : Shared Override) (id : Nat) (elapsed : Bool)
    (extend : AdapterExtend Override) (pc : ReconfigurePc) (move : Move (Shared Override) (Call Override))
    (inv : SharedInv shared) (queued : id ∈ shared.requests.accepted.map Prod.fst → Queued id (.reconfigureBuses extend pc))
    (ok : CallOk shared id (.reconfigureBuses extend pc))
    (taken : reconfigureBuses line shared id elapsed extend pc = some move) : Moves shared id move := by
  cases pc with
  | entering =>
    simp only [reconfigureBuses] at taken
    split at taken
    · cases taken
      exact stays shared id _ inv (fun _ => trivial) trivial
    · split at taken <;> cases taken
      · exact stays shared id _ inv (fun _ => trivial) trivial
      · exact stays shared id _ inv queued trivial
  | locking =>
    simp only [reconfigureBuses] at taken
    split at taken
    · cases taken
    · next free =>
        split at taken <;> cases taken
        · next running => exact locks shared id extend inv (Option.not_isSome_iff_eq_none.mp free) running queued
        · exact stays shared id _ inv (fun _ => trivial) trivial
  | pushing =>
    cases taken
    exact pushes shared id extend inv ok queued
  | waiting =>
    simp only [reconfigureBuses] at taken
    split at taken
    · cases taken
      exact stays shared id _ inv (fun _ => trivial) trivial
    · split at taken
      · cases taken
      · next found =>
          cases taken
          exact stays shared id _ inv (fun _ => trivial) ⟨result_answered _ _ _ found, ok⟩
      · cases taken
        exact stays shared id _ inv (fun _ => trivial) trivial
  | done ended => cases taken

theorem stop_inv (id : Nat) (pc : StopPc) (move : Move (Shared Override) (Call Override))
    (inv : SharedInv shared) (queued : id ∈ shared.requests.accepted.map Prod.fst → Queued id (.requestStop pc : Call Override))
    (ok : CallOk shared id (.requestStop pc)) (taken : requestStop shared pc = some move) : Moves shared id move := by
  cases pc with
  | storing =>
    cases taken
    exact ⟨⟨inv.conserved, inv.granted, inv.serving⟩, ⟨fun _ member => member, fun _ member => member, fun _ => rfl, fun closed => ⟨rfl, closed.2⟩⟩,
      fun _ _ held => held, fun _ _ member => member, queued, rfl, rfl⟩
  | failing =>
    simp only [requestStop] at taken
    split at taken
    · cases taken
    · next free =>
        cases taken
        have unlocked := Option.not_isSome_iff_eq_none.mp free
        exact ⟨⟨fail_all_conserved _ _ inv.conserved, fail_all_granted _ _ _ _ nofun inv.granted, inv.serving⟩,
          ⟨fun _ member => List.mem_append_left _ member, fun _ member => member, fun halted => halted, fun closed => ⟨closed.1, rfl, closed.2.2⟩⟩,
          fun _ _ held => held, fun _ _ member => member, queued, ⟨ok, rfl, unlocked⟩, rfl⟩
  | done => cases taken

theorem run_inv (shared : Shared Override) (id : Nat) (elapsed : Bool) (call : Call Override)
    (move : Move (Shared Override) (Call Override)) (inv : SharedInv shared)
    (queued : id ∈ shared.requests.accepted.map Prod.fst → Queued id call) (ok : CallOk shared id call)
    (taken : run line shared id elapsed call = some move) : Moves shared id move := by
  cases call with
  | reconfigureBuses extend pc => exact reconfigure_inv line shared id elapsed extend pc move inv queued ok taken
  | requestStop pc => exact stop_inv shared id pc move inv queued ok taken

theorem step_inv (state next : State Override) (action : Action Override) (inv : Inv state)
    (taken : step line state action = some next) : Inv next := by
  cases action with
  | reconfigureBuses extend | requestStop =>
    cases taken
    exact sound_start state _ inv trivial
  | run id elapsed =>
    cases present : state.calls.find id with
    | none => simp only [step, present, reduceCtorEq] at taken
    | some call =>
      simp only [step, present] at taken
      obtain ⟨move, moved, rfl⟩ := Option.map_eq_some_iff.mp taken
      have moves := run_inv line state.shared id elapsed call move inv.store (sound_owns state id call inv present) (inv.calls id call present)
        moved
      exact sound_advance state id call move inv present moves.inv moves.others moves.queued moves.ok
        (fun other _ different ok => ok.later moves.later (moves.held other different)) moves.started
  | work event =>
    obtain ⟨shared, worked, rfl⟩ := Option.map_eq_some_iff.mp taken
    have works := work_inv state.shared shared event inv.store worked
    refine sound_store state shared inv works.inv ?_ (fun _ _ ok => ok.later works.later (fun held => works.locked.trans held))
    intro id member
    rw [works.accepted] at member
    exact member

theorem reconfigure_buses_inv :
    ∀ state, Reachable (system line Override) state → Inv state := by
  refine reachable_invariant (system line Override) Always Inv ?_ ?_
  · intro state initial
    subst initial
    refine ⟨?_, ⟨empty_conserved, ?_, fun _ => rfl⟩, ?_, ?_⟩
    · intro id call found
      cases found
    · intro entry member
      cases member
    · intro id member
      cases member
    · intro id call found
      cases found
  · intro state action next inv _ taken
    exact step_inv line state next action inv taken

def Returns (state : State Override) (id : Nat) (extend : AdapterExtend Override) : Prop :=
  state.calls.find id = some (.reconfigureBuses extend (.done .returned))

def Over (state : State Override) : Prop :=
  state.shared.loop = .ended ∧ ∃ id, state.calls.find id = some (.requestStop .done)

theorem reconfigure_buses_completes (state : State Override)
    (reached : Reachable (system line Override) state) :
    Completes Applies state.shared.requests (Returns state) (Over state) := by
  have inv := reconfigure_buses_inv line state reached
  refine conserved_completes _ _ _ _ inv.store.conserved inv.store.granted ?_ ?_
  · intro ⟨ended, id, found⟩
    have closed : Closed state.shared := inv.calls id _ found
    exact ⟨closed.2.1, inv.store.serving (by rw [ended]; exact nofun)⟩
  · intro id extend found
    exact inv.calls id _ found

end EncosDriver.Ethercat.Reconfigure
