import EncosDriver.Motor.WaiterSteps

set_option autoImplicit false

namespace EncosDriver.Motor

open Lib Message World

def Call.result : Call → Option Bool
  | .sendAndWait _ (.leaving (.returned completed)) => some completed
  | .sendAndWait _ (.erasing (.returned completed)) => some completed
  | .sendAndWait _ (.done (.returned completed)) => some completed
  | _ => none

def ResultOk (shared : Shared) (id : Nat) (call : Call) : Prop :=
  ∀ completed, call.result = some completed → ∀ waiter, shared.waiters.find id = some waiter → completed = waiter.completed

def NotOvertaken (state : State) (action : Action) : Prop :=
  ∀ id answer message visited remaining, action = .run id answer →
    state.calls.find id = some (.onMessage message (.writing visited remaining)) →
      answer = .throws ∨ ∀ request completed, state.calls.find visited ≠ some (.sendAndWait request (.leaving (.returned completed)))

theorem set_completed (shared : Shared) (visited other : Nat) (waiter new later : Waiter)
    (at_ : shared.waiters.find visited = some waiter) (same : new.completed = waiter.completed)
    (located : (shared.setWaiter visited new).waiters.find other = some later) :
    ∃ found, shared.waiters.find other = some found ∧ later.completed = found.completed := by
  simp only [Shared.setWaiter, Table.find_put] at located
  split at located
  · next here =>
      cases located
      exact ⟨waiter, here ▸ at_, same⟩
  · exact ⟨later, located, rfl⟩

variable (shared : Shared) (id : Nat) (answer : Answer)

theorem run_completed (call : Call) (move : Move Shared Call)
    (taken : run shared id answer call = some move) (other : Nat) (later : Waiter)
    (located : move.shared.waiters.find other = some later)
    (entering : ∀ message, call = .sendAndWait message .entering → other ≠ id)
    (writing : ∀ message remaining, call = .onMessage message (.writing other remaining) → answer = .throws) :
    ∃ found, shared.waiters.find other = some found ∧ later.completed = found.completed := by
  have set (visited : Nat) (waiter new : Waiter) (at_ : shared.waiters.find visited = some waiter)
      (located : (shared.setWaiter visited new).waiters.find other = some later) (same : new.completed = waiter.completed) :=
    set_completed shared visited other waiter new later at_ same located
  cases call with
  | sendAndWait message pc =>
    cases pc with
    | entering =>
      simp only [run, sendAndWaitErased] at taken
      split at taken
      · cases taken
        exact ⟨later, located, rfl⟩
      · cases taken
        exact ⟨later, (Table.put_other _ _ _ _ (entering message rfl)).symm.trans located, rfl⟩
    | registered | sending => cases answer <;> obtain rfl := Option.some.inj taken <;> exact ⟨later, located, rfl⟩
    | waiting =>
      simp only [run, sendAndWaitErased] at taken
      split at taken
      · cases taken
      · cases taken
        exact ⟨later, located, rfl⟩
    | leaving outcome =>
      simp only [run, sendAndWaitErased] at taken
      split at taken
      · cases taken
      · next waiter free =>
          cases taken
          exact set id waiter _ (unlocked_some shared id waiter free).1 located rfl
    | erasing outcome =>
      cases taken
      exact ⟨later, located, rfl⟩
    | done outcome => cases taken
  | onMessage message pc =>
    cases pc with
    | entering =>
      cases taken
      exact ⟨later, located, rfl⟩
    | visiting waiting =>
      cases waiting with
      | nil =>
        cases taken
        exact ⟨later, located, rfl⟩
      | cons visited remaining =>
        simp only [run, onMessage] at taken
        split at taken
        · cases taken
        · next waiter free =>
            split at taken
            · cases taken
              exact ⟨later, located, rfl⟩
            · cases taken
              exact set visited waiter _ (unlocked_some shared visited waiter free).1 located rfl
    | checking visited remaining =>
      simp only [run, onMessage] at taken
      split at taken
      · cases taken
      · next waiter at_ =>
          cases answer with
          | returns =>
            cases taken
            exact ⟨later, located, rfl⟩
          | _ =>
            cases taken
            exact set visited waiter _ at_ located rfl
    | writing visited remaining =>
      simp only [run, onMessage] at taken
      split at taken
      · cases taken
      · next waiter at_ =>
          by_cases here : other = visited
          · subst here
            obtain rfl := writing message remaining rfl
            cases taken
            exact set other waiter _ at_ located rfl
          · have kept (new : Waiter) : (shared.setWaiter visited new).waiters.find other = shared.waiters.find other :=
              Table.put_other _ _ _ _ here
            cases answer <;> obtain rfl := Option.some.inj taken <;> exact ⟨later, (kept _).symm.trans located, rfl⟩
    | done => cases taken
  | cancelWaiters drains pc =>
    cases pc with
    | entering =>
      simp only [run, cancelWaiters] at taken
      split at taken <;> obtain rfl := Option.some.inj taken <;> exact ⟨later, located, rfl⟩
    | cancelling waiting =>
      cases waiting with
      | nil =>
        cases taken
        exact ⟨later, located, rfl⟩
      | cons visited remaining =>
        simp only [run, cancelWaiters] at taken
        split at taken
        · cases taken
        · next waiter free =>
            cases taken
            exact set visited waiter _ (unlocked_some shared visited waiter free).1 located rfl
    | draining =>
      simp only [run, cancelWaiters] at taken
      split at taken
      · cases taken
        exact ⟨later, located, rfl⟩
      · cases taken
    | done => cases taken

theorem receive_call (message : MotorPackMsg) (pc : ReceivePc) (move : Move Shared Call)
    (taken : onMessage shared id answer message pc = some move) : move.started = none ∧ ∃ later, move.call = .onMessage message later := by
  revert taken
  fun_cases onMessage shared id answer message pc <;> intro taken
  all_goals first | (obtain rfl := Option.some.inj taken; exact ⟨rfl, _, rfl⟩) | cases taken

theorem cancel_call (shared : Shared) (drains : Bool) (pc : CancelPc) (move : Move Shared Call)
    (taken : cancelWaiters shared drains pc = some move) : move.started = none ∧ ∃ later, move.call = .cancelWaiters drains later := by
  revert taken
  fun_cases cancelWaiters shared drains pc <;> intro taken
  all_goals first | (obtain rfl := Option.some.inj taken; exact ⟨rfl, _, rfl⟩) | cases taken

theorem send_call (message : MotorPackMsg) (pc : SendPc) (move : Move Shared Call)
    (taken : sendAndWaitErased shared id answer message pc = some move) :
    move.started = none ∧ ∃ later, move.call = .sendAndWait message later := by
  revert taken
  fun_cases sendAndWaitErased shared id answer message pc <;> intro taken
  all_goals first | (obtain rfl := Option.some.inj taken; exact ⟨rfl, _, rfl⟩) | cases taken

theorem run_started (call : Call) (move : Move Shared Call)
    (taken : run shared id answer call = some move) : move.started = none := by
  cases call with
  | sendAndWait message pc => exact (send_call shared id answer message pc move taken).1
  | onMessage message pc => exact (receive_call shared id answer message pc move taken).1
  | cancelWaiters drains pc => exact (cancel_call shared drains pc move taken).1

theorem own_result (call : Call) (move : Move Shared Call) (fine : CallOk shared id call)
    (before : ResultOk shared id call) (taken : run shared id answer call = some move) : ResultOk move.shared id move.call := by
  cases call with
  | sendAndWait message pc =>
    cases pc with
    | entering =>
      simp only [run, sendAndWaitErased] at taken
      split at taken
      · cases taken
        intro completed _ waiter located
        have absent : shared.waiters.find id = none := fine
        cases absent.symm.trans located
      · cases taken
        exact fun completed result => by cases result
    | registered | sending =>
      cases answer <;> obtain rfl := Option.some.inj taken <;> exact fun completed result => by cases result
    | waiting =>
      simp only [run, sendAndWaitErased] at taken
      split at taken
      · cases taken
      · next waiter free =>
          cases taken
          intro completed result found located
          cases (unlocked_some shared id waiter free).1.symm.trans located
          exact (Option.some.inj result).symm
    | leaving outcome =>
      simp only [run, sendAndWaitErased] at taken
      split at taken
      · cases taken
      · next waiter free =>
          cases taken
          intro completed result found located
          obtain rfl := Option.some.inj ((Table.put_same _ _ _).symm.trans located)
          refine before completed ?_ waiter (unlocked_some shared id waiter free).1
          cases outcome with
          | returned other => exact result
          | threw => cases result
    | erasing outcome =>
      cases taken
      intro completed result
      refine before completed ?_
      cases outcome with
      | returned other => exact result
      | threw => cases result
    | done outcome => cases taken
  | onMessage message pc =>
    obtain ⟨_, later, same⟩ := receive_call shared id answer message pc move taken
    rw [same]
    exact fun completed result => by cases result
  | cancelWaiters drains pc =>
    obtain ⟨_, later, same⟩ := cancel_call shared drains pc move taken
    rw [same]
    exact fun completed result => by cases result

def ResultsOk (state : State) : Prop := ∀ id call, state.calls.find id = some call → ResultOk state.shared id call

variable (state : State)

theorem start_results (call : Call) (results : ResultsOk state) (none : call.result = none) : ResultsOk (state.start call) := by
  intro id other found
  rw [find_start] at found
  split at found
  · cases found
    intro completed result
    rw [none] at result
    cases result
  · exact results id other found

theorem step_results (state next : State) (action : Action) (inv : WaiterInv state) (results : ResultsOk state)
    (allowed : NotOvertaken state action) (taken : step state action = some next) : ResultsOk next := by
  cases action with
  | sendAndWait message | onMessage message | cancelWaiters drains =>
    cases taken
    exact start_results state _ results rfl
  | run id answer =>
    simp only [step] at taken
    split at taken
    · cases taken
    · next call present =>
        obtain ⟨move, ran, rfl⟩ := Option.map_eq_some_iff.mp taken
        have fine := inv.calls id call present
        have own := own_result state.shared id answer call move fine (results id call present) ran
        have started : move.started = none := run_started state.shared id answer call move ran
        intro other otherCall found
        rw [advance_shared]
        rcases find_advance_cases state id other move otherCall found with ⟨rfl, rfl⟩ | ⟨_, child⟩ | ⟨different, old⟩
        · exact own
        · rw [started] at child
          cases child
        · intro completed result later located
          have calm := inv.calls other otherCall old
          -- Only a SendAndWait that has read its result has one, and its waiter is not held.
          have writing : ∀ message remaining, call = .onMessage message (.writing other remaining) → answer = .throws := by
            rintro message remaining rfl
            obtain ⟨_, ⟨waiter, at_, locked⟩, _⟩ := fine
            have open_ := ((inv.store.waiters other waiter at_).held (by simp [locked])).2
            have unmarked : ¬ state.shared.Cancelled other := by
              rintro ⟨found, located, cancelled⟩
              cases at_.symm.trans located
              cases open_.symm.trans cancelled
            cases otherCall with
            | sendAndWait request pc =>
              cases pc with
              | leaving outcome =>
                cases outcome with
                | returned read => exact (allowed id answer message other remaining rfl present).resolve_right fun unread => unread _ _ old
                | threw => cases result
              | erasing outcome => exact absurd calm unmarked
              | done outcome =>
                rcases calm with cancelled | ⟨_, absent⟩
                · exact absurd cancelled unmarked
                · cases at_.symm.trans absent
              | _ => cases result
            | _ => cases result
          obtain ⟨waiter, before, same⟩ := run_completed state.shared id answer call move ran other later located
            (fun _ _ => different) writing
          rw [same]
          exact results other otherCall old completed result waiter before

structure Drained (state : State) : Prop where
  unregistered : state.shared.registered = []
  idle : state.shared.activeWaiterOperations = 0
  outside : ∀ id message pc, state.calls.find id = some (.sendAndWait message pc) → pc = .entering ∨ ∃ outcome, pc = .done outcome
  refuses : ∀ id message answer next, state.calls.find id = some (.sendAndWait message .entering) →
    step state (.run id answer) = some next →
      next.calls.find id = some (.sendAndWait message (.done (.returned false))) ∧ next.shared.sent = state.shared.sent

structure Protocol (state : State) : Prop where
  once : ∀ id, (entriesOf id state.shared.started).length ≤ 1
  within : ∀ receiver message visited remaining, state.calls.find receiver = some (.onMessage message (.writing visited remaining)) →
    ∀ request outcome, state.calls.find visited ≠ some (.sendAndWait request (.done outcome))
  drained : ∀ id, state.calls.find id = some (.cancelWaiters true .done) → Drained state

-- What a SendAndWait has returned tells whether its writer ran to its end on a
-- message that its checker accepted.
def Truthful (state : State) : Prop :=
  ∀ id message completed, state.calls.find id = some (.sendAndWait message (.done (.returned completed))) →
    (completed = true ↔ ∃ response, (id, response) ∈ state.shared.accepted ∧ (id, response) ∈ state.shared.finished)

theorem started_once (inv : WaiterInv state) (id : Nat) : (entriesOf id state.shared.started).length ≤ 1 := by
  cases found : state.shared.waiters.find id with
  | some waiter => exact (inv.store.waiters id waiter found).once
  | none =>
    have empty : entriesOf id state.shared.started = [] := by
      refine List.filter_eq_nil_iff.mpr fun entry member same => ?_
      simp only [decide_eq_true_eq] at same
      exact inv.store.startedKnown entry member (same ▸ found)
    rw [empty]
    exact Nat.zero_le 1

theorem writing_within (inv : WaiterInv state) (receiver visited : Nat) (message request : MotorPackMsg)
    (remaining : List Nat) (outcome : Outcome) (writing : state.calls.find receiver = some (.onMessage message (.writing visited remaining))) :
    state.calls.find visited ≠ some (.sendAndWait request (.done outcome)) := by
  intro ended
  obtain ⟨_, ⟨waiter, at_, locked⟩, _⟩ := inv.calls receiver _ writing
  obtain ⟨_, open_⟩ := (inv.store.waiters visited waiter at_).held (by simp [locked])
  rcases inv.calls visited _ ended with ⟨found, located, cancelled⟩ | ⟨_, absent⟩
  · cases at_.symm.trans located
    cases open_.symm.trans cancelled
  · cases at_.symm.trans absent

theorem cancelled_drained (inv : WaiterInv state) (id : Nat)
    (cancelled : state.calls.find id = some (.cancelWaiters true .done)) : Drained state := by
  obtain ⟨rejecting, drained⟩ := inv.calls id _ cancelled
  have idle := drained rfl
  refine ⟨inv.store.closed rejecting, idle, ?_, ?_⟩
  · intro other message pc found
    have positive := amount_le_tally Call.operating state other _ found
    rw [← inv.counted, idle] at positive
    cases pc with
    | entering => exact .inl rfl
    | done outcome => exact .inr ⟨outcome, rfl⟩
    | _ => exact absurd positive (Nat.not_succ_le_zero 0)
  · intro other message answer next found taken
    have refused : run state.shared other answer (.sendAndWait message .entering) =
        moved state.shared (.sendAndWait message (.done (.returned false))) := by
      simp only [run, sendAndWaitErased, rejecting, ↓reduceIte]
    simp only [step, found, refused, moved, Option.map_some] at taken
    cases taken
    exact ⟨find_advance_self state other _ (inv.numbered other _ found), rfl⟩

theorem protocol_kept (reached : Reachable system state) : Protocol state := by
  have inv := waiter_inv state reached
  refine ⟨started_once state inv, ?_, cancelled_drained state inv⟩
  intro receiver message visited remaining writing request outcome
  exact writing_within state inv receiver visited message request remaining outcome writing

theorem results_ok (reached : ReachableWith system NotOvertaken state) : ResultsOk state := by
  refine reachable_invariant_under system NotOvertaken WaiterInv ResultsOk ?_ ?_ ?_ state reached
  · intro state reached
    exact waiter_inv state (reachable_forget system NotOvertaken state reached)
  · rintro state rfl id call found
    cases found
  · intro state action next inv _ results allowed taken
    exact step_results state next action inv results allowed taken

theorem results_truthful (inv : WaiterInv state) (results : ResultsOk state) : Truthful state := by
  intro id message completed found
  have result := results id _ found completed rfl
  have accepted : (∃ response, (id, response) ∈ state.shared.accepted ∧ (id, response) ∈ state.shared.finished) ↔
      ∃ response, (id, response) ∈ state.shared.finished := by
    constructor
    · rintro ⟨response, _, finished⟩
      exact ⟨response, finished⟩
    · rintro ⟨response, finished⟩
      exact ⟨response, inv.store.accepted _ finished, finished⟩
  rw [accepted]
  rcases inv.calls id _ found with ⟨waiter, at_, _⟩ | ⟨refused, absent⟩
  · rw [result waiter at_]
    exact (inv.store.waiters id waiter at_).completed
  · cases refused
    constructor
    · intro wrong
      cases wrong
    · rintro ⟨response, finished⟩
      exact absurd absent (inv.store.finishedKnown _ finished)

theorem leaving_returns (id : Nat) (request : MotorPackMsg) (outcome : Outcome) (waiter : Waiter)
    (known : id < state.nextCall) (found : state.calls.find id = some (.sendAndWait request (.leaving outcome)))
    (free : state.shared.unlocked id = some waiter) :
    ∃ after, runActions system state [.run id .returns, .run id .returns] = some after ∧
      after.calls.find id = some (.sendAndWait request (.done outcome)) ∧ after.shared.accepted = state.shared.accepted ∧
        after.shared.finished = state.shared.finished := by
  let marked := state.advance id
    ⟨state.shared.setWaiter id { waiter with cancelled := true }, .sendAndWait request (.erasing outcome), none⟩
  let erased := marked.advance id ⟨marked.shared.unregister id, .sendAndWait request (.done outcome), none⟩
  have first : step state (.run id .returns) = some marked := by
    simp only [step, found, run, sendAndWaitErased, free, moved, Option.map_some]
    rfl
  have erasing : marked.calls.find id = some (.sendAndWait request (.erasing outcome)) := find_advance_self state id _ known
  have second : step marked (.run id .returns) = some erased := by
    simp only [step, erasing, run, sendAndWaitErased, moved, Option.map_some]
    rfl
  refine ⟨erased, ?_, find_advance_self marked id _ known, rfl, rfl⟩
  simp only [runActions, runChecked, ↓reduceIte]
  rw [show system.step state (.run id .returns) = some marked from first]
  simp only
  rw [show system.step marked (.run id .returns) = some erased from second]

theorem overtaken_untruthful (state next : State) (id : Nat) (answer : Answer) (message request : MotorPackMsg) (visited : Nat)
    (remaining : List Nat) (completed : Bool) (inv : WaiterInv state) (results : ResultsOk state)
    (writing : state.calls.find id = some (.onMessage message (.writing visited remaining))) (ended : answer ≠ .throws)
    (read : state.calls.find visited = some (.sendAndWait request (.leaving (.returned completed))))
    (taken : step state (.run id answer) = some next) :
    ∃ after, runActions system next [.run visited .returns, .run visited .returns] = some after ∧ ¬ Truthful after := by
  obtain ⟨_, ⟨waiter, at_, locked⟩, _, accepted⟩ := inv.calls id _ writing
  obtain ⟨uncompleted, _⟩ := (inv.store.waiters visited waiter at_).held (by simp [locked])
  obtain rfl : completed = false := (results visited _ read completed rfl waiter at_).trans uncompleted
  have different : visited ≠ id := by
    rintro rfl
    cases read.symm.trans writing
  have known := inv.numbered visited _ read
  let new : Waiter := { waiter with locked := none, completed := true }
  let wrote : Shared := { state.shared.setWaiter visited new with finished := state.shared.finished ++ [(visited, message)] }
  obtain rfl : state.advance id ⟨wrote, .onMessage message (.visiting remaining), none⟩ = next := by
    simp only [step, writing, run, onMessage, at_] at taken
    cases answer with
    | throws => exact absurd rfl ended
    | _ => exact Option.some.inj taken
  have reading := (find_advance_other state id visited ⟨wrote, .onMessage message (.visiting remaining), none⟩ different known).trans read
  have free : wrote.unlocked visited = some new := by simp [wrote, new, Shared.unlocked, Shared.setWaiter]
  obtain ⟨after, ran, done, acceptedKept, finishedKept⟩ := leaving_returns
    (state.advance id ⟨wrote, .onMessage message (.visiting remaining), none⟩) visited request (.returned false) new known reading free
  refine ⟨after, ran, fun truthful => ?_⟩
  have ran : false = true := (truthful visited request false done).mpr
    ⟨message, acceptedKept ▸ accepted, finishedKept ▸ List.mem_append_right _ (List.mem_singleton.mpr rfl)⟩
  cases ran

theorem waiter_protocol (state : State) :
    (Reachable system state → Protocol state) ∧ (ReachableWith system NotOvertaken state → Truthful state) ∧
      ∀ action next, ReachableWith system NotOvertaken state → ¬ NotOvertaken state action → step state action = some next →
        ∃ caller after, runActions system next [.run caller .returns, .run caller .returns] = some after ∧ ¬ Truthful after := by
  refine ⟨protocol_kept state, ?_, ?_⟩
  · intro reached
    exact results_truthful state (waiter_inv state (reachable_forget system NotOvertaken state reached)) (results_ok state reached)
  · intro action next reached broken taken
    simp only [NotOvertaken] at broken
    push Not at broken
    obtain ⟨id, answer, message, visited, remaining, rfl, writing, ended, request, completed, read⟩ := broken
    obtain ⟨after, ran, untruthful⟩ := overtaken_untruthful state next id answer message request visited remaining completed
      (waiter_inv state (reachable_forget system NotOvertaken state reached)) (results_ok state reached) writing ended read taken
    exact ⟨visited, after, ran, untruthful⟩

def notOvertaken (state : State) : Action → Bool
  | .run id answer =>
    match state.calls.find id with
    | some (.onMessage _ (.writing visited _)) =>
      match state.calls.find visited with
      | some (.sendAndWait _ (.leaving (.returned _))) => answer = .throws
      | _ => true
    | _ => true
  | _ => true

theorem not_overtaken (state : State) (action : Action) (passed : notOvertaken state action = true) : NotOvertaken state action := by
  rintro id answer message visited remaining rfl writing
  by_cases thrown : answer = .throws
  · exact .inl thrown
  · refine .inr fun request completed read => thrown ?_
    simpa [notOvertaken, writing, read] using passed

def twoCallsRun : List Action :=
  [.sendAndWait ⟨1, 0, 1, payload []⟩, .run 0 .returns, .run 0 .returns, .run 0 .returns, .sendAndWait ⟨2, 0, 1, payload []⟩,
    .run 1 .returns, .run 1 .returns, .run 1 .returns, .onMessage ⟨1, 0, 1, payload [7]⟩, .run 2 .returns, .run 2 .returns,
    .run 2 .returns, .run 2 .returns, .run 2 .returns, .run 2 .rejects, .run 2 .returns, .run 0 .returns, .run 0 .returns,
    .run 0 .returns, .run 1 .returns, .run 1 .returns, .run 1 .returns, .cancelWaiters true, .run 3 .returns, .run 3 .returns,
    .run 3 .returns]

def twoCallsState : State := (runChecked system notOvertaken initial twoCallsRun).getD initial

theorem two_calls_reached : ReachableWith system NotOvertaken twoCallsState :=
  run_checked_default system NotOvertaken notOvertaken not_overtaken twoCallsRun initial (.start _ rfl)

def lateReplyRun : List Action :=
  [.sendAndWait ⟨1, 0, 1, payload []⟩, .run 0 .returns, .run 0 .returns, .run 0 .returns, .onMessage ⟨1, 0, 1, payload [7]⟩,
    .run 1 .returns, .run 0 .returns, .run 1 .returns, .run 1 .returns, .run 1 .returns, .run 0 .returns, .run 0 .returns]

def lateWriterState : State := (runChecked system notOvertaken initial (lateReplyRun.take 9)).getD initial

theorem late_writer_reached : ReachableWith system NotOvertaken lateWriterState :=
  run_checked_default system NotOvertaken notOvertaken not_overtaken (lateReplyRun.take 9) initial (.start _ rfl)

def lateEndState : State := (step lateWriterState (.run 1 .returns)).getD lateWriterState

theorem late_writer_overtakes : step lateWriterState (.run 1 .returns) = some lateEndState ∧
    ¬ NotOvertaken lateWriterState (.run 1 .returns) := by
  obtain ⟨ran, writing, read⟩ : (step lateWriterState (.run 1 .returns)).isSome = true ∧
      lateWriterState.calls.find 1 = some (.onMessage ⟨1, 0, 1, payload [7]⟩ (.writing 0 [])) ∧
      lateWriterState.calls.find 0 = some (.sendAndWait ⟨1, 0, 1, payload []⟩ (.leaving (.returned false))) := by decide +kernel
  refine ⟨?_, fun allowed => ?_⟩
  · obtain ⟨next, taken⟩ := Option.isSome_iff_exists.mp ran
    rw [lateEndState, taken, Option.getD_some]
  · rcases allowed 1 .returns _ 0 [] rfl writing with thrown | spared
    · cases thrown
    · exact spared _ false read

/-- One call returns true, the other false, and the cancelled motor is drained; a late writer breaks the results. -/
theorem waiter_protocol_two_calls :
    (twoCallsState.calls.find 0 = some (.sendAndWait ⟨1, 0, 1, payload []⟩ (.done (.returned true))) ∧
      twoCallsState.calls.find 1 = some (.sendAndWait ⟨2, 0, 1, payload []⟩ (.done (.returned false))) ∧
      twoCallsState.calls.find 3 = some (.cancelWaiters true .done)) ∧
      Protocol twoCallsState ∧ Truthful twoCallsState ∧
      ∃ caller after, runActions system lateEndState [.run caller .returns, .run caller .returns] = some after ∧ ¬ Truthful after := by
  refine ⟨by decide +kernel, ?_, (waiter_protocol twoCallsState).2.1 two_calls_reached, ?_⟩
  · exact (waiter_protocol twoCallsState).1 (reachable_forget system NotOvertaken twoCallsState two_calls_reached)
  · exact (waiter_protocol lateWriterState).2.2 (.run 1 .returns) lateEndState late_writer_reached late_writer_overtakes.2
      late_writer_overtakes.1

def lateReplyState : State := (runActions system initial lateReplyRun).getD initial

theorem late_reply_lost : Reachable system lateReplyState ∧ ¬ Truthful lateReplyState := by
  refine ⟨run_actions_default system lateReplyRun initial (.start _ rfl), ?_⟩
  intro truthful
  obtain ⟨returned, written⟩ :
      lateReplyState.calls.find 0 = some (.sendAndWait ⟨1, 0, 1, payload []⟩ (.done (.returned false))) ∧
      (0, (⟨1, 0, 1, payload [7]⟩ : MotorPackMsg)) ∈ lateReplyState.shared.accepted ∧
      (0, (⟨1, 0, 1, payload [7]⟩ : MotorPackMsg)) ∈ lateReplyState.shared.finished := by decide +kernel
  have ran : false = true := (truthful 0 _ false returned).mpr ⟨_, written⟩
  cases ran

end EncosDriver.Motor
