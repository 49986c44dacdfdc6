import EncosDriver.Ethercat.RecoverySafety

set_option autoImplicit false

namespace EncosDriver.Ethercat.Recovery

open Lib Message

def Origin (line : Line) (shared : Shared) : Event → Prop
  | .began operational => operational = shared.inOperational
  | .wrote outputs =>
    ∃ wasOperational frame, shared.loop = .writing wasOperational frame ∧
      outputs = mappedOutputs line (writeOutputs line frame shared.slaves)
  | .asked => shared.loop = .asking ∧ shared.running = true
  | .granted => shared.loop = .granting ∧ shared.inOperational = true
  | .called messages => shared.loop = .calling ∧ messages = readInputs line shared
  | _ => True

theorem recorded_one (history : List Event) (first second : Event) (same : history ++ [first] = history ++ [second]) :
    first = second := by
  simpa using same

theorem recorded_none (history : List Event) (event : Event) : history ≠ history ++ [event] := by
  intro same
  have lengths := congrArg List.length same
  simp at lengths

variable (line : Line)

theorem visit_origin (shared : Shared) (slave : Nat) (allOperational : Bool) (seen : List (Nat × Nat))
    (event : Event) (noted : (visit line shared slave allOperational seen).history = shared.history ++ [event]) :
    Origin line shared event := by
  unfold visit at noted
  dsimp only at noted
  split at noted
  · split at noted
    · exact absurd noted (recorded_none _ _)
    · split at noted
      · rw [← recorded_one _ _ _ noted]
        trivial
      · rw [← recorded_one _ _ _ noted]
        trivial
  · exact absurd noted (recorded_none _ _)

theorem judge_exchange_origin (shared : Shared) (wasOperational : Bool) (reply : Reply) (event : Event)
    (noted : (judgeExchange line shared wasOperational reply).history = shared.history ++ [event]) :
    Origin line shared event := by
  have received : ∃ valid, (judgeExchange line shared wasOperational reply).history = shared.history ++ [.exchanged valid] := by
    unfold judgeExchange
    cases badWkc line reply.result <;> cases wasOperational <;> exact ⟨_, rfl⟩
  obtain ⟨valid, recorded⟩ := received
  rw [← recorded_one _ _ _ (recorded.symm.trans noted)]
  trivial

theorem work_origin (shared next : Shared) (reply : Reply) (event : Event)
    (taken : work line shared reply = some next) (noted : next.history = shared.history ++ [event]) :
    Origin line shared event := by
  have silent : next.history = shared.history → Origin line shared event :=
    fun same => absurd (same.symm.trans noted) (recorded_none _ _)
  have only : ∀ recorded, next.history = shared.history ++ [recorded] → Origin line shared recorded →
      Origin line shared event := by
    intro recorded grown origin
    rw [← recorded_one _ _ _ (grown.symm.trans noted)]
    exact origin
  cases pc : shared.loop with
  | idle => simp [work, pc] at taken
  | reading =>
    simp only [work, pc, Option.some.injEq] at taken
    exact only (.read _) (by rw [← taken]; rfl) trivial
  | visiting slave allOperational seen =>
    simp only [work, pc, Option.some.injEq] at taken
    rw [← taken] at noted
    exact visit_origin line shared slave allOperational seen event noted
  | settling allOperational seen =>
    simp only [work, pc, Option.some.injEq] at taken
    exact only (.checked allOperational seen) (by rw [← taken]; rfl) trivial
  | degrading caller =>
    simp only [work, pc, Option.some.injEq] at taken
    exact only .degraded (by rw [← taken]; rfl) trivial
  | loading =>
    simp only [work, pc, Option.some.injEq] at taken
    exact only (.began shared.inOperational) (by rw [← taken]; rfl) rfl
  | preparing wasOperational =>
    simp only [work, pc] at taken
    exact silent (by cases wasOperational <;> cases taken <;> rfl)
  | writing wasOperational frame =>
    simp only [work, pc, Option.some.injEq] at taken
    exact only (.wrote (mappedOutputs line (writeOutputs line frame shared.slaves))) (by rw [← taken]; rfl)
      ⟨wasOperational, frame, pc, rfl⟩
  | receiving wasOperational =>
    simp only [work, pc, Option.some.injEq] at taken
    rw [← taken] at noted
    exact judge_exchange_origin line shared wasOperational reply event noted
  | asking =>
    cases running : shared.running with
    | true =>
      simp only [work, pc, running, ↓reduceIte, Option.some.injEq] at taken
      exact only .asked (by rw [← taken]; rfl) ⟨pc, running⟩
    | false =>
      simp only [work, pc, running, Bool.false_eq_true, ↓reduceIte, Option.some.injEq] at taken
      exact silent (by rw [← taken]; rfl)
  | granting =>
    cases raised : shared.inOperational with
    | true =>
      simp only [work, pc, raised, ↓reduceIte, Option.some.injEq] at taken
      exact only .granted (by rw [← taken]; rfl) ⟨pc, raised⟩
    | false =>
      simp only [work, pc, raised, Bool.false_eq_true, ↓reduceIte, Option.some.injEq] at taken
      exact silent (by rw [← taken]; rfl)
  | calling =>
    cases set : reply.callback with
    | true =>
      simp only [work, pc, set, ↓reduceIte, Option.some.injEq] at taken
      exact only (.called (readInputs line shared)) (by rw [← taken]; rfl) ⟨pc, rfl⟩
    | false =>
      simp only [work, pc, set, Bool.false_eq_true, ↓reduceIte, Option.some.injEq] at taken
      exact silent (by rw [← taken]; rfl)
  | _ =>
    simp only [work, pc, Option.some.injEq] at taken
    exact silent (by rw [← taken]; rfl)

theorem visit_kept (shared : Shared) (slave : Nat) (allOperational : Bool) (seen : List (Nat × Nat)) :
    (visit line shared slave allOperational seen).inOperational = shared.inOperational ∧
      (visit line shared slave allOperational seen).handle = shared.handle := by
  unfold visit
  dsimp only
  split
  · split
    · exact ⟨rfl, rfl⟩
    · split <;> exact ⟨rfl, rfl⟩
  · exact ⟨rfl, rfl⟩

theorem judge_exchange_kept (shared : Shared) (wasOperational : Bool) (reply : Reply) :
    (judgeExchange line shared wasOperational reply).inOperational = shared.inOperational ∧
      (judgeExchange line shared wasOperational reply).handle = shared.handle := by
  unfold judgeExchange
  cases badWkc line reply.result <;> cases wasOperational <;> exact ⟨rfl, rfl⟩

theorem work_changes (shared next : Shared) (reply : Reply) (taken : work line shared reply = some next) :
    (next.inOperational = shared.inOperational ∧ next.handle = shared.handle) ∨
      (shared.loop = .recovering ∧ next.handle = shared.handle) ∨
      ((∃ caller, shared.loop = .degrading caller) ∧ next.inOperational = false ∧ next.handle = shared.handle) ∨
      (shared.loop = .preparing true ∧ next.inOperational = shared.inOperational) := by
  cases pc : shared.loop with
  | idle => simp [work, pc] at taken
  | visiting slave allOperational seen =>
    simp only [work, pc, Option.some.injEq] at taken
    rw [← taken]
    exact .inl (visit_kept line shared slave allOperational seen)
  | receiving wasOperational =>
    simp only [work, pc, Option.some.injEq] at taken
    rw [← taken]
    exact .inl (judge_exchange_kept line shared wasOperational reply)
  | preparing wasOperational =>
    simp only [work, pc] at taken
    cases wasOperational with
    | true =>
      cases taken
      exact .inr (.inr (.inr ⟨rfl, rfl⟩))
    | false =>
      cases taken
      exact .inl ⟨rfl, rfl⟩
  | recovering =>
    simp only [work, pc, Option.some.injEq] at taken
    rw [← taken]
    exact .inr (.inl ⟨rfl, rfl⟩)
  | degrading caller =>
    simp only [work, pc, Option.some.injEq] at taken
    rw [← taken]
    exact .inr (.inr (.inl ⟨⟨caller, rfl⟩, rfl, rfl⟩))
  | asking =>
    simp only [work, pc, Option.some.injEq] at taken
    rw [← taken]
    cases shared.running <;> exact .inl ⟨rfl, rfl⟩
  | granting =>
    simp only [work, pc, Option.some.injEq] at taken
    rw [← taken]
    split <;> exact .inl ⟨rfl, rfl⟩
  | calling =>
    simp only [work, pc, Option.some.injEq] at taken
    rw [← taken]
    cases reply.callback <;> exact .inl ⟨rfl, rfl⟩
  | _ =>
    simp only [work, pc, Option.some.injEq] at taken
    rw [← taken]
    exact .inl ⟨rfl, rfl⟩

def gone (shared : Shared) : List QueuedFrame × List QueuedFrame := (shared.handle.handed, shared.handle.discarded)

theorem queue_gone (handle : Handle) (submitted : Submitted) :
    (submitted.queue handle).handed = handle.handed ∧ (submitted.queue handle).discarded = handle.discarded := by
  cases submitted with
  | single message =>
    simp only [Submitted.queue, Handle.queueMessage]
    split <;> split <;> exact ⟨rfl, rfl⟩
  | several messages =>
    simp only [Submitted.queue, Handle.queueMessages, Handle.appendPendingMessagesLocked]
    split
    · exact ⟨rfl, rfl⟩
    · split <;> exact ⟨rfl, rfl⟩
  | synchronized messages =>
    simp only [Submitted.queue, Handle.queueSynchronizedMessages, Handle.appendPendingMessagesLocked]
    split <;> exact ⟨rfl, rfl⟩

def Zero (outputs : List (List UInt8)) : Prop := ∀ output ∈ outputs, ∀ byte ∈ output, byte = 0

instance (outputs : List (List UInt8)) : Decidable (Zero outputs) := inferInstanceAs (Decidable (∀ _ ∈ outputs, _))

theorem mapped_outputs_zero (slaves : Nat → Slave) : Zero (mappedOutputs line (writeOutputs line [] slaves)) := by
  intro output among byte inside
  simp only [mappedOutputs, List.mem_map, List.mem_filter, List.mem_range'_1] at among
  obtain ⟨slave, ⟨range, mapped⟩, written⟩ := among
  have covered : 1 ≤ slave ∧ slave ≤ line.slavecount := ⟨range.1, by omega⟩
  have zeros : output = List.replicate (line.slaves slave).obytes 0 := by
    rw [← written]
    simp [writeOutputs, writeOutput, covered, mapped]
  rw [zeros] at inside
  exact List.eq_of_mem_replicate inside

def Unfit (history : List Event) : Prop :=
  Ended history (.read false) ∨ Denied history ∨ (Ended history (.exchanged false) ∧ Exhausted history)

def Stops (state : State) : Action → Prop
  | .run id => state.calls.find id = some (.requestStop .storing)
  | _ => False

-- An exchange that is past its entry test and has not sent its frame yet.
def LoopPc.entered : LoopPc → Bool
  | .loading | .preparing _ | .writing _ _ => true
  | _ => false

-- The running exchange made its entry test in this state and found `running_`
-- set.
def EnteredAt (line : Line) (entry state : State) : Prop :=
  Reachable (system line) entry ∧ entry.shared.loop = .entering ∧ entry.shared.running = true ∧
    RunsWhile (system line) (fun between => between.shared.loop = .entering ∨ between.shared.loop.entered = true) entry state

-- The running exchange found both flags set, and only a stop that came after its
-- entry test can have ended the operation.
def Operating (line : Line) (state : State) : Prop :=
  (∃ entry, EnteredAt line entry state) ∧ Begun true state.shared.history ∧ (state.shared.running = true → state.shared.ok = true)

structure StepSafe (line : Line) (state : State) (action : Action) (next : State) : Prop where
  raised : state.shared.ok = false → next.shared.ok = true →
    Confirmed line state.shared.history ∧ Ended state.shared.history (.exchanged true)
  lowered : state.shared.ok = true → next.shared.ok = false → Stops state action ∨ Unfit state.shared.history
  writes : ∀ outputs, next.shared.history = state.shared.history ++ [.wrote outputs] → Zero outputs ∨ Operating line state
  takes : gone next.shared ≠ gone state.shared → Operating line state
  calls : ∀ messages, next.shared.history = state.shared.history ++ [.called messages] →
    [.exchanged true, .asked, .granted] <:+ state.shared.history ∧ (state.shared.running = true → state.shared.ok = true)
  begins : ∀ operational, next.shared.history = state.shared.history ++ [.began operational] →
    operational = state.shared.inOperational
  asks : next.shared.history = state.shared.history ++ [.asked] → state.shared.running = true
  grants : next.shared.history = state.shared.history ++ [.granted] → state.shared.inOperational = true

variable (state next : State) (action : Action)

def InExchange (line : Line) (state : State) : Prop := state.shared.loop.entered = true → ∃ entry, EnteredAt line entry state

theorem step_silent (history : next.shared.history = state.shared.history) (frames : gone next.shared = gone state.shared)
    (kept : next.shared.ok = true → state.shared.ok = true)
    (stops : state.shared.ok = true → next.shared.ok = false → Stops state action) : StepSafe line state action next := by
  have silent : ∀ event, next.shared.history ≠ state.shared.history ++ [event] :=
    fun event grown => recorded_none _ event (history.symm.trans grown)
  exact
    { raised := fun before after => absurd (kept after) (by simp [before])
      lowered := fun before after => .inl (stops before after)
      writes := fun _ grown => absurd grown (silent _)
      takes := fun changed => absurd frames changed
      calls := fun _ grown => absurd grown (silent _)
      begins := fun _ grown => absurd grown (silent _)
      asks := fun grown => absurd grown (silent _)
      grants := fun grown => absurd grown (silent _) }

theorem step_quiet (running : next.shared.running = state.shared.running)
    (inOperational : next.shared.inOperational = state.shared.inOperational)
    (history : next.shared.history = state.shared.history) (frames : gone next.shared = gone state.shared) :
    StepSafe line state action next := by
  have ok : next.shared.ok = state.shared.ok := by rw [Shared.ok, Shared.ok, running, inOperational]
  refine step_silent line state next action history frames (fun after => ok.symm.trans after) ?_
  intro before after
  exact absurd (ok.symm.trans after) (by simp [before])

theorem work_raised (shared next : Shared) (reply : Reply) (inv : Inv line shared)
    (taken : work line shared reply = some next) (before : shared.ok = false) (after : next.ok = true) :
    Confirmed line shared.history ∧ Ended shared.history (.exchanged true) := by
  simp only [Shared.ok, Bool.and_eq_true, work_running line shared next reply taken] at after
  have low : shared.inOperational = false := by simpa [Shared.ok, after.1] using before
  rcases work_changes line shared next reply taken with ⟨same, _⟩ | ⟨pc, _⟩ | ⟨_, lowered, _⟩ | ⟨_, same⟩
  · exact absurd (same.symm.trans after.2) (by simp [low])
  · have here := inv.here
    rw [pc] at here
    exact ⟨inv.confirmed after.1 low here.2.2, here.1⟩
  · exact absurd (lowered.symm.trans after.2) (by simp)
  · exact absurd (same.symm.trans after.2) (by simp [low])

theorem work_lowered (shared next : Shared) (reply : Reply) (inv : Inv line shared)
    (taken : work line shared reply = some next) (before : shared.ok = true) (after : next.ok = false) :
    Unfit shared.history := by
  simp only [Shared.ok, Bool.and_eq_true] at before
  have low : next.inOperational = false := by
    simpa [Shared.ok, work_running line shared next reply taken, before.1] using after
  have here := inv.here
  rcases work_changes line shared next reply taken with ⟨same, _⟩ | ⟨pc, _⟩ | ⟨⟨caller, pc⟩, _, _⟩ | ⟨_, same⟩
  · exact absurd (low.symm.trans same) (by simp [before.2])
  · rw [pc] at here
    exact absurd (here.2.1.symm.trans before.2) (by simp)
  · rw [pc] at here
    cases caller with
    | reading => exact .inl here
    | visiting slave seen => exact .inr (.inl here)
    | exchanging => exact .inr (.inr ⟨here.1, here.2 before.2⟩)
  · exact absurd (low.symm.trans same) (by simp [before.2])

theorem visit_entered (shared : Shared) (slave : Nat) (allOperational : Bool) (seen : List (Nat × Nat)) :
    (visit line shared slave allOperational seen).loop.entered = false := by
  unfold visit
  dsimp only
  split
  · split
    · rfl
    · split <;> rfl
  · rfl

theorem judge_exchange_entered (shared : Shared) (wasOperational : Bool) (reply : Reply) :
    (judgeExchange line shared wasOperational reply).loop.entered = false := by
  unfold judgeExchange
  cases badWkc line reply.result <;> cases wasOperational <;> dsimp only [Shared.goto] <;> try rfl
  simp only [if_true, Bool.not_true, Bool.false_eq_true, if_false]
  split <;> rfl

theorem work_entered (shared next : Shared) (reply : Reply) (taken : work line shared reply = some next)
    (inside : next.loop.entered = true) : shared.loop = .entering ∧ shared.running = true ∨ shared.loop.entered = true := by
  cases pc : shared.loop with
  | loading | preparing wasOperational | writing wasOperational frame => exact .inr rfl
  | entering =>
    simp only [work, pc] at taken
    cases taken
    cases running : shared.running with
    | true => exact .inl ⟨rfl, rfl⟩
    | false =>
      simp only [running, Bool.false_eq_true, if_false] at inside
      cases inside
  | idle => simp [work, pc] at taken
  | visiting slave allOperational seen =>
    simp only [work, pc, Option.some.injEq] at taken
    rw [← taken, visit_entered] at inside
    cases inside
  | receiving wasOperational =>
    simp only [work, pc, Option.some.injEq] at taken
    rw [← taken, judge_exchange_entered] at inside
    cases inside
  | degrading caller =>
    simp only [work, pc] at taken
    cases taken
    cases caller <;> cases inside
  | reading | acting slave seen | settling allOperational seen | recovering | calling =>
    simp only [work, pc] at taken
    cases taken
    cases inside
  | _ =>
    simp only [work, pc] at taken
    cases taken
    split at inside <;> cases inside

theorem loaded_operating (state : State) (entered : ∃ entry, EnteredAt line entry state) (begun : Begun true state.shared.history)
    (loaded : Loaded true state.shared.running state.shared.inOperational) : Operating line state :=
  ⟨entered, begun, fun running => by rw [Shared.ok, running, loaded.2 rfl running]; rfl⟩

theorem work_safe (state : State) (shared : Shared) (reply : Reply) (inv : Inv line state.shared) (inside : InExchange line state)
    (taken : work line state.shared reply = some shared) :
    StepSafe line state (.work reply) { state with shared := shared } := by
  have here := inv.here
  refine ⟨work_raised line state.shared shared reply inv taken,
    fun before after => .inr (work_lowered line state.shared shared reply inv taken before after), ?_, ?_, ?_, ?_, ?_, ?_⟩
  · intro outputs noted
    obtain ⟨wasOperational, frame, pc, written⟩ := work_origin line state.shared shared reply _ taken noted
    rw [pc] at here
    cases wasOperational with
    | true => exact .inr (loaded_operating line state (inside (by rw [pc]; rfl)) here.1 here.2.1)
    | false =>
      rw [here.2.2 rfl] at written
      rw [written]
      exact .inl (mapped_outputs_zero line state.shared.slaves)
  · intro changed
    rcases work_changes line state.shared shared reply taken with ⟨_, same⟩ | ⟨_, same⟩ | ⟨_, _, same⟩ | ⟨pc, _⟩
    · exact absurd (by simp [gone, same]) changed
    · exact absurd (by simp [gone, same]) changed
    · exact absurd (by simp [gone, same]) changed
    · rw [pc] at here
      exact loaded_operating line state (inside (by rw [pc]; rfl)) here.1 here.2
  · intro messages noted
    obtain ⟨pc, _⟩ := work_origin line state.shared shared reply _ taken noted
    rw [pc] at here
    exact ⟨here.1, fun running => by rw [Shared.ok, running, here.2 running]; rfl⟩
  · intro operational noted
    exact work_origin line state.shared shared reply (.began operational) taken noted
  · intro noted
    exact (work_origin line state.shared shared reply .asked taken noted).2
  · intro noted
    exact (work_origin line state.shared shared reply .granted taken noted).2

theorem run_safe (state : State) (id : Nat) (call : Call) (move : Move Shared Call) (safe : Safe line state)
    (known : state.calls.find id = some call) (taken : run line state.shared call = some move) :
    StepSafe line state (.run id) (state.advance id move) := by
  obtain ⟨_, change⟩ := run_cases line state.shared call move taken
  rcases change with ⟨submitted, _, _, _, same | queued⟩ | ⟨stop, _, cleared⟩ | ⟨stop, _, lowered⟩
  · apply step_quiet <;> rw [World.advance_shared, same]
  · have frames := queue_gone state.shared.handle submitted
    apply step_quiet <;> rw [World.advance_shared, queued]
    exact Prod.ext frames.1 frames.2
  · apply step_silent <;> rw [World.advance_shared, cleared]
    · rfl
    · exact nofun
    · exact fun _ _ => known.trans (congrArg some stop)
  · have halted := safe.stopped id .lowering (stop ▸ known) nofun
    apply step_silent <;> rw [World.advance_shared, lowered]
    · rfl
    · intro after
      simp [Shared.ok] at after
    · intro before
      simp [Shared.ok, halted] at before

theorem step_safe (safe : Safe line state) (inside : InExchange line state) (taken : step line state action = some next) :
    StepSafe line state action next := by
  cases action with
  | checkState =>
    rw [begin_next state next .checking taken]
    exact step_quiet line state _ .checkState rfl rfl rfl rfl
  | exchangeOnce =>
    rw [begin_next state next .entering taken]
    exact step_quiet line state _ .exchangeOnce rfl rfl rfl rfl
  | work reply =>
    obtain ⟨shared, worked, made⟩ := Option.map_eq_some_iff.mp taken
    rw [← made]
    exact work_safe line state shared reply safe.inv inside worked
  | send submitted =>
    cases taken
    exact step_quiet line state _ (.send submitted) rfl rfl rfl rfl
  | requestStop =>
    cases taken
    exact step_quiet line state _ .requestStop rfl rfl rfl rfl
  | run id =>
    cases found : state.calls.find id with
    | none => simp [step, found] at taken
    | some call =>
      simp only [step, found] at taken
      obtain ⟨move, ran, made⟩ := Option.map_eq_some_iff.mp taken
      rw [← made]
      exact run_safe line state id call move safe found ran

theorem step_in_exchange (reached : Reachable (system line) state) (inside : InExchange line state)
    (taken : step line state action = some next) : InExchange line next := by
  have later : state.shared.loop.entered = true → ∃ entry, EnteredAt line entry next := by
    intro between
    obtain ⟨entry, first, entering, running, ran⟩ := inside between
    exact ⟨entry, first, entering, running, .next state next action ran (.inr between) taken⟩
  intro entered
  cases action with
  | checkState =>
    rw [begin_next state next .checking taken] at entered
    cases entered
  | exchangeOnce =>
    rw [begin_next state next .entering taken] at entered
    cases entered
  | work reply =>
    obtain ⟨shared, worked, made⟩ := Option.map_eq_some_iff.mp taken
    have goes : shared.loop.entered = true := by
      rw [← made] at entered
      exact entered
    rcases work_entered line state.shared shared reply worked goes with ⟨entering, running⟩ | between
    · exact ⟨state, reached, entering, running, .next state next (.work reply) .here (.inl entering) taken⟩
    · exact later between
  | send submitted | requestStop =>
    refine later ?_
    cases taken
    exact entered
  | run id =>
    refine later ?_
    cases found : state.calls.find id with
    | none => simp [step, found] at taken
    | some call =>
      simp only [step, found] at taken
      obtain ⟨move, ran, made⟩ := Option.map_eq_some_iff.mp taken
      obtain ⟨_, change⟩ := run_cases line state.shared call move ran
      rw [← made, World.advance_shared] at entered
      rcases change with ⟨_, _, _, _, same | queued⟩ | ⟨_, _, cleared⟩ | ⟨_, _, lowered⟩
      · rwa [same] at entered
      · rwa [queued] at entered
      · rwa [cleared] at entered
      · rwa [lowered] at entered

theorem init_not_entered (initial : (system line).init state) : InExchange line state := by
  obtain ⟨poll, slaves, shared, started, rfl⟩ := initial
  simp only [transitionToOperational] at started
  split at started
  · cases started
    intro entered
    cases entered
  · cases started

theorem in_exchange_reachable (reached : Reachable (system line) state) : InExchange line state := by
  refine reachable_invariant_under (system line) Always (Reachable (system line)) (InExchange line) (fun _ known => known)
    (init_not_entered line) ?_ state reached
  intro state action next known _ inside _ taken
  exact step_in_exchange line state next action known inside taken

theorem step_stays_stopped (taken : step line state action = some next) (stopped : state.shared.running = false) :
    next.shared.running = false := by
  cases action with
  | checkState =>
    rw [begin_next state next .checking taken]
    exact stopped
  | exchangeOnce =>
    rw [begin_next state next .entering taken]
    exact stopped
  | work reply =>
    obtain ⟨shared, worked, made⟩ := Option.map_eq_some_iff.mp taken
    rw [← made]
    exact (work_running line state.shared shared reply worked).trans stopped
  | send submitted =>
    cases taken
    exact stopped
  | requestStop =>
    cases taken
    exact stopped
  | run id =>
    cases found : state.calls.find id with
    | none => simp [step, found] at taken
    | some call =>
      simp only [step, found] at taken
      obtain ⟨move, ran, made⟩ := Option.map_eq_some_iff.mp taken
      obtain ⟨_, change⟩ := run_cases line state.shared call move ran
      rw [← made, World.advance_shared]
      rcases change with ⟨_, _, _, _, same | queued⟩ | ⟨_, _, cleared⟩ | ⟨_, _, lowered⟩
      · rw [same]
        exact stopped
      · rw [queued]
        exact stopped
      · rw [cleared]
      · rw [lowered]
        exact stopped

theorem stopped_for_ever (first last : State) (stopped : first.shared.running = false)
    (ran : RunsWhile (system line) (fun _ => True) first last) : last.shared.ok = false := by
  have halted : last.shared.running = false := by
    induction ran with
    | here => exact stopped
    | next state next action _ _ taken ih => exact step_stays_stopped line state next action taken ih
  rw [Shared.ok, halted, Bool.false_and]

theorem init_not_ok (state : State) (initial : (system line).init state) : state.shared.ok = false := by
  obtain ⟨poll, slaves, shared, started, rfl⟩ := initial
  simp only [transitionToOperational] at started
  split at started
  · cases started
    rfl
  · cases started

theorem recovery_safety (line : Line) (state : State) (reached : Reachable (system line) state) :
    ((system line).init state → state.shared.ok = false) ∧
      (∀ action next, step line state action = some next → StepSafe line state action next) ∧
      ∀ id pc, state.calls.find id = some (.requestStop pc) → pc ≠ .storing →
        ∀ last, RunsWhile (system line) (fun _ => True) state last → last.shared.ok = false := by
  have safe := safe_reachable line state reached
  refine ⟨init_not_ok line state, ?_, ?_⟩
  · intro action next taken
    exact step_safe line state next action safe (in_exchange_reachable line state reached) taken
  · intro id pc present past last ran
    exact stopped_for_ever line state last (safe.stopped id pc present past) ran

def oneSlave : Line := ⟨1, fun _ => ⟨0, 86, true⟩, [classifyOutputPdoSize 86], 0, 3⟩

def command : MotorMessage := ⟨encodeBus 0 0, ⟨1, 0, 1, payload [0xE0]⟩⟩

def opened : State :=
  ⟨{ slaves := fun _ => ⟨0x08, false, []⟩, wkc := 3, slavesOperational := true, history := [.transitioned] }, ∅, 0⟩

theorem opened_reachable : Reachable (system oneSlave) opened :=
  .start opened ⟨fun _ => (3, 0x08), fun _ => ⟨0x08, false, []⟩, opened.shared, rfl, rfl⟩

def answered : Action := .work { result := 3 }

theorem opened_runs (actions : List Action) (state : State) (ran : runActions (system oneSlave) opened actions = some state) :
    Reachable (system oneSlave) state := run_actions_reachable (system oneSlave) actions opened state opened_reachable ran

def resuming : List Action := .exchangeOnce :: List.replicate 6 answered

theorem recovery_safety_resumes :
    ∃ state next, Reachable (system oneSlave) state ∧ step oneSlave state answered = some next ∧
      state.shared.ok = false ∧ next.shared.ok = true ∧ Confirmed oneSlave state.shared.history := by
  refine ⟨_, _, opened_runs resuming _ rfl, rfl, rfl, rfl, ?_⟩
  exact (((recovery_safety oneSlave _ (opened_runs resuming _ rfl)).2.1 answered _ rfl).raised rfl rfl).1

def stopBeforeFrame : List Action :=
  .exchangeOnce :: List.replicate 10 answered ++
    [.send (.single command), .run 0, .run 0, .exchangeOnce, answered, answered, .requestStop, .run 1]

def stopBeforeWrite : List Action :=
  .exchangeOnce :: List.replicate 10 answered ++
    [.send (.single command), .run 0, .run 0, .exchangeOnce, answered, answered, answered, .requestStop, .run 1]

def stopBeforeCallback : List Action := .exchangeOnce :: List.replicate 9 answered ++ [.requestStop, .run 0]

theorem recovery_stop_in_exchange :
    (∃ state next, Reachable (system oneSlave) state ∧ step oneSlave state answered = some next ∧
      state.shared.ok = false ∧ next.shared.handle.handed.length = state.shared.handle.handed.length + 1) ∧
    (∃ state next outputs, Reachable (system oneSlave) state ∧ step oneSlave state answered = some next ∧
      state.shared.ok = false ∧ next.shared.history = state.shared.history ++ [.wrote outputs] ∧ ¬ Zero outputs) ∧
    ∃ state next messages, Reachable (system oneSlave) state ∧ step oneSlave state answered = some next ∧
      state.shared.ok = false ∧ next.shared.history = state.shared.history ++ [.called messages] := by
  refine ⟨⟨_, _, opened_runs stopBeforeFrame _ rfl, rfl, rfl, ?_⟩, ⟨_, _, _, opened_runs stopBeforeWrite _ rfl, rfl, rfl, rfl, ?_⟩,
    _, _, _, opened_runs stopBeforeCallback _ rfl, rfl, rfl, rfl⟩
  · decide +kernel
  · decide +kernel

end EncosDriver.Ethercat.Recovery
