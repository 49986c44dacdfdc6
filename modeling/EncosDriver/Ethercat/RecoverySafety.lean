import EncosDriver.Ethercat.Recovery

set_option autoImplicit false

namespace EncosDriver.Ethercat.Recovery

open Lib Message

def Clean : Event → Prop
  | .degraded => False
  | .exchanged valid => valid = true
  | _ => True

def Passed (line : Line) : Event → Prop
  | .transitioned => True
  | .checked allOperational seen =>
    allOperational = true ∧ seen.map Prod.fst = line.group ∧ ∀ entry ∈ seen, entry.2 = EC_STATE_OPERATIONAL
  | _ => False

def Confirmed (line : Line) (history : List Event) : Prop := Since (Passed line) Clean history

def lost : Event → Bool
  | .exchanged valid => !valid
  | _ => false

def counted : Event → Bool
  | .exchanged _ => true
  | _ => false

def Exhausted (history : List Event) : Prop :=
  ∃ losses total, Window lost counted history losses total ∧ kWkcErrorMax ≤ losses ∧ total ≤ kWkcErrorPeriod

def Ended (history : List Event) (event : Event) : Prop := history.getLast? = some event

def Denied (history : List Event) : Prop :=
  ∃ slave state, Ended history (.saw slave state) ∧ state ≠ EC_STATE_OPERATIONAL

def Begun (operational : Bool) (history : List Event) : Prop :=
  Since (fun event => event = .began operational) (fun event => ∀ other, event ≠ .began other) history

def Seen (line : Line) (slave : Nat) (seen : List (Nat × Nat)) : Prop :=
  ∃ visited, slave = visited + 1 ∧ visited ≤ line.slavecount ∧
    seen.map Prod.fst = (List.range' 1 visited).filter (fun slave => (line.slaves slave).group = line.currentGroup) ∧
    ∀ entry ∈ seen, entry.2 = EC_STATE_OPERATIONAL

def Loaded (wasOperational running inOperational : Bool) : Prop :=
  (wasOperational = false → inOperational = false) ∧ (wasOperational = true → running = true → inOperational = true)

def At (line : Line) (running inOperational slavesOperational : Bool) (history : List Event) : LoopPc → Prop
  | .idle | .checking | .reading | .acting _ _ | .entering | .loading => True
  | .judging allOperational => Ended history (.read allOperational)
  | .visiting slave allOperational seen => allOperational = true → Seen line slave seen
  | .weighing _ _ => Denied history
  | .settling allOperational seen => allOperational = true → running = true → Passed line (.checked allOperational seen)
  | .degrading .reading => Ended history (.read false)
  | .degrading (.visiting _ _) => Denied history
  | .degrading .exchanging => Ended history (.exchanged false) ∧ (inOperational = true → Exhausted history)
  | .preparing wasOperational => Begun wasOperational history ∧ Loaded wasOperational running inOperational
  | .writing wasOperational frame =>
    Begun wasOperational history ∧ Loaded wasOperational running inOperational ∧ (wasOperational = false → frame = [])
  | .receiving wasOperational => Loaded wasOperational running inOperational
  | .confirming => Ended history (.exchanged true) ∧ inOperational = false
  | .recovering => Ended history (.exchanged true) ∧ inOperational = false ∧ slavesOperational = true
  | .asking => Ended history (.exchanged true)
  | .granting => [.exchanged true, .asked] <:+ history
  | .calling => [.exchanged true, .asked, .granted] <:+ history ∧ (running = true → inOperational = true)

structure Inv (line : Line) (shared : Shared) : Prop where
  here : At line shared.running shared.inOperational shared.slavesOperational shared.history shared.loop
  confirmed : shared.running = true → shared.inOperational = false → shared.slavesOperational = true →
    Confirmed line shared.history
  windowed : shared.inOperational = true →
    Window lost counted shared.history shared.wkcErrorCount shared.wkcErrorIteration ∧
      shared.wkcErrorIteration ≤ kWkcErrorPeriod

variable (history : List Event)

theorem ended_append (event : Event) : Ended (history ++ [event]) event := List.getLast?_concat

theorem ended_suffix (event : Event) (ended : Ended history event) : [event] <:+ history := by
  obtain ⟨before, split⟩ := List.getLast?_eq_some_iff.mp ended
  exact ⟨before, split.symm⟩

theorem suffix_append (last : List Event) (event : Event) (ends : last <:+ history) :
    last ++ [event] <:+ history ++ [event] := by
  obtain ⟨before, split⟩ := ends
  exact ⟨before, by rw [← split, List.append_assoc]⟩

theorem at_stopped (line : Line) (running inOperational lowered slavesOperational : Bool) (history : List Event) (pc : LoopPc)
    (lowers : lowered = true → inOperational = true) (here : At line running inOperational slavesOperational history pc) :
    At line false lowered slavesOperational history pc := by
  have low : inOperational = false → lowered = false := by
    cases lowered with
    | false => exact fun _ => rfl
    | true => exact fun clear => absurd (lowers rfl) (by simp [clear])
  have loaded : ∀ wasOperational, Loaded wasOperational running inOperational → Loaded wasOperational false lowered :=
    fun wasOperational loaded => ⟨fun was => low (loaded.1 was), nofun⟩
  cases pc with
  | idle => trivial
  | checking => trivial
  | reading => trivial
  | acting slave seen => trivial
  | entering => trivial
  | loading => trivial
  | judging allOperational => exact here
  | visiting slave allOperational seen => exact here
  | weighing slave seen => exact here
  | settling allOperational seen => exact fun _ => nofun
  | degrading caller =>
    cases caller with
    | reading => exact here
    | visiting slave seen => exact here
    | exchanging => exact ⟨here.1, fun raised => here.2 (lowers raised)⟩
  | preparing wasOperational => exact ⟨here.1, loaded wasOperational here.2⟩
  | writing wasOperational frame => exact ⟨here.1, loaded wasOperational here.2.1, here.2.2⟩
  | receiving wasOperational => exact loaded wasOperational here
  | confirming => exact ⟨here.1, low here.2⟩
  | recovering => exact ⟨here.1, low here.2.1, here.2.2⟩
  | asking => exact here
  | granting => exact here
  | calling => exact ⟨here.1, nofun⟩

variable (line : Line) (shared : Shared)

theorem inv_stopped (lowered : Bool) (lowers : lowered = true → shared.inOperational = true)
    (inv : Inv line shared) : Inv line { shared with running := false, inOperational := lowered } where
  here := at_stopped line _ _ lowered _ _ _ lowers inv.here
  confirmed := nofun
  windowed := fun raised => inv.windowed (lowers raised)

theorem inv_goto (pc : LoopPc) (inv : Inv line shared)
    (here : At line shared.running shared.inOperational shared.slavesOperational shared.history pc) :
    Inv line (shared.goto pc) := ⟨here, inv.confirmed, inv.windowed⟩

theorem inv_record (event : Event) (pc : LoopPc) (inv : Inv line shared)
    (clean : Clean event) (uncounted : lost event = false ∧ counted event = false)
    (here : At line shared.running shared.inOperational shared.slavesOperational (shared.history ++ [event]) pc) :
    Inv line ((shared.record event).goto pc) where
  here := here
  confirmed := fun running lowered slaves => since_clean _ _ _ _ (inv.confirmed running lowered slaves) clean
  windowed := fun raised => ⟨window_skip _ _ _ _ _ _ (inv.windowed raised).1 uncounted, (inv.windowed raised).2⟩

theorem inv_slaves (slaves : Nat → Slave) (inv : Inv line shared) :
    Inv line { shared with slaves := slaves } := ⟨inv.here, inv.confirmed, inv.windowed⟩

theorem inv_handle (handle : Handle) (inv : Inv line shared) :
    Inv line { shared with handle := handle } := ⟨inv.here, inv.confirmed, inv.windowed⟩

theorem inv_degrade (caller : Caller) : Inv line ((degrade shared).goto caller.back) where
  here := by
    cases caller with
    | reading => exact nofun
    | visiting slave seen => trivial
    | exchanging => trivial
  confirmed := fun _ _ => nofun
  windowed := nofun

variable (slave : Nat)

theorem seen_next (seen fresh : List (Nat × Nat)) (within : slave ≤ line.slavecount)
    (looked : fresh.map Prod.fst = [slave].filter fun slave => (line.slaves slave).group = line.currentGroup)
    (operational : ∀ entry ∈ fresh, entry.2 = EC_STATE_OPERATIONAL) (before : Seen line slave seen) :
    Seen line (slave + 1) (seen ++ fresh) := by
  obtain ⟨visited, position, _, passed, fine⟩ := before
  refine ⟨visited + 1, by rw [position], by omega, ?_, ?_⟩
  · rw [List.map_append, passed, looked, List.range'_concat, List.filter_append, position, Nat.one_mul, Nat.add_comm visited 1]
  · intro entry among
    rcases List.mem_append.mp among with old | new
    · exact fine entry old
    · exact operational entry new

theorem seen_all (seen : List (Nat × Nat)) (beyond : ¬ slave ≤ line.slavecount)
    (before : Seen line slave seen) : Passed line (.checked true seen) := by
  obtain ⟨visited, position, within, passed, fine⟩ := before
  have all : visited = line.slavecount := by omega
  exact ⟨rfl, by rw [passed, all, Line.group], fine⟩

theorem visit_inv (allOperational : Bool) (seen : List (Nat × Nat))
    (inv : Inv line shared) (before : allOperational = true → Seen line slave seen) :
    Inv line (visit line shared slave allOperational seen) := by
  unfold visit
  by_cases inside : slave ≤ line.slavecount ∧ shared.running
  · rw [if_pos inside]
    by_cases other : (line.slaves slave).group ≠ line.currentGroup
    · rw [if_pos other]
      refine inv_goto line shared _ inv ?_
      intro fine
      have next := seen_next line slave seen [] inside.1 (by simp [other]) nofun (before fine)
      simpa using next
    · rw [if_neg other]
      have member := not_not.mp other
      by_cases operational : (shared.slaves slave).state = EC_STATE_OPERATIONAL
      · simp only [operational, ↓reduceIte]
        refine inv_slaves line ((shared.record _).goto _) _ (inv_record line shared _ _ inv trivial ⟨rfl, rfl⟩ ?_)
        intro fine
        exact seen_next line slave seen [(slave, EC_STATE_OPERATIONAL)] inside.1 (by simp [member]) (by simp) (before fine)
      · simp only [operational, ↓reduceIte]
        exact inv_record line shared _ _ inv trivial ⟨rfl, rfl⟩ ⟨slave, _, ended_append _ _, operational⟩
  · rw [if_neg inside]
    refine inv_goto line shared _ inv ?_
    intro fine running
    rw [fine]
    exact seen_all line slave seen (fun within => inside ⟨within, running⟩) (before fine)

theorem receive_windowed (reply : Reply) (valid : Bool) (inv : Inv line shared) (raised : shared.inOperational = true) :
    Window lost counted (shared.receive reply valid).history
        ((shared.receive reply valid).wkcErrorCount + if !valid then 1 else 0)
        ((shared.receive reply valid).wkcErrorIteration + 1) ∧
      (shared.receive reply valid).wkcErrorIteration + 1 ≤ kWkcErrorPeriod := by
  obtain ⟨window, bounded⟩ := inv.windowed raised
  unfold Shared.receive
  by_cases full : kWkcErrorPeriod ≤ shared.wkcErrorIteration
  · simp only [full, ↓reduceIte]
    exact ⟨window_append lost counted shared.history 0 0 (.exchanged valid) (window_empty lost counted shared.history),
      by decide⟩
  · simp only [full, ↓reduceIte]
    exact ⟨window_append lost counted shared.history _ _ (.exchanged valid) window, by omega⟩

theorem judge_exchange_inv (wasOperational : Bool) (reply : Reply) (inv : Inv line shared)
    (loaded : Loaded wasOperational shared.running shared.inOperational) :
    Inv line (judgeExchange line shared wasOperational reply) := by
  unfold judgeExchange
  cases badWkc line reply.result with
  | true =>
    cases wasOperational with
    | false =>
      refine ⟨trivial, fun _ _ => nofun, ?_⟩
      intro (raised : shared.inOperational = true)
      exact absurd raised (by simp [loaded.1 rfl])
    | true =>
      have windowed := receive_windowed line shared reply false inv
      refine ⟨?_, ?_, windowed⟩
      · by_cases reached : (shared.receive reply false).wkcErrorCount + 1 ≥ kWkcErrorMax
        · simp only [reached, Shared.goto, ↓reduceIte, Bool.not_true, Bool.false_eq_true]
          exact ⟨ended_append _ _, fun raised => ⟨_, _, (windowed raised).1, reached, (windowed raised).2⟩⟩
        · simp only [reached, Shared.goto, ↓reduceIte, Bool.not_true, Bool.false_eq_true]
          trivial
      · intro running (lowered : shared.inOperational = false)
        exact absurd (loaded.2 rfl running) (by simp [lowered])
  | false =>
    refine ⟨?_, ?_, receive_windowed line shared reply true inv⟩
    · cases wasOperational with
      | true => exact ended_append _ _
      | false => exact ⟨ended_append _ _, loaded.1 rfl⟩
    · intro running lowered slaves
      exact since_clean _ _ _ _ (inv.confirmed running lowered slaves) rfl

theorem work_inv (shared next : Shared) (reply : Reply) (inv : Inv line shared)
    (taken : work line shared reply = some next) : Inv line next := by
  have here := inv.here
  cases pc : shared.loop with
  | idle => simp [work, pc] at taken
  | checking | entering =>
    simp only [work, pc] at taken
    cases taken
    refine inv_goto line shared _ inv ?_
    cases shared.running <;> trivial
  | reading =>
    simp only [work, pc] at taken
    cases taken
    exact inv_slaves line ((shared.record _).goto _) _ (inv_record line shared _ _ inv trivial ⟨rfl, rfl⟩ (ended_append _ _))
  | judging allOperational =>
    rw [pc] at here
    simp only [work, pc] at taken
    cases taken
    refine inv_goto line shared _ inv ?_
    by_cases degraded : (!allOperational && shared.inOperational) = true
    · rw [if_pos degraded]
      simp only [Bool.and_eq_true, Bool.not_eq_true'] at degraded
      rw [degraded.1] at here
      exact here
    · rw [if_neg degraded]
      exact fun _ => ⟨0, rfl, Nat.zero_le _, rfl, nofun⟩
  | visiting slave allOperational seen =>
    rw [pc] at here
    simp only [work, pc] at taken
    cases taken
    exact visit_inv line shared slave allOperational seen inv here
  | weighing slave seen =>
    rw [pc] at here
    simp only [work, pc] at taken
    cases taken
    refine inv_goto line shared _ inv ?_
    cases shared.inOperational with
    | true => exact here
    | false => trivial
  | acting slave seen =>
    simp only [work, pc] at taken
    cases taken
    exact inv_slaves line (shared.goto _) _ (inv_goto line shared _ inv nofun)
  | settling allOperational seen =>
    rw [pc] at here
    simp only [work, pc] at taken
    cases taken
    refine ⟨trivial, ?_, ?_⟩
    · intro running _ settled
      exact since_mark _ _ _ _ (here settled running)
    · intro raised
      exact ⟨window_skip _ _ _ _ _ _ (inv.windowed raised).1 ⟨rfl, rfl⟩, (inv.windowed raised).2⟩
  | degrading caller =>
    simp only [work, pc] at taken
    cases taken
    exact inv_degrade line shared caller
  | loading =>
    simp only [work, pc] at taken
    cases taken
    exact inv_record line shared _ _ inv trivial ⟨rfl, rfl⟩ ⟨since_mark _ _ _ _ rfl, id, fun raised _ => raised⟩
  | preparing wasOperational =>
    rw [pc] at here
    cases wasOperational with
    | true =>
      simp only [work, pc, ↓reduceIte] at taken
      cases taken
      exact inv_handle line (shared.goto _) _ (inv_goto line shared _ inv ⟨here.1, here.2, nofun⟩)
    | false =>
      simp only [work, pc, Bool.false_eq_true, ↓reduceIte] at taken
      cases taken
      exact inv_goto line shared _ inv ⟨here.1, here.2, fun _ => rfl⟩
  | writing wasOperational frame =>
    rw [pc] at here
    simp only [work, pc] at taken
    cases taken
    exact inv_slaves line ((shared.record _).goto _) _ (inv_record line shared _ _ inv trivial ⟨rfl, rfl⟩ here.2.1)
  | receiving wasOperational =>
    rw [pc] at here
    simp only [work, pc] at taken
    cases taken
    exact judge_exchange_inv line shared wasOperational reply inv here
  | confirming =>
    rw [pc] at here
    simp only [work, pc] at taken
    cases taken
    refine inv_goto line shared _ inv ?_
    by_cases resumed : (shared.running && shared.slavesOperational) = true
    · rw [if_pos resumed]
      exact ⟨here.1, here.2, (Bool.and_eq_true_iff.mp resumed).2⟩
    · rw [if_neg resumed]
      exact here.1
  | recovering =>
    rw [pc] at here
    simp only [work, pc] at taken
    cases taken
    exact ⟨here.1, nofun, fun _ => ⟨window_empty _ _ _, Nat.zero_le _⟩⟩
  | asking =>
    rw [pc] at here
    cases running : shared.running with
    | true =>
      simp only [work, pc, running, ↓reduceIte] at taken
      cases taken
      exact inv_record line shared _ _ inv trivial ⟨rfl, rfl⟩ (suffix_append _ _ _ (ended_suffix _ _ here))
    | false =>
      simp only [work, pc, running, Bool.false_eq_true, ↓reduceIte] at taken
      cases taken
      exact inv_goto line shared _ inv trivial
  | granting =>
    rw [pc] at here
    cases raised : shared.inOperational with
    | true =>
      simp only [work, pc, raised, ↓reduceIte] at taken
      cases taken
      exact inv_record line shared _ _ inv trivial ⟨rfl, rfl⟩ ⟨suffix_append _ _ _ here, fun _ => raised⟩
    | false =>
      simp only [work, pc, raised, Bool.false_eq_true, ↓reduceIte] at taken
      cases taken
      exact inv_goto line shared _ inv trivial
  | calling =>
    cases set : reply.callback with
    | true =>
      simp only [work, pc, set, ↓reduceIte] at taken
      cases taken
      exact inv_record line shared _ _ inv trivial ⟨rfl, rfl⟩ trivial
    | false =>
      simp only [work, pc, set, Bool.false_eq_true, ↓reduceIte] at taken
      cases taken
      exact inv_goto line shared _ inv trivial

theorem visit_running (allOperational : Bool) (seen : List (Nat × Nat)) :
    (visit line shared slave allOperational seen).running = shared.running := by
  unfold visit
  dsimp only
  split
  · split
    · rfl
    · split <;> rfl
  · rfl

theorem judge_exchange_running (wasOperational : Bool) (reply : Reply) :
    (judgeExchange line shared wasOperational reply).running = shared.running := by
  unfold judgeExchange
  cases badWkc line reply.result <;> cases wasOperational <;> rfl

theorem work_running (shared next : Shared) (reply : Reply) (taken : work line shared reply = some next) :
    next.running = shared.running := by
  cases pc : shared.loop with
  | idle => simp [work, pc] at taken
  | visiting slave allOperational seen =>
    simp only [work, pc, Option.some.injEq] at taken
    rw [← taken, visit_running]
  | receiving wasOperational =>
    simp only [work, pc, Option.some.injEq] at taken
    rw [← taken, judge_exchange_running]
  | preparing wasOperational =>
    simp only [work, pc] at taken
    cases wasOperational <;> cases taken <;> rfl
  | asking | granting =>
    simp only [work, pc, Option.some.injEq] at taken
    rw [← taken]
    split <;> rfl
  | calling =>
    simp only [work, pc, Option.some.injEq] at taken
    rw [← taken]
    cases reply.callback <;> rfl
  | _ =>
    simp only [work, pc, Option.some.injEq] at taken
    rw [← taken]
    rfl

theorem begin_next (state next : State) (pc : LoopPc) (taken : begin state pc = some next) :
    next = { state with shared := state.shared.goto pc } := by
  simp only [begin] at taken
  split at taken
  · exact (Option.some.inj taken).symm
  · cases taken

theorem run_cases (call : Call) (move : Move Shared Call) (taken : run line shared call = some move) :
    move.started = none ∧
      ((∃ submitted pc, call = .send submitted pc ∧ (∃ pc, move.call = .send submitted pc) ∧
          (move.shared = shared ∨ move.shared = { shared with handle := submitted.queue shared.handle })) ∨
        (call = .requestStop .storing ∧ move.call = .requestStop .lowering ∧ move.shared = { shared with running := false }) ∨
        (call = .requestStop .lowering ∧ move.call = .requestStop .done ∧
          move.shared = { shared with inOperational := false })) := by
  cases call with
  | send submitted pc =>
    simp only [run, send] at taken
    split at taken
    · split at taken
      · cases taken
        exact ⟨rfl, .inl ⟨submitted, _, rfl, ⟨_, rfl⟩, .inl rfl⟩⟩
      · cases taken
        exact ⟨rfl, .inl ⟨submitted, _, rfl, ⟨_, rfl⟩, .inl rfl⟩⟩
    · cases taken
      exact ⟨rfl, .inl ⟨submitted, _, rfl, ⟨_, rfl⟩, .inr rfl⟩⟩
    · cases taken
  | requestStop pc =>
    cases pc with
    | storing =>
      cases taken
      exact ⟨rfl, .inr (.inl ⟨rfl, rfl, rfl⟩)⟩
    | lowering =>
      cases taken
      exact ⟨rfl, .inr (.inr ⟨rfl, rfl, rfl⟩)⟩
    | done => cases taken

structure Safe (line : Line) (state : State) : Prop where
  inv : Inv line state.shared
  stopped : ∀ id pc, state.calls.find id = some (.requestStop pc) → pc ≠ .storing → state.shared.running = false

variable (state : State)

theorem safe_start (call : Call) (safe : Safe line state)
    (fresh : ∀ pc, call = .requestStop pc → pc = .storing) : Safe line (state.start call) where
  inv := safe.inv
  stopped := by
    intro id pc present past
    rw [World.find_start] at present
    by_cases same : id = state.nextCall
    · rw [if_pos same] at present
      exact absurd (fresh pc (Option.some.inj present)) past
    · rw [if_neg same] at present
      exact safe.stopped id pc present past

theorem safe_advance (id : Nat) (call : Call) (move : Move Shared Call)
    (safe : Safe line state) (known : state.calls.find id = some call) (taken : run line state.shared call = some move) :
    Safe line (state.advance id move) := by
  obtain ⟨alone, change⟩ := run_cases line state.shared call move taken
  have others : ∀ other pc, (state.advance id move).calls.find other = some (.requestStop pc) →
      (other = id ∧ move.call = .requestStop pc) ∨ state.calls.find other = some (.requestStop pc) := by
    intro other pc present
    rcases World.find_advance_cases state id other move _ present with ⟨same, moved⟩ | ⟨_, started⟩ | ⟨_, before⟩
    · exact .inl ⟨same, moved.symm⟩
    · rw [alone] at started
      cases started
    · exact .inr before
  rcases change with ⟨submitted, sendPc, _, ⟨nextPc, moved⟩, same | queued⟩ | ⟨_, _, cleared⟩ | ⟨stop, _, lowered⟩
  · refine ⟨by rw [World.advance_shared, same]; exact safe.inv, ?_⟩
    intro other pc present past
    rw [World.advance_shared, same]
    rcases others other pc present with ⟨_, clash⟩ | before
    · rw [moved] at clash
      cases clash
    · exact safe.stopped other pc before past
  · refine ⟨by rw [World.advance_shared, queued]; exact inv_handle line state.shared _ safe.inv, ?_⟩
    intro other pc present past
    rw [World.advance_shared, queued]
    rcases others other pc present with ⟨_, clash⟩ | before
    · rw [moved] at clash
      cases clash
    · exact safe.stopped other pc before past
  · refine ⟨?_, ?_⟩
    · rw [World.advance_shared, cleared]
      exact inv_stopped line state.shared state.shared.inOperational (fun raised => raised) safe.inv
    · intro _ _ _ _
      rw [World.advance_shared, cleared]
  · have halted := safe.stopped id .lowering (stop ▸ known) nofun
    refine ⟨?_, ?_⟩
    · rw [World.advance_shared, lowered, halted]
      exact inv_stopped line state.shared false nofun safe.inv
    · intro _ _ _ _
      rw [World.advance_shared, lowered]
      exact halted

theorem safe_step (state next : State) (action : Action) (safe : Safe line state)
    (taken : step line state action = some next) : Safe line next := by
  cases action with
  | checkState =>
    rw [begin_next state next .checking taken]
    exact ⟨inv_goto line state.shared .checking safe.inv trivial, safe.stopped⟩
  | exchangeOnce =>
    rw [begin_next state next .entering taken]
    exact ⟨inv_goto line state.shared .entering safe.inv trivial, safe.stopped⟩
  | work reply =>
    obtain ⟨shared, worked, made⟩ := Option.map_eq_some_iff.mp taken
    rw [← made]
    refine ⟨work_inv line state.shared shared reply safe.inv worked, ?_⟩
    intro id pc present past
    exact (work_running line state.shared shared reply worked).trans (safe.stopped id pc present past)
  | send submitted =>
    cases taken
    exact safe_start line state _ safe nofun
  | requestStop =>
    cases taken
    exact safe_start line state _ safe (fun pc same => by cases same; rfl)
  | run id =>
    cases found : state.calls.find id with
    | none => simp [step, found] at taken
    | some call =>
      simp only [step, found] at taken
      obtain ⟨move, ran, made⟩ := Option.map_eq_some_iff.mp taken
      rw [← made]
      exact safe_advance line state id call move safe found ran

theorem safe_init (initial : (system line).init state) : Safe line state := by
  obtain ⟨poll, slaves, shared, started, rfl⟩ := initial
  simp only [transitionToOperational] at started
  split at started
  · cases started
    refine ⟨⟨trivial, ?_, nofun⟩, ?_⟩
    · intro _ _ _
      exact since_mark _ _ [] Event.transitioned trivial
    · intro id pc present
      simp at present
  · cases started

theorem safe_reachable (reached : Reachable (system line) state) : Safe line state :=
  reachable_invariant (system line) Always (Safe line) (safe_init line)
    (fun state action next safe _ taken => safe_step line state next action safe taken) state reached

end EncosDriver.Ethercat.Recovery
