import EncosDriver.Motor.LogWrapped

set_option autoImplicit false

namespace EncosDriver.Motor.LogTransport

open Lib Port Session

variable {Word Number : Type} {layout : Layout Word Number}

section Delivery

variable {session : Session layout}

def Stopped (session : Session layout) : Prop := ∀ kind, session.publishing kind = none ∧ (session.ports kind).producer = .idle

-- The messages that PublishCommand or PublishStatus is called with before the
-- first Close begins.
def handed (kind : Kind) : List (Action layout) → List (Message (layout.size kind) Word)
  | [] | .close _ :: _ => []
  | .publish other message :: rest => (if same : other = kind then [same ▸ message] else []) ++ handed kind rest
  | .produce _ :: rest | .work _ :: rest => handed kind rest

structure Delivers (session : Session layout) : Prop where
  -- The messages pushed, and the one that its publisher is about to push, are those that were handed in before Close.
  handed : ∀ start actions, InitialSession start → runActions (system layout) start actions = some session →
    ∀ kind, (session.ports kind).pushes ++ (session.publishing kind).toList = handed kind actions
  -- The rows of a file are published records, in their order and each once.
  ordered : ∀ kind, ((session.writers kind).rows.map Prod.fst).Pairwise (· < ·)
  published : ∀ kind sequence row, (sequence, row) ∈ (session.writers kind).rows →
    1 ≤ sequence ∧ ∃ message, (session.ports kind).pushes[sequence - 1]? = some message ∧ row = layout.row kind (List.ofFn message)
  -- A step that passes an unread record has it in hand, or finds a whole ring of newer ones published.
  passes : ∀ action next, step session action = some next → ∀ kind sequence,
    (session.ports kind).consumerSequence ≤ sequence → sequence < (next.ports kind).consumerSequence →
      (∃ row, (sequence, row) ∈ next.worker.pending layout kind) ∨ sequence + capacity kind ≤ publishedCount (session.ports kind)
  missing : ∀ kind sequence, 1 ≤ sequence → sequence < (session.ports kind).consumerSequence →
    (∃ row, (sequence, row) ∈ (session.writers kind).rows ++ session.worker.pending layout kind) ∨
      sequence + capacity kind ≤ publishedCount (session.ports kind) ∨ session.failures ≠ []
  closed : session.closed = true → session.failuresBefore = [] → ∀ kind sequence, 1 ≤ sequence → sequence ≤ session.begun kind →
    Delivered session kind sequence
  -- Close returns normally only where nothing had failed when the session was closed, and throws what a writer threw.
  returned : ∀ id, session.closers id = .returned → session.closed = true ∧ session.failuresBefore = []
  threw : ∀ id text, session.closers id = .threw text → text ∈ session.failures
  ends : session.closed = true → session.worker.locks = false → ∀ id, session.closers id = .waiting →
    ∃ next, step session (.close id) = some next ∧ (next.closers id = .returned ∨ ∃ text, next.closers id = .threw text)
  once : session.closed = true → ∀ kind, session.worker ≠ .flushing kind ∧ session.worker ≠ .marking
  -- A pass that starts after the request with the producers stopped closes the session by its end, and it does end.
  completes : session.closeRequested = true → session.worker = .idle → Stopped session →
    ∃ count, ∀ actions final, runActions (system layout) session actions = some final →
      (count < actions.countP Action.works → final.closed = true) ∧
        (0 < actions.countP Action.works → final.worker = .idle → final.closed = true)

section Handed

variable {session next : Session layout}

def accepted (session : Session layout) (kind : Kind) : List (Message (layout.size kind) Word) :=
  (session.ports kind).pushes ++ (session.publishing kind).toList

theorem publish_accepted (kind other : Kind) (message : Message (layout.size other) Word)
    (taken : publish session other message = some next) :
    next.closing = session.closing ∧ next.closers = session.closers ∧
      accepted next kind = accepted session kind ++ if session.closing then [] else handed kind [Action.publish other message] := by
  unfold publish at taken
  split at taken
  · next free idle =>
      split at taken
      · next closing =>
          cases taken
          exact ⟨rfl, rfl, by rw [if_pos closing, List.append_nil]⟩
      · next open_ =>
          cases taken
          refine ⟨rfl, rfl, ?_⟩
          rw [if_neg open_]
          by_cases same : other = kind
          · subst same
            simp [accepted, handed, free]
          · simp [accepted, handed, same, Function.update_of_ne (Ne.symm same)]
  · cases taken

theorem work_accepted (kind : Kind) (answer : Answer)
    (known : ∀ kind, Reachable (port (capacity kind) (layout.size kind) Word) (session.ports kind)) :
    accepted (work session answer) kind = accepted session kind := by
  have pushes := work_kept (fun kind port => Reachable (Port.port (capacity kind) (layout.size kind) Word) port ∧
    port.pushes = (session.ports kind).pushes) ?_ session answer (fun kind => ⟨known kind, rfl⟩) kind
  · rw [accepted, accepted, pushes.2, (work_worked session answer).publishing]
  · intro kind state next action consumes before taken
    have fits := capacity_fits kind
    have inv := reachable_port_inv (capacity kind) (Nat.zero_lt_of_lt fits.1) fits.2 state before.1
    refine ⟨.next state next action before.1 trivial taken, ?_⟩
    cases action with
    | push message | producer => cases consumes
    | call call => exact (call_moved _ state next call taken).2.2.pushes.trans before.2
    | consumer => exact (consumer_step_moves _ state next inv.hazard taken).pushes.trans before.2

theorem produce_accepted (kind other : Kind)
    (known : ∀ kind, Reachable (port (capacity kind) (layout.size kind) Word) (session.ports kind))
    (taken : produce session other = some next) :
    next.closing = session.closing ∧ next.closers = session.closers ∧ accepted next kind = accepted session kind := by
  unfold produce at taken
  split at taken
  · next message publishing =>
      obtain ⟨port, pushed, rfl⟩ := Option.map_eq_some_iff.mp taken
      refine ⟨rfl, rfl, ?_⟩
      by_cases same : kind = other
      · subst same
        simp only [portStep] at pushed
        split at pushed
        · cases pushed
          simp [accepted, setPort, publishing]
        · cases pushed
      · simp [accepted, setPort, same]
  · next free =>
      obtain ⟨port, stepped, rfl⟩ := Option.map_eq_some_iff.mp taken
      refine ⟨rfl, rfl, ?_⟩
      by_cases same : kind = other
      · subst same
        have fits := capacity_fits kind
        have inv := reachable_port_inv (capacity kind) (Nat.zero_lt_of_lt fits.1) fits.2 _ (known kind)
        have moved := producer_step_moves _ _ _ inv.hazard stepped
        simp [accepted, setPort, moved.pushes]
      · simp [accepted, setPort, same]

-- No call of Close has begun, or the publishers are turned away.
def Turned (session : Session layout) : Prop := session.closing = true ∨ ∀ id, session.closers id = .entering

theorem close_accepted (kind : Kind) (id : Nat) (turned : Turned session) (taken : close session id = some next) :
    next.closing = true ∧ accepted next kind = accepted session kind := by
  have closing (begun : session.closers id ≠ .entering) : session.closing = true := turned.resolve_right fun fresh => begun (fresh id)
  unfold close at taken
  split at taken
  · cases taken
    exact ⟨rfl, rfl⟩
  · next here =>
      split at taken <;> cases taken
      exact ⟨closing (by rw [here]; nofun), rfl⟩
  · next here =>
      split at taken
      · cases taken
      · split at taken <;> cases taken <;> exact ⟨closing (by rw [here]; nofun), rfl⟩
  · cases taken

theorem step_accepted (kind : Kind) (action : Action layout)
    (known : ∀ kind, Reachable (port (capacity kind) (layout.size kind) Word) (session.ports kind)) (turned : Turned session)
    (taken : step session action = some next) :
    Turned next ∧ ∀ rest,
      (accepted next kind ++ if next.closing then [] else handed kind rest) =
        accepted session kind ++ if session.closing then [] else handed kind (action :: rest) := by
  cases action with
  | publish other message =>
    obtain ⟨closing, closers, grown⟩ := publish_accepted kind other message taken
    refine ⟨by rwa [Turned, closing, closers], fun rest => ?_⟩
    rw [closing, grown]
    split <;> simp [handed]
  | produce other =>
    obtain ⟨closing, closers, same⟩ := produce_accepted kind other known taken
    refine ⟨by rwa [Turned, closing, closers], fun rest => ?_⟩
    rw [closing, same, handed]
  | work answer =>
    cases taken
    have worked := work_worked session answer
    refine ⟨by rwa [Turned, worked.closing, worked.closers], fun rest => ?_⟩
    rw [worked.closing, work_accepted kind answer known, handed]
  | close id =>
    obtain ⟨closing, same⟩ := close_accepted kind id turned taken
    refine ⟨.inl closing, fun rest => ?_⟩
    rw [closing, same, handed, ite_self]
    rfl

theorem run_accepted (kind : Kind) (actions : List (Action layout)) (session final : Session layout)
    (known : ∀ kind, Reachable (port (capacity kind) (layout.size kind) Word) (session.ports kind)) (turned : Turned session)
    (ran : runActions (system layout) session actions = some final) :
    accepted final kind = accepted session kind ++ if session.closing then [] else handed kind actions := by
  induction actions generalizing session with
  | nil =>
    cases ran
    simp [handed]
  | cons action rest ih =>
    cases taken : step session action with
    | none => simp [runActions, runChecked, system, taken] at ran
    | some next =>
      have following : runActions (system layout) next rest = some final := by
        simpa [runActions, runChecked, system, taken] using ran
      have later (kind : Kind) := runs_while_reachable _ _ _ _ (known kind) (step_runs session next action taken kind)
      obtain ⟨turns, same⟩ := step_accepted kind action known turned taken
      exact (ih next later turns following).trans (same rest)

end Handed

theorem entries_sequences (layout : Layout Word Number) (kind : Kind) (returned : List (Returned Word)) :
    (entriesOf layout kind returned).map Prod.fst = poppedSequences returned := by
  rw [entriesOf, poppedSequences, List.map_filterMap]
  congr 1
  funext value
  cases value <;> rfl

theorem rows_ordered (sound : Sound session) (inv : SessionInv session) (kind : Kind) :
    ((session.writers kind).rows.map Prod.fst).Pairwise (· < ·) := by
  obtain ⟨rest, history, _⟩ := (inv.tracks kind).rows
  have popped := (sound.order kind).position.ordered
  rw [← entries_sequences layout kind, history, List.map_append] at popped
  exact (List.pairwise_append.mp popped).1

theorem rows_published (sound : Sound session) (inv : SessionInv session) (kind : Kind) (sequence : Nat) (row : List (Field Number))
    (member : (sequence, row) ∈ (session.writers kind).rows) :
    1 ≤ sequence ∧ ∃ message, (session.ports kind).pushes[sequence - 1]? = some message ∧ row = layout.row kind (List.ofFn message) := by
  obtain ⟨rest, history, _⟩ := (inv.tracks kind).rows
  have few := sound.few kind
  have entered : (sequence, row) ∈ entriesOf layout kind (session.ports kind).returned := by
    rw [history]
    exact List.mem_append_left _ member
  obtain ⟨value, returned, made⟩ := List.mem_filterMap.mp entered
  cases value with
  | popped popped words =>
    cases made
    obtain ⟨started, message, pushed, rfl⟩ := popped_pushed _ _ (sound.order kind).port (by omega) _ words returned
    exact ⟨started, message, pushed, rfl⟩
  | _ => cases made

theorem call_position (session : Session layout) (kind : Kind) (call : ConsumerCall) (pc : DrainPc Word) (other : Kind) :
    ((session.call kind call pc).ports other).consumerSequence = (session.ports other).consumerSequence := by
  show ((session.act kind (.call call)).ports other).consumerSequence = _
  by_cases same : other = kind
  · subst same
    rw [act_port]
    cases taken : portStep (capacity other) (session.ports other) (.call call) with
    | none => rfl
    | some next =>
      obtain ⟨_, rfl, _⟩ := call_moved _ _ next call taken
      rfl
  · rw [act_other session kind other _ same]

theorem call_last {size : Nat} (len : Nat) (state next : PortState size Word) (taken : consumerStep len state = some next)
    (call : ConsumerCall) (calling : state.consumer.call = some call) (earlier : List (Returned Word)) (last : Returned Word)
    (returned : next.returned = state.returned ++ earlier ++ [last]) (answers : ∀ head, last ≠ .head head) :
    next.consumer = .idle ∧ call.Ends last := by
  cases consumer_step_call len state next taken with
  | goes latest _ heads same =>
    rw [same, List.append_assoc, List.append_cancel_left_eq] at returned
    obtain ⟨head, shown⟩ := heads last (returned ▸ List.mem_append_right _ (List.mem_singleton_self _))
    exact absurd shown (answers head)
  | ends own latest answer called idle ends _ same =>
    rw [calling] at called
    cases called
    have same_last := congrArg List.getLast? (same.symm.trans returned)
    rw [List.getLast?_concat, List.getLast?_concat] at same_last
    cases same_last
    exact ⟨idle, ends⟩

theorem consumer_passes (kind : Kind) (call : ConsumerCall) (reads : call ≠ .clear) (sound : Sound session)
    (calling : (session.ports kind).consumer.call = some call) (other : Kind) (sequence : Nat)
    (above : (session.ports other).consumerSequence ≤ sequence)
    (below : sequence < ((session.act kind .consumer).ports other).consumerSequence) :
    (other = kind ∧ call = .pop ∧ ((session.act kind .consumer).ports kind).consumer = .idle ∧
      ∃ words, ((session.act kind .consumer).ports kind).returned.getLast? = some (.popped sequence words)) ∨
        sequence + capacity other ≤ publishedCount (session.ports other) := by
  by_cases own : other = kind
  · subst own
    rw [act_port] at below ⊢
    cases taken : portStep (capacity other) (session.ports other) .consumer with
    | none =>
      rw [taken] at below
      exact absurd (Nat.lt_of_le_of_lt above below) (Nat.lt_irrefl _)
    | some next =>
      rw [taken] at below
      simp only [Option.getD_some] at below ⊢
      have advances := port_step_advances (capacity other) _ next .consumer (sound.order other) (sound.few other) taken
      have ends := call_last (capacity other) _ next taken call calling
      rcases advances.2 sequence above below with ⟨words, popped⟩ | ⟨head, cleared, _⟩ | overwritten
      · obtain ⟨idle, answer⟩ := ends [] _ (by rw [popped, List.append_nil]) (fun head same => by cases same)
        cases call with
        | pop => exact .inl ⟨trivial, rfl, idle, words, by rw [popped, List.getLast?_concat]⟩
        | _ => cases answer
      · obtain ⟨_, answer⟩ := ends [.head head] .cleared (by rw [cleared, List.append_assoc]; rfl) (fun head same => by cases same)
        cases call with
        | clear => exact absurd rfl reads
        | _ => cases answer
      · exact .inr overwritten.lapped
  · rw [act_other session kind other _ own] at below
    omega

theorem pop_passes (kind : Kind) (sound : Sound session) (inv : SessionInv session) (answer : Answer)
    (here : session.worker = .popping kind) (other : Kind) (sequence : Nat) (above : (session.ports other).consumerSequence ≤ sequence)
    (below : sequence < ((work session answer).ports other).consumerSequence) :
    (∃ row, (sequence, row) ∈ (work session answer).worker.pending layout other) ∨
      sequence + capacity other ≤ publishedCount (session.ports other) := by
  have same : work session answer = (session.act kind .consumer).afterPop kind := by simp only [work, here]
  have calling := (inv.tracks kind).calls
  rw [here, DrainPc.callOn, if_pos rfl] at calling
  have position : (((session.act kind .consumer).afterPop kind).ports other).consumerSequence =
      ((session.act kind .consumer).ports other).consumerSequence := by
    unfold afterPop
    split
    · rfl
    · rfl
    · cases kind with
      | command => exact call_position _ .status .pop (.popping .status) other
      | status => rfl
  rw [same, position] at below
  rw [same]
  rcases consumer_passes kind .pop (fun clear => by cases clear) sound calling other sequence above below with
    ⟨rfl, _, idle, words, last⟩ | lapped
  · left
    rw [after_pop_popped _ other sequence words idle last, DrainPc.pending, if_pos rfl]
    exact ⟨_, List.mem_singleton_self _⟩
  · exact .inr lapped

theorem ask_passes (kind : Kind) (sound : Sound session) (inv : SessionInv session) (answer : Answer)
    (here : session.worker = .asking kind) (other : Kind) (sequence : Nat) (above : (session.ports other).consumerSequence ≤ sequence)
    (below : sequence < ((work session answer).ports other).consumerSequence) :
    sequence + capacity other ≤ publishedCount (session.ports other) := by
  have same : work session answer = (session.act kind .consumer).afterEmpty kind := by simp only [work, here]
  have calling := (inv.tracks kind).calls
  rw [here, DrainPc.callOn, if_pos rfl] at calling
  have position : (((session.act kind .consumer).afterEmpty kind).ports other).consumerSequence =
      ((session.act kind .consumer).ports other).consumerSequence := by
    unfold afterEmpty
    split
    · rfl
    · cases kind with
      | command => exact call_position _ .status .empty (.asking .status) other
      | status => rfl
    · rfl
  rw [same, position] at below
  rcases consumer_passes kind .empty (fun clear => by cases clear) sound calling other sequence above below with ⟨_, pop, _⟩ | lapped
  · cases pop
  · exact lapped

theorem work_passes (sound : Sound session) (inv : SessionInv session) (answer : Answer) (kind : Kind) (sequence : Nat)
    (above : (session.ports kind).consumerSequence ≤ sequence)
    (below : sequence < ((work session answer).ports kind).consumerSequence) :
    (∃ row, (sequence, row) ∈ (work session answer).worker.pending layout kind) ∨
      sequence + capacity kind ≤ publishedCount (session.ports kind) := by
  have still (unmoved : ((work session answer).ports kind).consumerSequence = (session.ports kind).consumerSequence) :
      (∃ row, (sequence, row) ∈ (work session answer).worker.pending layout kind) ∨
        sequence + capacity kind ≤ publishedCount (session.ports kind) := by
    rw [unmoved] at below
    omega
  cases here : session.worker with
  | popping other => exact pop_passes other sound inv answer here kind sequence above below
  | asking other => exact .inr (ask_passes other sound inv answer here kind sequence above below)
  | checking =>
    refine still ?_
    simp only [work, here]
    split
    · rfl
    · exact call_position session .command .pop _ kind
  | writing other number words =>
    refine still ?_
    cases answer with
    | returns =>
      simp only [work, here]
      exact call_position (session.append other number words) other .pop _ kind
    | throws text kept =>
      simp only [work, here]
      cases kept <;> rfl
  | finalizing =>
    refine still ?_
    simp only [work, here]
    split
    · rfl
    · split
      · rfl
      · exact call_position session .command .empty _ kind
  | storingWrite text | storingFlush text =>
    refine still ?_
    simp only [work, here, store_error_ports]
  | flushing other =>
    refine still ?_
    cases answer with
    | returns => cases other <;> simp only [work, here] <;> rfl
    | throws text kept => simp only [work, here]; rfl
  | _ =>
    refine still ?_
    simp only [work, here]

theorem step_passes (sound : Sound session) (inv : SessionInv session) (action : Action layout) (next : Session layout)
    (taken : step session action = some next) (kind : Kind) (sequence : Nat)
    (above : (session.ports kind).consumerSequence ≤ sequence) (below : sequence < (next.ports kind).consumerSequence) :
    (∃ row, (sequence, row) ∈ next.worker.pending layout kind) ∨ sequence + capacity kind ≤ publishedCount (session.ports kind) := by
  have still (unmoved : (next.ports kind).consumerSequence = (session.ports kind).consumerSequence) :
      (∃ row, (sequence, row) ∈ next.worker.pending layout kind) ∨ sequence + capacity kind ≤ publishedCount (session.ports kind) := by
    rw [unmoved] at below
    omega
  cases action with
  | publish other message =>
    refine still ?_
    rw [publish_ports session next other message taken]
  | produce other =>
    refine still ?_
    simp only [step, produce] at taken
    split at taken
    · next message _ =>
      obtain ⟨port, pushed, rfl⟩ := Option.map_eq_some_iff.mp taken
      exact (set_port_produced session other port
        (produced_push _ _ _ port message (sound.order other) (sound.few other) pushed) kind).consumerSequence
    · obtain ⟨port, stepped, rfl⟩ := Option.map_eq_some_iff.mp taken
      exact (set_port_produced session other port
        (produced_producer _ _ _ port (sound.order other) (sound.few other) stepped) kind).consumerSequence
  | work answer =>
    cases taken
    exact work_passes sound inv answer kind sequence above below
  | close id =>
    refine still ?_
    rw [close_ports session next id taken]

theorem waiting_ends (closed : session.closed = true) (free : session.worker.locks = false) (id : Nat)
    (waiting : session.closers id = .waiting) :
    ∃ next, step session (.close id) = some next ∧ (next.closers id = .returned ∨ ∃ text, next.closers id = .threw text) := by
  cases stored : session.error with
  | none =>
    refine ⟨session.setCloser id .returned, ?_, .inl (Function.update_self id _ session.closers)⟩
    simp [step, close, waiting, closed, free, stored]
  | some text =>
    refine ⟨session.setCloser id (.threw text), ?_, .inr ⟨text, Function.update_self id _ session.closers⟩⟩
    simp [step, close, waiting, closed, free, stored]

theorem finalises_once (inv : SessionInv session) (closed : session.closed = true) (kind : Kind) :
    session.worker ≠ .flushing kind ∧ session.worker ≠ .marking := by
  have stage := inv.stage
  refine ⟨?_, ?_⟩
  · intro here
    rw [here] at stage
    rw [stage.2.1.unclosed] at closed
    cases closed
  · intro here
    rw [here] at stage
    rw [stage.2.1.unclosed] at closed
    cases closed

theorem stopped_pass (sound : Sound session) (inv : SessionInv session) (requested : session.closeRequested = true)
    (here : session.worker = .idle) (stopped : Stopped session) :
    ∃ count, ∀ actions final, runActions (system layout) session actions = some final →
      (count < actions.countP Action.works → final.closed = true) ∧
        (0 < actions.countP Action.works → final.worker = .idle → final.closed = true) := by
  have quiet (kind : Kind) : Quiet (capacity kind) (session.ports kind) := by
    have calls := (inv.tracks kind).calls
    rw [here] at calls
    exact ⟨sound.reached kind, (stopped kind).2, call_none_idle _ calls⟩
  have halted : Halted session :=
    ⟨inv.flags.closing requested, requested, fun kind => (stopped kind).1, fun kind => ⟨sound.reached kind, (stopped kind).2⟩⟩
  obtain ⟨count, closes⟩ := pass_closes session ⟨quiet, sound.few, requested, inv.flags.error⟩ here
  exact ⟨count, fun actions final ran => pass_run actions count session final halted closes ran⟩

theorem log_delivery (layout : Layout Word Number) (session : Session layout) (reached : Reachable (system layout) session)
    (few : ∀ kind, (session.ports kind).pushes.length < 2 ^ 64 - 1) : Delivers session := by
  rw [← word64_value] at few
  have sound : Sound session := ⟨ports_reached session reached, few⟩
  have inv := session_inv session reached few
  refine ⟨?_, rows_ordered sound inv, rows_published sound inv, ?_, ?_, inv.flags.delivered, ?_, ?_, ?_, finalises_once inv,
    stopped_pass sound inv⟩
  · intro start actions initial ran kind
    have turned : Turned start := .inr fun id => by rw [initial.fresh]
    have accepted_ := run_accepted kind actions start session (fun kind => .start _ (initial.ports kind)) turned ran
    have pushes := (initial.ports kind).pushes
    rw [accepted, accepted, pushes, initial.fresh] at accepted_
    exact accepted_
  · intro action next taken
    exact step_passes sound inv action next taken
  · intro kind sequence started passed
    by_cases unbroken : session.failures = []
    · rcases passed_record sound inv kind sequence started passed unbroken with written | lapped
      · exact .inl written
      · exact .inr (.inl lapped)
    · exact .inr (.inr unbroken)
  · intro id returned
    have own := inv.closers id
    rw [returned] at own
    exact own
  · intro id text threw
    have own := inv.closers id
    rw [threw] at own
    exact own
  · intro closed free id waiting
    exact waiting_ends closed free id waiting

end Delivery

def plainLayout : Layout Nat Nat where
  size := fun _ => 1
  command := fun words =>
    { timestampNs := 0, kp := 0, kd := 0, position := words.headD 0, speed := 0, current := 0, torque := 0, stopMode := 0, feedback := 0
      fields := kMotorCommandLogPosition, type := .posControl, brakeEnabled := false }
  status := fun words =>
    { timestampNs := 0, error := 0, position := words.headD 0, speed := 0, current := 0, motorTemperature := 0, mosTemperature := 0 }

def freshSession : Session plainLayout := { ports := fun _ => emptyPort fun _ => 0 }

theorem fresh_session_initial : InitialSession freshSession := ⟨fun _ => empty_port_initial _, rfl⟩

def writtenRun : List (Action plainLayout) :=
  [.publish .command fun _ => 7] ++ List.replicate 16 (.produce .command) ++ [.close 0, .close 0] ++
    List.replicate 66 (.work .returns) ++ [.close 0]

theorem log_delivery_written :
    ∃ session : Session plainLayout, Delivers session ∧ session.closers 0 = .returned ∧
      (session.writers .command).rows.map (fun row => (row.1, row.2.take 5)) =
        [(1, [.integer 0, .text "PosControl", .empty, .empty, .real 7])] := by
  have checked : (runActions (system plainLayout) freshSession writtenRun).any (fun session =>
      decide (session.closers 0 = .returned) &&
        decide ((session.writers .command).rows.map (fun row => (row.1, row.2.take 5)) =
          [(1, [.integer 0, .text "PosControl", .empty, .empty, .real 7])]) &&
        decide ((session.ports .command).pushes.length = 1) && decide ((session.ports .status).pushes.length = 0)) = true := by
    decide +kernel
  obtain ⟨session, reached, facts⟩ :=
    run_actions_found (system plainLayout) writtenRun freshSession (.start _ fresh_session_initial) _ checked
  simp only [Bool.and_eq_true, decide_eq_true_eq] at facts
  obtain ⟨⟨⟨returned, rows⟩, one⟩, none⟩ := facts
  refine ⟨session, log_delivery plainLayout session reached ?_, returned, rows⟩
  intro kind
  cases kind with
  | command =>
    rw [one]
    decide
  | status =>
    rw [none]
    decide

def lateRun : List (Action plainLayout) :=
  [.publish .command fun _ => 7, .close 0, .close 0] ++ List.replicate 38 (.work .returns) ++ List.replicate 16 (.produce .command) ++
    List.replicate 21 (.work .returns) ++ [.work (.throws "No space left on device" false)]

/-- Close returns normally after a write has failed, and 2^64 records are lost without a failure. -/
theorem log_delivery_fails :
    (∃ session next : Session plainLayout, Reachable (system plainLayout) session ∧ session.failures ≠ [] ∧
      step session (.close 0) = some next ∧ next.closers 0 = .returned) ∧
    ∃ before after : Session plainLayout, Reachable (system plainLayout) before ∧ before.closing = false ∧ Stopped before ∧
      (before.ports .command).pushes.length = 2 ^ 64 ∧ SessionRun before after ∧
      (after.ports .command).pushes.length = 2 ^ 64 ∧ after.closers 0 = .returned ∧ after.failures = [] ∧
      (after.writers .command).rows = [] := by
  refine ⟨?_, ?_⟩
  · have checked : (runActions (system plainLayout) freshSession lateRun).any (fun session =>
        decide (session.failures ≠ []) && (step session (.close 0)).any fun next => decide (next.closers 0 = .returned)) = true := by
      decide +kernel
    obtain ⟨session, reached, facts⟩ :=
      run_actions_found (system plainLayout) lateRun freshSession (.start _ fresh_session_initial) _ checked
    simp only [Bool.and_eq_true, decide_eq_true_eq, Option.any_eq_true] at facts
    obtain ⟨failed, next, taken, returned⟩ := facts
    exact ⟨session, next, reached, failed, taken, returned⟩
  · obtain ⟨before, filled⟩ : ∃ before : Session plainLayout, Filled (fun _ _ => 0) word64 before := filled _ word64
    obtain ⟨after, ran, pushes, returned, sound, rows⟩ := blank_closes before filled.fresh (wrapped_blank _ before filled)
    have fresh := filled.fresh
    refine ⟨before, after, filled.reached, by rw [fresh], ?_, ?_, ran, ?_, returned, sound, rows .command⟩
    · intro kind
      refine ⟨by rw [fresh], ?_⟩
      cases kind with
      | command => exact filled.quiet.producer
      | status =>
        rw [filled.status]
        rfl
    · rw [filled.pushes, word64_value]
    · rw [pushes, filled.pushes, word64_value]

end EncosDriver.Motor.LogTransport
