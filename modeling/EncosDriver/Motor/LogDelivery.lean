import EncosDriver.Motor.LogTransport

set_option autoImplicit false

namespace EncosDriver.Motor.LogTransport

open Lib Port Session

variable {Word Number : Type} {layout : Layout Word Number}

theorem capacity_fits (kind : Kind) : 2 < capacity kind ∧ capacity kind < word64 := by
  rw [word64_value]
  cases kind <;> decide

structure PortLater {size : Nat} (before after : PortState size Word) : Prop where
  pushes : before.pushes.length ≤ after.pushes.length
  published : publishedCount before ≤ publishedCount after
  producerSequence : before.producerSequence ≤ after.producerSequence
  consumerSequence : before.consumerSequence ≤ after.consumerSequence

theorem port_later (len size : Nat) (state next : PortState size Word) (action : PortAction size Word) (order : OrderInv len state)
    (few : state.pushes.length < word64 - 1) (taken : portStep len state action = some next) : PortLater state next := by
  refine ⟨pushes_grow len state next action order.port taken, published_grows len state next action order.port taken, ?_,
    (port_step_advances len state next action order few taken).1⟩
  cases port_steps taken with
  | push message => exact Nat.le_refl _
  | producer => exact producer_sequence_grows len state next order.publish (by omega) taken
  | call call => exact Nat.le_of_eq (congrArg PortState.producerSequence (call_moved len state _ call taken).2.1).symm
  | consumer => exact Nat.le_of_eq (consumer_step_moves len state next order.port.hazard taken).producerSequence.symm

abbrev PortRun {size : Nat} (len : Nat) (first last : PortState size Word) : Prop :=
  RunsWhile (port len size Word) (fun _ => True) first last

theorem port_run_later (len size : Nat) (capacity : 1 < len) (bounded : len < word64) (first last : PortState size Word)
    (reached : Reachable (port len size Word) first) (ran : PortRun len first last) (few : last.pushes.length < word64 - 1) :
    PortLater first last := by
  induction ran with
  | here => exact ⟨Nat.le_refl _, Nat.le_refl _, Nat.le_refl _, Nat.le_refl _⟩
  | next state next action previous _ taken ih =>
    have here := runs_while_reachable (port len size Word) _ first state reached previous
    have grown := pushes_grow len state next action
      (reachable_port_inv len (Nat.lt_of_succ_lt capacity) bounded state here) taken
    have fewer : state.pushes.length < word64 - 1 := Nat.lt_of_le_of_lt grown few
    have earlier := ih fewer
    have later := port_later len size state next action (reachable_order_inv len capacity bounded state here fewer) fewer taken
    exact ⟨Nat.le_trans earlier.pushes later.pushes, Nat.le_trans earlier.published later.published,
      Nat.le_trans earlier.producerSequence later.producerSequence, Nat.le_trans earlier.consumerSequence later.consumerSequence⟩

abbrev Later (session next : Session layout) : Prop := ∀ kind, PortLater (session.ports kind) (next.ports kind)

def Runs (session next : Session layout) : Prop := ∀ kind, PortRun (capacity kind) (session.ports kind) (next.ports kind)

variable (session : Session layout)

theorem act_port (kind : Kind) (action : PortAction (layout.size kind) Word) :
    (session.act kind action).ports kind = (portStep (capacity kind) (session.ports kind) action).getD (session.ports kind) :=
  Function.update_self kind _ session.ports

theorem act_other (kind other : Kind) (action : PortAction (layout.size kind) Word)
    (different : other ≠ kind) : (session.act kind action).ports other = session.ports other :=
  Function.update_of_ne different _ session.ports

theorem runs_port (first session : Session layout) (runs : Runs first session) (kind : Kind) (port : PortState (layout.size kind) Word)
    (action : PortAction (layout.size kind) Word) (taken : portStep (capacity kind) (session.ports kind) action = some port) :
    Runs first (session.setPort kind port) := by
  intro other
  by_cases same : other = kind
  · subst same
    have here : (session.setPort other port).ports other = port := Function.update_self other _ session.ports
    rw [here]
    exact .next _ _ action (runs other) trivial taken
  · have elsewhere : (session.setPort kind port).ports other = session.ports other :=
      Function.update_of_ne same _ session.ports
    rw [elsewhere]
    exact runs other

theorem store_error_ports (text : String) : (session.storeError text).ports = session.ports := by
  unfold storeError
  split <;> rfl

def Consumes {size : Nat} : PortAction size Word → Prop
  | .call _ | .consumer => True
  | _ => False

section Kept

variable (Kept : (kind : Kind) → PortState (layout.size kind) Word → Prop)
  (kept : ∀ kind port next action, Consumes action → Kept kind port → portStep (capacity kind) port action = some next → Kept kind next)

include kept

theorem act_kept (session : Session layout) (here : ∀ other, Kept other (session.ports other)) (kind : Kind)
    (action : PortAction (layout.size kind) Word) (consumes : Consumes action) (other : Kind) :
    Kept other ((session.act kind action).ports other) := by
  by_cases same : other = kind
  · subst same
    rw [act_port]
    cases taken : portStep (capacity other) (session.ports other) action with
    | none => exact here other
    | some next => exact kept other _ next action consumes (here other) taken
  · rw [act_other session kind other action same]
    exact here other

theorem after_pop_kept (session : Session layout) (here : ∀ other, Kept other (session.ports other)) (kind other : Kind) :
    Kept other ((session.afterPop kind).ports other) := by
  unfold afterPop
  split
  · exact here other
  · exact here other
  · cases kind with
    | command => exact act_kept Kept kept session here .status (.call .pop) trivial other
    | status => exact here other

theorem after_empty_kept (session : Session layout) (here : ∀ other, Kept other (session.ports other)) (kind other : Kind) :
    Kept other ((session.afterEmpty kind).ports other) := by
  unfold afterEmpty
  split
  · exact here other
  · cases kind with
    | command => exact act_kept Kept kept session here .status (.call .empty) trivial other
    | status => exact here other
  · exact here other

theorem work_kept (session : Session layout) (answer : Answer) (here : ∀ other, Kept other (session.ports other)) (other : Kind) :
    Kept other ((work session answer).ports other) := by
  have stored (text : String) : Kept other ((session.storeError text).ports other) := by
    rw [store_error_ports]
    exact here other
  unfold work
  split
  · exact here other
  · split
    · exact here other
    · exact act_kept Kept kept session here .command (.call .pop) trivial other
  · exact after_pop_kept Kept kept _ (act_kept Kept kept session here _ .consumer trivial) _ other
  · split
    · exact act_kept Kept kept (session.append _ _ _) here _ (.call .pop) trivial other
    · split <;> exact here other
  · exact stored _
  · split
    · exact here other
    · split
      · exact here other
      · exact act_kept Kept kept session here .command (.call .empty) trivial other
  · exact after_empty_kept Kept kept _ (act_kept Kept kept session here _ .consumer trivial) _ other
  · split
    · next kind _ _ => cases kind <;> exact here other
    · exact here other
  · exact stored _
  · exact here other

end Kept

theorem runs_here : Runs session session := fun _ => .here

theorem work_runs (answer : Answer) : Runs session (work session answer) :=
  work_kept (fun kind port => PortRun (capacity kind) (session.ports kind) port)
    (fun _ _ _ action _ ran taken => .next _ _ action ran trivial taken) session answer (runs_here session)

def entry (layout : Layout Word Number) (kind : Kind) : Returned Word → Option (Nat × List (Field Number))
  | .popped sequence words => some (sequence, layout.row kind words)
  | _ => none

def entriesOf (layout : Layout Word Number) (kind : Kind) (returned : List (Returned Word)) : List (Nat × List (Field Number)) :=
  returned.filterMap (entry layout kind)

def DrainPc.callOn : DrainPc Word → Kind → Option ConsumerCall
  | .popping kind, other => if other = kind then some .pop else none
  | .asking kind, other => if other = kind then some .empty else none
  | _, _ => none

def DrainPc.pending (layout : Layout Word Number) : DrainPc Word → Kind → List (Nat × List (Field Number))
  | .writing kind sequence words, other => if other = kind then [(sequence, layout.row kind words)] else []
  | _, _ => []

structure Tracks (layout : Layout Word Number) (kind : Kind) (port : PortState (layout.size kind) Word) (writer : Writer Number)
    (failures : List String) (called : Option ConsumerCall) (pending : List (Nat × List (Field Number))) : Prop where
  calls : port.consumer.call = called
  uncleared : ∀ value ∈ port.returned, value ≠ .cleared
  rows : ∃ rest, entriesOf layout kind port.returned = writer.rows ++ rest ∧ (failures = [] → rest = pending)
  flushed : writer.flushed ≤ writer.rows.length

section Tracking

variable {kind : Kind} {port : PortState (layout.size kind) Word} {writer : Writer Number} {failures : List String}
  {called : Option ConsumerCall} {pending : List (Nat × List (Field Number))}

theorem call_none_idle (pc : ConsumerPc Word) (none : pc.call = none) : pc = .idle := by
  cases pc <;> first | rfl | cases none

theorem tracks_call (call : ConsumerCall) (tracks : Tracks layout kind port writer failures none pending) :
    Tracks layout kind ((portStep (capacity kind) port (.call call)).getD port) writer failures (some call) pending := by
  have idle := call_none_idle port.consumer tracks.calls
  have taken : portStep (capacity kind) port (.call call) = some { port with consumer := .loadHeadActive call } := by
    simp only [portStep, idle]
  rw [taken]
  exact ⟨rfl, tracks.uncleared, tracks.rows, tracks.flushed⟩

theorem entries_heads (latest : List (Returned Word)) (heads : ∀ value ∈ latest, ∃ head, value = .head head) :
    entriesOf layout kind latest = [] := by
  refine List.filterMap_eq_nil_iff.mpr ?_
  intro value member
  obtain ⟨head, same⟩ := heads value member
  rw [same]
  rfl

theorem heads_uncleared (latest : List (Returned Word)) (heads : ∀ value ∈ latest, ∃ head, value = .head head)
    (value : Returned Word) (member : value ∈ latest) : value ≠ .cleared := by
  obtain ⟨head, same⟩ := heads value member
  intro cleared
  cases same.symm.trans cleared

theorem entries_append (earlier latest : List (Returned Word)) :
    entriesOf layout kind (earlier ++ latest) = entriesOf layout kind earlier ++ entriesOf layout kind latest :=
  List.filterMap_append

theorem tracks_consumer (call : ConsumerCall) (reads : call ≠ .clear) (tracks : Tracks layout kind port writer failures (some call) []) :
    let next := (portStep (capacity kind) port .consumer).getD port
    Tracks layout kind next writer failures (some call) [] ∨
      ∃ last, call.Ends last ∧ next.consumer = .idle ∧ next.returned.getLast? = some last ∧
        consumerStep (capacity kind) port = some next ∧
        Tracks layout kind next writer failures none (entry layout kind last).toList := by
  cases taken : portStep (capacity kind) port .consumer with
  | none => exact .inl tracks
  | some next =>
    simp only [Option.getD_some]
    obtain ⟨rest, history, none⟩ := tracks.rows
    cases consumer_step_call (capacity kind) port next taken with
    | goes latest same heads returned =>
      refine .inl ⟨same.trans tracks.calls, ?_, ⟨rest, ?_, none⟩, tracks.flushed⟩
      · intro value member
        rw [returned] at member
        rcases List.mem_append.mp member with earlier | new
        · exact tracks.uncleared value earlier
        · exact heads_uncleared latest heads value new
      · rw [returned, entries_append, entries_heads latest heads, List.append_nil]
        exact history
    | ends own latest last called idle answer heads returned =>
      rw [tracks.calls] at called
      cases called
      refine .inr ⟨last, answer, idle, ?_, taken, ?_, ?_, ⟨rest ++ (entry layout kind last).toList, ?_, ?_⟩, tracks.flushed⟩
      · rw [returned, List.getLast?_concat]
      · rw [idle]
        rfl
      · intro value member
        rw [returned] at member
        rcases List.mem_append.mp member with old | new
        · rcases List.mem_append.mp old with earlier | head
          · exact tracks.uncleared value earlier
          · exact heads_uncleared latest heads value head
        · rw [List.mem_singleton.mp new]
          intro cleared
          subst cleared
          cases call with
          | clear => exact reads rfl
          | _ => cases answer
      · rw [returned, entries_append, entries_append, entries_heads latest heads, List.append_nil, history, List.append_assoc]
        cases last <;> rfl
      · intro sound
        rw [none sound]
        rfl

theorem tracks_append (sequence : Nat) (words : List Word)
    (tracks : Tracks layout kind port writer [] called [(sequence, layout.row kind words)]) :
    Tracks layout kind port { writer with rows := writer.rows ++ [(sequence, layout.row kind words)] } [] called [] := by
  obtain ⟨rest, history, pending⟩ := tracks.rows
  refine ⟨tracks.calls, tracks.uncleared, ⟨[], ?_, fun _ => rfl⟩, ?_⟩
  · rw [history, pending rfl, List.append_nil]
  · rw [List.length_append]
    exact Nat.le_trans tracks.flushed (Nat.le_add_right _ _)

theorem tracks_fail (text : String) (other : List (Nat × List (Field Number)))
    (tracks : Tracks layout kind port writer failures called pending) :
    Tracks layout kind port writer (failures ++ [text]) called other := by
  obtain ⟨rest, history, _⟩ := tracks.rows
  refine ⟨tracks.calls, tracks.uncleared, ⟨rest, history, ?_⟩, tracks.flushed⟩
  intro none
  exact absurd none (List.append_ne_nil_of_right_ne_nil _ (List.cons_ne_nil _ _))

theorem tracks_flush (tracks : Tracks layout kind port writer failures called pending) :
    Tracks layout kind port { writer with flushed := writer.rows.length } failures called pending :=
  ⟨tracks.calls, tracks.uncleared, tracks.rows, Nat.le_refl _⟩

end Tracking

def Past (session : Session layout) (kind : Kind) : Prop := session.begun kind < (session.ports kind).consumerSequence

def Flushed (session : Session layout) (kind : Kind) : Prop :=
  (session.writers kind).flushed = (session.writers kind).rows.length

def Settled (session : Session layout) : Prop := session.failures ≠ [] → session.failed = true

structure Finalising (session : Session layout) : Prop where
  requested : session.closeRequested = true
  unclosed : session.closed = false

def Stage (session : Session layout) : DrainPc Word → Prop
  | .idle | .checking | .finalizing => Settled session
  | .popping _ | .writing _ _ _ => session.failures = []
  | .storingWrite text => text ∈ session.failures
  | .asking kind =>
    session.failures = [] ∧ Finalising session ∧ Reads (session.begun kind) (session.ports kind) ∧
      (kind = .status → Past session .command)
  | .flushing kind =>
    Settled session ∧ Finalising session ∧
      (session.failures = [] → (∀ other, Past session other) ∧ (kind = .status → Flushed session .command))
  | .storingFlush text => text ∈ session.failures ∧ Finalising session
  | .marking =>
    Settled session ∧ Finalising session ∧ (session.failures = [] → ∀ other, Past session other ∧ Flushed session other)

def Session.taken (session : Session layout) (kind : Kind) : List (Nat × List (Field Number)) :=
  (session.writers kind).rows.take (session.writers kind).flushed

def Delivered (session : Session layout) (kind : Kind) (sequence : Nat) : Prop :=
  (∃ row, (sequence, row) ∈ session.taken kind) ∨ sequence + capacity kind ≤ publishedCount (session.ports kind)

structure Flags (session : Session layout) : Prop where
  error : session.error.isSome = session.failed
  cause : ∀ text, session.error = some text → text ∈ session.failures
  requested : session.closed = true → session.closeRequested = true
  closing : session.closeRequested = true → session.closing = true
  begun : session.closing = true → ∀ kind, session.begun kind ≤ (session.ports kind).producerSequence
  broken : session.closed = true → session.failuresBefore ≠ [] → session.failed = true
  delivered : session.closed = true → session.failuresBefore = [] → ∀ kind sequence, 1 ≤ sequence → sequence ≤ session.begun kind →
    Delivered session kind sequence

def CloserOk (session : Session layout) : ClosePc → Prop
  | .entering => True
  | .requesting => session.closing = true
  | .waiting => session.closeRequested = true
  | .returned => session.closed = true ∧ session.failuresBefore = []
  | .threw text => text ∈ session.failures

structure SessionInv (session : Session layout) : Prop where
  tracks : ∀ kind, Tracks layout kind (session.ports kind) (session.writers kind) session.failures (session.worker.callOn kind)
    (session.worker.pending layout kind)
  stage : Stage session session.worker
  flags : Flags session
  closers : ∀ id, CloserOk session (session.closers id)

theorem initial_inv (initial : InitialSession session) : SessionInv session := by
  have fresh := initial.fresh
  refine ⟨?_, ?_, ?_, ?_⟩
  · intro kind
    have port := initial.ports kind
    rw [fresh]
    refine ⟨?_, ?_, ⟨[], ?_, fun _ => rfl⟩, Nat.le_refl _⟩
    · rw [port.consumer]
      rfl
    · rw [port.returned]
      intro value member
      cases member
    · rw [port.returned]
      rfl
  · rw [fresh]
    exact fun some => absurd rfl some
  · rw [fresh]
    refine ⟨rfl, ?_, ?_, ?_, ?_, ?_, ?_⟩
    · intro text stored
      cases stored
    all_goals
      intro set
      cases set
  · intro id
    rw [fresh]
    trivial

structure Produced {size : Nat} (before after : PortState size Word) : Prop where
  consumer : after.consumer = before.consumer
  consumerSequence : after.consumerSequence = before.consumerSequence
  returned : after.returned = before.returned
  reads : ∀ bound, Reads bound before → Reads bound after
  later : PortLater before after

theorem produced_same {size : Nat} (port : PortState size Word) : Produced port port :=
  ⟨rfl, rfl, rfl, fun _ reads => reads, Nat.le_refl _, Nat.le_refl _, Nat.le_refl _, Nat.le_refl _⟩

theorem produced_push (len size : Nat) (state next : PortState size Word) (message : Message size Word) (order : OrderInv len state)
    (few : state.pushes.length < word64 - 1) (taken : portStep len state (.push message) = some next) : Produced state next := by
  have later := port_later len size state next (.push message) order few taken
  have reads := fun bound before => reads_push len bound state next message before taken
  cases port_steps taken with
  | push =>
    exact ⟨rfl, rfl, rfl, reads, later⟩

theorem produced_producer (len size : Nat) (state next : PortState size Word) (order : OrderInv len state)
    (few : state.pushes.length < word64 - 1) (taken : portStep len state .producer = some next) : Produced state next := by
  have moved := producer_step_moves len state next order.port.hazard taken
  exact ⟨moved.consumer, moved.consumerSequence, moved.returned,
    fun bound reads => reads_producer len bound state next order (by omega) reads taken,
    port_later len size state next .producer order few taken⟩

structure Outside (session next : Session layout) : Prop where
  worker : next.worker = session.worker
  writers : next.writers = session.writers
  failures : next.failures = session.failures
  failed : next.failed = session.failed
  error : next.error = session.error
  closed : next.closed = session.closed
  failuresBefore : next.failuresBefore = session.failuresBefore
  closing : session.closing = true → next.closing = true ∧ next.begun = session.begun
  requested : session.closeRequested = true → next.closeRequested = true
  ports : ∀ kind, Produced (session.ports kind) (next.ports kind)

variable (session next : Session layout)

theorem outside_stage (outside : Outside session next) (pc : DrainPc Word) (flags : Flags session)
    (stage : Stage session pc) : Stage next pc := by
  have settled : Settled session → Settled next := by
    unfold Settled
    rw [outside.failures, outside.failed]
    exact id
  have finalising : Finalising session → Finalising next := fun still =>
    ⟨outside.requested still.requested, outside.closed.trans still.unclosed⟩
  have begun : Finalising session → next.begun = session.begun := fun still =>
    (outside.closing (flags.closing still.requested)).2
  have past (kind : Kind) : Finalising session → Past session kind → Past next kind := by
    intro still before
    rw [Past, begun still, (outside.ports kind).consumerSequence]
    exact before
  have flushed (kind : Kind) : Flushed session kind → Flushed next kind := by
    unfold Flushed
    rw [outside.writers]
    exact id
  cases pc with
  | idle | checking | finalizing => exact settled stage
  | popping kind => exact outside.failures.trans stage
  | writing kind sequence words => exact outside.failures.trans stage
  | storingWrite text =>
    show text ∈ next.failures
    rw [outside.failures]
    exact stage
  | asking kind =>
    obtain ⟨sound, still, reads, command⟩ := stage
    refine ⟨outside.failures.trans sound, finalising still, ?_, fun second => past .command still (command second)⟩
    rw [begun still]
    exact (outside.ports kind).reads _ reads
  | flushing kind =>
    obtain ⟨reported, still, done⟩ := stage
    refine ⟨settled reported, finalising still, ?_⟩
    rw [outside.failures]
    intro sound
    exact ⟨fun other => past other still ((done sound).1 other), fun second => flushed .command ((done sound).2 second)⟩
  | storingFlush text =>
    refine ⟨?_, finalising stage.2⟩
    rw [outside.failures]
    exact stage.1
  | marking =>
    obtain ⟨reported, still, done⟩ := stage
    refine ⟨settled reported, finalising still, ?_⟩
    rw [outside.failures]
    intro sound other
    exact ⟨past other still (done sound other).1, flushed other (done sound other).2⟩

theorem outside_inv (outside : Outside session next) (inv : SessionInv session)
    (begun : next.closing = true → ∀ kind, next.begun kind ≤ (next.ports kind).producerSequence)
    (closing : next.closeRequested = true → next.closing = true)
    (closers : ∀ id, CloserOk next (next.closers id)) : SessionInv next := by
  have flags := inv.flags
  refine ⟨?_, ?_, ⟨?_, ?_, ?_, closing, begun, ?_, ?_⟩, closers⟩
  · intro kind
    have tracks := inv.tracks kind
    rw [outside.writers, outside.failures, outside.worker]
    refine ⟨?_, ?_, ?_, tracks.flushed⟩
    · rw [(outside.ports kind).consumer]
      exact tracks.calls
    · rw [(outside.ports kind).returned]
      exact tracks.uncleared
    · rw [(outside.ports kind).returned]
      exact tracks.rows
  · rw [outside.worker]
    exact outside_stage session next outside session.worker flags inv.stage
  · rw [outside.error, outside.failed]
    exact flags.error
  · rw [outside.error, outside.failures]
    exact flags.cause
  · rw [outside.closed]
    exact fun closed => outside.requested (flags.requested closed)
  · rw [outside.closed, outside.failuresBefore, outside.failed]
    exact flags.broken
  · rw [outside.closed, outside.failuresBefore]
    intro closed sound kind sequence started below
    rw [(outside.closing (flags.closing (flags.requested closed))).2] at below
    rcases flags.delivered closed sound kind sequence started below with written | lapped
    · left
      rw [Session.taken, outside.writers]
      exact written
    · exact .inr (Nat.le_trans lapped (outside.ports kind).later.published)

structure Sound (session : Session layout) : Prop where
  reached : ∀ kind, Reachable (port (capacity kind) (layout.size kind) Word) (session.ports kind)
  few : ∀ kind, (session.ports kind).pushes.length < word64 - 1

theorem Sound.order {session : Session layout} (sound : Sound session) (kind : Kind) : OrderInv (capacity kind) (session.ports kind) :=
  reachable_order_inv (capacity kind) (Nat.lt_of_succ_lt (capacity_fits kind).1) (capacity_fits kind).2 _ (sound.reached kind)
    (sound.few kind)

theorem publish_inv (kind : Kind) (message : Message (layout.size kind) Word) (inv : SessionInv session)
    (taken : publish session kind message = some next) : SessionInv next := by
  unfold publish at taken
  split at taken
  · split at taken
    · cases taken
      exact inv
    · cases taken
      exact outside_inv session _ ⟨rfl, rfl, rfl, rfl, rfl, rfl, rfl, fun set => ⟨set, rfl⟩, fun set => set, fun _ => produced_same _⟩
        inv inv.flags.begun inv.flags.closing inv.closers
  · cases taken

theorem set_port_produced (kind : Kind) (port : PortState (layout.size kind) Word)
    (produced : Produced (session.ports kind) port) (other : Kind) :
    Produced (session.ports other) ((session.setPort kind port).ports other) := by
  by_cases same : other = kind
  · subst same
    rw [show (session.setPort other port).ports other = port from Function.update_self other _ session.ports]
    exact produced
  · rw [show (session.setPort kind port).ports other = session.ports other from Function.update_of_ne same _ session.ports]
    exact produced_same _

theorem produce_inv (kind : Kind) (sound : Sound session) (inv : SessionInv session)
    (taken : produce session kind = some next) : SessionInv next := by
  have order := sound.order kind
  have begun (port : PortState (layout.size kind) Word) (produced : Produced (session.ports kind) port)
      (set : session.closing = true) (other : Kind) :
      session.begun other ≤ ((session.setPort kind port).ports other).producerSequence :=
    Nat.le_trans (inv.flags.begun set other) (set_port_produced session kind port produced other).later.producerSequence
  unfold produce at taken
  split at taken
  · next message _ =>
    obtain ⟨port, pushed, rfl⟩ := Option.map_eq_some_iff.mp taken
    have produced := produced_push _ _ _ port message order (sound.few kind) pushed
    exact outside_inv session _ ⟨rfl, rfl, rfl, rfl, rfl, rfl, rfl, fun set => ⟨set, rfl⟩, fun set => set,
      set_port_produced session kind port produced⟩ inv (begun port produced) inv.flags.closing inv.closers
  · obtain ⟨port, stepped, rfl⟩ := Option.map_eq_some_iff.mp taken
    have produced := produced_producer _ _ _ port order (sound.few kind) stepped
    exact outside_inv session _ ⟨rfl, rfl, rfl, rfl, rfl, rfl, rfl, fun set => ⟨set, rfl⟩, fun set => set,
      set_port_produced session kind port produced⟩ inv (begun port produced) inv.flags.closing inv.closers

theorem closer_kept (pc : ClosePc) (closing : session.closing = true → next.closing = true)
    (requested : session.closeRequested = true → next.closeRequested = true) (closed : session.closed = true → next.closed = true)
    (before : session.closed = true → next.failuresBefore = session.failuresBefore)
    (failures : ∀ text ∈ session.failures, text ∈ next.failures) (ok : CloserOk session pc) : CloserOk next pc := by
  cases pc with
  | entering => trivial
  | requesting => exact closing ok
  | waiting => exact requested ok
  | returned => exact ⟨closed ok.1, (before ok.1).trans ok.2⟩
  | threw text => exact failures text ok

theorem set_closer_ok (id : Nat) (pc : ClosePc) (inv : SessionInv session)
    (closers : next.closers = Function.update session.closers id pc) (closing : session.closing = true → next.closing = true)
    (requested : session.closeRequested = true → next.closeRequested = true) (closed : next.closed = session.closed)
    (before : next.failuresBefore = session.failuresBefore) (failures : next.failures = session.failures) (own : CloserOk next pc)
    (other : Nat) : CloserOk next (next.closers other) := by
  rw [closers]
  by_cases same : other = id
  · rw [same, Function.update_self]
    exact own
  · rw [Function.update_of_ne same]
    exact closer_kept session next _ closing requested (fun set => closed.trans set) (fun _ => before)
      (fun text member => failures ▸ member) (inv.closers other)

theorem close_inv (id : Nat) (inv : SessionInv session) (taken : close session id = some next) : SessionInv next := by
  have flags := inv.flags
  have ends (pc : ClosePc) (own : CloserOk session pc) : SessionInv (session.setCloser id pc) :=
    outside_inv session _ ⟨rfl, rfl, rfl, rfl, rfl, rfl, rfl, fun set => ⟨set, rfl⟩, fun set => set, fun _ => produced_same _⟩
      inv flags.begun flags.closing
      (set_closer_ok session _ id pc inv rfl (fun set => set) (fun set => set) rfl rfl rfl
        (closer_kept session _ pc (fun set => set) (fun set => set) (fun set => set) (fun _ => rfl) (fun _ member => member) own))
  unfold close at taken
  split at taken
  · cases taken
    refine outside_inv session _ ⟨rfl, rfl, rfl, rfl, rfl, rfl, rfl, fun set => ⟨rfl, if_pos set⟩, fun set => set,
      fun _ => produced_same _⟩ inv ?_ (fun _ => rfl)
      (set_closer_ok session _ id .requesting inv rfl (fun _ => rfl) (fun set => set) rfl rfl rfl rfl)
    intro _ kind
    by_cases set : session.closing = true
    · simp only [set, ↓reduceIte]
      exact flags.begun set kind
    · simp only [set, Bool.false_eq_true, ↓reduceIte]
      exact Nat.le_refl _
  · next entered =>
    split at taken
    · cases taken
    · cases taken
      have closing : session.closing = true := by
        have own := inv.closers id
        rw [entered] at own
        exact own
      exact outside_inv session _ ⟨rfl, rfl, rfl, rfl, rfl, rfl, rfl, fun set => ⟨set, rfl⟩, fun _ => rfl, fun _ => produced_same _⟩
        inv flags.begun (fun _ => closing)
        (set_closer_ok session _ id .waiting inv rfl (fun set => set) (fun _ => rfl) rfl rfl rfl rfl)
  · split at taken
    · cases taken
    · next ready =>
      have closed : session.closed = true := by
        simp only [Bool.or_eq_true, Bool.not_eq_eq_eq_not, Bool.not_true, not_or, Bool.not_eq_false] at ready
        exact ready.2
      split at taken
      · next none =>
        cases taken
        refine ends .returned ⟨closed, ?_⟩
        by_contra some
        have failed := flags.broken closed some
        rw [← flags.error, none] at failed
        cases failed
      · next text stored =>
        cases taken
        exact ends (.threw text) (flags.cause text stored)
  · cases taken

structure Keeps (session next : Session layout) : Prop where
  error : next.error = session.error
  failed : next.failed = session.failed
  closed : next.closed = session.closed
  requested : next.closeRequested = session.closeRequested
  closing : next.closing = session.closing
  begun : next.begun = session.begun
  closers : next.closers = session.closers
  failuresBefore : next.failuresBefore = session.failuresBefore
  failures : ∀ text ∈ session.failures, text ∈ next.failures
  taken : ∀ kind, ∀ row ∈ session.taken kind, row ∈ next.taken kind

theorem delivered_later (kind : Kind) (sequence : Nat)
    (taken : ∀ row ∈ session.taken kind, row ∈ next.taken kind) (later : PortLater (session.ports kind) (next.ports kind))
    (delivered : Delivered session kind sequence) : Delivered next kind sequence := by
  rcases delivered with ⟨row, written⟩ | lapped
  · exact .inl ⟨row, taken _ written⟩
  · exact .inr (Nat.le_trans lapped later.published)

theorem keeps_inv (inv : SessionInv session) (later : Later session next) (keeps : Keeps session next)
    (tracks : ∀ kind, Tracks layout kind (next.ports kind) (next.writers kind) next.failures (next.worker.callOn kind)
      (next.worker.pending layout kind)) (stage : Stage next next.worker) : SessionInv next := by
  have flags := inv.flags
  refine ⟨tracks, stage, ⟨?_, ?_, ?_, ?_, ?_, ?_, ?_⟩, ?_⟩
  · rw [keeps.error, keeps.failed]
    exact flags.error
  · rw [keeps.error]
    exact fun text stored => keeps.failures text (flags.cause text stored)
  · rw [keeps.closed, keeps.requested]
    exact flags.requested
  · rw [keeps.requested, keeps.closing]
    exact flags.closing
  · rw [keeps.closing, keeps.begun]
    exact fun set kind => Nat.le_trans (flags.begun set kind) (later kind).producerSequence
  · rw [keeps.closed, keeps.failuresBefore, keeps.failed]
    exact flags.broken
  · rw [keeps.closed, keeps.failuresBefore, keeps.begun]
    exact fun closed sound kind sequence started below =>
      delivered_later session next kind sequence (keeps.taken kind) (later kind) (flags.delivered closed sound kind sequence started below)
  · intro id
    rw [keeps.closers]
    exact closer_kept session next _ (fun set => keeps.closing.trans set) (fun set => keeps.requested.trans set)
      (fun set => keeps.closed.trans set) (fun _ => keeps.failuresBefore) keeps.failures (inv.closers id)

theorem call_tracks (kind : Kind) (call : ConsumerCall) (pc : DrainPc Word)
    (free : ∀ other, Tracks layout other (session.ports other) (session.writers other) session.failures none [])
    (on : ∀ other, pc.callOn other = if other = kind then some call else none) (pending : ∀ other, pc.pending layout other = [])
    (other : Kind) :
    Tracks layout other ((session.call kind call pc).ports other) ((session.call kind call pc).writers other)
      (session.call kind call pc).failures ((session.call kind call pc).worker.callOn other)
      ((session.call kind call pc).worker.pending layout other) := by
  show Tracks layout other ((session.act kind (.call call)).ports other) (session.writers other) session.failures (pc.callOn other)
    (pc.pending layout other)
  rw [on, pending]
  by_cases same : other = kind
  · subst same
    rw [act_port, if_pos rfl]
    exact tracks_call call (free other)
  · rw [act_other session kind other _ same, if_neg same]
    exact free other

theorem call_keeps (kind : Kind) (call : ConsumerCall) (pc : DrainPc Word) : Keeps session (session.call kind call pc) :=
  ⟨rfl, rfl, rfl, rfl, rfl, rfl, rfl, rfl, fun _ member => member, fun _ _ member => member⟩

theorem act_keeps (kind : Kind) (action : PortAction (layout.size kind) Word) (pc : DrainPc Word) :
    Keeps session { session.act kind action with worker := pc } :=
  ⟨rfl, rfl, rfl, rfl, rfl, rfl, rfl, rfl, fun _ member => member, fun _ _ member => member⟩

theorem worker_keeps (pc : DrainPc Word) : Keeps session { session with worker := pc } :=
  ⟨rfl, rfl, rfl, rfl, rfl, rfl, rfl, rfl, fun _ member => member, fun _ _ member => member⟩

theorem keeps_trans (first middle last : Session layout) (before : Keeps first middle) (after : Keeps middle last) : Keeps first last :=
  ⟨after.error.trans before.error, after.failed.trans before.failed, after.closed.trans before.closed,
    after.requested.trans before.requested, after.closing.trans before.closing, after.begun.trans before.begun,
    after.closers.trans before.closers, after.failuresBefore.trans before.failuresBefore,
    fun text member => after.failures text (before.failures text member),
    fun kind row member => after.taken kind row (before.taken kind row member)⟩

theorem after_pop_busy (kind : Kind) (call : ConsumerCall)
    (busy : (session.ports kind).consumer.call = some call) : session.afterPop kind = session := by
  simp only [afterPop, busy]

theorem after_pop_popped (kind : Kind) (sequence : Nat) (words : List Word)
    (idle : (session.ports kind).consumer = .idle) (last : (session.ports kind).returned.getLast? = some (.popped sequence words)) :
    session.afterPop kind = { session with worker := .writing kind sequence words } := by
  simp only [afterPop, idle, ConsumerPc.call, last]

theorem after_pop_nothing (kind : Kind) (idle : (session.ports kind).consumer = .idle)
    (last : (session.ports kind).returned.getLast? = some .nothing) : session.afterPop kind = session.popNext kind := by
  simp only [afterPop, idle, ConsumerPc.call, last]

theorem after_empty_busy (kind : Kind) (call : ConsumerCall)
    (busy : (session.ports kind).consumer.call = some call) : session.afterEmpty kind = session := by
  simp only [afterEmpty, busy]

theorem after_empty_true (kind : Kind) (idle : (session.ports kind).consumer = .idle)
    (last : (session.ports kind).returned.getLast? = some (.isEmpty true)) : session.afterEmpty kind = session.askNext kind := by
  simp only [afterEmpty, idle, ConsumerPc.call, last]

theorem after_empty_false (kind : Kind) (idle : (session.ports kind).consumer = .idle)
    (last : (session.ports kind).returned.getLast? = some (.isEmpty false)) :
    session.afterEmpty kind = { session with worker := .idle } := by
  simp only [afterEmpty, idle, ConsumerPc.call, last]

theorem consumer_tracks (kind : Kind) (call : ConsumerCall) (reads : call ≠ .clear)
    (tracks : ∀ other, Tracks layout other (session.ports other) (session.writers other) session.failures
      (if other = kind then some call else none) []) :
    let next := session.act kind .consumer
    ((next.ports kind).consumer.call = some call ∧
      ∀ other, Tracks layout other (next.ports other) (session.writers other) session.failures
        (if other = kind then some call else none) []) ∨
      ∃ last, call.Ends last ∧ (next.ports kind).consumer = .idle ∧ (next.ports kind).returned.getLast? = some last ∧
        consumerStep (capacity kind) (session.ports kind) = some (next.ports kind) ∧
        ∀ other, Tracks layout other (next.ports other) (session.writers other) session.failures none
          (if other = kind then (entry layout kind last).toList else []) := by
  have here := tracks kind
  rw [if_pos rfl] at here
  have elsewhere (other : Kind) (different : other ≠ kind) :
      Tracks layout other ((session.act kind .consumer).ports other) (session.writers other) session.failures none [] := by
    have free := tracks other
    rw [if_neg different] at free
    rw [act_other session kind other _ different]
    exact free
  have port := act_port session kind .consumer
  rcases tracks_consumer call reads here with goes | ⟨last, ends, idle, latest, taken, ended⟩
  · rw [← port] at goes
    refine .inl ⟨goes.calls, ?_⟩
    intro other
    by_cases same : other = kind
    · subst same
      rw [if_pos rfl]
      exact goes
    · rw [if_neg same]
      exact elsewhere other same
  · rw [← port] at idle latest taken ended
    refine .inr ⟨last, ends, idle, latest, taken, ?_⟩
    intro other
    by_cases same : other = kind
    · subst same
      rw [if_pos rfl]
      exact ended
    · rw [if_neg same]
      exact elsewhere other same

section Sections

variable {session : Session layout} {answer : Answer}

theorem pop_inv (kind : Kind) (inv : SessionInv session) (here : session.worker = .popping kind)
    (later : Later session (work session answer)) : SessionInv (work session answer) := by
  have same : work session answer = (session.act kind .consumer).afterPop kind := by simp only [work, here]
  have stage := inv.stage
  have tracks := inv.tracks
  rw [here] at stage tracks
  rw [same] at later ⊢
  rcases consumer_tracks session kind .pop (fun other => by cases other) tracks with ⟨busy, goes⟩ | ⟨last, ends, idle, latest, _, ended⟩
  · rw [after_pop_busy _ kind .pop busy] at later ⊢
    have still : (session.act kind .consumer).worker = .popping kind := here
    refine keeps_inv session _ inv later (act_keeps session kind .consumer session.worker) ?_ ?_
    · rw [still]
      exact goes
    · rw [still]
      exact stage
  · cases last with
    | popped sequence words =>
      rw [after_pop_popped _ kind sequence words idle latest] at later ⊢
      exact keeps_inv session _ inv later (act_keeps session kind .consumer _) ended stage
    | nothing =>
      have free : ∀ other, Tracks layout other ((session.act kind .consumer).ports other) (session.writers other) session.failures
          none [] := by
        intro other
        have quiet := ended other
        rwa [show (entry layout kind (.nothing : Returned Word)).toList = [] from rfl, ite_self] at quiet
      rw [after_pop_nothing _ kind idle latest] at later ⊢
      cases kind with
      | command =>
        refine keeps_inv session _ inv later
          (keeps_trans _ _ _ (act_keeps session .command .consumer session.worker) (call_keeps _ .status .pop _)) ?_ stage
        exact call_tracks _ .status .pop (.popping .status) free (fun _ => rfl) (fun _ => rfl)
      | status =>
        exact keeps_inv session _ inv later (act_keeps session .status .consumer _) free (fun some => absurd stage some)
    | _ => cases ends

theorem append_keeps (session : Session layout) (kind : Kind) (sequence : Nat) (words : List Word)
    (bound : (session.writers kind).flushed ≤ (session.writers kind).rows.length) :
    Keeps session (session.append kind sequence words) := by
  refine ⟨rfl, rfl, rfl, rfl, rfl, rfl, rfl, rfl, fun _ member => member, ?_⟩
  intro other row member
  by_cases same : other = kind
  · subst same
    simp only [Session.taken, append, setWriter, Function.update_self]
    rw [List.take_append_of_le_length bound]
    exact member
  · simp only [Session.taken, append, setWriter, Function.update_of_ne same]
    exact member

theorem fail_keeps (session : Session layout) (text : String) (pc : DrainPc Word) : Keeps session (session.fail text pc) :=
  ⟨rfl, rfl, rfl, rfl, rfl, rfl, rfl, rfl, fun _ member => List.mem_append_left _ member, fun _ _ member => member⟩

theorem append_tracks (session : Session layout) (kind : Kind) (sequence : Nat) (words : List Word) (sound : session.failures = [])
    (tracks : ∀ other, Tracks layout other (session.ports other) (session.writers other) session.failures none
      (if other = kind then [(sequence, layout.row kind words)] else [])) (other : Kind) :
    Tracks layout other (session.ports other) ((session.append kind sequence words).writers other) session.failures none [] := by
  have before := tracks other
  rw [sound] at before ⊢
  by_cases same : other = kind
  · subst same
    rw [if_pos rfl] at before
    have written := tracks_append sequence words before
    simpa only [append, setWriter, Function.update_self] using written
  · rw [if_neg same] at before
    simpa only [append, setWriter, Function.update_of_ne same] using before

theorem write_inv (kind : Kind) (sequence : Nat) (words : List Word) (inv : SessionInv session)
    (here : session.worker = .writing kind sequence words)
    (later : Later session (work session answer)) : SessionInv (work session answer) := by
  have stage := inv.stage
  have tracks := inv.tracks
  rw [here] at stage tracks
  have kept := append_keeps session kind sequence words (inv.tracks kind).flushed
  have written := append_tracks session kind sequence words stage tracks
  cases answer with
  | returns =>
    have same : work session .returns = (session.append kind sequence words).call kind .pop (.popping kind) := by
      simp only [work, here]
    rw [same] at later ⊢
    exact keeps_inv session _ inv later (keeps_trans _ _ _ kept (call_keeps _ kind .pop _))
      (call_tracks _ kind .pop (.popping kind) written (fun _ => rfl) (fun _ => rfl)) stage
  | throws text taken =>
    have latest : text ∈ session.failures ++ [text] := List.mem_append_right _ (List.mem_singleton_self text)
    cases taken with
    | true =>
      have same : work session (.throws text true) = (session.append kind sequence words).fail text (.storingWrite text) := by
        simp only [work, here, ↓reduceIte]
      rw [same] at later ⊢
      exact keeps_inv session _ inv later (keeps_trans _ _ _ kept (fail_keeps _ text _))
        (fun other => tracks_fail text _ (written other)) latest
    | false =>
      have same : work session (.throws text false) = session.fail text (.storingWrite text) := by
        simp only [work, here, Bool.false_eq_true, ↓reduceIte]
      rw [same] at later ⊢
      exact keeps_inv session _ inv later (fail_keeps session text _) (fun other => tracks_fail text _ (tracks other)) latest

theorem unfailed (flags : Flags session) (sound : session.failures = []) : session.failed = false := by
  rw [← flags.error]
  cases stored : session.error with
  | none => rfl
  | some text =>
    have member := flags.cause text stored
    rw [sound] at member
    cases member

theorem call_reads (session : Session layout) (kind : Kind) (call : ConsumerCall) (pc : DrainPc Word)
    (announced : session.begun kind ≤ (session.ports kind).producerSequence) (idle : (session.ports kind).consumer.call = none) :
    Reads (session.begun kind) ((session.call kind call pc).ports kind) := by
  have taken : portStep (capacity kind) (session.ports kind) (.call call) =
      some { session.ports kind with consumer := .loadHeadActive call } := by
    simp only [portStep, call_none_idle _ idle]
  have port : (session.call kind call pc).ports kind = { session.ports kind with consumer := .loadHeadActive call } := by
    refine (act_port session kind (.call call)).trans ?_
    rw [taken]
    rfl
  rw [port]
  exact reads_call (capacity kind) _ _ _ call announced taken

theorem check_inv (inv : SessionInv session) (here : session.worker = .checking)
    (later : Later session (work session answer)) : SessionInv (work session answer) := by
  have stage := inv.stage
  have tracks := inv.tracks
  rw [here] at stage tracks
  by_cases failed : session.failed = true
  · have same : work session answer = { session with worker := .finalizing } := by simp only [work, here, failed, ↓reduceIte]
    rw [same] at later ⊢
    exact keeps_inv session _ inv later (worker_keeps session _) tracks stage
  · have same : work session answer = session.call .command .pop (.popping .command) := by
      simp only [work, here, failed, Bool.false_eq_true, ↓reduceIte]
    rw [same] at later ⊢
    refine keeps_inv session _ inv later (call_keeps session .command .pop _)
      (call_tracks session .command .pop (.popping .command) tracks (fun _ => rfl) (fun _ => rfl)) ?_
    by_contra some
    exact failed (stage some)

theorem finalize_inv (inv : SessionInv session) (here : session.worker = .finalizing)
    (later : Later session (work session answer)) : SessionInv (work session answer) := by
  have stage := inv.stage
  have tracks := inv.tracks
  have flags := inv.flags
  rw [here] at stage tracks
  by_cases early : (!session.closeRequested || session.closed) = true
  · have same : work session answer = { session with worker := .idle } := by simp only [work, here, early, ↓reduceIte]
    rw [same] at later ⊢
    exact keeps_inv session _ inv later (worker_keeps session _) tracks stage
  · have still : Finalising session := by
      simp only [Bool.or_eq_true, Bool.not_eq_eq_eq_not, Bool.not_true, not_or, Bool.not_eq_false, Bool.not_eq_true] at early
      exact ⟨early.1, early.2⟩
    by_cases failed : session.failed = true
    · have same : work session answer = { session with worker := .flushing .command } := by
        simp only [work, here, early, failed, Bool.false_eq_true, ↓reduceIte]
      rw [same] at later ⊢
      refine keeps_inv session _ inv later (worker_keeps session _) tracks ⟨stage, ⟨still.requested, still.unclosed⟩, ?_⟩
      intro sound
      rw [unfailed flags sound] at failed
      cases failed
    · have same : work session answer = session.call .command .empty (.asking .command) := by
        simp only [work, here, early, failed, Bool.false_eq_true, ↓reduceIte]
      rw [same] at later ⊢
      refine keeps_inv session _ inv later (call_keeps session .command .empty _)
        (call_tracks session .command .empty (.asking .command) tracks (fun _ => rfl) (fun _ => rfl)) ?_
      have announced := flags.begun (flags.closing still.requested) .command
      refine ⟨?_, ⟨still.requested, still.unclosed⟩,
        call_reads session .command .empty (.asking .command) announced (tracks .command).calls, fun second => by cases second⟩
      by_contra some
      exact failed (stage some)

theorem past_later (session next : Session layout) (kind : Kind) (begun : next.begun = session.begun)
    (later : PortLater (session.ports kind) (next.ports kind)) (past : Past session kind) : Past next kind := by
  rw [Past, begun]
  exact Nat.lt_of_lt_of_le past later.consumerSequence

theorem ask_inv (kind : Kind) (sound : Sound session) (inv : SessionInv session) (here : session.worker = .asking kind)
    (later : Later session (work session answer)) : SessionInv (work session answer) := by
  have same : work session answer = (session.act kind .consumer).afterEmpty kind := by simp only [work, here]
  have stage := inv.stage
  have tracks := inv.tracks
  have flags := inv.flags
  rw [here] at stage tracks
  rw [same] at later ⊢
  obtain ⟨unbroken, still, reads, command⟩ := stage
  rcases consumer_tracks session kind .empty (fun other => by cases other) tracks with ⟨busy, goes⟩ | ⟨last, ends, idle, latest, taken, ended⟩
  · rw [after_empty_busy _ kind .empty busy] at later ⊢
    have worker : (session.act kind .consumer).worker = .asking kind := here
    refine keeps_inv session _ inv later (act_keeps session kind .consumer session.worker) ?_ ?_
    · rw [worker]
      exact goes
    · rw [worker]
      refine ⟨unbroken, ⟨still.requested, still.unclosed⟩, ?_,
        fun second => past_later session _ .command rfl (later .command) (command second)⟩
      rw [act_port]
      cases stepped : portStep (capacity kind) (session.ports kind) .consumer with
      | none => exact reads
      | some next => exact reads_consumer (capacity kind) _ _ next (sound.order kind) reads stepped
  · cases last with
    | isEmpty empty =>
      have free : ∀ other, Tracks layout other ((session.act kind .consumer).ports other) (session.writers other) session.failures
          none [] := by
        intro other
        have quiet := ended other
        rwa [show (entry layout kind (.isEmpty empty : Returned Word)).toList = [] from rfl, ite_self] at quiet
      cases empty with
      | false =>
        rw [after_empty_false _ kind idle latest] at later ⊢
        exact keeps_inv session _ inv later (act_keeps session kind .consumer _) free (fun some => absurd unbroken some)
      | true =>
        have called : (session.ports kind).consumer.call = some .empty := (tracks kind).calls.trans (if_pos rfl)
        have past := empty_past (capacity kind) _ _ _ reads taken called idle latest
        rw [after_empty_true _ kind idle latest] at later ⊢
        cases kind with
        | command =>
          refine keeps_inv session _ inv later
            (keeps_trans _ _ _ (act_keeps session .command .consumer session.worker) (call_keeps _ .status .empty _))
            (call_tracks _ .status .empty (.asking .status) free (fun _ => rfl) (fun _ => rfl)) ?_
          have elsewhere := act_other session .command .status .consumer (fun same => by cases same)
          refine ⟨unbroken, ⟨still.requested, still.unclosed⟩, ?_, fun _ => past⟩
          refine call_reads _ .status .empty (.asking .status) ?_ (free .status).calls
          rw [elsewhere]
          exact flags.begun (flags.closing still.requested) .status
        | status =>
          refine keeps_inv session _ inv later (act_keeps session .status .consumer _) free
            ⟨fun some => absurd unbroken some, ⟨still.requested, still.unclosed⟩, fun _ => ⟨?_, fun second => by cases second⟩⟩
          intro other
          cases other with
          | command => exact past_later session _ .command rfl (later .command) (command rfl)
          | status => exact past
    | _ => cases ends

theorem flush_keeps (session : Session layout) (kind : Kind) : Keeps session (session.flush kind) := by
  refine ⟨rfl, rfl, rfl, rfl, rfl, rfl, rfl, rfl, fun _ member => member, ?_⟩
  intro other row member
  by_cases same : other = kind
  · subst same
    simp only [Session.taken, flush, setWriter, Function.update_self, List.take_length]
    exact List.mem_of_mem_take member
  · simp only [Session.taken, flush, setWriter, Function.update_of_ne same]
    exact member

theorem flush_tracks (session : Session layout) (kind : Kind) (called : Kind → Option ConsumerCall)
    (pending : Kind → List (Nat × List (Field Number)))
    (tracks : ∀ other, Tracks layout other (session.ports other) (session.writers other) session.failures (called other) (pending other))
    (other : Kind) :
    Tracks layout other (session.ports other) ((session.flush kind).writers other) session.failures (called other) (pending other) := by
  by_cases same : other = kind
  · subst same
    simpa only [flush, setWriter, Function.update_self] using tracks_flush (tracks other)
  · simpa only [flush, setWriter, Function.update_of_ne same] using tracks other

theorem flush_inv (kind : Kind) (inv : SessionInv session) (here : session.worker = .flushing kind)
    (later : Later session (work session answer)) : SessionInv (work session answer) := by
  have stage := inv.stage
  have tracks := inv.tracks
  rw [here] at stage tracks
  obtain ⟨settled, still, done⟩ := stage
  cases answer with
  | throws text kept =>
    have same : work session (.throws text kept) = session.fail text (.storingFlush text) := by simp only [work, here]
    rw [same] at later ⊢
    exact keeps_inv session _ inv later (fail_keeps session text _) (fun other => tracks_fail text _ (tracks other))
      ⟨List.mem_append_right _ (List.mem_singleton_self text), still.requested, still.unclosed⟩
  | returns =>
    have same : work session .returns = (session.flush kind).flushNext kind := by simp only [work, here]
    have flushed := flush_tracks session kind _ _ tracks
    rw [same] at later ⊢
    cases kind with
    | command =>
      refine keeps_inv session _ inv later (keeps_trans _ _ _ (flush_keeps session .command) (worker_keeps _ _)) flushed
        ⟨settled, ⟨still.requested, still.unclosed⟩, fun sound => ⟨(done sound).1, fun _ => ?_⟩⟩
      simp [Flushed, flushNext, flush, setWriter]
    | status =>
      refine keeps_inv session _ inv later (keeps_trans _ _ _ (flush_keeps session .status) (worker_keeps _ _)) flushed
        ⟨settled, ⟨still.requested, still.unclosed⟩, fun sound other => ⟨(done sound).1 other, ?_⟩⟩
      cases other with
      | command => exact (done sound).2 rfl
      | status => simp [Flushed, flushNext, flush, setWriter]

theorem store_inv (text : String) (pc : DrainPc Word) (inv : SessionInv session) (known : text ∈ session.failures)
    (storing : ∀ other, session.worker.callOn other = none ∧ session.worker.pending layout other = [])
    (idle : ∀ other, pc.callOn other = none ∧ pc.pending layout other = [])
    (stage : ∀ next : Session layout, next.failures = session.failures → next.closeRequested = session.closeRequested →
      next.closed = session.closed → next.failed = true → Stage next pc) :
    SessionInv { session.storeError text with worker := pc } := by
  have flags := inv.flags
  have tracks : ∀ other, Tracks layout other (session.ports other) (session.writers other) session.failures (pc.callOn other)
      (pc.pending layout other) := by
    intro other
    have before := inv.tracks other
    rw [(storing other).1, (storing other).2] at before
    rw [(idle other).1, (idle other).2]
    exact before
  cases stored : session.error with
  | some first =>
    have same : session.storeError text = session := by simp only [storeError, stored]
    have failed : session.failed = true := by
      rw [← flags.error, stored]
      rfl
    rw [same]
    exact keeps_inv session _ inv (fun _ => ⟨Nat.le_refl _, Nat.le_refl _, Nat.le_refl _, Nat.le_refl _⟩) (worker_keeps session pc)
      tracks (stage _ rfl rfl rfl failed)
  | none =>
    have same : session.storeError text = { session with error := some text, failed := true } := by simp only [storeError, stored]
    rw [same]
    refine ⟨tracks, stage _ rfl rfl rfl rfl, ⟨rfl, ?_, flags.requested, flags.closing, flags.begun, fun _ _ => rfl, flags.delivered⟩,
      inv.closers⟩
    intro other first
    cases first
    exact known

theorem passed_record (sound : Sound session) (inv : SessionInv session) (kind : Kind) (sequence : Nat) (started : 1 ≤ sequence)
    (passed : sequence < (session.ports kind).consumerSequence) (unbroken : session.failures = []) :
    (∃ row, (sequence, row) ∈ (session.writers kind).rows ++ session.worker.pending layout kind) ∨
      sequence + capacity kind ≤ publishedCount (session.ports kind) := by
  have fits := capacity_fits kind
  obtain ⟨rest, history, none⟩ := (inv.tracks kind).rows
  rcases reachable_accounted (capacity kind) (Nat.lt_of_succ_lt fits.1) fits.2 _ (sound.reached kind) (sound.few kind) sequence started
    passed with popped | overwritten | ⟨earlier, head, later, cleared, _⟩
  · obtain ⟨value, member, number⟩ := List.mem_filterMap.mp popped
    cases value with
    | popped other words =>
      cases number
      refine .inl ⟨layout.row kind words, ?_⟩
      rw [← none unbroken, ← history]
      exact List.mem_filterMap.mpr ⟨_, member, rfl⟩
    | _ => cases number
  · exact .inr overwritten.lapped
  · refine absurd rfl ((inv.tracks kind).uncleared .cleared ?_)
    rw [cleared]
    simp

theorem mark_inv (sound : Sound session) (inv : SessionInv session) (here : session.worker = .marking) :
    SessionInv (work session answer) := by
  have same : work session answer =
      { session with closed := true, failuresBefore := session.failures, worker := .idle } := by simp only [work, here]
  have stage := inv.stage
  have tracks := inv.tracks
  have flags := inv.flags
  rw [here] at stage tracks
  obtain ⟨settled, still, done⟩ := stage
  rw [same]
  refine ⟨tracks, settled, ⟨flags.error, flags.cause, fun _ => still.requested, flags.closing, flags.begun, fun _ => settled, ?_⟩, ?_⟩
  · intro _ unbroken kind sequence started below
    obtain ⟨past, flushed⟩ := done unbroken kind
    rcases passed_record sound inv kind sequence started (Nat.lt_of_le_of_lt below past) unbroken with ⟨row, written⟩ | lapped
    · rw [here] at written
      have member : (sequence, row) ∈ (session.writers kind).rows := by
        rwa [show (DrainPc.marking : DrainPc Word).pending layout kind = [] from rfl, List.append_nil] at written
      refine .inl ⟨row, ?_⟩
      rw [Session.taken, show (session.writers kind).flushed = (session.writers kind).rows.length from flushed, List.take_length]
      exact member
    · exact .inr lapped
  · intro id
    refine closer_kept session _ _ (fun set => set) (fun set => set) (fun _ => rfl) ?_ (fun _ member => member) (inv.closers id)
    intro closed
    rw [still.unclosed] at closed
    cases closed

theorem work_inv (session : Session layout) (answer : Answer) (sound : Sound session) (inv : SessionInv session)
    (later : Later session (work session answer)) : SessionInv (work session answer) := by
  have stage := inv.stage
  cases here : session.worker with
  | idle =>
    have same : work session answer = { session with worker := .checking } := by simp only [work, here]
    have tracks := inv.tracks
    rw [here] at stage tracks
    rw [same] at later ⊢
    exact keeps_inv session _ inv later (worker_keeps session _) tracks stage
  | checking => exact check_inv inv here later
  | popping kind => exact pop_inv kind inv here later
  | writing kind sequence words => exact write_inv kind sequence words inv here later
  | storingWrite text =>
    have same : work session answer = { session.storeError text with worker := .finalizing } := by simp only [work, here]
    rw [here] at stage
    rw [same]
    exact store_inv text .finalizing inv stage (fun _ => by rw [here]; exact ⟨rfl, rfl⟩) (fun _ => ⟨rfl, rfl⟩)
      (fun _ _ _ _ failed _ => failed)
  | finalizing => exact finalize_inv inv here later
  | asking kind => exact ask_inv kind sound inv here later
  | flushing kind => exact flush_inv kind inv here later
  | storingFlush text =>
    have same : work session answer = { session.storeError text with worker := .marking } := by simp only [work, here]
    rw [here] at stage
    rw [same]
    obtain ⟨known, still⟩ := stage
    refine store_inv text .marking inv known (fun _ => by rw [here]; exact ⟨rfl, rfl⟩) (fun _ => ⟨rfl, rfl⟩) ?_
    intro next failures requested closed failed
    refine ⟨fun _ => failed, ⟨requested.trans still.requested, closed.trans still.unclosed⟩, ?_⟩
    intro none
    rw [failures] at none
    rw [none] at known
    cases known
  | marking => exact mark_inv sound inv here

end Sections

end EncosDriver.Motor.LogTransport
