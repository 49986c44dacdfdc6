import EncosDriver.Motor.LogDraining

set_option autoImplicit false

namespace EncosDriver.Motor.LogTransport

open Lib Port Session

variable {Word Number : Type} {layout : Layout Word Number}

structure Blank {size : Nat} (port : PortState size Word) : Prop where
  consumer : port.consumer = .idle
  legible : port.head.Legible
  nothing : port.head.activeSequence < port.consumerSequence

structure BlankAnswer {size : Nat} (port final : PortState size Word) (answer : Returned Word) : Prop where
  blank : Blank final
  pushes : final.pushes = port.pushes
  last : final.returned.getLast? = some answer

theorem blank_reads (len size : Nat) (port : PortState size Word) (call : ConsumerCall) (blank : Blank port) :
    perform len 8 port (.consume call) = settle len .consumer 0
      (afterHead len (port.setHeadHazard kPortNoHazard) call port.head.activeSequence) := by
  have taken : portStep len port (.call call) = some { port with consumer := .loadHeadActive call } := by
    simp only [portStep, blank.consumer]
  simp only [perform, taken]
  exact (settle_read_head len 0 { port with consumer := .loadHeadActive call } call rfl blank.legible).trans
    (congrArg (settle len .consumer 0) (after_head_consumer len (port.setHeadHazard kPortNoHazard) _ call port.head.activeSequence))

theorem blank_pop (len size : Nat) (port : PortState size Word) (blank : Blank port) :
    BlankAnswer port (perform len 8 port (.consume .pop)) .nothing := by
  have after : afterHead len (port.setHeadHazard kPortNoHazard) .pop port.head.activeSequence =
      { ((port.setHeadHazard kPortNoHazard).answer (.head port.head.activeSequence)).answer .nothing with consumer := .idle } :=
    if_pos blank.nothing
  rw [blank_reads len size port .pop blank, after, settle]
  exact ⟨⟨rfl, blank.legible, blank.nothing⟩, rfl, List.getLast?_concat⟩

theorem blank_empty (len size : Nat) (port : PortState size Word) (blank : Blank port) :
    BlankAnswer port (perform len 8 port (.consume .empty)) (.isEmpty true) := by
  rw [blank_reads len size port .empty blank, settle]
  refine ⟨⟨rfl, blank.legible, blank.nothing⟩, rfl, ?_⟩
  have nothing : decide (port.head.activeSequence < port.consumerSequence) = true := decide_eq_true blank.nothing
  rw [← nothing]
  exact List.getLast?_concat

structure Blanks (session : Session layout) (ports : (kind : Kind) → PortState (layout.size kind) Word) : Prop where
  blank : ∀ kind, Blank (ports kind)
  pushes : ∀ kind, (ports kind).pushes = (session.ports kind).pushes

theorem blanks_update (session : Session layout) (ports : (kind : Kind) → PortState (layout.size kind) Word) (kind : Kind)
    (final : PortState (layout.size kind) Word) (answer : Returned Word) (blanks : Blanks session ports)
    (answered : BlankAnswer (ports kind) final answer) : Blanks session (Function.update ports kind final) := by
  refine ⟨?_, ?_⟩
  · intro other
    by_cases same : other = kind
    · subst same
      rw [Function.update_self]
      exact answered.blank
    · rw [Function.update_of_ne same]
      exact blanks.blank other
  · intro other
    by_cases same : other = kind
    · subst same
      rw [Function.update_self]
      exact answered.pushes.trans (blanks.pushes other)
    · rw [Function.update_of_ne same]
      exact blanks.pushes other

def Reaches (count : Nat) (first session : Session layout) (pc : DrainPc Word) : Prop :=
  Finishes work (fun session => session.worker ≠ .idle)
    (fun next => ∃ ports, Blanks first ports ∧ next = { first with ports := ports, worker := pc }) count session

theorem blank_asks (first : Session layout) (ports : (kind : Kind) → PortState (layout.size kind) Word) (blanks : Blanks first ports)
    (kind : Kind) (pc : DrainPc Word) (count : Nat)
    (onward : ∀ ports, Blanks first ports → Reaches count first ({ first with ports := ports }.askNext kind) pc) :
    Reaches (8 + count) first ({ first with ports := ports }.call kind .empty (.asking kind)) pc := by
  have answered := blank_empty (capacity kind) (layout.size kind) (ports kind) (blanks.blank kind)
  have leads := empty_leads kind { first with ports := ports } 8 (blanks.blank kind).consumer _ rfl answered.blank.consumer
  rw [after_empty_true _ kind (by rw [set_port_self]; exact answered.blank.consumer) (by rw [set_port_self]; exact answered.last)] at leads
  refine finishes_then _ 8 count _ leads ?_
  intro next same
  subst same
  have onward := onward _ (blanks_update first ports kind _ _ blanks answered)
  cases kind <;> exact onward

theorem blank_pops (first : Session layout) (ports : (kind : Kind) → PortState (layout.size kind) Word) (blanks : Blanks first ports)
    (kind : Kind) (pc : DrainPc Word) (count : Nat)
    (onward : ∀ ports, Blanks first ports → Reaches count first ({ first with ports := ports }.popNext kind) pc) :
    Reaches (8 + count) first ({ first with ports := ports }.call kind .pop (.popping kind)) pc := by
  have answered := blank_pop (capacity kind) (layout.size kind) (ports kind) (blanks.blank kind)
  have leads := pop_leads kind { first with ports := ports } 8 (blanks.blank kind).consumer _ rfl answered.blank.consumer
  rw [after_pop_nothing _ kind (by rw [set_port_self]; exact answered.blank.consumer) (by rw [set_port_self]; exact answered.last)] at leads
  refine finishes_then _ 8 count _ leads ?_
  intro next same
  subst same
  have onward := onward _ (blanks_update first ports kind _ _ blanks answered)
  cases kind <;> exact onward

theorem blank_pass (session : Session layout) (blanks : Blanks session session.ports) (here : session.worker = .checking)
    (sound : session.failed = false) (requested : session.closeRequested = true) (unclosed : session.closed = false) :
    ∃ count, Reaches count session session (.flushing .command) := by
  refine ⟨8 + (8 + (8 + (8 + 0) + 1)) + 1, .next _ session (fun idle => by cases here.symm.trans idle) fun answer => ?_⟩
  have checks : work session answer = session.call .command .pop (.popping .command) := by simp [work, here, sound]
  rw [checks]
  refine blank_pops session session.ports blanks .command _ _ fun ports blanks => ?_
  refine blank_pops session ports blanks .status _ _ fun ports blanks => ?_
  refine .next _ _ (fun idle => by cases idle) fun answer => ?_
  have finalizes : work ({ session with ports := ports, worker := .finalizing } : Session layout) answer =
      ({ session with ports := ports } : Session layout).call .command .empty (.asking .command) := by
    simp only [work, requested, unclosed, sound]
    rfl
  show Reaches _ session (work ({ session with ports := ports, worker := .finalizing } : Session layout) answer) _
  rw [finalizes]
  refine blank_asks session ports blanks .command _ _ fun ports blanks => ?_
  refine blank_asks session ports blanks .status _ 0 fun ports blanks => ?_
  exact .already 0 _ ⟨ports, blanks, rfl⟩

abbrev SessionRun (first last : Session layout) : Prop := RunsWhile (system layout) (fun _ => True) first last

theorem runs_step (first session next : Session layout) (action : Action layout) (ran : SessionRun first session)
    (taken : step session action = some next) : SessionRun first next := .next session next action ran trivial taken

theorem produces_run (first : Session layout) (kind : Kind) (fuel : Nat) (session : Session layout) (ran : SessionRun first session)
    (free : session.publishing kind = none) :
    SessionRun first (session.setPort kind (settle (capacity kind) .producer fuel (session.ports kind))) := by
  induction fuel generalizing session with
  | zero =>
    rw [settle, setPort, Function.update_eq_self]
    exact ran
  | succ fuel ih =>
    cases taken : portStep (capacity kind) (session.ports kind) .producer with
    | none =>
      rw [settle_done _ _ _ .producer taken, setPort, Function.update_eq_self]
      exact ran
    | some next =>
      have produced : step session (.produce kind) = some (session.setPort kind next) := by
        simp only [step, produce, free, taken, Option.map_some]
      have later := ih (session.setPort kind next) (runs_step _ _ _ (.produce kind) ran produced) free
      rw [settle_next _ fuel _ next .producer taken]
      rw [set_port_self] at later
      simpa only [setPort, Function.update_idem] using later

theorem works_run (first session : Session layout) (answers : List Answer) (ran : SessionRun first session) :
    SessionRun first (answers.foldl work session) := by
  induction answers generalizing session with
  | nil => exact ran
  | cons answer rest ih => exact ih (work session answer) (runs_step _ _ _ (.work answer) ran rfl)

theorem publish_run (session : Session layout) (kind : Kind) (message : Message (layout.size kind) Word) (fuel : Nat)
    (open_ : session.closing = false) (free : session.publishing kind = none) (idle : (session.ports kind).producer = .idle) :
    SessionRun session (session.setPort kind (perform (capacity kind) fuel (session.ports kind) (.push message))) := by
  have pushed : portStep (capacity kind) (session.ports kind) (.push message) =
      some { session.ports kind with producer := .loadHazard message, pushes := (session.ports kind).pushes ++ [message] } := by
    simp only [portStep, idle]
  obtain ⟨port, same⟩ : ∃ port : PortState (layout.size kind) Word,
    { session.ports kind with producer := .loadHazard message, pushes := (session.ports kind).pushes ++ [message] } = port := ⟨_, rfl⟩
  rw [same] at pushed
  obtain ⟨checked, checks⟩ : ∃ checked : Session layout,
    { session with publishing := Function.update session.publishing kind (some message) } = checked := ⟨_, rfl⟩
  have published : step session (.publish kind message) = some checked := by
    simp only [step, publish, free, idle]
    rw [if_neg (by rw [open_]; exact Bool.false_ne_true), checks]
  have restored : Function.update (Function.update session.publishing kind (some message)) kind none = session.publishing := by
    rw [Function.update_idem, ← free, Function.update_eq_self]
  have produced : step checked (.produce kind) = some (session.setPort kind port) := by
    subst checks
    simp only [step, produce, Function.update_self, pushed, Option.map_some, restored, setPort]
  have ran : SessionRun session (session.setPort kind port) :=
    runs_step _ _ _ (.produce kind) (runs_step _ _ _ (.publish kind message) .here published) produced
  have settled := produces_run session kind fuel (session.setPort kind port) ran free
  rw [set_port_self] at settled
  simpa only [setPort, Function.update_idem, perform, pushed] using settled

structure Filled (messages : (kind : Kind) → Message (layout.size kind) Word) (count : Nat) (session : Session layout) : Prop where
  reached : Reachable (system layout) session
  fresh : session = { ports := session.ports }
  quiet : Quiet (capacity .command) (session.ports .command)
  pushes : (session.ports .command).pushes.length = count
  consumerSequence : (session.ports .command).consumerSequence = 1
  status : session.ports .status = emptyPort (messages .status)

theorem filled (messages : (kind : Kind) → Message (layout.size kind) Word) (count : Nat) :
    ∃ session : Session layout, Filled messages count session := by
  have fits := capacity_fits .command
  induction count with
  | zero =>
    refine ⟨{ ports := fun kind => emptyPort (messages kind) }, .start _ ⟨fun kind => empty_port_initial _, rfl⟩, rfl,
      empty_port_quiet _ _, rfl, rfl, rfl⟩
  | succ count ih =>
    obtain ⟨session, filled⟩ := ih
    have fresh := filled.fresh
    obtain ⟨quiet, pushes, position, _⟩ := perform_push (capacity .command) (layout.size .command + 15)
      (Nat.zero_lt_of_lt fits.1) fits.2 (session.ports .command) (messages .command) filled.quiet (Nat.le_refl _)
    have ran := publish_run session .command (messages .command) (layout.size .command + 15) (by rw [fresh]) (by rw [fresh])
      filled.quiet.producer
    obtain ⟨port, same⟩ : ∃ port, perform (capacity .command) (layout.size .command + 15) (session.ports .command)
      (.push (messages .command)) = port := ⟨_, rfl⟩
    rw [same] at quiet pushes position ran
    refine ⟨session.setPort .command port, runs_while_reachable _ _ _ _ filled.reached ran, ?_, ?_, ?_, ?_, ?_⟩
    · rw [fresh]
      rfl
    · rw [set_port_self]
      exact quiet
    · rw [set_port_self, pushes, List.length_append, filled.pushes]
      rfl
    · rw [set_port_self]
      exact position.trans filled.consumerSequence
    · rw [set_port_other _ _ _ _ (fun same => by cases same)]
      exact filled.status

theorem wrapped_blank (messages : (kind : Kind) → Message (layout.size kind) Word) (session : Session layout)
    (filled : Filled messages word64 session) : Blanks session session.ports := by
  have fits := capacity_fits .command
  have positive := Nat.zero_lt_of_lt fits.1
  refine ⟨?_, fun _ => rfl⟩
  intro kind
  cases kind with
  | command =>
    have reached := filled.quiet.reached
    refine ⟨filled.quiet.consumer, (reachable_legible_inv _ positive fits.2 _ reached).head, ?_⟩
    have staged := (reachable_port_inv _ positive fits.2 _ reached).content.staged
    simp only [Staged, filled.quiet.producer, filled.pushes, Nat.mod_self] at staged
    rw [reachable_announced _ positive fits.2 _ reached, staged, filled.consumerSequence]
    decide
  | status =>
    rw [filled.status]
    refine ⟨rfl, ?_, ?_⟩
    · exact (reachable_legible_inv (capacity .status) positive fits.2 _ (empty_port_quiet (messages .status) _).reached).head
    · rw [reachable_announced (capacity .status) positive fits.2 _ (empty_port_quiet (messages .status) _).reached]
      exact Nat.zero_lt_one

def askedSession (ports : (kind : Kind) → PortState (layout.size kind) Word) : Session layout where
  ports := ports
  closing := true
  closeRequested := true
  begun := fun kind => (ports kind).producerSequence
  closers := Function.update (Function.update (fun _ => .entering) 0 .requesting) 0 .waiting
  worker := .checking

theorem asked_run (ports : (kind : Kind) → PortState (layout.size kind) Word) :
    SessionRun ({ ports := ports } : Session layout) (askedSession ports) := by
  have begins := runs_step ({ ports := ports } : Session layout) _ _ (.close 0) .here rfl
  have asks := runs_step _ _ _ (.close 0) begins rfl
  exact runs_step _ _ (askedSession ports) (.work .returns) asks rfl

theorem blank_closes (session : Session layout) (fresh : session = { ports := session.ports })
    (blanks : Blanks session session.ports) :
    ∃ final : Session layout, SessionRun session final ∧ (∀ kind, (final.ports kind).pushes = (session.ports kind).pushes) ∧
      final.closers 0 = .returned ∧ final.failures = [] ∧ ∀ kind, (final.writers kind).rows = [] := by
  have asked := asked_run session.ports
  rw [← fresh] at asked
  obtain ⟨count, reaches⟩ := blank_pass (askedSession session.ports) ⟨blanks.blank, fun _ => rfl⟩ rfl rfl rfl rfl
  obtain ⟨answers, ports, after, flushing⟩ := finishes_answers .returns count _ reaches
  have ran := works_run session _ [.returns, .returns, .returns] (works_run session _ answers asked)
  rw [flushing] at ran
  refine ⟨_, runs_step _ _ _ (.close 0) ran rfl, after.pushes, rfl, rfl, ?_⟩
  intro kind
  cases kind <;> rfl

end EncosDriver.Motor.LogTransport
