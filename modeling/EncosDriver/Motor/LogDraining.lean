import EncosDriver.Motor.LogDelivery

set_option autoImplicit false

namespace EncosDriver.Motor.LogTransport

open Lib Port Session

variable {Word Number : Type} {layout : Layout Word Number}

theorem publish_ports (session next : Session layout) (kind : Kind) (message : Message (layout.size kind) Word)
    (taken : publish session kind message = some next) : next.ports = session.ports := by
  unfold publish at taken
  split at taken
  · split at taken <;> cases taken <;> rfl
  · cases taken

theorem close_ports (session next : Session layout) (id : Nat) (taken : close session id = some next) :
    next.ports = session.ports := by
  unfold close at taken
  split at taken
  · cases taken
    rfl
  · split at taken <;> cases taken
    rfl
  · split at taken
    · cases taken
    · split at taken <;> cases taken <;> rfl
  · cases taken

theorem step_runs (session next : Session layout) (action : Action layout) (taken : step session action = some next) :
    Runs session next := by
  have here := runs_here session
  cases action with
  | publish kind message =>
    intro other
    rw [publish_ports session next kind message taken]
    exact .here
  | produce kind =>
    simp only [step, produce] at taken
    split at taken
    · obtain ⟨port, pushed, rfl⟩ := Option.map_eq_some_iff.mp taken
      exact runs_port session session here kind port _ pushed
    · obtain ⟨port, stepped, rfl⟩ := Option.map_eq_some_iff.mp taken
      exact runs_port session session here kind port .producer stepped
  | work answer => exact Option.some.inj taken ▸ work_runs session answer
  | close id =>
    intro other
    rw [close_ports session next id taken]
    exact .here

theorem ports_reached (session : Session layout) (reached : Reachable (system layout) session) (kind : Kind) :
    Reachable (port (capacity kind) (layout.size kind) Word) (session.ports kind) := by
  refine reachable_invariant (system layout) Always
    (fun session => ∀ kind, Reachable (port (capacity kind) (layout.size kind) Word) (session.ports kind)) ?_ ?_ session reached kind
  · intro state initial kind
    exact .start _ (initial.ports kind)
  · intro state action next known _ taken kind
    exact runs_while_reachable _ _ _ _ (known kind) (step_runs state next action taken kind)

def Few (session : Session layout) : Prop := ∀ kind, (session.ports kind).pushes.length < word64 - 1

theorem step_later (session next : Session layout) (action : Action layout)
    (known : ∀ kind, Reachable (port (capacity kind) (layout.size kind) Word) (session.ports kind))
    (taken : step session action = some next) (few : Few next) (kind : Kind) :
    PortLater (session.ports kind) (next.ports kind) := by
  have fits := capacity_fits kind
  exact port_run_later (capacity kind) _ (Nat.lt_of_succ_lt fits.1) fits.2 _ _ (known kind) (step_runs session next action taken kind)
    (few kind)

theorem step_inv (session next : Session layout) (action : Action layout) (sound : Sound session) (inv : SessionInv session)
    (taken : step session action = some next) (later : Later session next) : SessionInv next := by
  cases action with
  | publish kind message => exact publish_inv session next kind message inv taken
  | produce kind => exact produce_inv session next kind sound inv taken
  | work answer =>
    cases taken
    exact work_inv session answer sound inv later
  | close id => exact close_inv session next id inv taken

theorem session_inv (session : Session layout) (reached : Reachable (system layout) session) (few : Few session) :
    SessionInv session := by
  refine reachable_invariant_under (system layout) Always
    (fun session => ∀ kind, Reachable (port (capacity kind) (layout.size kind) Word) (session.ports kind))
    (fun session => Few session → SessionInv session) (fun session reached => ports_reached session reached) ?_ ?_ session reached few
  · intro state initial _
    exact initial_inv state initial
  · intro state action next known _ inv _ taken few
    have later := step_later state next action known taken few
    have before : Few state := fun kind => Nat.lt_of_le_of_lt (later kind).pushes (few kind)
    exact step_inv state next action ⟨known, before⟩ (inv before) taken later

abbrev Closes : Nat → Session layout → Prop :=
  Finishes work (fun session => session.worker ≠ .idle) (fun session => session.closed = true)

abbrev Leads (count : Nat) (session target : Session layout) : Prop :=
  Finishes work (fun session => session.worker ≠ .idle) (fun next => next = target) count session

section Passes

variable {session : Session layout}

theorem marking_closes (here : session.worker = .marking) : Closes 1 session := by
  refine .next 0 session (fun idle => by cases here.symm.trans idle) fun answer => .already 0 _ ?_
  simp only [work, here]

theorem storing_flush_closes (text : String) (here : session.worker = .storingFlush text) : Closes 2 session := by
  refine .next 1 session (fun idle => by cases here.symm.trans idle) fun answer => marking_closes ?_
  simp only [work, here]

theorem flushing_status_closes (here : session.worker = .flushing .status) : Closes 3 session := by
  refine .next 2 session (fun idle => by cases here.symm.trans idle) fun answer => ?_
  cases answer with
  | returns =>
    refine finishes_longer 1 2 _ (marking_closes ?_) (by decide)
    simp only [work, here, flushNext]
  | throws text kept =>
    refine storing_flush_closes text ?_
    simp only [work, here, fail]

theorem flushing_command_closes (here : session.worker = .flushing .command) : Closes 4 session := by
  refine .next 3 session (fun idle => by cases here.symm.trans idle) fun answer => ?_
  cases answer with
  | returns =>
    refine flushing_status_closes ?_
    simp only [work, here, flushNext]
  | throws text kept =>
    refine finishes_longer 2 3 _ (storing_flush_closes text ?_) (by decide)
    simp only [work, here, fail]

theorem failed_closes (here : session.worker = .finalizing) (requested : session.closeRequested = true)
    (failed : session.failed = true) : Closes 5 session := by
  cases closed : session.closed with
  | true => exact .already 5 session closed
  | false =>
    refine .next 4 session (fun idle => by cases here.symm.trans idle) fun answer => flushing_command_closes ?_
    simp [work, here, requested, closed, failed]

theorem stored_failed (session : Session layout) (text : String) (reported : session.error.isSome = session.failed) :
    (session.storeError text).failed = true := by
  cases stored : session.error with
  | some first =>
    rw [stored] at reported
    simp only [storeError, stored]
    exact reported.symm
  | none => simp only [storeError, stored]

theorem stored_requested (session : Session layout) (text : String) :
    (session.storeError text).closeRequested = session.closeRequested := by
  unfold storeError
  split <;> rfl

theorem storing_write_closes (text : String) (here : session.worker = .storingWrite text) (requested : session.closeRequested = true)
    (reported : session.error.isSome = session.failed) : Closes 6 session := by
  refine .next 5 session (fun idle => by cases here.symm.trans idle) fun answer => ?_
  have same : work session answer = { session.storeError text with worker := .finalizing } := by simp only [work, here]
  rw [same]
  exact failed_closes rfl ((stored_requested session text).trans requested) (stored_failed session text reported)

structure AtRest (session : Session layout) : Prop where
  quiet : ∀ kind, Quiet (capacity kind) (session.ports kind)
  few : Few session
  requested : session.closeRequested = true
  reported : session.error.isSome = session.failed

def Drained (session : Session layout) (kind : Kind) : Prop :=
  (session.ports kind).pushes.length < (session.ports kind).consumerSequence

theorem set_port_self (session : Session layout) (kind : Kind) (port : PortState (layout.size kind) Word) :
    (session.setPort kind port).ports kind = port :=
  Function.update_self kind _ session.ports

theorem set_port_other (session : Session layout) (kind other : Kind) (port : PortState (layout.size kind) Word)
    (different : other ≠ kind) : (session.setPort kind port).ports other = session.ports other :=
  Function.update_of_ne different _ session.ports

theorem AtRest.order (rest : AtRest session) (kind : Kind) : OrderInv (capacity kind) (session.ports kind) :=
  Sound.order ⟨fun kind => (rest.quiet kind).reached, rest.few⟩ kind

theorem AtRest.legible (rest : AtRest session) (kind : Kind) : LegibleInv (capacity kind) (session.ports kind) :=
  reachable_legible_inv (capacity kind) (Nat.zero_lt_of_lt (capacity_fits kind).1) (capacity_fits kind).2 _ (rest.quiet kind).reached

theorem AtRest.called (rest : AtRest session) (kind : Kind) (final : PortState (layout.size kind) Word) (pc : DrainPc Word)
    (position : Nat) (answered : List (Returned Word)) (concluded : Concluded (capacity kind) (session.ports kind) final position answered) :
    AtRest ({ session with worker := pc }.setPort kind final) := by
  refine ⟨?_, ?_, rest.requested, rest.reported⟩
  · intro other
    by_cases same : other = kind
    · subst same
      rw [set_port_self]
      exact concluded.quiet
    · rw [set_port_other _ _ _ _ same]
      exact rest.quiet other
  · intro other
    by_cases same : other = kind
    · subst same
      rw [set_port_self, concluded.pushes]
      exact rest.few other
    · rw [set_port_other _ _ _ _ same]
      exact rest.few other

theorem settle_leads (kind : Kind) (pc : DrainPc Word) (after : Session layout → Session layout) (awake : pc ≠ .idle)
    (steps : ∀ (session : Session layout) answer, session.worker = pc → work session answer = after (session.act kind .consumer))
    (busy : ∀ (session : Session layout) call, (session.ports kind).consumer.call = some call → after session = session)
    (session : Session layout) (here : session.worker = pc) (fuel : Nat) (port : PortState (layout.size kind) Word)
    (calling : port.consumer ≠ .idle) (settled : (settle (capacity kind) .consumer fuel port).consumer = .idle) :
    Leads fuel (session.setPort kind port) (after (session.setPort kind (settle (capacity kind) .consumer fuel port))) := by
  induction fuel generalizing port with
  | zero => exact absurd settled calling
  | succ fuel ih =>
    cases taken : portStep (capacity kind) port .consumer with
    | none =>
      rw [settle_done _ _ port .consumer taken] at settled
      exact absurd settled calling
    | some next =>
      rw [settle_next _ fuel port next .consumer taken] at settled ⊢
      have acts : (session.setPort kind port).act kind .consumer = session.setPort kind next := by
        rw [act, set_port_self, taken]
        simp only [setPort, Option.getD_some, Function.update_idem]
      refine .next fuel _ (fun idle => awake (here.symm.trans idle)) fun answer => ?_
      rw [steps (session.setPort kind port) answer here, acts]
      cases called : next.consumer.call with
      | none =>
        rw [settle_idle_consumer _ fuel next (call_none_idle next.consumer called)]
        exact .already fuel _ rfl
      | some call =>
        rw [busy (session.setPort kind next) call (by rw [set_port_self]; exact called)]
        refine ih next ?_ settled
        intro idle
        rw [idle] at called
        cases called

theorem call_leads (kind : Kind) (call : ConsumerCall) (pc : DrainPc Word) (after : Session layout → Session layout) (awake : pc ≠ .idle)
    (steps : ∀ (session : Session layout) answer, session.worker = pc → work session answer = after (session.act kind .consumer))
    (busy : ∀ (session : Session layout) call, (session.ports kind).consumer.call = some call → after session = session)
    (session : Session layout) (fuel : Nat) (idle : (session.ports kind).consumer = .idle) (final : PortState (layout.size kind) Word)
    (performed : perform (capacity kind) fuel (session.ports kind) (.consume call) = final) (settled : final.consumer = .idle) :
    Leads fuel (session.call kind call pc) (after ({ session with worker := pc }.setPort kind final)) := by
  subst performed
  have taken : portStep (capacity kind) (session.ports kind) (.call call) =
      some { session.ports kind with consumer := .loadHeadActive call } := by
    simp only [portStep, idle]
  have same : session.call kind call pc =
      { session with worker := pc }.setPort kind { session.ports kind with consumer := .loadHeadActive call } := by
    simp only [Session.call, act, taken, Option.getD_some, setPort]
  simp only [perform, taken] at settled ⊢
  rw [same]
  exact settle_leads kind pc after awake steps busy { session with worker := pc } rfl fuel _ (fun idle => by cases idle) settled

theorem pop_leads (kind : Kind) (session : Session layout) (fuel : Nat) (idle : (session.ports kind).consumer = .idle)
    (final : PortState (layout.size kind) Word)
    (performed : perform (capacity kind) fuel (session.ports kind) (.consume .pop) = final) (settled : final.consumer = .idle) :
    Leads fuel (session.call kind .pop (.popping kind)) (({ session with worker := .popping kind }.setPort kind final).afterPop kind) := by
  refine call_leads kind .pop (.popping kind) (fun session => session.afterPop kind) (fun idle => by cases idle) ?_
    (fun session call => after_pop_busy session kind call) session fuel idle final performed settled
  intro session answer here
  simp only [work, here]

theorem empty_leads (kind : Kind) (session : Session layout) (fuel : Nat) (idle : (session.ports kind).consumer = .idle)
    (final : PortState (layout.size kind) Word)
    (performed : perform (capacity kind) fuel (session.ports kind) (.consume .empty) = final) (settled : final.consumer = .idle) :
    Leads fuel (session.call kind .empty (.asking kind)) (({ session with worker := .asking kind }.setPort kind final).afterEmpty kind) := by
  refine call_leads kind .empty (.asking kind) (fun session => session.afterEmpty kind) (fun idle => by cases idle) ?_
    (fun session call => after_empty_busy session kind call) session fuel idle final performed settled
  intro session answer here
  simp only [work, here]

theorem leads_closes (fuel count : Nat) (session target : Session layout) (leads : Leads fuel session target)
    (closes : Closes count target) : Closes (fuel + count) session :=
  finishes_then _ fuel count session leads fun _ same => same ▸ closes

structure Called (kind : Kind) (session next : Session layout) : Prop where
  rest : AtRest next
  elsewhere : ∀ other, other ≠ kind → next.ports other = session.ports other

theorem AtRest.after (rest : AtRest session) (kind : Kind) (final : PortState (layout.size kind) Word) (pc : DrainPc Word)
    (position : Nat) (answered : List (Returned Word)) (concluded : Concluded (capacity kind) (session.ports kind) final position answered) :
    Called kind session ({ session with worker := pc }.setPort kind final) :=
  ⟨rest.called kind final pc position answered concluded, fun other different => set_port_other _ kind other final different⟩

theorem ask_drained (kind : Kind) (session : Session layout) (rest : AtRest session) (drained : Drained session kind) :
    ∃ fuel next, Called kind session next ∧ Leads fuel (session.call kind .empty (.asking kind)) (next.askNext kind) := by
  have concluded := perform_empty (capacity kind) 0 (session.ports kind) (rest.quiet kind) (rest.order kind).publish (rest.legible kind)
  rw [decide_eq_true (show _ < _ from drained)] at concluded
  have leads := empty_leads kind session (0 + 8) (rest.quiet kind).consumer _ rfl concluded.quiet.consumer
  rw [after_empty_true _ kind (by rw [set_port_self]; exact concluded.quiet.consumer)
    (by rw [set_port_self, concluded.returned]; simp)] at leads
  exact ⟨0 + 8, _, rest.after kind _ (.asking kind) _ _ concluded, leads⟩

theorem pop_drained (kind : Kind) (session : Session layout) (rest : AtRest session) (drained : Drained session kind) :
    ∃ fuel next, Called kind session next ∧ Drained next kind ∧
      Leads fuel (session.call kind .pop (.popping kind)) (next.popNext kind) := by
  have concluded := perform_pop_nothing (capacity kind) 0 (session.ports kind) (rest.quiet kind) (rest.order kind).publish
    (rest.legible kind) drained
  have leads := pop_leads kind session (0 + 8) (rest.quiet kind).consumer _ rfl concluded.quiet.consumer
  rw [after_pop_nothing _ kind (by rw [set_port_self]; exact concluded.quiet.consumer)
    (by rw [set_port_self, concluded.returned]; simp)] at leads
  refine ⟨0 + 8, _, rest.after kind _ (.popping kind) _ _ concluded, ?_, leads⟩
  rw [Drained, set_port_self, concluded.pushes, concluded.position]
  exact drained

def left (session : Session layout) (kind : Kind) : Nat :=
  (session.ports kind).pushes.length + 1 - (session.ports kind).consumerSequence

theorem pop_unread (kind : Kind) (session : Session layout) (rest : AtRest session) (unread : ¬ Drained session kind) :
    ∃ fuel next sequence words, Called kind session next ∧ left next kind < left session kind ∧
      Leads fuel (session.call kind .pop (.popping kind)) { next with worker := .writing kind sequence words } := by
  have order := rest.order kind
  have few := rest.few kind
  have started := order.position.started
  have positive := Nat.zero_lt_of_lt (capacity_fits kind).1
  unfold Drained at unread
  obtain ⟨message, _, concluded⟩ := perform_pop_value (capacity kind) 0 positive (session.ports kind) (rest.quiet kind) order.port
    order.publish (rest.legible kind) (by omega) unread (by omega)
  obtain ⟨_, newest, _⟩ := read_position_retained (capacity kind) positive (session.ports kind) unread (by omega)
  have forward : (session.ports kind).consumerSequence ≤ readPosition (capacity kind) (session.ports kind) := by
    unfold readPosition
    split <;> omega
  rw [Nat.mod_eq_of_lt (by omega)] at concluded
  have leads := pop_leads kind session (0 + layout.size kind + 18) (rest.quiet kind).consumer _ rfl concluded.quiet.consumer
  rw [after_pop_popped _ kind (readPosition (capacity kind) (session.ports kind)) (List.ofFn message)
    (by rw [set_port_self]; exact concluded.quiet.consumer) (by rw [set_port_self, concluded.returned]; simp)] at leads
  refine ⟨0 + layout.size kind + 18, _, _, _, rest.after kind _ (.popping kind) _ _ concluded, ?_, leads⟩
  rw [left, left, set_port_self, concluded.pushes, concluded.position]
  omega

theorem finalizing_closes (session : Session layout) (rest : AtRest session) (here : session.worker = .finalizing)
    (drained : ∀ kind, Drained session kind) : ∃ count, Closes count session := by
  cases failed : session.failed with
  | true => exact ⟨5, failed_closes here rest.requested failed⟩
  | false =>
    cases closed : session.closed with
    | true => exact ⟨0, .already 0 session closed⟩
    | false =>
      obtain ⟨first, next, asked, command⟩ := ask_drained .command session rest (drained .command)
      have empty : Drained next .status := by
        rw [Drained, asked.elsewhere .status (fun same => by cases same)]
        exact drained .status
      obtain ⟨second, last, _, status⟩ := ask_drained .status next asked.rest empty
      have closes : Closes (second + 4) (next.askNext .command) :=
        leads_closes second 4 _ _ status (flushing_command_closes rfl)
      refine ⟨first + (second + 4) + 1, .next _ session (fun idle => by cases here.symm.trans idle) fun answer => ?_⟩
      have same : work session answer = session.call .command .empty (.asking .command) := by
        simp [work, here, rest.requested, closed, failed]
      rw [same]
      exact leads_closes first (second + 4) _ _ command closes

theorem loop_closes (kind : Kind) (bound : Nat) (session : Session layout) (rest : AtRest session) (fewer : left session kind ≤ bound)
    (closes : ∀ next, Called kind session next → Drained next kind → ∃ count, Closes count (next.popNext kind)) :
    ∃ count, Closes count (session.call kind .pop (.popping kind)) := by
  by_cases drained : Drained session kind
  · obtain ⟨fuel, next, called, empty, leads⟩ := pop_drained kind session rest drained
    obtain ⟨count, closed⟩ := closes next called empty
    exact ⟨fuel + count, leads_closes fuel count _ _ leads closed⟩
  · obtain ⟨fuel, next, sequence, words, called, nearer, leads⟩ := pop_unread kind session rest drained
    have quiet := called.rest
    cases bound with
    | zero => omega
    | succ bound =>
      obtain ⟨count, again⟩ := loop_closes kind bound (next.append kind sequence words)
        ⟨quiet.quiet, quiet.few, quiet.requested, quiet.reported⟩ (by show left next kind ≤ bound; omega)
        (fun last passed empty => closes last
          ⟨passed.rest, fun other different => (passed.elsewhere other different).trans (called.elsewhere other different)⟩ empty)
      refine ⟨fuel + (count + 6 + 1), leads_closes fuel _ _ _ leads (.next (count + 6) _ (fun idle => by cases idle) fun answer => ?_)⟩
      cases answer with
      | returns => exact finishes_longer count (count + 6) _ again (Nat.le_add_right _ _)
      | throws text kept =>
        refine finishes_longer 6 (count + 6) _ (storing_write_closes text rfl ?_ ?_) (Nat.le_add_left _ _)
        · cases kept <;> exact quiet.requested
        · cases kept <;> exact quiet.reported

theorem checking_closes (session : Session layout) (rest : AtRest session) (here : session.worker = .checking) :
    ∃ count, Closes count session := by
  have awake : session.worker ≠ .idle := by
    rw [here]
    intro idle
    cases idle
  cases failed : session.failed with
  | true =>
    refine ⟨6, .next 5 session awake fun answer => failed_closes ?_ ?_ ?_⟩ <;> simp [work, here, failed, rest.requested]
  | false =>
    have loops := loop_closes .command _ session rest (Nat.le_refl _) ?_
    · obtain ⟨count, closes⟩ := loops
      refine ⟨count + 1, .next count session awake fun answer => ?_⟩
      have same : work session answer = session.call .command .pop (.popping .command) := by simp [work, here, failed]
      rw [same]
      exact closes
    · intro next first command
      refine loop_closes .status _ next first.rest (Nat.le_refl _) fun last second status => ?_
      refine finalizing_closes { last with worker := .finalizing }
        ⟨second.rest.quiet, second.rest.few, second.rest.requested, second.rest.reported⟩ rfl fun kind => ?_
      cases kind with
      | command =>
        rw [Drained, show ({ last with worker := .finalizing } : Session layout).ports .command = next.ports .command from
          second.elsewhere .command (fun same => by cases same)]
        exact command
      | status => exact status

theorem pass_closes (session : Session layout) (rest : AtRest session) (here : session.worker = .idle) :
    ∃ count, ∀ answer, Closes count (work session answer) := by
  obtain ⟨count, closes⟩ := checking_closes { session with worker := .checking }
    ⟨rest.quiet, rest.few, rest.requested, rest.reported⟩ rfl
  refine ⟨count, fun answer => ?_⟩
  have same : work session answer = { session with worker := .checking } := by simp only [work, here]
  rw [same]
  exact closes

structure Halted (session : Session layout) : Prop where
  closing : session.closing = true
  requested : session.closeRequested = true
  publishing : ∀ kind, session.publishing kind = none
  ports : ∀ kind, Reachable (port (capacity kind) (layout.size kind) Word) (session.ports kind) ∧ (session.ports kind).producer = .idle

structure Worked (session next : Session layout) : Prop where
  closing : next.closing = session.closing
  requested : next.closeRequested = session.closeRequested
  publishing : next.publishing = session.publishing
  closers : next.closers = session.closers
  closed : session.closed = true → next.closed = true

theorem work_worked (session : Session layout) (answer : Answer) : Worked session (work session answer) := by
  have stored (text : String) : Worked session (session.storeError text) := by
    unfold storeError
    split <;> exact ⟨rfl, rfl, rfl, rfl, id⟩
  unfold work
  split
  · exact ⟨rfl, rfl, rfl, rfl, id⟩
  · split <;> exact ⟨rfl, rfl, rfl, rfl, id⟩
  · next kind _ =>
    unfold afterPop
    split
    · exact ⟨rfl, rfl, rfl, rfl, id⟩
    · exact ⟨rfl, rfl, rfl, rfl, id⟩
    · cases kind <;> exact ⟨rfl, rfl, rfl, rfl, id⟩
  · split
    · exact ⟨rfl, rfl, rfl, rfl, id⟩
    · split <;> exact ⟨rfl, rfl, rfl, rfl, id⟩
  · have kept := stored ‹String›
    exact ⟨kept.closing, kept.requested, kept.publishing, kept.closers, kept.closed⟩
  · split
    · exact ⟨rfl, rfl, rfl, rfl, id⟩
    · split <;> exact ⟨rfl, rfl, rfl, rfl, id⟩
  · next kind _ =>
    unfold afterEmpty
    split
    · exact ⟨rfl, rfl, rfl, rfl, id⟩
    · cases kind <;> exact ⟨rfl, rfl, rfl, rfl, id⟩
    · exact ⟨rfl, rfl, rfl, rfl, id⟩
  · split
    · next kind _ _ => cases kind <;> exact ⟨rfl, rfl, rfl, rfl, id⟩
    · exact ⟨rfl, rfl, rfl, rfl, id⟩
  · have kept := stored ‹String›
    exact ⟨kept.closing, kept.requested, kept.publishing, kept.closers, kept.closed⟩
  · exact ⟨rfl, rfl, rfl, rfl, fun _ => rfl⟩

theorem work_halted (session : Session layout) (answer : Answer) (halted : Halted session) : Halted (work session answer) := by
  have worked := work_worked session answer
  refine ⟨worked.closing.trans halted.closing, worked.requested.trans halted.requested, ?_, ?_⟩
  · intro kind
    rw [worked.publishing]
    exact halted.publishing kind
  · refine work_kept (fun kind port => Reachable (Port.port (capacity kind) (layout.size kind) Word) port ∧ port.producer = .idle)
      ?_ session answer halted.ports
    intro kind state next action consumes before taken
    have fits := capacity_fits kind
    have inv := reachable_port_inv (capacity kind) (Nat.zero_lt_of_lt fits.1) fits.2 state before.1
    refine ⟨.next state next action before.1 trivial taken, ?_⟩
    cases action with
    | call call => exact (call_moved _ state next call taken).2.2.producer.trans before.2
    | consumer => exact (consumer_step_moves _ state next inv.hazard taken).producer.trans before.2
    | _ => cases consumes

def Session.withClosers (session : Session layout) (closers : Nat → ClosePc) : Session layout := { session with closers := closers }

theorem after_pop_closers (session : Session layout) (closers : Nat → ClosePc) (kind : Kind) :
    (session.withClosers closers).afterPop kind = (session.afterPop kind).withClosers closers := by
  cases called : (session.ports kind).consumer.call with
  | some call => simp only [afterPop, withClosers, called]
  | none =>
    cases last : (session.ports kind).returned.getLast? with
    | none => cases kind <;> simp only [afterPop, withClosers, called, last] <;> rfl
    | some value => cases value <;> cases kind <;> simp only [afterPop, withClosers, called, last] <;> rfl

theorem after_empty_closers (session : Session layout) (closers : Nat → ClosePc) (kind : Kind) :
    (session.withClosers closers).afterEmpty kind = (session.afterEmpty kind).withClosers closers := by
  cases called : (session.ports kind).consumer.call with
  | some call => simp only [afterEmpty, withClosers, called]
  | none =>
    cases last : (session.ports kind).returned.getLast? with
    | none => simp only [afterEmpty, withClosers, called, last]
    | some value =>
      cases value with
      | isEmpty empty => cases empty <;> cases kind <;> simp only [afterEmpty, withClosers, called, last] <;> rfl
      | _ => simp only [afterEmpty, withClosers, called, last]

theorem work_closers (session : Session layout) (closers : Nat → ClosePc) (answer : Answer) :
    work (session.withClosers closers) answer = (work session answer).withClosers closers := by
  have worker : (session.withClosers closers).worker = session.worker := rfl
  have stored (text : String) : (session.withClosers closers).storeError text = (session.storeError text).withClosers closers := by
    cases error : session.error <;> simp only [storeError, withClosers, error]
  cases here : session.worker with
  | checking =>
    have failed : (session.withClosers closers).failed = session.failed := rfl
    simp only [work, worker, here, failed]
    split <;> rfl
  | popping kind =>
    simp only [work, worker, here]
    exact after_pop_closers (session.act kind .consumer) closers kind
  | writing kind sequence words =>
    cases answer with
    | returns => simp only [work, worker, here]; rfl
    | throws text kept => cases kept <;> simp only [work, worker, here] <;> rfl
  | storingWrite text =>
    simp only [work, worker, here, stored]
    rfl
  | finalizing =>
    have failed : (session.withClosers closers).failed = session.failed := rfl
    have requested : (session.withClosers closers).closeRequested = session.closeRequested := rfl
    have closed : (session.withClosers closers).closed = session.closed := rfl
    simp only [work, worker, here, failed, requested, closed]
    split
    · rfl
    · split <;> rfl
  | asking kind =>
    simp only [work, worker, here]
    exact after_empty_closers (session.act kind .consumer) closers kind
  | flushing kind =>
    cases answer with
    | returns => cases kind <;> simp only [work, worker, here] <;> rfl
    | throws text kept => simp only [work, worker, here]; rfl
  | storingFlush text =>
    simp only [work, worker, here, stored]
    rfl
  | _ => simp only [work, here, withClosers]

theorem halted_outside (session next : Session layout) (action : Action layout) (halted : Halted session)
    (taken : step session action = some next) (outside : ∀ answer, action ≠ .work answer) :
    next = session.withClosers next.closers := by
  cases action with
  | publish kind message =>
    have idle := (halted.ports kind).2
    simp only [step, publish, halted.publishing kind, idle, halted.closing, ↓reduceIte, Option.some.injEq] at taken
    rw [← taken]
    rfl
  | produce kind =>
    have idle := (halted.ports kind).2
    simp only [step, produce, halted.publishing kind, portStep, producerStep, idle, Option.map_none] at taken
    cases taken
  | work answer => exact absurd rfl (outside answer)
  | close id =>
    have closing := halted.closing
    have requested := halted.requested
    simp only [step, close] at taken
    split at taken
    · cases taken
      simp only [withClosers, setCloser, closing, ↓reduceIte]
    · split at taken <;> cases taken
      simp only [withClosers, setCloser, requested]
    · split at taken
      · cases taken
      · split at taken <;> cases taken <;> rfl
    · cases taken

theorem closers_halted (session : Session layout) (closers : Nat → ClosePc) (halted : Halted session) :
    Halted (session.withClosers closers) :=
  ⟨halted.closing, halted.requested, halted.publishing, halted.ports⟩

def Action.works : Action layout → Bool
  | .work _ => true
  | _ => false

theorem run_first (session final : Session layout) (action : Action layout) (rest : List (Action layout))
    (ran : runActions (system layout) session (action :: rest) = some final) :
    ∃ next, step session action = some next ∧ runActions (system layout) next rest = some final := by
  simp only [runActions, runChecked, ↓reduceIte] at ran
  split at ran
  · cases ran
  · next next taken => exact ⟨next, taken, ran⟩

theorem run_closes (actions : List (Action layout)) (count : Nat) (session final : Session layout) (halted : Halted session)
    (closes : Closes count session) (ran : runActions (system layout) session actions = some final) :
    (count ≤ actions.countP Action.works → final.closed = true) ∧ (final.worker = .idle → final.closed = true) := by
  induction actions generalizing count session with
  | nil =>
    cases ran
    cases closes with
    | already _ _ closed => exact ⟨fun _ => closed, fun _ => closed⟩
    | next _ _ awake _ => exact ⟨fun enough => absurd enough (Nat.not_succ_le_zero _), fun idle => absurd idle awake⟩
  | cons action rest ih =>
    obtain ⟨next, taken, after⟩ := run_first session final action rest ran
    cases action with
    | work answer =>
      cases taken
      have counted : (Action.work answer :: rest).countP Action.works = rest.countP Action.works + 1 :=
        List.countP_cons_of_pos rfl
      rw [counted]
      have halts := work_halted session answer halted
      cases closes with
      | already _ _ closed =>
        have ends := ih 0 _ halts (.already 0 _ ((work_worked session answer).closed closed)) after
        exact ⟨fun _ => ends.1 (Nat.zero_le _), ends.2⟩
      | next fewer _ _ later =>
        have ends := ih fewer _ halts (later answer) after
        exact ⟨fun enough => ends.1 (Nat.le_of_succ_le_succ enough), ends.2⟩
    | _ =>
      have moved := halted_outside session next _ halted taken (fun answer other => by cases other)
      rw [List.countP_cons_of_neg (by simp [Action.works])]
      rw [moved] at after
      refine ih count _ (closers_halted session next.closers halted) ?_ after
      exact finishes_moved (fun session => session.withClosers next.closers) count session
        (fun session answer => work_closers session next.closers answer) (fun _ awake => awake) (fun _ closed => closed) closes

theorem pass_run (actions : List (Action layout)) (count : Nat) (session final : Session layout) (halted : Halted session)
    (closes : ∀ answer, Closes count (work session answer)) (ran : runActions (system layout) session actions = some final) :
    (count < actions.countP Action.works → final.closed = true) ∧
      (0 < actions.countP Action.works → final.worker = .idle → final.closed = true) := by
  induction actions generalizing session with
  | nil => exact ⟨fun enough => absurd enough (Nat.not_lt_zero _), fun some => absurd some (Nat.not_lt_zero _)⟩
  | cons action rest ih =>
    obtain ⟨next, taken, after⟩ := run_first session final action rest ran
    cases action with
    | work answer =>
      cases taken
      have counted : (Action.work answer :: rest).countP Action.works = rest.countP Action.works + 1 :=
        List.countP_cons_of_pos rfl
      rw [counted]
      have ends := run_closes rest count _ final (work_halted session answer halted) (closes answer) after
      exact ⟨fun enough => ends.1 (Nat.le_of_lt_succ enough), fun _ => ends.2⟩
    | _ =>
      have moved := halted_outside session next _ halted taken (fun answer other => by cases other)
      rw [List.countP_cons_of_neg (by simp [Action.works])]
      rw [moved] at after
      refine ih _ (closers_halted session next.closers halted) ?_ after
      intro answer
      rw [work_closers]
      exact finishes_moved (fun session => session.withClosers next.closers) count _
        (fun session answer => work_closers session next.closers answer) (fun _ awake => awake) (fun _ closed => closed)
        (closes answer)

end Passes

end EncosDriver.Motor.LogTransport
