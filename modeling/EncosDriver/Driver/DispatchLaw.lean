import EncosDriver.Driver.DispatchSafety

set_option autoImplicit false

namespace EncosDriver.Driver

open Lib

structure DispatchReport.Delivered (report : DispatchReport) (adapter : Pointer) (tables : Tables) : Prop where
  exact : report.message.id ≠ systemFrameId → ∀ record, report.seen.exactRoute adapter report.message = some record →
    report.called = [record] ∧ report.mailbox = []
  claim : report.message.id ≠ systemFrameId → report.seen.exactRoute adapter report.message = none →
    ∃ claim, report.seenClaim = some claim ∧ report.called = (claim.claimRoute adapter report.message.busIdx).toList
  system : report.message.id = systemFrameId → ∃ broadcast claim, report.seenClaim = some claim ∧
    report.called = broadcast ++ (claim.claimRoute adapter report.message.busIdx).toList ∧ broadcast.Nodup ∧
      ∀ record, record ∈ broadcast ↔ ∃ canId, report.seen.exactRoute adapter ⟨report.message.busIdx, canId⟩ = some record
  home : ∀ record ∈ report.called, tables.Home record ⟨adapter, report.message.busIdx⟩

theorem over_delivered (report : DispatchReport) (adapter : Pointer) (tables : Tables) (sound : report.Sound tables adapter)
    (ended : report.Over adapter) : report.Delivered adapter tables where
  exact := by
    intro single record found
    have matched : ¬ report.Unmatched adapter := by simp [DispatchReport.Unmatched, single, found]
    have unseen : report.seenClaim = none := by
      by_contra seen
      exact matched (ended.claim.mpr seen)
    refine ⟨?_, ended.matched matched⟩
    rw [ended.calls]
    simp [DispatchReport.exactCalls, DispatchReport.claimCalls, single, found, unseen]
  claim := by
    intro single absent
    obtain ⟨claim, seen⟩ := Option.ne_none_iff_exists'.mp (ended.claim.mp (.inr absent))
    refine ⟨claim, seen, ?_⟩
    rw [ended.calls]
    simp [DispatchReport.exactCalls, DispatchReport.claimCalls, single, absent, seen]
  system := by
    intro broadcast
    obtain ⟨claim, seen⟩ := Option.ne_none_iff_exists'.mp (ended.claim.mp (.inl broadcast))
    obtain ⟨distinct, every⟩ := system_routes_exact report.seen sound.routed adapter report.message.busIdx
    refine ⟨_, claim, seen, ?_, distinct, every⟩
    rw [ended.calls]
    simp [DispatchReport.exactCalls, DispatchReport.claimCalls, broadcast, seen]
  home := by
    intro record inside
    rw [ended.calls] at inside
    exact sound.home record inside

def ReceivePc.waits : ReceivePc → Bool
  | .lock | .inRelay (some _) | .inCallback _ _ _ _ (some _) => true
  | _ => false

theorem receive_runs (tables : Tables) (replyOf : CallId → Option Reply) (self : CallId) (adapter : Pointer)
    (delivery : Delivery) (pc : ReceivePc) (free : pc.waits = false) :
    ∃ result, runReceive tables replyOf self .proceed adapter delivery pc = some result := by
  cases pc with
  | lock => cases free
  | inRelay nested | inCallback report route record admitted nested =>
    cases nested with
    | none => exact ⟨_, rfl⟩
    | some child => cases free
  | deliver report route admitted => cases admitted <;> exact ⟨_, rfl⟩
  | _ =>
    simp only [runReceive]
    repeat' split
    all_goals exact ⟨_, rfl⟩

structure Accounted (before after : List MotorMessage) (history next : List DispatchReport)
    (outcomes : List (MotorMessage × Option DispatchReport)) : Prop where
  messages : before = outcomes.map Prod.fst ++ after
  history : next = history ++ outcomes.filterMap Prod.snd
  reported : ∀ message report, (message, some report) ∈ outcomes → report.message = message

theorem accounted_trans {first second third : List MotorMessage} {past middle last : List DispatchReport}
    {early late : List (MotorMessage × Option DispatchReport)} (one : Accounted first second past middle early)
    (two : Accounted second third middle last late) : Accounted first third past last (early ++ late) where
  messages := by rw [one.messages, two.messages, List.map_append, List.append_assoc]
  history := by rw [two.history, one.history, List.filterMap_append, List.append_assoc]
  reported := by
    intro message report inside
    rcases List.mem_append.mp inside with before | after
    · exact one.reported message report before
    · exact two.reported message report after

theorem step_accounted (before after : Tables) (adapter : Pointer) (delivery next : Delivery) (pc nextPc : ReceivePc)
    (moved : DeliveryStep before after adapter delivery pc next nextPc) :
    ∃ outcomes, Accounted (pending delivery pc) (pending next nextPc) delivery.history next.history outcomes := by
  cases moved with
  | goesOn messages history _ =>
    exact ⟨[], by simpa using messages.symm, by simpa using history, nofun⟩
  | skips message messages _ history _ =>
    exact ⟨[(message, none)], by simpa using messages, by simpa using history, by simp⟩
  | ends report messages history _ _ =>
    exact ⟨[(report.message, some report)], by simpa using messages, by simpa using history, by simp⟩

variable (state next : DriverState)

theorem delivery_beside (action : Action) (numbered : World.Numbered state)
    (steps : Steps state action next) (id : CallId) (other : ∀ choice, action ≠ .run id choice) (call : Call)
    (present : state.calls.find id = some call) (adapter : Pointer) (delivery : Delivery) (pc : ReceivePc)
    (frame : call.frame = .receive adapter delivery pc) :
    ∃ after nextPc, next.calls.find id = some after ∧ after.frame = .receive adapter delivery nextPc ∧
      pending delivery nextPc = pending delivery pc := by
  have known := numbered id call present
  cases steps with
  | begins action request notRun =>
    refine ⟨call, pc, ?_, frame, rfl⟩
    rw [World.find_start, if_neg (Nat.ne_of_lt known)]
    exact present
  | enters entering holder request context inside found entered =>
    by_cases same : id = entering
    · subst same
      rw [present] at found
      cases found
      rw [frame] at entered
      have nests : ∃ nextPc, inside = .receive adapter delivery nextPc ∧ pending delivery nextPc = pending delivery pc := by
        unfold enterCallback at entered
        split at entered
        · next same =>
          cases same
          cases entered
          exact ⟨_, rfl, rfl⟩
        · next same =>
          cases same
          cases entered
          exact ⟨_, rfl, rfl⟩
        · cases entered
      obtain ⟨nextPc, moved, kept⟩ := nests
      exact ⟨_, nextPc, World.find_advance_self state id _ known, moved, kept⟩
    · exact ⟨call, pc, (World.find_advance_other state entering id _ same known).trans present, frame, rfl⟩
  | runs runner holder choice result found ran =>
    have different : id ≠ runner := by
      rintro rfl
      exact other choice rfl
    exact ⟨call, pc, (World.find_advance_other state runner id _ different known).trans present, frame, rfl⟩

theorem finished_beside (action : Action) (numbered : World.Numbered state)
    (steps : Steps state action next) (id : CallId) (other : ∀ choice, action ≠ .run id choice) (call : Call)
    (present : state.calls.find id = some call) (reply : Reply) (done : call.frame = .finished reply) :
    ∃ after, next.calls.find id = some after ∧ after.frame = .finished reply := by
  have known := numbered id call present
  cases steps with
  | begins action request notRun =>
    refine ⟨call, ?_, done⟩
    rw [World.find_start, if_neg (Nat.ne_of_lt known)]
    exact present
  | enters entering holder request context inside found entered =>
    have different : id ≠ entering := by
      rintro rfl
      rw [present] at found
      cases found
      rw [done] at entered
      cases entered
    exact ⟨call, (World.find_advance_other state entering id _ different known).trans present, done⟩
  | runs runner holder choice result found ran =>
    have different : id ≠ runner := by
      rintro rfl
      exact other choice rfl
    exact ⟨call, (World.find_advance_other state runner id _ different known).trans present, done⟩

def EndsAccounted (state later : DriverState) (id : CallId) (adapter : Pointer) (delivery : Delivery) (pc : ReceivePc)
    (reply : Reply) : Prop :=
  ∃ middle call lastDelivery lastPc outcomes, RunsWhile system (fun _ => True) state middle ∧
    RunsWhile system (fun _ => True) middle later ∧ middle.calls.find id = some call ∧
      call.frame = .receive adapter lastDelivery lastPc ∧
        Accounted (pending delivery pc) (pending lastDelivery lastPc) delivery.history lastDelivery.history outcomes ∧
          ((reply = .verdict true ∧ pending lastDelivery lastPc = []) ∨ (reply = .verdict false ∧ lastDelivery.history = []))

structure DispatchLaw (state : DriverState) : Prop where
  -- Every dispatch that is over delivered its message as the routes it found say, and only on the message's bus.
  delivered : ∀ id call adapter delivery pc, state.calls.find id = some call → call.frame = .receive adapter delivery pc →
    ∀ report ∈ delivery.history, report.Delivered adapter state.shared
  -- Nor has a dispatch that is not over called a record of another bus or adapter.
  inHand : ∀ id call adapter delivery pc report, state.calls.find id = some call →
    call.frame = .receive adapter delivery pc → pc.report = some report →
    ∀ record ∈ report.called, state.shared.Home record ⟨adapter, report.message.busIdx⟩
  -- A step of a delivery deals with at most one message, and only the end of an unmatched dispatch writes a mailbox:
  -- that of the bus registered then, if there is one.
  steps : ∀ id choice next call adapter delivery pc, system.step state (.run id choice) = some next →
    state.calls.find id = some call → call.frame = .receive adapter delivery pc →
    ∃ after, next.calls.find id = some after ∧
      ((∃ reply, after.frame = .finished reply ∧ DeliveryEnd state.shared next.shared adapter delivery pc reply) ∨
        ∃ nextDelivery nextPc, after.frame = .receive adapter nextDelivery nextPc ∧
          DeliveryStep state.shared next.shared adapter delivery pc nextDelivery nextPc)
  mailboxes : ∀ action next, system.step state action = some next →
    (∀ id choice call, action = .run id choice → state.calls.find id = some call → call.frame.isReceive = false) →
    next.shared.unknownMessages = state.shared.unknownMessages
  -- However long it takes, no message of a delivery is lost, taken twice or out of order.
  accounted : ∀ later, RunsWhile system (fun _ => True) state later →
    ∀ id call adapter delivery pc after laterDelivery laterPc, state.calls.find id = some call →
      call.frame = .receive adapter delivery pc → later.calls.find id = some after →
      after.frame = .receive adapter laterDelivery laterPc →
      ∃ outcomes, Accounted (pending delivery pc) (pending laterDelivery laterPc) delivery.history laterDelivery.history outcomes
  -- Nor does a delivery end before it has dealt with all of them, unless it was refused before the first.
  ended : ∀ later, RunsWhile system (fun _ => True) state later →
    ∀ id call adapter delivery pc after reply, state.calls.find id = some call → call.frame = .receive adapter delivery pc →
      later.calls.find id = some after → after.frame = .finished reply → EndsAccounted state later id adapter delivery pc reply
  -- A delivery can always go on unless another one or client code holds it up.
  moves : ∀ id call adapter delivery pc, state.calls.find id = some call → call.frame = .receive adapter delivery pc →
    pc.waits = false → ∃ next, system.step state (.run id .proceed) = some next

theorem delivery_steps (id : CallId) (choice : Choice) (reached : Reachable system state)
    (taken : system.step state (.run id choice) = some next) (call : Call) (adapter : Pointer) (delivery : Delivery) (pc : ReceivePc)
    (present : state.calls.find id = some call) (frame : call.frame = .receive adapter delivery pc) :
    ∃ after, next.calls.find id = some after ∧
      ((∃ reply, after.frame = .finished reply ∧ DeliveryEnd state.shared next.shared adapter delivery pc reply) ∨
        ∃ nextDelivery nextPc, after.frame = .receive adapter nextDelivery nextPc ∧
          DeliveryStep state.shared next.shared adapter delivery pc nextDelivery nextPc) := by
  have numbered := reachable_numbered Always state reached
  have known := reachable_dispatching state reached id call present
  have paced := reachable_paced state reached id call present
  rw [frame] at known paced
  cases step_cases state next (.run id choice) taken with
  | begins action request notRun => exact absurd rfl (notRun id choice)
  | runs runner holder picked result found ran =>
    rw [present] at found
    cases found
    rw [frame] at ran
    have moved := receive_moves state.shared _ id choice adapter delivery pc result known.2.1 paced ran
    refine ⟨_, World.find_advance_self state id _ (numbered id call present), ?_⟩
    rw [World.advance_shared]
    exact moved

theorem delivery_accounted (state later : DriverState) (reached : Reachable system state)
    (ran : RunsWhile system (fun _ => True) state later) (id : CallId) (call : Call) (adapter : Pointer) (delivery : Delivery)
    (pc : ReceivePc) (present : state.calls.find id = some call) (frame : call.frame = .receive adapter delivery pc) :
    ∃ after, later.calls.find id = some after ∧
      ((∃ reply, after.frame = .finished reply ∧ EndsAccounted state later id adapter delivery pc reply) ∨
      ∃ laterDelivery laterPc outcomes, after.frame = .receive adapter laterDelivery laterPc ∧
        Accounted (pending delivery pc) (pending laterDelivery laterPc) delivery.history laterDelivery.history outcomes) := by
  induction ran with
  | here => exact ⟨call, present, .inr ⟨delivery, pc, [], frame, ⟨rfl, (List.append_nil _).symm, nofun⟩⟩⟩
  | next before next action previous _ taken ih =>
    have reachedBefore := runs_while_reachable system _ state before reached previous
    have numbered := reachable_numbered Always before reachedBefore
    have steps := step_cases before next action taken
    obtain ⟨middle, found, progress⟩ := ih
    by_cases own : ∃ choice, action = .run id choice
    · obtain ⟨choice, rfl⟩ := own
      rcases progress with ⟨reply, done, -⟩ | ⟨middleDelivery, middlePc, early, middleFrame, one⟩
      · -- A finished call has no section left to run.
        cases steps with
        | begins action request notRun => exact absurd rfl (notRun id choice)
        | runs runner holder picked result there ran =>
          rw [found] at there
          cases there
          rw [done] at ran
          cases ran
      · obtain ⟨after, there, outcome⟩ := delivery_steps before next id choice reachedBefore taken middle adapter
          middleDelivery middlePc found middleFrame
        refine ⟨after, there, ?_⟩
        rcases outcome with ⟨reply, done, ending⟩ | ⟨nextDelivery, nextPc, nextFrame, moved⟩
        · refine .inl ⟨reply, done, ⟨before, middle, middleDelivery, middlePc, early, previous, ?_, found, middleFrame, one, ?_⟩⟩
          · exact .next before next _ .here trivial taken
          · cases ending with
            | completed dealt _ => exact .inl ⟨rfl, dealt⟩
            | refused untouched _ _ => exact .inr ⟨rfl, untouched.2⟩
        · obtain ⟨late, two⟩ := step_accounted _ _ adapter _ _ _ _ moved
          exact .inr ⟨nextDelivery, nextPc, early ++ late, nextFrame, accounted_trans one two⟩
    · have other (choice : Choice) : action ≠ .run id choice := fun same => own ⟨choice, same⟩
      rcases progress with ⟨reply, done, ending⟩ | ⟨middleDelivery, middlePc, early, middleFrame, one⟩
      · obtain ⟨after, there, same⟩ := finished_beside before next action numbered steps id other middle found reply done
        obtain ⟨last, call', lastDelivery, lastPc, outcomes, toLast, fromLast, rest⟩ := ending
        refine ⟨after, there, .inl ⟨reply, same, ⟨last, call', lastDelivery, lastPc, outcomes, toLast, ?_, rest⟩⟩⟩
        exact .next before next action fromLast trivial taken
      · obtain ⟨after, nextPc, there, nextFrame, kept⟩ := delivery_beside before next action numbered steps id other middle
          found adapter middleDelivery middlePc middleFrame
        exact ⟨after, there, .inr ⟨middleDelivery, nextPc, early, nextFrame, kept ▸ one⟩⟩

theorem dispatch_exactly_once (state : DriverState) (reached : Reachable system state) : DispatchLaw state := by
  have dispatching := reachable_dispatching state reached
  have known (id : CallId) (call : Call) (adapter : Pointer) (delivery : Delivery) (pc : ReceivePc)
      (present : state.calls.find id = some call) (frame : call.frame = .receive adapter delivery pc) :
      (Frame.receive adapter delivery pc).Dispatching state.shared id := frame ▸ dispatching id call present
  refine ⟨?_, ?_, ?_, ?_, ?_, ?_, ?_⟩
  · intro id call adapter delivery pc present frame report inside
    obtain ⟨sound, -, ended⟩ := known id call adapter delivery pc present frame
    exact over_delivered report adapter state.shared (sound report (List.mem_append_left _ inside)) (ended report inside)
  · intro id call adapter delivery pc report present frame inHand record called
    obtain ⟨sound, fits, -⟩ := known id call adapter delivery pc present frame
    refine (sound report (List.mem_append_right _ (by simp [inHand]))).home record ?_
    cases pc <;> first | (cases inHand; done) | skip
    all_goals cases inHand
    all_goals rw [← fits.calls]
    all_goals first | exact List.mem_append_left _ called | exact called
  · intro id choice next call adapter delivery pc taken present frame
    exact delivery_steps state next id choice reached taken call adapter delivery pc present frame
  · intro action next taken others
    cases step_cases state next action taken with
    | begins action request notRun => rfl
    | enters id call request context frame present entered => rw [World.advance_shared]
    | runs id call choice result present ran =>
      rw [World.advance_shared]
      exact mailboxes_kept _ _ _ _ _ _ (runs_from state id choice call result ⟨present, ran⟩) (others id choice call rfl present)
  · intro later ran id call adapter delivery pc after laterDelivery laterPc present frame found afterFrame
    obtain ⟨holder, there, outcome⟩ := delivery_accounted state later reached ran id call adapter delivery pc present frame
    rw [found] at there
    cases there
    rcases outcome with ⟨reply, done, -⟩ | ⟨_, _, outcomes, same, accounted⟩
    · rw [afterFrame] at done
      cases done
    · rw [afterFrame, Frame.receive.injEq] at same
      obtain ⟨-, rfl, rfl⟩ := same
      exact ⟨outcomes, accounted⟩
  · intro later ran id call adapter delivery pc after reply present frame found done
    obtain ⟨holder, there, outcome⟩ := delivery_accounted state later reached ran id call adapter delivery pc present frame
    rw [found] at there
    cases there
    rcases outcome with ⟨other, same, ending⟩ | ⟨_, _, _, same, _⟩
    · rw [done, Frame.finished.injEq] at same
      exact same ▸ ending
    · rw [done] at same
      cases same
  · intro id call adapter delivery pc present frame free
    obtain ⟨result, runs⟩ := receive_runs state.shared (replyOf state.calls) id adapter delivery pc free
    have ran : runFrame state.shared (replyOf state.calls) id state.nextCall .proceed call.context call.frame = some result := by
      rw [frame]
      exact runs
    exact ⟨state.advance id ⟨result.effect.apply state.shared, { call with frame := result.frame },
      result.nested.map (beginCall call.context)⟩, by simp [system, step, present, sectionMove, ran]⟩

def Frame.delivers (holds : Pointer → Delivery → ReceivePc → Bool) : Frame → Bool
  | .receive adapter delivery pc => holds adapter delivery pc
  | _ => false

theorem Frame.delivers_iff {holds : Pointer → Delivery → ReceivePc → Bool} {frame : Frame} : frame.delivers holds = true ↔
    ∃ adapter delivery pc, frame = .receive adapter delivery pc ∧ holds adapter delivery pc = true := by
  cases frame <;> simp [delivers]

def dispatchedRun : List Action := twoMotorsRun ++ .receive 0 [⟨0, systemFrameId⟩, ⟨0, 1⟩, ⟨1, 5⟩] :: runsOf 4 23

theorem dispatch_two_motors : ∃ state, DispatchLaw state ∧ ∃ call delivery pc, state.calls.find 4 = some call ∧
    call.frame = .receive 0 delivery pc ∧ pending delivery pc = [] ∧
      delivery.history.map (fun report => (report.called, report.mailbox)) = [([⟨3, 0⟩, ⟨2, 0⟩], [1]), ([⟨2, 0⟩], [])] := by
  have checked : (runActions system initial dispatchedRun).any (fun state =>
      (state.calls.find 4).any fun call => call.frame.delivers fun adapter delivery pc =>
        adapter = 0 && (pending delivery pc).isEmpty &&
          delivery.history.map (fun report => (report.called, report.mailbox)) = [([⟨3, 0⟩, ⟨2, 0⟩], [1]), ([⟨2, 0⟩], [])]) =
      true := by decide +kernel
  obtain ⟨state, reached, facts⟩ := run_actions_found system dispatchedRun initial (.start _ rfl) _ checked
  obtain ⟨call, found, inside⟩ := (Option.any_eq_true _ _).mp facts
  refine ⟨state, dispatch_exactly_once state reached, call, ?_⟩
  obtain ⟨adapter, delivery, pc, frame, holds⟩ := Frame.delivers_iff.mp inside
  simp only [Bool.and_eq_true, decide_eq_true_eq, List.isEmpty_iff] at holds
  obtain ⟨⟨rfl, done⟩, reports⟩ := holds
  exact ⟨delivery, pc, found, frame, done, reports⟩

def closedMailboxRun : List Action :=
  .call (.createAdapter "can0") :: runsOf 0 2 ++ .call (.createBus ⟨0, 0⟩) :: runsOf 1 5 ++
    .receive 0 [⟨0, 5⟩] :: runsOf 2 7 ++ .call (.destroyBus 1 false) :: runsOf 3 1 ++ runsOf 2 1

theorem mailbox_missed : ¬ ∀ state, Reachable system state → ∀ id call adapter delivery pc, state.calls.find id = some call →
    call.frame = .receive adapter delivery pc → ∀ report ∈ delivery.history, report.message.id ≠ systemFrameId →
      report.seen.exactRoute adapter report.message = none → report.mailbox.length = 1 := by
  intro claimed
  have checked : (runActions system initial closedMailboxRun).any (fun state =>
      (state.calls.find 2).any fun call => call.frame.delivers fun adapter delivery _ =>
        delivery.history.any fun report => report.message.id ≠ systemFrameId &&
          report.seen.exactRoute adapter report.message = none && report.mailbox.length ≠ 1) = true := by decide +kernel
  obtain ⟨state, reached, facts⟩ := run_actions_found system closedMailboxRun initial (.start _ rfl) _ checked
  obtain ⟨call, found, inside⟩ := (Option.any_eq_true _ _).mp facts
  obtain ⟨adapter, delivery, pc, frame, holds⟩ := Frame.delivers_iff.mp inside
  obtain ⟨report, listed, missed⟩ := List.any_eq_true.mp holds
  simp only [Bool.and_eq_true, decide_eq_true_eq] at missed
  exact missed.2 (claimed state reached 2 call adapter delivery pc found frame report listed missed.1.1 missed.1.2)

end EncosDriver.Driver
