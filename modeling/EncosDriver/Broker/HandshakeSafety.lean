import EncosDriver.Broker.Handshake

set_option autoImplicit false

namespace EncosDriver.Broker

def passed (word : Nat) (turn : Pass) : Nat :=
  match turn.arrival with
  | .connected connection => if connection.credentials.isSome ∧ connection.timeoutSet = true then installed word connection else 0
  | _ => 0

def accepted (turn : Pass) : Nat :=
  match turn.arrival with
  | .nobody => 0
  | _ => 1

structure Genuine (request : Request) (phase : BrokerPeerPhase) (turn : Pass) (connection : Connection) : Prop where
  arrived : turn.arrival = .connected connection
  whole : connection.bytes = kHandshakeSize ∧ connection.truncated = false ∧ controlTruncated request.word connection = false
  nonce : connection.handshake.nonce = request.nonce
  authorised : ∃ peer, connection.credentials = some peer ∧
    isAuthorizedBrokerPeer peer connection.executable phase request = true

def Handled (request : Request) (passes before : List Pass) (turn : Pass) : Prop :=
  (∃ after, passes = before ++ turn :: after) ∧ (run request before).finished = false

structure Authorised (request : Request) (passes : List Pass) : Prop where
  returned : ∀ fd, (requestFd request passes).1 = some fd → ∃ before turn connection, Handled request passes before turn ∧
    Genuine request (run request before).peerPhase turn connection ∧ connection.handshake.status = kStatusOk ∧
      fd = (run request before).table.next + 1 ∧ 0 < passed request.word turn
  escalates : ∀ before turn after, passes = before ++ turn :: after →
    (run request (before ++ [turn])).peerPhase ≠ (run request before).peerPhase →
    (run request before).peerPhase = .direct ∧ ∃ connection, Genuine request .direct turn connection ∧
      connection.handshake.status = kStatusError ∧ connection.handshake.errorNumber = kEperm
  once : ∀ before after, passes = before ++ after → (run request before).peerPhase = .escalated →
    (run request passes).peerPhase = .escalated

structure HandshakeLaw (request : Request) (passes : List Pass) : Prop extends Authorised request passes where
  closed : ∀ fd ∈ (requestFd request passes).2.opened,
    (requestFd request passes).2.closed.count fd = if (requestFd request passes).1 = some fd then 0 else 1

def OneDescriptor (request : Request) (passes : List Pass) : Prop :=
  ∀ before turn, Handled request passes before turn → passed request.word turn ≤ 1

theorem observe_same (client : Client) (brokerExited : Bool) :
    ∃ started, observeEscalationExit client brokerExited = { client with escalationExitWindowStarted := started } := by
  unfold observeEscalationExit
  split
  · exact ⟨client.escalationExitWindowStarted, rfl⟩
  · exact ⟨true, rfl⟩

variable (request : Request)

theorem answer_cases (client : Client) (received : ReceivedBrokerHandshake) (brokerExited : Bool) :
    let next := answer request client received brokerExited
    let genuine := received.handshake.nonce = request.nonce ∧
      isAuthorizedBrokerPeer received.peer received.executable client.peerPhase request = true
    (next.table = client.table.closeAny received.fd ∧ next.rawFd = client.rawFd ∧ next.handshakeOk = client.handshakeOk ∧
      (next.peerPhase = client.peerPhase ∨
        next.peerPhase = .escalated ∧ client.peerPhase = .direct ∧ genuine ∧
          received.handshake.status = kStatusError ∧ received.handshake.errorNumber = kEperm)) ∨
    (next.table = client.table ∧ next.rawFd = received.fd ∧ received.fd.isSome = true ∧ next.handshakeOk = true ∧
      next.finished = true ∧ next.peerPhase = client.peerPhase ∧ genuine ∧ received.handshake.status = kStatusOk) := by
  intro next genuine
  have observed := observe_same
  simp only [next, genuine, answer]
  by_cases same : received.handshake.nonce ≠ request.nonce
  · rw [if_pos same]
    exact .inl ⟨rfl, rfl, rfl, .inl rfl⟩
  rw [if_neg same]
  by_cases stranger : isAuthorizedBrokerPeer received.peer received.executable client.peerPhase request = false
  · rw [if_pos stranger]
    obtain ⟨started, step⟩ := observed _ brokerExited
    rw [step]
    exact .inl ⟨rfl, rfl, rfl, .inl rfl⟩
  rw [if_neg stranger]
  rw [ne_eq, not_not] at same
  rw [Bool.not_eq_false] at stranger
  by_cases taken : received.fd.isSome = true ∧ received.handshake.status = kStatusOk
  · rw [if_pos taken]
    exact .inr ⟨rfl, rfl, taken.1, rfl, rfl, rfl, ⟨same, stranger⟩, taken.2⟩
  rw [if_neg taken]
  by_cases restarting : client.peerPhase = .direct ∧ received.handshake.status = kStatusError ∧
      received.handshake.errorNumber = kEperm ∧ isEscalationRestartingMessage received.handshake.message = true
  · rw [if_pos restarting]
    by_cases noHelper : received.handshake.escalationPid ≤ 0
    · rw [if_pos noHelper]
      exact .inl ⟨rfl, rfl, rfl, .inl rfl⟩
    · rw [if_neg noHelper]
      obtain ⟨started, step⟩ := observed _ brokerExited
      rw [step]
      exact .inl ⟨rfl, rfl, rfl, .inr ⟨rfl, restarting.1, ⟨same, stranger⟩, restarting.2.1, restarting.2.2.1⟩⟩
  rw [if_neg restarting]
  by_cases refused : received.handshake.status = kStatusError ∧ received.handshake.message[0] ≠ 0
  · rw [if_pos refused]
    exact .inl ⟨rfl, rfl, rfl, .inl rfl⟩
  · rw [if_neg refused]
    obtain ⟨started, step⟩ := observed _ brokerExited
    rw [step]
    exact .inl ⟨rfl, rfl, rfl, .inl rfl⟩

-- What receiving does to the descriptors: all that the kernel installs is
-- opened, the connection is closed again, and so is the first descriptor of an
-- incomplete message.
structure Receives (word : Nat) (table : Descriptors) (turn : Pass) (received : Option ReceivedBrokerHandshake)
    (after : Descriptors) : Prop where
  next : after.next = table.next + (accepted turn + passed word turn)
  opened : after.opened = table.opened ++ List.range' table.next (accepted turn + passed word turn)
  closed : ∀ fd, after.closed.count fd = table.closed.count fd +
    (if accepted turn = 1 ∧ fd = table.next then 1 else 0) +
      (if received = none ∧ 0 < passed word turn ∧ fd = table.next + 1 then 1 else 0)
  whole : ∀ handshake, received = some handshake → accepted turn = 1 ∧ ∃ connection, turn.arrival = .connected connection ∧
    connection.bytes = kHandshakeSize ∧ connection.truncated = false ∧ controlTruncated word connection = false ∧
      connection.credentials = some handshake.peer ∧ handshake.executable = connection.executable ∧
        handshake.handshake = connection.handshake ∧
          handshake.fd = if passed word turn = 0 then none else some (table.next + 1)

variable (table : Descriptors)

theorem count_close (fd other : Nat) :
    (table.close fd).closed.count other = table.closed.count other + if other = fd then 1 else 0 := by
  simp only [Descriptors.close, List.count_append, List.count_singleton, beq_iff_eq, eq_comm (a := fd)]

theorem close_any_same (fd : Option Nat) :
    (table.closeAny fd).next = table.next ∧ (table.closeAny fd).opened = table.opened := by
  cases fd <;> exact ⟨rfl, rfl⟩

theorem count_close_any (fd : Option Nat) (other : Nat) :
    (table.closeAny fd).closed.count other = table.closed.count other + if fd = some other then 1 else 0 := by
  cases fd with
  | none => simp only [Descriptors.closeAny, reduceCtorEq, ↓reduceIte, Nat.add_zero]
  | some fd =>
    rw [Descriptors.closeAny, count_close]
    simp only [Option.some.injEq, eq_comm (a := other)]

theorem open_twice (count : Nat) :
    (table.openMany 1).openMany count = table.openMany (1 + count) := by
  simp only [Descriptors.openMany, Nat.add_assoc, List.append_assoc, List.range'_append_1]

theorem receive_spec (word : Nat) (table : Descriptors) (turn : Pass) :
    Receives word table turn (receiveBrokerHandshake word table turn.arrival).1
      (receiveBrokerHandshake word table turn.arrival).2 := by
  obtain ⟨arrival, brokerExited⟩ := turn
  cases arrival with
  | nobody => exact ⟨rfl, (List.append_nil _).symm, fun fd => rfl, nofun⟩
  | tooLate =>
    refine ⟨rfl, rfl, ?_, nofun⟩
    intro fd
    rw [receiveBrokerHandshake, count_close]
    simp only [Descriptors.openMany, accepted, passed, true_and, Nat.lt_irrefl, false_and, and_false, ↓reduceIte,
      Nat.add_zero]
  | connected connection =>
    cases credentials : connection.credentials with
    | none =>
      simp only [receiveBrokerHandshake, receiveConnectedBrokerHandshake, credentials]
      refine ⟨?_, ?_, ?_, nofun⟩
      · simp only [accepted, passed, credentials, Option.isSome_none, Bool.false_eq_true, false_and, ↓reduceIte]
        rfl
      · simp only [accepted, passed, credentials, Option.isSome_none, Bool.false_eq_true, false_and, ↓reduceIte]
        rfl
      · intro fd
        rw [count_close]
        simp only [Descriptors.openMany, accepted, passed, credentials, Option.isSome_none, Bool.false_eq_true, false_and,
          ↓reduceIte, true_and, Nat.lt_irrefl, and_false, Nat.add_zero]
    | some peer =>
      cases timeout : connection.timeoutSet with
      | false =>
        simp only [receiveBrokerHandshake, receiveConnectedBrokerHandshake, credentials, timeout, ↓reduceIte]
        refine ⟨?_, ?_, ?_, nofun⟩
        · simp only [accepted, passed, timeout, Bool.false_eq_true, and_false, ↓reduceIte]
          rfl
        · simp only [accepted, passed, timeout, Bool.false_eq_true, and_false, ↓reduceIte]
          rfl
        · intro fd
          rw [count_close]
          simp only [Descriptors.openMany, accepted, passed, timeout, Bool.false_eq_true, and_false, false_and,
            ↓reduceIte, true_and, Nat.lt_irrefl, Nat.add_zero]
      | true =>
        have count : passed word ⟨.connected connection, brokerExited⟩ = installed word connection := by
          simp only [passed, credentials, timeout, Option.isSome_some, and_self, ↓reduceIte]
        simp only [receiveBrokerHandshake, receiveConnectedBrokerHandshake, credentials, timeout, Bool.true_eq_false,
          ↓reduceIte, open_twice]
        split
        · -- An incomplete message: its first descriptor is closed here.
          refine ⟨?_, ?_, ?_, nofun⟩
          · rw [(close_any_same _ _).1, count]
            rfl
          · rw [(close_any_same _ _).2, count]
            rfl
          · intro fd
            rw [count_close_any, count_close, count]
            by_cases none_ : installed word connection = 0
            · simp only [none_, ↓reduceIte, reduceCtorEq, Nat.lt_irrefl, false_and, and_false, accepted, true_and,
                Descriptors.openMany]
            · have some_ : 0 < installed word connection := Nat.pos_of_ne_zero none_
              simp only [none_, ↓reduceIte, some_, true_and, accepted, Descriptors.openMany, Option.some.injEq,
                eq_comm (a := table.next + 1)]
        · next complete =>
            rw [not_or, not_or, not_not, Bool.not_eq_true, Bool.not_eq_true] at complete
            refine ⟨?_, ?_, ?_, ?_⟩
            · rw [count]
              rfl
            · rw [count]
              rfl
            · intro fd
              rw [count_close]
              simp only [reduceCtorEq, false_and, ↓reduceIte, Nat.add_zero, accepted, true_and, Descriptors.openMany]
            · intro handshake same
              cases same
              refine ⟨rfl, connection, rfl, complete.1, complete.2.1, complete.2.2, credentials, rfl, rfl, ?_⟩
              rw [count]
              rfl

structure PassSpec (request : Request) (before after : Client) (turn : Pass) (kept : Bool) : Prop where
  next : after.table.next = before.table.next + (accepted turn + passed request.word turn)
  opened : after.table.opened = before.table.opened ++ List.range' before.table.next (accepted turn + passed request.word turn)
  closed : ∀ fd, after.table.closed.count fd = before.table.closed.count fd +
    (if accepted turn = 1 ∧ fd = before.table.next then 1 else 0) +
      (if kept = false ∧ 0 < passed request.word turn ∧ fd = before.table.next + 1 then 1 else 0)
  rawFd : after.rawFd = if kept then some (before.table.next + 1) else before.rawFd
  handshakeOk : after.handshakeOk = if kept then true else before.handshakeOk
  returns : kept = true → after.finished = true ∧ accepted turn = 1 ∧ 0 < passed request.word turn ∧ ∃ connection,
    Genuine request before.peerPhase turn connection ∧ connection.handshake.status = kStatusOk
  phase : after.peerPhase = before.peerPhase ∨ after.peerPhase = .escalated ∧ before.peerPhase = .direct ∧ ∃ connection,
    Genuine request .direct turn connection ∧ connection.handshake.status = kStatusError ∧
      connection.handshake.errorNumber = kEperm

theorem pass_spec (client : Client) (turn : Pass) : ∃ kept, PassSpec request client (pass request client turn) turn kept := by
  have spec := receive_spec request.word client.table turn
  unfold pass
  cases received : (receiveBrokerHandshake request.word client.table turn.arrival).1 with
  | none =>
    obtain ⟨started, step⟩ := observe_same
      { client with table := (receiveBrokerHandshake request.word client.table turn.arrival).2 } turn.brokerExited
    refine ⟨false, ?_⟩
    simp only [received, step]
    refine ⟨spec.next, spec.opened, ?_, rfl, rfl, nofun, .inl rfl⟩
    intro fd
    rw [spec.closed fd, received]
    simp only [true_and]
  | some handshake =>
    obtain ⟨one, connection, arrived, size, untruncated, whole, credentials, executable, content, first⟩ :=
      spec.whole handshake received
    simp only [received]
    have genuine : ∀ phase, handshake.handshake.nonce = request.nonce ∧
        isAuthorizedBrokerPeer handshake.peer handshake.executable phase request = true →
        Genuine request phase turn connection := by
      rintro phase ⟨nonce, authorised⟩
      exact ⟨arrived, ⟨size, untruncated, whole⟩, content ▸ nonce, handshake.peer, credentials, executable ▸ authorised⟩
    rcases answer_cases request { client with table := (receiveBrokerHandshake request.word client.table turn.arrival).2 }
        handshake turn.brokerExited with ⟨table, rawFd, ok, phase⟩ | ⟨table, rawFd, present, ok, finished, phase, real, status⟩
    · refine ⟨false, ?_, ?_, ?_, rawFd, ok, nofun, ?_⟩
      · rw [table, (close_any_same _ _).1, spec.next]
      · rw [table, (close_any_same _ _).2, spec.opened]
      · intro fd
        rw [table, count_close_any, spec.closed fd, received, first]
        simp only [reduceCtorEq, false_and, ↓reduceIte, Nat.add_zero, true_and]
        by_cases none_ : passed request.word turn = 0
        · simp only [none_, ↓reduceIte, reduceCtorEq, Nat.lt_irrefl, false_and]
        · have some_ : 0 < passed request.word turn := Nat.pos_of_ne_zero none_
          simp only [none_, ↓reduceIte, some_, true_and, Option.some.injEq, eq_comm (a := client.table.next + 1)]
      · rcases phase with same | ⟨escalated, direct, real, status, number⟩
        · exact .inl same
        · have direct : client.peerPhase = .direct := direct
          rw [direct] at real
          exact .inr ⟨escalated, direct, connection, genuine .direct real, content ▸ status, content ▸ number⟩
    · have some_ : passed request.word turn ≠ 0 := by
        intro none_
        rw [first, if_pos none_] at present
        cases present
      refine ⟨true, ?_, ?_, ?_, ?_, ok, ?_, .inl phase⟩
      · rw [table, spec.next]
      · rw [table, spec.opened]
      · intro fd
        rw [table, spec.closed fd, received]
        simp only [reduceCtorEq, false_and, Bool.true_eq_false, ↓reduceIte]
      · rw [rawFd, first, if_neg some_]
        rfl
      · intro _
        exact ⟨finished, one, Nat.pos_of_ne_zero some_, connection, genuine _ real, content ▸ status⟩

theorem passed_connected (word : Nat) (turn : Pass) : accepted turn ≤ 1 ∧ (0 < passed word turn → accepted turn = 1) := by
  unfold accepted passed
  cases turn.arrival with
  | nobody => exact ⟨Nat.zero_le 1, nofun⟩
  | tooLate => exact ⟨Nat.le_refl 1, fun _ => rfl⟩
  | connected connection => exact ⟨Nat.le_refl 1, fun _ => rfl⟩

variable (passes : List Pass)

theorem run_append (turn : Pass) : run request (passes ++ [turn]) = loop request (run request passes) turn := by
  simp only [run, List.foldl_append, List.foldl_cons, List.foldl_nil]

structure RunInv (client : Client) : Prop where
  opened : client.table.opened = List.range client.table.next
  fresh : ∀ fd, client.table.next ≤ fd → client.table.closed.count fd = 0
  listens : 0 < client.table.next ∧ client.table.closed.count listenFd = 0
  returns : ∀ fd, client.rawFd = some fd →
    client.finished = true ∧ client.table.closed.count fd = 0 ∧ 0 < fd ∧ fd < client.table.next
  ok : client.handshakeOk = client.rawFd.isSome

theorem start_inv : RunInv (start request) :=
  ⟨rfl, fun _ _ => rfl, ⟨Nat.one_pos, rfl⟩, nofun, rfl⟩

theorem pass_inv (client : Client) (turn : Pass) (inv : RunInv client)
    (running : client.finished = false) : RunInv (pass request client turn) := by
  obtain ⟨kept, spec⟩ := pass_spec request client turn
  have none_ : client.rawFd = none := by
    cases raw : client.rawFd with
    | none => rfl
    | some fd =>
      rw [(inv.returns fd raw).1] at running
      cases running
  refine ⟨?_, ?_, ?_, ?_, ?_⟩
  · have joined := @List.range'_append_1 0 client.table.next (accepted turn + passed request.word turn)
    rw [Nat.zero_add] at joined
    rw [spec.opened, spec.next, inv.opened, List.range_eq_range', List.range_eq_range', joined]
  · intro fd beyond
    rw [spec.next] at beyond
    have connected := passed_connected request.word turn
    rw [spec.closed fd, inv.fresh fd (by omega), if_neg (by omega), if_neg (by omega)]
  · obtain ⟨positive, listening⟩ := inv.listens
    refine ⟨by rw [spec.next]; omega, ?_⟩
    unfold listenFd at *
    rw [spec.closed 0, listening, if_neg (by omega), if_neg (by omega)]
  · intro fd raw
    rw [spec.rawFd] at raw
    cases kept with
    | false =>
      rw [none_] at raw
      cases raw
    | true =>
      cases raw
      obtain ⟨finished, one, some_, -⟩ := spec.returns rfl
      refine ⟨finished, ?_, Nat.succ_pos _, by rw [spec.next]; omega⟩
      rw [spec.closed, inv.fresh _ (by omega), if_neg (by omega), if_neg (by simp)]
  · rw [spec.handshakeOk, spec.rawFd]
    cases kept with
    | false => exact inv.ok
    | true => rfl

theorem run_inv : RunInv (run request passes) := by
  induction passes using List.reverseRecOn with
  | nil => exact start_inv request
  | append_singleton passes turn ih =>
    rw [run_append, loop]
    split
    · exact ih
    · next running => exact pass_inv request _ turn ih (Bool.not_eq_true _ ▸ running)

theorem handled_append (passes before : List Pass) (turn last : Pass)
    (handled : Handled request passes before turn) : Handled request (passes ++ [last]) before turn := by
  obtain ⟨⟨after, split⟩, running⟩ := handled
  exact ⟨⟨after ++ [last], by rw [split, List.append_assoc, List.cons_append]⟩, running⟩

theorem handled_last (turn : Pass) (running : (run request passes).finished = false) :
    Handled request (passes ++ [turn]) passes turn :=
  ⟨⟨[], rfl⟩, running⟩

theorem run_returned (fd : Nat) (raw : (run request passes).rawFd = some fd) :
    ∃ before turn connection, Handled request passes before turn ∧
      Genuine request (run request before).peerPhase turn connection ∧ connection.handshake.status = kStatusOk ∧
        fd = (run request before).table.next + 1 ∧ 0 < passed request.word turn := by
  induction passes using List.reverseRecOn with
  | nil => cases raw
  | append_singleton passes turn ih =>
    by_cases finished : (run request passes).finished = true
    · rw [run_append, loop, if_pos finished] at raw
      obtain ⟨before, earlier, connection, handled, facts⟩ := ih raw
      exact ⟨before, earlier, connection, handled_append request passes before earlier turn handled, facts⟩
    · rw [run_append, loop, if_neg finished] at raw
      rw [Bool.not_eq_true] at finished
      obtain ⟨kept, spec⟩ := pass_spec request (run request passes) turn
      cases kept with
      | false =>
        rw [spec.rawFd] at raw
        have ended := ((run_inv request passes).returns fd raw).1
        rw [finished] at ended
        cases ended
      | true =>
        rw [spec.rawFd] at raw
        cases raw
        obtain ⟨-, -, some_, connection, genuine, status⟩ := spec.returns rfl
        exact ⟨passes, turn, connection, handled_last request passes turn finished, genuine, status, rfl, some_⟩

theorem run_escalates (before : List Pass) (turn : Pass)
    (changes : (run request (before ++ [turn])).peerPhase ≠ (run request before).peerPhase) :
    (run request before).peerPhase = .direct ∧ ∃ connection, Genuine request .direct turn connection ∧
      connection.handshake.status = kStatusError ∧ connection.handshake.errorNumber = kEperm := by
  rw [run_append, loop] at changes
  split at changes
  · exact absurd rfl changes
  · obtain ⟨kept, spec⟩ := pass_spec request (run request before) turn
    rcases spec.phase with same | ⟨-, direct, genuine⟩
    · exact absurd same changes
    · exact ⟨direct, genuine⟩

theorem run_escalated (before after : List Pass)
    (escalated : (run request before).peerPhase = .escalated) : (run request (before ++ after)).peerPhase = .escalated := by
  induction after using List.reverseRecOn with
  | nil => rwa [List.append_nil]
  | append_singleton after turn ih =>
    rw [← List.append_assoc, run_append, loop]
    split
    · exact ih
    · obtain ⟨kept, spec⟩ := pass_spec request (run request (before ++ after)) turn
      rcases spec.phase with same | ⟨stays, -⟩
      · exact same.trans ih
      · exact stays

/-- With one descriptor to a message at most, all that was opened is closed, but for the listening socket, which the
cleanup closes, and for what is returned. -/
theorem run_clean (one : OneDescriptor request passes) :
    ∀ fd, 0 < fd → fd < (run request passes).table.next → (run request passes).rawFd ≠ some fd →
      (run request passes).table.closed.count fd = 1 := by
  induction passes using List.reverseRecOn with
  | nil =>
    intro fd positive below
    exact absurd below (Nat.not_lt.mpr positive)
  | append_singleton passes turn ih =>
    have clean := ih fun before earlier handled => one before earlier (handled_append request passes before earlier turn handled)
    have inv := run_inv request passes
    intro fd positive below notRaw
    rw [run_append, loop] at below notRaw ⊢
    split at below
    · next finished =>
        rw [if_pos finished] at notRaw ⊢
        exact clean fd positive below notRaw
    · next running =>
        rw [if_neg running] at notRaw ⊢
        rw [Bool.not_eq_true] at running
        have few := one passes turn (handled_last request passes turn running)
        have connected := passed_connected request.word turn
        obtain ⟨kept, spec⟩ := pass_spec request (run request passes) turn
        rw [spec.next] at below
        rw [spec.rawFd] at notRaw
        rw [spec.closed fd]
        by_cases old : fd < (run request passes).table.next
        · rw [if_neg (by omega), if_neg (by omega)]
          refine clean fd positive old ?_
          intro raw
          have ended := (inv.returns fd raw).1
          rw [running] at ended
          cases ended
        · rw [inv.fresh fd (by omega)]
          by_cases connection : fd = (run request passes).table.next
          · rw [if_pos ⟨by omega, connection⟩, if_neg (by omega)]
          · have first : fd = (run request passes).table.next + 1 := by omega
            have dropped : kept = false := by
              cases kept with
              | false => rfl
              | true => exact absurd (congrArg some first.symm) notRaw
            rw [if_neg (by omega), if_pos ⟨dropped, by omega, first⟩]

theorem run_leaks (before after : List Pass) (turn : Pass)
    (running : (run request before).finished = false) (two : 2 ≤ passed request.word turn) :
    let client := run request (before ++ turn :: after)
    (run request before).table.next + 2 < client.table.next ∧
      client.table.closed.count ((run request before).table.next + 2) = 0 ∧
        client.rawFd ≠ some ((run request before).table.next + 2) := by
  have one : accepted turn = 1 := (passed_connected request.word turn).2 (by omega)
  have inv := run_inv request before
  induction after using List.reverseRecOn with
  | nil =>
    intro client
    obtain ⟨kept, spec⟩ := pass_spec request (run request before) turn
    have same : client = pass request (run request before) turn := by
      simp only [client]
      rw [run_append, loop, if_neg (by rw [running]; nofun)]
    rw [same]
    refine ⟨by rw [spec.next]; omega, ?_, ?_⟩
    · rw [spec.closed, inv.fresh _ (by omega), if_neg (by omega), if_neg (by omega)]
    · rw [spec.rawFd]
      intro raw
      cases kept with
      | true =>
        have wrong := Option.some.inj raw
        omega
      | false =>
        have beyond := (inv.returns _ raw).2.2.2
        omega
  | append_singleton after last ih =>
    intro client
    obtain ⟨below, open_, notRaw⟩ := ih
    have same : client = loop request (run request (before ++ turn :: after)) last := by
      simp only [client]
      rw [← List.cons_append, ← List.append_assoc, run_append]
    rw [same, loop]
    split
    · exact ⟨below, open_, notRaw⟩
    · obtain ⟨kept, spec⟩ := pass_spec request (run request (before ++ turn :: after)) last
      refine ⟨by rw [spec.next]; omega, ?_, ?_⟩
      · rw [spec.closed, open_, if_neg (by omega), if_neg (by omega)]
      · rw [spec.rawFd]
        cases kept with
        | true =>
          intro raw
          have wrong := Option.some.inj raw
          omega
        | false => exact notRaw

theorem returned_raw : (requestFd request passes).1 = (run request passes).rawFd := by
  have ok := (run_inv request passes).ok
  unfold requestFd
  simp only [ok]
  cases (run request passes).rawFd <;> rfl

theorem run_authorised : Authorised request passes where
  returned fd raw := run_returned request passes fd (returned_raw request passes ▸ raw)
  escalates before turn _ _ changes := run_escalates request before turn changes
  once before after split escalated := split ▸ run_escalated request before after escalated

theorem second_open (before : List Pass) (turn : Pass) (handled : Handled request passes before turn)
    (two : 2 ≤ passed request.word turn) :
    ∃ fd ∈ (requestFd request passes).2.opened,
      (requestFd request passes).2.closed.count fd = 0 ∧ (requestFd request passes).1 ≠ some fd := by
  obtain ⟨⟨after, split⟩, running⟩ := handled
  obtain ⟨below, open_, notRaw⟩ := run_leaks request before after turn running two
  rw [← split] at below open_ notRaw
  have opened : (run request before).table.next + 2 ∈ (run request passes).table.opened := by
    rw [(run_inv request passes).opened]
    exact List.mem_range.mpr below
  refine ⟨(run request before).table.next + 2, opened, ?_, by rwa [returned_raw]⟩
  have counted := count_close (run request passes).table listenFd ((run request before).table.next + 2)
  rw [open_, if_neg (by unfold listenFd; omega)] at counted
  rw [requestFd, counted]

theorem all_closed (one : OneDescriptor request passes) (fd : Nat) (opened : fd ∈ (requestFd request passes).2.opened) :
    (requestFd request passes).2.closed.count fd = if (requestFd request passes).1 = some fd then 0 else 1 := by
  have inv := run_inv request passes
  have listed : fd ∈ (run request passes).table.opened := opened
  rw [inv.opened, List.mem_range] at listed
  rw [returned_raw]
  simp only [requestFd, count_close]
  by_cases listens : fd = listenFd
  · rw [listens, inv.listens.2, if_pos rfl, if_neg]
    intro raw
    exact Nat.lt_irrefl 0 (inv.returns listenFd raw).2.2.1
  · rw [if_neg listens]
    have positive : 0 < fd := Nat.pos_of_ne_zero listens
    by_cases raw : (run request passes).rawFd = some fd
    · rw [if_pos raw, (inv.returns fd raw).2.1]
    · rw [if_neg raw, run_clean request passes one fd positive listed raw]

/-- The handshake keeps its law exactly when no message that is received brings a second descriptor; what is returned and
how the phase changes is right in any case. -/
theorem handshake_law_iff (request : Request) (passes : List Pass) :
    (HandshakeLaw request passes ↔ OneDescriptor request passes) ∧ Authorised request passes := by
  refine ⟨⟨?_, ?_⟩, run_authorised request passes⟩
  · intro law before turn handled
    by_contra many
    obtain ⟨fd, opened, never, notReturned⟩ := second_open request passes before turn handled (by omega)
    have closed := law.closed fd opened
    rw [never, if_neg notReturned] at closed
    cases closed
  · intro one
    exact ⟨run_authorised request passes, all_closed request passes one⟩

def paddedRequest : Request := ⟨8, Vector.replicate 32 7, 100, 1000, (1, 2)⟩

def twoDescriptors : Pass :=
  ⟨.connected ⟨some ⟨55, 1000⟩, true, kHandshakeSize, false, ⟨kStatusOk, 0, 0, Vector.replicate 32 0, Vector.replicate 192 0⟩, 2,
    none⟩, false⟩

theorem handshake_law_broken : ¬ ∀ request passes, HandshakeLaw request passes := by
  intro law
  have opened : 3 ∈ (requestFd paddedRequest [twoDescriptors]).2.opened := by decide +kernel
  have closed := (law paddedRequest [twoDescriptors]).closed 3 opened
  have open_ : (requestFd paddedRequest [twoDescriptors]).2.closed.count 3 = 0 := by decide +kernel
  have refused : (requestFd paddedRequest [twoDescriptors]).1 = none := by decide +kernel
  rw [open_, refused] at closed
  cases closed

end EncosDriver.Broker
