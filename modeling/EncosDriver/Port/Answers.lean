import EncosDriver.Port.Ordering

set_option autoImplicit false

namespace EncosDriver.Port

open Lib HazardCells PortState

variable {size : Nat} {Word : Type}

def Returned.tells (unread : Bool) : Returned Word → Bool
  | .isEmpty answer => unread || !answer
  | .head _ => unread
  | _ => false

def toldUnread (returned : List (Returned Word)) : Bool := returned.foldl Returned.tells false

theorem told_unread_append (returned : List (Returned Word)) (value : Returned Word) :
    toldUnread (returned ++ [value]) = Returned.tells (toldUnread returned) value := by
  rw [toldUnread, List.foldl_append]
  rfl

-- A slot in which the consumer reads holds its target or a newer message, so
-- that a failed read is always tried again. After Empty has told of an unread
-- message the consumer's position is not above any head it reads.
structure AnswerInv (len : Nat) (state : PortState size Word) : Prop where
  retained : ∀ cell, state.consumer.slotCell = some cell →
    state.consumerSequence ≤ ((state.slots (state.consumerIndex len)).metadata cell).sequence
  retries : ∀ cell resync, state.consumer ≠ .clearHazard cell (.missing false resync)
  unread : toldUnread state.returned = true → state.consumerSequence ≤ state.producerSequence
  heads : toldUnread state.returned = true → ∀ cell, state.consumer.headCell = some cell →
    state.consumerSequence ≤ (state.head.metadata cell).sequence
  read : toldUnread state.returned = true → ∀ call cell head, state.consumer = .releaseHead call cell (some head) →
    state.consumerSequence ≤ head
  nothing : ∀ earlier later, state.returned = earlier ++ .nothing :: later → toldUnread earlier = false

theorem initial_answer_inv (len : Nat) (state : PortState size Word) (initial : InitialPort state) : AnswerInv len state := by
  have idle := initial.consumer
  have none := initial.returned
  refine ⟨?_, ?_, ?_, ?_, ?_, ?_⟩
  · intro cell guarded
    rw [idle] at guarded
    cases guarded
  · intro cell resync other
    rw [idle] at other
    cases other
  · intro told
    rw [none] at told
    cases told
  · intro told
    rw [none] at told
    cases told
  · intro told
    rw [none] at told
    cases told
  · intro earlier later same
    rw [none] at same
    exact absurd (congrArg List.length same) (by simp)

theorem AnswerInv.transfer {len : Nat} {state next : PortState size Word} (inv : AnswerInv len state)
    (consumerSequence : next.consumerSequence = state.consumerSequence) (returned : next.returned = state.returned)
    (producerSequence : state.producerSequence ≤ next.producerSequence)
    (retained : ∀ cell, next.consumer.slotCell = some cell →
      state.consumerSequence ≤ ((next.slots (state.consumerIndex len)).metadata cell).sequence)
    (retries : ∀ cell resync, next.consumer ≠ .clearHazard cell (.missing false resync))
    (heads : toldUnread state.returned = true → ∀ cell, next.consumer.headCell = some cell →
      state.consumerSequence ≤ (next.head.metadata cell).sequence)
    (read : toldUnread state.returned = true → ∀ call cell head, next.consumer = .releaseHead call cell (some head) →
      state.consumerSequence ≤ head) : AnswerInv len next := by
  have index : next.consumerIndex len = state.consumerIndex len := by rw [consumerIndex, consumerSequence]
  refine ⟨?_, retries, ?_, ?_, ?_, ?_⟩
  · rw [index, consumerSequence]
    exact retained
  · rw [returned, consumerSequence]
    exact fun told => Nat.le_trans (inv.unread told) producerSequence
  · rw [returned, consumerSequence]
    exact heads
  · rw [returned, consumerSequence]
    exact read
  · rw [returned]
    exact inv.nothing

variable (len : Nat) (state next : PortState size Word)

theorem push_answer (message : Message size Word)
    (inv : AnswerInv len state) (taken : portStep len state (.push message) = some next) : AnswerInv len next := by
  cases port_steps taken with
  | push =>
    exact inv.transfer rfl rfl (Nat.le_refl _) inv.retained inv.retries inv.heads inv.read

theorem producer_step_answer (order : OrderInv len state)
    (few : state.pushes.length < word64) (inv : AnswerInv len state) (taken : producerStep len state = some next) :
    AnswerInv len next := by
  have moved := producer_step_moves len state next order.port.hazard taken
  have frame := producer_step_frame len state next taken
  refine inv.transfer moved.consumerSequence moved.returned
    (producer_sequence_grows len state next order.publish few taken) ?_ ?_ ?_ ?_
  · intro cell guarded
    rw [moved.consumer] at guarded
    rw [frame.metadata _ cell (validated_not_written len state order.port.hazard cell guarded)]
    exact inv.retained cell guarded
  · rw [moved.consumer]
    exact inv.retries
  · intro told cell guarded
    rw [moved.consumer] at guarded
    rw [frame.head cell (order.port.hazard.headSafe.validatedIdle cell guarded)]
    exact inv.heads told cell guarded
  · rw [moved.consumer]
    exact inv.read

theorem call_answer (call : ConsumerCall) (inv : AnswerInv len state)
    (taken : portStep len state (.call call) = some next) : AnswerInv len next := by
  obtain ⟨_, same, _⟩ := call_moved len state next call taken
  subst same
  refine inv.transfer rfl rfl (Nat.le_refl _) ?_ ?_ ?_ ?_
  · intro cell guarded
    cases guarded
  · intro cell resync other
    cases other
  · intro _ cell guarded
    cases guarded
  · intro _ call cell head other
    cases other

theorem moved_validated (cells next : HazardCells) (moves : Moves cells next) (cell : Nat)
    (validated : next.validated = some cell) : cells.validated = some cell ∨ cells.active = cell := by
  cases moves with
  | stay => exact .inl validated
  | beginWrite => exact .inl validated
  | publish _ _ => exact .inl validated
  | announce _ _ => exact .inl validated
  | validate other _ _ active =>
    cases validated
    exact .inr active
  | clear => cases validated

theorem judged_older (target cell resync : Nat) (snapshot : Option Nat) (stored : Nat)
    (judged : judgeSnapshot target cell snapshot stored = some (.missing false resync : TargetResult Word)) :
    ∃ sequence, snapshot = some sequence ∧ sequence < target := by
  cases snapshot with
  | none => cases judged
  | some sequence =>
    simp only [judgeSnapshot] at judged
    split at judged
    · cases judged
    · split at judged
      · next different =>
        simp only [Option.some.injEq, TargetResult.missing.injEq, decide_eq_false_iff_not] at judged
        exact ⟨sequence, rfl, by omega⟩
      · cases judged

theorem placed_reading (placed : Placed state) (cell : Nat)
    (guarded : state.consumer.slotCell = some cell) : state.consumerSequence ≤ state.producerSequence := by
  unfold Placed at placed
  cases pc : state.consumer with
  | clearHazard other result =>
    rw [pc] at placed
    cases result with
    | found words => exact placed
    | missing retry resync => exact placed.1
  | readVersion other => rw [pc] at placed; exact placed
  | readLow other before => rw [pc] at placed; exact placed
  | readHigh other before low => rw [pc] at placed; exact placed
  | readCell other before low high => rw [pc] at placed; exact placed
  | readVersionAgain other before low high stored => rw [pc] at placed; exact placed
  | copyMessage other words => rw [pc] at placed; exact placed
  | _ =>
    rw [pc] at guarded
    cases guarded

structure Learns (len : Nat) (state next : PortState size Word) : Prop where
  head : ∀ call cell head, next.consumer = .releaseHead call cell (some head) →
    ∃ before low high, state.consumer = .readHeadVersionAgain call cell before low high ∧
      readSequence before low high (state.head.metadata cell).version = some head
  slot : ∀ cell retry resync, next.consumer = .clearHazard cell (.missing retry resync) →
    ∃ before low high stored, state.consumer = .readVersionAgain cell before low high stored ∧
      (judgeSnapshot state.consumerSequence cell
        (readSequence before low high ((state.slots (state.consumerIndex len)).metadata cell).version) stored :
          Option (TargetResult Word)) = some (.missing retry resync)

theorem learns_nothing (head : ∀ call cell head, next.consumer ≠ .releaseHead call cell (some head))
    (slot : ∀ cell retry resync, next.consumer ≠ .clearHazard cell (.missing retry resync)) : Learns len state next :=
  ⟨fun call cell value same => absurd same (head call cell value),
    fun cell retry resync same => absurd same (slot cell retry resync)⟩

theorem consumer_step_learns
    (taken : consumerStep len state = some next) (quiet : ¬ Concludes len state next) : Learns len state next := by
  cases pc : state.consumer with
  | idle => simp [consumerStep, pc] at taken
  | recheckHead call cell =>
    by_cases active : state.head.publishedActive = cell <;>
      simp only [consumerStep, pc, active, ne_eq, not_true_eq_false, not_false_eq_true, ↓reduceIte,
        Option.some.injEq] at taken <;>
      subst taken <;>
      exact learns_nothing len state _ (fun _ _ _ same => by cases same) (fun _ _ _ same => by cases same)
  | recheck cell =>
    by_cases active : (state.slots (state.consumerIndex len)).publishedActive = cell <;>
      simp only [consumerStep, pc, active, ne_eq, not_true_eq_false, not_false_eq_true, ↓reduceIte,
        Option.some.injEq] at taken <;>
      subst taken <;>
      exact learns_nothing len state _ (fun _ _ _ same => by cases same) (fun _ _ _ same => by cases same)
  | releaseHead call cell snapshot =>
    cases snapshot with
    | none =>
      simp only [consumerStep, pc] at taken
      cases taken
      exact learns_nothing len state _ (fun _ _ _ same => by cases same) (fun _ _ _ same => by cases same)
    | some head =>
      simp only [consumerStep, pc, Option.some.injEq] at taken
      exact absurd (.head call cell head pc taken.symm) quiet
  | abandonHazard =>
    simp only [consumerStep, pc, Option.some.injEq] at taken
    exact absurd (.abandon pc taken.symm) quiet
  | clearHazard cell result =>
    simp only [consumerStep, pc, Option.some.injEq] at taken
    exact absurd (.target cell result pc taken.symm) quiet
  | copyMessage cell words =>
    by_cases inside : words.length < size <;>
      simp only [consumerStep, pc, inside, ↓reduceDIte, Option.some.injEq] at taken <;>
      subst taken <;>
      exact learns_nothing len state _ (fun _ _ _ same => by cases same) (fun _ _ _ same => by cases same)
  | readHeadVersionAgain call cell before low high =>
    simp only [consumerStep, pc] at taken
    cases taken
    refine ⟨?_, (fun _ _ _ same => by cases same)⟩
    intro called other head same
    simp only [ConsumerPc.releaseHead.injEq] at same
    obtain ⟨rfl, rfl, snapshot⟩ := same
    exact ⟨before, low, high, pc, snapshot⟩
  | readVersionAgain cell before low high stored =>
    cases judged : (judgeSnapshot state.consumerSequence cell
        (readSequence before low high ((state.slots (state.consumerIndex len)).metadata cell).version) stored :
          Option (TargetResult Word)) with
    | none =>
      simp only [consumerStep, pc, judged] at taken
      cases taken
      exact learns_nothing len state _ (fun _ _ _ same => by cases same) (fun _ _ _ same => by cases same)
    | some result =>
      simp only [consumerStep, pc, judged] at taken
      cases taken
      refine ⟨(fun _ _ _ same => by cases same), ?_⟩
      intro other retry resync same
      simp only [ConsumerPc.clearHazard.injEq] at same
      obtain ⟨rfl, rfl⟩ := same
      exact ⟨before, low, high, stored, pc, judged⟩
  | _ =>
    simp only [consumerStep, pc] at taken
    cases taken
    exact learns_nothing len state _ (fun _ _ _ same => by cases same) (fun _ _ _ same => by cases same)

theorem consumer_step_retries (inv : PortInv len state)
    (answer : AnswerInv len state) (learns : Learns len state next) (cell resync : Nat) :
    next.consumer ≠ .clearHazard cell (.missing false resync) := by
  intro missing
  obtain ⟨before, low, high, stored, pc, judged⟩ := learns.slot cell false resync missing
  have held := inv.content.held
  have read : low + high * word32 = ((state.slots (state.consumerIndex len)).metadata cell).sequence := by
    simpa only [Held, pc] using held
  have newer := answer.retained cell (by rw [pc]; rfl)
  obtain ⟨sequence, snapshot, older⟩ := judged_older _ _ _ _ _ judged
  have same := read_sequence_some _ _ _ _ _ snapshot
  omega

theorem consumer_step_read_head (inv : PortInv len state) (learns : Learns len state next) (call : ConsumerCall) (cell head : Nat)
    (read : next.consumer = .releaseHead call cell (some head)) :
    state.consumer.headCell = some cell ∧ (state.head.metadata cell).sequence = head := by
  obtain ⟨before, low, high, pc, snapshot⟩ := learns.head call cell head read
  have held := inv.content.held
  have same : low + high * word32 = (state.head.metadata cell).sequence := by
    simpa only [Held, pc] using held
  exact ⟨by rw [pc]; rfl, same.symm.trans (read_sequence_some _ _ _ _ _ snapshot)⟩

theorem quiet_answer (order : OrderInv len state)
    (answer : AnswerInv len state) (placed : Placed next) (taken : consumerStep len state = some next)
    (quiet : ¬ Concludes len state next) : AnswerInv len next := by
  obtain ⟨sequence, returned⟩ := (consumer_step_cases len state next taken).resolve_right quiet
  have moved := consumer_step_moves len state next order.port.hazard taken
  have learns := consumer_step_learns len state next taken quiet
  have index : next.consumerIndex len = state.consumerIndex len := by rw [consumerIndex, sequence]
  have published := published_bounds len state order.publish
  refine answer.transfer sequence returned (Nat.le_of_eq moved.producerSequence.symm) ?_
    (consumer_step_retries len state next order.port answer learns) ?_ ?_
  · intro cell guarded
    obtain ⟨hazard, data⟩ := moved.slotData (state.consumerIndex len)
    have validated : (slotCells len next (state.consumerIndex len)).validated = some cell := by
      simp only [slotCells, validatedCell, index, ↓reduceIte]
      exact guarded
    rw [data]
    rcases moved_validated _ _ (moved.slots _) cell validated with before | active
    · simp only [slotCells, validatedCell, ↓reduceIte] at before
      exact answer.retained cell before
    · have below := placed_reading next placed cell guarded
      rw [sequence, moved.producerSequence] at below
      have shown := order.publish.slots state.consumerSequence order.position.started (Nat.le_trans below published.1)
      rw [Slot.activeSequence] at shown
      exact active ▸ shown
  · intro told cell guarded
    obtain ⟨hazard, data⟩ := moved.headData
    rw [data]
    rcases moved_validated _ _ moved.head cell guarded with before | active
    · exact answer.heads told cell before
    · have announced := order.publish.head
      rw [PortHeadPublication.activeSequence] at announced
      have below := answer.unread told
      rw [← announced] at below
      exact active ▸ below
  · intro told call cell head read
    obtain ⟨guarded, same⟩ := consumer_step_read_head len state next order.port learns call cell head read
    exact same ▸ answer.heads told cell guarded

theorem settled_answer (slot : state.consumer.slotCell = none) (head : state.consumer.headCell = none)
    (unread : toldUnread state.returned = true → state.consumerSequence ≤ state.producerSequence)
    (nothing : ∀ earlier later, state.returned = earlier ++ .nothing :: later → toldUnread earlier = false) :
    AnswerInv len state := by
  refine ⟨?_, ?_, unread, ?_, ?_, nothing⟩
  · intro cell guarded
    rw [slot] at guarded
    cases guarded
  · intro cell resync missing
    rw [missing] at slot
    cases slot
  · intro _ cell guarded
    rw [head] at guarded
    cases guarded
  · intro _ call cell value read
    rw [read] at head
    cases head

theorem nothing_append (earlier : List (Returned Word)) (latest : Returned Word)
    (before : ∀ front later, earlier = front ++ .nothing :: later → toldUnread front = false)
    (sincere : latest = .nothing → toldUnread earlier = false) (front later : List (Returned Word))
    (same : earlier ++ [latest] = front ++ .nothing :: later) : toldUnread front = false := by
  rcases List.eq_nil_or_concat later with none | ⟨rest, last, some⟩
  · rw [none] at same
    obtain ⟨here, value⟩ := List.append_inj' same rfl
    rw [← here]
    exact sincere (List.cons.inj value).1
  · rw [some, List.concat_eq_append, ← List.cons_append, ← List.append_assoc] at same
    exact before front rest (List.append_inj' same rfl).1

theorem after_head_answer (call : ConsumerCall) (head : Nat) (positive : 0 < len)
    (announced : head ≤ state.producerSequence) (started : 1 ≤ state.consumerSequence)
    (read : toldUnread state.returned = true → state.consumerSequence ≤ head)
    (nothing : ∀ earlier later, state.returned = earlier ++ .nothing :: later → toldUnread earlier = false) :
    AnswerInv len (afterHead len state call head) := by
  have told : toldUnread (state.returned ++ [.head head]) = toldUnread state.returned := told_unread_append _ _
  have quiet := nothing_append state.returned (.head head) nothing (fun other => by cases other)
  cases call with
  | pop =>
    by_cases empty : head < state.consumerSequence
    · have after : afterHead len state .pop head =
          { (state.answer (.head head)).answer .nothing with consumer := .idle } := if_pos empty
      rw [after]
      refine settled_answer len _ rfl rfl ?_ ?_
      · intro claimed
        rw [show toldUnread _ = false from told_unread_append _ _] at claimed
        cases claimed
      · refine nothing_append _ .nothing quiet ?_
        intro _
        refine told.trans (Bool.eq_false_iff.mpr ?_)
        intro claimed
        exact absurd (read claimed) (Nat.not_le_of_lt empty)
    · rw [after_head_reads len state head empty]
      have rebased := oldest_head_bound len head positive (by omega)
      have inside :
          (if state.consumerSequence < oldest len head then oldest len head else state.consumerSequence) ≤
            state.producerSequence := by
        split <;> omega
      exact settled_answer len _ rfl rfl (fun _ => inside) quiet
  | empty =>
    refine settled_answer len _ rfl rfl ?_ ?_
    · intro claimed
      have either : (toldUnread (state.returned ++ [.head head]) || !decide (head < state.consumerSequence)) = true :=
        (told_unread_append _ _).symm.trans claimed
      rw [told, Bool.or_eq_true, Bool.not_eq_true', decide_eq_false_iff_not, Nat.not_lt] at either
      exact Nat.le_trans (either.elim read id) announced
    · exact nothing_append _ _ quiet (fun other => by cases other)
  | clear =>
    refine settled_answer len _ rfl rfl ?_ ?_
    · intro claimed
      rw [show toldUnread _ = false from told_unread_append _ _] at claimed
      cases claimed
    · exact nothing_append _ _ quiet (fun other => by cases other)

theorem after_target_answer (result : TargetResult Word) (capacity : 1 < len)
    (reading : state.consumerSequence ≤ state.producerSequence) (started : 1 ≤ state.consumerSequence)
    (published : ∀ resync, result = .missing true resync → resync ≤ state.producerSequence + 1)
    (retries : ∀ resync, result ≠ .missing false resync)
    (nothing : ∀ earlier later, state.returned = earlier ++ .nothing :: later → toldUnread earlier = false) :
    AnswerInv len (afterTarget len state result) := by
  cases result with
  | found words =>
    refine settled_answer len _ rfl rfl ?_ (nothing_append _ _ nothing (fun other => by cases other))
    intro claimed
    rw [show toldUnread _ = false from told_unread_append _ _] at claimed
    cases claimed
  | missing retry resync =>
    cases retry with
    | false => exact absurd rfl (retries resync)
    | true =>
      have rebased := oldest_bound len resync state.producerSequence capacity (published resync rfl) (by omega)
      refine settled_answer len _ rfl rfl ?_ nothing
      intro _
      simp only [afterTarget]
      split <;> omega

theorem consumer_step_answer (capacity : 1 < len) (order : OrderInv len state)
    (answer : AnswerInv len state) (few : state.pushes.length < word64 - 1) (taken : consumerStep len state = some next) :
    AnswerInv len next := by
  have position := order.position
  have placed := position.placed
  have published := published_bounds len state order.publish
  by_cases concluded : Concludes len state next
  · cases concluded with
    | head call cell head pc same =>
      rw [Placed, pc] at placed
      rw [same]
      exact after_head_answer len _ call head (Nat.lt_of_succ_lt capacity) placed.2 position.started
        (fun told => answer.read told call cell head pc) answer.nothing
    | abandon pc same =>
      rw [Placed, pc] at placed
      rw [same]
      refine after_target_answer len _ _ capacity placed position.started ?_ ?_ answer.nothing
      · intro resync missing
        cases missing
        exact Nat.le_succ_of_le placed
      · intro resync missing
        cases missing
    | target cell result pc same =>
      have reading := placed_reading state placed cell (by rw [pc]; rfl)
      rw [same]
      refine after_target_answer len _ _ capacity reading position.started ?_ ?_ answer.nothing
      · intro resync missing
        rw [Placed, pc, missing] at placed
        exact Nat.le_trans placed.2 published.2
      · intro resync missing
        exact answer.retries cell resync (by rw [pc, missing])
  · have small := few_numbers len state order.publish few
    have following := consumer_step_position len state next order.port order.publish position capacity small taken
    exact quiet_answer len state next order answer following.placed taken concluded

theorem reachable_answer_inv (capacity : 1 < len) (bounded : len < word64) (state : PortState size Word)
    (reached : Reachable (port len size Word) state) (few : state.pushes.length < word64 - 1) : AnswerInv len state := by
  revert few
  refine reachable_invariant_under (port len size Word) Always
    (fun state => PortInv len state ∧ (state.pushes.length < word64 - 1 → OrderInv len state))
    (fun state => state.pushes.length < word64 - 1 → AnswerInv len state) ?_ ?_ ?_ state reached
  · intro state reached
    exact ⟨reachable_port_inv len (Nat.lt_of_succ_lt capacity) bounded state reached,
      reachable_order_inv len capacity bounded state reached⟩
  · intro state initial _
    exact initial_answer_inv len state initial
  · intro state action next known _ before _ taken few
    have fewer : state.pushes.length < word64 - 1 :=
      Nat.lt_of_le_of_lt (pushes_grow len state next action known.1 taken) few
    have order := known.2 fewer
    have answer := before fewer
    cases action with
    | push message => exact push_answer len state next message answer taken
    | producer => exact producer_step_answer len state next order (by omega) answer taken
    | call call => exact call_answer len state next call answer taken
    | consumer => exact consumer_step_answer len state next capacity order answer fewer taken

def Returned.takes : Returned Word → Bool
  | .popped _ _ => true
  | .nothing => true
  | .cleared => true
  | _ => false

structure PortAnswers (len : Nat) (state : PortState size Word) : Prop where
  forward : ∀ action next, portStep len state action = some next → state.consumerSequence ≤ next.consumerSequence
  behind : state.consumerSequence ≤ state.head.activeSequence + 1
  retries : ∀ cell resync, state.consumer ≠ .clearHazard cell (.missing false resync)
  answered : ∀ earlier between later, state.returned = earlier ++ .isEmpty false :: between ++ .nothing :: later →
    ∃ value ∈ between, value.takes = true

theorem told_unread_kept (returned : List (Returned Word)) (none : ∀ value ∈ returned, value.takes = false) :
    returned.foldl Returned.tells true = true := by
  induction returned with
  | nil => rfl
  | cons value rest ih =>
    have kept : Returned.tells true value = true := by
      have leaves := none value List.mem_cons_self
      cases value with
      | head sequence => rfl
      | isEmpty answer => rfl
      | _ => cases leaves
    rw [List.foldl_cons, kept]
    exact ih (fun other inside => none other (List.mem_cons_of_mem _ inside))

theorem port_answers (len size : Nat) (Word : Type) (capacity : 2 < len) (bounded : len < 2 ^ 64)
    (state : PortState size Word) (reached : Reachable (port len size Word) state)
    (few : state.pushes.length < 2 ^ 64 - 1) : PortAnswers len state := by
  rw [← word64_value] at few bounded
  have room : 1 < len := Nat.lt_of_succ_lt capacity
  have order := reachable_order_inv len room bounded state reached few
  have answer := reachable_answer_inv len room bounded state reached few
  refine ⟨?_, ?_, answer.retries, ?_⟩
  · intro action next taken
    exact (port_step_advances len state next action order few taken).1
  · rw [order.publish.head]
    exact order.position.ahead
  · intro earlier between later same
    by_contra none
    have told := answer.nothing (earlier ++ .isEmpty false :: between) later same
    rw [toldUnread, List.foldl_append, List.foldl_cons, Returned.tells, Bool.not_false, Bool.or_true, told_unread_kept] at told
    · cases told
    · intro value inside
      by_contra takes
      exact none ⟨value, inside, by simpa using takes⟩

theorem settle_forward (len fuel : Nat) (action : PortAction size Word)
    (forward : ∀ state next : PortState size Word, Reachable (port len size Word) state →
      portStep len state action = some next → state.consumerSequence ≤ next.consumerSequence)
    (state : PortState size Word) (reached : Reachable (port len size Word) state) :
    state.consumerSequence ≤ (settle len action fuel state).consumerSequence := by
  induction fuel generalizing state with
  | zero => exact Nat.le_refl _
  | succ fuel ih =>
    cases taken : portStep len state action with
    | none => exact Nat.le_of_eq (congrArg PortState.consumerSequence (settle_done len _ state action taken)).symm
    | some next =>
      rw [settle_next len fuel state next action taken]
      exact Nat.le_trans (forward state next reached taken) (ih next (.next state next action reached trivial taken))

theorem port_answers_wraps :
    ¬ ∀ (len size : Nat) (Word : Type), 2 < len → ∀ state : PortState size Word, Reachable (port len size Word) state →
      PortAnswers len state := by
  intro always
  have number := word64_value
  have bounded : 3 < word64 := by omega
  obtain ⟨full, quiet, last, position, _⟩ := push_many 3 (by decide) bounded (fun _ => 0 : Message 1 Nat) (word64 - 1)
  have concluded := perform_clear 3 0 full quiet
    (reachable_publish_inv 3 (by decide) bounded full quiet.reached (by omega))
    (reachable_legible_inv 3 (by decide) bounded full quiet.reached)
  have wrapped : (perform 3 8 full (.consume .clear)).consumerSequence = 0 := by
    rw [concluded.position, last, Nat.sub_add_cancel (by omega), Nat.mod_self]
  have called : portStep 3 full (.call .clear) = some { full with consumer := .loadHeadActive .clear } := by
    simp only [portStep, quiet.consumer]
  have forward := settle_forward 3 8 .consumer (fun state next reached taken =>
    (always 3 1 Nat (by decide) state reached).forward .consumer next taken) { full with consumer := .loadHeadActive .clear }
    (.next full _ (.call .clear) quiet.reached trivial called)
  rw [perform, called] at wrapped
  simp only at wrapped forward
  omega

theorem port_answers_pushed :
    ∃ final : PortState 1 Nat, PortAnswers 3 final ∧ answers final.returned = [(.isEmpty false : Answer 1 Nat), .value [7]] := by
  let calls : List (SequentialCall 1 Nat) := [.push fun _ => 7, .push fun _ => 8, .consume .empty, .consume .pop]
  have ran := run_refines 3 19 (by decide) (by rw [word64_value]; decide) (by decide) calls (emptyPort fun _ => 0)
    (empty_port_quiet _ 3) (by rw [word64_value]; decide)
  have few : (calls.foldl (perform 3 19) (emptyPort fun _ => 0)).pushes.length < 2 ^ 64 - 1 := by
    rw [ran.pushes]
    decide
  exact ⟨_, port_answers 3 1 Nat (by decide) (by decide) _ ran.quiet.reached few, ran.answered⟩

def ConsumerPc.call : ConsumerPc Word → Option ConsumerCall
  | .idle => none
  | .loadHeadActive call | .storeHeadHazard call _ | .recheckHead call _ | .clearHeadHazard call | .readHeadVersion call _
  | .readHeadLow call _ _ | .readHeadHigh call _ _ _ | .readHeadVersionAgain call _ _ _ _ | .releaseHead call _ _ => some call
  | _ => some .pop

def ConsumerCall.Ends : ConsumerCall → Returned Word → Prop
  | .pop, .popped _ _ | .pop, .nothing | .empty, .isEmpty _ | .clear, .cleared => True
  | _, _ => False

inductive CallStep (state next : PortState size Word) : Prop where
  | goes (latest : List (Returned Word)) (call : next.consumer.call = state.consumer.call)
      (heads : ∀ value ∈ latest, ∃ head, value = .head head) (returned : next.returned = state.returned ++ latest)
  | ends (call : ConsumerCall) (latest : List (Returned Word)) (last : Returned Word) (own : state.consumer.call = some call)
      (idle : next.consumer = .idle) (answer : call.Ends last) (heads : ∀ value ∈ latest, ∃ head, value = .head head)
      (returned : next.returned = state.returned ++ latest ++ [last])

theorem only_head (head : Nat) (value : Returned Word) (member : value ∈ [Returned.head head]) : ∃ read, value = .head read :=
  ⟨head, List.mem_singleton.mp member⟩

theorem no_heads (value : Returned Word) (member : value ∈ ([] : List (Returned Word))) : ∃ read, value = .head read := by
  cases member

theorem quiet_step_call (taken : consumerStep len state = some next)
    (quiet : ¬ Concludes len state next) : next.consumer.call = state.consumer.call := by
  cases pc : state.consumer with
  | idle => simp [consumerStep, pc] at taken
  | recheckHead call cell =>
    by_cases active : state.head.publishedActive = cell <;>
      simp only [consumerStep, pc, active, ne_eq, not_true_eq_false, not_false_eq_true, ↓reduceIte,
        Option.some.injEq] at taken <;>
      subst taken <;> rfl
  | recheck cell =>
    by_cases active : (state.slots (state.consumerIndex len)).publishedActive = cell <;>
      simp only [consumerStep, pc, active, ne_eq, not_true_eq_false, not_false_eq_true, ↓reduceIte,
        Option.some.injEq] at taken <;>
      subst taken <;> rfl
  | releaseHead call cell snapshot =>
    cases snapshot with
    | none =>
      simp only [consumerStep, pc] at taken
      cases taken
      rfl
    | some head =>
      simp only [consumerStep, pc, Option.some.injEq] at taken
      exact absurd (.head call cell head pc taken.symm) quiet
  | abandonHazard =>
    simp only [consumerStep, pc, Option.some.injEq] at taken
    exact absurd (.abandon pc taken.symm) quiet
  | clearHazard cell result =>
    simp only [consumerStep, pc, Option.some.injEq] at taken
    exact absurd (.target cell result pc taken.symm) quiet
  | copyMessage cell words =>
    by_cases inside : words.length < size <;>
      simp only [consumerStep, pc, inside, ↓reduceDIte, Option.some.injEq] at taken <;>
      subst taken <;> rfl
  | readVersionAgain cell before low high stored =>
    simp only [consumerStep, pc] at taken
    cases taken
    cases (judgeSnapshot state.consumerSequence cell
      (readSequence before low high ((state.slots (state.consumerIndex len)).metadata cell).version) stored :
        Option (TargetResult Word)) <;> rfl
  | _ =>
    simp only [consumerStep, pc] at taken
    cases taken
    rfl

theorem consumer_step_call (taken : consumerStep len state = some next) : CallStep state next := by
  by_cases concluded : Concludes len state next
  · cases concluded with
    | head call cell head pc same =>
      subst same
      have own : state.consumer.call = some call := by rw [pc]; rfl
      cases call with
      | pop =>
        by_cases empty : head < (state.setHeadHazard kPortNoHazard).consumerSequence
        · have after : afterHead len (state.setHeadHazard kPortNoHazard) .pop head =
              { ((state.setHeadHazard kPortNoHazard).answer (.head head)).answer .nothing with consumer := .idle } := if_pos empty
          rw [after]
          exact .ends .pop [.head head] .nothing own rfl trivial (only_head head) rfl
        · rw [after_head_reads len _ head empty]
          exact .goes [.head head] own.symm (only_head head) rfl
      | empty => exact .ends .empty [.head head] (.isEmpty (decide (head < state.consumerSequence))) own rfl trivial (only_head head) rfl
      | clear => exact .ends .clear [.head head] .cleared own rfl trivial (only_head head) rfl
    | abandon pc same =>
      subst same
      exact .goes [] (by rw [pc]; rfl) no_heads (List.append_nil _).symm
    | target cell result pc same =>
      subst same
      have own : state.consumer.call = some .pop := by rw [pc]; rfl
      have alone : state.returned ++ [] = state.returned := List.append_nil _
      cases result with
      | found words => exact .ends .pop [] (.popped state.consumerSequence words) own rfl trivial no_heads (by rw [alone]; rfl)
      | missing retry resync =>
        cases retry with
        | false => exact .ends .pop [] .nothing own rfl trivial no_heads (by rw [alone]; rfl)
        | true => exact .goes [] own.symm no_heads alone.symm
  · have quiet := (consumer_step_cases len state next taken).resolve_right concluded
    exact .goes [] (quiet_step_call len state next taken concluded) no_heads (by rw [quiet.2, List.append_nil])

structure Reads (bound : Nat) (state : PortState size Word) : Prop where
  announced : bound ≤ state.producerSequence
  heads : ∀ cell, state.consumer.headCell = some cell → bound ≤ (state.head.metadata cell).sequence
  read : ∀ call cell head, state.consumer = .releaseHead call cell (some head) → bound ≤ head

variable (len bound : Nat) (state next : PortState size Word)

theorem reads_call (call : ConsumerCall) (announced : bound ≤ state.producerSequence)
    (taken : portStep len state (.call call) = some next) : Reads bound next := by
  obtain ⟨_, same, _⟩ := call_moved len state next call taken
  subst same
  refine ⟨announced, ?_, ?_⟩
  · intro cell guarded
    cases guarded
  · intro called cell head other
    cases other

theorem reads_push (message : Message size Word) (reads : Reads bound state)
    (taken : portStep len state (.push message) = some next) : Reads bound next := by
  cases port_steps taken with
  | push =>
    exact ⟨reads.announced, reads.heads, reads.read⟩

theorem reads_producer (order : OrderInv len state)
    (few : state.pushes.length < word64) (reads : Reads bound state) (taken : producerStep len state = some next) :
    Reads bound next := by
  have moved := producer_step_moves len state next order.port.hazard taken
  have frame := producer_step_frame len state next taken
  refine ⟨Nat.le_trans reads.announced (producer_sequence_grows len state next order.publish few taken), ?_, ?_⟩
  · intro cell guarded
    rw [moved.consumer] at guarded
    rw [frame.head cell (order.port.hazard.headSafe.validatedIdle cell guarded)]
    exact reads.heads cell guarded
  · rw [moved.consumer]
    exact reads.read

theorem concluded_reads (announced : bound ≤ next.producerSequence)
    (concluded : Concludes len state next) : Reads bound next := by
  have free (pc : next.consumer.headCell = none) : Reads bound next := by
    refine ⟨announced, ?_, ?_⟩
    · intro cell guarded
      rw [pc] at guarded
      cases guarded
    · intro call cell head other
      rw [other] at pc
      cases pc
  cases concluded with
  | head call cell head pc same =>
    subst same
    refine free ?_
    cases call with
    | pop =>
      simp only [afterHead]
      split <;> rfl
    | empty => rfl
    | clear => rfl
  | abandon pc same =>
    subst same
    exact free rfl
  | target cell result pc same =>
    subst same
    refine free ?_
    cases result with
    | found words => rfl
    | missing retry resync => cases retry <;> rfl

theorem reads_consumer (order : OrderInv len state) (reads : Reads bound state)
    (taken : consumerStep len state = some next) : Reads bound next := by
  have moved := consumer_step_moves len state next order.port.hazard taken
  have announced : bound ≤ next.producerSequence := moved.producerSequence ▸ reads.announced
  by_cases concluded : Concludes len state next
  · exact concluded_reads len bound state next announced concluded
  · obtain ⟨hazard, data⟩ := moved.headData
    refine ⟨announced, ?_, ?_⟩
    · intro cell guarded
      rw [data]
      rcases moved_validated _ _ moved.head cell guarded with before | active
      · exact reads.heads cell before
      · have shown := order.publish.head
        rw [PortHeadPublication.activeSequence] at shown
        have below := reads.announced
        rw [← shown] at below
        exact active ▸ below
    · intro call cell head read
      obtain ⟨guarded, same⟩ :=
        consumer_step_read_head len state next order.port (consumer_step_learns len state next taken concluded) call cell head read
      exact same ▸ reads.heads cell guarded

theorem empty_past (reads : Reads bound state)
    (taken : consumerStep len state = some next) (own : state.consumer.call = some .empty) (idle : next.consumer = .idle)
    (empty : next.returned.getLast? = some (.isEmpty true)) : bound < next.consumerSequence := by
  by_cases concluded : Concludes len state next
  · cases concluded with
    | head call cell head pc same =>
      rw [pc] at own
      obtain rfl : call = .empty := Option.some.inj own
      subst same
      simp only [afterHead, answer, List.getLast?_concat, Option.some.injEq, Returned.isEmpty.injEq] at empty
      exact Nat.lt_of_le_of_lt (reads.read .empty cell head pc) (of_decide_eq_true empty)
    | abandon pc same =>
      rw [pc] at own
      cases own
    | target cell result pc same =>
      rw [pc] at own
      cases own
  · have kept := quiet_step_call len state next taken concluded
    rw [idle, own] at kept
    cases kept

end EncosDriver.Port
