import EncosDriver.Port.Sequential
import EncosDriver.Lib.History

set_option autoImplicit false

namespace EncosDriver.Port

open Lib HazardCells PortState

variable {size : Nat} {Word : Type}

inductive SequentialCall (size : Nat) (Word : Type) where
  | push (message : Message size Word)
  | consume (call : ConsumerCall)

def perform (len fuel : Nat) (state : PortState size Word) : SequentialCall size Word → PortState size Word
  | .push message =>
    match portStep len state (.push message) with
    | none => state
    | some next => settle len .producer fuel next
  | .consume call =>
    match portStep len state (.call call) with
    | none => state
    | some next => settle len .consumer fuel next

def SequentialCall.pushed : SequentialCall size Word → Option (Message size Word)
  | .push message => some message
  | .consume _ => none

def pushedMessages (calls : List (SequentialCall size Word)) : List (Message size Word) :=
  calls.filterMap SequentialCall.pushed

inductive Answer (size : Nat) (Word : Type) where
  | value (words : List Word)
  | nothing
  | isEmpty (answer : Bool)
  | cleared

def Returned.answer? : Returned Word → Option (Answer size Word)
  | .popped _ words => some (.value words)
  | .nothing => some .nothing
  | .head _ => none
  | .isEmpty answer => some (.isEmpty answer)
  | .cleared => some .cleared

def answers (returned : List (Returned Word)) : List (Answer size Word) := returned.filterMap Returned.answer?

def queueStep (len : Nat) (unread : List (Message size Word)) :
    SequentialCall size Word → List (Message size Word) × List (Answer size Word)
  | .push message => (newest len (unread ++ [message]), [])
  | .consume .pop =>
    match unread with
    | [] => ([], [.nothing])
    | message :: rest => (rest, [.value (List.ofFn message)])
  | .consume .empty => (unread, [.isEmpty unread.isEmpty])
  | .consume .clear => ([], [.cleared])

def queueRun (len : Nat) (unread : List (Message size Word)) :
    List (SequentialCall size Word) → List (Message size Word) × List (Answer size Word)
  | [] => (unread, [])
  | call :: rest =>
    let following := queueStep len unread call
    let final := queueRun len following.1 rest
    (final.1, following.2 ++ final.2)

def unreadMessages (len : Nat) (state : PortState size Word) : List (Message size Word) :=
  newest len (state.pushes.drop (state.consumerSequence - 1))

structure Quiet (len : Nat) (state : PortState size Word) : Prop where
  reached : Reachable (port len size Word) state
  producer : state.producer = .idle
  consumer : state.consumer = .idle

theorem perform_push (len fuel : Nat) (positive : 0 < len) (bounded : len < word64) (state : PortState size Word)
    (message : Message size Word) (quiet : Quiet len state) (enough : size + 15 ≤ fuel) :
    let final := perform len fuel state (.push message)
    Quiet len final ∧ final.pushes = state.pushes ++ [message] ∧ final.consumerSequence = state.consumerSequence ∧
      final.returned = state.returned := by
  have taken : portStep len state (.push message) = some
      { state with producer := .loadHazard message, pushes := state.pushes ++ [message] } := by
    simp only [portStep, quiet.producer]
  have reached : Reachable (port len size Word)
      { state with producer := .loadHazard message, pushes := state.pushes ++ [message] } :=
    .next state _ (.push message) quiet.reached trivial taken
  have same : perform len fuel state (.push message) = settle len .producer fuel
      { state with producer := .loadHazard message, pushes := state.pushes ++ [message] } := by
    simp only [perform, taken]
  obtain ⟨idle, kept⟩ := settle_producer len positive bounded fuel _ reached enough
  rw [same]
  exact ⟨⟨settle_reachable len fuel .producer _ reached, idle, kept.consumer.trans quiet.consumer⟩, kept.pushes,
    kept.consumerSequence, kept.returned⟩

variable (len : Nat) (state : PortState size Word)

theorem quiet_published (quiet : Quiet len state) : publishedCount state = state.pushes.length := by
  rw [publishedCount, quiet.producer]
  rfl

theorem quiet_head (quiet : Quiet len state)
    (publish : PublishInv len state) : state.head.activeSequence = state.pushes.length := by
  have counted := publish.counted
  rw [quiet.producer] at counted
  rw [publish.head]
  exact counted

theorem same_lap (len newer sequence : Nat) (same : (newer - 1) % len = (sequence - 1) % len) (started : 1 ≤ sequence)
    (above : sequence ≤ newer) (near : newer < sequence + len) : newer = sequence := by
  have whole := Nat.sub_mod_eq_zero_of_mod_eq same
  rw [Nat.mod_eq_of_lt (by omega)] at whole
  omega

theorem retained_slot (inv : PortInv len state) (publish : PublishInv len state)
    (few : state.pushes.length < word64) (sequence : Nat) (started : 1 ≤ sequence)
    (published : sequence ≤ publishedCount state) (retained : publishedCount state < sequence + len) :
    (state.slots (slotIndex len sequence)).activeSequence = sequence ∧
      state.pushes[sequence - 1]? = some ((state.slots (slotIndex len sequence)).payloads
        (state.slots (slotIndex len sequence)).publishedActive) := by
  have small := published_small state few
  have shown := publish.slots sequence started published
  obtain ⟨newer, holds⟩ := inv.content.touched sequence started published
  have below := holds.published
  have placed := holds.placed
  rw [Nat.mod_eq_of_lt (Nat.lt_of_le_of_lt published small)] at holds placed
  rw [Nat.mod_eq_of_lt (Nat.lt_of_le_of_lt below small), slot_index_small len newer holds.counted (by omega),
    slot_index_small len sequence started (by omega)] at placed
  have number : (state.slots (slotIndex len sequence)).activeSequence = newer := by
    rw [Slot.activeSequence, holds.sequence, Nat.mod_eq_of_lt (Nat.lt_of_le_of_lt below small)]
  rw [number] at shown
  have same := same_lap len newer sequence placed started shown (by omega)
  rw [number]
  refine ⟨same, ?_⟩
  rw [← holds.pushed, same]

variable (len fuel : Nat) (state : PortState size Word)

theorem perform_reads_head (call : ConsumerCall) (quiet : Quiet len state)
    (publish : PublishInv len state) (legible : LegibleInv len state) :
    perform len (fuel + 8) state (.consume call) =
      settle len .consumer fuel (afterHead len (state.setHeadHazard kPortNoHazard) call state.pushes.length) := by
  have taken : portStep len state (.call call) = some { state with consumer := .loadHeadActive call } := by
    simp only [portStep, quiet.consumer]
  have read := settle_read_head len fuel { state with consumer := .loadHeadActive call } call rfl legible.head
  rw [show ({ state with consumer := .loadHeadActive call } : PortState size Word).head.activeSequence =
    state.pushes.length from quiet_head len state quiet publish] at read
  simp only [perform, taken]
  exact read.trans (congrArg (settle len .consumer fuel)
    (after_head_consumer len (state.setHeadHazard kPortNoHazard) _ call state.pushes.length))

theorem perform_reachable (call : SequentialCall size Word)
    (reached : Reachable (port len size Word) state) : Reachable (port len size Word) (perform len fuel state call) := by
  cases call with
  | push message =>
    simp only [perform]
    split
    · exact reached
    · next following taken =>
        exact settle_reachable len fuel .producer _ (.next state _ (.push message) reached trivial taken)
  | consume call =>
    simp only [perform]
    split
    · exact reached
    · next following taken =>
        exact settle_reachable len fuel .consumer _ (.next state _ (.call call) reached trivial taken)

theorem settle_idle_consumer (idle : state.consumer = .idle) : settle len .consumer fuel state = state := by
  refine settle_done len fuel state .consumer ?_
  simp only [portStep, consumerStep, idle]

structure Concluded (len : Nat) (state final : PortState size Word) (position : Nat) (answered : List (Returned Word)) :
    Prop where
  quiet : Quiet len final
  pushes : final.pushes = state.pushes
  position : final.consumerSequence = position
  returned : final.returned = state.returned ++ answered

theorem perform_empty (quiet : Quiet len state) (publish : PublishInv len state) (legible : LegibleInv len state) :
    Concluded len state (perform len (fuel + 8) state (.consume .empty)) state.consumerSequence
      [.head state.pushes.length, .isEmpty (decide (state.pushes.length < state.consumerSequence))] := by
  have reached := perform_reachable len (fuel + 8) state (.consume .empty) quiet.reached
  have read := perform_reads_head len fuel state .empty quiet publish legible
  rw [settle_idle_consumer len fuel _ rfl] at read
  rw [read] at reached ⊢
  exact ⟨⟨reached, quiet.producer, rfl⟩, rfl, rfl, List.append_assoc _ _ _⟩

theorem perform_clear (quiet : Quiet len state) (publish : PublishInv len state) (legible : LegibleInv len state) :
    Concluded len state (perform len (fuel + 8) state (.consume .clear)) ((state.pushes.length + 1) % word64)
      [.head state.pushes.length, .cleared] := by
  have reached := perform_reachable len (fuel + 8) state (.consume .clear) quiet.reached
  have read := perform_reads_head len fuel state .clear quiet publish legible
  rw [settle_idle_consumer len fuel _ rfl] at read
  rw [read] at reached ⊢
  exact ⟨⟨reached, quiet.producer, rfl⟩, rfl, rfl, List.append_assoc _ _ _⟩

theorem perform_pop_nothing (quiet : Quiet len state) (publish : PublishInv len state) (legible : LegibleInv len state)
    (empty : state.pushes.length < state.consumerSequence) :
    Concluded len state (perform len (fuel + 8) state (.consume .pop)) state.consumerSequence
      [.head state.pushes.length, .nothing] := by
  have reached := perform_reachable len (fuel + 8) state (.consume .pop) quiet.reached
  have read := perform_reads_head len fuel state .pop quiet publish legible
  have after : afterHead len (state.setHeadHazard kPortNoHazard) .pop state.pushes.length =
      { (state.setHeadHazard kPortNoHazard).answer (.head state.pushes.length) |>.answer .nothing with
        consumer := .idle } := if_pos empty
  rw [after, settle_idle_consumer len fuel _ rfl] at read
  rw [read] at reached ⊢
  exact ⟨⟨reached, quiet.producer, rfl⟩, rfl, rfl, List.append_assoc _ _ _⟩

def readPosition (len : Nat) (state : PortState size Word) : Nat :=
  if state.consumerSequence < oldest len state.pushes.length then oldest len state.pushes.length
  else state.consumerSequence

theorem read_position_retained (positive : 0 < len) (state : PortState size Word)
    (unread : ¬ state.pushes.length < state.consumerSequence) (some : 1 ≤ state.pushes.length) :
    1 ≤ readPosition len state ∧ readPosition len state ≤ state.pushes.length ∧
      state.pushes.length < readPosition len state + len := by
  have first := oldest_positive len state.pushes.length
  have last := oldest_head_bound len state.pushes.length positive some
  have near : state.pushes.length < oldest len state.pushes.length + len := by
    unfold oldest
    split <;> omega
  unfold readPosition
  split <;> omega

theorem perform_pop_value (positive : 0 < len) (state : PortState size Word) (quiet : Quiet len state)
    (inv : PortInv len state) (publish : PublishInv len state) (legible : LegibleInv len state)
    (few : state.pushes.length < word64) (unread : ¬ state.pushes.length < state.consumerSequence)
    (some : 1 ≤ state.pushes.length) :
    ∃ message, state.pushes[readPosition len state - 1]? = .some message ∧
      Concluded len state (perform len (fuel + size + 18) state (.consume .pop))
        ((readPosition len state + 1) % word64)
        [.head state.pushes.length, .popped (readPosition len state) (List.ofFn message)] := by
  have reached := perform_reachable len (fuel + size + 18) state (.consume .pop) quiet.reached
  have read := perform_reads_head len (fuel + size + 10) state .pop quiet publish legible
  obtain ⟨started, published, retained⟩ := read_position_retained len positive state unread some
  rw [← quiet_published len state quiet] at published retained
  obtain ⟨shown, pushed⟩ := retained_slot len state inv publish few (readPosition len state) started published retained
  obtain ⟨loading, load⟩ : ∃ loading : PortState size Word,
      loading = { (state.setHeadHazard kPortNoHazard).answer (.head state.pushes.length) with
        consumerSequence := readPosition len state
        consumer := .loadActive } := ⟨_, rfl⟩
  have after : afterHead len (state.setHeadHazard kPortNoHazard) .pop state.pushes.length = loading := by
    rw [load]
    exact after_head_reads len (state.setHeadHazard kPortNoHazard) _ unread
  have slots : loading.slots = state.slots := by rw [load]; rfl
  have target : loading.consumerSequence = readPosition len state := by rw [load]
  obtain ⟨cleared, settled, position, producer, pushes, returned⟩ :=
    settle_read_slot len fuel (slotIndex len (readPosition len state)) loading (by rw [load]) (by rw [target])
      (by rw [slots]; exact legible.slots _) (by rw [slots, target]; exact shown)
  rw [after, settled, settle_idle_consumer len fuel _ rfl] at read
  rw [show fuel + size + 18 = fuel + size + 10 + 8 by omega] at reached ⊢
  rw [read] at reached ⊢
  rw [slots] at reached ⊢
  refine ⟨_, pushed, ⟨reached, ?_, rfl⟩, ?_, ?_, ?_⟩
  · refine producer.trans ?_
    rw [load]
    exact quiet.producer
  · refine pushes.trans ?_
    rw [load]
    rfl
  · rw [← target, ← position]
    rfl
  · have earlier : loading.returned = state.returned ++ [.head state.pushes.length] := by rw [load]; rfl
    have extended : ∀ words, (afterTarget len cleared (.found words)).returned =
        cleared.returned ++ [.popped cleared.consumerSequence words] := fun _ => rfl
    rw [extended, returned, earlier, position, target]
    exact List.append_assoc _ _ _

theorem answers_append (earlier later : List (Returned Word)) :
    (answers (earlier ++ later) : List (Answer size Word)) = answers earlier ++ answers later := List.filterMap_append

theorem unread_from_position (started : 1 ≤ state.consumerSequence) :
    unreadMessages len state = state.pushes.drop (readPosition len state - 1) := by
  rw [unreadMessages, newest, List.length_drop, List.drop_drop]
  congr 1
  unfold readPosition oldest
  split <;> split <;> omega

theorem unread_none (empty : state.pushes.length < state.consumerSequence) : unreadMessages len state = [] := by
  rw [unreadMessages, List.drop_eq_nil_of_le (by omega), newest_nil]

theorem unread_some (positive : 0 < len) (state : PortState size Word)
    (unread : ¬ state.pushes.length < state.consumerSequence) (started : 1 ≤ state.consumerSequence) :
    unreadMessages len state ≠ [] := by
  intro empty
  have length := congrArg List.length empty
  rw [unreadMessages, newest_length, List.length_drop, List.length_nil] at length
  omega

structure Refines (len : Nat) (state final : PortState size Word) (call : SequentialCall size Word) : Prop where
  quiet : Quiet len final
  pushes : final.pushes = state.pushes ++ call.pushed.toList
  unread : unreadMessages len final = (queueStep len (unreadMessages len state) call).1
  answered : answers final.returned = answers state.returned ++ (queueStep len (unreadMessages len state) call).2

theorem push_refines (positive : 0 < len) (bounded : len < word64) (state : PortState size Word)
    (message : Message size Word) (quiet : Quiet len state) (order : OrderInv len state) (enough : size + 15 ≤ fuel) :
    Refines len state (perform len fuel state (.push message)) (.push message) := by
  obtain ⟨settled, pushes, position, returned⟩ := perform_push len fuel positive bounded state message quiet enough
  have counted := order.publish.counted
  rw [quiet.producer] at counted
  have inside : state.consumerSequence - 1 ≤ state.pushes.length := by
    have ahead := order.position.ahead
    simp only [ProducerPc.unannounced] at counted
    omega
  refine ⟨settled, pushes, ?_, ?_⟩
  · rw [unreadMessages, pushes, position, List.drop_append_of_le_length inside]
    exact (newest_append_left len _ _).symm
  · rw [returned]
    exact (List.append_nil _).symm

theorem pop_refines (capacity : 1 < len) (state : PortState size Word) (quiet : Quiet len state)
    (order : OrderInv len state) (legible : LegibleInv len state) (few : state.pushes.length < word64 - 1)
    (enough : size + 18 ≤ fuel) : Refines len state (perform len fuel state (.consume .pop)) (.consume .pop) := by
  have started := order.position.started
  have positive : 0 < len := Nat.lt_of_succ_lt capacity
  by_cases empty : state.pushes.length < state.consumerSequence
  · have concluded := perform_pop_nothing len (fuel - 8) state quiet order.publish legible empty
    rw [Nat.sub_add_cancel (by omega)] at concluded
    have none := unread_none len state empty
    refine ⟨concluded.quiet, concluded.pushes.trans (List.append_nil _).symm, ?_, ?_⟩
    · rw [none, unread_none len _ (by rw [concluded.pushes, concluded.position]; exact empty)]
      rfl
    · rw [concluded.returned, answers_append, none]
      rfl
  · obtain ⟨message, pushed, concluded⟩ := perform_pop_value len (fuel - size - 18) positive state quiet order.port
      order.publish legible (by omega) empty (by omega)
    rw [show fuel - size - 18 + size + 18 = fuel by omega] at concluded
    obtain ⟨first, published, retained⟩ := read_position_retained len positive state empty (by omega)
    have head : unreadMessages len state = message :: state.pushes.drop (readPosition len state) := by
      obtain ⟨inside, value⟩ := List.getElem?_eq_some_iff.mp pushed
      rw [unread_from_position len state started, List.drop_eq_getElem_cons inside, value]
      congr 2
      omega
    refine ⟨concluded.quiet, concluded.pushes.trans (List.append_nil _).symm, ?_, ?_⟩
    · have position : (readPosition len state + 1) % word64 = readPosition len state + 1 := Nat.mod_eq_of_lt (by omega)
      rw [head, unreadMessages, concluded.pushes, concluded.position, position, Nat.add_sub_cancel]
      refine newest_fits len _ ?_
      rw [List.length_drop]
      omega
    · rw [concluded.returned, answers_append, head]
      rfl

theorem empty_refines (positive : 0 < len) (state : PortState size Word) (quiet : Quiet len state)
    (order : OrderInv len state) (legible : LegibleInv len state) (enough : 8 ≤ fuel) :
    Refines len state (perform len fuel state (.consume .empty)) (.consume .empty) := by
  have concluded := perform_empty len (fuel - 8) state quiet order.publish legible
  rw [Nat.sub_add_cancel enough] at concluded
  refine ⟨concluded.quiet, concluded.pushes.trans (List.append_nil _).symm, ?_, ?_⟩
  · rw [unreadMessages, concluded.pushes, concluded.position]
    rfl
  · have same : decide (state.pushes.length < state.consumerSequence) = (unreadMessages len state).isEmpty := by
      by_cases empty : state.pushes.length < state.consumerSequence
      · rw [unread_none len state empty]
        exact decide_eq_true empty
      · have some := unread_some len positive state empty order.position.started
        rw [List.isEmpty_eq_false_iff.mpr some]
        exact decide_eq_false empty
    rw [concluded.returned, answers_append, same]
    rfl

theorem clear_refines (quiet : Quiet len state)
    (order : OrderInv len state) (legible : LegibleInv len state) (few : state.pushes.length < word64 - 1)
    (enough : 8 ≤ fuel) : Refines len state (perform len fuel state (.consume .clear)) (.consume .clear) := by
  have concluded := perform_clear len (fuel - 8) state quiet order.publish legible
  rw [Nat.sub_add_cancel enough] at concluded
  have position : (state.pushes.length + 1) % word64 = state.pushes.length + 1 := Nat.mod_eq_of_lt (by omega)
  refine ⟨concluded.quiet, concluded.pushes.trans (List.append_nil _).symm, ?_, ?_⟩
  · exact unread_none len _ (by rw [concluded.pushes, concluded.position, position]; exact Nat.lt_succ_self _)
  · rw [concluded.returned, answers_append]
    rfl

theorem perform_refines (capacity : 1 < len) (bounded : len < word64) (state : PortState size Word)
    (call : SequentialCall size Word) (quiet : Quiet len state) (few : state.pushes.length < word64 - 1)
    (enough : size + 18 ≤ fuel) : Refines len state (perform len fuel state call) call := by
  have positive : 0 < len := Nat.lt_of_succ_lt capacity
  have order := reachable_order_inv len capacity bounded state quiet.reached few
  have legible := reachable_legible_inv len positive bounded state quiet.reached
  cases call with
  | push message => exact push_refines len fuel positive bounded state message quiet order (by omega)
  | consume call =>
    cases call with
    | pop => exact pop_refines len fuel capacity state quiet order legible few enough
    | empty => exact empty_refines len fuel positive state quiet order legible (by omega)
    | clear => exact clear_refines len fuel state quiet order legible few (by omega)

structure RunRefines (len : Nat) (state final : PortState size Word) (calls : List (SequentialCall size Word)) : Prop where
  quiet : Quiet len final
  pushes : final.pushes = state.pushes ++ pushedMessages calls
  unread : unreadMessages len final = (queueRun len (unreadMessages len state) calls).1
  answered : answers final.returned = answers state.returned ++ (queueRun len (unreadMessages len state) calls).2

theorem run_refines (capacity : 1 < len) (bounded : len < word64) (enough : size + 18 ≤ fuel)
    (calls : List (SequentialCall size Word)) (state : PortState size Word) (quiet : Quiet len state)
    (few : state.pushes.length + (pushedMessages calls).length < word64 - 1) :
    RunRefines len state (calls.foldl (perform len fuel) state) calls := by
  induction calls generalizing state with
  | nil => exact ⟨quiet, (List.append_nil _).symm, rfl, (List.append_nil _).symm⟩
  | cons call rest ih =>
    have pushed : pushedMessages (call :: rest) = call.pushed.toList ++ pushedMessages rest := by
      cases call <;> rfl
    rw [pushed, List.length_append] at few
    have first := perform_refines len fuel capacity bounded state call quiet (by omega) enough
    have later := ih (perform len fuel state call) first.quiet (by rw [first.pushes, List.length_append]; omega)
    refine ⟨later.quiet, ?_, ?_, ?_⟩
    · rw [pushed, ← List.append_assoc, ← first.pushes]
      exact later.pushes
    · rw [queueRun, ← first.unread]
      exact later.unread
    · rw [queueRun, ← first.unread, ← List.append_assoc, ← first.answered]
      exact later.answered

variable {size : Nat} {Word : Type}

-- What holds in a reachable state about the values that Pop has returned so far,
-- and what the next step of either party may do to the consumer's position.
structure PortOrdered (len : Nat) (state : PortState size Word) : Prop where
  pushed : ∀ sequence words, .popped sequence words ∈ state.returned →
    1 ≤ sequence ∧ ∃ message, state.pushes[sequence - 1]? = some message ∧ words = List.ofFn message
  increasing : (poppedSequences state.returned).Pairwise (· < ·)
  skips : ∀ action next, portStep len state action = some next → Advances len state next
  accounted : ∀ sequence, 1 ≤ sequence → sequence < state.consumerSequence → Accounted len state sequence

theorem popped_pushed (len : Nat) (state : PortState size Word) (inv : PortInv len state)
    (few : state.pushes.length < word64) (sequence : Nat) (words : List Word)
    (member : .popped sequence words ∈ state.returned) :
    1 ≤ sequence ∧ ∃ message, state.pushes[sequence - 1]? = some message ∧ words = List.ofFn message := by
  obtain ⟨count, message, counted, published, pushed, number, copied⟩ := inv.content.returned _ member
  rw [Nat.mod_eq_of_lt (Nat.lt_of_le_of_lt published (published_small state few))] at number
  subst number
  exact ⟨counted, message, pushed, copied⟩

theorem port_ordering (len size : Nat) (Word : Type) (capacity : 2 < len) (bounded : len < 2 ^ 64) :
    (∀ state : PortState size Word, Reachable (port len size Word) state → state.pushes.length < 2 ^ 64 - 1 →
      PortOrdered len state) ∧
    (∀ (state : PortState size Word) (calls : List (SequentialCall size Word)) (fuel : Nat), Quiet len state →
      state.pushes.length + (pushedMessages calls).length < 2 ^ 64 - 1 → size + 18 ≤ fuel →
        RunRefines len state (calls.foldl (perform len fuel) state) calls) := by
  have room : 1 < len := by omega
  have bounded64 : len < word64 := by
    rw [word64_value]
    exact bounded
  refine ⟨?_, ?_⟩
  · intro state reached few
    rw [← word64_value] at few
    have order := reachable_order_inv len room bounded64 state reached few
    exact ⟨popped_pushed len state order.port (by omega), order.position.ordered,
      fun action next taken => port_step_advances len state next action order few taken,
      reachable_accounted len room bounded64 state reached few⟩
  · intro state calls fuel quiet few enough
    rw [← word64_value] at few
    exact run_refines len fuel room bounded64 enough calls state quiet few

theorem empty_port_quiet (message : Message size Word) (len : Nat) : Quiet len (emptyPort message) :=
  ⟨.start _ (empty_port_initial message), rfl, rfl⟩

theorem port_ordering_overwritten :
    ∃ final : PortState 1 Nat, PortOrdered 3 final ∧
      answers final.returned = [(.value [8] : Answer 1 Nat), .value [9]] := by
  let calls : List (SequentialCall 1 Nat) :=
    [.push fun _ => 7, .push fun _ => 8, .push fun _ => 9, .push fun _ => 10, .consume .pop, .consume .pop]
  have ordering := port_ordering 3 1 Nat (by decide) (by decide)
  have ran := ordering.2 (emptyPort fun _ => 0) calls 19 (empty_port_quiet _ 3) (by decide) (by decide)
  have few : (calls.foldl (perform 3 19) (emptyPort fun _ => 0)).pushes.length < 2 ^ 64 - 1 := by
    rw [ran.pushes]
    decide
  exact ⟨_, ordering.1 _ ran.quiet.reached few, ran.answered⟩

theorem push_many (len : Nat) (positive : 0 < len) (bounded : len < word64) (message : Message size Word) (count : Nat) :
    ∃ state : PortState size Word, Quiet len state ∧ state.pushes.length = count ∧ state.consumerSequence = 1 ∧
      state.returned = [] := by
  induction count with
  | zero => exact ⟨emptyPort message, empty_port_quiet message len, rfl, rfl, rfl⟩
  | succ count ih =>
    obtain ⟨state, quiet, counted, position, returned⟩ := ih
    obtain ⟨settled, pushes, kept, answered⟩ :=
      perform_push len (size + 15) positive bounded state message quiet (Nat.le_refl _)
    refine ⟨_, settled, ?_, kept.trans position, answered.trans returned⟩
    rw [pushes, List.length_append, counted]
    rfl

theorem pop_at_last_number (len : Nat) (positive : 0 < len) (bounded : len < word64) (state : PortState size Word)
    (quiet : Quiet len state) (last : state.pushes.length = word64 - 1) (unread : state.consumerSequence ≤ word64 - 1) :
    ∃ final : PortState size Word, Quiet len final ∧ final.pushes.length = word64 - 1 ∧
      final.consumerSequence = (readPosition len state + 1) % word64 ∧
      poppedSequences final.returned = poppedSequences state.returned ++ [readPosition len state] := by
  have few : state.pushes.length < word64 := by omega
  have publish := reachable_publish_inv len positive bounded state quiet.reached few
  obtain ⟨message, _, concluded⟩ := perform_pop_value len 0 positive state quiet
    (reachable_port_inv len positive bounded state quiet.reached) publish
    (reachable_legible_inv len positive bounded state quiet.reached) few (by omega) (by omega)
  refine ⟨_, concluded.quiet, (congrArg List.length concluded.pushes).trans last, concluded.position, ?_⟩
  rw [concluded.returned, poppedSequences, List.filterMap_append]
  rfl

theorem read_position_at_last_number (state : PortState size Word) (last : state.pushes.length = word64 - 1) :
    readPosition 3 state = if state.consumerSequence < word64 - 3 then word64 - 3 else state.consumerSequence := by
  have oldest : oldest 3 state.pushes.length = word64 - 3 := by
    rw [last, oldest, word64_value]
    rfl
  rw [readPosition, oldest]

theorem port_ordering_wraps :
    ∃ state : PortState 1 Nat, Reachable (port 3 1 Nat) state ∧ ¬ (poppedSequences state.returned).Pairwise (· < ·) := by
  have bounded : 3 < word64 := by
    rw [word64_value]
    decide
  have pop := fun state => pop_at_last_number 3 (by decide) bounded (state : PortState 1 Nat)
  have number := word64_value
  obtain ⟨full, quiet, last, position, returned⟩ := push_many 3 (by decide) bounded (fun _ => 0 : Message 1 Nat) (word64 - 1)
  obtain ⟨first, quiet1, last1, position1, popped1⟩ := pop full quiet last (by omega)
  rw [read_position_at_last_number full last, position, if_pos (by omega)] at position1 popped1
  rw [Nat.mod_eq_of_lt (by omega)] at position1
  obtain ⟨second, quiet2, last2, position2, popped2⟩ := pop first quiet1 last1 (by omega)
  rw [read_position_at_last_number first last1, position1, if_neg (by omega)] at position2 popped2
  rw [Nat.mod_eq_of_lt (by omega)] at position2
  obtain ⟨third, quiet3, last3, position3, popped3⟩ := pop second quiet2 last2 (by omega)
  rw [read_position_at_last_number second last2, position2, if_neg (by omega)] at position3 popped3
  rw [show word64 - 3 + 1 + 1 + 1 = word64 by omega, Nat.mod_self] at position3
  obtain ⟨fourth, quiet4, last4, position4, popped4⟩ := pop third quiet3 last3 (by omega)
  rw [read_position_at_last_number third last3, position3, if_pos (by omega)] at popped4
  refine ⟨fourth, quiet4.reached, ?_⟩
  rw [popped4, popped3, popped2, popped1, returned]
  simp [poppedSequences]

end EncosDriver.Port
