import EncosDriver.Port.Order

set_option autoImplicit false

namespace EncosDriver.Port

open Lib HazardCells PortState

variable {size : Nat} {Word : Type}

def Returned.poppedSequence : Returned Word → Option Nat
  | .popped sequence _ => some sequence
  | _ => none

def poppedSequences (returned : List (Returned Word)) : List Nat := returned.filterMap Returned.poppedSequence

-- What the consumer's position is known to be at its program point. A head cell
-- under protection stays, while the producer's own number only moves on.
def Placed (state : PortState size Word) : Prop :=
  match state.consumer with
  | .readHeadVersion _ cell | .readHeadLow _ cell _ | .readHeadHigh _ cell _ _ | .readHeadVersionAgain _ cell _ _ _ =>
    state.consumerSequence ≤ (state.head.metadata cell).sequence + 1 ∧
      (state.head.metadata cell).sequence ≤ state.producerSequence
  | .releaseHead _ _ (some head) => state.consumerSequence ≤ head + 1 ∧ head ≤ state.producerSequence
  | .loadActive | .storeHazard _ | .recheck _ | .readVersion _ | .readLow _ _ | .readHigh _ _ _ | .readCell _ _ _ _
  | .readVersionAgain _ _ _ _ _ | .copyMessage _ _ | .abandonHazard | .clearHazard _ (.found _) =>
    state.consumerSequence ≤ state.producerSequence
  | .clearHazard _ (.missing _ resync) =>
    state.consumerSequence ≤ state.producerSequence ∧ resync ≤ publishedCount state
  | _ => True

structure PositionInv (state : PortState size Word) : Prop where
  started : 1 ≤ state.consumerSequence
  ahead : state.consumerSequence ≤ state.producerSequence + 1
  placed : Placed state
  ordered : (poppedSequences state.returned).Pairwise (· < ·)
  behind : ∀ sequence ∈ poppedSequences state.returned, sequence < state.consumerSequence

theorem initial_position_inv (state : PortState size Word) (initial : InitialPort state) : PositionInv state := by
  refine ⟨?_, ?_, ?_, ?_, ?_⟩
  · exact Nat.le_of_eq initial.consumerSequence.symm
  · rw [initial.consumerSequence]
    exact Nat.le_add_left 1 _
  · simp [Placed, initial.consumer]
  · simp [poppedSequences, initial.returned]
  · simp [poppedSequences, initial.returned]

theorem popped_sequences_quiet (earlier : List (Returned Word)) (latest : Returned Word)
    (quiet : latest.poppedSequence = none) : poppedSequences (earlier ++ [latest]) = poppedSequences earlier := by
  rw [poppedSequences, List.filterMap_append, List.filterMap_cons_none quiet, List.filterMap_nil, List.append_nil]
  rfl

theorem popped_sequences_next (earlier : List (Returned Word)) (sequence : Nat) (words : List Word) :
    poppedSequences (earlier ++ [.popped sequence words]) = poppedSequences earlier ++ [sequence] := by
  rw [poppedSequences, List.filterMap_append]
  rfl

variable (len : Nat) (state : PortState size Word)

theorem after_head_reads (head : Nat) (unread : ¬ head < state.consumerSequence) :
    afterHead len state .pop head = { state.answer (.head head) with
      consumerSequence :=
        if state.consumerSequence < oldest len head then oldest len head else state.consumerSequence
      consumer := .loadActive } :=
  if_neg unread

theorem after_head_quiet (call : ConsumerCall) (head : Nat) :
    poppedSequences (afterHead len state call head).returned = poppedSequences state.returned := by
  have heads : poppedSequences (state.returned ++ [.head head]) = poppedSequences state.returned :=
    popped_sequences_quiet state.returned (.head head) rfl
  cases call with
  | pop =>
    by_cases empty : head < state.consumerSequence
    · simp only [afterHead, answer, empty, ↓reduceIte]
      exact (popped_sequences_quiet _ .nothing rfl).trans heads
    · simp only [afterHead, answer, empty, ↓reduceIte]
      exact heads
  | empty => exact (popped_sequences_quiet _ (.isEmpty _) rfl).trans heads
  | clear => exact (popped_sequences_quiet _ .cleared rfl).trans heads

theorem Placed.transfer {state next : PortState size Word} (placed : Placed state)
    (consumer : next.consumer = state.consumer) (consumerSequence : next.consumerSequence = state.consumerSequence)
    (producerSequence : state.producerSequence ≤ next.producerSequence)
    (published : publishedCount state ≤ publishedCount next)
    (head : ∀ cell, state.consumer.headCell = some cell → next.head.metadata cell = state.head.metadata cell) :
    Placed next := by
  unfold Placed at placed ⊢
  rw [consumer, consumerSequence]
  cases pc : state.consumer with
  | readHeadVersion call cell | readHeadLow call cell before | readHeadHigh call cell before low
  | readHeadVersionAgain call cell before low high =>
    rw [pc] at placed head
    simpa only [head cell rfl] using ⟨placed.1, Nat.le_trans placed.2 producerSequence⟩
  | releaseHead call cell snapshot =>
    rw [pc] at placed
    cases snapshot with
    | none => trivial
    | some value => exact ⟨placed.1, Nat.le_trans placed.2 producerSequence⟩
  | clearHazard cell result =>
    rw [pc] at placed
    cases result with
    | missing retry resync =>
      exact ⟨Nat.le_trans placed.1 producerSequence, Nat.le_trans placed.2 published⟩
    | found words => exact Nat.le_trans placed producerSequence
  | idle => trivial
  | loadHeadActive call => trivial
  | storeHeadHazard call cell => trivial
  | recheckHead call cell => trivial
  | clearHeadHazard call => trivial
  | _ =>
    rw [pc] at placed
    exact Nat.le_trans placed producerSequence

theorem oldest_bound (len head limit : Nat) (positive : 1 < len) (bound : head ≤ limit + 1) (some : 1 ≤ limit) :
    oldest len head ≤ limit := by
  unfold oldest
  split <;> omega

theorem oldest_head_bound (len head : Nat) (positive : 0 < len) (some : 1 ≤ head) : oldest len head ≤ head := by
  unfold oldest
  split <;> omega

theorem after_head_position (call : ConsumerCall) (head : Nat)
    (positive : 0 < len) (few : state.producerSequence + 1 < word64) (started : 1 ≤ state.consumerSequence)
    (ahead : state.consumerSequence ≤ state.producerSequence + 1)
    (ordered : (poppedSequences state.returned).Pairwise (· < ·))
    (behind : ∀ sequence ∈ poppedSequences state.returned, sequence < state.consumerSequence)
    (reached : state.consumerSequence ≤ head + 1) (announced : head ≤ state.producerSequence) :
    PositionInv (afterHead len state call head) := by
  have quiet := after_head_quiet len state call head
  have rebuild : ∀ position, (afterHead len state call head).consumerSequence = position →
      state.consumerSequence ≤ position → position ≤ state.producerSequence + 1 → Placed (afterHead len state call head) →
      (afterHead len state call head).producerSequence = state.producerSequence →
      PositionInv (afterHead len state call head) := by
    intro position here forward inside placed same
    refine ⟨?_, ?_, placed, ?_, ?_⟩
    · rw [here]
      exact Nat.le_trans started forward
    · rw [here, same]
      exact inside
    · rw [quiet]
      exact ordered
    · rw [quiet, here]
      intro sequence member
      exact Nat.lt_of_lt_of_le (behind sequence member) forward
  cases call with
  | pop =>
    by_cases empty : head < state.consumerSequence
    · refine rebuild state.consumerSequence ?_ (Nat.le_refl _) ahead ?_ ?_
      · simp only [afterHead, answer, empty, ↓reduceIte]
      · simp only [afterHead, answer, empty, ↓reduceIte, Placed]
      · simp only [afterHead, answer, empty, ↓reduceIte]
    · have rebased := oldest_head_bound len head positive (by omega)
      have forward : state.consumerSequence ≤
          (if state.consumerSequence < oldest len head then oldest len head else state.consumerSequence) := by
        split <;> omega
      have inside :
          (if state.consumerSequence < oldest len head then oldest len head else state.consumerSequence) ≤ head := by
        split <;> omega
      have taken := after_head_reads len state head empty
      refine rebuild _ ?_ forward (Nat.le_trans inside (Nat.le_succ_of_le announced)) ?_ ?_
      · rw [taken]
      · rw [taken]
        exact Nat.le_trans inside announced
      · rw [taken]
        rfl
  | empty => exact rebuild state.consumerSequence rfl (Nat.le_refl _) ahead trivial rfl
  | clear =>
    have next : (head + 1) % word64 = head + 1 := Nat.mod_eq_of_lt (by omega)
    exact rebuild (head + 1) next reached (Nat.add_le_add_right announced 1) trivial rfl

theorem after_target_position (result : TargetResult Word)
    (capacity : 1 < len) (few : state.producerSequence + 1 < word64) (started : 1 ≤ state.consumerSequence)
    (ordered : (poppedSequences state.returned).Pairwise (· < ·))
    (behind : ∀ sequence ∈ poppedSequences state.returned, sequence < state.consumerSequence)
    (reading : state.consumerSequence ≤ state.producerSequence)
    (published : ∀ retry resync, result = .missing retry resync → resync ≤ state.producerSequence + 1) :
    PositionInv (afterTarget len state result) := by
  cases result with
  | found words =>
    have next : (state.consumerSequence + 1) % word64 = state.consumerSequence + 1 := Nat.mod_eq_of_lt (by omega)
    have grown := popped_sequences_next state.returned state.consumerSequence words
    simp only [afterTarget, answer, next]
    refine ⟨Nat.le_succ_of_le started, Nat.add_le_add_right reading 1, trivial, ?_, ?_⟩
    · rw [grown]
      refine List.pairwise_append.mpr ⟨ordered, List.pairwise_singleton _ _, ?_⟩
      intro earlier member latest new
      rw [List.mem_singleton.mp new]
      exact behind earlier member
    · rw [grown]
      intro sequence member
      rcases List.mem_append.mp member with earlier | new
      · exact Nat.lt_succ_of_lt (behind sequence earlier)
      · rw [List.mem_singleton.mp new]
        exact Nat.lt_succ_self _
  | missing retry resync =>
    cases retry with
    | false =>
      have quiet := popped_sequences_quiet state.returned .nothing rfl
      simp only [afterTarget, answer]
      refine ⟨started, Nat.le_succ_of_le reading, trivial, ?_, ?_⟩
      · rw [quiet]
        exact ordered
      · rw [quiet]
        exact behind
    | true =>
      have rebased := oldest_bound len resync state.producerSequence capacity (published true resync rfl) (by omega)
      have forward : state.consumerSequence ≤
          (if state.consumerSequence < resync ∧ state.consumerSequence < oldest len resync then oldest len resync
            else state.consumerSequence) := by
        split <;> omega
      have inside :
          (if state.consumerSequence < resync ∧ state.consumerSequence < oldest len resync then oldest len resync
            else state.consumerSequence) ≤ state.producerSequence := by
        split <;> omega
      simp only [afterTarget]
      refine ⟨Nat.le_trans started forward, Nat.le_succ_of_le inside, trivial, ordered, ?_⟩
      intro sequence member
      exact Nat.lt_of_lt_of_le (behind sequence member) forward

variable (len : Nat) (state next : PortState size Word)

theorem producer_sequence_grows (publish : PublishInv len state)
    (few : state.pushes.length < word64) (taken : producerStep len state = some next) :
    state.producerSequence ≤ next.producerSequence := by
  by_cases store : ∃ cell, state.producer = .storeHeadActive cell
  · obtain ⟨cell, pc⟩ := store
    have counted := publish.counted
    rw [pc] at counted
    simp only [ProducerPc.unannounced] at counted
    have number : state.nextSequence = state.producerSequence + 1 := Nat.mod_eq_of_lt (by omega)
    simp only [producerStep, pc] at taken
    cases taken
    rw [number]
    exact Nat.le_succ _
  · have other : ∀ cell, state.producer ≠ .storeHeadActive cell := fun cell pc => store ⟨cell, pc⟩
    exact Nat.le_of_eq (producer_step_unpublishing len state next taken other).producerSequence.symm

theorem PositionInv.transfer {state next : PortState size Word} (position : PositionInv state)
    (consumer : next.consumer = state.consumer) (consumerSequence : next.consumerSequence = state.consumerSequence)
    (returned : next.returned = state.returned) (producerSequence : state.producerSequence ≤ next.producerSequence)
    (published : publishedCount state ≤ publishedCount next)
    (head : ∀ cell, state.consumer.headCell = some cell → next.head.metadata cell = state.head.metadata cell) :
    PositionInv next := by
  refine ⟨?_, ?_, position.placed.transfer consumer consumerSequence producerSequence published head, ?_, ?_⟩
  · rw [consumerSequence]
    exact position.started
  · rw [consumerSequence]
    exact Nat.le_trans position.ahead (Nat.add_le_add_right producerSequence 1)
  · rw [returned]
    exact position.ordered
  · rw [returned, consumerSequence]
    exact position.behind

theorem producer_step_position (inv : PortInv len state)
    (publish : PublishInv len state) (position : PositionInv state) (few : state.pushes.length < word64)
    (taken : producerStep len state = some next) : PositionInv next := by
  have moved := producer_step_moves len state next inv.hazard taken
  refine position.transfer moved.consumer moved.consumerSequence moved.returned
    (producer_sequence_grows len state next publish few taken) (producer_step_grown len state next taken).published ?_
  intro cell found
  exact (producer_step_frame len state next taken).head cell (inv.hazard.headSafe.validatedIdle cell found)

theorem push_position (message : Message size Word)
    (position : PositionInv state) (taken : portStep len state (.push message) = some next) : PositionInv next := by
  cases port_steps taken with
  | push _ pc =>
    refine position.transfer rfl rfl rfl (Nat.le_refl _) ?_ (fun _ _ => rfl)
    simp [publishedCount, pc, ProducerPc.unpublished]

theorem judged_resync (target cell resync : Nat) (snapshot : Option Nat) (stored : Nat) (retry : Bool)
    (judged : judgeSnapshot target cell snapshot stored = some (.missing retry resync : TargetResult Word)) :
    resync = target ∨ snapshot = some resync := by
  cases snapshot with
  | none =>
    cases judged
    exact .inl rfl
  | some sequence =>
    simp only [judgeSnapshot] at judged
    split at judged
    · cases judged
      exact .inl rfl
    · split at judged
      · cases judged
        exact .inr rfl
      · cases judged

theorem read_sequence_some (before low high after sequence : Nat)
    (read : readSequence before low high after = some sequence) : low + high * word32 = sequence := by
  unfold readSequence at read
  split at read
  · cases read
  · exact Option.some.inj read

theorem guarded_sequence_published (inv : PortInv len state) (cell : Nat) (guarded : state.consumer.slotCell = some cell) :
    ((state.slots (state.consumerIndex len)).metadata cell).sequence ≤ publishedCount state := by
  rcases inv.content.cells _ cell (validated_not_written len state inv.hazard cell guarded) with fresh | ⟨count, holds⟩
  · rw [fresh]
    exact Nat.zero_le _
  · rw [holds.sequence]
    exact Nat.le_trans (Nat.mod_le _ _) holds.published

theorem consumer_step_placed (inv : PortInv len state)
    (publish : PublishInv len state) (position : PositionInv state) (taken : consumerStep len state = some next)
    (quiet : ¬ Concludes len state next) : Placed next := by
  have placed := position.placed
  have held := inv.content.held
  have published := (published_bounds len state publish).1
  unfold Placed at placed
  cases pc : state.consumer with
  | idle => simp [consumerStep, pc] at taken
  | recheckHead call cell =>
    by_cases active : state.head.publishedActive = cell
    · have announced : (state.head.metadata cell).sequence = state.producerSequence := by
        rw [← active]
        exact publish.head
      simp only [consumerStep, pc, active, ne_eq, not_true_eq_false, ↓reduceIte] at taken
      cases taken
      refine ⟨?_, Nat.le_of_eq announced⟩
      rw [announced]
      exact position.ahead
    · simp only [consumerStep, pc, active, ne_eq, not_false_eq_true, ↓reduceIte] at taken
      cases taken
      trivial
  | readHeadVersionAgain call cell before low high =>
    have read : low + high * word32 = (state.head.metadata cell).sequence := by
      simpa only [Held, pc] using held
    rw [pc] at placed
    simp only [consumerStep, pc] at taken
    cases taken
    cases snapshot : readSequence before low high (state.head.metadata cell).version with
    | none => simp only [Placed]
    | some head =>
      have same := (read_sequence_some _ _ _ _ _ snapshot).symm.trans read
      simpa only [Placed, same] using placed
  | releaseHead call cell snapshot =>
    cases snapshot with
    | none =>
      simp only [consumerStep, pc] at taken
      cases taken
      trivial
    | some head =>
      simp only [consumerStep, pc, Option.some.injEq] at taken
      exact absurd (.head call cell head pc taken.symm) quiet
  | recheck cell =>
    rw [pc] at placed
    by_cases active : (state.slots (state.consumerIndex len)).publishedActive = cell <;>
      simp only [consumerStep, pc, active, ne_eq, not_true_eq_false, not_false_eq_true, ↓reduceIte,
        Option.some.injEq] at taken <;>
      subst taken <;> exact placed
  | abandonHazard =>
    simp only [consumerStep, pc, Option.some.injEq] at taken
    exact absurd (.abandon pc taken.symm) quiet
  | clearHazard cell result =>
    simp only [consumerStep, pc, Option.some.injEq] at taken
    exact absurd (.target cell result pc taken.symm) quiet
  | readVersionAgain cell before low high stored =>
    have read : low + high * word32 = ((state.slots (state.consumerIndex len)).metadata cell).sequence := by
      simpa only [Held, pc] using held
    have bound := guarded_sequence_published len state inv cell (by rw [pc]; rfl)
    rw [pc] at placed
    cases judged : (judgeSnapshot state.consumerSequence cell
        (readSequence before low high ((state.slots (state.consumerIndex len)).metadata cell).version) stored :
          Option (TargetResult Word)) with
    | none =>
      simp only [consumerStep, pc, judged] at taken
      cases taken
      exact placed
    | some result =>
      simp only [consumerStep, pc, judged] at taken
      cases taken
      cases result with
      | found words => exact placed
      | missing retry resync =>
        refine ⟨placed, ?_⟩
        rcases judged_resync _ _ _ _ _ _ judged with target | snapshot
        · rw [target]
          exact Nat.le_trans placed published
        · rw [← read_sequence_some _ _ _ _ _ snapshot, read]
          exact bound
  | copyMessage cell words =>
    rw [pc] at placed
    by_cases inside : words.length < size <;>
      simp only [consumerStep, pc, inside, ↓reduceDIte, Option.some.injEq] at taken <;>
      subst taken <;> exact placed
  | loadHeadActive call | storeHeadHazard call cell | clearHeadHazard call =>
    simp only [consumerStep, pc] at taken
    cases taken
    trivial
  | _ =>
    rw [pc] at placed
    simp only [consumerStep, pc] at taken
    cases taken
    exact placed

theorem consumer_step_position (inv : PortInv len state)
    (publish : PublishInv len state) (position : PositionInv state) (capacity : 1 < len)
    (few : state.producerSequence + 1 < word64) (taken : consumerStep len state = some next) : PositionInv next := by
  have placed := position.placed
  have published := published_bounds len state publish
  by_cases concluded : Concludes len state next
  · cases concluded with
    | head call cell head pc same =>
      rw [Placed, pc] at placed
      rw [same]
      exact after_head_position len _ call head (Nat.lt_of_succ_lt capacity) few position.started position.ahead
        position.ordered position.behind placed.1 placed.2
    | abandon pc same =>
      rw [Placed, pc] at placed
      rw [same]
      refine after_target_position len _ _ capacity few position.started position.ordered position.behind placed ?_
      intro retry resync missing
      cases missing
      exact Nat.le_succ_of_le placed
    | target cell result pc same =>
      rw [same]
      cases result with
      | found words =>
        rw [Placed, pc] at placed
        refine after_target_position len _ _ capacity few position.started position.ordered position.behind placed ?_
        intro retry resync missing
        cases missing
      | missing retry resync =>
        rw [Placed, pc] at placed
        refine after_target_position len _ _ capacity few position.started position.ordered position.behind
          placed.1 ?_
        intro _ _ missing
        cases missing
        exact Nat.le_trans placed.2 published.2
  · obtain ⟨consumerSequence, returned⟩ := (consumer_step_cases len state next taken).resolve_right concluded
    have moved := consumer_step_moves len state next inv.hazard taken
    have placed := consumer_step_placed len state next inv publish position taken concluded
    refine ⟨?_, ?_, placed, ?_, ?_⟩
    · rw [consumerSequence]
      exact position.started
    · rw [consumerSequence, moved.producerSequence]
      exact position.ahead
    · rw [returned]
      exact position.ordered
    · rw [returned, consumerSequence]
      exact position.behind

theorem few_numbers (publish : PublishInv len state)
    (few : state.pushes.length < word64 - 1) : state.producerSequence + 1 < word64 := by
  have counted := publish.counted
  omega

theorem port_step_position (action : PortAction size Word)
    (inv : PortInv len state) (publish : PublishInv len state) (position : PositionInv state) (capacity : 1 < len)
    (few : state.pushes.length < word64 - 1) (taken : portStep len state action = some next) : PositionInv next := by
  cases action with
  | push message => exact push_position len state next message position taken
  | producer => exact producer_step_position len state next inv publish position (by omega) taken
  | call call =>
    obtain ⟨_, same, _⟩ := call_moved len state next call taken
    subst same
    exact ⟨position.started, position.ahead, trivial, position.ordered, position.behind⟩
  | consumer =>
    exact consumer_step_position len state next inv publish position capacity (few_numbers len state publish few) taken

structure OrderInv (len : Nat) (state : PortState size Word) : Prop where
  port : PortInv len state
  publish : PublishInv len state
  position : PositionInv state

theorem reachable_order_inv (capacity : 1 < len) (bounded : len < word64) :
    ∀ state, Reachable (port len size Word) state → state.pushes.length < word64 - 1 → OrderInv len state := by
  have positive : 0 < len := Nat.lt_of_succ_lt capacity
  have publishing := fun state => reachable_publish_inv len positive bounded (state : PortState size Word)
  refine reachable_invariant_under (port len size Word) Always
    (fun state => PortInv len state ∧ (state.pushes.length < word64 → PublishInv len state))
    (fun state => state.pushes.length < word64 - 1 → OrderInv len state) ?_ ?_ ?_
  · intro state reached
    exact ⟨reachable_port_inv len positive bounded state reached, publishing state reached⟩
  · intro state initial _
    exact ⟨initial_port_inv len state initial, initial_publish_inv len state initial, initial_position_inv state initial⟩
  · intro state action next known knownNext order _ taken few
    have fewBefore := Nat.lt_of_le_of_lt (pushes_grow len state next action known.1 taken) few
    have before := order fewBefore
    exact ⟨knownNext.1, knownNext.2 (by omega),
      port_step_position len state next action before.port before.publish before.position capacity fewBefore taken⟩

end EncosDriver.Port
