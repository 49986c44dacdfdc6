import EncosDriver.Port.Position

set_option autoImplicit false

namespace EncosDriver.Port

open Lib HazardCells PortState

variable {size : Nat} {Word : Type}

def Overwritten (len : Nat) (state : PortState size Word) (sequence : Nat) : Prop :=
  ∃ newer, sequence + len ≤ newer ∧
    HoldsPush len state (slotIndex len sequence) (state.slots (slotIndex len sequence)).publishedActive newer

def Advances (len : Nat) (state next : PortState size Word) : Prop :=
  state.consumerSequence ≤ next.consumerSequence ∧
    ∀ sequence, state.consumerSequence ≤ sequence → sequence < next.consumerSequence →
      (∃ words, next.returned = state.returned ++ [.popped sequence words]) ∨
        (∃ head, next.returned = state.returned ++ [.head head, .cleared] ∧ sequence ≤ head) ∨
          Overwritten len state sequence

def ClearedPast (returned : List (Returned Word)) (sequence : Nat) : Prop :=
  ∃ earlier head later, returned = earlier ++ [.head head, .cleared] ++ later ∧ sequence ≤ head

theorem slot_index_small (len sequence : Nat) (started : 1 ≤ sequence) (small : sequence < word64) :
    slotIndex len sequence = (sequence - 1) % len := by
  have shifted : sequence + (word64 - 1) = sequence - 1 + word64 := by omega
  rw [slotIndex, shifted, Nat.add_mod_right, Nat.mod_eq_of_lt (show sequence - 1 < word64 by omega)]

theorem slot_index_next_lap (len sequence : Nat) (started : 1 ≤ sequence) (small : sequence + len < word64) :
    slotIndex len (sequence + len) = slotIndex len sequence := by
  have shifted : sequence + len - 1 = sequence - 1 + len := by omega
  rw [slot_index_small len _ (by omega) small, slot_index_small len _ started (by omega), shifted, Nat.add_mod_right]

theorem published_small (state : PortState size Word) (few : state.pushes.length < word64) :
    publishedCount state < word64 :=
  Nat.lt_of_le_of_lt (Nat.sub_le _ _) few

theorem overwritten_of_published (len : Nat) (state : PortState size Word) (inv : PortInv len state)
    (publish : PublishInv len state) (few : state.pushes.length < word64) (sequence : Nat) (started : 1 ≤ sequence)
    (published : sequence + len ≤ publishedCount state) : Overwritten len state sequence := by
  have small := published_small state few
  have lap := slot_index_next_lap len sequence started (by omega)
  have shown := publish.slots (sequence + len) (by omega) published
  obtain ⟨newer, holds⟩ := inv.content.touched (sequence + len) (by omega) published
  rw [Nat.mod_eq_of_lt (by omega), lap] at holds
  rw [lap, Slot.activeSequence, holds.sequence, Nat.mod_eq_of_lt (Nat.lt_of_le_of_lt holds.published small)] at shown
  exact ⟨newer, shown, holds⟩

theorem rebased_forward (limit position : Nat) : position ≤ if position < limit then limit else position := by
  split <;> omega

theorem rebased_skips (len head position sequence : Nat) (started : 1 ≤ position) (above : position ≤ sequence)
    (below : sequence < if position < oldest len head then oldest len head else position) : sequence + len ≤ head := by
  have older : sequence < oldest len head := by
    split at below
    · exact below
    · exact absurd below (Nat.not_lt.mpr above)
  unfold oldest at older
  split at older <;> omega

theorem after_head_advances (len : Nat) (state : PortState size Word) (call : ConsumerCall) (head : Nat)
    (small : head + 1 < word64) (started : 1 ≤ state.consumerSequence) (reached : state.consumerSequence ≤ head + 1)
    (overwritten : ∀ sequence, state.consumerSequence ≤ sequence → sequence + len ≤ head → Overwritten len state sequence) :
    Advances len state (afterHead len (state.setHeadHazard kPortNoHazard) call head) := by
  cases call with
  | pop =>
    by_cases empty : head < state.consumerSequence
    · have stays : (afterHead len (state.setHeadHazard kPortNoHazard) .pop head).consumerSequence =
          state.consumerSequence := by
        simp only [afterHead, answer, setHeadHazard, empty, ↓reduceIte]
      refine ⟨Nat.le_of_eq stays.symm, ?_⟩
      intro sequence above below
      omega
    · rw [after_head_reads len (state.setHeadHazard kPortNoHazard) head empty]
      refine ⟨rebased_forward (oldest len head) _, ?_⟩
      intro sequence above below
      exact .inr (.inr (overwritten sequence above (rebased_skips len head _ sequence started above below)))
  | empty =>
    refine ⟨Nat.le_refl _, ?_⟩
    intro sequence above below
    exact absurd below (Nat.not_lt.mpr above)
  | clear =>
    have next : (afterHead len (state.setHeadHazard kPortNoHazard) .clear head).consumerSequence = head + 1 :=
      Nat.mod_eq_of_lt small
    rw [Advances, next]
    refine ⟨reached, ?_⟩
    intro sequence above below
    refine .inr (.inl ⟨head, ?_, Nat.le_of_lt_succ below⟩)
    simp [afterHead, answer, setHeadHazard]

theorem after_target_advances (len : Nat) (state : PortState size Word) (index : Nat) (result : TargetResult Word)
    (small : state.consumerSequence + 1 < word64) (started : 1 ≤ state.consumerSequence)
    (overwritten : ∀ retry resync, result = .missing retry resync →
      ∀ sequence, state.consumerSequence ≤ sequence → sequence + len ≤ resync → Overwritten len state sequence) :
    Advances len state (afterTarget len (state.setHazard index kPortNoHazard) result) := by
  cases result with
  | found words =>
    have next : (afterTarget len (state.setHazard index kPortNoHazard) (.found words)).consumerSequence =
        state.consumerSequence + 1 := Nat.mod_eq_of_lt small
    rw [Advances, next]
    refine ⟨Nat.le_succ _, ?_⟩
    intro sequence above below
    have same : sequence = state.consumerSequence := by omega
    rw [same]
    exact .inl ⟨words, rfl⟩
  | missing retry resync =>
    cases retry with
    | false =>
      refine ⟨Nat.le_refl _, ?_⟩
      intro sequence above below
      exact absurd below (Nat.not_lt.mpr above)
    | true =>
      have moved : (afterTarget len (state.setHazard index kPortNoHazard) (.missing true resync)).consumerSequence =
          if state.consumerSequence < resync ∧ state.consumerSequence < oldest len resync then oldest len resync
          else state.consumerSequence := rfl
      rw [Advances, moved]
      by_cases lapped : state.consumerSequence < resync
      · simp only [lapped, true_and]
        refine ⟨rebased_forward (oldest len resync) _, ?_⟩
        intro sequence above below
        exact .inr (.inr (overwritten true resync rfl sequence above
          (rebased_skips len resync _ sequence started above below)))
      · simp only [lapped, false_and, ↓reduceIte]
        refine ⟨Nat.le_refl _, ?_⟩
        intro sequence above below
        exact absurd below (Nat.not_lt.mpr above)

variable (len : Nat) (state next : PortState size Word) (action : PortAction size Word)

theorem port_step_advances (order : OrderInv len state) (few : state.pushes.length < word64 - 1)
    (taken : portStep len state action = some next) : Advances len state next := by
  obtain ⟨inv, publish, position⟩ := order
  have placed := position.placed
  have published := (published_bounds len state publish).1
  have small := few_numbers len state publish few
  have behind : ∀ limit, limit ≤ publishedCount state → ∀ sequence, state.consumerSequence ≤ sequence →
      sequence + len ≤ limit → Overwritten len state sequence := by
    intro limit known sequence above lapped
    exact overwritten_of_published len state inv publish (by omega) sequence (Nat.le_trans position.started above)
      (Nat.le_trans lapped known)
  have unmoved : next.consumerSequence = state.consumerSequence → Advances len state next := by
    intro same
    rw [Advances, same]
    refine ⟨Nat.le_refl _, ?_⟩
    intro sequence above below
    exact absurd below (Nat.not_lt.mpr above)
  cases port_steps taken with
  | push message => exact unmoved rfl
  | producer => exact unmoved (producer_step_moves len state next inv.hazard taken).consumerSequence
  | call call => exact unmoved rfl
  | consumer =>
    rcases consumer_step_cases len state next taken with quiet | concluded
    · exact unmoved quiet.1
    · cases concluded with
      | head call cell head pc same =>
        rw [Placed, pc] at placed
        rw [same]
        exact after_head_advances len state call head (by omega) position.started placed.1
          (behind head (Nat.le_trans placed.2 published))
      | abandon pc same =>
        rw [Placed, pc] at placed
        rw [same]
        refine after_target_advances len state _ _ (by omega) position.started ?_
        intro retry resync missing
        cases missing
        exact behind state.consumerSequence (Nat.le_trans placed published)
      | target cell result pc same =>
        rw [same]
        cases result with
        | found words =>
          rw [Placed, pc] at placed
          refine after_target_advances len state _ _ (by omega) position.started ?_
          intro retry resync missing
          cases missing
        | missing retry resync =>
          rw [Placed, pc] at placed
          refine after_target_advances len state _ _ (by omega) position.started ?_
          intro _ _ missing
          cases missing
          exact behind resync placed.2

def Accounted (len : Nat) (state : PortState size Word) (sequence : Nat) : Prop :=
  sequence ∈ poppedSequences state.returned ∨ Overwritten len state sequence ∨ ClearedPast state.returned sequence

theorem returned_grows (inv : PortInv len state) (taken : portStep len state action = some next) :
    ∃ latest, next.returned = state.returned ++ latest := by
  cases port_steps taken with
  | push message => exact ⟨[], (List.append_nil _).symm⟩
  | producer =>
    refine ⟨[], ?_⟩
    rw [(producer_step_moves len state next inv.hazard taken).returned, List.append_nil]
  | call call => exact ⟨[], (List.append_nil _).symm⟩
  | consumer =>
    rcases consumer_step_cases len state next taken with quiet | concluded
    · exact ⟨[], by rw [quiet.2, List.append_nil]⟩
    · cases concluded with
      | head call cell head pc same =>
        subst same
        cases call with
        | pop =>
          by_cases empty : head < state.consumerSequence
          · refine ⟨[.head head, .nothing], ?_⟩
            simp [afterHead, answer, setHeadHazard, empty]
          · refine ⟨[.head head], ?_⟩
            simp [afterHead, answer, setHeadHazard, empty]
        | empty => exact ⟨[.head head, .isEmpty _], by simp [afterHead, answer, setHeadHazard]; rfl⟩
        | clear => exact ⟨[.head head, .cleared], by simp [afterHead, answer, setHeadHazard]⟩
      | abandon pc same =>
        subst same
        exact ⟨[], by simp [afterTarget, setHazard, setSlot]⟩
      | target cell result pc same =>
        subst same
        cases result with
        | found words => exact ⟨[.popped state.consumerSequence words], rfl⟩
        | missing retry resync =>
          cases retry with
          | false => exact ⟨[.nothing], rfl⟩
          | true => exact ⟨[], by simp [afterTarget, setHazard, setSlot]⟩

theorem Overwritten.lapped {len : Nat} {state : PortState size Word} {sequence : Nat}
    (overwritten : Overwritten len state sequence) : sequence + len ≤ publishedCount state := by
  obtain ⟨newer, lap, holds⟩ := overwritten
  exact Nat.le_trans lap holds.published

theorem published_grows (inv : PortInv len state) (taken : portStep len state action = some next) :
    publishedCount state ≤ publishedCount next := by
  cases port_steps taken with
  | push message pc =>
    simp [publishedCount, pc, ProducerPc.unpublished]
  | producer => exact (producer_step_grown len state next taken).published
  | call call => exact (consumer_moved_grown len state _ (call_moved len state _ call taken).2.2).published
  | consumer =>
    exact (consumer_moved_grown len state next (consumer_step_moves len state next inv.hazard taken)).published

theorem port_step_accounted (order : OrderInv len state) (orderNext : OrderInv len next) (few : state.pushes.length < word64 - 1)
    (fewNext : next.pushes.length < word64 - 1) (taken : portStep len state action = some next)
    (accounted : ∀ sequence, 1 ≤ sequence → sequence < state.consumerSequence → Accounted len state sequence)
    (sequence : Nat) (started : 1 ≤ sequence) (below : sequence < next.consumerSequence) : Accounted len next sequence := by
  have grown := published_grows len state next action order.port taken
  have kept : Overwritten len state sequence → Overwritten len next sequence := by
    intro overwritten
    exact overwritten_of_published len next orderNext.port orderNext.publish (by omega) sequence started
      (Nat.le_trans overwritten.lapped grown)
  by_cases earlier : sequence < state.consumerSequence
  · obtain ⟨latest, returned⟩ := returned_grows len state next action order.port taken
    rcases accounted sequence started earlier with popped | overwritten | ⟨before, head, later, history, covers⟩
    · left
      rw [returned, poppedSequences, List.filterMap_append]
      exact List.mem_append_left _ popped
    · exact .inr (.inl (kept overwritten))
    · refine .inr (.inr ⟨before, head, later ++ latest, ?_, covers⟩)
      rw [returned, history, List.append_assoc]
  · rcases (port_step_advances len state next action order few taken).2 sequence (Nat.le_of_not_lt earlier) below with
      ⟨words, returned⟩ | ⟨head, returned, covers⟩ | overwritten
    · left
      rw [returned, popped_sequences_next]
      exact List.mem_append_right _ (List.mem_singleton_self _)
    · refine .inr (.inr ⟨state.returned, head, [], ?_, covers⟩)
      rw [returned, List.append_nil]
    · exact .inr (.inl (kept overwritten))

theorem reachable_accounted (capacity : 1 < len) (bounded : len < word64) :
    ∀ state, Reachable (port len size Word) state → state.pushes.length < word64 - 1 →
      ∀ sequence, 1 ≤ sequence → sequence < state.consumerSequence → Accounted len state sequence := by
  have inv := fun state => reachable_port_inv len (Nat.lt_of_succ_lt capacity) bounded (state : PortState size Word)
  have order := fun state => reachable_order_inv len capacity bounded (state : PortState size Word)
  refine reachable_invariant_under (port len size Word) Always
    (fun state => PortInv len state ∧ (state.pushes.length < word64 - 1 → OrderInv len state))
    (fun state => state.pushes.length < word64 - 1 →
      ∀ sequence, 1 ≤ sequence → sequence < state.consumerSequence → Accounted len state sequence)
    (fun state reached => ⟨inv state reached, order state reached⟩) ?_ ?_
  · intro state initial _ sequence started below
    rw [initial.consumerSequence] at below
    omega
  · intro state action next known knownNext accounted _ taken few
    have fewBefore := Nat.lt_of_le_of_lt (pushes_grow len state next action known.1 taken) few
    exact port_step_accounted len state next action (known.2 fewBefore) (knownNext.2 few) fewBefore few taken
      (accounted fewBefore)

end EncosDriver.Port
