import EncosDriver.Port.ConsumerContent

set_option autoImplicit false

namespace EncosDriver.Port

open Lib HazardCells PortState

variable {size : Nat} {Word : Type}

variable (len : Nat) (state next : PortState size Word)

theorem producer_step_hazard (inv : HazardInv len state) (taken : producerStep len state = some next) : HazardInv len next := by
  have moved := producer_step_moves len state next inv taken
  have announced := inv.announced
  refine ⟨?_, moves_safe _ _ inv.headSafe moved.head, moved.slotsActive, moved.headActive, ?_⟩
  · intro index
    exact moves_safe _ _ (inv.slotsSafe index) (moved.slots index)
  · simpa only [Announced, consumerIndex, moved.consumer, moved.consumerSequence, moved.slotHazard,
      moved.headHazard] using announced

theorem consumer_moved_hazard (inv : HazardInv len state) (moved : ConsumerMoved len state next) : HazardInv len next := by
  refine ⟨?_, moves_safe _ _ inv.headSafe moved.head, ?_, ?_, moved.announced⟩
  · intro index
    exact moves_safe _ _ (inv.slotsSafe index) (moved.slots index)
  · intro index
    obtain ⟨hazard, same⟩ := moved.slotData index
    rw [same]
    exact inv.slotsActive index
  · obtain ⟨hazard, same⟩ := moved.headData
    rw [same]
    exact inv.headActive

structure PortInv (len : Nat) (state : PortState size Word) : Prop where
  hazard : HazardInv len state
  content : ContentInv len state

theorem initial_port_inv (initial : InitialPort state) : PortInv len state := by
  have empty : publishedCount state = 0 := by
    simp [publishedCount, initial.pushes]
  refine ⟨initial_hazard_inv len state initial, ?_, ?_, ?_, ?_, ?_, ?_, ?_, ?_, ?_⟩
  · intro index cell _
    left
    obtain ⟨payloads, slot⟩ := initial.slots index
    simp [slot, PortSequenceMetadata.sequence]
  · intro count counted published
    rw [empty] at published
    omega
  · intro cell _
    left
    simp [initial.head, PortSequenceMetadata.sequence]
  · exact .inl initial.producer
  · simp [Staged, initial.producer, initial.pushes, initial.producerSequence]
  · simp [Held, initial.consumer]
  · intro cell found
    simp [initial.consumer, ConsumerPc.slotCell] at found
  · intro zero
    simp [initial.consumerSequence] at zero
  · intro value member
    simp [initial.returned] at member

theorem push_preserves (message : Message size Word)
    (inv : PortInv len state) (taken : portStep len state (.push message) = some next) : PortInv len next := by
  obtain ⟨hazard, content⟩ := inv
  cases port_steps taken with
  | push _ pc =>
    have published : publishedCount { state with
        producer := .loadHazard message, pushes := state.pushes ++ [message] } = publishedCount state := by
      simp [publishedCount, pc, ProducerPc.unpublished]
    have grown : Grown state { state with producer := .loadHazard message, pushes := state.pushes ++ [message] } :=
      ⟨List.prefix_append _ _, Nat.le_of_eq published.symm⟩
    refine ⟨⟨?_, ?_, hazard.slotsActive, hazard.headActive, hazard.announced⟩, ?_, ?_, ?_, ?_, ?_, ?_, ?_, ?_, ?_⟩
    · intro index
      have safe := hazard.slotsSafe index
      simpa [slotCells, writtenCell, validatedCell, pc, ProducerPc.slotCell] using safe
    · have safe := hazard.headSafe
      simpa [headCells, pc, ProducerPc.headCell] using safe
    · intro index cell _
      have idle : writtenCell len state index ≠ some cell := by
        simp [writtenCell, pc, ProducerPc.slotCell]
      rcases content.cells index cell idle with fresh | ⟨count, holds⟩
      · exact .inl fresh
      · exact .inr ⟨count, holds.grow grown rfl rfl⟩
    · intro count counted below
      rw [published] at below
      obtain ⟨old, holds⟩ := content.touched count counted below
      exact ⟨old, holds.grow grown rfl rfl⟩
    · intro cell _
      have idle : state.producer.headCell ≠ some cell := by
        simp [pc, ProducerPc.headCell]
      exact (content.head cell idle).grow grown
    · right
      have number : state.producerSequence = state.pushes.length % word64 := by
        simpa only [Staged, pc] using content.staged
      refine ⟨?_, by simp⟩
      simp only [nextSequence, number, List.length_append, List.length_singleton, Nat.mod_add_mod]
    · simp [Staged]
    · exact content.held.transfer grown rfl rfl (fun _ _ => rfl) (fun _ _ => rfl) (fun _ _ => rfl)
    · intro cell found
      rcases content.grounded cell found with started | ⟨count, holds⟩
      · exact .inl started
      · exact .inr ⟨count, holds.grow grown rfl rfl⟩
    · intro zero
      exact Nat.le_trans (content.wrapped zero) grown.published
    · intro value member
      exact (content.returned value member).grow grown

variable (call : ConsumerCall)

theorem call_preserves
    (inv : PortInv len state) (taken : portStep len state (.call call) = some next) : PortInv len next := by
  obtain ⟨hazard, content⟩ := inv
  cases port_steps taken with
  | call _ pc =>
    have moved : ConsumerMoved len state { state with consumer := .loadHeadActive call } :=
      consumer_load_moves len state _ (by rw [pc]; rfl) (by rw [pc]; rfl) trivial
    exact ⟨consumer_moved_hazard len state _ hazard moved,
      consumer_load_content len state _ content moved trivial (by rw [pc]; rfl)⟩

theorem port_step_preserves (positive : 0 < len) (bounded : len < word64)
    (state next : PortState size Word) (action : PortAction size Word) (inv : PortInv len state)
    (taken : portStep len state action = some next) : PortInv len next := by
  cases action with
  | push message => exact push_preserves len state next message inv taken
  | producer =>
    exact ⟨producer_step_hazard len state next inv.hazard taken,
      producer_step_content len state next inv.hazard inv.content taken⟩
  | call call => exact call_preserves len state next call inv taken
  | consumer =>
    exact ⟨consumer_moved_hazard len state next inv.hazard (consumer_step_moves len state next inv.hazard taken),
      consumer_step_content len state next positive bounded inv.hazard inv.content taken⟩

theorem reachable_port_inv (positive : 0 < len) (bounded : len < word64) :
    ∀ state, Reachable (port len size Word) state → PortInv len state := by
  refine reachable_invariant (port len size Word) Always (PortInv len) (initial_port_inv len) ?_
  intro state action next inv _ taken
  exact port_step_preserves len positive bounded state next action inv taken

variable (action : PortAction size Word)

theorem port_step_moves
    (inv : PortInv len state) (taken : portStep len state action = some next) :
    (∀ index, Moves (slotCells len state index) (slotCells len next index)) ∧
      Moves (headCells state) (headCells next) := by
  cases port_steps taken with
  | push message pc =>
    refine ⟨fun index => moves_of_eq .stay ?_, moves_of_eq .stay ?_⟩
    · simp [slotCells, writtenCell, validatedCell, pc, ProducerPc.slotCell]
    · simp [headCells, pc, ProducerPc.headCell]
  | producer =>
    have moved := producer_step_moves len state next inv.hazard taken
    exact ⟨moved.slots, moved.head⟩
  | call call pc =>
    refine ⟨fun index => moves_of_eq .stay ?_, moves_of_eq .stay ?_⟩
    · simp [slotCells, writtenCell, validatedCell, pc, ConsumerPc.slotCell]
    · simp [headCells, pc, ConsumerPc.headCell]
  | consumer =>
    have moved := consumer_step_moves len state next inv.hazard taken
    exact ⟨moved.slots, moved.head⟩

theorem port_step_spares_slot
    (inv : PortInv len state) (taken : portStep len state action = some next) (index cell : Nat)
    (guarded : validatedCell len state index = some cell) :
    (next.slots index).payloads cell = (state.slots index).payloads cell ∧
      (next.slots index).metadata cell = (state.slots index).metadata cell := by
  have idle : writtenCell len state index ≠ some cell := (inv.hazard.slotsSafe index).validatedIdle cell guarded
  cases port_steps taken with
  | push message => exact ⟨rfl, rfl⟩
  | producer =>
    have frame := producer_step_frame len state next taken
    exact ⟨frame.payloads index cell idle, frame.metadata index cell idle⟩
  | call call => exact ⟨rfl, rfl⟩
  | consumer =>
    obtain ⟨hazard, same⟩ := (consumer_step_moves len state next inv.hazard taken).slotData index
    rw [same]
    exact ⟨rfl, rfl⟩

theorem port_step_spares_head
    (inv : PortInv len state) (taken : portStep len state action = some next) (cell : Nat)
    (guarded : state.consumer.headCell = some cell) :
    next.head.metadata cell = state.head.metadata cell := by
  have idle : state.producer.headCell ≠ some cell := inv.hazard.headSafe.validatedIdle cell guarded
  cases port_steps taken with
  | push message => rfl
  | producer => exact (producer_step_frame len state next taken).head cell idle
  | call call => rfl
  | consumer =>
    obtain ⟨hazard, same⟩ := (consumer_step_moves len state next inv.hazard taken).headData
    rw [same]

-- The promises of the protocol in a reachable state. The consumer protects a
-- cell from the re-check that finds it active again up to the store that clears
-- the hazard.
structure PortSafe (len : Nat) (state : PortState size Word) : Prop where
  protects : ∀ cell, state.consumer = .recheck cell →
    (state.slots (state.consumerIndex len)).publishedActive = cell →
    ∀ next, portStep len state .consumer = some next → validatedCell len next (state.consumerIndex len) = some cell
  hazardKept : ∀ index cell, validatedCell len state index = some cell → (state.slots index).readerHazard = cell
  untilCleared : ∀ index cell action next, validatedCell len state index = some cell →
    portStep len state action = some next →
    validatedCell len next index = some cell ∨ (next.slots index).readerHazard = kPortNoHazard
  notWritten : ∀ index cell, validatedCell len state index = some cell → writtenCell len state index ≠ some cell
  slotKept : ∀ index cell last,
    RunsWhile (port len size Word) (fun state => validatedCell len state index = some cell) state last →
    (last.slots index).payloads cell = (state.slots index).payloads cell ∧
      (last.slots index).metadata cell = (state.slots index).metadata cell
  headProtects : ∀ call cell, state.consumer = .recheckHead call cell → state.head.publishedActive = cell →
    ∀ next, portStep len state .consumer = some next → next.consumer.headCell = some cell
  headHazardKept : ∀ cell, state.consumer.headCell = some cell → state.head.readerHazard = cell
  headUntilCleared : ∀ cell action next, state.consumer.headCell = some cell →
    portStep len state action = some next →
    next.consumer.headCell = some cell ∨ next.head.readerHazard = kPortNoHazard
  headNotWritten : ∀ cell, state.consumer.headCell = some cell → state.producer.headCell ≠ some cell
  headKept : ∀ cell last,
    RunsWhile (port len size Word) (fun state => state.consumer.headCell = some cell) state last →
    last.head.metadata cell = state.head.metadata cell
  popped : ∀ sequence words, .popped sequence words ∈ state.returned →
    ∃ count message, 1 ≤ count ∧ state.pushes[count - 1]? = some message ∧ sequence = count % 2 ^ 64 ∧
      words = List.ofFn message
  headRead : ∀ head, .head head ∈ state.returned →
    head = 0 ∨ ∃ count, 1 ≤ count ∧ count ≤ state.pushes.length ∧ head = count % 2 ^ 64
  headHeld : ∀ call cell head, state.consumer = .releaseHead call cell (some head) → head = (state.head.metadata cell).sequence
  headReturned : ∀ action next head, portStep len state action = some next → .head head ∈ next.returned.drop state.returned.length →
    ∃ call cell, state.consumer = .releaseHead call cell (some head)

theorem recheck_protects (cell : Nat)
    (pc : state.consumer = .recheck cell) (active : (state.slots (state.consumerIndex len)).publishedActive = cell)
    (taken : portStep len state .consumer = some next) :
    validatedCell len next (state.consumerIndex len) = some cell := by
  simp only [portStep, consumerStep, pc, active, ne_eq, not_true_eq_false, ↓reduceIte] at taken
  cases taken
  simp [validatedCell, ConsumerPc.slotCell]

theorem recheck_head_protects (cell : Nat)
    (pc : state.consumer = .recheckHead call cell) (active : state.head.publishedActive = cell)
    (taken : portStep len state .consumer = some next) : next.consumer.headCell = some cell := by
  simp only [portStep, consumerStep, pc, active, ne_eq, not_true_eq_false, ↓reduceIte] at taken
  cases taken
  rfl

inductive Concludes (len : Nat) (state next : PortState size Word) : Prop where
  | head (call : ConsumerCall) (cell head : Nat) (pc : state.consumer = .releaseHead call cell (some head))
      (same : next = afterHead len (state.setHeadHazard kPortNoHazard) call head)
  | abandon (pc : state.consumer = .abandonHazard)
      (same : next = afterTarget len (state.setHazard (state.consumerIndex len) kPortNoHazard)
        (.missing true state.consumerSequence))
  | target (cell : Nat) (result : TargetResult Word) (pc : state.consumer = .clearHazard cell result)
      (same : next = afterTarget len (state.setHazard (state.consumerIndex len) kPortNoHazard) result)

theorem consumer_step_cases (taken : consumerStep len state = some next) :
    (next.consumerSequence = state.consumerSequence ∧ next.returned = state.returned) ∨ Concludes len state next := by
  cases pc : state.consumer with
  | idle => simp [consumerStep, pc] at taken
  | recheckHead call cell =>
    by_cases active : state.head.publishedActive = cell <;>
      simp only [consumerStep, pc, active, ne_eq, not_true_eq_false, not_false_eq_true, ↓reduceIte,
        Option.some.injEq] at taken <;>
      subst taken <;> exact .inl ⟨rfl, rfl⟩
  | recheck cell =>
    by_cases active : (state.slots (state.consumerIndex len)).publishedActive = cell <;>
      simp only [consumerStep, pc, active, ne_eq, not_true_eq_false, not_false_eq_true, ↓reduceIte,
        Option.some.injEq] at taken <;>
      subst taken <;> exact .inl ⟨rfl, rfl⟩
  | releaseHead call cell snapshot =>
    cases snapshot with
    | none =>
      simp only [consumerStep, pc] at taken
      cases taken
      exact .inl ⟨rfl, rfl⟩
    | some head =>
      simp only [consumerStep, pc, Option.some.injEq] at taken
      exact .inr (.head call cell head pc taken.symm)
  | abandonHazard =>
    simp only [consumerStep, pc, Option.some.injEq] at taken
    exact .inr (.abandon pc taken.symm)
  | clearHazard cell result =>
    simp only [consumerStep, pc, Option.some.injEq] at taken
    exact .inr (.target cell result pc taken.symm)
  | copyMessage cell words =>
    by_cases inside : words.length < size <;>
      simp only [consumerStep, pc, inside, ↓reduceDIte, Option.some.injEq] at taken <;>
      subst taken <;> exact .inl ⟨rfl, rfl⟩
  | _ =>
    simp only [consumerStep, pc] at taken
    cases taken
    exact .inl ⟨rfl, rfl⟩

theorem producer_returned (taken : producerStep len state = some next) : next.returned = state.returned := by
  cases producer_steps taken <;> rfl

theorem after_head_returned (head : Nat) :
    ∃ answers, (afterHead len state call head).returned = state.returned ++ .head head :: answers ∧
      ∀ other, .head other ∉ answers := by
  cases call with
  | pop =>
    by_cases behind : head < state.consumerSequence
    · exact ⟨[.nothing], by simp [afterHead, answer, behind], by simp⟩
    · exact ⟨[], by simp [afterHead, answer, behind], by simp⟩
  | empty => exact ⟨[.isEmpty (decide (head < state.consumerSequence))], List.append_assoc _ _ _, by simp⟩
  | clear => exact ⟨[.cleared], List.append_assoc _ _ _, by simp⟩

theorem after_target_returned (result : TargetResult Word) :
    ∃ answers, (afterTarget len state result).returned = state.returned ++ answers ∧ ∀ other, .head other ∉ answers := by
  cases result with
  | found words => exact ⟨[.popped state.consumerSequence words], rfl, by simp⟩
  | missing retry resync =>
    cases retry with
    | false => exact ⟨[.nothing], rfl, by simp⟩
    | true => exact ⟨[], (List.append_nil _).symm, by simp⟩

theorem head_returned (head : Nat) (taken : portStep len state action = some next)
    (new : .head head ∈ next.returned.drop state.returned.length) :
    ∃ call cell, state.consumer = .releaseHead call cell (some head) := by
  have changed : next.returned ≠ state.returned := by
    intro same
    rw [same, List.drop_length] at new
    cases new
  cases port_steps taken with
  | push message => exact absurd (rfl) changed
  | producer => exact absurd (producer_returned len state next taken) changed
  | call call => exact absurd (rfl) changed
  | consumer =>
    rcases consumer_step_cases len state next taken with ⟨-, same⟩ | concluded
    · exact absurd same changed
    · cases concluded with
      | head call cell read pc same =>
        obtain ⟨answers, returned, none⟩ := after_head_returned len (state.setHeadHazard kPortNoHazard) call read
        rw [same, returned] at new
        have split : (state.setHeadHazard kPortNoHazard).returned = state.returned := rfl
        rw [split, List.drop_left] at new
        rcases List.mem_cons.mp new with this | other
        · cases this
          exact ⟨call, cell, pc⟩
        · exact absurd other (none head)
      | abandon pc same =>
        obtain ⟨answers, returned, none⟩ := after_target_returned len
          (state.setHazard (state.consumerIndex len) kPortNoHazard) (.missing true state.consumerSequence)
        have split : (state.setHazard (state.consumerIndex len) kPortNoHazard).returned = state.returned := rfl
        rw [same, returned, split, List.drop_left] at new
        exact absurd new (none head)
      | target cell result pc same =>
        obtain ⟨answers, returned, none⟩ := after_target_returned len
          (state.setHazard (state.consumerIndex len) kPortNoHazard) result
        have split : (state.setHazard (state.consumerIndex len) kPortNoHazard).returned = state.returned := rfl
        rw [same, returned, split, List.drop_left] at new
        exact absurd new (none head)

theorem port_hazard_safety (len size : Nat) (Word : Type) (capacity : 2 < len) (bounded : len < 2 ^ 64)
    (state : PortState size Word) (reached : Reachable (port len size Word) state) : PortSafe len state := by
  have positive : 0 < len := by omega
  have bounded64 : len < word64 := by
    rw [word64_value]
    exact bounded
  have invariant := fun state => reachable_port_inv len positive bounded64 (state : PortState size Word)
  have inv := invariant state reached
  refine ⟨fun cell pc active next taken => recheck_protects len state next cell pc active taken,
    fun index cell guarded => (inv.hazard.slotsSafe index).validatedHazard cell guarded, ?_,
    fun index cell guarded => (inv.hazard.slotsSafe index).validatedIdle cell guarded, ?_,
    fun call cell pc active next taken => recheck_head_protects len state next call cell pc active taken,
    fun cell guarded => inv.hazard.headSafe.validatedHazard cell guarded, ?_,
    fun cell guarded => inv.hazard.headSafe.validatedIdle cell guarded, ?_, ?_, ?_, ?_,
    fun action next head taken new => head_returned len state next action head taken new⟩
  · intro index cell action next guarded taken
    exact moves_until_cleared _ _ ((port_step_moves len state next action inv taken).1 index) cell guarded
  · intro index cell last ran
    have data := runs_while_constant (port len size Word) (fun state => validatedCell len state index = some cell)
      (fun state => ((state.slots index).payloads cell, (state.slots index).metadata cell)) ?_ state last reached ran
    · exact Prod.mk.inj data
    · intro before action after visited guarded taken
      have spared := port_step_spares_slot len before after action (invariant before visited) taken index cell guarded
      exact Prod.ext spared.1 spared.2
  · intro cell action next guarded taken
    exact moves_until_cleared _ _ (port_step_moves len state next action inv taken).2 cell guarded
  · intro cell last ran
    refine runs_while_constant (port len size Word) (fun state => state.consumer.headCell = some cell)
      (fun state => state.head.metadata cell) ?_ state last reached ran
    intro before action after visited guarded taken
    exact port_step_spares_head len before after action (invariant before visited) taken cell guarded
  · intro sequence words member
    obtain ⟨count, message, counted, _, pushed, number, copied⟩ := inv.content.returned _ member
    rw [word64_value] at number
    exact ⟨count, message, counted, pushed, number, copied⟩
  · intro head member
    rcases inv.content.returned _ member with zero | ⟨count, counted, published, number⟩
    · exact .inl zero
    · rw [word64_value] at number
      exact .inr ⟨count, counted, Nat.le_trans published (Nat.sub_le _ _), number⟩
  · intro call cell head pc
    have held := inv.content.held
    rwa [Held, pc] at held

def emptyPort (message : Message size Word) : PortState size Word where
  slots := fun _ => ⟨fun _ => message, fun _ => {}, kPortNoHazard, 0, 0⟩
  head := ⟨fun _ => {}, kPortNoHazard, 0, 0⟩
  producerSequence := 0
  consumerSequence := 1
  producer := .idle
  consumer := .idle
  pushes := []
  returned := []

theorem empty_port_initial (message : Message size Word) : InitialPort (emptyPort message) :=
  ⟨fun _ => ⟨_, rfl⟩, rfl, rfl, rfl, rfl, rfl, rfl, rfl⟩

def pushThenPop : List (PortAction 1 Nat) :=
  .push (fun _ => 7) :: List.replicate 15 .producer ++ .call .pop :: List.replicate 19 .consumer

theorem port_hazard_safety_first_pop :
    ∃ state : PortState 1 Nat, Reachable (port 3 1 Nat) state ∧ .popped 1 [7] ∈ state.returned ∧ PortSafe 3 state := by
  have ran : (runActions (port 3 1 Nat) (emptyPort fun _ => 0) pushThenPop).map (fun state => state.returned) =
      some [.head 1, .popped 1 [7]] := by
    decide +kernel
  obtain ⟨final, run, returned⟩ := Option.map_eq_some_iff.mp ran
  have start : Reachable (port 3 1 Nat) (emptyPort fun _ => 0) := .start _ (empty_port_initial _)
  have reached := run_actions_reachable (port 3 1 Nat) pushThenPop _ final start run
  refine ⟨final, reached, ?_, port_hazard_safety 3 1 Nat (by decide) (by decide) final reached⟩
  rw [returned]
  simp

end EncosDriver.Port
