import EncosDriver.Port.Skips

set_option autoImplicit false

namespace EncosDriver.Port

open Lib HazardCells PortState

variable {size : Nat} {Word : Type}

def settle (len : Nat) (action : PortAction size Word) : Nat → PortState size Word → PortState size Word
  | 0, state => state
  | fuel + 1, state =>
    match portStep len state action with
    | none => state
    | some next => settle len action fuel next

theorem settle_next (len fuel : Nat) (state next : PortState size Word) (action : PortAction size Word)
    (taken : portStep len state action = some next) :
    settle len action (fuel + 1) state = settle len action fuel next := by
  rw [settle, taken]

variable (len fuel : Nat) (state : PortState size Word)

theorem settle_done (action : PortAction size Word)
    (done : portStep len state action = none) : settle len action fuel state = state := by
  cases fuel with
  | zero => rfl
  | succ fuel => rw [settle, done]

theorem settle_reachable (len fuel : Nat) (action : PortAction size Word) (state : PortState size Word)
    (reached : Reachable (port len size Word) state) : Reachable (port len size Word) (settle len action fuel state) := by
  induction fuel generalizing state with
  | zero => exact reached
  | succ fuel ih =>
    cases taken : portStep len state action with
    | none => rw [settle_done len _ state action taken]; exact reached
    | some next =>
      rw [settle_next len fuel state next action taken]
      exact ih next (.next state next action reached trivial taken)

def prepareLeft : PrepareStage → Nat
  | .odd => 5
  | .low => 4
  | .high => 3
  | .cell => 2
  | .even => 1

def ProducerPc.left : ProducerPc size Word → Nat
  | .idle => 0
  | .storeHeadActive _ => 1
  | .prepareHead _ stage => prepareLeft stage + 1
  | .loadHeadHazard => 7
  | .storeActive _ => 8
  | .prepare _ _ stage => prepareLeft stage + 8
  | .copyPayload _ _ copied => size - copied + 14
  | .loadHazard _ => size + 15

theorem next_stage_left (stage next : PrepareStage) (follows : nextStage stage = some next) :
    prepareLeft next < prepareLeft stage := by
  cases stage <;> cases follows <;> decide

theorem next_head_stage_left (stage next : PrepareStage) (follows : nextHeadStage stage = some next) :
    prepareLeft next < prepareLeft stage := by
  cases stage <;> cases follows <;> decide

theorem prepare_left_positive (stage : PrepareStage) : 1 ≤ prepareLeft stage := by
  cases stage <;> decide

theorem producer_step_left (len : Nat) (state next : PortState size Word)
    (taken : producerStep len state = some next) : next.producer.left < state.producer.left := by
  cases producer_steps taken with
  | prepare message cell stage pc =>
    have positive := prepare_left_positive stage
    rw [pc]
    cases follows : nextStage stage with
    | none =>
      simp only [ProducerPc.left]
      omega
    | some following =>
      have less := next_stage_left stage following follows
      simp only [ProducerPc.left]
      omega
  | prepareHead cell stage pc =>
    have positive := prepare_left_positive stage
    rw [pc]
    cases follows : nextHeadStage stage with
    | none =>
      simp only [ProducerPc.left]
      omega
    | some following =>
      have less := next_head_stage_left stage following follows
      simp only [ProducerPc.left]
      omega
  | _ =>
    rename_i pc
    simp only [pc, ProducerPc.left, prepareLeft]
    omega

theorem producer_blocked (len : Nat) (state : PortState size Word) (blocked : producerStep len state = none) :
    state.producer = .idle := by
  cases pc : state.producer with
  | idle => rfl
  | copyPayload message cell copied => by_cases inside : copied < size <;> simp [producerStep, pc, inside] at blocked
  | _ => simp [producerStep, pc] at blocked

structure SameConsumer (state next : PortState size Word) : Prop where
  consumer : next.consumer = state.consumer
  consumerSequence : next.consumerSequence = state.consumerSequence
  pushes : next.pushes = state.pushes
  returned : next.returned = state.returned

theorem settle_producer (len : Nat) (positive : 0 < len) (bounded : len < word64) (fuel : Nat)
    (state : PortState size Word) (reached : Reachable (port len size Word) state)
    (enough : state.producer.left ≤ fuel) :
    (settle len .producer fuel state).producer = .idle ∧ SameConsumer state (settle len .producer fuel state) := by
  induction fuel generalizing state with
  | zero =>
    have idle : state.producer = .idle := by
      cases pc : state.producer with
      | idle => rfl
      | prepareHead cell stage => simp [pc, ProducerPc.left] at enough
      | prepare message cell stage => simp [pc, ProducerPc.left] at enough
      | _ => simp [pc, ProducerPc.left] at enough
    exact ⟨idle, rfl, rfl, rfl, rfl⟩
  | succ fuel ih =>
    cases taken : producerStep len state with
    | none =>
      rw [settle_done len _ state .producer taken]
      exact ⟨producer_blocked len state taken, rfl, rfl, rfl, rfl⟩
    | some next =>
      rw [settle_next len fuel state next .producer taken]
      have inv := reachable_port_inv len positive bounded state reached
      have moved := producer_step_moves len state next inv.hazard taken
      have less := producer_step_left len state next taken
      obtain ⟨idle, same⟩ := ih next (.next state next .producer reached trivial taken) (by omega)
      exact ⟨idle, same.consumer.trans moved.consumer, same.consumerSequence.trans moved.consumerSequence,
        same.pushes.trans moved.pushes, same.returned.trans moved.returned⟩

theorem after_head_consumer (len : Nat) (state : PortState size Word) (pc : ConsumerPc Word) (call : ConsumerCall)
    (head : Nat) : afterHead len { state with consumer := pc } call head = afterHead len state call head := by
  cases call with
  | pop =>
    by_cases empty : head < state.consumerSequence
    · simp [afterHead, answer, empty]
    · rw [after_head_reads len { state with consumer := pc } head empty, after_head_reads len state head empty]
      rfl
  | empty => rfl
  | clear => rfl

theorem read_sequence_settled (version low high : Nat) (even : version % 2 = 0) :
    readSequence version low high version = some (low + high * word32) := by
  simp [readSequence, even]

theorem settle_read_head (call : ConsumerCall) (pc : state.consumer = .loadHeadActive call) (legible : state.head.Legible) :
    settle len .consumer (fuel + 8) state =
      settle len .consumer fuel (afterHead len (state.setHeadHazard kPortNoHazard) call state.head.activeSequence) := by
  have snapshot := read_sequence_settled _ (state.head.metadata state.head.publishedActive).sequenceLow
    (state.head.metadata state.head.publishedActive).sequenceHigh legible
  have last : ∀ head, afterHead len
      (({ state.setHeadHazard state.head.publishedActive with
        consumer := .releaseHead call state.head.publishedActive (some head) } : PortState size Word).setHeadHazard
          kPortNoHazard) call head = afterHead len (state.setHeadHazard kPortNoHazard) call head := by
    intro head
    exact after_head_consumer len (state.setHeadHazard kPortNoHazard) _ call head
  rw [settle_next len _ state { state with consumer := .storeHeadHazard call state.head.publishedActive }]
  · rw [settle_next len _ _ { state.setHeadHazard state.head.publishedActive with
      consumer := .recheckHead call state.head.publishedActive } .consumer rfl]
    rw [settle_next len _ _ { state.setHeadHazard state.head.publishedActive with
      consumer := .readHeadVersion call state.head.publishedActive }]
    · rw [settle_next len _ _ _ .consumer rfl, settle_next len _ _ _ .consumer rfl, settle_next len _ _ _ .consumer rfl,
        settle_next len _ _ _ .consumer rfl]
      have read : readSequence (state.head.metadata state.head.publishedActive).version
          (state.head.metadata state.head.publishedActive).sequenceLow
          (state.head.metadata state.head.publishedActive).sequenceHigh
          (state.head.metadata state.head.publishedActive).version = some state.head.activeSequence := snapshot
      simp only [setHeadHazard, read]
      rw [settle_next len _ _ _ .consumer rfl]
      exact congrArg (settle len .consumer fuel) (last _)
    · simp [portStep, consumerStep, setHeadHazard]
  · simp [portStep, consumerStep, pc]

theorem settle_copy (len fuel copied : Nat) (state : PortState size Word) (cell : Nat) (words : List Word)
    (pc : state.consumer = .copyMessage cell words)
    (so_far : words = (List.ofFn ((state.slots (state.consumerIndex len)).payloads cell)).take words.length)
    (left : words.length + copied = size) :
    settle len .consumer (fuel + copied + 1) state = settle len .consumer fuel { state with
      consumer := .clearHazard cell (.found (List.ofFn ((state.slots (state.consumerIndex len)).payloads cell))) } := by
  induction copied generalizing state words with
  | zero =>
    have whole : words = List.ofFn ((state.slots (state.consumerIndex len)).payloads cell) := by
      rw [so_far]
      exact List.take_of_length_le (by rw [List.length_ofFn]; omega)
    have full : ¬ words.length < size := by omega
    refine settle_next len fuel state _ .consumer ?_
    simp only [portStep, consumerStep, pc, full, ↓reduceDIte]
    rw [← whole]
  | succ copied ih =>
    have inside : words.length < size := by omega
    have longer := take_next_word words _ so_far (by rw [List.length_ofFn]; exact inside)
    rw [List.getElem_ofFn] at longer
    have taken : portStep len state .consumer = some { state with
        consumer := .copyMessage cell
          (words ++ [(state.slots (state.consumerIndex len)).payloads cell ⟨words.length, inside⟩]) } := by
      simp only [portStep, consumerStep, pc, inside, ↓reduceDIte]
    rw [show fuel + (copied + 1) + 1 = fuel + copied + 1 + 1 by omega, settle_next len _ state _ .consumer taken]
    refine ih _ _ rfl longer ?_
    simp only [List.length_append, List.length_singleton]
    omega

abbrev PortState.target (len : Nat) (state : PortState size Word) : Slot size Word :=
  state.slots (slotIndex len state.consumerSequence)

theorem settle_validate (cell : Nat) (pc : state.consumer = .recheck cell)
    (active : (state.target len).publishedActive = cell) (legible : (state.target len).Legible)
    (current : (state.target len).activeSequence = state.consumerSequence) :
    settle len .consumer (fuel + 6) state =
      settle len .consumer fuel { state with consumer := .copyMessage cell [] } := by
  obtain ⟨even, own⟩ := legible
  rw [active] at even own
  have sequence : ((state.target len).metadata cell).sequenceLow +
      ((state.target len).metadata cell).sequenceHigh * word32 = state.consumerSequence := by
    rw [← current, Slot.activeSequence, active]
    rfl
  have judged : (judgeSnapshot state.consumerSequence cell (readSequence ((state.target len).metadata cell).version
      ((state.target len).metadata cell).sequenceLow ((state.target len).metadata cell).sequenceHigh
      ((state.target len).metadata cell).version) ((state.target len).metadata cell).cell :
        Option (TargetResult Word)) = none := by
    rw [read_sequence_settled _ _ _ even, own, sequence]
    simp [judgeSnapshot]
  have checked : portStep len state .consumer = some { state with consumer := .readVersion cell } := by
    simp only [portStep, consumerStep, pc, active, ne_eq, not_true_eq_false, ↓reduceIte]
  rw [settle_next len _ state _ .consumer checked, settle_next len _ _ _ .consumer rfl,
    settle_next len _ _ _ .consumer rfl, settle_next len _ _ _ .consumer rfl, settle_next len _ _ _ .consumer rfl]
  refine settle_next len fuel _ _ .consumer ?_
  simp only [portStep, consumerStep, judged]

/-- With the producer at rest, the slot of the position is read to its end. The slot's number is a variable here: its
definition must not be evaluated. -/
theorem settle_read_slot (len fuel index : Nat) (state : PortState size Word) (pc : state.consumer = .loadActive)
    (here : slotIndex len state.consumerSequence = index) (legible : (state.slots index).Legible)
    (current : (state.slots index).activeSequence = state.consumerSequence) :
    ∃ cleared : PortState size Word,
      settle len .consumer (fuel + size + 10) state = settle len .consumer fuel (afterTarget len cleared
        (.found (List.ofFn ((state.slots index).payloads (state.slots index).publishedActive)))) ∧
      cleared.consumerSequence = state.consumerSequence ∧ cleared.producer = state.producer ∧
      cleared.pushes = state.pushes ∧ cleared.returned = state.returned := by
  obtain ⟨cell, active⟩ : ∃ cell, (state.slots index).publishedActive = cell := ⟨_, rfl⟩
  obtain ⟨guarded, guard⟩ : ∃ guarded : PortState size Word,
      guarded = { state.setHazard index cell with consumer := .recheck cell } := ⟨_, rfl⟩
  have loaded : portStep len state .consumer = some { state with consumer := .storeHazard cell } := by
    simp only [portStep, consumerStep, pc, consumerIndex, here, active]
  have announced : portStep len ({ state with consumer := .storeHazard cell } : PortState size Word) .consumer =
      some guarded := by
    simp only [portStep, consumerStep, consumerIndex, here, guard]
    rfl
  have position : guarded.consumerSequence = state.consumerSequence := by rw [guard]; rfl
  have slot : guarded.slots index = { state.slots index with readerHazard := cell } := by
    rw [guard]
    exact set_slot_same state index _
  have target : guarded.target len = { state.slots index with readerHazard := cell } := by
    rw [PortState.target, position, here, slot]
  have validated := settle_validate len (fuel + 1 + size + 1) guarded cell (by rw [guard]) (by rw [target]; exact active)
    (by rw [target]; exact legible) (by rw [target, position]; exact current)
  have copied := settle_copy len (fuel + 1) size { guarded with consumer := .copyMessage cell [] } cell [] rfl rfl
    (Nat.zero_add size)
  have payloads : (({ guarded with consumer := .copyMessage cell [] } : PortState size Word).slots
      (({ guarded with consumer := .copyMessage cell [] } : PortState size Word).consumerIndex len)).payloads cell =
        (state.slots index).payloads cell := by
    simp only [consumerIndex, position, here, slot]
  rw [payloads] at copied
  rw [active]
  refine ⟨({ guarded with consumer := .clearHazard cell (.found (List.ofFn ((state.slots index).payloads cell))) } :
      PortState size Word).setHazard index kPortNoHazard, ?_, ?_⟩
  · rw [show fuel + size + 10 = fuel + 1 + size + 1 + 6 + 1 + 1 by omega, settle_next len _ state _ .consumer loaded,
      settle_next len _ _ guarded .consumer announced, validated, copied]
    refine settle_next len fuel _ _ .consumer ?_
    simp only [portStep, consumerStep, consumerIndex, position, here]
  · rw [guard]
    exact ⟨rfl, rfl, rfl, rfl⟩

end EncosDriver.Port
