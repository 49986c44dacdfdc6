import EncosDriver.Port.Moves

set_option autoImplicit false

namespace EncosDriver.Port

open Lib HazardCells PortState

variable {size : Nat} {Word : Type}

def PortSequenceMetadata.sequence (metadata : PortSequenceMetadata) : Nat :=
  metadata.sequenceLow + metadata.sequenceHigh * word32

def ProducerPc.unpublished : ProducerPc size Word → Nat
  | .loadHazard _ | .copyPayload _ _ _ | .prepare _ _ _ | .storeActive _ => 1
  | _ => 0

def publishedCount (state : PortState size Word) : Nat := state.pushes.length - state.producer.unpublished

structure HoldsPush (len : Nat) (state : PortState size Word) (index cell count : Nat) : Prop where
  counted : 1 ≤ count
  published : count ≤ publishedCount state
  placed : slotIndex len (count % word64) = index
  pushed : state.pushes[count - 1]? = some ((state.slots index).payloads cell)
  sequence : ((state.slots index).metadata cell).sequence = count % word64

def CellSound (len : Nat) (state : PortState size Word) (index cell : Nat) : Prop :=
  ((state.slots index).metadata cell).sequence = 0 ∨ ∃ count, HoldsPush len state index cell count

def HeadValue (state : PortState size Word) (head : Nat) : Prop :=
  head = 0 ∨ ∃ count, 1 ≤ count ∧ count ≤ publishedCount state ∧ head = count % word64

def PoppedPush (state : PortState size Word) (sequence : Nat) (words : List Word) : Prop :=
  ∃ count message, 1 ≤ count ∧ count ≤ publishedCount state ∧ state.pushes[count - 1]? = some message ∧
    sequence = count % word64 ∧ words = List.ofFn message

def Prepared (metadata : PortSequenceMetadata) (sequence : Nat) : PrepareStage → Prop
  | .odd | .low => True
  | .high => metadata.sequenceLow = sequence % word32
  | .cell | .even => metadata.sequence = sequence

def Staged (len : Nat) (state : PortState size Word) : Prop :=
  let slot := state.slots (state.producerIndex len)
  match state.producer with
  | .idle => state.producerSequence = state.pushes.length % word64
  | .loadHazard message => state.pushes.getLast? = some message
  | .copyPayload message cell copied =>
    state.pushes.getLast? = some message ∧
      ∀ offset : Fin size, offset.val < copied → slot.payloads cell offset = message offset
  | .prepare message cell stage =>
    state.pushes.getLast? = some message ∧ slot.payloads cell = message ∧
      Prepared (slot.metadata cell).toPortSequenceMetadata state.nextSequence stage
  | .storeActive cell =>
    state.pushes.getLast? = some (slot.payloads cell) ∧ (slot.metadata cell).sequence = state.nextSequence
  | .loadHeadHazard => True
  | .prepareHead cell stage => Prepared (state.head.metadata cell) state.nextSequence stage
  | .storeHeadActive cell => (state.head.metadata cell).sequence = state.nextSequence

def Numbered (state : PortState size Word) : Prop :=
  state.producer = .idle ∨ (state.nextSequence = state.pushes.length % word64 ∧ 1 ≤ state.pushes.length)

def Held (len : Nat) (state : PortState size Word) : Prop :=
  let slot := state.slots (state.consumerIndex len)
  match state.consumer with
  | .readHeadHigh _ cell _ low => low = (state.head.metadata cell).sequenceLow
  | .readHeadVersionAgain _ cell _ low high => low + high * word32 = (state.head.metadata cell).sequence
  | .releaseHead _ cell (some head) => head = (state.head.metadata cell).sequence
  | .readHigh cell _ low => low = (slot.metadata cell).sequenceLow
  | .readCell cell _ low high | .readVersionAgain cell _ low high _ =>
    low + high * word32 = (slot.metadata cell).sequence
  | .copyMessage cell words =>
    PoppedPush state state.consumerSequence (List.ofFn (slot.payloads cell)) ∧
      words = (List.ofFn (slot.payloads cell)).take words.length
  | .clearHazard _ (.found words) => PoppedPush state state.consumerSequence words
  | _ => True

def ReturnedSound (state : PortState size Word) : Returned Word → Prop
  | .popped sequence words => PoppedPush state sequence words
  | .head head => HeadValue state head
  | _ => True

structure ContentInv (len : Nat) (state : PortState size Word) : Prop where
  cells : ∀ index cell, writtenCell len state index ≠ some cell → CellSound len state index cell
  touched : ∀ count, 1 ≤ count → count ≤ publishedCount state →
    ∃ held, HoldsPush len state (slotIndex len (count % word64))
      (state.slots (slotIndex len (count % word64))).publishedActive held
  head : ∀ cell, state.producer.headCell ≠ some cell → HeadValue state (state.head.metadata cell).sequence
  numbered : Numbered state
  staged : Staged len state
  held : Held len state
  grounded : ∀ cell, state.consumer.slotCell = some cell →
    state.consumerSequence ≠ 0 ∨ ∃ count, HoldsPush len state (state.consumerIndex len) cell count
  wrapped : state.consumerSequence = 0 → word64 - 1 ≤ publishedCount state
  returned : ∀ value ∈ state.returned, ReturnedSound state value

structure Grown (state next : PortState size Word) : Prop where
  pushes : state.pushes <+: next.pushes
  published : publishedCount state ≤ publishedCount next

theorem Grown.refl_of (state next : PortState size Word) (pushes : next.pushes = state.pushes)
    (unpublished : next.producer.unpublished ≤ state.producer.unpublished) : Grown state next := by
  refine ⟨pushes ▸ List.prefix_refl _, ?_⟩
  unfold publishedCount
  rw [pushes]
  omega

variable {state next : PortState size Word}

theorem Grown.pushed_at (grown : Grown state next) (index : Nat)
    (message : Message size Word) (pushed : state.pushes[index]? = some message) :
    next.pushes[index]? = some message := by
  obtain ⟨rest, appended⟩ := grown.pushes
  have inside : index < state.pushes.length := (List.getElem?_eq_some_iff.mp pushed).1
  rw [← appended, List.getElem?_append_left inside]
  exact pushed

theorem HoldsPush.grow {len : Nat} {state next : PortState size Word} {index cell count : Nat}
    (holds : HoldsPush len state index cell count) (grown : Grown state next)
    (payloads : (next.slots index).payloads cell = (state.slots index).payloads cell)
    (metadata : (next.slots index).metadata cell = (state.slots index).metadata cell) :
    HoldsPush len next index cell count := by
  refine ⟨holds.counted, Nat.le_trans holds.published grown.published, holds.placed, ?_, ?_⟩
  · rw [payloads]
    exact grown.pushed_at _ _ holds.pushed
  · rw [metadata]
    exact holds.sequence

theorem HeadValue.grow {head : Nat} (value : HeadValue state head) (grown : Grown state next) : HeadValue next head := by
  rcases value with zero | ⟨count, counted, published, same⟩
  · exact .inl zero
  · exact .inr ⟨count, counted, Nat.le_trans published grown.published, same⟩

theorem PoppedPush.grow {sequence : Nat} {words : List Word}
    (popped : PoppedPush state sequence words) (grown : Grown state next) : PoppedPush next sequence words := by
  obtain ⟨count, message, counted, published, pushed, number, copied⟩ := popped
  exact ⟨count, message, counted, Nat.le_trans published grown.published, grown.pushed_at _ _ pushed, number, copied⟩

theorem ReturnedSound.grow {value : Returned Word}
    (sound : ReturnedSound state value) (grown : Grown state next) : ReturnedSound next value := by
  cases value with
  | popped sequence words => exact PoppedPush.grow sound grown
  | head head => exact HeadValue.grow sound grown
  | nothing => trivial
  | isEmpty answer => trivial
  | cleared => trivial

theorem Held.transfer {len : Nat} {state next : PortState size Word} (held : Held len state)
    (grown : Grown state next) (consumer : next.consumer = state.consumer)
    (consumerSequence : next.consumerSequence = state.consumerSequence)
    (payloads : ∀ cell, state.consumer.slotCell = some cell →
      (next.slots (state.consumerIndex len)).payloads cell = (state.slots (state.consumerIndex len)).payloads cell)
    (metadata : ∀ cell, state.consumer.slotCell = some cell →
      (next.slots (state.consumerIndex len)).metadata cell = (state.slots (state.consumerIndex len)).metadata cell)
    (head : ∀ cell, state.consumer.headCell = some cell → next.head.metadata cell = state.head.metadata cell) :
    Held len next := by
  have index : next.consumerIndex len = state.consumerIndex len := by
    rw [consumerIndex, consumerSequence]
  unfold Held at held ⊢
  rw [index, consumer, consumerSequence]
  cases pc : state.consumer with
  | readHeadHigh call cell before low | readHeadVersionAgain call cell before low high =>
    rw [pc] at held head
    simpa only [head cell rfl] using held
  | releaseHead call cell snapshot =>
    rw [pc] at held head
    cases snapshot with
    | none => trivial
    | some value => simpa only [head cell rfl] using held
  | readHigh cell before low | readCell cell before low high | readVersionAgain cell before low high stored =>
    rw [pc] at held metadata
    simpa only [metadata cell rfl] using held
  | copyMessage cell words =>
    rw [pc] at held payloads
    simp only [payloads cell rfl]
    exact ⟨PoppedPush.grow held.1 grown, held.2⟩
  | clearHazard cell result =>
    rw [pc] at held
    cases result with
    | missing retry resync => trivial
    | found words => exact PoppedPush.grow held grown
  | _ => trivial

theorem sequence_split (sequence : Nat) : sequence % word32 + sequence / word32 * word32 = sequence := by
  rw [Nat.mul_comm]
  exact Nat.mod_add_div sequence word32

variable (metadata : PortSequenceMetadata) (sequence : Nat)

theorem prepared_next (stage next : PrepareStage)
    (prepared : Prepared metadata sequence stage) (follows : nextStage stage = some next) :
    Prepared (metadata.prepare sequence stage) sequence next := by
  cases stage <;> cases follows
  · trivial
  · rfl
  · have low : metadata.sequenceLow = sequence % word32 := prepared
    simp only [Prepared, PortSequenceMetadata.prepare, PortSequenceMetadata.sequence, low]
    exact sequence_split sequence
  · exact prepared

theorem prepared_next_head (stage next : PrepareStage)
    (prepared : Prepared metadata sequence stage) (follows : nextHeadStage stage = some next) :
    Prepared (metadata.prepare sequence stage) sequence next := by
  cases stage with
  | high =>
    cases follows
    exact prepared_next metadata sequence .high .cell prepared rfl
  | odd => exact prepared_next metadata sequence .odd next prepared follows
  | low => exact prepared_next metadata sequence .low next prepared follows
  | cell => exact prepared_next metadata sequence .cell next prepared follows
  | even => exact prepared_next metadata sequence .even next prepared follows

theorem prepared_done (prepared : Prepared metadata sequence .even) : (metadata.prepare sequence .even).sequence = sequence :=
  prepared

theorem slot_prepare_sequence (metadata : PortSlotMetadata) (sequence cell : Nat) (stage : PrepareStage) :
    (metadata.prepare sequence cell stage).toPortSequenceMetadata =
      metadata.toPortSequenceMetadata.prepare sequence stage := by
  cases stage <;> rfl

variable (len : Nat) (state next : PortState size Word)

theorem producer_step_grown (taken : producerStep len state = some next) : Grown state next := by
  refine Grown.refl_of state next ?_ ?_
  · cases producer_steps taken <;> rfl
  · cases producer_steps taken with
    | prepare message cell stage pc => cases stage <;> simp [ProducerPc.unpublished, nextStage, pc]
    | prepareHead cell stage pc => cases stage <;> simp [ProducerPc.unpublished, nextHeadStage, nextStage, pc]
    | _ =>
      rename_i pc
      simp [ProducerPc.unpublished, pc]

theorem producer_step_numbered (numbered : Numbered state) (taken : producerStep len state = some next) : Numbered next := by
  have busy : state.producer ≠ .idle := by
    intro idle
    simp [producerStep, idle] at taken
  obtain ⟨number, pushed⟩ := numbered.resolve_left busy
  cases producer_steps taken with
  | storeHeadActive cell pc => exact .inl rfl
  | _ => exact .inr ⟨number, pushed⟩

theorem producer_step_staged (numbered : Numbered state)
    (staged : Staged len state) (taken : producerStep len state = some next) : Staged len next := by
  cases producer_steps taken with
  | loadHazard message pc =>
    have newest : state.pushes.getLast? = some message := by
      simpa only [Staged, pc] using staged
    exact ⟨newest, fun offset copied => absurd copied (Nat.not_lt_zero _)⟩
  | copyWord message cell copied inside pc =>
    simp only [Staged, pc] at staged
    refine ⟨staged.1, ?_⟩
    intro offset before
    by_cases last : offset = ⟨copied, inside⟩
    · simp [setSlot, Slot.writeWord, last]
    · have earlier : offset.val < copied := by
        have different : offset.val ≠ copied := fun same => last (Fin.ext same)
        omega
      simp [setSlot, Slot.writeWord, last, staged.2 offset earlier]
  | copied message cell copied inside pc =>
    simp only [Staged, pc] at staged
    refine ⟨staged.1, ?_, trivial⟩
    funext offset
    exact staged.2 offset (by omega)
  | prepare message cell stage pc =>
    have progress : state.pushes.getLast? = some message ∧
        (state.slots (state.producerIndex len)).payloads cell = message ∧
        Prepared ((state.slots (state.producerIndex len)).metadata cell).toPortSequenceMetadata
          state.nextSequence stage := by
      simpa only [Staged, pc] using staged
    obtain ⟨newest, copied, prepared⟩ := progress
    cases follows : nextStage stage with
    | some following =>
      refine ⟨newest, ?_, ?_⟩
      · simpa [setSlot, Slot.writeMetadata] using copied
      · have moved := prepared_next _ _ _ _ prepared follows
        rw [← slot_prepare_sequence _ _ cell] at moved
        simpa [setSlot, Slot.writeMetadata] using moved
    | none =>
      have final : stage = .even := by
        cases stage <;> simp_all [nextStage]
      subst final
      refine ⟨?_, ?_⟩
      · simpa [setSlot, Slot.writeMetadata, copied] using newest
      · have moved := prepared_done _ _ prepared
        rw [← slot_prepare_sequence _ _ cell] at moved
        simpa [setSlot, Slot.writeMetadata] using moved
  | storeActive cell pc | loadHeadHazard pc => trivial
  | prepareHead cell stage pc =>
    have prepared : Prepared (state.head.metadata cell) state.nextSequence stage := by
      simpa only [Staged, pc] using staged
    cases follows : nextHeadStage stage with
    | some following =>
      have moved := prepared_next_head _ _ _ _ prepared follows
      simpa [Staged, nextSequence] using moved
    | none =>
      have final : stage = .even := by
        cases stage <;> simp_all [nextHeadStage, nextStage]
      subst final
      have moved := prepared_done _ _ prepared
      simpa [Staged, nextSequence] using moved
  | storeHeadActive cell pc =>
    have busy : state.producer ≠ .idle := by
      rw [pc]
      intro same
      cases same
    exact (numbered.resolve_left busy).1

theorem store_active_holds (cell : Nat)
    (numbered : Numbered state) (staged : Staged len state) (pc : state.producer = .storeActive cell)
    (taken : producerStep len state = some next) :
    HoldsPush len next (state.producerIndex len) cell state.pushes.length ∧
      (next.slots (state.producerIndex len)).publishedActive = cell := by
  have busy : state.producer ≠ .idle := by
    rw [pc]
    intro same
    cases same
  obtain ⟨number, pushed⟩ := numbered.resolve_left busy
  have stored : state.pushes.getLast? = some ((state.slots (state.producerIndex len)).payloads cell) ∧
      ((state.slots (state.producerIndex len)).metadata cell).sequence = state.nextSequence := by
    simpa only [Staged, pc] using staged
  obtain ⟨newest, sequence⟩ := stored
  rw [List.getLast?_eq_getElem?] at newest
  simp only [producerStep, pc] at taken
  cases taken
  refine ⟨⟨pushed, Nat.le_refl _, ?_, ?_, ?_⟩, ?_⟩
  · rw [← number]
  · simpa [setSlot] using newest
  · rw [← number]
    simpa [setSlot] using sequence
  · simp [setSlot]

theorem producer_step_written (index cell : Nat)
    (taken : producerStep len state = some next) (filling : writtenCell len state index = some cell) :
    writtenCell len next index = some cell ∨
      (state.producer = .storeActive cell ∧ index = state.producerIndex len) := by
  have here : index = state.producerIndex len := by
    by_contra elsewhere
    simp [writtenCell, elsewhere] at filling
  have target : state.producer.slotCell = some cell := by
    simpa [writtenCell, here] using filling
  cases producer_steps taken with
  | copyWord message other copied inside pc | copied message other copied inside pc =>
    rw [pc] at target
    cases target
    exact .inl (by simp [writtenCell, here, setSlot, ProducerPc.slotCell])
  | prepare message other stage pc =>
    rw [pc] at target
    cases target
    left
    cases stage <;> simp [writtenCell, here, setSlot, nextStage, ProducerPc.slotCell]
  | storeActive other pc =>
    rw [pc] at target
    cases target
    exact .inr ⟨pc, here⟩
  | _ =>
    rename_i pc
    rw [pc] at target
    cases target

theorem producer_step_head_written (cell : Nat)
    (taken : producerStep len state = some next) (filling : state.producer.headCell = some cell) :
    next.producer.headCell = some cell ∨ state.producer = .storeHeadActive cell := by
  cases producer_steps taken with
  | prepareHead other stage pc =>
    rw [pc] at filling
    cases filling
    left
    cases stage <;> simp [nextHeadStage, nextStage, ProducerPc.headCell]
  | storeHeadActive other pc =>
    rw [pc] at filling
    cases filling
    exact .inr pc
  | _ =>
    rename_i pc
    rw [pc] at filling
    cases filling

theorem producer_step_cells (content : ContentInv len state) (taken : producerStep len state = some next) (index cell : Nat)
    (idle : writtenCell len next index ≠ some cell) : CellSound len next index cell := by
  have grown := producer_step_grown len state next taken
  have frame := producer_step_frame len state next taken
  by_cases filling : writtenCell len state index = some cell
  · rcases producer_step_written len state next index cell taken filling with still | ⟨pc, here⟩
    · exact absurd still idle
    · have holds := (store_active_holds len state next cell content.numbered content.staged pc taken).1
      rw [← here] at holds
      exact .inr ⟨_, holds⟩
  · rcases content.cells index cell filling with fresh | ⟨count, holds⟩
    · left
      rw [frame.metadata index cell filling]
      exact fresh
    · exact .inr ⟨count, holds.grow grown (frame.payloads index cell filling) (frame.metadata index cell filling)⟩

theorem producer_step_published
    (taken : producerStep len state = some next) (other : ∀ cell, state.producer ≠ .storeActive cell) :
    publishedCount next = publishedCount state ∧
      ∀ index, (next.slots index).publishedActive = (state.slots index).publishedActive := by
  cases producer_steps taken with
  | copyWord message cell copied inside pc =>
    refine ⟨by simp [publishedCount, setSlot, pc, ProducerPc.unpublished], ?_⟩
    intro index
    by_cases here : index = state.producerIndex len
    · simp [setSlot, Slot.writeWord, here]
    · simp [setSlot, here]
  | copied message cell copied inside pc =>
    exact ⟨by simp [publishedCount, pc, ProducerPc.unpublished], fun _ => rfl⟩
  | prepare message cell stage pc =>
    refine ⟨by cases stage <;> simp [publishedCount, setSlot, pc, nextStage, ProducerPc.unpublished], ?_⟩
    intro index
    by_cases here : index = state.producerIndex len
    · simp [setSlot, Slot.writeMetadata, here]
    · simp [setSlot, here]
  | storeActive cell pc => exact absurd pc (other cell)
  | prepareHead cell stage pc =>
    refine ⟨?_, fun _ => rfl⟩
    cases stage <;> simp [publishedCount, pc, nextHeadStage, nextStage, ProducerPc.unpublished]
  | _ =>
    rename_i pc
    exact ⟨by simp [publishedCount, pc, ProducerPc.unpublished], fun _ => rfl⟩

theorem producer_step_touched (hazard : HazardInv len state)
    (content : ContentInv len state) (taken : producerStep len state = some next) (count : Nat)
    (counted : 1 ≤ count) (published : count ≤ publishedCount next) :
    ∃ held, HoldsPush len next (slotIndex len (count % word64))
      (next.slots (slotIndex len (count % word64))).publishedActive held := by
  have grown := producer_step_grown len state next taken
  have frame := producer_step_frame len state next taken
  -- The active cell of a slot is never the one being filled, so its content stays.
  have carried : ∀ index, (next.slots index).publishedActive = (state.slots index).publishedActive →
      (∃ held, HoldsPush len state index (state.slots index).publishedActive held) →
      ∃ held, HoldsPush len next index (next.slots index).publishedActive held := by
    intro index active held
    obtain ⟨held, holds⟩ := held
    have idle : writtenCell len state index ≠ some (state.slots index).publishedActive := by
      intro filling
      exact ((hazard.slotsSafe index).writingInactive _ filling).2 rfl
    rw [active]
    exact ⟨held, holds.grow grown (frame.payloads index _ idle) (frame.metadata index _ idle)⟩
  by_cases store : ∃ cell, state.producer = .storeActive cell
  · obtain ⟨cell, pc⟩ := store
    obtain ⟨holds, active⟩ := store_active_holds len state next cell content.numbered content.staged pc taken
    by_cases here : slotIndex len (count % word64) = state.producerIndex len
    · rw [here, active]
      exact ⟨_, holds⟩
    · have earlier : count ≤ publishedCount state := by
        have total : publishedCount next = state.pushes.length := by
          simp only [producerStep, pc] at taken
          cases taken
          rfl
        have older : count ≠ state.pushes.length := by
          intro same
          rw [same, holds.placed] at here
          exact here rfl
        simp only [publishedCount, pc, ProducerPc.unpublished]
        omega
      refine carried _ ?_ (content.touched count counted earlier)
      simp only [producerStep, pc] at taken
      cases taken
      rw [set_slot_other state _ _ _ here]
  · have other : ∀ cell, state.producer ≠ .storeActive cell := fun cell pc => store ⟨cell, pc⟩
    obtain ⟨same, active⟩ := producer_step_published len state next taken other
    rw [same] at published
    exact carried _ (active _) (content.touched count counted published)

theorem producer_step_head (content : ContentInv len state)
    (taken : producerStep len state = some next) (cell : Nat) (idle : next.producer.headCell ≠ some cell) :
    HeadValue next (next.head.metadata cell).sequence := by
  have grown := producer_step_grown len state next taken
  have frame := producer_step_frame len state next taken
  by_cases filling : state.producer.headCell = some cell
  · rcases producer_step_head_written len state next cell taken filling with still | pc
    · exact absurd still idle
    · have busy : state.producer ≠ .idle := by
        rw [pc]
        intro same
        cases same
      obtain ⟨number, pushed⟩ := content.numbered.resolve_left busy
      have sequence : (state.head.metadata cell).sequence = state.nextSequence := by
        simpa only [Staged, pc] using content.staged
      refine .inr ⟨state.pushes.length, pushed, ?_, ?_⟩
      · simp only [producerStep, pc] at taken
        cases taken
        exact Nat.le_refl _
      · simp only [producerStep, pc] at taken
        cases taken
        rw [← number]
        exact sequence
  · rw [frame.head cell filling]
    exact (content.head cell filling).grow grown

theorem validated_not_written (hazard : HazardInv len state) (cell : Nat) (guarded : state.consumer.slotCell = some cell) :
    writtenCell len state (state.consumerIndex len) ≠ some cell := by
  refine (hazard.slotsSafe (state.consumerIndex len)).validatedIdle cell ?_
  simpa [slotCells, validatedCell] using guarded

theorem producer_step_content (hazard : HazardInv len state)
    (content : ContentInv len state) (taken : producerStep len state = some next) : ContentInv len next := by
  have grown := producer_step_grown len state next taken
  have frame := producer_step_frame len state next taken
  have moved := producer_step_moves len state next hazard taken
  have index : next.consumerIndex len = state.consumerIndex len := by
    rw [consumerIndex, moved.consumerSequence]
  refine ⟨producer_step_cells len state next content taken, producer_step_touched len state next hazard content taken,
    producer_step_head len state next content taken, producer_step_numbered len state next content.numbered taken,
    producer_step_staged len state next content.numbered content.staged taken, ?_, ?_, ?_, ?_⟩
  · refine content.held.transfer grown moved.consumer moved.consumerSequence ?_ ?_ ?_
    · intro cell found
      exact frame.payloads _ cell (validated_not_written len state hazard cell found)
    · intro cell found
      exact frame.metadata _ cell (validated_not_written len state hazard cell found)
    · intro cell found
      exact frame.head cell (hazard.headSafe.validatedIdle cell found)
  · intro cell found
    rw [moved.consumer] at found
    rw [moved.consumerSequence, index]
    have idle := validated_not_written len state hazard cell found
    rcases content.grounded cell found with started | ⟨count, holds⟩
    · exact .inl started
    · exact .inr ⟨count, holds.grow grown (frame.payloads _ cell idle) (frame.metadata _ cell idle)⟩
  · intro zero
    rw [moved.consumerSequence] at zero
    exact Nat.le_trans (content.wrapped zero) grown.published
  · intro value returned
    rw [moved.returned] at returned
    exact (content.returned value returned).grow grown

end EncosDriver.Port
