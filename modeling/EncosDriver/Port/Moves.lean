import EncosDriver.Port.Steps

set_option autoImplicit false

namespace EncosDriver.Port

open Lib HazardCells PortState

variable {size : Nat} {Word : Type}

def ProducerPc.slotCell : ProducerPc size Word → Option Nat
  | .copyPayload _ cell _ | .prepare _ cell _ | .storeActive cell => some cell
  | _ => none

def ProducerPc.headCell : ProducerPc size Word → Option Nat
  | .prepareHead cell _ | .storeHeadActive cell => some cell
  | _ => none

def ConsumerPc.slotCell : ConsumerPc Word → Option Nat
  | .readVersion cell | .readLow cell _ | .readHigh cell _ _ | .readCell cell _ _ _
  | .readVersionAgain cell _ _ _ _ | .copyMessage cell _ | .clearHazard cell _ => some cell
  | _ => none

def ConsumerPc.headCell : ConsumerPc Word → Option Nat
  | .readHeadVersion _ cell | .readHeadLow _ cell _ | .readHeadHigh _ cell _ _
  | .readHeadVersionAgain _ cell _ _ _ | .releaseHead _ cell _ => some cell
  | _ => none

def writtenCell (len : Nat) (state : PortState size Word) (index : Nat) : Option Nat :=
  if index = state.producerIndex len then state.producer.slotCell else none

def validatedCell (len : Nat) (state : PortState size Word) (index : Nat) : Option Nat :=
  if index = state.consumerIndex len then state.consumer.slotCell else none

def slotCells (len : Nat) (state : PortState size Word) (index : Nat) : HazardCells :=
  ⟨(state.slots index).publishedActive, (state.slots index).readerHazard,
    writtenCell len state index, validatedCell len state index⟩

def headCells (state : PortState size Word) : HazardCells :=
  ⟨state.head.publishedActive, state.head.readerHazard, state.producer.headCell, state.consumer.headCell⟩

def Announced (len : Nat) (state : PortState size Word) : Prop :=
  match state.consumer with
  | .recheckHead _ cell => state.head.readerHazard = cell
  | .recheck cell => (state.slots (state.consumerIndex len)).readerHazard = cell
  | _ => True

structure HazardInv (len : Nat) (state : PortState size Word) : Prop where
  slotsSafe : ∀ index, Safe (slotCells len state index)
  headSafe : Safe (headCells state)
  slotsActive : ∀ index, (state.slots index).producerActive = (state.slots index).publishedActive
  headActive : state.head.producerActive = state.head.publishedActive
  announced : Announced len state

variable (state : PortState size Word) (index : Nat) (slot : Slot size Word)

theorem set_slot_same : (state.setSlot index slot).slots index = slot := by
  simp [setSlot]

theorem set_slot_other (state : PortState size Word) (index other : Nat) (slot : Slot size Word)
    (different : other ≠ index) : (state.setSlot index slot).slots other = state.slots other := by
  simp [setSlot, different]

theorem set_slot_hazard (same : slot.readerHazard = (state.slots index).readerHazard) (other : Nat) :
    ((state.setSlot index slot).slots other).readerHazard = (state.slots other).readerHazard := by
  by_cases here : other = index
  · rw [here, set_slot_same, same]
  · rw [set_slot_other state index other slot here]

theorem set_slot_active (active : ∀ other, (state.slots other).producerActive = (state.slots other).publishedActive)
    (same : slot.producerActive = slot.publishedActive) (other : Nat) :
    ((state.setSlot index slot).slots other).producerActive =
      ((state.setSlot index slot).slots other).publishedActive := by
  by_cases here : other = index
  · rw [here, set_slot_same, same]
  · rw [set_slot_other state index other slot here, active]

theorem initial_hazard_inv (len : Nat) (state : PortState size Word) (initial : InitialPort state) :
    HazardInv len state := by
  have idle : ∀ index, slotCells len state index = ⟨0, kPortNoHazard, none, none⟩ := by
    intro index
    obtain ⟨payloads, slot⟩ := initial.slots index
    simp [slotCells, writtenCell, validatedCell, slot, initial.producer, initial.consumer,
      ProducerPc.slotCell, ConsumerPc.slotCell]
  refine ⟨?_, ?_, ?_, ?_, ?_⟩
  · intro index
    rw [idle index]
    exact ⟨by decide, by simp, by simp, by simp⟩
  · have head : headCells state = ⟨0, kPortNoHazard, none, none⟩ := by
      simp [headCells, initial.head, initial.producer, initial.consumer, ProducerPc.headCell, ConsumerPc.headCell]
    rw [head]
    exact ⟨by decide, by simp, by simp, by simp⟩
  · intro index
    obtain ⟨payloads, slot⟩ := initial.slots index
    simp [slot]
  · simp [initial.head]
  · simp [Announced, initial.consumer]

theorem moves_of_eq {cells middle next : HazardCells} (moved : Moves cells middle) (same : next = middle) :
    Moves cells next := by
  rw [same]
  exact moved

structure ProducerMoved (len : Nat) (state next : PortState size Word) : Prop where
  consumer : next.consumer = state.consumer
  consumerSequence : next.consumerSequence = state.consumerSequence
  slotHazard : ∀ index, (next.slots index).readerHazard = (state.slots index).readerHazard
  headHazard : next.head.readerHazard = state.head.readerHazard
  pushes : next.pushes = state.pushes
  returned : next.returned = state.returned
  slots : ∀ index, Moves (slotCells len state index) (slotCells len next index)
  head : Moves (headCells state) (headCells next)
  slotsActive : ∀ index, (next.slots index).producerActive = (next.slots index).publishedActive
  headActive : next.head.producerActive = next.head.publishedActive

variable (len : Nat) (state next : PortState size Word)

theorem producer_step_moves (inv : HazardInv len state)
    (taken : producerStep len state = some next) : ProducerMoved len state next := by
  have slotsActive := inv.slotsActive
  have headActive := inv.headActive
  cases producer_steps taken with
  | loadHazard message pc =>
    refine ⟨rfl, rfl, fun _ => rfl, rfl, rfl, rfl, ?_, ?_, slotsActive, headActive⟩
    · intro index
      by_cases same : index = state.producerIndex len
      · refine moves_of_eq .beginWrite ?_
        simp [slotCells, writtenCell, validatedCell, beginWrite, same, slotsActive, ProducerPc.slotCell]
      · refine moves_of_eq .stay ?_
        simp [slotCells, writtenCell, validatedCell, same]
    · refine moves_of_eq .stay ?_
      simp [headCells, pc, ProducerPc.headCell]
  | copyWord message cell copied inside pc =>
    refine ⟨rfl, rfl, ?_, rfl, rfl, rfl, ?_, ?_, ?_, headActive⟩
    · exact set_slot_hazard state _ _ rfl
    · intro index
      refine moves_of_eq .stay ?_
      by_cases same : index = state.producerIndex len
      · simp [slotCells, writtenCell, validatedCell, setSlot, Slot.writeWord, same, pc, ProducerPc.slotCell]
      · simp only [slotCells, writtenCell, setSlot, same, Function.update_of_ne, ne_eq, not_false_eq_true, ↓reduceIte]
        rfl
    · refine moves_of_eq .stay ?_
      simp [headCells, setSlot, pc, ProducerPc.headCell]
    · exact set_slot_active state _ _ slotsActive (slotsActive _)
  | copied message cell copied inside pc =>
    refine ⟨rfl, rfl, fun _ => rfl, rfl, rfl, rfl, ?_, ?_, slotsActive, headActive⟩
    · intro index
      refine moves_of_eq .stay ?_
      simp [slotCells, writtenCell, validatedCell, pc, ProducerPc.slotCell]
    · refine moves_of_eq .stay ?_
      simp [headCells, pc, ProducerPc.headCell]
  | prepare message cell stage pc =>
    refine ⟨rfl, rfl, ?_, rfl, rfl, rfl, ?_, ?_, ?_, headActive⟩
    · exact set_slot_hazard state _ _ rfl
    · intro index
      refine moves_of_eq .stay ?_
      by_cases same : index = state.producerIndex len
      · cases stage <;>
          simp [slotCells, writtenCell, validatedCell, setSlot, Slot.writeMetadata, same, pc, nextStage,
            ProducerPc.slotCell]
      · simp only [slotCells, writtenCell, setSlot, same, Function.update_of_ne, ne_eq, not_false_eq_true, ↓reduceIte]
        rfl
    · refine moves_of_eq .stay ?_
      cases stage <;> simp [headCells, setSlot, pc, nextStage, ProducerPc.headCell]
    · exact set_slot_active state _ _ slotsActive (slotsActive _)
  | storeActive cell pc =>
    refine ⟨rfl, rfl, ?_, rfl, rfl, rfl, ?_, ?_, ?_, headActive⟩
    · exact set_slot_hazard state _ _ rfl
    · intro index
      by_cases same : index = state.producerIndex len
      · have written : (slotCells len state index).writing = some cell := by
          simp [slotCells, writtenCell, same, pc, ProducerPc.slotCell]
        refine moves_of_eq (.publish cell written) ?_
        simp [slotCells, writtenCell, validatedCell, publish, setSlot, same, ProducerPc.slotCell]
      · refine moves_of_eq .stay ?_
        simp only [slotCells, writtenCell, setSlot, same, Function.update_of_ne, ne_eq, not_false_eq_true, ↓reduceIte]
        rfl
    · refine moves_of_eq .stay ?_
      simp [headCells, setSlot, pc, ProducerPc.headCell]
    · exact set_slot_active state _ _ slotsActive rfl
  | loadHeadHazard pc =>
    refine ⟨rfl, rfl, fun _ => rfl, rfl, rfl, rfl, ?_, ?_, slotsActive, headActive⟩
    · intro index
      refine moves_of_eq .stay ?_
      simp [slotCells, writtenCell, validatedCell, pc, ProducerPc.slotCell]
    · refine moves_of_eq .beginWrite ?_
      simp [headCells, beginWrite, headActive, ProducerPc.headCell]
  | prepareHead cell stage pc =>
    refine ⟨rfl, rfl, fun _ => rfl, rfl, rfl, rfl, ?_, ?_, slotsActive, headActive⟩
    · intro index
      refine moves_of_eq .stay ?_
      cases stage <;>
        simp [slotCells, writtenCell, validatedCell, pc, nextHeadStage, nextStage, ProducerPc.slotCell]
    · refine moves_of_eq .stay ?_
      cases stage <;> simp [headCells, pc, nextHeadStage, nextStage, ProducerPc.headCell]
  | storeHeadActive cell pc =>
    refine ⟨rfl, rfl, fun _ => rfl, rfl, rfl, rfl, ?_, ?_, slotsActive, rfl⟩
    · intro index
      refine moves_of_eq .stay ?_
      simp [slotCells, writtenCell, validatedCell, pc, ProducerPc.slotCell]
    · have written : (headCells state).writing = some cell := by
        simp [headCells, pc, ProducerPc.headCell]
      refine moves_of_eq (.publish cell written) ?_
      simp [headCells, publish, ProducerPc.headCell]

structure ProducerFrame (len : Nat) (state next : PortState size Word) : Prop where
  payloads : ∀ index cell, writtenCell len state index ≠ some cell →
    (next.slots index).payloads cell = (state.slots index).payloads cell
  metadata : ∀ index cell, writtenCell len state index ≠ some cell →
    (next.slots index).metadata cell = (state.slots index).metadata cell
  head : ∀ cell, state.producer.headCell ≠ some cell → next.head.metadata cell = state.head.metadata cell

theorem producer_step_frame (taken : producerStep len state = some next) : ProducerFrame len state next := by
  cases producer_steps taken with
  | loadHazard message pc | loadHeadHazard pc | storeHeadActive cell pc =>
    exact ⟨fun _ _ _ => rfl, fun _ _ _ => rfl, fun _ _ => rfl⟩
  | copyWord message cell copied inside pc =>
    refine ⟨?_, ?_, fun _ _ => rfl⟩
    · intro index other idle
      by_cases here : index = state.producerIndex len
      · have different : other ≠ cell := by
          intro same
          simp [writtenCell, here, pc, ProducerPc.slotCell, same] at idle
        simp [setSlot, Slot.writeWord, here, different]
      · simp [setSlot, here]
    · intro index other idle
      by_cases here : index = state.producerIndex len
      · simp [setSlot, Slot.writeWord, here]
      · simp [setSlot, here]
  | copied message cell copied inside pc =>
    exact ⟨fun _ _ _ => rfl, fun _ _ _ => rfl, fun _ _ => rfl⟩
  | prepare message cell stage pc =>
    refine ⟨?_, ?_, fun _ _ => rfl⟩
    · intro index other idle
      by_cases here : index = state.producerIndex len
      · simp [setSlot, Slot.writeMetadata, here]
      · simp [setSlot, here]
    · intro index other idle
      by_cases here : index = state.producerIndex len
      · have different : other ≠ cell := by
          intro same
          simp [writtenCell, here, pc, ProducerPc.slotCell, same] at idle
        simp [setSlot, Slot.writeMetadata, here, different]
      · simp [setSlot, here]
  | storeActive cell pc =>
    refine ⟨?_, ?_, fun _ _ => rfl⟩
    · intro index other idle
      by_cases here : index = state.producerIndex len
      · simp [setSlot, here]
      · simp [setSlot, here]
    · intro index other idle
      by_cases here : index = state.producerIndex len
      · simp [setSlot, here]
      · simp [setSlot, here]
  | prepareHead cell stage pc =>
    refine ⟨fun _ _ _ => rfl, fun _ _ _ => rfl, ?_⟩
    intro other idle
    have different : other ≠ cell := by
      intro same
      simp [pc, ProducerPc.headCell, same] at idle
    simp [different]

structure ConsumerMoved (len : Nat) (state next : PortState size Word) : Prop where
  producer : next.producer = state.producer
  producerSequence : next.producerSequence = state.producerSequence
  pushes : next.pushes = state.pushes
  slotData : ∀ index, ∃ hazard, next.slots index = { state.slots index with readerHazard := hazard }
  headData : ∃ hazard, next.head = { state.head with readerHazard := hazard }
  slots : ∀ index, Moves (slotCells len state index) (slotCells len next index)
  head : Moves (headCells state) (headCells next)
  announced : Announced len next

structure Released (len : Nat) (state next : PortState size Word) : Prop where
  slots : next.slots = state.slots
  head : next.head = state.head
  producer : next.producer = state.producer
  producerSequence : next.producerSequence = state.producerSequence
  pushes : next.pushes = state.pushes
  slotCell : next.consumer.slotCell = none
  headCell : next.consumer.headCell = none
  announced : Announced len next

theorem set_hazard_data (state : PortState size Word) (index hazard other : Nat) :
    ∃ word, (state.setHazard index hazard).slots other = { state.slots other with readerHazard := word } := by
  by_cases here : other = index
  · exact ⟨hazard, by rw [here, setHazard, set_slot_same]⟩
  · exact ⟨(state.slots other).readerHazard, by rw [setHazard, set_slot_other state index other _ here]⟩

theorem consumer_load_moves (len : Nat) (state : PortState size Word) (pc : ConsumerPc Word)
    (slotCell : pc.slotCell = state.consumer.slotCell) (headCell : pc.headCell = state.consumer.headCell)
    (announced : Announced len { state with consumer := pc }) :
    ConsumerMoved len state { state with consumer := pc } := by
  refine ⟨rfl, rfl, rfl, fun index => ⟨_, rfl⟩, ⟨_, rfl⟩, ?_, ?_, announced⟩
  · intro index
    refine moves_of_eq .stay ?_
    simp only [slotCells, validatedCell, slotCell]
    rfl
  · refine moves_of_eq .stay ?_
    simp only [headCells, headCell]

theorem consumer_clear_moves (released : Released len (state.setHazard (state.consumerIndex len) kPortNoHazard) next)
    (headIdle : state.consumer.headCell = none) : ConsumerMoved len state next := by
  obtain ⟨slots, head, producer, producerSequence, pushes, slotCell, headCell, announced⟩ := released
  refine ⟨producer, producerSequence, pushes, ?_, ⟨state.head.readerHazard, head⟩, ?_, ?_, announced⟩
  · intro index
    rw [slots]
    exact set_hazard_data state _ kPortNoHazard index
  · intro index
    by_cases here : index = state.consumerIndex len
    · refine moves_of_eq .clear ?_
      simp [slotCells, writtenCell, validatedCell, clear, slots, setHazard, setSlot, here, slotCell, producerIndex,
        nextSequence, producer, producerSequence, kPortNoHazard]
    · refine moves_of_eq .stay ?_
      simp [slotCells, writtenCell, validatedCell, slots, setHazard, setSlot, here, slotCell, producerIndex,
        nextSequence, producer, producerSequence]
  · refine moves_of_eq .stay ?_
    simp [headCells, head, setHazard, setSlot, producer, headCell, headIdle]

theorem consumer_head_clear_moves (released : Released len (state.setHeadHazard kPortNoHazard) next)
    (slotIdle : state.consumer.slotCell = none) : ConsumerMoved len state next := by
  obtain ⟨slots, head, producer, producerSequence, pushes, slotCell, headCell, announced⟩ := released
  refine ⟨producer, producerSequence, pushes, ?_, ⟨kPortNoHazard, head⟩, ?_, ?_, announced⟩
  · intro index
    exact ⟨(state.slots index).readerHazard, by rw [slots]; rfl⟩
  · intro index
    refine moves_of_eq .stay ?_
    simp [slotCells, writtenCell, validatedCell, slots, setHeadHazard, slotCell, slotIdle, producerIndex, nextSequence,
      producer, producerSequence]
  · refine moves_of_eq .clear ?_
    simp [headCells, clear, head, setHeadHazard, producer, headCell, kPortNoHazard]

theorem after_target_released (len : Nat) (state : PortState size Word) (result : TargetResult Word) :
    Released len state (afterTarget len state result) := by
  cases result with
  | found words => exact ⟨rfl, rfl, rfl, rfl, rfl, rfl, rfl, trivial⟩
  | missing retry resync =>
    cases retry with
    | false => exact ⟨rfl, rfl, rfl, rfl, rfl, rfl, rfl, trivial⟩
    | true => exact ⟨rfl, rfl, rfl, rfl, rfl, rfl, rfl, trivial⟩

theorem after_head_released (len : Nat) (state : PortState size Word) (call : ConsumerCall) (head : Nat) :
    Released len state (afterHead len state call head) := by
  cases call with
  | pop =>
    by_cases empty : head < state.consumerSequence
    · constructor <;> simp [afterHead, answer, empty, ConsumerPc.slotCell, ConsumerPc.headCell, Announced]
    · constructor <;> simp [afterHead, answer, empty, ConsumerPc.slotCell, ConsumerPc.headCell, Announced]
  | empty => exact ⟨rfl, rfl, rfl, rfl, rfl, rfl, rfl, trivial⟩
  | clear => exact ⟨rfl, rfl, rfl, rfl, rfl, rfl, rfl, trivial⟩

theorem consumer_step_moves (inv : HazardInv len state)
    (taken : consumerStep len state = some next) : ConsumerMoved len state next := by
  have announced := inv.announced
  cases pc : state.consumer with
  | idle => simp [consumerStep, pc] at taken
  | storeHeadHazard call cell =>
    simp only [consumerStep, pc] at taken
    cases taken
    have unprotected : (headCells state).validated = none := by
      simp only [headCells, pc, ConsumerPc.headCell]
    refine ⟨rfl, rfl, rfl, fun _ => ⟨_, rfl⟩, ⟨_, rfl⟩, ?_, moves_of_eq (.announce cell unprotected) ?_, rfl⟩
    · intro index
      refine moves_of_eq .stay ?_
      simp [slotCells, writtenCell, validatedCell, setHeadHazard, pc, ConsumerPc.slotCell]
    · simp [headCells, announce, setHeadHazard, pc, ConsumerPc.headCell]
  | recheckHead call cell =>
    by_cases active : state.head.publishedActive = cell
    · simp only [consumerStep, pc, active, ne_eq, not_true_eq_false, ↓reduceIte] at taken
      cases taken
      have hazard : (headCells state).hazard = cell := by
        simpa only [headCells, Announced, pc] using announced
      have unprotected : (headCells state).validated = none := by
        simp only [headCells, pc, ConsumerPc.headCell]
      have checked := Moves.validate cell unprotected hazard active
      refine ⟨rfl, rfl, rfl, fun _ => ⟨_, rfl⟩, ⟨_, rfl⟩, ?_, moves_of_eq checked ?_, trivial⟩
      · intro index
        refine moves_of_eq .stay ?_
        simp [slotCells, writtenCell, validatedCell, pc, ConsumerPc.slotCell]
      · simp [headCells, validate, ConsumerPc.headCell]
    · simp only [consumerStep, pc, active, ne_eq, not_false_eq_true, ↓reduceIte] at taken
      cases taken
      exact consumer_load_moves len state _ (by rw [pc]; rfl) (by rw [pc]; rfl) trivial
  | clearHeadHazard call =>
    simp only [consumerStep, pc] at taken
    cases taken
    exact consumer_head_clear_moves len state _ ⟨rfl, rfl, rfl, rfl, rfl, rfl, rfl, trivial⟩ (by rw [pc]; rfl)
  | releaseHead call cell snapshot =>
    cases snapshot with
    | none =>
      simp only [consumerStep, pc] at taken
      cases taken
      exact consumer_head_clear_moves len state _ ⟨rfl, rfl, rfl, rfl, rfl, rfl, rfl, trivial⟩ (by rw [pc]; rfl)
    | some head =>
      simp only [consumerStep, pc] at taken
      cases taken
      exact consumer_head_clear_moves len state _ (after_head_released len _ call head) (by rw [pc]; rfl)
  | storeHazard cell =>
    simp only [consumerStep, pc] at taken
    cases taken
    refine ⟨rfl, rfl, rfl, set_hazard_data state _ cell, ⟨_, rfl⟩, ?_, ?_, ?_⟩
    · intro index
      by_cases here : index = state.consumerIndex len
      · have unprotected : (slotCells len state index).validated = none := by
          simp [slotCells, validatedCell, pc, ConsumerPc.slotCell]
        refine moves_of_eq (.announce cell unprotected) ?_
        simp [slotCells, writtenCell, validatedCell, announce, setHazard, setSlot, here, pc, ConsumerPc.slotCell]
      · refine moves_of_eq .stay ?_
        simp [slotCells, writtenCell, validatedCell, setHazard, setSlot, here, pc]
    · refine moves_of_eq .stay ?_
      simp [headCells, setHazard, setSlot, pc, ConsumerPc.headCell]
    · simp [Announced, setHazard, setSlot]
  | recheck cell =>
    by_cases active : (state.slots (state.consumerIndex len)).publishedActive = cell
    · simp only [consumerStep, pc, active, ne_eq, not_true_eq_false, ↓reduceIte] at taken
      cases taken
      refine ⟨rfl, rfl, rfl, fun _ => ⟨_, rfl⟩, ⟨_, rfl⟩, ?_, ?_, trivial⟩
      · intro index
        by_cases here : index = state.consumerIndex len
        · have hazard : (slotCells len state index).hazard = cell := by
            simpa only [slotCells, here, Announced, pc] using announced
          have found : (slotCells len state index).active = cell := by
            simpa only [slotCells, here] using active
          have unprotected : (slotCells len state index).validated = none := by
            simp [slotCells, validatedCell, pc, ConsumerPc.slotCell]
          refine moves_of_eq (.validate cell unprotected hazard found) ?_
          simp [slotCells, writtenCell, validatedCell, validate, here, ConsumerPc.slotCell]
        · refine moves_of_eq .stay ?_
          simp [slotCells, writtenCell, validatedCell, here]
      · refine moves_of_eq .stay ?_
        simp [headCells, pc, ConsumerPc.headCell]
    · simp only [consumerStep, pc, active, ne_eq, not_false_eq_true, ↓reduceIte] at taken
      cases taken
      exact consumer_load_moves len state _ (by rw [pc]; rfl) (by rw [pc]; rfl) trivial
  | abandonHazard | clearHazard cell result =>
    simp only [consumerStep, pc] at taken
    cases taken
    exact consumer_clear_moves len state _ (after_target_released len _ _) (by rw [pc]; rfl)
  | readVersionAgain cell before low high stored =>
    cases judged : (judgeSnapshot state.consumerSequence cell
        (readSequence before low high ((state.slots (state.consumerIndex len)).metadata cell).version) stored :
          Option (TargetResult Word)) with
    | none =>
      simp only [consumerStep, pc, judged] at taken
      cases taken
      exact consumer_load_moves len state _ (by rw [pc]; rfl) (by rw [pc]; rfl) trivial
    | some result =>
      simp only [consumerStep, pc, judged] at taken
      cases taken
      exact consumer_load_moves len state _ (by rw [pc]; rfl) (by rw [pc]; rfl) trivial
  | copyMessage cell words =>
    by_cases inside : words.length < size
    · simp only [consumerStep, pc, inside, ↓reduceDIte] at taken
      cases taken
      exact consumer_load_moves len state _ (by rw [pc]; rfl) (by rw [pc]; rfl) trivial
    · simp only [consumerStep, pc, inside, ↓reduceDIte] at taken
      cases taken
      exact consumer_load_moves len state _ (by rw [pc]; rfl) (by rw [pc]; rfl) trivial
  | _ =>
    -- The load of one word.
    simp only [consumerStep, pc] at taken
    cases taken
    exact consumer_load_moves len state _ (by rw [pc]; rfl) (by rw [pc]; rfl) trivial

end EncosDriver.Port
