import EncosDriver.Port.Safety

set_option autoImplicit false

namespace EncosDriver.Port

open Lib HazardCells PortState

variable {size : Nat} {Word : Type}

def Slot.activeSequence (slot : Slot size Word) : Nat := (slot.metadata slot.publishedActive).sequence

def PortHeadPublication.activeSequence (head : PortHeadPublication) : Nat := (head.metadata head.publishedActive).sequence

def ProducerPc.unannounced : ProducerPc size Word → Nat
  | .idle => 0
  | _ => 1

-- Before the 64-bit numbers wrap, the head announces the newest complete push
-- and no slot ever goes back to an older push than one it has held.
structure PublishInv (len : Nat) (state : PortState size Word) : Prop where
  counted : state.producerSequence + state.producer.unannounced = state.pushes.length
  head : state.head.activeSequence = state.producerSequence
  slots : ∀ sequence, 1 ≤ sequence → sequence ≤ publishedCount state →
    sequence ≤ (state.slots (slotIndex len sequence)).activeSequence

theorem published_bounds (len : Nat) (state : PortState size Word) (publish : PublishInv len state) :
    state.producerSequence ≤ publishedCount state ∧ publishedCount state ≤ state.producerSequence + 1 := by
  have counted := publish.counted
  unfold publishedCount
  cases pc : state.producer <;> simp only [pc, ProducerPc.unannounced, ProducerPc.unpublished] at counted ⊢ <;> omega

theorem initial_publish_inv (len : Nat) (state : PortState size Word) (initial : InitialPort state) :
    PublishInv len state := by
  refine ⟨?_, ?_, ?_⟩
  · simp [initial.producerSequence, initial.producer, initial.pushes, ProducerPc.unannounced]
  · simp [PortHeadPublication.activeSequence, initial.head, initial.producerSequence, PortSequenceMetadata.sequence]
  · intro sequence started published
    simp [publishedCount, initial.pushes] at published
    omega

structure Unpublishing (state next : PortState size Word) : Prop where
  producerSequence : next.producerSequence = state.producerSequence
  unannounced : next.producer.unannounced = state.producer.unannounced
  headActive : next.head.publishedActive = state.head.publishedActive

variable (len : Nat) (state next : PortState size Word)

theorem producer_step_unpublishing
    (taken : producerStep len state = some next) (other : ∀ cell, state.producer ≠ .storeHeadActive cell) :
    Unpublishing state next := by
  cases producer_steps taken with
  | copyWord message cell copied inside pc =>
    exact ⟨rfl, by rw [pc]; rfl, rfl⟩
  | copied message cell copied inside pc =>
    exact ⟨rfl, by rw [pc]; rfl, rfl⟩
  | prepare message cell stage pc | prepareHead cell stage pc =>
    refine ⟨rfl, ?_, rfl⟩
    rw [pc]
    cases stage <;> rfl
  | storeHeadActive cell pc => exact absurd pc (other cell)
  | _ =>
    rename_i pc
    exact ⟨rfl, by rw [pc]; rfl, rfl⟩

theorem active_sequence_kept (inv : HazardInv len state) (taken : producerStep len state = some next) (index : Nat)
    (active : (next.slots index).publishedActive = (state.slots index).publishedActive) :
    (next.slots index).activeSequence = (state.slots index).activeSequence := by
  have idle : writtenCell len state index ≠ some (state.slots index).publishedActive := by
    intro filling
    exact ((inv.slotsSafe index).writingInactive _ filling).2 rfl
  have kept := (producer_step_frame len state next taken).metadata index _ idle
  rw [Slot.activeSequence, active, kept, Slot.activeSequence]

theorem head_sequence_kept (inv : HazardInv len state)
    (taken : producerStep len state = some next) (active : next.head.publishedActive = state.head.publishedActive) :
    next.head.activeSequence = state.head.activeSequence := by
  have idle : state.producer.headCell ≠ some state.head.publishedActive := by
    intro filling
    exact (inv.headSafe.writingInactive _ filling).2 rfl
  have kept := (producer_step_frame len state next taken).head _ idle
  rw [PortHeadPublication.activeSequence, active, kept, PortHeadPublication.activeSequence]

theorem producer_step_announces (inv : PortInv len state)
    (head : state.head.activeSequence = state.producerSequence) (taken : producerStep len state = some next) :
    next.head.activeSequence = next.producerSequence := by
  by_cases store : ∃ cell, state.producer = .storeHeadActive cell
  · obtain ⟨cell, pc⟩ := store
    have stored : (state.head.metadata cell).sequence = state.nextSequence := by
      simpa only [Staged, pc] using inv.content.staged
    simp only [producerStep, pc] at taken
    cases taken
    exact stored
  · have other : ∀ cell, state.producer ≠ .storeHeadActive cell := fun cell pc => store ⟨cell, pc⟩
    have same := producer_step_unpublishing len state next taken other
    rw [head_sequence_kept len state next inv.hazard taken same.headActive, same.producerSequence]
    exact head

theorem producer_step_counted (inv : PortInv len state)
    (publish : PublishInv len state) (few : state.pushes.length < word64) (taken : producerStep len state = some next) :
    next.producerSequence + next.producer.unannounced = next.pushes.length := by
  have pushes := (producer_step_moves len state next inv.hazard taken).pushes
  have counted := publish.counted
  by_cases store : ∃ cell, state.producer = .storeHeadActive cell
  · obtain ⟨cell, pc⟩ := store
    have number : state.nextSequence = state.producerSequence + 1 := by
      rw [pc] at counted
      simp only [ProducerPc.unannounced] at counted
      exact Nat.mod_eq_of_lt (by omega)
    simp only [producerStep, pc] at taken
    cases taken
    rw [pc] at counted
    rw [number]
    exact counted
  · have other : ∀ cell, state.producer ≠ .storeHeadActive cell := fun cell pc => store ⟨cell, pc⟩
    have same := producer_step_unpublishing len state next taken other
    rw [same.producerSequence, same.unannounced, pushes]
    exact counted

theorem producer_step_slots_publish (inv : PortInv len state)
    (publish : PublishInv len state) (few : state.pushes.length < word64)
    (taken : producerStep len state = some next) (sequence : Nat) (started : 1 ≤ sequence)
    (published : sequence ≤ publishedCount next) :
    sequence ≤ (next.slots (slotIndex len sequence)).activeSequence := by
  by_cases store : ∃ cell, state.producer = .storeActive cell
  · obtain ⟨cell, pc⟩ := store
    obtain ⟨holds, active⟩ :=
      store_active_holds len state next cell inv.content.numbered inv.content.staged pc taken
    have bound : sequence ≤ state.pushes.length := by
      simp only [producerStep, pc] at taken
      cases taken
      exact published
    by_cases here : slotIndex len sequence = state.producerIndex len
    · rw [here, Slot.activeSequence, active, holds.sequence, Nat.mod_eq_of_lt few]
      exact bound
    · have older : sequence ≠ state.pushes.length := by
        intro same
        have placed := holds.placed
        rw [Nat.mod_eq_of_lt few, ← same] at placed
        exact here placed
      have earlier : sequence ≤ publishedCount state := by
        simp only [publishedCount, pc, ProducerPc.unpublished]
        omega
      have kept : (next.slots (slotIndex len sequence)).publishedActive =
          (state.slots (slotIndex len sequence)).publishedActive := by
        simp only [producerStep, pc] at taken
        cases taken
        rw [set_slot_other state _ _ _ here]
      rw [active_sequence_kept len state next inv.hazard taken _ kept]
      exact publish.slots sequence started earlier
  · have other : ∀ cell, state.producer ≠ .storeActive cell := fun cell pc => store ⟨cell, pc⟩
    obtain ⟨same, active⟩ := producer_step_published len state next taken other
    rw [same] at published
    rw [active_sequence_kept len state next inv.hazard taken _ (active _)]
    exact publish.slots sequence started published

theorem consumer_moved_announces (head : state.head.activeSequence = state.producerSequence)
    (moved : ConsumerMoved len state next) : next.head.activeSequence = next.producerSequence := by
  obtain ⟨hazard, same⟩ := moved.headData
  rw [same, moved.producerSequence]
  exact head

theorem consumer_moved_publish (publish : PublishInv len state) (moved : ConsumerMoved len state next) : PublishInv len next := by
  have published : publishedCount next = publishedCount state := by
    rw [publishedCount, publishedCount, moved.pushes, moved.producer]
  refine ⟨?_, ?_, ?_⟩
  · rw [moved.producerSequence, moved.producer, moved.pushes]
    exact publish.counted
  · exact consumer_moved_announces len state next publish.head moved
  · intro sequence started below
    rw [published] at below
    obtain ⟨hazard, same⟩ := moved.slotData (slotIndex len sequence)
    rw [same]
    exact publish.slots sequence started below

theorem push_publish (message : Message size Word)
    (publish : PublishInv len state) (taken : portStep len state (.push message) = some next) :
    PublishInv len next := by
  have counted := publish.counted
  cases port_steps taken with
  | push _ pc =>
    rw [pc] at counted
    simp only [ProducerPc.unannounced] at counted
    refine ⟨?_, publish.head, ?_⟩
    · simp only [ProducerPc.unannounced, List.length_append, List.length_singleton]
      omega
    · intro sequence started below
      refine publish.slots sequence started ?_
      simpa [publishedCount, pc, ProducerPc.unpublished] using below

theorem call_moved (call : ConsumerCall) (taken : portStep len state (.call call) = some next) :
    state.consumer = .idle ∧ next = { state with consumer := .loadHeadActive call } ∧ ConsumerMoved len state next := by
  cases port_steps taken with
  | call _ pc =>
    exact ⟨pc, rfl, consumer_load_moves len state _ (by rw [pc]; rfl) (by rw [pc]; rfl) trivial⟩

theorem pushes_grow (action : PortAction size Word) (inv : PortInv len state) (taken : portStep len state action = some next) :
    state.pushes.length ≤ next.pushes.length := by
  cases port_steps taken with
  | push message => simp
  | producer => exact Nat.le_of_eq (congrArg List.length (producer_step_moves len state next inv.hazard taken).pushes.symm)
  | call call => exact Nat.le_of_eq (congrArg List.length (call_moved len state _ call taken).2.2.pushes.symm)
  | consumer => exact Nat.le_of_eq (congrArg List.length (consumer_step_moves len state next inv.hazard taken).pushes.symm)

theorem port_step_publish (action : PortAction size Word)
    (inv : PortInv len state) (publish : PublishInv len state) (few : state.pushes.length < word64)
    (taken : portStep len state action = some next) : PublishInv len next := by
  cases action with
  | push message => exact push_publish len state next message publish taken
  | producer =>
    exact ⟨producer_step_counted len state next inv publish few taken, producer_step_announces len state next inv publish.head taken,
      producer_step_slots_publish len state next inv publish few taken⟩
  | call call => exact consumer_moved_publish len state next publish (call_moved len state next call taken).2.2
  | consumer => exact consumer_moved_publish len state next publish (consumer_step_moves len state next inv.hazard taken)

theorem reachable_publish_inv (positive : 0 < len) (bounded : len < word64) :
    ∀ state, Reachable (port len size Word) state → state.pushes.length < word64 → PublishInv len state := by
  refine reachable_invariant_under (port len size Word) Always (PortInv len)
    (fun state => state.pushes.length < word64 → PublishInv len state) (reachable_port_inv len positive bounded) ?_ ?_
  · intro state initial _
    exact initial_publish_inv len state initial
  · intro state action next inv _ publish _ taken few
    have fewBefore := Nat.lt_of_le_of_lt (pushes_grow len state next action inv taken) few
    exact port_step_publish len state next action inv (publish fewBefore) fewBefore taken

theorem reachable_announced (positive : 0 < len) (bounded : len < word64) :
    ∀ state, Reachable (port len size Word) state → state.head.activeSequence = state.producerSequence := by
  refine reachable_invariant_under (port len size Word) Always (PortInv len)
    (fun state => state.head.activeSequence = state.producerSequence) (reachable_port_inv len positive bounded) ?_ ?_
  · intro state initial
    exact (initial_publish_inv len state initial).head
  · intro state action next inv _ head _ taken
    cases port_steps taken with
    | push message => exact head
    | producer => exact producer_step_announces len state next inv head taken
    | call call => exact consumer_moved_announces len state _ head (call_moved len state _ call taken).2.2
    | consumer => exact consumer_moved_announces len state next head (consumer_step_moves len state next inv.hazard taken)

def Slot.Legible (slot : Slot size Word) : Prop :=
  (slot.metadata slot.publishedActive).version % 2 = 0 ∧
    (slot.metadata slot.publishedActive).cell = slot.publishedActive

def PortHeadPublication.Legible (head : PortHeadPublication) : Prop :=
  (head.metadata head.publishedActive).version % 2 = 0

def Stamped (len : Nat) (state : PortState size Word) : Prop :=
  let slot := state.slots (state.producerIndex len)
  match state.producer with
  | .prepare _ cell .even => (slot.metadata cell).cell = cell
  | .storeActive cell => (slot.metadata cell).version % 2 = 0 ∧ (slot.metadata cell).cell = cell
  | .storeHeadActive cell => (state.head.metadata cell).version % 2 = 0
  | _ => True

structure LegibleInv (len : Nat) (state : PortState size Word) : Prop where
  writers : ∀ index cell, ((state.slots index).metadata cell).writerVersion % 2 = 0
  headWriters : ∀ cell, (state.head.metadata cell).writerVersion % 2 = 0
  slots : ∀ index, (state.slots index).Legible
  head : state.head.Legible
  stamped : Stamped len state

variable (metadata : PortSequenceMetadata)

theorem next_version_even (even : metadata.writerVersion % 2 = 0) :
    metadata.nextVersion % 2 = 0 := by
  unfold PortSequenceMetadata.nextVersion word32
  omega

theorem prepare_writer_version (sequence : Nat) (stage : PrepareStage) :
    (metadata.prepare sequence stage).writerVersion =
      if stage = .even then metadata.nextVersion else metadata.writerVersion := by
  obtain ⟨version, low, high, writer⟩ := metadata
  cases stage <;> rfl

theorem prepare_writer_even (sequence : Nat) (stage : PrepareStage)
    (even : metadata.writerVersion % 2 = 0) : (metadata.prepare sequence stage).writerVersion % 2 = 0 := by
  rw [prepare_writer_version]
  split
  · exact next_version_even metadata even
  · exact even

theorem slot_prepare_writer_even (metadata : PortSlotMetadata) (sequence cell : Nat) (stage : PrepareStage)
    (even : metadata.writerVersion % 2 = 0) : (metadata.prepare sequence cell stage).writerVersion % 2 = 0 := by
  have same := congrArg PortSequenceMetadata.writerVersion (slot_prepare_sequence metadata sequence cell stage)
  rw [same]
  exact prepare_writer_even _ sequence stage even

theorem initial_legible_inv (initial : InitialPort state) : LegibleInv len state := by
  have slot : ∀ index, ∃ payloads, state.slots index = ⟨payloads, fun _ => {}, kPortNoHazard, 0, 0⟩ := initial.slots
  refine ⟨?_, ?_, ?_, ?_, ?_⟩
  · intro index cell
    obtain ⟨payloads, same⟩ := slot index
    simp only [same]
  · intro cell
    simp only [initial.head]
  · intro index
    obtain ⟨payloads, same⟩ := slot index
    rw [same]
    exact ⟨rfl, rfl⟩
  · rw [initial.head]
    rfl
  · simp [Stamped, initial.producer]

theorem active_legible_kept (inv : HazardInv len state) (taken : producerStep len state = some next) (index : Nat)
    (active : (next.slots index).publishedActive = (state.slots index).publishedActive)
    (legible : (state.slots index).Legible) : (next.slots index).Legible := by
  have idle : writtenCell len state index ≠ some (state.slots index).publishedActive := by
    intro filling
    exact ((inv.slotsSafe index).writingInactive _ filling).2 rfl
  have kept := (producer_step_frame len state next taken).metadata index _ idle
  rw [Slot.Legible, active, kept]
  exact legible

inductive MetadataMoved (len : Nat) (state next : PortState size Word) : Prop where
  | kept (slots : ∀ index cell, (next.slots index).metadata cell = (state.slots index).metadata cell)
      (head : ∀ cell, next.head.metadata cell = state.head.metadata cell)
  | slot (filled : Nat) (stage : PrepareStage)
      (written : (next.slots (state.producerIndex len)).metadata filled =
        ((state.slots (state.producerIndex len)).metadata filled).prepare state.nextSequence filled stage)
      (slots : ∀ index cell, index ≠ state.producerIndex len ∨ cell ≠ filled →
        (next.slots index).metadata cell = (state.slots index).metadata cell)
      (head : ∀ cell, next.head.metadata cell = state.head.metadata cell)
  | head (filled : Nat) (stage : PrepareStage)
      (written : next.head.metadata filled = (state.head.metadata filled).prepare state.nextSequence stage)
      (slots : ∀ index cell, (next.slots index).metadata cell = (state.slots index).metadata cell)
      (head : ∀ cell, cell ≠ filled → next.head.metadata cell = state.head.metadata cell)

theorem producer_step_metadata (taken : producerStep len state = some next) : MetadataMoved len state next := by
  cases producer_steps taken with
  | copyWord message cell copied inside pc =>
    refine .kept ?_ (fun _ => rfl)
    intro index other
    by_cases here : index = state.producerIndex len <;> simp [setSlot, Slot.writeWord, here]
  | copied message cell copied inside pc =>
    exact .kept (fun _ _ => rfl) (fun _ => rfl)
  | prepare message cell stage pc =>
    refine .slot cell stage ?_ ?_ (fun _ => rfl)
    · simp [setSlot, Slot.writeMetadata]
    · intro index other elsewhere
      by_cases here : index = state.producerIndex len
      · have different : other ≠ cell := elsewhere.resolve_left (not_not_intro here)
        simp [setSlot, Slot.writeMetadata, here, different]
      · simp [setSlot, here]
  | storeActive cell pc =>
    refine .kept ?_ (fun _ => rfl)
    intro index other
    by_cases here : index = state.producerIndex len <;> simp [setSlot, here]
  | prepareHead cell stage pc =>
    refine .head cell stage ?_ (fun _ _ => rfl) ?_
    · simp
    · intro other different
      simp [different]
  | _ =>
    exact .kept (fun _ _ => rfl) (fun _ => rfl)

theorem producer_step_writers (legible : LegibleInv len state) (taken : producerStep len state = some next) :
    (∀ index cell, ((next.slots index).metadata cell).writerVersion % 2 = 0) ∧
      ∀ cell, (next.head.metadata cell).writerVersion % 2 = 0 := by
  cases producer_step_metadata len state next taken with
  | kept slots head =>
    refine ⟨?_, ?_⟩
    · intro index cell
      rw [slots]
      exact legible.writers index cell
    · intro cell
      rw [head]
      exact legible.headWriters cell
  | slot filled stage written slots head =>
    refine ⟨?_, ?_⟩
    · intro index cell
      by_cases here : index = state.producerIndex len ∧ cell = filled
      · rw [here.1, here.2, written]
        exact slot_prepare_writer_even _ _ _ _ (legible.writers _ filled)
      · rw [slots index cell (not_and_or.mp here)]
        exact legible.writers index cell
    · intro cell
      rw [head]
      exact legible.headWriters cell
  | head filled stage written slots head =>
    refine ⟨?_, ?_⟩
    · intro index cell
      rw [slots]
      exact legible.writers index cell
    · intro cell
      by_cases here : cell = filled
      · rw [here, written]
        exact prepare_writer_even _ _ _ (legible.headWriters filled)
      · rw [head cell here]
        exact legible.headWriters cell

theorem producer_step_stamped (legible : LegibleInv len state)
    (taken : producerStep len state = some next) : Stamped len next := by
  have stamped := legible.stamped
  cases producer_steps taken with
  | prepare message cell stage pc =>
    cases stage with
    | even =>
      have own : ((state.slots (state.producerIndex len)).metadata cell).cell = cell := by
        simpa only [Stamped, pc] using stamped
      have even := next_version_even _ (legible.writers (state.producerIndex len) cell)
      refine ⟨?_, ?_⟩
      · simpa [setSlot, Slot.writeMetadata, PortSlotMetadata.prepare, PortSequenceMetadata.prepare] using even
      · simpa [setSlot, Slot.writeMetadata, PortSlotMetadata.prepare] using own
    | cell => simp [Stamped, nextStage, setSlot, Slot.writeMetadata, PortSlotMetadata.prepare]
    | _ => trivial
  | prepareHead cell stage pc =>
    cases stage with
    | even =>
      have even := next_version_even _ (legible.headWriters cell)
      simpa [Stamped, nextHeadStage, nextStage, PortSequenceMetadata.prepare] using even
    | _ => trivial
  | _ => trivial

theorem producer_step_legible (inv : HazardInv len state)
    (legible : LegibleInv len state) (taken : producerStep len state = some next) : LegibleInv len next := by
  obtain ⟨writers, headWriters⟩ := producer_step_writers len state next legible taken
  have stamped := legible.stamped
  refine ⟨writers, headWriters, ?_, ?_, producer_step_stamped len state next legible taken⟩
  · intro index
    by_cases store : ∃ cell, state.producer = .storeActive cell
    · obtain ⟨cell, pc⟩ := store
      rw [Stamped, pc] at stamped
      by_cases here : index = state.producerIndex len
      · simp only [producerStep, pc] at taken
        cases taken
        rw [here, set_slot_same]
        exact stamped
      · refine active_legible_kept len state next inv taken index ?_ (legible.slots index)
        simp only [producerStep, pc] at taken
        cases taken
        rw [set_slot_other state _ _ _ here]
    · have other : ∀ cell, state.producer ≠ .storeActive cell := fun cell pc => store ⟨cell, pc⟩
      exact active_legible_kept len state next inv taken index
        ((producer_step_published len state next taken other).2 index) (legible.slots index)
  · by_cases store : ∃ cell, state.producer = .storeHeadActive cell
    · obtain ⟨cell, pc⟩ := store
      rw [Stamped, pc] at stamped
      simp only [producerStep, pc] at taken
      cases taken
      exact stamped
    · have other : ∀ cell, state.producer ≠ .storeHeadActive cell := fun cell pc => store ⟨cell, pc⟩
      have active := (producer_step_unpublishing len state next taken other).headActive
      have idle : state.producer.headCell ≠ some state.head.publishedActive := by
        intro filling
        exact (inv.headSafe.writingInactive _ filling).2 rfl
      have kept := (producer_step_frame len state next taken).head _ idle
      rw [PortHeadPublication.Legible, active, kept]
      exact legible.head

theorem consumer_moved_legible (legible : LegibleInv len state) (moved : ConsumerMoved len state next) : LegibleInv len next := by
  have slots : ∀ index, ∃ hazard, next.slots index = { state.slots index with readerHazard := hazard } := moved.slotData
  obtain ⟨headHazard, headSame⟩ := moved.headData
  refine ⟨?_, ?_, ?_, ?_, ?_⟩
  · intro index cell
    obtain ⟨hazard, same⟩ := slots index
    rw [same]
    exact legible.writers index cell
  · intro cell
    rw [headSame]
    exact legible.headWriters cell
  · intro index
    obtain ⟨hazard, same⟩ := slots index
    rw [same]
    exact legible.slots index
  · rw [headSame]
    exact legible.head
  · have stamped := legible.stamped
    have index : next.producerIndex len = state.producerIndex len := by
      rw [producerIndex, nextSequence, moved.producerSequence]
    obtain ⟨hazard, same⟩ := slots (state.producerIndex len)
    unfold Stamped at stamped ⊢
    rw [index, moved.producer, same, headSame]
    exact stamped

theorem reachable_legible_inv (positive : 0 < len) (bounded : len < word64) :
    ∀ state, Reachable (port len size Word) state → LegibleInv len state := by
  refine reachable_invariant_under (port len size Word) Always (PortInv len) (LegibleInv len)
    (reachable_port_inv len positive bounded) (initial_legible_inv len) ?_
  intro state action next inv _ legible _ taken
  have step : portStep len state action = some next := taken
  cases port_steps step with
  | push message => exact ⟨legible.writers, legible.headWriters, legible.slots, legible.head, trivial⟩
  | producer => exact producer_step_legible len state next inv.hazard legible step
  | call call => exact consumer_moved_legible len state _ legible (call_moved len state _ call step).2.2
  | consumer =>
    exact consumer_moved_legible len state next legible (consumer_step_moves len state next inv.hazard step)

end EncosDriver.Port
