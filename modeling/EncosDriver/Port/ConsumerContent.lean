import EncosDriver.Port.Content

set_option autoImplicit false

namespace EncosDriver.Port

open Lib HazardCells PortState

variable {size : Nat} {Word : Type}

theorem slot_index_first (len : Nat) (positive : 0 < len) (bounded : len < word64) :
    1 ≤ slotIndex len 0 + 1 ∧ slotIndex len 0 + 1 ≤ word64 - 1 ∧
      slotIndex len ((slotIndex len 0 + 1) % word64) = slotIndex len 0 := by
  have inside : slotIndex len 0 < len := Nat.mod_lt _ positive
  refine ⟨by omega, by omega, ?_⟩
  generalize slotIndex len 0 = index at inside
  have small : (index + 1) % word64 = index + 1 := Nat.mod_eq_of_lt (by omega)
  have wrapped : index + 1 + (word64 - 1) = index + word64 := by omega
  rw [slotIndex, small, wrapped, Nat.add_mod_right, Nat.mod_eq_of_lt (Nat.lt_trans inside bounded),
    Nat.mod_eq_of_lt inside]

theorem consumer_moved_grown (len : Nat) (state next : PortState size Word) (moved : ConsumerMoved len state next) :
    Grown state next :=
  Grown.refl_of state next moved.pushes (Nat.le_of_eq (by rw [moved.producer]))

theorem consumer_content (len : Nat) (state next : PortState size Word) (moved : ConsumerMoved len state next)
    (content : ContentInv len state) (held : Held len next)
    (grounded : ∀ cell, next.consumer.slotCell = some cell →
      next.consumerSequence ≠ 0 ∨ ∃ count, HoldsPush len next (next.consumerIndex len) cell count)
    (wrapped : next.consumerSequence = 0 → word64 - 1 ≤ publishedCount state)
    (returned : ∀ value ∈ next.returned, ReturnedSound state value) : ContentInv len next := by
  have grown := consumer_moved_grown len state next moved
  have published : publishedCount next = publishedCount state := by
    rw [publishedCount, publishedCount, moved.pushes, moved.producer]
  have payloads : ∀ index, (next.slots index).payloads = (state.slots index).payloads := by
    intro index
    obtain ⟨hazard, same⟩ := moved.slotData index
    rw [same]
  have metadata : ∀ index, (next.slots index).metadata = (state.slots index).metadata := by
    intro index
    obtain ⟨hazard, same⟩ := moved.slotData index
    rw [same]
  have active : ∀ index, (next.slots index).publishedActive = (state.slots index).publishedActive := by
    intro index
    obtain ⟨hazard, same⟩ := moved.slotData index
    rw [same]
  have headMetadata : next.head.metadata = state.head.metadata := by
    obtain ⟨hazard, same⟩ := moved.headData
    rw [same]
  have producerIndexSame : next.producerIndex len = state.producerIndex len := by
    rw [producerIndex, nextSequence, moved.producerSequence]
  refine ⟨?_, ?_, ?_, ?_, ?_, held, grounded, ?_, ?_⟩
  · intro index cell idle
    have same : writtenCell len next index = writtenCell len state index := by
      rw [writtenCell, writtenCell, producerIndexSame, moved.producer]
    rw [same] at idle
    rcases content.cells index cell idle with fresh | ⟨count, holds⟩
    · left
      rw [metadata]
      exact fresh
    · exact .inr ⟨count, holds.grow grown (by rw [payloads]) (by rw [metadata])⟩
  · intro count counted below
    rw [published] at below
    obtain ⟨old, holds⟩ := content.touched count counted below
    rw [active]
    exact ⟨old, holds.grow grown (by rw [payloads]) (by rw [metadata])⟩
  · intro cell idle
    rw [moved.producer] at idle
    rw [headMetadata]
    exact (content.head cell idle).grow grown
  · have numbered := content.numbered
    unfold Numbered nextSequence at numbered ⊢
    rw [moved.producer, moved.pushes, moved.producerSequence]
    exact numbered
  · have staged := content.staged
    simpa only [Staged, nextSequence, producerIndexSame, payloads, metadata, headMetadata, moved.producer,
      moved.pushes, moved.producerSequence] using staged
  · intro zero
    rw [published]
    exact wrapped zero
  · intro value member
    exact (returned value member).grow grown

variable (len : Nat) (state : PortState size Word)

theorem consumer_load_content (pc : ConsumerPc Word)
    (content : ContentInv len state) (moved : ConsumerMoved len state { state with consumer := pc })
    (held : Held len { state with consumer := pc }) (slotCell : pc.slotCell = state.consumer.slotCell) :
    ContentInv len { state with consumer := pc } := by
  refine consumer_content len state _ moved content held ?_ content.wrapped content.returned
  intro cell found
  have before : state.consumer.slotCell = some cell := slotCell ▸ found
  rcases content.grounded cell before with started | ⟨count, holds⟩
  · exact .inl started
  · exact .inr ⟨count, holds.grow (consumer_moved_grown len state _ moved) rfl rfl⟩

theorem oldest_positive (len head : Nat) : 1 ≤ oldest len head := by
  unfold oldest
  split <;> omega

theorem wraps_only_at_end (count sequence : Nat) (number : sequence = count % word64)
    (wraps : (sequence + 1) % word64 = 0) : word64 - 1 ≤ count := by
  rw [word64_value] at *
  omega

structure CallSound (len : Nat) (state next : PortState size Word) : Prop where
  held : Held len next
  wrapped : (state.consumerSequence = 0 → word64 - 1 ≤ publishedCount state) →
    next.consumerSequence = 0 → word64 - 1 ≤ publishedCount state
  returned : (∀ value ∈ state.returned, ReturnedSound state value) →
    ∀ value ∈ next.returned, ReturnedSound state value

theorem answer_sound (state : PortState size Word) (earlier : List (Returned Word)) (latest : Returned Word)
    (sound : ReturnedSound state latest) (known : ∀ value ∈ earlier, ReturnedSound state value) :
    ∀ value ∈ earlier ++ [latest], ReturnedSound state value := by
  intro other member
  rcases List.mem_append.mp member with old | new
  · exact known other old
  · rw [List.mem_singleton.mp new]
    exact sound

theorem advance_nonzero (len head sequence : Nat)
    (zero : (if sequence < oldest len head then oldest len head else sequence) = 0) : sequence = 0 := by
  have positive := oldest_positive len head
  by_cases behind : sequence < oldest len head
  · rw [if_pos behind] at zero
    omega
  · rwa [if_neg behind] at zero

theorem after_head_sound (call : ConsumerCall) (head : Nat)
    (value : HeadValue state head) : CallSound len state (afterHead len state call head) := by
  have heads := answer_sound state state.returned (.head head) value
  cases call with
  | pop =>
    by_cases empty : head < state.consumerSequence
    · simp only [afterHead, answer, empty, ↓reduceIte]
      refine ⟨trivial, fun wrapped => wrapped, fun earlier => ?_⟩
      exact answer_sound state (state.returned ++ [.head head]) .nothing trivial (heads earlier)
    · simp only [afterHead, answer, empty, ↓reduceIte]
      refine ⟨trivial, ?_, heads⟩
      intro wrapped zero
      exact wrapped (advance_nonzero len head _ zero)
  | empty =>
    refine ⟨trivial, fun wrapped => wrapped, fun earlier => ?_⟩
    exact answer_sound state (state.returned ++ [.head head]) (.isEmpty _) trivial (heads earlier)
  | clear =>
    refine ⟨trivial, ?_, fun earlier => ?_⟩
    · intro _ wraps
      have last : (head + 1) % word64 = 0 := wraps
      rcases value with zero | ⟨count, _, published, number⟩
      · rw [zero, word64_value] at last
        omega
      · exact Nat.le_trans (wraps_only_at_end count head number last) published
    · exact answer_sound state (state.returned ++ [.head head]) .cleared trivial (heads earlier)

theorem after_target_sound (result : TargetResult Word)
    (popped : ∀ words, result = .found words → PoppedPush state state.consumerSequence words) :
    CallSound len state (afterTarget len state result) := by
  cases result with
  | found words =>
    have sound := popped words rfl
    refine ⟨trivial, ?_, answer_sound state state.returned (.popped state.consumerSequence words) sound⟩
    intro _ wraps
    obtain ⟨count, message, _, published, _, number, _⟩ := sound
    exact Nat.le_trans (wraps_only_at_end count _ number wraps) published
  | missing retry resync =>
    cases retry with
    | false => exact ⟨trivial, fun wrapped => wrapped, answer_sound state state.returned .nothing trivial⟩
    | true =>
      refine ⟨trivial, ?_, fun earlier => earlier⟩
      intro wrapped zero
      by_cases ahead : state.consumerSequence < resync
      · refine wrapped (advance_nonzero len resync _ ?_)
        simpa only [afterTarget, ahead, true_and] using zero
      · refine wrapped ?_
        simpa only [afterTarget, ahead, false_and, ↓reduceIte] using zero

theorem consumer_clear_content (len : Nat) (state cleared next : PortState size Word)
    (moved : ConsumerMoved len state next) (content : ContentInv len state) (sound : CallSound len cleared next)
    (pushes : cleared.pushes = state.pushes) (producer : cleared.producer = state.producer)
    (consumerSequence : cleared.consumerSequence = state.consumerSequence)
    (returned : cleared.returned = state.returned)
    (released : next.consumer.slotCell = none) : ContentInv len next := by
  have published : publishedCount cleared = publishedCount state := by
    rw [publishedCount, publishedCount, pushes, producer]
  have forward : Grown state cleared := Grown.refl_of state cleared pushes (Nat.le_of_eq (by rw [producer]))
  have backward : Grown cleared state := Grown.refl_of cleared state pushes.symm (Nat.le_of_eq (by rw [producer]))
  refine consumer_content len state next moved content sound.held ?_ ?_ ?_
  · intro cell found
    rw [released] at found
    cases found
  · have before := content.wrapped
    rw [← consumerSequence, ← published] at before
    rw [← published]
    exact sound.wrapped before
  · have before : ∀ value ∈ cleared.returned, ReturnedSound cleared value := by
      rw [returned]
      intro value member
      exact (content.returned value member).grow forward
    intro value member
    exact (sound.returned before value member).grow backward

theorem judged_copy (target cell : Nat) (snapshot : Option Nat) (stored : Nat)
    (judged : (judgeSnapshot target cell snapshot stored : Option (TargetResult Word)) = none) : snapshot = some target := by
  cases snapshot with
  | none => simp [judgeSnapshot] at judged
  | some sequence =>
    by_cases same : sequence = target
    · rw [same]
    · by_cases moved : stored = cell <;> simp [judgeSnapshot, same, moved] at judged

theorem judged_missing (target cell : Nat) (snapshot : Option Nat) (stored : Nat) (result : TargetResult Word)
    (judged : judgeSnapshot target cell snapshot stored = some result) : ∃ retry resync, result = .missing retry resync := by
  cases snapshot with
  | none =>
    cases judged
    exact ⟨true, target, rfl⟩
  | some sequence =>
    simp only [judgeSnapshot] at judged
    split at judged
    · cases judged
      exact ⟨true, target, rfl⟩
    · split at judged
      · cases judged
        exact ⟨_, sequence, rfl⟩
      · cases judged

theorem target_cell_popped (hazard : HazardInv len state)
    (content : ContentInv len state) (cell : Nat) (guarded : state.consumer.slotCell = some cell)
    (target : ((state.slots (state.consumerIndex len)).metadata cell).sequence = state.consumerSequence) :
    PoppedPush state state.consumerSequence (List.ofFn ((state.slots (state.consumerIndex len)).payloads cell)) := by
  have idle := validated_not_written len state hazard cell guarded
  have held : ∃ count, HoldsPush len state (state.consumerIndex len) cell count := by
    rcases content.cells _ cell idle with fresh | holds
    · rcases content.grounded cell guarded with started | holds
      · exact absurd (target.symm.trans fresh) started
      · exact holds
    · exact holds
  obtain ⟨count, holds⟩ := held
  exact ⟨count, _, holds.counted, holds.published, holds.pushed, target.symm.trans holds.sequence, rfl⟩

theorem take_next_word (words all : List Word) (so_far : words = all.take words.length)
    (inside : words.length < all.length) :
    words ++ [all[words.length]] = all.take (words ++ [all[words.length]]).length := by
  rw [List.length_append, List.length_singleton, List.take_succ_eq_append_getElem inside, ← so_far]

theorem consumer_step_content (len : Nat) (state next : PortState size Word) (positive : 0 < len)
    (bounded : len < word64) (hazard : HazardInv len state) (content : ContentInv len state)
    (taken : consumerStep len state = some next) : ContentInv len next := by
  have moved := consumer_step_moves len state next hazard taken
  have held := content.held
  cases pc : state.consumer with
  | idle => simp [consumerStep, pc] at taken
  | storeHeadHazard call cell | clearHeadHazard call | storeHazard cell =>
    simp only [consumerStep, pc] at taken
    cases taken
    exact consumer_clear_content len state state _ moved content ⟨trivial, fun same => same, fun same => same⟩
      rfl rfl rfl rfl rfl
  | recheckHead call cell =>
    by_cases active : state.head.publishedActive = cell
    · simp only [consumerStep, pc, active, ne_eq, not_true_eq_false, ↓reduceIte] at taken
      cases taken
      exact consumer_load_content len state _ content moved trivial (by rw [pc]; rfl)
    · simp only [consumerStep, pc, active, ne_eq, not_false_eq_true, ↓reduceIte] at taken
      cases taken
      exact consumer_load_content len state _ content moved trivial (by rw [pc]; rfl)
  | readHeadLow call cell before | readLow cell before =>
    simp only [consumerStep, pc] at taken
    cases taken
    exact consumer_load_content len state _ content moved rfl (by rw [pc]; rfl)
  | readHeadHigh call cell before low =>
    have read : low = (state.head.metadata cell).sequenceLow := by
      simpa only [Held, pc] using held
    simp only [consumerStep, pc] at taken
    cases taken
    refine consumer_load_content len state _ content moved ?_ (by rw [pc]; rfl)
    simp only [Held, read, PortSequenceMetadata.sequence]
  | readHeadVersionAgain call cell before low high =>
    have read : low + high * word32 = (state.head.metadata cell).sequence := by
      simpa only [Held, pc] using held
    simp only [consumerStep, pc] at taken
    cases taken
    refine consumer_load_content len state _ content moved ?_ (by rw [pc]; rfl)
    by_cases torn : before % 2 ≠ 0 ∨ before ≠ (state.head.metadata cell).version
    · simp only [Held, readSequence, torn, ↓reduceIte]
    · simp only [Held, readSequence, torn, ↓reduceIte]
      exact read
  | releaseHead call cell snapshot =>
    cases snapshot with
    | none =>
      simp only [consumerStep, pc] at taken
      cases taken
      exact consumer_clear_content len state state _ moved content ⟨trivial, fun same => same, fun same => same⟩
        rfl rfl rfl rfl rfl
    | some head =>
      have value : HeadValue state head := by
        rw [Held, pc] at held
        rw [held]
        exact content.head cell (hazard.headSafe.validatedIdle cell (by simp [headCells, pc, ConsumerPc.headCell]))
      simp only [consumerStep, pc] at taken
      cases taken
      exact consumer_clear_content len state (state.setHeadHazard kPortNoHazard) _ moved content
        (after_head_sound len _ call head (value.grow ⟨List.prefix_refl _, Nat.le_refl _⟩)) rfl rfl rfl rfl
        (after_head_released len _ call head).slotCell
  | recheck cell =>
    by_cases active : (state.slots (state.consumerIndex len)).publishedActive = cell
    · simp only [consumerStep, pc, active, ne_eq, not_true_eq_false, ↓reduceIte] at taken
      cases taken
      refine consumer_content len state _ moved content trivial ?_ content.wrapped content.returned
      intro other found
      cases found
      -- A target of zero means that the numbers have wrapped, so every slot was published before.
      by_cases started : state.consumerSequence = 0
      · obtain ⟨counted, below, placed⟩ := slot_index_first len positive bounded
        have touched := content.touched _ counted (Nat.le_trans below (content.wrapped started))
        rw [placed] at touched
        have here : state.consumerIndex len = slotIndex len 0 := by
          rw [consumerIndex, started]
        rw [here] at active
        rw [active] at touched
        obtain ⟨count, holds⟩ := touched
        have shown := holds.grow (consumer_moved_grown len state _ moved) rfl rfl
        rw [← here] at shown
        exact .inr ⟨count, shown⟩
      · exact .inl started
    · simp only [consumerStep, pc, active, ne_eq, not_false_eq_true, ↓reduceIte] at taken
      cases taken
      exact consumer_load_content len state _ content moved trivial (by rw [pc]; rfl)
  | abandonHazard =>
    simp only [consumerStep, pc] at taken
    cases taken
    refine consumer_clear_content len state (state.setHazard (state.consumerIndex len) kPortNoHazard) _ moved content
      (after_target_sound len _ _ ?_) rfl rfl rfl rfl (after_target_released len _ _).slotCell
    intro words found
    cases found
  | readHigh cell before low =>
    have read : low = ((state.slots (state.consumerIndex len)).metadata cell).sequenceLow := by
      simpa only [Held, pc] using held
    simp only [consumerStep, pc] at taken
    cases taken
    refine consumer_load_content len state _ content moved ?_ (by rw [pc]; rfl)
    simp only [Held, read, PortSequenceMetadata.sequence]
  | readCell cell before low high =>
    have read : low + high * word32 = ((state.slots (state.consumerIndex len)).metadata cell).sequence := by
      simpa only [Held, pc] using held
    simp only [consumerStep, pc] at taken
    cases taken
    exact consumer_load_content len state _ content moved read (by rw [pc]; rfl)
  | readVersionAgain cell before low high stored =>
    have read : low + high * word32 = ((state.slots (state.consumerIndex len)).metadata cell).sequence := by
      simpa only [Held, pc] using held
    cases judged : (judgeSnapshot state.consumerSequence cell
        (readSequence before low high ((state.slots (state.consumerIndex len)).metadata cell).version) stored :
          Option (TargetResult Word)) with
    | none =>
      have snapshot := judged_copy _ _ _ _ judged
      have target : low + high * word32 = state.consumerSequence := by
        unfold readSequence at snapshot
        split at snapshot
        · cases snapshot
        · exact Option.some.inj snapshot
      have popped := target_cell_popped len state hazard content cell (by rw [pc]; rfl) (read.symm.trans target)
      simp only [consumerStep, pc, judged] at taken
      cases taken
      refine consumer_load_content len state _ content moved ⟨?_, rfl⟩ (by rw [pc]; rfl)
      exact popped.grow (consumer_moved_grown len state _ moved)
    | some result =>
      obtain ⟨retry, resync, missing⟩ := judged_missing _ _ _ _ result judged
      rw [missing] at judged
      simp only [consumerStep, pc, judged] at taken
      cases taken
      exact consumer_load_content len state _ content moved trivial (by rw [pc]; rfl)
  | copyMessage cell words =>
    have copied : PoppedPush state state.consumerSequence
          (List.ofFn ((state.slots (state.consumerIndex len)).payloads cell)) ∧
        words = (List.ofFn ((state.slots (state.consumerIndex len)).payloads cell)).take words.length := by
      simpa only [Held, pc] using held
    obtain ⟨popped, so_far⟩ := copied
    by_cases inside : words.length < size
    · simp only [consumerStep, pc, inside, ↓reduceDIte] at taken
      cases taken
      refine consumer_load_content len state _ content moved ⟨?_, ?_⟩ (by rw [pc]; rfl)
      · exact popped.grow (consumer_moved_grown len state _ moved)
      · have longer := take_next_word words _ so_far (by rw [List.length_ofFn]; exact inside)
        simpa only [List.getElem_ofFn] using longer
    · simp only [consumerStep, pc, inside, ↓reduceDIte] at taken
      cases taken
      refine consumer_load_content len state _ content moved ?_ (by rw [pc]; rfl)
      have whole : words = List.ofFn ((state.slots (state.consumerIndex len)).payloads cell) := by
        rw [so_far]
        exact List.take_of_length_le (by rw [List.length_ofFn]; omega)
      rw [← whole] at popped
      exact popped.grow (consumer_moved_grown len state _ moved)
  | clearHazard cell result =>
    have found : ∀ words, result = .found words → PoppedPush state state.consumerSequence words := by
      intro words same
      rw [same] at pc
      simpa only [Held, pc] using held
    simp only [consumerStep, pc] at taken
    cases taken
    refine consumer_clear_content len state (state.setHazard (state.consumerIndex len) kPortNoHazard) _ moved content
      (after_target_sound len _ _ ?_) rfl rfl rfl rfl (after_target_released len _ _).slotCell
    intro words same
    exact (found words same).grow ⟨List.prefix_refl _, Nat.le_refl _⟩
  | _ =>
    simp only [consumerStep, pc] at taken
    cases taken
    exact consumer_load_content len state _ content moved trivial (by rw [pc]; rfl)

end EncosDriver.Port
