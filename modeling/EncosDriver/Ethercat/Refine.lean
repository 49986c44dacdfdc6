import EncosDriver.Ethercat.Lane
import Mathlib.Data.List.Dedup

set_option autoImplicit false

namespace EncosDriver.Ethercat

open Lib Message

def ofBus (encoded : Int32) (submissions : List Submission) : List Submission :=
  submissions.filter fun submission => submission.message.busIdx = encoded

def Ordered (submissions : List Submission) : Prop := submissions.Pairwise fun earlier later => earlier.origin < later.origin

def laneView (traits : PacketTraits) (target : Target) (encoded : Int32) (handle : Handle) (packed : List Submission) : Lane where
  handed := laneOf traits target encoded handle.handed
  discarded := laneOf traits target encoded handle.discarded
  waiting := laneOf traits target encoded handle.sendFrames
  generation := generationOf handle.busGenerations encoded
  batch := none
  packed := ofBus encoded packed

theorem generation_advance (generations : Table Int32 Nat) (buses : List Int32) (encoded : Int32) (distinct : buses.Nodup) :
    generationOf (Handle.advanceGenerations generations buses) encoded =
      generationOf generations encoded + if encoded ∈ buses then 1 else 0 := by
  induction buses generalizing generations with
  | nil => rfl
  | cons bus rest ih =>
    obtain ⟨absent, following⟩ := List.nodup_cons.mp distinct
    have advanced := ih (generations.put bus (generationOf generations bus + 1)) following
    simp only [Handle.advanceGenerations, List.foldl_cons] at advanced ⊢
    rw [advanced]
    by_cases same : encoded = bus
    · subst same
      simp [generationOf, absent]
    · simp [generationOf, same]

theorem collect_mem (configs : List SlaveConfig) (slaveCount : Nat) (messages : List Submission) (encoded : Int32) (target : Target)
    (found : targetOf configs slaveCount encoded = some target) :
    encoded ∈ collectPackableBuses configs slaveCount messages ↔ ofBus encoded messages ≠ [] := by
  simp only [collectPackableBuses, List.mem_dedup, List.mem_map, List.mem_filter, ofBus, ne_eq, List.filter_eq_nil_iff]
  constructor
  · rintro ⟨submission, ⟨member, _⟩, bus⟩ none
    exact none submission member (by simpa using bus)
  · intro some
    push Not at some
    obtain ⟨submission, member, bus⟩ := some
    have own : submission.message.busIdx = encoded := by simpa using bus
    exact ⟨submission, ⟨member, by rw [own, found]; rfl⟩, own⟩

section Packing

variable (configs : List SlaveConfig) (slaveCount : Nat) (topology : Topology configs slaveCount)
include topology

theorem pack_messages_formed (generations : Table Int32 Nat) (queue : List QueuedFrame) (messages : List Submission)
    (formed : QueueOk configs slaveCount queue) :
    QueueOk configs slaveCount (packMessagesIntoQueue configs slaveCount generations queue messages) :=
  pack_messages_frames configs slaveCount (FrameOk configs slaveCount) (fresh_frame configs slaveCount).1
    (try_insert_formed configs slaveCount topology) generations queue messages formed

variable (encoded : Int32) (target : Target) (traits : PacketTraits) (found : targetOf configs slaveCount encoded = some target)
  (placed : Placed configs slaveCount target traits)
include found placed

theorem pack_messages_fold (generations : Table Int32 Nat) (messages : List Submission) (queue : List QueuedFrame) (lane : Lane)
    (formed : QueueOk configs slaveCount queue) (waiting : lane.waiting = laneOf traits target encoded queue)
    (generation : lane.generation = generationOf generations encoded)
    (same : ∀ submission ∈ ofBus encoded messages, submission.batch = lane.batch)
    (ordered : Ordered (lane.packed ++ ofBus encoded messages)) :
    LaneMoves traits.motorsPerBus lane
      { lane with
        waiting := laneOf traits target encoded (messages.foldl (packMessage configs slaveCount generations) queue)
        packed := lane.packed ++ ofBus encoded messages } := by
  induction messages generalizing queue lane with
  | nil =>
    have unchanged : { lane with waiting := laneOf traits target encoded queue, packed := lane.packed ++ ofBus encoded [] } = lane := by
      simp [ofBus, ← waiting]
    rw [List.foldl_nil, unchanged]
  | cons submission rest ih =>
    have following := pack_message_formed configs slaveCount topology generations queue submission formed
    rw [List.foldl_cons]
    by_cases own : submission.message.busIdx = encoded
    · have split : ofBus encoded (submission :: rest) = submission :: ofBus encoded rest := by simp [ofBus, own]
      rw [split] at same ordered ⊢
      have newer : ∀ earlier ∈ lane.packed, earlier.origin < submission.origin := fun earlier member =>
        (List.pairwise_append.mp ordered).2.2 earlier member submission List.mem_cons_self
      have packs := pack_message_own configs slaveCount encoded target traits found placed generations queue submission formed own
      have moves := ih (packMessage configs slaveCount generations queue submission)
        { lane with
          waiting := laneOf traits target encoded (packMessage configs slaveCount generations queue submission)
          packed := lane.packed ++ [submission] } following rfl generation
        (fun later member => same later (List.mem_cons_of_mem submission member)) (by simpa using ordered)
      rw [← waiting, ← generation] at packs
      simp only [List.append_assoc, List.singleton_append] at moves
      rcases packs with packs | packs
      · exact .head (.pack lane submission _ newer (same submission List.mem_cons_self) packs) moves
      · exact .head (.opened lane) (.head (.pack { lane with waiting := lane.waiting ++ [freshSegment traits.motorsPerBus] }
          submission _ newer (same submission List.mem_cons_self) packs) moves)
    · have skipped : ofBus encoded (submission :: rest) = ofBus encoded rest := by simp [ofBus, own]
      rw [skipped] at same ordered ⊢
      have others := pack_message_other configs slaveCount topology encoded target traits found placed generations queue submission
        formed own
      rcases others with kept | opened
      · exact ih _ lane following (waiting.trans kept.symm) generation same ordered
      · refine .head (.opened lane) ?_
        exact ih _ { lane with waiting := lane.waiting ++ [freshSegment traits.motorsPerBus] } following
          (by rw [opened, waiting]) generation same ordered

theorem pack_messages_moves (generations : Table Int32 Nat) (messages : List Submission) (queue : List QueuedFrame) (lane : Lane)
    (formed : QueueOk configs slaveCount queue) (waiting : lane.waiting = laneOf traits target encoded queue)
    (generation : lane.generation = generationOf generations encoded)
    (same : ∀ submission ∈ ofBus encoded messages, submission.batch = lane.batch)
    (ordered : Ordered (lane.packed ++ ofBus encoded messages)) :
    LaneMoves traits.motorsPerBus lane
      { lane with
        waiting := laneOf traits target encoded (packMessagesIntoQueue configs slaveCount generations queue messages)
        packed := lane.packed ++ ofBus encoded messages } := by
  have used : slaveCount ≠ 0 := Nat.ne_of_gt (Nat.zero_lt_of_lt placed.inside)
  rw [packMessagesIntoQueue, if_neg used]
  exact pack_messages_fold configs slaveCount topology encoded target traits found placed generations messages queue lane formed
    waiting generation same ordered

end Packing

def Uniform (batches : List PendingBatch) : Prop :=
  ∀ batch ∈ batches, ∃ name, (batch.synchronized = false → name = none) ∧ ∀ submission ∈ batch.messages, submission.batch = name

def messagesOf (batches : List PendingBatch) : List Submission := batches.flatMap fun batch => batch.messages

structure Shows (configs : List SlaveConfig) (slaveCount : Nat) (handle : Handle) (packed : List Submission)
    (remaining : List PendingBatch) : Prop where
  waiting : QueueOk configs slaveCount handle.sendFrames
  handed : QueueOk configs slaveCount handle.handed
  discarded : QueueOk configs slaveCount handle.discarded
  numbered : handle.submitted.map (fun submission => submission.origin) = List.range handle.submitted.length
  covered : handle.submitted = packed ++ messagesOf remaining
  uniform : Uniform remaining
  lanes : ∀ encoded target traits, targetOf configs slaveCount encoded = some target → Placed configs slaveCount target traits →
    LaneMoves traits.motorsPerBus emptyLane (laneView traits target encoded handle packed)

theorem numbered_ordered (submissions : List Submission)
    (numbered : submissions.map (fun submission => submission.origin) = List.range submissions.length) : Ordered submissions := by
  have increasing := List.pairwise_lt_range (n := submissions.length)
  rw [← numbered] at increasing
  exact List.pairwise_map.mp increasing

section Steps

variable (configs : List SlaveConfig) (slaveCount : Nat) (topology : Topology configs slaveCount)
include topology

variable (handle : Handle) (packed : List Submission)

theorem pack_batch_moves (batch : PendingBatch) (encoded : Int32) (target : Target)
    (traits : PacketTraits) (found : targetOf configs slaveCount encoded = some target)
    (placed : Placed configs slaveCount target traits) (formed : QueueOk configs slaveCount handle.sendFrames)
    (ordered : Ordered (packed ++ batch.messages)) (name : Option Nat) (normal : batch.synchronized = false → name = none)
    (same : ∀ submission ∈ batch.messages, submission.batch = name) :
    LaneMoves traits.motorsPerBus (laneView traits target encoded handle packed)
      (laneView traits target encoded (handle.packBatchIntoSegmentsLocked configs slaveCount batch) (packed ++ batch.messages)) := by
  have inOrder : Ordered (ofBus encoded packed ++ ofBus encoded batch.messages) := by
    simpa only [Ordered, ofBus, List.filter_append] using List.Pairwise.filter _ ordered
  have uniform : ∀ submission ∈ ofBus encoded batch.messages, submission.batch = name :=
    fun submission member => same submission (List.mem_of_mem_filter member)
  have joined : ofBus encoded (packed ++ batch.messages) = ofBus encoded packed ++ ofBus encoded batch.messages := List.filter_append ..
  by_cases empty : batch.messages.isEmpty
  · have none : batch.messages = [] := List.isEmpty_iff.mp empty
    simp only [Handle.packBatchIntoSegmentsLocked, none, List.isEmpty_nil, ↓reduceIte, List.append_nil]
    exact .refl
  · cases synchronized : batch.synchronized with
    | false =>
      obtain rfl := normal synchronized
      have moves := pack_messages_moves configs slaveCount topology encoded target traits found placed handle.busGenerations
        batch.messages handle.sendFrames (laneView traits target encoded handle packed) formed rfl rfl uniform inOrder
      simpa [Handle.packBatchIntoSegmentsLocked, empty, synchronized, laneView, joined] using moves
    | true =>
      have distinct : (collectPackableBuses configs slaveCount batch.messages).Nodup := List.nodup_dedup _
      have advanced (generations : Table Int32 Nat) := generation_advance generations
        (collectPackableBuses configs slaveCount batch.messages) encoded distinct
      by_cases touched : ofBus encoded batch.messages = []
      · have absent : encoded ∉ collectPackableBuses configs slaveCount batch.messages := fun member =>
          (collect_mem configs slaveCount batch.messages encoded target found).mp member touched
        have moves := pack_messages_moves configs slaveCount topology encoded target traits found placed
          (Handle.advanceGenerations handle.busGenerations (collectPackableBuses configs slaveCount batch.messages))
          batch.messages handle.sendFrames (laneView traits target encoded handle packed) formed rfl
          (by rw [advanced, if_neg absent]; rfl) (by simp [touched]) inOrder
        simpa [Handle.packBatchIntoSegmentsLocked, empty, synchronized, laneView, joined, advanced, absent] using moves
      · have present := (collect_mem configs slaveCount batch.messages encoded target found).mpr touched
        have entered : LaneMove traits.motorsPerBus _ _ := .advance (laneView traits target encoded handle packed) name
        have moves := pack_messages_moves configs slaveCount topology encoded target traits found placed
          (Handle.advanceGenerations handle.busGenerations (collectPackableBuses configs slaveCount batch.messages))
          batch.messages handle.sendFrames
          { laneView traits target encoded handle packed with
            generation := generationOf handle.busGenerations encoded + 1
            batch := name } formed rfl (by rw [advanced, if_pos present]) uniform inOrder
        have closed : LaneMove traits.motorsPerBus _ _ := .advance
          { laneView traits target encoded handle packed with
            waiting := laneOf traits target encoded (packMessagesIntoQueue configs slaveCount
              (Handle.advanceGenerations handle.busGenerations (collectPackableBuses configs slaveCount batch.messages))
              handle.sendFrames batch.messages)
            generation := generationOf handle.busGenerations encoded + 1
            batch := name
            packed := ofBus encoded packed ++ ofBus encoded batch.messages } none
        have whole := (Relation.ReflTransGen.single entered).trans (moves.tail closed)
        simpa [Handle.packBatchIntoSegmentsLocked, empty, synchronized, laneView, joined, advanced, present] using whole

theorem pack_batch_shows (batch : PendingBatch) (rest : List PendingBatch)
    (shows' : Shows configs slaveCount handle packed (batch :: rest)) :
    Shows configs slaveCount (handle.packBatchIntoSegmentsLocked configs slaveCount batch) (packed ++ batch.messages) rest := by
  obtain ⟨frames, histories⟩ :
      QueueOk configs slaveCount (handle.packBatchIntoSegmentsLocked configs slaveCount batch).sendFrames ∧
        (handle.packBatchIntoSegmentsLocked configs slaveCount batch).handed = handle.handed ∧
        (handle.packBatchIntoSegmentsLocked configs slaveCount batch).discarded = handle.discarded ∧
        (handle.packBatchIntoSegmentsLocked configs slaveCount batch).submitted = handle.submitted := by
    simp only [Handle.packBatchIntoSegmentsLocked]
    split
    · exact ⟨shows'.waiting, rfl, rfl, rfl⟩
    · exact ⟨pack_messages_formed configs slaveCount topology _ _ _ shows'.waiting, rfl, rfl, rfl⟩
  obtain ⟨handed, discarded, submitted⟩ := histories
  have covered : handle.submitted = packed ++ batch.messages ++ messagesOf rest := by
    simpa [messagesOf] using shows'.covered
  have ordered : Ordered (packed ++ batch.messages) := by
    have whole := numbered_ordered handle.submitted shows'.numbered
    rw [covered] at whole
    exact (List.pairwise_append.mp whole).1
  obtain ⟨⟨name, normal, same⟩, uniform⟩ := List.forall_mem_cons.mp shows'.uniform
  refine ⟨frames, handed ▸ shows'.handed, discarded ▸ shows'.discarded, submitted ▸ shows'.numbered, submitted.trans covered,
    uniform, ?_⟩
  intro encoded target traits found placed
  exact (shows'.lanes encoded target traits found placed).trans (pack_batch_moves configs slaveCount topology handle packed batch
    encoded target traits found placed shows'.waiting ordered name normal same)

theorem pack_batches_shows (batches : List PendingBatch) (shows' : Shows configs slaveCount handle packed batches) :
    Shows configs slaveCount (batches.foldl (Handle.packBatchIntoSegmentsLocked configs slaveCount) handle)
      (packed ++ messagesOf batches) [] := by
  induction batches generalizing handle packed with
  | nil => simpa [messagesOf] using shows'
  | cons batch rest ih =>
    have following := ih _ _ (pack_batch_shows configs slaveCount topology handle packed batch rest shows')
    simpa [messagesOf] using following

omit topology in
theorem discard_moves (capacity : Nat) (front rest : List Segment) (lane : Lane) (waiting : lane.waiting = front ++ rest) :
    LaneMoves capacity lane { lane with discarded := lane.discarded ++ front, waiting := rest } := by
  induction front generalizing lane with
  | nil =>
    have unchanged : { lane with discarded := lane.discarded ++ [], waiting := rest } = lane := by
      simpa using congrArg (fun segments => { lane with waiting := segments }) waiting.symm
    rw [unchanged]
  | cons first front ih =>
    have moves := ih { lane with discarded := lane.discarded ++ [first], waiting := front ++ rest } rfl
    have whole := Relation.ReflTransGen.head (LaneMove.discard lane first (front ++ rest) waiting) moves
    simpa using whole

omit topology in
theorem trim_shows (remaining : List PendingBatch)
    (shows' : Shows configs slaveCount handle packed remaining) : Shows configs slaveCount handle.trim packed remaining := by
  unfold Handle.trim
  split
  · have parts : handle.sendFrames = handle.sendFrames.dropLast ++ handle.sendFrames.getLast?.toList := by
      cases last : handle.sendFrames.getLast? with
      | none => simp [List.getLast?_eq_none_iff.mp last]
      | some frame => exact (List.dropLast_append_getLast? frame last).symm
    have formed := shows'.waiting
    rw [QueueOk, parts, List.forall_mem_append] at formed
    refine ⟨formed.2, shows'.handed, List.forall_mem_append.mpr ⟨shows'.discarded, formed.1⟩, shows'.numbered, shows'.covered,
      shows'.uniform, ?_⟩
    intro encoded target traits found placed
    refine (shows'.lanes encoded target traits found placed).trans ?_
    have moves := discard_moves traits.motorsPerBus (laneOf traits target encoded handle.sendFrames.dropLast)
      (laneOf traits target encoded handle.sendFrames.getLast?.toList) (laneView traits target encoded handle packed) (by
        rw [← lane_append, ← parts]
        rfl)
    simpa only [laneView, lane_append] using moves
  · exact shows'

omit topology in
@[simp] theorem trim_pending (handle : Handle) : handle.trim.pendingBatches = handle.pendingBatches := by
  unfold Handle.trim
  split <;> rfl

omit topology in
theorem pack_batches_pending (handle : Handle) (batches : List PendingBatch) :
    (batches.foldl (Handle.packBatchIntoSegmentsLocked configs slaveCount) handle).pendingBatches = handle.pendingBatches := by
  induction batches generalizing handle with
  | nil => rfl
  | cons batch rest ih =>
    rw [List.foldl_cons, ih]
    simp only [Handle.packBatchIntoSegmentsLocked]
    split <;> rfl

theorem flush_shows (shows' : Shows configs slaveCount handle packed handle.pendingBatches) :
    (handle.flushPendingMessagesLocked configs slaveCount).pendingBatches = [] ∧
      Shows configs slaveCount (handle.flushPendingMessagesLocked configs slaveCount)
        (packed ++ messagesOf handle.pendingBatches) [] := by
  unfold Handle.flushPendingMessagesLocked
  split
  · next empty =>
      have drained : handle.pendingBatches = [] := List.isEmpty_iff.mp empty
      rw [drained] at shows' ⊢
      exact ⟨rfl, by simpa [messagesOf] using shows'⟩
  · have taken : Shows configs slaveCount { handle with pendingBatches := [] } packed handle.pendingBatches :=
      { shows' with lanes := shows'.lanes }
    refine ⟨by rw [trim_pending, pack_batches_pending], trim_shows configs slaveCount _ _ _ ?_⟩
    exact pack_batches_shows configs slaveCount topology _ _ _ taken

theorem prepare_shows (shows' : Shows configs slaveCount handle packed handle.pendingBatches) :
    (handle.prepareNextFrame configs slaveCount).pendingBatches = [] ∧
      Shows configs slaveCount (handle.prepareNextFrame configs slaveCount)
        (packed ++ messagesOf handle.pendingBatches) [] := by
  obtain ⟨drained, flushed⟩ := flush_shows configs slaveCount topology handle packed shows'
  simp only [Handle.prepareNextFrame]
  split
  · exact ⟨drained, flushed⟩
  · next front rest waiting =>
      have formed := flushed.waiting
      rw [QueueOk, waiting, List.forall_mem_cons] at formed
      refine ⟨drained, formed.2, List.forall_mem_append.mpr ⟨flushed.handed, by simpa using formed.1⟩, flushed.discarded,
        flushed.numbered, flushed.covered, flushed.uniform, ?_⟩
      intro encoded target traits found placed
      refine (flushed.lanes encoded target traits found placed).tail ?_
      have move : LaneMove traits.motorsPerBus _ _ := .hand
        (laneView traits target encoded (handle.flushPendingMessagesLocked configs slaveCount)
          (packed ++ messagesOf handle.pendingBatches))
        ⟨front.busGenerations.find encoded, region traits target front.frame⟩ (laneOf traits target encoded rest) (by
          simp only [laneView, waiting]
          rfl)
      simp only [laneView, lane_append]
      exact move

omit topology in
theorem queue_shows (handle after : Handle) (packed submissions : List Submission) (remaining remaining' : List PendingBatch)
    (shows' : Shows configs slaveCount handle packed remaining) (sendFrames : after.sendFrames = handle.sendFrames)
    (handed : after.handed = handle.handed) (discarded : after.discarded = handle.discarded)
    (generations : after.busGenerations = handle.busGenerations) (submitted : after.submitted = handle.submitted ++ submissions)
    (numbered : submissions.map (fun submission => submission.origin) =
      (List.range submissions.length).map (handle.submitted.length + ·))
    (grown : messagesOf remaining' = messagesOf remaining ++ submissions) (uniform : Uniform remaining') :
    Shows configs slaveCount after packed remaining' := by
  refine ⟨sendFrames ▸ shows'.waiting, handed ▸ shows'.handed, discarded ▸ shows'.discarded, ?_, ?_, uniform, ?_⟩
  · rw [submitted, List.map_append, shows'.numbered, numbered, List.length_append, List.range_add]
  · rw [submitted, grown, shows'.covered, List.append_assoc]
  · intro encoded target traits found placed
    simpa only [laneView, sendFrames, handed, discarded, generations] using shows'.lanes encoded target traits found placed

omit topology in
theorem number_origins (handle : Handle) (messages : MotorMessages) (batch : Option Nat) :
    (handle.number messages batch).map (fun submission => submission.origin) =
      (List.range (handle.number messages batch).length).map (handle.submitted.length + ·) := by
  have indices : messages.zipIdx.map Prod.snd = List.range messages.length := by
    rw [List.zipIdx_map_snd, List.range_eq_range']
  simp only [Handle.number, List.map_map, List.length_map, List.length_zipIdx, ← indices]
  rfl

omit topology in
theorem number_batch (handle : Handle) (messages : MotorMessages) (batch : Option Nat) :
    ∀ submission ∈ handle.number messages batch, submission.batch = batch := by
  intro submission member
  obtain ⟨entry, _, rfl⟩ := List.mem_map.mp member
  rfl

end Steps

variable (handle : Handle)

theorem number_messages (messages : MotorMessages) (batch : Option Nat) :
    (handle.number messages batch).map (fun submission => submission.message) = messages := by
  simp only [Handle.number, List.map_map]
  exact List.zipIdx_map_fst 0 messages

theorem append_pending (submissions : List Submission) (synchronized : Bool) (name : Option Nat)
    (normal : synchronized = false → name = none) (same : ∀ submission ∈ submissions, submission.batch = name)
    (uniform : Uniform handle.pendingBatches) :
    ∃ batches, handle.appendPendingMessagesLocked submissions synchronized = { handle with pendingBatches := batches } ∧
      messagesOf batches = messagesOf handle.pendingBatches ++ submissions ∧ Uniform batches := by
  unfold Handle.appendPendingMessagesLocked
  split
  · next pending last =>
      obtain ⟨init, parts⟩ := List.getLast?_eq_some_iff.mp last
      rw [parts] at uniform ⊢
      refine ⟨_, rfl, by simp [messagesOf], ?_⟩
      obtain ⟨earlier, ⟨old, oldNormal, oldSame⟩, _⟩ := by simpa only [Uniform, List.forall_mem_append, List.forall_mem_cons] using uniform
      simp only [List.dropLast_concat, Uniform, List.forall_mem_append, List.forall_mem_singleton]
      refine ⟨earlier, none, fun _ => rfl, ?_⟩
      obtain rfl : old = none := by simpa using oldNormal
      obtain rfl := normal rfl
      exact ⟨oldSame, same⟩
  · refine ⟨_, rfl, by simp [messagesOf], ?_⟩
    exact List.forall_mem_append.mpr ⟨uniform, by simpa using ⟨name, normal, same⟩⟩

theorem queue_message_pending (message : MotorMessage) (uniform : Uniform handle.pendingBatches) :
    ∃ batches, handle.queueMessage message =
        { handle with pendingBatches := batches, submitted := handle.submitted ++ handle.number [message] none } ∧
      messagesOf batches = messagesOf handle.pendingBatches ++ handle.number [message] none ∧ Uniform batches := by
  have normal := number_batch handle [message] none
  unfold Handle.queueMessage
  split
  · next pending last =>
      obtain ⟨init, parts⟩ := List.getLast?_eq_some_iff.mp last
      rw [parts] at uniform
      obtain ⟨earlier, ⟨old, oldNormal, oldSame⟩, _⟩ := by simpa only [Uniform, List.forall_mem_append, List.forall_mem_cons] using uniform
      obtain rfl : old = none := by simpa using oldNormal
      simp only [last]
      refine ⟨_, rfl, by simp [messagesOf, parts], ?_⟩
      simp only [parts, List.dropLast_concat, Uniform, List.forall_mem_append, List.forall_mem_singleton]
      exact ⟨earlier, none, fun _ => rfl, oldSame, normal⟩
  · simp only [List.getLast?_concat]
    refine ⟨_, rfl, by simp [messagesOf], ?_⟩
    simp only [List.dropLast_concat, Uniform, List.forall_mem_append, List.forall_mem_singleton]
    exact ⟨uniform, none, fun _ => rfl, by simp, normal⟩

theorem handle_shows (configs : List SlaveConfig) (slaveCount : Nat) (topology : Topology configs slaveCount) :
    ∀ handle, Reachable (system configs slaveCount) handle →
      ∃ packed, Shows configs slaveCount handle packed handle.pendingBatches := by
  refine reachable_invariant (system configs slaveCount) Always _ ?_ ?_
  · rintro handle rfl
    exact ⟨[], by simp [QueueOk], by simp [QueueOk], by simp [QueueOk], rfl, rfl, by simp [Uniform], fun _ _ _ _ _ => .refl⟩
  · rintro handle action next ⟨packed, shows'⟩ _ taken
    cases action with
    | queueMessage message =>
      cases taken
      obtain ⟨batches, queued, grown, uniform⟩ := queue_message_pending handle message shows'.uniform
      rw [queued]
      exact ⟨packed, queue_shows configs slaveCount handle _ packed _ _ batches shows' rfl rfl rfl rfl rfl
        (number_origins handle [message] none) grown uniform⟩
    | queueMessages messages =>
      cases taken
      unfold Handle.queueMessages
      split
      · exact ⟨packed, shows'⟩
      · obtain ⟨batches, appended, grown, uniform⟩ := append_pending handle (handle.number messages none) false none (fun _ => rfl)
          (number_batch handle messages none) shows'.uniform
        simp only [appended]
        exact ⟨packed, queue_shows configs slaveCount handle _ packed _ _ batches shows' rfl rfl rfl rfl rfl
          (number_origins handle messages none) grown uniform⟩
    | queueSynchronizedMessages messages =>
      cases taken
      unfold Handle.queueSynchronizedMessages
      split
      · exact ⟨packed, shows'⟩
      · obtain ⟨batches, appended, grown, uniform⟩ := append_pending handle
          (handle.number messages (some handle.synchronizedBatches)) true (some handle.synchronizedBatches) (by simp)
          (number_batch handle messages (some handle.synchronizedBatches)) shows'.uniform
        simp only [appended]
        exact ⟨packed, queue_shows configs slaveCount handle _ packed _ _ batches shows' rfl rfl rfl rfl rfl
          (number_origins handle messages _) grown uniform⟩
    | flush =>
      cases taken
      obtain ⟨drained, flushed⟩ := flush_shows configs slaveCount topology handle packed shows'
      exact ⟨_, drained ▸ flushed⟩
    | prepareNextFrame =>
      cases taken
      obtain ⟨drained, prepared⟩ := prepare_shows configs slaveCount topology handle packed shows'
      exact ⟨_, drained ▸ prepared⟩

end EncosDriver.Ethercat
