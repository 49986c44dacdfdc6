import EncosDriver.Ethercat.Handle

set_option autoImplicit false

namespace EncosDriver.Ethercat

open Lib Message

structure Call where
  configs : List SlaveConfig
  slaveCount : Nat
  action : Action

def callSystem : System Handle Call where
  init := fun handle => handle = {}
  step := fun handle call => step call.configs call.slaveCount handle call.action

def KeepsStamps (before after : QueuedFrame) : Prop :=
  ∀ encoded generation, before.busGenerations.find encoded = some generation →
    after.busGenerations.find encoded = some generation

def GrowsBehind (before after : List QueuedFrame) : Prop :=
  before.length ≤ after.length ∧ List.Forall₂ KeepsStamps before (after.take before.length)

theorem keeps_stamps_refl (queue : List QueuedFrame) : List.Forall₂ KeepsStamps queue queue :=
  List.forall₂_same.mpr fun _ _ _ _ found => found

theorem keeps_stamps_trans (before middle after : List QueuedFrame) (first : List.Forall₂ KeepsStamps before middle)
    (second : List.Forall₂ KeepsStamps middle after) : List.Forall₂ KeepsStamps before after := by
  induction first generalizing after with
  | nil =>
    cases second
    exact .nil
  | cons early _ ih =>
    cases second with
    | cons late rest => exact .cons (fun encoded generation found => late encoded generation (early encoded generation found)) (ih _ rest)

theorem keeps_stamps_emplace (queued : QueuedFrame) (frame : OutputFrame) (encoded : Int32) (generation : Nat) :
    KeepsStamps queued ⟨frame, queued.busGenerations.emplace encoded generation⟩ := by
  intro other stamp found
  rw [Table.find_emplace]
  by_cases same : other = encoded
  · subst same
    simp [found]
  · simp [same, found]

theorem grows_behind_kept (before front back : List QueuedFrame) (kept : List.Forall₂ KeepsStamps before front) :
    GrowsBehind before (front ++ back) := by
  refine ⟨?_, ?_⟩
  · rw [List.length_append, kept.length_eq]
    exact Nat.le_add_right _ _
  · rwa [kept.length_eq, List.take_left]

theorem grows_behind_refl (queue : List QueuedFrame) : GrowsBehind queue queue := by
  simpa only [List.append_nil] using grows_behind_kept queue queue [] (keeps_stamps_refl queue)

theorem grows_behind_trans (before middle after : List QueuedFrame) (first : GrowsBehind before middle)
    (second : GrowsBehind middle after) : GrowsBehind before after := by
  refine ⟨first.1.trans second.1, ?_⟩
  have kept := List.forall₂_take before.length second.2
  rw [List.take_take, Nat.min_eq_left first.1] at kept
  exact keeps_stamps_trans before (middle.take before.length) _ first.2 kept

theorem insert_into_queue_keeps (target : Target) (generation : Nat) (submission : Submission) (queue : List QueuedFrame) :
    List.Forall₂ KeepsStamps queue (insertIntoQueue target generation submission queue).1 := by
  induction queue with
  | nil => exact .nil
  | cons queued rest ih =>
    rw [insertIntoQueue]
    split
    · exact .cons (fun _ _ found => found) ih
    · dsimp only
      split
      · exact .cons (keeps_stamps_emplace queued _ _ _) (keeps_stamps_refl rest)
      · exact .cons (fun _ _ found => found) ih

variable (configs : List SlaveConfig) (slaveCount : Nat)

theorem pack_message_grows (generations : Table Int32 Nat) (queue : List QueuedFrame) (submission : Submission) :
    GrowsBehind queue (packMessage configs slaveCount generations queue submission) := by
  rw [packMessage]
  split
  · exact grows_behind_refl queue
  · next target _ =>
      have kept := insert_into_queue_keeps target (generationOf generations submission.message.busIdx) submission queue
      dsimp only
      split
      · simpa only [List.append_nil] using grows_behind_kept queue _ [] kept
      · split
        · exact grows_behind_kept queue _ _ kept
        · simpa only [List.append_nil] using grows_behind_kept queue _ [] kept

theorem pack_messages_grows (generations : Table Int32 Nat) (queue : List QueuedFrame) (messages : List Submission) :
    GrowsBehind queue (packMessagesIntoQueue configs slaveCount generations queue messages) := by
  rw [packMessagesIntoQueue]
  split
  · exact grows_behind_refl queue
  · induction messages generalizing queue with
    | nil => exact grows_behind_refl queue
    | cons submission rest ih =>
      exact grows_behind_trans _ _ _ (pack_message_grows configs slaveCount generations queue submission) (ih _)

namespace Handle

def Mirrored (handle : Handle) : Prop := handle.queuedFrameCount = handle.sendFrames.length

variable (handle : Handle)

section Flushing

variable (configs : List SlaveConfig) (slaveCount : Nat)

variable (handle : Handle)

variable (batch : PendingBatch)

theorem pack_batch_grows :
    GrowsBehind handle.sendFrames (packBatchIntoSegmentsLocked configs slaveCount handle batch).sendFrames := by
  rw [packBatchIntoSegmentsLocked]
  split
  · exact grows_behind_refl _
  · exact pack_messages_grows configs slaveCount _ _ _

theorem pack_batch_discarded :
    (packBatchIntoSegmentsLocked configs slaveCount handle batch).discarded = handle.discarded := by
  rw [packBatchIntoSegmentsLocked]
  split
  · rfl
  · rfl

theorem pack_batch_mirrored (mirrored : handle.Mirrored) :
    (packBatchIntoSegmentsLocked configs slaveCount handle batch).Mirrored := by
  have grown := (pack_batch_grows configs slaveCount handle batch).1
  rw [packBatchIntoSegmentsLocked] at grown ⊢
  split
  · exact mirrored
  · next used =>
      simp only [used, Bool.false_eq_true, if_false] at grown
      simp only [Mirrored] at mirrored ⊢
      rw [mirrored]
      exact Nat.add_sub_cancel' grown

def packPending (handle : Handle) : Handle :=
  handle.pendingBatches.foldl (packBatchIntoSegmentsLocked configs slaveCount) { handle with pendingBatches := [] }

theorem pack_batches_spec (batches : List PendingBatch) (handle : Handle) (mirrored : handle.Mirrored) :
    (batches.foldl (packBatchIntoSegmentsLocked configs slaveCount) handle).Mirrored ∧
      GrowsBehind handle.sendFrames (batches.foldl (packBatchIntoSegmentsLocked configs slaveCount) handle).sendFrames ∧
      (batches.foldl (packBatchIntoSegmentsLocked configs slaveCount) handle).discarded = handle.discarded := by
  induction batches generalizing handle with
  | nil => exact ⟨mirrored, grows_behind_refl _, rfl⟩
  | cons batch rest ih =>
    obtain ⟨after, grown, same⟩ := ih (packBatchIntoSegmentsLocked configs slaveCount handle batch)
      (pack_batch_mirrored configs slaveCount handle batch mirrored)
    exact ⟨after, grows_behind_trans _ _ _ (pack_batch_grows configs slaveCount handle batch) grown,
      same.trans (pack_batch_discarded configs slaveCount handle batch)⟩

theorem pack_pending_spec (mirrored : handle.Mirrored) :
    (packPending configs slaveCount handle).Mirrored ∧
      GrowsBehind handle.sendFrames (packPending configs slaveCount handle).sendFrames ∧
      (packPending configs slaveCount handle).discarded = handle.discarded :=
  pack_batches_spec configs slaveCount handle.pendingBatches { handle with pendingBatches := [] } mirrored

theorem trim_spec (mirrored : handle.Mirrored) :
    handle.trim.Mirrored ∧ handle.trim.sendFrames.length ≤ kSendQueueHighLoadThreshold ∧
      ∃ oldest, handle.sendFrames = oldest ++ handle.trim.sendFrames ∧ handle.trim.discarded = handle.discarded ++ oldest ∧
        (oldest = [] ∨ kSendQueueHighLoadThreshold < handle.sendFrames.length ∧ handle.trim.sendFrames.length = 1) := by
  rw [trim]
  split
  · next above =>
      rw [mirrored] at above
      have used : handle.sendFrames ≠ [] := by
        intro empty
        rw [empty] at above
        cases above
      obtain ⟨front, newest, parts⟩ := List.eq_nil_or_concat handle.sendFrames |>.resolve_left used
      rw [List.concat_eq_append] at parts
      simp only [Mirrored, parts, List.getLast?_append, List.getLast?_singleton, Option.some_or, Option.toList_some,
        List.length_singleton, List.dropLast_concat]
      refine ⟨trivial, by decide, front, rfl, rfl, .inr ⟨?_, trivial⟩⟩
      rwa [← parts]
  · next below =>
      rw [mirrored] at below
      exact ⟨mirrored, Nat.not_lt.mp below, [], rfl, (List.append_nil _).symm, .inl rfl⟩

structure DropsOldest (handle : Handle) : Prop where
  grown : GrowsBehind handle.sendFrames (packPending configs slaveCount handle).sendFrames
  trimmed : ∃ oldest,
    (packPending configs slaveCount handle).sendFrames = oldest ++ (flushPendingMessagesLocked configs slaveCount handle).sendFrames ∧
    (flushPendingMessagesLocked configs slaveCount handle).discarded = handle.discarded ++ oldest ∧
    (oldest = [] ∨ kSendQueueHighLoadThreshold < (packPending configs slaveCount handle).sendFrames.length ∧
      (flushPendingMessagesLocked configs slaveCount handle).sendFrames.length = 1)
  bounded : (flushPendingMessagesLocked configs slaveCount handle).sendFrames.length ≤ kSendQueueHighLoadThreshold

structure Counted (handle : Handle) : Prop where
  mirrored : handle.Mirrored
  bounded : handle.sendFrames.length ≤ kSendQueueHighLoadThreshold

theorem flush_spec (counted : handle.Counted) :
    (flushPendingMessagesLocked configs slaveCount handle).Counted ∧ DropsOldest configs slaveCount handle := by
  obtain ⟨mirrored, grown, same⟩ := pack_pending_spec configs slaveCount handle counted.mirrored
  cases pending : handle.pendingBatches with
  | nil =>
    have flushed : flushPendingMessagesLocked configs slaveCount handle = handle := by simp [flushPendingMessagesLocked, pending]
    have packed : (packPending configs slaveCount handle).sendFrames = handle.sendFrames := by simp [packPending, pending]
    refine ⟨by rwa [flushed], grown, ⟨[], ?_, ?_, .inl rfl⟩, by rw [flushed]; exact counted.bounded⟩
    · rw [flushed, packed, List.nil_append]
    · rw [flushed, List.append_nil]
  | cons batch rest =>
    have flushed : flushPendingMessagesLocked configs slaveCount handle = (packPending configs slaveCount handle).trim := by
      simp [flushPendingMessagesLocked, packPending, pending]
    obtain ⟨after, bounded, oldest, parts, discarded, above⟩ := trim_spec (packPending configs slaveCount handle) mirrored
    rw [← flushed] at after bounded parts discarded above
    exact ⟨⟨after, bounded⟩, grown, ⟨oldest, parts, by rw [discarded, same], above⟩, bounded⟩

theorem prepare_counted (counted : handle.Counted) : (prepareNextFrame configs slaveCount handle).Counted := by
  have flushed := (flush_spec configs slaveCount handle counted).1
  rw [prepareNextFrame]
  split
  · exact flushed
  · next front rest waiting =>
      have mirrored := flushed.mirrored
      have bounded := flushed.bounded
      rw [Mirrored, waiting, List.length_cons] at mirrored
      rw [waiting, List.length_cons] at bounded
      exact ⟨by simp [Mirrored, mirrored], Nat.le_of_succ_le bounded⟩

end Flushing

@[simp] theorem append_pending_frames (messages : List Submission) (synchronized : Bool) :
    (handle.appendPendingMessagesLocked messages synchronized).sendFrames = handle.sendFrames := by
  unfold appendPendingMessagesLocked
  split
  · rfl
  · rfl

@[simp] theorem append_pending_count (messages : List Submission) (synchronized : Bool) :
    (handle.appendPendingMessagesLocked messages synchronized).queuedFrameCount = handle.queuedFrameCount := by
  unfold appendPendingMessagesLocked
  split
  · rfl
  · rfl

theorem counted_of_queue (handle next : Handle) (frames : next.sendFrames = handle.sendFrames)
    (count : next.queuedFrameCount = handle.queuedFrameCount) (counted : handle.Counted) : next.Counted := by
  refine ⟨?_, by rw [frames]; exact counted.bounded⟩
  rw [Mirrored, frames, count]
  exact counted.mirrored

variable (messages : MotorMessages)

theorem queue_messages_counted (counted : handle.Counted) :
    (handle.queueMessages messages).Counted := by
  rw [queueMessages]
  split
  · exact counted
  · exact counted_of_queue handle _ (append_pending_frames handle _ _) (append_pending_count handle _ _) counted

theorem queue_synchronized_counted (counted : handle.Counted) :
    (handle.queueSynchronizedMessages messages).Counted := by
  rw [queueSynchronizedMessages]
  split
  · exact counted
  · exact counted_of_queue handle _ (append_pending_frames handle _ _) (append_pending_count handle _ _) counted

theorem queue_message_single (message : MotorMessage) : handle.queueMessage message = handle.queueMessages [message] := by
  cases last : handle.pendingBatches.getLast? with
  | none => simp [queueMessage, queueMessages, appendPendingMessagesLocked, last]
  | some batch =>
    obtain ⟨pending, synchronized⟩ := batch
    cases synchronized with
    | true | false => simp [queueMessage, queueMessages, appendPendingMessagesLocked, last]

theorem number_append (handle after : Handle) (first second : MotorMessages) (batch : Option Nat)
    (numbered : after.submitted = handle.submitted ++ handle.number first batch) :
    handle.number (first ++ second) batch = handle.number first batch ++ after.number second batch := by
  have behind : second.zipIdx first.length = second.zipIdx.map fun entry => (entry.1, first.length + entry.2) := List.zipIdx_eq_map_add
  have length : after.submitted.length = handle.submitted.length + first.length := by simp [numbered, number]
  simp only [number, List.zipIdx_append, List.map_append, Nat.zero_add, behind, List.map_map, length, Nat.add_assoc,
    Function.comp_def]

theorem queue_messages_used (used : messages ≠ []) :
    handle.queueMessages messages =
      { handle.appendPendingMessagesLocked (handle.number messages none) false with
        submitted := handle.submitted ++ handle.number messages none } := by
  simp [queueMessages, used]

theorem queue_messages_append (first second : MotorMessages) :
    handle.queueMessages (first ++ second) = (handle.queueMessages first).queueMessages second := by
  by_cases noFirst : first = []
  · simp [queueMessages, noFirst]
  by_cases noSecond : second = []
  · simp [queueMessages, noSecond]
  have both : first ++ second ≠ [] := List.append_ne_nil_of_left_ne_nil noFirst second
  have numbered := number_append handle (handle.queueMessages first) first second none
    (by rw [queue_messages_used handle first noFirst])
  rw [queue_messages_used _ _ both, queue_messages_used _ second noSecond, numbered]
  generalize (handle.queueMessages first).number second none = others
  rw [queue_messages_used handle first noFirst]
  cases last : handle.pendingBatches.getLast? with
  | none => simp [appendPendingMessagesLocked, last]
  | some batch =>
    obtain ⟨pending, synchronized⟩ := batch
    cases synchronized with
    | true => simp [appendPendingMessagesLocked, last]
    | false => simp [appendPendingMessagesLocked, last]

theorem queue_one_by_one : messages.foldl queueMessage handle = handle.queueMessages messages := by
  induction messages generalizing handle with
  | nil => simp [queueMessages]
  | cons message rest ih =>
    rw [List.foldl_cons, ih, queue_message_single, ← queue_messages_append, List.singleton_append]

structure Accounted (handle : Handle) : Prop where
  mirrored : handle.queuedFrameCount = handle.sendFrames.length
  bounded : handle.sendFrames.length ≤ kSendQueueHighLoadThreshold
  oldest : ∀ configs slaveCount, DropsOldest configs slaveCount handle
  sequence : ∀ messages : MotorMessages, messages.foldl queueMessage handle = handle.queueMessages messages

end Handle

theorem step_counted (handle next : Handle) (action : Action)
    (counted : handle.Counted) (taken : step configs slaveCount handle action = some next) : next.Counted := by
  cases action with
  | queueMessage message =>
    cases taken
    rw [Handle.queue_message_single]
    exact Handle.queue_messages_counted handle [message] counted
  | queueMessages messages =>
    cases taken
    exact Handle.queue_messages_counted handle messages counted
  | queueSynchronizedMessages messages =>
    cases taken
    exact Handle.queue_synchronized_counted handle messages counted
  | flush =>
    cases taken
    exact (Handle.flush_spec configs slaveCount handle counted).1
  | prepareNextFrame =>
    cases taken
    exact Handle.prepare_counted configs slaveCount handle counted

theorem send_queue_accounted (handle : Handle) (reached : Reachable callSystem handle) : handle.Accounted := by
  have counted : handle.Counted := by
    refine reachable_invariant callSystem Always Handle.Counted ?_ ?_ handle reached
    · intro start initial
      obtain rfl : start = {} := initial
      exact ⟨rfl, by decide⟩
    · intro before call after counted _ taken
      exact step_counted call.configs call.slaveCount before after call.action counted taken
  exact ⟨counted.mirrored, counted.bounded, fun configs slaveCount => (Handle.flush_spec configs slaveCount handle counted).2,
    handle.queue_one_by_one⟩

def crowdedRun : List Call :=
  [⟨[], 0, .queueMessages ((List.range 10).map fun id => ⟨0, ⟨UInt32.ofNat id, 0, 8, payload []⟩⟩)⟩,
    ⟨[classifyOutputPdoSize 86], 1, .flush⟩]

theorem crowded_ran : (runActions callSystem {} crowdedRun).isSome = true := by decide +kernel

def crowdedHandle : Handle := (runActions callSystem {} crowdedRun).get crowded_ran

theorem send_queue_accounted_crowded : crowdedHandle.Accounted ∧ crowdedHandle.discarded.length = 3 :=
  ⟨send_queue_accounted crowdedHandle
    (run_actions_reachable callSystem crowdedRun _ _ (.start _ rfl) (Option.some_get crowded_ran).symm), by decide +kernel⟩

end EncosDriver.Ethercat
