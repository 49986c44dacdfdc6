import EncosDriver.Ethercat.MotorCount
import EncosDriver.Ethercat.WireLayout

set_option autoImplicit false

namespace EncosDriver.Ethercat

open Lib Message

def carried (message : MotorMessage) : MotorMessage := { message with data := sent message.data }

structure FitsFrame (configs : List SlaveConfig) (slaveCount : Nat) (messages : MotorMessages) : Prop where
  addressed : ∀ message ∈ messages, (targetOf configs slaveCount message.busIdx).isSome
  room : ∀ encoded target, targetOf configs slaveCount encoded = some target →
    (messages.filter fun message => message.busIdx = encoded).length ≤ target.config.motorsPerBus

def GivesWay (earlier later : MotorMessage) : Prop :=
  earlier.busIdx = later.busIdx ∧ later.data.id ≠ kSystemCommandId ∧ earlier.data.id = later.data.id ∧
    earlier.data.data.get 0 >>> 5 ≤ 0x03

def decodedPacking (configs : List SlaveConfig) (slaveCount : Nat) (messages : MotorMessages) : MotorMessages :=
  (packMessages configs slaveCount (({} : Handle).number messages none)).flatMap fun frame =>
    decodeInputBytes configs (frameBytes configs frame) slaveCount

structure ComesBack (configs : List SlaveConfig) (slaveCount : Nat) (messages : MotorMessages) : Prop where
  single : (packMessages configs slaveCount (({} : Handle).number messages none)).length ≤ 1
  same : (decodedPacking configs slaveCount messages).Perm (messages.map carried)
  inOrder : ∀ encoded, (decodedPacking configs slaveCount messages).filter (fun message => message.busIdx = encoded) =
    (messages.map carried).filter fun message => message.busIdx = encoded

theorem insert_slots_next (submission : Submission) (slots : List Slot) (more : Nat)
    (kept : submission.message.data.id = kSystemCommandId ∨
      ∀ slot ∈ slots, replaceable submission.message.data.id slot = false)
    (used : ∀ slot ∈ slots, slot.data.len ≠ 0) :
    insertSlots submission (slots ++ List.replicate (more + 1) emptySlot) =
      some (slots ++ fillSlot submission emptySlot :: List.replicate more emptySlot) := by
  have skipped : (if submission.message.data.id ≠ kSystemCommandId then
      (slots ++ List.replicate (more + 1) emptySlot).findIdx? (replaceable submission.message.data.id) else none) = none := by
    split
    · next ordinary =>
        refine List.findIdx?_eq_none_iff.mpr fun slot member => ?_
        rcases List.mem_append.mp member with inUse | empty
        · exact kept.resolve_left ordinary slot inUse
        · rw [List.eq_of_mem_replicate empty]
          rfl
    · rfl
  have free : (slots ++ List.replicate (more + 1) emptySlot).findIdx? (fun slot => slot.data.len = 0) = some slots.length := by
    have none : slots.findIdx? (fun slot => slot.data.len = 0) = none :=
      List.findIdx?_eq_none_iff.mpr fun slot member => by simpa using used slot member
    rw [List.findIdx?_append, none, List.replicate_succ, List.findIdx?_cons]
    simp [emptySlot]
  have filled : (slots ++ List.replicate (more + 1) emptySlot).modify slots.length (fillSlot submission) =
      slots ++ fillSlot submission emptySlot :: List.replicate more emptySlot := by
    rw [List.modify_eq_take_cons_drop (by simp)]
    simp
  simp only [insertSlots, skipped, free, Option.map_some, filled]

def filledSlots (capacity : Nat) (submissions : List Submission) : List Slot :=
  submissions.map (fun submission => fillSlot submission emptySlot) ++ List.replicate (capacity - submissions.length) emptySlot

theorem mem_filled_slots (capacity : Nat) (submissions : List Submission) (slot : Slot) (member : slot ∈ filledSlots capacity submissions) :
    slot = emptySlot ∨ ∃ submission ∈ submissions, slot = fillSlot submission emptySlot := by
  rcases List.mem_append.mp member with used | empty
  · obtain ⟨submission, listed, rfl⟩ := List.mem_map.mp used
    exact .inr ⟨submission, listed, rfl⟩
  · exact .inl (List.eq_of_mem_replicate empty)

structure FilledWith (configs : List SlaveConfig) (slaveCount : Nat) (frame : OutputFrame) (submissions : List Submission) : Prop where
  formed : FrameOk configs slaveCount frame
  slots : ∀ encoded target traits, targetOf configs slaveCount encoded = some target → Placed configs slaveCount target traits →
    region traits target frame = filledSlots traits.motorsPerBus (ofBus encoded submissions)

structure Packable (configs : List SlaveConfig) (slaveCount : Nat) (submissions : List Submission) : Prop where
  addressed : ∀ submission ∈ submissions, (targetOf configs slaveCount submission.message.busIdx).isSome
  room : ∀ encoded target traits, targetOf configs slaveCount encoded = some target → Placed configs slaveCount target traits →
    (ofBus encoded submissions).length ≤ traits.motorsPerBus
  long : ∀ submission ∈ submissions, submission.message.data.len ≠ 0
  kept : submissions.Pairwise fun earlier later => ¬ GivesWay earlier.message later.message

section Packing

variable (configs : List SlaveConfig) (slaveCount : Nat) (topology : Topology configs slaveCount)
include topology

theorem try_insert_filled (frame : OutputFrame) (done rest : List Submission) (submission : Submission)
    (filled : FilledWith configs slaveCount frame done) (packable : Packable configs slaveCount (done ++ submission :: rest))
    (target : Target) (found : targetOf configs slaveCount submission.message.busIdx = some target) :
    (tryInsert target submission frame).2 = true ∧
      FilledWith configs slaveCount (tryInsert target submission frame).1 (done ++ [submission]) := by
  obtain ⟨traits, placed, _⟩ := target_placed configs slaveCount topology _ target found
  obtain ⟨inserted, own, others⟩ := try_insert_region configs slaveCount target traits placed submission frame filled.formed
  have room : (ofBus submission.message.busIdx done).length < traits.motorsPerBus := by
    have total := packable.room _ target traits found placed
    simp only [ofBus, List.filter_append, List.filter_cons, decide_true, if_true, List.length_append, List.length_cons] at total ⊢
    omega
  obtain ⟨more, spare⟩ := Nat.exists_eq_add_of_lt room
  have before : region traits target frame =
      (ofBus submission.message.busIdx done).map (fun submission => fillSlot submission emptySlot) ++
        List.replicate (more + 1) emptySlot := by
    rw [filled.slots _ target traits found placed, filledSlots]
    congr 2
    omega
  have kept : ∀ earlier ∈ done, ¬ GivesWay earlier.message submission.message := fun earlier member =>
    (List.pairwise_append.mp packable.kept).2.2 earlier member submission List.mem_cons_self
  have next := insert_slots_next submission
    ((ofBus submission.message.busIdx done).map fun submission => fillSlot submission emptySlot) more (by
      by_cases system : submission.message.data.id = kSystemCommandId
      · exact .inl system
      · refine .inr (List.forall_mem_map.mpr fun earlier member => ?_)
        obtain ⟨listed, bus⟩ := List.mem_filter.mp member
        refine Bool.eq_false_iff.mpr fun replaced => kept earlier listed ?_
        obtain ⟨_, same, control⟩ := (replaceable_iff _ _).mp replaced
        exact ⟨by simpa using bus, system, same, control⟩)
    (List.forall_mem_map.mpr fun earlier member => packable.long earlier
      (List.mem_append_left _ (List.mem_of_mem_filter member)))
  rw [before, next] at own
  refine ⟨own.1, inserted, ?_⟩
  intro encoded other otherTraits otherFound otherPlaced
  by_cases same : submission.message.busIdx = encoded
  · subst same
    obtain rfl : target = other := Option.some.inj (found.symm.trans otherFound)
    obtain rfl : traits = otherTraits := Option.some.inj (placed.format.symm.trans otherPlaced.format)
    have joined : ofBus submission.message.busIdx (done ++ [submission]) = ofBus submission.message.busIdx done ++ [submission] := by
      simp [ofBus]
    have left : traits.motorsPerBus - ((ofBus submission.message.busIdx done).length + 1) = more := by omega
    rw [own.2, filledSlots, joined, List.length_append, List.length_singleton, left, List.map_append, List.append_assoc]
    rfl
  · have skipped : ofBus encoded (done ++ [submission]) = ofBus encoded done := by simp [ofBus, same]
    have apart := targets_apart configs slaveCount topology _ _ target other (Ne.symm same) found otherFound
    rw [others other otherTraits otherPlaced apart, filled.slots encoded other otherTraits otherFound otherPlaced, skipped]

def OneFrame (configs : List SlaveConfig) (slaveCount : Nat) (queue : List QueuedFrame) (done : List Submission) : Prop :=
  (queue = [] ∧ done = []) ∨
    ∃ queued, queue = [queued] ∧ FilledWith configs slaveCount queued.frame done ∧
      ∀ encoded generation, queued.busGenerations.find encoded = some generation → generation = 0

omit topology in
theorem fresh_filled : FilledWith configs slaveCount (List.replicate slaveCount inactiveBuffer) [] := by
  obtain ⟨formed, empty⟩ := fresh_frame configs slaveCount
  refine ⟨formed, ?_⟩
  intro encoded target traits _ placed
  rw [empty target traits placed]
  rfl

theorem pack_message_filled (queue : List QueuedFrame) (done rest : List Submission) (submission : Submission)
    (holds : OneFrame configs slaveCount queue done) (packable : Packable configs slaveCount (done ++ submission :: rest)) :
    OneFrame configs slaveCount (packMessage configs slaveCount ∅ queue submission) (done ++ [submission]) := by
  have addressed := packable.addressed submission (List.mem_append_right _ List.mem_cons_self)
  obtain ⟨target, found⟩ := Option.isSome_iff_exists.mp addressed
  have stamp : generationOf ∅ submission.message.busIdx = 0 := rfl
  rcases holds with ⟨rfl, rfl⟩ | ⟨queued, rfl, filled, stamped⟩
  · obtain ⟨taken, after⟩ := try_insert_filled configs slaveCount topology _ [] rest submission (fresh_filled configs slaveCount) packable
      target found
    refine .inr ⟨⟨(tryInsert target submission (List.replicate slaveCount inactiveBuffer)).1,
      Table.emplace ∅ submission.message.busIdx 0⟩, ?_, after, ?_⟩
    · simp [packMessage, found, insertIntoQueue, taken, stamp]
    · intro encoded generation stampedHere
      rw [Table.find_emplace] at stampedHere
      split at stampedHere
      · exact (Option.some.inj stampedHere).symm
      · cases stampedHere
  · obtain ⟨taken, after⟩ := try_insert_filled configs slaveCount topology queued.frame done rest submission filled packable target found
    have open_ : ((queued.busGenerations.find submission.message.busIdx).any fun found => found ≠ 0) = false := by
      cases located : queued.busGenerations.find submission.message.busIdx with
      | none => rfl
      | some generation => simp [stamped _ _ located]
    refine .inr ⟨⟨(tryInsert target submission queued.frame).1, queued.busGenerations.emplace submission.message.busIdx 0⟩, ?_, after, ?_⟩
    · simp only [packMessage, found, insertIntoQueue, stamp, open_, Bool.false_eq_true, if_false, taken, if_true]
    · intro encoded generation stampedHere
      rw [Table.find_emplace] at stampedHere
      split at stampedHere
      · cases located : queued.busGenerations.find submission.message.busIdx with
        | none =>
          rw [located] at stampedHere
          exact (Option.some.inj stampedHere).symm
        | some earlier =>
          rw [located] at stampedHere
          exact (Option.some.inj stampedHere) ▸ stamped _ _ located
      · exact stamped encoded generation stampedHere

theorem pack_fold_filled (rest done : List Submission) (queue : List QueuedFrame) (holds : OneFrame configs slaveCount queue done)
    (packable : Packable configs slaveCount (done ++ rest)) :
    OneFrame configs slaveCount (rest.foldl (packMessage configs slaveCount ∅) queue) (done ++ rest) := by
  induction rest generalizing done queue with
  | nil => simpa using holds
  | cons submission rest ih =>
    have split : done ++ submission :: rest = done ++ [submission] ++ rest := by simp
    have next := pack_message_filled configs slaveCount topology queue done rest submission holds packable
    rw [split] at packable ⊢
    exact ih (done ++ [submission]) _ next packable

theorem pack_messages_filled (submissions : List Submission) (packable : Packable configs slaveCount submissions) :
    OneFrame configs slaveCount (packMessagesIntoQueue configs slaveCount ∅ [] submissions) submissions := by
  rw [packMessagesIntoQueue]
  split
  · next noSlaves =>
      -- Without slaves no message has a target, so there is none.
      cases submissions with
      | nil => exact .inl ⟨rfl, rfl⟩
      | cons submission rest =>
        obtain ⟨target, found⟩ := Option.isSome_iff_exists.mp (packable.addressed submission List.mem_cons_self)
        obtain ⟨_, placed, _⟩ := target_placed configs slaveCount topology _ target found
        have inside := placed.inside
        omega
  · exact pack_fold_filled configs slaveCount topology submissions [] [] (.inl ⟨rfl, rfl⟩) packable

theorem filled_decodes (frame : OutputFrame) (submissions : List Submission) (filled : FilledWith configs slaveCount frame submissions)
    (packable : Packable configs slaveCount submissions) (encoded : Int32) :
    (decodeFrame configs slaveCount frame).filter (fun message => message.busIdx = encoded) =
      (ofBus encoded submissions).map onWire := by
  cases found : targetOf configs slaveCount encoded with
  | none =>
    have nothing : ofBus encoded submissions = [] := by
      refine List.filter_eq_nil_iff.mpr fun submission member => ?_
      have addressed := packable.addressed submission member
      simp only [decide_eq_true_eq]
      intro same
      rw [same, found] at addressed
      cases addressed
    rw [nothing]
    refine List.filter_eq_nil_iff.mpr fun message member => ?_
    simpa using decode_none configs slaveCount topology frame filled.formed encoded found message member
  | some target =>
    obtain ⟨traits, placed, slaveAt, numbered, busAt⟩ := target_placed configs slaveCount topology encoded target found
    have back := target_bus encoded target.slave target.bus slaveAt numbered busAt
    have inserted : (filledSlots traits.motorsPerBus (ofBus encoded submissions)).flatMap Slot.inserted = ofBus encoded submissions := by
      have written : (fun submission => (fillSlot submission emptySlot).inserted) = fun submission => [submission] := rfl
      have spare (count : Nat) : (List.replicate count emptySlot).flatMap Slot.inserted = [] := by
        refine List.flatMap_eq_nil_iff.mpr fun slot member => ?_
        rw [List.eq_of_mem_replicate member]
        rfl
      rw [filledSlots, List.flatMap_append, List.flatMap_map, written, List.flatMap_singleton', spare, List.append_nil]
    rw [decode_own configs slaveCount topology frame filled.formed encoded target traits found placed,
      filled.slots encoded target traits found placed, forward_inserted, inserted]
    · intro slot member
      rcases mem_filled_slots _ _ slot member with rfl | ⟨submission, _, rfl⟩
      · rfl
      · rfl
    · intro slot member submission held
      rcases mem_filled_slots _ _ slot member with rfl | ⟨packed, listed, rfl⟩
      · cases held
      · obtain rfl := List.mem_singleton.mp held
        exact packable.long _ (List.mem_of_mem_filter listed)
    · intro slot member submission held
      rcases mem_filled_slots _ _ slot member with rfl | ⟨packed, listed, rfl⟩
      · cases held
      · obtain rfl := List.mem_singleton.mp held
        rw [back]
        simpa using (List.mem_filter.mp listed).2

end Packing

theorem perm_of_buses (first second : MotorMessages)
    (same : ∀ encoded, first.filter (fun message => message.busIdx = encoded) = second.filter fun message => message.busIdx = encoded) :
    first.Perm second := by
  refine List.perm_iff_count.mpr fun message => ?_
  have counted (messages : MotorMessages) :
      (messages.filter fun other => other.busIdx = message.busIdx).count message = messages.count message :=
    List.count_filter (by simp)
  rw [← counted first, same, counted second]

theorem classify_motors (outputPdoSize : Nat) (traits : PacketTraits)
    (format : (classifyOutputPdoSize outputPdoSize).format.traits = some traits) :
    (classifyOutputPdoSize outputPdoSize).motorsPerBus = traits.motorsPerBus := by
  unfold classifyOutputPdoSize at format ⊢
  split_ifs at format ⊢ <;> first | cases format; rfl | cases format

theorem of_bus_messages (encoded : Int32) (submissions : List Submission) :
    (ofBus encoded submissions).map (fun submission => submission.message) =
      (submissions.map fun submission => submission.message).filter fun message => message.busIdx = encoded := by
  rw [ofBus, List.filter_map]
  rfl

theorem comes_back (configs : List SlaveConfig) (slaveCount : Nat) (topology : Topology configs slaveCount) (messages : MotorMessages)
    (fits : FitsFrame configs slaveCount messages) (long : ∀ message ∈ messages, message.data.len ≠ 0)
    (kept : messages.Pairwise fun earlier later => ¬ GivesWay earlier later) : ComesBack configs slaveCount messages := by
  have named := number_messages {} messages none
  have packable : Packable configs slaveCount (({} : Handle).number messages none) := by
    generalize ({} : Handle).number messages none = submissions at named
    subst named
    refine ⟨fun submission member => fits.addressed _ (List.mem_map_of_mem member), ?_,
      fun submission member => long _ (List.mem_map_of_mem member), List.pairwise_map.mp kept⟩
    intro encoded target traits found placed
    obtain ⟨size, classified⟩ := topology.classified target.config (List.mem_of_getElem? placed.configured)
    have format := placed.format
    rw [classified] at format
    have room := fits.room encoded target found
    rw [← of_bus_messages, List.length_map, classified, classify_motors size traits format] at room
    exact room
  have packed := pack_messages_filled configs slaveCount topology _ packable
  have inOrder (encoded : Int32) : (decodedPacking configs slaveCount messages).filter (fun message => message.busIdx = encoded) =
      (messages.map carried).filter fun message => message.busIdx = encoded := by
    have own : (messages.map carried).filter (fun message => message.busIdx = encoded) =
        (ofBus encoded (({} : Handle).number messages none)).map onWire := by
      have sameWire : (onWire : Submission → MotorMessage) = carried ∘ fun submission => submission.message := rfl
      rw [sameWire, ← List.map_map, of_bus_messages, named, List.filter_map]
      rfl
    rw [own, decodedPacking, packMessages]
    rcases packed with ⟨empty, none⟩ | ⟨queued, single, filled, _⟩
    · rw [empty, none]
      rfl
    · rw [single, List.map_singleton, List.flatMap_singleton, decode_frame_bytes configs slaveCount _ filled.formed]
      exact filled_decodes configs slaveCount topology queued.frame _ filled packable encoded
  refine ⟨?_, perm_of_buses _ _ inOrder, inOrder⟩
  rw [packMessages, List.length_map]
  rcases packed with ⟨empty, _⟩ | ⟨queued, single, _⟩
  · rw [empty]
    exact Nat.zero_le 1
  · rw [single]
    exact Nat.le_refl 1

/-- Of the messages that fit one frame, those that give way to none come back as they were sent. -/
theorem pack_then_decode (configs : List SlaveConfig) (slaveCount : Nat) (topology : Topology configs slaveCount) :
    (∀ messages : MotorMessages, FitsFrame configs slaveCount messages → (∀ message ∈ messages, message.data.len ≠ 0) →
      messages.Pairwise (fun earlier later => ¬ GivesWay earlier later) → ComesBack configs slaveCount messages) ∧
      SegmentsApart configs slaveCount :=
  ⟨comes_back configs slaveCount topology, segments_apart configs slaveCount topology⟩

theorem two_bus_fits (messages : MotorMessages) (few : messages.length ≤ 3)
    (addressed : ∀ message ∈ messages, (targetOf twoBusSlave 1 message.busIdx).isSome) : FitsFrame twoBusSlave 1 messages := by
  refine ⟨addressed, ?_⟩
  intro encoded target found
  have listed := List.mem_of_getElem? (target_configured twoBusSlave 1 encoded target found)
  rw [List.mem_singleton.mp listed]
  exact (List.length_filter_le _ _).trans few

theorem pack_then_decode_two_bus :
    ComesBack twoBusSlave 1 [shortMessage 1 1, shortMessage 2 2, shortMessage kSystemCommandId 4] ∧ SegmentsApart twoBusSlave 1 :=
  ⟨(pack_then_decode twoBusSlave 1 two_bus_topology).1 _ (two_bus_fits _ (by decide) (by decide)) (by decide)
    (by simp [GivesWay, shortMessage, kSystemCommandId]), (pack_then_decode twoBusSlave 1 two_bus_topology).2⟩

/-- Two commands for one motor fit a frame, but the later one is written over the earlier one. -/
theorem command_given_way : ∃ configs slaveCount messages, Topology configs slaveCount ∧ FitsFrame configs slaveCount messages ∧
    (∀ message ∈ messages, message.data.len ≠ 0) ∧ ¬ ComesBack configs slaveCount messages := by
  refine ⟨twoBusSlave, 1, [shortMessage 1 1, shortMessage 1 2], two_bus_topology, two_bus_fits _ (by decide) (by decide), by decide, ?_⟩
  intro back
  have two := back.same.length_eq
  have one : (decodedPacking twoBusSlave 1 [shortMessage 1 1, shortMessage 1 2]).length = 1 := by decide +kernel
  rw [one] at two
  cases two

end EncosDriver.Ethercat
