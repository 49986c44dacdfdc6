import EncosDriver.Ethercat.Region
import Mathlib.Data.List.Chain

set_option autoImplicit false

namespace EncosDriver.Ethercat

open Lib Message

structure Segment where
  generation : Option Nat
  slots : List Slot

def freshSegment (capacity : Nat) : Segment := ⟨none, List.replicate capacity emptySlot⟩

def Refuses (generation : Nat) (submission : Submission) (segment : Segment) : Prop :=
  (segment.generation ≠ none ∧ segment.generation ≠ some generation) ∨ insertSlots submission segment.slots = none

inductive Packs (generation : Nat) (submission : Submission) : List Segment → List Segment → Prop where
  | placed (front back : List Segment) (segment : Segment) (slots : List Slot)
      (refused : ∀ earlier ∈ front, Refuses generation submission earlier)
      (compatible : segment.generation = none ∨ segment.generation = some generation)
      (taken : insertSlots submission segment.slots = some slots) :
      Packs generation submission (front ++ segment :: back) (front ++ ⟨some generation, slots⟩ :: back)

theorem packs_split (generation : Nat) (submission : Submission) (before after : List Segment)
    (packs : Packs generation submission before after) :
    ∃ front back chosen slots, before = front ++ chosen :: back ∧ (∀ earlier ∈ front, Refuses generation submission earlier) ∧
      (chosen.generation = none ∨ chosen.generation = some generation) ∧ insertSlots submission chosen.slots = some slots ∧
      after = front ++ ⟨some generation, slots⟩ :: back := by
  cases packs with
  | placed front back chosen slots refused compatible taken => exact ⟨front, back, chosen, slots, rfl, refused, compatible, taken, rfl⟩

structure Lane where
  handed : List Segment
  discarded : List Segment
  waiting : List Segment
  generation : Nat
  batch : Option Nat
  packed : List Submission

def emptyLane : Lane := ⟨[], [], [], 0, none, []⟩

inductive LaneMove (capacity : Nat) : Lane → Lane → Prop where
  | pack (lane : Lane) (submission : Submission) (segments : List Segment)
      (newer : ∀ earlier ∈ lane.packed, earlier.origin < submission.origin) (same : submission.batch = lane.batch)
      (packs : Packs lane.generation submission lane.waiting segments) :
      LaneMove capacity lane { lane with waiting := segments, packed := lane.packed ++ [submission] }
  | opened (lane : Lane) : LaneMove capacity lane { lane with waiting := lane.waiting ++ [freshSegment capacity] }
  | advance (lane : Lane) (batch : Option Nat) :
      LaneMove capacity lane { lane with generation := lane.generation + 1, batch := batch }
  | hand (lane : Lane) (front : Segment) (rest : List Segment) (first : lane.waiting = front :: rest) :
      LaneMove capacity lane { lane with handed := lane.handed ++ [front], waiting := rest }
  | discard (lane : Lane) (front : Segment) (rest : List Segment) (first : lane.waiting = front :: rest) :
      LaneMove capacity lane { lane with discarded := lane.discarded ++ [front], waiting := rest }

abbrev LaneMoves (capacity : Nat) : Lane → Lane → Prop := Relation.ReflTransGen (LaneMove capacity)

theorem lane_moves_invariant (capacity : Nat) (Inv : Lane → Prop)
    (preserved : ∀ before after, Inv before → LaneMove capacity before after → Inv after) (before after : Lane)
    (holds : Inv before) (moves : LaneMoves capacity before after) : Inv after := by
  induction moves with
  | refl => exact holds
  | tail _ move ih => exact preserved _ _ ih move

def laneOf (traits : PacketTraits) (target : Target) (encoded : Int32) (queue : List QueuedFrame) : List Segment :=
  queue.map fun queued => ⟨queued.busGenerations.find encoded, region traits target queued.frame⟩

theorem lane_append (traits : PacketTraits) (target : Target) (encoded : Int32) (queue more : List QueuedFrame) :
    laneOf traits target encoded (queue ++ more) = laneOf traits target encoded queue ++ laneOf traits target encoded more :=
  List.map_append

def QueueOk (configs : List SlaveConfig) (slaveCount : Nat) (queue : List QueuedFrame) : Prop :=
  ∀ queued ∈ queue, FrameOk configs slaveCount queued.frame

def Walks (generation : Nat) (submission : Submission) (before after : List Segment) (taken : Bool) : Prop :=
  (taken = true ∧ Packs generation submission before after) ∨
    (taken = false ∧ after = before ∧ ∀ earlier ∈ before, Refuses generation submission earlier)

theorem walks_behind (generation : Nat) (submission : Submission) (segment : Segment) (before after : List Segment) (taken : Bool)
    (refused : Refuses generation submission segment) (walks : Walks generation submission before after taken) :
    Walks generation submission (segment :: before) (segment :: after) taken := by
  rcases walks with ⟨found, packs⟩ | ⟨missed, rfl, refusedAll⟩
  · cases packs with
    | placed front back inserted slots refusedFront compatible taken =>
      exact .inl ⟨found, .placed (segment :: front) back inserted slots (List.forall_mem_cons.mpr ⟨refused, refusedFront⟩) compatible
        taken⟩
  · exact .inr ⟨missed, rfl, List.forall_mem_cons.mpr ⟨refused, refusedAll⟩⟩

section Packing

variable (configs : List SlaveConfig) (slaveCount : Nat) (target : Target) (traits : PacketTraits)
  (placed : Placed configs slaveCount target traits)
include placed

theorem insert_into_queue_own (generation : Nat) (submission : Submission) (queue : List QueuedFrame)
    (formed : QueueOk configs slaveCount queue) :
    QueueOk configs slaveCount (insertIntoQueue target generation submission queue).1 ∧
      Walks generation submission (laneOf traits target submission.message.busIdx queue)
        (laneOf traits target submission.message.busIdx (insertIntoQueue target generation submission queue).1)
        (insertIntoQueue target generation submission queue).2 := by
  induction queue with
  | nil => exact ⟨formed, .inr ⟨rfl, rfl, by simp [laneOf]⟩⟩
  | cons queued rest ih =>
    obtain ⟨frame, following⟩ := List.forall_mem_cons.mp formed
    obtain ⟨restOk, restWalks⟩ := ih following
    obtain ⟨insertedOk, insertion, _⟩ := try_insert_region configs slaveCount target traits placed submission queued.frame frame
    by_cases other : (queued.busGenerations.find submission.message.busIdx).any fun found => found ≠ generation
    · simp only [insertIntoQueue, if_pos other]
      refine ⟨List.forall_mem_cons.mpr ⟨frame, restOk⟩, walks_behind _ _ _ _ _ _ (.inl ?_) restWalks⟩
      cases located : queued.busGenerations.find submission.message.busIdx with
      | none => simp [located] at other
      | some found => simpa [located] using other
    · have compatible : queued.busGenerations.find submission.message.busIdx = none ∨
          queued.busGenerations.find submission.message.busIdx = some generation := by
        cases located : queued.busGenerations.find submission.message.busIdx with
        | none => exact .inl rfl
        | some found => exact .inr (by simpa [located] using other)
      simp only [insertIntoQueue, if_neg other]
      cases inserted : insertSlots submission (region traits target queued.frame) with
      | none =>
        rw [inserted] at insertion
        obtain ⟨missed, same⟩ := insertion
        simp only [missed, Bool.false_eq_true, ↓reduceIte]
        refine ⟨List.forall_mem_cons.mpr ⟨insertedOk, restOk⟩, ?_⟩
        have walks := walks_behind generation submission
          ⟨queued.busGenerations.find submission.message.busIdx, region traits target queued.frame⟩ _ _ _ (.inr inserted) restWalks
        simpa only [laneOf, List.map_cons, same] using walks
      | some slots =>
        rw [inserted] at insertion
        obtain ⟨taken, filled⟩ := insertion
        simp only [taken, ↓reduceIte]
        refine ⟨List.forall_mem_cons.mpr ⟨insertedOk, following⟩, .inl ⟨rfl, ?_⟩⟩
        have stamped : (queued.busGenerations.emplace submission.message.busIdx generation).find submission.message.busIdx =
            some generation := by
          rcases compatible with absent | present
          · simp [absent]
          · simp [Table.find_emplace, present]
        simp only [laneOf, List.map_cons, filled, stamped]
        exact .placed [] _ _ slots (by simp) compatible inserted

theorem insert_into_queue_other (generation : Nat) (submission : Submission) (queue : List QueuedFrame)
    (formed : QueueOk configs slaveCount queue) (other : Target) (otherTraits : PacketTraits) (encoded : Int32)
    (otherPlaced : Placed configs slaveCount other otherTraits) (apart : Apart target other)
    (different : encoded ≠ submission.message.busIdx) :
    laneOf otherTraits other encoded (insertIntoQueue target generation submission queue).1 =
      laneOf otherTraits other encoded queue := by
  induction queue with
  | nil => rfl
  | cons queued rest ih =>
    obtain ⟨frame, following⟩ := List.forall_mem_cons.mp formed
    obtain ⟨_, _, others⟩ := try_insert_region configs slaveCount target traits placed submission queued.frame frame
    have kept := others other otherTraits otherPlaced apart
    have behind := ih following
    simp only [insertIntoQueue]
    split
    · simpa only [laneOf, List.map_cons, List.cons.injEq, true_and] using behind
    · split
      · simp [laneOf, kept, Table.find_emplace, different]
      · simpa only [laneOf, List.map_cons, kept, List.cons.injEq, true_and] using behind

end Packing

variable (configs : List SlaveConfig) (slaveCount : Nat)

theorem targets_apart (topology : Topology configs slaveCount)
    (encoded otherEncoded : Int32) (target other : Target) (different : otherEncoded ≠ encoded)
    (found : targetOf configs slaveCount encoded = some target) (otherFound : targetOf configs slaveCount otherEncoded = some other) :
    Apart target other := by
  obtain ⟨_, _, slave, numbered, bus⟩ := target_placed configs slaveCount topology encoded target found
  obtain ⟨_, _, otherSlave, otherNumbered, otherBus⟩ := target_placed configs slaveCount topology otherEncoded other otherFound
  have back := target_bus encoded target.slave target.bus slave numbered bus
  have otherBack := target_bus otherEncoded other.slave other.bus otherSlave otherNumbered otherBus
  by_contra together
  simp only [Apart, not_or, not_not] at together
  apply different
  rw [← back, ← otherBack, together.1, together.2]

theorem insert_fresh (capacity : Nat) (submission : Submission) (room : 0 < capacity) :
    ∃ slots, insertSlots submission (freshSegment capacity).slots = some slots := by
  obtain ⟨more, rfl⟩ := Nat.exists_eq_add_of_le' room
  have skipped : (if submission.message.data.id ≠ kSystemCommandId then
      (freshSegment (more + 1)).slots.findIdx? (replaceable submission.message.data.id) else none) = none := by
    split
    · apply List.findIdx?_eq_none_iff.mpr
      intro slot member
      obtain rfl := List.eq_of_mem_replicate member
      rfl
    · rfl
  refine ⟨(freshSegment (more + 1)).slots.modify 0 (fillSlot submission), ?_⟩
  simp only [insertSlots, skipped]
  rfl

section Queue

variable (configs : List SlaveConfig) (slaveCount : Nat) (topology : Topology configs slaveCount)
  (encoded : Int32) (target : Target) (traits : PacketTraits) (found : targetOf configs slaveCount encoded = some target)
  (placed : Placed configs slaveCount target traits) (generations : Table Int32 Nat)
include topology found placed

omit topology in
theorem pack_message_own (queue : List QueuedFrame) (submission : Submission) (formed : QueueOk configs slaveCount queue)
    (own : submission.message.busIdx = encoded) :
    Packs (generationOf generations encoded) submission (laneOf traits target encoded queue)
        (laneOf traits target encoded (packMessage configs slaveCount generations queue submission)) ∨
      Packs (generationOf generations encoded) submission (laneOf traits target encoded queue ++ [freshSegment traits.motorsPerBus])
        (laneOf traits target encoded (packMessage configs slaveCount generations queue submission)) := by
  subst own
  obtain ⟨_, walks⟩ := insert_into_queue_own configs slaveCount target traits placed
    (generationOf generations submission.message.busIdx) submission queue formed
  simp only [packMessage, found]
  rcases walks with ⟨taken, packs⟩ | ⟨missed, same, refused⟩
  · rw [if_pos taken]
    exact .inl packs
  · obtain ⟨slots, filled⟩ := insert_fresh traits.motorsPerBus submission placed.capacity
    obtain ⟨framed, empty⟩ := fresh_frame configs slaveCount
    obtain ⟨_, insertion, _⟩ := try_insert_region configs slaveCount target traits placed submission
      (List.replicate slaveCount inactiveBuffer) framed
    rw [empty target traits placed, show List.replicate traits.motorsPerBus emptySlot = (freshSegment traits.motorsPerBus).slots from rfl,
      filled] at insertion
    rw [missed, if_neg Bool.false_ne_true, if_pos insertion.1]
    rw [lane_append, same]
    simp only [laneOf, List.map_cons, List.map_nil, insertion.2, Table.find_emplace, ↓reduceIte, Table.find_empty, Option.getD_none]
    exact .inr (.placed _ [] _ slots refused (.inl rfl) filled)

theorem pack_message_other (queue : List QueuedFrame) (submission : Submission) (formed : QueueOk configs slaveCount queue)
    (other : submission.message.busIdx ≠ encoded) :
    laneOf traits target encoded (packMessage configs slaveCount generations queue submission) = laneOf traits target encoded queue ∨
      laneOf traits target encoded (packMessage configs slaveCount generations queue submission) =
        laneOf traits target encoded queue ++ [freshSegment traits.motorsPerBus] := by
  simp only [packMessage]
  split
  · exact .inl rfl
  · next packed packedFound =>
      obtain ⟨packedTraits, packedPlaced, _⟩ := target_placed configs slaveCount topology _ packed packedFound
      have apart := targets_apart configs slaveCount topology _ encoded packed target other.symm packedFound found
      have walked := insert_into_queue_other configs slaveCount packed packedTraits packedPlaced
        (generationOf generations submission.message.busIdx) submission queue formed target traits encoded placed apart other.symm
      split
      · exact .inl walked
      · split
        · obtain ⟨framed, empty⟩ := fresh_frame configs slaveCount
          obtain ⟨_, _, others⟩ := try_insert_region configs slaveCount packed packedTraits packedPlaced submission
            (List.replicate slaveCount inactiveBuffer) framed
          refine .inr ?_
          rw [lane_append, walked]
          simp [laneOf, others target traits placed apart, empty target traits placed, Table.find_emplace, Ne.symm other, freshSegment]
        · exact .inl walked

end Queue

section Frames

variable (configs : List SlaveConfig) (slaveCount : Nat) (Keeps : OutputFrame → Prop)
  (fresh : Keeps (List.replicate slaveCount inactiveBuffer))
  (kept : ∀ encoded target submission frame, targetOf configs slaveCount encoded = some target → Keeps frame →
    Keeps (tryInsert target submission frame).1)
include kept

theorem insert_into_queue_frames (encoded : Int32) (target : Target) (found : targetOf configs slaveCount encoded = some target)
    (generation : Nat) (submission : Submission) (queue : List QueuedFrame) (formed : ∀ queued ∈ queue, Keeps queued.frame) :
    ∀ queued ∈ (insertIntoQueue target generation submission queue).1, Keeps queued.frame := by
  induction queue with
  | nil => exact formed
  | cons queued rest ih =>
    obtain ⟨first, following⟩ := List.forall_mem_cons.mp formed
    rw [insertIntoQueue]
    split
    · exact List.forall_mem_cons.mpr ⟨first, ih following⟩
    · dsimp only
      split
      · exact List.forall_mem_cons.mpr ⟨kept encoded target submission queued.frame found first, following⟩
      · exact List.forall_mem_cons.mpr ⟨kept encoded target submission queued.frame found first, ih following⟩

include fresh

theorem pack_message_frames (generations : Table Int32 Nat) (queue : List QueuedFrame) (submission : Submission)
    (formed : ∀ queued ∈ queue, Keeps queued.frame) :
    ∀ queued ∈ packMessage configs slaveCount generations queue submission, Keeps queued.frame := by
  rw [packMessage]
  split
  · exact formed
  · next target found =>
      have walked := insert_into_queue_frames configs slaveCount Keeps kept _ target found
        (generationOf generations submission.message.busIdx) submission queue formed
      dsimp only
      split
      · exact walked
      · split
        · exact List.forall_mem_append.mpr ⟨walked, List.forall_mem_singleton.mpr (kept _ target submission _ found fresh)⟩
        · exact walked

theorem pack_messages_frames (generations : Table Int32 Nat) (queue : List QueuedFrame) (messages : List Submission)
    (formed : ∀ queued ∈ queue, Keeps queued.frame) :
    ∀ queued ∈ packMessagesIntoQueue configs slaveCount generations queue messages, Keeps queued.frame := by
  rw [packMessagesIntoQueue]
  split
  · exact formed
  · induction messages generalizing queue with
    | nil => exact formed
    | cons submission rest ih =>
      exact ih _ (pack_message_frames configs slaveCount Keeps fresh kept generations queue submission formed)

end Frames

theorem try_insert_formed (topology : Topology configs slaveCount) (encoded : Int32)
    (target : Target) (submission : Submission) (frame : OutputFrame) (found : targetOf configs slaveCount encoded = some target)
    (formed : FrameOk configs slaveCount frame) : FrameOk configs slaveCount (tryInsert target submission frame).1 := by
  obtain ⟨traits, placed, _⟩ := target_placed configs slaveCount topology encoded target found
  exact (try_insert_region configs slaveCount target traits placed submission frame formed).1

theorem pack_message_formed (topology : Topology configs slaveCount)
    (generations : Table Int32 Nat) (queue : List QueuedFrame) (submission : Submission) (formed : QueueOk configs slaveCount queue) :
    QueueOk configs slaveCount (packMessage configs slaveCount generations queue submission) :=
  pack_message_frames configs slaveCount (FrameOk configs slaveCount) (fresh_frame configs slaveCount).1
    (try_insert_formed configs slaveCount topology) generations queue submission formed

def sent (message : MotorPackMsg) : MotorPackMsg := { message with frameFlags := sanitizeCanFrameFlags message.frameFlags }

theorem find_modify (slots : List Slot) (wanted : Slot → Bool) (index : Nat) (change : Slot → Slot)
    (found : slots.findIdx? wanted = some index) :
    ∃ front old back, slots = front ++ old :: back ∧ wanted old = true ∧ (∀ slot ∈ front, wanted slot = false) ∧
      slots.modify index change = front ++ change old :: back := by
  obtain ⟨inside, holds, before⟩ := List.findIdx?_eq_some_iff_getElem.mp found
  refine ⟨slots.take index, slots[index], slots.drop (index + 1), ?_, holds, ?_, ?_⟩
  · rw [List.getElem_cons_drop, List.take_append_drop]
  · intro slot member
    obtain ⟨at_, bounded, rfl⟩ := List.mem_take_iff_getElem.mp member
    exact Bool.eq_false_iff.mpr (before at_ (by omega))
  · rw [List.modify_eq_take_cons_drop inside]

def NothingReplaced (submission : Submission) (slots : List Slot) : Prop :=
  submission.message.data.id = kSystemCommandId ∨ ∀ slot ∈ slots, replaceable submission.message.data.id slot = false

variable (submission : Submission)

theorem insert_slots_none (slots : List Slot) (refused : insertSlots submission slots = none) :
    NothingReplaced submission slots ∧ ∀ slot ∈ slots, slot.data.len ≠ 0 := by
  simp only [insertSlots] at refused
  split at refused
  · cases refused
  · next missing =>
      have full := Option.map_eq_none_iff.mp refused
      refine ⟨?_, fun slot member => by simpa using List.findIdx?_eq_none_iff.mp full slot member⟩
      by_cases system : submission.message.data.id = kSystemCommandId
      · exact .inl system
      · exact .inr (List.findIdx?_eq_none_iff.mp (by simpa [system] using missing))

theorem insert_slots_some (slots after : List Slot) (taken : insertSlots submission slots = some after) :
    ∃ front old back, slots = front ++ old :: back ∧
      ((submission.message.data.id ≠ kSystemCommandId ∧ replaceable submission.message.data.id old = true ∧
          (∀ slot ∈ front, replaceable submission.message.data.id slot = false) ∧
          after = front ++ overwriteSlot submission old :: back) ∨
        (NothingReplaced submission slots ∧ old.data.len = 0 ∧ (∀ slot ∈ front, slot.data.len ≠ 0) ∧
          after = front ++ fillSlot submission old :: back)) := by
  simp only [insertSlots] at taken
  split at taken
  · next index found =>
      cases taken
      have ordinary : submission.message.data.id ≠ kSystemCommandId := by
        intro system
        simp [system] at found
      rw [if_pos ordinary] at found
      obtain ⟨front, old, back, parts, replaced, before, modified⟩ := find_modify slots _ index (overwriteSlot submission) found
      exact ⟨front, old, back, parts, .inl ⟨ordinary, replaced, before, modified⟩⟩
  · next missing =>
      obtain ⟨index, found, rfl⟩ := Option.map_eq_some_iff.mp taken
      obtain ⟨front, old, back, parts, empty, before, modified⟩ := find_modify slots _ index (fillSlot submission) found
      refine ⟨front, old, back, parts, .inr ⟨?_, by simpa using empty, fun slot member => by simpa using before slot member, modified⟩⟩
      by_cases system : submission.message.data.id = kSystemCommandId
      · exact .inl system
      · exact .inr (List.findIdx?_eq_none_iff.mp (by simpa [system] using missing))

theorem replaceable_iff (id : UInt32) (slot : Slot) :
    replaceable id slot = true ↔ slot.data.len ≠ 0 ∧ slot.data.id = id ∧ slot.data.data.get 0 >>> 5 ≤ 0x03 := by
  simp [replaceable, and_assoc]

theorem overwrite_data (slot : Slot) (same : slot.data.id = submission.message.data.id) :
    (overwriteSlot submission slot).data = sent submission.message.data := by
  simp only [overwriteSlot, sent, same]

theorem fill_data (slot : Slot) : (fillSlot submission slot).data = sent submission.message.data := rfl

structure SlotOk (slot : Slot) : Prop where
  content : slot.data = match slot.origins with
    | [] => emptySlot.data
    | newest :: _ => sent newest.message.data
  chained : slot.origins.IsChain fun newer older => older.origin < newer.origin ∧
    (older.message.data.len ≠ 0 → newer.message.data.id = older.message.data.id)

theorem written_ok (old written : Slot) (formed : SlotOk old)
    (newer : ∀ earlier ∈ old.origins, earlier.origin < submission.origin) (origins : written.origins = submission :: old.origins)
    (data : written.data = sent submission.message.data)
    (gives : old.data.len = 0 ∨ old.data.id = submission.message.data.id) : SlotOk written := by
  refine ⟨by rw [origins, data], ?_⟩
  rw [origins]
  cases held : old.origins with
  | nil => exact .singleton _
  | cons newest rest =>
    have content := formed.content
    rw [held] at content
    refine .cons_cons ⟨newer newest (by simp [held]), ?_⟩ (held ▸ formed.chained)
    intro long
    rcases gives with empty | same
    · exact absurd (by rw [content] at empty; exact empty) long
    · rw [content] at same
      exact same.symm

theorem insert_slots_record (slots after : List Slot) (taken : insertSlots submission slots = some after)
    (formed : ∀ slot ∈ slots, SlotOk slot) (newer : ∀ slot ∈ slots, ∀ earlier ∈ slot.origins, earlier.origin < submission.origin) :
    (∀ slot ∈ after, SlotOk slot) ∧
      (∀ held, (∃ slot ∈ after, held ∈ slot.origins) ↔ (∃ slot ∈ slots, held ∈ slot.origins) ∨ held = submission) := by
  obtain ⟨front, old, back, rfl, cases⟩ := insert_slots_some submission slots after taken
  obtain ⟨written, origins, good, rfl⟩ : ∃ written, written.origins = submission :: old.origins ∧ SlotOk written ∧
      after = front ++ written :: back := by
    have oldOk := formed old (by simp)
    have oldNewer := newer old (by simp)
    rcases cases with ⟨_, replaced, _, rfl⟩ | ⟨_, empty, _, rfl⟩
    · obtain ⟨_, same, _⟩ := (replaceable_iff _ _).mp replaced
      exact ⟨_, rfl, written_ok submission old _ oldOk oldNewer rfl (overwrite_data submission old same) (.inr same), rfl⟩
    · exact ⟨_, rfl, written_ok submission old _ oldOk oldNewer rfl (fill_data submission old) (.inl empty), rfl⟩
  simp only [List.forall_mem_append, List.forall_mem_cons] at formed
  refine ⟨List.forall_mem_append.mpr ⟨formed.1, List.forall_mem_cons.mpr ⟨good, formed.2.2⟩⟩, ?_⟩
  intro held
  simp only [List.mem_append, List.mem_cons, or_and_right, exists_or, exists_eq_left, origins]
  grind

end EncosDriver.Ethercat
