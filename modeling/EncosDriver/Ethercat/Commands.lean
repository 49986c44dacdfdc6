import EncosDriver.Ethercat.Batches
import EncosDriver.Lib.Coalesce

set_option autoImplicit false

namespace EncosDriver.Ethercat

open Lib Message

def IsControl (message : MotorPackMsg) : Prop := message.id ≠ kSystemCommandId ∧ message.data.get 0 >>> 5 ≤ 0x03

def occupied (slots : List Slot) : List Slot := slots.filter fun slot => slot.data.len ≠ 0

@[simp] theorem occupied_append (front back : List Slot) : occupied (front ++ back) = occupied front ++ occupied back := List.filter_append ..

theorem occupied_cons (slot : Slot) (rest : List Slot) :
    occupied (slot :: rest) = if slot.data.len ≠ 0 then slot :: occupied rest else occupied rest := by
  simp [occupied, List.filter_cons]

theorem mem_occupied (slots : List Slot) (slot : Slot) : slot ∈ occupied slots ↔ slot ∈ slots ∧ slot.data.len ≠ 0 := by
  simp [occupied]

theorem occupied_fresh (capacity : Nat) : occupied (freshSegment capacity).slots = [] := by
  apply List.filter_eq_nil_iff.mpr
  intro slot member
  obtain rfl := List.eq_of_mem_replicate member
  simp [emptySlot]

def contentOf (segments : List Segment) : List MotorPackMsg :=
  segments.flatMap fun segment => (occupied segment.slots).map fun slot => slot.data

def stampedOf (segments : List Segment) : List (Option Nat × Slot) :=
  segments.flatMap fun segment => (occupied segment.slots).map fun slot => (segment.generation, slot)

def Packed (slots : List Slot) : Prop := slots.Pairwise fun earlier later => earlier.data.len = 0 → later.data.len = 0

def Full (segment : Segment) : Prop := ∀ slot ∈ segment.slots, slot.data.len ≠ 0

def LastOfItsId (earlier later : Option Nat × Slot) : Prop :=
  earlier.1 = later.1 → earlier.2.data.id = later.2.data.id → ¬ IsControl earlier.2.data

def commandsOf (id : UInt32) (messages : List MotorPackMsg) : List MotorPackMsg := messages.filter fun message => message.id = id

structure LaneKeeps (lane : Lane) : Prop where
  packed : ∀ segment ∈ lane.waiting, Packed segment.slots
  full : lane.waiting.Pairwise fun earlier later => earlier.generation ≠ none → earlier.generation = later.generation → Full earlier
  last : (stampedOf lane.waiting).Pairwise LastOfItsId
  kept : ∀ id, Coalesces IsControl
    (commandsOf id (lane.packed.map fun submission => sent submission.message.data))
    (commandsOf id (contentOf (lane.handed ++ lane.waiting)))

def Considered (lane : Lane) : Prop := lane.discarded = [] ∧ ∀ submission ∈ lane.packed, submission.message.data.len ≠ 0

variable (front back : List Segment)

theorem content_append : contentOf (front ++ back) = contentOf front ++ contentOf back := List.flatMap_append

theorem stamped_append : stampedOf (front ++ back) = stampedOf front ++ stampedOf back := List.flatMap_append

theorem stamped_cons (segment : Segment) (rest : List Segment) :
    stampedOf (segment :: rest) = (occupied segment.slots).map (fun slot => (segment.generation, slot)) ++ stampedOf rest := rfl

theorem mem_stamped (segments : List Segment) (entry : Option Nat × Slot) :
    entry ∈ stampedOf segments ↔ ∃ segment ∈ segments, segment.generation = entry.1 ∧ entry.2 ∈ segment.slots ∧
      entry.2.data.len ≠ 0 := by
  simp only [stampedOf, List.mem_flatMap, List.mem_map, mem_occupied]
  constructor
  · rintro ⟨segment, member, slot, ⟨inside, long⟩, rfl⟩
    exact ⟨segment, member, rfl, inside, long⟩
  · rintro ⟨segment, member, stamp, inside, long⟩
    exact ⟨segment, member, entry.2, ⟨inside, long⟩, by rw [stamp]⟩

theorem stamped_content (segments : List Segment) : (stampedOf segments).map (fun entry => entry.2.data) = contentOf segments := by
  simp only [stampedOf, contentOf, List.map_flatMap, List.map_map]
  rfl

variable (id : UInt32)

theorem commands_append (front back : List MotorPackMsg) :
    commandsOf id (front ++ back) = commandsOf id front ++ commandsOf id back := List.filter_append ..

theorem commands_own (message : MotorPackMsg) (rest : List MotorPackMsg) (same : message.id = id) :
    commandsOf id (message :: rest) = message :: commandsOf id rest := by
  simp [commandsOf, same]

theorem commands_other (message : MotorPackMsg) (rest : List MotorPackMsg) (different : message.id ≠ id) :
    commandsOf id (message :: rest) = commandsOf id rest := by
  simp [commandsOf, different]

theorem commands_none (messages : List MotorPackMsg) (others : ∀ message ∈ messages, message.id ≠ id) :
    commandsOf id messages = [] := by
  simpa [commandsOf] using others

theorem stamped_around (generation : Option Nat) (before after : List Slot) (slot : Slot)
    (long : slot.data.len ≠ 0) :
    stampedOf (front ++ ⟨generation, before ++ slot :: after⟩ :: back) =
      (stampedOf front ++ (occupied before).map fun other => (generation, other)) ++ (generation, slot) ::
        ((occupied after).map (fun other => (generation, other)) ++ stampedOf back) := by
  simp [stamped_append, stamped_cons, occupied_cons, long]

theorem content_stamped (handed waiting : List Segment) :
    contentOf (handed ++ waiting) = contentOf handed ++ (stampedOf waiting).map fun entry => entry.2.data := by
  rw [content_append, stamped_content]

section Packing

variable (capacity : Nat) (lane : Lane) (formed : LaneOk capacity lane) (keeps : LaneKeeps lane)
  (submission : Submission) (long : submission.message.data.len ≠ 0) (front back : List Segment)
  (generation : Option Nat) (before after : List Slot) (old : Slot)
  (waiting : lane.waiting = front ++ ⟨generation, before ++ old :: after⟩ :: back)
  (compatible : generation = none ∨ generation = some lane.generation)
include formed keeps long waiting compatible

theorem overwrite_keeps (ordinary : submission.message.data.id ≠ kSystemCommandId)
    (replaced : replaceable submission.message.data.id old = true) :
    LaneKeeps
      { lane with
        waiting := front ++ ⟨some lane.generation, before ++ overwriteSlot submission old :: after⟩ :: back
        packed := lane.packed ++ [submission] } := by
  obtain ⟨oldLong, sameId, command⟩ := (replaceable_iff _ _).mp replaced
  have control : IsControl old.data := ⟨sameId ▸ ordinary, command⟩
  have newData := overwrite_data submission old sameId
  have newLong : (overwriteSlot submission old).data.len ≠ 0 := long
  have newId : (overwriteSlot submission old).data.id = old.data.id := rfl
  obtain rfl : generation = some lane.generation := by
    rcases compatible with rfl | current
    · have fresh := formed.fresh ⟨none, before ++ old :: after⟩ (by simp [Lane.Owns, waiting]) rfl
      have member : old ∈ (freshSegment capacity).slots := by
        rw [← fresh]
        simp
      obtain rfl := List.eq_of_mem_replicate member
      exact absurd rfl oldLong
    · exact current
  have stampedBefore := stamped_around front back (some lane.generation) before after old oldLong
  have stampedAfter := stamped_around front back (some lane.generation) before after (overwriteSlot submission old) newLong
  generalize (stampedOf front ++ (occupied before).map fun other => (some lane.generation, other)) = ahead at stampedBefore stampedAfter
  have behindCurrent : ∀ entry ∈ (occupied after).map (fun other => (some lane.generation, other)) ++ stampedOf back,
      entry.1 = some lane.generation := by
    intro entry member
    rcases List.mem_append.mp member with inside | later
    · obtain ⟨slot, _, rfl⟩ := List.mem_map.mp inside
      rfl
    · obtain ⟨segment, segmentBack, stamp, inside, entryLong⟩ := (mem_stamped back entry).mp later
      rcases behind_chosen capacity lane formed front back _ waiting (.inr rfl) segment segmentBack with rfl | ⟨current, _⟩
      · obtain same := List.eq_of_mem_replicate inside
        exact absurd (by rw [same]; rfl) entryLong
      · rw [← stamp, current]
  generalize (occupied after).map (fun other => (some lane.generation, other)) ++ stampedOf back = behind
    at stampedBefore stampedAfter behindCurrent
  have last := keeps.last
  rw [waiting, stampedBefore, List.pairwise_append, List.pairwise_cons] at last
  obtain ⟨aheadLast, ⟨oldLast, behindLast⟩, acrossLast⟩ := last
  have otherIds : ∀ entry ∈ behind, entry.2.data.id ≠ old.data.id := by
    intro entry member same
    exact oldLast entry member (behindCurrent entry member).symm same.symm control
  refine ⟨?_, ?_, ?_, ?_⟩
  · have packed := keeps.packed
    rw [waiting, List.forall_mem_append, List.forall_mem_cons] at packed
    refine List.forall_mem_append.mpr ⟨packed.1, List.forall_mem_cons.mpr ⟨?_, packed.2.2⟩⟩
    obtain ⟨beforePacked, afterPacked, across⟩ := List.pairwise_append.mp packed.2.1
    refine List.pairwise_append.mpr ⟨beforePacked, List.pairwise_cons.mpr ⟨fun _ _ empty => absurd empty newLong,
      (List.pairwise_cons.mp afterPacked).2⟩, ?_⟩
    intro slot member later laterMember empty
    exact absurd (across slot member old List.mem_cons_self empty) oldLong
  · have full := keeps.full
    rw [waiting, List.pairwise_append, List.pairwise_cons] at full
    rw [List.pairwise_append, List.pairwise_cons]
    refine ⟨full.1, ⟨?_, full.2.1.2⟩, ?_⟩
    · intro later member used same slot inside
      have chosenFull := full.2.1.1 later member used same
      rcases List.mem_append.mp inside with ahead | rest
      · exact chosenFull slot (by simp [ahead])
      · rcases List.mem_cons.mp rest with rfl | behind
        · exact newLong
        · exact chosenFull slot (by simp [behind])
    · intro earlier member later laterMember used same
      rcases List.mem_cons.mp laterMember with rfl | laterBack
      · exact full.2.2 earlier member _ List.mem_cons_self used same
      · exact full.2.2 earlier member later (List.mem_cons_of_mem _ laterBack) used same
  · rw [stampedAfter, List.pairwise_append, List.pairwise_cons]
    refine ⟨aheadLast, ⟨?_, behindLast⟩, ?_⟩
    · intro entry member _ same
      exact absurd same.symm (otherIds entry member)
    · intro entry member later laterMember
      rcases List.mem_cons.mp laterMember with rfl | laterBehind
      · exact acrossLast entry member (some lane.generation, old) List.mem_cons_self
      · exact acrossLast entry member later (List.mem_cons_of_mem _ laterBehind)
  · intro id
    have kept := keeps.kept id
    rw [waiting, content_stamped, stampedBefore] at kept
    rw [content_stamped, stampedAfter]
    simp only [List.map_append, List.map_cons, List.map_nil, ← List.append_assoc] at kept ⊢
    generalize contentOf lane.handed ++ ahead.map (fun entry => entry.2.data) = earlier at kept ⊢
    have none : commandsOf old.data.id (behind.map fun entry => entry.2.data) = [] := by
      apply commands_none
      intro message member
      obtain ⟨entry, inside, rfl⟩ := List.mem_map.mp member
      exact otherIds entry inside
    rw [commands_append] at kept ⊢
    rw [commands_append, newData]
    have sentId : (sent submission.message.data).id = old.data.id := sameId.symm
    by_cases own : old.data.id = id
    · rw [own] at none sentId
      rw [commands_own id _ _ own, none] at kept
      rw [commands_own id _ _ sentId, commands_own id _ _ sentId, none]
      exact coalesces_overwrite IsControl _ _ _ _ control kept
    · have sentOther : (sent submission.message.data).id ≠ id := by
        rw [sentId]
        exact own
      rw [commands_other id _ _ own] at kept
      rw [commands_other id _ _ sentOther, commands_other id _ _ sentOther]
      simpa [commandsOf] using kept

theorem fill_keeps (refused : ∀ earlier ∈ front, Refuses lane.generation submission earlier)
    (nothing : NothingReplaced submission (before ++ old :: after)) (empty : old.data.len = 0)
    (filled : ∀ slot ∈ before, slot.data.len ≠ 0) :
    LaneKeeps
      { lane with
        waiting := front ++ ⟨some lane.generation, before ++ fillSlot submission old :: after⟩ :: back
        packed := lane.packed ++ [submission] } := by
  have newLong : (fillSlot submission old).data.len ≠ 0 := long
  have packed := keeps.packed
  rw [waiting, List.forall_mem_append, List.forall_mem_cons] at packed
  obtain ⟨frontPacked, chosenPacked, backPacked⟩ := packed
  obtain ⟨beforePacked, oldPacked, _⟩ := List.pairwise_append.mp chosenPacked
  have afterEmpty : ∀ slot ∈ after, slot.data.len = 0 := fun slot member => (List.pairwise_cons.mp oldPacked).1 slot member empty
  have full := keeps.full
  rw [waiting, List.pairwise_append, List.pairwise_cons] at full
  have notFull : ¬ Full ⟨generation, before ++ old :: after⟩ := fun whole => whole old (by simp) empty
  have backFresh : ∀ later ∈ back, later = freshSegment capacity := by
    intro later member
    rcases behind_chosen capacity lane formed front back _ waiting compatible later member with fresh | ⟨stamp, current⟩
    · exact fresh
    · have used : (⟨generation, before ++ old :: after⟩ : Segment).generation ≠ none := by
        intro absent
        rw [absent] at current
        cases current
      exact absurd (full.2.1.1 later member used (current.trans stamp.symm)) notFull
  have nothingBehind : stampedOf back = [] := by
    apply List.flatMap_eq_nil_iff.mpr
    intro later member
    rw [backFresh later member, occupied_fresh]
    rfl
  have nothingAfter : occupied after = [] := List.filter_eq_nil_iff.mpr fun slot member => by simp [afterEmpty slot member]
  -- A frame that was not in use held nothing, so its slots may be read with the current generation.
  have restamped : (occupied before).map (fun other => (generation, other)) =
      (occupied before).map fun other => (some lane.generation, other) := by
    rcases compatible with rfl | rfl
    · have fresh := formed.fresh ⟨none, before ++ old :: after⟩ (by simp [Lane.Owns, waiting]) rfl
      have none : occupied before = [] := by
        apply List.filter_eq_nil_iff.mpr
        intro slot member
        have inside : slot ∈ (freshSegment capacity).slots := by
          rw [← fresh]
          simp [member]
        obtain rfl := List.eq_of_mem_replicate inside
        simp [emptySlot]
      rw [none]
      rfl
    · rfl
  have stampedBefore : stampedOf lane.waiting = stampedOf front ++ (occupied before).map fun other => (some lane.generation, other) := by
    rw [waiting, stamped_append, stamped_cons, nothingBehind, ← restamped]
    simp [occupied_cons, empty, nothingAfter]
  have stampedAfter := stamped_around front back (some lane.generation) before after (fillSlot submission old) newLong
  rw [nothingBehind, nothingAfter] at stampedAfter
  have notReplaced (slot : Slot) (slots : List Slot) (member : slot ∈ slots) (slotLong : slot.data.len ≠ 0)
      (free : NothingReplaced submission slots) (same : slot.data.id = submission.message.data.id) : ¬ IsControl slot.data := by
    rintro ⟨ordinary, command⟩
    rcases free with system | others
    · exact ordinary (same.trans system)
    · have replaced := (replaceable_iff _ _).mpr ⟨slotLong, same, command⟩
      rw [others slot member] at replaced
      cases replaced
  have frontRefused (earlier : Segment) (member : earlier ∈ front) (stamp : earlier.generation = some lane.generation) :
      NothingReplaced submission earlier.slots ∧ Full earlier := by
    rcases refused earlier member with ⟨_, other⟩ | none
    · exact absurd stamp other
    · exact insert_slots_none submission earlier.slots none
  refine ⟨?_, ?_, ?_, ?_⟩
  · refine List.forall_mem_append.mpr ⟨frontPacked, List.forall_mem_cons.mpr ⟨?_, backPacked⟩⟩
    refine List.pairwise_append.mpr ⟨beforePacked, List.pairwise_cons.mpr ⟨fun _ _ free => absurd free newLong,
      (List.pairwise_cons.mp oldPacked).2⟩, ?_⟩
    intro slot member _ _ free
    exact absurd free (filled slot member)
  · rw [List.pairwise_append, List.pairwise_cons]
    refine ⟨full.1, ⟨?_, full.2.1.2⟩, ?_⟩
    · intro later member _ same
      rw [backFresh later member] at same
      cases same
    · intro earlier member later laterMember used same
      rcases List.mem_cons.mp laterMember with rfl | laterBack
      · exact (frontRefused earlier member same).2
      · exact full.2.2 earlier member later (List.mem_cons_of_mem _ laterBack) used same
  · have last := keeps.last
    rw [stampedBefore] at last
    rw [stampedAfter]
    refine List.pairwise_append.mpr ⟨last, List.pairwise_singleton _ _, ?_⟩
    intro entry member newest newestMember stamp same
    obtain rfl := List.mem_singleton.mp newestMember
    rcases List.mem_append.mp member with earlier | own
    · obtain ⟨segment, segmentFront, segmentStamp, inside, entryLong⟩ := (mem_stamped front entry).mp earlier
      exact notReplaced entry.2 segment.slots inside entryLong (frontRefused segment segmentFront (segmentStamp.trans stamp)).1 same
    · obtain ⟨slot, inside, rfl⟩ := List.mem_map.mp own
      obtain ⟨slotBefore, slotLong⟩ := (mem_occupied before slot).mp inside
      exact notReplaced slot _ (List.mem_append_left _ slotBefore) slotLong nothing same
  · intro id
    have kept := keeps.kept id
    rw [content_stamped, stampedBefore] at kept
    rw [content_stamped, stampedAfter]
    simp only [List.map_append, List.map_cons, List.map_nil, List.append_nil, ← List.append_assoc, fill_data] at kept ⊢
    rw [commands_append, commands_append]
    by_cases own : (sent submission.message.data).id = id
    · rw [commands_own id _ _ own]
      exact coalesces_append IsControl _ _ _ kept
    · rw [commands_other id _ _ own]
      simpa [commandsOf] using kept

end Packing

theorem pack_keeps (capacity : Nat) (lane : Lane) (formed : LaneOk capacity lane) (keeps : LaneKeeps lane) (submission : Submission)
    (long : submission.message.data.len ≠ 0) (segments : List Segment)
    (packs : Packs lane.generation submission lane.waiting segments) :
    LaneKeeps { lane with waiting := segments, packed := lane.packed ++ [submission] } := by
  obtain ⟨front, back, chosen, slots, waiting, refused, compatible, taken, rfl⟩ :=
    packs_split lane.generation submission lane.waiting segments packs
  obtain ⟨before, old, after, parts, cases⟩ := insert_slots_some submission chosen.slots slots taken
  obtain ⟨generation, chosenSlots⟩ := chosen
  obtain rfl : chosenSlots = before ++ old :: after := parts
  rcases cases with ⟨ordinary, replaced, _, rfl⟩ | ⟨nothing, empty, filled, rfl⟩
  · exact overwrite_keeps capacity lane formed keeps submission long front back generation before after old waiting compatible ordinary
      replaced
  · exact fill_keeps capacity lane formed keeps submission long front back generation before after old waiting compatible refused
      nothing empty filled

theorem fresh_keeps (capacity : Nat) (lane : Lane) (keeps : LaneKeeps lane) :
    LaneKeeps { lane with waiting := lane.waiting ++ [freshSegment capacity] } := by
  have nothing : stampedOf [freshSegment capacity] = [] := by simp [stampedOf, occupied_fresh]
  refine ⟨?_, ?_, ?_, ?_⟩
  · refine List.forall_mem_append.mpr ⟨keeps.packed, List.forall_mem_singleton.mpr ?_⟩
    exact List.pairwise_replicate.mpr (.inr fun _ => rfl)
  · refine List.pairwise_append.mpr ⟨keeps.full, List.pairwise_singleton _ _, ?_⟩
    intro earlier _ later member used same
    obtain rfl := List.mem_singleton.mp member
    exact absurd same used
  · rw [stamped_append, nothing, List.append_nil]
    exact keeps.last
  · intro id
    have kept := keeps.kept id
    rw [content_stamped] at kept ⊢
    rw [stamped_append, nothing, List.append_nil]
    exact kept

theorem hand_keeps (lane : Lane) (keeps : LaneKeeps lane) (front : Segment) (rest : List Segment)
    (first : lane.waiting = front :: rest) : LaneKeeps { lane with handed := lane.handed ++ [front], waiting := rest } := by
  obtain ⟨packed, full, last, kept⟩ := keeps
  rw [first] at packed full last
  refine ⟨(List.forall_mem_cons.mp packed).2, (List.pairwise_cons.mp full).2, ?_, ?_⟩
  · rw [stamped_cons] at last
    exact (List.pairwise_append.mp last).2.1
  · intro id
    simpa [first] using kept id

theorem lane_keeps (capacity : Nat) (room : 0 < capacity) (lane : Lane) (moves : LaneMoves capacity emptyLane lane)
    (considered : Considered lane) : LaneKeeps lane := by
  have whole : LaneOk capacity lane ∧ (Considered lane → LaneKeeps lane) := by
    refine lane_moves_invariant capacity (fun lane => LaneOk capacity lane ∧ (Considered lane → LaneKeeps lane)) ?_ emptyLane lane ?_ moves
    · rintro before after ⟨formed, keeps⟩ move
      refine ⟨lane_ok_step capacity room before after formed move, ?_⟩
      intro consideredAfter
      cases move with
      | pack submission segments newer same packs =>
        obtain ⟨long, short⟩ := List.forall_mem_append.mp consideredAfter.2
        exact pack_keeps capacity before formed (keeps ⟨consideredAfter.1, long⟩) submission (by simpa using short) segments packs
      | opened => exact fresh_keeps capacity before (keeps consideredAfter)
      | advance batch => exact { keeps consideredAfter with }
      | hand front rest first => exact hand_keeps before (keeps consideredAfter) front rest first
      | discard front rest first => exact absurd consideredAfter.1 (by simp)
    · exact ⟨empty_lane_ok capacity, fun _ => ⟨by simp [emptyLane], by simp [emptyLane], by simp [emptyLane, stampedOf],
        fun _ => .nil⟩⟩
  exact whole.2 considered

end EncosDriver.Ethercat
