import EncosDriver.Ethercat.Refine

set_option autoImplicit false

namespace EncosDriver.Ethercat

open Lib Message

def Holds (segment : Segment) (submission : Submission) : Prop := ∃ slot ∈ segment.slots, submission ∈ slot.origins

def Lane.Owns (lane : Lane) (segment : Segment) : Prop :=
  segment ∈ lane.handed ∨ segment ∈ lane.discarded ∨ segment ∈ lane.waiting

def InOrder (earlier later : Segment) : Prop :=
  ∀ first second, earlier.generation = some first → later.generation = some second → first ≤ second

structure LaneOk (capacity : Nat) (lane : Lane) : Prop where
  slots : ∀ segment, lane.Owns segment → ∀ slot ∈ segment.slots, SlotOk slot
  known : ∀ segment, lane.Owns segment → ∀ submission, Holds segment submission → submission ∈ lane.packed
  fresh : ∀ segment, lane.Owns segment → segment.generation = none → segment = freshSegment capacity
  recent : ∀ segment, lane.Owns segment → ∀ generation, segment.generation = some generation → generation ≤ lane.generation
  kind : ∃ kinds : Nat → Option Nat, kinds lane.generation = lane.batch ∧
    ∀ segment, lane.Owns segment → ∀ generation, segment.generation = some generation →
      ∀ submission, Holds segment submission → submission.batch = kinds generation
  later : ∀ segment other, lane.Owns segment → lane.Owns other → ∀ generation newer, segment.generation = some generation →
    other.generation = some newer → generation < newer →
      ∀ first second, Holds segment first → Holds other second → first.origin < second.origin
  sorted : (lane.handed ++ lane.waiting).Pairwise InOrder
  unused : lane.waiting.Pairwise fun earlier behind => earlier.generation = none → behind.generation = none
  carried : ∀ submission ∈ lane.packed, ∃ segment, lane.Owns segment ∧ Holds segment submission

theorem fresh_holds_nothing (capacity : Nat) (submission : Submission) : ¬ Holds (freshSegment capacity) submission := by
  rintro ⟨slot, member, held⟩
  obtain rfl := List.eq_of_mem_replicate member
  cases held

section Moves

variable (capacity : Nat) (room : 0 < capacity) (lane : Lane) (formed : LaneOk capacity lane)
include formed

theorem used_of_holds (segment : Segment) (owned : lane.Owns segment) (submission : Submission) (held : Holds segment submission) :
    ∃ generation, segment.generation = some generation := by
  cases stamped : segment.generation with
  | none =>
    rw [formed.fresh segment owned stamped] at held
    exact absurd held (fresh_holds_nothing capacity submission)
  | some generation => exact ⟨generation, rfl⟩

theorem regrouped_ok (after : Lane) (owned : ∀ segment, after.Owns segment → lane.Owns segment ∨ segment = freshSegment capacity)
    (kept : ∀ segment, lane.Owns segment → after.Owns segment) (generation : after.generation = lane.generation)
    (batch : after.batch = lane.batch) (packed : after.packed = lane.packed)
    (sorted : (after.handed ++ after.waiting).Pairwise InOrder)
    (unused : after.waiting.Pairwise fun earlier behind => earlier.generation = none → behind.generation = none) :
    LaneOk capacity after := by
  have held (segment : Segment) (member : after.Owns segment) (submission : Submission) (holds : Holds segment submission) :
      lane.Owns segment := by
    rcases owned segment member with old | rfl
    · exact old
    · exact absurd holds (fresh_holds_nothing capacity submission)
  have stamped (segment : Segment) (member : after.Owns segment) (stamp : Nat) (used : segment.generation = some stamp) :
      lane.Owns segment := by
    rcases owned segment member with old | rfl
    · exact old
    · cases used
  obtain ⟨kinds, current, kind⟩ := formed.kind
  refine ⟨?_, ?_, ?_, ?_, ⟨kinds, by rw [generation, batch, current], ?_⟩, ?_, sorted, unused, ?_⟩
  · intro segment member slot inside
    rcases owned segment member with old | rfl
    · exact formed.slots segment old slot inside
    · obtain rfl := List.eq_of_mem_replicate inside
      exact ⟨rfl, .nil⟩
  · intro segment member submission holds
    rw [packed]
    exact formed.known segment (held segment member submission holds) submission holds
  · intro segment member empty
    rcases owned segment member with old | rfl
    · exact formed.fresh segment old empty
    · rfl
  · intro segment member stamp used
    rw [generation]
    exact formed.recent segment (stamped segment member stamp used) stamp used
  · intro segment member stamp used
    exact kind segment (stamped segment member stamp used) stamp used
  · intro segment other member otherMember stamp newer used otherUsed
    exact formed.later segment other (stamped segment member stamp used) (stamped other otherMember newer otherUsed) stamp newer used
      otherUsed
  · intro submission member
    rw [packed] at member
    obtain ⟨segment, old, holds⟩ := formed.carried submission member
    exact ⟨segment, kept segment old, holds⟩

omit formed in
theorem in_order_fresh (segment : Segment) : InOrder segment (freshSegment capacity) := by
  intro first second _ stamped
  cases stamped

theorem opened_ok : LaneOk capacity { lane with waiting := lane.waiting ++ [freshSegment capacity] } := by
  refine regrouped_ok capacity lane formed _ ?_ ?_ rfl rfl rfl ?_ ?_
  · intro segment member
    simp only [Lane.Owns, List.mem_append, List.mem_singleton] at member ⊢
    tauto
  · intro segment member
    simp only [Lane.Owns, List.mem_append, List.mem_singleton] at member ⊢
    tauto
  · rw [← List.append_assoc]
    exact List.pairwise_append.mpr ⟨formed.sorted, List.pairwise_singleton _ _, fun segment _ => by simp [in_order_fresh capacity segment]⟩
  · exact List.pairwise_append.mpr ⟨formed.unused, List.pairwise_singleton _ _, by simp [freshSegment]⟩

theorem hand_ok (front : Segment) (rest : List Segment) (first : lane.waiting = front :: rest) :
    LaneOk capacity { lane with handed := lane.handed ++ [front], waiting := rest } := by
  have unused := formed.unused
  rw [first, List.pairwise_cons] at unused
  refine regrouped_ok capacity lane formed _ ?_ ?_ rfl rfl rfl (by simpa [first] using formed.sorted) unused.2
  · intro segment member
    simp only [Lane.Owns, first, List.mem_append, List.mem_cons, List.not_mem_nil, or_false] at member ⊢
    tauto
  · intro segment member
    simp only [Lane.Owns, first, List.mem_append, List.mem_cons, List.not_mem_nil, or_false] at member ⊢
    tauto

theorem discard_ok (front : Segment) (rest : List Segment) (first : lane.waiting = front :: rest) :
    LaneOk capacity { lane with discarded := lane.discarded ++ [front], waiting := rest } := by
  have unused := formed.unused
  have sorted := formed.sorted
  rw [first, List.pairwise_cons] at unused
  rw [first] at sorted
  refine regrouped_ok capacity lane formed _ ?_ ?_ rfl rfl rfl
    (sorted.sublist ((List.Sublist.refl lane.handed).append (List.sublist_cons_self front rest))) unused.2
  · intro segment member
    simp only [Lane.Owns, first, List.mem_append, List.mem_cons, List.not_mem_nil, or_false] at member ⊢
    tauto
  · intro segment member
    simp only [Lane.Owns, first, List.mem_append, List.mem_cons, List.not_mem_nil, or_false] at member ⊢
    tauto

theorem advance_ok (batch : Option Nat) : LaneOk capacity { lane with generation := lane.generation + 1, batch := batch } := by
  obtain ⟨kinds, _, kind⟩ := formed.kind
  refine { formed with
    recent := fun segment owned stamp used => Nat.le_succ_of_le (formed.recent segment owned stamp used)
    kind := ⟨fun stamp => if stamp = lane.generation + 1 then batch else kinds stamp, by simp, ?_⟩ }
  intro segment owned stamp used submission holds
  have old := formed.recent segment owned stamp used
  have different : stamp ≠ lane.generation + 1 := by omega
  simpa only [if_neg different] using kind segment owned stamp used submission holds

theorem behind_chosen (front back : List Segment) (chosen : Segment) (waiting : lane.waiting = front ++ chosen :: back)
    (compatible : chosen.generation = none ∨ chosen.generation = some lane.generation) (later : Segment) (member : later ∈ back) :
    later = freshSegment capacity ∨
      (later.generation = some lane.generation ∧ chosen.generation = some lane.generation) := by
  have owned : lane.Owns later := by simp [Lane.Owns, waiting, member]
  cases stamped : later.generation with
  | none => exact .inl (formed.fresh later owned stamped)
  | some stamp =>
    have unused := formed.unused
    have sorted := formed.sorted
    rw [waiting, List.pairwise_append, List.pairwise_cons] at unused
    rw [waiting, ← List.append_assoc, List.pairwise_append, List.pairwise_cons] at sorted
    rcases compatible with empty | current
    · rw [unused.2.1.1 later member empty] at stamped
      cases stamped
    · have above := sorted.2.1.1 later member lane.generation stamp current stamped
      have below := formed.recent later owned stamp stamped
      exact .inr ⟨by rw [Nat.le_antisymm below above], current⟩

include room

theorem refuses_used (submission : Submission) (segment : Segment) (owned : lane.Owns segment)
    (refused : Refuses lane.generation submission segment) : segment.generation ≠ none := by
  intro empty
  rcases refused with ⟨used, _⟩ | full
  · exact used empty
  · obtain ⟨filled, fits⟩ := insert_fresh capacity submission room
    rw [formed.fresh segment owned empty, fits] at full
    cases full

theorem pack_ok (submission : Submission) (segments : List Segment)
    (newer : ∀ earlier ∈ lane.packed, earlier.origin < submission.origin) (same : submission.batch = lane.batch)
    (packs : Packs lane.generation submission lane.waiting segments) :
    LaneOk capacity { lane with waiting := segments, packed := lane.packed ++ [submission] } := by
  obtain ⟨front, back, chosen, slots, waiting, refused, compatible, taken, rfl⟩ :=
    packs_split lane.generation submission lane.waiting segments packs
  have chosenOwned : lane.Owns chosen := by simp [Lane.Owns, waiting]
  have older (segment : Segment) (owned : lane.Owns segment) (held : Submission) (holds : Holds segment held) :
      held.origin < submission.origin := newer held (formed.known segment owned held holds)
  obtain ⟨slotsOk, record⟩ := insert_slots_record submission chosen.slots slots taken (formed.slots chosen chosenOwned)
    fun slot member earlier held => older chosen chosenOwned earlier ⟨slot, member, held⟩
  -- Every frame of the lane is an old one or the chosen one with the submission added.
  have owned (segment : Segment) (member : Lane.Owns
      { lane with waiting := front ++ ⟨some lane.generation, slots⟩ :: back, packed := lane.packed ++ [submission] } segment) :
      lane.Owns segment ∨ segment = ⟨some lane.generation, slots⟩ := by
    simp only [Lane.Owns, waiting, List.mem_append, List.mem_cons] at member ⊢
    tauto
  have kept (segment : Segment) (member : lane.Owns segment) : segment = chosen ∨ Lane.Owns
      { lane with waiting := front ++ ⟨some lane.generation, slots⟩ :: back, packed := lane.packed ++ [submission] } segment := by
    simp only [Lane.Owns, waiting, List.mem_append, List.mem_cons] at member ⊢
    tauto
  have current (held : Submission) (holds : Holds chosen held) : chosen.generation = some lane.generation := by
    obtain ⟨stamp, used⟩ := used_of_holds capacity lane formed chosen chosenOwned held holds
    rcases compatible with empty | same
    · rw [used] at empty
      cases empty
    · exact same
  have usedFront : ∀ earlier ∈ front, earlier.generation ≠ none := fun earlier member empty =>
    refuses_used capacity room lane formed submission earlier (by simp [Lane.Owns, waiting, member]) (refused earlier member) empty
  obtain ⟨kinds, currentKind, kind⟩ := formed.kind
  refine ⟨?_, ?_, ?_, ?_, ⟨kinds, currentKind, ?_⟩, ?_, ?_, ?_, ?_⟩
  · intro segment member
    rcases owned segment member with old | rfl
    · exact formed.slots segment old
    · exact slotsOk
  · intro segment member held holds
    rcases owned segment member with old | rfl
    · exact List.mem_append_left _ (formed.known segment old held holds)
    · rcases (record held).mp holds with before | rfl
      · exact List.mem_append_left _ (formed.known chosen chosenOwned held before)
      · simp
  · intro segment member empty
    rcases owned segment member with old | rfl
    · exact formed.fresh segment old empty
    · cases empty
  · intro segment member stamp used
    rcases owned segment member with old | rfl
    · exact formed.recent segment old stamp used
    · cases used
      exact Nat.le_refl _
  · intro segment member stamp used held holds
    rcases owned segment member with old | rfl
    · exact kind segment old stamp used held holds
    · cases used
      rcases (record held).mp holds with before | rfl
      · exact kind chosen chosenOwned _ (current held before) held before
      · exact same.trans currentKind.symm
  · intro segment other member otherMember stamp stamped used otherUsed less first second firstHeld secondHeld
    rcases owned other otherMember with otherOld | rfl
    · rcases owned segment member with old | rfl
      · exact formed.later segment other old otherOld stamp stamped used otherUsed less first second firstHeld secondHeld
      · cases used
        exact absurd less (Nat.not_lt.mpr (formed.recent other otherOld stamped otherUsed))
    · cases otherUsed
      rcases owned segment member with old | rfl
      · rcases (record second).mp secondHeld with before | rfl
        · exact formed.later segment chosen old chosenOwned stamp _ used (current second before) less first second firstHeld before
        · exact older segment old first firstHeld
      · cases used
        exact absurd less (Nat.lt_irrefl _)
  · have sorted := formed.sorted
    rw [waiting, ← List.append_assoc, List.pairwise_append, List.pairwise_cons] at sorted
    obtain ⟨before, ⟨behindChosen, behind⟩, across⟩ := sorted
    have unused := formed.unused
    rw [waiting, List.pairwise_append, List.pairwise_cons] at unused
    rw [← List.append_assoc, List.pairwise_append, List.pairwise_cons]
    refine ⟨before, ⟨?_, behind⟩, ?_⟩
    · intro later member first second stamped used
      cases stamped
      rcases compatible with empty | stampedChosen
      · rw [unused.2.1.1 later member empty] at used
        cases used
      · exact behindChosen later member lane.generation second stampedChosen used
    · intro earlier member later laterMember
      rcases List.mem_cons.mp laterMember with rfl | laterBack
      · intro first second used stamped
        cases stamped
        have old : lane.Owns earlier := by
          simp only [Lane.Owns, waiting, List.mem_append] at member ⊢
          tauto
        exact formed.recent earlier old first used
      · exact across earlier member later (List.mem_cons_of_mem _ laterBack)
  · have unused := formed.unused
    rw [waiting, List.pairwise_append, List.pairwise_cons] at unused
    rw [List.pairwise_append, List.pairwise_cons]
    refine ⟨unused.1, ⟨fun later _ empty => (by cases empty), unused.2.1.2⟩, ?_⟩
    intro earlier member later _ empty
    exact absurd empty (usedFront earlier member)
  · intro held member
    rcases List.mem_append.mp member with old | fresh
    · obtain ⟨segment, segmentOwned, holds⟩ := formed.carried held old
      rcases kept segment segmentOwned with rfl | still
      · exact ⟨⟨some lane.generation, slots⟩, by simp [Lane.Owns], (record held).mpr (.inl holds)⟩
      · exact ⟨segment, still, holds⟩
    · obtain rfl := List.mem_singleton.mp fresh
      exact ⟨⟨some lane.generation, slots⟩, by simp [Lane.Owns], (record held).mpr (.inr rfl)⟩

end Moves

variable (capacity : Nat)

theorem lane_ok_step (room : 0 < capacity) (before after : Lane) (formed : LaneOk capacity before)
    (move : LaneMove capacity before after) : LaneOk capacity after := by
  cases move with
  | pack submission segments newer same packs => exact pack_ok capacity room before formed submission segments newer same packs
  | opened => exact opened_ok capacity before formed
  | advance batch => exact advance_ok capacity before formed batch
  | hand front rest first => exact hand_ok capacity before formed front rest first
  | discard front rest first => exact discard_ok capacity before formed front rest first

theorem empty_lane_ok : LaneOk capacity emptyLane := by
  have nothing : ∀ segment, ¬ emptyLane.Owns segment := by simp [Lane.Owns, emptyLane]
  exact ⟨fun _ owned => absurd owned (nothing _), fun _ owned => absurd owned (nothing _), fun _ owned => absurd owned (nothing _),
    fun _ owned => absurd owned (nothing _), ⟨fun _ => none, rfl, fun _ owned => absurd owned (nothing _)⟩,
    fun _ _ owned => absurd owned (nothing _), by simp [emptyLane], by simp [emptyLane], by simp [emptyLane]⟩

theorem lane_ok (room : 0 < capacity) (lane : Lane) (moves : LaneMoves capacity emptyLane lane) :
    LaneOk capacity lane :=
  lane_moves_invariant capacity (LaneOk capacity) (lane_ok_step capacity room) emptyLane lane (empty_lane_ok capacity) moves

theorem lane_separated (lane : Lane) (formed : LaneOk capacity lane) (segment : Segment)
    (owned : lane.Owns segment) (first second : Submission) (firstHeld : Holds segment first) (secondHeld : Holds segment second) :
    first.batch = second.batch := by
  obtain ⟨stamp, used⟩ := used_of_holds capacity lane formed segment owned first firstHeld
  obtain ⟨kinds, _, kind⟩ := formed.kind
  exact (kind segment owned stamp used first firstHeld).trans (kind segment owned stamp used second secondHeld).symm

theorem lane_ordered (lane : Lane) (formed : LaneOk capacity lane) (index : Nat) (segment : Segment)
    (handed : lane.handed[index]? = some segment) (early late : Submission) (lateHeld : Holds segment late)
    (packed : early ∈ lane.packed) (different : early.batch ≠ late.batch) (earlier : early.origin < late.origin) :
    (∃ before other, before < index ∧ lane.handed[before]? = some other ∧ Holds other early) ∨
      ∃ other ∈ lane.discarded, Holds other early := by
  have owned : lane.Owns segment := .inl (List.mem_of_getElem? handed)
  obtain ⟨other, otherOwned, earlyHeld⟩ := formed.carried early packed
  obtain ⟨late', lateUsed⟩ := used_of_holds capacity lane formed segment owned late lateHeld
  obtain ⟨early', earlyUsed⟩ := used_of_holds capacity lane formed other otherOwned early earlyHeld
  -- Frames of one generation hold one batch, and origins grow with the generation.
  have less : early' < late' := by
    rcases Nat.lt_trichotomy early' late' with less | rfl | more
    · exact less
    · obtain ⟨kinds, _, kind⟩ := formed.kind
      have same := (kind other otherOwned _ earlyUsed early earlyHeld).trans (kind segment owned _ lateUsed late lateHeld).symm
      exact absurd same different
    · have reversed := formed.later segment other owned otherOwned late' early' lateUsed earlyUsed more late early lateHeld earlyHeld
      omega
  have sorted := List.pairwise_append.mp formed.sorted
  obtain ⟨bounded, segmentAt⟩ := List.getElem?_eq_some_iff.mp handed
  rcases otherOwned with otherHanded | otherDiscarded | otherWaiting
  · obtain ⟨before, otherBounded, rfl⟩ := List.mem_iff_getElem.mp otherHanded
    refine .inl ⟨before, _, ?_, List.getElem?_eq_getElem otherBounded, earlyHeld⟩
    by_contra late
    rcases Nat.lt_or_eq_of_le (Nat.not_lt.mp late) with after | rfl
    · have ordered := List.pairwise_iff_getElem.mp sorted.1 index before bounded otherBounded after late' early'
        (by rw [segmentAt, lateUsed]) earlyUsed
      omega
    · rw [segmentAt, lateUsed] at earlyUsed
      cases earlyUsed
      omega
  · exact .inr ⟨other, otherDiscarded, earlyHeld⟩
  · have ordered := sorted.2.2 segment (List.mem_of_getElem? handed) other otherWaiting late' early' lateUsed earlyUsed
    omega

theorem held_newest_or_replaced (slot : Slot) (formed : SlotOk slot) (submission : Submission) (held : submission ∈ slot.origins)
    (long : submission.message.data.len ≠ 0) :
    slot.origins.head? = some submission ∨
      ∃ newer ∈ slot.origins, newer.message.data.id = submission.message.data.id ∧ submission.origin < newer.origin := by
  obtain ⟨front, back, parts⟩ := List.append_of_mem held
  cases last : front.getLast? with
  | none =>
    rw [List.getLast?_eq_none_iff.mp last] at parts
    exact .inl (by rw [parts]; rfl)
  | some newer =>
    obtain ⟨init, rfl⟩ := List.getLast?_eq_some_iff.mp last
    have chained := formed.chained
    rw [parts, List.append_assoc, List.singleton_append] at chained
    obtain ⟨newest, same⟩ := (List.isChain_append_cons_cons.mp chained).2.1
    exact .inr ⟨newer, by simp [parts], same long, newest⟩

def slotsOf (configs : List SlaveConfig) (slaveCount : Nat) (frame : OutputFrame) (encoded : Int32) : List Slot :=
  match targetOf configs slaveCount encoded with
  | none => []
  | some target =>
    match target.config.format.traits with
    | none => []
    | some traits => region traits target frame

def Sends (configs : List SlaveConfig) (slaveCount : Nat) (queued : QueuedFrame) (encoded : Int32) (submission : Submission) : Prop :=
  ∃ slot ∈ slotsOf configs slaveCount queued.frame encoded, slot.origins.head? = some submission

instance (configs : List SlaveConfig) (slaveCount : Nat) (queued : QueuedFrame) (encoded : Int32) (submission : Submission) :
    Decidable (Sends configs slaveCount queued encoded submission) :=
  inferInstanceAs (Decidable (∃ slot ∈ slotsOf configs slaveCount queued.frame encoded, slot.origins.head? = some submission))

def Replaced (configs : List SlaveConfig) (slaveCount : Nat) (handle : Handle) (encoded : Int32) (submission : Submission) : Prop :=
  ∃ queued ∈ handle.handed ++ handle.discarded ++ handle.sendFrames, ∃ slot ∈ slotsOf configs slaveCount queued.frame encoded,
    submission ∈ slot.origins ∧ ∃ newer ∈ slot.origins,
      newer.message.data.id = submission.message.data.id ∧ submission.origin < newer.origin

def LeavesFirst (configs : List SlaveConfig) (slaveCount : Nat) (handle : Handle) (encoded : Int32) (submission : Submission)
    (index : Nat) : Prop :=
  ∃ before queued, before < index ∧ handle.handed[before]? = some queued ∧ Sends configs slaveCount queued encoded submission

-- The batches of a bus, for the messages that are `considered`: what the frames
-- hold was submitted, a frame holds messages of one batch, and a message leaves
-- before the later ones of other batches unless it was replaced or trimmed.
structure BatchesSeparated (configs : List SlaveConfig) (slaveCount : Nat) (handle : Handle) (considered : Submission → Prop) :
    Prop where
  submitted : ∀ queued ∈ handle.handed, ∀ encoded, ∀ slot ∈ slotsOf configs slaveCount queued.frame encoded, slot.data.len ≠ 0 →
    ∃ submission ∈ handle.submitted, submission.message.busIdx = encoded ∧ slot.origins.head? = some submission ∧
      slot.data = sent submission.message.data
  separated : ∀ queued ∈ handle.handed, ∀ encoded first second, Sends configs slaveCount queued encoded first →
    Sends configs slaveCount queued encoded second → first.batch = second.batch
  ordered : ∀ encoded index queued late, handle.handed[index]? = some queued → Sends configs slaveCount queued encoded late →
    ∀ early ∈ handle.submitted, considered early → early.message.busIdx = encoded → early.batch ≠ late.batch →
      early.origin < late.origin → LeavesFirst configs slaveCount handle encoded early index ∨
        Replaced configs slaveCount handle encoded early ∨
          ∃ trimmed ∈ handle.discarded, Sends configs slaveCount trimmed encoded early

section Views

variable (configs : List SlaveConfig) (slaveCount : Nat) (topology : Topology configs slaveCount)

theorem slots_region (encoded : Int32) (target : Target) (traits : PacketTraits)
    (found : targetOf configs slaveCount encoded = some target) (placed : Placed configs slaveCount target traits)
    (frame : OutputFrame) : slotsOf configs slaveCount frame encoded = region traits target frame := by
  simp only [slotsOf, found, placed.format]

include topology

theorem slots_lane (handle : Handle) (packed : List Submission) (remaining : List PendingBatch)
    (shows' : Shows configs slaveCount handle packed remaining) (encoded : Int32) (frame : OutputFrame) (slot : Slot)
    (member : slot ∈ slotsOf configs slaveCount frame encoded) :
    ∃ target traits, (∀ other, slotsOf configs slaveCount other encoded = region traits target other) ∧
      LaneOk traits.motorsPerBus (laneView traits target encoded handle packed) := by
  cases found : targetOf configs slaveCount encoded with
  | none => simp [slotsOf, found] at member
  | some target =>
    obtain ⟨traits, placed, _⟩ := target_placed configs slaveCount topology encoded target found
    exact ⟨target, traits, slots_region configs slaveCount encoded target traits found placed,
      lane_ok traits.motorsPerBus placed.capacity _ (shows'.lanes encoded target traits found placed)⟩

end Views

variable (configs : List SlaveConfig) (slaveCount : Nat)

theorem sends_holds (queued : QueuedFrame) (encoded : Int32) (target : Target)
    (traits : PacketTraits) (same : ∀ other, slotsOf configs slaveCount other encoded = region traits target other)
    (submission : Submission) (sends : Sends configs slaveCount queued encoded submission) :
    Holds ⟨queued.busGenerations.find encoded, region traits target queued.frame⟩ submission := by
  obtain ⟨slot, member, newest⟩ := sends
  rw [same] at member
  exact ⟨slot, member, List.mem_of_head? newest⟩

theorem holds_sends (handle : Handle) (packed : List Submission) (queued : QueuedFrame)
    (encoded : Int32) (target : Target) (traits : PacketTraits)
    (same : ∀ other, slotsOf configs slaveCount other encoded = region traits target other)
    (formed : LaneOk traits.motorsPerBus (laneView traits target encoded handle packed))
    (inside : queued ∈ handle.handed ++ handle.discarded ++ handle.sendFrames) (submission : Submission)
    (long : submission.message.data.len ≠ 0)
    (holds : Holds ⟨queued.busGenerations.find encoded, region traits target queued.frame⟩ submission) :
    Sends configs slaveCount queued encoded submission ∨ Replaced configs slaveCount handle encoded submission := by
  obtain ⟨slot, member, held⟩ := holds
  have owned : (laneView traits target encoded handle packed).Owns
      ⟨queued.busGenerations.find encoded, region traits target queued.frame⟩ := by
    simp only [List.mem_append] at inside
    rcases inside with (handed | discarded) | waiting
    · exact .inl (List.mem_map_of_mem handed)
    · exact .inr (.inl (List.mem_map_of_mem discarded))
    · exact .inr (.inr (List.mem_map_of_mem waiting))
  rw [← same] at member
  rcases held_newest_or_replaced slot (formed.slots _ owned slot (by rw [← same]; exact member)) submission held long with newest | newer
  · exact .inl ⟨slot, member, newest⟩
  · exact .inr ⟨queued, inside, slot, member, held, newer⟩

theorem batch_separation (topology : Topology configs slaveCount) (handle : Handle)
    (reached : Reachable (system configs slaveCount) handle) :
    BatchesSeparated configs slaveCount handle fun submission => submission.message.data.len ≠ 0 := by
  obtain ⟨packed, shows'⟩ := handle_shows configs slaveCount topology handle reached
  refine ⟨?_, ?_, ?_⟩
  · intro queued handed encoded slot member occupied
    obtain ⟨target, traits, same, formed⟩ := slots_lane configs slaveCount topology handle packed _ shows' encoded queued.frame slot member
    have owned : (laneView traits target encoded handle packed).Owns
        ⟨queued.busGenerations.find encoded, region traits target queued.frame⟩ := .inl (List.mem_map_of_mem handed)
    rw [same] at member
    have content := (formed.slots _ owned slot member).content
    cases origins : slot.origins with
    | nil =>
      rw [origins] at content
      exact absurd (by rw [content]; rfl) occupied
    | cons newest rest =>
      rw [origins] at content
      have known := formed.known _ owned newest ⟨slot, member, by simp [origins]⟩
      obtain ⟨inPacked, bus⟩ := List.mem_filter.mp known
      refine ⟨newest, ?_, by simpa using bus, rfl, content⟩
      rw [shows'.covered]
      exact List.mem_append_left _ inPacked
  · intro queued handed encoded first second firstSent secondSent
    obtain ⟨slot, member, _⟩ := id firstSent
    obtain ⟨target, traits, same, formed⟩ := slots_lane configs slaveCount topology handle packed _ shows' encoded queued.frame slot member
    exact lane_separated traits.motorsPerBus _ formed _ (.inl (List.mem_map_of_mem handed)) first second
      (sends_holds configs slaveCount queued encoded target traits same first firstSent)
      (sends_holds configs slaveCount queued encoded target traits same second secondSent)
  · intro encoded index queued late handed lateSent early submitted long bus different earlier
    obtain ⟨slot, member, _⟩ := id lateSent
    obtain ⟨target, traits, same, formed⟩ := slots_lane configs slaveCount topology handle packed _ shows' encoded queued.frame slot member
    have lateHeld := sends_holds configs slaveCount queued encoded target traits same late lateSent
    have handedAt : (laneView traits target encoded handle packed).handed[index]? =
        some ⟨queued.busGenerations.find encoded, region traits target queued.frame⟩ := by
      simp [laneView, laneOf, handed]
    -- The later message is packed already, so the earlier one is too.
    have packedEarly : early ∈ (laneView traits target encoded handle packed).packed := by
      have latePacked := formed.known _ (.inl (List.mem_of_getElem? handedAt)) late lateHeld
      have inOrder := numbered_ordered handle.submitted shows'.numbered
      rw [shows'.covered] at inOrder submitted
      rcases List.mem_append.mp submitted with done | pending
      · exact List.mem_filter.mpr ⟨done, by simpa using bus⟩
      · have reversed := (List.pairwise_append.mp inOrder).2.2 late (List.mem_of_mem_filter latePacked) early pending
        omega
    rcases lane_ordered traits.motorsPerBus _ formed index _ handedAt early late lateHeld packedEarly different earlier with
      ⟨before, other, less, otherHanded, holds⟩ | ⟨other, otherDiscarded, holds⟩
    · obtain ⟨frame, located, rfl⟩ : ∃ frame, handle.handed[before]? = some frame ∧
          (⟨frame.busGenerations.find encoded, region traits target frame.frame⟩ : Segment) = other := by
        simpa [laneView, laneOf] using otherHanded
      have inside : frame ∈ handle.handed ++ handle.discarded ++ handle.sendFrames := by
        simp [List.mem_of_getElem? located]
      rcases holds_sends configs slaveCount handle packed frame encoded target traits same formed inside early long holds with
        sends | replaced
      · exact .inl ⟨before, frame, less, located, sends⟩
      · exact .inr (.inl replaced)
    · obtain ⟨frame, located, rfl⟩ := List.mem_map.mp otherDiscarded
      have inside : frame ∈ handle.handed ++ handle.discarded ++ handle.sendFrames := by simp [located]
      rcases holds_sends configs slaveCount handle packed frame encoded target traits same formed inside early long holds with
        sends | replaced
      · exact .inr (.inr ⟨frame, located, sends⟩)
      · exact .inr (.inl replaced)

def twoBusSlave : List SlaveConfig := [classifyOutputPdoSize 86]

theorem two_bus_topology : Topology twoBusSlave 1 := ⟨by simp [twoBusSlave], by simp [twoBusSlave]⟩

def shortMessage (id : UInt32) (len : UInt8) : MotorMessage := ⟨0, ⟨id, 0, len, payload []⟩⟩

def emptyMessageRun : List Action :=
  [.queueSynchronizedMessages [shortMessage 1 0, shortMessage 2 1], .queueMessage (shortMessage 3 1), .prepareNextFrame,
    .prepareNextFrame]

theorem empty_message_ran : (runActions (system twoBusSlave 1) {} emptyMessageRun).isSome = true := by decide +kernel

def emptyMessageHandle : Handle := (runActions (system twoBusSlave 1) {} emptyMessageRun).get empty_message_ran

theorem empty_message_reached : Reachable (system twoBusSlave 1) emptyMessageHandle :=
  run_actions_reachable (system twoBusSlave 1) emptyMessageRun _ _ (.start _ rfl) (Option.some_get empty_message_ran).symm

-- Two synchronized batches, the second for one of the motors of the first, and a
-- message outside of both.
def twoBatchRun : List Action :=
  [.queueSynchronizedMessages [shortMessage 1 1, shortMessage 2 1], .queueSynchronizedMessages [shortMessage 1 2],
    .queueMessage (shortMessage 3 1), .prepareNextFrame, .prepareNextFrame, .prepareNextFrame]

theorem batch_separation_two_batches : ∃ handle, handle.handed.length = 3 ∧
    (∃ queued ∈ handle.handed, Sends twoBusSlave 1 queued 0 ⟨shortMessage 2 1, 1, some 0⟩) ∧
      (∃ queued ∈ handle.handed, Sends twoBusSlave 1 queued 0 ⟨shortMessage 1 2, 2, some 1⟩) ∧
        BatchesSeparated twoBusSlave 1 handle fun submission => submission.message.data.len ≠ 0 := by
  obtain ⟨handle, reached, found⟩ := run_actions_found (system twoBusSlave 1) twoBatchRun {} (.start _ rfl)
    (fun handle => decide (handle.handed.length = 3 ∧
      (∃ queued ∈ handle.handed, Sends twoBusSlave 1 queued 0 ⟨shortMessage 2 1, 1, some 0⟩) ∧
        ∃ queued ∈ handle.handed, Sends twoBusSlave 1 queued 0 ⟨shortMessage 1 2, 2, some 1⟩)) (by decide +kernel)
  obtain ⟨frames, first, second⟩ := of_decide_eq_true found
  exact ⟨handle, frames, first, second, batch_separation twoBusSlave 1 two_bus_topology handle reached⟩

/-- A slot of length zero counts as empty: the second message of the batch takes the slot of the first, which never
leaves. -/
theorem empty_message_lost : ∃ configs slaveCount handle, Topology configs slaveCount ∧
    Reachable (system configs slaveCount) handle ∧ ¬ BatchesSeparated configs slaveCount handle fun _ => True := by
  refine ⟨twoBusSlave, 1, emptyMessageHandle, two_bus_topology, empty_message_reached, ?_⟩
  intro separated
  have neverSent : ∀ queued ∈ emptyMessageHandle.handed, ∀ slot ∈ slotsOf twoBusSlave 1 queued.frame 0,
      slot.origins.head? ≠ some ⟨shortMessage 1 0, 0, some 0⟩ := by decide +kernel
  have neverReplaced : ∀ queued ∈ emptyMessageHandle.handed ++ emptyMessageHandle.discarded ++ emptyMessageHandle.sendFrames,
      ∀ slot ∈ slotsOf twoBusSlave 1 queued.frame 0, ∀ newer ∈ slot.origins, newer.message.data.id = 1 → ¬ 0 < newer.origin := by
    decide +kernel
  have second : emptyMessageHandle.handed[1]?.isSome = true := by decide +kernel
  obtain ⟨lateFrame, lateHanded⟩ := Option.isSome_iff_exists.mp second
  have nothingTrimmed : emptyMessageHandle.discarded.length = 0 := by decide +kernel
  have sendsLate : ∀ queued ∈ emptyMessageHandle.handed[1]?, ∃ slot ∈ slotsOf twoBusSlave 1 queued.frame 0,
      slot.origins.head? = some ⟨shortMessage 3 1, 2, none⟩ := by decide +kernel
  have submitted : (⟨shortMessage 1 0, 0, some 0⟩ : Submission) ∈ emptyMessageHandle.submitted := by decide +kernel
  rcases separated.ordered 0 1 lateFrame ⟨shortMessage 3 1, 2, none⟩ lateHanded (sendsLate lateFrame lateHanded)
      ⟨shortMessage 1 0, 0, some 0⟩ submitted trivial rfl (by decide) (by decide) with
    ⟨before, queued, _, located, slot, member, newest⟩ | ⟨queued, inside, slot, member, _, newer, held, same, later⟩ |
      ⟨queued, trimmed, _⟩
  · exact neverSent queued (List.mem_of_getElem? located) slot member newest
  · exact neverReplaced queued inside slot member newer held same later
  · rw [List.length_eq_zero_iff.mp nothingTrimmed] at trimmed
    cases trimmed

end EncosDriver.Ethercat
