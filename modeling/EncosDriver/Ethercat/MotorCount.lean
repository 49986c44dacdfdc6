import EncosDriver.Ethercat.Batches
import EncosDriver.Ethercat.Decode

set_option autoImplicit false

namespace EncosDriver.Ethercat

open Lib Message

-- The messages inserted into a slot, without the commands that a later one was
-- written over. A message of no length is not written over: the slot reads as
-- empty, and the next message fills it again.
def Slot.inserted (slot : Slot) : List Submission :=
  match slot.origins with
  | [] => []
  | newest :: older => newest :: older.filter fun submission => submission.message.data.len = 0

def Packet.inserted (packet : Packet) : List Submission := packet.motor.flatMap Slot.inserted

def onWire (submission : Submission) : MotorMessage := { submission.message with data := sent submission.message.data }

-- What a packet of a layout with a motor count is to satisfy; the count has not
-- wrapped when it is the number of messages it was raised for.
structure PacketCounted (traits : PacketTraits) (packet : Packet) (busCount slave : Nat) : Prop where
  counted : packet.motorNum.toNat = packet.motor.countP fun slot => slot.data.len ≠ 0
  unwrapped : packet.motorNum.toNat = packet.inserted.length
  read : decodePacketInputs traits packet busCount slave = packet.inserted.map onWire

def SlaveFormat.hasMotorNum (format : SlaveFormat) : Bool := format.traits.any fun traits => traits.hasMotorNum

def MotorsCounted (configs : List SlaveConfig) (slaveCount : Nat) (messages : MotorMessages) : Prop :=
  ∀ frame ∈ packMessages configs slaveCount (({} : Handle).number messages none),
    ∀ (slave : Nat) (buffer : OutputBuffer) (config : SlaveConfig) (traits : PacketTraits), frame[slave]? = some buffer →
      buffer.active = true → configs[slave]? = some config → config.format.traits = some traits → traits.hasMotorNum = true →
      PacketCounted traits buffer.packet config.busCount slave

def Slot.Current (slot : Slot) : Prop :=
  slot.data = match slot.origins with
    | [] => emptySlot.data
    | newest :: _ => sent newest.message.data

structure Tallied (packet : Packet) : Prop where
  current : ∀ slot ∈ packet.motor, slot.Current
  tally : packet.motorNum = UInt8.ofNat packet.inserted.length

theorem overwrite_inserted (submission : Submission) (slot : Slot) (current : slot.Current) (used : slot.data.len ≠ 0) :
    (overwriteSlot submission slot).inserted.length = slot.inserted.length := by
  cases held : slot.origins with
  | nil =>
    rw [Slot.Current, held] at current
    rw [current] at used
    exact absurd rfl used
  | cons newest older =>
    rw [Slot.Current, held] at current
    rw [current] at used
    have long : newest.message.data.len ≠ 0 := used
    simp [Slot.inserted, overwriteSlot, held, long]

theorem fill_inserted (submission : Submission) (slot : Slot) (current : slot.Current) (empty : slot.data.len = 0) :
    (fillSlot submission slot).inserted.length = slot.inserted.length + 1 := by
  cases held : slot.origins with
  | nil => simp [Slot.inserted, fillSlot, held]
  | cons newest older =>
    rw [Slot.Current, held] at current
    rw [current] at empty
    have short : newest.message.data.len = 0 := empty
    simp [Slot.inserted, fillSlot, held, short]

theorem slot_where_parts (packet : Packet) (start count slot : Nat) (wanted : Slot → Bool)
    (found : packet.slotWhere start count wanted = some slot) (change : Slot → Slot) :
    ∃ front old back, packet.motor = front ++ old :: back ∧ wanted old = true ∧
      packet.motor.modify slot change = front ++ change old :: back := by
  obtain ⟨index, bounded, rfl, located⟩ := slot_where_some packet start count slot wanted found
  obtain ⟨inside, holds, _⟩ := List.findIdx?_eq_some_iff_getElem.mp located
  have within : start + index < packet.motor.length := by
    simp only [List.length_take, List.length_drop] at inside
    omega
  refine ⟨packet.motor.take (start + index), packet.motor[start + index], packet.motor.drop (start + index + 1), ?_, ?_, ?_⟩
  · rw [List.getElem_cons_drop, List.take_append_drop]
  · simpa using holds
  · rw [List.modify_eq_take_cons_drop within]

variable (traits : PacketTraits)

theorem insert_message_parts (packet after : Packet) (bus : Nat) (submission : Submission)
    (taken : insertMessageIntoPacket traits packet bus submission = some after) :
    ∃ front old back, packet.motor = front ++ old :: back ∧
      ((replaceable submission.message.data.id old = true ∧
          after = ⟨packet.motorNum, front ++ overwriteSlot submission old :: back⟩) ∨
        (old.data.len = 0 ∧
          after = ⟨if traits.hasMotorNum then packet.motorNum + 1 else packet.motorNum, front ++ fillSlot submission old :: back⟩)) := by
  simp only [insertMessageIntoPacket] at taken
  split at taken
  · cases taken
  · split at taken
    · next slot found =>
        cases taken
        split at found
        · obtain ⟨front, old, back, parts, replaced, modified⟩ :=
            slot_where_parts packet _ _ slot _ found (overwriteSlot submission)
          exact ⟨front, old, back, parts, .inl ⟨replaced, by rw [modified]⟩⟩
        · cases found
    · split at taken
      · next slot found =>
          cases taken
          obtain ⟨front, old, back, parts, empty, modified⟩ := slot_where_parts packet _ _ slot _ found (fillSlot submission)
          exact ⟨front, old, back, parts, .inr ⟨by simpa using empty, by rw [modified]⟩⟩
      · cases taken

theorem insert_message_tallied (packet after : Packet) (bus : Nat) (submission : Submission)
    (classic : traits.hasMotorNum = true) (tallied : Tallied packet)
    (taken : insertMessageIntoPacket traits packet bus submission = some after) : Tallied after := by
  obtain ⟨current, tally⟩ := tallied
  obtain ⟨front, old, back, parts, cases⟩ := insert_message_parts traits packet after bus submission taken
  rw [parts, List.forall_mem_append, List.forall_mem_cons] at current
  obtain ⟨currentFront, currentOld, currentBack⟩ := current
  rcases cases with ⟨replaced, rfl⟩ | ⟨empty, rfl⟩
  · obtain ⟨used, same, _⟩ := (replaceable_iff _ _).mp replaced
    refine ⟨List.forall_mem_append.mpr ⟨currentFront, List.forall_mem_cons.mpr ⟨?_, currentBack⟩⟩, ?_⟩
    · exact overwrite_data submission old same
    · rw [tally]
      simp [Packet.inserted, parts, overwrite_inserted submission old currentOld used]
  · refine ⟨List.forall_mem_append.mpr ⟨currentFront, List.forall_mem_cons.mpr ⟨fill_data submission old, currentBack⟩⟩, ?_⟩
    simp only [classic, if_true, tally]
    rw [← UInt8.ofNat_one, ← UInt8.ofNat_add]
    congr 1
    simp only [Packet.inserted, parts, List.flatMap_append, List.flatMap_cons, List.length_append,
      fill_inserted submission old currentOld empty]
    omega

theorem reset_tallied : Tallied (resetBuffer traits).packet := by
  have fresh : ∀ slot ∈ (resetBuffer traits).packet.motor, slot = emptySlot := fun slot member => List.eq_of_mem_replicate member
  refine ⟨fun slot member => by rw [fresh slot member]; rfl, ?_⟩
  have nothing : (resetBuffer traits).packet.inserted = [] := by
    apply List.flatMap_eq_nil_iff.mpr
    intro slot member
    rw [fresh slot member]
    rfl
  rw [nothing]
  rfl

def FrameTallied (configs : List SlaveConfig) (frame : OutputFrame) : Prop :=
  ∀ (slave : Nat) (buffer : OutputBuffer) (config : SlaveConfig) (traits : PacketTraits), frame[slave]? = some buffer →
    buffer.active = true → configs[slave]? = some config → config.format.traits = some traits → traits.hasMotorNum = true →
    Tallied buffer.packet

variable (configs : List SlaveConfig)

variable (slaveCount : Nat)

theorem fresh_tallied : FrameTallied configs (List.replicate slaveCount inactiveBuffer) := by
  intro slave buffer config traits located used
  obtain rfl := List.eq_of_mem_replicate (List.mem_of_getElem? located)
  cases used

theorem set_tallied (frame : OutputFrame) (target : Target) (traits : PacketTraits)
    (after : OutputBuffer) (configured : configs[target.slave]? = some target.config)
    (format : target.config.format.traits = some traits) (tallied : FrameTallied configs frame)
    (own : traits.hasMotorNum = true → Tallied after.packet) : FrameTallied configs (frame.set target.slave after) := by
  intro slave buffer config layout located used configuredHere formatted classic
  rw [List.getElem?_set] at located
  split at located
  · next same =>
      subst same
      obtain ⟨_, rfl⟩ : target.slave < frame.length ∧ after = buffer := by simpa using located
      obtain rfl : target.config = config := by simpa [configured] using configuredHere
      obtain rfl : traits = layout := by simpa [format] using formatted
      exact own classic
  · exact tallied slave buffer config layout located used configuredHere formatted classic

theorem try_insert_tallied (frame : OutputFrame) (target : Target) (submission : Submission)
    (configured : configs[target.slave]? = some target.config) (tallied : FrameTallied configs frame) :
    FrameTallied configs (tryInsert target submission frame).1 := by
  rw [tryInsert]
  cases format : target.config.format.traits with
  | none => exact tallied
  | some traits =>
    dsimp only
    rw [tryInsertMessageIntoFrame]
    cases located : frame[target.slave]? with
    | none => exact tallied
    | some buffer =>
      dsimp only
      split
      · exact tallied
      · -- The buffer that is written to is the one that was in use, or an empty one.
        have ready : traits.hasMotorNum = true → Tallied
            (if (!buffer.active || buffer.payloadSize ≠ target.config.messageSize) = true then resetBuffer traits else buffer).packet := by
          intro classic
          split
          · exact reset_tallied traits
          · next kept =>
              have used : buffer.active = true := by
                cases active : buffer.active with
                | false => simp [active] at kept
                | true => rfl
              exact tallied target.slave buffer target.config traits located used configured format classic
        split
        · exact set_tallied configs frame target traits _ configured format tallied ready
        · next packet inserted =>
            exact set_tallied configs frame target traits _ configured format tallied
              fun classic => insert_message_tallied traits _ packet target.bus submission classic (ready classic) inserted

theorem target_configured (encoded : Int32) (target : Target)
    (found : targetOf configs slaveCount encoded = some target) : configs[target.slave]? = some target.config := by
  simp only [targetOf] at found
  split at found
  · cases found
  · split at found
    · cases found
    · next config configured =>
        split at found
        · cases found
        · cases found
          exact configured

theorem pack_messages_tallied (submissions : List Submission) :
    ∀ frame ∈ packMessages configs slaveCount submissions, FrameTallied configs frame := by
  refine List.forall_mem_map.mpr ?_
  refine pack_messages_frames configs slaveCount (FrameTallied configs) (fresh_tallied configs slaveCount) ?_ ∅ [] submissions (by simp)
  intro encoded target submission frame found tallied
  exact try_insert_tallied configs frame target submission (target_configured configs slaveCount encoded target found) tallied

theorem inserted_long (slot : Slot) (current : slot.Current) (long : ∀ submission ∈ slot.origins, submission.message.data.len ≠ 0) :
    slot.inserted = slot.origins.head?.toList ∧ slot.inserted.length = if slot.data.len ≠ 0 then 1 else 0 := by
  cases held : slot.origins with
  | nil =>
    rw [Slot.Current, held] at current
    have empty : slot.data.len = 0 := by rw [current]; rfl
    simp [Slot.inserted, held, empty]
  | cons newest older =>
    rw [Slot.Current, held] at current
    rw [held, List.forall_mem_cons] at long
    have used : slot.data.len ≠ 0 := by rw [current]; exact long.1
    have none : older.filter (fun submission => submission.message.data.len = 0) = [] :=
      List.filter_eq_nil_iff.mpr fun submission member => by simpa using long.2 submission member
    simp [Slot.inserted, held, used, none]

theorem inserted_short (slot : Slot) (current : slot.Current) (submission : Submission) (held : submission ∈ slot.origins)
    (short : submission.message.data.len = 0) : (if slot.data.len ≠ 0 then 1 else 0) < slot.inserted.length := by
  cases origins : slot.origins with
  | nil =>
    rw [origins] at held
    cases held
  | cons newest older =>
    rw [Slot.Current, origins] at current
    have length : slot.data.len = newest.message.data.len := by rw [current]; rfl
    simp only [Slot.inserted, origins, List.length_cons, length]
    split
    · next used =>
        -- The message of no length is an older one, so it is counted besides the newest.
        have older_ : submission ∈ older := by
          rw [origins] at held
          rcases List.mem_cons.mp held with rfl | member
          · exact absurd short used
          · exact member
        have counted : submission ∈ older.filter fun submission => submission.message.data.len = 0 :=
          List.mem_filter.mpr ⟨older_, by simpa using short⟩
        have positive := List.length_pos_of_mem counted
        omega
    · omega

variable (slots : List Slot)

theorem inserted_counts (current : ∀ slot ∈ slots, slot.Current) :
    slots.countP (fun slot => slot.data.len ≠ 0) ≤ (slots.flatMap Slot.inserted).length ∧
      ((slots.flatMap Slot.inserted).length = slots.countP (fun slot => slot.data.len ≠ 0) ↔
        ∀ slot ∈ slots, ∀ submission ∈ slot.origins, submission.message.data.len ≠ 0) := by
  induction slots with
  | nil => simp
  | cons slot rest ih =>
    obtain ⟨own, others⟩ := List.forall_mem_cons.mp current
    obtain ⟨less, same⟩ := ih others
    rw [List.flatMap_cons, List.length_append, List.countP_cons, List.forall_mem_cons]
    simp only [decide_eq_true_eq]
    by_cases long : ∀ submission ∈ slot.origins, submission.message.data.len ≠ 0
    · have exact_ := (inserted_long slot own long).2
      refine ⟨by omega, ?_⟩
      rw [← same, exact_]
      constructor
      · intro total
        exact ⟨long, by omega⟩
      · intro both
        omega
    · have strict : (if slot.data.len ≠ 0 then 1 else 0) < slot.inserted.length := by
        simp only [not_forall, not_not] at long
        obtain ⟨submission, held, short⟩ := long
        exact inserted_short slot own submission held short
      refine ⟨by omega, ?_⟩
      constructor
      · intro total
        omega
      · intro both
        exact absurd both.1 long

theorem regions_join (buses motors : Nat) :
    (List.range buses).flatMap (fun bus => (slots.drop (bus * motors)).take motors) = slots.take (buses * motors) := by
  induction buses with
  | zero => simp
  | succ buses ih => rw [List.range_succ, List.flatMap_append, ih, List.flatMap_singleton, Nat.succ_mul, List.take_add]

theorem forward_cons (slot : Slot) (rest : List Slot) (slave bus : Nat) :
    forwardMessages (slot :: rest) slave bus =
      (if slot.data.len ≠ 0 then
        [⟨encodeBus slave bus, { slot.data with frameFlags := sanitizeCanFrameFlags slot.data.frameFlags }⟩] else []) ++
        forwardMessages rest slave bus := by
  by_cases empty : slot.data.len = 0
  · simp [forwardMessages, empty]
  · simp [forwardMessages, empty]

theorem forward_inserted (slave bus : Nat) (current : ∀ slot ∈ slots, slot.Current)
    (long : ∀ slot ∈ slots, ∀ submission ∈ slot.origins, submission.message.data.len ≠ 0)
    (own : ∀ slot ∈ slots, ∀ submission ∈ slot.origins, submission.message.busIdx = encodeBus slave bus) :
    forwardMessages slots slave bus = (slots.flatMap Slot.inserted).map onWire := by
  induction slots with
  | nil => rfl
  | cons slot rest ih =>
    obtain ⟨currentHere, currentRest⟩ := List.forall_mem_cons.mp current
    obtain ⟨longHere, longRest⟩ := List.forall_mem_cons.mp long
    obtain ⟨ownHere, ownRest⟩ := List.forall_mem_cons.mp own
    have behind := ih currentRest longRest ownRest
    obtain ⟨inserted, _⟩ := inserted_long slot currentHere longHere
    rw [List.flatMap_cons, List.map_append, ← behind, inserted]
    cases held : slot.origins with
    | nil =>
      rw [Slot.Current, held] at currentHere
      have empty : slot.data.len = 0 := by rw [currentHere]; rfl
      simp [forward_cons, empty]
    | cons newest older =>
      rw [Slot.Current, held] at currentHere
      have used : slot.data.len ≠ 0 := by
        rw [currentHere]
        exact longHere newest (by simp [held])
      have bus_ := ownHere newest (by simp [held])
      rw [forward_cons, if_pos used]
      simp [onWire, currentHere, sent, bus_]

theorem layout_small (config : SlaveConfig) (traits : PacketTraits) (format : config.format.traits = some traits) :
    traits.busCount * traits.motorsPerBus < 256 := by
  cases named : config.format with
  | none =>
    rw [named] at format
    cases format
  | _ =>
    rw [named] at format
    cases format
    decide

section Packed

variable (configs : List SlaveConfig) (slaveCount : Nat) (topology : Topology configs slaveCount) (messages : MotorMessages)
include topology

theorem packed_lane (encoded : Int32) (target : Target) (traits : PacketTraits)
    (found : targetOf configs slaveCount encoded = some target) (placed : Placed configs slaveCount target traits) :
    LaneOk traits.motorsPerBus
      { emptyLane with
        waiting := laneOf traits target encoded
          (packMessagesIntoQueue configs slaveCount ∅ [] (({} : Handle).number messages none))
        packed := ofBus encoded (({} : Handle).number messages none) } := by
  have ordered : Ordered (({} : Handle).number messages none) := by
    apply numbered_ordered
    simpa using number_origins {} messages none
  refine lane_ok traits.motorsPerBus placed.capacity _ ?_
  exact pack_messages_moves configs slaveCount topology encoded target traits found placed ∅ (({} : Handle).number messages none) []
    emptyLane (by simp [QueueOk]) rfl rfl
    (fun submission member => number_batch {} messages none submission (List.mem_of_mem_filter member))
    (by simpa [Ordered, emptyLane, ofBus] using List.Pairwise.filter _ ordered)

theorem packed_slots (encoded : Int32) (target : Target) (traits : PacketTraits)
    (found : targetOf configs slaveCount encoded = some target) (placed : Placed configs slaveCount target traits) :
    (∀ frame ∈ packMessages configs slaveCount (({} : Handle).number messages none), ∀ slot ∈ region traits target frame,
        ∀ submission ∈ slot.origins, submission.message ∈ messages ∧ submission.message.busIdx = encoded) ∧
      ∀ message ∈ messages, message.busIdx = encoded →
        ∃ frame ∈ packMessages configs slaveCount (({} : Handle).number messages none), ∃ slot ∈ region traits target frame,
          ∃ submission ∈ slot.origins, submission.message = message := by
  have formed := packed_lane configs slaveCount topology messages encoded target traits found placed
  have named : (({} : Handle).number messages none).map (fun submission => submission.message) = messages :=
    number_messages {} messages none
  refine ⟨?_, ?_⟩
  · refine List.forall_mem_map.mpr ?_
    intro queued member slot inside submission held
    have known := formed.known ⟨queued.busGenerations.find encoded, region traits target queued.frame⟩
      (.inr (.inr (List.mem_map_of_mem member))) submission ⟨slot, inside, held⟩
    obtain ⟨packed, own⟩ := List.mem_filter.mp known
    refine ⟨?_, by simpa using own⟩
    rw [← named]
    exact List.mem_map_of_mem packed
  · intro message member own
    rw [← named] at member
    obtain ⟨submission, packed, rfl⟩ := List.mem_map.mp member
    obtain ⟨segment, owned, slot, inside, held⟩ := formed.carried submission (List.mem_filter.mpr ⟨packed, by simpa using own⟩)
    rcases owned with handed | discarded | waiting
    · cases handed
    · cases discarded
    · obtain ⟨queued, waits, rfl⟩ := List.mem_map.mp waiting
      exact ⟨queued.frame, List.mem_map_of_mem waits, slot, inside, submission, held, rfl⟩

theorem packed_formed : ∀ frame ∈ packMessages configs slaveCount (({} : Handle).number messages none),
    FrameOk configs slaveCount frame :=
  List.forall_mem_map.mpr (pack_messages_formed configs slaveCount topology ∅ [] _ (by simp [QueueOk]))

theorem packet_slots (frame : OutputFrame) (member : frame ∈ packMessages configs slaveCount (({} : Handle).number messages none))
    (slave : Nat) (buffer : OutputBuffer) (config : SlaveConfig) (traits : PacketTraits) (located : frame[slave]? = some buffer)
    (used : buffer.active = true) (configured : configs[slave]? = some config) (format : config.format.traits = some traits)
    (bus : Nat) (bounded : bus < traits.busCount) :
    targetOf configs slaveCount (encodeBus slave bus) = some ⟨slave, bus, config⟩ ∧
      ∀ slot ∈ (buffer.packet.motor.drop (bus * traits.motorsPerBus)).take traits.motorsPerBus,
        ∀ submission ∈ slot.origins, submission.message ∈ messages ∧ submission.message.busIdx = encodeBus slave bus := by
  have formed := packed_formed configs slaveCount topology messages frame member
  have inside : slave < slaveCount := by
    rw [← formed.slaves]
    exact (List.getElem?_eq_some_iff.mp located).1
  have found := target_encode configs slaveCount topology slave bus config traits configured format inside
    (formed.narrow slave buffer located used) bounded
  obtain ⟨layout, placed, _⟩ := target_placed configs slaveCount topology _ _ found
  obtain rfl : traits = layout := Option.some.inj (format.symm.trans placed.format)
  have slots := (packed_slots configs slaveCount topology messages _ _ traits found placed).1 frame member
  simp only [region, located, bufferRegion, used, if_true] at slots
  exact ⟨found, slots⟩

end Packed

theorem motors_counted_iff (configs : List SlaveConfig) (slaveCount : Nat) (topology : Topology configs slaveCount)
    (messages : MotorMessages) :
    MotorsCounted configs slaveCount messages ↔
      ∀ message ∈ messages, ∀ target, targetOf configs slaveCount message.busIdx = some target →
        target.config.format.hasMotorNum = true → message.data.len ≠ 0 := by
  constructor
  · intro counted message member target found classic short
    obtain ⟨traits, placed, _⟩ := target_placed configs slaveCount topology _ target found
    obtain ⟨frame, packed, slot, inside, submission, held, rfl⟩ :=
      (packed_slots configs slaveCount topology messages _ target traits found placed).2 message member rfl
    simp only [region] at inside
    split at inside
    · cases inside
    · next buffer located =>
        rw [bufferRegion] at inside
        split at inside
        · next used =>
            have hasNum : traits.hasMotorNum = true := by simpa [SlaveFormat.hasMotorNum, placed.format] using classic
            have here := counted frame packed target.slave buffer target.config traits located used placed.configured placed.format hasNum
            have tallied := pack_messages_tallied configs slaveCount _ frame packed target.slave buffer target.config traits located used
              placed.configured placed.format hasNum
            have within := List.mem_of_mem_drop (List.mem_of_mem_take inside)
            have total := here.unwrapped.symm.trans here.counted
            exact (inserted_counts buffer.packet.motor tallied.current).2.mp total slot within submission held short
        · rw [List.eq_of_mem_replicate inside] at held
          cases held
  · intro long frame member slave buffer config traits located used configured format classic
    have formed := packed_formed configs slaveCount topology messages frame member
    obtain ⟨_, size⟩ := formed.sized slave buffer config traits located configured format used
    have tallied := pack_messages_tallied configs slaveCount _ frame member slave buffer config traits located used configured format
      classic
    have slots := packet_slots configs slaveCount topology messages frame member slave buffer config traits located used configured format
    have whole := regions_join buffer.packet.motor traits.busCount traits.motorsPerBus
    rw [← size, List.take_length] at whole
    have hasNum : config.format.hasMotorNum = true := by simp [SlaveFormat.hasMotorNum, format, classic]
    have longHeld : ∀ slot ∈ buffer.packet.motor, ∀ submission ∈ slot.origins, submission.message.data.len ≠ 0 := by
      intro slot inside submission held
      rw [← whole] at inside
      obtain ⟨bus, ranged, within⟩ := List.mem_flatMap.mp inside
      obtain ⟨found, ownSlots⟩ := slots bus (List.mem_range.mp ranged)
      obtain ⟨listed, own⟩ := ownSlots slot within submission held
      rw [← own] at found
      exact long submission.message listed _ found hasNum
    have total : buffer.packet.inserted.length = buffer.packet.motor.countP fun slot => slot.data.len ≠ 0 :=
      (inserted_counts buffer.packet.motor tallied.current).2.mpr longHeld
    have few : buffer.packet.inserted.length < 256 := by
      have small := layout_small config traits format
      have most : buffer.packet.motor.countP (fun slot => slot.data.len ≠ 0) ≤ buffer.packet.motor.length := List.countP_le_length
      omega
    have number : buffer.packet.motorNum.toNat = buffer.packet.inserted.length := by
      rw [tallied.tally]
      exact UInt8.toNat_ofNat_of_lt' few
    refine ⟨number.trans total, number, ?_⟩
    obtain ⟨size, rfl⟩ := topology.classified config (List.mem_of_getElem? configured)
    obtain ⟨buses, _⟩ := classify_bounds size traits format
    have parts : buffer.packet.inserted = (List.range traits.busCount).flatMap fun bus =>
        ((buffer.packet.motor.drop (bus * traits.motorsPerBus)).take traits.motorsPerBus).flatMap Slot.inserted := by
      rw [← List.flatMap_assoc, whole]
      rfl
    rw [decodePacketInputs, buses, Nat.min_self, parts, List.map_flatMap]
    refine List.flatMap_congr fun bus ranged => ?_
    have within (slot : Slot) (inside : slot ∈ (buffer.packet.motor.drop (bus * traits.motorsPerBus)).take traits.motorsPerBus) :
        slot ∈ buffer.packet.motor := List.mem_of_mem_drop (List.mem_of_mem_take inside)
    exact forward_inserted _ slave bus (fun slot inside => tallied.current slot (within slot inside))
      (fun slot inside => longHeld slot (within slot inside))
      fun slot inside submission held => ((slots bus (List.mem_range.mp ranged)).2 slot inside submission held).2

theorem motors_counted_two_bus : MotorsCounted twoBusSlave 1 [shortMessage 1 1, shortMessage 1 2, shortMessage 2 1] :=
  (motors_counted_iff twoBusSlave 1 two_bus_topology _).mpr fun message member _ _ _ =>
    (by decide : ∀ message ∈ [shortMessage 1 1, shortMessage 1 2, shortMessage 2 1], message.data.len ≠ 0) message member

/-- A message of no length raises the count of a packet whose slots all stay empty. -/
theorem motors_counted_short : ∃ configs slaveCount messages, Topology configs slaveCount ∧
    ¬ MotorsCounted configs slaveCount messages := by
  refine ⟨twoBusSlave, 1, [shortMessage 1 0], two_bus_topology, ?_⟩
  intro counted
  have packed : (packMessages twoBusSlave 1 (({} : Handle).number [shortMessage 1 0] none)).any (fun frame =>
      frame[0]?.any fun buffer => buffer.active && buffer.packet.motorNum ≠ 0 &&
        buffer.packet.motor.all fun slot => slot.data.len = 0) = true := by decide +kernel
  obtain ⟨frame, member, found⟩ := List.any_eq_true.mp packed
  obtain ⟨buffer, located, facts⟩ := (Option.any_eq_true _ _).mp found
  simp only [Bool.and_eq_true, List.all_eq_true, decide_eq_true_eq] at facts
  obtain ⟨⟨used, raised⟩, empty⟩ := facts
  have here := counted frame member 0 buffer (classifyOutputPdoSize 86) ⟨2, 3, true, 86⟩ located used rfl rfl rfl
  have none : buffer.packet.motor.countP (fun slot => slot.data.len ≠ 0) = 0 :=
    List.countP_eq_zero.mpr fun slot inside => by simpa using empty slot inside
  exact raised (UInt8.toNat_inj.mp (here.counted.trans none))

end EncosDriver.Ethercat
