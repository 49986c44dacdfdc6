import EncosDriver.Ethercat.Handle
import Mathlib.Tactic.IntervalCases

set_option autoImplicit false

namespace EncosDriver.Ethercat

open Lib Message

structure Placed (configs : List SlaveConfig) (slaveCount : Nat) (target : Target) (traits : PacketTraits) : Prop where
  inside : target.slave < slaveCount
  narrow : target.slave < 65535
  configured : configs[target.slave]? = some target.config
  format : target.config.format.traits = some traits
  size : target.config.messageSize = traits.size
  small : traits.size ≤ kEthercatMaxMessageSize
  bus : target.bus < traits.busCount
  capacity : 0 < traits.motorsPerBus

theorem classify_traits (outputPdoSize : Nat) (supported : (classifyOutputPdoSize outputPdoSize).busCount ≠ 0) :
    ∃ traits, (classifyOutputPdoSize outputPdoSize).format.traits = some traits ∧
      traits.busCount = (classifyOutputPdoSize outputPdoSize).busCount ∧
      traits.motorsPerBus = (classifyOutputPdoSize outputPdoSize).motorsPerBus ∧
      (classifyOutputPdoSize outputPdoSize).messageSize = traits.size ∧ traits.size ≤ kEthercatMaxMessageSize := by
  unfold classifyOutputPdoSize at supported ⊢
  split_ifs at supported ⊢ <;> first | exact ⟨_, rfl, rfl, rfl, rfl, by decide⟩ | exact absurd rfl supported

theorem target_placed (configs : List SlaveConfig) (slaveCount : Nat) (topology : Topology configs slaveCount) (encoded : Int32)
    (target : Target) (found : targetOf configs slaveCount encoded = some target) :
    ∃ traits, Placed configs slaveCount target traits ∧ target.slave = (slaveIdxOf encoded).toNat - 1 ∧
      (slaveIdxOf encoded).toNat ≠ 0 ∧ target.bus = (busIdxOf encoded).toNat := by
  simp only [targetOf] at found
  split at found
  · cases found
  · next inside =>
      split at found
      · cases found
      · next config configured =>
          split at found
          · cases found
          · next supported =>
              cases found
              obtain ⟨size, rfl⟩ := topology.classified config (List.mem_of_getElem? configured)
              obtain ⟨traits, format, buses, motors, size, small⟩ := classify_traits size (by tauto)
              have numbered : (slaveIdxOf encoded).toNat ≠ 0 := by
                intro zero
                exact inside (.inl (UInt16.toNat_inj.mp zero))
              have short := (slaveIdxOf encoded).toNat_lt
              refine ⟨traits, ⟨?_, ?_, configured, format, size, small, ?_, ?_⟩, rfl, numbered, rfl⟩
              · dsimp only
                omega
              · dsimp only
                omega
              · dsimp only
                omega
              · omega

variable (encoded : Int32)

theorem slave_idx_to_nat : (slaveIdxOf encoded).toNat = (encoded.toBitVec.toNat / 65536 + 1) % 65536 := by
  have shifted : (encoded >>> 16).toBitVec = encoded.toBitVec.sshiftRight 16 := by
    rw [Int32.toBitVec_shiftRight]
    rfl
  have bound := encoded.toBitVec.isLt
  show ((encoded >>> 16).toBitVec + 1).toNat % 65536 = _
  rw [shifted, BitVec.toNat_add, BitVec.toNat_sshiftRight]
  simp only [Nat.shiftRight_eq_div_pow]
  split
  · simp
    omega
  · simp

theorem bus_idx_to_nat : (busIdxOf encoded).toNat = encoded.toBitVec.toNat % 65536 := by
  have mask : (65535 : Int32).toBitVec.toNat = 2 ^ 16 - 1 := rfl
  show (encoded &&& 65535).toBitVec.toNat % 65536 = _
  rw [Int32.toBitVec_and, BitVec.toNat_and, mask, Nat.and_two_pow_sub_one_eq_mod]
  omega

theorem encode_to_nat (slave bus : Nat) (narrow : slave < 65535) (small : bus < 65536) :
    (encodeBus slave bus).toBitVec.toNat = slave * 65536 + bus := by
  have mask : (0xFFFF : UInt32).toNat = 2 ^ 16 - 1 := rfl
  have distance : (16 : UInt32).toNat % 32 = 16 := rfl
  show ((UInt32.ofNat slave <<< 16) ||| (UInt32.ofNat bus &&& 0xFFFF)).toNat = _
  rw [UInt32.toNat_or, UInt32.toNat_shiftLeft, UInt32.toNat_and, mask, distance, Nat.and_two_pow_sub_one_eq_mod]
  simp only [UInt32.toNat_ofNat']
  have shifted : (slave % 2 ^ 32) <<< 16 % 2 ^ 32 = slave <<< 16 := by
    rw [Nat.mod_eq_of_lt (show slave < 2 ^ 32 by omega), Nat.shiftLeft_eq, Nat.mod_eq_of_lt (by omega)]
  have low : bus % 2 ^ 32 % 2 ^ 16 = bus := by omega
  rw [shifted, low, ← Nat.shiftLeft_add_eq_or_of_lt (by omega), Nat.shiftLeft_eq]

theorem target_bus (slave bus : Nat) (slaveAt : slave = (slaveIdxOf encoded).toNat - 1)
    (numbered : (slaveIdxOf encoded).toNat ≠ 0) (busAt : bus = (busIdxOf encoded).toNat) : encodeBus slave bus = encoded := by
  rw [slave_idx_to_nat] at slaveAt numbered
  rw [bus_idx_to_nat] at busAt
  have bound := encoded.toBitVec.isLt
  apply Int32.toBitVec_inj.mp
  apply BitVec.eq_of_toNat_eq
  rw [encode_to_nat slave bus (by omega) (by omega)]
  omega

def bufferRegion (traits : PacketTraits) (bus : Nat) (buffer : OutputBuffer) : List Slot :=
  if buffer.active then (buffer.packet.motor.drop (bus * traits.motorsPerBus)).take traits.motorsPerBus
  else List.replicate traits.motorsPerBus emptySlot

def region (traits : PacketTraits) (target : Target) (frame : OutputFrame) : List Slot :=
  match frame[target.slave]? with
  | none => []
  | some buffer => bufferRegion traits target.bus buffer

structure FrameOk (configs : List SlaveConfig) (slaveCount : Nat) (frame : OutputFrame) : Prop where
  slaves : frame.length = slaveCount
  sized : ∀ (slave : Nat) (buffer : OutputBuffer) (config : SlaveConfig) (traits : PacketTraits), frame[slave]? = some buffer →
    configs[slave]? = some config → config.format.traits = some traits → buffer.active = true →
    buffer.payloadSize = traits.size ∧ buffer.packet.motor.length = traits.busCount * traits.motorsPerBus
  narrow : ∀ (slave : Nat) (buffer : OutputBuffer), frame[slave]? = some buffer → buffer.active = true → slave < 65535

def insertSlots (submission : Submission) (slots : List Slot) : Option (List Slot) :=
  match
    if submission.message.data.id ≠ kSystemCommandId then slots.findIdx? (replaceable submission.message.data.id) else none with
  | some slot => some (slots.modify slot (overwriteSlot submission))
  | none => (slots.findIdx? fun slot => slot.data.len = 0).map fun slot => slots.modify slot (fillSlot submission)

def Apart (target other : Target) : Prop := target.slave ≠ other.slave ∨ target.bus ≠ other.bus

theorem slot_where_some (packet : Packet) (start count slot : Nat) (wanted : Slot → Bool)
    (found : packet.slotWhere start count wanted = some slot) :
    ∃ index, index < count ∧ slot = start + index ∧ ((packet.motor.drop start).take count).findIdx? wanted = some index := by
  obtain ⟨index, located, rfl⟩ := Option.map_eq_some_iff.mp found
  obtain ⟨inside, _⟩ := List.findIdx?_eq_some_iff_getElem.mp located
  simp only [List.length_take] at inside
  exact ⟨index, by omega, rfl, located⟩

theorem slot_where_none (packet : Packet) (start count : Nat) (wanted : Slot → Bool)
    (missing : packet.slotWhere start count wanted = none) : ((packet.motor.drop start).take count).findIdx? wanted = none :=
  Option.map_eq_none_iff.mp missing

theorem modify_inside (slots : List Slot) (start count index : Nat) (change : Slot → Slot) (inside : index < count) :
    ((slots.modify (start + index) change).drop start).take count = ((slots.drop start).take count).modify index change := by
  apply List.ext_getElem?
  intro at_
  simp only [List.getElem?_take, List.getElem?_drop, List.getElem?_modify]
  by_cases same : index = at_
  · subst same
    simp [inside]
  · simp [same]

theorem modify_outside (slots : List Slot) (start count index : Nat) (change : Slot → Slot)
    (outside : index < start ∨ start + count ≤ index) :
    ((slots.modify index change).drop start).take count = (slots.drop start).take count := by
  apply List.ext_getElem?
  intro at_
  simp only [List.getElem?_take, List.getElem?_drop, List.getElem?_modify]
  split
  · have apart : index ≠ start + at_ := by omega
    simp [apart]
  · rfl

theorem modify_other_bus (motors bus other index : Nat) (inside : index < motors) (different : other ≠ bus) :
    bus * motors + index < other * motors ∨ other * motors + motors ≤ bus * motors + index := by
  rcases Nat.lt_or_gt_of_ne different with less | more
  · have room := Nat.mul_le_mul_right motors (Nat.succ_le_of_lt less)
    rw [Nat.succ_mul] at room
    omega
  · have room := Nat.mul_le_mul_right motors (Nat.succ_le_of_lt more)
    rw [Nat.succ_mul] at room
    omega

variable (traits : PacketTraits)

theorem insert_message_region (packet : Packet) (bus : Nat) (submission : Submission)
    (inside : bus < traits.busCount) :
    match insertMessageIntoPacket traits packet bus submission with
    | none => insertSlots submission ((packet.motor.drop (bus * traits.motorsPerBus)).take traits.motorsPerBus) = none
    | some after =>
      insertSlots submission ((packet.motor.drop (bus * traits.motorsPerBus)).take traits.motorsPerBus) =
          some ((after.motor.drop (bus * traits.motorsPerBus)).take traits.motorsPerBus) ∧
        after.motor.length = packet.motor.length ∧
        ∀ other, other ≠ bus → (after.motor.drop (other * traits.motorsPerBus)).take traits.motorsPerBus =
          (packet.motor.drop (other * traits.motorsPerBus)).take traits.motorsPerBus := by
  simp only [insertMessageIntoPacket, if_neg (Nat.not_le.mpr inside)]
  have changed (index : Nat) (change : Slot → Slot) (bounded : index < traits.motorsPerBus) (other : Nat) (different : other ≠ bus) :
      ((packet.motor.modify (bus * traits.motorsPerBus + index) change).drop (other * traits.motorsPerBus)).take traits.motorsPerBus =
        (packet.motor.drop (other * traits.motorsPerBus)).take traits.motorsPerBus :=
    modify_outside _ _ _ _ _ (modify_other_bus traits.motorsPerBus bus other index bounded different)
  generalize wantedEq : (if submission.message.data.id ≠ kSystemCommandId then
    packet.slotWhere (bus * traits.motorsPerBus) traits.motorsPerBus (replaceable submission.message.data.id) else none) = wanted
  cases wanted with
  | some slot =>
    by_cases system : submission.message.data.id = kSystemCommandId
    · simp [system] at wantedEq
    · rw [if_pos system] at wantedEq
      obtain ⟨index, bounded, rfl, located⟩ := slot_where_some _ _ _ _ _ wantedEq
      refine ⟨?_, List.length_modify _ _ _, fun other different => changed index _ bounded other different⟩
      simp only [insertSlots, if_pos system, located, modify_inside _ _ _ _ _ bounded]
  | none =>
    have passed : (if submission.message.data.id ≠ kSystemCommandId then
        ((packet.motor.drop (bus * traits.motorsPerBus)).take traits.motorsPerBus).findIdx?
          (replaceable submission.message.data.id) else none) = none := by
      by_cases system : submission.message.data.id = kSystemCommandId
      · simp [system]
      · rw [if_pos system] at wantedEq ⊢
        exact slot_where_none _ _ _ _ wantedEq
    cases free : packet.slotWhere (bus * traits.motorsPerBus) traits.motorsPerBus fun slot => slot.data.len = 0 with
    | none =>
      simp only [insertSlots, passed, slot_where_none _ _ _ _ free, Option.map_none]
    | some slot =>
      obtain ⟨index, bounded, rfl, located⟩ := slot_where_some _ _ _ _ _ free
      refine ⟨?_, List.length_modify _ _ _, fun other different => changed index _ bounded other different⟩
      simp only [insertSlots, passed, located, Option.map_some, modify_inside _ _ _ _ _ bounded]

def readyBuffer (traits : PacketTraits) (buffer : OutputBuffer) (messageSize : Nat) : OutputBuffer :=
  if !buffer.active || buffer.payloadSize ≠ messageSize then resetBuffer traits else buffer

theorem reset_region (bus : Nat) (inside : bus < traits.busCount) :
    bufferRegion traits bus (resetBuffer traits) = List.replicate traits.motorsPerBus emptySlot := by
  have room : bus * traits.motorsPerBus + traits.motorsPerBus ≤ traits.busCount * traits.motorsPerBus := by
    rw [← Nat.succ_mul]
    exact Nat.mul_le_mul_right _ (Nat.succ_le_of_lt inside)
  simp only [bufferRegion, resetBuffer, ↓reduceIte, List.drop_replicate, List.take_replicate]
  congr 1
  omega

theorem ready_region (buffer : OutputBuffer)
    (sized : buffer.active = true →
      buffer.payloadSize = traits.size ∧ buffer.packet.motor.length = traits.busCount * traits.motorsPerBus) :
    (readyBuffer traits buffer traits.size).active = true ∧ (readyBuffer traits buffer traits.size).payloadSize = traits.size ∧
      (readyBuffer traits buffer traits.size).packet.motor.length = traits.busCount * traits.motorsPerBus ∧
      ∀ bus, bus < traits.busCount →
        bufferRegion traits bus (readyBuffer traits buffer traits.size) = bufferRegion traits bus buffer := by
  by_cases used : buffer.active = true
  · obtain ⟨size, motors⟩ := sized used
    have kept : readyBuffer traits buffer traits.size = buffer := by simp [readyBuffer, used, size]
    rw [kept]
    exact ⟨used, size, motors, fun _ _ => rfl⟩
  · have reset : readyBuffer traits buffer traits.size = resetBuffer traits := by simp [readyBuffer, used]
    rw [reset]
    refine ⟨rfl, rfl, by simp [resetBuffer], ?_⟩
    intro bus inside
    rw [reset_region traits bus inside]
    simp [bufferRegion, used]

section Insertion

variable (configs : List SlaveConfig) (slaveCount : Nat) (target : Target) (traits : PacketTraits)
  (placed : Placed configs slaveCount target traits)
include placed

theorem set_buffer (frame : OutputFrame) (buffer after : OutputBuffer) (formed : FrameOk configs slaveCount frame)
    (found : frame[target.slave]? = some buffer) (size : after.payloadSize = traits.size)
    (motors : after.packet.motor.length = traits.busCount * traits.motorsPerBus)
    (others : ∀ bus, bus < traits.busCount → bus ≠ target.bus → bufferRegion traits bus after = bufferRegion traits bus buffer) :
    FrameOk configs slaveCount (frame.set target.slave after) ∧
      region traits target (frame.set target.slave after) = bufferRegion traits target.bus after ∧
      ∀ other otherTraits, Placed configs slaveCount other otherTraits → Apart target other →
        region otherTraits other (frame.set target.slave after) = region otherTraits other frame := by
  have inside : target.slave < frame.length := by
    rw [formed.slaves]
    exact placed.inside
  refine ⟨⟨by rw [List.length_set, formed.slaves], ?_, ?_⟩, by simp [region, inside], ?_⟩
  · intro slave read config format located configured formatted used
    rw [List.getElem?_set] at located
    split at located
    · next same =>
        subst same
        obtain rfl : after = read := by simpa [inside] using located
        obtain rfl : target.config = config := by simpa [placed.configured] using configured
        obtain rfl : traits = format := by simpa [placed.format] using formatted
        exact ⟨size, motors⟩
    · exact formed.sized slave read config format located configured formatted used
  · intro slave read located used
    rw [List.getElem?_set] at located
    split at located
    · next same => exact same ▸ placed.narrow
    · exact formed.narrow slave read located used
  · intro other otherTraits otherPlaced apart
    by_cases same : target.slave = other.slave
    · have sameConfig : target.config = other.config := by
        have configured := otherPlaced.configured
        rw [← same, placed.configured] at configured
        exact Option.some.inj configured
      obtain rfl : traits = otherTraits := by
        have formatted := otherPlaced.format
        rw [← sameConfig, placed.format] at formatted
        exact Option.some.inj formatted
      have different : other.bus ≠ target.bus := fun sameBus => apart.elim (· same) (· sameBus.symm)
      simp only [region, ← same, List.getElem?_set_self inside, found]
      exact others other.bus otherPlaced.bus different
    · simp only [region, List.getElem?_set_ne same]

theorem try_insert_region (submission : Submission) (frame : OutputFrame) (formed : FrameOk configs slaveCount frame) :
    FrameOk configs slaveCount (tryInsert target submission frame).1 ∧
      (match insertSlots submission (region traits target frame) with
        | none => (tryInsert target submission frame).2 = false ∧
            region traits target (tryInsert target submission frame).1 = region traits target frame
        | some slots => (tryInsert target submission frame).2 = true ∧
            region traits target (tryInsert target submission frame).1 = slots) ∧
      ∀ other otherTraits, Placed configs slaveCount other otherTraits → Apart target other →
        region otherTraits other (tryInsert target submission frame).1 = region otherTraits other frame := by
  have inside : target.slave < frame.length := by
    rw [formed.slaves]
    exact placed.inside
  have found := List.getElem?_eq_getElem inside
  generalize frame[target.slave] = buffer at found
  have before : region traits target frame = bufferRegion traits target.bus buffer := by simp only [region, found]
  obtain ⟨used, size, motors, same⟩ := ready_region traits buffer
    fun used => formed.sized target.slave buffer target.config traits found placed.configured placed.format used
  have fits : ¬(traits.size ≠ traits.size ∨ traits.size > kEthercatMaxMessageSize) := by
    have small := placed.small
    omega
  have unfolded : tryInsert target submission frame =
      match insertMessageIntoPacket traits (readyBuffer traits buffer traits.size).packet target.bus submission with
      | none => (frame.set target.slave (readyBuffer traits buffer traits.size), false)
      | some packet => (frame.set target.slave { readyBuffer traits buffer traits.size with packet := packet }, true) := by
    simp only [tryInsert, placed.format, tryInsertMessageIntoFrame, found, placed.size, if_neg fits]
    rfl
  have slots : (((readyBuffer traits buffer traits.size).packet.motor.drop (target.bus * traits.motorsPerBus)).take
      traits.motorsPerBus) = region traits target frame := by
    rw [before, ← same target.bus placed.bus]
    simp only [bufferRegion, used, ↓reduceIte]
  have insertion := insert_message_region traits (readyBuffer traits buffer traits.size).packet target.bus submission placed.bus
  rw [slots] at insertion
  rw [unfolded]
  cases inserted : insertMessageIntoPacket traits (readyBuffer traits buffer traits.size).packet target.bus submission with
  | none =>
    rw [inserted] at insertion
    obtain ⟨framed, own, others⟩ := set_buffer configs slaveCount target traits placed frame buffer
      (readyBuffer traits buffer traits.size) formed found size motors fun bus bounded _ => same bus bounded
    refine ⟨framed, ?_, others⟩
    rw [insertion]
    exact ⟨rfl, by rw [own, before, same target.bus placed.bus]⟩
  | some packet =>
    rw [inserted] at insertion
    obtain ⟨taken, length, kept⟩ := insertion
    obtain ⟨framed, own, others⟩ := set_buffer configs slaveCount target traits placed frame buffer
      { readyBuffer traits buffer traits.size with packet := packet } formed found size (length.trans motors) (by
        intro bus bounded different
        rw [← same bus bounded]
        simp only [bufferRegion, used, ↓reduceIte, kept bus different])
    refine ⟨framed, ?_, others⟩
    rw [taken]
    exact ⟨rfl, by rw [own]; simp only [bufferRegion, used, ↓reduceIte]⟩

end Insertion

theorem fresh_frame (configs : List SlaveConfig) (slaveCount : Nat) :
    FrameOk configs slaveCount (List.replicate slaveCount inactiveBuffer) ∧
      ∀ target traits, Placed configs slaveCount target traits →
        region traits target (List.replicate slaveCount inactiveBuffer) = List.replicate traits.motorsPerBus emptySlot := by
  refine ⟨⟨List.length_replicate, ?_, ?_⟩, ?_⟩
  · intro slave buffer config traits found _ _ used
    obtain rfl := List.eq_of_mem_replicate (List.mem_of_getElem? found)
    cases used
  · intro slave buffer found used
    obtain rfl := List.eq_of_mem_replicate (List.mem_of_getElem? found)
    cases used
  · intro target traits placed
    simp [region, placed.inside, bufferRegion, inactiveBuffer]

end EncosDriver.Ethercat
