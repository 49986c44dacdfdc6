import EncosDriver.Ethercat.Decode
import EncosDriver.Lib.Bytes
import Mathlib.Order.CompletePartialOrder

set_option autoImplicit false

namespace EncosDriver.Ethercat

open Lib Message

def writePackMsg (message : MotorPackMsg) : List UInt8 :=
  Codec.u32Le.write message.id ++ (Codec.u8.write message.frameFlags ++
    (Codec.u8.write message.len ++ Codec.writeAll Codec.u8 message.data.toList))

def readPackMsg (unread : List UInt8) : Except ReadFault (MotorPackMsg × List UInt8) := do
  let (id, unread) ← Codec.u32Le.read unread
  let (frameFlags, unread) ← Codec.u8.read unread
  let (len, unread) ← Codec.u8.read unread
  let (data, unread) ← Codec.readMany Codec.u8 8 unread
  return (⟨id, frameFlags, len, payload data⟩, unread)

theorem write_pack_msg_length (message : MotorPackMsg) : (writePackMsg message).length = 14 := by
  simp only [writePackMsg, List.length_append, Codec.writes, Codec.write_all_length, Vector.length_toList]
  rfl

theorem read_pack_msg_back (message : MotorPackMsg) (rest : List UInt8) :
    readPackMsg (writePackMsg message ++ rest) = .ok (message, rest) := by
  have bytes := Codec.read_many_back Codec.u8 message.data.toList rest
  rw [Vector.length_toList] at bytes
  simp only [readPackMsg, writePackMsg, List.append_assoc, Codec.back, ok_bind, bytes, payload_to_list]
  rfl

theorem read_pack_msg_forth (unread : List UInt8) (message : MotorPackMsg) (rest : List UInt8)
    (ran : readPackMsg unread = .ok (message, rest)) : unread = writePackMsg message ++ rest := by
  simp only [readPackMsg, bind_ok] at ran
  obtain ⟨⟨id, one⟩, readId, ⟨frameFlags, two⟩, readFlags, ⟨len, three⟩, readLen, ⟨bytes, four⟩, readData, made⟩ := ran
  cases made
  dsimp only at readId readFlags readLen readData
  obtain ⟨counted, dataBytes⟩ := Codec.read_many_forth Codec.u8 8 three four bytes readData
  rw [Codec.u32Le.forth _ _ _ readId, Codec.u8.forth _ _ _ readFlags, Codec.u8.forth _ _ _ readLen, dataBytes]
  simp only [writePackMsg, to_list_payload bytes counted, List.append_assoc]

theorem read_pack_msg_inside (unread : List UInt8) (long : 14 ≤ unread.length) :
    ∃ message rest, readPackMsg unread = .ok (message, rest) := by
  obtain ⟨id, one, readId⟩ := Codec.u32Le.inside unread (by simp only [Codec.u32_le_width]; omega)
  have afterId := Codec.read_length _ _ _ _ readId
  rw [Codec.u32_le_width] at afterId
  obtain ⟨frameFlags, two, readFlags⟩ := Codec.u8.inside one (by simp only [Codec.u8_width]; omega)
  have afterFlags := Codec.read_length _ _ _ _ readFlags
  rw [Codec.u8_width] at afterFlags
  obtain ⟨len, three, readLen⟩ := Codec.u8.inside two (by simp only [Codec.u8_width]; omega)
  have afterLen := Codec.read_length _ _ _ _ readLen
  rw [Codec.u8_width] at afterLen
  obtain ⟨bytes, rest, readData⟩ := Codec.read_many_inside Codec.u8 8 three (by simp only [Codec.u8_width]; omega)
  exact ⟨⟨id, frameFlags, len, payload bytes⟩, rest, by simp [readPackMsg, readId, readFlags, readLen, readData, pure, Except.pure]⟩

def packMsg : Codec MotorPackMsg where
  width := 14
  write := writePackMsg
  read := readPackMsg
  writes := write_pack_msg_length
  back := read_pack_msg_back
  forth := read_pack_msg_forth
  inside := read_pack_msg_inside

def headerSize (traits : PacketTraits) : Nat := if traits.hasMotorNum then 2 else 0

def header (traits : PacketTraits) (packet : Packet) : List UInt8 := if traits.hasMotorNum then [packet.motorNum, 0] else []

def segmentSize (traits : PacketTraits) : Nat := traits.motorsPerBus * packMsg.width

def segmentStart (traits : PacketTraits) (bus : Nat) : Nat := headerSize traits + bus * segmentSize traits

def packetBytes (traits : PacketTraits) (packet : Packet) : List UInt8 :=
  header traits packet ++ (Codec.writeAll packMsg (packet.motor.map fun slot => slot.data) ++
    List.replicate (traits.size - (headerSize traits + packet.motor.length * packMsg.width)) 0)

def packetOf (traits : PacketTraits) (input : List UInt8) : Option Packet :=
  match Codec.readMany packMsg (traits.busCount * traits.motorsPerBus) (input.drop (headerSize traits)) with
  | .ok (motors, _) => some ⟨if traits.hasMotorNum then input.headD 0 else 0, motors.map fun data => ⟨data, []⟩⟩
  | .error _ => none

def bufferBytes (config : SlaveConfig) (buffer : OutputBuffer) : List UInt8 :=
  match config.format.traits with
  | none => []
  | some traits => packetBytes traits buffer.packet

def frameBytes (configs : List SlaveConfig) (frame : OutputFrame) : List (Option (List UInt8)) :=
  frame.zipIdx.map fun entry => if entry.1.active then (configs[entry.2]?).map fun config => bufferBytes config entry.1 else none

def decodeSlaveBytes (configs : List SlaveConfig) (inputs : List (Option (List UInt8))) (slave : Nat) : MotorMessages :=
  match configs[slave]?, inputs[slave]? with
  | some config, some (some input) =>
    if config.busCount = 0 then []
    else
      match config.format.traits with
      | none => []
      | some traits =>
        match packetOf traits input with
        | none => []
        | some packet => decodePacketInputs traits packet config.busCount slave
  | _, _ => []

def decodeInputBytes (configs : List SlaveConfig) (inputs : List (Option (List UInt8))) (slaveCount : Nat) : MotorMessages :=
  (List.range slaveCount).flatMap (decodeSlaveBytes configs inputs)

variable (traits : PacketTraits) (packet : Packet)

theorem header_length : (header traits packet).length = headerSize traits := by
  cases classic : traits.hasMotorNum with
  | false => simp [header, headerSize, classic]
  | true => simp [header, headerSize, classic]

theorem packet_of_bytes
    (full : packet.motor.length = traits.busCount * traits.motorsPerBus) :
    ∃ motorNum, packetOf traits (packetBytes traits packet) = some ⟨motorNum, packet.motor.map fun slot => ⟨slot.data, []⟩⟩ := by
  have slots := Codec.read_many_back packMsg (packet.motor.map fun slot => slot.data)
    (List.replicate (traits.size - (headerSize traits + packet.motor.length * packMsg.width)) 0)
  rw [List.length_map, full] at slots
  rw [packetOf, packetBytes, List.drop_left' (header_length traits packet), full, slots]
  dsimp only
  rw [List.map_map]
  exact ⟨_, rfl⟩

theorem decode_contents (motorNum : UInt8) (busCount slave : Nat) :
    decodePacketInputs traits ⟨motorNum, packet.motor.map fun slot => ⟨slot.data, []⟩⟩ busCount slave =
      decodePacketInputs traits packet busCount slave := by
  simp only [decodePacketInputs, forwardMessages, ← List.map_drop, ← List.map_take, List.filter_map, List.map_map]
  rfl

theorem decode_frame_bytes (configs : List SlaveConfig) (slaveCount : Nat) (frame : OutputFrame)
    (formed : FrameOk configs slaveCount frame) :
    decodeInputBytes configs (frameBytes configs frame) slaveCount = decodeFrame configs slaveCount frame := by
  rw [decodeInputBytes, decodeFrame, decodeInputs]
  refine List.flatMap_congr fun slave _ => ?_
  cases configured : configs[slave]? with
  | none => simp only [decodeSlaveBytes, decodeSlave, configured]
  | some config =>
    cases located : frame[slave]? with
    | none => simp only [decodeSlaveBytes, decodeSlave, configured, frameBytes, List.getElem?_map, List.getElem?_zipIdx, located, Option.map_none]
    | some buffer =>
      have sentBytes : (frameBytes configs frame)[slave]? = some (if buffer.active then some (bufferBytes config buffer) else none) := by
        simp [frameBytes, located, configured]
      have packet : (frame.map fun buffer => if buffer.active then some buffer.packet else none)[slave]? =
          some (if buffer.active then some buffer.packet else none) := by simp [located]
      simp only [decodeSlaveBytes, decodeSlave, configured, sentBytes, packet]
      cases active : buffer.active with
      | false => simp
      | true =>
        cases format : config.format.traits with
        | none => simp [format]
        | some traits =>
          obtain ⟨_, full⟩ := formed.sized slave buffer config traits located configured format active
          obtain ⟨motorNum, read⟩ := packet_of_bytes traits buffer.packet full
          simp only [bufferBytes, format, if_true, read, decode_contents]

def segmentBytes (traits : PacketTraits) (target : Target) (frame : OutputFrame) : List UInt8 :=
  match frame[target.slave]? with
  | none => []
  | some buffer =>
    if buffer.active then ((packetBytes traits buffer.packet).drop (segmentStart traits target.bus)).take (segmentSize traits)
    else List.replicate (segmentSize traits) 0

def segment (target : Target) : Set (Nat × Nat) :=
  { place | ∃ traits, target.config.format.traits = some traits ∧ place.1 = target.slave ∧
    segmentStart traits target.bus ≤ place.2 ∧ place.2 < segmentStart traits target.bus + segmentSize traits }

theorem empty_slots_bytes (count : Nat) :
    Codec.writeAll packMsg (List.replicate count emptySlot.data) = List.replicate (count * packMsg.width) 0 := by
  induction count with
  | zero => simp [Codec.writeAll]
  | succ count ih =>
    have written : packMsg.write emptySlot.data = List.replicate packMsg.width 0 := by decide
    rw [List.replicate_succ, Codec.writeAll, List.flatMap_cons, written, ← Codec.writeAll, ih,
      List.replicate_append_replicate]
    congr 1
    ring

section Segments

variable (configs : List SlaveConfig) (slaveCount : Nat) (target : Target) (traits : PacketTraits)
  (placed : Placed configs slaveCount target traits)
include placed

theorem segment_bytes_region (frame : OutputFrame) (formed : FrameOk configs slaveCount frame) :
    segmentBytes traits target frame = Codec.writeAll packMsg ((region traits target frame).map fun slot => slot.data) := by
  cases located : frame[target.slave]? with
  | none => simp [segmentBytes, region, located, Codec.writeAll]
  | some buffer =>
    simp only [segmentBytes, region, located, bufferRegion]
    cases active : buffer.active with
    | false => simp [empty_slots_bytes, segmentSize]
    | true =>
      obtain ⟨_, full⟩ := formed.sized target.slave buffer target.config traits located placed.configured placed.format active
      have room : target.bus * traits.motorsPerBus + traits.motorsPerBus ≤ traits.busCount * traits.motorsPerBus := by
        rw [← Nat.succ_mul]
        exact Nat.mul_le_mul_right _ (Nat.succ_le_of_lt placed.bus)
      have part := Codec.write_all_part packMsg (buffer.packet.motor.map fun slot => slot.data)
        (List.replicate (traits.size - (headerSize traits + buffer.packet.motor.length * packMsg.width)) 0)
        (target.bus * traits.motorsPerBus) traits.motorsPerBus (by rw [List.length_map, full]; exact room)
      have start : segmentStart traits target.bus = headerSize traits + target.bus * traits.motorsPerBus * packMsg.width := by
        rw [segmentStart, segmentSize, Nat.mul_assoc]
      rw [if_pos rfl, if_pos rfl, start, packetBytes, ← List.drop_drop, List.drop_left' (header_length traits buffer.packet),
        segmentSize, part, ← List.map_drop, ← List.map_take]

end Segments

theorem layout_fits (config : SlaveConfig) (traits : PacketTraits) (format : config.format.traits = some traits) :
    segmentStart traits traits.busCount ≤ traits.size := by
  cases named : config.format with
  | none =>
    rw [named] at format
    cases format
  | _ =>
    rw [named] at format
    cases format
    decide

-- The segments of a frame: inside their slave's buffer, apart from each other,
-- and what is inserted for one bus changes the bytes of no other.
structure SegmentsApart (configs : List SlaveConfig) (slaveCount : Nat) : Prop where
  inside : ∀ encoded target, targetOf configs slaveCount encoded = some target →
    ∀ place ∈ segment target, place.2 < target.config.messageSize
  disjoint : ∀ encoded other target otherTarget, targetOf configs slaveCount encoded = some target →
    targetOf configs slaveCount other = some otherTarget → encoded ≠ other → Disjoint (segment target) (segment otherTarget)
  untouched : ∀ encoded other target otherTarget traits, targetOf configs slaveCount encoded = some target →
    targetOf configs slaveCount other = some otherTarget → encoded ≠ other → otherTarget.config.format.traits = some traits →
    ∀ submission frame, FrameOk configs slaveCount frame →
      segmentBytes traits otherTarget (tryInsert target submission frame).1 = segmentBytes traits otherTarget frame

theorem segments_apart (configs : List SlaveConfig) (slaveCount : Nat) (topology : Topology configs slaveCount) :
    SegmentsApart configs slaveCount := by
  refine ⟨?_, ?_, ?_⟩
  · rintro encoded target found ⟨slave, offset⟩ ⟨traits, format, _, _, below⟩
    obtain ⟨layout, placed, _⟩ := target_placed configs slaveCount topology encoded target found
    obtain rfl : traits = layout := Option.some.inj (format.symm.trans placed.format)
    have fits := layout_fits target.config traits format
    have room := Nat.mul_le_mul_right (segmentSize traits) (Nat.succ_le_of_lt placed.bus)
    rw [Nat.succ_mul] at room
    rw [placed.size]
    simp only [segmentStart] at below fits
    omega
  · intro encoded other target otherTarget found otherFound different
    obtain ⟨layout, placed, _⟩ := target_placed configs slaveCount topology encoded target found
    obtain ⟨otherLayout, otherPlaced, _⟩ := target_placed configs slaveCount topology other otherTarget otherFound
    have apart := targets_apart configs slaveCount topology other encoded otherTarget target different otherFound found
    refine Set.disjoint_left.mpr ?_
    rintro ⟨slave, offset⟩ ⟨traits, format, same, above, below⟩ ⟨otherTraits, otherFormat, otherSame, otherAbove, otherBelow⟩
    dsimp only at same above below otherSame otherAbove otherBelow
    have sameSlave : otherTarget.slave = target.slave := otherSame.symm.trans same
    have sameConfig : otherTarget.config = target.config := by
      have configured := otherPlaced.configured
      rw [sameSlave, placed.configured] at configured
      exact (Option.some.inj configured).symm
    obtain rfl : traits = otherTraits := by
      rw [sameConfig, format] at otherFormat
      exact Option.some.inj otherFormat
    -- Two buses of one slave: the lower one ends where the higher one starts, or before.
    rcases Nat.lt_or_gt_of_ne (apart.resolve_left fun apart => apart sameSlave) with less | more
    · have room := Nat.mul_le_mul_right (segmentSize traits) (Nat.succ_le_of_lt less)
      rw [Nat.succ_mul] at room
      simp only [segmentStart] at above otherBelow
      omega
    · have room := Nat.mul_le_mul_right (segmentSize traits) (Nat.succ_le_of_lt more)
      rw [Nat.succ_mul] at room
      simp only [segmentStart] at below otherAbove
      omega
  · intro encoded other target otherTarget traits found otherFound different format submission frame formed
    obtain ⟨layout, placed, _⟩ := target_placed configs slaveCount topology encoded target found
    obtain ⟨otherLayout, otherPlaced, _⟩ := target_placed configs slaveCount topology other otherTarget otherFound
    obtain rfl : traits = otherLayout := Option.some.inj (format.symm.trans otherPlaced.format)
    have apart := targets_apart configs slaveCount topology encoded other target otherTarget different.symm found otherFound
    obtain ⟨inserted, _, others⟩ := try_insert_region configs slaveCount target layout placed submission frame formed
    rw [segment_bytes_region configs slaveCount otherTarget traits otherPlaced _ inserted,
      segment_bytes_region configs slaveCount otherTarget traits otherPlaced frame formed, others otherTarget traits otherPlaced apart]

end EncosDriver.Ethercat
