import EncosDriver.Ethercat.Refine

set_option autoImplicit false

namespace EncosDriver.Ethercat

open Lib Message

theorem classify_bounds (outputPdoSize : Nat) (traits : PacketTraits)
    (format : (classifyOutputPdoSize outputPdoSize).format.traits = some traits) :
    (classifyOutputPdoSize outputPdoSize).busCount = traits.busCount ∧ traits.busCount ≤ 8 ∧ traits.busCount ≠ 0 ∧
      (classifyOutputPdoSize outputPdoSize).motorsPerBus ≠ 0 := by
  unfold classifyOutputPdoSize at format ⊢
  split_ifs at format ⊢ <;> first | cases format; exact ⟨rfl, by decide, by decide, by decide⟩ | cases format

section Decoding

variable (configs : List SlaveConfig) (slaveCount : Nat) (topology : Topology configs slaveCount)
include topology

theorem target_encode (slave bus : Nat) (config : SlaveConfig) (traits : PacketTraits) (configured : configs[slave]? = some config)
    (format : config.format.traits = some traits) (inside : slave < slaveCount) (narrow : slave < 65535)
    (bounded : bus < traits.busCount) : targetOf configs slaveCount (encodeBus slave bus) = some ⟨slave, bus, config⟩ := by
  obtain ⟨size, rfl⟩ := topology.classified config (List.mem_of_getElem? configured)
  obtain ⟨buses, small, used, motors⟩ := classify_bounds size traits format
  have encoded := encode_to_nat slave bus narrow (by omega)
  have slaveAt : (slaveIdxOf (encodeBus slave bus)).toNat = slave + 1 := by
    rw [slave_idx_to_nat, encoded]
    omega
  have busAt : (busIdxOf (encodeBus slave bus)).toNat = bus := by
    rw [bus_idx_to_nat, encoded]
    omega
  have numbered : ¬(slaveIdxOf (encodeBus slave bus) = 0 ∨ (slaveIdxOf (encodeBus slave bus)).toNat > slaveCount) := by
    rintro (zero | beyond)
    · rw [zero] at slaveAt
      simp at slaveAt
    · omega
  have supported : ¬((classifyOutputPdoSize size).busCount = 0 ∨
      (busIdxOf (encodeBus slave bus)).toNat ≥ (classifyOutputPdoSize size).busCount ∨
      (classifyOutputPdoSize size).motorsPerBus = 0) := by
    rw [buses, busAt]
    omega
  rw [slaveAt] at numbered
  rw [busAt] at supported
  simp only [targetOf, slaveAt, if_neg numbered, Nat.add_sub_cancel, configured, busAt, if_neg supported]

omit topology in
theorem forward_bus (motors : List Slot) (slave bus : Nat) (message : MotorMessage) (member : message ∈ forwardMessages motors slave bus) :
    message.busIdx = encodeBus slave bus := by
  obtain ⟨slot, _, rfl⟩ := List.mem_map.mp member
  rfl

def inputsOf (frame : OutputFrame) : List (Option Packet) := frame.map fun buffer => if buffer.active then some buffer.packet else none

theorem decode_slave_target (frame : OutputFrame) (formed : FrameOk configs slaveCount frame) (slave : Nat) (inside : slave < slaveCount)
    (message : MotorMessage) (member : message ∈ decodeSlave configs (inputsOf frame) slave) :
    ∃ target, targetOf configs slaveCount message.busIdx = some target ∧ target.slave = slave := by
  simp only [decodeSlave] at member
  split at member
  · next config input configured located =>
      split at member
      · cases member
      · split at member
        · cases member
        · next traits format =>
            obtain ⟨bus, busInside, forwarded⟩ := List.mem_flatMap.mp member
            have bounded : bus < traits.busCount := by
              have both := List.mem_range.mp busInside
              omega
            have narrow : slave < 65535 := by
              simp only [inputsOf, List.getElem?_map, Option.map_eq_some_iff] at located
              obtain ⟨buffer, bufferAt, read⟩ := located
              refine formed.narrow slave buffer bufferAt ?_
              by_contra unused
              simp [unused] at read
            refine ⟨⟨slave, bus, config⟩, ?_, rfl⟩
            rw [forward_bus _ _ _ message forwarded]
            exact target_encode configs slaveCount topology slave bus config traits configured format inside narrow bounded
  · cases member

theorem decode_none (frame : OutputFrame) (formed : FrameOk configs slaveCount frame) (encoded : Int32)
    (missing : targetOf configs slaveCount encoded = none) :
    ∀ message ∈ decodeFrame configs slaveCount frame, message.busIdx ≠ encoded := by
  intro message member same
  obtain ⟨slave, inside, decoded⟩ := List.mem_flatMap.mp member
  obtain ⟨target, found, _⟩ := decode_slave_target configs slaveCount topology frame formed slave (List.mem_range.mp inside) message decoded
  rw [same, missing] at found
  cases found

omit topology in
theorem flat_map_single {Value : Type} (count index : Nat) (inside : index < count) (values : Nat → List Value)
    (others : ∀ other, other < count → other ≠ index → values other = []) : (List.range count).flatMap values = values index := by
  have split : List.range count = List.range index ++ index :: (List.range (count - index - 1)).map (index + 1 + ·) := by
    have first : count = index + (1 + (count - index - 1)) := by omega
    conv_lhs => rw [first, List.range_add, List.range_add]
    simp [Nat.add_assoc]
  have front : (List.range index).flatMap values = [] := by
    apply List.flatMap_eq_nil_iff.mpr
    intro other member
    have less := List.mem_range.mp member
    exact others other (by omega) (by omega)
  have back : ((List.range (count - index - 1)).map (index + 1 + ·)).flatMap values = [] := by
    apply List.flatMap_eq_nil_iff.mpr
    intro other member
    obtain ⟨step, bounded, rfl⟩ := List.mem_map.mp member
    have less := List.mem_range.mp bounded
    exact others _ (by omega) (by omega)
  rw [split, List.flatMap_append, List.flatMap_cons, front, back]
  simp

theorem decode_own (frame : OutputFrame) (formed : FrameOk configs slaveCount frame) (encoded : Int32) (target : Target)
    (traits : PacketTraits) (found : targetOf configs slaveCount encoded = some target)
    (placed : Placed configs slaveCount target traits) :
    (decodeFrame configs slaveCount frame).filter (fun message => message.busIdx = encoded) =
      forwardMessages (region traits target frame) target.slave target.bus := by
  obtain ⟨_, _, slaveAt, numbered, busAt⟩ := target_placed configs slaveCount topology encoded target found
  have back := target_bus encoded target.slave target.bus slaveAt numbered busAt
  have used : target.slave < frame.length := by
    rw [formed.slaves]
    exact placed.inside
  have located := List.getElem?_eq_getElem used
  generalize frame[target.slave] = buffer at located
  obtain ⟨size, classified⟩ := topology.classified target.config (List.mem_of_getElem? placed.configured)
  have format := placed.format
  rw [classified] at format
  obtain ⟨buses, small, some_, _⟩ := classify_bounds size traits format
  rw [← classified] at buses
  -- Only the target's slave decodes to messages of the bus.
  have own : (decodeFrame configs slaveCount frame).filter (fun message => message.busIdx = encoded) =
      (decodeSlave configs (inputsOf frame) target.slave).filter fun message => message.busIdx = encoded := by
    rw [decodeFrame, decodeInputs, List.filter_flatMap]
    refine flat_map_single slaveCount target.slave placed.inside _ ?_
    intro other inside different
    apply List.filter_eq_nil_iff.mpr
    intro message member
    obtain ⟨otherTarget, otherFound, slave⟩ := decode_slave_target configs slaveCount topology frame formed other inside message member
    intro same
    have sameBus : message.busIdx = encoded := by simpa using same
    rw [sameBus, found] at otherFound
    exact different (slave ▸ congrArg Target.slave (Option.some.inj otherFound).symm)
  rw [own]
  cases active : buffer.active with
  | false =>
    have unused : (inputsOf frame)[target.slave]? = some none := by simp [inputsOf, located, active]
    simp [decodeSlave, placed.configured, unused, region, located, bufferRegion, active, forwardMessages, emptySlot]
  | true =>
    have read : (inputsOf frame)[target.slave]? = some (some buffer.packet) := by simp [inputsOf, located, active]
    have supported : target.config.busCount ≠ 0 := by omega
    simp only [decodeSlave, placed.configured, read, if_neg supported, placed.format, decodePacketInputs, List.filter_flatMap]
    have bounded : target.bus < min target.config.busCount traits.busCount := by
      have bus := placed.bus
      omega
    rw [flat_map_single _ target.bus bounded]
    · have slots : region traits target frame =
          (buffer.packet.motor.drop (target.bus * traits.motorsPerBus)).take traits.motorsPerBus := by
        simp only [region, located, bufferRegion, active, ↓reduceIte]
      rw [slots]
      apply List.filter_eq_self.mpr
      intro message member
      simpa [forward_bus _ _ _ message member] using back
    · intro other inside different
      apply List.filter_eq_nil_iff.mpr
      intro message member
      have otherBus := forward_bus _ _ _ message member
      have encodes := target_encode configs slaveCount topology target.slave other target.config traits placed.configured placed.format
        placed.inside placed.narrow (by omega)
      intro same
      have sameBus : message.busIdx = encoded := by simpa using same
      rw [← otherBus, sameBus, found] at encodes
      exact different (congrArg Target.bus (Option.some.inj encodes)).symm

end Decoding

end EncosDriver.Ethercat
