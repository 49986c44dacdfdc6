import EncosDriver.Fake.Protocol

set_option autoImplicit false

namespace EncosDriver.Fake

open Message Motor MotorImpl

def Fits : MotorCommand → Prop
  | .pvtControl kpInt kdInt _ spdInt torInt =>
    kpInt.toNat < 2 ^ 12 ∧ kdInt.toNat < 2 ^ 9 ∧ spdInt.toNat < 2 ^ 12 ∧ torInt.toNat < 2 ^ 12
  | .posControl _ spdInt curInt feedback => spdInt.toNat < 2 ^ 15 ∧ curInt.toNat < 2 ^ 12 ∧ feedback ≤ 3
  | .spdControl _ _ feedback => feedback ≤ 3
  | .curControl _ feedback => feedback ≤ 3
  | .torControl _ feedback => feedback ≤ 3
  | .stop _ _ feedback => feedback ≤ 3
  | _ => True

def written (rawId : UInt8) (rawValue : List UInt8) (waitForAck : Bool) : FakeCommandKind × FakeCommandPayload :=
  (.setParameter, .setParameter (fakeWriteParameterFromRawId rawId) rawId rawValue waitForAck)

def recorded (motor : MotorImpl) : MotorCommand → FakeCommandKind × FakeCommandPayload
  | .pvtControl kpInt kdInt posInt spdInt torInt => (.pvtControl, .pvtControl kpInt kdInt posInt spdInt torInt)
  | .posControl positionBits spdInt curInt feedback => (.posControl, .posControl positionBits spdInt curInt feedback)
  | .spdControl speedBits cur feedback => (.spdControl, .spdControl speedBits cur feedback)
  | .curControl cur feedback => (.curControl, .curControl cur feedback)
  | .torControl tor feedback => (.torControl, .torControl tor feedback)
  | .stop mode cur feedback => (.stop, .stop (if motor.fwVersion = 0 then mode.value else 2) cur feedback)
  | .brake enabled => (.brake, .brake enabled true)
  | .setId newIdx => (.setId, .setId motor.idx newIdx true)
  | .setPos position => (.setPos, .setPos position true)
  | .resetZeroPos => (.resetZeroPos, .resetZeroPos true true)
  | .setPVTKpRange min max => written 0x05 (bigEndian min ++ bigEndian max) false
  | .setPVTKdRange min max => written 0x06 (bigEndian min ++ bigEndian max) false
  | .setPVTPosRange min max => written 0x07 (bigEndian min.toUInt16 ++ bigEndian max.toUInt16) false
  | .setPVTSpdRange min max => written 0x08 (bigEndian min.toUInt16 ++ bigEndian max.toUInt16) false
  | .setPVTTorRange min max => written 0x09 (bigEndian min.toUInt16 ++ bigEndian max.toUInt16) false
  | .setPVTCurRange min max => written 0x0A (bigEndian min.toUInt16 ++ bigEndian max.toUInt16) false
  | .setCanTimeout timeoutMs => written 0x0B (bigEndian timeoutMs) false
  | .setCommunicationMode mode waitForAck => written 0x02 [mode.value] waitForAck
  | .setCurPI kpInt kiInt => written 0x0C (bigEndian kpInt ++ bigEndian kiInt) false
  | .setSpdPI kpInt kiInt => written 0x0D (bigEndian kpInt ++ bigEndian kiInt) false
  | .setPosPD kpInt kdInt => written 0x0E (bigEndian kpInt ++ bigEndian kdInt) false
  | .getParameter parameter => (.getParameter, .getParameter parameter.value)

variable (motor : MotorImpl)

theorem own_id (own : motor.idx ≠ 0x7FF) : motor.idx.toUInt32 ≠ 0x7FF := by
  intro same
  apply own
  apply UInt16.toNat_inj.mp
  simpa using congrArg UInt32.toNat same

theorem own_branch (pack : MotorPackMsg) (own : pack.id ≠ 0x7FF) : decodePayload pack =
    if pack.len = 2 ∧ pack.data.get 0 = (0x07 : UInt8) <<< 5 then (.getParameter, .getParameter (pack.data.get 1))
    else if pack.len = 3 ∧ pack.data.get 0 &&& 0xFC = 0x74 ∧ pack.data.get 1 = 0 ∧ pack.data.get 2 ≤ 1 then
      (.brake, .brake (pack.data.get 2 = 0) true)
    else if pack.len = 7 ∧ pack.data.get 0 &&& 0xE0 = 0x40 then
      (.spdControl, .spdControl (word32 (pack.data.get 1) (pack.data.get 2) (pack.data.get 3) (pack.data.get 4)) (word (pack.data.get 5) (pack.data.get 6))
        (pack.data.get 0 &&& 0x1F))
    else if pack.len = 8 ∧ pack.data.get 0 &&& 0xE0 = 0x20 then (.posControl, decodePosControl pack.data)
    else if pack.len = 3 ∧ pack.data.get 0 &&& 0xE0 = 0x60 then decodeTarget pack.data
    else if pack.len = 8 then (.pvtControl, decodePVTControl pack.data)
    else if 3 ≤ pack.len ∧ pack.data.get 0 &&& 0xE0 = 0xC0 then
      (.setParameter, .setParameter (fakeWriteParameterFromRawId (pack.data.get 1)) (pack.data.get 1)
        ((pack.data.toList.take pack.len.toNat).drop 2) (pack.data.get 0 &&& 0x01 ≠ 0))
    else (.unknown, .monostate) := by
  simp only [decodePayload, own, false_and, ↓reduceIte]

theorem write_branch (pack : MotorPackMsg) (own : pack.id ≠ 0x7FF) (long : 3 ≤ pack.len) (other : pack.len ≠ 8)
    (command : pack.data.get 0 = 0xC0 ∨ pack.data.get 0 = 0xC1) :
    decodePayload pack = written (pack.data.get 1) ((pack.data.toList.take pack.len.toNat).drop 2) (pack.data.get 0 = 0xC1) := by
  have notGet : pack.data.get 0 ≠ (0x07 : UInt8) <<< 5 := by rcases command with silent | waits <;> simp only [*] <;> decide
  have notBrake : pack.data.get 0 &&& 0xFC ≠ 0x74 := by rcases command with silent | waits <;> simp only [*] <;> decide
  have kind : pack.data.get 0 &&& 0xE0 = 0xC0 := by rcases command with silent | waits <;> simp only [*] <;> decide
  have waits : decide (pack.data.get 0 &&& 0x01 ≠ 0) = decide (pack.data.get 0 = 0xC1) := by
    rcases command with silent | waits <;> simp only [*] <;> decide
  rw [own_branch pack own]
  simp only [notGet, notBrake, kind, long, other, waits]
  simp [written]

section Decode

variable (motor : MotorImpl) (own : motor.idx ≠ 0x7FF)

include own

theorem decode_pvt (kpInt kdInt posInt spdInt torInt : UInt16) (kpFits : kpInt.toNat < 2 ^ 12) (kdFits : kdInt.toNat < 2 ^ 9)
    (spdFits : spdInt.toNat < 2 ^ 12) (torFits : torInt.toNat < 2 ^ 12) :
    decodePayload (motor.pvtControl kpInt kdInt posInt spdInt torInt) =
      (.pvtControl, .pvtControl kpInt kdInt posInt spdInt torInt) := by
  have free : (motor.pvtControl kpInt kdInt posInt spdInt torInt).data.get 0 &&& 0xE0 = 0 := kp_free kpInt kpFits
  have len : (motor.pvtControl kpInt kdInt posInt spdInt torInt).len = 8 := rfl
  have fields : decodePVTControl (motor.pvtControl kpInt kdInt posInt spdInt torInt).data =
      .pvtControl kpInt kdInt posInt spdInt torInt := by
    simp only [FakeCommandPayload.pvtControl.injEq, decodePVTControl, pvtControl, pack, payload]
    exact ⟨kp_field kpInt kdInt kpFits, kd_field kpInt kdInt kdFits, word_bytes posInt,
      spd_field spdInt torInt spdFits torFits, tor_field spdInt torInt torFits⟩
  rw [own_branch _ (own_id motor own), fields]
  simp [len, free]

theorem decode_position (positionBits : UInt32) (spdInt curInt : UInt16) (feedback : UInt8) (spdFits : spdInt.toNat < 2 ^ 15)
    (curFits : curInt.toNat < 2 ^ 12) (small : feedback ≤ 3) :
    decodePayload (motor.posControl positionBits spdInt curInt feedback) =
      (.posControl, .posControl positionBits spdInt curInt feedback) := by
  have first : (motor.posControl positionBits spdInt curInt feedback).data.get 0 &&& 0xE0 = 0x20 := first_byte _
  have len : (motor.posControl positionBits spdInt curInt feedback).len = 8 := rfl
  have fields : decodePosControl (motor.posControl positionBits spdInt curInt feedback).data =
      .posControl positionBits spdInt curInt feedback := by
    have position := position_field spdInt spdFits (positionBits >>> 24).toUInt8 (positionBits >>> 16).toUInt8
      (positionBits >>> 8).toUInt8 (positionBits >>> 0).toUInt8
    have whole : word32 (positionBits >>> 24).toUInt8 (positionBits >>> 16).toUInt8 (positionBits >>> 8).toUInt8
        (positionBits >>> 0).toUInt8 = positionBits := by
      rw [UInt32.shiftRight_zero]
      exact word32_bytes positionBits
    simp only [FakeCommandPayload.posControl.injEq, decodePosControl, Fake.positionBits, posControl, pack, payload]
    exact ⟨position.trans whole, spd_low_field spdInt curInt spdFits curFits _, cur_field spdInt curInt curFits feedback small,
      feedback_field curInt feedback small⟩
  rw [own_branch _ (own_id motor own), fields]
  simp [len, first]

theorem decode_speed_field (speedBits : UInt32) (cur : UInt16) (feedback : UInt8) (small : feedback ≤ 0x1F) :
    decodePayload (motor.spdControl speedBits cur feedback) = (.spdControl, .spdControl speedBits cur feedback) := by
  have bytes : ∀ feedback : Fin 32, ((0x40 : UInt8) ||| UInt8.ofNat feedback) &&& 0xE0 = 0x40 ∧
      ((0x40 : UInt8) ||| UInt8.ofNat feedback) &&& 0x1F = UInt8.ofNat feedback := by decide
  obtain ⟨first, low⟩ := bytes ⟨feedback.toNat, Nat.lt_succ_of_le small⟩
  simp only [UInt8.ofNat_toNat] at first low
  have kind : (motor.spdControl speedBits cur feedback).data.get 0 &&& 0xE0 = 0x40 := first
  have type : (motor.spdControl speedBits cur feedback).data.get 0 &&& 0x1F = feedback := low
  have len : (motor.spdControl speedBits cur feedback).len = 7 := rfl
  have speed : word32 ((motor.spdControl speedBits cur feedback).data.get 1) ((motor.spdControl speedBits cur feedback).data.get 2)
      ((motor.spdControl speedBits cur feedback).data.get 3) ((motor.spdControl speedBits cur feedback).data.get 4) = speedBits :=
    word32_bytes speedBits
  have current : word ((motor.spdControl speedBits cur feedback).data.get 5) ((motor.spdControl speedBits cur feedback).data.get 6) = cur :=
    word_bytes cur
  rw [own_branch _ (own_id motor own), type, speed, current]
  simp [len, kind]

theorem decode_speed (speedBits : UInt32) (cur : UInt16) (feedback : UInt8) (small : feedback ≤ 3) :
    decodePayload (motor.spdControl speedBits cur feedback) = (.spdControl, .spdControl speedBits cur feedback) :=
  decode_speed_field motor own speedBits cur feedback (UInt8.le_trans small (by decide))

theorem decode_target (ctrlMode : UInt8) (value : Int16) (feedback : UInt8) (mode : ctrlMode ≤ 4) (small : feedback ≤ 3) :
    decodePayload (motor.target ctrlMode value feedback) =
      if ctrlMode = 0 then (.curControl, .curControl value feedback)
      else if ctrlMode = 1 then (.torControl, .torControl value feedback) else (.stop, .stop ctrlMode value feedback) := by
  obtain ⟨kind, apart, selector, type⟩ := target_byte ctrlMode feedback mode small
  have len : (motor.target ctrlMode value feedback).len = 3 := rfl
  have first : (motor.target ctrlMode value feedback).data.get 0 = (0x60 : UInt8) ||| (ctrlMode <<< 2) ||| feedback := rfl
  have target : (word ((motor.target ctrlMode value feedback).data.get 1) ((motor.target ctrlMode value feedback).data.get 2)).toInt16 = value := by
    have bytes : word ((motor.target ctrlMode value feedback).data.get 1) ((motor.target ctrlMode value feedback).data.get 2) = value.toUInt16 :=
      word_bytes value.toUInt16
    rw [bytes]
    exact Int16.toInt16_toUInt16 value
  rw [own_branch _ (own_id motor own)]
  simp only [len, first, kind, apart, decodeTarget, selector, type, target]
  simp

theorem decode_brake (enabled : Bool) (bytes : MotorPackMsg) (sent : motor.brake enabled = some bytes) :
    decodePayload bytes = (.brake, .brake enabled true) := by
  simp only [brake] at sent
  split at sent
  · cases sent
  · cases sent
    generalize sentAs : motor.pack motor.idx.toUInt32 3 [((0x03 : UInt8) <<< 5) ||| ((0x05 : UInt8) <<< 2) ||| 0x01, 0,
      if enabled then 0 else 1] = bytes
    have id : bytes.id ≠ 0x7FF := by rw [← sentAs]; exact own_id motor own
    have len : bytes.len = 3 := by rw [← sentAs]; rfl
    have first : bytes.data.get 0 = 0x75 := by rw [← sentAs]; rfl
    have second : bytes.data.get 1 = 0 := by rw [← sentAs]; rfl
    have third : bytes.data.get 2 = if enabled then 0 else 1 := by rw [← sentAs]; rfl
    have mask : (0x75 : UInt8) &&& 0xFC = 0x74 := by decide
    rw [own_branch bytes id]
    cases enabled <;> simp [len, first, second, third, mask]

theorem decode_mode (mode : MotorCommunicationMode) (waitForAck : Bool) (bytes : MotorPackMsg)
    (sent : motor.setCommunicationMode mode waitForAck = some bytes) : decodePayload bytes = written 0x02 [mode.value] waitForAck := by
  simp only [setCommunicationMode] at sent
  split at sent
  · cases sent
  · cases sent
    have len : (motor.pack motor.idx.toUInt32 3 [((0x06 : UInt8) <<< 5) ||| ((0 : UInt8) <<< 2) ||| (if waitForAck then 1 else 0), 0x02,
      mode.value]).len = 3 := rfl
    refine (write_branch _ (own_id motor own) (by rw [len]; decide) (by rw [len]; decide) ?_).trans ?_
    · cases waitForAck
      · exact .inl rfl
      · exact .inr rfl
    · cases waitForAck <;> rfl

theorem decode_pair (parameterId : UInt8) (first second : UInt16) :
    decodePayload (motor.writePair parameterId first second) = written parameterId (bigEndian first ++ bigEndian second) false := by
  have len : (motor.writePair parameterId first second).len = 6 := rfl
  exact (write_branch _ (own_id motor own) (by rw [len]; decide) (by rw [len]; decide) (.inl rfl)).trans rfl

theorem decode_timeout (timeoutMs : UInt16) : decodePayload (motor.setCanTimeout timeoutMs) = written 0x0B (bigEndian timeoutMs) false := by
  have len : (motor.setCanTimeout timeoutMs).len = 4 := rfl
  exact (write_branch _ (own_id motor own) (by rw [len]; decide) (by rw [len]; decide) (.inl rfl)).trans rfl

theorem decode_get (parameter : MotorParameter) :
    decodePayload (motor.getParameter parameter) = (.getParameter, .getParameter parameter.value) := by
  rw [own_branch _ (own_id motor own)]
  rfl

end Decode

theorem decode_set_id (newIdx : UInt16) : decodePayload (motor.setId newIdx) = (.setId, .setId motor.idx newIdx true) := by
  have source := word_bytes motor.idx
  have target := word_bytes newIdx
  have branch : decodePayload (motor.setId newIdx) =
      (.setId, .setId (word (motor.idx >>> 8).toUInt8 (motor.idx &&& 0xFF).toUInt8)
        (word (newIdx >>> 8).toUInt8 (newIdx &&& 0xFF).toUInt8) true) := rfl
  rw [branch, source, target]

theorem decode_set_pos (position : Int16) : decodePayload (motor.setPos position) = (.setPos, .setPos position true) := by
  have branch : decodePayload (motor.setPos position) =
      (.setPos, .setPos (word (position.toUInt16 >>> 8).toUInt8 (position.toUInt16 &&& 0xFF).toUInt8).toInt16 true) := rfl
  rw [branch, word_bytes, Int16.toInt16_toUInt16]

theorem decode_reset : decodePayload motor.resetZeroPos = (.resetZeroPos, .resetZeroPos true true) := rfl

theorem logical_motor (own : motor.idx ≠ 0x7FF) (command : MotorCommand) (bytes : MotorPackMsg)
    (sent : command.message motor = some bytes) :
    logicalMotorId bytes = motor.idx.toUInt32.toInt32 ∧ bytes.frameFlags = sanitizeCanFrameFlags motor.frameFlags := by
  have ownId (len : UInt8) (rest : List UInt8) : logicalMotorId (motor.pack motor.idx.toUInt32 len rest) = motor.idx.toUInt32.toInt32 := by
    have other := own_id motor own
    simp [logicalMotorId, pack, other]
  have system (len : UInt8) (long : 2 ≤ len) (rest : List UInt8) :
      logicalMotorId (motor.pack systemId len (bigEndian motor.idx ++ rest)) = motor.idx.toUInt32.toInt32 := by
    have idx := word_bytes motor.idx
    have read : word ((motor.pack systemId len (bigEndian motor.idx ++ rest)).data.get 0)
        ((motor.pack systemId len (bigEndian motor.idx ++ rest)).data.get 1) = motor.idx := idx
    rw [logicalMotorId, if_pos ⟨rfl, long⟩, read]
  cases command with
  | setId newIdx | setPos position =>
    cases sent
    exact ⟨system 6 (by decide) _, rfl⟩
  | resetZeroPos =>
    cases sent
    exact ⟨system 4 (by decide) _, rfl⟩
  | brake enabled =>
    simp only [MotorCommand.message, brake] at sent
    split at sent
    · cases sent
    · cases sent
      exact ⟨ownId _ _, rfl⟩
  | setCommunicationMode mode waitForAck =>
    simp only [MotorCommand.message, setCommunicationMode] at sent
    split at sent
    · cases sent
    · cases sent
      exact ⟨ownId _ _, rfl⟩
  | _ =>
    cases sent
    exact ⟨ownId _ _, rfl⟩

theorem stop_mode (mode : MotorStopMode) :
    (if motor.fwVersion = 0 then mode.value else 2) ≤ 4 ∧ (if motor.fwVersion = 0 then mode.value else 2) ≠ 0 ∧
      (if motor.fwVersion = 0 then mode.value else 2) ≠ 1 := by
  split
  · cases mode <;> decide
  · decide

theorem decode_command (own : motor.idx ≠ 0x7FF) (command : MotorCommand) (fits : Fits command)
    (bytes : MotorPackMsg) (sent : command.message motor = some bytes) : decodePayload bytes = recorded motor command := by
  cases command with
  | pvtControl kpInt kdInt posInt spdInt torInt =>
    cases sent
    obtain ⟨kpFits, kdFits, spdFits, torFits⟩ := fits
    exact decode_pvt motor own kpInt kdInt posInt spdInt torInt kpFits kdFits spdFits torFits
  | posControl positionBits spdInt curInt feedback =>
    cases sent
    obtain ⟨spdFits, curFits, small⟩ := fits
    exact decode_position motor own positionBits spdInt curInt feedback spdFits curFits small
  | spdControl speedBits cur feedback =>
    cases sent
    exact decode_speed motor own speedBits cur feedback fits
  | curControl cur feedback =>
    cases sent
    exact decode_target motor own 0 cur feedback (by decide) fits
  | torControl tor feedback =>
    cases sent
    exact decode_target motor own 1 tor feedback (by decide) fits
  | stop mode cur feedback =>
    cases sent
    obtain ⟨known, notCurrent, notTorque⟩ := stop_mode motor mode
    refine (decode_target motor own _ cur feedback known fits).trans ?_
    rw [if_neg notCurrent, if_neg notTorque]
    rfl
  | brake enabled => exact decode_brake motor own enabled bytes sent
  | setId newIdx =>
    cases sent
    exact decode_set_id motor newIdx
  | setPos position =>
    cases sent
    exact decode_set_pos motor position
  | resetZeroPos =>
    cases sent
    exact decode_reset motor
  | setCanTimeout timeoutMs =>
    cases sent
    exact decode_timeout motor own timeoutMs
  | setCommunicationMode mode waitForAck => exact decode_mode motor own mode waitForAck bytes sent
  | getParameter parameter =>
    cases sent
    exact decode_get motor own parameter
  | _ =>
    cases sent
    exact decode_pair motor own _ _ _

theorem command_recovered (motor : MotorImpl) (busIdx : Int32) (command : MotorCommand) (bytes : MotorPackMsg)
    (own : motor.idx ≠ 0x7FF) (fits : Fits command) (sent : command.message motor = some bytes) :
    decodeFakeCommand ⟨busIdx, bytes⟩ =
      ⟨busIdx, motor.idx.toUInt32.toInt32, sanitizeCanFrameFlags motor.frameFlags, (recorded motor command).1, (recorded motor command).2⟩ := by
  obtain ⟨logical, flags⟩ := logical_motor motor own command bytes sent
  simp only [decodeFakeCommand, decode_command motor own command fits bytes sent, logical, flags]

theorem pvt_recovered :
    decodeFakeCommand ⟨0, MotorImpl.pvtControl ⟨5, 0, 0⟩ 4095 300 40000 2048 7⟩ =
      ⟨0, 5, 0, .pvtControl, .pvtControl 4095 300 40000 2048 7⟩ :=
  command_recovered ⟨5, 0, 0⟩ 0 (.pvtControl 4095 300 40000 2048 7) _ (by decide) (by simp [Fits]) rfl

def Intact (motor : MotorImpl) (call : ControlCall) (feedback : Int32) (bytes : MotorPackMsg) : Prop :=
  decodePayload bytes = recorded motor (call.command (feedbackByte feedback)) ∧ ((feedbackByte feedback).toNat : Int) = feedback.toInt

def feedbackWithin : FakeCommandPayload → Prop
  | .posControl _ _ _ feedback => feedback ≤ 3
  | .spdControl _ _ feedback => feedback ≤ 0x1F
  | .curControl _ feedback => feedback ≤ 3
  | .torControl _ feedback => feedback ≤ 3
  | .stop _ _ feedback => feedback ≤ 3
  | _ => True

theorem masked_within (byte mask : UInt8) : byte &&& mask ≤ mask := by
  rw [UInt8.le_iff_toNat_le, UInt8.toNat_and]
  exact Nat.and_le_right

theorem branch_within (condition : Prop) [Decidable condition] (taken other : FakeCommandKind × FakeCommandPayload)
    (takenWithin : feedbackWithin taken.2) (otherWithin : feedbackWithin other.2) :
    feedbackWithin (if condition then taken else other).2 := by
  split
  · exact takenWithin
  · exact otherWithin

theorem target_within (data : Vector UInt8 8) : feedbackWithin (decodeTarget data).2 :=
  branch_within _ _ _ (masked_within _ _) (branch_within _ _ _ (masked_within _ _) (masked_within _ _))

theorem decoded_within (pack : MotorPackMsg) : feedbackWithin (decodePayload pack).2 := by
  unfold decodePayload
  -- The broadcast commands, a query and a brake carry no feedback.
  refine branch_within _ _ _ trivial (branch_within _ _ _ trivial (branch_within _ _ _ trivial (branch_within _ _ _ trivial
    (branch_within _ _ _ trivial ?_))))
  refine branch_within _ _ _ (masked_within _ _) (branch_within _ _ _ (masked_within _ _) (branch_within _ _ _ (target_within _) ?_))
  exact branch_within _ _ _ trivial (branch_within _ _ _ trivial trivial)

theorem decode_any_id (pack : MotorPackMsg) (id : UInt32) (control : pack.len = 3 ∨ pack.len = 7 ∨ pack.len = 8) :
    decodePayload { pack with id := id } = decodePayload pack := by
  rcases control with three | seven | eight
  · simp [decodePayload, three]
  · simp [decodePayload, seven]
  · simp [decodePayload, eight]

variable (call : ControlCall)

theorem control_decoded (feedback : UInt8) (small : (feedback.toNat : Int) ≤ call.feedbackLimit)
    (bytes : MotorPackMsg) (sent : (call.command feedback).message motor = some bytes) :
    decodePayload bytes = recorded motor (call.command feedback) := by
  have own : ({ motor with idx := 0 } : MotorImpl).idx ≠ 0x7FF := (by decide : (0 : UInt16) ≠ 0x7FF)
  cases call with
  | posControl positionBits spdInt curInt =>
    cases sent
    have type : feedback ≤ 3 := UInt8.le_iff_toNat_le.mpr (Int.ofNat_le.mp small)
    have spdFits : (UInt16.ofNat spdInt.val).toNat < 2 ^ 15 := by
      rw [UInt16.toNat_ofNat']
      omega
    have curFits : (UInt16.ofNat curInt.val).toNat < 2 ^ 12 := by
      rw [UInt16.toNat_ofNat']
      omega
    exact (decode_any_id _ motor.idx.toUInt32 (.inr (.inr rfl))).trans
      (decode_position { motor with idx := 0 } own positionBits _ _ feedback spdFits curFits type)
  | spdControl speedBits cur =>
    cases sent
    have type : feedback ≤ 0x1F := UInt8.le_iff_toNat_le.mpr (Int.ofNat_le.mp small)
    exact (decode_any_id _ motor.idx.toUInt32 (.inr (.inl rfl))).trans
      (decode_speed_field { motor with idx := 0 } own speedBits cur feedback type)
  | curControl cur =>
    cases sent
    have type : feedback ≤ 3 := UInt8.le_iff_toNat_le.mpr (Int.ofNat_le.mp small)
    exact (decode_any_id _ motor.idx.toUInt32 (.inl rfl)).trans
      (decode_command { motor with idx := 0 } own (.curControl cur feedback) type _ rfl)
  | torControl tor =>
    cases sent
    have type : feedback ≤ 3 := UInt8.le_iff_toNat_le.mpr (Int.ofNat_le.mp small)
    exact (decode_any_id _ motor.idx.toUInt32 (.inl rfl)).trans
      (decode_command { motor with idx := 0 } own (.torControl tor feedback) type _ rfl)
  | stop mode cur =>
    cases sent
    have type : feedback ≤ 3 := UInt8.le_iff_toNat_le.mpr (Int.ofNat_le.mp small)
    exact (decode_any_id _ motor.idx.toUInt32 (.inl rfl)).trans
      (decode_command { motor with idx := 0 } own (.stop mode cur feedback) type _ rfl)

theorem recorded_within (feedback : UInt8)
    (within : feedbackWithin (recorded motor (call.command feedback)).2) : (feedback.toNat : Int) ≤ call.feedbackLimit := by
  cases call <;> exact Int.ofNat_le.mpr (UInt8.le_iff_toNat_le.mp within)

theorem feedback_byte (feedback : Int32) (low : 0 ≤ feedback.toInt) (high : feedback.toInt ≤ 31) :
    ((feedbackByte feedback).toNat : Int) = feedback.toInt := by
  have values : ∀ value : Fin 32, ((feedbackByte (Int32.ofInt (value.val : Int))).toNat : Int) = value.val := by decide
  obtain ⟨value, same⟩ : ∃ value : Nat, feedback.toInt = value := Int.eq_ofNat_of_zero_le low
  have found := values ⟨value, by omega⟩
  simp only [← same, Int32.ofInt_toInt] at found
  exact found

theorem call_sent (attached : Bool) (feedbackType : Fin 4) (feedback : Int32) (bytes : MotorPackMsg) :
    call.send motor attached feedbackType feedback = some bytes ↔
      attached = true ∧ (call.matchesType = true → feedbackType.val ≠ 0 → Int32.ofNat feedbackType.val = feedback) ∧
        (call.command (feedbackByte feedback)).message motor = some bytes := by
  cases call with
  | stop mode cur => cases attached <;> simp [ControlCall.send, stopCall, ControlCall.matchesType, ControlCall.command, MotorCommand.message]
  | _ =>
    simp only [ControlCall.send, posControlCall, spdControlCall, curControlCall, torControlCall, matching_sent, ControlCall.matchesType,
      ControlCall.command, MotorCommand.message, Option.some.injEq, forall_const, ne_eq, or_iff_not_imp_left, and_assoc,
      eq_comm (a := bytes)]

theorem limit_bounds : 3 ≤ call.feedbackLimit ∧ call.feedbackLimit ≤ 31 := by
  cases call <;> simp [ControlCall.feedbackLimit]

/-- A call keeps its command and its feedback exactly where it is refused or the feedback fits its field; an instance
that compares its argument with its type lets only fitting feedback through. -/
theorem control_intact_iff (motor : MotorImpl) (call : ControlCall) (attached : Bool) (feedbackType : Fin 4) (feedback : Int32) :
    (∀ bytes, call.send motor attached feedbackType feedback = some bytes → Intact motor call feedback bytes) ↔
      attached = false ∨ (call.matchesType = true ∧ feedbackType.val ≠ 0) ∨
        (0 ≤ feedback.toInt ∧ feedback.toInt ≤ call.feedbackLimit) := by
  have limits := limit_bounds call
  constructor
  · intro intact
    by_contra neither
    simp only [not_or, Bool.not_eq_false] at neither
    obtain ⟨present, unmatched, outside⟩ := neither
    obtain ⟨bytes, message⟩ : ∃ bytes, (call.command (feedbackByte feedback)).message motor = some bytes := by
      cases call <;> exact ⟨_, rfl⟩
    obtain ⟨decoded, carried⟩ := intact bytes ((call_sent motor call attached feedbackType feedback bytes).mpr
      ⟨present, fun checks typed => absurd ⟨checks, typed⟩ unmatched, message⟩)
    have within := recorded_within motor call (feedbackByte feedback) (decoded ▸ decoded_within bytes)
    exact outside ⟨by omega, by omega⟩
  · intro condition bytes sent
    obtain ⟨present, matched, message⟩ := (call_sent motor call attached feedbackType feedback bytes).mp sent
    have fits : 0 ≤ feedback.toInt ∧ feedback.toInt ≤ call.feedbackLimit := by
      rcases condition with detached | ⟨checks, typed⟩ | fits
      · rw [present] at detached
        cases detached
      · have types : ∀ type : Fin 4, (Int32.ofNat type.val).toInt = type.val := by decide
        rw [← matched checks typed, types feedbackType]
        omega
      · exact fits
    have byte := feedback_byte feedback fits.1 (by omega)
    exact ⟨control_decoded motor call (feedbackByte feedback) (by omega) bytes message, byte⟩

theorem control_turned :
    ¬ ∀ (motor : MotorImpl) (call : ControlCall) (attached : Bool) (feedbackType : Fin 4) (feedback : Int32) (bytes : MotorPackMsg),
      call.send motor attached feedbackType feedback = some bytes → Intact motor call feedback bytes := by
  intro intact
  have decoded := (intact ⟨5, 0, 0⟩ (.curControl 1000) true 0 4 _ rfl).1
  exact absurd (congrArg Prod.fst decoded) (by decide)

end EncosDriver.Fake
