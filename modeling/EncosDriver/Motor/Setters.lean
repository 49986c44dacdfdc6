import EncosDriver.Lib.Conversion
import EncosDriver.Motor.Feedback
import Mathlib.Data.Rat.Floor

set_option autoImplicit false

namespace EncosDriver.Motor.Setters

open Lib Message

section Model

variable {K : Type} [Field K] [LinearOrder K] [FloorRing K]

def toInt16 (x : K) : Int16 := Int16.ofInt (Conversion.truncate x)

def toUInt16 (x : K) : UInt16 := UInt16.ofInt (Conversion.truncate x)

def mPi : K := 884279719003555 / 281474976710656

def loopGainScaleFor (fwVersion : UInt32) : K := if fwVersion = 0 then 100000 else 500

inductive SetterError where
  | noBus
  | outOfRange
deriving DecidableEq

def SetterError.what : SetterError → String
  | .noBus => "Bus not initialized"
  | .outOfRange => "SetPos position exceeds int16 centidegree range"

structure Outcome (K : Type) where
  sent : MotorPackMsg
  success : Bool
  ranges : MotorProperties K

def setRange (message : Int16 → Int16 → MotorPackMsg) (scale : K) (keep : Range K → MotorProperties K) (attached waitForAck acknowledged : Bool)
    (range : Range K) (ranges : MotorProperties K) : Except SetterError (Outcome K) :=
  if attached then
    let min := toInt16 (range.min * scale)
    let max := toInt16 (range.max * scale)
    let success := !waitForAck || acknowledged
    .ok ⟨message min max, success, if success then keep ⟨min.toInt / scale, max.toInt / scale⟩ else ranges⟩
  else .error .noBus

variable (motor : MotorImpl) (attached waitForAck acknowledged : Bool)

def setPVTPosRange (range : Range K) (ranges : MotorProperties K) : Except SetterError (Outcome K) :=
  setRange motor.setPVTPosRange 100 (fun kept => { ranges with position := kept }) attached waitForAck acknowledged range ranges

def setPVTSpdRange (range : Range K) (ranges : MotorProperties K) : Except SetterError (Outcome K) :=
  setRange motor.setPVTSpdRange 100 (fun kept => { ranges with speed := kept }) attached waitForAck acknowledged range ranges

def setPVTTorRange (range : Range K) (ranges : MotorProperties K) : Except SetterError (Outcome K) :=
  setRange motor.setPVTTorRange 10 (fun kept => { ranges with torque := kept }) attached waitForAck acknowledged range ranges

def setPVTCurRange (range : Range K) (ranges : MotorProperties K) : Except SetterError (Outcome K) :=
  setRange motor.setPVTCurRange 10 (fun kept => { ranges with current := kept }) attached waitForAck acknowledged range ranges

def withBus (message : MotorPackMsg) : Except SetterError MotorPackMsg := if attached then .ok message else .error .noBus

def setCurPI (kp ki : K) : Except SetterError MotorPackMsg :=
  withBus attached (motor.setCurPI (toUInt16 (kp * 10000)) (toUInt16 (ki * 10)))

def clampedGain (gain : K) : UInt16 := toUInt16 (Lattice.inside 0 65535 (gain * loopGainScaleFor motor.fwVersion))

def setSpdPI (kp ki : K) : Except SetterError MotorPackMsg :=
  withBus attached (motor.setSpdPI (clampedGain motor kp) (clampedGain motor ki))

def setPosPD (kp kd : K) : Except SetterError MotorPackMsg :=
  withBus attached (motor.setPosPD (clampedGain motor kp) (clampedGain motor kd))

def setPos (nowPos : K) : Except SetterError MotorPackMsg :=
  if attached then
    let centidegrees := nowPos * 180 / mPi * 100
    if centidegrees < -32768 ∨ centidegrees > 32767 then .error .outOfRange else .ok (motor.setPos (toInt16 centidegrees))
  else .error .noBus

inductive RangeKind where
  | position
  | speed
  | torque
  | current
deriving DecidableEq

namespace RangeKind

def parameter : RangeKind → MotorParameter
  | position => .pvtPosRange
  | speed => .pvtSpdRange
  | torque => .pvtTorRange
  | current => .pvtCurRange

def scale : RangeKind → K
  | position => 100
  | speed => 100
  | torque => 10
  | current => 10

def set : RangeKind → Range K → MotorProperties K → Except SetterError (Outcome K)
  | position => setPVTPosRange motor attached waitForAck acknowledged
  | speed => setPVTSpdRange motor attached waitForAck acknowledged
  | torque => setPVTTorRange motor attached waitForAck acknowledged
  | current => setPVTCurRange motor attached waitForAck acknowledged

def kept : RangeKind → MotorProperties K → Range K
  | position => MotorProperties.position
  | speed => MotorProperties.speed
  | torque => MotorProperties.torque
  | current => MotorProperties.current

end RangeKind

def getParameterRange (parameter : MotorParameter) (pack : MotorPackMsg) : Option (Range K) :=
  match parameter, decodeParameterRaw parameter.rawType pack with
  | .pvtPosRange, .rangeInt16 min max => some ⟨min.toInt / 100, max.toInt / 100⟩
  | .pvtSpdRange, .rangeInt16 min max => some ⟨min.toInt / 100, max.toInt / 100⟩
  | .pvtTorRange, .rangeInt16 min max => some ⟨min.toInt / 10, max.toInt / 10⟩
  | .pvtCurRange, .rangeInt16 min max => some ⟨min.toInt / 10, max.toInt / 10⟩
  | _, _ => none

inductive Call (K : Type) where
  | setRange (kind : RangeKind) (range : Range K) (waitForAck acknowledged : Bool) (ranges : MotorProperties K)
  | setCurPI (kp ki : K)
  | setSpdPI (kp ki : K)
  | setPosPD (kp kd : K)
  | setPos (nowPos : K)
  | spdControl (speedBits : UInt32) (current : K)
  | curControl (current : K)
  | torControl (torque : K)
  | stop (mode : MotorStopMode) (current : K)

def Call.send (feedbackType : Fin 4) (feedback : Int32) : Call K → Option MotorPackMsg
  | .setRange kind range waitForAck acknowledged ranges =>
    (kind.set motor attached waitForAck acknowledged range ranges).toOption.map Outcome.sent
  | .setCurPI kp ki => (Setters.setCurPI motor attached kp ki).toOption
  | .setSpdPI kp ki => (Setters.setSpdPI motor attached kp ki).toOption
  | .setPosPD kp kd => (Setters.setPosPD motor attached kp kd).toOption
  | .setPos nowPos => (Setters.setPos motor attached nowPos).toOption
  | .spdControl speedBits current => motor.spdControlCall attached feedbackType speedBits (toUInt16 (current * 10)) feedback
  | .curControl current => motor.curControlCall attached feedbackType (toInt16 (current * 100)) feedback
  | .torControl torque => motor.torControlCall attached feedbackType (toInt16 (torque * 100)) feedback
  | .stop mode current => motor.stopCall attached feedbackType mode (toInt16 (current * 100)) feedback

structure Slot (K : Type) where
  argument : K
  scale : K
  signed : Bool
  offset : Nat

def low (signed : Bool) : Int := if signed then -32768 else 0

def high (signed : Bool) : Int := if signed then 32767 else 65535

def wireWord (pack : MotorPackMsg) (offset : Nat) : UInt16 :=
  readU16Be (pack.data.toList.getD offset 0) (pack.data.toList.getD (offset + 1) 0)

namespace Slot

def code (slot : Slot K) (pack : MotorPackMsg) : Int :=
  if slot.signed then (wireWord pack slot.offset).toInt16.toInt else (wireWord pack slot.offset).toNat

-- The code stands for the argument to within one step, or for the argument
-- clamped to the slot's range.
def Faithful (slot : Slot K) (pack : MotorPackMsg) : Prop :=
  |(slot.code pack : K) / slot.scale - slot.argument| ≤ 1 / slot.scale ∨
    (slot.code pack : K) / slot.scale =
      Lattice.inside ((low slot.signed : K) / slot.scale) ((high slot.signed : K) / slot.scale) slot.argument

def Fits (slot : Slot K) : Prop := Conversion.Fits (low slot.signed) (high slot.signed) (slot.argument * slot.scale)

end Slot

namespace Call

def slots (motor : MotorImpl) : Call K → List (Slot K)
  | .setRange kind range _ _ _ => [⟨range.min, kind.scale, true, 2⟩, ⟨range.max, kind.scale, true, 4⟩]
  | .setCurPI kp ki => [⟨kp, 10000, false, 2⟩, ⟨ki, 10, false, 4⟩]
  | .setSpdPI kp ki => [⟨kp, loopGainScaleFor motor.fwVersion, false, 2⟩, ⟨ki, loopGainScaleFor motor.fwVersion, false, 4⟩]
  | .setPosPD kp kd => [⟨kp, loopGainScaleFor motor.fwVersion, false, 2⟩, ⟨kd, loopGainScaleFor motor.fwVersion, false, 4⟩]
  | .setPos nowPos => [⟨nowPos, 180 / mPi * 100, true, 4⟩]
  | .spdControl _ current => [⟨current, 10, false, 5⟩]
  | .curControl current => [⟨current, 100, true, 1⟩]
  | .torControl torque => [⟨torque, 100, true, 1⟩]
  | .stop _ current => [⟨current, 100, true, 1⟩]

def convertsDirectly : Call K → Bool
  | .setSpdPI _ _ => false
  | .setPosPD _ _ => false
  | .setPos _ => false
  | _ => true

def passes (attached : Bool) (feedbackType : Fin 4) (feedback : Int32) : Call K → Prop
  | .spdControl _ _ => attached = true ∧ (feedbackType.val = 0 ∨ Int32.ofNat feedbackType.val = feedback)
  | .curControl _ => attached = true ∧ (feedbackType.val = 0 ∨ Int32.ofNat feedbackType.val = feedback)
  | .torControl _ => attached = true ∧ (feedbackType.val = 0 ∨ Int32.ofNat feedbackType.val = feedback)
  | _ => attached = true

def Faithful (motor : MotorImpl) (attached : Bool) (feedbackType : Fin 4) (feedback : Int32) (call : Call K) : Prop :=
  ∀ pack, call.send motor attached feedbackType feedback = some pack → ∀ slot ∈ call.slots motor, slot.Faithful pack

end Call

end Model

section Conversions

variable {K : Type} [Field K] [LinearOrder K] [FloorRing K]

theorem to_int16_wraps (x : K) : (toInt16 x).toInt = Conversion.wrapped (-32768) 65536 (Conversion.truncate x) := by
  have above := (toInt16 x).le_toInt
  have below := (toInt16 x).toInt_lt
  refine ((Conversion.wrapped_eq_iff (-32768) 65536 _ _ (by omega) (by omega)).mpr ?_).symm
  rw [toInt16, Int16.toInt_ofInt]
  exact Int.bmod_emod.symm

theorem to_uint16_wraps (x : K) : ((toUInt16 x).toNat : Int) = Conversion.wrapped 0 65536 (Conversion.truncate x) := by
  have below := (toUInt16 x).toNat_lt
  refine ((Conversion.wrapped_eq_iff 0 65536 _ _ (by omega) (by omega)).mpr ?_).symm
  have nonneg := Int.emod_nonneg (Conversion.truncate x) (show (65536 : Int) ≠ 0 by decide)
  rw [toUInt16, UInt16.ofInt, UInt16.toNat_ofNat']
  omega

theorem spans (signed : Bool) : low signed ≤ 0 ∧ 0 ≤ high signed := by cases signed <;> decide

theorem width (signed : Bool) : high signed - low signed + 1 = 65536 := by cases signed <;> rfl

theorem wide (signed : Bool) : low signed < high signed := by cases signed <;> decide

namespace Slot

def word (slot : Slot K) : UInt16 :=
  if slot.signed then (toInt16 (slot.argument * slot.scale)).toUInt16 else toUInt16 (slot.argument * slot.scale)

theorem code_word (slot : Slot K) (pack : MotorPackMsg) (held : wireWord pack slot.offset = slot.word) :
    slot.code pack = Conversion.wrapped (low slot.signed) (high slot.signed - low slot.signed + 1)
      (Conversion.truncate (slot.argument * slot.scale)) := by
  rw [code, held, word, width]
  cases slot.signed with
  | true => exact (congrArg Int16.toInt (Int16.toInt16_toUInt16 _)).trans (to_int16_wraps _)
  | false => exact to_uint16_wraps _

variable [IsStrictOrderedRing K]

omit [FloorRing K] in
theorem faithful_stands (slot : Slot K) (pack : MotorPackMsg) (positive : 0 < slot.scale) :
    slot.Faithful pack ↔ Conversion.Stands (low slot.signed) (high slot.signed) (slot.argument * slot.scale) (slot.code pack) := by
  have back : slot.argument = slot.argument * slot.scale / slot.scale := (mul_div_cancel_right₀ _ positive.ne').symm
  refine or_congr ?_ ?_
  · rw [back, ← sub_div, abs_div, abs_of_pos positive, div_le_div_iff_of_pos_right positive, ← back]
  · rw [Lattice.inside, Lattice.inside, back, min_div_div_right positive.le, max_div_div_right positive.le,
      div_left_inj' positive.ne', ← back]

theorem direct_iff (slot : Slot K) (pack : MotorPackMsg) (positive : 0 < slot.scale) (held : wireWord pack slot.offset = slot.word) :
    slot.Faithful pack ↔ slot.Fits := by
  rw [faithful_stands slot pack positive, code_word slot pack held, Fits]
  exact Conversion.stands_iff _ _ _ (spans slot.signed) (wide slot.signed)

end Slot

end Conversions

variable (motor : MotorImpl)

theorem wire_word (id : UInt32) (len : UInt8) (bytes : List UInt8) (offset : Nat) (word : UInt16) (inside : offset < 7)
    (first : bytes.getD offset 0 = (word >>> 8).toUInt8) (second : bytes.getD (offset + 1) 0 = (word &&& 0xFF).toUInt8) :
    wireWord (motor.pack id len bytes) offset = word := by
  have byte (index : Nat) (within : index < 8) : (motor.pack id len bytes).data.toList.getD index 0 = bytes.getD index 0 := by
    simp [MotorImpl.pack, payload, List.getD_eq_getElem?_getD, within]
  rw [wireWord, byte offset (by omega), byte (offset + 1) (by omega), first, second, read_u16_be]

theorem pair_words (parameterId : UInt8) (first second : UInt16) :
    wireWord (motor.writePair parameterId first second) 2 = first ∧ wireWord (motor.writePair parameterId first second) 4 = second :=
  ⟨wire_word motor _ _ _ 2 first (by decide) rfl rfl, wire_word motor _ _ _ 4 second (by decide) rfl rfl⟩

theorem target_word (ctrlMode : UInt8) (value : Int16) (feedback : UInt8) :
    wireWord (motor.target ctrlMode value feedback) 1 = value.toUInt16 := wire_word motor _ _ _ 1 value.toUInt16 (by decide) rfl rfl

theorem set_pos_word (position : Int16) : wireWord (motor.setPos position) 4 = position.toUInt16 :=
  wire_word motor _ _ _ 4 position.toUInt16 (by decide) rfl rfl

theorem spd_control_word (speedBits : UInt32) (cur : UInt16) (feedback : UInt8) :
    wireWord (motor.spdControl speedBits cur feedback) 5 = cur := wire_word motor _ _ _ 5 cur (by decide) rfl rfl

section Calls

variable {K : Type} [Field K] [LinearOrder K] [FloorRing K]

theorem bus_sent (attached : Bool) (message pack : MotorPackMsg) :
    (withBus attached message).toOption = some pack ↔ attached = true ∧ pack = message := by
  cases attached <;> simp [withBus, Except.toOption, eq_comm]

theorem range_sent (message : Int16 → Int16 → MotorPackMsg) (scale : K) (keep : Range K → MotorProperties K)
    (attached waitForAck acknowledged : Bool) (range : Range K) (ranges : MotorProperties K) (pack : MotorPackMsg) :
    (setRange message scale keep attached waitForAck acknowledged range ranges).toOption.map Outcome.sent = some pack ↔
      attached = true ∧ pack = message (toInt16 (range.min * scale)) (toInt16 (range.max * scale)) := by
  rw [setRange]
  cases attached with
  | false => exact ⟨nofun, fun sent => nomatch sent.1⟩
  | true =>
    rw [if_pos rfl]
    exact ⟨fun same => ⟨rfl, (Option.some.inj same).symm⟩, fun sent => congrArg some sent.2.symm⟩

def RangeKind.subCommand : RangeKind → UInt8
  | .position => 0x07
  | .speed => 0x08
  | .torque => 0x09
  | .current => 0x0a

theorem kind_sent (kind : RangeKind) (motor : MotorImpl) (attached waitForAck acknowledged : Bool) (range : Range K)
    (ranges : MotorProperties K) (pack : MotorPackMsg) :
    (kind.set motor attached waitForAck acknowledged range ranges).toOption.map Outcome.sent = some pack ↔
      attached = true ∧ pack = motor.writePair kind.subCommand (toInt16 (range.min * kind.scale)).toUInt16
        (toInt16 (range.max * kind.scale)).toUInt16 := by
  cases kind with
  | position => exact range_sent motor.setPVTPosRange 100 (fun kept => { ranges with position := kept }) attached _ _ range ranges pack
  | speed => exact range_sent motor.setPVTSpdRange 100 (fun kept => { ranges with speed := kept }) attached _ _ range ranges pack
  | torque => exact range_sent motor.setPVTTorRange 10 (fun kept => { ranges with torque := kept }) attached _ _ range ranges pack
  | current => exact range_sent motor.setPVTCurRange 10 (fun kept => { ranges with current := kept }) attached _ _ range ranges pack

variable [IsStrictOrderedRing K] (motor : MotorImpl) (attached : Bool) (feedbackType : Fin 4) (feedback : Int32)

omit [LinearOrder K] [FloorRing K] [IsStrictOrderedRing K] in
theorem gain_scale_pos [LinearOrder K] [IsStrictOrderedRing K] (fwVersion : UInt32) : (0 : K) < loopGainScaleFor fwVersion := by
  rw [loopGainScaleFor]
  split <;> norm_num

theorem direct_call (call : Call K) (direct : call.convertsDirectly = true) (pack : MotorPackMsg) (sent : ∀ other, call.send motor attached feedbackType feedback = some other ↔
      call.passes attached feedbackType feedback ∧ other = pack)
    (held : ∀ slot ∈ call.slots motor, 0 < slot.scale ∧ wireWord pack slot.offset = slot.word) :
    call.Faithful motor attached feedbackType feedback ↔
      (call.convertsDirectly = true → call.passes attached feedbackType feedback → ∀ slot ∈ call.slots motor, slot.Fits) := by
  constructor
  · intro faithful _ passes slot inside
    obtain ⟨positive, word⟩ := held slot inside
    exact (slot.direct_iff pack positive word).mp (faithful pack ((sent pack).mpr ⟨passes, rfl⟩) slot inside)
  · intro fits other sends slot inside
    obtain ⟨passes, rfl⟩ := (sent other).mp sends
    obtain ⟨positive, word⟩ := held slot inside
    exact (slot.direct_iff other positive word).mpr (fits direct passes slot inside)

theorem clamped_faithful (argument scale : K) (offset : Nat) (pack : MotorPackMsg) (positive : 0 < scale)
    (held : wireWord pack offset = toUInt16 (Lattice.inside 0 65535 (argument * scale))) : (⟨argument, scale, false, offset⟩ : Slot K).Faithful pack := by
  rw [Slot.faithful_stands _ _ positive]
  have clamped := Conversion.stands_clamped (low false) (high false) (argument * scale) (spans false) (wide false).le
  have code : (⟨argument, scale, false, offset⟩ : Slot K).code pack = Conversion.wrapped (low false) (high false - low false + 1)
      (Conversion.truncate (Lattice.inside ((low false : Int) : K) (high false : Int) (argument * scale))) := by
    have wraps := to_uint16_wraps (Lattice.inside (0 : K) 65535 (argument * scale))
    rw [← held] at wraps
    rw [width]
    simpa [Slot.code, low, high] using wraps
  rw [code]
  exact clamped

theorem set_pos_faithful (nowPos : K) : (Call.setPos nowPos).Faithful motor attached feedbackType feedback := by
  intro pack sends slot inside
  obtain rfl : slot = ⟨nowPos, 180 / mPi * 100, true, 4⟩ := List.mem_singleton.mp inside
  have circle : (0 : K) < mPi := by norm_num [mPi]
  have same : nowPos * 180 / mPi * 100 = nowPos * (180 / mPi * 100) := by ring
  simp only [Call.send, setPos, same] at sends
  cases attached with
  | false => cases sends
  | true =>
    rw [if_pos rfl] at sends
    split at sends
    · cases sends
    · rename_i within
      rw [not_or, not_lt, gt_iff_lt, not_lt] at within
      cases sends
      have positive : (0 : K) < 180 / mPi * 100 := by positivity
      have held := set_pos_word motor (toInt16 (nowPos * (180 / mPi * 100)))
      refine (Slot.direct_iff ⟨nowPos, 180 / mPi * 100, true, 4⟩ _ positive held).mpr (Or.inl ?_)
      simp only [low, high, if_true]
      push_cast
      constructor <;> linarith [within.1, within.2]

omit [FloorRing K] in
theorem kind_scale_pos (kind : RangeKind) : (0 : K) < kind.scale := by
  cases kind <;> norm_num [RangeKind.scale]

theorem faithful_iff (call : Call K) : call.Faithful motor attached feedbackType feedback ↔
    (call.convertsDirectly = true → call.passes attached feedbackType feedback → ∀ slot ∈ call.slots motor, slot.Fits) := by
  cases call with
  | setRange kind range waitForAck acknowledged ranges =>
    refine direct_call motor attached feedbackType feedback _ rfl _ (kind_sent kind motor attached waitForAck acknowledged range ranges) ?_
    obtain ⟨first, second⟩ := pair_words motor kind.subCommand (toInt16 (range.min * kind.scale)).toUInt16
      (toInt16 (range.max * kind.scale)).toUInt16
    rw [Call.slots, List.forall_mem_cons, List.forall_mem_singleton]
    exact ⟨⟨kind_scale_pos kind, first⟩, ⟨kind_scale_pos kind, second⟩⟩
  | setCurPI kp ki =>
    refine direct_call motor attached feedbackType feedback _ rfl _ (bus_sent attached _) ?_
    obtain ⟨first, second⟩ := pair_words motor 0x0c (toUInt16 (kp * 10000)) (toUInt16 (ki * 10))
    rw [Call.slots, List.forall_mem_cons, List.forall_mem_singleton]
    exact ⟨⟨by norm_num, first⟩, ⟨by norm_num, second⟩⟩
  | setSpdPI kp ki =>
    refine iff_of_true (fun pack sends => ?_) nofun
    obtain ⟨_, rfl⟩ := (bus_sent attached _ pack).mp sends
    obtain ⟨first, second⟩ := pair_words motor 0x0d (clampedGain motor kp) (clampedGain motor ki)
    rw [Call.slots, List.forall_mem_cons, List.forall_mem_singleton]
    exact ⟨clamped_faithful kp _ 2 _ (gain_scale_pos _) first, clamped_faithful ki _ 4 _ (gain_scale_pos _) second⟩
  | setPosPD kp kd =>
    refine iff_of_true (fun pack sends => ?_) nofun
    obtain ⟨_, rfl⟩ := (bus_sent attached _ pack).mp sends
    obtain ⟨first, second⟩ := pair_words motor 0x0e (clampedGain motor kp) (clampedGain motor kd)
    rw [Call.slots, List.forall_mem_cons, List.forall_mem_singleton]
    exact ⟨clamped_faithful kp _ 2 _ (gain_scale_pos _) first, clamped_faithful kd _ 4 _ (gain_scale_pos _) second⟩
  | setPos nowPos => exact iff_of_true (set_pos_faithful motor attached feedbackType feedback nowPos) nofun
  | spdControl speedBits current =>
    refine direct_call motor attached feedbackType feedback _ rfl _ (MotorImpl.matching_sent attached feedbackType feedback _) ?_
    rw [Call.slots, List.forall_mem_singleton]
    exact ⟨by norm_num, spd_control_word motor _ _ _⟩
  | curControl current | torControl torque =>
    refine direct_call motor attached feedbackType feedback _ rfl _ (MotorImpl.matching_sent attached feedbackType feedback _) ?_
    rw [Call.slots, List.forall_mem_singleton]
    exact ⟨by norm_num, target_word motor _ _ _⟩
  | stop mode current =>
    have sent (pack : MotorPackMsg) : motor.stopCall attached feedbackType mode (toInt16 (current * 100)) feedback = some pack ↔
        attached = true ∧ pack = motor.stop mode (toInt16 (current * 100)) (feedbackByte feedback) := by
      rw [MotorImpl.stopCall]
      cases attached <;> simp [eq_comm]
    refine direct_call motor attached feedbackType feedback _ rfl _ sent ?_
    rw [Call.slots, List.forall_mem_singleton]
    exact ⟨by norm_num, target_word motor _ _ _⟩

end Calls

def SamePayload (answer sent : MotorPackMsg) : Prop :=
  answer.data.get 2 = sent.data.get 2 ∧ answer.data.get 3 = sent.data.get 3 ∧ answer.data.get 4 = sent.data.get 4 ∧ answer.data.get 5 = sent.data.get 5

theorem answer_words (parameterId : UInt8) (first second : UInt16) (answer : MotorPackMsg)
    (same : SamePayload answer (motor.writePair parameterId first second)) :
    readU16Be (answer.data.get 2) (answer.data.get 3) = first ∧ readU16Be (answer.data.get 4) (answer.data.get 5) = second := by
  obtain ⟨two, three, four, five⟩ := same
  rw [two, three, four, five]
  exact pair_words motor parameterId first second

section Kept

variable {K : Type} [Field K] [LinearOrder K] [FloorRing K]

theorem kind_kept (kind : RangeKind) (motor : MotorImpl) (attached waitForAck acknowledged : Bool) (range : Range K)
    (ranges : MotorProperties K) (outcome : Outcome K)
    (done : kind.set motor attached waitForAck acknowledged range ranges = .ok outcome) (success : outcome.success = true)
    (answer : MotorPackMsg) (same : SamePayload answer outcome.sent) :
    getParameterRange kind.parameter answer = some (kind.kept outcome.ranges) := by
  have sent : outcome.sent = motor.writePair kind.subCommand (toInt16 (range.min * kind.scale)).toUInt16
      (toInt16 (range.max * kind.scale)).toUInt16 := by
    have ran := kind_sent kind motor attached waitForAck acknowledged range ranges outcome.sent
    rw [done] at ran
    exact (ran.mp rfl).2
  rw [sent] at same
  obtain ⟨first, second⟩ := answer_words motor _ _ _ answer same
  have kept : kind.kept outcome.ranges =
      ⟨(toInt16 (range.min * kind.scale)).toInt / kind.scale, (toInt16 (range.max * kind.scale)).toInt / kind.scale⟩ := by
    cases kind <;>
    · simp only [RangeKind.set, setPVTPosRange, setPVTSpdRange, setPVTTorRange, setPVTCurRange, setRange] at done
      split at done
      · cases done
        simp only at success
        simp only [RangeKind.kept, RangeKind.scale, success, if_true]
      · cases done
  have decoded (rawType : RawType) (ranged : rawType = .rangeInt16) : decodeParameterRaw rawType answer =
      .rangeInt16 (toInt16 (range.min * kind.scale)) (toInt16 (range.max * kind.scale)) := by
    rw [ranged, decodeParameterRaw, readI16Be, readI16Be, first, second, Int16.toInt16_toUInt16, Int16.toInt16_toUInt16]
  have read := decoded kind.parameter.rawType (by cases kind <;> rfl)
  unfold getParameterRange
  rw [kept, read]
  cases kind <;> rfl

variable [IsStrictOrderedRing K]

/-- Every call that clamps or checks its arguments is faithful; any other is where its arguments fit their slots. -/
theorem setters_faithful_iff (motor : MotorImpl) (attached : Bool) (feedbackType : Fin 4) (feedback : Int32) (call : Call K) :
    (call.Faithful motor attached feedbackType feedback ↔
      (call.convertsDirectly = true → call.passes attached feedbackType feedback → ∀ slot ∈ call.slots motor, slot.Fits)) ∧
    ∀ (kind : RangeKind) (waitForAck acknowledged : Bool) (range : Range K) (ranges : MotorProperties K) (outcome : Outcome K),
      kind.set motor attached waitForAck acknowledged range ranges = .ok outcome → outcome.success = true →
        ∀ answer, SamePayload answer outcome.sent → getParameterRange kind.parameter answer = some (kind.kept outcome.ranges) :=
  ⟨faithful_iff motor attached feedbackType feedback call, fun kind waitForAck acknowledged range ranges outcome done success answer same =>
    kind_kept kind motor attached waitForAck acknowledged range ranges outcome done success answer same⟩

end Kept

def oldMotor : MotorImpl := ⟨1, 0, 0⟩

theorem three_amperes_faithful : (Call.curControl (3 : ℚ)).Faithful oldMotor true 0 0 := by
  refine (setters_faithful_iff oldMotor true 0 0 (Call.curControl (3 : ℚ))).1.mpr fun _ _ => ?_
  rw [Call.slots, List.forall_mem_singleton]
  exact Or.inl ⟨by norm_num [low], by norm_num [high]⟩

/-- 400 A are 40000 hundredths, and on the wire they read -255.36 A. -/
theorem large_current_wraps : ¬ (Call.curControl (400 : ℚ)).Faithful oldMotor true 0 0 := by
  rw [faithful_iff]
  intro fits
  have fit := fits rfl ⟨rfl, Or.inl rfl⟩ ⟨400, 100, true, 1⟩ (List.mem_singleton_self _)
  rcases fit with ⟨_, below⟩ | ⟨_, lands⟩ | ⟨below, _⟩
  · norm_num [high] at below
  · norm_num [high, low] at lands
  · norm_num [low] at below

end EncosDriver.Motor.Setters
