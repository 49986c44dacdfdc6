import EncosDriver.Lib.Search
import Mathlib.Tactic.Ring

set_option autoImplicit false

namespace EncosDriver.GsUsb

open Lib

structure BitTiming where
  propSeg : UInt32
  phaseSeg1 : UInt32
  phaseSeg2 : UInt32
  sjw : UInt32
  brp : UInt32
deriving DecidableEq, Repr

structure BtConstExt where
  fclk : UInt32
  tseg1Min : UInt32
  tseg1Max : UInt32
  tseg2Min : UInt32
  tseg2Max : UInt32
  sjwMax : UInt32
  brpMin : UInt32
  brpMax : UInt32
  brpInc : UInt32
  dtseg1Min : UInt32
  dtseg1Max : UInt32
  dtseg2Min : UInt32
  dtseg2Max : UInt32
  dsjwMax : UInt32
  dbrpMin : UInt32
  dbrpMax : UInt32
  dbrpInc : UInt32
deriving DecidableEq, Repr

structure Limits where
  tseg1Min : UInt32
  tseg1Max : UInt32
  tseg2Min : UInt32
  tseg2Max : UInt32
  sjwMax : UInt32
  brpMin : UInt32
  brpMax : UInt32
  brpInc : UInt32
deriving DecidableEq, Repr

def BtConstExt.limits (constraints : BtConstExt) (dataPhase : Bool) : Limits where
  tseg1Min := if dataPhase then constraints.dtseg1Min else constraints.tseg1Min
  tseg1Max := if dataPhase then constraints.dtseg1Max else constraints.tseg1Max
  tseg2Min := if dataPhase then constraints.dtseg2Min else constraints.tseg2Min
  tseg2Max := if dataPhase then constraints.dtseg2Max else constraints.tseg2Max
  sjwMax := if dataPhase then constraints.dsjwMax else constraints.sjwMax
  brpMin := if dataPhase then constraints.dbrpMin else constraints.brpMin
  brpMax := if dataPhase then constraints.dbrpMax else constraints.brpMax
  brpInc := if dataPhase then constraints.dbrpInc else constraints.brpInc

-- A floating-point sample point, seen only through its two comparisons with 0.0
-- and 1.0 and through the rounding of its product with a number of quanta, which
-- may be any integer.
structure SamplePoint where
  tooLow : Bool
  tooHigh : Bool
  llround : UInt64 → Int

def desiredSeg1 (limits : Limits) (sample : SamplePoint) (total : UInt64) : Int :=
  let maxSeg1 : Int := (total.toNat : Int) - 1 - (limits.tseg2Min.toNat : Int)
  let desired := sample.llround total - 1
  let desired := if desired < (limits.tseg1Min.toNat : Int) then (limits.tseg1Min.toNat : Int) else desired
  let desired := if desired > (limits.tseg1Max.toNat : Int) then (limits.tseg1Max.toNat : Int) else desired
  if desired > maxSeg1 then maxSeg1 else desired

def splitQuanta (limits : Limits) (sample : SamplePoint) (brp total : UInt64) : Option BitTiming :=
  if total < (1 + limits.tseg1Min + limits.tseg2Min).toUInt64 then none
  else if desiredSeg1 limits sample total < (limits.tseg1Min.toNat : Int) then none
  else
    let seg1 := UInt32.ofNat (desiredSeg1 limits sample total).toNat
    let seg2 := (total - 1 - seg1.toUInt64).toUInt32
    if seg2 < limits.tseg2Min ∨ seg2 > limits.tseg2Max then none
    else some ⟨0, seg1, seg2, max 1 (min (min seg1 seg2) limits.sjwMax), brp.toUInt32⟩

def timingSearch (limits : Limits) (fclk target : UInt64) (sample : SamplePoint) : Search UInt64 BitTiming where
  proceed brp := decide (brp ≤ limits.brpMax.toUInt64)
  next brp := brp + limits.brpInc.toUInt64
  body brp :=
    let denominator := target * brp
    if denominator = 0 ∨ fclk % denominator ≠ 0 then none else splitQuanta limits sample brp (fclk / denominator)

def computeBitTiming (fuel : Nat) (constraints : BtConstExt) (bitrate : UInt32) (sample : SamplePoint) (dataPhase : Bool) :
    Option (Option BitTiming) :=
  let limits := constraints.limits dataPhase
  if constraints.fclk = 0 ∨ bitrate = 0 ∨ sample.tooLow = true ∨ sample.tooHigh = true then some none
  else if limits.brpMin = 0 ∨ limits.brpInc = 0 ∨ limits.tseg2Min = 0 then some none
  else
    (timingSearch limits constraints.fclk.toUInt64 bitrate.toUInt64 sample).run fuel limits.brpMin.toUInt64

variable (limits : Limits) (sample : SamplePoint)

theorem desired_seg1_eq (total : UInt64) :
    desiredSeg1 limits sample total =
      min (min (max (sample.llround total - 1) limits.tseg1Min.toNat) limits.tseg1Max.toNat)
        ((total.toNat : Int) - 1 - limits.tseg2Min.toNat) := by
  unfold desiredSeg1
  dsimp only
  split <;> split <;> split <;> omega

theorem least_quanta (limits : Limits) :
    (1 + limits.tseg1Min + limits.tseg2Min).toUInt64.toNat ≤ 1 + limits.tseg1Min.toNat + limits.tseg2Min.toNat := by
  rw [UInt32.toNat_toUInt64, UInt32.toNat_add, UInt32.toNat_add]
  have one : (1 : UInt32).toNat = 1 := rfl
  rw [one]
  omega

structure Splits (limits : Limits) (total : Nat) (timing : BitTiming) : Prop where
  whole : 1 + timing.propSeg.toNat + timing.phaseSeg1.toNat + timing.phaseSeg2.toNat = total
  unused : timing.propSeg = 0
  seg1Low : limits.tseg1Min.toNat ≤ timing.phaseSeg1.toNat
  seg1High : timing.phaseSeg1.toNat ≤ limits.tseg1Max.toNat
  seg2Low : limits.tseg2Min.toNat ≤ timing.phaseSeg2.toNat
  seg2High : timing.phaseSeg2.toNat ≤ limits.tseg2Max.toNat
  jump : timing.sjw = max 1 (min (min timing.phaseSeg1 timing.phaseSeg2) limits.sjwMax)

theorem segments_exact (total : UInt64) (small : total.toNat < 2 ^ 32)
    (low : (limits.tseg1Min.toNat : Int) ≤ desiredSeg1 limits sample total) :
    ∃ seg1 seg2 : UInt32, UInt32.ofNat (desiredSeg1 limits sample total).toNat = seg1 ∧
      (total - 1 - seg1.toUInt64).toUInt32 = seg2 ∧ (seg1.toNat : Int) = desiredSeg1 limits sample total ∧
      1 + seg1.toNat + seg2.toNat = total.toNat := by
  have shape := desired_seg1_eq limits sample total
  have top := limits.tseg1Max.toNat_lt
  have seg1Exact : (UInt32.ofNat (desiredSeg1 limits sample total).toNat).toNat = (desiredSeg1 limits sample total).toNat :=
    UInt32.toNat_ofNat_of_lt' (by rw [UInt32.size]; omega)
  refine ⟨_, _, rfl, rfl, by rw [seg1Exact]; omega, ?_⟩
  have one : (1 : UInt64).toNat = 1 := rfl
  have oneInside : (1 : UInt64) ≤ total := UInt64.le_iff_toNat_le.mpr (by rw [one]; omega)
  have seg1Inside : (UInt32.ofNat (desiredSeg1 limits sample total).toNat).toUInt64 ≤ total - 1 := by
    rw [UInt64.le_iff_toNat_le, UInt64.toNat_sub_of_le _ _ oneInside, UInt32.toNat_toUInt64, seg1Exact, one]
    omega
  rw [UInt64.toNat_toUInt32, UInt64.toNat_sub_of_le _ _ seg1Inside, UInt64.toNat_sub_of_le _ _ oneInside,
    UInt32.toNat_toUInt64, seg1Exact, one]
  omega

theorem split_sound (brp total : UInt64) (timing : BitTiming)
    (small : total.toNat < 2 ^ 32) (split : splitQuanta limits sample brp total = some timing) :
    Splits limits total.toNat timing ∧ timing.brp = brp.toUInt32 ∧
      (total.toNat : Int) - 1 - max (sample.llround total - 1) limits.tseg1Min.toNat ≤ limits.tseg2Max.toNat := by
  unfold splitQuanta at split
  split at split
  · cases split
  split at split
  · cases split
  rename_i notLow
  obtain ⟨seg1, seg2, seg1Eq, seg2Eq, desired, whole⟩ := segments_exact limits sample total small (by omega)
  dsimp only at split
  rw [seg1Eq, seg2Eq] at split
  split at split
  · cases split
  rename_i inLimits
  have shape := desired_seg1_eq limits sample total
  have low : limits.tseg2Min.toNat ≤ seg2.toNat := UInt32.le_iff_toNat_le.mp (UInt32.not_lt.mp fun less => inLimits (.inl less))
  have high : seg2.toNat ≤ limits.tseg2Max.toNat := UInt32.le_iff_toNat_le.mp (UInt32.not_lt.mp fun more => inLimits (.inr more))
  cases split
  refine ⟨⟨?_, rfl, by dsimp only; omega, by dsimp only; omega, low, high, rfl⟩, rfl, by omega⟩
  dsimp only
  rw [show (0 : UInt32).toNat = 0 from rfl]
  omega

theorem split_complete (brp total : UInt64) (small : total.toNat < 2 ^ 32)
    (seg1 seg2 : Nat) (whole : 1 + seg1 + seg2 = total.toNat) (seg1Low : limits.tseg1Min.toNat ≤ seg1)
    (seg1High : seg1 ≤ limits.tseg1Max.toNat) (seg2Low : limits.tseg2Min.toNat ≤ seg2) (seg2High : seg2 ≤ limits.tseg2Max.toNat)
    (leaves : (total.toNat : Int) - 1 - max (sample.llround total - 1) limits.tseg1Min.toNat ≤ limits.tseg2Max.toNat) :
    ∃ timing, splitQuanta limits sample brp total = some timing := by
  have shape := desired_seg1_eq limits sample total
  have least := least_quanta limits
  unfold splitQuanta
  rw [if_neg (by rw [UInt64.lt_iff_toNat_lt]; omega), if_neg (by omega)]
  obtain ⟨first, second, firstEq, secondEq, desired, exact⟩ := segments_exact limits sample total small (by omega)
  dsimp only
  rw [firstEq, secondEq, if_neg]
  · exact ⟨_, rfl⟩
  · rw [UInt32.lt_iff_toNat_lt, gt_iff_lt, UInt32.lt_iff_toNat_lt]
    omega

structure Feasible (limits : Limits) (fclk bitrate : UInt32) (brp seg1 seg2 : Nat) : Prop where
  clock : fclk.toNat = bitrate.toNat * brp * (1 + seg1 + seg2)
  prescaler : ∃ count, brp = limits.brpMin.toNat + count * limits.brpInc.toNat
  brpHigh : brp ≤ limits.brpMax.toNat
  seg1Low : limits.tseg1Min.toNat ≤ seg1
  seg1High : seg1 ≤ limits.tseg1Max.toNat
  seg2Low : limits.tseg2Min.toNat ≤ seg2
  seg2High : seg2 ≤ limits.tseg2Max.toNat

section Prescalers

variable (limits : Limits) (fclk bitrate : UInt32) (sample : SamplePoint)

variable (brp : UInt64)

theorem proceed_iff :
    (timingSearch limits fclk.toUInt64 bitrate.toUInt64 sample).proceed brp = true ↔ brp.toNat ≤ limits.brpMax.toNat := by
  unfold timingSearch
  rw [decide_eq_true_eq, UInt64.le_iff_toNat_le, UInt32.toNat_toUInt64]

theorem next_exact (inside : brp.toNat ≤ limits.brpMax.toNat) :
    ((timingSearch limits fclk.toUInt64 bitrate.toUInt64 sample).next brp).toNat = brp.toNat + limits.brpInc.toNat := by
  have top := limits.brpMax.toNat_lt
  have step := limits.brpInc.toNat_lt
  unfold timingSearch
  rw [UInt64.toNat_add, UInt32.toNat_toUInt64]
  omega

theorem product_exact (inside : brp.toNat ≤ limits.brpMax.toNat) :
    (bitrate.toUInt64 * brp).toNat = bitrate.toNat * brp.toNat := by
  have top := limits.brpMax.toNat_lt
  have rate := bitrate.toNat_lt
  rw [UInt64.toNat_mul, UInt32.toNat_toUInt64]
  refine Nat.mod_eq_of_lt ?_
  calc bitrate.toNat * brp.toNat ≤ bitrate.toNat * 2 ^ 32 := Nat.mul_le_mul_left _ (by omega)
    _ < 2 ^ 32 * 2 ^ 32 := Nat.mul_lt_mul_of_pos_right rate (by decide)
    _ = 2 ^ 64 := by decide

theorem visits_iff :
    (timingSearch limits fclk.toUInt64 bitrate.toUInt64 sample).Visits limits.brpMin.toUInt64 brp ↔
      brp.toNat ≤ limits.brpMax.toNat ∧ ∃ count, brp.toNat = limits.brpMin.toNat + count * limits.brpInc.toNat := by
  constructor
  · intro visited
    induction visited with
    | first inside => exact ⟨(proceed_iff ..).mp inside, 0, by rw [UInt32.toNat_toUInt64]; omega⟩
    | later before _ inside ih =>
      obtain ⟨bounded, count, value⟩ := ih
      refine ⟨(proceed_iff ..).mp inside, count + 1, ?_⟩
      rw [next_exact limits fclk bitrate sample before bounded, value]
      ring
  · rintro ⟨bounded, count, value⟩
    induction count generalizing brp with
    | zero =>
      have same : brp = limits.brpMin.toUInt64 := UInt64.toNat_inj.mp (by rw [UInt32.toNat_toUInt64]; omega)
      subst same
      exact .first ((proceed_iff ..).mpr bounded)
    | succ count ih =>
      have top := limits.brpMax.toNat_lt
      have unrolled : (count + 1) * limits.brpInc.toNat = count * limits.brpInc.toNat + limits.brpInc.toNat := by ring
      have exactBefore : (UInt64.ofNat (limits.brpMin.toNat + count * limits.brpInc.toNat)).toNat =
          limits.brpMin.toNat + count * limits.brpInc.toNat := UInt64.toNat_ofNat_of_lt' (by rw [UInt64.size]; omega)
      have before := ih (UInt64.ofNat (limits.brpMin.toNat + count * limits.brpInc.toNat)) (by omega) exactBefore
      have stepped : (timingSearch limits fclk.toUInt64 bitrate.toUInt64 sample).next
          (UInt64.ofNat (limits.brpMin.toNat + count * limits.brpInc.toNat)) = brp := by
        refine UInt64.toNat_inj.mp ?_
        rw [next_exact limits fclk bitrate sample _ (by omega)]
        omega
      rw [← stepped]
      exact .later _ before ((proceed_iff ..).mpr (by rw [stepped]; exact bounded))

theorem body_iff (inside : brp.toNat ≤ limits.brpMax.toNat) (timing : BitTiming) :
    (timingSearch limits fclk.toUInt64 bitrate.toUInt64 sample).body brp = some timing ↔
      bitrate.toNat * brp.toNat ≠ 0 ∧ ∃ total : UInt64, total.toNat < 2 ^ 32 ∧
        fclk.toNat = bitrate.toNat * brp.toNat * total.toNat ∧ splitQuanta limits sample brp total = some timing := by
  have product := product_exact limits bitrate brp inside
  have nonzero : bitrate.toUInt64 * brp = 0 ↔ bitrate.toNat * brp.toNat = 0 := by
    rw [← product, ← UInt64.toNat_inj]
    rfl
  have divides : fclk.toUInt64 % (bitrate.toUInt64 * brp) = 0 ↔ fclk.toNat % (bitrate.toNat * brp.toNat) = 0 := by
    rw [← UInt64.toNat_inj, UInt64.toNat_mod, product, UInt32.toNat_toUInt64]
    rfl
  have quotient : (fclk.toUInt64 / (bitrate.toUInt64 * brp)).toNat = fclk.toNat / (bitrate.toNat * brp.toNat) := by
    rw [UInt64.toNat_div, product, UInt32.toNat_toUInt64]
  have top := fclk.toNat_lt
  unfold timingSearch
  dsimp only
  constructor
  · intro returned
    split at returned
    · cases returned
    rename_i usable
    rw [not_or, not_not] at usable
    refine ⟨fun zero => usable.1 (nonzero.mpr zero), _, ?_, ?_, returned⟩
    · rw [quotient]
      exact Nat.lt_of_le_of_lt (Nat.div_le_self _ _) top
    · rw [quotient]
      exact (Nat.mul_div_cancel' (Nat.dvd_of_mod_eq_zero (divides.mp usable.2))).symm
  · rintro ⟨positive, total, _, clock, splits⟩
    have same : fclk.toUInt64 / (bitrate.toUInt64 * brp) = total := by
      refine UInt64.toNat_inj.mp ?_
      rw [quotient, clock]
      exact Nat.mul_div_cancel_left _ (Nat.pos_of_ne_zero positive)
    rw [if_neg, same]
    · exact splits
    · rw [not_or, not_not]
      exact ⟨fun zero => positive (nonzero.mp zero), divides.mpr (by rw [clock]; exact Nat.mul_mod_right _ _)⟩

end Prescalers

section Timing

variable (constraints : BtConstExt) (bitrate : UInt32) (sample : SamplePoint) (dataPhase : Bool)

def Admitted : Prop :=
  ¬ (constraints.fclk = 0 ∨ bitrate = 0 ∨ sample.tooLow = true ∨ sample.tooHigh = true) ∧
    ¬ ((constraints.limits dataPhase).brpMin = 0 ∨ (constraints.limits dataPhase).brpInc = 0 ∨
      (constraints.limits dataPhase).tseg2Min = 0)

instance : Decidable (Admitted constraints bitrate sample dataPhase) := by
  unfold Admitted
  infer_instance

theorem refused_timing (refused : ¬ Admitted constraints bitrate sample dataPhase) (fuel : Nat) :
    computeBitTiming fuel constraints bitrate sample dataPhase = some none := by
  unfold computeBitTiming
  dsimp only
  split
  · rfl
  · rename_i first
    rw [if_pos]
    exact Decidable.not_not.mp fun second => refused ⟨first, second⟩

theorem admitted_timing (admitted : Admitted constraints bitrate sample dataPhase) (fuel : Nat) :
    computeBitTiming fuel constraints bitrate sample dataPhase =
      (timingSearch (constraints.limits dataPhase) constraints.fclk.toUInt64 bitrate.toUInt64 sample).run fuel
        (constraints.limits dataPhase).brpMin.toUInt64 := by
  unfold computeBitTiming
  rw [if_neg admitted.1, if_neg admitted.2]

theorem timing_ends : ∃ result, ∀ fuel, (constraints.limits dataPhase).brpMax.toNat + 1 < fuel →
    computeBitTiming fuel constraints bitrate sample dataPhase = some result := by
  by_cases admitted : Admitted constraints bitrate sample dataPhase
  · have advances : 0 < (constraints.limits dataPhase).brpInc.toNat := by
      have nonzero := mt UInt32.toNat_inj.mp fun zero => admitted.2 (.inr (.inl zero))
      exact Nat.pos_of_ne_zero nonzero
    obtain ⟨result, ended⟩ := Search.run_ends
      (timingSearch (constraints.limits dataPhase) constraints.fclk.toUInt64 bitrate.toUInt64 sample)
      (fun brp => (constraints.limits dataPhase).brpMax.toNat + 1 - brp.toNat)
      (by
        intro brp proceeds
        have inside := (proceed_iff (constraints.limits dataPhase) constraints.fclk bitrate sample brp).mp proceeds
        rw [next_exact (constraints.limits dataPhase) constraints.fclk bitrate sample brp inside]
        omega)
      ((constraints.limits dataPhase).brpMax.toNat + 2) (constraints.limits dataPhase).brpMin.toUInt64 (by omega)
    refine ⟨result, ?_⟩
    intro fuel enough
    rw [admitted_timing constraints bitrate sample dataPhase admitted]
    exact Search.run_more _ _ _ _ result ended enough
  · exact ⟨none, fun fuel _ => refused_timing constraints bitrate sample dataPhase admitted fuel⟩

theorem timing_found (fuel : Nat) (timing : BitTiming)
    (found : computeBitTiming fuel constraints bitrate sample dataPhase = some (some timing)) :
    Feasible (constraints.limits dataPhase) constraints.fclk bitrate timing.brp.toNat timing.phaseSeg1.toNat
        timing.phaseSeg2.toNat ∧
      ∃ total, Splits (constraints.limits dataPhase) total timing := by
  by_cases admitted : Admitted constraints bitrate sample dataPhase
  · rw [admitted_timing constraints bitrate sample dataPhase admitted] at found
    obtain ⟨brp, visited, returned⟩ := Search.run_found _ fuel _ timing found
    obtain ⟨inside, count, value⟩ := (visits_iff ..).mp visited
    obtain ⟨_, total, small, clock, splits⟩ := (body_iff _ _ _ _ _ inside _).mp returned
    obtain ⟨parts, brpEq, _⟩ := split_sound _ _ _ _ _ small splits
    have top := (constraints.limits dataPhase).brpMax.toNat_lt
    have brpExact : timing.brp.toNat = brp.toNat := by
      rw [brpEq, UInt64.toNat_toUInt32]
      omega
    have unused := congrArg UInt32.toNat parts.unused
    have whole : 1 + timing.phaseSeg1.toNat + timing.phaseSeg2.toNat = total.toNat := by
      have sum := parts.whole
      rw [unused] at sum
      exact sum
    exact ⟨⟨by rw [brpExact, whole, clock], ⟨count, by rw [brpExact, value]⟩, by rw [brpExact]; exact inside, parts.seg1Low,
      parts.seg1High, parts.seg2Low, parts.seg2High⟩, _, parts⟩
  · rw [refused_timing constraints bitrate sample dataPhase admitted] at found
    cases found

theorem jump_bounds (limits : Limits) (total : Nat) (timing : BitTiming) (parts : Splits limits total timing) :
    1 ≤ timing.sjw ∧ (1 ≤ min (min timing.phaseSeg1 timing.phaseSeg2) limits.sjwMax →
      timing.sjw ≤ min (min timing.phaseSeg1 timing.phaseSeg2) limits.sjwMax) := by
  have largest : ∀ bound : UInt32, max 1 bound = if 1 ≤ bound then bound else 1 := fun _ => rfl
  rw [parts.jump, largest]
  split
  · rename_i least
    exact ⟨least, fun _ => UInt32.le_refl _⟩
  · rename_i least
    exact ⟨UInt32.le_refl _, fun least' => absurd least' least⟩

theorem bit_timing_sound :
    (∃ result, ∀ fuel, (constraints.limits dataPhase).brpMax.toNat + 1 < fuel →
      computeBitTiming fuel constraints bitrate sample dataPhase = some result) ∧
    (∀ brp, (timingSearch (constraints.limits dataPhase) constraints.fclk.toUInt64 bitrate.toUInt64 sample).Visits
        (constraints.limits dataPhase).brpMin.toUInt64 brp →
      (bitrate.toUInt64 * brp).toNat = bitrate.toNat * brp.toNat ∧
        (brp + (constraints.limits dataPhase).brpInc.toUInt64).toNat =
          brp.toNat + (constraints.limits dataPhase).brpInc.toNat) ∧
    ∀ fuel timing, computeBitTiming fuel constraints bitrate sample dataPhase = some (some timing) →
      Feasible (constraints.limits dataPhase) constraints.fclk bitrate timing.brp.toNat timing.phaseSeg1.toNat
          timing.phaseSeg2.toNat ∧
        timing.propSeg = 0 ∧ 1 ≤ timing.sjw ∧
        (1 ≤ min (min timing.phaseSeg1 timing.phaseSeg2) (constraints.limits dataPhase).sjwMax →
          timing.sjw ≤ min (min timing.phaseSeg1 timing.phaseSeg2) (constraints.limits dataPhase).sjwMax) := by
  refine ⟨timing_ends constraints bitrate sample dataPhase, ?_, ?_⟩
  · intro brp visited
    obtain ⟨inside, _⟩ := (visits_iff ..).mp visited
    exact ⟨product_exact _ _ _ inside, next_exact _ constraints.fclk bitrate sample _ inside⟩
  · intro fuel timing found
    obtain ⟨feasible, total, parts⟩ := timing_found constraints bitrate sample dataPhase fuel timing found
    exact ⟨feasible, parts.unused, jump_bounds _ total timing parts⟩

end Timing

def sampleConstraints (tseg2Max brpMax : UInt32) : BtConstExt :=
  ⟨20000000, 1, 16, 1, tseg2Max, 4, 1, brpMax, 1, 1, 16, 1, tseg2Max, 4, 1, brpMax, 1⟩

def threeQuarters : SamplePoint := ⟨false, false, fun total => (3 * total.toNat + 2) / 4⟩
def halfPoint : SamplePoint := ⟨false, false, fun total => (total.toNat + 1) / 2⟩
def zeroPoint : SamplePoint := ⟨true, false, fun _ => 0⟩

theorem bit_timing_sound_megabit :
    computeBitTiming 2 (sampleConstraints 8 1024) 1000000 threeQuarters false = some (some ⟨0, 14, 5, 4, 1⟩) ∧
      Feasible ((sampleConstraints 8 1024).limits false) 20000000 1000000 1 14 5 :=
  ⟨by decide, ((bit_timing_sound (sampleConstraints 8 1024) 1000000 threeQuarters false).2.2 2 ⟨0, 14, 5, 4, 1⟩ (by decide)).1⟩

section Completeness

variable (constraints : BtConstExt) (bitrate : UInt32) (sample : SamplePoint) (dataPhase : Bool)

def Leaves (limits : Limits) (quanta : Nat) : Prop :=
  (quanta : Int) - 1 - max (sample.llround (UInt64.ofNat quanta) - 1) limits.tseg1Min.toNat ≤ limits.tseg2Max.toNat

theorem bit_timing_complete (brp seg1 seg2 : Nat) (admitted : Admitted constraints bitrate sample dataPhase)
    (feasible : Feasible (constraints.limits dataPhase) constraints.fclk bitrate brp seg1 seg2)
    (leaves : Leaves sample (constraints.limits dataPhase) (1 + seg1 + seg2)) :
    ∃ timing, ∀ fuel, (constraints.limits dataPhase).brpMax.toNat + 1 < fuel →
      computeBitTiming fuel constraints bitrate sample dataPhase = some (some timing) := by
  obtain ⟨result, ended⟩ := timing_ends constraints bitrate sample dataPhase
  cases result with
  | some timing => exact ⟨timing, ended⟩
  | none =>
    exfalso
    have top := (constraints.limits dataPhase).brpMax.toNat_lt
    have clockTop := constraints.fclk.toNat_lt
    have clock := feasible.clock
    have nonzero : bitrate.toNat * brp ≠ 0 := by
      intro zero
      rw [zero, Nat.zero_mul] at clock
      exact admitted.1 (.inl (UInt32.toNat_inj.mp clock))
    have quantaSmall : 1 + seg1 + seg2 < 2 ^ 32 := by
      have bound := Nat.le_mul_of_pos_left (1 + seg1 + seg2) (Nat.pos_of_ne_zero nonzero)
      omega
    have brpExact : (UInt64.ofNat brp).toNat = brp :=
      UInt64.toNat_ofNat_of_lt' (by have := feasible.brpHigh; rw [UInt64.size]; omega)
    have quantaExact : (UInt64.ofNat (1 + seg1 + seg2)).toNat = 1 + seg1 + seg2 :=
      UInt64.toNat_ofNat_of_lt' (by rw [UInt64.size]; omega)
    have inside : (UInt64.ofNat brp).toNat ≤ (constraints.limits dataPhase).brpMax.toNat := by
      rw [brpExact]
      exact feasible.brpHigh
    obtain ⟨timing, splits⟩ := split_complete (constraints.limits dataPhase) sample (UInt64.ofNat brp)
      (UInt64.ofNat (1 + seg1 + seg2)) (by omega) seg1 seg2 quantaExact.symm feasible.seg1Low feasible.seg1High
      feasible.seg2Low feasible.seg2High (by rw [quantaExact]; exact leaves)
    have returned := (body_iff (constraints.limits dataPhase) constraints.fclk bitrate sample _ inside timing).mpr
      ⟨by rw [brpExact]; exact nonzero, _, by omega, by rw [brpExact, quantaExact, clock], splits⟩
    have visited := (visits_iff (constraints.limits dataPhase) constraints.fclk bitrate sample _).mpr
      ⟨inside, by rw [brpExact]; exact feasible.prescaler⟩
    have ran := ended ((constraints.limits dataPhase).brpMax.toNat + 2) (by omega)
    rw [admitted_timing constraints bitrate sample dataPhase admitted] at ran
    rw [Search.run_exhausted _ _ _ ran _ visited] at returned
    cases returned

end Completeness

theorem bit_timing_complete_megabit :
    ∃ timing, computeBitTiming 1026 (sampleConstraints 8 1024) 1000000 threeQuarters false = some (some timing) := by
  obtain ⟨timing, ended⟩ := bit_timing_complete (sampleConstraints 8 1024) 1000000 threeQuarters false 1 14 5 (by decide)
    ⟨by decide, ⟨0, by decide⟩, by decide, by decide, by decide, by decide, by decide⟩ (by unfold Leaves; decide)
  exact ⟨timing, ended 1026 (by decide)⟩

/-- Twenty quanta can be split in 16 and 3, but a sample point of 0.5 leaves ten for segment 2; and a sample point of
0.0 is refused whatever the limits are. -/
theorem feasible_not_found :
    Feasible ((sampleConstraints 4 1).limits false) 20000000 1000000 1 16 3 ∧
      computeBitTiming 3 (sampleConstraints 4 1) 1000000 halfPoint false = some none ∧
      Feasible ((sampleConstraints 8 1).limits false) 20000000 1000000 1 14 5 ∧
      computeBitTiming 3 (sampleConstraints 8 1) 1000000 zeroPoint false = some none :=
  ⟨⟨by decide, ⟨0, by decide⟩, by decide, by decide, by decide, by decide, by decide⟩, by decide,
    ⟨by decide, ⟨0, by decide⟩, by decide, by decide, by decide, by decide, by decide⟩, by decide⟩

end EncosDriver.GsUsb
