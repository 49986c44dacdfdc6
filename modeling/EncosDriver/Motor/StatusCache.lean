import EncosDriver.Motor.Feedback
import Mathlib.Data.List.Sort

set_option autoImplicit false

namespace EncosDriver.Motor

open Message

-- What the status filter asks of its numbers.
class FilterArithmetic (Number : Type) where
  isFinite : Number → Bool
  below : Number → Number → Bool
  nonneg : Number → Bool
  difference : Number → Number → Number
  magnitude : Number → Number
  notANumber : Number

namespace StatusCache

abbrev Status := MotorStatus Float32

def quietNaN : Float32 := .ofBits 0x7FC00000

def intMax : Int := 2 ^ 31 - 1

def emptyStatus : Status := ⟨.noResponse, quietNaN, quietNaN, quietNaN, quietNaN, quietNaN⟩

def autoDecodeFeedback (pack : MotorPackMsg) (ranges : MotorProperties Float32) : Status :=
  match pack.data.get 0 >>> 5 with
  | 1 => (decodeFeedback1 pack ranges).getD emptyStatus
  | 2 =>
    match decodeFeedback2 pack ranges with
    | some fb2 => ⟨fb2.error, fb2.position, quietNaN, fb2.current, fb2.motorTemperature, quietNaN⟩
    | none => emptyStatus
  | 3 =>
    match decodeFeedback3 pack ranges with
    | some fb3 => ⟨fb3.error, quietNaN, fb3.speed, fb3.current, fb3.motorTemperature, quietNaN⟩
    | none => emptyStatus
  | _ => emptyStatus

instance : FilterArithmetic Float32 where
  isFinite := Float32.isFinite
  below first second := decide (first < second)
  nonneg value := decide (value ≥ 0)
  difference first second := first - second
  magnitude := Float32.abs
  notANumber := quietNaN

section Numbers

open FilterArithmetic

variable {Number : Type} [FilterArithmetic Number]

-- Only finite values are sampled, so the order is total.
def medianStatusValue (values : List Number) : Number :=
  let sortedValues := values.mergeSort (fun first second => !below second first)
  sortedValues[sortedValues.length / 2]?.getD notANumber

def isMedianStatusFilterEnabled (windowSize : Nat) : Bool := decide (windowSize > 1)

def isLimitStatusFilterEnabled (maxDelta : Number) : Bool := isFinite maxDelta && nonneg maxDelta

structure Filtered (Number : Type) where
  value : Number
  lastAccepted : Number
  samples : List Number

def filterStatusValue (value lastAccepted : Number) (samples : List Number) (maxDelta : Number) (windowSize : Nat) : Filtered Number :=
  if !isFinite value then ⟨value, lastAccepted, samples⟩
  else if isLimitStatusFilterEnabled maxDelta && isFinite lastAccepted && below maxDelta (magnitude (difference value lastAccepted)) then
    if isMedianStatusFilterEnabled windowSize && !samples.isEmpty then ⟨medianStatusValue samples, lastAccepted, samples⟩
    else ⟨lastAccepted, lastAccepted, samples⟩
  else if !isMedianStatusFilterEnabled windowSize then ⟨value, value, samples⟩
  else
    let pushed := samples ++ [value]
    let kept := if pushed.length > windowSize then pushed.drop 1 else pushed
    ⟨medianStatusValue kept, value, kept⟩

/-- A finite value always leaves a finite reference, be it its own or the one it was refused for. -/
theorem filter_reference (value lastAccepted : Number) (samples : List Number) (maxDelta : Number) (windowSize : Nat) :
    isFinite (filterStatusValue value lastAccepted samples maxDelta windowSize).lastAccepted = (isFinite value || isFinite lastAccepted) := by
  unfold filterStatusValue
  cases finite : isFinite value with
  | false => simp
  | true =>
    simp only [Bool.not_true, Bool.false_eq_true, if_false, Bool.true_or]
    split
    · next refused =>
        rw [Bool.and_eq_true, Bool.and_eq_true] at refused
        split
        · exact refused.1.2
        · exact refused.1.2
    · split
      · exact finite
      · exact finite

end Numbers

structure ContinuousStatusSamples where
  position : List Float32 := []
  speed : List Float32 := []
  current : List Float32 := []
  motorTemperature : List Float32 := []
  mosTemperature : List Float32 := []

end StatusCache

open StatusCache

structure StatusCache where
  ranges : MotorProperties Float32
  status : Option Status := none
  statusLifeCycle : Int := intMax
  maxStatusLifeCycle : Int := intMax
  statusFilterSamples : ContinuousStatusSamples := {}
  lastAcceptedStatus : Status := emptyStatus
  statusMedianFilterWindowSize : Nat := 0
  statusLimitFilterMaxDeltas : Status := emptyStatus

namespace StatusCache

def onMessage (cache : StatusCache) (message : MotorPackMsg) : StatusCache :=
  let decoded := autoDecodeFeedback message cache.ranges
  if decoded.error = .noResponse then cache
  else
    let last := cache.lastAcceptedStatus
    let samples := cache.statusFilterSamples
    let deltas := cache.statusLimitFilterMaxDeltas
    let window := cache.statusMedianFilterWindowSize
    let position := filterStatusValue decoded.position last.position samples.position deltas.position window
    let speed := filterStatusValue decoded.speed last.speed samples.speed deltas.speed window
    let current := filterStatusValue decoded.current last.current samples.current deltas.current window
    let motorTemperature :=
      filterStatusValue decoded.motorTemperature last.motorTemperature samples.motorTemperature deltas.motorTemperature window
    let mosTemperature :=
      filterStatusValue decoded.mosTemperature last.mosTemperature samples.mosTemperature deltas.mosTemperature window
    { cache with
      status := some ⟨decoded.error, position.value, speed.value, current.value, motorTemperature.value, mosTemperature.value⟩
      lastAcceptedStatus := ⟨last.error, position.lastAccepted, speed.lastAccepted, current.lastAccepted,
        motorTemperature.lastAccepted, mosTemperature.lastAccepted⟩
      statusFilterSamples := ⟨position.samples, speed.samples, current.samples, motorTemperature.samples, mosTemperature.samples⟩
      statusLifeCycle := cache.maxStatusLifeCycle }

def expire (cache : StatusCache) : StatusCache :=
  { cache with
    status := none
    statusFilterSamples := { speed := cache.statusFilterSamples.speed }
    lastAcceptedStatus := { cache.lastAcceptedStatus with
      position := quietNaN, current := quietNaN, motorTemperature := quietNaN, mosTemperature := quietNaN } }

def getStatus (cache : StatusCache) (lifeCycleDeduction : Int) : StatusCache :=
  if cache.status.isNone then cache
  else if cache.statusLifeCycle ≠ intMax ∧ lifeCycleDeduction > 0 then
    let left := if lifeCycleDeduction ≥ cache.statusLifeCycle then 0 else cache.statusLifeCycle - lifeCycleDeduction
    if left ≤ 0 then expire { cache with statusLifeCycle := left } else { cache with statusLifeCycle := left }
  else cache

def setStatusLifeCycle (cache : StatusCache) (maxLifeCycle : Int) : StatusCache :=
  { cache with
    maxStatusLifeCycle := maxLifeCycle
    statusLifeCycle :=
      if cache.status.isSome ∧ maxLifeCycle ≠ intMax then min cache.statusLifeCycle maxLifeCycle else cache.statusLifeCycle }

def setStatusMedianFilterWindowSize (cache : StatusCache) (windowSize : Nat) : StatusCache :=
  { cache with statusMedianFilterWindowSize := windowSize, statusFilterSamples := {} }

inductive Event where
  | message (pack : MotorPackMsg)
  | read (lifeCycleDeduction : Int)
  | setLifeCycle (maxLifeCycle : Int)
  | setMedianWindow (windowSize : Nat)
  | setLimitDeltas (deltas : Status)
  | setRanges (ranges : MotorProperties Float32)

def step (cache : StatusCache) : Event → StatusCache
  | .message pack => cache.onMessage pack
  | .read lifeCycleDeduction => cache.getStatus lifeCycleDeduction
  | .setLifeCycle maxLifeCycle => cache.setStatusLifeCycle maxLifeCycle
  | .setMedianWindow windowSize => cache.setStatusMedianFilterWindowSize windowSize
  | .setLimitDeltas deltas => { cache with statusLimitFilterMaxDeltas := deltas }
  | .setRanges ranges => { cache with ranges := ranges }

def run (cache : StatusCache) (history : List Event) : StatusCache := history.foldl step cache

def unfed (cache : StatusCache) : StatusCache :=
  { ranges := cache.ranges
    maxStatusLifeCycle := cache.maxStatusLifeCycle
    statusMedianFilterWindowSize := cache.statusMedianFilterWindowSize
    statusLimitFilterMaxDeltas := cache.statusLimitFilterMaxDeltas }

end StatusCache

namespace StatusCache

def Forgotten (lastAccepted : Float32) (samples : List Float32) : Prop := lastAccepted = quietNaN ∧ samples = []

structure SpeedForgotten (cache : StatusCache) : Prop where
  speed : Forgotten cache.lastAcceptedStatus.speed cache.statusFilterSamples.speed

structure OthersForgotten (cache : StatusCache) : Prop where
  position : Forgotten cache.lastAcceptedStatus.position cache.statusFilterSamples.position
  current : Forgotten cache.lastAcceptedStatus.current cache.statusFilterSamples.current
  motorTemperature : Forgotten cache.lastAcceptedStatus.motorTemperature cache.statusFilterSamples.motorTemperature
  mosTemperature : Forgotten cache.lastAcceptedStatus.mosTemperature cache.statusFilterSamples.mosTemperature

def Accepted (cache : StatusCache) (pack : MotorPackMsg) : Prop :=
  (autoDecodeFeedback pack cache.ranges).error ≠ .noResponse

structure Forgets (cache : StatusCache) : Prop where
  speed : SpeedForgotten cache
  others : OthersForgotten cache
  unfiltered : ∀ pack, Accepted cache pack →
    (cache.onMessage pack).status = (cache.unfed.onMessage pack).status ∧
      (cache.onMessage pack).status = some (autoDecodeFeedback pack cache.ranges)

def CarriesSpeed (cache : StatusCache) : Event → Prop
  | .message pack => Accepted cache pack ∧ (autoDecodeFeedback pack cache.ranges).speed.isFinite = true
  | _ => False

def SpeedSeen : StatusCache → List Event → Prop
  | _, [] => False
  | cache, event :: rest => CarriesSpeed cache event ∨ SpeedSeen (cache.step event) rest

@[simp] theorem finite_float (value : Float32) : FilterArithmetic.isFinite value = value.isFinite := rfl

theorem nan_not_finite : quietNaN.isFinite = false := by decide +kernel

theorem median_singleton (value : Float32) : medianStatusValue [value] = value := by
  simp only [medianStatusValue, List.mergeSort_singleton, List.length_singleton, Nat.reduceDiv,
    List.getElem?_cons_zero, Option.getD_some]

variable (value lastAccepted : Float32) (samples : List Float32) (maxDelta : Float32) (windowSize : Nat)

theorem filter_forgotten (forgotten : Forgotten lastAccepted samples) :
    (filterStatusValue value lastAccepted samples maxDelta windowSize).value = value := by
  obtain ⟨rfl, rfl⟩ := forgotten
  unfold filterStatusValue
  by_cases finite : value.isFinite = true
  · by_cases enabled : windowSize > 1
    · have fits : ¬ (1 : Nat) > windowSize := by omega
      simp only [finite_float, finite, nan_not_finite, isMedianStatusFilterEnabled, enabled, Bool.and_false, Bool.false_and, Bool.not_true,
        Bool.false_eq_true, ↓reduceIte, decide_true, List.nil_append, List.length_singleton, fits, median_singleton]
    · simp only [finite_float, finite, nan_not_finite, isMedianStatusFilterEnabled, enabled, Bool.and_false, Bool.false_and, Bool.not_true,
        Bool.false_eq_true, ↓reduceIte, decide_false, Bool.not_false]
  · simp only [finite_float, finite, Bool.not_false, ↓reduceIte]

theorem filter_remembers :
    (filterStatusValue value lastAccepted samples maxDelta windowSize).lastAccepted.isFinite =
      (value.isFinite || lastAccepted.isFinite) := filter_reference value lastAccepted samples maxDelta windowSize

theorem filter_ignores (strange : value.isFinite = false) (forgotten : Forgotten lastAccepted samples) :
    Forgotten (filterStatusValue value lastAccepted samples maxDelta windowSize).lastAccepted
      (filterStatusValue value lastAccepted samples maxDelta windowSize).samples := by
  simpa only [filterStatusValue, finite_float, strange, Bool.not_false, ↓reduceIte] using forgotten

variable (cache : StatusCache)

theorem get_status_cases (lifeCycleDeduction : Int) :
    ∃ left, cache.getStatus lifeCycleDeduction = { cache with statusLifeCycle := left } ∨
      cache.getStatus lifeCycleDeduction = expire { cache with statusLifeCycle := left } := by
  unfold getStatus
  split
  · exact ⟨cache.statusLifeCycle, .inl rfl⟩
  · split
    · simp only
      generalize (if lifeCycleDeduction ≥ cache.statusLifeCycle then 0 else cache.statusLifeCycle - lifeCycleDeduction) = left
      split
      · exact ⟨left, .inr rfl⟩
      · exact ⟨left, .inl rfl⟩
    · exact ⟨cache.statusLifeCycle, .inl rfl⟩

theorem step_speed (event : Event) :
    ((cache.step event).lastAcceptedStatus.speed.isFinite = true ↔
      cache.lastAcceptedStatus.speed.isFinite = true ∨ CarriesSpeed cache event) ∧
    (¬ CarriesSpeed cache event → SpeedForgotten cache → SpeedForgotten (cache.step event)) := by
  cases event with
  | message pack =>
    by_cases accepted : (autoDecodeFeedback pack cache.ranges).error = .noResponse
    · simp only [step, onMessage, accepted, ↓reduceIte, CarriesSpeed, Accepted, ne_eq, not_true_eq_false, false_and,
        or_false, not_false_eq_true, imp_self, and_self]
    · constructor
      · simp only [step, onMessage, accepted, ↓reduceIte, filter_remembers, Bool.or_eq_true, CarriesSpeed, Accepted, ne_eq,
          not_false_eq_true, true_and]
        exact Or.comm
      · intro plain forgotten
        have strange : (autoDecodeFeedback pack cache.ranges).speed.isFinite = false := by
          rw [← Bool.not_eq_true]
          exact fun finite => plain ⟨accepted, finite⟩
        constructor
        simp only [step, onMessage, accepted, ↓reduceIte]
        exact filter_ignores _ _ _ _ _ strange forgotten.speed
  | read lifeCycleDeduction =>
    obtain ⟨left, kept | expired⟩ := get_status_cases cache lifeCycleDeduction
    · simp only [step, kept, CarriesSpeed, or_false]
      exact ⟨trivial, fun _ forgotten => ⟨forgotten.speed⟩⟩
    · simp only [step, expired, expire, CarriesSpeed, or_false]
      exact ⟨trivial, fun _ forgotten => ⟨forgotten.speed⟩⟩
  | setLifeCycle maxLifeCycle =>
    simp only [step, CarriesSpeed, or_false]
    exact ⟨Iff.rfl, fun _ forgotten => ⟨forgotten.speed⟩⟩
  | setMedianWindow windowSize =>
    simp only [step, CarriesSpeed, or_false]
    exact ⟨Iff.rfl, fun _ forgotten => ⟨⟨forgotten.speed.1, rfl⟩⟩⟩
  | setLimitDeltas deltas | setRanges ranges =>
    simp only [step, CarriesSpeed, or_false]
    exact ⟨trivial, fun _ forgotten => ⟨forgotten.speed⟩⟩

theorem run_speed (history : List Event) (cache : StatusCache) :
    ((run cache history).lastAcceptedStatus.speed.isFinite = true ↔
      cache.lastAcceptedStatus.speed.isFinite = true ∨ SpeedSeen cache history) ∧
    (¬ SpeedSeen cache history → SpeedForgotten cache → SpeedForgotten (run cache history)) := by
  induction history generalizing cache with
  | nil => exact ⟨⟨.inl, fun either => either.resolve_right id⟩, fun _ forgotten => forgotten⟩
  | cons event rest ih =>
    obtain ⟨finite, forgets⟩ := step_speed cache event
    obtain ⟨finiteRest, forgetsRest⟩ := ih (cache.step event)
    constructor
    · refine finiteRest.trans ?_
      rw [finite, or_assoc]
      rfl
    · intro quiet forgotten
      exact forgetsRest (fun later => quiet (.inr later)) (forgets (fun now => quiet (.inl now)) forgotten)

theorem step_others (event : Event) (forgets : cache.status = none → OthersForgotten cache)
    (expired : (cache.step event).status = none) : OthersForgotten (cache.step event) := by
  cases event with
  | message pack =>
    by_cases accepted : (autoDecodeFeedback pack cache.ranges).error = .noResponse
    · simp only [step, onMessage, accepted, ↓reduceIte] at expired ⊢
      exact forgets expired
    · simp only [step, onMessage, accepted, ↓reduceIte, reduceCtorEq] at expired
  | read lifeCycleDeduction =>
    obtain ⟨left, kept | gone⟩ := get_status_cases cache lifeCycleDeduction
    · simp only [step, kept] at expired ⊢
      obtain ⟨position, current, motorTemperature, mosTemperature⟩ := forgets expired
      exact ⟨position, current, motorTemperature, mosTemperature⟩
    · simp only [step, gone]
      exact ⟨⟨rfl, rfl⟩, ⟨rfl, rfl⟩, ⟨rfl, rfl⟩, ⟨rfl, rfl⟩⟩
  | setLifeCycle maxLifeCycle | setLimitDeltas deltas | setRanges ranges =>
    obtain ⟨position, current, motorTemperature, mosTemperature⟩ := forgets expired
    exact ⟨position, current, motorTemperature, mosTemperature⟩
  | setMedianWindow windowSize =>
    obtain ⟨position, current, motorTemperature, mosTemperature⟩ := forgets expired
    exact ⟨⟨position.1, rfl⟩, ⟨current.1, rfl⟩, ⟨motorTemperature.1, rfl⟩, ⟨mosTemperature.1, rfl⟩⟩

theorem run_others (history : List Event) (cache : StatusCache) (forgets : cache.status = none → OthersForgotten cache)
    (expired : (run cache history).status = none) : OthersForgotten (run cache history) := by
  induction history generalizing cache with
  | nil => exact forgets expired
  | cons event rest ih => exact ih (cache.step event) (step_others cache event forgets) expired

variable (pack : MotorPackMsg)

theorem message_status (accepted : Accepted cache pack) (others : OthersForgotten cache) :
    (cache.onMessage pack).status = some { autoDecodeFeedback pack cache.ranges with
      speed := (filterStatusValue (autoDecodeFeedback pack cache.ranges).speed cache.lastAcceptedStatus.speed
        cache.statusFilterSamples.speed cache.statusLimitFilterMaxDeltas.speed cache.statusMedianFilterWindowSize).value } := by
  unfold Accepted at accepted
  simp only [onMessage, accepted, ↓reduceIte, filter_forgotten _ _ _ _ _ others.position,
    filter_forgotten _ _ _ _ _ others.current, filter_forgotten _ _ _ _ _ others.motorTemperature,
    filter_forgotten _ _ _ _ _ others.mosTemperature]

theorem message_unfiltered (accepted : Accepted cache pack)
    (speed : SpeedForgotten cache) (others : OthersForgotten cache) :
    (cache.onMessage pack).status = some (autoDecodeFeedback pack cache.ranges) := by
  rw [message_status cache pack accepted others, filter_forgotten _ _ _ _ _ speed.speed]

theorem unfed_unfiltered (accepted : Accepted cache pack) :
    (cache.unfed.onMessage pack).status = some (autoDecodeFeedback pack cache.ranges) :=
  message_unfiltered cache.unfed pack accepted ⟨⟨rfl, rfl⟩⟩ ⟨⟨rfl, rfl⟩, ⟨rfl, rfl⟩, ⟨rfl, rfl⟩, ⟨rfl, rfl⟩⟩

/-- A motor whose status has expired (or was never set) forgets as it should exactly when no accepted feedback of its
life carried a finite speed; of the other quantities nothing is ever left. -/
theorem expiry_forgets_iff (ranges : MotorProperties Float32) (history : List Event)
    (expired : (run { ranges := ranges } history).status = none) :
    (Forgets (run { ranges := ranges } history) ↔ ¬ SpeedSeen { ranges := ranges } history) ∧
      OthersForgotten (run { ranges := ranges } history) := by
  have others := run_others history { ranges := ranges } 
    (fun _ => ⟨⟨rfl, rfl⟩, ⟨rfl, rfl⟩, ⟨rfl, rfl⟩, ⟨rfl, rfl⟩⟩) expired
  obtain ⟨finite, forgets⟩ := run_speed history { ranges := ranges }
  refine ⟨⟨?_, ?_⟩, others⟩
  · intro forgotten seen
    have remembered := finite.mpr (.inr seen)
    rw [forgotten.speed.speed.1, nan_not_finite] at remembered
    cases remembered
  · intro quiet
    have speed := forgets quiet ⟨⟨rfl, rfl⟩⟩
    refine ⟨speed, others, ?_⟩
    intro pack accepted
    have published := message_unfiltered _ pack accepted speed others
    exact ⟨published.trans (unfed_unfiltered _ pack accepted).symm, published⟩

def zeroRanges : MotorProperties Float32 :=
  let none_ : Range Float32 := ⟨0, 0⟩
  ⟨none_, none_, none_, none_, none_, none_, 0, false, 0⟩

def speedFeedback (bits : UInt32) : MotorPackMsg :=
  ⟨1, 0, 8, #v[0x60, (bits >>> 24).toUInt8, (bits >>> 16).toUInt8, (bits >>> 8).toUInt8, bits.toUInt8, 0, 0, 100]⟩

def restingHistory : List Event :=
  [.setLifeCycle 1, .setLimitDeltas { emptyStatus with speed := 1 }, .message (speedFeedback 0), .read 1]

def positionFeedback : MotorPackMsg := ⟨1, 0, 8, #v[0x40, 0, 0, 0, 0, 0, 0, 100]⟩

theorem expiry_forgets_iff_position :
    Forgets (run { ranges := zeroRanges } [.setLifeCycle 1, .message positionFeedback, .read 1]) := by
  refine (expiry_forgets_iff zeroRanges [.setLifeCycle 1, .message positionFeedback, .read 1] ?_).1.mpr ?_
  · exact Option.isNone_iff_eq_none.mp (by decide +kernel)
  · rintro (none_ | ⟨-, finite⟩ | none_ | none_)
    · exact none_
    · exact absurd finite (by decide +kernel)
    · exact none_
    · exact none_

theorem expiry_forgets_broken :
    ¬ ∀ ranges history, (run { ranges := ranges } history).status = none → Forgets (run { ranges := ranges } history) := by
  intro forgets
  have expired : (run { ranges := zeroRanges } restingHistory).status = none :=
    Option.isNone_iff_eq_none.mp (by decide +kernel)
  have accepted : Accepted (run { ranges := zeroRanges } restingHistory) (speedFeedback 0x41200000) := by
    unfold Accepted
    decide +kernel
  have published := ((forgets zeroRanges restingHistory expired).unfiltered (speedFeedback 0x41200000) accepted).2
  have same := congrArg (fun status => status.map fun value : Status => value.speed.toBits) published
  exact absurd same (by decide +kernel)

end StatusCache

end EncosDriver.Motor
