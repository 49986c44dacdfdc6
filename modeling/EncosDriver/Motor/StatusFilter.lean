import EncosDriver.Motor.StatusLifetime

set_option autoImplicit false

namespace EncosDriver.Motor

open Message

namespace StatusFilter

inductive Quantity where
  | position
  | speed
  | current
  | motorTemperature
  | mosTemperature
deriving DecidableEq, Repr

end StatusFilter

open StatusFilter

structure StatusFilter (Number : Type) where
  published : Option (Quantity → Number)
  lastAccepted : Quantity → Number
  samples : Quantity → List Number
  maxDeltas : Quantity → Number
  windowSize : Nat

namespace StatusFilter

open FilterArithmetic
open StatusCache (Filtered filterStatusValue medianStatusValue isLimitStatusFilterEnabled filter_reference)

inductive Event (Number : Type) where
  | feedback (values : Quantity → Number)
  | expire
  | setWindow (windowSize : Nat)
  | setMaxDeltas (maxDeltas : Quantity → Number)

section Numbers

variable {Number : Type} [FilterArithmetic Number]

def initial : StatusFilter Number := ⟨none, fun _ => notANumber, fun _ => [], fun _ => notANumber, 0⟩

def filtered (state : StatusFilter Number) (values : Quantity → Number) (quantity : Quantity) : Filtered Number :=
  filterStatusValue (values quantity) (state.lastAccepted quantity) (state.samples quantity) (state.maxDeltas quantity) state.windowSize

def step (state : StatusFilter Number) : Event Number → StatusFilter Number
  | .feedback values =>
    { state with
      published := some fun quantity => (state.filtered values quantity).value
      lastAccepted := fun quantity => (state.filtered values quantity).lastAccepted
      samples := fun quantity => (state.filtered values quantity).samples }
  -- The speed is not among what expiry resets.
  | .expire =>
    { state with
      published := none
      lastAccepted := fun quantity => if quantity = .speed then state.lastAccepted quantity else notANumber
      samples := fun quantity => if quantity = .speed then state.samples quantity else [] }
  | .setWindow windowSize => { state with windowSize := windowSize, samples := fun _ => [] }
  | .setMaxDeltas maxDeltas => { state with maxDeltas := maxDeltas }

def run (state : StatusFilter Number) (history : List (Event Number)) : StatusFilter Number := history.foldl step state

variable (state : StatusFilter Number)

theorem step_speed_kept (event : Event Number) (other : ∀ values, event ≠ .feedback values) :
    (state.step event).lastAccepted .speed = state.lastAccepted .speed := by
  cases event with
  | feedback values => exact absurd rfl (other values)
  | expire => simp [step]
  | setWindow windowSize => rfl
  | setMaxDeltas maxDeltas => rfl

theorem step_speed (event : Event Number)
    (finite : isFinite (state.lastAccepted .speed) = true ∨ ∃ values, event = .feedback values ∧ isFinite (values .speed) = true) :
    isFinite ((state.step event).lastAccepted .speed) = true := by
  by_cases fed : ∃ values, event = .feedback values
  · obtain ⟨values, rfl⟩ := fed
    simp only [step, filtered, filter_reference, Bool.or_eq_true]
    rcases finite with held | ⟨same, same_, now⟩
    · exact .inr held
    · cases same_
      exact .inl now
  · rw [step_speed_kept state event (not_exists.mp fed)]
    rcases finite with held | ⟨values, same, _⟩
    · exact held
    · exact absurd ⟨values, same⟩ fed

theorem run_append (first second : List (Event Number)) :
    run state (first ++ second) = run (run state first) second := List.foldl_append

theorem run_speed (history : List (Event Number)) (state : StatusFilter Number)
    (finite : isFinite (state.lastAccepted .speed) = true ∨ ∃ values, .feedback values ∈ history ∧ isFinite (values .speed) = true) :
    isFinite ((state.run history).lastAccepted .speed) = true := by
  induction history generalizing state with
  | nil =>
    rcases finite with held | ⟨_, none, _⟩
    · exact held
    · cases none
  | cons event rest ih =>
    refine ih (state.step event) ?_
    rcases finite with held | ⟨values, inside, now⟩
    · exact .inl (step_speed state event (.inl held))
    · rcases List.mem_cons.mp inside with same | later
      · exact .inl (step_speed state event (.inr ⟨values, same.symm, now⟩))
      · exact .inr ⟨values, later, now⟩

end Numbers

def quantities (status : StatusCache.Status) : Quantity → Float32
  | .position => status.position
  | .speed => status.speed
  | .current => status.current
  | .motorTemperature => status.motorTemperature
  | .mosTemperature => status.mosTemperature

def view (cache : StatusCache) : StatusFilter Float32 where
  published := cache.status.map quantities
  lastAccepted := quantities cache.lastAcceptedStatus
  samples
    | .position => cache.statusFilterSamples.position
    | .speed => cache.statusFilterSamples.speed
    | .current => cache.statusFilterSamples.current
    | .motorTemperature => cache.statusFilterSamples.motorTemperature
    | .mosTemperature => cache.statusFilterSamples.mosTemperature
  maxDeltas := quantities cache.statusLimitFilterMaxDeltas
  windowSize := cache.statusMedianFilterWindowSize

def seen (cache : StatusCache) : StatusCache.Event → List (Event Float32)
  | .message pack =>
    if StatusCache.carriesFeedback pack then [.feedback (quantities (StatusCache.autoDecodeFeedback pack cache.ranges))] else []
  | .read lifeCycleDeduction =>
    if cache.status.isSome && (cache.getStatus lifeCycleDeduction).status.isNone then [.expire] else []
  | .setMedianWindow windowSize => [.setWindow windowSize]
  | .setLimitDeltas deltas => [.setMaxDeltas (quantities deltas)]
  | .setLifeCycle _ => []
  | .setRanges _ => []

variable (cache : StatusCache)

theorem view_fed (pack : MotorPackMsg) (feeds : StatusCache.carriesFeedback pack = true) :
    view (cache.onMessage pack) =
      (view cache).step (.feedback (quantities (StatusCache.autoDecodeFeedback pack cache.ranges))) := by
  have accepted := (StatusCache.accepted_iff cache pack).mpr feeds
  unfold StatusCache.Accepted at accepted
  simp only [view, StatusCache.onMessage, accepted, ↓reduceIte, step, Option.map_some, mk.injEq, Option.some.injEq, and_true]
  refine ⟨?_, ?_, ?_⟩
  · funext quantity
    cases quantity <;> rfl
  · funext quantity
    cases quantity <;> rfl
  · funext quantity
    cases quantity <;> rfl

theorem view_expired : view cache.expire = (view cache).step .expire := by
  simp only [view, StatusCache.expire, step, Option.map_none, mk.injEq, true_and, and_true]
  refine ⟨?_, ?_⟩
  · funext quantity
    cases quantity <;> rfl
  · funext quantity
    cases quantity <;> rfl

theorem view_step (event : StatusCache.Event) : view (cache.step event) = (view cache).run (seen cache event) := by
  cases event with
  | message pack =>
    cases feeds : StatusCache.carriesFeedback pack with
    | false => simp [StatusCache.step, StatusCache.message_ignored cache pack feeds, seen, feeds, run]
    | true =>
      simp only [StatusCache.step, seen, feeds, if_true]
      exact view_fed cache pack feeds
  | read deduction =>
    have reads := StatusCache.get_status_reads cache deduction
    simp only [StatusCache.step, seen]
    generalize cache.getStatus deduction = next at reads ⊢
    cases reads with
    | free idle =>
      cases cached : cache.status with
      | none => simp [run]
      | some status => simp [run]
    | spends cached limited positive left =>
      cases status : cache.status with
      | none => exact absurd status cached
      | some value => simp [run, view, status]
    | expires cached limited positive enough =>
      have present : cache.status.isSome = true := Option.isSome_iff_ne_none.mpr cached
      simp only [present, StatusCache.expire, Option.isNone_none, Bool.and_self, if_true]
      exact view_expired cache
  | setMedianWindow windowSize =>
    have cleared : (view (cache.setStatusMedianFilterWindowSize windowSize)).samples = fun _ => [] := by
      funext quantity
      cases quantity <;> rfl
    show view (cache.setStatusMedianFilterWindowSize windowSize) = (view cache).step (.setWindow windowSize)
    rw [step, ← cleared]
    rfl
  | setLimitDeltas deltas => rfl
  | setLifeCycle maxLifeCycle => rfl
  | setRanges ranges => rfl

def seenAll : StatusCache → List StatusCache.Event → List (Event Float32)
  | _, [] => []
  | cache, event :: rest => seen cache event ++ seenAll (cache.step event) rest

theorem view_run (history : List StatusCache.Event) (cache : StatusCache) :
    view (cache.run history) = (view cache).run (seenAll cache history) := by
  induction history generalizing cache with
  | nil => rfl
  | cons event rest ih =>
    have following := ih (cache.step event)
    rw [seenAll, run_append, ← view_step, ← following]
    rfl

theorem view_new (ranges : MotorProperties Float32) : view { ranges := ranges } = initial := by
  simp only [view, initial, Option.map_none, mk.injEq, true_and, and_true]
  refine ⟨?_, ?_, ?_⟩
  · funext quantity
    cases quantity <;> rfl
  · funext quantity
    cases quantity <;> rfl
  · funext quantity
    cases quantity <;> rfl

/-- The cache of a motor, fed with any history, filters as the five quantities on their own do. -/
theorem cache_filters (ranges : MotorProperties Float32) (history : List StatusCache.Event) :
    view (({ ranges := ranges } : StatusCache).run history) = initial.run (seenAll { ranges := ranges } history) := by
  rw [view_run, view_new]

end StatusFilter

end EncosDriver.Motor
