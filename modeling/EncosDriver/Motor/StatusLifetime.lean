import EncosDriver.Motor.StatusCache

set_option autoImplicit false

namespace EncosDriver.Motor

open Message

namespace StatusCache

def carriesFeedback (pack : MotorPackMsg) : Bool :=
  packetHasPayload pack 0 8 && decide (pack.data.get 0 >>> 5 = 1 ∨ pack.data.get 0 >>> 5 = 2 ∨ pack.data.get 0 >>> 5 = 3)

def Event.feeds : Event → Bool
  | .message pack => carriesFeedback pack
  | _ => false

def Event.cost : Event → Int
  | .read lifeCycleDeduction => max lifeCycleDeduction 0
  | _ => 0

def spent (events : List Event) : Int := (events.map Event.cost).sum

def spentBeforeFeedback (events : List Event) : Int := spent (events.takeWhile fun event => !event.feeds)

def Event.Fits : Event → Prop
  | .setLifeCycle maxLifeCycle => -2 ^ 31 ≤ maxLifeCycle ∧ maxLifeCycle ≤ intMax
  | _ => True

def NeverExpires (cache : StatusCache) (events : List Event) : Prop :=
  ∀ earlier event later, events = earlier ++ event :: later → (run cache earlier).status ≠ none →
    (run cache (earlier ++ [event])).status ≠ none

theorem no_response_unused (raw : UInt8) (fwVersion : UInt32) (small : raw ≤ 31) :
    decodeMotorError raw fwVersion ≠ .noResponse := by
  unfold decodeMotorError
  split
  · rintro ⟨⟩
    exact absurd small (by decide)
  · split
    all_goals first | exact (by decide) | skip
    rintro ⟨⟩
    exact absurd small (by decide)

theorem feedback_error (pack : MotorPackMsg) (ranges : MotorProperties Float32) : feedbackError pack ranges ≠ .noResponse := by
  refine no_response_unused _ _ ?_
  rw [UInt8.le_iff_toNat_le, UInt8.toNat_and]
  exact Nat.and_le_right

variable (cache : StatusCache)

variable (pack : MotorPackMsg)

theorem accepted_iff : Accepted cache pack ↔ carriesFeedback pack = true := by
  have error := feedback_error pack cache.ranges
  unfold Accepted autoDecodeFeedback carriesFeedback
  cases whole : packetHasPayload pack 0 8 with
  | false =>
    split
    all_goals simp [decodeFeedback1, decodeFeedback2, decodeFeedback3, isFeedback, whole, emptyStatus]
  | true =>
    split
    · next kind => simp [decodeFeedback1, isFeedback, whole, kind, error]
    · next kind => simp [decodeFeedback2, isFeedback, whole, kind, error]
    · next kind => simp [decodeFeedback3, isFeedback, whole, kind, error]
    · next one two three =>
        simp only [emptyStatus, ne_eq, not_true_eq_false, Bool.true_and, decide_eq_true_eq, false_iff]
        rintro (first | second | third)
        · exact one first
        · exact two second
        · exact three third

theorem message_ignored (plain : carriesFeedback pack = false) : cache.onMessage pack = cache := by
  have refused : ¬ Accepted cache pack := by rw [accepted_iff, plain]; exact Bool.false_ne_true
  simp only [Accepted, ne_eq, not_not] at refused
  simp only [onMessage, refused, ↓reduceIte]

theorem message_cached (feeds : carriesFeedback pack = true) :
    (cache.onMessage pack).status ≠ none ∧ (cache.onMessage pack).statusLifeCycle = cache.maxStatusLifeCycle ∧
      (cache.onMessage pack).maxStatusLifeCycle = cache.maxStatusLifeCycle := by
  have accepted := (accepted_iff cache pack).mpr feeds
  unfold Accepted at accepted
  simp [onMessage, accepted]

inductive Reads (cache : StatusCache) (deduction : Int) : StatusCache → Prop where
  | free (idle : cache.status = none ∨ cache.statusLifeCycle = intMax ∨ deduction ≤ 0) : Reads cache deduction cache
  | spends (cached : cache.status ≠ none) (limited : cache.statusLifeCycle ≠ intMax) (positive : 0 < deduction)
      (left : deduction < cache.statusLifeCycle) :
      Reads cache deduction { cache with statusLifeCycle := cache.statusLifeCycle - deduction }
  | expires (cached : cache.status ≠ none) (limited : cache.statusLifeCycle ≠ intMax) (positive : 0 < deduction)
      (enough : cache.statusLifeCycle ≤ deduction) : Reads cache deduction (expire { cache with statusLifeCycle := 0 })

theorem get_status_reads (deduction : Int) : Reads cache deduction (cache.getStatus deduction) := by
  unfold getStatus
  split
  · next empty => exact .free (.inl (Option.isNone_iff_eq_none.mp empty))
  · next cached =>
      have present : cache.status ≠ none := fun empty => cached (Option.isNone_iff_eq_none.mpr empty)
      split
      · next limited =>
          by_cases enough : cache.statusLifeCycle ≤ deduction
          · simp only [ge_iff_le, enough, ↓reduceIte, Int.le_refl]
            exact .expires present limited.1 limited.2 enough
          · have rest : ¬ cache.statusLifeCycle - deduction ≤ 0 := by omega
            simp only [ge_iff_le, enough, ↓reduceIte, rest]
            exact .spends present limited.1 limited.2 (by omega)
      · next idle =>
          refine .free (.inr ?_)
          by_cases limited : cache.statusLifeCycle = intMax
          · exact .inl limited
          · exact .inr (Int.not_lt.mp fun positive => idle ⟨limited, positive⟩)

variable (event : Event) (rest : List Event)

theorem spent_cons : spent (event :: rest) = event.cost + spent rest := List.sum_cons

theorem cost_nonneg : 0 ≤ event.cost := by
  cases event with
  | read deduction => exact Int.le_max_right deduction 0
  | _ => exact Int.le_refl 0

theorem spent_nonneg (events : List Event) : 0 ≤ spent events := by
  induction events with
  | nil => exact Int.le_refl 0
  | cons event rest ih =>
    have first := cost_nonneg event
    rw [spent_cons]
    omega

theorem run_append (first second : List Event) : run cache (first ++ second) = run (run cache first) second :=
  List.foldl_append

theorem never_expires_cons :
    NeverExpires cache (event :: rest) ↔
      (cache.status ≠ none → (cache.step event).status ≠ none) ∧ NeverExpires (cache.step event) rest := by
  constructor
  · intro never
    refine ⟨never [] event rest rfl, ?_⟩
    rintro earlier taken later rfl
    exact never (event :: earlier) taken later rfl
  · rintro ⟨now, following⟩ earlier taken later split
    cases earlier with
    | nil =>
      obtain ⟨rfl, -⟩ := List.cons.inj split
      exact now
    | cons first earlier =>
      obtain ⟨rfl, tail⟩ := List.cons.inj split
      exact following earlier taken later tail

structure Bounded (cache : StatusCache) : Prop where
  life : cache.statusLifeCycle ≤ intMax
  maximum : cache.maxStatusLifeCycle ≤ intMax

theorem step_bounded (fits : event.Fits) (bounded : Bounded cache) : Bounded (cache.step event) := by
  obtain ⟨life, maximum⟩ := bounded
  cases event with
  | message pack =>
    cases feeds : carriesFeedback pack with
    | false =>
      simp only [step, message_ignored cache pack feeds]
      exact ⟨life, maximum⟩
    | true =>
      obtain ⟨-, whole, kept⟩ := message_cached cache pack feeds
      exact ⟨whole ▸ maximum, kept ▸ maximum⟩
  | read deduction =>
    have reads := get_status_reads cache deduction
    simp only [step]
    generalize cache.getStatus deduction = next at reads ⊢
    cases reads with
    | free idle => exact ⟨life, maximum⟩
    | spends cached limited positive left => exact ⟨by dsimp only; omega, maximum⟩
    | expires cached limited positive enough => exact ⟨show (0 : Int) ≤ intMax by decide, maximum⟩
  | setLifeCycle cap =>
    refine ⟨?_, fits.2⟩
    simp only [step, setStatusLifeCycle]
    split
    · exact Int.le_trans (Int.min_le_left _ _) life
    · exact life
  | _ => exact ⟨life, maximum⟩

theorem run_bounded (history : List Event) (fits : ∀ event ∈ history, event.Fits) (bounded : Bounded cache) :
    Bounded (run cache history) := by
  induction history generalizing cache with
  | nil => exact bounded
  | cons event rest ih =>
    obtain ⟨first, following⟩ := List.forall_mem_cons.mp fits
    exact ih (cache.step event) following (step_bounded cache event first bounded)

theorem spent_before_quiet (quiet : event.feeds = false) :
    spentBeforeFeedback (event :: rest) = event.cost + spentBeforeFeedback rest := by
  simp only [spentBeforeFeedback, List.takeWhile_cons, quiet, Bool.not_false, ↓reduceIte, spent_cons]

theorem spent_before_feedback (feeds : carriesFeedback pack = true) :
    spentBeforeFeedback (.message pack :: rest) = 0 := by
  simp [spentBeforeFeedback, Event.feeds, feeds, spent]

theorem spent_before_nonneg (events : List Event) : 0 ≤ spentBeforeFeedback events := spent_nonneg _

def Outlives (cache : StatusCache) (future : List Event) : Prop :=
  cache.status = none ∨ cache.statusLifeCycle = intMax ∨ spentBeforeFeedback future = 0 ∨
    spentBeforeFeedback future < cache.statusLifeCycle

theorem unlimited_expires_iff (future : List Event) (cache : StatusCache) (unlimited : cache.maxStatusLifeCycle = intMax)
    (small : cache.statusLifeCycle ≤ intMax) (disabled : ∀ maxLifeCycle, .setLifeCycle maxLifeCycle ∈ future → maxLifeCycle = intMax) :
    NeverExpires cache future ↔ Outlives cache future := by
  induction future generalizing cache with
  | nil => exact ⟨fun _ => .inr (.inr (.inl rfl)), fun _ earlier event later split => by simp at split⟩
  | cons event rest ih =>
    have later : ∀ maxLifeCycle, .setLifeCycle maxLifeCycle ∈ rest → maxLifeCycle = intMax :=
      fun maxLifeCycle inside => disabled maxLifeCycle (List.mem_cons_of_mem _ inside)
    have positive := spent_before_nonneg rest
    -- An event that leaves the status and its lifetime alone leaves the question to the rest.
    have passes (next : StatusCache) (stepped : cache.step event = next) (quiet : event.feeds = false) (costless : event.cost = 0)
        (status : next.status = cache.status) (life : next.statusLifeCycle = cache.statusLifeCycle)
        (maximum : next.maxStatusLifeCycle = intMax) : NeverExpires cache (event :: rest) ↔ Outlives cache (event :: rest) := by
      have following := ih next maximum (by rw [life]; exact small) later
      rw [never_expires_cons, stepped, following, Outlives, Outlives, status, life, spent_before_quiet event rest quiet, costless,
        Int.zero_add]
      exact ⟨fun both => both.2, fun outlives => ⟨id, outlives⟩⟩
    cases event with
    | message pack =>
      cases feeds : carriesFeedback pack with
      | false => exact passes cache (message_ignored cache pack feeds) feeds rfl rfl rfl unlimited
      | true =>
        obtain ⟨cached, whole, kept⟩ := message_cached cache pack feeds
        have full : (cache.onMessage pack).statusLifeCycle = intMax := whole.trans unlimited
        have following := ih (cache.onMessage pack) (kept.trans unlimited) (Int.le_of_eq full) later
        rw [never_expires_cons]
        refine ⟨fun _ => .inr (.inr (.inl (spent_before_feedback pack rest feeds))), fun _ => ⟨fun _ => cached, ?_⟩⟩
        exact following.mpr (.inr (.inl full))
    | read deduction =>
      have reads := get_status_reads cache deduction
      generalize stepped : cache.getStatus deduction = next at reads
      cases reads with
      | free idle =>
        have following := ih cache unlimited small later
        have charge := spent_before_quiet (.read deduction) rest rfl
        have cost := cost_nonneg (.read deduction)
        rw [never_expires_cons, show cache.step (.read deduction) = cache from stepped, following, Outlives, Outlives, charge]
        refine ⟨fun both => ?_, fun outlives => ⟨id, ?_⟩⟩
        · rcases idle with empty | full | free
          · exact .inl empty
          · exact .inr (.inl full)
          · have nothing : Event.cost (.read deduction) = 0 := Int.max_eq_right free
            rw [nothing, Int.zero_add]
            exact both.2
        · rcases outlives with empty | full | nothing | enough
          · exact .inl empty
          · exact .inr (.inl full)
          · exact .inr (.inr (.inl (by omega)))
          · exact .inr (.inr (.inr (by omega)))
      | spends cached limited paid left =>
        have charge := spent_before_quiet (.read deduction) rest rfl
        have cost : Event.cost (.read deduction) = deduction := Int.max_eq_left (Int.le_of_lt paid)
        have following := ih { cache with statusLifeCycle := cache.statusLifeCycle - deduction } unlimited
          (show cache.statusLifeCycle - deduction ≤ intMax by omega) later
        rw [never_expires_cons, show cache.step (.read deduction) = _ from stepped, following]
        simp only [Outlives, charge, cost, cached, limited, false_or, ne_eq, not_false_eq_true, forall_const, true_and]
        omega
      | expires cached limited paid enough =>
        have charge := spent_before_quiet (.read deduction) rest rfl
        have cost : Event.cost (.read deduction) = deduction := Int.max_eq_left (Int.le_of_lt paid)
        rw [never_expires_cons, show cache.step (.read deduction) = _ from stepped]
        simp only [Outlives, charge, cost, cached, limited, expire, ne_eq, not_false_eq_true, not_true_eq_false, imp_false,
          false_and, false_or, false_iff, not_or]
        omega
    | setLifeCycle maxLifeCycle =>
      obtain rfl := disabled maxLifeCycle List.mem_cons_self
      refine passes (cache.setStatusLifeCycle intMax) rfl rfl rfl rfl ?_ rfl
      simp [setStatusLifeCycle]
    | setMedianWindow windowSize | setLimitDeltas deltas | setRanges ranges =>
      exact passes _ rfl rfl rfl rfl rfl unlimited

/-- A motor of any history whose lifetime is switched off keeps its status until the next finite maximum exactly when
what is left of the lifetime outlives the reads before the next feedback. -/
theorem lifetime_switch_iff (ranges : MotorProperties Float32) (history future : List Event) (fits : ∀ event ∈ history, event.Fits)
    (disabled : ∀ maxLifeCycle, .setLifeCycle maxLifeCycle ∈ future → maxLifeCycle = intMax) :
    NeverExpires ((run { ranges := ranges } history).setStatusLifeCycle intMax) future ↔
      Outlives (run { ranges := ranges } history) future := by
  have bounded := run_bounded { ranges := ranges } history fits ⟨Int.le_refl intMax, Int.le_refl intMax⟩
  have kept : ((run { ranges := ranges } history).setStatusLifeCycle intMax).statusLifeCycle =
      (run { ranges := ranges } history).statusLifeCycle := by
    simp [setStatusLifeCycle]
  have switched := unlimited_expires_iff future ((run { ranges := ranges } history).setStatusLifeCycle intMax) rfl
    (kept ▸ bounded.life) disabled
  rw [switched, Outlives, Outlives, kept]
  rfl

def limitedHistory : List Event := [.setLifeCycle 3, .message positionFeedback]

theorem limited_history_fits : ∀ event ∈ limitedHistory, event.Fits := by
  intro event inside
  simp only [limitedHistory, List.mem_cons, List.not_mem_nil, or_false] at inside
  rcases inside with rfl | rfl
  · exact ⟨by decide, by decide⟩
  · trivial

theorem lifetime_switch_iff_short_read :
    NeverExpires ((run { ranges := zeroRanges } limitedHistory).setStatusLifeCycle intMax) [.read 2] := by
  refine (lifetime_switch_iff zeroRanges limitedHistory [.read 2] limited_history_fits (by simp)).mpr ?_
  exact .inr (.inr (.inr (by decide +kernel)))

theorem lifetime_switch_broken :
    ¬ ∀ ranges history future, (∀ event ∈ history, Event.Fits event) →
      (∀ maxLifeCycle, .setLifeCycle maxLifeCycle ∈ future → maxLifeCycle = intMax) →
        NeverExpires ((run { ranges := ranges } history).setStatusLifeCycle intMax) future := by
  intro lasts
  have never := lasts zeroRanges limitedHistory [.read 3] limited_history_fits (by simp) [] (.read 3) [] rfl
  have cached : ((run { ranges := zeroRanges } limitedHistory).setStatusLifeCycle intMax).status.isSome = true := by decide +kernel
  have gone : (((run { ranges := zeroRanges } limitedHistory).setStatusLifeCycle intMax).getStatus 3).status.isNone = true := by
    decide +kernel
  exact never (Option.isSome_iff_ne_none.mp cached) (Option.isNone_iff_eq_none.mp gone)

end StatusCache

end EncosDriver.Motor
