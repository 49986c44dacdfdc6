import EncosDriver.Motor.StatusLifetime

set_option autoImplicit false

namespace EncosDriver.Motor

open Message

namespace StatusCache

def CountsDown (maximum : Int) : Prop := 0 < maximum ∧ maximum < intMax

def answer (cache : StatusCache) : Option Status := cache.status

def subtraction (cache : StatusCache) (lifeCycleDeduction : Int) : Option Int :=
  if cache.status.isSome ∧ cache.statusLifeCycle ≠ intMax ∧ lifeCycleDeduction > 0 ∧ ¬ lifeCycleDeduction ≥ cache.statusLifeCycle then
    some (cache.statusLifeCycle - lifeCycleDeduction)
  else none

def maximumAfter (maximum : Int) : List Event → Int
  | [] => maximum
  | .setLifeCycle maxLifeCycle :: rest => maximumAfter maxLifeCycle rest
  | _ :: rest => maximumAfter maximum rest

-- The reads since an acceptance have spent less than the maximum then in force,
-- and those since each setter call less than its value.
def WithinLimits (maximum : Int) (events : List Event) : Prop :=
  spent events < maximum ∧
    ∀ earlier maxLifeCycle later, events = earlier ++ .setLifeCycle maxLifeCycle :: later → spent later < maxLifeCycle

variable (cache : StatusCache)

theorem run_cons (event : Event) (rest : List Event) : run cache (event :: rest) = run (cache.step event) rest :=
  rfl

theorem step_maximum (event : Event) (rest : List Event) :
    maximumAfter cache.maxStatusLifeCycle (event :: rest) = maximumAfter (cache.step event).maxStatusLifeCycle rest := by
  cases event with
  | message pack =>
    cases feeds : carriesFeedback pack with
    | false => simp only [maximumAfter, step, message_ignored cache pack feeds]
    | true => simp only [maximumAfter, step, (message_cached cache pack feeds).2.2]
  | read deduction =>
    have reads := get_status_reads cache deduction
    simp only [maximumAfter, step]
    generalize cache.getStatus deduction = next at reads ⊢
    cases reads with
    | free idle => rfl
    | spends cached limited positive left => rfl
    | expires cached limited positive enough => rfl
  | _ => rfl

variable (events : List Event)

theorem run_maximum (cache : StatusCache) :
    (run cache events).maxStatusLifeCycle = maximumAfter cache.maxStatusLifeCycle events := by
  induction events generalizing cache with
  | nil => rfl
  | cons event rest ih =>
    rw [step_maximum]
    exact ih (cache.step event)

theorem maximum_counts (maximum : Int) (starting : CountsDown maximum)
    (setters : ∀ maxLifeCycle, .setLifeCycle maxLifeCycle ∈ events → CountsDown maxLifeCycle) :
    CountsDown (maximumAfter maximum events) := by
  induction events generalizing maximum with
  | nil => exact starting
  | cons event rest ih =>
    have later : ∀ maxLifeCycle, .setLifeCycle maxLifeCycle ∈ rest → CountsDown maxLifeCycle :=
      fun maxLifeCycle inside => setters maxLifeCycle (List.mem_cons_of_mem _ inside)
    cases event with
    | setLifeCycle maxLifeCycle => exact ih maxLifeCycle (setters maxLifeCycle List.mem_cons_self) later
    | _ => exact ih maximum starting later

theorem within_nil (maximum : Int) : WithinLimits maximum [] ↔ 0 < maximum :=
  ⟨fun within => within.1, fun positive => ⟨positive, fun earlier maxLifeCycle later split => by simp at split⟩⟩

theorem within_cons (event : Event) (rest : List Event) (maximum : Int)
    (other : ∀ maxLifeCycle, event ≠ .setLifeCycle maxLifeCycle) :
    WithinLimits maximum (event :: rest) ↔ WithinLimits (maximum - event.cost) rest := by
  simp only [WithinLimits, spent_cons]
  constructor
  · rintro ⟨fits, each⟩
    refine ⟨by omega, ?_⟩
    rintro earlier maxLifeCycle later rfl
    exact each (event :: earlier) maxLifeCycle later rfl
  · rintro ⟨fits, each⟩
    refine ⟨by omega, ?_⟩
    intro earlier maxLifeCycle later split
    cases earlier with
    | nil => exact absurd (List.cons.inj split).1 (other maxLifeCycle)
    | cons first earlier => exact each earlier maxLifeCycle later (List.cons.inj split).2

theorem within_setter (maxLifeCycle : Int) (rest : List Event) (maximum : Int) :
    WithinLimits maximum (.setLifeCycle maxLifeCycle :: rest) ↔ WithinLimits (min maximum maxLifeCycle) rest := by
  have costless : Event.cost (.setLifeCycle maxLifeCycle) = 0 := rfl
  simp only [WithinLimits, spent_cons, costless, Int.zero_add, Int.lt_min]
  constructor
  · rintro ⟨fits, each⟩
    refine ⟨⟨fits, each [] maxLifeCycle rest rfl⟩, ?_⟩
    rintro earlier value later rfl
    exact each (.setLifeCycle maxLifeCycle :: earlier) value later rfl
  · rintro ⟨⟨fits, own⟩, each⟩
    refine ⟨fits, ?_⟩
    intro earlier value later split
    cases earlier with
    | nil =>
      obtain ⟨same, rfl⟩ := List.cons.inj split
      exact Event.setLifeCycle.inj same ▸ own
    | cons first earlier => exact each earlier value later (List.cons.inj split).2

theorem quiet_stays_empty (cache : StatusCache) (quiet : ∀ event ∈ events, event.feeds = false)
    (empty : cache.status = none) : (run cache events).status = none := by
  induction events generalizing cache with
  | nil => exact empty
  | cons event rest ih =>
    obtain ⟨first, following⟩ := List.forall_mem_cons.mp quiet
    refine ih (cache.step event) following ?_
    cases event with
    | message pack =>
      simp only [step, message_ignored cache pack first]
      exact empty
    | read deduction =>
      have reads := get_status_reads cache deduction
      simp only [step]
      generalize cache.getStatus deduction = next at reads ⊢
      cases reads with
      | free idle => exact empty
      | spends cached limited positive left => exact absurd empty cached
      | expires cached limited positive enough => rfl
    | _ => exact empty

theorem quiet_run (cache : StatusCache) (cached : cache.status ≠ none) (counting : CountsDown cache.statusLifeCycle)
    (setters : ∀ maxLifeCycle, .setLifeCycle maxLifeCycle ∈ events → CountsDown maxLifeCycle)
    (quiet : ∀ event ∈ events, event.feeds = false) :
    (WithinLimits cache.statusLifeCycle events ∧ (run cache events).status = cache.status) ∨
      (¬ WithinLimits cache.statusLifeCycle events ∧ (run cache events).status = none) := by
  induction events generalizing cache with
  | nil => exact .inl ⟨(within_nil _).mpr counting.1, rfl⟩
  | cons event rest ih =>
    obtain ⟨first, following⟩ := List.forall_mem_cons.mp quiet
    have later : ∀ maxLifeCycle, .setLifeCycle maxLifeCycle ∈ rest → CountsDown maxLifeCycle :=
      fun maxLifeCycle inside => setters maxLifeCycle (List.mem_cons_of_mem _ inside)
    have unlimited : cache.statusLifeCycle ≠ intMax := Int.ne_of_lt counting.2
    have passes (next : StatusCache) (stepped : cache.step event = next) (status : next.status = cache.status)
        (life : next.statusLifeCycle = cache.statusLifeCycle) (costless : event.cost = 0)
        (other : ∀ maxLifeCycle, event ≠ .setLifeCycle maxLifeCycle) :
        (WithinLimits cache.statusLifeCycle (event :: rest) ∧ (run cache (event :: rest)).status = cache.status) ∨
          (¬ WithinLimits cache.statusLifeCycle (event :: rest) ∧ (run cache (event :: rest)).status = none) := by
      have tail := ih next (status ▸ cached) (life ▸ counting) later following
      rw [within_cons event rest _ other, costless, Int.sub_zero, run_cons, stepped, ← life, ← status]
      exact tail
    cases event with
    | message pack => exact passes cache (message_ignored cache pack first) rfl rfl rfl (fun _ other => by cases other)
    | read deduction =>
      have reads := get_status_reads cache deduction
      generalize stepped : cache.getStatus deduction = next at reads
      cases reads with
      | free idle =>
        have free : deduction ≤ 0 := (idle.resolve_left cached).resolve_left unlimited
        exact passes cache stepped rfl rfl (Int.max_eq_right free) (fun _ other => by cases other)
      | spends _ limited paid left =>
        have cost : Event.cost (.read deduction) = deduction := Int.max_eq_left (Int.le_of_lt paid)
        have bound := counting.2
        have tail := ih { cache with statusLifeCycle := cache.statusLifeCycle - deduction } cached
          (show 0 < cache.statusLifeCycle - deduction ∧ cache.statusLifeCycle - deduction < intMax by omega) later following
        rw [within_cons (.read deduction) rest _ (fun _ other => by cases other), cost, run_cons, show cache.step (.read deduction) = _ from stepped]
        exact tail
      | expires _ limited paid enough =>
        have cost : Event.cost (.read deduction) = deduction := Int.max_eq_left (Int.le_of_lt paid)
        have nonneg := spent_nonneg rest
        refine .inr ⟨?_, ?_⟩
        · rw [within_cons (.read deduction) rest _ (fun _ other => by cases other), cost]
          intro within
          have less := within.1
          omega
        · rw [run_cons, show cache.step (.read deduction) = _ from stepped]
          exact quiet_stays_empty rest _ following rfl
    | setLifeCycle maxLifeCycle =>
      have positive := setters maxLifeCycle List.mem_cons_self
      have present : cache.status.isSome := Option.isSome_iff_ne_none.mpr cached
      have lowered : (cache.setStatusLifeCycle maxLifeCycle).statusLifeCycle = min cache.statusLifeCycle maxLifeCycle := by
        simp [setStatusLifeCycle, present, Int.ne_of_lt positive.2]
      have tail := ih (cache.setStatusLifeCycle maxLifeCycle) cached
        (lowered ▸ ⟨Int.lt_min.mpr ⟨counting.1, positive.1⟩, Int.lt_of_le_of_lt (Int.min_le_left _ _) counting.2⟩) later following
      rw [lowered] at tail
      rw [within_setter]
      exact tail
    | setMedianWindow windowSize | setLimitDeltas deltas | setRanges ranges =>
      exact passes _ rfl rfl rfl rfl (fun _ other => by cases other)

theorem subtraction_fits (deduction value : Int) (bounded : Bounded cache)
    (computed : cache.subtraction deduction = some value) : 0 < value ∧ value ≤ intMax := by
  have small := bounded.life
  unfold subtraction at computed
  split at computed
  · next reached =>
      cases computed
      omega
  · cases computed

theorem counted_setter_fits
    (setters : ∀ maxLifeCycle, .setLifeCycle maxLifeCycle ∈ events → CountsDown maxLifeCycle) : ∀ event ∈ events, event.Fits := by
  intro event inside
  cases event with
  | setLifeCycle maxLifeCycle =>
    obtain ⟨positive, small⟩ := setters maxLifeCycle inside
    exact ⟨by omega, Int.le_of_lt small⟩
  | _ => trivial

/-- From a maximum that is counted down, a read answers the status of the last accepted feedback while the reads stay
within every limit set since, and nothing afterwards; no deduction overflows the subtraction. -/
theorem status_lifetime_counting (before after : List Event) (pack : MotorPackMsg)
    (starting : CountsDown cache.maxStatusLifeCycle) (small : cache.statusLifeCycle ≤ intMax)
    (setters : ∀ maxLifeCycle, .setLifeCycle maxLifeCycle ∈ before ++ after → CountsDown maxLifeCycle)
    (accepted : carriesFeedback pack = true) (last : ∀ event ∈ after, event.feeds = false) :
    (run cache (before ++ [.message pack])).status ≠ none ∧
      ((run cache (before ++ .message pack :: after)).answer = (run cache (before ++ [.message pack])).status ↔
        WithinLimits (maximumAfter cache.maxStatusLifeCycle before) after) ∧
      (¬ WithinLimits (maximumAfter cache.maxStatusLifeCycle before) after →
        (run cache (before ++ .message pack :: after)).answer = none) ∧
      ∀ earlier later deduction value, before ++ .message pack :: after = earlier ++ later →
        (run cache earlier).subtraction deduction = some value → -2 ^ 31 ≤ value ∧ value ≤ intMax := by
  have setBefore : ∀ maxLifeCycle, .setLifeCycle maxLifeCycle ∈ before → CountsDown maxLifeCycle :=
    fun maxLifeCycle inside => setters maxLifeCycle (List.mem_append_left _ inside)
  have setAfter : ∀ maxLifeCycle, .setLifeCycle maxLifeCycle ∈ after → CountsDown maxLifeCycle :=
    fun maxLifeCycle inside => setters maxLifeCycle (List.mem_append_right _ inside)
  have fed : run cache (before ++ [.message pack]) = (run cache before).onMessage pack := run_append cache before [.message pack]
  have whole : run cache (before ++ .message pack :: after) = run ((run cache before).onMessage pack) after :=
    run_append cache before (.message pack :: after)
  obtain ⟨cached, life, -⟩ := message_cached (run cache before) pack accepted
  rw [run_maximum] at life
  have counting := maximum_counts before _ starting setBefore
  have fate := quiet_run after ((run cache before).onMessage pack) cached (life ▸ counting) setAfter last
  rw [life] at fate
  rw [fed, whole]
  refine ⟨cached, ?_, ?_, ?_⟩
  · rcases fate with ⟨within, same⟩ | ⟨beyond, gone⟩
    · exact ⟨fun _ => within, fun _ => same⟩
    · exact ⟨fun same => absurd (same.symm.trans gone) cached, fun within => absurd within beyond⟩
  · intro beyond
    exact (fate.resolve_left fun within => beyond within.1).2
  · intro earlier later deduction value split computed
    have fits : ∀ event ∈ earlier, event.Fits := by
      have every : ∀ event ∈ before ++ .message pack :: after, event.Fits :=
        counted_setter_fits _ fun maxLifeCycle inside => setters maxLifeCycle (by simpa using inside)
      rw [split] at every
      exact fun event inside => every event (List.mem_append_left _ inside)
    have bounded := run_bounded cache earlier fits ⟨small, Int.le_of_lt starting.2⟩
    have range := subtraction_fits _ deduction value bounded computed
    omega

theorem status_lifetime_counting_lowered :
    ((run { ranges := zeroRanges, maxStatusLifeCycle := 9 } [.message positionFeedback, .read 2, .setLifeCycle 3, .read 2]).answer =
      (run { ranges := zeroRanges, maxStatusLifeCycle := 9 } [.message positionFeedback]).status) := by
  have three : CountsDown 3 := ⟨by decide, by decide⟩
  refine (status_lifetime_counting { ranges := zeroRanges, maxStatusLifeCycle := 9 } [] [.read 2, .setLifeCycle 3, .read 2]
    positionFeedback ⟨by decide, by decide⟩ (by decide) (by simpa using three) (by decide +kernel) (by decide)).2.1.mpr ?_
  rw [within_cons (.read 2) _ _ nofun, within_setter, within_cons (.read 2) _ _ nofun, within_nil]
  decide

end StatusCache

end EncosDriver.Motor
