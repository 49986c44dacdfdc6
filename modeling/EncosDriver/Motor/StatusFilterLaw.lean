import EncosDriver.Lib.Median
import EncosDriver.Lib.History
import EncosDriver.Motor.StatusFilter
import Mathlib.Data.List.Induction

set_option autoImplicit false

namespace EncosDriver.Motor

open Lib FilterArithmetic

inductive Reading (Value : Type) where
  | finite (value : Value)
  | nan
  | infinite (negative : Bool)
deriving DecidableEq

namespace StatusFilter

open StatusCache (isMedianStatusFilterEnabled filterStatusValue medianStatusValue isLimitStatusFilterEnabled)

variable {Value : Type} [LinearOrder Value] [AddCommGroup Value]

instance : FilterArithmetic (Reading Value) where
  isFinite
    | .finite _ => true
    | _ => false
  below
    | .finite first, .finite second => decide (first < second)
    | .finite _, .infinite negative => !negative
    | .infinite negative, .finite _ => negative
    | .infinite first, .infinite second => first && !second
    | _, _ => false
  nonneg
    | .finite value => decide (0 ≤ value)
    | .infinite negative => !negative
    | .nan => false
  difference
    | .finite first, .finite second => .finite (first - second)
    | .finite _, .infinite negative => .infinite !negative
    | .infinite negative, .finite _ => .infinite negative
    | .infinite first, .infinite second => if first = second then .nan else .infinite first
    | _, _ => .nan
  magnitude
    | .finite value => .finite |value|
    | .infinite _ => .infinite false
    | .nan => .nan
  notANumber := .nan

-- What the law knows of one quantity: what was accepted since the last window
-- change or expiry, the newest value accepted since the last expiry, and the
-- settings.
structure Account (Value : Type) where
  accepted : List Value := []
  reference : Option Value := none
  windowSize : Nat := 0
  limit : Option Value := none
deriving DecidableEq

namespace Account

def capacity (account : Account Value) : Nat := if 1 < account.windowSize then account.windowSize else 0

def window (account : Account Value) : List Value := newest account.capacity account.accepted

def rejects (account : Account Value) (value : Value) : Bool :=
  match account.limit, account.reference with
  | some limit, some reference => decide (limit < |value - reference|)
  | _, _ => false

def record (account : Account Value) : Reading Value → Account Value
  | .finite value =>
    if account.rejects value then account
    else { account with accepted := account.accepted ++ [value], reference := some value }
  | _ => account

def enabledLimit : Reading Value → Option Value
  | .finite limit => if 0 ≤ limit then some limit else none
  | _ => none

def step (quantity : Quantity) (account : Account Value) : Event (Reading Value) → Account Value
  | .feedback values => account.record (values quantity)
  | .expire => { account with accepted := [], reference := none }
  | .setWindow windowSize => { account with accepted := [], windowSize := windowSize }
  | .setMaxDeltas maxDeltas => { account with limit := enabledLimit (maxDeltas quantity) }

end Account

def accountOf (quantity : Quantity) (history : List (Event (Reading Value))) : Account Value :=
  history.foldl (Account.step quantity) {}

structure Agrees (quantity : Quantity) (state : StatusFilter (Reading Value)) (account : Account Value) : Prop where
  window : state.samples quantity = account.window.map .finite
  bounded : (state.samples quantity).length ≤ state.windowSize
  -- A hidden member: it shows in what is published only while the delta limit is on.
  reference : ∀ value, state.lastAccepted quantity = .finite value ↔ account.reference = some value
  size : state.windowSize = account.windowSize
  limit : Account.enabledLimit (state.maxDeltas quantity) = account.limit

def Publishes (account : Account Value) (reading published : Reading Value) : Prop :=
  match reading with
  | .finite _ =>
    if 1 < account.windowSize ∧ account.window ≠ [] then
      ∃ middle, UpperMedian account.window middle ∧ published = .finite middle
    else ∃ last, account.reference = some last ∧ published = .finite last
  | strange => published = strange

-- The law of one quantity along a history: in every state passed, and for every
-- feedback on the way.
structure FilterLaw (quantity : Quantity) (history : List (Event (Reading Value))) : Prop where
  agrees : ∀ earlier, earlier <+: history → Agrees quantity (initial.run earlier) (accountOf quantity earlier)
  publishes : ∀ earlier values, earlier ++ [.feedback values] <+: history →
    ∃ published, (initial.run (earlier ++ [.feedback values])).published = some published ∧
      Publishes (accountOf quantity (earlier ++ [.feedback values])) (values quantity) (published quantity)

variable (quantity : Quantity)

theorem account_append (earlier : List (Event (Reading Value))) (event : Event (Reading Value)) :
    accountOf quantity (earlier ++ [event]) = (accountOf quantity earlier).step quantity event := List.foldl_append

theorem median_upper (values : List Value) (used : values ≠ []) :
    ∃ middle, UpperMedian values middle ∧ medianStatusValue (values.map Reading.finite) = .finite middle := by
  obtain ⟨middle, found, isMedian⟩ := sort_up_middle values used
  refine ⟨middle, isMedian, ?_⟩
  have sorted : (values.map Reading.finite).mergeSort (fun first second => !below second first) = (sortUp values).map .finite :=
    (List.map_mergeSort (f := Reading.finite) (l := values) fun _ _ _ _ => rfl).symm
  simp [medianStatusValue, sorted, found]

variable (account : Account Value)

theorem rejects_same (value : Value) (lastAccepted maxDelta : Reading Value)
    (reference : ∀ value, lastAccepted = .finite value ↔ account.reference = some value)
    (limit : Account.enabledLimit maxDelta = account.limit) :
    (isLimitStatusFilterEnabled maxDelta && isFinite lastAccepted &&
      below maxDelta (magnitude (difference (.finite value) lastAccepted))) = account.rejects value := by
  have absent (unset : isFinite lastAccepted = false) : account.reference = none := by
    cases held : account.reference with
    | none => rfl
    | some last =>
      rw [(reference last).mpr held] at unset
      cases unset
  cases enabled : Account.enabledLimit maxDelta with
  | none =>
    have off : isLimitStatusFilterEnabled maxDelta = false := by
      cases maxDelta with
      | finite delta =>
        by_cases positive : 0 ≤ delta
        · simp [Account.enabledLimit, positive] at enabled
        · simp [isLimitStatusFilterEnabled, isFinite, nonneg, positive]
      | nan => rfl
      | infinite negative => rfl
    simp [off, Account.rejects, ← limit, enabled]
  | some delta =>
    obtain ⟨rfl, on⟩ : maxDelta = .finite delta ∧ isLimitStatusFilterEnabled maxDelta = true := by
      cases maxDelta with
      | finite other =>
        by_cases positive : 0 ≤ other
        · obtain rfl : other = delta := by simpa [Account.enabledLimit, positive] using enabled
          simp [isLimitStatusFilterEnabled, isFinite, nonneg, positive]
        · simp [Account.enabledLimit, positive] at enabled
      | nan => cases enabled
      | infinite negative => cases enabled
    cases lastAccepted with
    | finite last =>
      have held := (reference last).mp rfl
      simp [on, Account.rejects, ← limit, enabled, held, isFinite, below, magnitude, difference]
    | nan => simp [Account.rejects, absent rfl, isFinite]
    | infinite negative => simp [Account.rejects, absent rfl, isFinite]

omit [LinearOrder Value] [AddCommGroup Value] in
theorem window_full : account.window.length ≤ account.windowSize := by
  rw [Account.window, newest_length, Account.capacity]
  split
  · exact Nat.min_le_left _ _
  · simp

omit [LinearOrder Value] [AddCommGroup Value] in
theorem window_pushed (value : Value) (reference : Option Value) (enabled : 1 < account.windowSize) :
    (if (account.window ++ [value]).length > account.windowSize then (account.window ++ [value]).drop 1 else account.window ++ [value]) =
      { account with accepted := account.accepted ++ [value], reference := reference }.window := by
  have capacity : account.capacity = account.windowSize := if_pos enabled
  have after : { account with accepted := account.accepted ++ [value], reference := reference }.capacity = account.windowSize :=
    if_pos enabled
  have grown : { account with accepted := account.accepted ++ [value], reference := reference }.window =
      newest account.windowSize (account.window ++ [value]) := by
    show newest (Account.capacity _) (account.accepted ++ [value]) = _
    rw [after, Account.window, capacity, newest_append_left]
  have full := window_full account
  rw [grown, newest]
  split
  · next excess =>
      have one : (account.window ++ [value]).length - account.windowSize = 1 := by
        simp only [List.length_append, List.length_singleton] at excess ⊢
        omega
      rw [one]
  · next fits => rw [Nat.sub_eq_zero_of_le (Nat.not_lt.mp fits), List.drop_zero]

theorem rejects_reference (value : Value) (rejected : account.rejects value = true) : ∃ last, account.reference = some last := by
  unfold Account.rejects at rejected
  split at rejected
  · next limit last _ held => exact ⟨last, held⟩
  · cases rejected

omit [LinearOrder Value] [AddCommGroup Value] in
theorem window_off (off : ¬ 1 < account.windowSize) : account.window = [] := by
  rw [Account.window, Account.capacity, if_neg off, newest, Nat.sub_zero, List.drop_length]

theorem filter_records (state : StatusFilter (Reading Value)) (account : Account Value)
    (agrees : Agrees quantity state account) (values : Quantity → Reading Value) :
    (state.filtered values quantity).samples = (account.record (values quantity)).window.map .finite ∧
      (∀ value, (state.filtered values quantity).lastAccepted = .finite value ↔
        (account.record (values quantity)).reference = some value) ∧
      Publishes (account.record (values quantity)) (values quantity) (state.filtered values quantity).value := by
  obtain ⟨window, _, reference, size, limit⟩ := agrees
  rw [filtered]
  cases reading : values quantity with
  | nan => exact ⟨window, reference, rfl⟩
  | infinite negative => exact ⟨window, reference, rfl⟩
  | finite value =>
    have finite : isFinite (Reading.finite value) = true := rfl
    have same := rejects_same account value _ _ reference limit
    cases rejected : account.rejects value with
    | true =>
      obtain ⟨last, held⟩ := rejects_reference account value rejected
      have kept : account.record (.finite value) = account := by simp [Account.record, rejected]
      by_cases median : 1 < account.windowSize ∧ account.window ≠ []
      · obtain ⟨middle, isMedian, found⟩ := median_upper account.window median.2
        have outcome : filterStatusValue (.finite value) (state.lastAccepted quantity) (state.samples quantity)
            (state.maxDeltas quantity) state.windowSize = ⟨.finite middle, state.lastAccepted quantity, state.samples quantity⟩ := by
          simp [filterStatusValue, finite, same, rejected, isMedianStatusFilterEnabled, size, window, median, found]
        rw [outcome, kept]
        exact ⟨window, reference, by simpa only [Publishes, if_pos median] using ⟨middle, isMedian, rfl⟩⟩
      · have outcome : filterStatusValue (.finite value) (state.lastAccepted quantity) (state.samples quantity)
            (state.maxDeltas quantity) state.windowSize =
              ⟨state.lastAccepted quantity, state.lastAccepted quantity, state.samples quantity⟩ := by
          have off : (isMedianStatusFilterEnabled account.windowSize && !(account.window.map Reading.finite).isEmpty) =
              false := by
            simpa [isMedianStatusFilterEnabled] using median
          simp only [filterStatusValue, finite, same, rejected, size, window, off, Bool.not_true, Bool.false_eq_true, if_false, if_true]
        rw [outcome, kept]
        exact ⟨window, reference, by simpa only [Publishes, if_neg median] using ⟨last, held, (reference last).mpr held⟩⟩
    | false =>
      have taken : account.record (.finite value) =
          { account with accepted := account.accepted ++ [value], reference := some value } := by simp [Account.record, rejected]
      by_cases enabled : 1 < account.windowSize
      · -- The newest reading joins the window, so the window has a median.
        have pushed := window_pushed account value (some value) enabled
        have joined : account.window.map Reading.finite ++ [Reading.finite value] = (account.window ++ [value]).map Reading.finite := by
          simp
        have samples : (if ((account.window ++ [value]).map Reading.finite).length > account.windowSize then
            ((account.window ++ [value]).map Reading.finite).drop 1 else (account.window ++ [value]).map Reading.finite) =
            (account.record (.finite value)).window.map Reading.finite := by
          rw [List.length_map, ← List.map_drop, ← apply_ite, pushed, taken]
        have used : (account.record (.finite value)).window ≠ [] := by
          rw [taken, ← pushed]
          split
          · next excess =>
              intro empty
              have length := congrArg List.length empty
              simp only [List.length_drop, List.length_append, List.length_singleton, List.length_nil] at excess length
              omega
          · simp
        obtain ⟨middle, isMedian, found⟩ := median_upper _ used
        have outcome : filterStatusValue (.finite value) (state.lastAccepted quantity) (state.samples quantity)
            (state.maxDeltas quantity) state.windowSize =
              ⟨.finite middle, .finite value, (account.record (.finite value)).window.map .finite⟩ := by
          simp only [filterStatusValue, finite, same, rejected, size, window, isMedianStatusFilterEnabled, enabled,
            decide_true, Bool.not_true, Bool.false_eq_true, if_false, joined, samples, found]
        have size' : 1 < (account.record (.finite value)).windowSize ∧ (account.record (.finite value)).window ≠ [] := by
          refine ⟨?_, used⟩
          rw [taken]
          exact enabled
        rw [outcome]
        refine ⟨rfl, by simp [taken], ?_⟩
        simpa only [Publishes, if_pos size'] using ⟨middle, isMedian, rfl⟩
      · have outcome : filterStatusValue (.finite value) (state.lastAccepted quantity) (state.samples quantity)
            (state.maxDeltas quantity) state.windowSize = ⟨.finite value, .finite value, state.samples quantity⟩ := by
          simp [filterStatusValue, finite, same, rejected, size, isMedianStatusFilterEnabled, enabled]
        have off : (account.record (.finite value)).window = [] := window_off _ (by rw [taken]; exact enabled)
        have size' : ¬ (1 < (account.record (.finite value)).windowSize ∧ (account.record (.finite value)).window ≠ []) :=
          fun median => median.2 off
        rw [outcome, off]
        refine ⟨by rw [window, window_off account enabled], by simp [taken], ?_⟩
        simpa only [Publishes, if_neg size'] using ⟨value, by rw [taken], rfl⟩

theorem record_settings (reading : Reading Value) :
    (account.record reading).windowSize = account.windowSize ∧ (account.record reading).limit = account.limit := by
  cases reading with
  | finite value =>
    rw [Account.record]
    split
    · exact ⟨rfl, rfl⟩
    · exact ⟨rfl, rfl⟩
  | nan => exact ⟨rfl, rfl⟩
  | infinite negative => exact ⟨rfl, rfl⟩

theorem step_agrees (state : StatusFilter (Reading Value)) (account : Account Value)
    (event : Event (Reading Value)) (agrees : Agrees quantity state account)
    (unfed : event = .expire → quantity = .speed → account.accepted = [] ∧ account.reference = none) :
    Agrees quantity (state.step event) (account.step quantity event) := by
  have cleared (size : Nat) (limit : Option Value) (reference : Option Value) :
      Account.window { accepted := [], reference := reference, windowSize := size, limit := limit } = ([] : List Value) :=
    newest_nil _
  cases event with
  | feedback values =>
    obtain ⟨samples, reference, _⟩ := filter_records quantity state account agrees values
    obtain ⟨size, limit⟩ := record_settings account (values quantity)
    refine ⟨samples, ?_, reference, agrees.size.trans size.symm, agrees.limit.trans limit.symm⟩
    have full := window_full (account.record (values quantity))
    rw [size, ← agrees.size] at full
    simp only [step, samples, List.length_map]
    exact full
  | expire =>
    by_cases speed : quantity = .speed
    · subst speed
      obtain ⟨none, unset⟩ := unfed rfl rfl
      have empty : state.samples .speed = [] := by
        rw [agrees.window, Account.window, none, newest_nil, List.map_nil]
      have reference := agrees.reference
      rw [unset] at reference
      refine ⟨?_, ?_, ?_, agrees.size, agrees.limit⟩
      · simp [step, Account.step, cleared, empty]
      · simp [step, empty]
      · simpa [step, Account.step] using reference
    · refine ⟨?_, ?_, ?_, agrees.size, agrees.limit⟩
      · simp [step, Account.step, speed, cleared]
      · simp [step, speed]
      · simp [step, Account.step, speed, notANumber]
  | setWindow windowSize =>
    exact ⟨by simp [step, Account.step, cleared], by simp [step], agrees.reference, rfl, agrees.limit⟩
  | setMaxDeltas maxDeltas => exact ⟨agrees.window, agrees.bounded, agrees.reference, agrees.size, rfl⟩

theorem initial_agrees : Agrees quantity (initial : StatusFilter (Reading Value)) {} :=
  ⟨rfl, Nat.zero_le 0, by simp [initial, notANumber], rfl, rfl⟩

variable (history : List (Event (Reading Value)))

theorem account_unfed
    (strange : ∀ values, .feedback values ∈ history → isFinite (values quantity) = false) :
    (accountOf quantity history).accepted = [] ∧ (accountOf quantity history).reference = none := by
  induction history using List.reverseRecOn with
  | nil => exact ⟨rfl, rfl⟩
  | append_singleton earlier event ih =>
    obtain ⟨accepted, reference⟩ := ih fun values inside => strange values (List.mem_append_left _ inside)
    rw [account_append]
    cases event with
    | feedback values =>
      have notFinite := strange values (by simp)
      simp only [Account.step]
      cases reading : values quantity with
      | finite value =>
        rw [reading] at notFinite
        cases notFinite
      | nan => exact ⟨accepted, reference⟩
      | infinite negative => exact ⟨accepted, reference⟩
    | expire => exact ⟨rfl, rfl⟩
    | setWindow windowSize => exact ⟨rfl, reference⟩
    | setMaxDeltas maxDeltas => exact ⟨accepted, reference⟩

def SpeedUnfed (history : List (Event (Reading Value))) : Prop :=
  ∀ earlier later, history = earlier ++ .expire :: later → ∀ values, .feedback values ∈ earlier → isFinite (values .speed) = false

theorem prefix_agrees (quiet : quantity = .speed → SpeedUnfed history)
    (earlier : List (Event (Reading Value))) (passed : earlier <+: history) :
    Agrees quantity (initial.run earlier) (accountOf quantity earlier) := by
  induction earlier using List.reverseRecOn with
  | nil => exact initial_agrees quantity
  | append_singleton earlier event ih =>
    have before : earlier <+: history := (List.prefix_append earlier [event]).trans passed
    rw [account_append, run_append]
    refine step_agrees quantity _ _ event (ih before) ?_
    rintro rfl rfl
    obtain ⟨later, split⟩ := passed
    rw [List.append_assoc] at split
    exact account_unfed .speed earlier fun values inside => quiet rfl earlier later split.symm values inside

theorem law_holds (quiet : quantity = .speed → SpeedUnfed history) :
    FilterLaw quantity history := by
  refine ⟨prefix_agrees quantity history quiet, ?_⟩
  intro earlier values passed
  have before : earlier <+: history := (List.prefix_append earlier _).trans passed
  have agrees := prefix_agrees quantity history quiet earlier before
  refine ⟨fun quantity => ((initial.run earlier).filtered values quantity).value, by rw [run_append]; rfl, ?_⟩
  rw [account_append]
  exact (filter_records quantity _ _ agrees values).2.2

theorem filter_law_iff :
    ((∀ quantity, FilterLaw quantity history) ↔ SpeedUnfed history) ∧ ∀ quantity, quantity ≠ .speed → FilterLaw quantity history := by
  refine ⟨⟨?_, fun quiet quantity => law_holds quantity history fun _ => quiet⟩,
    fun quantity other => law_holds quantity history fun speed => absurd speed other⟩
  rintro law earlier later rfl values inside
  by_contra fed
  -- The reference of the speed outlives the expiry, after which the account has none.
  have agrees := (law .speed).agrees (earlier ++ [.expire]) ⟨later, by simp⟩
  have held := run_speed (earlier ++ [.expire]) (initial : StatusFilter (Reading Value))
    (.inr ⟨values, List.mem_append_left _ inside, by simpa using fed⟩)
  cases last : (initial.run (earlier ++ [Event.expire])).lastAccepted Quantity.speed with
  | finite value =>
    have kept := (agrees.reference value).mp last
    rw [account_append] at kept
    cases kept
  | nan =>
    rw [last] at held
    cases held
  | infinite negative =>
    rw [last] at held
    cases held

def speedReading (value : Int) : Quantity → Reading Int
  | .speed => .finite value
  | _ => .nan

theorem filter_law_broken : ¬ ∀ (history : List (Event (Reading Int))) quantity, FilterLaw quantity history := by
  intro law
  have agrees := (law [.setWindow 3, .feedback (speedReading 5), .expire] .speed).agrees _ (List.prefix_refl _)
  have kept : (initial.run [.setWindow 3, .feedback (speedReading 5), .expire]).samples .speed = [.finite 5] := by decide
  have window := agrees.window
  rw [kept] at window
  cases window

end StatusFilter

end EncosDriver.Motor
