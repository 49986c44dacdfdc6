import EncosDriver.Lib.Bytes
import EncosDriver.Lib.Numeral

set_option autoImplicit false

namespace EncosDriver.Can.Timing

open Lib Lib.Numeral

structure CanTiming where
  bitrate : Int := 1000000
  samplePoint : ℚ := 765 / 1000
  dbitrate : Int := 5000000
  dsamplePoint : ℚ := 882 / 1000
deriving DecidableEq

inductive Value where
  | integer (number : Int)
  | real (number : ℚ)
  | other
deriving DecidableEq

abbrev Scope := List (Text × Value)

def kBitrate : Text := "bitrate".toList
def kSamplePoint : Text := "sample_point".toList
def kDbitrate : Text := "dbitrate".toList
def kDsamplePoint : Text := "dsample_point".toList
def kCanTimingFields : List Text := [kBitrate, kSamplePoint, kDbitrate, kDsamplePoint]
def kMaxInt : Int := 2147483647

inductive TimingError where
  | unsupported (key : Text)
  | notInteger (key : Text)
  | notPositive (key : Text)
  | notNumber (key : Text)
  | outside (key : Text)
deriving DecidableEq

def TimingError.what : TimingError → Text
  | .unsupported key => "CAN extend field '".toList ++ key ++ "' is not supported".toList
  | .notInteger key => "CAN extend '".toList ++ key ++ "' must be an integer".toList
  | .notPositive key => "CAN extend '".toList ++ key ++ "' must be a positive bitrate in bit/s".toList
  | .notNumber key => "CAN extend '".toList ++ key ++ "' must be a number".toList
  | .outside key => "CAN extend '".toList ++ key ++ "' must be a sample point in (0, 1]".toList

def readCanTimingRate (scope : Scope) (key : Text) (fallback : Int) : Except TimingError Int :=
  match scope.lookup key with
  | none => .ok fallback
  | some (.integer number) =>
    let parsed := number.bmod (2 ^ 64)
    if parsed ≤ 0 ∨ parsed > kMaxInt then .error (.notPositive key) else .ok parsed
  | some _ => .error (.notInteger key)

def readCanTimingSamplePoint (scope : Scope) (key : Text) (fallback : ℚ) : Except TimingError ℚ :=
  let check (parsed : ℚ) : Except TimingError ℚ := if 0 < parsed ∧ parsed ≤ 1 then .ok parsed else .error (.outside key)
  match scope.lookup key with
  | none => .ok fallback
  | some (.integer number) => check number
  | some (.real number) => check number
  | some .other => .error (.notNumber key)

def applyCanTiming (scope : Scope) (timing : CanTiming) : Except TimingError CanTiming :=
  match scope.find? fun member => !kCanTimingFields.contains member.1 with
  | some member => .error (.unsupported member.1)
  | none => do
      let bitrate ← readCanTimingRate scope kBitrate timing.bitrate
      let samplePoint ← readCanTimingSamplePoint scope kSamplePoint timing.samplePoint
      let dbitrate ← readCanTimingRate scope kDbitrate timing.dbitrate
      let dsamplePoint ← readCanTimingSamplePoint scope kDsamplePoint timing.dsamplePoint
      .ok ⟨bitrate, samplePoint, dbitrate, dsamplePoint⟩

def formatCanTiming (timing : CanTiming) : Text :=
  (printInteger timing.bitrate ++ ',' :: (printFixed 6 timing.samplePoint ++ ',' ::
    (printInteger timing.dbitrate ++ ',' :: printFixed 6 timing.dsamplePoint))).take 127

def double : Rounding.Format := ⟨52, -1022, by decide⟩
def largestDouble : ℚ := (2 ^ 53 - 1) * 2 ^ 971
def leastDouble : ℚ := 1 / 2 ^ 1022

def outOfRange (value : ℚ) : Prop :=
  largestDouble < |Rounding.round double value| ∨ |Rounding.round double value| < leastDouble ∧ Rounding.round double value ≠ value

instance (value : ℚ) : Decidable (outOfRange value) := by unfold outOfRange; infer_instance

def parseFiniteDouble (field : Text) : Option ℚ :=
  if field = [] then none
  else
    match strtod field with
    | some (.finite value, []) => if outOfRange value then none else some (Rounding.round double value)
    | _ => none

def readValues : Nat → Text → Option (List ℚ)
  | 0, text => if text = [] then none else (parseFiniteDouble text).map ([·])
  | fields + 1, text =>
    let first := text.takeWhile (· ≠ ',')
    if text.contains ',' = false ∨ first = [] then none
    else do
      let value ← parseFiniteDouble first
      let rest ← readValues fields (text.drop (first.length + 1))
      some (value :: rest)

def integralInRange (value : ℚ) : Prop := 0 < value ∧ value ≤ kMaxInt ∧ (⌊value⌋ : ℚ) = value
def validSamplePoint (value : ℚ) : Prop := 0 < value ∧ value ≤ 1

instance (value : ℚ) : Decidable (integralInRange value) := by unfold integralInRange; infer_instance
instance (value : ℚ) : Decidable (validSamplePoint value) := by unfold validSamplePoint; infer_instance

def parseCanTiming (text : Text) : Option CanTiming :=
  match readValues 3 text with
  | some [bitrate, samplePoint, dbitrate, dsamplePoint] =>
    if integralInRange bitrate ∧ validSamplePoint samplePoint ∧ integralInRange dbitrate ∧ validSamplePoint dsamplePoint then
      some ⟨⌊bitrate⌋, samplePoint, ⌊dbitrate⌋, dsamplePoint⟩
    else none
  | _ => none

structure Valid (timing : CanTiming) : Prop where
  bitrate : 0 < timing.bitrate ∧ timing.bitrate ≤ kMaxInt
  samplePoint : validSamplePoint timing.samplePoint
  dbitrate : 0 < timing.dbitrate ∧ timing.dbitrate ≤ kMaxInt
  dsamplePoint : validSamplePoint timing.dsamplePoint

theorem rate_valid (scope : Scope) (key : Text) (fallback rate : Int) (default : 0 < fallback ∧ fallback ≤ kMaxInt)
    (read : readCanTimingRate scope key fallback = .ok rate) : 0 < rate ∧ rate ≤ kMaxInt := by
  unfold readCanTimingRate at read
  split at read
  · cases read
    exact default
  · dsimp only at read
    split at read
    · cases read
    · cases read
      omega
  · cases read

theorem sample_point_valid (scope : Scope) (key : Text) (fallback point : ℚ) (default : validSamplePoint fallback)
    (read : readCanTimingSamplePoint scope key fallback = .ok point) : validSamplePoint point := by
  unfold readCanTimingSamplePoint at read
  dsimp only at read
  split at read
  · cases read
    exact default
  · split at read
    · cases read
      assumption
    · cases read
  · split at read
    · cases read
      assumption
    · cases read
  · cases read

theorem default_valid : Valid {} := by
  refine ⟨?_, ?_, ?_, ?_⟩ <;> norm_num [kMaxInt, validSamplePoint]

theorem accepted_valid (scope : Scope) (base timing : CanTiming) (default : Valid base)
    (accepted : applyCanTiming scope base = .ok timing) : Valid timing := by
  unfold applyCanTiming at accepted
  split at accepted
  · cases accepted
  · obtain ⟨bitrate, first, accepted⟩ := (bind_ok _ _ _).mp accepted
    obtain ⟨samplePoint, second, accepted⟩ := (bind_ok _ _ _).mp accepted
    obtain ⟨dbitrate, third, accepted⟩ := (bind_ok _ _ _).mp accepted
    obtain ⟨dsamplePoint, fourth, accepted⟩ := (bind_ok _ _ _).mp accepted
    cases accepted
    exact ⟨rate_valid _ _ _ _ default.bitrate first, sample_point_valid _ _ _ _ default.samplePoint second,
      rate_valid _ _ _ _ default.dbitrate third, sample_point_valid _ _ _ _ default.dsamplePoint fourth⟩

def scopeOf (timing : CanTiming) : Scope :=
  [(kBitrate, .integer timing.bitrate), (kSamplePoint, .real timing.samplePoint), (kDbitrate, .integer timing.dbitrate),
    (kDsamplePoint, .real timing.dsamplePoint)]

theorem valid_accepted (base timing : CanTiming) (valid : Valid timing) : applyCanTiming (scopeOf timing) base = .ok timing := by
  obtain ⟨⟨low, high⟩, ⟨positive, unit⟩, ⟨lowData, highData⟩, ⟨positiveData, unitData⟩⟩ := valid
  have keep (rate : Int) (above : 0 < rate) (below : rate ≤ kMaxInt) : rate.bmod (2 ^ 64) = rate := by
    rw [kMaxInt] at below
    exact Int.bmod_eq_of_le (by omega) (by omega)
  have known : (scopeOf timing).find? (fun member => !kCanTimingFields.contains member.1) = none := by
    simp [scopeOf, kCanTimingFields]
  have rate : readCanTimingRate (scopeOf timing) kBitrate base.bitrate = .ok timing.bitrate := by
    have here : (scopeOf timing).lookup kBitrate = some (.integer timing.bitrate) := rfl
    rw [readCanTimingRate, here]
    simp only [keep _ low high]
    rw [if_neg (by omega)]
  have point : readCanTimingSamplePoint (scopeOf timing) kSamplePoint base.samplePoint = .ok timing.samplePoint := by
    have here : (scopeOf timing).lookup kSamplePoint = some (.real timing.samplePoint) := rfl
    rw [readCanTimingSamplePoint, here]
    exact if_pos ⟨positive, unit⟩
  have dataRate : readCanTimingRate (scopeOf timing) kDbitrate base.dbitrate = .ok timing.dbitrate := by
    have here : (scopeOf timing).lookup kDbitrate = some (.integer timing.dbitrate) := rfl
    rw [readCanTimingRate, here]
    simp only [keep _ lowData highData]
    rw [if_neg (by omega)]
  have dataPoint : readCanTimingSamplePoint (scopeOf timing) kDsamplePoint base.dsamplePoint = .ok timing.dsamplePoint := by
    have here : (scopeOf timing).lookup kDsamplePoint = some (.real timing.dsamplePoint) := rfl
    rw [readCanTimingSamplePoint, here]
    exact if_pos ⟨positiveData, unitData⟩
  rw [applyCanTiming, known]
  simp only [rate, point, dataRate, dataPoint]
  rfl

theorem parse_valid (text : Text) (timing : CanTiming) (parsed : parseCanTiming text = some timing) : Valid timing := by
  unfold parseCanTiming at parsed
  split at parsed
  · rename_i bitrate samplePoint dbitrate dsamplePoint _
    split at parsed
    · rename_i checked
      cases parsed
      obtain ⟨⟨low, high, whole⟩, point, ⟨lowData, highData, wholeData⟩, dataPoint⟩ := checked
      rw [← whole] at low high
      rw [← wholeData] at lowData highData
      exact ⟨⟨by exact_mod_cast low, by exact_mod_cast high⟩, point, ⟨by exact_mod_cast lowData, by exact_mod_cast highData⟩, dataPoint⟩
    · cases parsed
  · cases parsed

theorem nearest_positive (value : ℚ) : 0 < Binary32.nearestEven value ↔ 1 / 2 < value := by
  have error := abs_le.mp (Binary32.nearest_error value)
  constructor
  · intro positive
    by_contra small
    have one : (1 : ℚ) ≤ Binary32.nearestEven value := by exact_mod_cast positive
    have half : value = 1 / 2 := by linarith [not_lt.mp small]
    have even : Binary32.nearestEven (1 / 2) = 0 := by
      have floor : ⌊(1 / 2 : ℚ)⌋ = 0 := by norm_num
      rw [Binary32.nearestEven, floor]
      norm_num
    rw [half, even] at positive
    exact absurd positive (by decide)
  · intro large
    have positive : (0 : ℚ) < Binary32.nearestEven value := by linarith
    exact_mod_cast positive

variable (point : ℚ)

theorem millionths (valid : validSamplePoint point) :
    |(scaledDigits 6 point : ℚ) / 10 ^ 6 - point| ≤ 1 / 2 / 10 ^ 6 ∧ scaledDigits 6 point ≤ 10 ^ 6 ∧
      (0 < scaledDigits 6 point ↔ 1 / 2000000 < point) := by
  obtain ⟨positive, unit⟩ := valid
  have size : |point| = point := abs_of_pos positive
  have nonneg : 0 ≤ Binary32.nearestEven (|point| * 10 ^ 6) := Binary32.le_nearest _ 0 (by rw [size]; push_cast; positivity)
  have cast : (scaledDigits 6 point : ℤ) = Binary32.nearestEven (|point| * 10 ^ 6) := Int.toNat_of_nonneg nonneg
  have error := abs_le.mp (Binary32.nearest_error (|point| * 10 ^ 6))
  have below := Binary32.nearest_le (|point| * 10 ^ 6) (10 ^ 6) (by rw [size]; push_cast; linarith)
  have sign := nearest_positive (|point| * 10 ^ 6)
  rw [← cast, size] at error sign
  push_cast at error
  refine ⟨?_, by omega, ?_⟩
  · rw [abs_le]
    constructor <;> linarith [error.1, error.2]
  · rw [← Int.natCast_pos, sign]
    constructor <;> intro above <;> linarith

theorem read_double (field : Text) (present : field ≠ []) (value : ℚ) (read : strtod field = some (.finite value, []))
    (within : ¬ outOfRange value) : parseFiniteDouble field = some (Rounding.round double value) := by
  rw [parseFiniteDouble, if_neg present, read]
  exact if_neg within

theorem largest_bound : (2147483647 : ℚ) ≤ largestDouble := by
  have power : (1 : ℚ) ≤ 2 ^ 971 := one_le_pow₀ (by norm_num)
  have scaled := mul_le_mul_of_nonneg_left power (show (0 : ℚ) ≤ 2 ^ 53 - 1 by norm_num)
  rw [mul_one] at scaled
  exact le_trans (by norm_num) scaled

theorem least_bound : leastDouble ≤ 1 / 2 ^ 30 :=
  one_div_le_one_div_of_le (by norm_num) (pow_le_pow_right₀ (by norm_num) (by decide))

theorem exact_in_range (value : ℚ) (stays : Rounding.round double value = value) (small : |value| ≤ largestDouble) : ¬ outOfRange value := by
  rw [outOfRange, stays]
  rintro (large | ⟨_, lost⟩)
  · exact absurd small (not_le.mpr large)
  · exact lost rfl

theorem read_rate (rate : Int) (positive : 0 < rate) (fits : rate ≤ kMaxInt) : parseFiniteDouble (printInteger rate) = some rate := by
  obtain ⟨number, rfl⟩ := Int.eq_ofNat_of_zero_le positive.le
  rw [kMaxInt] at fits
  have same := Rounding.round_nat double number (show number < 2 ^ (52 + 1) by omega)
  have small : |(number : ℚ)| ≤ largestDouble := by
    have bound : (number : ℚ) ≤ 2147483647 := by exact_mod_cast fits
    rw [abs_of_nonneg (Nat.cast_nonneg number)]
    exact bound.trans largest_bound
  have present : printInteger number ≠ [] := by
    rw [printInteger, if_neg (by omega)]
    exact Decimal.print_present _
  rw [read_double _ present _ (strtod_integer number) (exact_in_range _ same small), same]
  norm_num

theorem round_millionths (count : ℕ) (present : 0 < count) (fits : count ≤ 10 ^ 6) :
    (1 : ℚ) / 10 ^ 6 / 2 ≤ Rounding.round double (count / 10 ^ 6) ∧ Rounding.round double (count / 10 ^ 6) ≤ 1 ∧
      |Rounding.round double (count / 10 ^ 6) - count / 10 ^ 6| ≤ 1 / 10 ^ 6 / 2 := by
  have positive : (0 : ℚ) < count / 10 ^ 6 := div_pos (by exact_mod_cast present) (by norm_num)
  have unit : (count : ℚ) / 10 ^ 6 ≤ 1 := by
    rw [div_le_one (by norm_num)]
    exact_mod_cast fits
  have one : (1 : ℚ) / 10 ^ 6 ≤ count / 10 ^ 6 := div_le_div_of_nonneg_right (by exact_mod_cast present) (by norm_num)
  have fine : (1 : ℚ) / 2 ^ (double.digits + 1) ≤ 1 / 10 ^ 6 / 2 := by norm_num [double]
  have error := (Rounding.unit_error double _ positive unit).trans fine
  refine ⟨?_, Rounding.round_unit double _ positive unit, error⟩
  linarith [(abs_le.mp error).1]

theorem read_point (valid : validSamplePoint point) :
    parseFiniteDouble (printFixed 6 point) = some (Rounding.round double (scaledDigits 6 point / 10 ^ 6)) := by
  obtain ⟨_, fits, _⟩ := millionths point valid
  have present : printFixed 6 point ≠ [] := by
    rw [printFixed, if_neg (not_lt.mpr valid.1.le)]
    simp
  refine read_double _ present _ (strtod_fixed 6 (by decide) point valid.1.le) ?_
  by_cases zero : scaledDigits 6 point = 0
  · rw [zero, Nat.cast_zero, zero_div]
    exact exact_in_range 0 (Rounding.round_zero double) (by rw [abs_zero]; linarith [largest_bound])
  · obtain ⟨above, below, _⟩ := round_millionths _ (Nat.pos_of_ne_zero zero) fits
    have nonneg : 0 ≤ Rounding.round double (scaledDigits 6 point / 10 ^ 6) := le_trans (by norm_num) above
    rw [outOfRange, abs_of_nonneg nonneg]
    rintro (large | ⟨least, _⟩)
    · linarith [largest_bound]
    · linarith [least_bound]

theorem read_field (fields : Nat) (first rest : Text) (unmarked : first.contains ',' = false) (present : first ≠ []) :
    readValues (fields + 1) (first ++ ',' :: rest) =
      (parseFiniteDouble first).bind fun value => (readValues fields rest).map (value :: ·) := by
  have marked : (first ++ ',' :: rest).contains ',' = true := by simp
  have front : (first ++ ',' :: rest).takeWhile (· ≠ ',') = first := by
    have every : ∀ c ∈ first, decide (c ≠ ',') = true := List.takeWhile_eq_self_iff.mp (Decimal.uncut ',' first unmarked)
    rw [List.takeWhile_append_of_pos every]
    simp
  have behind : (first ++ ',' :: rest).drop (first.length + 1) = rest := by simp
  simp only [readValues, front, behind, marked, present, Bool.true_eq_false, or_self, ↓reduceIte]
  cases parseFiniteDouble first with
  | none => rfl
  | some value =>
    cases readValues fields rest with
    | none => rfl
    | some values => rfl

theorem integer_unmarked (rate : Int) (positive : 0 < rate) : (printInteger rate).contains ',' = false ∧ printInteger rate ≠ [] := by
  rw [printInteger, if_neg (by omega)]
  exact ⟨Decimal.print_unmarked ',' rfl _, Decimal.print_present _⟩

theorem fixed_unmarked (positive : 0 < point) : (printFixed 6 point).contains ',' = false ∧ printFixed 6 point ≠ [] := by
  rw [printFixed, if_neg (not_lt.mpr positive.le)]
  refine ⟨?_, by simp⟩
  have behind : (padded 6 (scaledDigits 6 point % 10 ^ 6)).contains ',' = false := by
    cases marked : (padded 6 (scaledDigits 6 point % 10 ^ 6)).contains ',' with
    | false => rfl
    | true =>
      have digit := List.all_eq_true.mp (padded_digits 6 _) ',' (List.contains_iff_mem.mp marked)
      cases digit
  have front := Decimal.print_unmarked ',' rfl (scaledDigits 6 point / 10 ^ 6)
  rw [List.contains_append, List.contains_cons, front, behind]
  rfl

theorem integer_length (rate : Int) (positive : 0 < rate) (fits : rate ≤ kMaxInt) : (printInteger rate).length ≤ 10 := by
  rw [printInteger, if_neg (by omega)]
  rw [kMaxInt] at fits
  exact (Decimal.print_length _ 10 (by decide)).mpr (by omega)

theorem fixed_length (valid : validSamplePoint point) : (printFixed 6 point).length ≤ 8 := by
  obtain ⟨_, fits, _⟩ := millionths point valid
  have whole := (Decimal.print_length (scaledDigits 6 point / 10 ^ 6) 1 (by decide)).mpr (by omega)
  have behind := padded_length 6 (scaledDigits 6 point % 10 ^ 6) (by decide) (Nat.mod_lt _ (by decide))
  rw [printFixed, if_neg (not_lt.mpr valid.1.le), List.length_append, List.length_cons, behind]
  omega

theorem format_read (timing : CanTiming) (valid : Valid timing) : readValues 3 (formatCanTiming timing) =
    some [(timing.bitrate : ℚ), Rounding.round double (scaledDigits 6 timing.samplePoint / 10 ^ 6), (timing.dbitrate : ℚ),
      Rounding.round double (scaledDigits 6 timing.dsamplePoint / 10 ^ 6)] := by
  obtain ⟨⟨low, high⟩, point, ⟨lowData, highData⟩, dataPoint⟩ := valid
  obtain ⟨first, firstPresent⟩ := integer_unmarked timing.bitrate low
  obtain ⟨second, secondPresent⟩ := fixed_unmarked timing.samplePoint point.1
  obtain ⟨third, thirdPresent⟩ := integer_unmarked timing.dbitrate lowData
  obtain ⟨_, fourthPresent⟩ := fixed_unmarked timing.dsamplePoint dataPoint.1
  have whole : formatCanTiming timing = printInteger timing.bitrate ++ ',' :: (printFixed 6 timing.samplePoint ++ ',' ::
      (printInteger timing.dbitrate ++ ',' :: printFixed 6 timing.dsamplePoint)) := by
    have lengths := integer_length timing.bitrate low high
    have more := integer_length timing.dbitrate lowData highData
    have points := fixed_length timing.samplePoint point
    have others := fixed_length timing.dsamplePoint dataPoint
    refine List.take_of_length_le ?_
    simp only [List.length_append, List.length_cons]
    omega
  have last : readValues 0 (printFixed 6 timing.dsamplePoint) =
      some [Rounding.round double (scaledDigits 6 timing.dsamplePoint / 10 ^ 6)] := by
    rw [readValues, if_neg fourthPresent, read_point _ dataPoint]
    rfl
  rw [whole, read_field 2 _ _ first firstPresent, read_field 1 _ _ second secondPresent, read_field 0 _ _ third thirdPresent, last,
    read_rate _ low high, read_rate _ lowData highData, read_point _ point]
  rfl

def HandedOver (timing : CanTiming) : Prop :=
  ∃ parsed, parseCanTiming (formatCanTiming timing) = some parsed ∧
    parsed.bitrate = timing.bitrate ∧ |parsed.samplePoint - timing.samplePoint| ≤ 1 / 10 ^ 6 ∧ validSamplePoint parsed.samplePoint ∧
    parsed.dbitrate = timing.dbitrate ∧ |parsed.dsamplePoint - timing.dsamplePoint| ≤ 1 / 10 ^ 6 ∧ validSamplePoint parsed.dsamplePoint

theorem point_returns (valid : validSamplePoint point) (visible : 1 / 2000000 < point) :
    validSamplePoint (Rounding.round double (scaledDigits 6 point / 10 ^ 6)) ∧
      |Rounding.round double (scaledDigits 6 point / 10 ^ 6) - point| ≤ 1 / 10 ^ 6 := by
  obtain ⟨near, fits, counted⟩ := millionths point valid
  obtain ⟨above, below, error⟩ := round_millionths _ (counted.mpr visible) fits
  refine ⟨⟨lt_of_lt_of_le (by norm_num) above, below⟩, ?_⟩
  rw [abs_le] at near error ⊢
  constructor <;> linarith [near.1, near.2, error.1, error.2]

theorem point_vanishes (valid : validSamplePoint point) (hidden : point ≤ 1 / 2000000) :
    Rounding.round double (scaledDigits 6 point / 10 ^ 6) = 0 := by
  obtain ⟨_, _, counted⟩ := millionths point valid
  have unseen : scaledDigits 6 point = 0 := Nat.eq_zero_of_not_pos fun count => absurd (counted.mp count) (not_lt.mpr hidden)
  rw [unseen, Nat.cast_zero, zero_div, Rounding.round_zero]

theorem handed_over_iff (timing : CanTiming) (valid : Valid timing) :
    HandedOver timing ↔ 1 / 2000000 < timing.samplePoint ∧ 1 / 2000000 < timing.dsamplePoint := by
  have read := format_read timing valid
  have low (rate : Int) (checked : 0 < rate ∧ rate ≤ kMaxInt) : integralInRange rate :=
    ⟨by exact_mod_cast checked.1, by exact_mod_cast checked.2, by rw [Int.floor_intCast]⟩
  constructor
  · rintro ⟨parsed, ran, _, _, point, _, _, dataPoint⟩
    rw [parseCanTiming, read] at ran
    dsimp only at ran
    split at ran
    · cases ran
      constructor
      · by_contra hidden
        rw [point_vanishes _ valid.samplePoint (not_lt.mp hidden)] at point
        exact absurd point.1 (lt_irrefl 0)
      · by_contra hidden
        rw [point_vanishes _ valid.dsamplePoint (not_lt.mp hidden)] at dataPoint
        exact absurd dataPoint.1 (lt_irrefl 0)
    · cases ran
  · rintro ⟨visible, dataVisible⟩
    obtain ⟨point, near⟩ := point_returns _ valid.samplePoint visible
    obtain ⟨dataPoint, dataNear⟩ := point_returns _ valid.dsamplePoint dataVisible
    refine ⟨{ timing with
      samplePoint := Rounding.round double (scaledDigits 6 timing.samplePoint / 10 ^ 6)
      dsamplePoint := Rounding.round double (scaledDigits 6 timing.dsamplePoint / 10 ^ 6) }, ?_, rfl, near, point, rfl, dataNear, dataPoint⟩
    rw [parseCanTiming, read]
    dsimp only
    rw [if_pos ⟨low _ valid.bitrate, point, low _ valid.dbitrate, dataPoint⟩, Int.floor_intCast, Int.floor_intCast]

/-- The text has six decimals, and a sample point of half a millionth or less is printed as zero. -/
theorem can_timing_hand_over (scope : Scope) (timing : CanTiming) (accepted : applyCanTiming scope {} = .ok timing) :
    (HandedOver timing ↔ 1 / 2000000 < timing.samplePoint ∧ 1 / 2000000 < timing.dsamplePoint) ∧
    ∀ text parsed, parseCanTiming text = some parsed → applyCanTiming (scopeOf parsed) {} = .ok parsed :=
  ⟨handed_over_iff timing (accepted_valid scope {} timing default_valid accepted),
    fun text parsed ran => valid_accepted {} parsed (parse_valid text parsed ran)⟩

theorem can_timing_hand_over_default : HandedOver {} :=
  (can_timing_hand_over [] {} rfl).1.mpr ⟨by norm_num, by norm_num⟩

def tinySamplePoint : CanTiming := { samplePoint := 1 / 10000000 }

theorem tiny_sample_point_refused :
    applyCanTiming [(kSamplePoint, .real (1 / 10000000))] {} = .ok tinySamplePoint ∧ ¬ HandedOver tinySamplePoint := by
  have accepted : applyCanTiming [(kSamplePoint, .real (1 / 10000000))] {} = .ok tinySamplePoint := by decide +kernel
  refine ⟨accepted, fun handed => ?_⟩
  have visible := ((handed_over_iff _ (accepted_valid _ _ _ default_valid accepted)).mp handed).1
  norm_num [tinySamplePoint] at visible

end EncosDriver.Can.Timing
