import Mathlib.Data.Int.Log
import Mathlib.Data.Rat.Floor
import Mathlib.Tactic.Positivity

set_option autoImplicit false

namespace EncosDriver.Lib.Binary32

def exponent (value : ℚ) : Int := if value = 0 then -126 else max (Int.log 2 |value|) (-126)

def spacing (value : ℚ) : ℚ := 2 ^ (exponent value - 23)

def largest : ℚ := (2 ^ 24 - 1) * 2 ^ 104

def nearestEven (value : ℚ) : Int :=
  let fraction := value - ⌊value⌋
  if fraction < 1 / 2 ∨ fraction = 1 / 2 ∧ ⌊value⌋ % 2 = 0 then ⌊value⌋ else ⌊value⌋ + 1

def significand (value : ℚ) : Nat := (nearestEven (|value| / spacing value)).toNat

def magnitude (value : ℚ) : Nat := (exponent value + 126).toNat * 2 ^ 23 + significand value

def encode (value : ℚ) : UInt32 := UInt32.ofNat (if value < 0 then 2 ^ 31 + magnitude value else magnitude value)

def decodeMagnitude (magnitude : Nat) : ℚ :=
  let field : Nat := magnitude / 2 ^ 23
  let fraction : Nat := magnitude % 2 ^ 23
  if field = 0 then fraction * 2 ^ (-149 : Int) else (2 ^ 23 + fraction) * 2 ^ ((field : Int) - 150)

def decode (bits : UInt32) : ℚ :=
  if bits.toNat < 2 ^ 31 then decodeMagnitude bits.toNat else -decodeMagnitude (bits.toNat - 2 ^ 31)

variable (value : ℚ)

theorem nearest_error : |(nearestEven value : ℚ) - value| ≤ 1 / 2 := by
  have below := Int.floor_le value
  have above := Int.lt_floor_add_one value
  unfold nearestEven
  simp only
  split
  · rename_i down
    rw [abs_le]
    rcases down with small | ⟨half, _⟩ <;> constructor <;> linarith
  · rename_i up
    have large : 1 / 2 ≤ value - ⌊value⌋ := not_lt.mp (fun small => up (.inl small))
    push_cast
    rw [abs_le]
    constructor <;> linarith

theorem le_nearest (low : Int) (above : (low : ℚ) ≤ value) : low ≤ nearestEven value := by
  have floor : low ≤ ⌊value⌋ := Int.le_floor.mpr above
  unfold nearestEven
  simp only
  split <;> omega

theorem nearest_le (high : Int) (below : value ≤ high) : nearestEven value ≤ high := by
  have floor : ⌊value⌋ ≤ high := Int.floor_le_iff.mpr (below.trans_lt (lt_add_one _))
  unfold nearestEven
  simp only
  split
  · exact floor
  · rename_i up
    have large : 1 / 2 ≤ value - ⌊value⌋ := not_lt.mp (fun small => up (.inl small))
    by_contra beyond
    have top : ⌊value⌋ = high := by omega
    rw [top] at large
    linarith

theorem nearest_integer (number : Int) : nearestEven number = number := by
  simp only [nearestEven, Int.floor_intCast, sub_self]
  norm_num

theorem spacing_pos : 0 < spacing value := zpow_pos (by norm_num) _

theorem exponent_least : -126 ≤ exponent value := by
  unfold exponent
  split
  · exact le_refl _
  · exact le_max_right _ _

theorem abs_lt_next : |value| < 2 ^ (exponent value + 1) := by
  by_cases zero : value = 0
  · rw [zero, abs_zero]
    exact zpow_pos (by norm_num) _
  · have next := Int.lt_zpow_succ_log_self (R := ℚ) (b := 2) (by norm_num) |value|
    refine next.trans_le ?_
    have larger : Int.log 2 |value| ≤ exponent value := by
      rw [exponent, if_neg zero]
      exact le_max_left _ _
    exact zpow_le_zpow_right₀ (by norm_num) (by omega)

theorem power_le_abs (normal : exponent value ≠ -126) : (2 : ℚ) ^ exponent value ≤ |value| := by
  by_cases zero : value = 0
  · exact absurd (by rw [exponent, if_pos zero]) normal
  · have own : exponent value = Int.log 2 |value| := by
      rw [exponent, if_neg zero] at normal ⊢
      omega
    rw [own]
    exact Int.zpow_log_le_self (by norm_num) (abs_pos.mpr zero)

theorem scaled_nonneg : 0 ≤ |value| / spacing value := div_nonneg (abs_nonneg _) (spacing_pos value).le

theorem significand_cast : ((significand value : ℤ)) = nearestEven (|value| / spacing value) :=
  Int.toNat_of_nonneg (le_nearest _ 0 (by exact_mod_cast scaled_nonneg value))

theorem significand_le : significand value ≤ 2 ^ 24 := by
  have scaled : |value| / spacing value ≤ ((2 ^ 24 : Int) : ℚ) := by
    rw [div_le_iff₀ (spacing_pos value), spacing]
    refine (abs_lt_next value).le.trans (le_of_eq ?_)
    rw [show exponent value + 1 = 24 + (exponent value - 23) by omega, zpow_add₀ (by norm_num)]
    norm_num
  have bound := nearest_le _ _ scaled
  have cast := significand_cast value
  omega

theorem le_significand (normal : exponent value ≠ -126) : 2 ^ 23 ≤ significand value := by
  have scaled : ((2 ^ 23 : Int) : ℚ) ≤ |value| / spacing value := by
    rw [le_div_iff₀ (spacing_pos value), spacing]
    refine le_trans (le_of_eq ?_) (power_le_abs value normal)
    rw [show exponent value = 23 + (exponent value - 23) by omega, zpow_add₀ (by norm_num)]
    norm_num
  have bound := le_nearest _ _ scaled
  have cast := significand_cast value
  omega

theorem magnitude_finite (finite : |value| ≤ largest) : magnitude value < 255 * 2 ^ 23 := by
  have least := exponent_least value
  have bound := significand_le value
  have inRange : exponent value ≤ 127 := by
    by_contra beyond
    have normal : exponent value ≠ -126 := by omega
    have power := power_le_abs value normal
    have exceeds : (2 : ℚ) ^ (128 : Int) ≤ 2 ^ exponent value := zpow_le_zpow_right₀ (by norm_num) (by omega)
    have limit : largest < (2 : ℚ) ^ (128 : Int) := by
      rw [largest]
      norm_num
    linarith
  by_cases top : exponent value = 127
  · have scaled : |value| / spacing value ≤ ((2 ^ 24 - 1 : Int) : ℚ) := by
      rw [div_le_iff₀ (spacing_pos value), spacing, top]
      refine finite.trans (le_of_eq ?_)
      rw [largest]
      norm_num
    have below := nearest_le _ _ scaled
    have cast := significand_cast value
    unfold magnitude
    omega
  · unfold magnitude
    omega

theorem decode_magnitude (field significand : Nat) (bound : significand ≤ 2 ^ 24) (normal : significand < 2 ^ 23 → field = 0) :
    decodeMagnitude (field * 2 ^ 23 + significand) = significand * 2 ^ ((field : Int) - 149) := by
  unfold decodeMagnitude
  simp only
  by_cases small : significand < 2 ^ 23
  · obtain rfl := normal small
    rw [show (0 * 2 ^ 23 + significand) / 2 ^ 23 = 0 by omega, show (0 * 2 ^ 23 + significand) % 2 ^ 23 = significand by omega]
    norm_num
  · by_cases full : significand = 2 ^ 24
    · subst full
      rw [show (field * 2 ^ 23 + 2 ^ 24) / 2 ^ 23 = field + 2 by omega, show (field * 2 ^ 23 + 2 ^ 24) % 2 ^ 23 = 0 by omega,
        if_neg (by omega)]
      push_cast
      rw [show (field : Int) + 2 - 150 = (field - 149) + 1 by omega, zpow_add₀ (by norm_num)]
      ring
    · rw [show (field * 2 ^ 23 + significand) / 2 ^ 23 = field + 1 by omega,
        show (field * 2 ^ 23 + significand) % 2 ^ 23 = significand - 2 ^ 23 by omega, if_neg (by omega),
        Nat.cast_sub (by omega : 2 ^ 23 ≤ significand)]
      push_cast
      rw [show (field : Int) + 1 - 150 = field - 149 by omega]
      ring

theorem decode_own_magnitude : decodeMagnitude (magnitude value) = significand value * spacing value := by
  have least := exponent_least value
  have normal : significand value < 2 ^ 23 → (exponent value + 126).toNat = 0 := by
    intro small
    by_contra field
    have large := le_significand value (by omega)
    omega
  rw [magnitude, decode_magnitude _ _ (significand_le value) normal, spacing]
  rw [Int.toNat_of_nonneg (by omega)]
  congr 2
  omega

theorem decode_encode_steps (steps : Int) (whole : value = steps * spacing value) (finite : |value| ≤ largest) :
    decode (encode value) = value := by
  have small := magnitude_finite value finite
  have positive := spacing_pos value
  have same : decodeMagnitude (magnitude value) = |value| := by
    have exact : |value| / spacing value = ((|steps| : Int) : ℚ) := by
      rw [div_eq_iff positive.ne', Int.cast_abs]
      nth_rewrite 1 [whole]
      rw [abs_mul, abs_of_pos positive]
    have nearest : nearestEven (|value| / spacing value) = |steps| := by
      rw [exact]
      exact nearest_integer |steps|
    have counted := significand_cast value
    rw [nearest] at counted
    have cast : (significand value : ℚ) = ((|steps| : Int) : ℚ) := by exact_mod_cast counted
    rw [decode_own_magnitude, cast, ← exact, div_mul_cancel₀ _ positive.ne']
  by_cases negative : value < 0
  · have bits : (encode value).toNat = 2 ^ 31 + magnitude value := by
      rw [encode, if_pos negative, UInt32.toNat_ofNat_of_lt' (by simp only [UInt32.size]; omega)]
    rw [decode, bits, if_neg (by omega), Nat.add_sub_cancel_left, same, abs_of_neg negative, neg_neg]
  · have bits : (encode value).toNat = magnitude value := by
      rw [encode, if_neg negative, UInt32.toNat_ofNat_of_lt' (by simp only [UInt32.size]; omega)]
    rw [decode, bits, if_pos (by omega), same, abs_of_nonneg (not_lt.mp negative)]

end EncosDriver.Lib.Binary32

namespace EncosDriver.Lib.Rounding

open Lib.Binary32 (nearestEven nearest_error nearest_le le_nearest)

structure Format where
  digits : Nat
  least : Int
  least_le : least ≤ 0

variable (format : Format) (value : ℚ)

def exponent : Int := if value = 0 then format.least else max (Int.log 2 |value|) format.least

def spacing : ℚ := 2 ^ (exponent format value - format.digits)

def round : ℚ := nearestEven (value / spacing format value) * spacing format value

theorem spacing_pos : 0 < spacing format value := zpow_pos (by norm_num) _

theorem round_error : |round format value - value| ≤ spacing format value / 2 := by
  have positive := spacing_pos format value
  have error := nearest_error (value / spacing format value)
  have scaled : round format value - value = (nearestEven (value / spacing format value) - value / spacing format value) *
      spacing format value := by
    rw [round, sub_mul, div_mul_cancel₀ _ positive.ne']
  rw [scaled, abs_mul, abs_of_pos positive]
  nlinarith only [error, positive]

theorem round_le (steps : Int) (below : value ≤ steps * spacing format value) : round format value ≤ steps * spacing format value := by
  have positive := spacing_pos format value
  have near := nearest_le (value / spacing format value) steps ((div_le_iff₀ positive).mpr below)
  exact mul_le_mul_of_nonneg_right (by exact_mod_cast near) positive.le

theorem le_round (steps : Int) (above : steps * spacing format value ≤ value) : steps * spacing format value ≤ round format value := by
  have positive := spacing_pos format value
  have near := le_nearest (value / spacing format value) steps ((le_div_iff₀ positive).mpr above)
  exact mul_le_mul_of_nonneg_right (by exact_mod_cast near) positive.le

theorem round_step (steps : Int) (on : value = steps * spacing format value) : round format value = value := by
  have above := le_round format value steps on.ge
  have below := round_le format value steps on.le
  rw [← on] at above below
  exact le_antisymm below above

@[simp] theorem round_zero : round format 0 = 0 := round_step format 0 0 (by simp)

theorem one_steps (small : exponent format value ≤ format.digits) :
    (((2 : Int) ^ (format.digits - exponent format value).toNat : Int) : ℚ) * spacing format value = 1 := by
  have count : ((format.digits - exponent format value).toNat : Int) = format.digits - exponent format value :=
    Int.toNat_of_nonneg (by omega)
  rw [Int.cast_pow, Int.cast_ofNat, ← zpow_natCast, count, spacing, ← zpow_add₀ (by norm_num)]
  norm_num

theorem round_integer (number : Int) (small : exponent format number ≤ format.digits) : round format number = number := by
  refine round_step format number (number * 2 ^ (format.digits - exponent format number).toNat) ?_
  rw [Int.cast_mul, mul_assoc, one_steps format number small, mul_one]

theorem exponent_nat (number : Nat) (bound : number < 2 ^ (format.digits + 1)) : exponent format number ≤ format.digits := by
  have least := format.least_le
  rw [exponent]
  split
  · omega
  · rename_i nonzero
    have positive : (0 : ℚ) < number := lt_of_le_of_ne (by exact_mod_cast Nat.zero_le number) (Ne.symm nonzero)
    rw [abs_of_pos positive, Int.log_natCast]
    have limit := Nat.log_lt_of_lt_pow (b := 2) (by rintro rfl; exact nonzero Nat.cast_zero) bound
    omega

theorem round_nat (number : Nat) (bound : number < 2 ^ (format.digits + 1)) : round format number = number := by
  have whole := round_integer format number (by exact_mod_cast exponent_nat format number bound)
  exact_mod_cast whole

theorem exponent_unit (positive : 0 < value) (unit : value ≤ 1) : exponent format value ≤ 0 := by
  have least := format.least_le
  have log := Int.log_mono_right (b := 2) positive unit
  rw [Int.log_one_right] at log
  rw [exponent, if_neg positive.ne', abs_of_pos positive]
  exact max_le log least

theorem round_unit (positive : 0 < value) (unit : value ≤ 1) : round format value ≤ 1 := by
  have small := exponent_unit format value positive unit
  have one := one_steps format value (by omega)
  have below := round_le format value _ (unit.trans one.ge)
  rwa [one] at below

theorem unit_error (positive : 0 < value) (unit : value ≤ 1) : |round format value - value| ≤ 1 / 2 ^ (format.digits + 1) := by
  have small := exponent_unit format value positive unit
  have error := round_error format value
  have fine : spacing format value ≤ 1 / 2 ^ format.digits := by
    rw [spacing, one_div, ← zpow_natCast, ← zpow_neg]
    exact zpow_le_zpow_right₀ (by norm_num) (by omega)
  have half : (1 : ℚ) / 2 ^ (format.digits + 1) = 1 / 2 ^ format.digits / 2 := by
    rw [pow_succ]
    ring
  rw [half]
  linarith

theorem exponent_least : format.least ≤ exponent format value := by
  rw [exponent]
  split
  · exact le_refl _
  · exact le_max_right _ _

theorem abs_lt_next : |value| < 2 ^ (exponent format value + 1) := by
  by_cases zero : value = 0
  · rw [zero, abs_zero]
    exact zpow_pos (by norm_num) _
  · refine (Int.lt_zpow_succ_log_self (R := ℚ) (b := 2) (by norm_num) |value|).trans_le ?_
    have larger : Int.log 2 |value| ≤ exponent format value := by
      rw [exponent, if_neg zero]
      exact le_max_left _ _
    exact zpow_le_zpow_right₀ (by norm_num) (by omega)

theorem power_le_abs (normal : exponent format value ≠ format.least) : (2 : ℚ) ^ exponent format value ≤ |value| := by
  by_cases zero : value = 0
  · exact absurd (by rw [exponent, if_pos zero]) normal
  · have own : exponent format value = Int.log 2 |value| := by
      rw [exponent, if_neg zero] at normal ⊢
      omega
    rw [own]
    exact Int.zpow_log_le_self (by norm_num) (abs_pos.mpr zero)

def unit : ℚ := 2 ^ (format.least - format.digits)

theorem unit_pos : 0 < unit format := zpow_pos (by norm_num) _

theorem unit_le_spacing : unit format ≤ spacing format value :=
  zpow_le_zpow_right₀ (by norm_num) (by have least := exponent_least format value; omega)

theorem spacing_bound : |value| / 2 ^ (format.digits + 1) ≤ spacing format value := by
  have split : spacing format value = 2 ^ (exponent format value + 1) / 2 ^ (format.digits + 1) := by
    rw [spacing, ← zpow_natCast, ← zpow_sub₀ (by norm_num)]
    congr 1
    push_cast
    omega
  rw [split]
  exact div_le_div_of_nonneg_right (abs_lt_next format value).le (by positivity)

def OnGrid : Prop := ∃ steps : Int, value = steps * unit format

variable {format value} in
theorem OnGrid.neg (on : OnGrid format value) : OnGrid format (-value) := by
  obtain ⟨steps, rfl⟩ := on
  exact ⟨-steps, by push_cast; ring⟩

theorem grid_add (first second : ℚ) (on : OnGrid format first) (other : OnGrid format second) : OnGrid format (first + second) := by
  obtain ⟨steps, rfl⟩ := on
  obtain ⟨more, rfl⟩ := other
  exact ⟨steps + more, by push_cast; ring⟩

theorem grid_sub (first second : ℚ) (on : OnGrid format first) (other : OnGrid format second) : OnGrid format (first - second) := by
  rw [sub_eq_add_neg]
  exact grid_add format first (-second) on other.neg

variable (number : Int)

theorem grid_int_mul (on : OnGrid format value) : OnGrid format (number * value) := by
  obtain ⟨steps, rfl⟩ := on
  exact ⟨number * steps, by push_cast; ring⟩

theorem spacing_grid (steps : Int) : OnGrid format (steps * spacing format value) := by
  have least := exponent_least format value
  refine ⟨steps * 2 ^ (exponent format value - format.least).toNat, ?_⟩
  have count : ((exponent format value - format.least).toNat : Int) = exponent format value - format.least :=
    Int.toNat_of_nonneg (by omega)
  rw [Int.cast_mul, Int.cast_pow, Int.cast_ofNat, mul_assoc, ← zpow_natCast, count, unit, ← zpow_add₀ (by norm_num), spacing]
  congr 2
  omega

theorem round_grid : OnGrid format (round format value) := spacing_grid format value _

theorem round_error_grid (on : OnGrid format value) : |round format value - value| ≤ |value| / 2 ^ (format.digits + 1) := by
  by_cases normal : exponent format value = format.least
  · obtain ⟨steps, here⟩ := on
    have whole : value = steps * spacing format value := by rw [spacing, normal]; exact here
    rw [round_step format value steps whole, sub_self, abs_zero]
    positivity
  · refine (round_error format value).trans ?_
    have power := power_le_abs format value normal
    have split : spacing format value / 2 = 2 ^ exponent format value / 2 ^ (format.digits + 1) := by
      rw [spacing, zpow_sub₀ (by norm_num), pow_succ, zpow_natCast]
      field_simp
    rw [split]
    exact div_le_div_of_nonneg_right power (by positivity)

theorem round_error_max : |round format value - value| ≤ max (|value| / 2 ^ (format.digits + 1)) (unit format / 2) := by
  by_cases normal : exponent format value = format.least
  · refine le_max_of_le_right ((round_error format value).trans (le_of_eq ?_))
    rw [spacing, normal, unit]
  · refine le_max_of_le_left ((round_error format value).trans ?_)
    have power := power_le_abs format value normal
    have split : spacing format value / 2 = 2 ^ exponent format value / 2 ^ (format.digits + 1) := by
      rw [spacing, zpow_sub₀ (by norm_num), pow_succ, zpow_natCast]
      field_simp
    rw [split]
    exact div_le_div_of_nonneg_right power (by positivity)

/-- What is rounded is a whole number of its own steps: rounding moves a value at most to the next power of two. -/
theorem round_steps : ∃ steps : Int, round format value = steps * spacing format (round format value) := by
  by_cases zero : round format value = 0
  · exact ⟨0, by rw [zero]; simp⟩
  by_cases same : exponent format (round format value) ≤ exponent format value
  · refine ⟨nearestEven (value / spacing format value) * 2 ^ (exponent format value - exponent format (round format value)).toNat, ?_⟩
    have count : ((exponent format value - exponent format (round format value)).toNat : Int) =
        exponent format value - exponent format (round format value) := Int.toNat_of_nonneg (by omega)
    have split : (2 : ℚ) ^ (exponent format value - exponent format (round format value)) *
        spacing format (round format value) = spacing format value := by
      rw [spacing, spacing, ← zpow_add₀ (by norm_num)]
      congr 1
      omega
    rw [Int.cast_mul, Int.cast_pow, Int.cast_ofNat, mul_assoc, ← zpow_natCast, count, split]
    rfl
  · have positive := spacing_pos format value
    have least := exponent_least format value
    have above := power_le_abs format (round format value) (by omega)
    have grown : (2 : ℚ) ^ (exponent format value + 1) ≤ 2 ^ exponent format (round format value) :=
      zpow_le_zpow_right₀ (by norm_num) (by omega)
    have next : (2 : ℚ) ^ (exponent format value + 1) = ((2 ^ (format.digits + 1) : Int) : ℚ) * spacing format value := by
      rw [Int.cast_pow, Int.cast_ofNat, ← zpow_natCast, spacing, ← zpow_add₀ (by norm_num)]
      congr 1
      push_cast
      omega
    have inside := abs_lt.mp (abs_lt_next format value)
    rw [next] at inside
    have low := le_round format value (-2 ^ (format.digits + 1)) (by push_cast at inside ⊢; linarith [inside.1])
    have high := round_le format value (2 ^ (format.digits + 1)) inside.2.le
    have reached : |round format value| = 2 ^ (exponent format value + 1) := by
      refine le_antisymm ?_ (grown.trans above)
      rw [next]
      push_cast at low high ⊢
      exact abs_le.mpr ⟨by linarith, high⟩
    have own : exponent format (round format value) = exponent format value + 1 := by
      have log : Int.log 2 ((2 : ℚ) ^ (exponent format value + 1)) = exponent format value + 1 := by
        exact_mod_cast Int.log_zpow (R := ℚ) (b := 2) (by norm_num) (exponent format value + 1)
      rw [exponent, if_neg zero, reached, log]
      exact max_eq_left (by omega)
    have doubled : spacing format (round format value) * 2 ^ format.digits = 2 ^ (exponent format value + 1) := by
      rw [spacing, own, ← zpow_natCast, ← zpow_add₀ (by norm_num)]
      congr 1
      omega
    rcases (abs_eq (zpow_pos (by norm_num) _).le).mp reached with up | down
    · refine ⟨2 ^ format.digits, ?_⟩
      push_cast
      rw [mul_comm, doubled]
      exact up
    · refine ⟨-2 ^ format.digits, ?_⟩
      push_cast
      rw [neg_mul, mul_comm, doubled]
      exact down

theorem round_round : round format (round format value) = round format value := by
  obtain ⟨steps, whole⟩ := round_steps format value
  exact round_step format _ steps whole

theorem round_le_integer (small : exponent format value ≤ format.digits) (below : value ≤ number) :
    round format value ≤ number := by
  have one := one_steps format value small
  have limit := round_le format value (number * 2 ^ (format.digits - exponent format value).toNat)
    (by rw [Int.cast_mul, mul_assoc, one, mul_one]; exact below)
  rwa [Int.cast_mul, mul_assoc, one, mul_one] at limit

theorem integer_le_round (small : exponent format value ≤ format.digits) (above : number ≤ value) :
    number ≤ round format value := by
  have one := one_steps format value small
  have limit := le_round format value (number * 2 ^ (format.digits - exponent format value).toNat)
    (by rw [Int.cast_mul, mul_assoc, one, mul_one]; exact above)
  rwa [Int.cast_mul, mul_assoc, one, mul_one] at limit

theorem exponent_below (power : Int) (least : format.least ≤ power) (bound : |value| < 2 ^ (power + 1)) :
    exponent format value ≤ power := by
  rw [exponent]
  split
  · exact least
  · rename_i nonzero
    have log := (Int.lt_zpow_iff_log_lt (b := 2) (x := power + 1) (by norm_num) (abs_pos.mpr nonzero)).mp (by exact_mod_cast bound)
    exact max_le (by omega) least

theorem exponent_small (bound : |value| < 2 ^ (format.digits + 1)) : exponent format value ≤ format.digits := by
  have least := format.least_le
  exact exponent_below format value format.digits (by omega) (by exact_mod_cast bound)

theorem round_half (least : format.least ≤ format.digits - 1) (small : |(number / 2 : ℚ)| < 2 ^ format.digits) :
    round format (number / 2) = number / 2 := by
  have below := exponent_below format (number / 2) (format.digits - 1) least (by
    have same : ((format.digits : Int) - 1 + 1) = format.digits := by omega
    rw [same, zpow_natCast]
    exact small)
  refine round_step format _ (number * 2 ^ (format.digits - 1 - exponent format (number / 2)).toNat) ?_
  have count : ((format.digits - 1 - exponent format (number / 2)).toNat : Int) = format.digits - 1 - exponent format (number / 2) :=
    Int.toNat_of_nonneg (by omega)
  have half : (2 : ℚ) ^ (format.digits - 1 - exponent format (number / 2)) * spacing format (number / 2) = 1 / 2 := by
    rw [spacing, ← zpow_add₀ (by norm_num)]
    norm_num
  rw [Int.cast_mul, Int.cast_pow, Int.cast_ofNat, mul_assoc, ← zpow_natCast, count, half]
  ring

-- A number of the format. There is no infinity and no zero with a sign.
@[ext] structure Rounded where
  value : ℚ
  rounded : round format value = value
deriving DecidableEq

def Rounded.of : Rounded format := ⟨round format value, round_round format value⟩

variable {format} in
theorem Rounded.grid (number : Rounded format) : OnGrid format number.value := number.rounded ▸ round_grid format number.value

def binary32 : Format := ⟨23, -126, by decide⟩

theorem decode_encode_rounded (rounded : round binary32 value = value) (finite : |value| ≤ Binary32.largest) :
    Binary32.decode (Binary32.encode value) = value := by
  obtain ⟨steps, whole⟩ := round_steps binary32 value
  rw [rounded] at whole
  exact Binary32.decode_encode_steps value steps whole finite

end EncosDriver.Lib.Rounding
