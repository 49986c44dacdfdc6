import Mathlib.Tactic.FieldSimp
import Mathlib.Tactic.Linarith
import Mathlib.Tactic.Positivity
import Mathlib.Tactic.Ring

set_option autoImplicit false

namespace EncosDriver.Lib.Lattice

section Interval

variable {Point : Type} [LinearOrder Point]

def inside (low high x : Point) : Point := max low (min x high)

variable (low high x : Point)

theorem inside_low : low ≤ inside low high x := le_max_left _ _

theorem inside_high (proper : low ≤ high) : inside low high x ≤ high := max_le proper (min_le_right _ _)

theorem inside_self (above : low ≤ x) (below : x ≤ high) : inside low high x = x := by
  rw [inside, min_eq_left below, max_eq_right above]

theorem inside_monotone (low high first second : Point) (below : first ≤ second) : inside low high first ≤ inside low high second :=
  max_le_max le_rfl (min_le_min_right high below)

end Interval

section Ordered

variable {K : Type} [Field K] [LinearOrder K]

def position (low high : K) (top : ℤ) (x : K) : K := (inside low high x - low) * top / (high - low)

def point (low high : K) (top code : ℤ) : K := code * (high - low) / top + low

def step (low high : K) (top : ℤ) : K := (high - low) / top

variable (low high : K) (top : ℤ) (proper : low < high)

include proper in
theorem position_low (x : K) (below : x ≤ low) : position low high top x = 0 := by
  rw [position, inside, min_eq_left (below.trans proper.le), max_eq_left below, sub_self, zero_mul, zero_div]

variable [IsStrictOrderedRing K]

include proper in
theorem position_high (x : K) (above : high ≤ x) : position low high top x = top := by
  have width : high - low ≠ 0 := (sub_pos.mpr proper).ne'
  rw [position, inside, min_eq_right above, max_eq_right proper.le, mul_div_assoc, mul_comm, div_mul_cancel₀ _ width]

variable (cut : 0 < top)

include proper cut

theorem step_pos : 0 < step low high top := div_pos (sub_pos.mpr proper) (Int.cast_pos.mpr cut)

theorem position_nonneg (x : K) : 0 ≤ position low high top x := by
  have start : 0 ≤ inside low high x - low := sub_nonneg.mpr (inside_low low high x)
  have width : 0 < high - low := sub_pos.mpr proper
  have steps : (0 : K) < top := Int.cast_pos.mpr cut
  exact div_nonneg (mul_nonneg start steps.le) width.le

theorem position_le (x : K) : position low high top x ≤ top := by
  have finish : inside low high x - low ≤ high - low := sub_le_sub_right (inside_high low high x proper.le) low
  have steps : (0 : K) < top := Int.cast_pos.mpr cut
  rw [position, div_le_iff₀ (sub_pos.mpr proper), mul_comm]
  exact mul_le_mul_of_nonneg_left finish steps.le

theorem position_monotone (first second : K) (below : first ≤ second) :
    position low high top first ≤ position low high top second := by
  have steps : (0 : K) < top := Int.cast_pos.mpr cut
  have order : inside low high first - low ≤ inside low high second - low :=
    sub_le_sub_right (inside_monotone low high first second below) low
  exact div_le_div_of_nonneg_right (mul_le_mul_of_nonneg_right order steps.le) (sub_pos.mpr proper).le

theorem point_near (x : K) (above : low ≤ x) (below : x ≤ high) (code : ℤ) (near : |(code : K) - position low high top x| < 1) :
    |point low high top code - x| < step low high top := by
  have width : high - low ≠ 0 := (sub_pos.mpr proper).ne'
  have steps : (top : K) ≠ 0 := Int.cast_ne_zero.mpr cut.ne'
  have away : point low high top code - x = (code - position low high top x) * step low high top := by
    rw [point, position, step, inside_self low high x above below]
    field_simp
    ring
  have positive := step_pos low high top proper cut
  rw [away, abs_mul, abs_of_pos positive]
  exact (mul_lt_iff_lt_one_left positive).mpr near

theorem position_point (code : ℤ) (start : 0 ≤ code) (finish : code ≤ top) :
    position low high top (point low high top code) = code := by
  have width : 0 < high - low := sub_pos.mpr proper
  have steps : (0 : K) < top := Int.cast_pos.mpr cut
  have first : (0 : K) ≤ code := Int.cast_nonneg start
  have last : (code : K) ≤ top := Int.cast_le.mpr finish
  have above : low ≤ point low high top code :=
    le_add_of_nonneg_left (div_nonneg (mul_nonneg first width.le) steps.le)
  have below : point low high top code ≤ high := by
    have within : code * (high - low) / top ≤ high - low := by
      rw [div_le_iff₀ steps, mul_comm]
      exact mul_le_mul_of_nonneg_left last width.le
    exact (add_le_add_left within low).trans_eq (sub_add_cancel high low)
  rw [position, inside_self low high _ above below, point]
  field_simp
  ring

end Ordered

end EncosDriver.Lib.Lattice
