import EncosDriver.Lib.Binary32
import EncosDriver.Lib.Lattice
import EncosDriver.Motor.Feedback

set_option autoImplicit false

namespace EncosDriver.Motor

open Lib

structure Exact where
  value : ℚ
deriving DecidableEq

namespace Exact

def truncate (number : Exact) : Int := if 0 ≤ number.value then ⌊number.value⌋ else ⌈number.value⌉

def pi : ℚ := 13176795 / 4194304

instance : FloatArithmetic Exact where
  add first second := ⟨first.value + second.value⟩
  sub first second := ⟨first.value - second.value⟩
  mul first second := ⟨first.value * second.value⟩
  div first second := ⟨first.value / second.value⟩
  neg number := ⟨-number.value⟩
  ofInt number := ⟨number⟩
  truncate := truncate
  less first second := first.value < second.value
  equal first second := first.value = second.value
  pi := ⟨pi⟩
  toBits number := Binary32.encode number.value
  ofBits bits := ⟨Binary32.decode bits⟩

@[simp] theorem add_value (first second : Exact) : (first + second).value = first.value + second.value := rfl
@[simp] theorem sub_value (first second : Exact) : (first - second).value = first.value - second.value := rfl
@[simp] theorem mul_value (first second : Exact) : (first * second).value = first.value * second.value := rfl
@[simp] theorem div_value (first second : Exact) : (first / second).value = first.value / second.value := rfl
@[simp] theorem int_value (number : Int) : (ofInt number : Exact).value = number := rfl
@[simp] theorem pi_value : (FloatArithmetic.pi : Exact).value = pi := rfl
end Exact

def topCode (bits : Nat) : Option Int := if bits < 31 then some (2 ^ bits - 1) else none

def definedFloatToUint (x xMin xMax : Exact) (bits : Nat) : Option Int :=
  (topCode bits).map fun top => truncate ((clamp x xMin xMax - xMin) * ofInt top / (xMax - xMin))

def definedUintToFloat (xInt : Int) (xMin xMax : Exact) (bits : Nat) : Option Exact :=
  (topCode bits).map fun top => ofInt xInt * (xMax - xMin) / ofInt top + xMin

theorem float_to_uint_defined (x xMin xMax : Exact) (bits : Nat) (narrow : bits < 31) :
    definedFloatToUint x xMin xMax bits = some (floatToUint x xMin xMax bits) := by
  simp [definedFloatToUint, topCode, narrow, floatToUint]

theorem uint_to_float_defined (xInt : Int) (xMin xMax : Exact) (bits : Nat) (narrow : bits < 31) :
    definedUintToFloat xInt xMin xMax bits = some (uintToFloat xInt xMin xMax bits) := by
  simp [definedUintToFloat, topCode, narrow, uintToFloat]

structure CodeLattice (bits : Nat) (xMin xMax : Exact) (encode : Exact → Int) (decode : Int → Exact) : Prop where
  code : ∀ x, 0 ≤ encode x ∧ encode x ≤ 2 ^ bits - 1
  monotone : ∀ first second : Exact, first.value ≤ second.value → encode first ≤ encode second
  below : ∀ x : Exact, x.value ≤ xMin.value → encode x = 0
  above : ∀ x : Exact, xMax.value ≤ x.value → encode x = 2 ^ bits - 1
  near : ∀ x : Exact, xMin.value ≤ x.value → x.value ≤ xMax.value →
    |(decode (encode x)).value - x.value| < (xMax.value - xMin.value) / (2 ^ bits - 1)
  exact : ∀ code, 0 ≤ code → code ≤ 2 ^ bits - 1 → encode (decode code) = code

namespace Exact

theorem clamp_value (value low high : Exact) (proper : low.value ≤ high.value) :
    (clamp value low high).value = Lattice.inside low.value high.value value.value := by
  rw [Lattice.inside]
  by_cases below : value.value < low.value
  · have less : FloatArithmetic.less value low = true := decide_eq_true below
    rw [clamp, less, if_pos rfl, max_eq_left ((min_le_left _ _).trans below.le)]
  · have notLess : FloatArithmetic.less value low = false := decide_eq_false below
    by_cases above : high.value < value.value
    · have more : FloatArithmetic.less high value = true := decide_eq_true above
      rw [clamp, notLess, more, if_neg Bool.false_ne_true, if_pos rfl, min_eq_right above.le, max_eq_right proper]
    · have notMore : FloatArithmetic.less high value = false := decide_eq_false above
      rw [clamp, notLess, notMore, if_neg Bool.false_ne_true, if_neg Bool.false_ne_true, min_eq_left (not_lt.mp above),
        max_eq_right (not_lt.mp below)]

end Exact

section Range

variable (xMin xMax : Exact) (bits : Nat) (proper : xMin.value < xMax.value) (wide : 0 < bits)

theorem top_pos (wide : 0 < bits) : (0 : Int) < 2 ^ bits - 1 := by
  have power : (1 : Int) < 2 ^ bits := one_lt_pow₀ (by norm_num) (by omega)
  omega

theorem uint_to_float_value (code : Int) :
    (uintToFloat code xMin xMax bits).value = Lattice.point xMin.value xMax.value (2 ^ bits - 1) code := rfl

theorem float_to_uint_floor (x : Exact) (proper : xMin.value < xMax.value) (wide : 0 < bits) :
    floatToUint x xMin xMax bits = ⌊Lattice.position xMin.value xMax.value (2 ^ bits - 1) x.value⌋ := by
  have place : ((clamp x xMin xMax - xMin) * ofInt (2 ^ bits - 1) / (xMax - xMin)).value =
      Lattice.position xMin.value xMax.value (2 ^ bits - 1) x.value := by
    simp only [Exact.div_value, Exact.mul_value, Exact.sub_value, Exact.int_value, Exact.clamp_value x xMin xMax proper.le,
      Lattice.position]
  have positive := Lattice.position_nonneg xMin.value xMax.value (2 ^ bits - 1) proper (top_pos bits wide) x.value
  rw [← place] at positive ⊢
  exact if_pos positive

include proper wide

theorem code_bounded (x : Exact) : 0 ≤ floatToUint x xMin xMax bits ∧ floatToUint x xMin xMax bits ≤ 2 ^ bits - 1 := by
  rw [float_to_uint_floor xMin xMax bits x proper wide]
  have start := Lattice.position_nonneg xMin.value xMax.value (2 ^ bits - 1) proper (top_pos bits wide) x.value
  have finish := Lattice.position_le xMin.value xMax.value (2 ^ bits - 1) proper (top_pos bits wide) x.value
  exact ⟨Int.floor_nonneg.mpr start, Int.cast_le.mp ((Int.floor_le _).trans finish)⟩

theorem code_near (x : Exact) (above : xMin.value ≤ x.value) (below : x.value ≤ xMax.value) :
    |(uintToFloat (floatToUint x xMin xMax bits) xMin xMax bits).value - x.value| <
      (xMax.value - xMin.value) / (2 ^ bits - 1) := by
  have floor := Int.floor_le (Lattice.position xMin.value xMax.value (2 ^ bits - 1) x.value)
  have next := Int.lt_floor_add_one (Lattice.position xMin.value xMax.value (2 ^ bits - 1) x.value)
  rw [← float_to_uint_floor xMin xMax bits x proper wide] at floor next
  have near := Lattice.point_near xMin.value xMax.value (2 ^ bits - 1) proper (top_pos bits wide) x.value above below
    (floatToUint x xMin xMax bits) (abs_lt.mpr ⟨by linarith, by linarith⟩)
  simpa only [uint_to_float_value, Lattice.step, Int.cast_sub, Int.cast_pow, Int.cast_ofNat, Int.cast_one] using near

theorem lattice_of_range :
    CodeLattice bits xMin xMax (fun x => floatToUint x xMin xMax bits) (fun code => uintToFloat code xMin xMax bits) where
  code := code_bounded xMin xMax bits proper wide
  monotone first second order := by
    simp only [float_to_uint_floor xMin xMax bits _ proper wide]
    exact Int.floor_le_floor (Lattice.position_monotone _ _ _ proper (top_pos bits wide) _ _ order)
  below x low := by
    rw [float_to_uint_floor xMin xMax bits x proper wide, Lattice.position_low _ _ _ proper _ low, Int.floor_zero]
  above x high := by
    rw [float_to_uint_floor xMin xMax bits x proper wide, Lattice.position_high _ _ _ proper _ high, Int.floor_intCast]
  near := code_near xMin xMax bits proper wide
  exact code start finish := by
    rw [float_to_uint_floor xMin xMax bits _ proper wide, uint_to_float_value,
      Lattice.position_point _ _ _ proper (top_pos bits wide) code start finish, Int.floor_intCast]

end Range

theorem quantisation_lattice (bits : Nat) (xMin xMax : Exact) (wide : 1 ≤ bits) (narrow : bits ≤ 30) (proper : xMin.value < xMax.value) :
    ∃ encode decode, (∀ x, definedFloatToUint x xMin xMax bits = some (encode x)) ∧
      (∀ code, definedUintToFloat code xMin xMax bits = some (decode code)) ∧ CodeLattice bits xMin xMax encode decode :=
  ⟨fun x => floatToUint x xMin xMax bits, fun code => uintToFloat code xMin xMax bits,
    fun x => float_to_uint_defined x xMin xMax bits (by omega), fun code => uint_to_float_defined code xMin xMax bits (by omega),
    lattice_of_range xMin xMax bits proper wide⟩

theorem lattice_sixteen : ∃ encode decode, (∀ x, definedFloatToUint x ⟨-25⟩ ⟨25⟩ 16 = some (encode x)) ∧
    (∀ code, definedUintToFloat code ⟨-25⟩ ⟨25⟩ 16 = some (decode code)) ∧ CodeLattice 16 ⟨-25⟩ ⟨25⟩ encode decode :=
  quantisation_lattice 16 ⟨-25⟩ ⟨25⟩ (by decide) (by decide) (by norm_num)

theorem lattice_too_wide :
    ¬∀ (bits : Nat) (xMin xMax : Exact), 1 ≤ bits → xMin.value < xMax.value →
      ∃ encode decode, (∀ x, definedFloatToUint x xMin xMax bits = some (encode x)) ∧
        (∀ code, definedUintToFloat code xMin xMax bits = some (decode code)) ∧ CodeLattice bits xMin xMax encode decode := by
  intro claim
  obtain ⟨encode, decode, coded, -⟩ := claim 32 ⟨0⟩ ⟨1⟩ (by decide) (by norm_num)
  have undefined : definedFloatToUint ⟨1⟩ ⟨0⟩ ⟨1⟩ 32 = none := rfl
  rw [coded] at undefined
  cases undefined

end EncosDriver.Motor
