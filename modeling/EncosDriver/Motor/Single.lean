import EncosDriver.Lib.Binary32
import EncosDriver.Motor.Feedback
import Mathlib.Tactic.Linarith

set_option autoImplicit false

namespace EncosDriver.Motor

open Lib Lib.Rounding

-- A finite float: the result of every operation is the exact one, rounded to the
-- nearest float.
abbrev Single := Rounded binary32

namespace Single

def truncate (number : Single) : Int := if 0 ≤ number.value then ⌊number.value⌋ else ⌈number.value⌉

instance : FloatArithmetic Single where
  add first second := .of binary32 (first.value + second.value)
  sub first second := .of binary32 (first.value - second.value)
  mul first second := .of binary32 (first.value * second.value)
  div first second := .of binary32 (first.value / second.value)
  neg number := .of binary32 (-number.value)
  ofInt number := .of binary32 number
  truncate := truncate
  less first second := first.value < second.value
  equal first second := first.value = second.value
  pi := .of binary32 (13176795 / 4194304)
  toBits number := Binary32.encode number.value
  ofBits bits := .of binary32 (Binary32.decode bits)

@[simp] theorem add_value (first second : Single) : (first + second).value = round binary32 (first.value + second.value) := rfl
@[simp] theorem sub_value (first second : Single) : (first - second).value = round binary32 (first.value - second.value) := rfl
@[simp] theorem mul_value (first second : Single) : (first * second).value = round binary32 (first.value * second.value) := rfl
@[simp] theorem div_value (first second : Single) : (first / second).value = round binary32 (first.value / second.value) := rfl
@[simp] theorem bits_value (bits : UInt32) : (ofBits bits : Single).value = round binary32 (Binary32.decode bits) := rfl

def pi : ℚ := 13176795 / 4194304

theorem pi_bounds : 3 < pi ∧ pi < 22 / 7 := by
  norm_num [pi]

theorem pi_pos : 0 < pi := by
  linarith [pi_bounds.1]

@[simp] theorem pi_value : (FloatArithmetic.pi : Single).value = pi := by
  have log : Int.log 2 |(13176795 / 4194304 : ℚ)| = 1 := by
    have low := (Int.zpow_le_iff_le_log (R := ℚ) (b := 2) (x := 1) (r := 13176795 / 4194304) (by norm_num) (by norm_num)).mp (by norm_num)
    have high := (Int.lt_zpow_iff_log_lt (R := ℚ) (b := 2) (x := 2) (r := 13176795 / 4194304) (by norm_num) (by norm_num)).mp (by norm_num)
    rw [abs_of_pos (by norm_num)]
    omega
  have exponent : Rounding.exponent binary32 (13176795 / 4194304) = 1 := by
    rw [Rounding.exponent, if_neg (by norm_num), log]
    rfl
  refine round_step binary32 _ 13176795 ?_
  rw [spacing, exponent]
  norm_num [binary32]

variable (value : ℚ)

theorem single_error (on : OnGrid binary32 value) : |round binary32 value - value| ≤ |value| / 2 ^ 24 :=
  round_error_grid binary32 value on

theorem single_error_max : |round binary32 value - value| ≤ max (|value| / 2 ^ 24) (unit binary32 / 2) :=
  round_error_max binary32 value

theorem single_spacing : |value| / 2 ^ 24 ≤ spacing binary32 value := spacing_bound binary32 value

theorem int_value (number : Int) (small : |(number : ℚ)| < 2 ^ 24) : (ofInt number : Single).value = number :=
  round_integer binary32 number (exponent_small binary32 number small)

theorem clamp_inside (value low high : Single) (above : low.value ≤ value.value) (below : value.value ≤ high.value) :
    clamp value low high = value := by
  have notBelow : FloatArithmetic.less value low = false := decide_eq_false (not_lt.mpr above)
  have notAbove : FloatArithmetic.less high value = false := decide_eq_false (not_lt.mpr below)
  simp [clamp, notBelow, notAbove]

theorem truncate_nonneg (number : Single) (positive : 0 ≤ number.value) :
    (FloatArithmetic.truncate number : ℚ) ≤ number.value ∧ number.value < FloatArithmetic.truncate number + 1 := by
  have floor : FloatArithmetic.truncate number = ⌊number.value⌋ := if_pos positive
  rw [floor]
  exact ⟨Int.floor_le _, Int.lt_floor_add_one _⟩

theorem truncate_neg (number : Single) (negative : number.value < 0) :
    (FloatArithmetic.truncate number : ℚ) - 1 < number.value ∧ number.value ≤ FloatArithmetic.truncate number := by
  have ceiling : FloatArithmetic.truncate number = ⌈number.value⌉ := if_neg (not_le.mpr negative)
  rw [ceiling]
  have above := Int.ceil_lt_add_one number.value
  exact ⟨by linarith, Int.le_ceil _⟩

theorem round_nonneg (positive : 0 ≤ value) : 0 ≤ round binary32 value := by
  have above := le_round binary32 value 0 (by simpa using positive)
  simpa using above

end Single

section Codes

theorem rounding_within (computed exact tiny bound : ℚ) (error : |computed - exact| ≤ max (|exact| / 2 ^ 24) tiny)
    (low : -(bound * 2 ^ 24) ≤ exact) (high : exact ≤ bound * 2 ^ 24) (small : tiny ≤ bound) : |computed - exact| ≤ bound := by
  refine error.trans (max_le ?_ small)
  rw [div_le_iff₀ (by norm_num)]
  exact abs_le.mpr ⟨low, high⟩

theorem quotient_near (part whole top shifted width scaled : ℚ) (start : 0 ≤ part) (wide : 0 < whole) (codes : 0 < top)
    (shift : |shifted - part| ≤ part / 2 ^ 24) (span : |width - whole| ≤ whole / 2 ^ 24)
    (scale : |scaled - shifted * top| ≤ |shifted * top| / 2 ^ 24) :
    0 ≤ scaled ∧ 0 < width ∧ |scaled / width - part * top / whole| ≤ part * top / whole * (5 / 2 ^ 24) := by
  obtain ⟨shiftLow, shiftHigh⟩ := abs_le.mp shift
  obtain ⟨spanLow, spanHigh⟩ := abs_le.mp span
  have positive : 0 < width := by linarith
  have product : 0 ≤ part * top := mul_nonneg start codes.le
  have low : part * top * (1 - 1 / 2 ^ 24) ≤ shifted * top := by
    have below := mul_le_mul_of_nonneg_right (show part * (1 - 1 / 2 ^ 24) ≤ shifted by linarith) codes.le
    linarith
  have high : shifted * top ≤ part * top * (1 + 1 / 2 ^ 24) := by
    have above := mul_le_mul_of_nonneg_right (show shifted ≤ part * (1 + 1 / 2 ^ 24) by linarith) codes.le
    linarith
  rw [abs_of_nonneg (show 0 ≤ shifted * top by linarith)] at scale
  obtain ⟨scaleLow, scaleHigh⟩ := abs_le.mp scale
  refine ⟨by linarith, positive, ?_⟩
  have ratio : part * top / whole * whole = part * top := div_mul_cancel₀ _ wide.ne'
  have nonneg : 0 ≤ part * top / whole := div_nonneg product wide.le
  generalize part * top / whole = quotient at ratio nonneg ⊢
  have widest := mul_le_mul_of_nonneg_left (show width ≤ whole * (1 + 1 / 2 ^ 24) by linarith) nonneg
  have least := mul_le_mul_of_nonneg_left (show whole * (1 - 1 / 2 ^ 24) ≤ width by linarith) nonneg
  rw [abs_le]
  constructor
  · have below : quotient * (1 - 5 / 2 ^ 24) ≤ scaled / width := by
      rw [le_div_iff₀ positive]
      linarith
    linarith
  · have above : scaled / width ≤ quotient * (1 + 5 / 2 ^ 24) := by
      rw [div_le_iff₀ positive]
      linarith
    linarith

theorem point_near (code top whole width scaled : ℚ) (start : 0 ≤ code) (finish : code ≤ top) (wide : 0 < whole) (codes : 0 < top)
    (few : top ≤ 65535) (span : |width - whole| ≤ whole / 2 ^ 24) (scale : |scaled - code * width| ≤ |code * width| / 2 ^ 24) :
    0 ≤ scaled / top ∧ |scaled / top - whole / top * code| ≤ whole / top / 100 := by
  obtain ⟨spanLow, spanHigh⟩ := abs_le.mp span
  have positive : 0 ≤ code * width := mul_nonneg start (by linarith)
  rw [abs_of_nonneg positive] at scale
  obtain ⟨scaleLow, scaleHigh⟩ := abs_le.mp scale
  have widest := mul_le_mul_of_nonneg_left (show width ≤ whole * (1 + 1 / 2 ^ 24) by linarith) start
  have least := mul_le_mul_of_nonneg_left (show whole * (1 - 1 / 2 ^ 24) ≤ width by linarith) start
  have bounded : code * whole ≤ 65535 * whole := mul_le_mul_of_nonneg_right (finish.trans few) wide.le
  have nonneg : 0 ≤ code * whole := mul_nonneg start wide.le
  refine ⟨div_nonneg (by linarith) codes.le, ?_⟩
  have same : scaled / top - whole / top * code = (scaled - code * whole) / top := by ring
  rw [same, abs_div, abs_of_pos codes, div_div, mul_comm top 100, ← div_div, div_le_div_iff_of_pos_right codes]
  exact abs_le.mpr ⟨by linarith, by linarith⟩

end Codes

-- A step of the codes and a sixteenth, and two units in the last place of the
-- wider limit.
def codeBound (range : Range Single) (bits : Nat) : ℚ :=
  (range.max.value - range.min.value) / (2 ^ bits - 1) * (17 / 16) +
    2 * spacing binary32 (max |range.min.value| |range.max.value|)

section Code

variable (range : Range Single) (bits : Nat) (wide : 1 ≤ bits) (narrow : bits ≤ 16)
  (proper : range.min.value < range.max.value) (x : Single) (above : range.min.value ≤ x.value) (below : x.value ≤ range.max.value)

theorem top_bounds (wide : 1 ≤ bits) (narrow : bits ≤ 16) : (1 : ℚ) ≤ 2 ^ bits - 1 ∧ (2 ^ bits - 1 : ℚ) ≤ 65535 := by
  have least : (2 : ℚ) ^ 1 ≤ 2 ^ bits := pow_le_pow_right₀ (by norm_num) wide
  have greatest : (2 : ℚ) ^ bits ≤ 2 ^ 16 := pow_le_pow_right₀ (by norm_num) narrow
  constructor <;> linarith

theorem top_value (wide : 1 ≤ bits) (narrow : bits ≤ 16) : (ofInt (2 ^ bits - 1) : Single).value = 2 ^ bits - 1 := by
  obtain ⟨least, greatest⟩ := top_bounds bits wide narrow
  have cast : (((2 : Int) ^ bits - 1 : Int) : ℚ) = 2 ^ bits - 1 := by push_cast; rfl
  rw [Single.int_value _ (by rw [cast, abs_of_pos (by linarith)]; linarith), cast]

theorem width_error (proper : range.min.value < range.max.value) :
    |(range.max - range.min).value - (range.max.value - range.min.value)| ≤ (range.max.value - range.min.value) / 2 ^ 24 := by
  have error := Single.single_error _ (grid_sub binary32 _ _ range.max.grid range.min.grid)
  rwa [abs_of_pos (sub_pos.mpr proper)] at error

include wide narrow proper above below

theorem code_place :
    0 ≤ floatToUint x range.min range.max bits ∧ floatToUint x range.min range.max bits ≤ 2 ^ bits - 1 ∧
      |(floatToUint x range.min range.max bits : ℚ) -
        (x.value - range.min.value) * (2 ^ bits - 1) / (range.max.value - range.min.value)| < 1 + 1 / 40 := by
  obtain ⟨least, greatest⟩ := top_bounds bits wide narrow
  have clamped := Single.clamp_inside x range.min range.max above below
  have place : floatToUint x range.min range.max bits =
      truncate ((x - range.min) * ofInt (2 ^ bits - 1) / (range.max - range.min)) := by rw [floatToUint, clamped]
  have part : 0 ≤ x.value - range.min.value := by linarith
  have whole : 0 < range.max.value - range.min.value := sub_pos.mpr proper
  have shift := Single.single_error _ (grid_sub binary32 _ _ x.grid range.min.grid)
  rw [abs_of_nonneg part, ← Single.sub_value] at shift
  have scale := Single.single_error ((x - range.min).value * (2 ^ bits - 1)) (by
    have on := grid_int_mul binary32 _ (2 ^ bits - 1) (x - range.min).grid
    push_cast at on
    rwa [mul_comm])
  have scaled : ((x - range.min) * ofInt (2 ^ bits - 1)).value = round binary32 ((x - range.min).value * (2 ^ bits - 1)) := by
    rw [Single.mul_value, top_value bits wide narrow]
  rw [← scaled] at scale
  obtain ⟨positive, span, near⟩ := quotient_near _ _ _ _ _ _ part whole (by linarith) shift (width_error range proper) scale
  have rounded := Single.single_error_max (((x - range.min) * ofInt (2 ^ bits - 1)).value / (range.max - range.min).value)
  have nonneg := Single.round_nonneg _ (div_nonneg positive span.le)
  rw [← Single.div_value] at rounded nonneg
  rw [place]
  obtain ⟨floor, next⟩ := Single.truncate_nonneg _ nonneg
  -- The place is at most the last code, so that a few roundings of it are a small part of a code.
  have last : (x.value - range.min.value) * (2 ^ bits - 1) / (range.max.value - range.min.value) ≤ 2 ^ bits - 1 := by
    rw [div_le_iff₀ whole, mul_comm]
    exact mul_le_mul_of_nonneg_left (by linarith) (by linarith)
  have first : 0 ≤ (x.value - range.min.value) * (2 ^ bits - 1) / (range.max.value - range.min.value) :=
    div_nonneg (mul_nonneg part (by linarith)) whole.le
  have tiny : unit binary32 ≤ 1 / 1000 := by norm_num [unit, binary32]
  generalize (x.value - range.min.value) * (2 ^ bits - 1) / (range.max.value - range.min.value) = exact at near last first ⊢
  generalize ((x - range.min) * ofInt (2 ^ bits - 1)).value / (range.max - range.min).value = computed at near rounded
  generalize (x - range.min) * ofInt (2 ^ bits - 1) / (range.max - range.min) = number at rounded nonneg floor next ⊢
  obtain ⟨nearLow, nearHigh⟩ := abs_le.mp near
  have small : |number.value - computed| ≤ 1 / 200 := by
    exact rounding_within _ _ _ _ rounded (by linarith) (by linarith) (by linarith)
  obtain ⟨smallLow, smallHigh⟩ := abs_le.mp small
  refine ⟨?_, ?_, abs_lt.mpr ⟨by linarith, by linarith⟩⟩
  · have above : (-1 : ℚ) < truncate number := by linarith
    have integral : (-1 : Int) < truncate number := by exact_mod_cast above
    omega
  · have under : (truncate number : ℚ) < 2 ^ bits := by linarith
    have integral : truncate number < 2 ^ bits := by exact_mod_cast under
    omega

theorem code_returns :
    |(uintToFloat (floatToUint x range.min range.max bits) range.min range.max bits).value - x.value| < codeBound range bits := by
  obtain ⟨least, greatest⟩ := top_bounds bits wide narrow
  obtain ⟨start, finish, place⟩ := code_place range bits wide narrow proper x above below
  generalize floatToUint x range.min range.max bits = code at start finish place ⊢
  have whole : 0 < range.max.value - range.min.value := sub_pos.mpr proper
  have startCast : (0 : ℚ) ≤ code := by exact_mod_cast start
  have finishCast : (code : ℚ) ≤ 2 ^ bits - 1 := by exact_mod_cast finish
  have codeValue : (ofInt code : Single).value = code :=
    Single.int_value code (by rw [abs_of_nonneg startCast]; linarith)
  have scale := Single.single_error (code * (range.max - range.min).value) (grid_int_mul binary32 _ code (range.max - range.min).grid)
  have scaled : (ofInt code * (range.max - range.min)).value = round binary32 (code * (range.max - range.min).value) := by
    rw [Single.mul_value, codeValue]
  rw [← scaled] at scale
  obtain ⟨nonneg, near⟩ := point_near code (2 ^ bits - 1) _ _ _ startCast finishCast whole (by linarith) greatest
    (width_error range proper) scale
  have divided := Single.single_error_max ((ofInt code * (range.max - range.min)).value / (2 ^ bits - 1))
  have quotient : (ofInt code * (range.max - range.min) / ofInt (2 ^ bits - 1)).value =
      round binary32 ((ofInt code * (range.max - range.min)).value / (2 ^ bits - 1)) := by
    rw [Single.div_value, top_value bits wide narrow]
  rw [← quotient] at divided
  have summed := Single.single_error _ (grid_add binary32 _ _ (ofInt code * (range.max - range.min) / ofInt (2 ^ bits - 1)).grid
    range.min.grid)
  rw [← Single.add_value] at summed
  rw [uintToFloat, codeBound]
  have fine := Single.single_spacing (max |range.min.value| |range.max.value|)
  have grain := unit_le_spacing binary32 (max |range.min.value| |range.max.value|)
  have grainPos := unit_pos binary32
  rw [abs_of_nonneg (le_max_of_le_left (abs_nonneg _))] at fine
  obtain ⟨lowAbove, lowBelow⟩ := abs_le.mp (le_max_left |range.min.value| |range.max.value|)
  obtain ⟨highAbove, highBelow⟩ := abs_le.mp (le_max_right |range.min.value| |range.max.value|)
  generalize spacing binary32 (max |range.min.value| |range.max.value|) = grainSize at fine grain ⊢
  generalize max |range.min.value| |range.max.value| = limit at fine lowAbove lowBelow highAbove highBelow
  -- In steps of the lattice: where the value lies, and where its code does.
  have stepPos : 0 < (range.max.value - range.min.value) / (2 ^ bits - 1) := div_pos whole (by linarith)
  have position : (range.max.value - range.min.value) / (2 ^ bits - 1) *
      ((x.value - range.min.value) * (2 ^ bits - 1) / (range.max.value - range.min.value)) = x.value - range.min.value := by
    field_simp
  have lastStep : (range.max.value - range.min.value) / (2 ^ bits - 1) * (2 ^ bits - 1) = range.max.value - range.min.value :=
    div_mul_cancel₀ _ (by linarith)
  have stepWhole : (range.max.value - range.min.value) / (2 ^ bits - 1) ≤ range.max.value - range.min.value :=
    div_le_self whole.le least
  obtain ⟨placeLow, placeHigh⟩ := abs_lt.mp place
  have spreadLow := mul_lt_mul_of_pos_left placeLow stepPos
  have spreadHigh := mul_lt_mul_of_pos_left placeHigh stepPos
  rw [mul_sub, position] at spreadLow spreadHigh
  have codeLast := mul_le_mul_of_nonneg_left finishCast stepPos.le
  have codeFirst := mul_nonneg stepPos.le startCast
  rw [lastStep] at codeLast
  generalize (range.max.value - range.min.value) / (2 ^ bits - 1) = lattice at *
  generalize (ofInt code * (range.max - range.min) / ofInt (2 ^ bits - 1) : Single) = point at divided summed ⊢
  generalize (ofInt code * (range.max - range.min)).value / (2 ^ bits - 1) = computed at near divided nonneg
  obtain ⟨nearLow, nearHigh⟩ := abs_le.mp near
  have dividedSmall : |point.value - computed| ≤ lattice / 100 + unit binary32 / 2 := by
    refine divided.trans (max_le ?_ (by linarith))
    rw [abs_of_nonneg nonneg, div_le_iff₀ (by norm_num)]
    have most : computed ≤ lattice * 65536 := by
      have codes := mul_le_mul_of_nonneg_left (finishCast.trans greatest) stepPos.le
      linarith
    linarith
  obtain ⟨dividedLow, dividedHigh⟩ := abs_le.mp dividedSmall
  have summedSmall : |(point + range.min).value - (point.value + range.min.value)| ≤ grainSize * (21 / 16) := by
    refine summed.trans ?_
    have inside : |point.value + range.min.value| ≤ limit * (5 / 4) + unit binary32 := abs_le.mpr ⟨by linarith, by linarith⟩
    rw [div_le_iff₀ (by norm_num)]
    linarith
  obtain ⟨summedLow, summedHigh⟩ := abs_le.mp summedSmall
  exact abs_lt.mpr ⟨by linarith, by linarith⟩

end Code

theorem error_scaled (computed exact factor grain : ℚ) (positive : 0 < factor)
    (error : |computed - exact| ≤ max (|exact| / 2 ^ 24) (grain / 2)) :
    |computed * factor - exact * factor| ≤ max (|exact * factor| / 2 ^ 24) (grain / 2 * factor) := by
  have product := mul_le_mul_of_nonneg_right error positive.le
  rw [max_mul_of_nonneg _ _ positive.le] at product
  rwa [← sub_mul, abs_mul, abs_mul, abs_of_pos positive, mul_div_right_comm]

theorem scaled_near (value scale sent wire halved back : ℚ) (large : 2 ≤ scale)
    (scaled : |sent - value * scale| ≤ |value * scale| / 2 ^ 24)
    (divided : |wire - sent / Single.pi| ≤ max (|sent / Single.pi| / 2 ^ 24) (unit binary32 / 2))
    (unscaled : |halved - wire / scale| ≤ max (|wire / scale| / 2 ^ 24) (unit binary32 / 2))
    (multiplied : |back - halved * Single.pi| ≤ max (|halved * Single.pi| / 2 ^ 24) (unit binary32 / 2)) :
    |back - value| < 5 * spacing binary32 value := by
  obtain ⟨piLow, piHigh⟩ := Single.pi_bounds
  have piPos := Single.pi_pos
  have fine := Single.single_spacing value
  have grain := unit_le_spacing binary32 value
  have grainPos := unit_pos binary32
  generalize spacing binary32 value = step at fine grain ⊢
  generalize Single.pi = pi at divided multiplied piLow piHigh piPos
  generalize unit binary32 = least at divided unscaled multiplied grain grainPos
  rw [div_le_iff₀ (by norm_num)] at fine
  have scalePos : 0 < scale := by linarith
  -- In the unit of the quantity each of the four roundings is at most a step and a little.
  have sentNear : |sent / scale - value| ≤ step := by
    have same : sent / scale - value = (sent - value * scale) / scale := by field_simp
    rw [same, abs_div, abs_of_pos scalePos, div_le_iff₀ scalePos]
    refine scaled.trans ?_
    rw [abs_mul, abs_of_pos scalePos, div_le_iff₀ (by norm_num)]
    have product := mul_le_mul_of_nonneg_right fine scalePos.le
    linarith
  obtain ⟨fineLow, fineHigh⟩ := abs_le.mp fine
  obtain ⟨sentLow, sentHigh⟩ := abs_le.mp sentNear
  have wireNear : |wire * (pi / scale) - sent / scale| ≤ step * (11 / 10) := by
    have error := error_scaled wire (sent / pi) (pi / scale) least (by positivity) divided
    have same : sent / pi * (pi / scale) = sent / scale := by field_simp
    rw [same] at error
    refine rounding_within _ _ _ _ error (by linarith) (by linarith) ?_
    · have small : pi / scale ≤ 11 / 7 := by
        rw [div_le_iff₀ scalePos]
        linarith
      have product := mul_le_mul_of_nonneg_left small grainPos.le
      linarith
  obtain ⟨wireLow, wireHigh⟩ := abs_le.mp wireNear
  have halvedNear : |halved * pi - wire * (pi / scale)| ≤ step * (17 / 10) := by
    have error := error_scaled halved (wire / scale) pi least piPos unscaled
    rw [div_mul_eq_mul_div, mul_div_assoc] at error
    refine rounding_within _ _ _ _ error (by linarith) (by linarith) ?_
    · have product := mul_le_mul_of_nonneg_left piHigh.le grainPos.le
      linarith
  obtain ⟨halvedLow, halvedHigh⟩ := abs_le.mp halvedNear
  have backNear : |back - halved * pi| ≤ step * (11 / 10) := by
    exact rounding_within _ _ _ _ multiplied (by linarith) (by linarith) (by linarith)
  obtain ⟨backLow, backHigh⟩ := abs_le.mp backNear
  exact abs_lt.mpr ⟨by linarith, by linarith⟩

end EncosDriver.Motor
