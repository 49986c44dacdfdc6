import EncosDriver.Lib.Lattice
import Mathlib.Algebra.Order.Floor.Ring
import Mathlib.Data.Int.ModEq

set_option autoImplicit false

namespace EncosDriver.Lib.Conversion

section Truncation

variable {K : Type} [Field K] [LinearOrder K] [FloorRing K]

def truncate (x : K) : ℤ := if 0 ≤ x then ⌊x⌋ else ⌈x⌉

variable (x : K)

theorem truncate_nonneg (positive : 0 ≤ x) : truncate x = ⌊x⌋ := if_pos positive

variable [IsStrictOrderedRing K]

theorem truncate_near : |(truncate x : K) - x| < 1 := by
  rw [truncate, abs_lt]
  split
  · have floor := Int.floor_le x
    have next := Int.lt_floor_add_one x
    constructor <;> linarith
  · have ceiling := Int.le_ceil x
    have before := Int.ceil_lt_add_one x
    constructor <;> linarith

theorem truncate_nonpos (negative : x ≤ 0) : truncate x = ⌈x⌉ := by
  rw [truncate]
  split
  · rename_i positive
    rw [le_antisymm negative positive, Int.floor_zero, Int.ceil_zero]
  · rfl

end Truncation

def wrapped (low size number : ℤ) : ℤ := low + (number - low) % size

variable (low size number : ℤ)

theorem wrapped_bounds (positive : 0 < size) : low ≤ wrapped low size number ∧ wrapped low size number < low + size := by
  have above := Int.emod_nonneg (number - low) positive.ne'
  have below := Int.emod_lt_of_pos (number - low) positive
  rw [wrapped]
  omega

theorem wrapped_self (above : low ≤ number) (below : number < low + size) : wrapped low size number = number := by
  rw [wrapped, Int.emod_eq_of_lt (by omega) (by omega)]
  omega

theorem wrapped_congr : wrapped low size number % size = number % size := by
  rw [wrapped, Int.add_emod, Int.emod_emod_of_dvd _ dvd_rfl, ← Int.add_emod]
  congr 1
  omega

theorem wrapped_eq_iff (low size number other : ℤ) (above : low ≤ other) (below : other < low + size) :
    wrapped low size number = other ↔ number % size = other % size := by
  constructor
  · rintro rfl
    exact (wrapped_congr low size number).symm
  · intro same
    have shifted : (number - low) % size = (other - low) % size := Int.ModEq.sub_right low same
    rw [wrapped, shifted, Int.emod_eq_of_lt (by omega) (by omega)]
    omega

theorem wrapped_far (positive : 0 < size) (outside : ¬ (low ≤ number ∧ number < low + size)) :
    size ≤ |number - wrapped low size number| := by
  have bounds := wrapped_bounds low size number positive
  have apart : size ∣ number - wrapped low size number := Int.ModEq.dvd (wrapped_congr low size number)
  refine Int.le_of_dvd (abs_pos.mpr fun same => ?_) ((dvd_abs _ _).mpr apart)
  rw [sub_eq_zero.mp same] at outside
  exact outside bounds

section Faithful

variable {K : Type} [Field K] [LinearOrder K] [FloorRing K]

-- A code stands for a number to within one, or for the nearer end of the range.
def Stands (low high : ℤ) (x : K) (code : ℤ) : Prop := |(code : K) - x| ≤ 1 ∨ (code : K) = Lattice.inside (low : K) high x

def Fits (low high : ℤ) (x : K) : Prop :=
  ((low : K) - 1 < x ∧ x < high + 1) ∨ ((high : K) + 1 ≤ x ∧ ⌊x⌋ % (high - low + 1) = high % (high - low + 1)) ∨
    (x ≤ (low : K) - 1 ∧ ⌈x⌉ % (high - low + 1) = low % (high - low + 1))

variable [IsStrictOrderedRing K] (low high : ℤ) (x : K)

theorem stands_outside (wide : low < high) (outside : ¬ (low ≤ truncate x ∧ truncate x ≤ high)) :
    Stands low high x (wrapped low (high - low + 1) (truncate x)) ↔
      (wrapped low (high - low + 1) (truncate x) : K) = Lattice.inside (low : K) high x := by
  refine ⟨fun stands => stands.resolve_left fun near => ?_, Or.inr⟩
  have far := wrapped_far low (high - low + 1) (truncate x) (by omega) (by omega)
  have close : |(truncate x : K) - wrapped low (high - low + 1) (truncate x)| < 2 := by
    have start := abs_lt.mp (truncate_near x)
    have finish := abs_le.mp near
    rw [abs_lt]
    constructor <;> linarith [start.1, start.2, finish.1, finish.2]
  have whole : |truncate x - wrapped low (high - low + 1) (truncate x)| < 2 := by exact_mod_cast close
  omega

variable (spans : low ≤ 0 ∧ 0 ≤ high)

include spans

theorem truncate_inside (above : (low : K) - 1 < x) (below : x < high + 1) : low ≤ truncate x ∧ truncate x ≤ high := by
  rcases le_total 0 x with positive | negative
  · rw [truncate_nonneg x positive]
    have nonneg := Int.floor_nonneg.mpr positive
    have under : ⌊x⌋ < high + 1 := Int.floor_lt.mpr (by exact_mod_cast below)
    omega
  · rw [truncate_nonpos x negative]
    have nonpos : ⌈x⌉ ≤ 0 := Int.ceil_le.mpr (by exact_mod_cast negative)
    have lowest : low - 1 < ⌈x⌉ := Int.lt_ceil.mpr (by exact_mod_cast above)
    omega

theorem stands_inside (above : (low : K) - 1 < x) (below : x < high + 1) :
    Stands low high x (wrapped low (high - low + 1) (truncate x)) := by
  obtain ⟨lowest, under⟩ := truncate_inside low high x spans above below
  rw [wrapped_self low (high - low + 1) (truncate x) lowest (by omega)]
  exact Or.inl (truncate_near x).le

theorem stands_above (wide : low < high) (beyond : (high : K) + 1 ≤ x) :
    Stands low high x (wrapped low (high - low + 1) (truncate x)) ↔ ⌊x⌋ % (high - low + 1) = high % (high - low + 1) := by
  have ordered : (low : K) ≤ high := by exact_mod_cast wide.le
  have positive : (0 : K) ≤ x := le_trans (by exact_mod_cast (by omega : 0 ≤ high + 1)) beyond
  have reached : high + 1 ≤ ⌊x⌋ := Int.le_floor.mpr (by exact_mod_cast beyond)
  have top : Lattice.inside (low : K) high x = high := by
    rw [Lattice.inside, min_eq_right (by linarith), max_eq_right ordered]
  have outside : ¬ (low ≤ truncate x ∧ truncate x ≤ high) := by
    rw [truncate_nonneg x positive]
    omega
  rw [stands_outside low high x wide outside, top, Int.cast_inj, wrapped_eq_iff low _ _ high wide.le (by omega),
    truncate_nonneg x positive]

theorem stands_below (wide : low < high) (beyond : x ≤ (low : K) - 1) :
    Stands low high x (wrapped low (high - low + 1) (truncate x)) ↔ ⌈x⌉ % (high - low + 1) = low % (high - low + 1) := by
  have ordered : (low : K) ≤ high := by exact_mod_cast wide.le
  have negative : x ≤ 0 := beyond.trans (by exact_mod_cast (by omega : low - 1 ≤ 0))
  have reached : ⌈x⌉ ≤ low - 1 := Int.ceil_le.mpr (by exact_mod_cast beyond)
  have bottom : Lattice.inside (low : K) high x = low := by
    rw [Lattice.inside, min_eq_left (by linarith), max_eq_left (by linarith)]
  have outside : ¬ (low ≤ truncate x ∧ truncate x ≤ high) := by
    rw [truncate_nonpos x negative]
    omega
  rw [stands_outside low high x wide outside, bottom, Int.cast_inj, wrapped_eq_iff low _ _ low le_rfl (by omega),
    truncate_nonpos x negative]

theorem stands_iff (wide : low < high) : Stands low high x (wrapped low (high - low + 1) (truncate x)) ↔ Fits low high x := by
  rcases lt_or_ge ((low : K) - 1) x with lowest | beyond
  · rcases lt_or_ge x ((high : K) + 1) with under | beyond
    · exact iff_of_true (stands_inside low high x spans lowest under) (Or.inl ⟨lowest, under⟩)
    · rw [stands_above low high x spans wide beyond, Fits]
      constructor
      · exact fun lands => Or.inr (Or.inl ⟨beyond, lands⟩)
      · rintro (⟨_, under⟩ | ⟨_, lands⟩ | ⟨below, _⟩)
        · exact absurd under (not_lt.mpr beyond)
        · exact lands
        · exact absurd lowest (not_lt.mpr below)
  · rw [stands_below low high x spans wide beyond, Fits]
    constructor
    · exact fun lands => Or.inr (Or.inr ⟨beyond, lands⟩)
    · rintro (⟨lowest, _⟩ | ⟨above, _⟩ | ⟨_, lands⟩)
      · exact absurd lowest (not_lt.mpr beyond)
      · have ordered : (low : K) ≤ high := by exact_mod_cast wide.le
        linarith
      · exact lands

theorem stands_clamped (wide : low ≤ high) :
    Stands low high x (wrapped low (high - low + 1) (truncate (Lattice.inside (low : K) high x))) := by
  have ordered : (low : K) ≤ high := by exact_mod_cast wide
  have lowest := Lattice.inside_low (low : K) high x
  have under := Lattice.inside_high (low : K) high x ordered
  obtain ⟨least, most⟩ := truncate_inside low high (Lattice.inside (low : K) high x) spans (by linarith) (by linarith)
  rw [wrapped_self low (high - low + 1) _ least (by omega)]
  rcases lt_or_ge x low with below | above
  · right
    have bottom : Lattice.inside (low : K) high x = low := by
      rw [Lattice.inside, min_eq_left (by linarith), max_eq_left below.le]
    have negative : (low : K) ≤ 0 := by exact_mod_cast spans.1
    rw [bottom, truncate_nonpos _ negative, Int.ceil_intCast]
  · rcases lt_or_ge (high : K) x with beyond | within
    · right
      have top : Lattice.inside (low : K) high x = high := by
        rw [Lattice.inside, min_eq_right beyond.le, max_eq_right ordered]
      have positive : (0 : K) ≤ high := by exact_mod_cast spans.2
      rw [top, truncate_nonneg _ positive, Int.floor_intCast]
    · left
      rw [Lattice.inside_self _ _ _ above within]
      exact (truncate_near x).le

end Faithful

end EncosDriver.Lib.Conversion
