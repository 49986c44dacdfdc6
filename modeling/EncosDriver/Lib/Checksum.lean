import EncosDriver.Lib.Bytes

set_option autoImplicit false

namespace EncosDriver.Lib.Checksum

def word (high low : UInt8) : UInt16 := (high.toUInt16 <<< 8) ||| low.toUInt16

def sum : List UInt8 → UInt32 → UInt32
  | high :: low :: rest, start => sum rest (start + (word high low).toUInt32)
  | [last], start => start + (last.toUInt32 <<< 8)
  | [], start => start

def fold (value : Nat) : Nat :=
  if value < 65536 then value else fold (value % 65536 + value / 65536)
termination_by value
decreasing_by omega

def finish (value : UInt32) : UInt16 := ~~~ UInt16.ofNat (fold value.toNat)

def total : List UInt8 → Nat
  | high :: low :: rest => high.toNat * 256 + low.toNat + total rest
  | [last] => last.toNat * 256
  | [] => 0

theorem word_value (high low : UInt8) : (word high low).toNat = high.toNat * 256 + low.toNat := by
  have lowBound := low.toNat_lt
  have highBound := high.toNat_lt
  have shifted : (high.toUInt16 <<< 8).toNat = high.toNat <<< 8 := by
    simp only [UInt16.toNat_shiftLeft, UInt8.toNat_toUInt16]
    have small : (8 : UInt16).toNat % 16 = 8 := rfl
    rw [small, Nat.mod_eq_of_lt]
    rw [Nat.shiftLeft_eq]
    omega
  rw [word, UInt16.toNat_or, shifted, UInt8.toNat_toUInt16, ← Nat.shiftLeft_add_eq_or_of_lt lowBound, Nat.shiftLeft_eq]

variable (bytes : List UInt8)

theorem total_bound : total bytes ≤ (bytes.length + 1) / 2 * 65535 := by
  induction bytes using total.induct with
  | case1 high low rest ih =>
    have highBound := high.toNat_lt
    have lowBound := low.toNat_lt
    simp only [total, List.length_cons]
    omega
  | case2 last =>
    have lastBound := last.toNat_lt
    simp only [total, List.length_cons, List.length_nil]
    omega
  | case3 => simp [total]

theorem total_append (front back : List UInt8) (even : front.length % 2 = 0) :
    total (front ++ back) = total front + total back := by
  induction front using total.induct with
  | case1 high low rest ih =>
    simp only [List.length_cons] at even
    simp only [List.cons_append, total, ih (by omega)]
    omega
  | case2 last => simp at even
  | case3 => simp [total]

theorem sum_value (start : UInt32) (fits : start.toNat + total bytes < 2 ^ 32) :
    (sum bytes start).toNat = start.toNat + total bytes := by
  induction bytes using total.induct generalizing start with
  | case1 high low rest ih =>
    simp only [total] at fits
    have added : (start + (word high low).toUInt32).toNat = start.toNat + (high.toNat * 256 + low.toNat) := by
      rw [UInt32.toNat_add, UInt16.toNat_toUInt32, word_value]
      omega
    rw [sum, ih _ (by omega), added, total]
    omega
  | case2 last =>
    have lastBound := last.toNat_lt
    simp only [total] at fits
    have shifted : (last.toUInt32 <<< 8).toNat = last.toNat * 256 := by
      simp only [UInt32.toNat_shiftLeft, UInt8.toNat_toUInt32]
      have small : (8 : UInt32).toNat % 32 = 8 := rfl
      rw [small, Nat.shiftLeft_eq]
      omega
    rw [sum, UInt32.toNat_add, shifted, total]
    omega
  | case3 => simp [sum, total]

theorem fold_bound (value : Nat) : fold value < 65536 := by
  induction value using fold.induct with
  | case1 value small =>
    rw [fold, if_pos small]
    exact small
  | case2 value large ih =>
    rw [fold, if_neg large]
    exact ih

theorem fold_mod (value : Nat) : fold value % 65535 = value % 65535 := by
  induction value using fold.induct with
  | case1 value small => rw [fold, if_pos small]
  | case2 value large ih =>
    rw [fold, if_neg large, ih]
    omega

theorem fold_positive (value : Nat) (positive : 0 < value) : 0 < fold value := by
  induction value using fold.induct with
  | case1 value small =>
    rw [fold, if_pos small]
    exact positive
  | case2 value large ih =>
    rw [fold, if_neg large]
    exact ih (by omega)

variable (value : UInt32)

theorem finish_value : (finish value).toNat = 65535 - fold value.toNat := by
  have bound := fold_bound value.toNat
  rw [finish, UInt16.toNat_not, UInt16.toNat_ofNat_of_lt' (by exact bound)]
  rfl

theorem finish_zero (positive : 0 < value.toNat) (divides : value.toNat % 65535 = 0) :
    finish value = 0 := by
  have bound := fold_bound value.toNat
  have folded := fold_mod value.toNat
  have nonzero := fold_positive value.toNat positive
  apply UInt16.toNat_inj.mp
  rw [finish_value]
  have zero : (0 : UInt16).toNat = 0 := rfl
  rw [zero]
  omega

theorem finish_complement : (value.toNat + (finish value).toNat) % 65535 = 0 := by
  have bound := fold_bound value.toNat
  have folded := fold_mod value.toNat
  rw [finish_value]
  omega

theorem finish_zero_divides (passes : finish value = 0) : value.toNat % 65535 = 0 := by
  have bound := fold_bound value.toNat
  have folded := fold_mod value.toNat
  have zero : (finish value).toNat = 0 := by
    rw [passes]
    rfl
  rw [finish_value] at zero
  omega

theorem total_set (index : Nat) (byte : UInt8) (inside : index < bytes.length)
    (differs : byte ≠ bytes[index]) :
    ∃ change, 0 < change ∧ change < 65535 ∧
      (total (bytes.set index byte) = total bytes + change ∨ total (bytes.set index byte) + change = total bytes) := by
  have bound := byte.toNat_lt
  induction bytes using total.induct generalizing index with
  | case1 high low rest ih =>
    have highBound := high.toNat_lt
    have lowBound := low.toNat_lt
    match index with
    | 0 =>
      have other : byte.toNat ≠ high.toNat := fun same => differs (UInt8.toNat_inj.mp same)
      simp only [List.set_cons_zero, total]
      by_cases up : high.toNat < byte.toNat
      · exact ⟨(byte.toNat - high.toNat) * 256, by omega, by omega, by omega⟩
      · exact ⟨(high.toNat - byte.toNat) * 256, by omega, by omega, by omega⟩
    | 1 =>
      have other : byte.toNat ≠ low.toNat := fun same => differs (UInt8.toNat_inj.mp same)
      simp only [List.set_cons_succ, List.set_cons_zero, total]
      by_cases up : low.toNat < byte.toNat
      · exact ⟨byte.toNat - low.toNat, by omega, by omega, by omega⟩
      · exact ⟨low.toNat - byte.toNat, by omega, by omega, by omega⟩
    | index + 2 =>
      simp only [List.length_cons] at inside
      obtain ⟨change, positive, small, moved⟩ := ih index (by omega) (by simpa using differs)
      refine ⟨change, positive, small, ?_⟩
      simp only [List.set_cons_succ, total]
      omega
  | case2 last =>
    have lastBound := last.toNat_lt
    have first : index = 0 := by simpa using inside
    subst first
    have other : byte.toNat ≠ last.toNat := fun same => differs (UInt8.toNat_inj.mp same)
    simp only [List.set_cons_zero, total]
    by_cases up : last.toNat < byte.toNat
    · exact ⟨(byte.toNat - last.toNat) * 256, by omega, by omega, by omega⟩
    · exact ⟨(last.toNat - byte.toNat) * 256, by omega, by omega, by omega⟩
  | case3 => cases inside

theorem sums_apart (first second change : Nat) (positive : 0 < change) (small : change < 65535)
    (moved : second = first + change ∨ second + change = first) (passes : first % 65535 = 0) : second % 65535 ≠ 0 := by
  omega

end EncosDriver.Lib.Checksum
