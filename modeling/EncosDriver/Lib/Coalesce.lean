import Mathlib.Data.List.Basic

set_option autoImplicit false

namespace EncosDriver.Lib

variable {Entry : Type}

inductive Coalesces (mayVanish : Entry → Prop) : List Entry → List Entry → Prop where
  | nil : Coalesces mayVanish [] []
  | keep (entry : Entry) (submitted kept : List Entry) (rest : Coalesces mayVanish submitted kept) :
      Coalesces mayVanish (entry :: submitted) (entry :: kept)
  | replaced (entry : Entry) (submitted kept : List Entry) (vanishes : mayVanish entry) (later : submitted ≠ [])
      (rest : Coalesces mayVanish submitted kept) : Coalesces mayVanish (entry :: submitted) kept

variable (mayVanish : Entry → Prop) (submitted kept : List Entry)

theorem coalesces_sublist (coalesced : Coalesces mayVanish submitted kept) : kept.Sublist submitted := by
  induction coalesced with
  | nil => exact List.nil_sublist []
  | keep entry submitted kept _ ih => exact ih.cons_cons entry
  | replaced entry submitted kept _ _ _ ih => exact ih.cons entry

theorem coalesces_last (coalesced : Coalesces mayVanish submitted kept) : kept.getLast? = submitted.getLast? := by
  induction coalesced with
  | nil => rfl
  | keep entry submitted kept _ ih => simp only [List.getLast?_cons, ih]
  | replaced entry submitted kept _ later _ ih =>
    obtain ⟨first, rest, rfl⟩ := List.exists_cons_of_ne_nil later
    simpa only [List.getLast?_cons_cons] using ih

theorem coalesces_nil (mayVanish : Entry → Prop) (submitted : List Entry)
    (coalesced : Coalesces mayVanish submitted []) : submitted = [] := by
  have last := coalesces_last mayVanish submitted [] coalesced
  simpa using last.symm

theorem coalesces_append (entry : Entry)
    (coalesced : Coalesces mayVanish submitted kept) : Coalesces mayVanish (submitted ++ [entry]) (kept ++ [entry]) := by
  induction coalesced with
  | nil => exact .keep entry [] [] .nil
  | keep first submitted kept _ ih => exact .keep first _ _ ih
  | replaced first submitted kept vanishes _ _ ih => exact .replaced first _ _ vanishes (by simp) ih

theorem coalesces_overwrite (last entry : Entry)
    (vanishes : mayVanish last) (coalesced : Coalesces mayVanish submitted (kept ++ [last])) :
    Coalesces mayVanish (submitted ++ [entry]) (kept ++ [entry]) := by
  generalize whole : kept ++ [last] = all at coalesced
  induction coalesced generalizing kept with
  | nil => simp at whole
  | keep first submitted rest following ih =>
    cases kept with
    | nil =>
      obtain ⟨rfl, rfl⟩ : last = first ∧ [] = rest := by simpa using whole
      obtain rfl := coalesces_nil mayVanish submitted following
      exact .replaced last [entry] [entry] vanishes (by simp) (.keep entry [] [] .nil)
    | cons head tail =>
      obtain ⟨rfl, rfl⟩ : head = first ∧ tail ++ [last] = rest := by simpa using whole
      exact .keep head _ _ (ih tail rfl)
  | replaced first submitted rest vanished _ _ ih => exact .replaced first _ _ vanished (by simp) (ih kept whole)

end EncosDriver.Lib
