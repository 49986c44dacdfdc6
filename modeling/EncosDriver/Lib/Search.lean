import Mathlib.Data.List.Basic

set_option autoImplicit false

namespace EncosDriver.Lib

-- A counting loop that returns from its body: `for (p = start; proceed p; p =
-- next p) if (body p) return it`. None is a loop still going when its fuel is
-- spent, `some none` one that ran out of positions.
structure Search (Position Result : Type) where
  proceed : Position → Bool
  next : Position → Position
  body : Position → Option Result

namespace Search

variable {Position Result : Type} (loop : Search Position Result)

def run : Nat → Position → Option (Option Result)
  | 0, _ => none
  | fuel + 1, position =>
    if loop.proceed position = true then
      match loop.body position with
      | some found => some (some found)
      | none => run fuel (loop.next position)
    else some none

inductive Visits (start : Position) : Position → Prop where
  | first (inside : loop.proceed start = true) : Visits start start
  | later (position : Position) (before : Visits start position) (inside : loop.proceed (loop.next position) = true) :
      Visits start (loop.next position)

variable (start position : Position)

theorem visits_start (visited : loop.Visits start position) : loop.proceed start = true := by
  induction visited with
  | first inside => exact inside
  | later _ _ _ ih => exact ih

theorem visits_from_next (inside : loop.proceed start = true)
    (visited : loop.Visits (loop.next start) position) : loop.Visits start position := by
  induction visited with
  | first after => exact .later start (.first inside) after
  | later position _ after ih => exact .later position ih after

theorem visits_split (visited : loop.Visits start position) :
    position = start ∨ loop.Visits (loop.next start) position := by
  induction visited with
  | first _ => exact .inl rfl
  | later position _ after ih =>
    cases ih with
    | inl same => exact .inr (same ▸ .first (same ▸ after))
    | inr rest => exact .inr (.later position rest after)

theorem run_found (fuel : Nat) (start : Position) (found : Result) (ran : loop.run fuel start = some (some found)) :
    ∃ position, loop.Visits start position ∧ loop.body position = some found := by
  induction fuel generalizing start with
  | zero => cases ran
  | succ fuel ih =>
    rw [run] at ran
    split at ran
    · rename_i inside
      cases returned : loop.body start with
      | some result =>
        rw [returned] at ran
        cases ran
        exact ⟨start, .first inside, returned⟩
      | none =>
        rw [returned] at ran
        obtain ⟨position, visited, here⟩ := ih (loop.next start) ran
        exact ⟨position, visits_from_next loop start position inside visited, here⟩
    · cases ran

theorem run_exhausted (fuel : Nat) (start : Position) (ran : loop.run fuel start = some none) (position : Position)
    (visited : loop.Visits start position) : loop.body position = none := by
  induction fuel generalizing start with
  | zero => cases ran
  | succ fuel ih =>
    rw [run] at ran
    split at ran
    · cases returned : loop.body start with
      | some result =>
        rw [returned] at ran
        cases ran
      | none =>
        rw [returned] at ran
        cases visits_split loop start position visited with
        | inl same => exact same ▸ returned
        | inr rest => exact ih (loop.next start) ran rest
    · rename_i outside
      exact absurd (visits_start loop start position visited) outside

theorem run_more (fuel more : Nat) (start : Position) (result : Option Result) (ran : loop.run fuel start = some result)
    (enough : fuel ≤ more) : loop.run more start = some result := by
  induction fuel generalizing start more with
  | zero => cases ran
  | succ fuel ih =>
    cases more with
    | zero => omega
    | succ more =>
      rw [run] at ran ⊢
      split at ran
      · rename_i inside
        rw [if_pos inside]
        cases returned : loop.body start with
        | some found =>
          rw [returned] at ran
          exact ran
        | none =>
          rw [returned] at ran
          exact ih more (loop.next start) ran (by omega)
      · rename_i outside
        rw [if_neg outside]
        exact ran

theorem run_ends (measure : Position → Nat)
    (lowers : ∀ position, loop.proceed position = true → measure (loop.next position) < measure position) (fuel : Nat)
    (start : Position) (enough : measure start < fuel) : ∃ result, loop.run fuel start = some result := by
  induction fuel generalizing start with
  | zero => omega
  | succ fuel ih =>
    rw [run]
    split
    · rename_i inside
      cases loop.body start with
      | some found => exact ⟨some found, rfl⟩
      | none =>
        have less := lowers start inside
        exact ih (loop.next start) (by omega)
    · exact ⟨none, rfl⟩

end Search

end EncosDriver.Lib
