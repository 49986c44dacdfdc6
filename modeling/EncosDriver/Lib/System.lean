import Mathlib.Logic.Basic

set_option autoImplicit false

namespace EncosDriver.Lib

-- An interleaving semantics: one action runs one atomic section of one party.
-- `step` answers `none` where the chosen party is blocked or has nothing to do.
structure System (State Action : Type) where
  init : State → Prop
  step : State → Action → Option State

variable {State Action : Type}

-- The states of the runs whose steps all meet `allowed`, a condition on the
-- state before the step and the action chosen there.
inductive ReachableWith (sys : System State Action) (allowed : State → Action → Prop) : State → Prop where
  | start (state : State) (initial : sys.init state) : ReachableWith sys allowed state
  | next (state next : State) (action : Action) (previous : ReachableWith sys allowed state)
      (permitted : allowed state action) (taken : sys.step state action = some next) :
      ReachableWith sys allowed next

def Always (_ : State) (_ : Action) : Prop := True

abbrev Reachable (sys : System State Action) : State → Prop := ReachableWith sys Always

variable (sys : System State Action) (allowed : State → Action → Prop)

theorem reachable_forget (state : State) (reached : ReachableWith sys allowed state) : Reachable sys state := by
  induction reached with
  | start state initial => exact .start state initial
  | next state next action _ _ taken ih => exact .next state next action ih trivial taken

theorem reachable_invariant (Inv : State → Prop) (initial : ∀ state, sys.init state → Inv state)
    (preserved : ∀ state action next, Inv state → allowed state action →
      sys.step state action = some next → Inv next) :
    ∀ state, ReachableWith sys allowed state → Inv state := by
  intro state reached
  induction reached with
  | start state init => exact initial state init
  | next state next action _ permitted taken ih => exact preserved state action next ih permitted taken

theorem reachable_invariant_under (Known Inv : State → Prop) (known : ∀ state, ReachableWith sys allowed state → Known state)
    (initial : ∀ state, sys.init state → Inv state)
    (preserved : ∀ state action next, Known state → Known next → Inv state → allowed state action →
      sys.step state action = some next → Inv next) :
    ∀ state, ReachableWith sys allowed state → Inv state := by
  intro state reached
  induction reached with
  | start state init => exact initial state init
  | next state next action previous permitted taken ih =>
    exact preserved state action next (known state previous)
      (known next (.next state next action previous permitted taken)) ih permitted taken

inductive RunsWhile (sys : System State Action) (keep : State → Prop) (first : State) : State → Prop where
  | here : RunsWhile sys keep first first
  | next (state next : State) (action : Action) (previous : RunsWhile sys keep first state)
      (inside : keep state) (taken : sys.step state action = some next) : RunsWhile sys keep first next

theorem runs_while_reachable (sys : System State Action) (keep : State → Prop) (first last : State)
    (reached : Reachable sys first) (ran : RunsWhile sys keep first last) : Reachable sys last := by
  induction ran with
  | here => exact reached
  | next state next action _ _ taken ih => exact .next state next action ih trivial taken

theorem runs_while_constant {Value : Type} (sys : System State Action) (keep : State → Prop) (value : State → Value)
    (unchanged : ∀ state action next, Reachable sys state → keep state → sys.step state action = some next →
      value next = value state) (first last : State) (reached : Reachable sys first)
    (ran : RunsWhile sys keep first last) : value last = value first := by
  induction ran with
  | here => rfl
  | next state next action previous inside taken ih =>
    have before := runs_while_reachable sys keep first state reached previous
    exact (unchanged state action next before inside taken).trans ih

def runChecked (sys : System State Action) (check : State → Action → Bool) : State → List Action → Option State
  | state, [] => some state
  | state, action :: rest =>
    if check state action then
      match sys.step state action with
      | none => none
      | some next => runChecked sys check next rest
    else none

theorem run_checked_reachable
    (check : State → Action → Bool) (sound : ∀ state action, check state action = true → allowed state action)
    (actions : List Action) (state final : State) (reached : ReachableWith sys allowed state)
    (ran : runChecked sys check state actions = some final) : ReachableWith sys allowed final := by
  induction actions generalizing state with
  | nil =>
    cases ran
    exact reached
  | cons action rest ih =>
    by_cases passed : check state action = true
    · cases taken : sys.step state action with
      | none => simp [runChecked, passed, taken] at ran
      | some next =>
        have following : runChecked sys check next rest = some final := by
          simpa only [runChecked, passed, taken, ↓reduceIte] using ran
        exact ih next (.next state next action reached (sound state action passed) taken) following
    · simp [runChecked, passed] at ran

theorem run_checked_default
    (check : State → Action → Bool) (sound : ∀ state action, check state action = true → allowed state action)
    (actions : List Action) (state : State) (reached : ReachableWith sys allowed state) :
    ReachableWith sys allowed ((runChecked sys check state actions).getD state) := by
  cases ran : runChecked sys check state actions with
  | none => exact reached
  | some final => exact run_checked_reachable sys allowed check sound actions state final reached ran

theorem run_checked_found
    (check : State → Action → Bool) (sound : ∀ state action, check state action = true → allowed state action)
    (actions : List Action) (state : State) (reached : ReachableWith sys allowed state) (facts : State → Bool)
    (found : (runChecked sys check state actions).any facts = true) :
    ∃ final, ReachableWith sys allowed final ∧ facts final = true := by
  obtain ⟨final, ran, true_⟩ := (Option.any_eq_true facts _).mp found
  exact ⟨final, run_checked_reachable sys allowed check sound actions state final reached ran, true_⟩

def runActions (sys : System State Action) : State → List Action → Option State :=
  runChecked sys fun _ _ => true

theorem run_actions_reachable (sys : System State Action) (actions : List Action) (state final : State)
    (reached : Reachable sys state) (ran : runActions sys state actions = some final) : Reachable sys final :=
  run_checked_reachable sys Always (fun _ _ => true) (fun _ _ _ => trivial) actions state final reached ran

theorem run_actions_default (sys : System State Action) (actions : List Action) (state : State) (reached : Reachable sys state) :
    Reachable sys ((runActions sys state actions).getD state) :=
  run_checked_default sys Always (fun _ _ => true) (fun _ _ _ => trivial) actions state reached

theorem run_actions_found (sys : System State Action) (actions : List Action) (state : State) (reached : Reachable sys state)
    (facts : State → Bool) (found : (runActions sys state actions).any facts = true) :
    ∃ final, Reachable sys final ∧ facts final = true :=
  run_checked_found sys Always (fun _ _ => true) (fun _ _ _ => trivial) actions state reached facts found

-- A party whose steps are answered from outside: whatever the answers are, it is
-- done after at most `count` steps, and busy until then.
inductive Finishes {Answer : Type} (step : State → Answer → State) (busy done : State → Prop) : Nat → State → Prop where
  | already (count : Nat) (state : State) (finished : done state) : Finishes step busy done count state
  | next (count : Nat) (state : State) (still : busy state) (rest : ∀ answer, Finishes step busy done count (step state answer)) :
      Finishes step busy done (count + 1) state

section Finishing

variable {Answer : Type} {step : State → Answer → State} {busy done : State → Prop}

theorem finishes_longer (count more : Nat) (state : State) (finishes : Finishes step busy done count state) (longer : count ≤ more) :
    Finishes step busy done more state := by
  induction finishes generalizing more with
  | already count state finished => exact .already more state finished
  | next count state still _ ih =>
    obtain ⟨rest, rfl⟩ := Nat.exists_eq_add_of_lt (Nat.lt_of_succ_le longer)
    exact .next (count + rest) state still fun answer => ih answer (count + rest) (Nat.le_add_right _ _)

theorem finishes_then (middle : State → Prop) (count more : Nat) (state : State) (finishes : Finishes step busy middle count state)
    (onward : ∀ next, middle next → Finishes step busy done more next) : Finishes step busy done (count + more) state := by
  induction finishes with
  | already count state finished => exact finishes_longer more (count + more) state (onward state finished) (Nat.le_add_left _ _)
  | next count state still _ ih =>
    rw [Nat.add_right_comm]
    exact .next (count + more) state still ih

theorem finishes_moved (move : State → State) (count : Nat) (state : State)
    (steps : ∀ state answer, step (move state) answer = move (step state answer)) (still : ∀ state, busy state → busy (move state))
    (settles : ∀ state, done state → done (move state)) (finishes : Finishes step busy done count state) :
    Finishes step busy done count (move state) := by
  induction finishes with
  | already count state finished => exact .already count _ (settles state finished)
  | next count state busy _ ih =>
    refine .next count _ (still state busy) fun answer => ?_
    rw [steps]
    exact ih answer

theorem finishes_answers (answer : Answer) (count : Nat) (state : State) (finishes : Finishes step busy done count state) :
    ∃ answers : List Answer, done (answers.foldl step state) := by
  induction finishes with
  | already count state finished => exact ⟨[], finished⟩
  | next count state _ _ ih =>
    obtain ⟨answers, finished⟩ := ih answer
    exact ⟨answer :: answers, finished⟩

end Finishing

end EncosDriver.Lib
