import EncosDriver.Motor.Log

set_option autoImplicit false

namespace EncosDriver.Motor.Log.Recovery

open Lib

-- The two threads that record while nobody enables or disables the log: the
-- motor's mutex lets one RecordCommand run at a time, and HandleStatus runs on
-- the receive thread. `judged`, `taken` and `sections` are records: the session
-- that the call checked last, the one that its recovery took, and how many
-- sections of the call have run.
structure Thread where
  pc : RecordPc := .done
  judged : Option Nat := none
  taken : Option Nat := none
  sections : Nat := 0
deriving DecidableEq

-- The sessions that have failed, and two more records: for which sessions a
-- rebuild was charged, and which were replaced.
structure State where
  shared : Shared
  threads : Context → Thread
  failed : List Nat := []
  charged : List Nat := []
  replaced : List Nat := []

inductive Action where
  | start (context : Context)
  | run (context : Context) (fails : Bool)
  | fail (session : Nat)
deriving DecidableEq

def Call.pc : Call → RecordPc
  | .record _ pc => pc
  | _ => .done

def failing (failed : List Nat) (fails : Bool) : RecordPc → Bool
  | .judging session => failed.contains session
  | _ => fails

def section_ (failed : List Nat) (fails : Bool) (context : Context) (shared : Shared) (pc : RecordPc) : Option (Shared × RecordPc) :=
  (record shared (failing failed fails pc) context pc).map fun move => (move.shared, Call.pc move.call)

def Thread.moved (thread : Thread) (next : RecordPc) : Thread where
  pc := next
  judged :=
    match thread.pc with
    | .judging session => some session
    | _ => thread.judged
  taken :=
    match next with
    | .closing _ _ oldSession => oldSession
    | _ => thread.taken
  sections := thread.sections + 1

def charging (charged : List Nat) (thread : Thread) (next : RecordPc) : List Nat :=
  match thread.pc, next with
  | .retrying _ _, .opening _ _ => charged ++ thread.taken.toList
  | _, _ => charged

def replacing (replaced : List Nat) (thread : Thread) (next : Shared) : List Nat :=
  match thread.pc with
  | .storing _ _ _ => if next.logSession.isSome then replaced ++ thread.taken.toList else replaced
  | _ => replaced

def step (state : State) : Action → Option State
  | .start context =>
    if (state.threads context).pc = .done then
      some { state with threads := Function.update state.threads context { pc := .reading } }
    else none
  | .run context fails =>
    (section_ state.failed fails context state.shared (state.threads context).pc).map fun next =>
      { state with
        shared := next.1
        threads := Function.update state.threads context ((state.threads context).moved next.2)
        charged := charging state.charged (state.threads context) next.2
        replaced := replacing state.replaced (state.threads context) next.1 }
  | .fail session => if session < state.shared.opened.length then some { state with failed := session :: state.failed } else none

structure Quiet (shared : Shared) : Prop where
  calm : shared.logRecovering = false
  named : shared.logSession = none → shared.logBaseName = ""
  opened : ∀ session, shared.logSession = some session → session < shared.opened.length
  budget : shared.logRetryBudget ≤ 3
  closed : shared.closed = []

def system : System State Action where
  init := fun state => ∃ shared, Quiet shared ∧ state = ⟨shared, fun _ => {}, [], [], []⟩
  step := step

inductive Section (failed : List Nat) (context : Context) (shared : Shared) : RecordPc → Shared → RecordPc → Prop where
  | absent (none : shared.logSession = none) : Section failed context shared .reading shared .done
  | present (session : Nat) (some : shared.logSession = some session) : Section failed context shared .reading shared (.judging session)
  | broken (session : Nat) (has : session ∈ failed) : Section failed context shared (.judging session) shared .entering
  | published (session : Nat) (command : context = .command) : Section failed context shared (.judging session) shared .counting
  | noted (session : Nat) (status : context = .status) : Section failed context shared (.judging session) shared .done
  | renewed : Section failed context shared .counting { shared with logRetryBudget := 3, logSuccessCount := 0 } .done
  | counted : Section failed context shared .counting { shared with logSuccessCount := shared.logSuccessCount + 1 } .done
  | refused : Section failed context shared .entering shared .done
  | takes (calm : shared.logRecovering = false) (named : shared.logBaseName ≠ "") :
      Section failed context shared .entering { shared with logRecovering := true, logSession := none }
        (.closing shared.logBaseName shared.enables shared.logSession)
  | closes (baseName : String) (since session : Nat) :
      Section failed context shared (.closing baseName since (some session)) (shared.close session) (.retrying baseName since)
  | givesUp (baseName : String) (since : Nat) :
      Section failed context shared (.retrying baseName since) { shared with logBaseName := "", logRecovering := false } .done
  | charges (baseName : String) (since : Nat) (positive : 0 < shared.logRetryBudget) :
      Section failed context shared (.retrying baseName since) { shared with logRetryBudget := shared.logRetryBudget - 1 }
        (.opening baseName since)
  | throws (baseName : String) (since : Nat) : Section failed context shared (.opening baseName since) shared (.retrying baseName since)
  | opens (baseName : String) (since : Nat) :
      Section failed context shared (.opening baseName since) (shared.create baseName) (.storing baseName since shared.opened.length)
  | renamed (baseName : String) (since session : Nat) (other : shared.logBaseName ≠ baseName) :
      Section failed context shared (.storing baseName since session) { shared with logRecovering := false } .done
  | stores (baseName : String) (since session : Nat) :
      Section failed context shared (.storing baseName since session) { shared with logSession := some session, logRecovering := false }
        context.recovered

theorem section_cases (failed : List Nat) (fails : Bool) (context : Context) (shared next : Shared) (pc nextPc : RecordPc)
    (ran : section_ failed fails context shared pc = some (next, nextPc)) : Section failed context shared pc next nextPc := by
  cases pc with
  | reading =>
    simp only [section_, record] at ran
    split at ran
    · rename_i none
      cases ran
      exact .absent none
    · rename_i session some
      cases ran
      exact .present session some
  | judging session =>
    have found : failing failed fails (.judging session) = failed.contains session := rfl
    rw [section_, found] at ran
    cases has : failed.contains session with
    | true =>
      rw [has] at ran
      cases ran
      exact .broken session (List.contains_iff_mem.mp has)
    | false =>
      rw [has] at ran
      cases context with
      | command =>
        cases ran
        exact .published session rfl
      | status =>
        cases ran
        exact .noted session rfl
  | counting =>
    simp only [section_, record] at ran
    split at ran
    · cases ran
      exact .renewed
    · cases ran
      exact .counted
  | entering =>
    simp only [section_, record] at ran
    split at ran
    · cases ran
      exact .refused
    · rename_i enters
      cases ran
      rw [Bool.or_eq_true, decide_eq_true_eq, not_or] at enters
      exact .takes (Bool.eq_false_iff.mpr enters.1) enters.2
  | closing baseName since oldSession =>
    cases oldSession with
    | none => cases ran
    | some session =>
      cases ran
      exact .closes baseName since session
  | retrying baseName since =>
    simp only [section_, record] at ran
    split at ran
    · cases ran
      exact .givesUp baseName since
    · rename_i goesOn
      cases ran
      exact .charges baseName since (Int.not_le.mp (not_or.mp goesOn).2)
  | opening baseName since =>
    simp only [section_, record] at ran
    split at ran
    · cases ran
      exact .throws baseName since
    · cases ran
      exact .opens baseName since
  | storing baseName since session =>
    simp only [section_, record] at ran
    split at ran
    · rename_i other
      cases ran
      exact .renamed baseName since session other
    · cases ran
      exact .stores baseName since session
  | done => cases ran

def recovering : RecordPc → Bool
  | .closing _ _ _ => true
  | .retrying _ _ => true
  | .opening _ _ => true
  | .storing _ _ _ => true
  | _ => false

def Holds (shared : Shared) (replaced : List Nat) (baseName : String) (taken : Option Nat) : Prop :=
  shared.logRecovering = true ∧ shared.logBaseName = baseName ∧
    ∃ session, taken = some session ∧ session < shared.opened.length ∧ session ∉ replaced

def ThreadOk (shared : Shared) (replaced : List Nat) (thread : Thread) : Prop :=
  match thread.pc with
  | .closing baseName _ oldSession => Holds shared replaced baseName thread.taken ∧ oldSession = thread.taken
  | .retrying baseName _ => Holds shared replaced baseName thread.taken
  | .opening baseName _ => Holds shared replaced baseName thread.taken
  | .storing baseName _ session =>
    Holds shared replaced baseName thread.taken ∧ session < shared.opened.length ∧ session ∉ replaced ∧ thread.taken ≠ some session
  | _ => True

structure SharedOk (shared : Shared) (replaced : List Nat) : Prop where
  idle : shared.logRecovering = true → shared.logSession = none
  named : shared.logRecovering = false → shared.logSession = none → shared.logBaseName = ""
  current : ∀ session, shared.logSession = some session → session < shared.opened.length ∧ session ∉ replaced
  older : ∀ session ∈ replaced, session < shared.opened.length
  once : replaced.Nodup
  budget : shared.logRetryBudget ≤ 3

structure Inv (state : State) : Prop where
  shared : SharedOk state.shared state.replaced
  threads : ∀ context, ThreadOk state.shared state.replaced (state.threads context)
  alone : ∀ first second, recovering (state.threads first).pc = true → recovering (state.threads second).pc = true → first = second

theorem recovering_flag (shared : Shared) (replaced : List Nat) (thread : Thread) (ok : ThreadOk shared replaced thread)
    (recovers : recovering thread.pc = true) : shared.logRecovering = true := by
  unfold ThreadOk at ok
  revert ok recovers
  cases thread.pc with
  | closing _ _ _ => exact fun ok _ => ok.1.1
  | retrying _ _ => exact fun ok _ => ok.1
  | opening _ _ => exact fun ok _ => ok.1
  | storing _ _ _ => exact fun ok _ => ok.1.1
  | _ => exact fun _ recovers => nomatch recovers

theorem thread_ok_idle (shared : Shared) (replaced : List Nat) (thread : Thread) (idle : recovering thread.pc = false) :
    ThreadOk shared replaced thread := by
  unfold ThreadOk
  revert idle
  cases thread.pc with
  | closing _ _ _ => exact nofun
  | retrying _ _ => exact nofun
  | opening _ _ => exact nofun
  | storing _ _ _ => exact nofun
  | _ => exact fun _ => trivial

theorem other_ok (shared next : Shared) (replaced : List Nat) (thread : Thread) (ok : ThreadOk shared replaced thread)
    (flag : next.logRecovering = shared.logRecovering) (name : next.logBaseName = shared.logBaseName)
    (opened : next.opened = shared.opened) : ThreadOk next replaced thread := by
  unfold ThreadOk Holds at ok ⊢
  rw [flag, name, opened]
  exact ok

structure After (shared next : Shared) (replaced : List Nat) (thread : Thread) (pc : RecordPc) : Prop where
  fine : SharedOk next (replacing replaced thread next)
  own : ThreadOk next (replacing replaced thread next) (thread.moved pc)
  enters : recovering pc = true → recovering thread.pc = true ∨ shared.logRecovering = false
  quiet : recovering thread.pc = false → shared.logRecovering = true →
    next.logRecovering = shared.logRecovering ∧ next.logBaseName = shared.logBaseName ∧ next.opened = shared.opened ∧
      replacing replaced thread next = replaced

theorem section_after (failed : List Nat) (context : Context) (shared next : Shared) (replaced : List Nat) (thread : Thread) (pc : RecordPc)
    (ran : Section failed context shared thread.pc next pc) (ok : ThreadOk shared replaced thread) (fine : SharedOk shared replaced) :
    After shared next replaced thread pc := by
  obtain ⟨before, judged, taken, sections⟩ := thread
  dsimp only at ran
  cases ran with
  | absent _ | present session _ | broken session _ | published session _ | noted session _ | refused =>
    exact ⟨fine, trivial, nofun, fun _ _ => ⟨rfl, rfl, rfl, rfl⟩⟩
  | renewed => exact ⟨{ fine with budget := Int.le_refl 3 }, trivial, nofun, fun _ _ => ⟨rfl, rfl, rfl, rfl⟩⟩
  | counted => exact ⟨{ fine with }, trivial, nofun, fun _ _ => ⟨rfl, rfl, rfl, rfl⟩⟩
  | takes calm named =>
    obtain ⟨session, held⟩ : ∃ session, shared.logSession = some session := by
      cases held : shared.logSession with
      | none => exact absurd (fine.named calm held) named
      | some session => exact ⟨session, rfl⟩
    obtain ⟨inside, fresh⟩ := fine.current session held
    refine ⟨⟨fun _ => rfl, nofun, nofun, fine.older, fine.once, fine.budget⟩, ⟨⟨rfl, rfl, session, held, inside, fresh⟩, rfl⟩,
      fun _ => Or.inr calm, fun _ recovers => ?_⟩
    rw [calm] at recovers
    cases recovers
  | closes baseName since session =>
    exact ⟨{ fine with }, ok.1, fun _ => Or.inl rfl, nofun⟩
  | givesUp baseName since =>
    exact ⟨⟨nofun, fun _ _ => rfl, fine.current, fine.older, fine.once, fine.budget⟩, trivial, nofun, nofun⟩
  | charges baseName since positive =>
    have budget := fine.budget
    exact ⟨⟨fine.idle, fine.named, fine.current, fine.older, fine.once, by dsimp only; omega⟩, ok, fun _ => Or.inl rfl, nofun⟩
  | throws baseName since => exact ⟨fine, ok, fun _ => Or.inl rfl, nofun⟩
  | opens baseName since =>
    obtain ⟨flag, name, session, held, inside, fresh⟩ := ok
    have grown : (shared.create baseName).opened.length = shared.opened.length + 1 := List.length_append
    have older : ∀ other ∈ replaced, other < (shared.create baseName).opened.length := fun other past => by
      have bound := fine.older other past
      omega
    refine ⟨⟨fine.idle, fine.named, ?_, older, fine.once, fine.budget⟩, ⟨⟨flag, name, session, held, by omega, fresh⟩, by omega, ?_, ?_⟩,
      fun _ => Or.inl rfl, nofun⟩
    · intro other stored
      obtain ⟨bound, new⟩ := fine.current other stored
      exact ⟨by omega, new⟩
    · exact fun past => absurd (fine.older _ past) (lt_irrefl _)
    · intro same
      rw [show taken = some session from held] at same
      have equal := Option.some.inj same
      omega
  | renamed baseName since session other => exact absurd ok.1.2.1 other
  | stores baseName since session =>
    obtain ⟨⟨flag, _, old, held, inside, fresh⟩, bound, new, different⟩ := ok
    obtain rfl : taken = some old := held
    have later : replacing replaced ⟨.storing baseName since session, judged, some old, sections⟩
        { shared with logSession := some session, logRecovering := false } = replaced ++ [old] := rfl
    have own : ThreadOk { shared with logSession := some session, logRecovering := false } (replaced ++ [old])
        (Thread.moved ⟨.storing baseName since session, judged, some old, sections⟩ context.recovered) := by
      cases context <;> trivial
    have leaves : recovering context.recovered = false := by cases context <;> rfl
    refine ⟨?_, later ▸ own, fun enters => ?_, nofun⟩
    · rw [later]
      refine ⟨nofun, nofun, ?_, ?_, ?_, fine.budget⟩
      · rintro other stored
        obtain rfl : session = other := Option.some.inj stored
        refine ⟨bound, fun past => ?_⟩
        rcases List.mem_append.mp past with before | last
        · exact new before
        · exact different (congrArg some (List.mem_singleton.mp last).symm)
      · intro other past
        rcases List.mem_append.mp past with before | last
        · exact fine.older other before
        · rw [List.mem_singleton.mp last]
          exact inside
      · refine List.nodup_append.mpr ⟨fine.once, List.nodup_cons.mpr ⟨nofun, List.nodup_nil⟩, ?_⟩
        rintro other past last only rfl
        rw [List.mem_singleton.mp only] at past
        exact fresh past
    · rw [leaves] at enters
      cases enters

variable (state next : State)

theorem run_cases (context : Context) (fails : Bool) (taken : step state (.run context fails) = some next) :
    ∃ shared pc, Section state.failed context state.shared (state.threads context).pc shared pc ∧
      next = { state with
        shared := shared
        threads := Function.update state.threads context ((state.threads context).moved pc)
        charged := charging state.charged (state.threads context) pc
        replaced := replacing state.replaced (state.threads context) shared } := by
  obtain ⟨⟨shared, pc⟩, ran, rfl⟩ := Option.map_eq_some_iff.mp taken
  exact ⟨shared, pc, section_cases _ _ _ _ _ _ _ ran, rfl⟩

theorem start_cases (context : Context) (taken : step state (.start context) = some next) :
    (state.threads context).pc = .done ∧ next = { state with threads := Function.update state.threads context { pc := .reading } } := by
  simp only [step] at taken
  split at taken
  · rename_i idle
    exact ⟨idle, (Option.some.inj taken).symm⟩
  · cases taken

theorem fail_cases (session : Nat) (taken : step state (.fail session) = some next) :
    next = { state with failed := session :: state.failed } := by
  simp only [step] at taken
  split at taken
  · exact (Option.some.inj taken).symm
  · cases taken

theorem inv_init (state : State) (initial : system.init state) : Inv state := by
  obtain ⟨shared, quiet, rfl⟩ := initial
  refine ⟨⟨fun recovers => ?_, fun _ => quiet.named, fun session stored => ⟨quiet.opened session stored, nofun⟩, nofun, List.nodup_nil,
    quiet.budget⟩, fun _ => trivial, nofun⟩
  rw [quiet.calm] at recovers
  cases recovers

theorem inv_step (action : Action) (inv : Inv state) (taken : step state action = some next) : Inv next := by
  cases action with
  | start context =>
    obtain ⟨_, rfl⟩ := start_cases state next context taken
    refine ⟨inv.shared, fun other => ?_, fun first second => ?_⟩
    · dsimp only
      by_cases same : other = context
      · subst same
        rw [Function.update_self]
        trivial
      · rw [Function.update_of_ne same]
        exact inv.threads other
    · dsimp only
      by_cases one : first = context
      · subst one
        rw [Function.update_self]
        exact nofun
      · by_cases two : second = context
        · subst two
          rw [Function.update_self]
          exact fun _ => nofun
        · rw [Function.update_of_ne one, Function.update_of_ne two]
          exact inv.alone first second
  | run context fails =>
    obtain ⟨shared, pc, ran, rfl⟩ := run_cases state next context fails taken
    have after := section_after _ _ _ _ _ _ _ ran (inv.threads context) inv.shared
    -- A second recovery would have begun while the flag was set.
    have apart (other : Context) (different : other ≠ context) (recovers : recovering (state.threads other).pc = true) :
        recovering (state.threads context).pc = false ∧ recovering pc = false := by
      have flag := recovering_flag _ _ _ (inv.threads other) recovers
      have idle : recovering (state.threads context).pc = false :=
        Bool.eq_false_iff.mpr fun both => different (inv.alone other context recovers both)
      refine ⟨idle, Bool.eq_false_iff.mpr fun enters => ?_⟩
      rcases after.enters enters with was | calm
      · rw [idle] at was
        cases was
      · rw [flag] at calm
        cases calm
    refine ⟨after.fine, fun other => ?_, fun first second => ?_⟩
    · dsimp only
      by_cases same : other = context
      · subst same
        rw [Function.update_self]
        exact after.own
      · rw [Function.update_of_ne same]
        cases recovers : recovering (state.threads other).pc with
        | false => exact thread_ok_idle _ _ _ recovers
        | true =>
          have flag := recovering_flag _ _ _ (inv.threads other) recovers
          obtain ⟨flagSame, name, opened, replaced⟩ := after.quiet (apart other same recovers).1 flag
          rw [replaced]
          exact other_ok _ _ _ _ (inv.threads other) flagSame name opened
    · dsimp only
      by_cases one : first = context
      · by_cases two : second = context
        · exact fun _ _ => one.trans two.symm
        · subst one
          rw [Function.update_self, Function.update_of_ne two]
          intro here there
          have none := (apart second two there).2
          rw [show recovering pc = true from here] at none
          cases none
      · by_cases two : second = context
        · subst two
          rw [Function.update_self, Function.update_of_ne one]
          intro there here
          have none := (apart first one there).2
          rw [show recovering pc = true from here] at none
          cases none
        · rw [Function.update_of_ne one, Function.update_of_ne two]
          exact inv.alone first second
  | fail session =>
    obtain rfl := fail_cases state next session taken
    exact ⟨inv.shared, inv.threads, inv.alone⟩

theorem inv_reachable (allowed : State → Action → Prop) : ∀ state, ReachableWith system allowed state → Inv state :=
  reachable_invariant system allowed Inv inv_init fun state action next inv _ taken => inv_step state next action inv taken

-- A call enters the recovery while the session that it found failed is still the
-- current one, or the current one has failed too.
def Current (state : State) : Action → Prop
  | .run context _ => (state.threads context).pc = .entering → ∀ session, state.shared.logSession = some session →
      (state.threads context).judged = some session ∨ session ∈ state.failed
  | _ => True

def Blames (failed : List Nat) (thread : Thread) : Prop :=
  (thread.pc = .entering → ∀ session, thread.judged = some session → session ∈ failed) ∧
    (recovering thread.pc = true → ∀ session, thread.taken = some session → session ∈ failed)

structure OnlyFailed (state : State) : Prop where
  closed : ∀ session ∈ state.shared.closed, session ∈ state.failed
  charged : ∀ session ∈ state.charged, session ∈ state.failed

structure Blame (state : State) : Prop where
  only : OnlyFailed state
  threads : ∀ context, Blames state.failed (state.threads context)

theorem section_blames (failed charged : List Nat) (context : Context) (shared next : Shared) (replaced : List Nat) (thread : Thread)
    (pc : RecordPc) (ran : Section failed context shared thread.pc next pc) (ok : ThreadOk shared replaced thread)
    (current : thread.pc = .entering → ∀ session, shared.logSession = some session → thread.judged = some session ∨ session ∈ failed)
    (blames : Blames failed thread) (closed : ∀ session ∈ shared.closed, session ∈ failed) (charges : ∀ session ∈ charged, session ∈ failed) :
    Blames failed (thread.moved pc) ∧ (∀ session ∈ next.closed, session ∈ failed) ∧
      ∀ session ∈ charging charged thread pc, session ∈ failed := by
  obtain ⟨before, judged, taken, sections⟩ := thread
  dsimp only at ran current
  cases ran with
  | absent _ | present session _ | published session _ | noted session _ | renewed | counted | refused
  | givesUp baseName since | renamed baseName since session _ => exact ⟨⟨nofun, nofun⟩, closed, charges⟩
  | broken session has =>
    refine ⟨⟨fun _ other found => ?_, nofun⟩, closed, charges⟩
    rw [← Option.some.inj found]
    exact has
  | takes calm named =>
    refine ⟨⟨nofun, fun _ session took => ?_⟩, closed, charges⟩
    rcases current rfl session took with same | has
    · exact blames.1 rfl session same
    · exact has
  | closes baseName since session =>
    have mine : session ∈ failed := blames.2 rfl session ok.2.symm
    refine ⟨⟨nofun, fun _ => blames.2 rfl⟩, fun other inside => ?_, charges⟩
    rcases List.mem_append.mp inside with past | last
    · exact closed other past
    · rw [List.mem_singleton.mp last]
      exact mine
  | charges baseName since positive =>
    refine ⟨⟨nofun, fun _ => blames.2 rfl⟩, closed, fun other inside => ?_⟩
    rcases List.mem_append.mp inside with past | last
    · exact charges other past
    · exact blames.2 rfl other (Option.mem_toList.mp last)
  | throws baseName since => exact ⟨⟨nofun, fun _ => blames.2 rfl⟩, closed, charges⟩
  | opens baseName since => exact ⟨⟨nofun, fun _ => blames.2 rfl⟩, closed, charges⟩
  | stores baseName since session =>
    refine ⟨⟨fun enters => ?_, fun recovers => ?_⟩, closed, charges⟩
    · cases context <;> cases enters
    · cases context <;> cases recovers

theorem blame_step (action : Action) (inv : Inv state) (blame : Blame state) (current : Current state action)
    (taken : step state action = some next) : Blame next := by
  cases action with
  | start context =>
    obtain ⟨_, rfl⟩ := start_cases state next context taken
    refine ⟨⟨blame.only.closed, blame.only.charged⟩, fun other => ?_⟩
    dsimp only
    by_cases same : other = context
    · subst same
      rw [Function.update_self]
      exact ⟨nofun, nofun⟩
    · rw [Function.update_of_ne same]
      exact blame.threads other
  | run context fails =>
    obtain ⟨shared, pc, ran, rfl⟩ := run_cases state next context fails taken
    obtain ⟨own, closed, charged⟩ := section_blames _ state.charged _ _ _ state.replaced _ _ ran (inv.threads context) current
      (blame.threads context) blame.only.closed blame.only.charged
    refine ⟨⟨closed, charged⟩, fun other => ?_⟩
    dsimp only
    by_cases same : other = context
    · subst same
      rw [Function.update_self]
      exact own
    · rw [Function.update_of_ne same]
      exact blame.threads other
  | fail session =>
    obtain rfl := fail_cases state next session taken
    exact ⟨⟨fun other inside => List.mem_cons_of_mem _ (blame.only.closed other inside),
        fun other inside => List.mem_cons_of_mem _ (blame.only.charged other inside)⟩,
      fun context => ⟨fun enters other found => List.mem_cons_of_mem _ ((blame.threads context).1 enters other found),
        fun recovers other took => List.mem_cons_of_mem _ ((blame.threads context).2 recovers other took)⟩⟩

theorem blame_reachable : ∀ state, ReachableWith system Current state → Blame state := by
  refine reachable_invariant_under system Current Inv Blame (inv_reachable Current) ?_ ?_
  · rintro state ⟨shared, quiet, rfl⟩
    refine ⟨⟨?_, nofun⟩, fun _ => ⟨nofun, nofun⟩⟩
    rw [show shared.closed = [] from quiet.closed]
    exact nofun
  · exact fun state action next inv _ blame current taken => blame_step state next action inv blame current taken

-- How many sections a call may still run. Each turn of RecordCommand's loop
-- costs at least one retry, and nothing renews the retries meanwhile.
def commandLeft (budget : Nat) : RecordPc → Nat
  | .reading => 7 * budget + 5
  | .judging _ => 7 * budget + 4
  | .entering => 7 * budget + 3
  | .closing _ _ _ => 7 * budget + 2
  | .retrying _ _ => 7 * budget + 1
  | .opening _ _ => 7 * budget + 7
  | .storing _ _ _ => 7 * budget + 6
  | .counting => 1
  | .done => 0

def statusLeft (attempts : Nat) : RecordPc → Nat
  | .reading => 20
  | .judging _ => 19
  | .entering => 18
  | .closing _ _ _ => 2 * attempts + 4
  | .retrying _ _ => 2 * attempts + 3
  | .opening _ _ => 2 * attempts + 4
  | .storing _ _ _ => 2
  | .counting => 1
  | .done => 0

def renewal : RecordPc → Nat
  | .judging _ => 3
  | .counting => 3
  | _ => 0

def State.budget (state : State) : Nat := state.shared.logRetryBudget.toNat

def State.left (state : State) : Context → Nat
  | .command => commandLeft state.budget (state.threads .command).pc
  | .status => statusLeft (state.budget + renewal (state.threads .command).pc) (state.threads .status).pc

structure Bounded (state : State) : Prop where
  uncounted : (state.threads .status).pc ≠ .counting
  sections : ∀ context, (state.threads context).sections + state.left context ≤ 26

section Measures

variable (failed : List Nat) (shared next : Shared) (pc nextPc : RecordPc) (bound : shared.logRetryBudget ≤ 3)

include bound

theorem command_less (ran : Section failed .command shared pc next nextPc) :
    commandLeft next.logRetryBudget.toNat nextPc < commandLeft shared.logRetryBudget.toNat pc := by
  cases ran <;> simp only [commandLeft, Context.recovered, Shared.close, Shared.create] <;> omega

theorem status_less (renewals : Nat) (few : renewals ≤ 3) (ran : Section failed .status shared pc next nextPc) :
    statusLeft (next.logRetryBudget.toNat + renewals) nextPc < statusLeft (shared.logRetryBudget.toNat + renewals) pc := by
  cases ran <;> simp only [statusLeft, Context.recovered, Shared.close] <;> omega

omit bound

theorem budget_falls (context : Context) (uncounted : pc ≠ .counting) (ran : Section failed context shared pc next nextPc) :
    next.logRetryBudget.toNat ≤ shared.logRetryBudget.toNat := by
  cases ran with
  | renewed => exact absurd rfl uncounted
  | counted => exact absurd rfl uncounted
  | charges _ _ _ =>
    dsimp only
    omega
  | _ => exact le_refl _

theorem status_uncounted (ran : Section failed .status shared pc next nextPc) : nextPc ≠ .counting := by
  cases ran with
  | published session command => cases command
  | _ => nofun

theorem attempts_fall (context : Context) (none : shared.logSession = none)
    (ran : Section failed context shared pc next nextPc) :
    next.logRetryBudget.toNat + renewal nextPc ≤ shared.logRetryBudget.toNat + renewal pc := by
  cases ran with
  | present session some => rw [none] at some; cases some
  | stores _ _ _ => cases context <;> simp [renewal, Context.recovered]
  | _ =>
    simp only [renewal, Shared.close, Shared.create]
    omega

end Measures

theorem command_left_mono (first second : Nat) (below : first ≤ second) (pc : RecordPc) : commandLeft first pc ≤ commandLeft second pc := by
  cases pc <;> simp only [commandLeft] <;> omega

theorem status_left_mono (first second : Nat) (below : first ≤ second) (pc : RecordPc) : statusLeft first pc ≤ statusLeft second pc := by
  cases pc <;> simp only [statusLeft] <;> omega

theorem status_left_idle (first second : Nat) (pc : RecordPc) (idle : recovering pc = false) : statusLeft first pc = statusLeft second pc := by
  cases pc <;> first | rfl | cases idle

theorem renewal_few (pc : RecordPc) : renewal pc ≤ 3 := by
  cases pc <;> simp [renewal]

theorem start_bounded (state : State) (context : Context) (inv : Inv state) (bounded : Bounded state)
    (idle : (state.threads context).pc = .done) :
    Bounded { state with threads := Function.update state.threads context { pc := .reading } } := by
  have few : state.budget ≤ 3 := by
    have bound := inv.shared.budget
    rw [State.budget]
    omega
  have command := bounded.sections .command
  have status := bounded.sections .status
  cases context with
  | command =>
    refine ⟨bounded.uncounted, fun other => ?_⟩
    cases other with
    | command =>
      change 0 + commandLeft state.budget .reading ≤ 26
      simp only [commandLeft]
      omega
    | status =>
      change (state.threads .status).sections + statusLeft (state.budget + 0) (state.threads .status).pc ≤ 26
      have less := status_left_mono (state.budget + 0) (state.budget + renewal (state.threads .command).pc) (by omega) (state.threads .status).pc
      simp only [State.left] at status
      omega
  | status =>
    refine ⟨nofun, fun other => ?_⟩
    cases other with
    | command => exact command
    | status =>
      change 0 + 20 ≤ 26
      omega

theorem command_bounded (state : State) (shared : Shared) (pc : RecordPc) (inv : Inv state) (bounded : Bounded state)
    (ran : Section state.failed .command state.shared (state.threads .command).pc shared pc) (charged replaced : List Nat) :
    Bounded ⟨shared, Function.update state.threads .command ((state.threads .command).moved pc), state.failed, charged, replaced⟩ := by
  have command := bounded.sections .command
  have status := bounded.sections .status
  simp only [State.left] at command status
  refine ⟨bounded.uncounted, fun other => ?_⟩
  cases other with
  | command =>
    have less := command_less _ _ _ _ _ inv.shared.budget ran
    change (state.threads .command).sections + 1 + commandLeft shared.logRetryBudget.toNat pc ≤ 26
    simp only [State.budget] at command
    omega
  | status =>
    change (state.threads .status).sections + statusLeft (shared.logRetryBudget.toNat + renewal pc) (state.threads .status).pc ≤ 26
    refine le_trans (Nat.add_le_add_left ?_ _) status
    cases recovers : recovering (state.threads .status).pc with
    | false => exact (status_left_idle _ _ _ recovers).le
    | true =>
      have none := inv.shared.idle (recovering_flag _ _ _ (inv.threads .status) recovers)
      exact status_left_mono _ _ (attempts_fall _ _ _ _ _ .command none ran) _

theorem status_bounded (state : State) (shared : Shared) (pc : RecordPc) (inv : Inv state) (bounded : Bounded state)
    (ran : Section state.failed .status state.shared (state.threads .status).pc shared pc) (charged replaced : List Nat) :
    Bounded ⟨shared, Function.update state.threads .status ((state.threads .status).moved pc), state.failed, charged, replaced⟩ := by
  have command := bounded.sections .command
  have status := bounded.sections .status
  simp only [State.left] at command status
  refine ⟨fun counting => ?_, fun other => ?_⟩
  · exact status_uncounted _ _ _ _ _ ran counting
  · cases other with
    | command =>
      have falls := budget_falls _ _ _ _ _ .status bounded.uncounted ran
      change (state.threads .command).sections + commandLeft shared.logRetryBudget.toNat (state.threads .command).pc ≤ 26
      exact le_trans (Nat.add_le_add_left (command_left_mono _ _ falls _) _) command
    | status =>
      have less := status_less _ _ _ _ _ inv.shared.budget _ (renewal_few (state.threads .command).pc) ran
      change (state.threads .status).sections + 1 +
        statusLeft (shared.logRetryBudget.toNat + renewal (state.threads .command).pc) pc ≤ 26
      simp only [State.budget] at status
      omega

theorem bounded_step (action : Action) (inv : Inv state) (bounded : Bounded state)
    (taken : step state action = some next) : Bounded next := by
  cases action with
  | start context =>
    obtain ⟨idle, rfl⟩ := start_cases state next context taken
    exact start_bounded state context inv bounded idle
  | run context fails =>
    obtain ⟨shared, pc, ran, rfl⟩ := run_cases state next context fails taken
    cases context with
    | command => exact command_bounded state shared pc inv bounded ran _ _
    | status => exact status_bounded state shared pc inv bounded ran _ _
  | fail session =>
    obtain rfl := fail_cases state next session taken
    exact ⟨bounded.uncounted, bounded.sections⟩

theorem bounded_reachable : ∀ state, Reachable system state → Bounded state := by
  refine reachable_invariant_under system Always Inv Bounded (inv_reachable Always) ?_ ?_
  · rintro state ⟨shared, quiet, rfl⟩
    refine ⟨nofun, fun context => ?_⟩
    cases context <;> exact Nat.zero_le _
  · exact fun state action next inv _ bounded _ taken => bounded_step state next action inv bounded taken

theorem never_stuck (state : State) (inv : Inv state) (context : Context) (fails : Bool) (unfinished : (state.threads context).pc ≠ .done) :
    (step state (.run context fails)).isSome = true := by
  have ok := inv.threads context
  have moves : (section_ state.failed fails context state.shared (state.threads context).pc).isSome = true := by
    rw [section_, Option.isSome_map]
    unfold ThreadOk at ok
    revert ok unfinished
    cases (state.threads context).pc with
    | reading =>
      intro _ _
      simp only [record]
      split <;> rfl
    | judging session =>
      intro _ _
      simp only [record]
      split
      · rfl
      · cases context <;> rfl
    | closing baseName since oldSession =>
      rintro - ⟨⟨_, _, session, held, _⟩, same⟩
      rw [same, held]
      rfl
    | done => exact fun unfinished => absurd rfl unfinished
    | _ =>
      intro _ _
      simp only [record]
      split <;> rfl
  simp only [step, Option.isSome_map]
  exact moves

/-- In every run each session is replaced at most once and every call ends; a recovery charges for and closes failed
sessions only, as long as each enters with the session that it found failed. -/
theorem recovery_law (state : State) (reached : Reachable system state) :
    (state.replaced.Nodup ∧ ∀ context, (state.threads context).sections ≤ 26 ∧
      ((state.threads context).pc ≠ .done → ∀ fails, (step state (.run context fails)).isSome = true)) ∧
    (ReachableWith system Current state → OnlyFailed state) := by
  refine ⟨?_, fun current => (blame_reachable state current).only⟩
  have inv := inv_reachable Always state reached
  have bounded := bounded_reachable state reached
  refine ⟨inv.shared.once, fun context => ⟨?_, fun unfinished fails => never_stuck state inv context fails unfinished⟩⟩
  have total := bounded.sections context
  omega

def logged : Shared := { logSession := some 0, logBaseName := "log", opened := ["log"] }

theorem logged_quiet : Quiet logged where
  calm := rfl
  named := nofun
  opened session stored := by
    cases stored
    decide
  budget := by decide
  closed := rfl

def fresh : State := ⟨logged, fun _ => {}, [], [], []⟩

def bothNotice : List Action :=
  [.fail 0, .start .command, .run .command false, .run .command false, .start .status, .run .status false, .run .status false,
    .run .status false, .run .status false, .run .status false, .run .status false, .run .status false,
    .run .command false, .run .command false, .run .command false]

theorem healthy_session_closed : ∃ state, Reachable system state ∧ 1 ∈ state.shared.closed ∧ 1 ∈ state.charged ∧ 1 ∉ state.failed := by
  have found : (runActions system fresh bothNotice).any (fun state =>
      decide (1 ∈ state.shared.closed ∧ 1 ∈ state.charged ∧ 1 ∉ state.failed)) = true := by decide +kernel
  obtain ⟨state, reached, facts⟩ := run_actions_found system bothNotice fresh (.start _ ⟨logged, logged_quiet, rfl⟩) _ found
  exact ⟨state, reached, of_decide_eq_true facts⟩

def current (state : State) : Action → Bool
  | .run context _ =>
    decide ((state.threads context).pc ≠ .entering) ||
      state.shared.logSession.all fun session => decide ((state.threads context).judged = some session) || state.failed.contains session
  | _ => true

theorem current_sound (state : State) (action : Action) (checked : current state action = true) : Current state action := by
  cases action with
  | run context fails =>
    intro enters session stored
    simp only [current, enters, stored, Option.all_some, Bool.or_eq_true, decide_eq_true_eq, List.contains_iff_mem, ne_eq,
      not_true_eq_false, false_or] at checked
    exact checked
  | start context => trivial
  | fail session => trivial

def oneNotices : List Action :=
  [.fail 0, .start .command, .run .command false, .run .command false, .run .command false, .run .command false, .run .command true,
    .run .command true, .run .command false, .run .command false, .run .command false]

theorem one_notices : ∃ state, ReachableWith system Current state ∧ state.shared.closed = [0] ∧ state.charged = [0, 0] ∧
    OnlyFailed state ∧ state.replaced.Nodup := by
  have found : (runChecked system current fresh oneNotices).any (fun state =>
      decide (state.shared.closed = [0] ∧ state.charged = [0, 0])) = true := by decide +kernel
  obtain ⟨state, reached, facts⟩ := run_checked_found system Current current current_sound oneNotices fresh
    (.start _ ⟨logged, logged_quiet, rfl⟩) _ found
  obtain ⟨closed, charged⟩ := of_decide_eq_true facts
  have law := recovery_law state (reachable_forget system Current state reached)
  exact ⟨state, reached, closed, charged, law.2 reached, law.1.1⟩

end EncosDriver.Motor.Log.Recovery
