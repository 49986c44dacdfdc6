import EncosDriver.Motor.Log

set_option autoImplicit false

namespace EncosDriver.Motor.Log

open Lib World

def Call.holds : Call → Option Nat
  | .enableLog _ (.closing session) => some session
  | .enableLog _ (.storing session) => some session
  | .disableLog (.closing session) => some session
  | .record _ (.closing _ _ oldSession) => oldSession
  | .record _ (.storing _ _ session) => some session
  | _ => none

def Call.recovers : Call → Option (String × Nat)
  | .record _ (.closing baseName since _) => some (baseName, since)
  | .record _ (.retrying baseName since) => some (baseName, since)
  | .record _ (.opening baseName since) => some (baseName, since)
  | .record _ (.storing baseName since _) => some (baseName, since)
  | _ => none

-- What keeps the log in order. An EnableLog stores a name that is not empty, and
-- no session is lost to it; a recovery gives up with no session stored, and what
-- it has opened it stores, again over none.
def Neat (shared : Shared) : Call → Prop
  | .enableLog baseName (.storing _) => baseName ≠ "" ∧ shared.logSession = none
  | .record _ (.retrying baseName _) => shared.logBaseName ≠ baseName ∨ shared.logRetryBudget ≤ 0 → shared.logSession = none
  | .record _ (.storing baseName _ _) => shared.logBaseName = baseName ∧ shared.logSession = none
  | _ => True

def Orderly (state : State) : Action → Prop
  | .run id _ => ∀ call, state.calls.find id = some call → Neat state.shared call
  | _ => True

def holding (session : Nat) (call : Call) : Nat := if call.holds = some session then 1 else 0

def recovering (call : Call) : Nat := if call.recovers.isSome then 1 else 0

def stored (shared : Shared) (session : Nat) : Nat :=
  (if shared.logSession = some session then 1 else 0) + shared.closed.count session

def known (shared : Shared) (session : Nat) : Nat := if session < shared.opened.length then 1 else 0

theorem stored_close (shared : Shared) (session other : Nat) :
    stored (shared.close session) other = stored shared other + if session = other then 1 else 0 := by
  have grown : (shared.closed ++ [session]).count other = shared.closed.count other + if session = other then 1 else 0 := by
    simp [List.count_append, List.count_singleton]
  calc
    stored (shared.close session) other =
        (if shared.logSession = some other then 1 else 0) + (shared.closed ++ [session]).count other := rfl
    _ = stored shared other + if session = other then 1 else 0 := by rw [grown, stored, Nat.add_assoc]

theorem stored_none (shared next : Shared) (other : Nat) (none : next.logSession = none) (same : next.closed = shared.closed) :
    stored next other + (if shared.logSession = some other then 1 else 0) = stored shared other := by
  simp [stored, none, same, Nat.add_comm]

theorem known_create (shared : Shared) (baseName : String) (other : Nat) :
    known (shared.create baseName) other = known shared other + if shared.opened.length = other then 1 else 0 := by
  simp only [known, Shared.create, List.length_append, List.length_singleton]
  split_ifs <;> omega

def Recovers (shared : Shared) (baseName : String) (since : Nat) : Prop :=
  baseName ≠ "" ∧ (shared.logSession = none → shared.logBaseName = "" ∨
    shared.logBaseName = baseName ∧ shared.enabled = some baseName ∧ shared.enables = since)

def CallOk (shared : Shared) : Call → Prop
  | .enableLog baseName (.storing session) => shared.opened[session]? = some baseName
  | .record _ (.closing baseName since _) => Recovers shared baseName since
  | .record _ (.retrying baseName since) => Recovers shared baseName since
  | .record _ (.opening baseName since) => Recovers shared baseName since
  | .record _ (.storing baseName since session) => Recovers shared baseName since ∧ shared.opened[session]? = some baseName
  | _ => True

structure SharedOk (shared : Shared) : Prop where
  active : ∀ session, shared.logSession = some session →
    shared.opened[session]? = some shared.logBaseName ∧ shared.logBaseName ≠ "" ∧ shared.enabled = some shared.logBaseName
  idle : shared.logRecovering = false → shared.logSession = none → shared.logBaseName = ""

structure LogInv (state : State) : Prop where
  numbered : Numbered state
  shared : SharedOk state.shared
  calls : ∀ id call, state.calls.find id = some call → CallOk state.shared call
  counted : state.tally recovering = if state.shared.logRecovering then 1 else 0
  placed : ∀ session, stored state.shared session + state.tally (holding session) = known state.shared session

theorem recovering_counted (state : State) (inv : LogInv state) (id : Nat) (call : Call)
    (present : state.calls.find id = some call) (recovers : call.recovers.isSome) : state.shared.logRecovering = true := by
  have positive := amount_le_tally recovering state id call present
  rw [inv.counted, recovering, if_pos recovers] at positive
  by_cases flag : state.shared.logRecovering = true
  · exact flag
  · rw [if_neg flag] at positive
    omega

theorem call_ok_later (shared next : Shared) (call : Call)
    (opened : ∀ (session : Nat) (name : String), shared.opened[session]? = some name → next.opened[session]? = some name)
    (recovers : ∀ baseName since, call.recovers = some (baseName, since) → Recovers shared baseName since →
      Recovers next baseName since)
    (ok : CallOk shared call) : CallOk next call := by
  cases call with
  | enableLog baseName pc =>
    cases pc with
    | storing session => exact opened session baseName ok
    | _ => trivial
  | disableLog pc => trivial
  | record context pc =>
    cases pc with
    | closing baseName since oldSession | retrying baseName since | opening baseName since =>
      exact recovers baseName since rfl ok
    | storing baseName since session => exact ⟨recovers baseName since rfl ok.1, opened session baseName ok.2⟩
    | _ => trivial

structure Section (state : State) (id : Nat) (call : Call) (move : Move Shared Call) : Prop where
  alone : move.started = none
  opened : ∀ (session : Nat) (name : String), state.shared.opened[session]? = some name → move.shared.opened[session]? = some name
  recovers : ∀ other holder, other ≠ id → state.calls.find other = some holder → ∀ baseName since,
    holder.recovers = some (baseName, since) → Recovers state.shared baseName since → Recovers move.shared baseName since
  shared : SharedOk move.shared
  own : CallOk move.shared move.call
  counted : recovering move.call + (if state.shared.logRecovering then 1 else 0) =
    recovering call + if move.shared.logRecovering then 1 else 0
  placed : ∀ session, stored move.shared session + holding session move.call + known state.shared session =
    stored state.shared session + holding session call + known move.shared session

variable (state : State) (id : Nat)

theorem inv_advance (call : Call) (move : Move Shared Call) (inv : LogInv state)
    (present : state.calls.find id = some call) (section_ : Section state id call move) : LogInv (state.advance id move) := by
  have idle (amount : Call → Nat) : ∀ child, move.started = some child → amount child = 0 := by
    intro child started
    rw [section_.alone] at started
    cases started
  refine ⟨numbered_advance state id move inv.numbered (inv.numbered id call present), ?_, ?_, ?_, ?_⟩
  · rw [advance_shared]
    exact section_.shared
  · rw [advance_shared]
    refine advance_every state id move (fun shared _ call => CallOk shared call) inv.calls section_.own ?_ ?_
    · intro other holder different found ok
      exact call_ok_later state.shared move.shared holder section_.opened (section_.recovers other holder different found) ok
    · intro child started
      rw [section_.alone] at started
      cases started
  · have moved := tally_advance recovering state id call move inv.numbered present (idle recovering)
    have change := section_.counted
    rw [advance_shared]
    rw [inv.counted] at moved
    omega
  · intro session
    have moved := tally_advance (holding session) state id call move inv.numbered present (idle (holding session))
    have change := section_.placed session
    have before := inv.placed session
    rw [advance_shared]
    omega

variable (call next : Call)

theorem section_quiet (inv : LogInv state) (own : CallOk state.shared next)
    (holds : next.holds = call.holds) (recovers : next.recovers = call.recovers) :
    Section state id call ⟨state.shared, next, none⟩ :=
  { alone := rfl
    opened := fun _ _ found => found
    recovers := fun _ _ _ _ _ _ _ fine => fine
    shared := inv.shared
    own := own
    counted := by rw [recovering, recovering, recovers]
    placed := fun session => by rw [holding, holding, holds] }

theorem section_close (session : Nat) (inv : LogInv state)
    (own : CallOk (state.shared.close session) next) (held : call.holds = some session) (empty : next.holds = none)
    (recovers : next.recovers = call.recovers) : Section state id call ⟨state.shared.close session, next, none⟩ :=
  { alone := rfl
    opened := fun _ _ found => found
    recovers := fun _ _ _ _ _ _ _ fine => fine
    shared := ⟨inv.shared.active, inv.shared.idle⟩
    own := own
    counted := by rw [recovering, recovering, recovers, Shared.close]
    placed := by
      intro other
      have same : known (state.shared.close session) other = known state.shared other := rfl
      simp only [stored_close, holding, held, empty, same, Option.some.injEq, reduceCtorEq, ↓reduceIte]
      omega }

theorem create_opened (shared : Shared) (baseName : String) (session : Nat) (name : String)
    (found : shared.opened[session]? = some name) : (shared.create baseName).opened[session]? = some name := by
  obtain ⟨inside, _⟩ := List.getElem?_eq_some_iff.mp found
  rw [Shared.create, List.getElem?_append_left inside, found]

theorem section_create (baseName : String) (inv : LogInv state)
    (own : CallOk (state.shared.create baseName) next) (empty : call.holds = none)
    (held : next.holds = some state.shared.opened.length) (recovers : next.recovers = call.recovers) :
    Section state id call ⟨state.shared.create baseName, next, none⟩ :=
  { alone := rfl
    opened := create_opened state.shared baseName
    recovers := fun _ _ _ _ _ _ _ fine => fine
    shared := by
      refine ⟨?_, inv.shared.idle⟩
      intro session stored
      obtain ⟨found, named, enabled⟩ := inv.shared.active session stored
      exact ⟨create_opened state.shared baseName session _ found, named, enabled⟩
    own := own
    counted := by rw [recovering, recovering, recovers, Shared.create]
    placed := by
      intro other
      have same : stored (state.shared.create baseName) other = stored state.shared other := rfl
      simp only [known_create, holding, held, empty, same, Option.some.injEq, reduceCtorEq, ↓reduceIte]
      omega }

theorem section_take (own : CallOk state.shared.take next)
    (empty : call.holds = none) (held : next.holds = state.shared.logSession) (free : call.recovers = none)
    (frees : next.recovers = none) : Section state id call ⟨state.shared.take, next, none⟩ :=
  { alone := rfl
    opened := fun _ _ found => found
    recovers := fun _ _ _ _ _ _ _ fine => ⟨fine.1, fun _ => .inl rfl⟩
    shared := ⟨nofun, fun _ _ => rfl⟩
    own := own
    counted := by rw [recovering, recovering, free, frees, Shared.take]
    placed := by
      intro other
      have same : known state.shared.take other = known state.shared other := rfl
      simp only [← stored_none state.shared state.shared.take other rfl rfl, holding, held, empty, same, reduceCtorEq,
        ↓reduceIte]
      omega }

theorem enable_section (fails : Bool) (baseName : String) (pc : EnablePc) (move : Move Shared Call)
    (inv : LogInv state) (present : state.calls.find id = some (.enableLog baseName pc))
    (orderly : Orderly state (.run id fails)) (taken : enableLog state.shared fails baseName pc = some move) :
    Section state id (.enableLog baseName pc) move := by
  cases pc with
  | checking =>
    simp only [enableLog] at taken
    split at taken
    · next same =>
        simp only [Bool.and_eq_true, Option.isSome_iff_exists, decide_eq_true_eq] at same
        obtain ⟨⟨session, stores⟩, rfl⟩ := same
        cases taken
        have active := inv.shared.active session stores
        have kept : ({ state.shared with enabled := some state.shared.logBaseName } : Shared) = state.shared := by
          rw [← active.2.2]
        rw [kept]
        exact section_quiet state id _ _ inv trivial rfl rfl
    · cases taken
      exact section_quiet state id _ _ inv trivial rfl rfl
  | asking =>
    cases taken
    cases state.shared.logSession.isSome <;> exact section_quiet state id _ _ inv trivial rfl rfl
  | taking =>
    cases stores : state.shared.logSession with
    | none | some session =>
      simp only [enableLog, stores] at taken
      cases taken
      exact section_take state id _ _ trivial rfl stores.symm rfl rfl
  | closing session =>
    cases taken
    cases fails <;> exact section_close state id _ _ session inv trivial rfl rfl rfl
  | opening =>
    cases fails with
    | true =>
      cases taken
      exact section_quiet state id _ _ inv trivial rfl rfl
    | false =>
      cases taken
      refine section_create state id _ _ baseName inv ?_ rfl rfl rfl
      simp [CallOk, Shared.create]
  | storing session =>
    cases taken
    have opened : state.shared.opened[session]? = some baseName := inv.calls id _ present
    obtain ⟨named, empty⟩ : baseName ≠ "" ∧ state.shared.logSession = none := orderly _ present
    refine
      { alone := rfl
        opened := fun _ _ found => found
        recovers := fun _ _ _ _ _ _ _ fine => ⟨fine.1, nofun⟩
        shared := ⟨?_, nofun⟩
        own := trivial
        counted := rfl
        placed := ?_ }
    · intro other same
      cases same
      exact ⟨opened, named, rfl⟩
    · intro other
      simp only [stored, holding, known, Call.holds, empty, Option.some.injEq, reduceCtorEq, ↓reduceIte]
      omega
  | returned => cases taken
  | threw => cases taken

theorem disable_section (fails : Bool) (pc : DisablePc) (move : Move Shared Call)
    (inv : LogInv state) (taken : disableLog state.shared fails pc = some move) :
    Section state id (.disableLog pc) move := by
  cases pc with
  | taking =>
    cases stores : state.shared.logSession with
    | none | some session =>
      simp only [disableLog, stores] at taken
      cases taken
      exact section_take state id _ _ trivial rfl stores.symm rfl rfl
  | closing session =>
    cases taken
    cases fails <;> exact section_close state id _ _ session inv trivial rfl rfl rfl
  | returned => cases taken
  | threw => cases taken

variable (context : Context)

theorem entering_section (inv : LogInv state)
    (free : state.shared.logRecovering = false) (named : state.shared.logBaseName ≠ "") :
    Section state id (.record context .entering)
      ⟨{ state.shared with logRecovering := true, logSession := none },
        .record context (.closing state.shared.logBaseName state.shared.enables state.shared.logSession), none⟩ := by
  have alone : ∀ other holder, state.calls.find other = some holder → holder.recovers = none := by
    intro other holder found
    cases recovers : holder.recovers with
    | none => rfl
    | some entry => exact absurd (recovering_counted state inv other holder found (by simp [recovers])) (by simp [free])
  obtain ⟨session, stores⟩ : ∃ session, state.shared.logSession = some session :=
    Option.ne_none_iff_exists'.mp fun absent => named (inv.shared.idle free absent)
  refine
    { alone := rfl
      opened := fun _ _ found => found
      recovers := ?_
      shared := ⟨nofun, nofun⟩
      own := ⟨named, fun _ => .inr ⟨rfl, (inv.shared.active session stores).2.2, rfl⟩⟩
      counted := by simp [recovering, Call.recovers, free]
      placed := ?_ }
  · intro other holder _ found baseName since recovers
    exact absurd ((alone other holder found).symm.trans recovers) nofun
  · intro other
    have taken : stored { state.shared with logRecovering := true, logSession := none } other +
        holding other (.record context (.closing state.shared.logBaseName state.shared.enables state.shared.logSession)) =
          stored state.shared other := stored_none state.shared _ other rfl rfl
    exact congrArg (fun place => place + known state.shared other) taken

theorem retrying_section (baseName : String) (since : Nat) (inv : LogInv state)
    (present : state.calls.find id = some (.record context (.retrying baseName since)))
    (empty : state.shared.logSession = none) :
    Section state id (.record context (.retrying baseName since))
      ⟨{ state.shared with logBaseName := "", logRecovering := false }, .record context .done, none⟩ :=
  { alone := rfl
    opened := fun _ _ found => found
    recovers := fun _ _ _ _ _ _ _ fine => ⟨fine.1, fun _ => .inl rfl⟩
    shared := ⟨fun session stores => absurd (empty.symm.trans stores) nofun, fun _ _ => rfl⟩
    own := trivial
    counted := by simp [recovering, Call.recovers, recovering_counted state inv id _ present rfl]
    placed := fun _ => rfl }

theorem storing_section (baseName : String) (since session : Nat)
    (inv : LogInv state) (present : state.calls.find id = some (.record context (.storing baseName since session)))
    (same : state.shared.logBaseName = baseName) (empty : state.shared.logSession = none) :
    Section state id (.record context (.storing baseName since session))
      ⟨{ state.shared with logSession := some session, logRecovering := false }, .record context context.recovered, none⟩ := by
  obtain ⟨⟨named, fresh⟩, opened⟩ : Recovers state.shared baseName since ∧ state.shared.opened[session]? = some baseName :=
    inv.calls id _ present
  have spent : recovering (.record context context.recovered) = 0 := by cases context <;> rfl
  have begun : recovering (.record context (.storing baseName since session)) = 1 := rfl
  have emptied : (Call.record context context.recovered).holds = none := by cases context <;> rfl
  refine
    { alone := rfl
      opened := fun _ _ found => found
      recovers := fun _ _ _ _ _ _ _ fine => ⟨fine.1, nofun⟩
      shared := ⟨?_, nofun⟩
      own := by cases context <;> trivial
      counted := by simp [spent, begun, recovering_counted state inv id _ present rfl]
      placed := ?_ }
  · intro other stores
    cases stores
    rcases fresh empty with unnamed | ⟨_, enabled, _⟩
    · exact absurd (same.symm.trans unnamed) named
    · exact ⟨opened.trans (congrArg some same.symm), fun unnamed => named (same.symm.trans unnamed),
        enabled.trans (congrArg some same.symm)⟩
  · intro other
    have held : (Call.record context (.storing baseName since session)).holds = some session := rfl
    simp only [stored, holding, known, emptied, held, empty, Option.some.injEq, reduceCtorEq, ↓reduceIte]
    omega

theorem record_section (fails : Bool) (context : Context) (pc : RecordPc) (move : Move Shared Call)
    (inv : LogInv state) (present : state.calls.find id = some (.record context pc))
    (orderly : Orderly state (.run id fails)) (taken : record state.shared fails context pc = some move) :
    Section state id (.record context pc) move := by
  have fine := inv.calls id _ present
  have neat := orderly _ present
  cases pc with
  | reading =>
    simp only [record] at taken
    split at taken <;> cases taken <;> exact section_quiet state id _ _ inv trivial rfl rfl
  | judging session =>
    cases fails with
    | true =>
      cases taken
      exact section_quiet state id _ _ inv trivial rfl rfl
    | false => cases context <;> cases taken <;> exact section_quiet state id _ _ inv trivial rfl rfl
  | counting =>
    simp only [record] at taken
    split at taken <;> cases taken <;>
      exact
        { alone := rfl
          opened := fun _ _ found => found
          recovers := fun _ _ _ _ _ _ _ fine => fine
          shared := ⟨inv.shared.active, inv.shared.idle⟩
          own := trivial
          counted := rfl
          placed := fun _ => rfl }
  | entering =>
    simp only [record] at taken
    split at taken
    · cases taken
      exact section_quiet state id _ _ inv trivial rfl rfl
    · next begins =>
        cases taken
        simp only [Bool.or_eq_true, decide_eq_true_eq, not_or, Bool.not_eq_true] at begins
        exact entering_section state id context inv begins.1 begins.2
  | closing baseName since oldSession =>
    cases oldSession with
    | none => cases taken
    | some session =>
      cases taken
      exact section_close state id _ _ session inv fine rfl rfl rfl
  | retrying baseName since =>
    simp only [record] at taken
    split at taken
    · next spent =>
        cases taken
        exact retrying_section state id context baseName since inv present (neat spent)
    · cases taken
      exact
        { alone := rfl
          opened := fun _ _ found => found
          recovers := fun _ _ _ _ _ _ _ fine => fine
          shared := ⟨inv.shared.active, inv.shared.idle⟩
          own := fine
          counted := rfl
          placed := fun _ => rfl }
  | opening baseName since =>
    cases fails with
    | true =>
      cases taken
      exact section_quiet state id _ _ inv fine rfl rfl
    | false =>
      cases taken
      refine section_create state id _ _ baseName inv ⟨fine, ?_⟩ rfl rfl rfl
      simp [Shared.create]
  | storing baseName since session =>
    simp only [record, if_neg (not_not.mpr neat.1)] at taken
    cases taken
    exact storing_section state id context baseName since session inv present neat.1 neat.2
  | done => cases taken

theorem inv_start (call : Call) (inv : LogInv state) (ok : CallOk state.shared call)
    (empty : call.holds = none) (free : call.recovers = none) : LogInv (state.start call) := by
  refine ⟨numbered_start state call inv.numbered, inv.shared, ?_, ?_, ?_⟩
  · intro id found present
    rw [find_start] at present
    by_cases same : id = state.nextCall
    · rw [if_pos same] at present
      exact Option.some.inj present ▸ ok
    · rw [if_neg same] at present
      exact inv.calls id found present
  · rw [tally_start recovering state call inv.numbered, inv.counted, recovering, free]
    rfl
  · intro session
    rw [tally_start (holding session) state call inv.numbered, holding, empty]
    exact inv.placed session

theorem inv_step (state next : State) (action : Action) (inv : LogInv state) (orderly : Orderly state action)
    (taken : step state action = some next) : LogInv next := by
  cases action with
  | enableLog baseName | disableLog | record context =>
    cases taken
    exact inv_start state _ inv trivial rfl rfl
  | run id fails =>
    cases found : state.calls.find id with
    | none => simp [step, found] at taken
    | some call =>
      simp only [step, found] at taken
      obtain ⟨move, ran, made⟩ := Option.map_eq_some_iff.mp taken
      rw [← made]
      refine inv_advance state id call move inv found ?_
      cases call with
      | enableLog baseName pc => exact enable_section state id fails baseName pc move inv found orderly ran
      | disableLog pc => exact disable_section state id fails pc move inv ran
      | record context pc => exact record_section state id fails context pc move inv found orderly ran

theorem log_inv (reached : ReachableWith system Orderly state) : LogInv state := by
  refine reachable_invariant system Orderly LogInv ?_ ?_ state reached
  · rintro state rfl
    refine ⟨?_, ⟨nofun, fun _ _ => rfl⟩, ?_, ?_, ?_⟩
    · intro id call present
      simp at present
    · intro id call present
      simp at present
    · exact tally_zero recovering _ (by simp)
    · intro session
      rw [tally_zero (holding session) _ (by simp)]
      simp [stored, known]
  · intro state action next inv orderly taken
    exact inv_step state next action inv orderly taken

structure Lifecycle (state : State) : Prop where
  named : (∀ id call, state.calls.find id = some call → call.recovers = none) →
    (state.shared.logSession.isSome ↔ state.shared.logBaseName ≠ "")
  latest : ∀ session, state.shared.logSession = some session →
    state.shared.opened[session]? = some state.shared.logBaseName ∧ state.shared.enabled = some state.shared.logBaseName
  once : ∀ session, session < state.shared.opened.length →
    (if state.shared.logSession = some session then 1 else 0) + state.tally (holding session) +
      state.shared.closed.count session = 1

theorem inv_lifecycle (inv : LogInv state) : Lifecycle state := by
  refine ⟨?_, ?_, ?_⟩
  · intro alone
    have nobody : state.tally recovering = 0 :=
      tally_zero recovering state fun id call found => by rw [recovering, alone id call found]; rfl
    have free : state.shared.logRecovering = false := by
      have counted := inv.counted
      rw [nobody] at counted
      by_contra flag
      rw [if_pos (Bool.not_eq_false _ ▸ flag)] at counted
      omega
    constructor
    · intro stores
      obtain ⟨session, found⟩ := Option.isSome_iff_exists.mp stores
      exact (inv.shared.active session found).2.1
    · intro named
      cases stores : state.shared.logSession with
      | none => exact absurd (inv.shared.idle free stores) named
      | some session => rfl
  · intro session stores
    exact ⟨(inv.shared.active session stores).1, (inv.shared.active session stores).2.2⟩
  · intro session inside
    have placed := inv.placed session
    rw [stored, known, if_pos inside] at placed
    omega

theorem recovery_erases (state next : State) (id : Nat) (fails : Bool) (call : Call) (baseName : String) (since : Nat)
    (inv : LogInv state) (orderly : Orderly state (.run id fails)) (present : state.calls.find id = some call)
    (recovers : call.recovers = some (baseName, since)) (taken : step state (.run id fails) = some next)
    (erased : next.shared.logBaseName ≠ state.shared.logBaseName) :
    state.shared.logBaseName = baseName ∧ state.shared.enables = since := by
  have fine := inv.calls id call present
  have neat := orderly call present
  simp only [step, present] at taken
  obtain ⟨move, ran, made⟩ := Option.map_eq_some_iff.mp taken
  rw [← made, advance_shared] at erased
  cases call with
  | enableLog base pc => cases recovers
  | disableLog pc => cases recovers
  | record context pc =>
    cases pc with
    | closing base begun oldSession =>
      cases oldSession with
      | none => cases ran
      | some session =>
        cases ran
        exact absurd rfl erased
    | retrying base begun =>
      cases recovers
      simp only [run, record] at ran
      split at ran
      · next spent =>
          cases ran
          rcases fine.2 (neat spent) with unnamed | ⟨same, _, unchanged⟩
          · exact absurd unnamed.symm erased
          · exact ⟨same, unchanged⟩
      · cases ran
        exact absurd rfl erased
    | opening base begun =>
      cases fails <;> cases ran <;> exact absurd rfl erased
    | storing base begun session =>
      simp only [run, record] at ran
      split at ran <;> cases ran <;> exact absurd rfl erased
    | _ => cases recovers

theorem log_lifecycle (state : State) (reached : ReachableWith system Orderly state) :
    Lifecycle state ∧
      ∀ id fails next call baseName since, Orderly state (.run id fails) → step state (.run id fails) = some next →
        state.calls.find id = some call → call.recovers = some (baseName, since) →
          next.shared.logBaseName ≠ state.shared.logBaseName →
            state.shared.logBaseName = baseName ∧ state.shared.enables = since := by
  have inv := log_inv state reached
  refine ⟨inv_lifecycle state inv, ?_⟩
  intro id fails next call baseName since orderly taken present recovers erased
  exact recovery_erases state next id fails call baseName since inv orderly present recovers taken erased

instance (shared : Shared) (call : Call) : Decidable (Neat shared call) := by
  rcases call with ⟨_, pc⟩ | pc | ⟨_, pc⟩ <;> cases pc <;> unfold Neat <;> infer_instance

instance (state : State) (action : Action) : Decidable (Orderly state action) := by
  cases action <;> unfold Orderly
  case run id fails => exact inferInstanceAs (Decidable (∀ call ∈ state.calls.find id, Neat state.shared call))
  all_goals infer_instance

def closedLog : State := ⟨{}, ∅, 0⟩

def recovery : List Action :=
  [.enableLog "a", .run 0 false, .run 0 false, .run 0 false, .run 0 false, .record .command, .run 1 false, .run 1 true,
    .run 1 false]

def exhausted : List Action := recovery ++ [.run 1 false, .run 1 false, .run 1 true, .run 1 false, .run 1 true, .run 1 false, .run 1 true]

theorem log_lifecycle_gives_up :
    ∃ state, ReachableWith system Orderly state ∧ Lifecycle state ∧ state.shared.logBaseName = "a" ∧
      state.shared.enables = 1 ∧ ∃ next, step state (.run 1 false) = some next ∧ next.shared.logBaseName = "" := by
  obtain ⟨state, reached, facts⟩ := run_checked_found system Orderly (fun state action => decide (Orderly state action))
    (fun _ _ checked => of_decide_eq_true checked) exhausted closedLog (.start closedLog rfl)
    (fun state => state.shared.logBaseName = "a" ∧ state.calls.find 1 = some (.record .command (.retrying "a" 1)) ∧
      Orderly state (.run 1 false) ∧ (step state (.run 1 false)).any fun next => next.shared.logBaseName = "")
    (by decide +kernel)
  simp only [decide_eq_true_eq, Option.any_eq_true] at facts
  obtain ⟨named, found, orderly, next, taken, emptied⟩ := facts
  obtain ⟨lifecycle, erases⟩ := log_lifecycle state reached
  have erased := erases 1 false next _ "a" 1 orderly taken found rfl (by rw [named, emptied]; decide)
  exact ⟨state, reached, lifecycle, named, erased.2, next, taken, emptied⟩

-- EnableLog("b") finds no session while the recovery of "a" goes on, and stores
-- its own; the recovery then finds another name than its own and clears it.
def erased : List Action :=
  recovery ++ [.run 1 false, .enableLog "b", .run 2 false, .run 2 false, .run 2 false, .run 2 false, .run 1 false]

def dropped : List Action := recovery ++ [.run 1 false, .run 1 false, .run 1 false, .disableLog, .run 2 false, .run 1 false]

def overwritten : List Action :=
  [.enableLog "a", .enableLog "b", .run 0 false, .run 1 false, .run 0 false, .run 1 false, .run 0 false, .run 1 false,
    .run 0 false, .run 1 false]

abbrev Lost (state : State) (session : Nat) : Prop :=
  (if state.shared.logSession = some session then 1 else 0) + state.tally (holding session) +
    state.shared.closed.count session = 0

theorem lost_session (session : Nat) (inside : session < state.shared.opened.length)
    (lost : Lost state session) : ¬ Lifecycle state := by
  intro lifecycle
  have placed := lifecycle.once session inside
  exact absurd (placed.symm.trans lost) Nat.one_ne_zero

theorem nameless_session (stores : state.shared.logSession.isSome) (unnamed : state.shared.logBaseName = "")
    (nobody : state.tally recovering = 0) : ¬ Lifecycle state := by
  intro lifecycle
  have alone : ∀ id call, state.calls.find id = some call → call.recovers = none := by
    intro id call found
    have bound := amount_le_tally recovering state id call found
    cases recovers : call.recovers with
    | none => rfl
    | some entry => simp [recovering, recovers, nobody] at bound
  exact (lifecycle.named alone).mp stores unnamed

/-- A session lost, or one without a name. -/
theorem log_lifecycle_broken :
    (∃ state, Reachable system state ∧ state.shared.enabled = some "b" ∧ ¬ Lifecycle state) ∧
      (∃ state, Reachable system state ∧ state.shared.closed = [0] ∧ ¬ Lifecycle state) ∧
      ∃ state, Reachable system state ∧ state.shared.closed = [] ∧ ¬ Lifecycle state := by
  refine ⟨?_, ?_, ?_⟩
  · obtain ⟨state, reached, facts⟩ := run_actions_found system erased closedLog (.start closedLog rfl)
      (fun state => state.shared.enabled = some "b" ∧ state.shared.logSession.isSome ∧ state.shared.logBaseName = "" ∧
        state.tally recovering = 0) (by decide +kernel)
    obtain ⟨enabled, stores, unnamed, nobody⟩ := of_decide_eq_true facts
    exact ⟨state, reached, enabled, nameless_session state stores unnamed nobody⟩
  · obtain ⟨state, reached, facts⟩ := run_actions_found system dropped closedLog (.start closedLog rfl)
      (fun state => state.shared.closed = [0] ∧ 1 < state.shared.opened.length ∧ Lost state 1) (by decide +kernel)
    obtain ⟨closed, inside, lost⟩ := of_decide_eq_true facts
    exact ⟨state, reached, closed, lost_session state 1 inside lost⟩
  · obtain ⟨state, reached, facts⟩ := run_actions_found system overwritten closedLog (.start closedLog rfl)
      (fun state => state.shared.closed = [] ∧ 0 < state.shared.opened.length ∧ Lost state 0) (by decide +kernel)
    obtain ⟨closed, inside, lost⟩ := of_decide_eq_true facts
    exact ⟨state, reached, closed, lost_session state 0 inside lost⟩

end EncosDriver.Motor.Log
