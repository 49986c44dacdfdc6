import EncosDriver.Lib.Calls
import EncosDriver.Lib.System

set_option autoImplicit false

namespace EncosDriver.Motor.Log

open Lib

inductive EnablePc where
  | checking
  | asking
  | taking
  | closing (session : Nat)
  | opening
  | storing (session : Nat)
  | returned
  | threw
deriving DecidableEq, Repr

inductive DisablePc where
  | taking
  | closing (session : Nat)
  | returned
  | threw
deriving DecidableEq, Repr

inductive Context where
  | command
  | status
deriving DecidableEq, Repr

-- The sections of a record and, from `entering` on, of the RecoverLogSession
-- that it calls. `since` is a record of how often a name had been set when the
-- recovery took its session.
inductive RecordPc where
  | reading
  | judging (session : Nat)
  | counting
  | entering
  | closing (baseName : String) (since : Nat) (oldSession : Option Nat)
  | retrying (baseName : String) (since : Nat)
  | opening (baseName : String) (since : Nat)
  | storing (baseName : String) (since : Nat) (session : Nat)
  | done
deriving DecidableEq, Repr

inductive Call where
  | enableLog (baseName : String) (pc : EnablePc)
  | disableLog (pc : DisablePc)
  | record (context : Context) (pc : RecordPc)
deriving DecidableEq, Repr

-- The fields under the log mutex. A session is named by its place among the
-- opened ones; `opened`, `closed`, `enabled` (the name of the last EnableLog
-- that no DisableLog follows) and `enables` are records.
structure Shared where
  logSession : Option Nat := none
  logBaseName : String := ""
  logRetryBudget : Int := 3
  logSuccessCount : Nat := 0
  logRecovering : Bool := false
  opened : List String := []
  closed : List Nat := []
  enabled : Option String := none
  enables : Nat := 0
deriving DecidableEq, Repr

abbrev Moved := Option (Move Shared Call)

def moved (shared : Shared) (call : Call) : Moved := some ⟨shared, call, none⟩

def Shared.create (shared : Shared) (baseName : String) : Shared := { shared with opened := shared.opened ++ [baseName] }

def Shared.close (shared : Shared) (session : Nat) : Shared := { shared with closed := shared.closed ++ [session] }

def Shared.take (shared : Shared) : Shared := { shared with logSession := none, logBaseName := "", enabled := none }

def enableLog (shared : Shared) (fails : Bool) (baseName : String) : EnablePc → Moved
  | .checking =>
    if shared.logSession.isSome && shared.logBaseName = baseName then
      moved { shared with enabled := some baseName } (.enableLog baseName .returned)
    else moved shared (.enableLog baseName .asking)
  | .asking => moved shared (.enableLog baseName (if shared.logSession.isSome then .taking else .opening))
  | .taking =>
    match shared.logSession with
    | none => moved shared.take (.enableLog baseName .opening)
    | some session => moved shared.take (.enableLog baseName (.closing session))
  | .closing session => moved (shared.close session) (.enableLog baseName (if fails then .threw else .opening))
  | .opening =>
    if fails then moved shared (.enableLog baseName .threw)
    else moved (shared.create baseName) (.enableLog baseName (.storing shared.opened.length))
  | .storing session =>
    moved
      { shared with
        logSession := some session
        logBaseName := baseName
        enabled := some baseName
        enables := shared.enables + 1 }
      (.enableLog baseName .returned)
  | .returned => none
  | .threw => none

def disableLog (shared : Shared) (fails : Bool) : DisablePc → Moved
  | .taking =>
    match shared.logSession with
    | none => moved shared.take (.disableLog .returned)
    | some session => moved shared.take (.disableLog (.closing session))
  | .closing session => moved (shared.close session) (.disableLog (if fails then .threw else .returned))
  | .returned => none
  | .threw => none

def Context.recovered : Context → RecordPc
  | .command => .reading
  | .status => .done

def record (shared : Shared) (fails : Bool) (context : Context) : RecordPc → Moved
  | .reading =>
    match shared.logSession with
    | none => moved shared (.record context .done)
    | some session => moved shared (.record context (.judging session))
  | .judging _ =>
    if fails then moved shared (.record context .entering)
    else
      match context with
      | .command => moved shared (.record context .counting)
      | .status => moved shared (.record context .done)
  | .counting =>
    if shared.logSuccessCount + 1 ≥ 10 then
      moved { shared with logRetryBudget := 3, logSuccessCount := 0 } (.record context .done)
    else moved { shared with logSuccessCount := shared.logSuccessCount + 1 } (.record context .done)
  | .entering =>
    if shared.logRecovering || shared.logBaseName = "" then moved shared (.record context .done)
    else
      moved { shared with logRecovering := true, logSession := none }
        (.record context (.closing shared.logBaseName shared.enables shared.logSession))
  | .closing _ _ none => none
  | .closing baseName since (some session) => moved (shared.close session) (.record context (.retrying baseName since))
  | .retrying baseName since =>
    if shared.logBaseName ≠ baseName ∨ shared.logRetryBudget ≤ 0 then
      moved { shared with logBaseName := "", logRecovering := false } (.record context .done)
    else moved { shared with logRetryBudget := shared.logRetryBudget - 1 } (.record context (.opening baseName since))
  | .opening baseName since =>
    if fails then moved shared (.record context (.retrying baseName since))
    else moved (shared.create baseName) (.record context (.storing baseName since shared.opened.length))
  | .storing baseName _ session =>
    if shared.logBaseName ≠ baseName then moved { shared with logRecovering := false } (.record context .done)
    else moved { shared with logSession := some session, logRecovering := false } (.record context context.recovered)
  | .done => none

def run (shared : Shared) (fails : Bool) : Call → Moved
  | .enableLog baseName pc => enableLog shared fails baseName pc
  | .disableLog pc => disableLog shared fails pc
  | .record context pc => record shared fails context pc

inductive Action where
  | enableLog (baseName : String)
  | disableLog
  | record (context : Context)
  | run (id : Nat) (fails : Bool)
deriving DecidableEq, Repr

abbrev State := World Shared Call

def step (state : State) : Action → Option State
  | .enableLog baseName => some (state.start (.enableLog baseName .checking))
  | .disableLog => some (state.start (.disableLog .taking))
  | .record context => some (state.start (.record context .reading))
  | .run id fails =>
    match state.calls.find id with
    | none => none
    | some call => (run state.shared fails call).map fun move => state.advance id move

def system : System State Action where
  init := fun state => state = ⟨{}, ∅, 0⟩
  step := step

end EncosDriver.Motor.Log
