import EncosDriver.Lib.History
import Mathlib.Data.List.Induction
import Mathlib.Data.List.Nodup

set_option autoImplicit false

namespace EncosDriver.Ethernet

open Lib

abbrev HeartbeatKey := UInt32 × UInt32

structure ManagementHeartbeat where
  lastReport : Int
  online : Bool := true
  recent : List HeartbeatKey := []
deriving DecidableEq, Repr

namespace ManagementHeartbeat

def kTimeout : Int := 500000000

def kRecentLength : Nat := 64

def report (heartbeat : ManagementHeartbeat) (key : HeartbeatKey) (now : Int) : Bool × ManagementHeartbeat :=
  if key ∈ heartbeat.recent then (false, heartbeat)
  else
    let recent := heartbeat.recent ++ [key]
    (true, ⟨now, true, if kRecentLength < recent.length then recent.tail else recent⟩)

def checkTimeout (heartbeat : ManagementHeartbeat) (now : Int) : Bool × ManagementHeartbeat :=
  if heartbeat.online = true ∧ kTimeout ≤ now - heartbeat.lastReport then (true, { heartbeat with online := false })
  else (false, heartbeat)

inductive Operation where
  | report (key : HeartbeatKey) (now : Int)
  | checkTimeout (now : Int)
deriving DecidableEq, Repr

def step (heartbeat : ManagementHeartbeat) : Operation → Bool × ManagementHeartbeat
  | .report key now => heartbeat.report key now
  | .checkTimeout now => heartbeat.checkTimeout now

def run (start : Int) (operations : List Operation) : ManagementHeartbeat :=
  operations.foldl (fun heartbeat operation => (heartbeat.step operation).2) ⟨start, true, []⟩

def accept (accepted : List (HeartbeatKey × Int)) : Operation → List (HeartbeatKey × Int)
  | .report key now => if key ∈ newest kRecentLength (accepted.map Prod.fst) then accepted else accepted ++ [(key, now)]
  | .checkTimeout _ => accepted

def acceptedOf (operations : List Operation) : List (HeartbeatKey × Int) := operations.foldl accept []

def lastAccepted (start : Int) (operations : List Operation) : Int :=
  match (acceptedOf operations).getLast? with
  | some heartbeat => heartbeat.2
  | none => start

variable (start : Int) (operations : List Operation)

theorem run_append (operation : Operation) :
    run start (operations ++ [operation]) = ((run start operations).step operation).2 := by
  rw [run, List.foldl_append]
  rfl

theorem accepted_append (operation : Operation) :
    acceptedOf (operations ++ [operation]) = accept (acceptedOf operations) operation := by
  rw [acceptedOf, List.foldl_append]
  rfl

structure Follows (start : Int) (operations : List Operation) (heartbeat : ManagementHeartbeat) : Prop where
  recent : heartbeat.recent = newest kRecentLength ((acceptedOf operations).map Prod.fst)
  distinct : heartbeat.recent.Nodup
  deadline : heartbeat.lastReport = lastAccepted start operations

theorem report_follows (start now : Int) (operations : List Operation) (heartbeat : ManagementHeartbeat) (key : HeartbeatKey)
    (follows : Follows start operations heartbeat) :
    Follows start (operations ++ [.report key now]) (heartbeat.report key now).2 := by
  have appended := accepted_append operations (.report key now)
  by_cases seen : key ∈ heartbeat.recent
  · have same : acceptedOf (operations ++ [.report key now]) = acceptedOf operations := by
      rw [appended, accept, ← follows.recent, if_pos seen]
    rw [report, if_pos seen]
    exact ⟨by rw [same]; exact follows.recent, follows.distinct, by rw [lastAccepted, same]; exact follows.deadline⟩
  · have grown : acceptedOf (operations ++ [.report key now]) = acceptedOf operations ++ [(key, now)] := by
      rw [appended, accept, ← follows.recent, if_neg seen]
    have recent : (heartbeat.report key now).2.recent = newest kRecentLength ((acceptedOf operations).map Prod.fst ++ [key]) := by
      rw [report, if_neg seen, ← newest_push, ← follows.recent]
    refine ⟨?_, ?_, ?_⟩
    · rw [recent, grown, List.map_append, List.map_singleton]
    · rw [recent, ← newest_append_left, ← follows.recent]
      refine (newest_suffix _ _).sublist.nodup ?_
      refine List.nodup_append.mpr ⟨follows.distinct, List.nodup_singleton key, ?_⟩
      rintro other inside last new rfl
      exact seen (List.mem_singleton.mp new ▸ inside)
    · rw [report, if_neg seen, lastAccepted, grown, List.getLast?_concat]

theorem check_timeout_follows (start now : Int) (operations : List Operation) (heartbeat : ManagementHeartbeat)
    (follows : Follows start operations heartbeat) :
    Follows start (operations ++ [.checkTimeout now]) (heartbeat.checkTimeout now).2 := by
  have same : acceptedOf (operations ++ [.checkTimeout now]) = acceptedOf operations := accepted_append _ _
  have kept : (heartbeat.checkTimeout now).2.recent = heartbeat.recent ∧
      (heartbeat.checkTimeout now).2.lastReport = heartbeat.lastReport := by
    unfold checkTimeout
    split <;> exact ⟨rfl, rfl⟩
  refine ⟨?_, ?_, ?_⟩
  · rw [kept.1, same]
    exact follows.recent
  · rw [kept.1]
    exact follows.distinct
  · rw [kept.2, lastAccepted, same]
    exact follows.deadline

theorem run_follows : Follows start operations (run start operations) := by
  induction operations using List.reverseRecOn with
  | nil => exact ⟨rfl, List.nodup_nil, rfl⟩
  | append_singleton operations operation ih =>
    rw [run_append]
    cases operation with
    | report key now => exact report_follows start now operations _ key ih
    | checkTimeout now => exact check_timeout_follows start now operations _ ih

theorem accepted_prefix (operations later : List Operation) : acceptedOf operations <+: acceptedOf (operations ++ later) := by
  induction later using List.reverseRecOn with
  | nil => exact ⟨[], by rw [List.append_nil, List.append_nil]⟩
  | append_singleton later operation ih =>
    rw [← List.append_assoc, accepted_append]
    refine ih.trans ?_
    cases operation with
    | report key now =>
      by_cases seen : key ∈ newest kRecentLength ((acceptedOf (operations ++ later)).map Prod.fst)
      · exact ⟨[], by rw [accept, if_pos seen, List.append_nil]⟩
      · rw [accept, if_neg seen]
        exact List.prefix_append _ _
    | checkTimeout now => exact List.prefix_rfl

theorem run_offline (operations later : List Operation) (offline : (run start operations).online = false)
    (none : acceptedOf (operations ++ later) = acceptedOf operations) : (run start (operations ++ later)).online = false := by
  induction later using List.reverseRecOn with
  | nil => rwa [List.append_nil]
  | append_singleton later operation ih =>
    rw [← List.append_assoc] at none ⊢
    have before := accepted_prefix operations later
    have after := accepted_prefix (operations ++ later) [operation]
    rw [none] at after
    have same : acceptedOf (operations ++ later) = acceptedOf operations := after.eq_of_length_le before.length_le
    have still := ih same
    have follows := run_follows start (operations ++ later)
    rw [run_append]
    cases operation with
    | report key now =>
      rw [accepted_append, same, accept, ← same, ← follows.recent] at none
      split at none
      · next seen => rwa [step, report, if_pos seen]
      · exact absurd (congrArg List.length none) (by simp)
    | checkTimeout now => rwa [step, checkTimeout, still, if_neg (fun both => by cases both.1)]

structure FilterLaw (start : Int) (operations : List Operation) (heartbeat : ManagementHeartbeat) : Prop where
  distinct : heartbeat.recent.Nodup
  bounded : heartbeat.recent.length ≤ 64
  remembered : heartbeat.recent = newest 64 ((acceptedOf operations).map Prod.fst)
  repeated : ∀ key now, key ∈ heartbeat.recent → heartbeat.report key now = (false, heartbeat)
  fresh : ∀ key now, key ∉ heartbeat.recent →
    (heartbeat.report key now).1 = true ∧ (heartbeat.report key now).2.lastReport = now ∧ (heartbeat.report key now).2.online = true
  interval : ∀ now, (heartbeat.checkTimeout now).1 = true → lastAccepted start operations + kTimeout ≤ now
  once : ∀ now later moment, (heartbeat.checkTimeout now).1 = true →
    acceptedOf (operations ++ .checkTimeout now :: later) = acceptedOf operations →
      ((run start (operations ++ .checkTimeout now :: later)).checkTimeout moment).1 = false

theorem heartbeat_filter : FilterLaw start operations (run start operations) := by
  have follows := run_follows start operations
  refine ⟨follows.distinct, ?_, follows.recent, ?_, ?_, ?_, ?_⟩
  · rw [follows.recent, newest_length]
    exact Nat.min_le_left _ _
  · intro key now seen
    rw [report, if_pos seen]
  · intro key now unseen
    rw [report, if_neg unseen]
    exact ⟨rfl, rfl, rfl⟩
  · intro now fired
    unfold checkTimeout at fired
    split at fired
    · next silent =>
      rw [← follows.deadline]
      have waited := silent.2
      omega
    · cases fired
  · intro now later moment fired none
    have offline : (run start (operations ++ [.checkTimeout now])).online = false := by
      rw [run_append, step]
      unfold checkTimeout at fired ⊢
      split at fired
      · next silent => rw [if_pos silent]
      · cases fired
    rw [List.append_cons] at none ⊢
    have still := run_offline start (operations ++ [.checkTimeout now]) later offline (by rw [none, accepted_append]; rfl)
    rw [checkTimeout, still, if_neg (fun both => by cases both.1)]

end ManagementHeartbeat

end EncosDriver.Ethernet
