import Mathlib.Data.List.Perm.Basic
import Mathlib.Data.List.Nodup

set_option autoImplicit false

namespace EncosDriver.Lib

inductive Completion where
  | value
  | exception (text : String)
deriving DecidableEq, Repr

inductive Ended where
  | returned
  | threw (text : String)
deriving DecidableEq, Repr

-- Requests that wait for one server. Each has a promise, named by a ticket; the
-- server takes the oldest request, serves it with some outcome and answers it,
-- and a stop answers all that still wait. `accepted`, `left`, `taken`, `served`
-- and `answered` are histories.
structure RequestQueue (Request Outcome Answer : Type) where
  pending : List (Nat × Request) := []
  serving : Option (Nat × Request) := none
  accepted : List (Nat × Request) := []
  left : List (Nat × Request) := []
  taken : List (Nat × Request) := []
  served : List ((Nat × Request) × Outcome) := []
  answered : List (Nat × Answer) := []

namespace RequestQueue

variable {Request Outcome Answer : Type}

def push (queue : RequestQueue Request Outcome Answer) (ticket : Nat) (request : Request) :
    RequestQueue Request Outcome Answer :=
  { queue with pending := queue.pending ++ [(ticket, request)], accepted := queue.accepted ++ [(ticket, request)] }

def take (queue : RequestQueue Request Outcome Answer) : RequestQueue Request Outcome Answer :=
  match queue.pending with
  | [] => queue
  | front :: rest =>
    { queue with
      pending := rest
      serving := some front
      left := queue.left ++ [front]
      taken := queue.taken ++ [front] }

def answer (queue : RequestQueue Request Outcome Answer) (outcome : Outcome) (value : Answer) :
    RequestQueue Request Outcome Answer :=
  match queue.serving with
  | none => queue
  | some front =>
    { queue with
      serving := none
      served := queue.served ++ [(front, outcome)]
      answered := queue.answered ++ [(front.1, value)] }

def failAll (queue : RequestQueue Request Outcome Answer) (value : Answer) : RequestQueue Request Outcome Answer :=
  { queue with
    pending := []
    left := queue.left ++ queue.pending
    answered := queue.answered ++ queue.pending.map fun entry => (entry.1, value) }

def result (queue : RequestQueue Request Outcome Answer) (ticket : Nat) : Option Answer :=
  (queue.answered.find? fun entry => entry.1 = ticket).map Prod.snd

structure Conserved (queue : RequestQueue Request Outcome Answer) : Prop where
  inOrder : queue.accepted = queue.left ++ queue.pending
  distinct : (queue.accepted.map Prod.fst).Nodup
  taken : queue.taken.Sublist queue.left
  served : queue.served.map Prod.fst ++ queue.serving.toList = queue.taken
  answeredLeft : (queue.answered.map Prod.fst ++ (queue.serving.map Prod.fst).toList).Perm (queue.left.map Prod.fst)

def Granted (good : Answer → Prop) (fine : Request → Outcome → Prop) (queue : RequestQueue Request Outcome Answer) : Prop :=
  ∀ entry ∈ queue.answered, good entry.2 → ∃ request outcome, ((entry.1, request), outcome) ∈ queue.served ∧ fine request outcome

theorem empty_conserved : Conserved ({} : RequestQueue Request Outcome Answer) :=
  ⟨rfl, List.nodup_nil, List.Sublist.refl _, rfl, List.Perm.refl _⟩

variable (queue : RequestQueue Request Outcome Answer)

theorem push_conserved (ticket : Nat) (request : Request)
    (conserved : Conserved queue) (fresh : ticket ∉ queue.accepted.map Prod.fst) : Conserved (queue.push ticket request) := by
  refine ⟨?_, ?_, conserved.taken, conserved.served, conserved.answeredLeft⟩
  · simp only [push]
    rw [conserved.inOrder, List.append_assoc]
  · have single : ∀ other ∈ queue.accepted.map Prod.fst, ∀ added ∈ [ticket], other ≠ added := by
      intro other known added here same
      rw [List.mem_singleton.mp here] at same
      exact fresh (same ▸ known)
    simp only [push, List.map_append]
    exact List.nodup_append.mpr ⟨conserved.distinct, List.nodup_singleton ticket, single⟩

theorem take_conserved (conserved : Conserved queue) (idle : queue.serving = none) : Conserved queue.take := by
  unfold take
  split
  · exact conserved
  · next front rest waiting =>
      have order := conserved.inOrder
      have served := conserved.served
      have answered := conserved.answeredLeft
      rw [idle, Option.toList_none, List.append_nil] at served
      rw [idle, Option.map_none, Option.toList_none, List.append_nil] at answered
      refine ⟨?_, conserved.distinct, conserved.taken.append (List.Sublist.refl _), ?_, ?_⟩
      · rw [order, waiting, List.append_assoc]
        rfl
      · exact congrArg (· ++ [front]) served
      · rw [List.map_append]
        exact answered.append_right [front.1]

theorem answer_conserved (outcome : Outcome) (value : Answer) (conserved : Conserved queue) :
    Conserved (queue.answer outcome value) := by
  unfold answer
  split
  · exact conserved
  · next front busy =>
      have served := conserved.served
      have answered := conserved.answeredLeft
      rw [busy] at served answered
      refine ⟨conserved.inOrder, conserved.distinct, conserved.taken, ?_, ?_⟩
      · simpa using served
      · simpa using answered

theorem fail_all_conserved (value : Answer) (conserved : Conserved queue) : Conserved (queue.failAll value) := by
  refine ⟨?_, conserved.distinct, conserved.taken.trans (List.sublist_append_left _ _), conserved.served, ?_⟩
  · simp only [failAll, List.append_nil]
    exact conserved.inOrder
  · have failed : (queue.pending.map fun entry => (entry.1, value)).map Prod.fst = queue.pending.map Prod.fst := by
      rw [List.map_map]
      rfl
    simp only [failAll, List.map_append, failed]
    rw [List.append_assoc]
    refine (List.Perm.append_left _ List.perm_append_comm).trans ?_
    rw [← List.append_assoc]
    exact conserved.answeredLeft.append_right _

variable (good : Answer → Prop) (fine : Request → Outcome → Prop) (queue : RequestQueue Request Outcome Answer)

theorem take_granted (granted : Granted good fine queue) : Granted good fine queue.take := by
  unfold take
  split <;> exact granted

theorem answer_granted (outcome : Outcome) (value : Answer)
    (earned : ∀ ticket request, queue.serving = some (ticket, request) → good value → fine request outcome)
    (granted : Granted good fine queue) : Granted good fine (queue.answer outcome value) := by
  unfold answer
  split
  · exact granted
  · next front busy =>
      intro entry member right
      rcases List.mem_append.mp member with earlier | latest
      · obtain ⟨request, other, inside, kept⟩ := granted entry earlier right
        exact ⟨request, other, List.mem_append_left _ inside, kept⟩
      · obtain rfl := List.mem_singleton.mp latest
        exact ⟨front.2, outcome, List.mem_append_right _ (List.mem_singleton_self _), earned front.1 front.2 busy right⟩

theorem fail_all_granted (value : Answer)
    (bad : ¬ good value) (granted : Granted good fine queue) : Granted good fine (queue.failAll value) := by
  intro entry member right
  rcases List.mem_append.mp member with earlier | failed
  · exact granted entry earlier right
  · obtain ⟨waiting, _, same⟩ := List.mem_map.mp failed
    rw [← same] at right
    exact absurd right bad

theorem answered_once (conserved : Conserved queue) : (queue.answered.map Prod.fst).Nodup := by
  have left : (queue.left.map Prod.fst).Nodup := by
    have distinct := conserved.distinct
    rw [conserved.inOrder, List.map_append] at distinct
    exact (List.nodup_append.mp distinct).1
  exact (List.nodup_append.mp (conserved.answeredLeft.nodup_iff.mpr left)).1

theorem answered_accepted (conserved : Conserved queue) (ticket : Nat)
    (answered : ticket ∈ queue.answered.map Prod.fst) : ticket ∈ queue.accepted.map Prod.fst := by
  rw [conserved.inOrder, List.map_append]
  exact List.mem_append_left _ (conserved.answeredLeft.mem_iff.mp (List.mem_append_left _ answered))

theorem served_accepted (conserved : Conserved queue) (served : (Nat × Request) × Outcome) (inside : served ∈ queue.served) :
    served.1 ∈ queue.accepted := by
  have taken : served.1 ∈ queue.taken := conserved.served ▸ List.mem_append_left _ (List.mem_map_of_mem inside)
  rw [conserved.inOrder]
  exact List.mem_append_left _ (conserved.taken.subset taken)

theorem all_answered (conserved : Conserved queue) (drained : queue.pending = []) (idle : queue.serving = none) :
    (queue.answered.map Prod.fst).Perm (queue.accepted.map Prod.fst) := by
  have answered := conserved.answeredLeft
  rw [idle, Option.map_none, Option.toList_none, List.append_nil] at answered
  rw [conserved.inOrder, drained, List.append_nil]
  exact answered

-- What clients rely on, `returns` being the calls that came back without an
-- exception, with their requests, and `over` saying that the server and a stop
-- are done.
structure Completes (fine : Request → Outcome → Prop) (queue : RequestQueue Request Outcome Completion)
    (returns : Nat → Request → Prop) (finished : Prop) : Prop where
  inOrder : queue.taken.Sublist queue.accepted
  served : queue.served.map Prod.fst ++ queue.serving.toList = queue.taken
  distinct : (queue.accepted.map Prod.fst).Nodup
  once : ∀ ticket, (queue.answered.map Prod.fst).count ticket ≤ 1
  onlyAccepted : ∀ ticket ∈ queue.answered.map Prod.fst, ticket ∈ queue.accepted.map Prod.fst
  accounted : ∀ ticket ∈ queue.accepted.map Prod.fst,
    ticket ∈ queue.pending.map Prod.fst ∨ queue.serving.map Prod.fst = some ticket ∨
      (queue.answered.map Prod.fst).count ticket = 1
  complete : finished → queue.pending = [] ∧ ∀ ticket ∈ queue.accepted.map Prod.fst, (queue.answered.map Prod.fst).count ticket = 1
  truthful : ∀ ticket request, returns ticket request →
    (ticket, .value) ∈ queue.answered ∧ ∃ outcome, ((ticket, request), outcome) ∈ queue.served ∧ fine request outcome

theorem conserved_completes (fine : Request → Outcome → Prop) (queue : RequestQueue Request Outcome Completion)
    (returns : Nat → Request → Prop) (finished : Prop) (conserved : Conserved queue)
    (granted : Granted (fun completion => completion = .value) fine queue)
    (drained : finished → queue.pending = [] ∧ queue.serving = none)
    (returned : ∀ ticket request, returns ticket request → (ticket, .value) ∈ queue.answered ∧ (ticket, request) ∈ queue.accepted) :
    Completes fine queue returns finished := by
  have once := answered_once queue conserved
  refine ⟨?_, conserved.served, conserved.distinct, List.nodup_iff_count_le_one.mp once, answered_accepted queue conserved, ?_, ?_, ?_⟩
  · rw [conserved.inOrder]
    exact conserved.taken.trans (List.sublist_append_left _ _)
  · intro ticket accepted
    rw [conserved.inOrder, List.map_append] at accepted
    rcases List.mem_append.mp accepted with left | waiting
    · rcases List.mem_append.mp (conserved.answeredLeft.mem_iff.mpr left) with answered | serving
      · exact .inr (.inr (List.count_eq_one_of_mem once answered))
      · exact .inr (.inl (Option.mem_toList.mp serving))
    · exact .inl waiting
  · intro done
    obtain ⟨empty, idle⟩ := drained done
    refine ⟨empty, ?_⟩
    intro ticket accepted
    exact List.count_eq_one_of_mem once ((all_answered queue conserved empty idle).mem_iff.mpr accepted)
  · intro ticket request back
    obtain ⟨answered, accepted⟩ := returned ticket request back
    obtain ⟨other, outcome, inside, right⟩ := granted _ answered rfl
    -- The ticket has one request, so the service was of this one.
    have same := List.inj_on_of_nodup_map conserved.distinct (served_accepted queue conserved _ inside) accepted rfl
    obtain rfl : other = request := congrArg Prod.snd same
    exact ⟨answered, outcome, inside, right⟩

theorem take_same : queue.take.accepted = queue.accepted ∧ queue.take.answered = queue.answered := by
  unfold take
  split <;> exact ⟨rfl, rfl⟩

theorem take_pending (empty : queue.pending = []) : queue.take = queue := by
  unfold take
  rw [empty]

theorem answer_grows (outcome : Outcome) (value : Answer) :
    (queue.answer outcome value).accepted = queue.accepted ∧
      (∀ entry ∈ queue.answered, entry ∈ (queue.answer outcome value).answered) ∧
      (queue.answer outcome value).serving = none ∧ (queue.answer outcome value).pending = queue.pending := by
  unfold answer
  split
  · next idle => exact ⟨rfl, fun _ member => member, idle, rfl⟩
  · exact ⟨rfl, fun _ member => List.mem_append_left _ member, rfl, rfl⟩

theorem result_answered (ticket : Nat) (value : Answer)
    (found : queue.result ticket = some value) : (ticket, value) ∈ queue.answered := by
  obtain ⟨entry, located, same⟩ := Option.map_eq_some_iff.mp found
  have matched : entry.1 = ticket := by
    simpa using List.find?_some located
  have here := List.mem_of_find?_eq_some located
  rw [show entry = (ticket, value) from Prod.ext matched same] at here
  exact here

end RequestQueue

end EncosDriver.Lib
