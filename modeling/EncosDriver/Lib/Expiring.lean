import Mathlib.Data.List.Induction

set_option autoImplicit false

namespace EncosDriver.Lib

structure Parts (Kind Part : Type) where
  stored : Kind → Part
  last : Kind → Int

inductive PartEvent (Kind Part : Type) where
  | accept (kind : Kind) (part : Part) (now : Int)
  | read (now : Int)
deriving DecidableEq, Repr

structure Expiring (Kind Part : Type) where
  timeout : Int
  epoch : Int
  initial : Kind → Part
  expired : Kind → Part

variable {Kind Part : Type} [DecidableEq Kind]

def PartEvent.time : PartEvent Kind Part → Int
  | .accept _ _ now => now
  | .read now => now

def PartEvent.arrival (kind : Kind) : PartEvent Kind Part → Option (Part × Int)
  | .accept other part now => if other = kind then some (part, now) else none
  | .read _ => none

def arrivals (kind : Kind) (history : List (PartEvent Kind Part)) : List (Part × Int) := history.filterMap (·.arrival kind)

variable (kind : Kind)

theorem arrivals_append (history later : List (PartEvent Kind Part)) :
    arrivals kind (history ++ later) = arrivals kind history ++ arrivals kind later := List.filterMap_append

theorem arrivals_accept_same (part : Part) (now : Int) :
    arrivals kind [PartEvent.accept kind part now] = [(part, now)] := by
  simp [arrivals, PartEvent.arrival]

theorem arrivals_accept_other (kind other : Kind) (part : Part) (now : Int) (different : other ≠ kind) :
    arrivals kind [PartEvent.accept other part now] = [] := by
  simp [arrivals, PartEvent.arrival, different]

theorem arrivals_read (now : Int) : arrivals kind [(PartEvent.read now : PartEvent Kind Part)] = [] := rfl

theorem arrival_event (history : List (PartEvent Kind Part)) (arrival : Part × Int)
    (arrived : arrival ∈ arrivals kind history) : PartEvent.accept kind arrival.1 arrival.2 ∈ history := by
  obtain ⟨event, inside, found⟩ := List.mem_filterMap.mp arrived
  cases event with
  | read now => cases found
  | accept other part now =>
    rw [PartEvent.arrival] at found
    split at found
    · next same =>
      cases found
      exact same ▸ inside
    · cases found

namespace Expiring

variable (store : Expiring Kind Part)

def start : Parts Kind Part := ⟨store.initial, fun _ => store.epoch⟩

def accept (parts : Parts Kind Part) (kind : Kind) (part : Part) (now : Int) : Parts Kind Part :=
  ⟨Function.update parts.stored kind part, Function.update parts.last kind now⟩

def expire (parts : Parts Kind Part) (now : Int) : Parts Kind Part :=
  { parts with
    stored := fun kind => if store.timeout < now - parts.last kind then store.expired kind else parts.stored kind }

def step (parts : Parts Kind Part) : PartEvent Kind Part → Parts Kind Part
  | .accept kind part now => accept parts kind part now
  | .read now => store.expire parts now

def run (history : List (PartEvent Kind Part)) : Parts Kind Part := history.foldl store.step store.start

variable (history : List (PartEvent Kind Part))

theorem run_append (event : PartEvent Kind Part) : store.run (history ++ [event]) = store.step (store.run history) event := by
  rw [run, List.foldl_append]
  rfl

def origin (kind : Kind) (history : List (PartEvent Kind Part)) : Part × Int :=
  (arrivals kind history).getLastD (store.initial kind, store.epoch)

-- The purpose of the store: what a reader should see of a history.
def view (history : List (PartEvent Kind Part)) (now : Int) (kind : Kind) : Part :=
  if store.timeout < now - (store.origin kind history).2 then store.expired kind else (store.origin kind history).1

variable (kind : Kind) (history : List (PartEvent Kind Part))

theorem origin_accept (part : Part) (now : Int) :
    store.origin kind (history ++ [.accept kind part now]) = (part, now) := by
  rw [origin, arrivals_append, arrivals_accept_same, List.getLastD_concat]

theorem origin_kept (event : PartEvent Kind Part)
    (none : arrivals kind [event] = []) : store.origin kind (history ++ [event]) = store.origin kind history := by
  rw [origin, arrivals_append, none, List.append_nil, origin]

theorem origin_cases :
    (arrivals kind history = [] ∧ store.origin kind history = (store.initial kind, store.epoch)) ∨
      (arrivals kind history).getLast? = some (store.origin kind history) := by
  rcases List.eq_nil_or_concat (arrivals kind history) with none | ⟨front, last, some⟩
  · exact .inl ⟨none, by rw [origin, none]; rfl⟩
  · right
    rw [origin, some, List.concat_eq_append, List.getLast?_concat, List.getLastD_concat]

structure Follows (history : List (PartEvent Kind Part)) (parts : Parts Kind Part) : Prop where
  last : ∀ kind, parts.last kind = (store.origin kind history).2
  stored : ∀ kind, parts.stored kind = (store.origin kind history).1 ∨
    (parts.stored kind = store.expired kind ∧ ∃ event ∈ history, store.timeout < event.time - (store.origin kind history).2)

theorem accept_follows (parts : Parts Kind Part) (kind : Kind) (part : Part) (now : Int) (follows : store.Follows history parts) :
    store.Follows (history ++ [.accept kind part now]) (accept parts kind part now) := by
  have other : ∀ another, another ≠ kind →
      store.origin another (history ++ [.accept kind part now]) = store.origin another history :=
    fun another different => store.origin_kept another history _ (arrivals_accept_other another kind part now different.symm)
  refine ⟨?_, ?_⟩
  · intro another
    by_cases same : another = kind
    · rw [same, origin_accept]
      exact Function.update_self ..
    · rw [other another same, ← follows.last another]
      exact Function.update_of_ne same ..
  · intro another
    by_cases same : another = kind
    · rw [same, origin_accept]
      exact .inl (Function.update_self ..)
    · have kept : (accept parts kind part now).stored another = parts.stored another := Function.update_of_ne same ..
      rw [other another same, kept]
      rcases follows.stored another with latest | ⟨expired, event, inside, old⟩
      · exact .inl latest
      · exact .inr ⟨expired, event, List.mem_append_left _ inside, old⟩

theorem read_follows (parts : Parts Kind Part) (now : Int)
    (follows : store.Follows history parts) : store.Follows (history ++ [.read now]) (store.expire parts now) := by
  have same : ∀ kind, store.origin kind (history ++ [.read now]) = store.origin kind history :=
    fun kind => store.origin_kept kind history _ (arrivals_read kind now)
  refine ⟨fun kind => by rw [same]; exact follows.last kind, ?_⟩
  intro kind
  rw [same]
  by_cases old : store.timeout < now - parts.last kind
  · right
    refine ⟨if_pos old, .read now, List.mem_append_right _ (List.mem_singleton_self _), ?_⟩
    rw [← follows.last]
    exact old
  · have kept : (store.expire parts now).stored kind = parts.stored kind := if_neg old
    rw [kept]
    rcases follows.stored kind with latest | ⟨expired, event, inside, older⟩
    · exact .inl latest
    · exact .inr ⟨expired, event, List.mem_append_left _ inside, older⟩

theorem run_follows : store.Follows history (store.run history) := by
  induction history using List.reverseRecOn with
  | nil => exact ⟨fun _ => rfl, fun _ => .inl rfl⟩
  | append_singleton history event ih =>
    rw [run_append]
    cases event with
    | accept kind part now => exact store.accept_follows history _ kind part now ih
    | read now => exact store.read_follows history _ now ih

variable (now : Int)

theorem stored_latest (before : ∀ event ∈ history, event.time ≤ now)
    (kind : Kind) (young : ¬ store.timeout < now - (store.origin kind history).2) :
    (store.run history).stored kind = (store.origin kind history).1 := by
  rcases (store.run_follows history).stored kind with latest | ⟨_, event, inside, old⟩
  · exact latest
  · have earlier := before event inside
    omega

theorem read_view (before : ∀ event ∈ history, event.time ≤ now)
    (kind : Kind) : (store.expire (store.run history) now).stored kind = store.view history now kind := by
  rw [expire, view]
  simp only [(store.run_follows history).last kind]
  split
  · rfl
  · next young => exact store.stored_latest history now before kind young

theorem accept_view_iff (before : ∀ event ∈ history, event.time ≤ now)
    (kind : Kind) (part : Part) (positive : 0 ≤ store.timeout) :
    (∀ other, (accept (store.run history) kind part now).stored other =
        store.view (history ++ [.accept kind part now]) now other) ↔
      ∀ other, other ≠ kind → store.timeout < now - (store.run history).last other →
        (store.run history).stored other = store.expired other := by
  have same : ∀ other, other ≠ kind →
      ((accept (store.run history) kind part now).stored other = (store.run history).stored other ∧
        store.view (history ++ [.accept kind part now]) now other = store.view history now other) := by
    intro other different
    refine ⟨Function.update_of_ne different .., ?_⟩
    rw [view, view, store.origin_kept other history _ (arrivals_accept_other other kind part now different.symm)]
  constructor
  · intro agree other different old
    have seen := agree other
    rw [(same other different).1, (same other different).2, view, ← (store.run_follows history).last other, if_pos old] at seen
    exact seen
  · intro settled other
    by_cases here : other = kind
    · rw [here, view, origin_accept, if_neg (by simpa using positive)]
      exact Function.update_self ..
    · rw [(same other here).1, (same other here).2, view, ← (store.run_follows history).last other]
      split
      · next old => exact settled other here old
      · next young =>
        rw [(store.run_follows history).last other] at young
        exact store.stored_latest history now before other young

theorem view_present (part : Part)
    (seen : store.view history now kind = part) (present : part ≠ store.expired kind) (brought : part ≠ store.initial kind) :
    ∃ time, (arrivals kind history).getLast? = some (part, time) ∧ now - time ≤ store.timeout := by
  rw [view] at seen
  split at seen
  · exact absurd seen.symm present
  · next young =>
    rcases store.origin_cases kind history with ⟨_, first⟩ | latest
    · rw [first] at seen
      exact absurd seen.symm brought
    · exact ⟨(store.origin kind history).2, by rw [latest, ← seen], Int.not_lt.mp young⟩

theorem origin_newest
    (ordered : (history.map PartEvent.time).Pairwise (· ≤ ·)) (arrival : Part × Int)
    (arrived : arrival ∈ arrivals kind history) : arrival.2 ≤ (store.origin kind history).2 := by
  induction history using List.reverseRecOn with
  | nil => cases arrived
  | append_singleton history event ih =>
    rw [List.map_append, List.pairwise_append] at ordered
    obtain ⟨front, _, between⟩ := ordered
    rw [arrivals_append] at arrived
    rcases List.mem_append.mp arrived with old | new
    · cases event with
      | read now =>
        rw [store.origin_kept kind history _ (arrivals_read kind now)]
        exact ih front old
      | accept other part now =>
        by_cases same : other = kind
        · rw [same, origin_accept]
          exact between _ (List.mem_map_of_mem (arrival_event kind history arrival old)) now (List.mem_singleton_self _)
        · rw [store.origin_kept kind history _ (arrivals_accept_other kind other part now same)]
          exact ih front old
    · cases event with
      | read now => cases new
      | accept other part now =>
        by_cases same : other = kind
        · rw [same, arrivals_accept_same, List.mem_singleton] at new
          refine Int.le_of_eq ?_
          rw [new, same, origin_accept]
        · rw [arrivals_accept_other kind other part now same] at new
          cases new

theorem origin_holds (property : Part → Prop)
    (initial : property (store.initial kind)) (accepted : ∀ arrival ∈ arrivals kind history, property arrival.1) :
    property (store.origin kind history).1 := by
  rcases store.origin_cases kind history with ⟨_, first⟩ | latest
  · rw [first]
    exact initial
  · exact accepted _ (List.mem_of_getLast? latest)

end Expiring

end EncosDriver.Lib
