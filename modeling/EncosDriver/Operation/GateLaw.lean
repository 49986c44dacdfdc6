import EncosDriver.Operation.Nesting

set_option autoImplicit false

namespace EncosDriver.Operation

open Lib OperationGate

namespace Nesting

def Nested : List DeviceOperation → Prop
  | [] => True
  | active :: previous => active.ownsAdmission = !isActive active.gate previous ∧ Nested previous

structure ThreadOk (thread : Thread) : Prop where
  nested : Nested thread.chain
  pushed : ∀ gate push, thread.pc = .notifying gate (some push) →
    isActive push.gate thread.chain = true ∧ push.ownsAdmission = false

def held (shared : Shared) (thread : Thread) (gate : Nat) : Nat := shared.loose.count gate + standing gate thread

inductive Effect (before after : Shared) (thread next : Thread) : Prop where
  | quiet (gates : ∀ gate, after.gateOf gate = before.gateOf gate)
      (admissions : after.admissions = before.admissions) (departures : after.departures = before.departures)
      (terminated : after.terminated = before.terminated)
      (same : ∀ gate, held after next gate = held before thread gate)
  | enters (gate : Nat) (admits : (before.gateOf gate).isRetiring = false ∧ (before.gateOf gate).isFull = false)
      (gates : ∀ other, after.gateOf other = if other = gate then (before.gateOf gate).entered else before.gateOf other)
      (admissions : ∀ other, after.admissions other = before.admissions other + if other = gate then 1 else 0)
      (departures : after.departures = before.departures) (terminated : after.terminated = before.terminated)
      (grown : ∀ other, held after next other = held before thread other + if other = gate then 1 else 0)
  | leaves (gate : Nat)
      (gates : ∀ other, after.gateOf other = if other = gate then (before.gateOf gate).left else before.gateOf other)
      (admissions : after.admissions = before.admissions)
      (departures : ∀ other, after.departures other = before.departures other + if other = gate then 1 else 0)
      (terminated : after.terminated = (before.terminated || decide ((before.gateOf gate).active = 0)))
      (shrunk : ∀ other, held after next other + (if other = gate then 1 else 0) = held before thread other)
  | retires (gate : Nat)
      (gates : ∀ other, after.gateOf other = if other = gate then (before.gateOf gate).retired else before.gateOf other)
      (admissions : after.admissions = before.admissions) (departures : after.departures = before.departures)
      (terminated : after.terminated = before.terminated)
      (same : ∀ other, held after next other = held before thread other)

variable (shared : Shared) (gate other : Nat)

variable (word : OperationGate)

theorem gate_of_set_gate :
    (shared.setGate gate word).gateOf other = if other = gate then word else shared.gateOf other := by
  unfold Shared.gateOf Shared.setGate
  by_cases same : other = gate
  · simp only [same, ↓reduceIte]
  · simp only [same, ↓reduceIte]

theorem gate_of_set_mutex (owner : Option Nat) : (shared.setMutex gate owner).gateOf other = shared.gateOf other := by
  unfold Shared.gateOf Shared.setMutex
  by_cases same : other = gate
  · simp only [same, ↓reduceIte]
  · simp only [same, ↓reduceIte]

theorem gate_of_leave :
    (shared.leave gate).gateOf other = if other = gate then (shared.gateOf gate).left else shared.gateOf other :=
  gate_of_set_gate shared gate other _

theorem departures_leave : (shared.leave gate).departures other = shared.departures other + if other = gate then 1 else 0 := by
  unfold Shared.leave
  by_cases same : other = gate
  · simp only [same, ↓reduceIte]
  · simp only [same, ↓reduceIte, Nat.add_zero]

variable (gate : Nat)

theorem is_active_cons (active : DeviceOperation) (previous : List DeviceOperation) :
    isActive gate (active :: previous) = (decide (active.gate = gate) || isActive gate previous) := rfl

theorem is_active_push (push : DeviceOperation) (chain : List DeviceOperation)
    (inside : isActive push.gate chain = true) : isActive gate (push :: chain) = isActive gate chain := by
  rw [is_active_cons]
  by_cases same : push.gate = gate
  · rw [← same, inside, Bool.or_true]
  · rw [decide_eq_false same, Bool.false_or]

variable (chain : List DeviceOperation)

theorem standing_idle :
    standing gate ⟨.idle, chain⟩ = if isActive gate chain then 1 else 0 := by
  simp only [standing, reduceCtorEq, ↓reduceIte, Nat.zero_add]

theorem standing_after_leave (gate other : Nat) (chain : List DeviceOperation)
    (push : Option DeviceOperation) (inside : ∀ object, push = some object → isActive object.gate chain = true) :
    standing other (afterLeave word gate chain push) = if isActive other chain then 1 else 0 := by
  unfold afterLeave
  split
  · simp only [standing, reduceCtorEq, ↓reduceIte, Nat.zero_add]
  · rw [standing_idle]
    cases push with
    | none => rfl
    | some object =>
      rw [Option.toList_some, List.singleton_append, is_active_push other object chain (inside object rfl)]

theorem thread_ok_after_leave
    (push : Option DeviceOperation) (nested : Nested chain)
    (inside : ∀ object, push = some object → isActive object.gate chain = true ∧ object.ownsAdmission = false) :
    ThreadOk (afterLeave word gate chain push) := by
  unfold afterLeave
  split
  · refine ⟨nested, ?_⟩
    intro other object waits
    rw [Pc.notifying.injEq] at waits
    exact inside object waits.2
  · refine ⟨?_, nofun⟩
    cases push with
    | none => exact nested
    | some object =>
      obtain ⟨present, borrowed⟩ := inside object rfl
      have borrows : object.ownsAdmission = !isActive object.gate chain := by
        rw [present, borrowed]
        rfl
      exact ⟨borrows, nested⟩

theorem quiet_effect (shared : Shared) (thread next : Thread)
    (same : ∀ gate, standing gate next = standing gate thread) : Effect shared shared thread next :=
  .quiet (fun _ => rfl) rfl rfl rfl (fun gate => congrArg (shared.loose.count gate + ·) (same gate))

theorem standing_moved (before after : Pc)
    (plain : ∀ gate, before ≠ .admitted gate) (still : ∀ gate, after ≠ .admitted gate) :
    standing gate ⟨after, chain⟩ = standing gate ⟨before, chain⟩ := by
  simp only [standing, plain gate, still gate, ↓reduceIte]

variable (id : Nat) (shared after : Shared) (thread next : Thread)

theorem exchange_effect (spurious : Bool) (taken : turn id shared thread (.exchange spurious) = some (after, next)) :
    Effect shared after thread next := by
  obtain ⟨pc, chain⟩ := thread
  cases pc with
  | entering gate loaded =>
    simp only [turn] at taken
    split at taken
    · cases taken
      exact quiet_effect _ _ _ fun other => standing_moved other chain _ _ nofun nofun
    · next admits =>
        split at taken
        · next exchanged =>
            cases taken
            simp only [Bool.or_eq_true, not_or, Bool.not_eq_true, ← exchanged.1] at admits
            refine .enters gate admits (gate_of_set_gate shared gate · _) ?_ rfl rfl ?_
            · intro other
              by_cases same : other = gate
              · simp only [Shared.enter, same, ↓reduceIte]
              · simp only [Shared.enter, same, ↓reduceIte, Nat.add_zero]
            · intro other
              simp only [held, standing, Shared.enter, Shared.setGate, Pc.admitted.injEq, reduceCtorEq, ↓reduceIte,
                eq_comm (a := gate)]
              omega
        · cases taken
          exact quiet_effect _ _ _ fun other => standing_moved other chain _ _ nofun nofun
  | _ => cases taken

theorem construct_effect (taken : turn id shared thread .construct = some (after, next)) : Effect shared after thread next := by
  obtain ⟨pc, chain⟩ := thread
  cases pc with
  | admitted gate =>
    simp only [turn] at taken
    split at taken
    · next inside =>
        cases taken
        refine .leaves gate (gate_of_leave shared gate) rfl (departures_leave shared gate) rfl ?_
        intro other
        rw [held, standing_after_leave _ _ _ _ _ (by intro object same; cases same; exact inside), held]
        simp only [standing, Shared.leave, Shared.setGate, Pc.admitted.injEq, eq_comm (a := gate)]
        omega
    · next outside =>
        cases taken
        refine quiet_effect _ _ _ ?_
        intro other
        rw [standing_idle, is_active_cons]
        by_cases same : gate = other
        · subst same
          simp only [standing, outside, decide_true, Bool.true_or, Bool.false_eq_true, ↓reduceIte]
        · simp only [standing, same, decide_false, Bool.false_or, Pc.admitted.injEq, ↓reduceIte, Nat.zero_add]
  | _ => cases taken

theorem destroy_effect (ok : ThreadOk thread)
    (taken : turn id shared thread .destroy = some (after, next)) : Effect shared after thread next := by
  obtain ⟨pc, chain⟩ := thread
  cases pc with
  | idle =>
    cases chain with
    | nil => cases taken
    | cons active previous =>
      obtain ⟨owns, -⟩ := ok.nested
      simp only [turn] at taken
      split at taken
      · next owner =>
          cases taken
          rw [owner, eq_comm, Bool.not_eq_true'] at owns
          refine .leaves active.gate (gate_of_leave shared active.gate) rfl (departures_leave shared active.gate) rfl ?_
          intro other
          rw [held, standing_after_leave _ _ _ _ none nofun, held, standing_idle, is_active_cons]
          by_cases same : other = active.gate
          · subst same
            simp only [Shared.leave, Shared.setGate, owns, decide_true, Bool.true_or, Bool.false_eq_true,
              ↓reduceIte, Nat.add_zero]
          · simp only [Shared.leave, Shared.setGate, same, Ne.symm same, decide_false, Bool.false_or, ↓reduceIte,
              Nat.add_zero]
      · next borrowed =>
          cases taken
          rw [Bool.not_eq_true] at borrowed
          rw [borrowed, eq_comm, Bool.not_eq_false'] at owns
          refine quiet_effect _ _ _ ?_
          intro other
          rw [standing_idle, standing_idle, is_active_push other active previous owns]
  | _ => cases taken

theorem leave_effect (id gate : Nat) (shared after : Shared) (thread next : Thread)
    (taken : turn id shared thread (.leave gate) = some (after, next)) : Effect shared after thread next := by
  obtain ⟨pc, chain⟩ := thread
  cases pc with
  | idle =>
    simp only [turn] at taken
    split at taken
    · next inside =>
        cases taken
        refine .leaves gate (gate_of_leave shared gate) rfl (departures_leave shared gate) rfl ?_
        intro other
        rw [held, standing_after_leave _ _ _ _ none nofun, held, standing_idle]
        have counted : 0 < shared.loose.count gate := List.count_pos_iff.mpr inside
        simp only [List.count_erase, beq_iff_eq, eq_comm (a := gate)]
        by_cases same : other = gate
        · subst same
          simp only [↓reduceIte]
          omega
        · simp only [same, ↓reduceIte, Nat.sub_zero, Nat.add_zero]
    · cases taken
  | _ => cases taken

theorem turn_effect (call : Call) (ok : ThreadOk thread)
    (taken : turn id shared thread call = some (after, next)) : Effect shared after thread next := by
  cases call with
  | exchange spurious => exact exchange_effect id shared after thread next spurious taken
  | construct => exact construct_effect id shared after thread next taken
  | destroy => exact destroy_effect id shared after thread next ok taken
  | leave gate => exact leave_effect id gate shared after thread next taken
  | tryEnter gate | waitForDrain gate =>
    obtain ⟨pc, chain⟩ := thread
    cases pc with
    | idle =>
      cases taken
      exact quiet_effect _ _ _ fun other => standing_moved other chain _ _ nofun nofun
    | _ => cases taken
  | keep =>
    obtain ⟨pc, chain⟩ := thread
    cases pc with
    | admitted gate =>
      cases taken
      refine .quiet (fun _ => rfl) rfl rfl rfl ?_
      intro other
      simp only [held, standing, List.count_cons, beq_iff_eq, Pc.admitted.injEq, reduceCtorEq, ↓reduceIte]
      omega
    | _ => cases taken
  | notify =>
    obtain ⟨pc, chain⟩ := thread
    cases pc with
    | notifying gate push =>
      simp only [turn] at taken
      split at taken
      · cases taken
        refine quiet_effect _ _ _ ?_
        intro other
        cases push with
        | none => exact standing_moved other chain _ _ nofun nofun
        | some object =>
          have inside := (ok.pushed gate object rfl).1
          rw [standing_idle, Option.toList_some, List.singleton_append, is_active_push other object chain inside]
          simp only [standing, reduceCtorEq, ↓reduceIte, Nat.zero_add]
      · cases taken
    | _ => cases taken
  | retire gate =>
    obtain ⟨pc, chain⟩ := thread
    cases pc with
    | idle =>
      cases taken
      exact .retires gate (gate_of_set_gate shared gate · _) rfl rfl rfl (fun _ => rfl)
    | _ => cases taken
  | lock =>
    obtain ⟨pc, chain⟩ := thread
    cases pc with
    | locking gate =>
      simp only [turn] at taken
      split at taken
      · cases taken
        refine .quiet (gate_of_set_mutex shared gate · _) rfl rfl rfl ?_
        intro other
        exact congrArg (shared.loose.count other + ·) (standing_moved other chain _ _ nofun nofun)
      · cases taken
    | _ => cases taken
  | check =>
    obtain ⟨pc, chain⟩ := thread
    cases pc with
    | checking gate =>
      simp only [turn, Option.some.injEq, Prod.mk.injEq] at taken
      obtain ⟨rfl, rfl⟩ := taken
      refine .quiet (gate_of_set_mutex shared gate · _) rfl rfl rfl ?_
      intro other
      refine congrArg (shared.loose.count other + ·) (standing_moved other chain _ _ nofun ?_)
      intro target
      split <;> nofun
    | _ => cases taken
  | wake =>
    obtain ⟨pc, chain⟩ := thread
    cases pc with
    | sleeping gate =>
      cases taken
      exact quiet_effect _ _ _ fun other => standing_moved other chain _ _ nofun nofun
    | _ => cases taken

theorem thread_ok_still (pc : Pc) (ok : ThreadOk thread) (plain : ∀ gate push, pc ≠ .notifying gate push) :
    ThreadOk { thread with pc := pc } :=
  ⟨ok.nested, fun gate push waits => absurd waits (plain gate (some push))⟩

theorem turn_thread_ok (call : Call) (ok : ThreadOk thread)
    (taken : turn id shared thread call = some (after, next)) : ThreadOk next := by
  cases call with
  | construct =>
    obtain ⟨pc, chain⟩ := thread
    cases pc with
    | admitted gate =>
      simp only [turn] at taken
      split at taken
      · next inside =>
          cases taken
          refine thread_ok_after_leave _ _ _ _ ok.nested ?_
          intro object same
          cases same
          exact ⟨inside, rfl⟩
      · next outside =>
          cases taken
          rw [Bool.not_eq_true] at outside
          have owns : true = !isActive gate chain := by rw [outside]; rfl
          exact ⟨⟨owns, ok.nested⟩, nofun⟩
    | _ => cases taken
  | destroy =>
    obtain ⟨pc, chain⟩ := thread
    cases pc with
    | idle =>
      cases chain with
      | nil => cases taken
      | cons active previous =>
        simp only [turn] at taken
        split at taken
        · cases taken
          exact thread_ok_after_leave _ _ _ none ok.nested.2 nofun
        · cases taken
          exact ⟨ok.nested.2, nofun⟩
    | _ => cases taken
  | leave gate =>
    obtain ⟨pc, chain⟩ := thread
    cases pc with
    | idle =>
      simp only [turn] at taken
      split at taken
      · cases taken
        exact thread_ok_after_leave _ _ _ none ok.nested nofun
      · cases taken
    | _ => cases taken
  | notify =>
    obtain ⟨pc, chain⟩ := thread
    cases pc with
    | notifying gate push =>
      simp only [turn] at taken
      split at taken
      · cases taken
        cases push with
        | none => exact ⟨ok.nested, nofun⟩
        | some object =>
          obtain ⟨inside, borrowed⟩ := ok.pushed gate object rfl
          have borrows : object.ownsAdmission = !isActive object.gate chain := by
            rw [inside, borrowed]
            rfl
          exact ⟨⟨borrows, ok.nested⟩, nofun⟩
      · cases taken
    | _ => cases taken
  | exchange spurious =>
    obtain ⟨pc, chain⟩ := thread
    cases pc with
    | entering gate loaded =>
      simp only [turn] at taken
      split at taken
      · cases taken
        exact thread_ok_still _ _ ok nofun
      · split at taken
        · cases taken
          exact thread_ok_still _ _ ok nofun
        · cases taken
          exact thread_ok_still _ _ ok nofun
    | _ => cases taken
  | check =>
    obtain ⟨pc, chain⟩ := thread
    cases pc with
    | checking gate =>
      simp only [turn, Option.some.injEq, Prod.mk.injEq] at taken
      obtain ⟨-, rfl⟩ := taken
      refine thread_ok_still _ _ ok ?_
      intro other push
      split <;> nofun
    | _ => cases taken
  | lock =>
    obtain ⟨pc, chain⟩ := thread
    cases pc with
    | locking gate =>
      simp only [turn] at taken
      split at taken
      · cases taken
        exact thread_ok_still _ _ ok nofun
      · cases taken
    | _ => cases taken
  | retire gate =>
    obtain ⟨pc, chain⟩ := thread
    cases pc with
    | idle =>
      cases taken
      exact ok
    | _ => cases taken
  | tryEnter gate | keep | waitForDrain gate | wake =>
    obtain ⟨pc, chain⟩ := thread
    cases pc <;> cases taken
    exact thread_ok_still _ _ ok nofun

structure GateInv (world : GateWorld) : Prop where
  numbered : World.Numbered world
  counted : ∀ gate, ∃ retiring, Holds (world.shared.gateOf gate) retiring (operations world gate)
  ledger : ∀ gate, world.shared.admissions gate = world.shared.departures gate + operations world gate
  alive : world.shared.terminated = false
  threads : ∀ id thread, world.calls.find id = some thread → ThreadOk thread

variable (world : GateWorld)

theorem init_inv (initial : system.init world) : GateInv world := by
  cases initial
  exact ⟨nofun, fun _ => ⟨false, initial_holds⟩, fun _ => rfl, rfl, nofun⟩

theorem operations_advance (id : Nat) (thread next : Thread) (after : Shared) (gate : Nat)
    (numbered : World.Numbered world) (present : world.calls.find id = some thread) :
    operations (world.advance id ⟨after, next, none⟩) gate + held world.shared thread gate =
      operations world gate + held after next gate := by
  have counted := World.tally_advance (standing gate) world id thread ⟨after, next, none⟩ numbered present nofun
  simp only [operations, held, World.advance_shared]
  simp only at counted
  omega

theorem spawn_inv (inv : GateInv world) : GateInv (world.start {}) := by
  have same : ∀ gate, operations (world.start {}) gate = operations world gate := by
    intro gate
    rw [operations, World.tally_start (standing gate) world {} inv.numbered]
    rfl
  refine ⟨World.numbered_start world {} inv.numbered, ?_, ?_, inv.alive, ?_⟩
  · intro gate
    rw [same]
    exact inv.counted gate
  · intro gate
    rw [same]
    exact inv.ledger gate
  · intro id thread found
    rw [World.find_start] at found
    split at found
    · cases found
      exact ⟨trivial, fun _ _ other => by cases other⟩
    · exact inv.threads id thread found

theorem effect_inv (id : Nat) (thread next : Thread) (after : Shared) (inv : GateInv world)
    (present : world.calls.find id = some thread) (effect : Effect world.shared after thread next)
    (ok : ThreadOk next) : GateInv (world.advance id ⟨after, next, none⟩) := by
  have numbered := World.numbered_advance world id ⟨after, next, none⟩ inv.numbered (inv.numbered id thread present)
  have moved := fun gate => operations_advance world id thread next after gate inv.numbered present
  have threads : ∀ other thread, (world.advance id ⟨after, next, none⟩).calls.find other = some thread → ThreadOk thread :=
    World.advance_every world id ⟨after, next, none⟩ (fun _ _ thread => ThreadOk thread) inv.threads ok
      (fun _ _ _ _ fine => fine) nofun
  cases effect with
  | quiet gates admissions departures terminated same =>
    have kept : ∀ gate, operations (world.advance id ⟨after, next, none⟩) gate = operations world gate := by
      intro gate
      have change := moved gate
      rw [same gate] at change
      omega
    refine ⟨numbered, ?_, ?_, ?_, threads⟩
    · intro gate
      rw [kept, World.advance_shared, gates]
      exact inv.counted gate
    · intro gate
      rw [kept, World.advance_shared, admissions, departures]
      exact inv.ledger gate
    · rw [World.advance_shared, terminated]
      exact inv.alive
  | enters gate admits gates admissions departures terminated grown =>
    have change : ∀ other, operations (world.advance id ⟨after, next, none⟩) other =
        operations world other + if other = gate then 1 else 0 := by
      intro other
      have change := moved other
      rw [grown other] at change
      omega
    refine ⟨numbered, ?_, ?_, ?_, threads⟩
    · intro other
      rw [change, World.advance_shared, gates]
      obtain ⟨retiring, holds⟩ := inv.counted other
      by_cases same : other = gate
      · rw [if_pos same, if_pos same]
        rw [same] at holds ⊢
        exact ⟨retiring, entered_holds _ retiring _ holds admits.2⟩
      · rw [if_neg same, if_neg same]
        exact ⟨retiring, holds⟩
    · intro other
      rw [change, World.advance_shared, admissions, departures, inv.ledger other, Nat.add_assoc]
    · rw [World.advance_shared, terminated]
      exact inv.alive
  | leaves gate gates admissions departures terminated shrunk =>
    have change : ∀ other, operations (world.advance id ⟨after, next, none⟩) other + (if other = gate then 1 else 0) =
        operations world other := by
      intro other
      have change := moved other
      have less := shrunk other
      omega
    have some_ : ∃ left, operations world gate = left + 1 := by
      have less := change gate
      rw [if_pos rfl] at less
      exact ⟨_, less.symm⟩
    refine ⟨numbered, ?_, ?_, ?_, threads⟩
    · intro other
      rw [World.advance_shared, gates]
      obtain ⟨retiring, holds⟩ := inv.counted other
      rw [← change other] at holds
      by_cases same : other = gate
      · rw [if_pos same] at holds ⊢
        rw [same] at holds ⊢
        exact ⟨retiring, left_holds _ retiring _ holds⟩
      · rw [if_neg same] at holds ⊢
        exact ⟨retiring, holds⟩
    · intro other
      have ledger := inv.ledger other
      have less := change other
      rw [World.advance_shared, admissions, departures]
      omega
    · -- The thread holds an operation of the gate, so the word it read counts at least one.
      obtain ⟨retiring, holds⟩ := inv.counted gate
      obtain ⟨left, counts⟩ := some_
      have active := holds_active _ retiring _ holds
      rw [World.advance_shared, terminated, inv.alive, active, counts]
      rfl
  | retires gate gates admissions departures terminated same =>
    have kept : ∀ other, operations (world.advance id ⟨after, next, none⟩) other = operations world other := by
      intro other
      have change := moved other
      rw [same other] at change
      omega
    refine ⟨numbered, ?_, ?_, ?_, threads⟩
    · intro other
      rw [kept, World.advance_shared, gates]
      obtain ⟨retiring, holds⟩ := inv.counted other
      by_cases here : other = gate
      · rw [if_pos here]
        rw [here] at holds ⊢
        exact ⟨true, retired_holds _ retiring _ holds⟩
      · rw [if_neg here]
        exact ⟨retiring, holds⟩
    · intro other
      rw [kept, World.advance_shared, admissions, departures]
      exact inv.ledger other
    · rw [World.advance_shared, terminated]
      exact inv.alive

theorem step_cases (world next : GateWorld) (action : Action) (taken : step world action = some next) :
    next = world.start {} ∨ ∃ id call thread after turned, world.calls.find id = some thread ∧
      turn id world.shared thread call = some (after, turned) ∧ next = world.advance id ⟨after, turned, none⟩ := by
  cases action with
  | spawn =>
    cases taken
    exact .inl rfl
  | call id call =>
    cases present : world.calls.find id with
    | none => simp only [step, present, reduceCtorEq] at taken
    | some thread =>
      simp only [step, present, Option.map_eq_some_iff, Prod.exists] at taken
      obtain ⟨after, turned, moved, same⟩ := taken
      exact .inr ⟨id, call, thread, after, turned, present, moved, same.symm⟩

theorem step_inv (world next : GateWorld) (action : Action) (inv : GateInv world)
    (taken : step world action = some next) : GateInv next := by
  rcases step_cases world next action taken with rfl | ⟨id, call, thread, after, turned, present, moved, rfl⟩
  · exact spawn_inv world inv
  · have ok := inv.threads id thread present
    exact effect_inv world id thread turned after inv present
      (turn_effect id world.shared after thread turned call ok moved)
      (turn_thread_ok id world.shared after thread turned call ok moved)

theorem reachable_inv (reached : Reachable system world) : GateInv world :=
  reachable_invariant system Always GateInv init_inv (fun state action next inv _ => step_inv state next action inv)
    world reached

structure Sealed (gate admissions active : Nat) (world : GateWorld) : Prop where
  retiring : (world.shared.gateOf gate).isRetiring = true
  admitted : world.shared.admissions gate = admissions
  bound : operations world gate ≤ active

theorem step_sealed (world next : GateWorld) (action : Action) (gate admissions active : Nat) (inv : GateInv world)
    (closed : Sealed gate admissions active world) (taken : step world action = some next) :
    Sealed gate admissions active next := by
  obtain ⟨retiring, admitted, bound⟩ := closed
  rcases step_cases world next action taken with rfl | ⟨id, call, thread, after, turned, present, moved, rfl⟩
  · refine ⟨retiring, admitted, ?_⟩
    rw [operations, World.tally_start (standing gate) world {} inv.numbered]
    exact bound
  · have change := operations_advance world id thread turned after gate inv.numbered present
    cases turn_effect id world.shared after thread turned call (inv.threads id thread present) moved with
    | quiet gates admissions departures terminated same =>
      rw [same gate] at change
      refine ⟨?_, ?_, by omega⟩
      · rw [World.advance_shared, gates]
        exact retiring
      · rw [World.advance_shared, admissions]
        exact admitted
    | enters other admits gates admissions departures terminated grown =>
      have different : gate ≠ other := by
        intro same
        rw [same, admits.1] at retiring
        cases retiring
      rw [grown gate, if_neg different] at change
      refine ⟨?_, ?_, by omega⟩
      · rw [World.advance_shared, gates, if_neg different]
        exact retiring
      · rw [World.advance_shared, admissions, if_neg different]
        exact admitted
    | leaves other gates admissions departures terminated shrunk =>
      have less := shrunk gate
      refine ⟨?_, ?_, by omega⟩
      · rw [World.advance_shared, gates]
        split
        · next same =>
            obtain ⟨bit, holds⟩ := inv.counted gate
            rw [same] at holds retiring change
            have counts : ∃ left, operations world other = left + 1 := by
              rw [same, if_pos rfl] at less
              exact ⟨operations (world.advance id ⟨after, turned, none⟩) other, by omega⟩
            obtain ⟨left, counts⟩ := counts
            rw [counts] at holds
            rw [holds_retiring _ bit _ holds] at retiring
            rw [holds_retiring _ bit _ (left_holds _ bit left holds), retiring]
        · exact retiring
      · rw [World.advance_shared, admissions]
        exact admitted
    | retires other gates admissions departures terminated same =>
      rw [same gate] at change
      refine ⟨?_, ?_, by omega⟩
      · rw [World.advance_shared, gates]
        split
        · next here =>
            obtain ⟨bit, holds⟩ := inv.counted other
            exact holds_retiring _ true _ (retired_holds _ bit _ holds)
        · exact retiring
      · rw [World.advance_shared, admissions]
        exact admitted

theorem run_sealed (first last : GateWorld) (gate : Nat) (reached : Reachable system first)
    (retiring : (first.shared.gateOf gate).isRetiring = true) (ran : RunsWhile system (fun _ => True) first last) :
    Sealed gate (first.shared.admissions gate) (operations first gate) last := by
  induction ran with
  | here => exact ⟨retiring, rfl, Nat.le_refl _⟩
  | next state next action previous inside taken ih =>
    have before := runs_while_reachable system (fun _ => True) first state reached previous
    exact step_sealed state next action gate _ _ (reachable_inv state before) ih taken

theorem nested_owners (chain : List DeviceOperation) (gate : Nat) (nested : Nested chain) :
    chain.countP (fun active => active.gate = gate ∧ active.ownsAdmission = true) =
      if isActive gate chain then 1 else 0 := by
  induction chain with
  | nil => rfl
  | cons active previous ih =>
    obtain ⟨owns, deeper⟩ := nested
    rw [List.countP_cons, ih deeper, is_active_cons, owns]
    by_cases same : active.gate = gate
    · rw [same]
      cases isActive gate previous <;> simp
    · simp only [same, decide_false, Bool.false_or, false_and, Bool.false_eq_true, ↓reduceIte,
        Nat.add_zero]

/-- The word counts the operations entered and not left, one for all nested objects of a thread, and never reaches the
retiring bit; after retirement nobody enters any more, and a drained gate stays drained. -/
theorem gate_law :
    (∀ world, Reachable system world → ∀ gate,
      (∃ retiring, Holds (world.shared.gateOf gate) retiring (operations world gate)) ∧
      (world.shared.gateOf gate).active = operations world gate ∧
      world.shared.admissions gate = world.shared.departures gate + (world.shared.gateOf gate).active ∧
      world.shared.terminated = false) ∧
    (∀ first last gate, Reachable system first → (first.shared.gateOf gate).isRetiring = true →
      RunsWhile system (fun _ => True) first last →
      (last.shared.gateOf gate).isRetiring = true ∧
      last.shared.admissions gate = first.shared.admissions gate ∧
      ((first.shared.gateOf gate).active = 0 → (last.shared.gateOf gate).active = 0)) ∧
    (∀ world id thread gate, Reachable system world → world.calls.find id = some thread →
      thread.chain.countP (fun active => active.gate = gate ∧ active.ownsAdmission = true) =
        if isActive gate thread.chain then 1 else 0) := by
  have counts : ∀ world, Reachable system world → ∀ gate,
      (world.shared.gateOf gate).active = operations world gate := by
    intro world reached gate
    obtain ⟨retiring, holds⟩ := (reachable_inv world reached).counted gate
    exact holds_active _ retiring _ holds
  refine ⟨?_, ?_, ?_⟩
  · intro world reached gate
    have inv := reachable_inv world reached
    refine ⟨inv.counted gate, counts world reached gate, ?_, inv.alive⟩
    rw [counts world reached gate]
    exact inv.ledger gate
  · intro first last gate reached retiring ran
    have closed := run_sealed first last gate reached retiring ran
    refine ⟨closed.retiring, closed.admitted, ?_⟩
    intro drained
    rw [counts first reached gate] at drained
    rw [counts last (runs_while_reachable system (fun _ => True) first last reached ran) gate]
    exact Nat.le_zero.mp (drained ▸ closed.bound)
  · intro world id thread gate reached present
    exact nested_owners thread.chain gate ((reachable_inv world reached).threads id thread present).nested

def nestedRun : List Action :=
  [.spawn, .call 0 (.tryEnter 7), .call 0 (.exchange false), .call 0 .construct,
    .call 0 (.tryEnter 7), .call 0 (.exchange false), .call 0 .construct]

theorem gate_law_nested :
    ∃ world, Reachable system world ∧ (world.calls.find 0).map (fun thread => thread.chain.length) = some 2 ∧
      operations world 7 = 1 := by
  obtain ⟨world, reached, facts⟩ := run_actions_found system nestedRun ⟨{}, ∅, 0⟩ (.start _ rfl)
    (fun world => (world.calls.find 0).map (fun thread => thread.chain.length) = some 2 ∧
      (world.shared.gateOf 7).active = 1) (by decide +kernel)
  obtain ⟨two, one⟩ := of_decide_eq_true facts
  exact ⟨world, reached, two, ((gate_law.1 world reached 7).2.1).symm.trans one⟩

end Nesting

end EncosDriver.Operation
