import EncosDriver.Motor.Waiter

set_option autoImplicit false

namespace EncosDriver.Motor

open Lib Message World

variable (shared : Shared)

theorem unlocked_some (id : Nat) (waiter : Waiter) (free : shared.unlocked id = some waiter) :
    shared.waiters.find id = some waiter ∧ waiter.locked = none := by
  obtain ⟨at_, unheld⟩ := Option.filter_eq_some_iff.mp free
  exact ⟨at_, Option.isNone_iff_eq_none.mp unheld⟩

theorem later_refl (id : Nat) (shared : Shared) : Later id shared shared where
  kept := fun _ waiter at_ => ⟨waiter, at_, fun cancelled => cancelled⟩
  absent := fun _ _ absent => absent
  held := fun _ _ _ held => ⟨held, rfl⟩
  accepted := fun _ member => member
  rejecting := fun rejecting => rejecting
  idle := fun _ idle => idle

theorem inv_quiet (state : State) (id : Nat) (call next : Call) (inv : WaiterInv state) (present : state.calls.find id = some call)
    (own : CallOk state.shared id next) (same : call.operating = next.operating) :
    WaiterInv (state.advance id ⟨state.shared, next, none⟩) :=
  inv_advance state id call next state.shared inv present (later_refl id state.shared) inv.store own (by rw [same]) fun _ found => .inl found

theorem later_set (id : Nat) (shared : Shared) (visited : Nat) (waiter new : Waiter) (at_ : shared.waiters.find visited = some waiter)
    (marked : waiter.cancelled = true → new.cancelled = true) (mine : ∀ holder, waiter.locked = some holder → holder = id) :
    Later id shared (shared.setWaiter visited new) where
  kept := by
    intro other found located
    by_cases same : other = visited
    · subst same
      cases at_.symm.trans located
      exact ⟨new, Table.put_same _ _ _, marked⟩
    · exact ⟨found, (Table.put_other _ _ _ _ same).trans located, fun cancelled => cancelled⟩
  absent := by
    intro other _ absent
    have different : other ≠ visited := by
      rintro rfl
      cases at_.symm.trans absent
    exact (Table.put_other _ _ _ _ different).trans absent
  held := by
    rintro other holder others ⟨found, located, locked⟩
    have different : other ≠ visited := by
      rintro rfl
      cases at_.symm.trans located
      exact others (mine holder locked)
    exact ⟨⟨found, (Table.put_other _ _ _ _ different).trans located, locked⟩, rfl⟩
  accepted := fun _ member => member
  rejecting := fun rejecting => rejecting
  idle := fun _ idle => idle

theorem set_found (visited other : Nat) (waiter new : Waiter) (at_ : shared.waiters.find visited = some waiter) :
    (shared.setWaiter visited new).waiters.find other ≠ none ↔ shared.waiters.find other ≠ none := by
  simp only [Shared.setWaiter, Table.find_put]
  split
  · next same => simp [same, at_]
  · rfl

theorem store_set (visited : Nat) (waiter new : Waiter) (store : StoreOk shared)
    (at_ : shared.waiters.find visited = some waiter) (fine : WaiterOk shared.started shared.finished visited new) :
    StoreOk (shared.setWaiter visited new) := by
  have found (other : Nat) := set_found shared visited other waiter new at_
  refine ⟨?_, ?_, ?_, store.accepted, ?_, store.closed⟩
  · intro other old located
    simp only [Shared.setWaiter, Table.find_put] at located
    split at located
    · next same =>
        cases located
        exact same ▸ fine
    · exact store.waiters other old located
  · exact fun entry member => (found entry.1).mpr (store.startedKnown entry member)
  · exact fun entry member => (found entry.1).mpr (store.finishedKnown entry member)
  · exact fun other member => (found other).mpr (store.listed other member)

theorem inv_set (state : State) (id : Nat) (call next : Call) (inv : WaiterInv state) (present : state.calls.find id = some call)
    (visited : Nat) (waiter new : Waiter) (at_ : state.shared.waiters.find visited = some waiter)
    (fine : WaiterOk state.shared.started state.shared.finished visited new) (marked : waiter.cancelled = true → new.cancelled = true)
    (mine : ∀ holder, waiter.locked = some holder → holder = id) (own : CallOk (state.shared.setWaiter visited new) id next)
    (same : call.operating = next.operating) : WaiterInv (state.advance id ⟨state.shared.setWaiter visited new, next, none⟩) := by
  refine inv_advance state id call next _ inv present (later_set id _ visited waiter new at_ marked mine)
    (store_set _ visited waiter new inv.store at_ fine) own (by rw [same]; rfl) ?_
  exact fun other found => .inl ((set_found _ visited other waiter new at_).mp found)

theorem set_known (visited : Nat) (waiter new : Waiter) (at_ : shared.waiters.find visited = some waiter)
    (ids : List Nat) (known : shared.Known ids) : (shared.setWaiter visited new).Known ids :=
  fun other member => (set_found shared visited other waiter new at_).mpr (known other member)

theorem cancelled_ok (started finished : List (Nat × MotorPackMsg)) (id : Nat) (waiter : Waiter)
    (fine : WaiterOk started finished id waiter) (locked : Option Nat) (free : locked = none) :
    WaiterOk started finished id { waiter with locked := locked, cancelled := true } := by
  subst free
  exact ⟨fun held => absurd rfl held, fine.completed, (fun _ _ open_ => by cases open_), fine.once⟩

variable (state next : State)

theorem send_inv (id : Nat) (answer : Answer) (message : MotorPackMsg) (pc : SendPc) (inv : WaiterInv state)
    (present : state.calls.find id = some (.sendAndWait message pc))
    (taken : (sendAndWaitErased state.shared id answer message pc).map (fun move => state.advance id move) = some next) :
    WaiterInv next := by
  have fine := inv.calls id _ present
  have positive := amount_le_tally Call.operating state id _ present
  rw [← inv.counted] at positive
  cases pc with
  | entering =>
    simp only [sendAndWaitErased] at taken
    split at taken
    · cases taken
      exact inv_quiet state id _ _ inv present (.inr ⟨rfl, fine⟩) rfl
    · next open_ =>
        cases taken
        have absent : state.shared.waiters.find id = none := fine
        have other (found : Nat) (known : state.shared.waiters.find found ≠ none) :
            (state.shared.register id).waiters.find found = state.shared.waiters.find found := by
          refine Table.put_other _ _ _ _ ?_
          rintro rfl
          exact known absent
        have unstarted : entriesOf id state.shared.started = [] := by
          refine List.filter_eq_nil_iff.mpr fun entry member same => ?_
          simp only [decide_eq_true_eq] at same
          exact inv.store.startedKnown entry member (same ▸ absent)
        refine inv_advance state id _ _ _ inv present ?_ ?_ ?_ ?_ ?_
        · refine ⟨?_, ?_, ?_, fun _ member => member, fun rejecting => absurd rejecting open_, fun rejecting => absurd rejecting open_⟩
          · intro found waiter at_
            exact ⟨waiter, (other found (by rw [at_]; exact Option.some_ne_none _)).trans at_, fun cancelled => cancelled⟩
          · intro found different missing
            exact (Table.put_other _ _ _ _ different).trans missing
          · rintro found holder _ ⟨waiter, at_, locked⟩
            exact ⟨⟨waiter, (other found (by rw [at_]; exact Option.some_ne_none _)).trans at_, locked⟩, rfl⟩
        · have kept (found : Nat) (known : state.shared.waiters.find found ≠ none) :
              (state.shared.register id).waiters.find found ≠ none := by rw [other found known]; exact known
          refine ⟨?_, ?_, ?_, inv.store.accepted, ?_, fun rejecting => absurd rejecting open_⟩
          · intro found waiter located
            simp only [Shared.register, Table.find_put] at located
            split at located
            · next same =>
                cases located
                subst same
                refine ⟨fun held => absurd rfl held, ?_, fun _ _ _ => unstarted, by simp [Shared.register, unstarted]⟩
                refine ⟨fun completed => absurd completed Bool.false_ne_true, ?_⟩
                rintro ⟨response, member⟩
                exact absurd absent (inv.store.finishedKnown _ member)
            · exact inv.store.waiters found waiter located
          · exact fun entry member => kept entry.1 (inv.store.startedKnown entry member)
          · exact fun entry member => kept entry.1 (inv.store.finishedKnown entry member)
          · intro found member
            rcases List.mem_append.mp member with old | new
            · exact kept found (inv.store.listed found old)
            · rw [List.mem_singleton.mp new]
              simp [Shared.register]
        · simp [CallOk, Shared.register]
        · simp [Shared.register, Call.operating]
        · intro found known
          simp only [Shared.register, Table.find_put] at known
          split at known
          · next same => exact .inr same
          · exact .inl known
  | registered =>
    cases answer with
    | throws =>
      cases taken
      exact inv_quiet state id _ _ inv present fine rfl
    | _ =>
      cases taken
      refine inv_advance state id _ _ _ inv present ?_ { inv.store with } fine rfl fun _ found => .inl found
      exact { later_refl id state.shared with }
  | sending =>
    cases answer <;> obtain rfl := Option.some.inj taken <;> exact inv_quiet state id _ _ inv present fine rfl
  | waiting =>
    simp only [sendAndWaitErased] at taken
    split at taken
    · cases taken
    · cases taken
      exact inv_quiet state id _ _ inv present fine rfl
  | leaving outcome =>
    simp only [sendAndWaitErased] at taken
    split at taken
    · cases taken
    · next waiter free =>
        cases taken
        obtain ⟨at_, unheld⟩ := unlocked_some state.shared id waiter free
        refine inv_set state id _ _ inv present id waiter _ at_ ?_ (fun _ => rfl) (by simp [unheld]) ?_ rfl
        · exact cancelled_ok _ _ id waiter (inv.store.waiters id waiter at_) waiter.locked unheld
        · exact ⟨_, Table.put_same _ _ _, rfl⟩
  | erasing outcome =>
    cases taken
    refine inv_advance state id _ _ _ inv present ?_ ?_ (.inl fine) ?_ fun _ found => .inl found
    · refine { later_refl id state.shared with idle := ?_ }
      intro _ idle
      simp [Shared.unregister, idle]
    · refine { inv.store with listed := ?_, closed := ?_ }
      · intro found member
        exact inv.store.listed found (List.mem_of_mem_filter member)
      · intro rejecting
        simp [Shared.unregister, inv.store.closed rejecting]
    · simp only [Call.operating] at positive
      simp only [Shared.unregister, Call.operating]
      omega
  | done outcome => cases taken

theorem finish_inv (state : State) (id visited : Nat) (message : MotorPackMsg) (remaining : List Nat) (waiter : Waiter)
    (inv : WaiterInv state) (present : state.calls.find id = some (.onMessage message (.writing visited remaining)))
    (at_ : state.shared.waiters.find visited = some waiter) :
    WaiterInv (state.advance id
      ⟨{ state.shared.setWaiter visited { waiter with locked := none, completed := true } with
          finished := state.shared.finished ++ [(visited, message)] },
        .onMessage message (.visiting remaining), none⟩) := by
  obtain ⟨rest, ⟨holding, held, locked⟩, started, accepted⟩ := inv.calls id _ present
  obtain rfl := Option.some.inj (at_.symm.trans held)
  have kept := inv.store.waiters visited waiter at_
  have mine : ∀ holder, waiter.locked = some holder → holder = id := fun holder held => Option.some.inj (held.symm.trans locked)
  have found (other : Nat) := set_found state.shared visited other waiter { waiter with locked := none, completed := true } at_
  refine inv_advance state id _ _ _ inv present ?_ ?_ ?_ rfl fun other known => .inl ((found other).mp known)
  · have later := later_set id state.shared visited waiter { waiter with locked := none, completed := true } at_
      (fun cancelled => cancelled) mine
    exact ⟨later.kept, later.absent, later.held, later.accepted, later.rejecting, later.idle⟩
  · refine ⟨?_, ?_, ?_, ?_, ?_, inv.store.closed⟩
    · intro other new located
      simp only [Shared.setWaiter, Table.find_put] at located
      split at located
      · next same =>
          cases located
          subst same
          refine ⟨fun held => absurd rfl held, ⟨fun _ => ⟨message, ?_⟩, fun _ => rfl⟩, (fun _ uncompleted => by cases uncompleted), kept.once⟩
          exact List.mem_append_right _ (List.mem_singleton.mpr rfl)
      · next different =>
          have old := inv.store.waiters other new located
          refine ⟨old.held, ?_, old.fresh, old.once⟩
          simp [old.completed, different]
    · exact fun entry member => (found entry.1).mpr (inv.store.startedKnown entry member)
    · intro entry member
      rcases List.mem_append.mp member with old | new
      · exact (found entry.1).mpr (inv.store.finishedKnown entry old)
      · rw [List.mem_singleton.mp new]
        exact (found visited).mpr (by rw [at_]; exact Option.some_ne_none _)
    · intro entry member
      rcases List.mem_append.mp member with old | new
      · exact inv.store.accepted entry old
      · exact List.mem_singleton.mp new ▸ accepted
    · exact fun other member => (found other).mpr (inv.store.listed other member)
  · exact set_known _ visited waiter _ at_ remaining rest

theorem receive_inv (id : Nat) (answer : Answer) (message : MotorPackMsg) (pc : ReceivePc) (inv : WaiterInv state)
    (present : state.calls.find id = some (.onMessage message pc))
    (taken : (onMessage state.shared id answer message pc).map (fun move => state.advance id move) = some next) : WaiterInv next := by
  have fine := inv.calls id _ present
  cases pc with
  | entering =>
    cases taken
    exact inv_quiet state id _ _ inv present inv.store.listed rfl
  | visiting waiting =>
    cases waiting with
    | nil =>
      cases taken
      exact inv_quiet state id _ _ inv present trivial rfl
    | cons visited remaining =>
      have rest : state.shared.Known remaining := fun other member => fine other (List.mem_cons_of_mem _ member)
      simp only [onMessage] at taken
      split at taken
      · cases taken
      · next waiter free =>
          obtain ⟨at_, unheld⟩ := unlocked_some state.shared visited waiter free
          have kept := inv.store.waiters visited waiter at_
          split at taken
          · cases taken
            exact inv_quiet state id _ _ inv present rest rfl
          · next open_ =>
              cases taken
              obtain ⟨uncancelled, uncompleted⟩ : waiter.cancelled = false ∧ waiter.completed = false := by simpa using open_
              refine inv_set state id _ _ inv present visited waiter _ at_ ?_ (fun cancelled => cancelled) (by simp [unheld]) ?_ rfl
              · exact ⟨fun _ => ⟨uncompleted, uncancelled⟩, kept.completed, (fun free => by cases free), kept.once⟩
              · exact ⟨set_known _ visited waiter _ at_ remaining rest, ⟨_, Table.put_same _ _ _, rfl⟩,
                  kept.fresh unheld uncompleted uncancelled⟩
  | checking visited remaining =>
    obtain ⟨rest, ⟨waiter, at_, locked⟩, unstarted⟩ := fine
    have kept := inv.store.waiters visited waiter at_
    have mine : ∀ holder, waiter.locked = some holder → holder = id := fun holder held => Option.some.inj (held.symm.trans locked)
    obtain ⟨uncompleted, uncancelled⟩ := kept.held (by simp [locked])
    simp only [onMessage, at_] at taken
    cases answer with
    | returns =>
      cases taken
      have others (other : Nat) (different : other ≠ visited) :
          entriesOf other (state.shared.started ++ [(visited, message)]) = entriesOf other state.shared.started := by
        simp [entriesOf, Ne.symm different]
      have own : entriesOf visited (state.shared.started ++ [(visited, message)]) = [(visited, message)] := by
        have before : state.shared.started.filter (fun entry => entry.1 = visited) = [] := unstarted
        simp [entriesOf, before]
      refine inv_advance state id _ _ _ inv present ?_ ?_ ?_ rfl fun _ found => .inl found
      · refine { later_refl id state.shared with held := ?_, accepted := fun _ member => List.mem_append_left _ member }
        rintro other holder different ⟨found, located, held⟩
        refine ⟨⟨found, located, held⟩, others other ?_⟩
        rintro rfl
        cases at_.symm.trans located
        exact different (mine holder held)
      · refine { inv.store with waiters := ?_, startedKnown := ?_, accepted := ?_ }
        · intro other found located
          have old := inv.store.waiters other found located
          by_cases same : other = visited
          · subst same
            cases at_.symm.trans located
            refine ⟨old.held, old.completed, fun free => ?_, by simp only [own, List.length_singleton, Nat.le_refl]⟩
            cases locked.symm.trans free
          · refine ⟨old.held, old.completed, ?_, ?_⟩
            · simpa only [others other same] using old.fresh
            · simpa only [others other same] using old.once
        · intro entry member
          rcases List.mem_append.mp member with old | new
          · exact inv.store.startedKnown entry old
          · rw [List.mem_singleton.mp new, at_]
            exact Option.some_ne_none _
        · exact fun entry member => List.mem_append_left _ (inv.store.accepted entry member)
      · exact ⟨rest, ⟨waiter, at_, locked⟩, own, List.mem_append_right _ (List.mem_singleton.mpr rfl)⟩
    | rejects =>
      cases taken
      refine inv_set state id _ _ inv present visited waiter _ at_ ?_ (fun cancelled => cancelled) mine ?_ rfl
      · exact ⟨fun held => absurd rfl held, kept.completed, fun _ _ _ => unstarted, kept.once⟩
      · exact set_known _ visited waiter _ at_ remaining rest
    | throws =>
      cases taken
      refine inv_set state id _ _ inv present visited waiter _ at_ ?_ (fun _ => rfl) mine ?_ rfl
      · exact cancelled_ok _ _ visited waiter kept none rfl
      · exact set_known _ visited waiter _ at_ remaining rest
  | writing visited remaining =>
    obtain ⟨rest, ⟨waiter, at_, locked⟩, started, accepted⟩ := fine
    have kept := inv.store.waiters visited waiter at_
    have mine : ∀ holder, waiter.locked = some holder → holder = id := fun holder held => Option.some.inj (held.symm.trans locked)
    simp only [onMessage, at_] at taken
    cases answer with
    | throws =>
      cases taken
      refine inv_set state id _ _ inv present visited waiter _ at_ ?_ (fun _ => rfl) mine ?_ rfl
      · exact cancelled_ok _ _ visited waiter kept none rfl
      · exact set_known _ visited waiter _ at_ remaining rest
    | _ =>
      cases taken
      exact finish_inv state id visited message remaining waiter inv present at_
  | done => cases taken

theorem after_cancelling (id : Nat) (drains : Bool) (rejecting : shared.rejectingWaiters = true) :
    CallOk shared id (.cancelWaiters drains (afterCancelling drains)) := by
  cases drains with
  | true => exact rejecting
  | false => exact ⟨rejecting, fun drained => by cases drained⟩

theorem cancel_inv (id : Nat) (drains : Bool) (pc : CancelPc) (inv : WaiterInv state)
    (present : state.calls.find id = some (.cancelWaiters drains pc))
    (taken : (cancelWaiters state.shared drains pc).map (fun move => state.advance id move) = some next) : WaiterInv next := by
  have fine := inv.calls id _ present
  cases pc with
  | entering =>
    simp only [cancelWaiters] at taken
    split at taken
    · next rejecting =>
        cases taken
        exact inv_quiet state id _ _ inv present (after_cancelling state.shared id drains rejecting) rfl
    · next open_ =>
        cases taken
        refine inv_advance state id _ _ _ inv present ?_ ?_ ⟨rfl, inv.store.listed⟩ rfl fun _ found => .inl found
        · exact { later_refl id state.shared with
            rejecting := fun _ => rfl
            idle := fun rejecting => absurd rejecting open_ }
        · exact { inv.store with
            listed := fun _ member => by cases member
            closed := fun _ => rfl }
  | cancelling waiting =>
    obtain ⟨rejecting, known⟩ := fine
    cases waiting with
    | nil =>
      cases taken
      exact inv_quiet state id _ _ inv present (after_cancelling state.shared id drains rejecting) rfl
    | cons visited remaining =>
      simp only [cancelWaiters] at taken
      split at taken
      · cases taken
      · next waiter free =>
          cases taken
          obtain ⟨at_, unheld⟩ := unlocked_some state.shared visited waiter free
          refine inv_set state id _ _ inv present visited waiter _ at_ ?_ (fun _ => rfl) (by simp [unheld]) ⟨rejecting, ?_⟩ rfl
          · exact cancelled_ok _ _ visited waiter (inv.store.waiters visited waiter at_) waiter.locked unheld
          · exact set_known _ visited waiter _ at_ remaining fun other member => known other (List.mem_cons_of_mem _ member)
  | draining =>
    simp only [cancelWaiters] at taken
    split at taken
    · next idle =>
        cases taken
        exact inv_quiet state id _ _ inv present ⟨fine, fun _ => idle⟩ rfl
    · cases taken
  | done => cases taken

theorem step_inv (action : Action) (inv : WaiterInv state) (taken : step state action = some next) :
    WaiterInv next := by
  cases action with
  | sendAndWait message =>
    cases taken
    refine inv_start state _ inv rfl ?_
    by_contra found
    exact Nat.lt_irrefl _ (inv.below _ found)
  | onMessage message | cancelWaiters drains =>
    cases taken
    exact inv_start state _ inv rfl trivial
  | run id answer =>
    simp only [step] at taken
    split at taken
    · cases taken
    · next call present =>
        cases call with
        | sendAndWait message pc => exact send_inv state next id answer message pc inv present taken
        | onMessage message pc => exact receive_inv state next id answer message pc inv present taken
        | cancelWaiters drains pc => exact cancel_inv state next id drains pc inv present taken

theorem initial_inv : WaiterInv initial where
  numbered := fun _ _ found => by cases found
  store := {
    waiters := fun _ _ found => by cases found
    startedKnown := fun _ member => by cases member
    finishedKnown := fun _ member => by cases member
    accepted := fun _ member => by cases member
    listed := fun _ member => by cases member
    closed := fun _ => rfl }
  calls := fun _ _ found => by cases found
  counted := rfl
  below := fun _ found => absurd rfl found

theorem waiter_inv (state : State) (reached : Reachable system state) : WaiterInv state :=
  reachable_invariant system Always WaiterInv (fun _ first => first ▸ initial_inv)
    (fun state action next inv _ taken => step_inv state next action inv taken) state reached

end EncosDriver.Motor
