import EncosDriver.Operation.Reclamation

set_option autoImplicit false

namespace EncosDriver.Operation

open Lib OperationGate RegistryState

def entryRefs (state : RegistryState) : List Ref := state.entries.map fun entry => entry.ref

variable (maxHazardThreads : Nat) (state next : RegistryState)

theorem reader_step_refs (thread : Nat)
    (taken : readerStep maxHazardThreads state thread = some next) : entryRefs next = entryRefs state := by
  unfold readerStep at taken
  split at taken
  · cases taken
  · split at taken
    · split at taken <;> cases taken <;> rfl
    · cases taken
      rfl
  · cases taken
    rfl
  · obtain ⟨slot, _, same⟩ := Option.bind_eq_some_iff.mp taken
    cases same
    rfl
  · split at taken <;> cases taken <;> rfl
  · obtain ⟨snapshot, _, same⟩ := Option.bind_eq_some_iff.mp taken
    split at same
    · split at same
      · cases same
        rfl
      · obtain ⟨entry, _, same⟩ := Option.bind_eq_some_iff.mp same
        split at same <;> cases same <;> rfl
    · cases same
      rfl
  · obtain ⟨entry, _, same⟩ := Option.bind_eq_some_iff.mp taken
    cases same
    rfl
  · obtain ⟨entry, _, same⟩ := Option.bind_eq_some_iff.mp taken
    cases same
    rfl
  · obtain ⟨entry, _, same⟩ := Option.bind_eq_some_iff.mp taken
    split at same
    · cases same
      exact update_entry_refs state _ _ (fun _ => rfl)
    · cases same
      rfl
  · obtain ⟨slot, _, same⟩ := Option.bind_eq_some_iff.mp taken
    cases same
    rfl
  · obtain ⟨entry, _, same⟩ := Option.bind_eq_some_iff.mp taken
    cases same
    rfl
  · obtain ⟨slot, _, same⟩ := Option.bind_eq_some_iff.mp taken
    cases same
    rfl
  · obtain ⟨slot, _, same⟩ := Option.bind_eq_some_iff.mp taken
    cases same
    rfl

theorem not_listed_refs (state next : RegistryState) (ref : Ref) (listed : Listed state ref)
    (gone : ¬ Listed next ref) (same : entryRefs next = entryRefs state) : False := by
  rw [listed_iff] at listed gone
  exact gone (by rw [← entryRefs, same]; exact listed)

theorem registry_step_removes (action : RegistryAction)
    (taken : registryStep maxHazardThreads state action = some next) (entry : Entry) (member : entry ∈ state.entries)
    (gone : ¬ Listed next entry.ref) :
    (state.writer = .erasing ∧ entry.reclaimable = true) ∨
      (state.writer = .registering ∧ entry ∉ state.entries.dropLast) := by
  have listed : Listed state entry.ref := ⟨entry, member, rfl⟩
  have unchanged := not_listed_refs state next entry.ref listed gone
  cases action with
  | enter thread object kind =>
    simp only [registryStep, beginEnter] at taken
    split at taken
    · split at taken <;> cases taken <;> exact (unchanged rfl).elim
    · cases taken
  | reader thread => exact (unchanged (reader_step_refs maxHazardThreads state next thread taken)).elim
  | spuriousFailure thread =>
    simp only [registryStep, spuriousStep] at taken
    split at taken
    · obtain ⟨found, _, same⟩ := Option.bind_eq_some_iff.mp taken
      cases same
      exact (unchanged rfl).elim
    · cases taken
  | leave thread ref =>
    simp only [registryStep, leaveStep] at taken
    split at taken
    · obtain ⟨found, _, same⟩ := Option.bind_eq_some_iff.mp taken
      cases same
      exact (unchanged (update_entry_refs state ref _ (fun _ => rfl))).elim
    · cases taken
  | exit thread =>
    simp only [registryStep, exitStep] at taken
    split at taken
    · split at taken <;> cases taken <;> exact (unchanged rfl).elim
    · cases taken
  | register object kind address =>
    simp only [registryStep, registerStep] at taken
    split at taken
    · split at taken
      · cases taken
        exact (unchanged rfl).elim
      · cases taken
        exact (gone ⟨entry, List.mem_append_left _ member, rfl⟩).elim
    · cases taken
  | retire object kind =>
    simp only [registryStep, retireStep] at taken
    split at taken
    · split at taken
      · cases taken
        exact (unchanged rfl).elim
      · split at taken
        · cases taken
          exact (unchanged (update_entry_refs state _ _ (fun _ => rfl))).elim
        · cases taken
          exact (unchanged rfl).elim
    · cases taken
  | reclaim object kind =>
    simp only [registryStep, reclaimStep] at taken
    split at taken
    · cases taken
      exact (unchanged rfl).elim
    · cases taken
  | publish address =>
    simp only [registryStep, publishStep] at taken
    split at taken
    · cases taken
      exact (unchanged rfl).elim
    · cases taken
  | publishFails =>
    simp only [registryStep, publishFailsStep] at taken
    split at taken
    · rename_i writer
      cases taken
      exact .inr ⟨writer, fun kept => gone ⟨entry, kept, rfl⟩⟩
    · cases taken
      exact (unchanged rfl).elim
    · cases taken
  | writer =>
    simp only [registryStep, writerStep] at taken
    split at taken
    · cases taken
      exact (unchanged (update_entry_refs state _ _ (fun _ => rfl))).elim
    · split at taken
      · cases taken
        exact (unchanged (modify_refs state.entries _ _ _)).elim
      · cases taken
        exact (unchanged rfl).elim
    · split at taken
      · split at taken
        · cases taken
        · cases taken
          exact (unchanged rfl).elim
      · cases taken
        exact (unchanged rfl).elim
    · rename_i writer
      cases taken
      refine .inl ⟨writer, ?_⟩
      by_contra kept
      exact gone ⟨entry, List.mem_filter.mpr ⟨member, by simpa using kept⟩, rfl⟩
    · cases taken

def ReaderPc.snapshotTouched : ReaderPc → Option Ref
  | .find _ _ snapshot _ => some snapshot
  | _ => none

def entryTouched (state : RegistryState) : ReaderPc → Option Ref
  | .find object kind ref probe => do
      let snapshot ← state.liveSnapshot ref
      if probe ≤ snapshot.maxProbe then snapshot.probeSlot object kind probe else none
  | .loadRegistered _ entry | .loadGate _ entry | .exchangeGate _ entry _ | .notify entry => some entry
  | _ => none

-- No thread is about to touch freed memory, a held operation can still be left,
-- and no step removes an entry whose gate counts an operation.
structure RegistrySafe (maxHazardThreads : Nat) (state : RegistryState) : Prop where
  snapshots : ∀ thread ref, (state.readers thread).pc.snapshotTouched = some ref →
    (state.liveSnapshot ref).isSome = true
  entries : ∀ thread ref, entryTouched state (state.readers thread).pc = some ref →
    (state.liveEntry ref).isSome = true
  held : ∀ thread ref, (thread, ref) ∈ state.entered → (state.liveEntry ref).isSome = true
  erased : ∀ action next, registryStep maxHazardThreads state action = some next →
    ∀ entry ∈ state.entries, (next.liveEntry entry.ref).isSome = false →
      entry.gate.active = 0 ∧ ∀ token ∈ state.entered, token.2 ≠ entry.ref

def NotifiedBeforeErase (state : RegistryState) (action : RegistryAction) : Prop :=
  action = .writer → state.writer = .erasing → ∀ thread ref, (state.readers thread).pc = .notify ref →
    ∀ entry ∈ state.entries, entry.ref = ref → entry.reclaimable = false

theorem registry_step_inv (action : RegistryAction)
    (inv : RegistryInv maxHazardThreads state) (notified : NotifiedBeforeErase state action)
    (taken : registryStep maxHazardThreads state action = some next) : RegistryInv maxHazardThreads next := by
  cases action with
  | enter thread object kind =>
    simp only [registryStep] at taken
    split at taken
    · cases taken
      exact enter_inv maxHazardThreads state thread object kind inv
    · cases taken
  | reader thread => exact reader_step_inv maxHazardThreads state next thread inv taken
  | spuriousFailure thread => exact spurious_inv maxHazardThreads state next thread inv taken
  | leave thread ref => exact leave_inv maxHazardThreads state next thread ref inv taken
  | exit thread => exact exit_inv maxHazardThreads state next thread inv taken
  | register object kind address => exact register_inv maxHazardThreads state next object address kind inv taken
  | retire object kind => exact retire_inv maxHazardThreads state next object kind inv taken
  | reclaim object kind => exact reclaim_inv maxHazardThreads state next object kind inv taken
  | publish address => exact publish_inv maxHazardThreads state next address inv taken
  | publishFails => exact publish_fails_inv maxHazardThreads state next inv taken
  | writer =>
    simp only [registryStep, writerStep] at taken
    split at taken
    · rename_i ref writer
      cases taken
      exact retiring_step_inv maxHazardThreads state ref inv writer
    · rename_i object kind index writer
      split at taken
      · cases taken
        exact marking_step_inv maxHazardThreads state object kind index inv writer
      · cases taken
        refine writer_moves_inv maxHazardThreads state _ inv ?_ ?_ (by simp) (by simp) (by simp)
        · intro previous waited
          rw [writer]
          simp
        · intro ref
          rw [writer]
          simp
    · rename_i previous slot writer
      split at taken
      · split at taken
        · cases taken
        · rename_i clear
          cases taken
          exact waiting_step_inv maxHazardThreads state previous slot inv writer clear
      · rename_i finished
        cases taken
        exact waited_step_inv maxHazardThreads state previous slot inv writer finished
    · rename_i writer
      cases taken
      exact erasing_step_inv maxHazardThreads state inv writer (notified rfl writer)
    · cases taken

theorem initial_registry_inv (maxHazardThreads : Nat) (state : RegistryState) (initial : InitialRegistry state) :
    RegistryInv maxHazardThreads state := by
  have slotless : ∀ thread, hazardSlot state thread = none := by
    intro thread
    rw [hazardSlot, initial.readers]
    rfl
  have nothing : ∀ ref, ¬ state.current.Mentions ref := by
    intro ref mentioned
    rw [initial.current] at mentioned
    obtain ⟨entry, member, _⟩ := Snapshot.build_mentions _ _ ref mentioned
    cases member
  refine ⟨⟨?_, ?_⟩, ⟨?_, ?_, ?_, ?_, ?_, ?_⟩, ⟨initial.birth, ?_, ?_, ?_, ?_, ?_⟩, ?_⟩
  · intro thread slot mine
    rw [slotless] at mine
    cases mine
  · intro first second slot mine
    rw [slotless] at mine
    cases mine
  · simp [initial.entries]
  · simp [initial.entries]
  · simp [initial.entries]
  · simp [initial.entered]
  · simp [initial.entries]
  · simp [initial.entries]
  · simp [initial.writer]
  · intro ref mentioned
    exact absurd mentioned (nothing ref)
  · simp [initial.writer]
  · simp [initial.entries]
  · simp [initial.writer]
  · intro thread
    simp [ThreadOk, initial.readers]

theorem registry_inv_safe (maxHazardThreads : Nat) (state : RegistryState) (inv : RegistryInv maxHazardThreads state) :
    RegistrySafe maxHazardThreads state := by
  obtain ⟨owners, entries, snapshots, threads⟩ := inv
  refine ⟨?_, ?_, ?_, ?_⟩
  · intro thread ref touched
    have ok := threads thread
    cases pc : (state.readers thread).pc with
    | find object kind snapshot probe =>
      rw [pc] at touched
      cases touched
      simp only [ThreadOk, pc] at ok
      obtain ⟨snapshot, live, _⟩ := protects_live state snapshots thread ref ok
      rw [live]
      rfl
    | _ =>
      rw [pc] at touched
      cases touched
  · intro thread ref touched
    apply live_entry_of_listed
    have ok := threads thread
    cases pc : (state.readers thread).pc with
    | find object kind snapshot probe =>
      rw [pc] at touched
      simp only [ThreadOk, pc] at ok
      obtain ⟨found, live, included⟩ := protects_live state snapshots thread snapshot ok
      simp only [entryTouched, live, Option.bind_eq_bind, Option.bind_some] at touched
      split at touched
      · exact included ref (found.probe_slot_mentions object kind probe ref touched)
      · cases touched
    | loadRegistered snapshot entry | loadGate snapshot entry | exchangeGate snapshot entry expected =>
      rw [pc] at touched
      cases touched
      simp only [ThreadOk, pc] at ok
      exact mentioned_listed state snapshots thread snapshot ref ok.1 ok.2
    | notify entry =>
      rw [pc] at touched
      cases touched
      simp only [ThreadOk, pc] at ok
      exact ok
    | _ =>
      rw [pc] at touched
      cases touched
  · intro thread ref held
    exact live_entry_of_listed state ref (entries.entered (thread, ref) held)
  · intro action next taken entry member gone
    have unlisted : ¬ Listed next entry.ref := by
      intro listed
      rw [live_entry_of_listed next entry.ref listed] at gone
      cases gone
    obtain ⟨retiring, holds⟩ := entries.counted entry member
    have active := holds_active entry.gate retiring _ holds
    have idle : tokens state entry.ref = 0 := by
      rcases registry_step_removes maxHazardThreads state next action taken entry member unlisted with
        ⟨_, marked⟩ | ⟨writer, dropped⟩
      · rw [← active]
        exact (entries.reclaimable entry member marked).2.2
      · obtain ⟨earlier, last, appended, _, untouched, _⟩ := snapshots.registering writer
        rw [appended, List.dropLast_concat] at dropped
        rw [appended] at member
        rcases List.mem_append.mp member with old | new
        · exact absurd old dropped
        · rw [tokens, List.countP_eq_zero, List.mem_singleton.mp new]
          intro token held
          simpa using untouched token held
    refine ⟨active.trans idle, ?_⟩
    intro token held same
    rw [tokens, List.countP_eq_zero] at idle
    exact idle token held (by simpa using same)

theorem early_erase_unsafe (action : RegistryAction)
    (inv : RegistryInv maxHazardThreads state) (early : ¬ NotifiedBeforeErase state action)
    (taken : registryStep maxHazardThreads state action = some next) : ¬ RegistrySafe maxHazardThreads next := by
  intro safe
  apply early
  intro isWriter writer thread ref pc entry member same
  by_contra marked
  rw [Bool.not_eq_false] at marked
  subst isWriter
  simp only [registryStep, writerStep, writer] at taken
  cases taken
  have live := safe.entries thread ref (by simp only [pc, entryTouched])
  obtain ⟨other, kept, here⟩ := listed_of_live_entry _ ref live
  obtain ⟨listed, unmarked⟩ := List.mem_filter.mp kept
  have found := entry_unique state.entries inv.entries.distinct entry other member listed (same.trans here.symm)
  rw [← found, marked] at unmarked
  cases unmarked

/-- Under the condition every reachable state is safe; a step that breaks it leads to an unsafe one. -/
theorem registry_reclamation_safe (maxHazardThreads : Nat) (state : RegistryState)
    (reached : ReachableWith (registry maxHazardThreads) NotifiedBeforeErase state) :
    RegistrySafe maxHazardThreads state ∧
      ∀ action next, registryStep maxHazardThreads state action = some next →
        ¬ NotifiedBeforeErase state action → ¬ RegistrySafe maxHazardThreads next := by
  have inv : RegistryInv maxHazardThreads state := by
    refine reachable_invariant (registry maxHazardThreads) NotifiedBeforeErase (RegistryInv maxHazardThreads)
      (initial_registry_inv maxHazardThreads) ?_ state reached
    intro before action after inv notified taken
    exact registry_step_inv maxHazardThreads before after action inv notified taken
  refine ⟨registry_inv_safe maxHazardThreads state inv, ?_⟩
  intro action next taken early
  exact early_erase_unsafe maxHazardThreads state next action inv early taken

def emptyRegistry : RegistryState where
  current := Snapshot.build ⟨64, 0⟩ []
  entries := []
  hazards := fun _ => {}
  readers := fun _ => {}
  entered := []
  writer := .idle
  nextBirth := 1

theorem empty_registry_initial : InitialRegistry emptyRegistry :=
  ⟨rfl, by decide, rfl, fun _ => rfl, fun _ => rfl, rfl, rfl⟩

def firstEntry : Ref := ⟨4096, 1⟩

def registerAndEnter : List RegistryAction :=
  [.register 65536 .motor 4096, .publish 128, .writer, .writer, .writer, .enter 0 65536 .motor] ++
    List.replicate 9 (.reader 0)

def erasesNothing (state : RegistryState) (action : RegistryAction) : Bool :=
  decide (action ≠ .writer) || decide (state.writer ≠ .erasing) || state.entries.all fun entry => !entry.reclaimable

theorem erases_nothing_sound (state : RegistryState) (action : RegistryAction)
    (nothing : erasesNothing state action = true) : NotifiedBeforeErase state action := by
  intro isWriter erasing _ _ _ entry member _
  simp only [erasesNothing, isWriter, erasing, ne_eq, not_true_eq_false, decide_false, Bool.false_or,
    List.all_eq_true, Bool.not_eq_true'] at nothing
  exact nothing entry member

theorem registry_reclamation_safe_entered :
    ∃ state, ReachableWith (registry 1) NotifiedBeforeErase state ∧ (0, firstEntry) ∈ state.entered ∧
      RegistrySafe 1 state := by
  have ran : (runChecked (registry 1) erasesNothing emptyRegistry registerAndEnter).map (fun state => state.entered) =
      some [(0, firstEntry)] := by
    decide +kernel
  obtain ⟨final, run, entered⟩ := Option.map_eq_some_iff.mp ran
  have start : ReachableWith (registry 1) NotifiedBeforeErase emptyRegistry := .start _ empty_registry_initial
  have reached := run_checked_reachable (registry 1) NotifiedBeforeErase erasesNothing erases_nothing_sound _ _ final
    start run
  refine ⟨final, reached, ?_, (registry_reclamation_safe 1 final reached).1⟩
  rw [entered]
  exact List.mem_singleton.mpr rfl

def reclaimInsideLeave : List RegistryAction :=
  registerAndEnter ++ [.retire 65536 .motor, .writer, .leave 0 firstEntry, .reclaim 65536 .motor, .writer, .writer,
    .publish 64, .writer, .writer, .writer]

theorem registry_reclamation_unsafe :
    ¬ ∀ maxHazardThreads state, Reachable (registry maxHazardThreads) state → RegistrySafe maxHazardThreads state := by
  intro claimed
  have ran : (runActions (registry 1) emptyRegistry reclaimInsideLeave).map
      (fun state => ((state.readers 0).pc, state.liveEntry firstEntry)) = some (.notify firstEntry, none) := by
    decide +kernel
  obtain ⟨final, run, ends⟩ := Option.map_eq_some_iff.mp ran
  obtain ⟨pc, freed⟩ := Prod.mk.inj ends
  have start : Reachable (registry 1) emptyRegistry := .start _ empty_registry_initial
  have reached := run_actions_reachable (registry 1) reclaimInsideLeave _ final start run
  have live := (claimed 1 final reached).entries 0 firstEntry (by rw [pc]; rfl)
  rw [freed] at live
  cases live

end EncosDriver.Operation
