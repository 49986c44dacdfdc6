import EncosDriver.Operation.GateSteps

set_option autoImplicit false

namespace EncosDriver.Operation

open Lib OperationGate RegistryState

/-- A writer step leaves the threads and their hazards alone; what a thread relies on survives if its snapshot stays
protected and its notified entry stays listed. -/
theorem writer_thread_ok (state next : RegistryState) (thread : Nat) (readers : next.readers = state.readers)
    (hazards : next.hazards = state.hazards)
    (protects : ∀ snapshot, Protects state thread snapshot →
      Protects next thread snapshot ∧ next.liveSnapshot snapshot = state.liveSnapshot snapshot)
    (listed : ∀ ref, (state.readers thread).pc = .notify ref → Listed state ref → Listed next ref)
    (ok : ThreadOk state thread) : ThreadOk next thread := by
  have owned : hazardSlot next thread = hazardSlot state thread := by
    rw [hazardSlot, hazardSlot, readers]
  have mentions : ∀ snapshot entry, Protects state thread snapshot ∧ Mentioned state snapshot entry →
      Protects next thread snapshot ∧ Mentioned next snapshot entry := by
    intro snapshot entry relied
    obtain ⟨guarded, found, live, included⟩ := relied
    obtain ⟨guardedNext, same⟩ := protects snapshot guarded
    exact ⟨guardedNext, found, same.trans live, included⟩
  unfold ThreadOk at ok ⊢
  rw [readers]
  cases pc : (state.readers thread).pc with
  | recheckCurrent object kind address =>
    rw [pc] at ok
    obtain ⟨slot, mine, announced⟩ := ok
    exact ⟨slot, owned.trans mine, by rw [hazards]; exact announced⟩
  | find object kind snapshot probe =>
    rw [pc] at ok
    exact (protects snapshot ok).1
  | loadRegistered snapshot entry | loadGate snapshot entry | exchangeGate snapshot entry expected =>
    rw [pc] at ok
    exact mentions snapshot entry ok
  | notify entry =>
    rw [pc] at ok
    exact listed entry pc ok
  | _ => trivial

def NotWaiting (state : RegistryState) : Prop := ∀ previous waited, state.writer ≠ .waiting previous waited

theorem protects_published (state next : RegistryState) (thread : Nat) (readers : next.readers = state.readers)
    (hazards : next.hazards = state.hazards) (current : next.current = state.current) (before : NotWaiting state)
    (snapshot : Ref) (guarded : Protects state thread snapshot) :
    Protects next thread snapshot ∧ next.liveSnapshot snapshot = state.liveSnapshot snapshot := by
  obtain ⟨slot, mine, announced, published | ⟨previous, waited, writer, _⟩⟩ := guarded
  · refine ⟨⟨slot, ?_, ?_, .inl ?_⟩, ?_⟩
    · rw [hazardSlot, readers]
      exact mine
    · rw [hazards]
      exact announced
    · rw [current]
      exact published
    · rw [liveSnapshot, liveSnapshot, current, if_pos published, if_pos published]
  · exact absurd writer (before previous waited)

variable (maxHazardThreads : Nat) (state next : RegistryState)

theorem writer_owners (readers : next.readers = state.readers)
    (hazards : next.hazards = state.hazards) (owners : OwnersInv maxHazardThreads state) :
    OwnersInv maxHazardThreads next := by
  have owned : ∀ thread, hazardSlot next thread = hazardSlot state thread := by
    intro thread
    rw [hazardSlot, hazardSlot, readers]
  refine ⟨?_, ?_⟩
  · intro thread slot mine
    rw [owned] at mine
    rw [hazards]
    exact owners.claimed thread slot mine
  · intro first second slot mine theirs
    rw [owned] at mine theirs
    exact owners.unique first second slot mine theirs

theorem snapshots_same (current : next.current = state.current)
    (births : state.nextBirth ≤ next.nextBirth) (after : NotWaiting next) (erasing : next.writer ≠ .erasing)
    (registering : next.writer ≠ .registering) (listed : ∀ ref, Listed state ref → Listed next ref)
    (snapshots : SnapshotsInv state) : SnapshotsInv next := by
  refine ⟨?_, ?_, ?_, ?_, ?_, ?_⟩
  · rw [current]
    exact Nat.lt_of_lt_of_le snapshots.birth births
  · intro previous slot writer
    exact absurd writer (after previous slot)
  · intro ref mentioned
    rw [current] at mentioned
    exact listed ref (snapshots.current ref mentioned)
  · intro previous slot writer
    exact absurd writer (after previous slot)
  · intro busy
    rcases busy with busy | ⟨previous, slot, busy⟩
    · exact absurd busy erasing
    · exact absurd busy (after previous slot)
  · intro writer
    exact absurd writer registering

theorem register_inv (object address : Nat) (kind : OperationKind) (inv : RegistryInv maxHazardThreads state)
    (taken : registerStep state object kind address = some next) : RegistryInv maxHazardThreads next := by
  unfold registerStep at taken
  split at taken
  · rename_i ready
    obtain ⟨idle, _⟩ := ready
    split at taken
    · cases taken
      exact inv
    · cases taken
      obtain ⟨owners, entries, snapshots, threads⟩ := inv
      have before : NotWaiting state := by
        intro previous waited
        rw [idle]
        simp
      have grown : ∀ ref, Listed state ref → Listed { state with
          entries := state.entries ++ [⟨⟨address, state.nextBirth⟩, object, kind, {}, true, false⟩]
          nextBirth := state.nextBirth + 1
          writer := .registering } ref := by
        intro ref listed
        obtain ⟨entry, member, same⟩ := listed
        exact ⟨entry, List.mem_append_left _ member, same⟩
      have unseen : ∀ ref, Listed state ref → ref ≠ ⟨address, state.nextBirth⟩ := by
        intro ref listed same
        obtain ⟨entry, member, here⟩ := listed
        have born := entries.births entry member
        rw [here, same] at born
        exact Nat.lt_irrefl _ born
      have untouched : ∀ token ∈ state.entered, token.2 ≠ ⟨address, state.nextBirth⟩ := by
        intro token member
        exact unseen token.2 (entries.entered token member)
      refine ⟨writer_owners maxHazardThreads state _ rfl rfl owners, ⟨?_, ?_, ?_, ?_, ?_, ?_⟩,
        ⟨?_, ?_, ?_, ?_, ?_, ?_⟩, ?_⟩
      · intro entry member
        rcases List.mem_append.mp member with old | new
        · exact Nat.lt_succ_of_lt (entries.births entry old)
        · rw [List.mem_singleton.mp new]
          exact Nat.lt_succ_self _
      · rw [List.map_append, List.map_singleton, List.nodup_append]
        refine ⟨entries.distinct, by simp, ?_⟩
        intro ref old other new
        rw [List.mem_singleton.mp new]
        exact unseen ref ((listed_iff state ref).mpr old)
      · intro entry member
        rcases List.mem_append.mp member with old | new
        · exact entries.counted entry old
        · rw [List.mem_singleton.mp new]
          refine ⟨false, ?_⟩
          have unheld : state.entered.countP (fun token => token.2 = ⟨address, state.nextBirth⟩) = 0 := by
            rw [List.countP_eq_zero]
            intro token member
            simpa using untouched token member
          rw [tokens, unheld]
          exact initial_holds
      · intro token member
        exact grown token.2 (entries.entered token member)
      · intro entry member marked
        rcases List.mem_append.mp member with old | new
        · exact entries.reclaimable entry old marked
        · rw [List.mem_singleton.mp new] at marked
          cases marked
      · intro entry member gone
        rcases List.mem_append.mp member with old | new
        · rcases entries.unregistered entry old gone with retiring | writer
          · exact .inl retiring
          · rw [idle] at writer
            cases writer
        · rw [List.mem_singleton.mp new] at gone
          cases gone
      · exact Nat.lt_succ_of_lt snapshots.birth
      · intro previous slot writer
        cases writer
      · intro ref mentioned
        exact grown ref (snapshots.current ref mentioned)
      · intro previous slot writer
        cases writer
      · intro busy
        rcases busy with busy | ⟨previous, slot, busy⟩ <;> cases busy
      · intro _
        refine ⟨state.entries, _, rfl, ?_, untouched, ?_⟩
        · intro mentioned
          exact unseen _ (snapshots.current _ mentioned) rfl
        · intro thread notifying
          have pc : (state.readers thread).pc = .notify ⟨address, state.nextBirth⟩ := notifying
          have ok := threads thread
          simp only [ThreadOk, pc] at ok
          exact unseen _ ok rfl
      · intro thread
        exact writer_thread_ok state _ thread rfl rfl (protects_published state _ thread rfl rfl rfl before)
          (fun ref _ listed => grown ref listed) (threads thread)
  · cases taken

theorem retire_inv (object : Nat) (kind : OperationKind)
    (inv : RegistryInv maxHazardThreads state) (taken : retireStep state object kind = some next) :
    RegistryInv maxHazardThreads next := by
  unfold retireStep at taken
  split at taken
  · rename_i idle
    split at taken
    · cases taken
      exact inv
    · rename_i entry found
      split at taken
      · cases taken
        obtain ⟨owners, entries, snapshots, threads⟩ := inv
        have before : NotWaiting state := by
          intro previous waited
          rw [idle]
          simp
        have kept : ∀ ref, Listed state ref →
            Listed (state.updateEntry entry.ref fun entry => { entry with registered := false }) ref := by
          intro ref
          exact (listed_update_entry state entry.ref ref (fun entry => { entry with registered := false })
            (fun _ => rfl)).mpr
        refine ⟨writer_owners maxHazardThreads state _ rfl rfl owners, ⟨?_, ?_, ?_, ?_, ?_, ?_⟩,
          snapshots_same state _ rfl (Nat.le_refl _) (by simp [NotWaiting]) (by simp) (by simp) kept snapshots, ?_⟩
        · intro after member
          obtain ⟨old, listed, ⟨_, rfl⟩ | ⟨_, rfl⟩⟩ := update_entry_cases state entry.ref _ after member
          · exact entries.births old listed
          · exact entries.births _ listed
        · have refs := update_entry_refs state entry.ref (fun entry => { entry with registered := false }) (fun _ => rfl)
          exact refs ▸ entries.distinct
        · intro after member
          obtain ⟨old, listed, ⟨_, rfl⟩ | ⟨_, rfl⟩⟩ := update_entry_cases state entry.ref _ after member
          · exact entries.counted old listed
          · exact entries.counted _ listed
        · intro token member
          exact kept token.2 (entries.entered token member)
        · intro after member marked
          obtain ⟨old, listed, ⟨_, rfl⟩ | ⟨_, rfl⟩⟩ := update_entry_cases state entry.ref _ after member
          · exact ⟨rfl, (entries.reclaimable old listed marked).2⟩
          · exact entries.reclaimable _ listed marked
        · intro after member gone
          obtain ⟨old, listed, ⟨same, rfl⟩ | ⟨_, rfl⟩⟩ := update_entry_cases state entry.ref _ after member
          · exact .inr (by rw [same])
          · rcases entries.unregistered _ listed gone with retiring | writer
            · exact .inl retiring
            · rw [idle] at writer
              cases writer
        · intro thread
          exact writer_thread_ok state _ thread rfl rfl (protects_published state _ thread rfl rfl rfl before)
            (fun ref _ listed => kept ref listed) (threads thread)
      · cases taken
        exact inv
  · cases taken

theorem writer_moves_inv (writer : WriterPc)
    (inv : RegistryInv maxHazardThreads state) (before : NotWaiting state) (retired : ∀ ref, state.writer ≠ .retiring ref)
    (after : ∀ previous waited, writer ≠ .waiting previous waited) (erasing : writer ≠ .erasing)
    (registering : writer ≠ .registering) : RegistryInv maxHazardThreads { state with writer := writer } := by
  obtain ⟨owners, entries, snapshots, threads⟩ := inv
  refine ⟨writer_owners maxHazardThreads state _ rfl rfl owners,
    ⟨entries.births, entries.distinct, entries.counted, entries.entered, entries.reclaimable, ?_⟩,
    snapshots_same state _ rfl (Nat.le_refl _) after erasing registering (fun _ listed => listed) snapshots, ?_⟩
  · intro entry member gone
    exact .inl ((entries.unregistered entry member gone).resolve_right (retired entry.ref))
  · intro thread
    exact writer_thread_ok state _ thread rfl rfl (protects_published state _ thread rfl rfl rfl before)
      (fun _ _ listed => listed) (threads thread)

theorem reclaim_inv (object : Nat) (kind : OperationKind)
    (inv : RegistryInv maxHazardThreads state) (taken : reclaimStep state object kind = some next) :
    RegistryInv maxHazardThreads next := by
  unfold reclaimStep at taken
  split at taken
  · rename_i idle
    cases taken
    refine writer_moves_inv maxHazardThreads state _ inv ?_ ?_ (by simp) (by simp) (by simp)
    · intro previous waited
      rw [idle]
      simp
    · intro ref
      rw [idle]
      simp
  · cases taken

theorem address_free_current (address : Nat) (free : state.addressFree address = true) : state.current.ref.address ≠ address := by
  simp only [addressFree, Bool.and_eq_true, decide_eq_true_eq] at free
  exact free.1.2

theorem publish_inv (address : Nat) (inv : RegistryInv maxHazardThreads state) (taken : publishStep state address = some next) :
    RegistryInv maxHazardThreads next := by
  unfold publishStep at taken
  split at taken
  · rename_i ready
    obtain ⟨writer, free⟩ := ready
    cases taken
    obtain ⟨owners, entries, snapshots, threads⟩ := inv
    have before : NotWaiting state := by
      intro previous waited
      rcases writer with writer | writer <;> rw [writer] <;> simp
    have apart := address_free_current state address free
    have older : (Snapshot.build ⟨address, state.nextBirth⟩ state.entries).ref ≠ state.current.ref := by
      rw [Snapshot.build_ref]
      intro same
      apply apart
      rw [← same]
    have built : ∀ ref, (Snapshot.build ⟨address, state.nextBirth⟩ state.entries).Mentions ref →
        ∃ entry ∈ state.entries, entry.registered = true ∧ entry.ref = ref := by
      intro ref mentioned
      exact Snapshot.build_mentions _ _ ref mentioned
    refine ⟨writer_owners maxHazardThreads state _ rfl rfl owners,
      ⟨?_, entries.distinct, entries.counted, entries.entered, entries.reclaimable, ?_⟩,
      ⟨?_, ?_, ?_, ?_, ?_, ?_⟩, ?_⟩
    · intro entry member
      exact Nat.lt_succ_of_lt (entries.births entry member)
    · intro entry member gone
      rcases entries.unregistered entry member gone with retiring | busy
      · exact .inl retiring
      · rcases writer with writer | writer <;> rw [writer] at busy <;> cases busy
    · rw [Snapshot.build_ref]
      exact Nat.lt_succ_self _
    · intro previous slot waiting
      cases waiting
      rw [Snapshot.build_ref]
      exact apart
    · intro ref mentioned
      obtain ⟨entry, member, _, same⟩ := built ref mentioned
      exact ⟨entry, member, same⟩
    · intro previous slot waiting ref mentioned
      cases waiting
      exact snapshots.current ref mentioned
    · intro _ entry member mentioned
      obtain ⟨other, listed, registered, same⟩ := built entry.ref mentioned
      rw [← entry_unique state.entries entries.distinct other entry listed member same]
      exact registered
    · intro registering
      cases registering
    · intro thread
      refine writer_thread_ok state _ thread rfl rfl ?_ (fun _ _ listed => listed) (threads thread)
      intro snapshot guarded
      obtain ⟨slot, mine, announced, published | ⟨previous, waited, waiting, _⟩⟩ := guarded
      · refine ⟨⟨slot, mine, announced, .inr ⟨state.current, 0, rfl, published, Nat.zero_le _⟩⟩, ?_⟩
        rw [published] at older
        rw [liveSnapshot, liveSnapshot, if_neg older, if_pos published]
        simp only [published, ↓reduceIte]
      · exact absurd waiting (before previous waited)
  · cases taken

end EncosDriver.Operation
