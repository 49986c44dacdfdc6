import EncosDriver.Operation.WriterSteps

set_option autoImplicit false

namespace EncosDriver.Operation

open Lib OperationGate RegistryState

theorem publish_fails_inv (maxHazardThreads : Nat) (state next : RegistryState)
    (inv : RegistryInv maxHazardThreads state) (taken : publishFailsStep state = some next) :
    RegistryInv maxHazardThreads next := by
  unfold publishFailsStep at taken
  split at taken
  · rename_i writer
    cases taken
    obtain ⟨owners, entries, snapshots, threads⟩ := inv
    have before : NotWaiting state := by
      intro previous waited
      rw [writer]
      simp
    obtain ⟨earlier, entry, appended, absent, untouched, quiet⟩ := snapshots.registering writer
    have dropped : state.entries.dropLast = earlier := by
      rw [appended, List.dropLast_concat]
    have older : ∀ other ∈ earlier, other ∈ state.entries := by
      intro other member
      rw [appended]
      exact List.mem_append_left _ member
    have kept : ∀ ref, Listed state ref → ref ≠ entry.ref →
        Listed { state with entries := state.entries.dropLast, writer := .idle } ref := by
      intro ref listed different
      obtain ⟨other, member, same⟩ := listed
      rw [appended] at member
      rcases List.mem_append.mp member with old | new
      · exact ⟨other, by rw [dropped]; exact old, same⟩
      · rw [List.mem_singleton.mp new] at same
        exact absurd same.symm different
    refine ⟨writer_owners maxHazardThreads state _ rfl rfl owners, ⟨?_, ?_, ?_, ?_, ?_, ?_⟩,
      ⟨snapshots.birth, ?_, ?_, ?_, ?_, ?_⟩, ?_⟩
    · intro other member
      rw [dropped] at member
      exact entries.births other (older other member)
    · have distinct := entries.distinct
      rw [appended, List.map_append, List.nodup_append] at distinct
      rw [dropped]
      exact distinct.1
    · intro other member
      rw [dropped] at member
      exact entries.counted other (older other member)
    · intro token member
      exact kept token.2 (entries.entered token member) (untouched token member)
    · intro other member marked
      rw [dropped] at member
      exact entries.reclaimable other (older other member) marked
    · intro other member gone
      rw [dropped] at member
      rcases entries.unregistered other (older other member) gone with retiring | busy
      · exact .inl retiring
      · rw [writer] at busy
        cases busy
    · intro previous slot waiting
      cases waiting
    · intro ref mentioned
      refine kept ref (snapshots.current ref mentioned) ?_
      intro same
      rw [same] at mentioned
      exact absent mentioned
    · intro previous slot waiting
      cases waiting
    · intro busy
      rcases busy with busy | ⟨previous, slot, busy⟩ <;> cases busy
    · intro registering
      cases registering
    · intro thread
      refine writer_thread_ok state _ thread rfl rfl (protects_published state _ thread rfl rfl rfl before) ?_
        (threads thread)
      intro ref notifying listed
      refine kept ref listed ?_
      intro same
      rw [same] at notifying
      exact quiet thread notifying
  · rename_i writer
    cases taken
    refine writer_moves_inv maxHazardThreads state _ inv ?_ ?_ (by simp) (by simp) (by simp)
    · intro previous waited
      rw [writer]
      simp
    · intro ref
      rw [writer]
      simp
  · cases taken

variable (maxHazardThreads : Nat) (state : RegistryState)

theorem retiring_step_inv (ref : Ref) (inv : RegistryInv maxHazardThreads state) (writer : state.writer = .retiring ref) :
    RegistryInv maxHazardThreads
      { state.updateEntry ref (fun entry => { entry with gate := entry.gate.retired }) with writer := .idle } := by
  obtain ⟨owners, entries, snapshots, threads⟩ := inv
  have before : NotWaiting state := by
    intro previous waited
    rw [writer]
    simp
  have kept : ∀ other, Listed state other →
      Listed (state.updateEntry ref fun entry => { entry with gate := entry.gate.retired }) other := by
    intro other
    exact (listed_update_entry state ref other (fun entry => { entry with gate := entry.gate.retired })
      (fun _ => rfl)).mpr
  refine ⟨writer_owners maxHazardThreads state _ rfl rfl owners, ⟨?_, ?_, ?_, ?_, ?_, ?_⟩,
    snapshots_same state _ rfl (Nat.le_refl _) (by simp [NotWaiting]) (by simp) (by simp) kept snapshots, ?_⟩
  · intro after member
    obtain ⟨old, listed, ⟨_, rfl⟩ | ⟨_, rfl⟩⟩ := update_entry_cases state ref _ after member
    · exact entries.births old listed
    · exact entries.births _ listed
  · have refs := update_entry_refs state ref (fun entry => { entry with gate := entry.gate.retired }) (fun _ => rfl)
    exact refs ▸ entries.distinct
  · intro after member
    obtain ⟨old, listed, ⟨_, rfl⟩ | ⟨_, rfl⟩⟩ := update_entry_cases state ref _ after member
    · obtain ⟨retiring, holds⟩ := entries.counted old listed
      exact ⟨true, retired_holds old.gate retiring _ holds⟩
    · exact entries.counted _ listed
  · intro token member
    exact kept token.2 (entries.entered token member)
  · intro after member marked
    obtain ⟨old, listed, ⟨_, rfl⟩ | ⟨_, rfl⟩⟩ := update_entry_cases state ref _ after member
    · obtain ⟨gone, _, inactive⟩ := entries.reclaimable old listed marked
      obtain ⟨retiring, holds⟩ := entries.counted old listed
      have still := retired_holds old.gate retiring _ holds
      refine ⟨gone, holds_retiring _ true _ still, ?_⟩
      rw [holds_active _ true _ still, ← holds_active _ retiring _ holds]
      exact inactive
    · exact entries.reclaimable _ listed marked
  · intro after member gone
    obtain ⟨old, listed, ⟨same, rfl⟩ | ⟨different, rfl⟩⟩ := update_entry_cases state ref _ after member
    · obtain ⟨retiring, holds⟩ := entries.counted old listed
      exact .inl (holds_retiring _ true _ (retired_holds old.gate retiring _ holds))
    · rcases entries.unregistered _ listed gone with retiring | busy
      · exact .inl retiring
      · rw [writer] at busy
        cases busy
        exact absurd rfl different
  · intro thread
    exact writer_thread_ok state _ thread rfl rfl (protects_published state _ thread rfl rfl rfl before)
      (fun other _ listed => kept other listed) (threads thread)

theorem mark_fields (object : Nat) (kind : OperationKind) (entry : Entry) :
    (mark object kind entry).ref = entry.ref ∧ (mark object kind entry).gate = entry.gate ∧
      (mark object kind entry).registered = entry.registered := by
  unfold mark
  split
  · exact ⟨rfl, rfl, rfl⟩
  · exact ⟨rfl, rfl, rfl⟩

theorem modify_mem (entries : List Entry) (index : Nat) (change : Entry → Entry) (entry : Entry)
    (member : entry ∈ entries.modify index change) : entry ∈ entries ∨ ∃ before ∈ entries, entry = change before := by
  obtain ⟨position, inside, same⟩ := List.mem_iff_getElem.mp member
  rw [List.length_modify] at inside
  rw [List.getElem_modify] at same
  split at same
  · exact .inr ⟨_, List.getElem_mem inside, same.symm⟩
  · rw [← same]
    exact .inl (List.getElem_mem inside)

theorem modify_refs (entries : List Entry) (index object : Nat) (kind : OperationKind) :
    (entries.modify index (mark object kind)).map (fun entry => entry.ref) = entries.map (fun entry => entry.ref) := by
  apply List.ext_getElem
  · simp
  · intro position _ _
    rw [List.getElem_map, List.getElem_map, List.getElem_modify]
    split
    · exact (mark_fields object kind _).1
    · rfl

theorem marking_step_inv (object : Nat) (kind : OperationKind)
    (index : Nat) (inv : RegistryInv maxHazardThreads state) (writer : state.writer = .marking object kind index) :
    RegistryInv maxHazardThreads { state with
      entries := state.entries.modify index (mark object kind)
      writer := .marking object kind (index + 1) } := by
  obtain ⟨owners, entries, snapshots, threads⟩ := inv
  have before : NotWaiting state := by
    intro previous waited
    rw [writer]
    simp
  have refs := modify_refs state.entries index object kind
  have kept : ∀ ref, Listed state ref → Listed { state with
      entries := state.entries.modify index (mark object kind)
      writer := .marking object kind (index + 1) } ref := by
    intro ref listed
    rw [listed_iff] at listed ⊢
    rw [refs]
    exact listed
  refine ⟨writer_owners maxHazardThreads state _ rfl rfl owners, ⟨?_, ?_, ?_, ?_, ?_, ?_⟩,
    snapshots_same state _ rfl (Nat.le_refl _) (by simp [NotWaiting]) (by simp) (by simp) kept snapshots, ?_⟩
  · intro entry member
    rcases modify_mem _ _ _ entry member with old | ⟨old, listed, rfl⟩
    · exact entries.births entry old
    · rw [(mark_fields object kind old).1]
      exact entries.births old listed
  · rw [refs]
    exact entries.distinct
  · intro entry member
    rcases modify_mem _ _ _ entry member with old | ⟨old, listed, rfl⟩
    · exact entries.counted entry old
    · rw [(mark_fields object kind old).1, (mark_fields object kind old).2.1]
      exact entries.counted old listed
  · intro token member
    exact kept token.2 (entries.entered token member)
  · intro entry member marked
    rcases modify_mem _ _ _ entry member with old | ⟨old, listed, rfl⟩
    · exact entries.reclaimable entry old marked
    · unfold mark at marked ⊢
      split at marked
      · rename_i chosen
        rw [if_pos chosen]
        simp only [Bool.and_eq_true, Bool.not_eq_true', hasActiveOperations, decide_eq_false_iff_not,
          Decidable.not_not] at chosen
        refine ⟨chosen.1.2, ?_, chosen.2⟩
        rcases entries.unregistered old listed chosen.1.2 with retiring | busy
        · exact retiring
        · rw [writer] at busy
          cases busy
      · rename_i skipped
        rw [if_neg skipped]
        exact entries.reclaimable old listed marked
  · intro entry member gone
    rcases modify_mem _ _ _ entry member with old | ⟨old, listed, rfl⟩
    · rcases entries.unregistered entry old gone with retiring | busy
      · exact .inl retiring
      · rw [writer] at busy
        cases busy
    · rw [(mark_fields object kind old).2.2] at gone
      rcases entries.unregistered old listed gone with retiring | busy
      · rw [(mark_fields object kind old).2.1]
        exact .inl retiring
      · rw [writer] at busy
        cases busy
  · intro thread
    exact writer_thread_ok state _ thread rfl rfl (protects_published state _ thread rfl rfl rfl before)
      (fun ref _ listed => kept ref listed) (threads thread)

theorem waiting_step_inv (previous : Snapshot) (slot : Nat)
    (inv : RegistryInv maxHazardThreads state) (writer : state.writer = .waiting previous slot)
    (clear : (state.hazards slot).snapshot ≠ some previous.ref.address) :
    RegistryInv maxHazardThreads { state with writer := .waiting previous (slot + 1) } := by
  obtain ⟨owners, entries, snapshots, threads⟩ := inv
  refine ⟨writer_owners maxHazardThreads state _ rfl rfl owners,
    ⟨entries.births, entries.distinct, entries.counted, entries.entered, entries.reclaimable, ?_⟩,
    ⟨snapshots.birth, ?_, snapshots.current, ?_, ?_, ?_⟩, ?_⟩
  · intro entry member gone
    rcases entries.unregistered entry member gone with retiring | busy
    · exact .inl retiring
    · rw [writer] at busy
      cases busy
  · intro other waited waiting
    cases waiting
    exact snapshots.apart previous slot writer
  · intro other waited waiting
    cases waiting
    exact snapshots.previous previous slot writer
  · intro _
    exact snapshots.registered (.inr ⟨previous, slot, writer⟩)
  · intro registering
    cases registering
  · intro thread
    refine writer_thread_ok state _ thread rfl rfl ?_ (fun _ _ listed => listed) (threads thread)
    intro snapshot guarded
    obtain ⟨mine, owned, announced, published | ⟨other, waited, waiting, same, reached⟩⟩ := guarded
    · exact ⟨⟨mine, owned, announced, .inl published⟩, by rw [liveSnapshot, liveSnapshot, if_pos published, if_pos published]⟩
    · rw [writer] at waiting
      cases waiting
      have later : slot ≠ mine := by
        intro here
        apply clear
        rw [here, same]
        exact announced
      refine ⟨⟨mine, owned, announced, .inr ⟨previous, slot + 1, rfl, same, by omega⟩⟩, ?_⟩
      rw [liveSnapshot, liveSnapshot, writer]

theorem waited_step_inv (previous : Snapshot) (slot : Nat)
    (inv : RegistryInv maxHazardThreads state) (writer : state.writer = .waiting previous slot)
    (finished : ¬ slot < maxHazardThreads) :
    RegistryInv maxHazardThreads { state with writer := .erasing } := by
  obtain ⟨owners, entries, snapshots, threads⟩ := inv
  refine ⟨writer_owners maxHazardThreads state _ rfl rfl owners,
    ⟨entries.births, entries.distinct, entries.counted, entries.entered, entries.reclaimable, ?_⟩,
    ⟨snapshots.birth, ?_, snapshots.current, ?_, ?_, ?_⟩, ?_⟩
  · intro entry member gone
    rcases entries.unregistered entry member gone with retiring | busy
    · exact .inl retiring
    · rw [writer] at busy
      cases busy
  · intro other waited waiting
    cases waiting
  · intro other waited waiting
    cases waiting
  · intro _
    exact snapshots.registered (.inr ⟨previous, slot, writer⟩)
  · intro registering
    cases registering
  · intro thread
    refine writer_thread_ok state _ thread rfl rfl ?_ (fun _ _ listed => listed) (threads thread)
    intro snapshot guarded
    obtain ⟨mine, owned, announced, published | ⟨other, waited, waiting, same, reached⟩⟩ := guarded
    · exact ⟨⟨mine, owned, announced, .inl published⟩, by rw [liveSnapshot, liveSnapshot, if_pos published, if_pos published]⟩
    · rw [writer] at waiting
      cases waiting
      have bounded := (owners.claimed thread mine owned).1
      omega

theorem erasing_step_inv (inv : RegistryInv maxHazardThreads state) (writer : state.writer = .erasing)
    (notified : ∀ thread ref, (state.readers thread).pc = .notify ref →
      ∀ entry ∈ state.entries, entry.ref = ref → entry.reclaimable = false) :
    RegistryInv maxHazardThreads { state with
      entries := state.entries.filter (fun entry => !entry.reclaimable)
      writer := .idle } := by
  obtain ⟨owners, entries, snapshots, threads⟩ := inv
  have before : NotWaiting state := by
    intro previous waited
    rw [writer]
    simp
  have older : ∀ entry ∈ state.entries.filter (fun entry => !entry.reclaimable), entry ∈ state.entries :=
    fun entry member => (List.mem_filter.mp member).1
  refine ⟨writer_owners maxHazardThreads state _ rfl rfl owners, ⟨?_, ?_, ?_, ?_, ?_, ?_⟩,
    ⟨snapshots.birth, ?_, ?_, ?_, ?_, ?_⟩, ?_⟩
  · intro entry member
    exact entries.births entry (older entry member)
  · exact List.Nodup.sublist (List.Sublist.map _ List.filter_sublist) entries.distinct
  · intro entry member
    exact entries.counted entry (older entry member)
  · intro token member
    obtain ⟨entry, listed, same⟩ := entries.entered token member
    refine ⟨entry, List.mem_filter.mpr ⟨listed, ?_⟩, same⟩
    cases marked : entry.reclaimable with
    | false => rfl
    | true =>
      -- A token would be counted by the gate, which is idle when its entry is reclaimable.
      have inactive := (entries.reclaimable entry listed marked).2.2
      obtain ⟨retiring, holds⟩ := entries.counted entry listed
      rw [holds_active entry.gate retiring _ holds, tokens, List.countP_eq_zero] at inactive
      exact absurd (by simpa using same.symm) (inactive token member)
  · intro entry member marked
    exact entries.reclaimable entry (older entry member) marked
  · intro entry member gone
    rcases entries.unregistered entry (older entry member) gone with retiring | busy
    · exact .inl retiring
    · rw [writer] at busy
      cases busy
  · intro previous slot waiting
    cases waiting
  · intro ref mentioned
    obtain ⟨entry, listed, same⟩ := snapshots.current ref mentioned
    refine ⟨entry, List.mem_filter.mpr ⟨listed, ?_⟩, same⟩
    have registered := snapshots.registered (.inl writer) entry listed (by rw [same]; exact mentioned)
    cases marked : entry.reclaimable with
    | false => rfl
    | true =>
      have gone := (entries.reclaimable entry listed marked).1
      rw [registered] at gone
      cases gone
  · intro previous slot waiting
    cases waiting
  · intro busy
    rcases busy with busy | ⟨previous, slot, busy⟩ <;> cases busy
  · intro registering
    cases registering
  · intro thread
    refine writer_thread_ok state _ thread rfl rfl (protects_published state _ thread rfl rfl rfl before) ?_
      (threads thread)
    intro ref notifying listed
    obtain ⟨entry, member, same⟩ := listed
    have unmarked := notified thread ref notifying entry member same
    exact ⟨entry, List.mem_filter.mpr ⟨member, by rw [unmarked]; rfl⟩, same⟩

end EncosDriver.Operation
