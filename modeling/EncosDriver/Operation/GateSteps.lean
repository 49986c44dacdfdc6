import EncosDriver.Operation.ReaderSteps

set_option autoImplicit false

namespace EncosDriver.Operation

open Lib OperationGate RegistryState

variable (state : RegistryState) (thread : Nat)

theorem entries_set_pc (pc : ReaderPc) (inv : EntriesInv state) : EntriesInv (state.setPc thread pc) :=
  entries_inv_same state _ rfl rfl rfl rfl inv

theorem listed_update_entry (state : RegistryState) (ref other : Ref) (change : Entry → Entry)
    (kept : ∀ entry, (change entry).ref = entry.ref) :
    Listed (state.updateEntry ref change) other ↔ Listed state other := by
  rw [listed_iff, listed_iff, update_entry_refs state ref change kept]

theorem entered_entries (ref : Ref) (entry : Entry) (inv : EntriesInv state) (found : state.liveEntry ref = some entry)
    (admits : (entry.gate.isRetiring || entry.gate.isFull) = false) :
    EntriesInv { state.updateEntry ref (fun entry => { entry with gate := entry.gate.entered }) with
      entered := (thread, ref) :: state.entered } := by
  obtain ⟨listed, here⟩ := live_entry_some state ref entry found
  rw [Bool.or_eq_false_iff] at admits
  have only : ∀ before ∈ state.entries, before.ref = ref → before = entry := by
    intro before member same
    exact entry_unique state.entries inv.distinct before entry member listed (same.trans here.symm)
  refine ⟨?_, ?_, ?_, ?_, ?_, ?_⟩
  · intro after member
    obtain ⟨before, old, ⟨_, rfl⟩ | ⟨_, rfl⟩⟩ := update_entry_cases state ref _ after member
    · exact inv.births before old
    · exact inv.births _ old
  · have refs := update_entry_refs state ref (fun entry => { entry with gate := entry.gate.entered }) (fun _ => rfl)
    exact refs ▸ inv.distinct
  · intro after member
    obtain ⟨before, old, ⟨same, rfl⟩ | ⟨different, rfl⟩⟩ := update_entry_cases state ref _ after member
    · obtain ⟨retiring, holds⟩ := inv.counted before old
      refine ⟨retiring, ?_⟩
      have room : before.gate.isFull = false := by
        rw [only before old same]
        exact admits.2
      have counted := entered_holds before.gate retiring _ holds room
      simpa [tokens, same] using counted
    · obtain ⟨retiring, holds⟩ := inv.counted _ old
      refine ⟨retiring, ?_⟩
      simpa [tokens, Ne.symm different] using holds
  · intro token member
    have listedBefore : Listed state token.2 := by
      rcases List.mem_cons.mp member with new | old
      · rw [new]
        exact ⟨entry, listed, here⟩
      · exact inv.entered token old
    exact (listed_update_entry state ref token.2 (fun entry => { entry with gate := entry.gate.entered })
      (fun _ => rfl)).mpr listedBefore
  · intro after member marked
    obtain ⟨before, old, ⟨same, rfl⟩ | ⟨_, rfl⟩⟩ := update_entry_cases state ref _ after member
    · have retiring := (inv.reclaimable before old marked).2.1
      rw [only before old same, admits.1] at retiring
      cases retiring
    · exact inv.reclaimable _ old marked
  · intro after member gone
    obtain ⟨before, old, ⟨same, rfl⟩ | ⟨_, rfl⟩⟩ := update_entry_cases state ref _ after member
    · rcases inv.unregistered before old gone with retiring | writer
      · rw [only before old same, admits.1] at retiring
        cases retiring
      · exact .inr writer
    · exact inv.unregistered _ old gone

theorem tokens_erase (ref other : Ref) (held : (thread, ref) ∈ state.entered) :
    tokens state other =
      (state.entered.erase (thread, ref)).countP (fun token => token.2 = other) + if ref = other then 1 else 0 := by
  have position := List.perm_cons_erase held
  rw [tokens, List.Perm.countP_eq _ position, List.countP_cons]
  simp

theorem left_entries (ref : Ref) (inv : EntriesInv state) (held : (thread, ref) ∈ state.entered) :
    EntriesInv { state.updateEntry ref (fun entry => { entry with gate := entry.gate.left }) with
      entered := state.entered.erase (thread, ref) } := by
  have counts : ∀ before ∈ state.entries, before.ref = ref → ∃ retiring,
      before.gate.Holds retiring ((state.entered.erase (thread, ref)).countP (fun token => token.2 = ref) + 1) := by
    intro before member same
    obtain ⟨retiring, holds⟩ := inv.counted before member
    refine ⟨retiring, ?_⟩
    rw [tokens_erase state thread ref before.ref held, same, if_pos rfl] at holds
    exact holds
  refine ⟨?_, ?_, ?_, ?_, ?_, ?_⟩
  · intro after member
    obtain ⟨before, old, ⟨_, rfl⟩ | ⟨_, rfl⟩⟩ := update_entry_cases state ref _ after member
    · exact inv.births before old
    · exact inv.births _ old
  · have refs := update_entry_refs state ref (fun entry => { entry with gate := entry.gate.left }) (fun _ => rfl)
    exact refs ▸ inv.distinct
  · intro after member
    obtain ⟨before, old, ⟨same, rfl⟩ | ⟨different, rfl⟩⟩ := update_entry_cases state ref _ after member
    · obtain ⟨retiring, holds⟩ := counts before old same
      refine ⟨retiring, ?_⟩
      have counted := left_holds before.gate retiring _ holds
      simpa [tokens, same] using counted
    · obtain ⟨retiring, holds⟩ := inv.counted _ old
      refine ⟨retiring, ?_⟩
      rw [tokens_erase state thread ref _ held, if_neg (Ne.symm different)] at holds
      exact holds
  · intro token member
    exact (listed_update_entry state ref token.2 (fun entry => { entry with gate := entry.gate.left })
      (fun _ => rfl)).mpr (inv.entered token (List.mem_of_mem_erase member))
  · intro after member marked
    obtain ⟨before, old, ⟨same, rfl⟩ | ⟨_, rfl⟩⟩ := update_entry_cases state ref _ after member
    · -- A reclaimable entry counts no operation, so nothing is left to leave it.
      have inactive := (inv.reclaimable before old marked).2.2
      obtain ⟨retiring, holds⟩ := counts before old same
      rw [holds_active before.gate retiring _ holds] at inactive
      omega
    · exact inv.reclaimable _ old marked
  · intro after member gone
    obtain ⟨before, old, ⟨same, rfl⟩ | ⟨_, rfl⟩⟩ := update_entry_cases state ref _ after member
    · rcases inv.unregistered before old gone with retiring | writer
      · left
        obtain ⟨flag, holds⟩ := counts before old same
        rw [holds_retiring before.gate flag _ holds] at retiring
        rw [retiring] at holds
        exact holds_retiring before.gate.left true _ (left_holds before.gate true _ holds)
      · exact .inr writer
    · exact inv.unregistered _ old gone

theorem gate_frame (ref : Ref) (change : OperationGate → OperationGate) (entered : List (Nat × Ref)) (pc : ReaderPc)
    (known : ∀ token ∈ entered, token ∈ state.entered ∨
      (state.writer = .registering → state.current.Mentions token.2))
    (notify : ∀ entry, pc = .notify entry → ∃ token ∈ state.entered, token.2 = entry) :
    ReaderFrame state (setPc { state.updateEntry ref (fun entry => { entry with gate := change entry.gate }) with
      entered := entered } thread pc) thread := by
  refine ⟨rfl, rfl, rfl, ?_, fun _ _ => rfl, ?_, ?_, known, ?_⟩
  · intro other different
    exact reader_set_pc_other _ thread other pc different
  · exact update_entry_refs state ref (fun entry => { entry with gate := change entry.gate }) (fun _ => rfl)
  · intro after member
    obtain ⟨before, old, ⟨_, rfl⟩ | ⟨_, rfl⟩⟩ := update_entry_cases state ref _ after member
    · exact ⟨before, old, rfl, rfl⟩
    · exact ⟨_, old, rfl, rfl⟩
  · intro entry notifying
    rw [reader_set_pc] at notifying
    exact notify entry notifying

theorem exchange_inv (maxHazardThreads : Nat) (state : RegistryState) (thread : Nat) (snapshot ref : Ref)
    (entry : Entry) (inv : RegistryInv maxHazardThreads state) (found : state.liveEntry ref = some entry)
    (admits : (entry.gate.isRetiring || entry.gate.isFull) = false) (guarded : Protects state thread snapshot)
    (mentioned : Mentioned state snapshot ref) :
    RegistryInv maxHazardThreads
      (setPc { state.updateEntry ref (fun entry => { entry with gate := entry.gate.entered }) with
        entered := (thread, ref) :: state.entered } thread .clearHazard) := by
  have published : state.writer = .registering → state.current.Mentions ref := by
    intro registering
    obtain ⟨slot, _, _, current | ⟨previous, waited, writer, _⟩⟩ := guarded
    · obtain ⟨shown, live, included⟩ := mentioned
      rw [liveSnapshot, if_pos current] at live
      cases live
      exact included
    · rw [registering] at writer
      cases writer
  refine frame_inv maxHazardThreads state _ thread inv (gate_frame state thread ref _ _ _ ?_ (by simp)) ?_ ?_ ?_
  · intro token member
    rcases List.mem_cons.mp member with new | old
    · rw [new]
      exact .inr published
    · exact .inl old
  · apply owners_set_pc
    exact ⟨inv.owners.claimed, inv.owners.unique⟩
  · exact entries_set_pc _ thread _ (entered_entries state thread ref entry inv.entries found admits)
  · simp [ThreadOk, reader_set_pc]

variable (maxHazardThreads : Nat) (state next : RegistryState) (thread : Nat)

theorem leave_inv (ref : Ref) (inv : RegistryInv maxHazardThreads state) (taken : leaveStep state thread ref = some next) :
    RegistryInv maxHazardThreads next := by
  unfold leaveStep at taken
  split at taken
  · rename_i ready
    obtain ⟨_, held⟩ := ready
    cases found : state.liveEntry ref with
    | none =>
      rw [found] at taken
      cases taken
    | some entry =>
      rw [found] at taken
      cases taken
      refine frame_inv maxHazardThreads state _ thread inv (gate_frame state thread ref _ _ _ ?_ ?_) ?_ ?_ ?_
      · intro token member
        exact .inl (List.mem_of_mem_erase member)
      · intro other notifying
        split at notifying
        · cases notifying
          exact ⟨(thread, ref), held, rfl⟩
        · cases notifying
      · apply owners_set_pc
        exact ⟨inv.owners.claimed, inv.owners.unique⟩
      · exact entries_set_pc _ thread _ (left_entries state thread ref inv.entries held)
      · by_cases last : entry.gate.lastOfRetiring = true
        · simp only [ThreadOk, last, ↓reduceIte, reader_set_pc]
          exact (listed_update_entry state ref ref (fun entry => { entry with gate := entry.gate.left })
            (fun _ => rfl)).mpr ⟨entry, live_entry_some state ref entry found⟩
        · simp only [ThreadOk, last, Bool.false_eq_true, ↓reduceIte, reader_set_pc]
  · cases taken

theorem attempt_cases (snapshot ref : Ref) (observed : OperationGate) :
    attempt snapshot ref observed = .clearHazard ∨
      ∃ expected, attempt snapshot ref observed = .exchangeGate snapshot ref expected := by
  unfold attempt
  split
  · exact .inr ⟨_, rfl⟩
  · exact .inl rfl

theorem attempt_inv (maxHazardThreads : Nat) (state : RegistryState) (thread : Nat) (snapshot ref : Ref)
    (observed : OperationGate) (inv : RegistryInv maxHazardThreads state) (guarded : Protects state thread snapshot)
    (mentioned : Mentioned state snapshot ref) :
    RegistryInv maxHazardThreads (state.setPc thread (attempt snapshot ref observed)) := by
  rcases attempt_cases snapshot ref observed with refused | ⟨expected, admitted⟩
  · rw [refused]
    exact set_pc_inv maxHazardThreads state thread _ inv (by simp) (by simp [ThreadOk, reader_set_pc])
  · rw [admitted]
    refine set_pc_inv maxHazardThreads state thread _ inv (by simp) ?_
    simp only [ThreadOk, reader_set_pc]
    exact ⟨protects_set_pc state thread _ snapshot guarded, mentioned⟩

theorem reader_step_inv
    (inv : RegistryInv maxHazardThreads state) (taken : readerStep maxHazardThreads state thread = some next) :
    RegistryInv maxHazardThreads next := by
  have ok := inv.threads thread
  cases pc : (state.readers thread).pc with
  | idle => simp [readerStep, pc] at taken
  | claim object kind candidate =>
    by_cases inside : candidate < maxHazardThreads
    · cases claimed : (state.hazards candidate).claimed with
      | true =>
        simp only [readerStep, pc, inside, claimed, ↓reduceIte] at taken
        cases taken
        exact set_pc_inv maxHazardThreads state thread _ inv (by simp) (by simp [ThreadOk, reader_set_pc])
      | false =>
        simp only [readerStep, pc, inside, claimed, ↓reduceIte, Bool.false_eq_true] at taken
        cases taken
        exact claim_inv maxHazardThreads state thread candidate object kind inv inside claimed
    · simp only [readerStep, pc, inside, ↓reduceIte] at taken
      cases taken
      exact drop_owner_inv maxHazardThreads state thread _ inv rfl
  | loadCurrent object kind =>
    simp only [readerStep, pc] at taken
    cases taken
    exact set_pc_inv maxHazardThreads state thread _ inv (by simp) (by simp [ThreadOk, reader_set_pc])
  | storeHazard object kind snapshot =>
    cases mine : hazardSlot state thread with
    | none => simp [readerStep, pc, mine] at taken
    | some slot =>
      simp only [readerStep, pc, mine, Option.bind_eq_bind, Option.bind_some] at taken
      cases taken
      refine set_hazard_inv maxHazardThreads state thread slot _ _ inv mine (by simp) ?_
      simp only [ThreadOk, reader_set_pc]
      exact ⟨slot, by rw [hazard_slot_set_pc]; exact mine, by simp [setPc, setHazard]⟩
  | recheckCurrent object kind address =>
    by_cases same : state.current.ref.address = address
    · simp only [readerStep, pc, same, ↓reduceIte] at taken
      cases taken
      refine set_pc_inv maxHazardThreads state thread _ inv (by simp) ?_
      simp only [ThreadOk, pc] at ok
      obtain ⟨slot, mine, announced⟩ := ok
      simp only [ThreadOk, reader_set_pc]
      refine protects_set_pc state thread _ _ ⟨slot, mine, ?_, .inl rfl⟩
      rw [same]
      exact announced
    · simp only [readerStep, pc, same, ↓reduceIte] at taken
      cases taken
      exact set_pc_inv maxHazardThreads state thread _ inv (by simp) (by simp [ThreadOk, reader_set_pc])
  | find object kind ref probe =>
    simp only [ThreadOk, pc] at ok
    cases live : state.liveSnapshot ref with
    | none => simp [readerStep, pc, live] at taken
    | some snapshot =>
      by_cases inside : probe ≤ snapshot.maxProbe
      · cases read : snapshot.probeSlot object kind probe with
        | none =>
          simp only [readerStep, pc, live, Option.bind_eq_bind, Option.bind_some, inside, ↓reduceIte, read] at taken
          cases taken
          exact set_pc_inv maxHazardThreads state thread _ inv (by simp) (by simp [ThreadOk, reader_set_pc])
        | some slot =>
          cases found : state.liveEntry slot with
          | none => simp [readerStep, pc, live, inside, read, found] at taken
          | some entry =>
            by_cases wanted : entry.object = object ∧ entry.kind = kind
            · simp only [readerStep, pc, live, Option.bind_eq_bind, Option.bind_some, inside, ↓reduceIte, read,
                found, wanted, and_self] at taken
              cases taken
              refine set_pc_inv maxHazardThreads state thread _ inv (by simp) ?_
              simp only [ThreadOk, reader_set_pc]
              exact ⟨protects_set_pc state thread _ ref ok, snapshot, live,
                snapshot.probe_slot_mentions object kind probe slot read⟩
            · simp only [readerStep, pc, live, Option.bind_eq_bind, Option.bind_some, inside, ↓reduceIte, read,
                found, wanted] at taken
              cases taken
              refine set_pc_inv maxHazardThreads state thread _ inv (by simp) ?_
              simp only [ThreadOk, reader_set_pc]
              exact protects_set_pc state thread _ ref ok
      · simp only [readerStep, pc, live, Option.bind_eq_bind, Option.bind_some, inside, ↓reduceIte] at taken
        cases taken
        exact set_pc_inv maxHazardThreads state thread _ inv (by simp) (by simp [ThreadOk, reader_set_pc])
  | loadRegistered snapshot ref =>
    simp only [ThreadOk, pc] at ok
    cases found : state.liveEntry ref with
    | none => simp [readerStep, pc, found] at taken
    | some entry =>
      simp only [readerStep, pc, found, Option.bind_eq_bind, Option.bind_some] at taken
      cases taken
      cases registered : entry.registered with
      | true =>
        refine set_pc_inv maxHazardThreads state thread _ inv (by simp) ?_
        simp only [ThreadOk, reader_set_pc, ↓reduceIte]
        exact ⟨protects_set_pc state thread _ snapshot ok.1, ok.2⟩
      | false => exact set_pc_inv maxHazardThreads state thread _ inv (by simp) (by simp [ThreadOk, reader_set_pc])
  | loadGate snapshot ref =>
    simp only [ThreadOk, pc] at ok
    cases found : state.liveEntry ref with
    | none => simp [readerStep, pc, found] at taken
    | some entry =>
      simp only [readerStep, pc, found, Option.bind_eq_bind, Option.bind_some] at taken
      cases taken
      exact attempt_inv maxHazardThreads state thread snapshot ref entry.gate inv ok.1 ok.2
  | exchangeGate snapshot ref expected =>
    simp only [ThreadOk, pc] at ok
    cases found : state.liveEntry ref with
    | none => simp [readerStep, pc, found] at taken
    | some entry =>
      by_cases same : entry.gate = expected.gate
      · simp only [readerStep, pc, found, same, Option.bind_eq_bind, Option.bind_some, ↓reduceIte] at taken
        cases taken
        have admits := expected.admits
        rw [← same] at admits
        exact exchange_inv maxHazardThreads state thread snapshot ref entry inv found admits ok.1 ok.2
      · simp only [readerStep, pc, found, same, Option.bind_eq_bind, Option.bind_some, ↓reduceIte] at taken
        cases taken
        exact attempt_inv maxHazardThreads state thread snapshot ref entry.gate inv ok.1 ok.2
  | clearHazard | dropHazard =>
    cases mine : hazardSlot state thread with
    | none => simp [readerStep, pc, mine] at taken
    | some slot =>
      simp only [readerStep, pc, mine, Option.bind_eq_bind, Option.bind_some] at taken
      cases taken
      exact set_hazard_inv maxHazardThreads state thread slot _ _ inv mine (by simp)
        (by simp [ThreadOk, reader_set_pc])
  | notify ref =>
    cases found : state.liveEntry ref with
    | none => simp [readerStep, pc, found] at taken
    | some entry =>
      simp only [readerStep, pc, found, Option.bind_eq_bind, Option.bind_some] at taken
      cases taken
      exact set_pc_inv maxHazardThreads state thread _ inv (by simp) (by simp [ThreadOk, reader_set_pc])
  | dropClaim =>
    cases mine : hazardSlot state thread with
    | none => simp [readerStep, pc, mine] at taken
    | some slot =>
      simp only [readerStep, pc, mine, Option.bind_eq_bind, Option.bind_some] at taken
      cases taken
      exact release_inv maxHazardThreads state thread slot inv mine

theorem enter_inv (maxHazardThreads : Nat) (state : RegistryState) (thread object : Nat) (kind : OperationKind)
    (inv : RegistryInv maxHazardThreads state) : RegistryInv maxHazardThreads (beginEnter state thread object kind) := by
  unfold beginEnter
  split
  · exact set_pc_inv maxHazardThreads state thread _ inv (by simp) (by simp [ThreadOk, reader_set_pc])
  · exact inv
  · exact set_pc_inv maxHazardThreads state thread _ inv (by simp) (by simp [ThreadOk, reader_set_pc])

theorem spurious_inv (inv : RegistryInv maxHazardThreads state) (taken : spuriousStep state thread = some next) :
    RegistryInv maxHazardThreads next := by
  have ok := inv.threads thread
  unfold spuriousStep at taken
  split at taken
  · rename_i snapshot ref expected pc
    simp only [ThreadOk, pc] at ok
    cases found : state.liveEntry ref with
    | none => simp [found] at taken
    | some entry =>
      simp only [found, Option.bind_eq_bind, Option.bind_some] at taken
      cases taken
      exact attempt_inv maxHazardThreads state thread snapshot ref entry.gate inv ok.1 ok.2
  · cases taken

theorem exit_inv (inv : RegistryInv maxHazardThreads state) (taken : exitStep state thread = some next) :
    RegistryInv maxHazardThreads next := by
  unfold exitStep at taken
  split at taken
  · split at taken
    · cases taken
    · cases taken
      exact drop_owner_inv maxHazardThreads state thread _ inv rfl
    · cases taken
      exact set_pc_inv maxHazardThreads state thread _ inv (by simp) (by simp [ThreadOk, reader_set_pc])
  · cases taken

end EncosDriver.Operation
