import EncosDriver.Operation.Registry

set_option autoImplicit false

namespace EncosDriver.Operation

open Lib OperationGate RegistryState

theorem reader_set_pc (state : RegistryState) (thread : Nat) (pc : ReaderPc) :
    ((state.setPc thread pc).readers thread).pc = pc := by
  simp [setPc]

theorem reader_set_pc_other (state : RegistryState) (thread other : Nat) (pc : ReaderPc) (different : other ≠ thread) :
    (state.setPc thread pc).readers other = state.readers other := by
  simp [setPc, different]

theorem hazard_slot_set_pc (state : RegistryState) (thread other : Nat) (pc : ReaderPc) :
    hazardSlot (state.setPc thread pc) other = hazardSlot state other := by
  by_cases same : other = thread
  · simp [hazardSlot, setPc, same]
  · simp [hazardSlot, setPc, same]

theorem protects_set_pc (state : RegistryState) (thread : Nat) (pc : ReaderPc) (snapshot : Ref)
    (guarded : Protects state thread snapshot) : Protects (state.setPc thread pc) thread snapshot := by
  obtain ⟨slot, owned, announced, kept⟩ := guarded
  exact ⟨slot, by rw [hazard_slot_set_pc]; exact owned, announced, kept⟩

structure ReaderFrame (state next : RegistryState) (thread : Nat) : Prop where
  current : next.current = state.current
  writer : next.writer = state.writer
  nextBirth : next.nextBirth = state.nextBirth
  others : ∀ other, other ≠ thread → next.readers other = state.readers other
  hazards : ∀ slot, hazardSlot state thread ≠ some slot →
    (next.hazards slot).snapshot = (state.hazards slot).snapshot
  refs : next.entries.map (fun entry => entry.ref) = state.entries.map (fun entry => entry.ref)
  registered : ∀ entry ∈ next.entries, ∃ before ∈ state.entries,
    before.ref = entry.ref ∧ before.registered = entry.registered
  entered : ∀ token ∈ next.entered, token ∈ state.entered ∨
    (state.writer = .registering → state.current.Mentions token.2)
  notify : ∀ entry, (next.readers thread).pc = .notify entry → ∃ token ∈ state.entered, token.2 = entry

variable (state next : RegistryState) (thread : Nat)

theorem frame_listed (frame : ReaderFrame state next thread) (ref : Ref) :
    Listed next ref ↔ Listed state ref := by
  rw [listed_iff, listed_iff, frame.refs]

theorem frame_live_snapshot (frame : ReaderFrame state next thread)
    (ref : Ref) : next.liveSnapshot ref = state.liveSnapshot ref := by
  rw [liveSnapshot, liveSnapshot, frame.current, frame.writer]

variable (maxHazardThreads : Nat)

theorem frame_thread_ok (state next : RegistryState) (thread other : Nat)
    (owners : OwnersInv maxHazardThreads state) (frame : ReaderFrame state next thread) (different : other ≠ thread)
    (ok : ThreadOk state other) : ThreadOk next other := by
  have same := frame.others other different
  have owned : hazardSlot next other = hazardSlot state other := by
    rw [hazardSlot, hazardSlot, same]
  have kept : ∀ slot, hazardSlot state other = some slot →
      (next.hazards slot).snapshot = (state.hazards slot).snapshot := by
    intro slot mine
    apply frame.hazards
    intro theirs
    exact different (owners.unique other thread slot mine theirs)
  have protects : ∀ snapshot, Protects state other snapshot → Protects next other snapshot := by
    intro snapshot guarded
    obtain ⟨slot, mine, announced, place⟩ := guarded
    refine ⟨slot, owned.trans mine, (kept slot mine).trans announced, ?_⟩
    rw [frame.current, frame.writer]
    exact place
  have mentions : ∀ snapshot entry, Mentioned state snapshot entry → Mentioned next snapshot entry := by
    intro snapshot entry mentioned
    obtain ⟨found, live, included⟩ := mentioned
    exact ⟨found, (frame_live_snapshot state next thread frame snapshot).trans live, included⟩
  unfold ThreadOk at ok ⊢
  rw [same]
  cases pc : (state.readers other).pc with
  | recheckCurrent object kind address =>
    rw [pc] at ok
    obtain ⟨slot, mine, announced⟩ := ok
    exact ⟨slot, owned.trans mine, (kept slot mine).trans announced⟩
  | find object kind snapshot probe =>
    rw [pc] at ok
    exact protects snapshot ok
  | loadRegistered snapshot entry | loadGate snapshot entry | exchangeGate snapshot entry expected =>
    rw [pc] at ok
    exact ⟨protects snapshot ok.1, mentions snapshot entry ok.2⟩
  | notify entry =>
    rw [pc] at ok
    exact (frame_listed state next thread frame entry).mpr ok
  | _ => trivial

theorem frame_snapshots (frame : ReaderFrame state next thread)
    (snapshots : SnapshotsInv state) : SnapshotsInv next := by
  refine ⟨?_, ?_, ?_, ?_, ?_, ?_⟩
  · rw [frame.current, frame.nextBirth]
    exact snapshots.birth
  · rw [frame.current, frame.writer]
    exact snapshots.apart
  · intro ref mentioned
    rw [frame.current] at mentioned
    exact (frame_listed state next thread frame ref).mpr (snapshots.current ref mentioned)
  · intro previous slot writer ref mentioned
    rw [frame.writer] at writer
    exact (frame_listed state next thread frame ref).mpr (snapshots.previous previous slot writer ref mentioned)
  · intro busy entry member mentioned
    rw [frame.writer] at busy
    rw [frame.current] at mentioned
    obtain ⟨before, listed, same, registered⟩ := frame.registered entry member
    rw [← registered]
    exact snapshots.registered busy before listed (by rw [same]; exact mentioned)
  · intro writer
    rw [frame.writer] at writer
    obtain ⟨earlier, entry, appended, absent, untouched, quiet⟩ := snapshots.registering writer
    have refs := frame.refs
    rw [appended, List.map_append, List.map_singleton, List.map_eq_append_iff] at refs
    obtain ⟨front, back, split, _, last⟩ := refs
    obtain ⟨new, tail, backEq, sameRef, nothing⟩ := List.map_eq_cons_iff.mp last
    rw [List.map_eq_nil_iff] at nothing
    subst nothing
    refine ⟨front, new, by rw [split, backEq], ?_, ?_, ?_⟩
    · rw [frame.current, sameRef]
      exact absent
    · intro token member same
      rw [sameRef] at same
      rcases frame.entered token member with old | mentioned
      · exact untouched token old same
      · apply absent
        rw [← same]
        exact mentioned writer
    · intro other notifying
      rw [sameRef] at notifying
      by_cases acting : other = thread
      · rw [acting] at notifying
        obtain ⟨token, member, same⟩ := frame.notify entry.ref notifying
        exact untouched token member same
      · rw [frame.others other acting] at notifying
        exact quiet other notifying

theorem frame_inv (state next : RegistryState) (thread : Nat)
    (inv : RegistryInv maxHazardThreads state) (frame : ReaderFrame state next thread)
    (owners : OwnersInv maxHazardThreads next) (entries : EntriesInv next) (ok : ThreadOk next thread) :
    RegistryInv maxHazardThreads next := by
  refine ⟨owners, entries, frame_snapshots state next thread frame inv.snapshots, ?_⟩
  intro other
  by_cases acting : other = thread
  · rw [acting]
    exact ok
  · exact frame_thread_ok maxHazardThreads state next thread other inv.owners frame acting (inv.threads other)

theorem entries_inv_same (entries : next.entries = state.entries)
    (entered : next.entered = state.entered) (nextBirth : next.nextBirth = state.nextBirth)
    (writer : next.writer = state.writer) (inv : EntriesInv state) : EntriesInv next := by
  obtain ⟨births, distinct, counted, listed, reclaimable, unregistered⟩ := inv
  unfold Listed at listed
  unfold tokens at counted
  refine ⟨?_, ?_, ?_, ?_, ?_, ?_⟩
  · rw [entries, nextBirth]
    exact births
  · rw [entries]
    exact distinct
  · unfold tokens
    rw [entries, entered]
    exact counted
  · unfold Listed
    rw [entries, entered]
    exact listed
  · rw [entries]
    exact reclaimable
  · rw [entries, writer]
    exact unregistered

structure QuietStep (state next : RegistryState) (thread : Nat) : Prop where
  current : next.current = state.current
  writer : next.writer = state.writer
  nextBirth : next.nextBirth = state.nextBirth
  entries : next.entries = state.entries
  entered : next.entered = state.entered
  others : ∀ other, other ≠ thread → next.readers other = state.readers other
  hazards : ∀ slot, hazardSlot state thread ≠ some slot →
    (next.hazards slot).snapshot = (state.hazards slot).snapshot
  notify : ∀ entry, (next.readers thread).pc ≠ .notify entry

theorem quiet_frame (quiet : QuietStep state next thread) :
    ReaderFrame state next thread := by
  refine ⟨quiet.current, quiet.writer, quiet.nextBirth, quiet.others, quiet.hazards, by rw [quiet.entries], ?_, ?_, ?_⟩
  · intro entry member
    rw [quiet.entries] at member
    exact ⟨entry, member, rfl, rfl⟩
  · intro token member
    rw [quiet.entered] at member
    exact .inl member
  · intro entry notifying
    exact absurd notifying (quiet.notify entry)

theorem quiet_inv (state next : RegistryState) (thread : Nat)
    (inv : RegistryInv maxHazardThreads state) (quiet : QuietStep state next thread)
    (owners : OwnersInv maxHazardThreads next) (ok : ThreadOk next thread) : RegistryInv maxHazardThreads next :=
  frame_inv maxHazardThreads state next thread inv (quiet_frame state next thread quiet) owners
    (entries_inv_same state next quiet.entries quiet.entered quiet.nextBirth quiet.writer inv.entries) ok

variable (maxHazardThreads : Nat) (state : RegistryState)

theorem owners_set_pc (thread : Nat) (pc : ReaderPc)
    (owners : OwnersInv maxHazardThreads state) : OwnersInv maxHazardThreads (state.setPc thread pc) := by
  refine ⟨?_, ?_⟩
  · intro other slot mine
    rw [hazard_slot_set_pc] at mine
    exact owners.claimed other slot mine
  · intro first second slot mine theirs
    rw [hazard_slot_set_pc] at mine theirs
    exact owners.unique first second slot mine theirs

theorem set_pc_inv (thread : Nat) (pc : ReaderPc)
    (inv : RegistryInv maxHazardThreads state) (silent : ∀ entry, pc ≠ .notify entry)
    (ok : ThreadOk (state.setPc thread pc) thread) : RegistryInv maxHazardThreads (state.setPc thread pc) := by
  refine quiet_inv maxHazardThreads state _ thread inv ⟨rfl, rfl, rfl, rfl, rfl, ?_, fun _ _ => rfl, ?_⟩
    (owners_set_pc maxHazardThreads state thread pc inv.owners) ok
  · intro other different
    exact reader_set_pc_other state thread other pc different
  · intro entry
    rw [reader_set_pc]
    exact silent entry

theorem owners_set_hazard (slot : Nat) (value : Option Nat)
    (owners : OwnersInv maxHazardThreads state) : OwnersInv maxHazardThreads (state.setHazard slot value) := by
  refine ⟨?_, owners.unique⟩
  intro thread mine owned
  obtain ⟨bounded, claimed⟩ := owners.claimed thread mine owned
  refine ⟨bounded, ?_⟩
  by_cases same : mine = slot
  · rw [same] at claimed ⊢
    simpa [setHazard] using claimed
  · simpa [setHazard, same] using claimed

theorem set_hazard_inv (thread slot : Nat) (value : Option Nat)
    (pc : ReaderPc) (inv : RegistryInv maxHazardThreads state) (mine : hazardSlot state thread = some slot)
    (silent : ∀ entry, pc ≠ .notify entry)
    (ok : ThreadOk ((state.setHazard slot value).setPc thread pc) thread) :
    RegistryInv maxHazardThreads ((state.setHazard slot value).setPc thread pc) := by
  refine quiet_inv maxHazardThreads state _ thread inv ⟨rfl, rfl, rfl, rfl, rfl, ?_, ?_, ?_⟩
    (owners_set_pc maxHazardThreads _ thread pc (owners_set_hazard maxHazardThreads state slot value inv.owners)) ok
  · intro other different
    exact reader_set_pc_other (state.setHazard slot value) thread other pc different
  · intro other notMine
    have different : other ≠ slot := by
      intro same
      rw [same] at notMine
      exact notMine mine
    simp [setPc, setHazard, different]
  · intro entry
    rw [reader_set_pc]
    exact silent entry

theorem hazard_slot_set_owner (thread other : Nat) (owner : HazardOwner) :
    hazardSlot (state.setOwner thread owner) other = if other = thread then owner.slot else hazardSlot state other := by
  by_cases same : other = thread
  · simp [hazardSlot, setOwner, same]
  · simp [hazardSlot, setOwner, same]

theorem set_owner_inv (after : Nat → HazardSlot) (thread : Nat)
    (owner : HazardOwner) (pc : ReaderPc) (inv : RegistryInv maxHazardThreads state)
    (hazards : ∀ slot, (after slot).snapshot = (state.hazards slot).snapshot)
    (claimed : ∀ slot, owner.slot = some slot → slot < maxHazardThreads ∧ (after slot).claimed = true)
    (exclusive : ∀ other slot, other ≠ thread → hazardSlot state other = some slot →
      owner.slot ≠ some slot ∧ (after slot).claimed = true)
    (silent : ∀ entry, pc ≠ .notify entry)
    (ok : ThreadOk ((setOwner { state with hazards := after } thread owner).setPc thread pc) thread) :
    RegistryInv maxHazardThreads ((setOwner { state with hazards := after } thread owner).setPc thread pc) := by
  have owned : ∀ other, other ≠ thread →
      hazardSlot (setOwner { state with hazards := after } thread owner) other = hazardSlot state other := by
    intro other different
    rw [hazard_slot_set_owner, if_neg different]
    rfl
  refine quiet_inv maxHazardThreads state _ thread inv ⟨rfl, rfl, rfl, rfl, rfl, ?_, ?_, ?_⟩ ?_ ok
  · intro other different
    rw [reader_set_pc_other _ thread other _ different]
    simp [setOwner, different]
  · intro slot _
    exact hazards slot
  · intro entry
    rw [reader_set_pc]
    exact silent entry
  · apply owners_set_pc
    refine ⟨?_, ?_⟩
    · intro other slot mine
      by_cases acting : other = thread
      · rw [hazard_slot_set_owner, if_pos acting] at mine
        exact claimed slot mine
      · rw [owned other acting] at mine
        exact ⟨(inv.owners.claimed other slot mine).1, (exclusive other slot acting mine).2⟩
    · intro first second slot mine theirs
      by_cases acting : first = thread
      · by_cases acting2 : second = thread
        · rw [acting, acting2]
        · rw [hazard_slot_set_owner, if_pos acting] at mine
          rw [owned second acting2] at theirs
          exact absurd mine (exclusive second slot acting2 theirs).1
      · by_cases acting2 : second = thread
        · rw [hazard_slot_set_owner, if_pos acting2] at theirs
          rw [owned first acting] at mine
          exact absurd theirs (exclusive first slot acting mine).1
        · rw [owned first acting] at mine
          rw [owned second acting2] at theirs
          exact inv.owners.unique first second slot mine theirs

theorem claim_inv (thread candidate object : Nat)
    (kind : OperationKind) (inv : RegistryInv maxHazardThreads state) (inside : candidate < maxHazardThreads)
    (unclaimed : (state.hazards candidate).claimed = false) :
    RegistryInv maxHazardThreads (((state.setClaimed candidate true).setOwner thread
      (.constructed (some candidate))).setPc thread (.loadCurrent object kind)) := by
  refine set_owner_inv maxHazardThreads state _ thread _ _ inv ?_ ?_ ?_ (by simp) (by simp [ThreadOk, reader_set_pc])
  · intro slot
    by_cases same : slot = candidate
    · simp [same]
    · simp [same]
  · intro slot mine
    cases mine
    exact ⟨inside, by simp⟩
  · intro other slot _ theirs
    have claimed := (inv.owners.claimed other slot theirs).2
    have different : slot ≠ candidate := by
      intro same
      rw [same, unclaimed] at claimed
      cases claimed
    exact ⟨fun same => different (Option.some.inj same).symm, by simpa [different] using claimed⟩

theorem release_inv (thread slot : Nat) (inv : RegistryInv maxHazardThreads state) (mine : hazardSlot state thread = some slot) :
    RegistryInv maxHazardThreads
      (((state.setClaimed slot false).setOwner thread .unconstructed).setPc thread .idle) := by
  refine set_owner_inv maxHazardThreads state _ thread _ _ inv ?_ ?_ ?_ (by simp) (by simp [ThreadOk, reader_set_pc])
  · intro other
    by_cases same : other = slot
    · simp [same]
    · simp [same]
  · intro other owned
    cases owned
  · intro other theirSlot different theirs
    have apart : theirSlot ≠ slot := by
      intro same
      rw [same] at theirs
      exact different (inv.owners.unique other thread slot theirs mine)
    exact ⟨by simp [HazardOwner.slot], by simpa [apart] using (inv.owners.claimed other theirSlot theirs).2⟩

theorem drop_owner_inv (thread : Nat) (owner : HazardOwner)
    (inv : RegistryInv maxHazardThreads state) (slotless : owner.slot = none) :
    RegistryInv maxHazardThreads ((state.setOwner thread owner).setPc thread .idle) := by
  refine set_owner_inv maxHazardThreads state state.hazards thread owner .idle inv (fun _ => rfl) ?_ ?_ (by simp)
    (by simp [ThreadOk, reader_set_pc])
  · intro slot owned
    rw [slotless] at owned
    cases owned
  · intro other slot _ theirs
    exact ⟨by rw [slotless]; simp, (inv.owners.claimed other slot theirs).2⟩

end EncosDriver.Operation
