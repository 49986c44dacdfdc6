import EncosDriver.Lib.System
import EncosDriver.Operation.Gate
import Mathlib.Data.List.Nodup

set_option autoImplicit false

namespace EncosDriver.Operation

open Lib OperationGate

structure HazardSlot where
  claimed : Bool := false
  snapshot : Option Nat := none
deriving DecidableEq, Repr

inductive HazardOwner where
  | unconstructed
  | constructed (slot : Option Nat)
deriving DecidableEq, Repr

def HazardOwner.slot : HazardOwner → Option Nat
  | .unconstructed => none
  | .constructed slot => slot

structure OpenGate where
  gate : OperationGate
  admits : (gate.isRetiring || gate.isFull) = false
deriving DecidableEq, Repr

-- Each constructor names the next shared access of a thread in TryEnterDetailed,
-- in the notification of Leave or in the destructor of its hazard owner.
inductive ReaderPc where
  | idle
  | claim (object : Nat) (kind : OperationKind) (candidate : Nat)
  | loadCurrent (object : Nat) (kind : OperationKind)
  | storeHazard (object : Nat) (kind : OperationKind) (snapshot : Nat)
  | recheckCurrent (object : Nat) (kind : OperationKind) (snapshot : Nat)
  | find (object : Nat) (kind : OperationKind) (snapshot : Ref) (probe : Nat)
  | loadRegistered (snapshot entry : Ref)
  | loadGate (snapshot entry : Ref)
  | exchangeGate (snapshot entry : Ref) (expected : OpenGate)
  | clearHazard
  | notify (entry : Ref)
  | dropHazard
  | dropClaim
deriving DecidableEq, Repr

structure Reader where
  pc : ReaderPc := .idle
  owner : HazardOwner := .unconstructed
deriving DecidableEq, Repr

inductive WriterPc where
  | idle
  | registering
  | retiring (entry : Ref)
  | marking (object : Nat) (kind : OperationKind) (index : Nat)
  | reclaiming
  | waiting (previous : Snapshot) (slot : Nat)
  | erasing
deriving DecidableEq, Repr

structure RegistryState where
  current : Snapshot
  entries : List Entry
  hazards : Nat → HazardSlot
  readers : Nat → Reader
  entered : List (Nat × Ref)
  writer : WriterPc
  nextBirth : Nat

inductive RegistryAction where
  | enter (thread object : Nat) (kind : OperationKind)
  | reader (thread : Nat)
  | spuriousFailure (thread : Nat)
  | leave (thread : Nat) (entry : Ref)
  | exit (thread : Nat)
  | register (object : Nat) (kind : OperationKind) (address : Nat)
  | retire (object : Nat) (kind : OperationKind)
  | reclaim (object : Nat) (kind : OperationKind)
  | publish (address : Nat)
  | publishFails
  | writer
deriving DecidableEq, Repr

namespace RegistryState

def liveEntry (state : RegistryState) (ref : Ref) : Option Entry := state.entries.find? fun entry => entry.ref = ref

def liveSnapshot (state : RegistryState) (ref : Ref) : Option Snapshot :=
  if state.current.ref = ref then some state.current
  else
    match state.writer with
    | .waiting previous _ => if previous.ref = ref then some previous else none
    | _ => none

def addressFree (state : RegistryState) (address : Nat) : Bool :=
  state.entries.all (fun entry => entry.ref.address ≠ address) && state.current.ref.address ≠ address &&
    match state.writer with
    | .waiting previous _ => previous.ref.address ≠ address
    | _ => true

def setPc (state : RegistryState) (thread : Nat) (pc : ReaderPc) : RegistryState :=
  { state with readers := Function.update state.readers thread { state.readers thread with pc := pc } }

def setOwner (state : RegistryState) (thread : Nat) (owner : HazardOwner) : RegistryState :=
  { state with readers := Function.update state.readers thread { state.readers thread with owner := owner } }

def setHazard (state : RegistryState) (slot : Nat) (snapshot : Option Nat) : RegistryState :=
  { state with hazards := Function.update state.hazards slot { state.hazards slot with snapshot := snapshot } }

def setClaimed (state : RegistryState) (slot : Nat) (claimed : Bool) : RegistryState :=
  { state with hazards := Function.update state.hazards slot { state.hazards slot with claimed := claimed } }

def updateEntry (state : RegistryState) (ref : Ref) (change : Entry → Entry) : RegistryState :=
  { state with entries := state.entries.map fun entry => if entry.ref = ref then change entry else entry }

end RegistryState

open RegistryState

def attempt (snapshot entry : Ref) (observed : OperationGate) : ReaderPc :=
  if admits : (observed.isRetiring || observed.isFull) = false then .exchangeGate snapshot entry ⟨observed, admits⟩
  else .clearHazard

def beginEnter (state : RegistryState) (thread object : Nat) (kind : OperationKind) : RegistryState :=
  match (state.readers thread).owner with
  | .unconstructed => state.setPc thread (.claim object kind 0)
  | .constructed none => state
  | .constructed (some _) => state.setPc thread (.loadCurrent object kind)

def hazardSlot (state : RegistryState) (thread : Nat) : Option Nat := (state.readers thread).owner.slot

def readerStep (maxHazardThreads : Nat) (state : RegistryState) (thread : Nat) : Option RegistryState :=
  match (state.readers thread).pc with
  | .idle => none
  | .claim object kind candidate =>
    if candidate < maxHazardThreads then
      if (state.hazards candidate).claimed then some (state.setPc thread (.claim object kind (candidate + 1)))
      else
        some (((state.setClaimed candidate true).setOwner thread (.constructed (some candidate))).setPc thread
          (.loadCurrent object kind))
    else some ((state.setOwner thread (.constructed none)).setPc thread .idle)
  | .loadCurrent object kind => some (state.setPc thread (.storeHazard object kind state.current.ref.address))
  | .storeHazard object kind snapshot => do
      let slot ← hazardSlot state thread
      some ((state.setHazard slot (some snapshot)).setPc thread (.recheckCurrent object kind snapshot))
  | .recheckCurrent object kind snapshot =>
    if state.current.ref.address = snapshot then some (state.setPc thread (.find object kind state.current.ref 0))
    else some (state.setPc thread (.loadCurrent object kind))
  | .find object kind ref probe => do
      let snapshot ← state.liveSnapshot ref
      if probe ≤ snapshot.maxProbe then
        match snapshot.probeSlot object kind probe with
        | none => some (state.setPc thread .clearHazard)
        | some slot => do
            let entry ← state.liveEntry slot
            if entry.object = object ∧ entry.kind = kind then some (state.setPc thread (.loadRegistered ref slot))
            else some (state.setPc thread (.find object kind ref (probe + 1)))
      else some (state.setPc thread .clearHazard)
  | .loadRegistered snapshot ref => do
      let entry ← state.liveEntry ref
      some (state.setPc thread (if entry.registered then .loadGate snapshot ref else .clearHazard))
  | .loadGate snapshot ref => do
      let entry ← state.liveEntry ref
      some (state.setPc thread (attempt snapshot ref entry.gate))
  | .exchangeGate snapshot ref expected => do
      let entry ← state.liveEntry ref
      if entry.gate = expected.gate then
        let updated := state.updateEntry ref fun entry => { entry with gate := entry.gate.entered }
        some ({ updated with entered := (thread, ref) :: updated.entered }.setPc thread .clearHazard)
      else some (state.setPc thread (attempt snapshot ref entry.gate))
  | .clearHazard => do
      let slot ← hazardSlot state thread
      some ((state.setHazard slot none).setPc thread .idle)
  | .notify ref => do
      let _ ← state.liveEntry ref
      some (state.setPc thread .idle)
  | .dropHazard => do
      let slot ← hazardSlot state thread
      some ((state.setHazard slot none).setPc thread .dropClaim)
  | .dropClaim => do
      let slot ← hazardSlot state thread
      some (((state.setClaimed slot false).setOwner thread .unconstructed).setPc thread .idle)

def spuriousStep (state : RegistryState) (thread : Nat) : Option RegistryState :=
  match (state.readers thread).pc with
  | .exchangeGate snapshot ref _ => do
      let entry ← state.liveEntry ref
      some (state.setPc thread (attempt snapshot ref entry.gate))
  | _ => none

def leaveStep (state : RegistryState) (thread : Nat) (ref : Ref) : Option RegistryState :=
  if (state.readers thread).pc = .idle ∧ (thread, ref) ∈ state.entered then do
    let entry ← state.liveEntry ref
    let updated := state.updateEntry ref fun entry => { entry with gate := entry.gate.left }
    some ({ updated with entered := updated.entered.erase (thread, ref) }.setPc thread
      (if entry.gate.lastOfRetiring then .notify ref else .idle))
  else none

def exitStep (state : RegistryState) (thread : Nat) : Option RegistryState :=
  if (state.readers thread).pc = .idle then
    match (state.readers thread).owner with
    | .unconstructed => none
    | .constructed none => some ((state.setOwner thread .unconstructed).setPc thread .idle)
    | .constructed (some _) => some (state.setPc thread .dropHazard)
  else none

def matchesKey (object : Nat) (kind : OperationKind) (entry : Entry) : Bool :=
  decide (entry.object = object) && decide (entry.kind = kind)

def registerStep (state : RegistryState) (object : Nat) (kind : OperationKind) (address : Nat) :
    Option RegistryState :=
  if state.writer = .idle ∧ state.addressFree address = true then
    if state.entries.any (fun entry => matchesKey object kind entry && entry.registered) then some state
    else
      some { state with
        entries := state.entries ++ [⟨⟨address, state.nextBirth⟩, object, kind, {}, true, false⟩]
        nextBirth := state.nextBirth + 1
        writer := .registering }
  else none

def retireStep (state : RegistryState) (object : Nat) (kind : OperationKind) : Option RegistryState :=
  if state.writer = .idle then
    match state.entries.reverse.find? (matchesKey object kind) with
    | none => some state
    | some entry =>
      if entry.registered then
        some { state.updateEntry entry.ref (fun entry => { entry with registered := false }) with
          writer := .retiring entry.ref }
      else some state
  else none

def reclaimStep (state : RegistryState) (object : Nat) (kind : OperationKind) : Option RegistryState :=
  if state.writer = .idle then some { state with writer := .marking object kind 0 } else none

def publishStep (state : RegistryState) (address : Nat) : Option RegistryState :=
  if (state.writer = .registering ∨ state.writer = .reclaiming) ∧ state.addressFree address = true then
    some { state with
      current := Snapshot.build ⟨address, state.nextBirth⟩ state.entries
      nextBirth := state.nextBirth + 1
      writer := .waiting state.current 0 }
  else none

def publishFailsStep (state : RegistryState) : Option RegistryState :=
  match state.writer with
  | .registering => some { state with entries := state.entries.dropLast, writer := .idle }
  | .reclaiming => some { state with writer := .idle }
  | _ => none

def mark (object : Nat) (kind : OperationKind) (entry : Entry) : Entry :=
  if matchesKey object kind entry && !entry.registered && !entry.gate.hasActiveOperations then
    { entry with reclaimable := true }
  else entry

def writerStep (maxHazardThreads : Nat) (state : RegistryState) : Option RegistryState :=
  match state.writer with
  | .retiring ref =>
    some { state.updateEntry ref (fun entry => { entry with gate := entry.gate.retired }) with writer := .idle }
  | .marking object kind index =>
    if index < state.entries.length then
      some { state with
        entries := state.entries.modify index (mark object kind)
        writer := .marking object kind (index + 1) }
    else some { state with writer := .reclaiming }
  | .waiting previous slot =>
    if slot < maxHazardThreads then
      if (state.hazards slot).snapshot = some previous.ref.address then none
      else some { state with writer := .waiting previous (slot + 1) }
    else some { state with writer := .erasing }
  | .erasing =>
    some { state with entries := state.entries.filter (fun entry => !entry.reclaimable), writer := .idle }
  | _ => none

def registryStep (maxHazardThreads : Nat) (state : RegistryState) : RegistryAction → Option RegistryState
  | .enter thread object kind =>
    if (state.readers thread).pc = .idle then some (beginEnter state thread object kind) else none
  | .reader thread => readerStep maxHazardThreads state thread
  | .spuriousFailure thread => spuriousStep state thread
  | .leave thread entry => leaveStep state thread entry
  | .exit thread => exitStep state thread
  | .register object kind address => registerStep state object kind address
  | .retire object kind => retireStep state object kind
  | .reclaim object kind => reclaimStep state object kind
  | .publish address => publishStep state address
  | .publishFails => publishFailsStep state
  | .writer => writerStep maxHazardThreads state

structure InitialRegistry (state : RegistryState) : Prop where
  current : state.current = Snapshot.build state.current.ref []
  birth : state.current.ref.birth < state.nextBirth
  entries : state.entries = []
  hazards : ∀ slot, state.hazards slot = {}
  readers : ∀ thread, state.readers thread = {}
  entered : state.entered = []
  writer : state.writer = .idle

def registry (maxHazardThreads : Nat) : System RegistryState RegistryAction :=
  ⟨InitialRegistry, registryStep maxHazardThreads⟩

def Listed (state : RegistryState) (ref : Ref) : Prop := ∃ entry ∈ state.entries, entry.ref = ref

def tokens (state : RegistryState) (ref : Ref) : Nat := state.entered.countP fun token => token.2 = ref

structure OwnersInv (maxHazardThreads : Nat) (state : RegistryState) : Prop where
  claimed : ∀ thread slot, hazardSlot state thread = some slot →
    slot < maxHazardThreads ∧ (state.hazards slot).claimed = true
  unique : ∀ first second slot, hazardSlot state first = some slot → hazardSlot state second = some slot →
    first = second

structure EntriesInv (state : RegistryState) : Prop where
  births : ∀ entry ∈ state.entries, entry.ref.birth < state.nextBirth
  distinct : (state.entries.map fun entry => entry.ref).Nodup
  counted : ∀ entry ∈ state.entries, ∃ retiring, entry.gate.Holds retiring (tokens state entry.ref)
  entered : ∀ token ∈ state.entered, Listed state token.2
  reclaimable : ∀ entry ∈ state.entries, entry.reclaimable = true →
    entry.registered = false ∧ entry.gate.isRetiring = true ∧ entry.gate.active = 0
  unregistered : ∀ entry ∈ state.entries, entry.registered = false →
    entry.gate.isRetiring = true ∨ state.writer = .retiring entry.ref

structure SnapshotsInv (state : RegistryState) : Prop where
  birth : state.current.ref.birth < state.nextBirth
  apart : ∀ previous slot, state.writer = .waiting previous slot →
    previous.ref.address ≠ state.current.ref.address
  current : ∀ ref, state.current.Mentions ref → Listed state ref
  previous : ∀ previous slot, state.writer = .waiting previous slot → ∀ ref, previous.Mentions ref → Listed state ref
  registered : (state.writer = .erasing ∨ ∃ previous slot, state.writer = .waiting previous slot) →
    ∀ entry ∈ state.entries, state.current.Mentions entry.ref → entry.registered = true
  registering : state.writer = .registering → ∃ earlier entry, state.entries = earlier ++ [entry] ∧
    ¬ state.current.Mentions entry.ref ∧ (∀ token ∈ state.entered, token.2 ≠ entry.ref) ∧
    (∀ thread, (state.readers thread).pc ≠ .notify entry.ref)

def Protects (state : RegistryState) (thread : Nat) (snapshot : Ref) : Prop :=
  ∃ slot, hazardSlot state thread = some slot ∧ (state.hazards slot).snapshot = some snapshot.address ∧
    (state.current.ref = snapshot ∨
      ∃ previous waited, state.writer = .waiting previous waited ∧ previous.ref = snapshot ∧ waited ≤ slot)

def Mentioned (state : RegistryState) (snapshot entry : Ref) : Prop :=
  ∃ found, state.liveSnapshot snapshot = some found ∧ found.Mentions entry

def ThreadOk (state : RegistryState) (thread : Nat) : Prop :=
  match (state.readers thread).pc with
  | .recheckCurrent _ _ address =>
    ∃ slot, hazardSlot state thread = some slot ∧ (state.hazards slot).snapshot = some address
  | .find _ _ snapshot _ => Protects state thread snapshot
  | .loadRegistered snapshot entry | .loadGate snapshot entry | .exchangeGate snapshot entry _ =>
    Protects state thread snapshot ∧ Mentioned state snapshot entry
  | .notify entry => Listed state entry
  | _ => True

structure RegistryInv (maxHazardThreads : Nat) (state : RegistryState) : Prop where
  owners : OwnersInv maxHazardThreads state
  entries : EntriesInv state
  snapshots : SnapshotsInv state
  threads : ∀ thread, ThreadOk state thread

variable (state : RegistryState) (ref : Ref)

theorem live_entry_some (entry : Entry) (found : state.liveEntry ref = some entry) : entry ∈ state.entries ∧ entry.ref = ref := by
  refine ⟨List.mem_of_find?_eq_some found, ?_⟩
  simpa using List.find?_some found

theorem live_entry_of_listed (listed : Listed state ref) : (state.liveEntry ref).isSome = true := by
  obtain ⟨entry, member, same⟩ := listed
  rw [liveEntry, List.find?_isSome]
  exact ⟨entry, member, by simpa using same⟩

theorem listed_of_live_entry (live : (state.liveEntry ref).isSome = true) : Listed state ref := by
  obtain ⟨entry, found⟩ := Option.isSome_iff_exists.mp live
  obtain ⟨member, same⟩ := live_entry_some state ref entry found
  exact ⟨entry, member, same⟩

theorem entry_unique (entries : List Entry) (distinct : (entries.map fun entry => entry.ref).Nodup)
    (first second : Entry) (firstIn : first ∈ entries) (secondIn : second ∈ entries)
    (same : first.ref = second.ref) : first = second :=
  List.inj_on_of_nodup_map distinct firstIn secondIn same

theorem protects_live (state : RegistryState) (snapshots : SnapshotsInv state) (thread : Nat) (ref : Ref)
    (guarded : Protects state thread ref) : ∃ snapshot, state.liveSnapshot ref = some snapshot ∧
      ∀ entry, snapshot.Mentions entry → Listed state entry := by
  obtain ⟨slot, _, _, published | ⟨previous, waited, writer, retiring, _⟩⟩ := guarded
  · exact ⟨state.current, by rw [liveSnapshot, if_pos published], snapshots.current⟩
  · have older : state.current.ref ≠ ref := by
      intro same
      apply snapshots.apart previous waited writer
      rw [retiring, same]
    refine ⟨previous, ?_, snapshots.previous previous waited writer⟩
    rw [liveSnapshot, if_neg older, writer]
    simp only [retiring, ↓reduceIte]

theorem mentioned_listed (state : RegistryState) (snapshots : SnapshotsInv state) (thread : Nat) (snapshot entry : Ref)
    (guarded : Protects state thread snapshot) (mentioned : Mentioned state snapshot entry) : Listed state entry := by
  obtain ⟨found, live, included⟩ := protects_live state snapshots thread snapshot guarded
  obtain ⟨other, same, listed⟩ := mentioned
  rw [live] at same
  cases same
  exact included entry listed

theorem update_entry_cases (change : Entry → Entry) (entry : Entry) (member : entry ∈ (state.updateEntry ref change).entries) :
    ∃ before ∈ state.entries, (before.ref = ref ∧ entry = change before) ∨ (before.ref ≠ ref ∧ entry = before) := by
  obtain ⟨before, listed, same⟩ := List.mem_map.mp member
  by_cases target : before.ref = ref
  · rw [if_pos target] at same
    exact ⟨before, listed, .inl ⟨target, same.symm⟩⟩
  · rw [if_neg target] at same
    exact ⟨before, listed, .inr ⟨target, same.symm⟩⟩

theorem update_entry_refs (change : Entry → Entry) (kept : ∀ entry, (change entry).ref = entry.ref) :
    (state.updateEntry ref change).entries.map (fun entry => entry.ref) =
      state.entries.map (fun entry => entry.ref) := by
  rw [updateEntry, List.map_map]
  apply List.map_congr_left
  intro entry _
  by_cases target : entry.ref = ref
  · simp only [Function.comp_apply, target, ↓reduceIte, kept]
  · simp only [Function.comp_apply, target, ↓reduceIte]

theorem listed_iff : Listed state ref ↔ ref ∈ state.entries.map (fun entry => entry.ref) := by
  rw [List.mem_map]
  exact Iff.rfl

end EncosDriver.Operation
