import Mathlib.Data.Nat.Bitwise

set_option autoImplicit false

namespace EncosDriver.Operation

def word32 : Nat := 2 ^ 32

def kRetiring : Nat := 2 ^ 31

def kActiveMask : Nat := kRetiring - 1

structure OperationGate where
  state : Nat := 0
deriving DecidableEq, Repr

namespace OperationGate

def isRetiring (gate : OperationGate) : Bool := decide (gate.state &&& kRetiring ≠ 0)

def active (gate : OperationGate) : Nat := gate.state &&& kActiveMask

def isFull (gate : OperationGate) : Bool := decide (gate.active = kActiveMask)

def hasActiveOperations (gate : OperationGate) : Bool := decide (gate.active ≠ 0)

def entered (gate : OperationGate) : OperationGate := ⟨(gate.state + 1) % word32⟩

def left (gate : OperationGate) : OperationGate := ⟨(gate.state + (word32 - 1)) % word32⟩

def retired (gate : OperationGate) : OperationGate := ⟨gate.state ||| kRetiring⟩

def lastOfRetiring (gate : OperationGate) : Bool := gate.isRetiring && decide (gate.active = 1)

def Holds (gate : OperationGate) (retiring : Bool) (count : Nat) : Prop :=
  count < kRetiring ∧ gate.state = (if retiring then kRetiring else 0) + count

theorem initial_holds : Holds {} false 0 := ⟨by decide, rfl⟩

variable (gate : OperationGate) (retiring : Bool) (count : Nat)

theorem holds_active (holds : Holds gate retiring count) : gate.active = count := by
  obtain ⟨bounded, word⟩ := holds
  rw [active, word, kActiveMask, kRetiring, Nat.and_two_pow_sub_one_eq_mod]
  unfold kRetiring at bounded
  cases retiring
  · simp only [Bool.false_eq_true, ↓reduceIte, Nat.zero_add]
    exact Nat.mod_eq_of_lt bounded
  · simp only [↓reduceIte, Nat.add_mod_left]
    exact Nat.mod_eq_of_lt bounded

theorem holds_retiring (holds : Holds gate retiring count) : gate.isRetiring = retiring := by
  obtain ⟨bounded, word⟩ := holds
  unfold kRetiring at bounded
  rw [isRetiring, word, kRetiring, Nat.and_two_pow]
  cases retiring
  · have clear : Nat.testBit (0 + count) 31 = false := by
      rw [Nat.zero_add]
      exact Nat.testBit_lt_two_pow bounded
    simp only [Bool.false_eq_true, ↓reduceIte, clear]
    rfl
  · have set : Nat.testBit (2 ^ 31 + count) 31 = true := by
      rw [Nat.testBit_two_pow_add_eq, Nat.testBit_lt_two_pow bounded]
      rfl
    simp only [↓reduceIte, set]
    rfl

theorem entered_holds (holds : Holds gate retiring count)
    (room : gate.isFull = false) : Holds gate.entered retiring (count + 1) := by
  have active := holds_active gate retiring count holds
  obtain ⟨bounded, word⟩ := holds
  have below : count + 1 < kRetiring := by
    simp only [isFull, active, decide_eq_false_iff_not, kActiveMask] at room
    unfold kRetiring at *
    omega
  refine ⟨below, ?_⟩
  simp only [entered, word]
  unfold kRetiring word32 at *
  cases retiring <;> simp <;> omega

theorem left_holds (holds : Holds gate retiring (count + 1)) : Holds gate.left retiring count := by
  obtain ⟨bounded, word⟩ := holds
  refine ⟨by omega, ?_⟩
  simp only [left, word]
  unfold kRetiring word32 at *
  cases retiring <;> simp <;> omega

theorem or_retiring_bit (bounded : count < 2 ^ 31) : 2 ^ 31 ||| count = 2 ^ 31 + count := by
  have split := Nat.two_pow_add_eq_or_of_lt bounded 1
  rw [Nat.mul_one] at split
  exact split.symm

theorem retired_holds (holds : Holds gate retiring count) : Holds gate.retired true count := by
  obtain ⟨bounded, word⟩ := holds
  refine ⟨bounded, ?_⟩
  simp only [retired, word, ↓reduceIte]
  unfold kRetiring at *
  cases retiring
  · simp only [Bool.false_eq_true, ↓reduceIte, Nat.zero_add]
    rw [Nat.or_comm, or_retiring_bit count bounded]
  · simp only [↓reduceIte]
    rw [← or_retiring_bit count bounded, Nat.or_comm, ← Nat.or_assoc, Nat.or_self]

end OperationGate

def word64 : Nat := 2 ^ 64

inductive OperationKind where
  | adapter
  | bus
  | motor
  | battery
  | imu
  | pms
  | externalDevice
  | glove
  | gloveEncoder
  | gloveCalibrator
deriving DecidableEq, Repr

structure Ref where
  address : Nat
  birth : Nat
deriving DecidableEq, Repr

structure Entry where
  ref : Ref
  object : Nat
  kind : OperationKind
  gate : OperationGate := {}
  registered : Bool := true
  reclaimable : Bool := false
deriving DecidableEq, Repr

structure Snapshot where
  ref : Ref
  slots : List (Option Ref)
  maxProbe : Nat
deriving DecidableEq, Repr

namespace Snapshot

def hash (object : Nat) (kind : OperationKind) : Nat :=
  let value := object >>> 4
  let value := value ^^^ (kind.ctorIdx * 0x9E3779B9 % word64)
  value ^^^ (value >>> 16)

def grow (active : Nat) : Nat → Nat → Nat
  | 0, capacity => capacity
  | fuel + 1, capacity => if capacity < active * 2 then grow active fuel (capacity * 2) else capacity

def capacity (active : Nat) : Nat := grow active active 8

def freeProbe (slots : List (Option Ref)) (start : Nat) : Nat :=
  (List.range slots.length).find? (fun probe => slots[(start + probe) &&& (slots.length - 1)]? = some none) |>.getD 0

def place (snapshot : Snapshot) (entry : Entry) : Snapshot :=
  let start := hash entry.object entry.kind &&& (snapshot.slots.length - 1)
  let probe := freeProbe snapshot.slots start
  { snapshot with
    slots := snapshot.slots.set ((start + probe) &&& (snapshot.slots.length - 1)) (some entry.ref)
    maxProbe := max snapshot.maxProbe probe }

def build (ref : Ref) (entries : List Entry) : Snapshot :=
  let active := entries.filter (fun entry => entry.registered)
  active.foldl place ⟨ref, List.replicate (capacity active.length) none, 0⟩

def probeSlot (snapshot : Snapshot) (object : Nat) (kind : OperationKind) (probe : Nat) : Option Ref :=
  let start := hash object kind &&& (snapshot.slots.length - 1)
  snapshot.slots[(start + probe) &&& (snapshot.slots.length - 1)]?.getD none

theorem grow_enough (active fuel capacity : Nat) (enough : active * 2 ≤ capacity * 2 ^ fuel) :
    active * 2 ≤ grow active fuel capacity := by
  induction fuel generalizing capacity with
  | zero => simpa only [grow, Nat.pow_zero, Nat.mul_one] using enough
  | succ fuel ih =>
    by_cases small : capacity < active * 2
    · simp only [grow, small, ↓reduceIte]
      apply ih
      rw [Nat.mul_assoc, ← Nat.pow_succ']
      exact enough
    · simp only [grow, small, ↓reduceIte]
      omega

theorem capacity_enough (active : Nat) : active * 2 ≤ capacity active := by
  apply grow_enough
  have doubled : active < 2 ^ active := Nat.lt_two_pow_self
  omega

variable (snapshot : Snapshot)

theorem place_ref (entry : Entry) : (snapshot.place entry).ref = snapshot.ref := rfl

theorem build_ref (ref : Ref) (entries : List Entry) : (build ref entries).ref = ref := by
  have kept : ∀ (rest : List Entry) (snapshot : Snapshot), (rest.foldl place snapshot).ref = snapshot.ref := by
    intro rest
    induction rest with
    | nil => exact fun _ => rfl
    | cons entry rest ih => exact fun snapshot => (ih (snapshot.place entry)).trans (place_ref snapshot entry)
  exact kept _ _

def Mentions (snapshot : Snapshot) (entry : Ref) : Prop := some entry ∈ snapshot.slots

theorem place_mentions (entry : Entry) (ref : Ref)
    (mentioned : (snapshot.place entry).Mentions ref) : snapshot.Mentions ref ∨ ref = entry.ref := by
  rcases List.mem_or_eq_of_mem_set mentioned with old | new
  · exact .inl old
  · exact .inr (Option.some.inj new)

theorem fold_mentions (entries : List Entry) (snapshot : Snapshot) (ref : Ref)
    (mentioned : (entries.foldl place snapshot).Mentions ref) :
    snapshot.Mentions ref ∨ ∃ entry ∈ entries, entry.ref = ref := by
  induction entries generalizing snapshot with
  | nil => exact .inl mentioned
  | cons first rest ih =>
    rcases ih (snapshot.place first) mentioned with placed | ⟨entry, member, same⟩
    · rcases place_mentions snapshot first ref placed with old | new
      · exact .inl old
      · exact .inr ⟨first, List.mem_cons_self, new.symm⟩
    · exact .inr ⟨entry, List.mem_cons_of_mem first member, same⟩

theorem build_mentions (ref : Ref) (entries : List Entry) (mentioned : Ref)
    (found : (build ref entries).Mentions mentioned) :
    ∃ entry ∈ entries, entry.registered = true ∧ entry.ref = mentioned := by
  rcases fold_mentions _ _ mentioned found with empty | ⟨entry, member, same⟩
  · simp only [Mentions, List.mem_replicate] at empty
    exact absurd empty.2 (by simp)
  · obtain ⟨listed, registered⟩ := List.mem_filter.mp member
    exact ⟨entry, listed, registered, same⟩

theorem probe_slot_mentions (object : Nat) (kind : OperationKind) (probe : Nat) (ref : Ref)
    (found : snapshot.probeSlot object kind probe = some ref) : snapshot.Mentions ref := by
  unfold probeSlot at found
  simp only at found
  cases read : snapshot.slots[(hash object kind &&& (snapshot.slots.length - 1)) + probe &&&
      (snapshot.slots.length - 1)]? with
  | none => simp [read] at found
  | some slot =>
    rw [read] at found
    cases found
    exact List.mem_of_getElem? read

end Snapshot

end EncosDriver.Operation
