import EncosDriver.Operation.Gate
import EncosDriver.Lib.Probing
import Mathlib.Data.List.Nodup

set_option autoImplicit false

namespace EncosDriver.Operation

open Lib

namespace Snapshot

def deref (entries : List Entry) (ref : Ref) : Option Entry := entries.find? (fun entry => entry.ref = ref)

def hasKey (entries : List Entry) (object : Nat) (kind : OperationKind) (ref : Ref) : Bool :=
  (deref entries ref).any (fun entry => entry.object = object ∧ entry.kind = kind)

def findLoop (snapshot : Snapshot) (entries : List Entry) (object : Nat) (kind : OperationKind) : Nat → Nat → Option Ref
  | 0, _ => none
  | fuel + 1, probe =>
    match snapshot.probeSlot object kind probe with
    | none => none
    | some ref =>
      if hasKey entries object kind ref then some ref
      else findLoop snapshot entries object kind fuel (probe + 1)

def find (snapshot : Snapshot) (entries : List Entry) (object : Nat) (kind : OperationKind) : Option Ref :=
  findLoop snapshot entries object kind (snapshot.maxProbe + 1) 0

def insertLoop (slots : List (Option Ref)) (start : Nat) : Nat → Nat → Option Nat
  | 0, _ => none
  | fuel + 1, probe =>
    if slots[(start + probe) &&& (slots.length - 1)]? = some none then some probe
    else insertLoop slots start fuel (probe + 1)

def registered (entries : List Entry) : List Entry := entries.filter (fun entry => entry.registered)

def partly (ref : Ref) (entries before : List Entry) : Snapshot :=
  before.foldl place ⟨ref, List.replicate (capacity (registered entries).length) none, 0⟩

def keyed (entry : Entry) : Nat × OperationKind := (entry.object, entry.kind)

def startOf (snapshot : Snapshot) (object : Nat) (kind : OperationKind) : Nat :=
  hash object kind &&& (snapshot.slots.length - 1)

theorem grow_power (active fuel exponent : Nat) : ∃ size, grow active fuel (2 ^ exponent) = 2 ^ size := by
  induction fuel generalizing exponent with
  | zero => exact ⟨exponent, rfl⟩
  | succ fuel ih =>
    by_cases small : 2 ^ exponent < active * 2
    · simp only [grow, small, ↓reduceIte, ← Nat.pow_succ]
      exact ih (exponent + 1)
    · exact ⟨exponent, by simp only [grow, small, ↓reduceIte]⟩

theorem capacity_power (active : Nat) : ∃ size, capacity active = 2 ^ size := grow_power active active 3

theorem capacity_room (active : Nat) : active < capacity active := by
  obtain ⟨size, power⟩ := capacity_power active
  have enough := capacity_enough active
  have positive : 0 < capacity active := power ▸ Nat.two_pow_pos size
  omega

variable (slots : List (Option Ref))

theorem masked_slot (size start probe : Nat) (power : slots.length = 2 ^ size) :
    slots[(start + probe) &&& (slots.length - 1)]?.getD none = slotAt slots start probe := by
  rw [slotAt, power, Nat.and_two_pow_sub_one_eq_mod]

theorem masked_free (size start probe : Nat) (power : slots.length = 2 ^ size) :
    slots[(start + probe) &&& (slots.length - 1)]? = some none ↔ slotAt slots start probe = none := by
  have positive : 0 < slots.length := power ▸ Nat.two_pow_pos size
  constructor
  · intro empty
    rw [← masked_slot slots size start probe power, empty, Option.getD_some]
  · intro free
    have read := slot_free slots start probe positive free
    rw [power, ← Nat.and_two_pow_sub_one_eq_mod, ← power] at read
    exact read

theorem insert_loop_scans (size start fuel probe : Nat) (power : slots.length = 2 ^ size) :
    insertLoop slots start fuel probe = scanFree slots start fuel probe := by
  induction fuel generalizing probe with
  | zero => rfl
  | succ fuel ih => simp only [insertLoop, scanFree, masked_free slots size start probe power, ih]

theorem find_loop_walks (snapshot : Snapshot) (entries : List Entry) (object : Nat) (kind : OperationKind)
    (size fuel probe : Nat) (power : snapshot.slots.length = 2 ^ size) :
    findLoop snapshot entries object kind fuel probe =
      findFrom (hasKey entries object kind) snapshot.slots (snapshot.startOf object kind) fuel probe := by
  induction fuel generalizing probe with
  | zero => rfl
  | succ fuel ih =>
    have read : snapshot.probeSlot object kind probe =
        slotAt snapshot.slots (snapshot.startOf object kind) probe :=
      masked_slot snapshot.slots size (snapshot.startOf object kind) probe power
    cases here : slotAt snapshot.slots (snapshot.startOf object kind) probe with
    | none => simp only [findLoop, findFrom, read, here]
    | some pointer => simp only [findLoop, findFrom, read, here, ih]

theorem insert_loop_found (size start : Nat) (power : slots.length = 2 ^ size)
    (room : stored slots < slots.length) :
    insertLoop slots start slots.length 0 = some (freeProbe slots start) ∧ freeProbe slots start < slots.length ∧
      slotAt slots start (freeProbe slots start) = none ∧
      ∀ earlier < freeProbe slots start, slotAt slots start earlier ≠ none := by
  obtain ⟨index, empty⟩ := room_left slots room
  obtain ⟨found, scanned, turn, free, full⟩ := scan_free_found slots start index empty
  have first : freeProbe slots start = found := by
    have met : (List.range slots.length).find?
        (fun probe => slots[(start + probe) &&& (slots.length - 1)]? = some none) = some found := by
      rw [List.find?_range_eq_some]
      refine ⟨decide_eq_true ((masked_free slots size start found power).mpr free), List.mem_range.mpr turn, ?_⟩
      intro earlier before
      rw [Bool.not_eq_true', decide_eq_false_iff_not, masked_free slots size start earlier power]
      exact full earlier before
    rw [freeProbe, met, Option.getD_some]
  rw [first, insert_loop_scans slots size start slots.length 0 power]
  exact ⟨scanned, turn, free, full⟩

structure Laid (snapshot : Snapshot) (size : Nat) (entries : List Entry) : Prop where
  power : snapshot.slots.length = 2 ^ size
  filled : stored snapshot.slots = entries.length
  reached : ∀ entry ∈ entries,
    Placed snapshot.slots snapshot.maxProbe (snapshot.startOf entry.object entry.kind) entry.ref

variable (ref : Ref)

theorem laid_empty (size : Nat) : Laid ⟨ref, List.replicate (2 ^ size) none, 0⟩ size [] := by
  refine ⟨List.length_replicate, ?_, nofun⟩
  simp only [stored, List.countP_replicate, Option.isSome_none, Bool.false_eq_true, ↓reduceIte, List.length_nil]

theorem laid_place (snapshot : Snapshot) (size : Nat) (entries : List Entry) (entry : Entry)
    (laid : Laid snapshot size entries) (room : entries.length < 2 ^ size) :
    Laid (snapshot.place entry) size (entries ++ [entry]) := by
  have roomy : stored snapshot.slots < snapshot.slots.length := by
    rw [laid.filled, laid.power]
    exact room
  have positive : 0 < snapshot.slots.length := Nat.zero_lt_of_lt roomy
  obtain ⟨-, -, free, full⟩ :=
    insert_loop_found snapshot.slots size (snapshot.startOf entry.object entry.kind) laid.power roomy
  have slots : (snapshot.place entry).slots = storeAt snapshot.slots (snapshot.startOf entry.object entry.kind)
      (freeProbe snapshot.slots (snapshot.startOf entry.object entry.kind)) entry.ref := by
    rw [storeAt, laid.power, ← Nat.and_two_pow_sub_one_eq_mod, ← laid.power]
    rfl
  have length : (snapshot.place entry).slots.length = snapshot.slots.length := List.length_set
  have starts : ∀ object kind, (snapshot.place entry).startOf object kind = snapshot.startOf object kind := by
    intro object kind
    rw [startOf, startOf, length]
  refine ⟨length.trans laid.power, ?_, ?_⟩
  · rw [slots, storeAt, stored_set _ _ _ (slot_free _ _ _ positive free), laid.filled, List.length_append,
      List.length_singleton]
  · intro other among
    rw [slots, starts]
    rcases List.mem_append.mp among with old | new
    · exact placed_store _ _ _ _ positive free _ _ _ (laid.reached other old)
    · rw [List.mem_singleton.mp new]
      exact placed_here _ _ _ _ positive full _

theorem laid_fold (rest : List Entry) (snapshot : Snapshot) (size : Nat) (entries : List Entry)
    (laid : Laid snapshot size entries) (room : (entries ++ rest).length ≤ 2 ^ size) :
    Laid (rest.foldl place snapshot) size (entries ++ rest) := by
  induction rest generalizing snapshot entries with
  | nil => simpa only [List.foldl_nil, List.append_nil] using laid
  | cons entry rest ih =>
    have fits : entries.length < 2 ^ size := by
      simp only [List.length_append, List.length_cons] at room
      omega
    have next := ih (snapshot.place entry) (entries ++ [entry]) (laid_place snapshot size entries entry laid fits)
      (by rw [List.append_assoc]; exact room)
    rw [List.append_assoc] at next
    exact next

theorem partly_laid (entries before after : List Entry) (split : registered entries = before ++ after) :
    ∃ size, Laid (partly ref entries before) size before ∧ (registered entries).length < 2 ^ size := by
  obtain ⟨size, power⟩ := capacity_power (registered entries).length
  have roomy := capacity_room (registered entries).length
  rw [power] at roomy
  refine ⟨size, ?_, roomy⟩
  have fits : ([] ++ before).length ≤ 2 ^ size := by
    rw [split, List.length_append] at roomy
    rw [List.nil_append]
    omega
  have laid := laid_fold before _ size [] (laid_empty ref size) fits
  rw [List.nil_append] at laid
  rw [partly, power]
  exact laid

variable (entries : List Entry)

theorem build_laid :
    ∃ size, Laid (build ref entries) size (registered entries) := by
  obtain ⟨size, laid, -⟩ := partly_laid ref entries (registered entries) [] (List.append_nil _).symm
  exact ⟨size, laid⟩

theorem deref_entry (owned : (entries.map Entry.ref).Nodup) (entry : Entry)
    (member : entry ∈ entries) : deref entries entry.ref = some entry := by
  induction entries with
  | nil => cases member
  | cons first rest ih =>
    rw [List.map_cons, List.nodup_cons] at owned
    by_cases same : first.ref = entry.ref
    · rcases List.mem_cons.mp member with here | later
      · simp only [here, deref, List.find?_cons, decide_true]
      · exact absurd (same ▸ List.mem_map_of_mem later) owned.1
    · rw [deref, List.find?_cons_of_neg (by simpa only [decide_eq_true_eq] using same)]
      rcases List.mem_cons.mp member with here | later
      · exact absurd (congrArg Entry.ref here.symm) same
      · exact ih owned.2 later

theorem wanted_entry (owned : (entries.map Entry.ref).Nodup) (object : Nat)
    (kind : OperationKind) (pointer : Ref) (inside : some pointer ∈ (build ref entries).slots)
    (wants : hasKey entries object kind pointer = true) :
    ∃ entry ∈ registered entries, entry.ref = pointer ∧ keyed entry = (object, kind) := by
  obtain ⟨entry, member, live, same⟩ := build_mentions ref entries pointer inside
  rw [hasKey, ← same, deref_entry entries owned entry member, Option.any_some, decide_eq_true_eq] at wants
  exact ⟨entry, List.mem_filter.mpr ⟨member, live⟩, same, Prod.ext wants.1 wants.2⟩

/-- Lookup is exact whatever the hashes: the registered entry of a key is found, an unregistered key is not, every
insertion ends at a free slot, and every registered entry is within the probe bound. -/
theorem lookup_exact (owned : (entries.map Entry.ref).Nodup)
    (distinct : ((registered entries).map keyed).Nodup) :
    (∀ entry ∈ registered entries, find (build ref entries) entries entry.object entry.kind = some entry.ref) ∧
    (∀ object kind, (∀ entry ∈ registered entries, keyed entry ≠ (object, kind)) →
      find (build ref entries) entries object kind = none) ∧
    (∀ before entry after, registered entries = before ++ entry :: after →
      let table := partly ref entries before
      insertLoop table.slots (table.startOf entry.object entry.kind) table.slots.length 0 =
          some (freeProbe table.slots (table.startOf entry.object entry.kind)) ∧
        probeSlot table entry.object entry.kind (freeProbe table.slots (table.startOf entry.object entry.kind)) = none) ∧
    (∀ entry ∈ registered entries, ∃ probe ≤ (build ref entries).maxProbe,
      (build ref entries).probeSlot entry.object entry.kind probe = some entry.ref ∧
        ∀ earlier < probe, (build ref entries).probeSlot entry.object entry.kind earlier ≠ none) := by
  obtain ⟨size, laid⟩ := build_laid ref entries
  have walks : ∀ object kind, find (build ref entries) entries object kind =
      findFrom (hasKey entries object kind) (build ref entries).slots ((build ref entries).startOf object kind)
        ((build ref entries).maxProbe + 1) 0 := by
    intro object kind
    exact find_loop_walks (build ref entries) entries object kind size _ 0 laid.power
  have reads : ∀ object kind probe, (build ref entries).probeSlot object kind probe =
      slotAt (build ref entries).slots ((build ref entries).startOf object kind) probe := by
    intro object kind probe
    exact masked_slot (build ref entries).slots size ((build ref entries).startOf object kind) probe laid.power
  refine ⟨?_, ?_, ?_, ?_⟩
  · intro entry member
    rw [walks]
    refine find_from_exact _ _ _ _ entry.ref (laid.reached entry member) ?_ ?_
    · rw [hasKey, deref_entry entries owned entry (List.mem_of_mem_filter member), Option.any_some, decide_eq_true_eq]
      exact ⟨rfl, rfl⟩
    · intro pointer inside wants
      obtain ⟨other, among, same, key⟩ := wanted_entry ref entries owned entry.object entry.kind pointer inside wants
      rw [← same, List.inj_on_of_nodup_map distinct among member key]
  · intro object kind unregistered
    rw [walks]
    refine find_from_absent _ _ _ _ _ ?_
    intro pointer inside
    rw [← Bool.not_eq_true]
    intro wants
    obtain ⟨other, among, -, key⟩ := wanted_entry ref entries owned object kind pointer inside wants
    exact unregistered other among key
  · intro before entry after split table
    obtain ⟨size, laid, room⟩ := partly_laid ref entries before (entry :: after) split
    have roomy : stored table.slots < table.slots.length := by
      rw [laid.filled, laid.power]
      rw [split, List.length_append, List.length_cons] at room
      omega
    obtain ⟨ends, -, free, -⟩ :=
      insert_loop_found table.slots size (table.startOf entry.object entry.kind) laid.power roomy
    exact ⟨ends, (masked_slot table.slots size (table.startOf entry.object entry.kind) _ laid.power).trans free⟩
  · intro entry member
    obtain ⟨probe, within, stored, full⟩ := laid.reached entry member
    refine ⟨probe, within, (reads entry.object entry.kind probe).trans stored, ?_⟩
    intro earlier before
    rw [reads]
    exact full earlier before

def collidingEntries : List Entry :=
  [{ ref := ⟨1, 0⟩, object := 0x70, kind := .motor, registered := false },
   { ref := ⟨2, 1⟩, object := 0x70, kind := .motor },
   { ref := ⟨3, 2⟩, object := 0xF0, kind := .motor }]

theorem lookup_exact_colliding :
    find (build ⟨9, 3⟩ collidingEntries) collidingEntries 0xF0 .motor = some ⟨3, 2⟩ ∧
      find (build ⟨9, 3⟩ collidingEntries) collidingEntries 0x170 .motor = none := by
  obtain ⟨present, absent, -⟩ := lookup_exact ⟨9, 3⟩ collidingEntries (by decide) (by decide)
  exact ⟨present { ref := ⟨3, 2⟩, object := 0xF0, kind := .motor } (by decide), absent 0x170 .motor (by decide)⟩

end Snapshot

end EncosDriver.Operation
