import Mathlib.Data.List.Basic

set_option autoImplicit false

namespace EncosDriver.Lib

section Probing

variable {Item : Type}

def slotAt (slots : List (Option Item)) (start probe : Nat) : Option Item :=
  slots[(start + probe) % slots.length]?.getD none

def scanFree (slots : List (Option Item)) (start : Nat) : Nat → Nat → Option Nat
  | 0, _ => none
  | fuel + 1, probe =>
    if slotAt slots start probe = none then some probe else scanFree slots start fuel (probe + 1)

def storeAt (slots : List (Option Item)) (start probe : Nat) (item : Item) : List (Option Item) :=
  slots.set ((start + probe) % slots.length) (some item)

def findFrom (wanted : Item → Bool) (slots : List (Option Item)) (start : Nat) : Nat → Nat → Option Item
  | 0, _ => none
  | fuel + 1, probe =>
    match slotAt slots start probe with
    | none => none
    | some item => if wanted item then some item else findFrom wanted slots start fuel (probe + 1)

def Placed (slots : List (Option Item)) (bound start : Nat) (item : Item) : Prop :=
  ∃ probe ≤ bound, slotAt slots start probe = some item ∧ ∀ earlier < probe, slotAt slots start earlier ≠ none

variable (slots : List (Option Item))

variable (start probe : Nat) (item : Item)

theorem slot_in_table (stored : slotAt slots start probe = some item) : some item ∈ slots := by
  unfold slotAt at stored
  cases read : slots[(start + probe) % slots.length]? with
  | none => simp [read] at stored
  | some slot =>
    rw [read, Option.getD_some] at stored
    rw [stored] at read
    exact List.mem_of_getElem? read

theorem probe_reaches (length start index : Nat) (inside : index < length) :
    ∃ probe < length, (start + probe) % length = index := by
  have positive : 0 < length := Nat.zero_lt_of_lt inside
  have small : start % length < length := Nat.mod_lt start positive
  by_cases behind : start % length ≤ index
  · refine ⟨index - start % length, by omega, ?_⟩
    rw [← Nat.mod_add_mod, Nat.add_sub_cancel' behind, Nat.mod_eq_of_lt inside]
  · refine ⟨index + length - start % length, by omega, ?_⟩
    rw [← Nat.mod_add_mod, Nat.add_sub_cancel' (by omega), Nat.add_mod_right, Nat.mod_eq_of_lt inside]

theorem scan_free_some (start fuel probe free : Nat)
    (empty : slotAt slots start free = none) (reach : probe ≤ free ∧ free < probe + fuel) :
    ∃ found, scanFree slots start fuel probe = some found ∧ probe ≤ found ∧ found < probe + fuel ∧
      slotAt slots start found = none ∧ ∀ earlier, probe ≤ earlier → earlier < found → slotAt slots start earlier ≠ none := by
  induction fuel generalizing probe with
  | zero => omega
  | succ fuel ih =>
    by_cases here : slotAt slots start probe = none
    · refine ⟨probe, by simp only [scanFree, here, ↓reduceIte], Nat.le_refl probe, by omega, here, ?_⟩
      intro earlier from_ before
      omega
    · have later : probe ≠ free := by
        intro same
        rw [same] at here
        exact here empty
      obtain ⟨found, scanned, above, below, isFree, full⟩ := ih (probe + 1) (by omega)
      refine ⟨found, ?_, by omega, by omega, isFree, ?_⟩
      · simp only [scanFree, here, ↓reduceIte]
        exact scanned
      · intro earlier from_ before
        by_cases first : earlier = probe
        · rw [first]
          exact here
        · exact full earlier (by omega) before

theorem scan_free_found (start index : Nat) (empty : slots[index]? = some none) :
    ∃ found, scanFree slots start slots.length 0 = some found ∧ found < slots.length ∧
      slotAt slots start found = none ∧ ∀ earlier < found, slotAt slots start earlier ≠ none := by
  have inside : index < slots.length := (List.getElem?_eq_some_iff.mp empty).1
  obtain ⟨free, turn, meets⟩ := probe_reaches slots.length start index inside
  have isFree : slotAt slots start free = none := by rw [slotAt, meets, empty, Option.getD_some]
  obtain ⟨found, scanned, -, below, stillFree, full⟩ :=
    scan_free_some slots start slots.length 0 free isFree ⟨Nat.zero_le free, by omega⟩
  exact ⟨found, scanned, by omega, stillFree, fun earlier before => full earlier (Nat.zero_le earlier) before⟩

theorem slot_at_store (positive : 0 < slots.length) (otherStart otherProbe : Nat) :
    slotAt (storeAt slots start probe item) otherStart otherProbe =
      if (otherStart + otherProbe) % slots.length = (start + probe) % slots.length then some item
      else slotAt slots otherStart otherProbe := by
  unfold slotAt storeAt
  rw [List.length_set, List.getElem?_set]
  by_cases same : (start + probe) % slots.length = (otherStart + otherProbe) % slots.length
  · rw [if_pos same, if_pos same.symm, if_pos (same ▸ Nat.mod_lt _ positive), Option.getD_some]
  · rw [if_neg same, if_neg (Ne.symm same)]

theorem placed_store (positive : 0 < slots.length)
    (free : slotAt slots start probe = none) (bound otherStart : Nat) (other : Item)
    (placed : Placed slots bound otherStart other) :
    Placed (storeAt slots start probe item) (max bound probe) otherStart other := by
  obtain ⟨at_, within, stored, full⟩ := placed
  have kept : ∀ otherProbe, slotAt slots otherStart otherProbe ≠ none →
      slotAt (storeAt slots start probe item) otherStart otherProbe = slotAt slots otherStart otherProbe := by
    intro otherProbe occupied
    rw [slot_at_store slots start probe item positive, if_neg]
    intro same
    rw [slotAt, same] at occupied
    exact occupied free
  refine ⟨at_, by omega, ?_, ?_⟩
  · rw [kept at_ (by rw [stored]; exact Option.some_ne_none other), stored]
  · intro earlier before
    rw [kept earlier (full earlier before)]
    exact full earlier before

theorem placed_here (positive : 0 < slots.length) (full : ∀ earlier < probe, slotAt slots start earlier ≠ none) (bound : Nat) :
    Placed (storeAt slots start probe item) (max bound probe) start item := by
  refine ⟨probe, Nat.le_max_right bound probe, ?_, ?_⟩
  · rw [slot_at_store slots start probe item positive, if_pos rfl]
  · intro earlier before
    rw [slot_at_store slots start probe item positive]
    split
    · exact Option.some_ne_none item
    · exact full earlier before

variable (wanted : Item → Bool) (slots : List (Option Item))

theorem find_from_wanted (start fuel probe : Nat) (item : Item)
    (found : findFrom wanted slots start fuel probe = some item) : wanted item = true ∧ some item ∈ slots := by
  induction fuel generalizing probe with
  | zero => cases found
  | succ fuel ih =>
    cases read : slotAt slots start probe with
    | none => simp only [findFrom, read, reduceCtorEq] at found
    | some here =>
      by_cases matching : wanted here = true
      · simp only [findFrom, read, matching, ↓reduceIte, Option.some.injEq] at found
        rw [← found]
        exact ⟨matching, slot_in_table slots start probe here read⟩
      · simp only [findFrom, read, matching, Bool.false_eq_true, ↓reduceIte] at found
        exact ih (probe + 1) found

theorem find_from_placed (start fuel probe target : Nat)
    (item : Item) (wants : wanted item = true) (stored : slotAt slots start target = some item)
    (full : ∀ earlier < target, slotAt slots start earlier ≠ none) (reach : probe ≤ target ∧ target < probe + fuel) :
    ∃ found, findFrom wanted slots start fuel probe = some found := by
  induction fuel generalizing probe with
  | zero => omega
  | succ fuel ih =>
    cases read : slotAt slots start probe with
    | none =>
      by_cases last : probe = target
      · rw [last, stored] at read
        cases read
      · exact absurd read (full probe (by omega))
    | some here =>
      by_cases matching : wanted here = true
      · exact ⟨here, by simp only [findFrom, read, matching, ↓reduceIte]⟩
      · have before : probe ≠ target := by
          intro same
          rw [same, stored] at read
          cases read
          exact matching wants
        obtain ⟨found, walked⟩ := ih (probe + 1) (by omega)
        exact ⟨found, by simp only [findFrom, read, matching, Bool.false_eq_true, ↓reduceIte]; exact walked⟩

theorem find_from_exact (bound start : Nat) (item : Item) (placed : Placed slots bound start item) (wants : wanted item = true)
    (only : ∀ other, some other ∈ slots → wanted other = true → other = item) :
    findFrom wanted slots start (bound + 1) 0 = some item := by
  obtain ⟨target, within, stored, full⟩ := placed
  obtain ⟨found, walked⟩ :=
    find_from_placed wanted slots start (bound + 1) 0 target item wants stored full ⟨Nat.zero_le target, by omega⟩
  obtain ⟨matching, inside⟩ := find_from_wanted wanted slots start (bound + 1) 0 found walked
  rw [walked, only found inside matching]

theorem find_from_absent (start fuel probe : Nat)
    (absent : ∀ other, some other ∈ slots → wanted other = false) : findFrom wanted slots start fuel probe = none := by
  cases walked : findFrom wanted slots start fuel probe with
  | none => rfl
  | some found =>
    obtain ⟨matching, inside⟩ := find_from_wanted wanted slots start fuel probe found walked
    rw [absent found inside] at matching
    cases matching

def stored (slots : List (Option Item)) : Nat := slots.countP Option.isSome

theorem stored_set (index : Nat) (item : Item) (free : slots[index]? = some none) :
    stored (slots.set index (some item)) = stored slots + 1 := by
  induction slots generalizing index with
  | nil => cases free
  | cons first rest ih =>
    cases index with
    | zero =>
      cases free
      simp only [stored, List.set_cons_zero, List.countP_cons, Option.isSome_some, Option.isSome_none,
        Bool.false_eq_true, ↓reduceIte, Nat.add_zero]
    | succ index =>
      have grown := ih index free
      simp only [stored] at grown
      simp only [stored, List.set_cons_succ, List.countP_cons, grown]
      omega

theorem room_left (room : stored slots < slots.length) : ∃ index : Nat, slots[index]? = some none := by
  by_contra full
  have every : ∀ slot ∈ slots, Option.isSome slot = true := by
    intro slot inside
    obtain ⟨index, read⟩ := List.mem_iff_getElem?.mp inside
    cases slot with
    | none => exact absurd ⟨index, read⟩ full
    | some item => rfl
  rw [stored, List.countP_eq_length.mpr every] at room
  exact Nat.lt_irrefl _ room

theorem slot_free (start probe : Nat) (positive : 0 < slots.length)
    (free : slotAt slots start probe = none) : slots[(start + probe) % slots.length]? = some none := by
  have inside : (start + probe) % slots.length < slots.length := Nat.mod_lt _ positive
  unfold slotAt at free
  rw [List.getElem?_eq_getElem inside, Option.getD_some] at free
  rw [List.getElem?_eq_getElem inside, free]

end Probing

end EncosDriver.Lib
