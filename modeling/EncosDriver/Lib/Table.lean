import Mathlib.Data.List.AList
import Mathlib.Algebra.BigOperators.Group.List.Basic
import Mathlib.Algebra.GroupWithZero.Nat

set_option autoImplicit false

namespace EncosDriver.Lib

abbrev Table (Key Value : Type) := AList fun _ : Key => Value

namespace Table

variable {Key Value : Type} [DecidableEq Key]

def find (table : Table Key Value) (key : Key) : Option Value := AList.lookup key table

def put (table : Table Key Value) (key : Key) (value : Value) : Table Key Value := AList.insert key value table

def remove (table : Table Key Value) (key : Key) : Table Key Value := AList.erase key table

def contains (table : Table Key Value) (key : Key) : Bool := (table.find key).isSome

def emplace (table : Table Key Value) (key : Key) (value : Value) : Table Key Value :=
  match table.find key with
  | some _ => table
  | none => table.put key value

def modify (table : Table Key Value) (key : Key) (change : Value → Value) : Table Key Value :=
  match table.find key with
  | some value => table.put key (change value)
  | none => table

def toList {Key Value : Type} (table : Table Key Value) : List (Key × Value) :=
  table.entries.map fun entry => (entry.1, entry.2)

def emplaceAll (table : Table Key Value) (entries : List (Key × Value)) : Table Key Value :=
  entries.foldl (fun table entry => table.emplace entry.1 entry.2) table

def putAll (table : Table Key Value) (entries : List (Key × Value)) : Table Key Value :=
  entries.foldl (fun table entry => table.put entry.1 entry.2) table

def removeMatching [DecidableEq Value] (table : Table Key Value) (entries : List (Key × Value)) : Table Key Value :=
  entries.foldl (fun table entry => if table.find entry.1 = some entry.2 then table.remove entry.1 else table) table

def modifyAll (table : Table Key Value) (keys : List Key) (change : Value → Value) : Table Key Value :=
  keys.foldl (fun table key => table.modify key change) table

def rekey (table : Table Key Value) (old new : Key) : Table Key Value :=
  match table.find old with
  | some value => (table.remove old).emplace new value
  | none => table

def retain {Key Value : Type} (table : Table Key Value) (keep : Key → Bool) : Table Key Value :=
  ⟨table.entries.filter fun entry => keep entry.1, table.nodupKeys.sublist List.filter_sublist⟩

@[simp] theorem find_empty (key : Key) : (∅ : Table Key Value).find key = none := rfl

variable (table : Table Key Value)

variable (key other : Key)

@[simp] theorem find_put (value : Value) :
    (table.put key value).find other = if other = key then some value else table.find other := by
  by_cases same : other = key
  · subst same
    simp [find, put]
  · simp [find, put, same, AList.lookup_insert_ne]

@[simp] theorem find_remove : (table.remove key).find other = if other = key then none else table.find other := by
  by_cases same : other = key
  · subst same
    simp [find, remove]
  · simp [find, remove, same, AList.lookup_erase_ne]

theorem absent_if (absent : table.find key = none) : (if other = key then none else table.find other) = table.find other := by
  by_cases same : other = key
  · simp [same, absent]
  · simp [same]

theorem find_emplace (value : Value) :
    (table.emplace key value).find other =
      if other = key then some ((table.find key).getD value) else table.find other := by
  cases found : table.find key with
  | none => simp [emplace, found]
  | some old =>
    by_cases same : other = key
    · subst same
      simp [emplace, found]
    · simp [emplace, found, same]

theorem emplace_some (value held : Value) (found : table.find other = some held) :
    (table.emplace key value).find other = some held := by
  rw [find_emplace]
  split
  · rename_i same
    rw [← same, found, Option.getD_some]
  · exact found

@[simp] theorem find_emplace_absent (value : Value) (absent : table.find key = none) :
    (table.emplace key value).find other = if other = key then some value else table.find other := by
  simp [find_emplace, absent]

@[simp] theorem find_modify (change : Value → Value) :
    (table.modify key change).find other =
      if other = key then (table.find key).map change else table.find other := by
  cases found : table.find key with
  | none =>
    by_cases same : other = key
    · subst same
      simp [modify, found]
    · simp [modify, found, same]
  | some value => simp [modify, found]

theorem mem_to_list (key : Key) (value : Value) : (key, value) ∈ table.toList ↔ table.find key = some value := by
  have member : (key, value) ∈ table.toList ↔ Sigma.mk key value ∈ table.entries := by
    constructor
    · intro inside
      obtain ⟨entry, inEntries, same⟩ := List.mem_map.mp inside
      obtain ⟨entryKey, entryValue⟩ := entry
      simp only [Prod.mk.injEq] at same
      obtain ⟨rfl, rfl⟩ := same
      exact inEntries
    · intro inside
      exact List.mem_map.mpr ⟨_, inside, rfl⟩
  rw [member, ← AList.mem_lookup_iff]
  exact Option.mem_def

theorem to_list_distinct {Key Value : Type} (table : Table Key Value) : (table.toList.map Prod.fst).Nodup := by
  have keys : table.toList.map Prod.fst = table.entries.keys := by
    simp only [toList, List.map_map, List.keys]
    rfl
  rw [keys]
  exact table.nodupKeys

@[simp] theorem find_retain (keep : Key → Bool) (key : Key) :
    (table.retain keep).find key = if keep key then table.find key else none := by
  have entries (value : Value) : (table.retain keep).find key = some value ↔ table.find key = some value ∧ keep key := by
    simp only [find]
    rw [← Option.mem_def, AList.mem_lookup_iff, ← Option.mem_def, AList.mem_lookup_iff]
    simp [retain, List.mem_filter]
  cases kept : keep key with
  | true =>
    simp only [kept, and_true] at entries
    simpa using Option.ext entries
  | false =>
    simp only [kept, Bool.false_eq_true, and_false, iff_false] at entries
    simpa using Option.eq_none_iff_forall_ne_some.mpr entries

@[simp] theorem contains_false (key : Key) : table.contains key = false ↔ table.find key = none := by
  simp [contains]

@[simp] theorem contains_true (key : Key) : table.contains key = true ↔ table.find key ≠ none := by
  simp [contains, Option.isSome_iff_ne_none]

theorem find_rekey (old new other : Key) (free : table.find new = none) (different : new ≠ old) :
    (table.rekey old new).find other =
      if other = new then table.find old else if other = old then none else table.find other := by
  cases found : table.find old with
  | none =>
    by_cases atNew : other = new
    · simp [rekey, found, atNew, free]
    · by_cases atOld : other = old
      · simp [rekey, atOld, found]
      · simp [rekey, found, atNew, atOld]
  | some value =>
    have absent : (table.remove old).find new = none := by simp [free]
    by_cases atNew : other = new
    · simp [rekey, found, atNew, free, different]
    · by_cases atOld : other = old
      · simp [rekey, found, find_emplace, atOld, different.symm]
      · simp [rekey, found, find_emplace, atNew, atOld]

variable (entries : List (Key × Value)) (key : Key)

theorem find_emplace_all (value : Value)
    (absent : ∀ entry ∈ entries, table.find entry.1 = none) (distinct : (entries.map Prod.fst).Nodup) :
    (table.emplaceAll entries).find key = some value ↔ table.find key = some value ∨ (key, value) ∈ entries := by
  induction entries generalizing table with
  | nil => simp [emplaceAll]
  | cons entry rest ih =>
    obtain ⟨entryKey, entryValue⟩ := entry
    simp only [List.map_cons, List.nodup_cons, List.mem_map, not_exists, not_and] at distinct
    have free : table.find entryKey = none := absent (entryKey, entryValue) List.mem_cons_self
    have stillAbsent : ∀ other ∈ rest, (table.emplace entryKey entryValue).find other.1 = none := by
      intro other inside
      rw [find_emplace_absent table entryKey other.1 entryValue free,
        if_neg (fun same => distinct.1 other inside same)]
      exact absent other (List.mem_cons_of_mem _ inside)
    have unfolded : table.emplaceAll ((entryKey, entryValue) :: rest) =
        (table.emplace entryKey entryValue).emplaceAll rest := rfl
    rw [unfolded, ih _ stillAbsent distinct.2, find_emplace_absent table entryKey key entryValue free,
      List.mem_cons, Prod.mk.injEq]
    by_cases same : key = entryKey
    · subst same
      simp only [free, ↓reduceIte, Option.some.injEq, reduceCtorEq, false_or]
      constructor
      · rintro (rfl | inside)
        · exact .inl ⟨trivial, rfl⟩
        · exact .inr inside
      · rintro (⟨-, rfl⟩ | inside)
        · exact .inl rfl
        · exact .inr inside
    · simp [same]

theorem find_emplace_all_none :
    (table.emplaceAll entries).find key = none ↔ table.find key = none ∧ key ∉ entries.map Prod.fst := by
  induction entries generalizing table with
  | nil => simp [emplaceAll]
  | cons entry rest ih =>
    obtain ⟨entryKey, entryValue⟩ := entry
    have unfolded : table.emplaceAll ((entryKey, entryValue) :: rest) =
        (table.emplace entryKey entryValue).emplaceAll rest := rfl
    rw [unfolded, ih, find_emplace, List.map_cons, List.mem_cons, not_or]
    by_cases same : key = entryKey
    · simp [same]
    · simp [same]

theorem find_emplace_all_other (outside : key ∉ entries.map Prod.fst) : (table.emplaceAll entries).find key = table.find key := by
  induction entries generalizing table with
  | nil => rfl
  | cons entry rest ih =>
    rw [List.map_cons, List.mem_cons, not_or] at outside
    have unfolded : table.emplaceAll (entry :: rest) = (table.emplace entry.1 entry.2).emplaceAll rest := rfl
    rw [unfolded, ih _ outside.2, find_emplace, if_neg outside.1]

variable (keys : List Key) (change : Value → Value)

theorem find_modify_all_none (key : Key) : (table.modifyAll keys change).find key = none ↔ table.find key = none := by
  induction keys generalizing table with
  | nil => rfl
  | cons head rest ih =>
    have unfolded : table.modifyAll (head :: rest) change = (table.modify head change).modifyAll rest change := rfl
    rw [unfolded, ih, find_modify]
    by_cases same : key = head
    · simp [same]
    · simp [same]

theorem find_modify_all_other (key : Key) (outside : key ∉ keys) : (table.modifyAll keys change).find key = table.find key := by
  induction keys generalizing table with
  | nil => rfl
  | cons head rest ih =>
    rw [List.mem_cons, not_or] at outside
    have unfolded : table.modifyAll (head :: rest) change = (table.modify head change).modifyAll rest change := rfl
    rw [unfolded, ih _ outside.2, find_modify, if_neg outside.1]

theorem modify_keeps (target key : Key) (change : Value → Value) (Holds : Value → Prop)
    (keeps : ∀ value, Holds value → Holds (change value)) (before : ∀ value, table.find key = some value → Holds value) :
    ∀ value, (table.modify target change).find key = some value → Holds value := by
  intro value found
  rw [find_modify] at found
  by_cases same : key = target
  · rw [if_pos same] at found
    obtain ⟨old, held, rfl⟩ := Option.map_eq_some_iff.mp found
    exact keeps old (before old (by rw [same]; exact held))
  · rw [if_neg same] at found
    exact before value found

theorem modify_all_keeps (targets : List Key) (key : Key) (change : Value → Value) (Holds : Value → Prop)
    (keeps : ∀ value, Holds value → Holds (change value)) (before : ∀ value, table.find key = some value → Holds value) :
    ∀ value, (table.modifyAll targets change).find key = some value → Holds value := by
  induction targets generalizing table with
  | nil => exact before
  | cons target rest ih =>
    have unfolded : table.modifyAll (target :: rest) change = (table.modify target change).modifyAll rest change := rfl
    rw [unfolded]
    exact ih _ (modify_keeps table target key change Holds keeps before)

theorem modify_all_found (targets : List Key) (key : Key) (change : Value → Value) (Holds : Value → Prop)
    (keeps : ∀ value, Holds value → Holds (change value)) (before : ∃ value, table.find key = some value ∧ Holds value) :
    ∃ value, (table.modifyAll targets change).find key = some value ∧ Holds value := by
  obtain ⟨old, held, holds⟩ := before
  cases found : (table.modifyAll targets change).find key with
  | none =>
    rw [find_modify_all_none, held] at found
    cases found
  | some value =>
    refine ⟨value, rfl, modify_all_keeps table targets key change Holds keeps ?_ value found⟩
    rintro other other_found
    rw [held, Option.some.injEq] at other_found
    exact other_found ▸ holds

theorem find_remove_matching [DecidableEq Value] (table : Table Key Value) (entries : List (Key × Value)) (key : Key)
    (value : Value) :
    (table.removeMatching entries).find key = some value ↔ table.find key = some value ∧ (key, value) ∉ entries := by
  induction entries generalizing table with
  | nil => simp [removeMatching]
  | cons entry rest ih =>
    obtain ⟨entryKey, entryValue⟩ := entry
    have unfolded : table.removeMatching ((entryKey, entryValue) :: rest) =
        (if table.find entryKey = some entryValue then table.remove entryKey else table).removeMatching rest := rfl
    rw [unfolded, ih, List.mem_cons, Prod.mk.injEq]
    by_cases held : table.find entryKey = some entryValue
    · rw [if_pos held, find_remove]
      by_cases same : key = entryKey
      · subst same
        simp only [↓reduceIte, reduceCtorEq, false_and, held, Option.some.injEq, true_and, not_or, false_iff, not_and]
        intro equal different
        exact absurd equal.symm different
      · simp [same]
    · rw [if_neg held]
      constructor
      · rintro ⟨found, outside⟩
        refine ⟨found, ?_⟩
        rintro (⟨rfl, rfl⟩ | inside)
        · exact held found
        · exact outside inside
      · rintro ⟨found, outside⟩
        exact ⟨found, fun inside => outside (.inr inside)⟩

theorem find_modify_all (idempotent : ∀ value, change (change value) = change value) (key : Key) :
    (table.modifyAll keys change).find key =
      if key ∈ keys then (table.find key).map change else table.find key := by
  induction keys generalizing table with
  | nil => simp [modifyAll]
  | cons head rest ih =>
    have unfolded : table.modifyAll (head :: rest) change = (table.modify head change).modifyAll rest change := rfl
    rw [unfolded, ih, find_modify]
    by_cases same : key = head
    · subst same
      by_cases inside : key ∈ rest
      · cases table.find key <;> simp [inside, idempotent]
      · simp [inside]
    · simp [same]

theorem find_put_all_other (entries : List (Key × Value)) (key : Key)
    (unlisted : key ∉ entries.map Prod.fst) : (table.putAll entries).find key = table.find key := by
  induction entries generalizing table with
  | nil => rfl
  | cons entry rest ih =>
    rw [List.map_cons, List.mem_cons, not_or] at unlisted
    rw [putAll, List.foldl_cons, ← putAll, ih (table.put entry.1 entry.2) unlisted.2, find_put, if_neg unlisted.1]

theorem find_put_all (entries : List (Key × Value)) (distinct : (entries.map Prod.fst).Nodup)
    (key : Key) (value : Value) (listed : (key, value) ∈ entries) : (table.putAll entries).find key = some value := by
  induction entries generalizing table with
  | nil => cases listed
  | cons entry rest ih =>
    rw [List.map_cons, List.nodup_cons] at distinct
    rw [putAll, List.foldl_cons, ← putAll]
    rcases List.mem_cons.mp listed with same | inside
    · subst same
      rw [find_put_all_other _ rest key distinct.1, find_put, if_pos rfl]
    · exact ih (table.put entry.1 entry.2) distinct.2 inside

theorem put_same (key : Key) (value : Value) : (table.put key value).find key = some value := by
  simp

theorem put_other (key other : Key) (value : Value) (different : other ≠ key) :
    (table.put key value).find other = table.find other := by
  simp [different]

def sum {Key Value : Type} (table : Table Key Value) (measure : Key → Value → Nat) : Nat :=
  (table.toList.map fun entry => measure entry.1 entry.2).sum

def share (table : Table Key Value) (measure : Key → Value → Nat) (key : Key) : Nat :=
  match table.find key with
  | some value => measure key value
  | none => 0

variable (measure : Key → Value → Nat)

variable (key : Key)

theorem sum_remove : (table.remove key).sum measure + table.share measure key = table.sum measure := by
  by_cases present : key ∈ table.entries.keys
  · obtain ⟨value, before, after, absent, split, kept⟩ := List.exists_of_kerase present
    have found : table.find key = some value := by
      have inside : Sigma.mk key value ∈ table.entries := by
        rw [split]
        simp
      exact AList.mem_lookup_iff.mpr inside
    have removed : (table.remove key).entries = before ++ after := kept
    simp only [sum, toList, share, found, removed]
    rw [split]
    simp only [List.map_append, List.map_cons, List.sum_append, List.sum_cons]
    omega
  · have found : table.find key = none := List.dlookup_eq_none.mpr present
    have removed : (table.remove key).entries = table.entries := List.kerase_of_notMem_keys present
    simp only [sum, toList, share, found, removed]
    omega

theorem sum_put (value : Value) :
    (table.put key value).sum measure + table.share measure key = table.sum measure + measure key value := by
  have front : (table.put key value).sum measure = measure key value + (table.remove key).sum measure := rfl
  have taken := sum_remove table measure key
  omega

theorem share_le_sum : table.share measure key ≤ table.sum measure := by
  have taken := sum_remove table measure key
  omega

theorem share_found (value : Value)
    (found : table.find key = some value) : table.share measure key = measure key value := by
  simp [share, found]

theorem share_absent (absent : table.find key = none) : table.share measure key = 0 := by
  simp [share, absent]

theorem sum_zero (zero : ∀ key value, table.find key = some value → measure key value = 0) : table.sum measure = 0 := by
  refine List.sum_eq_zero ?_
  intro amount inside
  obtain ⟨⟨key, value⟩, entry, rfl⟩ := List.mem_map.mp inside
  exact zero key value ((mem_to_list table key value).mp entry)

theorem sum_positive (positive : 0 < table.sum measure) : ∃ key value, table.find key = some value ∧ 0 < measure key value := by
  by_contra none
  have zero := sum_zero table measure (by
    intro key value found
    by_contra nonzero
    exact none ⟨key, value, found, Nat.pos_of_ne_zero nonzero⟩)
  omega

theorem sum_congr (table other : Table Key Value) (measure : Key → Value → Nat)
    (same : ∀ key, table.find key = other.find key) : table.sum measure = other.sum measure := by
  have entries : table.entries.Perm other.entries := by
    refine List.lookup_ext table.nodupKeys other.nodupKeys ?_
    intro key value
    have held : table.entries.dlookup key = other.entries.dlookup key := same key
    rw [held]
  exact List.Perm.sum_eq ((entries.map _).map _)

theorem sum_modify (change : Value → Value)
    (same : ∀ value, table.find key = some value → measure key (change value) = measure key value) :
    (table.modify key change).sum measure = table.sum measure := by
  cases found : table.find key with
  | none => simp [modify, found]
  | some value =>
    have total := sum_put table measure key (change value)
    rw [share_found table measure key value found, same value found] at total
    simp only [modify, found]
    omega

def extractAll (table : Table Key Value) : List Key → Table Key Value × List (Key × Value)
  | [] => (table, [])
  | key :: rest =>
    match table.find key with
    | none => table.extractAll rest
    | some value => (((table.remove key).extractAll rest).1, (key, value) :: ((table.remove key).extractAll rest).2)

variable (keys : List Key)

theorem find_extract_all (key : Key) :
    (table.extractAll keys).1.find key = if key ∈ keys then none else table.find key := by
  induction keys generalizing table with
  | nil => simp [extractAll]
  | cons head rest ih =>
    cases found : table.find head with
    | none =>
      simp only [extractAll, found, ih, List.mem_cons]
      by_cases same : key = head
      · simp [same, found]
      · simp [same]
    | some value =>
      simp only [extractAll, found, ih, List.mem_cons, find_remove]
      by_cases same : key = head
      · simp [same]
      · simp [same]

theorem mem_extract_all (key : Key) (value : Value) :
    (key, value) ∈ (table.extractAll keys).2 ↔ key ∈ keys ∧ table.find key = some value := by
  induction keys generalizing table with
  | nil => simp [extractAll]
  | cons head rest ih =>
    cases found : table.find head with
    | none =>
      simp only [extractAll, found, ih, List.mem_cons]
      constructor
      · rintro ⟨inside, held⟩
        exact ⟨.inr inside, held⟩
      · rintro ⟨rfl | inside, held⟩
        · rw [found] at held
          cases held
        · exact ⟨inside, held⟩
    | some first =>
      simp only [extractAll, found, ih, List.mem_cons, Prod.mk.injEq, find_remove]
      by_cases same : key = head
      · subst same
        simp [found, eq_comm]
      · simp [same]

theorem extract_all_distinct : ((table.extractAll keys).2.map Prod.fst).Nodup := by
  induction keys generalizing table with
  | nil => simp [extractAll]
  | cons head rest ih =>
    cases found : table.find head with
    | none =>
      simp only [extractAll, found]
      exact ih table
    | some value =>
      simp only [extractAll, found, List.map_cons, List.nodup_cons]
      refine ⟨?_, ih _⟩
      intro again
      obtain ⟨⟨key, other⟩, inside, same⟩ := List.mem_map.mp again
      have held := ((mem_extract_all _ _ _ _).mp inside).2
      simp only at same
      rw [same] at held
      simp at held

theorem find_restored (change : Value → Value)
    (undone : ∀ key value, key ∈ keys → table.find key = some value → change value = value) (key : Key) :
    ((table.extractAll keys).1.emplaceAll ((table.extractAll keys).2.map fun node => (node.1, change node.2))).find key =
      table.find key := by
  refine Option.ext fun value => ?_
  have held : ∀ value, (key, value) ∈ (table.extractAll keys).2.map (fun node => (node.1, change node.2)) ↔
      key ∈ keys ∧ table.find key = some value := by
    intro value
    simp only [List.mem_map, Prod.mk.injEq]
    constructor
    · rintro ⟨⟨other, before⟩, inside, rfl, rfl⟩
      obtain ⟨listed, found⟩ := (mem_extract_all _ _ _ _).mp inside
      rw [undone _ _ listed found]
      exact ⟨listed, found⟩
    · rintro ⟨listed, found⟩
      exact ⟨(key, value), (mem_extract_all _ _ _ _).mpr ⟨listed, found⟩, rfl, undone _ _ listed found⟩
  rw [find_emplace_all, held, find_extract_all]
  · by_cases listed : key ∈ keys
    · simp [listed]
    · simp [listed]
  · intro entry inside
    obtain ⟨node, taken, rfl⟩ := List.mem_map.mp inside
    obtain ⟨listed, -⟩ := (mem_extract_all _ _ _ _).mp taken
    rw [find_extract_all]
    simp [listed]
  · rw [List.map_map]
    exact extract_all_distinct table keys

section Inverse

variable {Key Value : Type} [DecidableEq Key] [DecidableEq Value]

def Inverse (forward : Table Key Value) (backward : Table Value Key) : Prop :=
  ∀ key value, forward.find key = some value ↔ backward.find value = some key

variable {forward : Table Key Value} {backward : Table Value Key} {key : Key} {value : Value}

theorem Inverse.emplace (inverse : Inverse forward backward) (free : forward.find key = none) (fresh : backward.find value = none) :
    Inverse (forward.emplace key value) (backward.emplace value key) := by
  intro other held
  rw [find_emplace_absent _ _ _ _ free, find_emplace_absent _ _ _ _ fresh]
  grind [Inverse]

theorem Inverse.remove (inverse : Inverse forward backward)
    (paired : forward.find key = some value ∨ forward.find key = none ∧ backward.find value = none) :
    Inverse (forward.remove key) (backward.remove value) := by
  intro other held
  rw [find_remove, find_remove]
  grind [Inverse]

theorem Inverse.rekey {new : Key} (inverse : Inverse forward backward) (there : backward.find value = some key)
    (free : forward.find new = none) (moves : new ≠ key) :
    Inverse (forward.rekey key new) (backward.modify value fun _ => new) := by
  have listed := (inverse key value).mpr there
  intro other held
  rw [find_rekey _ _ _ _ free moves, find_modify]
  grind [Inverse]

end Inverse
end Table

end EncosDriver.Lib
