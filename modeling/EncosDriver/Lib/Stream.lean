import Mathlib.Data.List.Basic

set_option autoImplicit false

namespace EncosDriver.Lib

-- A parser of an unbounded stream looks at what is unread and either waits for
-- more or delivers items and consumes some symbols. What has come in already
-- decides: more input changes no step.
structure Scanner (Symbol Item : Type) where
  next : List Symbol → Option (List Item × Nat)
  consumes : ∀ unread items count, next unread = some (items, count) → 0 < count ∧ count ≤ unread.length
  stable : ∀ unread more items count, next unread = some (items, count) → next (unread ++ more) = some (items, count)

namespace Scanner

variable {Symbol Item : Type} (scanner : Scanner Symbol Item)

def scan (unread : List Symbol) : List Item × List Symbol :=
  match _found : scanner.next unread with
  | none => ([], unread)
  | some (items, count) =>
    let following := scan (unread.drop count)
    (items ++ following.1, following.2)
termination_by unread.length
decreasing_by
  obtain ⟨positive, bounded⟩ := scanner.consumes unread items count _found
  rw [List.length_drop]
  omega

variable (unread : List Symbol)

theorem scan_waits (waits : scanner.next unread = none) : scanner.scan unread = ([], unread) := by
  rw [scan]
  split
  · rfl
  · rename_i found
    rw [waits] at found
    cases found

theorem scan_steps (items : List Item) (count : Nat) (found : scanner.next unread = some (items, count)) :
    scanner.scan unread = (items ++ (scanner.scan (unread.drop count)).1, (scanner.scan (unread.drop count)).2) := by
  rw [scan]
  split
  · rename_i waits
    rw [found] at waits
    cases waits
  · rename_i again
    rw [found] at again
    cases again
    rfl

theorem scan_pending : scanner.next (scanner.scan unread).2 = none := by
  induction unread using scan.induct scanner with
  | case1 unread waits =>
    rw [scan_waits scanner unread waits]
    exact waits
  | case2 unread items count found ih =>
    rw [scan_steps scanner unread items count found]
    exact ih

theorem scan_append (first second : List Symbol) :
    scanner.scan (first ++ second) =
      ((scanner.scan first).1 ++ (scanner.scan ((scanner.scan first).2 ++ second)).1,
        (scanner.scan ((scanner.scan first).2 ++ second)).2) := by
  induction first using scan.induct scanner with
  | case1 unread waits => simp [scan_waits scanner unread waits]
  | case2 unread items count found ih =>
    obtain ⟨-, bounded⟩ := scanner.consumes unread items count found
    rw [scan_steps scanner (unread ++ second) items count (scanner.stable unread second items count found),
      scan_steps scanner unread items count found, List.drop_append_of_le_length bounded, ih]
    simp

def feed (state : List Item × List Symbol) (chunk : List Symbol) : List Item × List Symbol :=
  let scanned := scanner.scan (state.2 ++ chunk)
  (state.1 ++ scanned.1, scanned.2)

theorem feed_chunks (items : List Item) (unread : List Symbol) (waits : scanner.next unread = none)
    (chunks : List (List Symbol)) :
    chunks.foldl scanner.feed (items, unread) =
      (items ++ (scanner.scan (unread ++ chunks.flatten)).1, (scanner.scan (unread ++ chunks.flatten)).2) := by
  induction chunks generalizing items unread with
  | nil => simp [scan_waits scanner unread waits]
  | cons chunk rest ih =>
    have pending := scan_pending scanner (unread ++ chunk)
    rw [List.foldl_cons, feed, ih _ _ pending, List.flatten_cons, ← List.append_assoc, scan_append scanner (unread ++ chunk)]
    simp

end Scanner

end EncosDriver.Lib
