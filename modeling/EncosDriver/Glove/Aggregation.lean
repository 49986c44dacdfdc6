import Mathlib.Data.List.GetD
import Mathlib.Data.List.Infix
import Mathlib.Algebra.GroupWithZero.Nat

set_option autoImplicit false

namespace EncosDriver.Glove

section Cycles

variable {Item : Type} (complete : List Item → Bool)

def cycleStep (cycles : List (List Item) × List Item) (item : Item) : List (List Item) × List Item :=
  if complete (cycles.2 ++ [item]) then (cycles.1 ++ [cycles.2 ++ [item]], []) else (cycles.1, cycles.2 ++ [item])

def cyclesOf (items : List Item) : List (List Item) × List Item := items.foldl (cycleStep complete) ([], [])

variable (items : List Item)

theorem cycles_append (item : Item) :
    cyclesOf complete (items ++ [item]) = cycleStep complete (cyclesOf complete items) item := by
  rw [cyclesOf, List.foldl_append]
  rfl

theorem cycles_flatten : (cyclesOf complete items).1.flatten ++ (cyclesOf complete items).2 = items := by
  induction items using List.reverseRecOn with
  | nil => rfl
  | append_singleton items item ih =>
    rw [cycles_append, cycleStep]
    split
    · rw [List.flatten_append, List.flatten_singleton, List.append_nil, ← List.append_assoc, ih]
    · rw [← List.append_assoc, ih]

def Closes (cycle : List Item) : Prop :=
  complete cycle = true ∧ ∀ front, front <+: cycle → front ≠ cycle → complete front = false

theorem cycles_closed (nothing : complete [] = false) :
    (∀ cycle ∈ (cyclesOf complete items).1, Closes complete cycle) ∧
      ∀ front, front <+: (cyclesOf complete items).2 → complete front = false := by
  induction items using List.reverseRecOn with
  | nil =>
    refine ⟨(fun _ inside => by cases inside), ?_⟩
    intro front within
    rw [List.prefix_nil.mp within]
    exact nothing
  | append_singleton items item ih =>
    obtain ⟨closed, open_⟩ := ih
    rw [cycles_append, cycleStep]
    split
    · next completed =>
      refine ⟨?_, ?_⟩
      · intro cycle inside
        rcases List.mem_append.mp inside with old | new
        · exact closed cycle old
        · rw [List.mem_singleton.mp new]
          refine ⟨completed, ?_⟩
          intro front within different
          rcases List.prefix_concat_iff.mp within with whole | before
          · exact absurd whole different
          · exact open_ front before
      · intro front within
        rw [List.prefix_nil.mp within]
        exact nothing
    · next unfinished =>
      refine ⟨closed, ?_⟩
      intro front within
      rcases List.prefix_concat_iff.mp within with whole | before
      · rw [whole]
        exact Bool.eq_false_iff.mpr unfinished
      · exact open_ front before

end Cycles

def kFingerCount : Nat := 5
def kEncodersPerFinger : Nat := 10
def kEncoderCount : Nat := kFingerCount * kEncodersPerFinger

abbrev GloveEncoderStatus (Angle : Type) := Option Angle

abbrev GloveStatus (Angle : Type) := List (List (GloveEncoderStatus Angle))

structure Impl (Angle : Type) where
  status : GloveStatus Angle := List.replicate kFingerCount (List.replicate kEncodersPerFinger none)
  updatedInCycle : List Bool := List.replicate kEncoderCount false
  onStatus : Bool := false
deriving DecidableEq, Repr

variable {Angle : Type}

def encoderOf (status : GloveStatus Angle) (encoder : Nat) : GloveEncoderStatus Angle :=
  (status.getD (encoder / kEncodersPerFinger) []).getD (encoder % kEncodersPerFinger) none

def setEncoder (status : GloveStatus Angle) (encoder : Nat) (value : GloveEncoderStatus Angle) : GloveStatus Angle :=
  status.set (encoder / kEncodersPerFinger)
    ((status.getD (encoder / kEncodersPerFinger) []).set (encoder % kEncodersPerFinger) value)

-- Also gives the snapshot that the callback is called with, if it is. An
-- exception of the callback goes nowhere.
def Impl.onEncoderUpdate (impl : Impl Angle) (encoderIdx : Nat) (encoderStatus : GloveEncoderStatus Angle) :
    Impl Angle × Option (GloveStatus Angle) :=
  if kEncoderCount ≤ encoderIdx then (impl, none)
  else
    let stored := { impl with
      status := setEncoder impl.status encoderIdx encoderStatus
      updatedInCycle := impl.updatedInCycle.set encoderIdx true }
    if stored.updatedInCycle.all id then
      ({ stored with updatedInCycle := List.replicate kEncoderCount false },
        if stored.onStatus then some stored.status else none)
    else (stored, none)

inductive GloveEvent (Angle : Type) where
  | update (encoderIdx : Nat) (encoderStatus : GloveEncoderStatus Angle)
  | setOnStatus (isSet : Bool)
deriving DecidableEq, Repr

def Impl.step (impl : Impl Angle) : GloveEvent Angle → Impl Angle
  | .update encoderIdx encoderStatus => (impl.onEncoderUpdate encoderIdx encoderStatus).1
  | .setOnStatus isSet => { impl with onStatus := isSet }

def run (history : List (GloveEvent Angle)) : Impl Angle := history.foldl Impl.step {}

def GloveEvent.report : GloveEvent Angle → Option Nat
  | .update encoderIdx _ => if encoderIdx < kEncoderCount then some encoderIdx else none
  | .setOnStatus _ => none

def GloveEvent.value (encoder : Nat) : GloveEvent Angle → Option (GloveEncoderStatus Angle)
  | .update encoderIdx encoderStatus => if encoderIdx = encoder then some encoderStatus else none
  | .setOnStatus _ => none

def GloveEvent.setting : GloveEvent Angle → Option Bool
  | .update _ _ => none
  | .setOnStatus isSet => some isSet

-- Whether the last setting of the callback has left one; at first there is none.
def callbackSet (history : List (GloveEvent Angle)) : Bool := (history.filterMap GloveEvent.setting).getLastD false

def reports (history : List (GloveEvent Angle)) : List Nat := history.filterMap GloveEvent.report

def values (encoder : Nat) (history : List (GloveEvent Angle)) : List (GloveEncoderStatus Angle) :=
  history.filterMap (·.value encoder)

def allReported (cycle : List Nat) : Bool := (List.range kEncoderCount).all (decide <| · ∈ cycle)

abbrev cycles (history : List (GloveEvent Angle)) : List (List Nat) × List Nat := cyclesOf allReported (reports history)

theorem nothing_reported : allReported [] = false := by decide

theorem all_reported_iff (cycle : List Nat) : allReported cycle = true ↔ ∀ encoder, encoder < kEncoderCount → encoder ∈ cycle := by
  rw [allReported, List.all_eq_true]
  constructor
  · intro all encoder bound
    exact of_decide_eq_true (all encoder (List.mem_range.mpr bound))
  · intro all encoder inside
    exact decide_eq_true (all encoder (List.mem_range.mp inside))

structure Shaped (status : GloveStatus Angle) : Prop where
  fingers : status.length = kFingerCount
  encoders : ∀ finger, finger < kFingerCount → (status.getD finger []).length = kEncodersPerFinger

theorem finger_bound (encoder : Nat) (bound : encoder < kEncoderCount) : encoder / kEncodersPerFinger < kFingerCount := by
  unfold kEncoderCount kFingerCount kEncodersPerFinger at *
  omega

variable (status : GloveStatus Angle)

theorem row_set (encoder finger : Nat) (value : GloveEncoderStatus Angle) (shaped : Shaped status)
    (bound : encoder < kEncoderCount) :
    (setEncoder status encoder value).getD finger [] =
      if finger = encoder / kEncodersPerFinger then (status.getD finger []).set (encoder % kEncodersPerFinger) value
      else status.getD finger [] := by
  have inside := finger_bound encoder bound
  rw [setEncoder, List.getD_eq_getElem?_getD, List.getElem?_set]
  by_cases same : finger = encoder / kEncodersPerFinger
  · subst same
    rw [if_pos rfl, shaped.fingers, if_pos inside, if_pos rfl]
    rfl
  · rw [if_neg (Ne.symm same), if_neg same, List.getD_eq_getElem?_getD]

theorem set_shaped (encoder : Nat) (value : GloveEncoderStatus Angle) (shaped : Shaped status)
    (bound : encoder < kEncoderCount) : Shaped (setEncoder status encoder value) := by
  refine ⟨?_, ?_⟩
  · rw [setEncoder, List.length_set]
    exact shaped.fingers
  · intro finger inside
    rw [row_set status encoder finger value shaped bound]
    split
    · rw [List.length_set]
      exact shaped.encoders finger inside
    · exact shaped.encoders finger inside

theorem encoder_set (encoder other : Nat) (value : GloveEncoderStatus Angle)
    (shaped : Shaped status) (bound : encoder < kEncoderCount) :
    encoderOf (setEncoder status encoder value) other = if other = encoder then value else encoderOf status other := by
  have position := Nat.div_add_mod encoder kEncodersPerFinger
  have other_ := Nat.div_add_mod other kEncodersPerFinger
  rw [encoderOf, row_set status encoder _ value shaped bound]
  by_cases same : other = encoder
  · subst same
    have room : other % kEncodersPerFinger < (status.getD (other / kEncodersPerFinger) []).length := by
      rw [shaped.encoders _ (finger_bound other bound)]
      exact Nat.mod_lt _ (by decide)
    rw [if_pos rfl, if_pos rfl, List.getD_eq_getElem?_getD, List.getElem?_set_self room]
    rfl
  · rw [if_neg same]
    split
    · next row =>
      have column : encoder % kEncodersPerFinger ≠ other % kEncodersPerFinger := by
        intro column
        rw [row, ← column, position] at other_
        exact same other_.symm
      rw [List.getD_eq_getElem?_getD, List.getElem?_set_ne column, ← List.getD_eq_getElem?_getD]
      rfl
    · rfl

structure Knows (history : List (GloveEvent Angle)) (impl : Impl Angle) : Prop where
  shaped : Shaped impl.status
  length : impl.updatedInCycle.length = kEncoderCount
  marks : ∀ encoder, encoder < kEncoderCount → impl.updatedInCycle.getD encoder false = decide (encoder ∈ (cycles history).2)
  latest : ∀ encoder, encoder < kEncoderCount → encoderOf impl.status encoder = (values encoder history).getLastD none
  onStatus : impl.onStatus = callbackSet history

variable (history : List (GloveEvent Angle))

theorem run_append (event : GloveEvent Angle) : run (history ++ [event]) = (run history).step event := by
  rw [run, List.foldl_append]
  rfl

variable (encoder : Nat)

theorem values_append (history later : List (GloveEvent Angle)) :
    values encoder (history ++ later) = values encoder history ++ values encoder later := List.filterMap_append

variable (value : GloveEncoderStatus Angle)

theorem reports_update
    (bound : encoder < kEncoderCount) : reports (history ++ [.update encoder value]) = reports history ++ [encoder] := by
  rw [reports, List.filterMap_append]
  simp [GloveEvent.report, bound, reports]

theorem callback_update :
    callbackSet (history ++ [.update encoder value]) = callbackSet history := by
  rw [callbackSet, List.filterMap_append]
  exact congrArg (List.getLastD · false) (List.append_nil _)

theorem callback_set (isSet : Bool) : callbackSet (history ++ [.setOnStatus isSet]) = isSet := by
  rw [callbackSet, List.filterMap_append]
  exact List.getLastD_concat

theorem marks_set (marks : List Bool) (cycle : List Nat) (encoder other : Nat) (length : marks.length = kEncoderCount)
    (bound : encoder < kEncoderCount) (before : marks.getD other false = decide (other ∈ cycle)) :
    (marks.set encoder true).getD other false = decide (other ∈ cycle ++ [encoder]) := by
  rw [List.getD_eq_getElem?_getD, List.getElem?_set]
  by_cases same : encoder = other
  · subst same
    rw [if_pos rfl, length, if_pos bound]
    simp
  · rw [if_neg same, ← List.getD_eq_getElem?_getD, before]
    simp [Ne.symm same]

theorem marks_all (marks : List Bool) (cycle : List Nat) (length : marks.length = kEncoderCount)
    (agree : ∀ encoder, encoder < kEncoderCount → marks.getD encoder false = decide (encoder ∈ cycle)) :
    marks.all id = allReported cycle := by
  rw [Bool.eq_iff_iff, all_reported_iff, List.all_eq_true]
  constructor
  · intro all encoder bound
    have room : encoder < marks.length := length ▸ bound
    have marked := agree encoder bound
    rw [List.getD_eq_getElem _ _ room, show marks[encoder] = true from all _ (List.getElem_mem room)] at marked
    exact of_decide_eq_true marked.symm
  · intro all mark inside
    obtain ⟨encoder, room, rfl⟩ := List.mem_iff_getElem.mp inside
    have marked := agree encoder (length ▸ room)
    rw [List.getD_eq_getElem _ _ room, decide_eq_true (all encoder (length ▸ room))] at marked
    exact marked

variable (impl : Impl Angle)

theorem update_cases (encoder : Nat) (value : GloveEncoderStatus Angle)
    (bound : encoder < kEncoderCount) (knows : Knows history impl) :
    impl.onEncoderUpdate encoder value =
      if allReported ((cycles history).2 ++ [encoder]) then
        ({ impl with status := setEncoder impl.status encoder value, updatedInCycle := List.replicate kEncoderCount false },
          if impl.onStatus then some (setEncoder impl.status encoder value) else none)
      else
        ({ impl with
            status := setEncoder impl.status encoder value
            updatedInCycle := impl.updatedInCycle.set encoder true }, none) := by
  have all := marks_all (impl.updatedInCycle.set encoder true) ((cycles history).2 ++ [encoder])
    (by rw [List.length_set]; exact knows.length)
    (fun other inside => marks_set _ _ encoder other knows.length bound (knows.marks other inside))
  rw [Impl.onEncoderUpdate, if_neg (Nat.not_le_of_lt bound)]
  simp only [all]

theorem update_latest (encoder other : Nat)
    (value : GloveEncoderStatus Angle) (bound : encoder < kEncoderCount) (inside : other < kEncoderCount) (knows : Knows history impl) :
    encoderOf (setEncoder impl.status encoder value) other = (values other (history ++ [.update encoder value])).getLastD none := by
  rw [encoder_set impl.status encoder other value knows.shaped bound, values_append]
  by_cases same : other = encoder
  · subst same
    simp [values, GloveEvent.value]
  · rw [if_neg same, knows.latest other inside]
    simp [values, GloveEvent.value, Ne.symm same]

theorem cycles_update (bound : encoder < kEncoderCount) :
    cycles (history ++ [.update encoder value]) = cycleStep allReported (cycles history) encoder := by
  rw [cycles, reports_update history encoder value bound, cycles_append]

theorem step_knows (event : GloveEvent Angle) (knows : Knows history impl) :
    Knows (history ++ [event]) (impl.step event) := by
  cases event with
  | setOnStatus isSet =>
    have same : reports (history ++ [.setOnStatus isSet]) = reports history := by
      rw [reports, List.filterMap_append]
      exact List.append_nil _
    refine ⟨knows.shaped, knows.length, ?_, ?_, (callback_set history isSet).symm⟩
    · rw [cycles, same]
      exact knows.marks
    · intro encoder bound
      rw [values_append, show values encoder [GloveEvent.setOnStatus isSet] = ([] : List (GloveEncoderStatus Angle)) from rfl, List.append_nil]
      exact knows.latest encoder bound
  | update encoder value =>
    have unset := knows.onStatus.trans (callback_update history encoder value).symm
    by_cases bound : encoder < kEncoderCount
    · have shaped := set_shaped impl.status encoder value knows.shaped bound
      rw [Impl.step, update_cases history impl encoder value bound knows]
      by_cases completed : allReported ((cycles history).2 ++ [encoder]) = true
      · rw [if_pos completed]
        refine ⟨shaped, List.length_replicate, ?_,
          fun other inside => update_latest history impl encoder other value bound inside knows, unset⟩
        intro other _
        rw [cycles_update history encoder value bound, cycleStep, if_pos completed, List.getD_eq_getElem?_getD,
          List.getElem?_getD_replicate_default_eq]
        rfl
      · rw [if_neg completed]
        refine ⟨shaped, ?_, ?_, fun other inside => update_latest history impl encoder other value bound inside knows, unset⟩
        · rw [List.length_set]
          exact knows.length
        · intro other inside
          rw [cycles_update history encoder value bound, cycleStep, if_neg completed]
          exact marks_set _ _ encoder other knows.length bound (knows.marks other inside)
    · have same : reports (history ++ [.update encoder value]) = reports history := by
        rw [reports, List.filterMap_append]
        simp [GloveEvent.report, bound, reports]
      rw [Impl.step, Impl.onEncoderUpdate, if_pos (Nat.not_lt.mp bound)]
      refine ⟨knows.shaped, knows.length, ?_, ?_, unset⟩
      · rw [cycles, same]
        exact knows.marks
      · intro other inside
        have different : encoder ≠ other := fun same => bound (same ▸ inside)
        rw [values_append]
        simp only [values, List.filterMap_cons, GloveEvent.value, different, ↓reduceIte, List.filterMap_nil, List.append_nil]
        exact knows.latest other inside

theorem run_knows : Knows history (run history) := by
  induction history using List.reverseRecOn with
  | nil =>
    have fingers : (run [] : Impl Angle).status = List.replicate kFingerCount (List.replicate kEncodersPerFinger none) := rfl
    have marks : (run [] : Impl Angle).updatedInCycle = List.replicate kEncoderCount false := rfl
    refine ⟨⟨rfl, ?_⟩, rfl, ?_, ?_, rfl⟩
    · intro finger inside
      rw [fingers, List.getD_replicate _ inside, List.length_replicate]
    · intro encoder inside
      rw [marks, List.getD_replicate _ inside]
      rfl
    · intro encoder inside
      rw [encoderOf, fingers, List.getD_replicate _ (finger_bound encoder inside), List.getD_eq_getElem?_getD,
        List.getElem?_getD_replicate_default_eq]
      rfl
  | append_singleton history event ih =>
    rw [run_append]
    exact step_knows history _ event ih

theorem reported_latest (reported : encoder ∈ reports history) :
    (values encoder history).getLast? = some ((values encoder history).getLastD none) := by
  obtain ⟨event, inside, report⟩ := List.mem_filterMap.mp reported
  cases event with
  | setOnStatus isSet => cases report
  | update other value =>
    simp only [GloveEvent.report, Option.ite_none_right_eq_some, Option.some.injEq] at report
    have brought : value ∈ values encoder history :=
      List.mem_filterMap.mpr ⟨_, inside, by rw [GloveEvent.value, if_pos report.2]⟩
    rcases List.eq_nil_or_concat (values encoder history) with none | ⟨front, last, some⟩
    · rw [none] at brought
      cases brought
    · rw [some, List.concat_eq_append, List.getLast?_concat, List.getLastD_concat]

-- The reports of any history fall into cycles, each closed by the report with
-- which every encoder has reported in it, and an open rest. The callback is
-- called, while one is set, exactly at the reports that close a cycle.
structure Aggregates (history : List (GloveEvent Angle)) : Prop where
  split : (cycles history).1.flatten ++ (cycles history).2 = reports history
  closed : ∀ cycle ∈ (cycles history).1, Closes allReported cycle
  unfinished : ∀ front, front <+: (cycles history).2 → allReported front = false
  invoked : ∀ encoder value, encoder < kEncoderCount →
    (((run history).onEncoderUpdate encoder value).2.isSome = true ↔
      callbackSet history = true ∧ Closes allReported ((cycles history).2 ++ [encoder]))
  ends : ∀ encoder value, encoder < kEncoderCount →
    cycles (history ++ [.update encoder value]) = cycleStep allReported (cycles history) encoder
  snapshot : ∀ encoder value status, ((run history).onEncoderUpdate encoder value).2 = some status →
    ∀ other, other < kEncoderCount →
      (values other (history ++ [.update encoder value])).getLast? = some (encoderOf status other)
  ignored : ∀ encoder value, kEncoderCount ≤ encoder → (run history).onEncoderUpdate encoder value = (run history, none)

theorem glove_aggregates (history : List (GloveEvent Angle)) : Aggregates history := by
  have knows := run_knows history
  have closed := cycles_closed allReported (reports history) nothing_reported
  refine ⟨cycles_flatten allReported (reports history), closed.1, closed.2, ?_, ?_, ?_, ?_⟩
  · intro encoder value bound
    rw [update_cases history _ encoder value bound knows]
    have closes : Closes allReported ((cycles history).2 ++ [encoder]) ↔ allReported ((cycles history).2 ++ [encoder]) = true := by
      refine ⟨fun closes => closes.1, fun completed => ⟨completed, ?_⟩⟩
      intro front within different
      rcases List.prefix_concat_iff.mp within with whole | before
      · exact absurd whole different
      · exact closed.2 front before
    rw [closes]
    by_cases completed : allReported ((cycles history).2 ++ [encoder]) = true
    · rw [if_pos completed]
      rw [knows.onStatus]
      by_cases isSet : callbackSet history = true <;> simp [isSet, completed]
    · rw [if_neg completed]
      simp [completed]
  · exact fun encoder value bound => cycles_update history encoder value bound
  · intro encoder value status handed other inside
    by_cases bound : encoder < kEncoderCount
    · rw [update_cases history _ encoder value bound knows] at handed
      split at handed
      · next completed =>
        simp only [Option.ite_none_right_eq_some, Option.some.injEq] at handed
        rw [← handed.2, update_latest history _ encoder other value bound inside knows]
        have reported : other ∈ reports (history ++ [.update encoder value]) := by
          rw [reports_update history encoder value bound, ← cycles_flatten allReported (reports history), List.append_assoc]
          exact List.mem_append_right _ ((all_reported_iff _).mp completed other inside)
        exact reported_latest _ other reported
      · cases handed
    · rw [Impl.onEncoderUpdate, if_pos (Nat.not_lt.mp bound)] at handed
      cases handed
  · intro encoder value beyond
    rw [Impl.onEncoderUpdate, if_pos beyond]

-- A callback is set, and all encoders but the last report, the first of them
-- twice.
def almostCycle : List (GloveEvent Nat) :=
  [.setOnStatus true, .update 0 (some 7)] ++ (List.range 49).map fun encoder => .update encoder (some encoder)

theorem glove_aggregates_cycle :
    (cycles (almostCycle ++ [.update 49 (some 49)])).2 = [] ∧
      ∃ status, ((run almostCycle).onEncoderUpdate 49 (some 49)).2 = some status ∧
        ∀ other, other < kEncoderCount →
          (values other (almostCycle ++ [.update 49 (some 49)])).getLast? = some (encoderOf status other) := by
  have called : ((run almostCycle).onEncoderUpdate 49 (some 49)).2.isSome = true := by decide +kernel
  obtain ⟨status, handed⟩ := Option.isSome_iff_exists.mp called
  exact ⟨by decide +kernel, status, handed, (glove_aggregates almostCycle).snapshot 49 (some 49) status handed⟩

end EncosDriver.Glove
