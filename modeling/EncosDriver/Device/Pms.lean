import EncosDriver.Device.Status
import Mathlib.Data.List.Induction

set_option autoImplicit false

namespace EncosDriver.Device.Pms

open Driver Message Motor

def stateTimeout : Int := 2 * second

def kBaseStateUpdated : UInt8 := 0x01
def kV48Current1To4Updated : UInt8 := 0x02
def kV48AndV19CurrentUpdated : UInt8 := 0x04
def kAllStateFramesUpdated : UInt8 := kBaseStateUpdated ||| kV48Current1To4Updated ||| kV48AndV19CurrentUpdated

structure PmsStatus (Number : Type) where
  v48ChannelEnabled : List Bool
  batterySoc : UInt8
  batteryVoltage : Number
  batteryCurrent : Number
  v5Current : Number
  v48Currents : List Number
  v19Currents : List Number
deriving DecidableEq

structure BaseState (Number : Type) where
  v48ChannelEnabled : List Bool
  batterySoc : UInt8
  batteryVoltage : Number
  batteryCurrent : Number
  v5Current : Number
deriving DecidableEq

structure Currents (Number : Type) where
  first : Number
  second : Number
  third : Number
  fourth : Number
deriving DecidableEq

inductive PmsUpdate (Number : Type) where
  | baseState (parsed : BaseState Number)
  | v48Current1To4 (parsed : Currents Number)
  | v48AndV19Currents (parsed : Currents Number)
deriving DecidableEq

inductive PmsKind where
  | baseState
  | v48Current1To4
  | v48AndV19Currents
deriving DecidableEq, Repr

def PmsKind.mask : PmsKind → UInt8
  | .baseState => kBaseStateUpdated
  | .v48Current1To4 => kV48Current1To4Updated
  | .v48AndV19Currents => kV48AndV19CurrentUpdated

structure Impl (Number : Type) where
  lastBaseStateUpdate : Int := 0
  lastV48Current1To4Update : Int := 0
  lastV48AndV19CurrentsUpdate : Int := 0
  updatedSinceCallback : UInt8 := 0
  currentStatus : PmsStatus Number
  onStatus : Bool := false
deriving DecidableEq

section Methods

variable {Number : Type}

def PmsUpdate.kind : PmsUpdate Number → PmsKind
  | .baseState _ => .baseState
  | .v48Current1To4 _ => .v48Current1To4
  | .v48AndV19Currents _ => .v48AndV19Currents

def Impl.store (impl : Impl Number) (now : Int) : PmsUpdate Number → Impl Number
  | .baseState parsed =>
    { impl with
      currentStatus := { impl.currentStatus with
        v48ChannelEnabled := parsed.v48ChannelEnabled
        batterySoc := parsed.batterySoc
        batteryVoltage := parsed.batteryVoltage
        batteryCurrent := parsed.batteryCurrent
        v5Current := parsed.v5Current }
      lastBaseStateUpdate := now
      updatedSinceCallback := impl.updatedSinceCallback ||| kBaseStateUpdated }
  | .v48Current1To4 parsed =>
    { impl with
      currentStatus := { impl.currentStatus with
        v48Currents := [parsed.first, parsed.second, parsed.third, parsed.fourth] ++ impl.currentStatus.v48Currents.drop 4 }
      lastV48Current1To4Update := now
      updatedSinceCallback := impl.updatedSinceCallback ||| kV48Current1To4Updated }
  | .v48AndV19Currents parsed =>
    { impl with
      currentStatus := { impl.currentStatus with
        v48Currents := impl.currentStatus.v48Currents.take 4 ++ [parsed.first, parsed.second]
        v19Currents := [parsed.third, parsed.fourth] }
      lastV48AndV19CurrentsUpdate := now
      updatedSinceCallback := impl.updatedSinceCallback ||| kV48AndV19CurrentUpdated }

def Impl.isStatusValid (impl : Impl Number) (now : Int) : Bool :=
  now - impl.lastBaseStateUpdate ≤ stateTimeout && now - impl.lastV48Current1To4Update ≤ stateTimeout &&
    now - impl.lastV48AndV19CurrentsUpdate ≤ stateTimeout

def Impl.getStatusSnapshot (impl : Impl Number) (now : Int) : Option (PmsStatus Number) :=
  if impl.isStatusValid now then some impl.currentStatus else none

variable [FloatArithmetic Number]

def decodeCurrents (data : Vector UInt8 8) : Currents Number :=
  let reading := fun offset => (ofI16 (readI16Le data offset) * (ofInt 1 / ofInt 100) : Number)
  ⟨reading 0, reading 2, reading 4, reading 6⟩

def decode (message : MotorPackMsg) : Option (PmsUpdate Number) :=
  let data := message.data
  let reading := fun offset => (ofI16 (readI16Le data offset) * (ofInt 1 / ofInt 100) : Number)
  if message.len < 8 then none
  else if message.id = kPmsStatusIds.getD 0 0 then
    some (.baseState ⟨(List.range 6).map fun channel => hasBit data 0 ((1 : UInt8) <<< UInt8.ofNat channel),
      data.toList.getD 1 0, ofU16 (readU16Le data 2) * (ofInt 1 / ofInt 100), reading 4, reading 6⟩)
  else if message.id = kPmsStatusIds.getD 1 0 then some (.v48Current1To4 (decodeCurrents data))
  else if message.id = kPmsStatusIds.getD 2 0 then some (.v48AndV19Currents (decodeCurrents data))
  else none

def Impl.onMessage (impl : Impl Number) (now : Int) (message : MotorPackMsg) : Handled (PmsStatus Number) (Impl Number) :=
  match decode message with
  | none => ⟨impl, none, false⟩
  | some update =>
    let stored := impl.store now update
    if stored.updatedSinceCallback = kAllStateFramesUpdated && stored.isStatusValid now then
      ⟨{ stored with updatedSinceCallback := 0 }, if stored.onStatus then some stored.currentStatus else none, stored.onStatus⟩
    else ⟨stored, none, false⟩

def Impl.step (impl : Impl Number) : StatusEvent → Impl Number
  | .frame now message => (impl.onMessage now message).state
  | .getStatus _ => impl
  | .setOnStatus isSet => { impl with onStatus := isSet }

def initial : Impl Number :=
  { currentStatus := ⟨List.replicate 6 false, 0, ofInt 0, ofInt 0, ofInt 0, List.replicate 6 (ofInt 0), List.replicate 2 (ofInt 0)⟩ }

def run (history : List StatusEvent) : Impl Number := history.foldl Impl.step initial

end Methods

section Law

variable {Number : Type}

def Impl.last (impl : Impl Number) : PmsKind → Int
  | .baseState => impl.lastBaseStateUpdate
  | .v48Current1To4 => impl.lastV48Current1To4Update
  | .v48AndV19Currents => impl.lastV48AndV19CurrentsUpdate

def PmsStatus.Holds (status : PmsStatus Number) : PmsUpdate Number → Prop
  | .baseState parsed =>
    parsed = ⟨status.v48ChannelEnabled, status.batterySoc, status.batteryVoltage, status.batteryCurrent, status.v5Current⟩
  | .v48Current1To4 parsed => status.v48Currents.take 4 = [parsed.first, parsed.second, parsed.third, parsed.fourth]
  | .v48AndV19Currents parsed =>
    status.v48Currents.drop 4 = [parsed.first, parsed.second] ∧ status.v19Currents = [parsed.third, parsed.fourth]

def Impl.Has (impl : Impl Number) (kind : PmsKind) : Prop := impl.updatedSinceCallback &&& kind.mask ≠ 0

theorem mask_same (first second : PmsKind) (common : first.mask &&& second.mask ≠ 0) : first = second := by
  cases first <;> cases second <;> first | rfl | exact absurd rfl common

theorem all_masks (kind : PmsKind) : kAllStateFramesUpdated &&& kind.mask ≠ 0 := by
  cases kind <;> decide

variable (impl : Impl Number) (now : Int)

variable (update : PmsUpdate Number)

theorem store_updated : (impl.store now update).updatedSinceCallback = impl.updatedSinceCallback ||| update.kind.mask := by
  cases update <;> rfl

theorem store_has (kind : PmsKind) (has : (impl.store now update).Has kind) : impl.Has kind ∨ update.kind = kind := by
  by_cases before : impl.Has kind
  · exact .inl before
  · right
    refine mask_same update.kind kind ?_
    rw [Impl.Has, not_not] at before
    rw [Impl.Has, store_updated] at has
    intro none
    refine has ?_
    have split : (impl.updatedSinceCallback ||| update.kind.mask) &&& kind.mask =
        (impl.updatedSinceCallback &&& kind.mask) ||| (update.kind.mask &&& kind.mask) :=
      UInt8.toBitVec_inj.mp BitVec.and_or_distrib_right
    rw [split, before, none]
    rfl

theorem store_last (kind : PmsKind) : (impl.store now update).last kind = if update.kind = kind then now else impl.last kind := by
  cases update <;> cases kind <;> rfl

theorem store_length
    (six : impl.currentStatus.v48Currents.length = 6) : (impl.store now update).currentStatus.v48Currents.length = 6 := by
  cases update <;> simp [Impl.store, six]

theorem store_holds (six : impl.currentStatus.v48Currents.length = 6) : (impl.store now update).currentStatus.Holds update := by
  cases update with
  | baseState parsed => rfl
  | v48Current1To4 parsed => rfl
  | v48AndV19Currents parsed =>
    refine ⟨?_, rfl⟩
    have front : (impl.currentStatus.v48Currents.take 4).length = 4 := by rw [List.length_take, six]; rfl
    exact List.drop_left' front

theorem store_keeps (update other : PmsUpdate Number)
    (six : impl.currentStatus.v48Currents.length = 6) (different : update.kind ≠ other.kind)
    (holds : impl.currentStatus.Holds other) : (impl.store now update).currentStatus.Holds other := by
  have front : (impl.currentStatus.v48Currents.take 4).length = 4 := by rw [List.length_take, six]; rfl
  cases update with
  | baseState parsed =>
    cases other with
    | baseState _ => exact absurd rfl different
    | v48Current1To4 _ => exact holds
    | v48AndV19Currents _ => exact holds
  | v48Current1To4 parsed =>
    cases other with
    | v48Current1To4 _ => exact absurd rfl different
    | baseState _ => exact holds
    | v48AndV19Currents _ => exact holds
  | v48AndV19Currents parsed =>
    cases other with
    | v48AndV19Currents _ => exact absurd rfl different
    | baseState _ => exact holds
    | v48Current1To4 _ => exact (List.take_left' front).trans holds

theorem valid_young (valid : impl.isStatusValid now = true) (kind : PmsKind) : now - impl.last kind ≤ stateTimeout := by
  simp only [Impl.isStatusValid, Bool.and_eq_true, decide_eq_true_eq] at valid
  cases kind with
  | baseState => exact valid.1.1
  | v48Current1To4 => exact valid.1.2
  | v48AndV19Currents => exact valid.2

variable [FloatArithmetic Number]

def frameOf (Number : Type) [FloatArithmetic Number] (kind : PmsKind) : StatusEvent → Option (PmsUpdate Number × Int)
  | .frame now message =>
    (decode message : Option (PmsUpdate Number)).bind fun update => if update.kind = kind then some (update, now) else none
  | _ => none

def frames (Number : Type) [FloatArithmetic Number] (kind : PmsKind) (history : List StatusEvent) : List (PmsUpdate Number × Int) :=
  history.filterMap (frameOf Number kind)

theorem frames_append (kind : PmsKind) (history later : List StatusEvent) :
    frames Number kind (history ++ later) = frames Number kind history ++ frames Number kind later := List.filterMap_append

variable (history : List StatusEvent)

theorem run_append (event : StatusEvent) : (run (history ++ [event]) : Impl Number) = (run history).step event := by
  rw [run, List.foldl_append]
  rfl

variable (impl : Impl Number) (now : Int) (message : MotorPackMsg)

theorem handled_state (update : PmsUpdate Number) (decoded : decode message = some update) :
    (impl.onMessage now message).state = { impl.store now update with
      updatedSinceCallback := (impl.onMessage now message).state.updatedSinceCallback } := by
  simp only [Impl.onMessage, decoded]
  split <;> rfl

theorem handed_complete (snapshot : PmsStatus Number) (handed : (impl.onMessage now message).handed = some snapshot) :
    ∃ update, decode message = some update ∧ (impl.store now update).updatedSinceCallback = kAllStateFramesUpdated ∧
      (impl.store now update).isStatusValid now = true ∧ snapshot = (impl.store now update).currentStatus ∧
      (impl.onMessage now message).state.updatedSinceCallback = 0 := by
  cases decoded : (decode message : Option (PmsUpdate Number)) with
  | none =>
    simp only [Impl.onMessage, decoded] at handed
    cases handed
  | some update =>
    refine ⟨update, rfl, ?_⟩
    simp only [Impl.onMessage, decoded] at handed ⊢
    split at handed
    · next complete =>
      rw [if_pos complete]
      rw [Bool.and_eq_true, decide_eq_true_eq] at complete
      simp only [Option.ite_none_right_eq_some, Option.some.injEq] at handed
      exact ⟨complete.1, complete.2, handed.2.symm, rfl⟩
    · cases handed

structure Knows (history : List StatusEvent) (impl : Impl Number) : Prop where
  six : impl.currentStatus.v48Currents.length = 6
  absent : ∀ kind, frames Number kind history = [] → impl.last kind = 0
  latest : ∀ kind update time, (frames Number kind history).getLast? = some (update, time) →
    update.kind = kind ∧ impl.last kind = time ∧ impl.currentStatus.Holds update

theorem knows_stored (update : PmsUpdate Number) (decoded : decode message = some update) (knows : Knows history impl) :
    Knows (history ++ [.frame now message]) (impl.store now update) := by
  have latest : ∀ kind, frames Number kind [.frame now message] = if update.kind = kind then [(update, now)] else [] := by
    intro kind
    by_cases same : update.kind = kind <;> simp [frames, frameOf, decoded, same]
  refine ⟨store_length impl now update knows.six, ?_, ?_⟩
  · intro kind none
    rw [frames_append, latest] at none
    obtain ⟨before, here⟩ := List.append_eq_nil_iff.mp none
    rw [store_last]
    split at here
    · cases here
    · next different =>
      rw [if_neg different]
      exact knows.absent kind before
  · intro kind other time last
    rw [frames_append, latest] at last
    rw [store_last]
    split at last
    · next same =>
      rw [List.getLast?_concat, Option.some.injEq, Prod.mk.injEq] at last
      obtain ⟨rfl, rfl⟩ := last
      exact ⟨same, if_pos same, store_holds impl now update knows.six⟩
    · next different =>
      rw [List.append_nil] at last
      obtain ⟨kind_, time_, holds⟩ := knows.latest kind other time last
      refine ⟨kind_, (if_neg different).trans time_, store_keeps impl now update other knows.six ?_ holds⟩
      rw [kind_]
      exact different

theorem run_knows : Knows history (run history : Impl Number) := by
  induction history using List.reverseRecOn with
  | nil =>
    refine ⟨rfl, fun kind _ => ?_, fun kind update time last => by cases last⟩
    cases kind <;> rfl
  | append_singleton history event ih =>
    have quiet : (∀ kind, frames Number kind [event] = []) → ∀ kind, frames Number kind (history ++ [event]) = frames Number kind history := by
      intro none kind
      rw [frames_append, none kind, List.append_nil]
    rw [run_append]
    cases event with
    | frame now message =>
      cases decoded : (decode message : Option (PmsUpdate Number)) with
      | none =>
        have same := quiet (fun kind => by simp [frames, frameOf, decoded])
        simp only [Impl.step, Impl.onMessage, decoded]
        exact ⟨ih.six, fun kind => same kind ▸ ih.absent kind, fun kind => same kind ▸ ih.latest kind⟩
      | some update =>
        have stored := knows_stored history _ now message update decoded ih
        rw [Impl.step, handled_state _ now message update decoded]
        refine ⟨stored.six, fun kind none => ?_, fun kind other time last => ?_⟩
        · rw [← stored.absent kind none]
          cases kind <;> rfl
        · obtain ⟨kind_, time_, holds⟩ := stored.latest kind other time last
          refine ⟨kind_, ?_, holds⟩
          rw [← time_]
          cases kind <;> rfl
    | getStatus now =>
      have same := quiet (fun kind => rfl)
      exact ⟨ih.six, fun kind => same kind ▸ ih.absent kind, fun kind => same kind ▸ ih.latest kind⟩
    | setOnStatus isSet =>
      have same := quiet (fun kind => rfl)
      refine ⟨ih.six, fun kind none => ?_, fun kind update time last => ?_⟩
      · rw [← ih.absent kind (same kind ▸ none)]
        cases kind <;> rfl
      · obtain ⟨kind_, time_, holds⟩ := ih.latest kind update time (same kind ▸ last)
        refine ⟨kind_, ?_, holds⟩
        rw [← time_]
        cases kind <;> rfl

def Invokes (Number : Type) [FloatArithmetic Number] (history : List StatusEvent) : Prop :=
  ∃ before now message, history = before ++ [.frame now message] ∧
    ((run before : Impl Number).onMessage now message).handed ≠ none

theorem invokes_marks (invokes : Invokes Number history) : (run history : Impl Number).updatedSinceCallback = 0 := by
  obtain ⟨before, now, message, rfl, invoked⟩ := invokes
  obtain ⟨snapshot, handed⟩ := Option.ne_none_iff_exists'.mp invoked
  obtain ⟨update, _, _, _, _, reset⟩ := handed_complete _ now message snapshot handed
  rw [run_append]
  exact reset

theorem step_has (impl : Impl Number) (event : StatusEvent) (kind : PmsKind) (has : (impl.step event).Has kind) :
    impl.Has kind ∨ frames Number kind [event] ≠ [] := by
  cases event with
  | getStatus now => exact .inl has
  | setOnStatus isSet => exact .inl has
  | frame now message =>
    cases decoded : (decode message : Option (PmsUpdate Number)) with
    | none =>
      simp only [Impl.step, Impl.onMessage, decoded] at has
      exact .inl has
    | some update =>
      have brings : update.kind = kind → frames Number kind [.frame now message] ≠ [] := by
        intro same
        simp [frames, frameOf, decoded, same]
      simp only [Impl.step, Impl.onMessage, decoded] at has
      split at has
      · exact absurd (UInt8.zero_and ..) has
      · exact (store_has impl now update kind has).imp_right brings

theorem marked_since (earlier later : List StatusEvent) (kind : PmsKind) (has : (run (earlier ++ later) : Impl Number).Has kind) :
    (run earlier : Impl Number).Has kind ∨ frames Number kind later ≠ [] := by
  induction later using List.reverseRecOn with
  | nil =>
    rw [List.append_nil] at has
    exact .inl has
  | append_singleton later event ih =>
    rw [← List.append_assoc, run_append] at has
    rw [frames_append]
    rcases step_has _ event kind has with before | here
    · rcases ih before with old | new
      · exact .inl old
      · exact .inr (List.append_ne_nil_of_left_ne_nil new _)
    · exact .inr (List.append_ne_nil_of_right_ne_nil _ here)

theorem complete_anew (now : Int) (message : MotorPackMsg) (update : PmsUpdate Number) (decoded : decode message = some update)
    (complete : ((run history : Impl Number).store now update).updatedSinceCallback = kAllStateFramesUpdated)
    (earlier later : List StatusEvent) (split : history = earlier ++ later)
    (unmarked : (run earlier : Impl Number).updatedSinceCallback = 0) (kind : PmsKind) :
    frames Number kind (later ++ [.frame now message]) ≠ [] := by
  have has : ((run history : Impl Number).store now update).Has kind := by
    rw [Impl.Has, complete]
    exact all_masks kind
  rw [frames_append]
  rcases store_has _ now update kind has with before | same
  · rw [split] at before
    rcases marked_since earlier later kind before with old | new
    · rw [Impl.Has, unmarked] at old
      exact absurd (UInt8.zero_and ..) old
    · exact List.append_ne_nil_of_left_ne_nil new _
  · refine List.append_ne_nil_of_right_ne_nil _ ?_
    simp [frames, frameOf, decoded, same]

structure Freshness (Number : Type) [FloatArithmetic Number] (history : List StatusEvent) : Prop where
  malformed : ∀ now message, message.len < 8 ∨ message.id ∉ kPmsStatusIds →
    (run history : Impl Number).onMessage now message = ⟨run history, none, false⟩
  anew : ∀ now message, ((run history : Impl Number).onMessage now message).handed ≠ none →
    ∀ earlier later, history = earlier ++ later → (earlier = [] ∨ Invokes Number earlier) →
      ∀ kind, frames Number kind (later ++ [.frame now message]) ≠ []
  handed : ∀ now message snapshot, ((run history : Impl Number).onMessage now message).handed = some snapshot →
    ∀ kind, ∃ update time, (frames Number kind (history ++ [.frame now message])).getLast? = some (update, time) ∧
      now - time ≤ stateTimeout ∧ snapshot.Holds update
  getStatus : ∀ now snapshot, (run history : Impl Number).getStatusSnapshot now = some snapshot →
    ∀ kind, (frames Number kind history = [] ∧ now ≤ stateTimeout) ∨
      ∃ update time, (frames Number kind history).getLast? = some (update, time) ∧ now - time ≤ stateTimeout ∧
        snapshot.Holds update

theorem snapshot_freshness (Number : Type) [FloatArithmetic Number] (history : List StatusEvent) : Freshness Number history := by
  have knows : Knows history (run history : Impl Number) := run_knows history
  refine ⟨?_, ?_, ?_, ?_⟩
  · intro now message malformed
    have none : (decode message : Option (PmsUpdate Number)) = none := by
      unfold decode
      by_cases short : message.len < 8
      · exact if_pos short
      · have foreign : ∀ id ∈ kPmsStatusIds, message.id ≠ id :=
          fun id inside same => malformed.resolve_left short (same ▸ inside)
        rw [if_neg short, if_neg (foreign _ (by decide)), if_neg (foreign _ (by decide)), if_neg (foreign _ (by decide))]
    simp only [Impl.onMessage, none]
  · intro now message invoked earlier later split since kind
    obtain ⟨snapshot, handed⟩ := Option.ne_none_iff_exists'.mp invoked
    obtain ⟨update, decoded, complete, _⟩ := handed_complete _ now message snapshot handed
    refine complete_anew history now message update decoded complete earlier later split ?_ kind
    rcases since with first | invokes
    · rw [first]
      rfl
    · exact invokes_marks earlier invokes
  · intro now message snapshot handed kind
    obtain ⟨update, decoded, complete, valid, same, _⟩ := handed_complete _ now message snapshot handed
    have arrived := complete_anew history now message update decoded complete [] history rfl rfl kind
    have stored := knows_stored history _ now message update decoded knows
    obtain ⟨last, found⟩ := Option.ne_none_iff_exists'.mp (fun none => arrived (List.getLast?_eq_none_iff.mp none))
    obtain ⟨_, time, holds⟩ := stored.latest kind last.1 last.2 found
    refine ⟨last.1, last.2, found, ?_, same ▸ holds⟩
    rw [← time]
    exact valid_young _ now valid kind
  · intro now snapshot returned kind
    rw [Impl.getStatusSnapshot] at returned
    split at returned
    · next valid =>
      have young := valid_young _ now valid kind
      cases found : (frames Number kind history).getLast? with
      | none =>
        have absent := List.getLast?_eq_none_iff.mp found
        rw [knows.absent kind absent, Int.sub_zero] at young
        exact .inl ⟨absent, young⟩
      | some last =>
        obtain ⟨_, time, holds⟩ := knows.latest kind last.1 last.2 found
        rw [time] at young
        exact .inr ⟨last.1, last.2, rfl, young, Option.some.inj returned ▸ holds⟩
    · cases returned

end Law

end EncosDriver.Device.Pms
