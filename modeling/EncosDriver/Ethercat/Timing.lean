import EncosDriver.Adapter.Extend
import EncosDriver.Can.Timing
import EncosDriver.Ethercat.Reconfigure

set_option autoImplicit false

namespace EncosDriver.Ethercat.Timing

open Lib Adapter.Extend
open Can.Timing (Value Scope TimingError readCanTimingSamplePoint kBitrate kDbitrate kSamplePoint kDsamplePoint
  kCanTimingFields double)
open Ethercat.Reconfigure (Line Applied kGatewayChannelCount rejected)

def kCanTimingSdoBase : Nat := 0x2300
@[simp] def kCanTimingSubNominalBps : Nat := 1
@[simp] def kCanTimingSubDataBps : Nat := 2
@[simp] def kCanTimingSubNominalSamplePoint : Nat := 3
@[simp] def kCanTimingSubDataSamplePoint : Nat := 4
@[simp] def kCanTimingSubApply : Nat := 5
@[simp] def kCanTimingSubStatus : Nat := 6

structure CanTiming where
  nominalBps : UInt32 := 1000000
  dataBps : UInt32 := 5000000
  nominalSamplePoint : ℚ := 3 / 4
  dataSamplePoint : ℚ := 7 / 8

def toPerMille (samplePoint : ℚ) : UInt32 :=
  UInt32.ofNat ⌊Rounding.round double (Rounding.round double (samplePoint * 1000) + 1 / 2)⌋.toNat

def fromPerMille (perMille : UInt32) : ℚ := Rounding.round double (perMille.toNat / 1000)

def what (error : TimingError) : String := "Ethercat" ++ String.ofList (error.what.drop "CAN".length)

def readRate (scope : Scope) (key : Text) (fallback : UInt32) : Except TimingError UInt32 :=
  match scope.lookup key with
  | none => .ok fallback
  | some (.integer number) =>
    let parsed := number.bmod (2 ^ 64)
    if parsed ≤ 0 ∨ parsed > 0xFFFFFFFF then .error (.notPositive key) else .ok (UInt32.ofNat parsed.toNat)
  | some _ => .error (.notInteger key)

def applyGatewayCanTiming (scope : Scope) (timing : CanTiming) : Except TimingError CanTiming :=
  match scope.find? fun member => !kCanTimingFields.contains member.1 with
  | some member => .error (.unsupported member.1)
  | none => do
      let nominalBps ← readRate scope kBitrate timing.nominalBps
      let dataBps ← readRate scope kDbitrate timing.dataBps
      let nominalSamplePoint ← readCanTimingSamplePoint scope kSamplePoint timing.nominalSamplePoint
      let dataSamplePoint ← readCanTimingSamplePoint scope kDsamplePoint timing.dataSamplePoint
      .ok ⟨nominalBps, dataBps, nominalSamplePoint, dataSamplePoint⟩

def channelTiming (scope : Scope) : Except String (Option CanTiming) :=
  if scope.isEmpty then .ok none else ((applyGatewayCanTiming scope {}).map some).mapError what

section Plan

variable (extend : AdapterExtend) (read : Json → Value)

def scopeOf (slave channel : Nat) : Scope := (items (extend.scope slave channel)).map fun member => (member.1, read member.2)

def buildChannelTimingPlan (slave channelCount : Nat) : Except String (List (Option CanTiming)) :=
  if channelCount > kGatewayChannelCount ∨ channelCount = 0 ∧ ¬ extend.common.toList.isEmpty then
    .error s!"Ethercat slave {slave} has unsupported CAN channel count for timing configuration"
  else
    match extend.declaredBuses.find? fun bus => bus.1 = slave && channelCount ≤ bus.2 with
    | some bus => .error s!"Ethercat slave {slave} has no CAN channel '{bus.2}'"
    | none => (List.range channelCount).mapM fun channel => channelTiming (scopeOf extend read slave channel)

end Plan

-- One channel's object in a slave, whose firmware is the one that the header
-- describes: what a download leaves in its subindices is staged, and an apply
-- puts all of it in force or is refused, which only the status says.
structure Channel where
  staged : Nat → UInt32
  active : Nat → UInt32
  status : UInt32 := 0

def Channel.store (channel : Channel) (status : UInt32) (subindex : Nat) (value : UInt32) : Channel :=
  if subindex = kCanTimingSubApply then
    { channel with active := if status = 0 then channel.staged else channel.active, status := status }
  else { channel with staged := Function.update channel.staged subindex value }

def Channel.read (channel : Channel) (subindex : Nat) : UInt32 :=
  if subindex = kCanTimingSubStatus then channel.status else channel.staged subindex

-- An operation without an answer may have been carried out all the same. Of an
-- apply that is carried out, the slave makes the status; it answers one that it
-- refuses like any other.
inductive Outcome where
  | done (status : UInt32)
  | lost
  | unanswered (status : UInt32)
deriving DecidableEq

def Outcome.status? : Outcome → Option UInt32
  | .done status | .unanswered status => some status
  | .lost => none

def Outcome.answered : Outcome → Bool
  | .done _ => true
  | .lost | .unanswered _ => false

abbrev Mailbox := Nat → Outcome

structure Slaves where
  channels : Nat → Nat → Channel
  operations : Nat := 0

section Sdo

variable (mailbox : Mailbox) (slave index : Nat)

def writeSdo (subindex : Nat) (value : UInt32) (slaves : Slaves) : Bool × Slaves :=
  let outcome := mailbox slaves.operations
  let stored (other number : Nat) : Channel :=
    match outcome.status? with
    | some status =>
      if other = slave ∧ number = index then (slaves.channels other number).store status subindex value
      else slaves.channels other number
    | none => slaves.channels other number
  (outcome.answered, ⟨stored, slaves.operations + 1⟩)

def readSdoU32 (subindex : Nat) (slaves : Slaves) : Option UInt32 × Slaves :=
  (if (mailbox slaves.operations).answered then some ((slaves.channels slave index).read subindex) else none,
    { slaves with operations := slaves.operations + 1 })

def writeAll : List (Nat × UInt32) → Slaves → Bool × Slaves
  | [], slaves => (true, slaves)
  | (subindex, value) :: rest, slaves =>
    match writeSdo mailbox slave index subindex value slaves with
    | (true, after) => writeAll rest after
    | (false, after) => (false, (readSdoU32 mailbox slave index kCanTimingSubStatus after).2)

def readAll : List Nat → Slaves → Option (List UInt32) × Slaves
  | [], slaves => (some [], slaves)
  | subindex :: rest, slaves =>
    match readSdoU32 mailbox slave index subindex slaves with
    | (none, after) => (none, after)
    | (some value, after) => ((readAll rest after).1.map (value :: ·), (readAll rest after).2)

end Sdo

def stages (timing : CanTiming) : List (Nat × UInt32) :=
  [(kCanTimingSubNominalBps, timing.nominalBps), (kCanTimingSubDataBps, timing.dataBps),
    (kCanTimingSubNominalSamplePoint, toPerMille timing.nominalSamplePoint),
    (kCanTimingSubDataSamplePoint, toPerMille timing.dataSamplePoint)]

def programTiming (mailbox : Mailbox) (slave index : Nat) (timing : CanTiming) (slaves : Slaves) : Bool × Slaves :=
  writeAll mailbox slave index (stages timing ++ [(kCanTimingSubApply, 1)]) slaves

structure Job where
  slave : Nat
  index : Nat
  timing : CanTiming

def jobs (plans : List (List (Option CanTiming))) : List Job :=
  plans.zipIdx.flatMap fun plan => plan.1.zipIdx.filterMap fun channel =>
    channel.1.map fun timing => ⟨plan.2 + 1, kCanTimingSdoBase + channel.2, timing⟩

def programAll (mailbox : Mailbox) : List Job → Slaves → Bool × Slaves
  | [], slaves => (true, slaves)
  | job :: rest, slaves =>
    match programTiming mailbox job.slave job.index job.timing slaves with
    | (true, after) => programAll mailbox rest after
    | (false, after) => (false, after)

def applyChannelTimings (extend : AdapterExtend) (read : Json → Value) (line : Line) (mailbox : Mailbox) (slaves : Slaves) :
    Except String (Bool × Slaves) :=
  if (extend.declaredBuses.findSome? fun bus => line.check (bus.1, bus.2)).isSome then .ok (false, slaves)
  else do
    let plans ← (List.range line.slavecount.toNat).mapM fun slave =>
      buildChannelTimingPlan extend read slave (line.busCounts.getD slave 0)
    .ok (programAll mailbox (jobs plans) slaves)

def timingOf : List UInt32 → CanTiming
  | [nominalBps, dataBps, nominal, data] => ⟨nominalBps, dataBps, fromPerMille nominal, fromPerMille data⟩
  | _ => {}

def fields : List (Nat × Text) :=
  [(kCanTimingSubNominalBps, kBitrate), (kCanTimingSubDataBps, kDbitrate), (kCanTimingSubNominalSamplePoint, kSamplePoint),
    (kCanTimingSubDataSamplePoint, kDsamplePoint)]

def applyBusTiming (mailbox : Mailbox) (slave channel : Nat) (override : Scope) (slaves : Slaves) : Applied × Slaves :=
  match applyGatewayCanTiming override {} with
  | .error error => (.threw (what error), slaves)
  | .ok _ =>
    match readAll mailbox slave (kCanTimingSdoBase + channel) (fields.map Prod.fst) slaves with
    | (none, after) => (.refused, after)
    | (some values, after) =>
      match applyGatewayCanTiming override (timingOf values) with
      | .error error => (.threw (what error), after)
      | .ok timing =>
        let programmed := programTiming mailbox slave (kCanTimingSdoBase + channel) timing after
        (if programmed.1 then .accepted else .refused, programmed.2)

def Holds (timing : CanTiming) (registers : Nat → UInt32) : Prop := ∀ stage ∈ stages timing, registers stage.1 = stage.2

-- The timing is staged as a whole, and in force unless the slave has refused it.
def Ready (timing : CanTiming) (channel : Channel) : Prop :=
  Holds timing channel.staged ∧ (channel.status = 0 → Holds timing channel.active)

-- What programming a timing may leave: the timing is in force as a whole, or the
-- old one still is.
structure Programmed (timing : CanTiming) (accepted : Bool) (before after : Channel) : Prop where
  complete : accepted = true → Ready timing after
  whole : after.active = before.active ∨ Holds timing after.active

section Writes

variable (mailbox : Mailbox) (slave index : Nat)

theorem write_elsewhere (writes : List (Nat × UInt32)) (slaves : Slaves) (other number : Nat) (different : other ≠ slave ∨ number ≠ index) :
    (writeAll mailbox slave index writes slaves).2.channels other number = slaves.channels other number := by
  induction writes generalizing slaves with
  | nil => rfl
  | cons write rest ih =>
    have here : (writeSdo mailbox slave index write.1 write.2 slaves).2.channels other number = slaves.channels other number := by
      simp only [writeSdo]
      split
      · exact if_neg (by omega)
      · rfl
    rw [writeAll]
    split
    · rename_i after written
      rw [ih, ← here, written]
    · rename_i after written
      rw [← here, written]
      rfl

theorem write_stages (writes : List (Nat × UInt32)) (staging : ∀ write ∈ writes, write.1 ≠ kCanTimingSubApply) (slaves : Slaves) :
    let ended := writes.foldl (fun channel write => channel.store 0 write.1 write.2) (slaves.channels slave index)
    let result := writeAll mailbox slave index (writes ++ [(kCanTimingSubApply, 1)]) slaves
    let after := result.2.channels slave index
    (result.1 = true → after.staged = ended.staged ∧ (after.status = 0 → after.active = ended.staged)) ∧
      (after.active = (slaves.channels slave index).active ∨ after.active = ended.staged) := by
  induction writes generalizing slaves with
  | nil =>
    cases outcome : mailbox slaves.operations with
    | done status | unanswered status =>
      by_cases heeded : status = 0 <;>
        simp [writeAll, writeSdo, readSdoU32, outcome, Outcome.status?, Outcome.answered, Channel.store, heeded]
    | lost => simp [writeAll, writeSdo, readSdoU32, outcome, Outcome.status?, Outcome.answered]
  | cons write rest ih =>
    obtain ⟨first, later⟩ := List.forall_mem_cons.mp staging
    have stage (channel : Channel) (status : UInt32) : channel.store status write.1 write.2 =
        { channel with staged := Function.update channel.staged write.1 write.2 } := if_neg first
    cases outcome : mailbox slaves.operations with
    | done status =>
      simpa [writeAll, writeSdo, outcome, Outcome.status?, Outcome.answered, stage] using
        ih later (writeSdo mailbox slave index write.1 write.2 slaves).2
    | lost | unanswered status =>
      simp [writeAll, writeSdo, readSdoU32, outcome, Outcome.status?, Outcome.answered, stage]

theorem program_timing (timing : CanTiming) (slaves : Slaves) :
    Programmed timing (programTiming mailbox slave index timing slaves).1 (slaves.channels slave index)
      ((programTiming mailbox slave index timing slaves).2.channels slave index) := by
  obtain ⟨complete, whole⟩ := write_stages mailbox slave index (stages timing) (by simp [stages]) slaves
  have holds : Holds timing ((stages timing).foldl (fun channel write => channel.store 0 write.1 write.2)
      (slaves.channels slave index)).staged := by
    simp [Holds, stages, Channel.store]
  refine ⟨fun accepted => ?_, whole.imp_right fun same => ?_⟩
  · obtain ⟨staged, active⟩ := complete accepted
    rw [programTiming]
    exact ⟨staged ▸ holds, fun heeded => active heeded ▸ holds⟩
  · rw [programTiming, same]
    exact holds

variable (timing : CanTiming)

theorem program_all_elsewhere (jobs : List Job) (slaves : Slaves) (apart : ∀ job ∈ jobs, slave ≠ job.slave ∨ index ≠ job.index) :
    (programAll mailbox jobs slaves).2.channels slave index = slaves.channels slave index := by
  induction jobs generalizing slaves with
  | nil => rfl
  | cons job rest ih =>
    obtain ⟨here, later⟩ := List.forall_mem_cons.mp apart
    have kept : (programTiming mailbox job.slave job.index job.timing slaves).2.channels slave index = _ :=
      write_elsewhere mailbox job.slave job.index _ slaves slave index here
    rw [← kept, programAll]
    rcases programTiming mailbox job.slave job.index job.timing slaves with ⟨_ | _, after⟩
    · rfl
    · exact ih after later

theorem program_all_here (jobs : List Job) (alike : ∀ job ∈ jobs, job.slave = slave → job.index = index → job.timing = timing)
    (slaves : Slaves) :
    let result := programAll mailbox jobs slaves
    let before := slaves.channels slave index
    let after := result.2.channels slave index
    (result.1 = true → (∃ job ∈ jobs, job.slave = slave ∧ job.index = index) ∨ Ready timing before → Ready timing after) ∧
      (after.active = before.active ∨ Holds timing after.active) := by
  induction jobs generalizing slaves with
  | nil => simp [programAll]
  | cons job rest ih =>
    obtain ⟨here, later⟩ := List.forall_mem_cons.mp alike
    rcases ran : programTiming mailbox job.slave job.index job.timing slaves with ⟨accepted, after⟩
    obtain ⟨complete, whole⟩ := ih later after
    by_cases own : job.slave = slave ∧ job.index = index
    · obtain ⟨rfl, rfl⟩ := own
      have programmed := program_timing mailbox job.slave job.index job.timing slaves
      rw [ran, here rfl rfl] at programmed
      cases accepted with
      | false => simpa [programAll, ran] using programmed.whole
      | true =>
        simp only [programAll, ran]
        exact ⟨fun accepted _ => complete accepted (.inr (programmed.complete rfl)),
          whole.elim (fun same => same ▸ programmed.whole) .inr⟩
    · have kept : after.channels slave index = slaves.channels slave index := by
        rw [← write_elsewhere mailbox job.slave job.index _ slaves slave index (by omega), ← programTiming, ran]
      cases accepted with
      | false => simp [programAll, ran, kept]
      | true =>
        simp only [programAll, ran, ← kept]
        refine ⟨fun accepted known => complete accepted (known.imp_left ?_), whole⟩
        rintro ⟨found, member, same⟩
        obtain rfl | member := List.mem_cons.mp member
        · exact absurd same own
        · exact ⟨found, member, same⟩

end Writes

theorem map_m_get {Item Fault Value : Type} (next : Item → Except Fault Value) (list : List Item) (values : List Value)
    (mapped : list.mapM next = .ok values) (place : Nat) : list[place]?.map next = values[place]?.map .ok := by
  induction list generalizing values place with
  | nil =>
    cases mapped
    rfl
  | cons item rest ih =>
    rw [List.mapM_cons] at mapped
    obtain ⟨value, first, mapped⟩ := (bind_ok _ _ _).mp mapped
    obtain ⟨others, second, mapped⟩ := (bind_ok _ _ _).mp mapped
    cases mapped
    cases place with
    | zero => exact congrArg some first
    | succ place => exact ih others second place

def configured (extend : AdapterExtend) (read : Json → Value) (line : Line) (slave channel : Nat) : Option CanTiming :=
  if slave < line.slavecount.toNat ∧ channel < line.busCounts.getD slave 0 then
    (channelTiming (scopeOf extend read slave channel)).toOption.join
  else none

section Startup

variable (extend : AdapterExtend) (read : Json → Value) (line : Line) (slave channel : Nat)

theorem planned (plans : List (List (Option CanTiming)))
    (mapped : ((List.range line.slavecount.toNat).mapM fun slave =>
      buildChannelTimingPlan extend read slave (line.busCounts.getD slave 0)) = .ok plans) :
    (plans[slave]?.bind (·[channel]?)).join = configured extend read line slave channel := by
  have outer := map_m_get _ _ _ mapped slave
  by_cases inside : slave < line.slavecount.toNat
  · rw [List.getElem?_range inside] at outer
    obtain ⟨plan, there, built⟩ := Option.map_eq_some_iff.mp outer.symm
    dsimp only [buildChannelTimingPlan] at built
    split at built
    · cases built
    split at built
    · cases built
    have inner := map_m_get _ _ _ built.symm channel
    by_cases listed : channel < line.busCounts.getD slave 0
    · rw [List.getElem?_range listed] at inner
      obtain ⟨timing, here, (made : .ok timing = channelTiming _)⟩ := Option.map_eq_some_iff.mp inner.symm
      rw [configured, if_pos ⟨inside, listed⟩, ← made, there, Option.bind_some, here]
      rfl
    · rw [List.getElem?_eq_none (by simpa using listed)] at inner
      rw [configured, if_neg (fun both => listed both.2), there, Option.bind_some, Option.map_eq_none_iff.mp inner.symm]
      rfl
  · rw [List.getElem?_eq_none (by simpa using inside)] at outer
    rw [configured, if_neg (fun both => inside both.1), Option.map_eq_none_iff.mp outer.symm]
    rfl

theorem mem_jobs (plans : List (List (Option CanTiming))) (timing : CanTiming) :
    ⟨slave + 1, kCanTimingSdoBase + channel, timing⟩ ∈ jobs plans ↔ (plans[slave]?.bind (·[channel]?)).join = some timing := by
  simp [jobs, List.mem_zipIdx_iff_getElem?, Option.join_eq_some_iff, Option.bind_eq_some_iff]

/-- After the timings are applied a channel without one is as it was, and one with a timing has it in force as a whole;
a failure on the way leaves it or the old one in force, never a mixture. -/
theorem startup_timings (mailbox : Mailbox) (slaves after : Slaves) (accepted : Bool)
    (ran : applyChannelTimings extend read line mailbox slaves = .ok (accepted, after)) :
    let before := slaves.channels (slave + 1) (kCanTimingSdoBase + channel)
    let now := after.channels (slave + 1) (kCanTimingSdoBase + channel)
    match configured extend read line slave channel with
    | none => now = before
    | some timing => Programmed timing accepted before now := by
  unfold applyChannelTimings at ran
  split at ran
  · cases ran
    split
    · rfl
    · exact ⟨nofun, .inl rfl⟩
  · obtain ⟨plans, mapped, ran⟩ := (bind_ok _ _ _).mp ran
    have known (timing : CanTiming) := (mem_jobs slave channel plans timing).trans
      (iff_of_eq (congrArg (· = some timing) (planned extend read line slave channel plans mapped)))
    obtain ⟨rfl, rfl⟩ := Prod.mk.inj (Except.ok.inj ran)
    split
    · rename_i free
      refine program_all_elsewhere mailbox _ _ _ slaves fun ⟨number, index, timing⟩ member => ?_
      by_contra same
      dsimp only at same
      obtain ⟨rfl, rfl⟩ : slave + 1 = number ∧ kCanTimingSdoBase + channel = index := by omega
      cases free.symm.trans ((known timing).mp member)
    · rename_i timing given
      have alike : ∀ job ∈ jobs plans, job.slave = slave + 1 → job.index = kCanTimingSdoBase + channel → job.timing = timing := by
        rintro ⟨number, index, other⟩ member rfl rfl
        exact Option.some.inj (((known other).mp member).symm.trans given)
      obtain ⟨complete, whole⟩ := program_all_here mailbox _ _ timing _ alike slaves
      exact ⟨fun done => complete done (.inl ⟨_, (known timing).mpr given, rfl, rfl⟩), whole⟩

end Startup

def slowBus : AdapterExtend := { common := (∅ : Table Text Json).put kBitrate (.scalar "500000".toList) }

def blankSlaves : Slaves := ⟨fun _ _ => ⟨fun _ => 0, fun _ => 0, 0⟩, 0⟩

theorem startup_timings_slow : ∃ after : Slaves,
    applyChannelTimings slowBus (fun _ => .integer 500000) ⟨1, [1]⟩ (fun _ => .done 0) blankSlaves = .ok (true, after) ∧
      Ready { nominalBps := 500000 } (after.channels 1 kCanTimingSdoBase) := by
  have scope (slave channel : Nat) : scopeOf slowBus (fun _ => .integer 500000) slave channel = [(kBitrate, .integer 500000)] :=
    congrArg (List.map _) (List.mergeSort_singleton (kBitrate, Json.scalar "500000".toList))
  have timing : channelTiming [(kBitrate, .integer 500000)] = .ok (some { nominalBps := 500000 }) := rfl
  obtain ⟨after, ran⟩ : ∃ after, applyChannelTimings slowBus (fun _ => .integer 500000) ⟨1, [1]⟩ (fun _ => .done 0) blankSlaves =
      .ok (true, after) := by
    simp only [applyChannelTimings, buildChannelTimingPlan, scope, timing]
    exact ⟨_, rfl⟩
  have whole := startup_timings slowBus _ ⟨1, [1]⟩ 0 0 _ _ after true ran
  simp only [configured, scope, timing] at whole
  exact ⟨after, ran, whole.complete rfl⟩

theorem round_near (value : ℚ) (low : -2 ^ 33 < value) (high : value < 2 ^ 33) :
    value - 1 / 2 ^ 20 ≤ Rounding.round double value ∧ Rounding.round double value ≤ value + 1 / 2 ^ 20 := by
  have error := abs_le.mp (Rounding.round_error double value)
  have small : Rounding.exponent double value ≤ 32 := by
    rw [Rounding.exponent]
    split
    · decide
    · rename_i nonzero
      have log := (Int.lt_zpow_iff_log_lt (b := 2) (x := 33) (by norm_num) (abs_pos.mpr nonzero)).mp
        (by exact_mod_cast abs_lt.mpr ⟨low, high⟩)
      exact max_le (by omega) (by decide)
  have digits : double.digits = 52 := rfl
  have fine : Rounding.spacing double value ≤ 2 ^ (-20 : Int) := zpow_le_zpow_right₀ (by norm_num) (by omega)
  norm_num at fine ⊢
  constructor <;> linarith

theorem per_mille_kept (perMille : UInt32) : toPerMille (fromPerMille perMille) = perMille := by
  have size : (perMille.toNat : ℚ) < 2 ^ 32 := by exact_mod_cast perMille.toNat_lt
  have sign : (0 : ℚ) ≤ perMille.toNat := Nat.cast_nonneg _
  have read := round_near (perMille.toNat / 1000) (by linarith) (by linarith)
  rw [← fromPerMille] at read
  have product := round_near (fromPerMille perMille * 1000) (by linarith) (by linarith)
  have sum := round_near (Rounding.round double (fromPerMille perMille * 1000) + 1 / 2) (by linarith) (by linarith)
  have floor : ⌊Rounding.round double (Rounding.round double (fromPerMille perMille * 1000) + 1 / 2)⌋ = perMille.toNat := by
    rw [Int.floor_eq_iff]
    push_cast
    constructor <;> linarith
  rw [toPerMille, floor, Int.toNat_natCast, UInt32.ofNat_toNat]

theorem rate_over (scope : Scope) (key : Text) (first second rate : UInt32) (accepted : readRate scope key first = .ok rate) :
    readRate scope key second = .ok (if (scope.lookup key).isNone then second else rate) := by
  unfold readRate at accepted ⊢
  cases found : scope.lookup key with
  | none => rfl
  | some value =>
    simp only [found] at accepted ⊢
    cases value <;> exact accepted

theorem point_over (scope : Scope) (key : Text) (first second point : ℚ)
    (accepted : readCanTimingSamplePoint scope key first = .ok point) :
    readCanTimingSamplePoint scope key second = .ok (if (scope.lookup key).isNone then second else point) := by
  unfold readCanTimingSamplePoint at accepted ⊢
  cases found : scope.lookup key with
  | none => rfl
  | some value =>
    simp only [found] at accepted ⊢
    cases value <;> exact accepted

theorem apply_over (scope : Scope) (first second asked : CanTiming) (accepted : applyGatewayCanTiming scope first = .ok asked) :
    applyGatewayCanTiming scope second = .ok
      { nominalBps := if (scope.lookup kBitrate).isNone then second.nominalBps else asked.nominalBps
        dataBps := if (scope.lookup kDbitrate).isNone then second.dataBps else asked.dataBps
        nominalSamplePoint := if (scope.lookup kSamplePoint).isNone then second.nominalSamplePoint else asked.nominalSamplePoint
        dataSamplePoint := if (scope.lookup kDsamplePoint).isNone then second.dataSamplePoint else asked.dataSamplePoint } := by
  unfold applyGatewayCanTiming at accepted ⊢
  split at accepted
  · cases accepted
  · obtain ⟨nominalBps, first, accepted⟩ := (bind_ok _ _ _).mp accepted
    obtain ⟨dataBps, second, accepted⟩ := (bind_ok _ _ _).mp accepted
    obtain ⟨nominal, third, accepted⟩ := (bind_ok _ _ _).mp accepted
    obtain ⟨data, fourth, accepted⟩ := (bind_ok _ _ _).mp accepted
    cases accepted
    simp only [rate_over _ _ _ _ _ first, rate_over _ _ _ _ _ second, point_over _ _ _ _ _ third, point_over _ _ _ _ _ fourth]
    rfl

section Update

variable (mailbox : Mailbox) (slave : Nat)

theorem read_all (index : Nat) (list : List Nat) (slaves : Slaves) :
    (readAll mailbox slave index list slaves).2.channels = slaves.channels ∧
      ∀ values, (readAll mailbox slave index list slaves).1 = some values →
        values = list.map (slaves.channels slave index).read := by
  induction list generalizing slaves with
  | nil => simp [readAll]
  | cons subindex rest ih =>
    by_cases done : (mailbox slaves.operations).answered = true
    · obtain ⟨kept, known⟩ := ih (readSdoU32 mailbox slave index subindex slaves).2
      simp only [readSdoU32] at kept known
      simp only [readAll, readSdoU32, if_pos done, Option.map_eq_some_iff]
      refine ⟨kept, ?_⟩
      rintro _ ⟨values, came, rfl⟩
      rw [known values came, List.map_cons]
    · simp [readAll, readSdoU32, done]

def Merged (override : Scope) (asked timing : CanTiming) (staged : Nat → UInt32) : Prop :=
  ∀ field ∈ fields, (stages timing).lookup field.1 =
    if (override.lookup field.2).isNone then some (staged field.1) else (stages asked).lookup field.1

theorem merged_over (override : Scope) (asked : CanTiming) (checked : applyGatewayCanTiming override {} = .ok asked)
    (staged : Nat → UInt32) : ∃ timing, applyGatewayCanTiming override (timingOf ((fields.map Prod.fst).map staged)) = .ok timing ∧
      Merged override asked timing staged := by
  refine ⟨_, apply_over override {} _ asked checked, ?_⟩
  intro field member
  simp only [fields, List.mem_cons, List.not_mem_nil, or_false] at member
  obtain rfl | rfl | rfl | rfl := member <;> simp [stages, timingOf, fields, List.lookup_cons] <;> split_ifs <;> simp [per_mille_kept]

def Updated (override : Scope) (accepted : Bool) (before after : Channel) : Prop :=
  match applyGatewayCanTiming override {} with
  | .error _ => accepted = false ∧ after = before
  | .ok asked => ∃ timing, Merged override asked timing before.staged ∧ Programmed timing accepted before after

theorem bus_timing (channel : Nat) (override : Scope) (slaves : Slaves) :
    let result := applyBusTiming mailbox slave channel override slaves
    let index := kCanTimingSdoBase + channel
    (∀ other number, other ≠ slave ∨ number ≠ index → result.2.channels other number = slaves.channels other number) ∧
      Updated override (result.1 = .accepted) (slaves.channels slave index) (result.2.channels slave index) := by
  dsimp only [applyBusTiming, Updated]
  generalize kCanTimingSdoBase + channel = index
  cases checked : applyGatewayCanTiming override {} with
  | error error => simp
  | ok asked =>
    obtain ⟨timing, applied, merged⟩ := merged_over override asked checked (slaves.channels slave index).staged
    obtain ⟨kept, known⟩ := read_all mailbox slave index (fields.map Prod.fst) slaves
    generalize readAll mailbox slave index (fields.map Prod.fst) slaves = read at kept known ⊢
    obtain ⟨_ | values, after⟩ := read <;> dsimp only at kept ⊢
    · exact ⟨fun _ _ _ => by rw [kept], timing, merged, nofun, .inl (by rw [kept])⟩
    · have stored : (fields.map Prod.fst).map (slaves.channels slave index).read =
          (fields.map Prod.fst).map (slaves.channels slave index).staged := rfl
      obtain rfl := (known values rfl).trans stored
      have programmed := program_timing mailbox slave index timing after
      have elsewhere := write_elsewhere mailbox slave index (stages timing ++ [(kCanTimingSubApply, 1)]) after
      rw [kept, ← programTiming] at elsewhere
      rw [kept] at programmed
      simp only [applied]
      generalize programTiming mailbox slave index timing after = ended at programmed elsewhere ⊢
      obtain ⟨_ | _, last⟩ := ended <;> exact ⟨elsewhere, timing, merged, programmed⟩

end Update

theorem updated_none (override : Scope) (channel : Channel) : Updated override false channel channel := by
  unfold Updated
  split
  · exact ⟨rfl, rfl⟩
  · rename_i asked checked
    obtain ⟨timing, -, merged⟩ := merged_over override asked checked channel.staged
    exact ⟨timing, merged, nofun, .inl rfl⟩

theorem updated_again (override : Scope) (accepted : Bool) (before between after : Channel) (first : Updated override true before between)
    (second : after = between ∨ Updated override accepted between after) : Updated override accepted before after := by
  unfold Updated at *
  split at first
  · cases first.1
  · rename_i asked checked
    obtain ⟨timing, merged, programmed⟩ := first
    have complete := programmed.complete rfl
    simp only [checked] at second ⊢
    obtain rfl | ⟨other, again, ended⟩ := second
    · exact ⟨timing, merged, fun _ => complete, programmed.whole⟩
    have same : stages other = stages timing := by
      have staged := complete.1
      simp [Holds, Merged, fields, stages, List.lookup_cons] at staged merged again ⊢
      grind
    have holds (registers : Nat → UInt32) : Holds other registers ↔ Holds timing registers := by rw [Holds, Holds, same]
    refine ⟨timing, merged, ?_, ended.whole.elim (fun kept => kept ▸ programmed.whole) fun held => .inr ((holds _).mp held)⟩
    simpa only [Ready, holds] using ended.complete

section Request

variable (mailbox : Mailbox) (override : Nat × Nat → Option Scope)

def servicePendingReconfigure : List (Nat × Nat) → Slaves → Completion × Slaves
  | [], slaves => (.value, slaves)
  | bus :: rest, slaves =>
    match override bus with
    | none => servicePendingReconfigure rest slaves
    | some scope =>
      match applyBusTiming mailbox (bus.1 + 1) bus.2 scope slaves with
      | (.accepted, after) => servicePendingReconfigure rest after
      | (.refused, after) => (.exception rejected, after)
      | (.threw text, after) => (.exception text, after)

/-- A channel keeps its timing or has all of the override that names it, and has it when the request completes. -/
theorem request_merged (buses : List (Nat × Nat)) (slaves : Slaves) (slave channel : Nat) :
    let result := servicePendingReconfigure mailbox override buses slaves
    let before := slaves.channels (slave + 1) (kCanTimingSdoBase + channel)
    let after := result.2.channels (slave + 1) (kCanTimingSdoBase + channel)
    ((slave, channel) ∉ buses ∨ override (slave, channel) = none → after = before) ∧
      ∀ scope, (slave, channel) ∈ buses → override (slave, channel) = some scope → Updated scope (result.1 = .value) before after := by
  induction buses generalizing slaves with
  | nil => simp [servicePendingReconfigure]
  | cons bus rest ih =>
    obtain ⟨number, index⟩ := bus
    dsimp only at ih ⊢
    rw [servicePendingReconfigure]
    cases given : override (number, index) with
    | none =>
      by_cases own : (slave, channel) = (number, index)
      · simpa [own, given] using (ih slaves).1
      · simpa [own] using ih slaves
    | some scope =>
      obtain ⟨elsewhere, updated⟩ := bus_timing mailbox (number + 1) index scope slaves
      rcases ran : applyBusTiming mailbox (number + 1) index scope slaves with ⟨answer, after⟩
      simp only [ran] at elsewhere updated ⊢
      by_cases own : (slave, channel) = (number, index)
      · cases own
        refine ⟨by simp [given], fun _ _ same => ?_⟩
        cases given.symm.trans same
        cases answer with
        | accepted =>
          refine updated_again _ _ _ _ _ updated ?_
          by_cases again : (slave, channel) ∈ rest
          · exact .inr ((ih after).2 scope again given)
          · exact .inl ((ih after).1 (.inl again))
        | refused | threw text => exact updated
      · have away := elsewhere (slave + 1) (kCanTimingSdoBase + channel) (by simp only [Prod.mk.injEq] at own; omega)
        cases answer with
        | accepted => simpa [own, away] using ih after
        | refused | threw text =>
          rw [away]
          exact ⟨fun _ => rfl, fun other _ _ => updated_none other _⟩

end Request

end EncosDriver.Ethercat.Timing
