import EncosDriver.Lib.History
import EncosDriver.Lib.Table
import EncosDriver.Message.Types

set_option autoImplicit false

namespace EncosDriver.Bus.Scan

open Lib Message

def mailboxSize : Nat := 512

def drainUnknownMessages (arrived : List MotorPackMsg) : List MotorPackMsg := newest mailboxSize arrived

def positionParameter : UInt8 := 1

def discoveryQuery (canfd : Bool) (candidateId : UInt16) : MotorPackMsg :=
  ⟨candidateId.toUInt32, if canfd then kCanFrameFlagFdMask else 0, 2, payload [(0x07 : UInt8) <<< 5, positionParameter]⟩

def isDiscoveryReply (pack : MotorPackMsg) : Bool :=
  !(pack.id > 0x7FE || pack.len < 6 || pack.data.get 0 != (0x05 : UInt8) <<< 5 || pack.data.get 1 != positionParameter)

abbrev DiscoveredFrameFlags := Table Int32 UInt8

def collectReply (discovered : DiscoveredFrameFlags) (pack : MotorPackMsg) : DiscoveredFrameFlags :=
  if isDiscoveryReply pack then
    discovered.put pack.id.toInt32 ((discovered.find pack.id.toInt32).getD 0 ||| sanitizeCanFrameFlags pack.frameFlags)
  else discovered

def collectDiscoveryReplies (discovered : DiscoveredFrameFlags) (messages : List MotorPackMsg) : DiscoveredFrameFlags :=
  messages.foldl collectReply discovered

-- The motors of a bus by index, with their frame flags, and what the manager
-- says of the bus and of them: whether it is gone, being destroyed or reset,
-- which motors are being destroyed, and which can be created.
structure BusMotors where
  frameFlags : Table Int32 UInt8
  unavailable : Bool
  retiring : Int32 → Bool
  initialises : Int32 → Bool

def withCanFdFlag (frameFlags : UInt8) (canfd : Bool) : UInt8 :=
  if canfd then sanitizeCanFrameFlags frameFlags ||| kCanFrameFlagFdMask
  else sanitizeCanFrameFlags frameFlags &&& ~~~kCanFrameFlagFdMask

inductive Reconciled where
  | refused
  | motor (motors : BusMotors)
  | thrown

def reconcileDiscoveredMotor (motors : BusMotors) (motorIdx : Int32) (frameFlags : UInt8) (canfd : Bool) : Reconciled :=
  let reconciled := { motors with frameFlags := motors.frameFlags.put motorIdx (withCanFdFlag frameFlags canfd) }
  if motors.unavailable then .refused
  else
    match motors.frameFlags.find motorIdx with
    | some _ => if motors.retiring motorIdx then .refused else .motor reconciled
    | none => if motors.initialises motorIdx then .motor reconciled else .thrown

def reconcileAll (motors : BusMotors) : List (Int32 × UInt8) → Option BusMotors
  | [] => some motors
  | (motorIdx, frameFlags) :: rest =>
    match reconcileDiscoveredMotor motors motorIdx frameFlags (canFrameFlagsUseCanFd frameFlags) with
    | .refused => some motors
    | .thrown => none
    | .motor next => reconcileAll next rest

def getMotors (motors : BusMotors) : Table Int32 UInt8 :=
  if motors.unavailable then ∅ else motors.frameFlags.retain fun motorIdx => !motors.retiring motorIdx

-- What a scan meets: the gate of the bus, its external devices, what the mailbox
-- receives in the observed second, and what it receives in the window of a round
-- of queries.
structure Surroundings where
  gateOpen : Bool
  externalDeviceFlag : Bool
  registeredExternalDevice : Bool
  observed : List MotorPackMsg
  received : List MotorPackMsg → List MotorPackMsg

def Surroundings.detectExternalDevice (around : Surroundings) : Bool :=
  around.registeredExternalDevice || !(drainUnknownMessages around.observed).isEmpty

def allCandidateIds : List UInt16 := (List.range 0x7FF).map UInt16.ofNat

def Surroundings.firstWindow (around : Surroundings) : List MotorPackMsg :=
  around.received (allCandidateIds.map (discoveryQuery false))

def Surroundings.firstDiscovered (around : Surroundings) : DiscoveredFrameFlags :=
  collectDiscoveryReplies ∅ (drainUnknownMessages around.firstWindow)

def Surroundings.canfdCandidateIds (around : Surroundings) : List UInt16 :=
  around.firstDiscovered.toList.map fun entry => entry.1.toUInt32.toUInt16

def Surroundings.secondWindow (around : Surroundings) : List MotorPackMsg :=
  around.received (around.canfdCandidateIds.map (discoveryQuery true))

def Surroundings.discovered (around : Surroundings) : DiscoveredFrameFlags :=
  if around.canfdCandidateIds.isEmpty then around.firstDiscovered
  else collectDiscoveryReplies around.firstDiscovered (drainUnknownMessages around.secondWindow)

def scanMotors (around : Surroundings) (motors : BusMotors) : Option (Table Int32 UInt8) :=
  if !around.gateOpen then some ∅
  else if around.externalDeviceFlag || around.detectExternalDevice then some ∅
  else (reconcileAll motors around.discovered.toList).map getMotors

def Surroundings.secondRound (around : Surroundings) : List MotorPackMsg :=
  if around.canfdCandidateIds.isEmpty then [] else around.secondWindow

def Surroundings.kept (around : Surroundings) : List MotorPackMsg :=
  drainUnknownMessages around.firstWindow ++ drainUnknownMessages around.secondRound

def Surroundings.arrived (around : Surroundings) : List MotorPackMsg := around.firstWindow ++ around.secondRound

def answersOf (motorIdx : Int32) (messages : List MotorPackMsg) : List MotorPackMsg :=
  messages.filter fun pack => isDiscoveryReply pack && pack.id.toInt32 = motorIdx

def mergeReply (found : Option UInt8) (pack : MotorPackMsg) : Option UInt8 :=
  some (found.getD 0 ||| sanitizeCanFrameFlags pack.frameFlags)

variable (around : Surroundings)

theorem discovered_kept : around.discovered = collectDiscoveryReplies ∅ around.kept := by
  simp only [Surroundings.discovered, Surroundings.kept, Surroundings.secondRound]
  split
  · simp [drainUnknownMessages, Surroundings.firstDiscovered]
  · simp [Surroundings.firstDiscovered, collectDiscoveryReplies, List.foldl_append]

theorem collect_find (messages : List MotorPackMsg) (discovered : DiscoveredFrameFlags) (motorIdx : Int32) :
    (collectDiscoveryReplies discovered messages).find motorIdx =
      (answersOf motorIdx messages).foldl mergeReply (discovered.find motorIdx) := by
  induction messages generalizing discovered with
  | nil => rfl
  | cons pack rest ih =>
    have following := ih (collectReply discovered pack)
    rw [collectDiscoveryReplies, List.foldl_cons, ← collectDiscoveryReplies, following, answersOf, answersOf, List.filter_cons]
    by_cases reply : isDiscoveryReply pack = true
    · by_cases own : pack.id.toInt32 = motorIdx
      · subst own
        simp [collectReply, reply, mergeReply]
      · have other : motorIdx ≠ pack.id.toInt32 := fun same => own same.symm
        simp [collectReply, reply, own, other]
    · simp [collectReply, reply]

theorem merged_some (answers : List MotorPackMsg) (found : Option UInt8) :
    (answers.foldl mergeReply found).isSome = (found.isSome || !answers.isEmpty) := by
  induction answers generalizing found with
  | nil => simp
  | cons pack rest ih =>
    rw [List.foldl_cons, ih]
    simp [mergeReply]

def HasBit (bit : UInt8) (answers : List MotorPackMsg) : Prop := ∃ pack ∈ answers, pack.frameFlags &&& bit ≠ 0

-- Together the answers carry both FD bits, be it in one frame or in two.
def BothBits (answers : List MotorPackMsg) : Prop := HasBit kCanFrameFlagFdBit1 answers ∧ HasBit kCanFrameFlagFdBit2 answers

def FdFrame (answers : List MotorPackMsg) : Prop := ∃ pack ∈ answers, canFrameFlagsUseCanFd pack.frameFlags = true

theorem can_fd_iff (flags : UInt8) :
    canFrameFlagsUseCanFd flags = true ↔ flags &&& kCanFrameFlagFdBit1 ≠ 0 ∧ flags &&& kCanFrameFlagFdBit2 ≠ 0 := by
  have values : ∀ value : Fin 16, canFrameFlagsUseCanFd (UInt8.ofNat value.val) = true ↔
      UInt8.ofNat value.val &&& kCanFrameFlagFdBit1 ≠ 0 ∧ UInt8.ofNat value.val &&& kCanFrameFlagFdBit2 ≠ 0 := by decide
  have sanitized := sanitized_cases (fun flags => canFrameFlagsUseCanFd flags = true ↔
    flags &&& kCanFrameFlagFdBit1 ≠ 0 ∧ flags &&& kCanFrameFlagFdBit2 ≠ 0) values flags
  have first : kCanFrameFlagMask &&& kCanFrameFlagFdBit1 = kCanFrameFlagFdBit1 := by decide
  have second : kCanFrameFlagMask &&& kCanFrameFlagFdBit2 = kCanFrameFlagFdBit2 := by decide
  rw [sanitized_can_fd, sanitizeCanFrameFlags, UInt8.and_assoc, UInt8.and_assoc, first, second] at sanitized
  exact sanitized

theorem merged_bit (bit : UInt8) (defined : kCanFrameFlagMask &&& bit = bit) (answers : List MotorPackMsg) (held flags : UInt8)
    (merged : answers.foldl mergeReply (some held) = some flags) : flags &&& bit ≠ 0 ↔ held &&& bit ≠ 0 ∨ HasBit bit answers := by
  induction answers generalizing held with
  | nil =>
    cases merged
    simp [HasBit]
  | cons pack rest ih =>
    have spread : (held ||| sanitizeCanFrameFlags pack.frameFlags) &&& bit = (held &&& bit) ||| (pack.frameFlags &&& bit) := by
      have distributed : (held ||| sanitizeCanFrameFlags pack.frameFlags) &&& bit =
          (held &&& bit) ||| (sanitizeCanFrameFlags pack.frameFlags &&& bit) :=
        UInt8.toBitVec_inj.mp BitVec.and_or_distrib_right
      rw [distributed, sanitizeCanFrameFlags, UInt8.and_assoc, defined]
    have either : (held &&& bit) ||| (pack.frameFlags &&& bit) ≠ 0 ↔ held &&& bit ≠ 0 ∨ pack.frameFlags &&& bit ≠ 0 := by
      rw [ne_eq, UInt8.or_eq_zero_iff]
      tauto
    rw [ih (held ||| sanitizeCanFrameFlags pack.frameFlags) merged, spread, either, or_assoc]
    simp only [HasBit, List.mem_cons, exists_eq_or_imp]

theorem with_can_fd (flags : UInt8) (canfd : Bool) : canFrameFlagsUseCanFd (withCanFdFlag flags canfd) = canfd := by
  have values : ∀ canfd : Bool, ∀ value : Fin 16, canFrameFlagsUseCanFd (if canfd then UInt8.ofNat value.val ||| kCanFrameFlagFdMask
      else UInt8.ofNat value.val &&& ~~~kCanFrameFlagFdMask) = canfd := by decide
  exact sanitized_cases (fun value => canFrameFlagsUseCanFd (if canfd then value ||| kCanFrameFlagFdMask
    else value &&& ~~~kCanFrameFlagFdMask) = canfd) (values canfd) flags

structure Undisturbed (motors : BusMotors) : Prop where
  available : motors.unavailable = false
  standing : ∀ motorIdx, motors.retiring motorIdx = false
  initialises : ∀ motorIdx, motors.initialises motorIdx = true

variable (motors : BusMotors)

theorem reconcile_undisturbed (motorIdx : Int32) (frameFlags : UInt8) (canfd : Bool) (undisturbed : Undisturbed motors) :
    reconcileDiscoveredMotor motors motorIdx frameFlags canfd =
      .motor { motors with frameFlags := motors.frameFlags.put motorIdx (withCanFdFlag frameFlags canfd) } := by
  simp only [reconcileDiscoveredMotor, undisturbed.available, undisturbed.standing, undisturbed.initialises, Bool.false_eq_true,
    ↓reduceIte]
  split <;> rfl

theorem reconcile_all (discovered : List (Int32 × UInt8)) (motors : BusMotors) (undisturbed : Undisturbed motors)
    (distinct : (discovered.map Prod.fst).Nodup) :
    ∃ next, reconcileAll motors discovered = some next ∧ Undisturbed next ∧
      (∀ entry ∈ discovered, next.frameFlags.find entry.1 = some (withCanFdFlag entry.2 (canFrameFlagsUseCanFd entry.2))) ∧
      ∀ motorIdx, motorIdx ∉ discovered.map Prod.fst → next.frameFlags.find motorIdx = motors.frameFlags.find motorIdx := by
  induction discovered generalizing motors with
  | nil => exact ⟨motors, rfl, undisturbed, by simp, fun motorIdx _ => rfl⟩
  | cons entry rest ih =>
    obtain ⟨motorIdx, frameFlags⟩ := entry
    rw [List.map_cons, List.nodup_cons] at distinct
    obtain ⟨fresh, others⟩ := distinct
    obtain ⟨next, ran, kept, found, untouched⟩ := ih
      { motors with frameFlags := motors.frameFlags.put motorIdx (withCanFdFlag frameFlags (canFrameFlagsUseCanFd frameFlags)) }
      ⟨undisturbed.available, undisturbed.standing, undisturbed.initialises⟩ others
    refine ⟨next, ?_, kept, ?_, ?_⟩
    · rw [reconcileAll, reconcile_undisturbed motors motorIdx frameFlags _ undisturbed]
      exact ran
    · intro entry inside
      rcases List.mem_cons.mp inside with rfl | later
      · rw [untouched motorIdx fresh, Table.find_put, if_pos rfl]
      · exact found entry later
    · intro other outside
      rw [List.map_cons, List.mem_cons, not_or] at outside
      rw [untouched other outside.2, Table.find_put, if_neg outside.1]

theorem get_motors_undisturbed (undisturbed : Undisturbed motors) (motorIdx : Int32) :
    (getMotors motors).find motorIdx = motors.frameFlags.find motorIdx := by
  simp [getMotors, undisturbed.available, undisturbed.standing]

structure Scannable (around : Surroundings) : Prop where
  gate : around.gateOpen = true
  unflagged : around.externalDeviceFlag = false
  unregistered : around.registeredExternalDevice = false
  silent : around.observed = []

theorem scan_reconciles (scannable : Scannable around) :
    scanMotors around motors = (reconcileAll motors around.discovered.toList).map getMotors := by
  have undetected : around.detectExternalDevice = false := by
    simp [Surroundings.detectExternalDevice, scannable.unregistered, scannable.silent, drainUnknownMessages]
  simp [scanMotors, scannable.gate, scannable.unflagged, undetected]

theorem scan_answers (scannable : Scannable around) (undisturbed : Undisturbed motors) :
    ∃ found, scanMotors around motors = some found ∧ ∀ motorIdx, found.find motorIdx =
      match (answersOf motorIdx around.kept).foldl mergeReply none with
      | some flags => some (withCanFdFlag flags (canFrameFlagsUseCanFd flags))
      | none => motors.frameFlags.find motorIdx := by
  obtain ⟨next, ran, kept, found, untouched⟩ := reconcile_all around.discovered.toList motors undisturbed
    (Table.to_list_distinct around.discovered)
  refine ⟨getMotors next, by rw [scan_reconciles around motors scannable, ran, Option.map_some], ?_⟩
  intro motorIdx
  have collected := collect_find around.kept ∅ motorIdx
  rw [← discovered_kept, Table.find_empty] at collected
  rw [get_motors_undisturbed next kept, ← collected]
  cases held : around.discovered.find motorIdx with
  | some flags => exact found (motorIdx, flags) ((Table.mem_to_list _ _ _).mpr held)
  | none =>
    refine untouched motorIdx ?_
    intro inside
    obtain ⟨⟨key, flags⟩, listed, rfl⟩ := List.mem_map.mp inside
    rw [(Table.mem_to_list _ _ _).mp listed] at held
    cases held

structure Answering (around : Surroundings) (motors : BusMotors) (present : List UInt32) : Prop where
  inRange : ∀ id ∈ present, id ≤ 0x7FE
  unregistered : ∀ id ∈ present, motors.frameFlags.find id.toInt32 = none
  traffic : ∀ queries, ∀ pack ∈ around.received queries, isDiscoveryReply pack = true → pack.id ∈ present
  answered : ∀ queries, ∀ query ∈ queries, query.id ∈ present →
    ∃ pack ∈ around.received queries, isDiscoveryReply pack = true ∧ pack.id = query.id

structure Lists (saysCanFd : List MotorPackMsg → Prop) (motors : BusMotors) (others : List UInt32) (messages : List MotorPackMsg) (found : Table Int32 UInt8) : Prop where
  listed : ∀ motorIdx, (found.find motorIdx).isSome ↔ (motors.frameFlags.find motorIdx).isSome ∨ ∃ id ∈ others, id.toInt32 = motorIdx
  registered : ∀ motorIdx flags, motors.frameFlags.find motorIdx = some flags → found.find motorIdx = some flags
  canFd : ∀ id ∈ others, ∀ flags, found.find id.toInt32 = some flags →
    (canFrameFlagsUseCanFd flags = true ↔ saysCanFd (answersOf id.toInt32 messages))

def heardIn (messages : List MotorPackMsg) (present : List UInt32) : List UInt32 :=
  present.filter fun id => !(answersOf id.toInt32 messages).isEmpty

variable (pack : MotorPackMsg)

theorem second_round_received (inside : pack ∈ around.secondRound) :
    ∃ queries, pack ∈ around.received queries := by
  unfold Surroundings.secondRound at inside
  split at inside
  · exact absurd inside List.not_mem_nil
  · exact ⟨_, inside⟩

theorem arrived_received (inside : pack ∈ around.arrived) : ∃ queries, pack ∈ around.received queries := by
  rcases List.mem_append.mp inside with first | second
  · exact ⟨_, first⟩
  · exact second_round_received around pack second

theorem kept_arrived (inside : pack ∈ around.kept) : pack ∈ around.arrived := by
  rcases List.mem_append.mp inside with first | second
  · exact List.mem_append_left _ (List.mem_of_mem_drop first)
  · exact List.mem_append_right _ (List.mem_of_mem_drop second)

theorem answers_of (motorIdx : Int32) (messages : List MotorPackMsg) (pack : MotorPackMsg) :
    pack ∈ answersOf motorIdx messages ↔ pack ∈ messages ∧ isDiscoveryReply pack = true ∧ pack.id.toInt32 = motorIdx := by
  simp [answersOf, List.mem_filter]

theorem merged_answers (answers : List MotorPackMsg) (flags : UInt8) (merged : answers.foldl mergeReply none = some flags) :
    canFrameFlagsUseCanFd flags = true ↔ BothBits answers := by
  cases answers with
  | nil => cases merged
  | cons pack rest =>
    have same : (pack :: rest).foldl mergeReply (some 0) = some flags := merged
    have first := merged_bit kCanFrameFlagFdBit1 (by decide) (pack :: rest) 0 flags same
    have second := merged_bit kCanFrameFlagFdBit2 (by decide) (pack :: rest) 0 flags same
    rw [can_fd_iff, first, second, BothBits]
    simp

/-- Where the two FD bits of every frame agree, together the answers carry both exactly if one of them is an FD frame. -/
theorem both_bits_agree (answers : List MotorPackMsg)
    (valid : ∀ pack ∈ answers, canFrameFlagsHaveValidCanFdBits pack.frameFlags = true) : BothBits answers ↔ FdFrame answers := by
  refine ⟨?_, ?_⟩
  · rintro ⟨⟨pack, inside, bit⟩, -⟩
    refine ⟨pack, inside, ?_⟩
    have agree := valid pack inside
    rw [canFrameFlagsHaveValidCanFdBits, Bool.or_eq_true] at agree
    refine agree.resolve_left fun clear => bit ?_
    have both : kCanFrameFlagMask &&& kCanFrameFlagFdMask &&& kCanFrameFlagFdBit1 = kCanFrameFlagFdBit1 := by decide
    have none : pack.frameFlags &&& (kCanFrameFlagMask &&& kCanFrameFlagFdMask) = 0 := by
      rw [← UInt8.and_assoc]
      exact of_decide_eq_true clear
    rw [← both, ← UInt8.and_assoc, none, UInt8.zero_and]
  · rintro ⟨pack, inside, canFd⟩
    obtain ⟨first, second⟩ := (can_fd_iff _).mp canFd
    exact ⟨⟨pack, inside, first⟩, ⟨pack, inside, second⟩⟩

theorem scan_lists (present : List UInt32) (scannable : Scannable around)
    (undisturbed : Undisturbed motors) (answering : Answering around motors present) :
    ∃ found, scanMotors around motors = some found ∧ Lists BothBits motors (heardIn around.kept present) around.kept found := by
  obtain ⟨found, scanned, answers⟩ := scan_answers around motors scannable undisturbed
  -- Only an unregistered motor of the bus is heard.
  have source (motorIdx : Int32) (pack : MotorPackMsg) (inside : pack ∈ answersOf motorIdx around.kept) :
      ∃ id ∈ present, id.toInt32 = motorIdx := by
    obtain ⟨held, reply, own⟩ := (answers_of motorIdx around.kept pack).mp inside
    obtain ⟨queries, received⟩ := arrived_received around pack (kept_arrived around pack held)
    exact ⟨pack.id, answering.traffic queries pack received reply, own⟩
  have quiet (motorIdx : Int32) (unmerged : (answersOf motorIdx around.kept).foldl mergeReply none = none) :
      answersOf motorIdx around.kept = [] := by
    have merged := merged_some (answersOf motorIdx around.kept) none
    rw [unmerged] at merged
    simpa using merged.symm
  refine ⟨found, scanned, ⟨?_, ?_, ?_⟩⟩
  · intro motorIdx
    rw [answers motorIdx]
    cases merged : (answersOf motorIdx around.kept).foldl mergeReply none with
    | none =>
      have unheard := quiet motorIdx merged
      simp only [heardIn, List.mem_filter, Bool.not_eq_true', List.isEmpty_eq_false_iff, iff_self_or]
      rintro ⟨id, ⟨-, heard⟩, rfl⟩
      exact absurd unheard heard
    | some flags =>
      have heard : answersOf motorIdx around.kept ≠ [] := by
        intro empty
        rw [empty] at merged
        cases merged
      obtain ⟨pack, inside⟩ := List.exists_mem_of_ne_nil _ heard
      obtain ⟨id, member, rfl⟩ := source motorIdx pack inside
      simp only [Option.isSome_some, true_iff]
      exact .inr ⟨id, List.mem_filter.mpr ⟨member, by simpa using heard⟩, rfl⟩
  · intro motorIdx flags registered
    rw [answers motorIdx]
    cases merged : (answersOf motorIdx around.kept).foldl mergeReply none with
    | none => exact registered
    | some mergedFlags =>
      have heard : answersOf motorIdx around.kept ≠ [] := by
        intro empty
        rw [empty] at merged
        cases merged
      obtain ⟨pack, inside⟩ := List.exists_mem_of_ne_nil _ heard
      obtain ⟨id, member, rfl⟩ := source motorIdx pack inside
      rw [answering.unregistered id member] at registered
      cases registered
  · intro id heard flags listed
    rw [answers id.toInt32] at listed
    cases merged : (answersOf id.toInt32 around.kept).foldl mergeReply none with
    | none => exact absurd (quiet id.toInt32 merged) (by simpa using (List.mem_filter.mp heard).2)
    | some mergedFlags =>
      rw [merged] at listed
      cases listed
      rw [with_can_fd]
      exact merged_answers _ mergedFlags merged

theorem candidate_queried (id : UInt32) (small : id ≤ 0x7FE) :
    ∃ query ∈ allCandidateIds.map (discoveryQuery false), query.id = id := by
  have bound : id.toNat ≤ 0x7FE := UInt32.le_iff_toNat_le.mp small
  refine ⟨discoveryQuery false (UInt16.ofNat id.toNat), ?_, ?_⟩
  · refine List.mem_map_of_mem (List.mem_map.mpr ⟨id.toNat, List.mem_range.mpr (by omega), rfl⟩)
  · apply UInt32.toNat_inj.mp
    simp only [discoveryQuery, UInt16.toNat_toUInt32, UInt16.toNat_ofNat']
    omega

theorem heard_all (present : List UInt32) (answering : Answering around motors present) :
    heardIn around.arrived present = present := by
  apply List.filter_eq_self.mpr
  intro id member
  obtain ⟨query, queried, named⟩ := candidate_queried id (answering.inRange id member)
  obtain ⟨pack, received, reply, own⟩ := answering.answered _ query queried (named ▸ member)
  have inside : pack ∈ answersOf id.toInt32 around.arrived :=
    (answers_of _ _ _).mpr ⟨List.mem_append_left _ received, reply, by rw [own, named]⟩
  simpa using List.ne_nil_of_mem inside

theorem few_kept (few : ∀ queries, (around.received queries).length ≤ mailboxSize) : around.kept = around.arrived := by
  have second : around.secondRound.length ≤ mailboxSize := by
    unfold Surroundings.secondRound
    split
    · exact Nat.zero_le _
    · exact few _
  have first : around.firstWindow.length ≤ mailboxSize := few _
  rw [Surroundings.kept, drainUnknownMessages, drainUnknownMessages, newest_fits _ _ first, newest_fits _ _ second,
    Surroundings.arrived]

/-- A scan finds the registered motors and those whose answers the mailbox has kept: all of them where no window brings
more messages than it holds. -/
theorem scan_finds (around : Surroundings) (motors : BusMotors) (present : List UInt32) (scannable : Scannable around)
    (undisturbed : Undisturbed motors) (answering : Answering around motors present) :
    ∃ found, scanMotors around motors = some found ∧
      Lists BothBits motors (heardIn around.kept present) around.kept found ∧
      ((∀ queries, (around.received queries).length ≤ mailboxSize) → Lists BothBits motors present around.arrived found ∧
        ((∀ pack ∈ around.arrived, canFrameFlagsHaveValidCanFdBits pack.frameFlags = true) →
          Lists FdFrame motors present around.arrived found)) := by
  obtain ⟨found, scanned, lists⟩ := scan_lists around motors present scannable undisturbed answering
  refine ⟨found, scanned, lists, ?_⟩
  intro few
  rw [few_kept around few, heard_all around motors present answering] at lists
  refine ⟨lists, fun valid => ⟨lists.listed, lists.registered, ?_⟩⟩
  intro id member flags listed
  rw [lists.canFd id member flags listed]
  refine both_bits_agree _ ?_
  intro pack inside
  exact valid pack ((answers_of _ _ _).mp inside).1

def positionReply (id : UInt32) (frameFlags : UInt8) : MotorPackMsg :=
  ⟨id, frameFlags, 6, payload [(0x05 : UInt8) <<< 5, positionParameter]⟩

def noMotors : BusMotors := ⟨∅, false, fun _ => false, fun _ => true⟩

theorem no_motors_undisturbed : Undisturbed noMotors := ⟨rfl, fun _ => rfl, fun _ => rfl⟩

def crowded (repeats : Nat) : Surroundings where
  gateOpen := true
  externalDeviceFlag := false
  registeredExternalDevice := false
  observed := []
  received := fun queries =>
    (if queries.any fun query => query.id == 3 then [positionReply 3 0] else []) ++
      (if queries.any fun query => query.id == 5 then List.replicate repeats (positionReply 5 6) else [])

variable (repeats : Nat)

theorem crowded_scannable : Scannable (crowded repeats) := ⟨rfl, rfl, rfl, rfl⟩

variable (queries : List MotorPackMsg)

theorem crowded_received (pack : MotorPackMsg)
    (received : pack ∈ (crowded repeats).received queries) : pack = positionReply 3 0 ∨ pack = positionReply 5 6 := by
  rcases List.mem_append.mp received with third | fifth
  · split at third
    · exact .inl (List.mem_singleton.mp third)
    · exact absurd third List.not_mem_nil
  · split at fifth
    · exact .inr (List.mem_replicate.mp fifth).2
    · exact absurd fifth List.not_mem_nil

theorem crowded_unasked (pack : MotorPackMsg)
    (unasked : (queries.any fun query => query.id == 3) = false) (received : pack ∈ (crowded repeats).received queries) :
    pack = positionReply 5 6 := by
  rcases List.mem_append.mp received with third | fifth
  · rw [unasked, if_neg Bool.false_ne_true] at third
    exact absurd third List.not_mem_nil
  · split at fifth
    · exact (List.mem_replicate.mp fifth).2
    · exact absurd fifth List.not_mem_nil

theorem crowded_answering (answers : 0 < repeats) : Answering (crowded repeats) noMotors [3, 5] where
  inRange := List.forall_mem_cons.mpr ⟨by decide, List.forall_mem_singleton.mpr (by decide)⟩
  unregistered := fun _ _ => rfl
  traffic := by
    intro queries pack received reply
    rcases crowded_received repeats queries pack received with rfl | rfl
    · decide
    · decide
  answered := by
    intro queries query queried member
    simp only [List.mem_cons, List.not_mem_nil, or_false] at member
    rcases member with third | fifth
    · have asked : (queries.any fun query => query.id == 3) = true := List.any_eq_true.mpr ⟨query, queried, by simp [third]⟩
      exact ⟨positionReply 3 0, List.mem_append_left _ (by simp [asked]), by decide, third.symm⟩
    · have asked : (queries.any fun query => query.id == 5) = true := List.any_eq_true.mpr ⟨query, queried, by simp [fifth]⟩
      exact ⟨positionReply 5 6, List.mem_append_right _ (by simp [asked, List.mem_replicate]; omega), by decide, fifth.symm⟩

theorem scan_finds_two :
    ∃ found, scanMotors (crowded 1) noMotors = some found ∧
      Lists BothBits noMotors (heardIn (crowded 1).kept [3, 5]) (crowded 1).kept found ∧
      ((∀ queries, ((crowded 1).received queries).length ≤ mailboxSize) → Lists BothBits noMotors [3, 5] (crowded 1).arrived found ∧
        ((∀ pack ∈ (crowded 1).arrived, canFrameFlagsHaveValidCanFdBits pack.frameFlags = true) →
          Lists FdFrame noMotors [3, 5] (crowded 1).arrived found)) :=
  scan_finds (crowded 1) noMotors [3, 5] (crowded_scannable 1) no_motors_undisturbed (crowded_answering 1 (by decide))

theorem crowded_first (inside : pack ∈ drainUnknownMessages (crowded mailboxSize).firstWindow) :
    pack = positionReply 5 6 := by
  have asked (id : UInt32) (small : id ≤ 0x7FE) :
      ((allCandidateIds.map (discoveryQuery false)).any fun query => query.id == id) = true := by
    obtain ⟨query, queried, named⟩ := candidate_queried id small
    exact List.any_eq_true.mpr ⟨query, queried, by simp [named]⟩
  have window : (crowded mailboxSize).firstWindow = positionReply 3 0 :: List.replicate mailboxSize (positionReply 5 6) := by
    simp only [Surroundings.firstWindow, crowded, asked 3 (by decide), asked 5 (by decide), ↓reduceIte, List.singleton_append]
  rw [drainUnknownMessages, window, newest, List.length_cons, List.length_replicate, Nat.add_sub_cancel_left, List.drop_one,
    List.tail_cons] at inside
  exact (List.mem_replicate.mp inside).2

theorem crowded_kept (inside : pack ∈ (crowded mailboxSize).kept) : pack = positionReply 5 6 := by
  rcases List.mem_append.mp inside with first | second
  · exact crowded_first pack first
  · have received := List.mem_of_mem_drop second
    unfold Surroundings.secondRound at received
    split at received
    · exact absurd received List.not_mem_nil
    · have unasked : (((crowded mailboxSize).canfdCandidateIds.map (discoveryQuery true)).any fun query => query.id == 3) = false := by
        rw [List.any_eq_false]
        intro query queried
        obtain ⟨id, listed, rfl⟩ := List.mem_map.mp queried
        obtain ⟨⟨motorIdx, flags⟩, entry, rfl⟩ := List.mem_map.mp listed
        have found := (Table.mem_to_list _ _ _).mp entry
        rw [Surroundings.firstDiscovered, collect_find, Table.find_empty] at found
        have heard : answersOf motorIdx (drainUnknownMessages (crowded mailboxSize).firstWindow) ≠ [] := by
          intro empty
          rw [empty] at found
          cases found
        obtain ⟨answer, held⟩ := List.exists_mem_of_ne_nil _ heard
        obtain ⟨drained, -, rfl⟩ := (answers_of _ _ _).mp held
        rw [crowded_first answer drained]
        exact (by decide : ¬ ((discoveryQuery true 5).id == 3) = true)
      exact crowded_unasked mailboxSize _ pack unasked received

-- A motor that answers each query with two frames, which carry one FD bit each.
def halved : Surroundings where
  gateOpen := true
  externalDeviceFlag := false
  registeredExternalDevice := false
  observed := []
  received := fun queries =>
    if queries.any fun query => query.id == 3 then [positionReply 3 kCanFrameFlagFdBit1, positionReply 3 kCanFrameFlagFdBit2] else []

theorem halved_received (pack : MotorPackMsg) (received : pack ∈ halved.received queries) :
    pack = positionReply 3 kCanFrameFlagFdBit1 ∨ pack = positionReply 3 kCanFrameFlagFdBit2 := by
  simp only [halved] at received
  split at received
  · simpa using received
  · exact absurd received List.not_mem_nil

theorem halved_answering : Answering halved noMotors [3] where
  inRange := List.forall_mem_singleton.mpr (by decide)
  unregistered := fun _ _ => rfl
  traffic := by
    intro queries pack received reply
    rcases halved_received queries pack received with rfl | rfl
    · decide
    · decide
  answered := by
    intro queries query queried member
    have third := List.mem_singleton.mp member
    have asked : (queries.any fun query => query.id == 3) = true := List.any_eq_true.mpr ⟨query, queried, by simp [third]⟩
    exact ⟨positionReply 3 kCanFrameFlagFdBit1, by simp only [halved, asked, ↓reduceIte, List.mem_cons, true_or], by decide,
      third.symm⟩

theorem halved_few : (halved.received queries).length ≤ mailboxSize := by
  simp only [halved]
  split
  · decide
  · exact Nat.zero_le _

theorem halved_misjudged : ¬ ∃ found, scanMotors halved noMotors = some found ∧ Lists FdFrame noMotors [3] halved.arrived found := by
  rintro ⟨found, scanned, lists⟩
  obtain ⟨other, scannedAgain, kept⟩ :=
    scan_lists halved noMotors [3] ⟨rfl, rfl, rfl, rfl⟩ no_motors_undisturbed halved_answering
  obtain rfl := Option.some.inj (scanned.symm.trans scannedAgain)
  rw [few_kept halved halved_few, heard_all halved noMotors [3] halved_answering] at kept
  have there := (kept.listed 3).mpr (.inr ⟨3, List.mem_singleton_self _, by decide⟩)
  obtain ⟨flags, listed⟩ := Option.isSome_iff_exists.mp there
  have window : halved.firstWindow = [positionReply 3 kCanFrameFlagFdBit1, positionReply 3 kCanFrameFlagFdBit2] := by
    obtain ⟨query, queried, named⟩ := candidate_queried 3 (by decide)
    have asked : ((allCandidateIds.map (discoveryQuery false)).any fun query => query.id == 3) = true :=
      List.any_eq_true.mpr ⟨query, queried, by simp [named]⟩
    simp only [Surroundings.firstWindow, halved, asked, ↓reduceIte]
  have inside (pack : MotorPackMsg) (sent : pack ∈ [positionReply 3 kCanFrameFlagFdBit1, positionReply 3 kCanFrameFlagFdBit2])
      (reply : isDiscoveryReply pack = true ∧ pack.id.toInt32 = 3) : pack ∈ answersOf 3 halved.arrived :=
    (answers_of _ _ _).mpr ⟨List.mem_append_left _ (window ▸ sent), reply⟩
  have both : BothBits (answersOf 3 halved.arrived) :=
    ⟨⟨_, inside (positionReply 3 kCanFrameFlagFdBit1) (by simp) (by decide), by decide⟩,
      ⟨_, inside (positionReply 3 kCanFrameFlagFdBit2) (by simp) (by decide), by decide⟩⟩
  have canFd := (kept.canFd 3 (List.mem_singleton_self _) flags listed).mpr both
  obtain ⟨pack, answer, fd⟩ := (lists.canFd 3 (List.mem_singleton_self _) flags listed).mp canFd
  obtain ⟨queries, received⟩ := arrived_received halved pack ((answers_of _ _ _).mp answer).1
  rcases halved_received queries pack received with rfl | rfl
  · exact absurd fd (by decide)
  · exact absurd fd (by decide)

/-- Answers are lost in a crowded window, and two halves of the FD bits make a motor with CAN FD. -/
theorem scan_loses_answers :
    (¬ ∀ around motors present, Scannable around → Undisturbed motors → Answering around motors present →
      ∃ found, scanMotors around motors = some found ∧ Lists FdFrame motors present around.arrived found) ∧
    ¬ ∀ around motors present, Scannable around → Undisturbed motors → Answering around motors present →
      (∀ queries, (around.received queries).length ≤ mailboxSize) →
        ∃ found, scanMotors around motors = some found ∧ Lists FdFrame motors present around.arrived found := by
  refine ⟨?_, fun complete => halved_misjudged
    (complete halved noMotors [3] ⟨rfl, rfl, rfl, rfl⟩ no_motors_undisturbed halved_answering halved_few)⟩
  intro complete
  obtain ⟨found, scanned, lists⟩ := complete (crowded mailboxSize) noMotors [3, 5] (crowded_scannable _) no_motors_undisturbed
    (crowded_answering mailboxSize (by decide))
  obtain ⟨other, scannedAgain, answers⟩ := scan_answers (crowded mailboxSize) noMotors (crowded_scannable _) no_motors_undisturbed
  obtain rfl := Option.some.inj (scanned.symm.trans scannedAgain)
  have third := (lists.listed 3).mpr (.inr ⟨3, by decide, by decide⟩)
  have unheard : answersOf 3 (crowded mailboxSize).kept = [] := by
    rw [List.eq_nil_iff_forall_not_mem]
    intro pack inside
    obtain ⟨kept, -, own⟩ := (answers_of _ _ _).mp inside
    rw [crowded_kept pack kept] at own
    exact absurd own (by decide)
  rw [answers 3, unheard] at third
  exact absurd third (by decide)

end EncosDriver.Bus.Scan
