import EncosDriver.Ethercat.WireLayout
import Mathlib.Data.List.FinRange

set_option autoImplicit false

namespace EncosDriver.Igh

open Lib Message Ethercat

def kClassicCan2BusMotorSlots : Nat := 6
def kClassicCan8BusMotorSlots : Nat := 24
def kClassicCan8BusMappedBytes : Nat := 2 + kClassicCan8BusMotorSlots * 14

def configureSlave (outputBytes : Option Nat) : SlaveConfig :=
  match outputBytes with
  | none => ⟨.none, 0, 0, 0⟩
  | some bytes => classifyOutputPdoSize (if bytes = kClassicCan8BusMappedBytes then 340 else bytes)

def hasSupportedPdo (config : SlaveConfig) : Bool := config.format ≠ .none && config.busCount ≠ 0

def isCanFd (config : SlaveConfig) : Bool :=
  config.format = .canFd8Bus || config.format = .canFd8Bus10Slots || config.format = .canFd3Bus || config.format = .glove

def motorSlots (config : SlaveConfig) : Nat :=
  if isCanFd config then config.busCount * config.motorsPerBus
  else if config.format = .classicCan8Bus then kClassicCan8BusMotorSlots
  else kClassicCan2BusMotorSlots

structure PdoEntry where
  index : Nat
  subindex : Nat
  bitLength : Nat
deriving DecidableEq, Repr

def makePdoEntries (index motorSlots : Nat) : List PdoEntry :=
  (List.range (2 + motorSlots * 11)).map fun i => ⟨index, (i + 1) % 256, if 2 ≤ i ∧ (i - 2) % 11 = 0 then 32 else 8⟩

def makeCanFdPdoEntries (index motorsPerBus : Nat) : List PdoEntry :=
  (List.range (motorsPerBus * 11)).map fun i => ⟨index, (i + 1) % 256, if i % 11 = 0 then 32 else 8⟩

inductive Side where
  | output
  | input
deriving DecidableEq, Repr

inductive Part where
  | id
  | frameFlags
  | dlc
  | data (byte : Fin 8)
deriving DecidableEq, Repr

def Part.all : List Part := [.id, .frameFlags, .dlc] ++ (List.finRange 8).map .data

def Part.offset : Part → Nat
  | .id => 0
  | .frameFlags => 1
  | .dlc => 2
  | .data byte => 3 + byte.val

def Part.width : Part → Nat
  | .id => 4
  | _ => 1

inductive Field where
  | motorNum (side : Side)
  | canIde (side : Side)
  | motor (side : Side) (slot : Nat) (part : Part)
deriving DecidableEq, Repr

def Field.width : Field → Nat
  | .motor _ _ part => part.width
  | _ => 1

structure Triple where
  position : Nat
  index : Nat
  subindex : Nat
deriving DecidableEq, Repr

structure Registration where
  slave : Nat
  triple : Triple
  field : Field
deriving DecidableEq, Repr

def classicIndex : Side → Nat
  | .output => 0x7010
  | .input => 0x6000

def canFdIndex (config : SlaveConfig) (bus : Nat) : Side → Nat
  | .output => ((if config.format = .canFd3Bus then 0x7000 else 0x7010) + bus) % 65536
  | .input => (0x6000 + bus) % 65536

def mappedEntries (config : SlaveConfig) (side : Side) : List PdoEntry :=
  if isCanFd config then
    (List.range config.busCount).flatMap fun bus => makeCanFdPdoEntries (canFdIndex config bus side) config.motorsPerBus
  else makePdoEntries (classicIndex side) (motorSlots config)

def slotRegistrations (slave index base : Nat) (side : Side) (slot : Nat) : List Registration :=
  Part.all.map fun part => ⟨slave, ⟨slave % 65536, index, (base + part.offset) % 256⟩, .motor side slot part⟩

def canFdRegistrations (slave : Nat) (config : SlaveConfig) : List Registration :=
  (List.range config.busCount).flatMap fun bus => (List.range config.motorsPerBus).flatMap fun motor =>
    slotRegistrations slave (canFdIndex config bus .output) ((1 + motor * 11) % 256) .output (bus * config.motorsPerBus + motor) ++
      slotRegistrations slave (canFdIndex config bus .input) ((1 + motor * 11) % 256) .input (bus * config.motorsPerBus + motor)

def classicSideRegistrations (slave motorSlots : Nat) (side : Side) : List Registration :=
  [⟨slave, ⟨slave % 65536, classicIndex side, 1⟩, .motorNum side⟩, ⟨slave, ⟨slave % 65536, classicIndex side, 2⟩, .canIde side⟩] ++
    (List.range motorSlots).flatMap fun motor => slotRegistrations slave (classicIndex side) ((3 + motor * 11) % 256) side motor

def slaveRegistrations (slave : Nat) (config : SlaveConfig) : List Registration :=
  if !hasSupportedPdo config then []
  else if isCanFd config then canFdRegistrations slave config
  else classicSideRegistrations slave (motorSlots config) .output ++ classicSideRegistrations slave (motorSlots config) .input

def configureDomainEntries (slaves : List (Option Nat)) : List Registration :=
  slaves.zipIdx.flatMap fun slave => slaveRegistrations slave.2 (configureSlave slave.1)

theorem part_complete (part : Part) : part ∈ Part.all := by
  cases part with
  | data byte => exact List.mem_append_right _ (List.mem_map_of_mem (List.mem_finRange byte))
  | id | frameFlags | dlc => simp [Part.all]

theorem part_offset_lt (part : Part) : part.offset < 11 := by
  cases part with
  | data byte =>
    have bound := byte.isLt
    simp only [Part.offset]
    omega
  | id | frameFlags | dlc => decide

theorem part_offset_injective (first second : Part) (same : first.offset = second.offset) : first = second := by
  cases first <;> cases second <;> simp only [Part.offset] at same <;> first | rfl | omega | skip
  exact congrArg Part.data (Fin.ext (by omega))

def Belongs (config : SlaveConfig) : Field → Prop
  | .motor _ slot _ => slot < motorSlots config
  | _ => isCanFd config = false

def tripleOf (slave : Nat) (config : SlaveConfig) : Field → Triple
  | .motorNum side => ⟨slave % 65536, classicIndex side, 1⟩
  | .canIde side => ⟨slave % 65536, classicIndex side, 2⟩
  | .motor side slot part =>
    if isCanFd config then
      ⟨slave % 65536, canFdIndex config (slot / config.motorsPerBus) side,
        ((1 + slot % config.motorsPerBus * 11) % 256 + part.offset) % 256⟩
    else ⟨slave % 65536, classicIndex side, ((3 + slot * 11) % 256 + part.offset) % 256⟩

theorem slot_registered (slave index base : Nat) (side : Side) (slot : Nat) (registration : Registration) :
    registration ∈ slotRegistrations slave index base side slot ↔
      ∃ part : Part, registration = ⟨slave, ⟨slave % 65536, index, (base + part.offset) % 256⟩, .motor side slot part⟩ := by
  simp only [slotRegistrations, List.mem_map, part_complete, true_and]
  exact ⟨fun ⟨part, made⟩ => ⟨part, made.symm⟩, fun ⟨part, made⟩ => ⟨part, made.symm⟩⟩

variable (slave : Nat) (config : SlaveConfig)

theorem classic_registered (classic : isCanFd config = false) (side : Side) (registration : Registration) :
    registration ∈ classicSideRegistrations slave (motorSlots config) side ↔
      (registration.field = .motorNum side ∨ registration.field = .canIde side ∨
        ∃ slot part, registration.field = .motor side slot part ∧ slot < motorSlots config) ∧
          registration = ⟨slave, tripleOf slave config registration.field, registration.field⟩ := by
  rw [classicSideRegistrations, List.mem_append, List.mem_flatMap]
  constructor
  · rintro (header | ⟨motor, inside, registered⟩)
    · rcases List.mem_pair.mp header with rfl | rfl
      · exact ⟨.inl rfl, rfl⟩
      · exact ⟨.inr (.inl rfl), rfl⟩
    · obtain ⟨part, rfl⟩ := (slot_registered ..).mp registered
      refine ⟨.inr (.inr ⟨motor, part, rfl, List.mem_range.mp inside⟩), ?_⟩
      simp [tripleOf, classic]
  · rintro ⟨motorNum | canIde | ⟨slot, part, motor, inside⟩, made⟩
    · rw [motorNum] at made
      exact .inl (List.mem_pair.mpr (.inl made))
    · rw [canIde] at made
      exact .inl (List.mem_pair.mpr (.inr made))
    · rw [motor] at made
      refine .inr ⟨slot, List.mem_range.mpr inside, (slot_registered ..).mpr ⟨part, ?_⟩⟩
      rw [made]
      simp [tripleOf, classic]

theorem can_fd_slots (config : SlaveConfig) (canFd : isCanFd config = true) :
    motorSlots config = config.busCount * config.motorsPerBus := if_pos canFd

theorem can_fd_triple (canFd : isCanFd config = true) (side : Side) (bus motor : Nat) (part : Part)
    (inside : motor < config.motorsPerBus) :
    tripleOf slave config (.motor side (bus * config.motorsPerBus + motor) part) =
      ⟨slave % 65536, canFdIndex config bus side, ((1 + motor * 11) % 256 + part.offset) % 256⟩ := by
  have whole : (bus * config.motorsPerBus + motor) / config.motorsPerBus = bus := by
    rw [Nat.mul_comm, Nat.mul_add_div (by omega), Nat.div_eq_of_lt inside, Nat.add_zero]
  have rest : (bus * config.motorsPerBus + motor) % config.motorsPerBus = motor := by
    rw [Nat.mul_comm, Nat.mul_add_mod, Nat.mod_eq_of_lt inside]
  rw [tripleOf, if_pos canFd, whole, rest]

theorem can_fd_registered (canFd : isCanFd config = true) (registration : Registration) :
    registration ∈ canFdRegistrations slave config ↔
      Belongs config registration.field ∧ registration = ⟨slave, tripleOf slave config registration.field, registration.field⟩ := by
  simp only [canFdRegistrations, List.mem_flatMap, List.mem_range, List.mem_append, slot_registered]
  constructor
  · rintro ⟨bus, busInside, motor, inside, registered⟩
    have room : bus * config.motorsPerBus + motor < motorSlots config := by
      have next := Nat.mul_le_mul_right config.motorsPerBus (Nat.succ_le_of_lt busInside)
      rw [can_fd_slots config canFd]
      rw [Nat.succ_mul] at next
      omega
    rcases registered with ⟨part, rfl⟩ | ⟨part, rfl⟩
    · exact ⟨room, by rw [can_fd_triple slave config canFd .output bus motor part inside]⟩
    · exact ⟨room, by rw [can_fd_triple slave config canFd .input bus motor part inside]⟩
  · rintro ⟨belongs, made⟩
    cases field : registration.field with
    | motorNum side | canIde side =>
      rw [field] at belongs
      exact absurd (canFd.symm.trans belongs) (by decide)
    | motor side slot part =>
      rw [field] at belongs made
      have room : slot < config.busCount * config.motorsPerBus := can_fd_slots config canFd ▸ belongs
      have capacity : 0 < config.motorsPerBus := Nat.pos_of_ne_zero fun zero => by simp [zero] at room
      have inside := Nat.mod_lt slot capacity
      have split : slot = slot / config.motorsPerBus * config.motorsPerBus + slot % config.motorsPerBus := (Nat.div_add_mod' slot _).symm
      refine ⟨slot / config.motorsPerBus, Nat.div_lt_of_lt_mul (Nat.mul_comm .. ▸ room), slot % config.motorsPerBus, inside, ?_⟩
      have triple := can_fd_triple slave config canFd side (slot / config.motorsPerBus) (slot % config.motorsPerBus) part inside
      rw [← split] at triple
      rw [triple] at made
      rw [← split]
      cases side with
      | output => exact .inl ⟨part, made⟩
      | input => exact .inr ⟨part, made⟩

theorem slave_registered (registration : Registration) :
    registration ∈ slaveRegistrations slave config ↔ hasSupportedPdo config = true ∧ Belongs config registration.field ∧
      registration = ⟨slave, tripleOf slave config registration.field, registration.field⟩ := by
  rw [slaveRegistrations]
  cases supported : hasSupportedPdo config with
  | false => simp
  | true =>
    cases canFd : isCanFd config with
    | true => simp [can_fd_registered slave config canFd]
    | false =>
      simp only [Bool.not_true, Bool.false_eq_true, if_false, List.mem_append, classic_registered slave config canFd, ← or_and_right,
        true_and]
      refine and_congr_left fun _ => ?_
      cases field : registration.field with
      | motorNum side | canIde side => cases side <;> simp [Belongs, canFd]
      | motor side slot part => cases side <;> simp [Belongs]

theorem domain_registered (slaves : List (Option Nat)) (registration : Registration) :
    registration ∈ configureDomainEntries slaves ↔ ∃ outputBytes, slaves[registration.slave]? = some outputBytes ∧
      hasSupportedPdo (configureSlave outputBytes) = true ∧ Belongs (configureSlave outputBytes) registration.field ∧
        registration.triple = tripleOf registration.slave (configureSlave outputBytes) registration.field := by
  simp only [configureDomainEntries, List.mem_flatMap, List.mem_zipIdx_iff_getElem?, slave_registered]
  constructor
  · rintro ⟨⟨outputBytes, slave⟩, located, supported, belongs, made⟩
    obtain rfl : registration.slave = slave := congrArg Registration.slave made
    exact ⟨outputBytes, located, supported, belongs, congrArg Registration.triple made⟩
  · rintro ⟨outputBytes, located, supported, belongs, triple⟩
    refine ⟨(outputBytes, registration.slave), located, supported, belongs, ?_⟩
    rw [← triple]

theorem configured_cases (outputBytes : Option Nat) (supported : hasSupportedPdo (configureSlave outputBytes) = true) :
    configureSlave outputBytes ∈ ([⟨.classicCan2Bus, 2, 3, 86⟩, ⟨.classicCan8Bus, 8, 3, 340⟩, ⟨.canFd8Bus, 8, 8, 896⟩,
      ⟨.canFd8Bus10Slots, 8, 10, 1120⟩, ⟨.canFd3Bus, 3, 8, 336⟩, ⟨.glove, 5, 10, 700⟩] : List SlaveConfig) := by
  cases outputBytes with
  | none => exact absurd supported (by decide)
  | some bytes =>
    simp only [configureSlave, classifyOutputPdoSize] at supported ⊢
    generalize (if bytes = kClassicCan8BusMappedBytes then 340 else bytes) = layout at supported ⊢
    split_ifs at supported ⊢ <;> first | (cases supported; done) | simp

theorem subindex_injective (base first second : Nat) (firstPart secondPart : Part) (low : base ≤ 3) (firstSmall : first ≤ 22)
    (secondSmall : second ≤ 22)
    (same : ((base + first * 11) % 256 + firstPart.offset) % 256 = ((base + second * 11) % 256 + secondPart.offset) % 256) :
    first = second ∧ firstPart = secondPart := by
  have firstBound := part_offset_lt firstPart
  have secondBound := part_offset_lt secondPart
  have plain (slot offset : Nat) (small : slot ≤ 22) (bound : offset < 11) :
      ((base + slot * 11) % 256 + offset) % 256 = base + slot * 11 + offset := by omega
  rw [plain first _ firstSmall firstBound, plain second _ secondSmall secondBound] at same
  obtain ⟨slot, offset⟩ : first = second ∧ firstPart.offset = secondPart.offset := by omega
  exact ⟨slot, part_offset_injective firstPart secondPart offset⟩

theorem can_fd_index_injective (config : SlaveConfig) (first second : Nat) (firstSide secondSide : Side) (firstSmall : first < 8)
    (secondSmall : second < 8) (same : canFdIndex config first firstSide = canFdIndex config second secondSide) :
    first = second ∧ firstSide = secondSide := by
  have start : (if config.format = .canFd3Bus then 0x7000 else 0x7010) = 0x7000 ∨
      (if config.format = .canFd3Bus then 0x7000 else 0x7010) = 0x7010 := by
    split
    · exact .inl rfl
    · exact .inr rfl
  cases firstSide <;> cases secondSide <;> simp only [canFdIndex] at same
  · exact ⟨by omega, rfl⟩
  · omega
  · omega
  · exact ⟨by omega, rfl⟩

structure Narrow (config : SlaveConfig) : Prop where
  buses : config.busCount ≤ 8
  motors : config.motorsPerBus ≤ 22
  slots : isCanFd config = false → motorSlots config ≤ 22

theorem triple_injective (narrow : Narrow config) (first second : Field)
    (firstBelongs : Belongs config first) (secondBelongs : Belongs config second)
    (same : tripleOf slave config first = tripleOf slave config second) : first = second := by
  cases canFd : isCanFd config with
  | true =>
    cases first with
    | motorNum side | canIde side => exact absurd (canFd.symm.trans firstBelongs) (by decide)
    | motor firstSide firstSlot firstPart =>
      cases second with
      | motorNum side | canIde side => exact absurd (canFd.symm.trans secondBelongs) (by decide)
      | motor secondSide secondSlot secondPart =>
        simp only [Belongs, can_fd_slots config canFd] at firstBelongs secondBelongs
        have capacity : 0 < config.motorsPerBus := Nat.pos_of_ne_zero fun zero => by simp [zero] at firstBelongs
        have few := narrow.motors
        have firstBus := (Nat.div_lt_of_lt_mul (Nat.mul_comm .. ▸ firstBelongs)).trans_le narrow.buses
        have secondBus := (Nat.div_lt_of_lt_mul (Nat.mul_comm .. ▸ secondBelongs)).trans_le narrow.buses
        have firstMotor := Nat.mod_lt firstSlot capacity
        have secondMotor := Nat.mod_lt secondSlot capacity
        simp only [tripleOf, canFd, if_true, Triple.mk.injEq, true_and] at same
        obtain ⟨bus, rfl⟩ := can_fd_index_injective config _ _ firstSide secondSide firstBus secondBus same.1
        obtain ⟨motor, rfl⟩ := subindex_injective 1 _ _ firstPart secondPart (by omega) (by omega) (by omega) same.2
        have slot : firstSlot = secondSlot := by
          rw [← Nat.div_add_mod firstSlot config.motorsPerBus, ← Nat.div_add_mod secondSlot config.motorsPerBus, bus, motor]
        rw [slot]
  | false =>
    have few := narrow.slots canFd
    have sides (firstSide secondSide : Side) (index : classicIndex firstSide = classicIndex secondSide) : firstSide = secondSide := by
      cases firstSide <;> cases secondSide <;> first | rfl | exact absurd index (by decide)
    have behind (slot : Nat) (part : Part) (inside : slot < motorSlots config) :
        ((3 + slot * 11) % 256 + part.offset) % 256 = 3 + slot * 11 + part.offset := by
      have bound := part_offset_lt part
      omega
    cases first with
    | motorNum firstSide =>
      cases second with
      | motorNum secondSide => exact congrArg Field.motorNum (sides _ _ (Triple.mk.inj same).2.1)
      | canIde secondSide => exact absurd (Triple.mk.inj same).2.2 (by decide)
      | motor secondSide slot part =>
        simp only [tripleOf, canFd, Bool.false_eq_true, if_false, behind slot part secondBelongs, Triple.mk.injEq] at same
        omega
    | canIde firstSide =>
      cases second with
      | motorNum secondSide => exact absurd (Triple.mk.inj same).2.2 (by decide)
      | canIde secondSide => exact congrArg Field.canIde (sides _ _ (Triple.mk.inj same).2.1)
      | motor secondSide slot part =>
        simp only [tripleOf, canFd, Bool.false_eq_true, if_false, behind slot part secondBelongs, Triple.mk.injEq] at same
        omega
    | motor firstSide firstSlot firstPart =>
      cases second with
      | motorNum secondSide | canIde secondSide =>
        simp only [tripleOf, canFd, Bool.false_eq_true, if_false, behind firstSlot firstPart firstBelongs, Triple.mk.injEq] at same
        omega
      | motor secondSide secondSlot secondPart =>
        simp only [Belongs] at firstBelongs secondBelongs
        simp only [tripleOf, canFd, Bool.false_eq_true, if_false, Triple.mk.injEq, true_and] at same
        obtain rfl := sides firstSide secondSide same.1
        obtain ⟨rfl, rfl⟩ := subindex_injective 3 firstSlot secondSlot firstPart secondPart (by omega) (by omega) (by omega) same.2
        rfl

theorem narrow_of_format (outputBytes : Option Nat) (supported : hasSupportedPdo (configureSlave outputBytes) = true)
    (narrow : (configureSlave outputBytes).format ≠ .classicCan8Bus) : Narrow (configureSlave outputBytes) := by
  have formats := configured_cases outputBytes supported
  generalize configureSlave outputBytes = config at formats narrow
  simp only [List.mem_cons, List.not_mem_nil, or_false] at formats
  rcases formats with rfl | rfl | rfl | rfl | rfl | rfl
  · exact ⟨by decide, by decide, fun _ => by decide⟩
  · exact absurd rfl narrow
  · exact ⟨by decide, by decide, nofun⟩
  · exact ⟨by decide, by decide, nofun⟩
  · exact ⟨by decide, by decide, nofun⟩
  · exact ⟨by decide, by decide, nofun⟩

end EncosDriver.Igh
