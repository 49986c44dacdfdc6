import EncosDriver.Igh.Mapping
import EncosDriver.Lib.Regions

set_option autoImplicit false

namespace EncosDriver.Igh

open Lib Message Ethercat

def mappedTriples (slaves : List (Option Nat)) : List (Triple × Nat) :=
  slaves.zipIdx.flatMap fun slave =>
    if hasSupportedPdo (configureSlave slave.1) then
      (mappedEntries (configureSlave slave.1) .output ++ mappedEntries (configureSlave slave.1) .input).map fun entry =>
        (⟨slave.2 % 65536, entry.index, entry.subindex⟩, entry.bitLength)
    else []

-- What the code relies on of the master: it finds an entry by its triple, and
-- distinct triples have places apart from each other, each as long as the entry.
structure Domain (slaves : List (Option Nat)) where
  place : Triple → Nat
  apart : ∀ first ∈ mappedTriples slaves, ∀ second ∈ mappedTriples slaves, first.1 ≠ second.1 →
    Regions.Apart (place first.1) (first.2 / 8) (place second.1) (second.2 / 8)

section Cycle

variable (slaves : List (Option Nat)) (domain : Domain slaves)

def offsetOf (slave : Nat) (field : Field) : Nat :=
  match (configureDomainEntries slaves).find? fun registration => registration.slave = slave ∧ registration.field = field with
  | some registration => domain.place registration.triple
  | none => 0

def slotFields (side : Side) (slot : Nat) : List Field := Part.all.map (.motor side slot)

def sideFields (config : SlaveConfig) (side : Side) : List Field :=
  (if isCanFd config then [] else [.canIde side, .motorNum side]) ++ (List.range (motorSlots config)).flatMap (slotFields side)

def slotsStart (config : SlaveConfig) : Nat := if isCanFd config then 0 else 2

def readU32 (bytes : List UInt8) : UInt32 :=
  (bytes.getD 0 0).toUInt32 ||| ((bytes.getD 1 0).toUInt32 <<< 8) ||| ((bytes.getD 2 0).toUInt32 <<< 16) |||
    ((bytes.getD 3 0).toUInt32 <<< 24)

def motorAt (buffer : List UInt8) (start : Nat) : MotorPackMsg :=
  { id := readU32 (buffer.drop start)
    frameFlags := buffer.getD (start + 4) 0
    len := buffer.getD (start + 5) 0
    data := payload (buffer.drop (start + 6)) }

def partBytes (motor : MotorPackMsg) : Part → List UInt8
  | .id => Codec.writeU32Le motor.id
  | .frameFlags => [motor.frameFlags]
  | .dlc => [motor.len]
  | .data byte => [motor.data[byte]]

def fieldBytes (config : SlaveConfig) (buffer : List UInt8) : Field → List UInt8
  | .motorNum _ => [buffer.getD 0 0]
  | .canIde _ => [buffer.getD 1 0]
  | .motor _ slot part => partBytes (motorAt buffer (slotsStart config + slot * 14)) part

def structureSize (config : SlaveConfig) : Nat :=
  if isCanFd config then config.messageSize else if config.format = .classicCan8Bus then 340 else 86

def outputValue (config : SlaveConfig) (buffer : Option (List UInt8)) (field : Field) : List UInt8 :=
  match buffer with
  | none => List.replicate field.width 0
  | some bytes => if bytes.length < structureSize config then List.replicate field.width 0 else fieldBytes config bytes field

abbrev Frame := List (Option (List UInt8))

def Frame.buffer (frame : Frame) (slave : Nat) : Option (List UInt8) := (frame[slave]?).getD none

def sideWrites (side : Side) (value : Option Nat → Nat → Field → List UInt8) : List (Nat × List UInt8) :=
  slaves.zipIdx.flatMap fun slave =>
    if hasSupportedPdo (configureSlave slave.1) then
      (sideFields (configureSlave slave.1) side).map fun field => (offsetOf slaves domain slave.2 field, value slave.1 slave.2 field)
    else []

def writeOutputs (memory : Nat → UInt8) (frame : Frame) : Nat → UInt8 :=
  Regions.storeAll memory (sideWrites slaves domain .output fun outputBytes slave field =>
    outputValue (configureSlave outputBytes) (frame.buffer slave) field)

def readField (memory : Nat → UInt8) (slave : Nat) (field : Field) : List UInt8 :=
  Regions.load memory (offsetOf slaves domain slave field) field.width

def readMotor (memory : Nat → UInt8) (slave slot : Nat) : MotorPackMsg :=
  { id := readU32 (readField slaves domain memory slave (.motor .input slot .id))
    frameFlags := (readField slaves domain memory slave (.motor .input slot .frameFlags)).getD 0 0
    len := (readField slaves domain memory slave (.motor .input slot .dlc)).getD 0 0
    data := Vector.ofFn fun byte => (readField slaves domain memory slave (.motor .input slot (.data byte))).getD 0 0 }

structure RawFrame where
  motorNum : UInt8
  canIde : UInt8
  motor : Nat → MotorPackMsg

def rawPacket (config : SlaveConfig) (raw : RawFrame) : Option Packet :=
  if isCanFd config then some ⟨0, (List.range (motorSlots config)).map fun slot => ⟨raw.motor slot, []⟩⟩
  else if config.format = .classicCan8Bus ∨ config.format = .classicCan2Bus then
    some ⟨raw.motorNum, (List.range (motorSlots config)).map fun slot => ⟨raw.motor slot, []⟩⟩
  else none

def readRaw (memory : Nat → UInt8) (slave : Nat) : RawFrame :=
  { motorNum := (readField slaves domain memory slave (.motorNum .input)).getD 0 0
    canIde := (readField slaves domain memory slave (.canIde .input)).getD 0 0
    motor := readMotor slaves domain memory slave }

def decodeRaw (raw : Nat → RawFrame) : MotorMessages :=
  decodeInputs (slaves.map configureSlave) (slaves.zipIdx.map fun slave => rawPacket (configureSlave slave.1) (raw slave.2)) slaves.length

def readInputs (memory : Nat → UInt8) : MotorMessages := decodeRaw slaves (readRaw slaves domain memory)

def rawBytes (raw : RawFrame) : Field → List UInt8
  | .motorNum _ => [raw.motorNum]
  | .canIde _ => [raw.canIde]
  | .motor _ slot part => partBytes (raw.motor slot) part

def deliver (memory : Nat → UInt8) (raw : Nat → RawFrame) : Nat → UInt8 :=
  Regions.storeAll memory (sideWrites slaves domain .input fun _ slave field => rawBytes (raw slave) field)

end Cycle

def Field.side : Field → Side
  | .motorNum side => side
  | .canIde side => side
  | .motor side _ _ => side

variable (config : SlaveConfig)

theorem side_fields (side : Side) (field : Field) :
    field ∈ sideFields config side ↔ Belongs config field ∧ field.side = side := by
  have slots (slot : Nat) (part : Part) (other : Side) :
      Field.motor other slot part ∈ (List.range (motorSlots config)).flatMap (slotFields side) ↔ slot < motorSlots config ∧ other = side := by
    simp only [List.mem_flatMap, List.mem_range, slotFields, List.mem_map, part_complete, true_and, Field.motor.injEq]
    constructor
    · rintro ⟨other, inside, part, rfl, rfl, rfl⟩
      exact ⟨inside, rfl⟩
    · rintro ⟨inside, rfl⟩
      exact ⟨slot, inside, part, rfl, rfl, rfl⟩
  have header (field : Field) (plain : ∀ side slot part, field ≠ .motor side slot part) :
      field ∉ (List.range (motorSlots config)).flatMap (slotFields side) := by
    simp only [List.mem_flatMap, slotFields, List.mem_map, not_exists, not_and]
    exact fun slot _ part _ same => plain side slot part same.symm
  rw [sideFields, List.mem_append]
  cases field with
  | motorNum other | canIde other =>
    rw [or_iff_left (header _ fun _ _ _ same => Field.noConfusion same)]
    cases canFd : isCanFd config <;> simp [Belongs, Field.side, canFd]
  | motor other slot part =>
    rw [slots]
    cases canFd : isCanFd config <;> simp [Belongs, Field.side]

theorem part_bytes_length (motor : MotorPackMsg) (part : Part) : (partBytes motor part).length = part.width := by
  cases part <;> rfl

theorem field_bytes_length (buffer : List UInt8) (field : Field) :
    (fieldBytes config buffer field).length = field.width := by
  cases field with
  | motorNum side | canIde side => rfl
  | motor side slot part => exact part_bytes_length _ part

theorem output_value_length (buffer : Option (List UInt8)) (field : Field) :
    (outputValue config buffer field).length = field.width := by
  cases buffer with
  | none => exact List.length_replicate
  | some bytes =>
    rw [outputValue]
    split
    · exact List.length_replicate
    · exact field_bytes_length config bytes field

theorem raw_bytes_length (raw : RawFrame) (field : Field) : (rawBytes raw field).length = field.width := by
  cases field with
  | motorNum side | canIde side => rfl
  | motor side slot part => exact part_bytes_length _ part

def Distinct (slaves : List (Option Nat)) : Prop :=
  ∀ first ∈ configureDomainEntries slaves, ∀ second ∈ configureDomainEntries slaves, first.triple = second.triple → first = second

structure Registrable (slaves : List (Option Nat)) : Prop where
  formats : ∀ outputBytes ∈ slaves, (configureSlave outputBytes).format ≠ .classicCan8Bus
  positions : ∀ (first second : Nat) (firstBytes secondBytes : Option Nat), slaves[first]? = some firstBytes →
    slaves[second]? = some secondBytes → hasSupportedPdo (configureSlave firstBytes) = true →
      hasSupportedPdo (configureSlave secondBytes) = true → first % 65536 = second % 65536 → first = second

theorem triple_position (slave : Nat) (config : SlaveConfig) (field : Field) : (tripleOf slave config field).position = slave % 65536 := by
  cases field with
  | motorNum side | canIde side => rfl
  | motor side slot part =>
    rw [tripleOf]
    split <;> rfl

variable (slaves : List (Option Nat))

theorem registrable_distinct (registrable : Registrable slaves) : Distinct slaves := by
  intro first firstInside second secondInside same
  obtain ⟨slave, triple, field⟩ := first
  obtain ⟨otherSlave, otherTriple, otherField⟩ := second
  obtain ⟨outputBytes, located, supported, belongs, made⟩ := (domain_registered slaves _).mp firstInside
  obtain ⟨otherBytes, otherLocated, otherSupported, otherBelongs, otherMade⟩ := (domain_registered slaves _).mp secondInside
  dsimp only at located belongs made otherLocated otherBelongs otherMade same
  subst made otherMade
  have position := congrArg Triple.position same
  rw [triple_position, triple_position] at position
  obtain rfl := registrable.positions slave otherSlave outputBytes otherBytes located otherLocated supported otherSupported position
  obtain rfl : outputBytes = otherBytes := Option.some.inj (located.symm.trans otherLocated)
  have narrow := narrow_of_format outputBytes supported (registrable.formats outputBytes (List.mem_of_getElem? located))
  rw [triple_injective slave (configureSlave outputBytes) narrow field otherField belongs otherBelongs same]

theorem first_input (slave : Nat) (outputBytes : Option Nat) (located : slaves[slave]? = some outputBytes)
    (supported : hasSupportedPdo (configureSlave outputBytes) = true) :
    ∃ field, ⟨slave, ⟨slave % 65536, 0x6000, 1⟩, field⟩ ∈ configureDomainEntries slaves := by
  have formats := configured_cases outputBytes supported
  cases canFd : isCanFd (configureSlave outputBytes) with
  | false =>
    exact ⟨.motorNum .input, (domain_registered slaves _).mpr ⟨outputBytes, located, supported, canFd, rfl⟩⟩
  | true =>
    refine ⟨.motor .input 0 .id, (domain_registered slaves _).mpr ⟨outputBytes, located, supported, ?_, ?_⟩⟩
    · generalize configureSlave outputBytes = config at formats canFd
      simp only [List.mem_cons, List.not_mem_nil, or_false] at formats
      rcases formats with rfl | rfl | rfl | rfl | rfl | rfl <;> first | exact absurd canFd (by decide) | (show 0 < motorSlots _; decide)
    · simp [tripleOf, canFd, canFdIndex, Part.offset]

theorem wide_config (outputBytes : Option Nat) (wide : (configureSlave outputBytes).format = .classicCan8Bus) :
    configureSlave outputBytes = ⟨.classicCan8Bus, 8, 3, 340⟩ := by
  cases outputBytes with
  | none => cases wide
  | some bytes =>
    simp only [configureSlave, classifyOutputPdoSize] at wide ⊢
    split_ifs at wide ⊢ <;> first | (cases wide; done) | rfl

theorem distinct_registrable (distinct : Distinct slaves) : Registrable slaves where
  formats outputBytes inside wide := by
    obtain ⟨slave, located⟩ := List.mem_iff_getElem?.mp inside
    have config := wide_config outputBytes wide
    have registered (field : Field) (belongs : Belongs ⟨.classicCan8Bus, 8, 3, 340⟩ field) :
        ⟨slave, tripleOf slave ⟨.classicCan8Bus, 8, 3, 340⟩ field, field⟩ ∈ configureDomainEntries slaves := by
      refine (domain_registered slaves _).mpr ⟨outputBytes, located, ?_, ?_, ?_⟩
      · rw [config]
        decide
      · rw [config]
        exact belongs
      · rw [config]
    -- The flags of the last slot wrap around to the subindex of the motor count.
    have aliased := distinct _ (registered (.motorNum .output) rfl) _ (registered (.motor .output 23 .frameFlags) (by decide : 23 < 24)) rfl
    have field : Field.motorNum .output = .motor .output 23 .frameFlags := congrArg Registration.field aliased
    cases field
  positions first second firstBytes secondBytes firstLocated secondLocated firstSupported secondSupported same := by
    obtain ⟨firstField, firstInside⟩ := first_input slaves first firstBytes firstLocated firstSupported
    obtain ⟨secondField, secondInside⟩ := first_input slaves second secondBytes secondLocated secondSupported
    rw [← same] at secondInside
    exact congrArg Registration.slave (distinct _ firstInside _ secondInside rfl)

theorem part_bits (slot : Nat) (part : Part) : (if (slot * 11 + part.offset) % 11 = 0 then 32 else 8) = 8 * part.width := by
  cases part with
  | id => simp [Part.offset, Part.width]
  | frameFlags =>
    have inner : (slot * 11 + 1) % 11 ≠ 0 := by omega
    exact if_neg inner
  | dlc =>
    have inner : (slot * 11 + 2) % 11 ≠ 0 := by omega
    exact if_neg inner
  | data byte =>
    have bound := byte.isLt
    have inner : (slot * 11 + (3 + byte.val)) % 11 ≠ 0 := by omega
    exact if_neg inner

theorem field_mapped (slave : Nat) (config : SlaveConfig) (field : Field) (belongs : Belongs config field) :
    ∃ entry ∈ mappedEntries config field.side,
      (⟨slave % 65536, entry.index, entry.subindex⟩, entry.bitLength) = (tripleOf slave config field, 8 * field.width) := by
  cases canFd : isCanFd config with
  | true =>
    cases field with
    | motorNum side | canIde side => exact absurd (canFd.symm.trans belongs) (by decide)
    | motor side slot part =>
      have room : slot < config.busCount * config.motorsPerBus := can_fd_slots config canFd ▸ belongs
      have capacity : 0 < config.motorsPerBus := Nat.pos_of_ne_zero fun zero => by simp [zero] at room
      have motor := Nat.mod_lt slot capacity
      have offset := part_offset_lt part
      refine ⟨⟨canFdIndex config (slot / config.motorsPerBus) side, (slot % config.motorsPerBus * 11 + part.offset + 1) % 256,
        8 * part.width⟩, ?_, ?_⟩
      · rw [mappedEntries, if_pos canFd, List.mem_flatMap]
        refine ⟨slot / config.motorsPerBus, List.mem_range.mpr (Nat.div_lt_of_lt_mul (Nat.mul_comm .. ▸ room)), ?_⟩
        refine List.mem_map.mpr ⟨slot % config.motorsPerBus * 11 + part.offset, List.mem_range.mpr (by omega), ?_⟩
        rw [part_bits]
        rfl
      · have subindex : (slot % config.motorsPerBus * 11 + part.offset + 1) % 256 =
            ((1 + slot % config.motorsPerBus * 11) % 256 + part.offset) % 256 := by omega
        rw [tripleOf, if_pos canFd, subindex]
        rfl
  | false =>
    have entries (side : Side) : mappedEntries config side = makePdoEntries (classicIndex side) (motorSlots config) := by
      rw [mappedEntries, canFd, if_neg Bool.false_ne_true]
    rw [entries]
    cases field with
    | motorNum side => exact ⟨⟨classicIndex side, 1, 8⟩, List.mem_map.mpr ⟨0, List.mem_range.mpr (by omega), rfl⟩, rfl⟩
    | canIde side => exact ⟨⟨classicIndex side, 2, 8⟩, List.mem_map.mpr ⟨1, List.mem_range.mpr (by omega), rfl⟩, rfl⟩
    | motor side slot part =>
      simp only [Belongs] at belongs
      have offset := part_offset_lt part
      have behind : 2 ≤ 2 + (slot * 11 + part.offset) := Nat.le_add_right _ _
      refine ⟨⟨classicIndex side, (2 + (slot * 11 + part.offset) + 1) % 256, 8 * part.width⟩, ?_, ?_⟩
      · refine List.mem_map.mpr ⟨2 + (slot * 11 + part.offset), List.mem_range.mpr (by omega), ?_⟩
        simp only [behind, true_and, Nat.add_sub_cancel_left, part_bits, Field.side]
      · have subindex : (2 + (slot * 11 + part.offset) + 1) % 256 = ((3 + slot * 11) % 256 + part.offset) % 256 := by omega
        rw [tripleOf, canFd, if_neg Bool.false_ne_true, subindex]
        rfl

theorem registration_mapped (registration : Registration) (inside : registration ∈ configureDomainEntries slaves) :
    (registration.triple, 8 * registration.field.width) ∈ mappedTriples slaves := by
  obtain ⟨slave, triple, field⟩ := registration
  obtain ⟨outputBytes, located, supported, belongs, made⟩ := (domain_registered slaves _).mp inside
  dsimp only at located belongs made ⊢
  subst made
  simp only [mappedTriples, List.mem_flatMap, List.mem_zipIdx_iff_getElem?]
  refine ⟨(outputBytes, slave), located, ?_⟩
  rw [if_pos supported, List.mem_map]
  obtain ⟨entry, member, same⟩ := field_mapped slave (configureSlave outputBytes) field belongs
  refine ⟨entry, ?_, same⟩
  cases side : field.side with
  | output => exact List.mem_append_left _ (side ▸ member)
  | input => exact List.mem_append_right _ (side ▸ member)

section Law

variable (slaves : List (Option Nat)) (domain : Domain slaves) (distinct : Distinct slaves)

theorem offset_registered (registration : Registration) (inside : registration ∈ configureDomainEntries slaves) :
    offsetOf slaves domain registration.slave registration.field = domain.place registration.triple := by
  rw [offsetOf]
  cases found : (configureDomainEntries slaves).find? fun other => other.slave = registration.slave ∧ other.field = registration.field with
  | none =>
    have missing := List.find?_eq_none.mp found registration inside
    simp at missing
  | some other =>
    obtain ⟨outputBytes, located, _, _, triple⟩ := (domain_registered slaves _).mp inside
    obtain ⟨otherBytes, otherLocated, _, _, otherTriple⟩ := (domain_registered slaves _).mp (List.mem_of_find?_eq_some found)
    have agrees := List.find?_some found
    obtain ⟨slave, field⟩ := of_decide_eq_true agrees
    rw [slave] at otherLocated otherTriple
    obtain rfl : outputBytes = otherBytes := Option.some.inj (located.symm.trans otherLocated)
    dsimp only
    rw [triple, otherTriple, field]

include distinct

theorem fields_apart (first second : Registration) (firstInside : first ∈ configureDomainEntries slaves)
    (secondInside : second ∈ configureDomainEntries slaves) (different : first ≠ second) :
    Regions.Apart (offsetOf slaves domain first.slave first.field) first.field.width
      (offsetOf slaves domain second.slave second.field) second.field.width := by
  have apart := domain.apart _ (registration_mapped slaves first firstInside) _ (registration_mapped slaves second secondInside)
    fun same => different (distinct first firstInside second secondInside same)
  simp only [Nat.mul_div_cancel_left _ (by decide : 0 < 8)] at apart
  rw [offset_registered slaves domain first firstInside, offset_registered slaves domain second secondInside]
  exact apart

theorem side_stored (side : Side) (value : Option Nat → Nat → Field → List UInt8)
    (sized : ∀ outputBytes slave field, (value outputBytes slave field).length = field.width) (memory : Nat → UInt8) (slave : Nat)
    (outputBytes : Option Nat) (located : slaves[slave]? = some outputBytes) (supported : hasSupportedPdo (configureSlave outputBytes) = true)
    (field : Field) (belongs : Belongs (configureSlave outputBytes) field) (own : field.side = side) :
    readField slaves domain (Regions.storeAll memory (sideWrites slaves domain side value)) slave field = value outputBytes slave field := by
  have written : (offsetOf slaves domain slave field, value outputBytes slave field) ∈ sideWrites slaves domain side value := by
    simp only [sideWrites, List.mem_flatMap, List.mem_zipIdx_iff_getElem?]
    refine ⟨(outputBytes, slave), located, ?_⟩
    rw [if_pos supported]
    exact List.mem_map.mpr ⟨field, (side_fields _ side field).mpr ⟨belongs, own⟩, rfl⟩
  have registered := (domain_registered slaves ⟨slave, tripleOf slave (configureSlave outputBytes) field, field⟩).mpr
    ⟨outputBytes, located, supported, belongs, rfl⟩
  have stored := Regions.load_store_all memory _ _ written ?_
  · rw [sized] at stored
    exact stored
  · intro write inside
    simp only [sideWrites, List.mem_flatMap, List.mem_zipIdx_iff_getElem?] at inside
    obtain ⟨⟨otherBytes, other⟩, otherLocated, inside⟩ := inside
    split at inside
    · rename_i otherSupported
      obtain ⟨otherField, member, rfl⟩ := List.mem_map.mp inside
      obtain ⟨otherBelongs, _⟩ := (side_fields _ side otherField).mp member
      have otherRegistered := (domain_registered slaves ⟨other, tripleOf other (configureSlave otherBytes) otherField, otherField⟩).mpr
        ⟨otherBytes, otherLocated, otherSupported, otherBelongs, rfl⟩
      by_cases same : other = slave ∧ otherField = field
      · obtain ⟨rfl, rfl⟩ := same
        obtain rfl : otherBytes = outputBytes := Option.some.inj (otherLocated.symm.trans located)
        exact .inl rfl
      · refine .inr ?_
        rw [sized, sized]
        exact fields_apart slaves domain distinct _ _ otherRegistered registered fun equal =>
          same ⟨congrArg Registration.slave equal, congrArg Registration.field equal⟩
    · cases inside

end Law

theorem read_u32_back (value : UInt32) : readU32 (Codec.writeU32Le value) = value := Codec.join_split_u32 value

theorem unsupported_packet (outputBytes : Option Nat) (unsupported : hasSupportedPdo (configureSlave outputBytes) = false) (raw : RawFrame) :
    rawPacket (configureSlave outputBytes) raw = none := by
  have unnamed : (configureSlave outputBytes).format = .none := by
    cases outputBytes with
    | none => rfl
    | some bytes =>
      simp only [configureSlave, classifyOutputPdoSize] at unsupported ⊢
      split_ifs at unsupported ⊢ <;> first | (cases unsupported; done) | rfl
  simp [rawPacket, isCanFd, unnamed]

-- What an exchange with the slaves may rely on: no two fields share a triple,
-- every output field holds its own value after WriteOutputs, no write to another
-- field reaches a field, and ReadInputs decodes each slot from what its slave
-- put into the slot's fields.
structure Unaliased (slaves : List (Option Nat)) : Prop where
  distinct : Distinct slaves
  written : ∀ (domain : Domain slaves) (memory : Nat → UInt8) (frame : Frame) (slave : Nat) (outputBytes : Option Nat),
    slaves[slave]? = some outputBytes → hasSupportedPdo (configureSlave outputBytes) = true →
      ∀ field, Belongs (configureSlave outputBytes) field → field.side = .output →
        readField slaves domain (writeOutputs slaves domain memory frame) slave field =
          outputValue (configureSlave outputBytes) (frame.buffer slave) field
  own : ∀ (domain : Domain slaves) (memory : Nat → UInt8), ∀ first ∈ configureDomainEntries slaves,
    ∀ second ∈ configureDomainEntries slaves, first ≠ second → ∀ cells : List UInt8, cells.length = second.field.width →
      readField slaves domain (Regions.store memory (offsetOf slaves domain second.slave second.field) cells) first.slave first.field =
        readField slaves domain memory first.slave first.field
  decoded : ∀ (domain : Domain slaves) (memory : Nat → UInt8) (raw : Nat → RawFrame),
    readInputs slaves domain (deliver slaves domain memory raw) = decodeRaw slaves raw

theorem raw_delivered (domain : Domain slaves) (distinct : Distinct slaves) (memory : Nat → UInt8)
    (raw : Nat → RawFrame) (slave : Nat) (outputBytes : Option Nat) (located : slaves[slave]? = some outputBytes) :
    rawPacket (configureSlave outputBytes) (readRaw slaves domain (deliver slaves domain memory raw) slave) =
      rawPacket (configureSlave outputBytes) (raw slave) := by
  cases supported : hasSupportedPdo (configureSlave outputBytes) with
  | false => rw [unsupported_packet outputBytes supported, unsupported_packet outputBytes supported]
  | true =>
    have held (field : Field) (belongs : Belongs (configureSlave outputBytes) field) (own : field.side = .input) :
        readField slaves domain (deliver slaves domain memory raw) slave field = rawBytes (raw slave) field :=
      side_stored slaves domain distinct .input _ (fun _ slave field => raw_bytes_length (raw slave) field) memory slave outputBytes
        located supported field belongs own
    have slots : (List.range (motorSlots (configureSlave outputBytes))).map
        (fun slot => (⟨readMotor slaves domain (deliver slaves domain memory raw) slave slot, []⟩ : Slot)) =
          (List.range (motorSlots (configureSlave outputBytes))).map fun slot => ⟨(raw slave).motor slot, []⟩ := by
      refine List.map_congr_left fun slot inside => ?_
      have part (part : Part) := held (.motor .input slot part) (List.mem_range.mp inside) rfl
      have data : (Vector.ofFn fun byte => ((rawBytes (raw slave) (.motor .input slot (.data byte))).getD 0 0)) =
          ((raw slave).motor slot).data := by
        ext byte bound
        simp [rawBytes, partBytes]
      simp only [readMotor, part, data]
      simp only [rawBytes, partBytes, read_u32_back, List.getD_cons_zero]
    cases canFd : isCanFd (configureSlave outputBytes) with
    | true => simp only [rawPacket, canFd, if_true, readRaw, slots]
    | false =>
      have motorNum := held (.motorNum .input) canFd rfl
      simp only [rawPacket, canFd, Bool.false_eq_true, if_false, readRaw, slots, motorNum, rawBytes, List.getD_cons_zero]

theorem unaliased_iff (slaves : List (Option Nat)) : Unaliased slaves ↔ Registrable slaves := by
  refine ⟨fun unaliased => distinct_registrable slaves unaliased.distinct, ?_⟩
  intro registrable
  have distinct := registrable_distinct slaves registrable
  refine ⟨distinct, ?_, ?_, ?_⟩
  · intro domain memory frame slave outputBytes located supported field belongs own
    exact side_stored slaves domain distinct .output _ (fun _ _ field => output_value_length _ _ field) memory slave outputBytes located
      supported field belongs own
  · intro domain memory first firstInside second secondInside different cells sized
    have apart := fields_apart slaves domain distinct second first secondInside firstInside different.symm
    rw [← sized] at apart
    exact Regions.load_store_apart _ _ _ _ _ apart
  · intro domain memory raw
    rw [readInputs, decodeRaw, decodeRaw]
    congr 1
    refine List.map_congr_left fun slave inside => ?_
    exact raw_delivered slaves domain distinct memory raw slave.2 slave.1 (List.mem_zipIdx_iff_getElem?.mp inside)

-- The master that lays out the mapped entries of the slaves one behind the
-- other.
def packedDomain (slaves : List (Option Nat)) (distinct : ((mappedTriples slaves).map Prod.fst).Nodup) : Domain slaves where
  place := Regions.packed ((mappedTriples slaves).map fun entry => (entry.1, entry.2 / 8))
  apart first firstInside second secondInside different := by
    refine Regions.packed_apart _ ?_ (first.1, first.2 / 8) (second.1, second.2 / 8) ?_ ?_ different
    · rw [List.map_map]
      exact distinct
    · exact List.mem_map_of_mem (f := fun entry : Triple × Nat => (entry.1, entry.2 / 8)) firstInside
    · exact List.mem_map_of_mem (f := fun entry : Triple × Nat => (entry.1, entry.2 / 8)) secondInside

-- A classic slave of two buses and a CAN FD slave of three.
def twoSlaves : List (Option Nat) := [some 86, some 336]

theorem two_slaves_registrable : Registrable twoSlaves where
  formats := by decide
  positions := by
    intro first second firstBytes secondBytes firstLocated secondLocated _ _ same
    have firstBound : first < 2 := (List.getElem?_eq_some_iff.mp firstLocated).1
    have secondBound : second < 2 := (List.getElem?_eq_some_iff.mp secondLocated).1
    omega

-- In this order the outputs, from 0x7000 on, stand before the inputs, from 0x6000 on, as the slaves list them.
theorem two_slaves_mapped : ((mappedTriples twoSlaves).map Prod.fst).Nodup := by
  refine List.Nodup.of_map
    (fun triple : Triple => (triple.position * 2 ^ 16 + (triple.index + 0x9000) % 2 ^ 16) * 2 ^ 16 + triple.subindex) ?_
  have increasing : List.IsChain (· < ·) (((mappedTriples twoSlaves).map Prod.fst).map fun triple =>
      (triple.position * 2 ^ 16 + (triple.index + 0x9000) % 2 ^ 16) * 2 ^ 16 + triple.subindex) := by decide +kernel
  exact increasing.pairwise.imp Nat.ne_of_lt

def twoSlavesDomain : Domain twoSlaves := packedDomain twoSlaves two_slaves_mapped

def oneCommandBuffer : List UInt8 := [1, 0, 1, 2, 0, 0, 0, 8] ++ List.replicate 8 7 ++ List.replicate 70 0

theorem unaliased_two_slaves :
    readField twoSlaves twoSlavesDomain (writeOutputs twoSlaves twoSlavesDomain (fun _ => 0) [some oneCommandBuffer, none]) 0
        (.motor .output 0 .id) = [1, 2, 0, 0] ∧
      ∀ memory raw, readInputs twoSlaves twoSlavesDomain (deliver twoSlaves twoSlavesDomain memory raw) = decodeRaw twoSlaves raw := by
  have unaliased := (unaliased_iff twoSlaves).mpr two_slaves_registrable
  refine ⟨?_, unaliased.decoded twoSlavesDomain⟩
  rw [unaliased.written twoSlavesDomain (fun _ => 0) [some oneCommandBuffer, none] 0 (some 86) rfl (by decide) (.motor .output 0 .id)
    (by decide : 0 < 6) rfl]
  decide

theorem wide_slave_aliased : ¬Unaliased [some 338] := by
  intro unaliased
  exact (distinct_registrable _ unaliased.distinct).formats (some 338) (List.mem_singleton_self _) rfl

end EncosDriver.Igh
