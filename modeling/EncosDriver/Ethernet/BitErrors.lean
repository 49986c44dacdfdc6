import EncosDriver.Ethernet.PacketRoundTrip

set_option autoImplicit false

namespace EncosDriver.Ethernet

open Lib Message Relay Checksum

def flipBit (data : List UInt8) (index bit : Nat) : List UInt8 :=
  data.modify index fun byte => byte ^^^ ((1 : UInt8) <<< UInt8.ofNat bit)

theorem flip_differs (byte : UInt8) (bit : Nat) (small : bit < 8) : byte ^^^ ((1 : UInt8) <<< UInt8.ofNat bit) ≠ byte := by
  have mask : (1 : UInt8) <<< UInt8.ofNat bit ≠ 0 := by
    interval_cases bit <;> decide
  intro same
  refine mask ?_
  have cancelled := congrArg (byte ^^^ ·) same
  simpa [← UInt8.xor_assoc] using cancelled

theorem flip_set (data : List UInt8) (index bit : Nat) (inside : index < data.length) :
    flipBit data index bit = data.set index (data[index] ^^^ ((1 : UInt8) <<< UInt8.ofNat bit)) := by
  rw [flipBit, List.modify_eq_set, List.getElem?_eq_getElem inside, Option.getD_some]

section Changes

variable (data : List UInt8) (index : Nat) (byte : UInt8)

theorem read_byte_elsewhere (offset : Nat) (elsewhere : index ≠ offset) :
    readByte (data.set index byte) offset = readByte data offset := by
  rw [readByte, readByte, List.getElem?_set_ne elsewhere]

theorem read_byte_changed (inside : index < data.length) : readByte (data.set index byte) index = .ok byte := by
  rw [readByte, List.getElem?_set_self inside]

theorem read_word_elsewhere (offset : Nat) (elsewhere : index < offset ∨ offset + 1 < index) :
    readWord (data.set index byte) offset = readWord data offset := by
  rw [readWord, readWord, read_byte_elsewhere data index byte offset (by omega),
    read_byte_elsewhere data index byte (offset + 1) (by omega)]

theorem slice_elsewhere (offset count : Nat) (elsewhere : index < offset ∨ offset + count ≤ index) :
    slice (data.set index byte) offset count = slice data offset count := by
  unfold slice
  rw [List.length_set]
  split
  · congr 1
    refine List.ext_getElem? fun position => ?_
    simp only [List.getElem?_take, List.getElem?_drop]
    split
    · rw [List.getElem?_set_ne (by omega)]
    · rfl
  · rfl

theorem slice_changed (offset count : Nat) (bytes : List UInt8) (read : slice data offset count = .ok bytes)
    (within : offset ≤ index ∧ index < offset + count) :
    slice (data.set index byte) offset count = .ok (bytes.set (index - offset) byte) := by
  unfold slice at read ⊢
  rw [List.length_set]
  split at read
  · rename_i inside
    cases read
    rw [if_pos inside]
    congr 1
    refine List.ext_getElem? fun position => ?_
    simp only [List.getElem?_take, List.getElem?_drop, List.getElem?_set, List.length_take, List.length_drop]
    grind
  · cases read

end Changes

theorem header_sum_value (bytes : List UInt8) (short : bytes.length ≤ 60) : (sum bytes 0).toNat = total bytes := by
  have zero : (0 : UInt32).toNat = 0 := rfl
  have bound := total_bound bytes
  have halves : (bytes.length + 1) / 2 * 65535 ≤ 30 * 65535 := Nat.mul_le_mul_right _ (by omega)
  rw [sum_value _ _ (by rw [zero]; omega), zero, Nat.zero_add]

section Packets

variable (route : Route) (payload : List UInt8) (ipSum udpSum : UInt16) (index : Nat) (byte : UInt8)

theorem accepted_header (behind : 14 < index) (version : UInt8) (header : Nat) (total length checksum : UInt16)
    (found : List UInt8) (accepted : Accepted route.swapped ((layout route payload ipSum udpSum).set index byte) version header
      total length checksum found) : header = 20 := by
  have read := accepted.versionRead
  rw [read_byte_elsewhere _ _ _ _ (by omega), layout_version] at read
  cases read
  exact accepted.headerLength

theorem header_change_refused (passes : finish (sum (ipHeader route payload.length ipSum) 0) = 0)
    (behind : 14 < index) (before : index < 34) (inside : index < (layout route payload ipSum udpSum).length)
    (differs : byte ≠ (layout route payload ipSum udpSum)[index]) :
    decodePacket route.swapped ((layout route payload ipSum udpSum).set index byte) = .error .refused := by
  rcases decode_packet_accepted route.swapped ((layout route payload ipSum udpSum).set index byte) with
    refused | ⟨version, header, total, length, checksum, found, accepted, _⟩
  · exact refused
  exfalso
  have twenty := accepted_header route payload ipSum udpSum index byte behind _ _ _ _ _ _ accepted
  subst twenty
  obtain ⟨bytes, read, balanced⟩ := accepted.headerRead
  rw [slice_changed _ _ _ 14 20 _ (layout_header route payload ipSum udpSum) (by omega)] at read
  cases read
  have fits : index - 14 < (ipHeader route payload.length ipSum).length := by
    rw [ip_header_length]
    omega
  have same : (layout route payload ipSum udpSum)[index] = (ipHeader route payload.length ipSum)[index - 14] := by
    simp only [layout]
    rw [List.getElem_append_left (by simp; omega), List.getElem_append_right (by simp; omega)]
    simp only [ethernet_header_length]
  obtain ⟨change, positive, small, moved⟩ := total_set (ipHeader route payload.length ipSum) (index - 14) byte fits
    (same ▸ differs)
  have before' := finish_zero_divides _ passes
  have after := finish_zero_divides _ balanced
  rw [header_sum_value _ (by rw [ip_header_length]; omega)] at before'
  rw [header_sum_value _ (by rw [List.length_set, ip_header_length]; omega)] at after
  exact sums_apart _ _ change positive small moved before' after

theorem datagram_change (short : payload.length ≤ kMaxPayloadBytes)
    (passes : finish (sum (udpSegment route payload udpSum)
      (pseudoSum (route.localIp.toList ++ route.remoteIp.toList) (UInt16.ofNat (8 + payload.length)))) = 0)
    (present : udpSum ≠ 0) (behind : 34 ≤ index) (inside : index < (layout route payload ipSum udpSum).length)
    (differs : byte ≠ (layout route payload ipSum udpSum)[index]) :
    decodePacket route.swapped ((layout route payload ipSum udpSum).set index byte) = .error .refused ∨
      decodePacket route.swapped ((layout route payload ipSum udpSum).set index byte) = decodePayload payload := by
  rcases decode_packet_accepted route.swapped ((layout route payload ipSum udpSum).set index byte) with
    refused | ⟨version, header, total, length, checksum, found, accepted, decoded⟩
  · exact .inl refused
  have whole := layout_length route payload ipSum udpSum
  have twenty := accepted_header route payload ipSum udpSum index byte (by omega) _ _ _ _ _ _ accepted
  subst twenty
  have totalRead := accepted.totalRead
  rw [read_word_elsewhere _ _ _ _ (by omega), layout_total] at totalRead
  cases totalRead
  have totalValue := word_of_length (28 + payload.length) (by omega)
  have lengthValue := word_of_length (8 + payload.length) (by omega)
  have lengthSame : length = UInt16.ofNat (8 + payload.length) := by
    refine UInt16.toNat_inj.mp ?_
    rw [accepted.covers, totalValue, lengthValue]
    omega
  subst lengthSame
  by_cases unchecked : checksum = 0
  · subst unchecked
    have field : index = 40 ∨ index = 41 := by
      by_contra elsewhere
      have read := accepted.checksumRead
      rw [read_word_elsewhere _ _ _ _ (by omega), layout_checksum] at read
      exact present (Except.ok.inj read)
    have read := accepted.payloadRead
    rw [slice_elsewhere _ _ _ _ _ (by omega), lengthValue, Nat.add_sub_cancel_left, layout_payload] at read
    cases read
    exact .inr decoded
  · exfalso
    obtain ⟨segment, addresses, segmentRead, addressesRead, balanced⟩ := accepted.balanced unchecked
    rw [lengthValue, slice_changed _ _ _ (14 + 20) _ _ (layout_segment route payload ipSum udpSum) (by omega)] at segmentRead
    rw [slice_elsewhere _ _ _ _ _ (by omega), layout_addresses] at addressesRead
    cases segmentRead
    cases addressesRead
    have fits : index - (14 + 20) < (udpSegment route payload udpSum).length := by
      rw [udp_segment_length]
      omega
    have same : (layout route payload ipSum udpSum)[index] = (udpSegment route payload udpSum)[index - (14 + 20)] := by
      simp only [layout]
      rw [List.getElem_append_right (by simp; omega)]
      simp only [List.length_append, ethernet_header_length, ip_header_length]
    obtain ⟨change, positive, small, moved⟩ := total_set (udpSegment route payload udpSum) (index - (14 + 20)) byte fits
      (same ▸ differs)
    have before := finish_zero_divides _ passes
    have after := finish_zero_divides _ balanced
    rw [datagram_sum_value _ _ _ (by simp) (by rw [udp_segment_length]; omega)] at before
    rw [datagram_sum_value _ _ _ (by simp) (by rw [List.length_set, udp_segment_length]; omega)] at after
    exact sums_apart _ _ change positive small (by omega) before after

end Packets

theorem decode_frames_inversion (bytes : List UInt8) (frames : List RelayFrame)
    (decoded : decodeRelayFrames bytes = .ok frames) :
    bytes = [] ∧ frames = [] ∨ ∃ frame others reserved rest, frames = frame :: others ∧
      bytes = frameBytes frame reserved ++ rest ∧ decodeRelayFrames rest = .ok others := by
  by_cases empty : bytes = []
  · subst empty
    rw [decodeRelayFrames, if_pos rfl] at decoded
    exact .inl ⟨rfl, (Except.ok.inj decoded).symm⟩
  · right
    cases first : decodeFrame bytes with
    | error fault =>
      rw [decode_frames_fault bytes fault empty first] at decoded
      cases decoded
    | ok result =>
      obtain ⟨frame, rest⟩ := result
      rw [decode_frames_step bytes rest frame first] at decoded
      cases others : decodeRelayFrames rest with
      | error fault =>
        rw [others] at decoded
        cases decoded
      | ok others' =>
        rw [others] at decoded
        obtain ⟨reserved, consumed, -, -⟩ := decode_frame_forth bytes rest frame first
        exact ⟨frame, others', reserved, rest, (Except.ok.inj decoded).symm, consumed, others⟩

def AllValid (frames : List RelayFrame) : Prop := ∀ frame ∈ frames, ∀ record ∈ frame.records, valid record = true

theorem small_bus_byte (bus : Int32) (inside : 0 ≤ bus ∧ bus < 8) : (bus.toUInt32 &&& 0xFF).toUInt8 < 8 := by
  have every : ∀ small : Fin 8, ((Int32.ofInt small.val).toUInt32 &&& 0xFF).toUInt8 < 8 := by decide
  have low := Int32.le_iff_toInt_le.mp inside.1
  have high := Int32.lt_iff_toInt_lt.mp inside.2
  have zero : (0 : Int32).toInt = 0 := rfl
  have eight : (8 : Int32).toInt = 8 := rfl
  have counted := every ⟨bus.toInt.toNat, by omega⟩
  dsimp only at counted
  rwa [Int.toNat_of_nonneg (by omega), Int32.ofInt_toInt] at counted

variable (record : MotorMessage)

theorem record_first (accepted : valid record = true) (rest : List UInt8) :
    ∃ byte : UInt8, (writeRecord record ++ rest)[0]? = some byte ∧ byte < 8 := by
  simp only [valid, Bool.and_eq_true, decide_eq_true_eq] at accepted
  refine ⟨(record.busIdx.toUInt32 &&& 0xFF).toUInt8, ?_, small_bus_byte record.busIdx accepted.1.1.1.1.1⟩
  simp [writeRecord, Codec.i32Le, Codec.writeU32Le]

theorem record_flags (accepted : valid record = true) (rest : List UInt8) :
    ∃ byte : UInt8, (writeRecord record ++ rest)[8]? = some byte ∧ byte &&& 0xF0 = 0 := by
  refine ⟨record.data.frameFlags, ?_, ?_⟩
  · simp [writeRecord, Codec.i32Le, Codec.u32Le, Codec.u8, Codec.writeU32Le, Codec.writeU8]
  · simp only [valid, Bool.and_eq_true, decide_eq_true_eq] at accepted
    exact accepted.1.1.1.2

structure Boundary (bytes : List UInt8) (records : MotorMessages) (rest : List UInt8) (frames : List RelayFrame) : Prop where
  bytes : bytes = records.flatMap writeRecord ++ rest
  records : ∀ record ∈ records, valid record = true
  decoded : decodeRelayFrames rest = .ok frames
  frames : AllValid frames

theorem boundary_first (bytes rest : List UInt8) (records : MotorMessages) (frames : List RelayFrame)
    (boundary : Boundary bytes records rest frames) : bytes[0]? ≠ some 0x52 := by
  obtain ⟨same, valids, decoded, _⟩ := boundary
  subst same
  cases records with
  | cons record more =>
    obtain ⟨byte, here, small⟩ := record_first record (valids record List.mem_cons_self) (more.flatMap writeRecord ++ rest)
    rw [List.flatMap_cons, List.append_assoc, here]
    rintro ⟨⟩
    exact absurd small (by decide)
  | nil =>
    rcases decode_frames_inversion rest frames decoded with ⟨empty, _⟩ | ⟨frame, _, reserved, following, _, made, _⟩
    · subst empty
      nofun
    · subst made
      simp [frameBytes, writeHeader, Codec.writeAll, Codec.u8, Codec.writeU8, kMagic]

theorem header_drop (frame : RelayFrame) (reserved : UInt16) (rest : List UInt8) (index : Nat) :
    (frameBytes frame reserved ++ rest)[8 + index]? = (frame.records.flatMap writeRecord ++ rest)[index]? := by
  have eight := header_length frame.type frame.records.length reserved
  have size : kHeaderSize = 8 := rfl
  rw [frameBytes, List.append_assoc, List.getElem?_append_right (by omega), eight, size, Nat.add_sub_cancel_left]

theorem record_drop (more : MotorMessages) (rest : List UInt8) (index : Nat) :
    ((record :: more).flatMap writeRecord ++ rest)[18 + index]? = (more.flatMap writeRecord ++ rest)[index]? := by
  have eighteen := write_record_length record
  have size : kRecordSize = 18 := rfl
  rw [List.flatMap_cons, List.append_assoc, List.getElem?_append_right (by omega), eighteen, size, Nat.add_sub_cancel_left]

theorem no_magic_behind_record (m : Nat) (few : m ≤ 3) (record : MotorMessage) (more : MotorMessages) (rest : List UInt8)
    (frames : List RelayFrame) (valids : ∀ other ∈ record :: more, valid other = true)
    (decoded : decodeRelayFrames rest = .ok frames) (legal : AllValid frames)
    (first : ((record :: more).flatMap writeRecord ++ rest)[8 * m]? = some 0x45)
    (third : ((record :: more).flatMap writeRecord ++ rest)[8 * m + 2]? = some 0x52) : False := by
  have following : Boundary (more.flatMap writeRecord ++ rest) more rest frames :=
    ⟨rfl, fun other inside => valids other (List.mem_cons_of_mem _ inside), decoded, legal⟩
  have accepted := valids record List.mem_cons_self
  match m, few with
  | 0, _ =>
    obtain ⟨byte, here, small⟩ := record_first record accepted (more.flatMap writeRecord ++ rest)
    rw [List.flatMap_cons, List.append_assoc, here] at first
    cases first
    exact absurd small (by decide)
  | 1, _ =>
    obtain ⟨byte, here, low⟩ := record_flags record accepted (more.flatMap writeRecord ++ rest)
    rw [List.flatMap_cons, List.append_assoc, here] at first
    cases first
    exact absurd low (by decide)
  | 2, _ =>
    rw [show 8 * 2 + 2 = 18 + 0 from rfl, record_drop] at third
    exact boundary_first _ _ _ _ following third
  | 3, _ =>
    rw [show 8 * 3 + 2 = 18 + 8 from rfl, record_drop] at third
    cases more with
    | cons second others =>
      obtain ⟨byte, here, low⟩ := record_flags second (following.records second List.mem_cons_self)
        (others.flatMap writeRecord ++ rest)
      rw [List.flatMap_cons, List.append_assoc, here] at third
      cases third
      exact absurd low (by decide)
    | nil =>
      rcases decode_frames_inversion rest frames decoded with ⟨empty, _⟩ | ⟨frame, others, reserved, behind, made, bytes, last⟩
      · subst empty
        cases third
      · subst made bytes
        rw [List.flatMap_nil, List.nil_append, show 8 = 8 + 0 from rfl, header_drop] at third
        exact boundary_first _ behind frame.records others
          ⟨rfl, legal frame List.mem_cons_self, last, fun other inside => legal other (List.mem_cons_of_mem _ inside)⟩ third

theorem aligned_frames (m : Nat) (few : m ≤ 4) (bytes : List UInt8) (frames : List RelayFrame)
    (decoded : decodeRelayFrames bytes = .ok frames) (legal : AllValid frames) (first : bytes[8 * m]? = some 0x45)
    (third : bytes[8 * m + 2]? = some 0x52) :
    ∃ front others, frames = front ++ others ∧ (∀ frame ∈ front, frame.records = []) ∧
      decodeRelayFrames (bytes.drop (8 * m)) = .ok others := by
  induction m generalizing bytes frames with
  | zero => exact ⟨[], frames, rfl, nofun, decoded⟩
  | succ m ih =>
    rcases decode_frames_inversion bytes frames decoded with ⟨empty, _⟩ | ⟨frame, others, reserved, rest, made, same, last⟩
    · subst empty
      cases first
    · subst made same
      have laterLegal : AllValid others := fun other inside => legal other (List.mem_cons_of_mem _ inside)
      rw [show 8 * (m + 1) = 8 + 8 * m by omega, header_drop] at first
      rw [show 8 * (m + 1) + 2 = 8 + (8 * m + 2) by omega, header_drop] at third
      cases records : frame.records with
      | cons record more =>
        rw [records] at first third
        exact absurd (no_magic_behind_record m (by omega) record more rest others
          (fun other inside => legal frame List.mem_cons_self other (records ▸ inside)) last laterLegal first third) not_false
      | nil =>
        rw [records, List.flatMap_nil, List.nil_append] at first third
        obtain ⟨front, behind, joined, empties, following⟩ := ih (by omega) rest others last laterLegal first third
        refine ⟨frame :: front, behind, by rw [joined, List.cons_append], ?_, ?_⟩
        · intro other inside
          rcases List.mem_cons.mp inside with same | inside
          · exact same ▸ records
          · exact empties other inside
        · have behindHeader : (writeHeader frame.type 0 reserved ++ rest).drop 8 = rest := List.drop_left' (header_length ..)
          rw [frameBytes, records, List.flatMap_nil, List.append_nil, List.length_nil,
            show 8 * (m + 1) = 8 + 8 * m by omega, ← List.drop_drop, behindHeader]
          exact following

theorem empty_frames_skipped (front others : List RelayFrame) (messages : MotorMessages)
    (empties : ∀ frame ∈ front, frame.records = []) (appended : (front ++ others).foldlM appendFrame [] = .ok messages) :
    others.foldlM appendFrame [] = .ok messages := by
  induction front with
  | nil => exact appended
  | cons frame front ih =>
    rw [List.cons_append, List.foldlM_cons] at appended
    obtain ⟨between, first, rest⟩ := (bind_ok _ _ _).mp appended
    unfold appendFrame at first
    split at first
    · cases first
    · cases first
      rw [empties frame List.mem_cons_self, List.append_nil] at rest
      exact ih (fun other inside => empties other (List.mem_cons_of_mem _ inside)) rest

theorem dropped_payload (m : Nat) (few : m ≤ 4) (payload : List UInt8) (messages : MotorMessages)
    (accepted : decodePayload payload = .ok messages) :
    decodePayload (payload.drop (8 * m)) = .error .refused ∨ decodePayload (payload.drop (8 * m)) = .ok messages := by
  rcases decode_payload_cases (payload.drop (8 * m)) with refused | ⟨_, _, shorter, _, _, _⟩
  · exact .inl refused
  unfold decodePayload at accepted shorter
  split at accepted
  · cases accepted
  split at shorter
  · cases shorter
  rename_i long
  obtain ⟨frames, decoded, appended⟩ := (bind_ok _ _ _).mp accepted
  obtain ⟨laterFrames, laterDecoded, _⟩ := (bind_ok _ _ _).mp shorter
  have legal : AllValid frames := (append_frames_ok frames [] messages appended).2.2
  rcases decode_frames_inversion _ _ laterDecoded with ⟨empty, _⟩ | ⟨frame, _, reserved, rest, _, bytes, _⟩
  · rw [empty] at long
    exact absurd (.inl (by decide)) long
  · have magic : (payload.drop (8 * m))[0]? = some 0x45 ∧ (payload.drop (8 * m))[2]? = some 0x52 := by
      rw [bytes]
      simp [frameBytes, writeHeader, Codec.writeAll, Codec.u8, Codec.writeU8, kMagic]
    rw [List.getElem?_drop, List.getElem?_drop, Nat.add_zero] at magic
    obtain ⟨front, others, joined, empties, following⟩ := aligned_frames m few payload frames decoded legal magic.1 magic.2
    right
    rw [decodePayload, if_neg long, following, ok_bind]
    exact empty_frames_skipped front others messages empties (joined ▸ appended)

section FirstByte

variable (route : Route) (payload : List UInt8) (ipSum udpSum : UInt16)

theorem layout_drop (count : Nat) : (layout route payload ipSum udpSum).drop (42 + count) = payload.drop count := by
  have front : (ethernetHeader route ++ ipHeader route payload.length ipSum ++ (writeWord route.localPort ++
      writeWord route.remotePort ++ writeWord (UInt16.ofNat (8 + payload.length)) ++ writeWord udpSum)).length = 42 := by simp
  have same : layout route payload ipSum udpSum = (ethernetHeader route ++ ipHeader route payload.length ipSum ++
      (writeWord route.localPort ++ writeWord route.remotePort ++ writeWord (UInt16.ofNat (8 + payload.length)) ++
        writeWord udpSum)) ++ payload := by
    simp only [layout, udpSegment, List.append_assoc]
  rw [same, ← List.drop_drop, ← front, List.drop_left]

theorem first_byte_change (short : payload.length ≤ kMaxPayloadBytes) (byte : UInt8) :
    decodePacket route.swapped ((layout route payload ipSum udpSum).set 14 byte) = .error .refused ∨
      byte >>> 4 = 4 ∧ 20 ≤ (byte &&& 15).toNat * 4 ∧
        decodePacket route.swapped ((layout route payload ipSum udpSum).set 14 byte) =
          decodePayload (payload.drop ((byte &&& 15).toNat * 4 - 20)) := by
  rcases decode_packet_accepted route.swapped ((layout route payload ipSum udpSum).set 14 byte) with
    refused | ⟨version, header, total, length, checksum, found, accepted, decoded⟩
  · exact .inl refused
  right
  have whole := layout_length route payload ipSum udpSum
  have versionRead := accepted.versionRead
  rw [read_byte_changed _ _ _ (by omega)] at versionRead
  cases versionRead
  have totalRead := accepted.totalRead
  rw [read_word_elsewhere _ _ _ _ (by omega), layout_total] at totalRead
  cases totalRead
  have totalValue := word_of_length (28 + payload.length) (by omega)
  have roomy := accepted.roomy
  have covers := accepted.covers
  have least := accepted.least
  rw [totalValue] at roomy covers
  obtain ⟨inside, same⟩ := slice_between _ _ _ _ accepted.payloadRead
  have located : found = payload.drop (header - 20) := by
    have counted : 14 + header + 8 + (length.toNat - 8) - (14 + header + 8) = payload.length - (header - 20) := by omega
    have placed : 14 + header + 8 = 42 + (header - 20) := by omega
    rw [same, between, counted, placed, List.drop_set_of_lt (by omega), layout_drop, List.take_of_length_le]
    rw [List.length_drop]
  have size := accepted.headerLength
  subst size
  exact ⟨accepted.fourth, least, by rw [decoded, located]⟩

end FirstByte

def flippedVersion (bit : Nat) : UInt8 := (0x45 : UInt8) ^^^ ((1 : UInt8) <<< UInt8.ofNat bit)

theorem flipped_version (bit : Nat) (small : bit < 8) (fourth : flippedVersion bit >>> 4 = 4)
    (least : 20 ≤ (flippedVersion bit &&& 15).toNat * 4) :
    (bit = 1 ∨ bit = 3) ∧ ∃ m, m ≤ 4 ∧ (flippedVersion bit &&& 15).toNat * 4 - 20 = 8 * m := by
  have longer : bit = 1 ∨ bit = 3 := by
    interval_cases bit <;> revert fourth least <;> decide
  refine ⟨longer, ?_⟩
  cases longer with
  | inl second => exact ⟨1, by decide, by rw [second]; decide⟩
  | inr fourth => exact ⟨4, by decide, by rw [fourth]; decide⟩

/-- One changed bit is noticed or does no harm; a bit that makes the IPv4 header longer may do harm only to a payload
that would have been refused. -/
theorem single_bit_detected (route : Route) (payload packet : List UInt8) (index bit : Nat)
    (sent : encodePacket route payload = some packet) (behind : 14 ≤ index) (inside : index < packet.length) (small : bit < 8)
    (kept : ¬ (index = 14 ∧ (bit = 1 ∨ bit = 3)) ∨ ∃ messages, decodePayload payload = .ok messages) :
    decodePacket route.swapped (flipBit packet index bit) = .error .refused ∨
      decodePacket route.swapped (flipBit packet index bit) = decodePayload payload := by
  unfold encodePacket at sent
  split at sent
  · cases sent
  rename_i short
  have fits : payload.length ≤ kMaxPayloadBytes := Nat.le_of_not_lt short
  have same : packet = layout route payload (ipChecksum route payload.length)
      (if udpChecksum route payload ≠ 0 then udpChecksum route payload else 0xFFFF) := (Option.some.inj sent).symm
  have header := ip_checksum_passes route payload.length
  have body := udp_checksum_passes route payload fits
  have present : (if udpChecksum route payload ≠ 0 then udpChecksum route payload else 0xFFFF) ≠ 0 := by
    split
    · assumption
    · decide
  subst same
  generalize (if udpChecksum route payload ≠ 0 then udpChecksum route payload else 0xFFFF) = udpSum at *
  generalize ipChecksum route payload.length = ipSum at *
  rw [flip_set _ _ _ inside]
  have differs := flip_differs (layout route payload ipSum udpSum)[index] bit small
  rcases Nat.lt_or_ge index 34 with before | datagram
  · rcases Nat.eq_or_lt_of_le behind with first | later
    · subst first
      have version : (layout route payload ipSum udpSum)[14] = 0x45 := by
        have read := layout_version route payload ipSum udpSum
        rw [read_byte_inside _ _ inside] at read
        exact Except.ok.inj read
      rw [version]
      rcases first_byte_change route payload ipSum udpSum fits (flippedVersion bit) with refused | ⟨fourth, least, decoded⟩
      · exact .inl refused
      obtain ⟨longer, m, few, offset⟩ := flipped_version bit small fourth least
      rcases kept with elsewhere | ⟨messages, original⟩
      · exact absurd ⟨rfl, longer⟩ elsewhere
      · have passed := dropped_payload m few payload messages original
        rw [← offset] at passed
        rw [original]
        exact passed.imp decoded.trans decoded.trans
    · exact .inl (header_change_refused route payload ipSum udpSum index _ header later before inside differs)
  · exact datagram_change route payload ipSum udpSum index _ fits body present datagram inside differs

theorem single_bit_detected_sample :
    ∃ packet, encodePacket sampleRoute (encodeRelayFrames .helperToRelay [sampleMessage]) = some packet ∧
      decodePayload (encodeRelayFrames .helperToRelay [sampleMessage]) = .ok [sampleMessage] ∧
        (decodePacket sampleRoute.swapped (flipBit packet 44 7) = .error .refused ∨
          decodePacket sampleRoute.swapped (flipBit packet 44 7) = .ok [sampleMessage]) := by
  obtain ⟨packet, sent⟩ := encode_packet_accepts sampleRoute (encodeRelayFrames .helperToRelay [sampleMessage]) (by decide +kernel)
  have long : (encodePacket sampleRoute (encodeRelayFrames .helperToRelay [sampleMessage])).any (44 < ·.length) = true := by
    decide +kernel
  rw [sent] at long
  have original : decodePayload (encodeRelayFrames .helperToRelay [sampleMessage]) = .ok [sampleMessage] := by decide +kernel
  have detected := single_bit_detected sampleRoute _ packet 44 7 sent (by decide) (of_decide_eq_true long) (by decide)
    (.inr ⟨_, original⟩)
  rw [original] at detected
  exact ⟨packet, sent, original, detected⟩

def nestedRoute : Route := { sampleRoute with localIp := #v[192, 168, 214, 200] }

def nestedPayload : List UInt8 :=
  [0x17, 0x70, 0x17, 0x71, 0, 34, 0, 0, 0x45, 0x4D, 0x52, 0x31, 2, 1, 0, 0, 3, 0, 0, 0, 0x41, 1, 0, 0, 0, 2, 0x9C, 0x10, 0,
    0, 0, 0, 0, 0]

/-- A flipped bit of the header length makes the rest of the payload a message, though the payload itself is none. -/
theorem header_length_bit_undetected :
    (encodePacket nestedRoute nestedPayload).map (fun packet => decodePacket nestedRoute.swapped (flipBit packet 14 1)) =
        some (.ok [sampleMessage]) ∧
      (encodePacket nestedRoute nestedPayload).map (fun packet => decodePacket nestedRoute.swapped packet) =
        some (.error .refused) ∧
      decodePayload nestedPayload = .error .refused := by
  refine ⟨?_, ?_, ?_⟩ <;> decide +kernel

end EncosDriver.Ethernet
