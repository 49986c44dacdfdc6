import EncosDriver.Ethernet.Packet

set_option autoImplicit false

namespace EncosDriver.Ethernet

open Lib Message Relay Checksum

def between (data : List UInt8) (start stop : Nat) : List UInt8 := (data.drop start).take (stop - start)

structure Accepted (route : Route) (data : List UInt8) (version : UInt8) (header : Nat) (total length checksum : UInt16)
    (payload : List UInt8) : Prop where
  versionRead : readByte data 14 = .ok version
  fourth : version >>> 4 = 4
  headerLength : header = (version &&& 15).toNat * 4
  least : 20 ≤ header
  headerRead : ∃ bytes, slice data 14 header = .ok bytes ∧ finish (sum bytes 0) = 0
  totalRead : readWord data (14 + 2) = .ok total
  roomy : header + 8 ≤ total.toNat
  lengthRead : readWord data (14 + header + 4) = .ok length
  covers : length.toNat = total.toNat - header
  sourceRead : readWord data (14 + header) = .ok route.remotePort
  destinationRead : readWord data (14 + header + 2) = .ok route.localPort
  checksumRead : readWord data (14 + header + 6) = .ok checksum
  balanced : checksum ≠ 0 → ∃ segment addresses, slice data (14 + header) length.toNat = .ok segment ∧
    slice data (14 + 12) 8 = .ok addresses ∧ finish (sum segment (pseudoSum addresses length)) = 0
  payloadRead : slice data (14 + header + 8) (length.toNat - 8) = .ok payload

variable (route : Route)

theorem decode_datagram_accepted (data : List UInt8) (version : UInt8) (header : Nat)
    (versionRead : readByte data 14 = .ok version) (fourth : version >>> 4 = 4)
    (headerLength : header = (version &&& 15).toNat * 4) (least : 20 ≤ header) (long : 14 + header + 8 ≤ data.length)
    (headerRead : ∃ bytes, slice data 14 header = .ok bytes ∧ finish (sum bytes 0) = 0) :
    decodeDatagram route data header = .error .refused ∨
      ∃ total length checksum payload, Accepted route data version header total length checksum payload ∧
        decodeDatagram route data header = decodePayload payload := by
  have totalRead := read_word_inside data (14 + 2) (by omega)
  rw [decodeDatagram, totalRead, ok_bind]
  generalize word data[14 + 2] data[14 + 2 + 1] = total at *
  split
  · exact .inl rfl
  rename_i fits
  simp only [not_or, Nat.not_lt] at fits
  have lengthRead := read_word_inside data (14 + header + 4) (by omega)
  have sourceRead := read_word_inside data (14 + header) (by omega)
  have destinationRead := read_word_inside data (14 + header + 2) (by omega)
  rw [lengthRead, ok_bind, sourceRead, ok_bind, destinationRead, ok_bind]
  generalize word data[14 + header + 4] data[14 + header + 4 + 1] = length at *
  split
  · exact .inl rfl
  rename_i sized
  simp only [ne_eq, not_or, not_not, Nat.not_lt] at sized
  have checksumRead := read_word_inside data (14 + header + 6) (by omega)
  have segmentRead := slice_inside data (14 + header) length.toNat (by omega)
  have addressesRead := slice_inside data (14 + 12) 8 (by omega)
  rw [checksumRead, ok_bind, segmentRead, ok_bind, addressesRead, ok_bind]
  generalize word data[14 + header + 6] data[14 + header + 6 + 1] = checksum at *
  split
  · exact .inl rfl
  rename_i passes
  have payloadRead := slice_inside data (14 + header + 8) (length.toNat - 8) (by omega)
  rw [payloadRead, ok_bind]
  refine .inr ⟨total, length, checksum, _, ?_, rfl⟩
  exact
    { versionRead, fourth, headerLength, least, headerRead, totalRead, lengthRead, checksumRead, payloadRead
      roomy := fits.1
      covers := sized.2.1
      sourceRead := sourceRead.trans (congrArg Except.ok sized.2.2.1)
      destinationRead := destinationRead.trans (congrArg Except.ok sized.2.2.2)
      balanced := fun present => ⟨_, _, segmentRead, addressesRead, not_not.mp fun wrong => passes ⟨present, wrong⟩⟩ }

theorem decode_packet_accepted (data : List UInt8) :
    decodePacket route data = .error .refused ∨
      ∃ version header total length checksum payload, Accepted route data version header total length checksum payload ∧
        decodePacket route data = decodePayload payload := by
  rw [decodePacket]
  split
  · exact .inl rfl
  rename_i long
  rw [slice_inside data 0 6 (by omega), ok_bind, slice_inside data 6 6 (by omega), ok_bind,
    read_word_inside data 12 (by omega), ok_bind]
  split
  · exact .inl rfl
  have versionRead := read_byte_inside data 14 (by omega)
  rw [versionRead, ok_bind]
  generalize data[14] = version at *
  generalize headerLength : (version &&& 15).toNat * 4 = header
  dsimp only
  split
  · exact .inl rfl
  rename_i headed
  simp only [ne_eq, not_or, not_not, Nat.not_lt] at headed
  have headerRead := slice_inside data 14 header (by omega)
  rw [read_byte_inside data (14 + 9) (by omega), ok_bind, read_word_inside data (14 + 6) (by omega), ok_bind,
    headerRead, ok_bind, slice_inside data (14 + 12) 4 (by omega), ok_bind, slice_inside data (14 + 16) 4 (by omega), ok_bind]
  split
  · exact .inl rfl
  rename_i checked
  simp only [ne_eq, not_or, not_not] at checked
  rcases decode_datagram_accepted route data version header versionRead headed.1 headerLength.symm headed.2.1 headed.2.2
    ⟨_, headerRead, checked.2.2.1⟩ with refused | ⟨total, length, checksum, payload, accepted, decoded⟩
  · exact .inl refused
  · exact .inr ⟨version, header, total, length, checksum, payload, accepted, decoded⟩

theorem slice_between (data bytes : List UInt8) (offset count : Nat) (read : slice data offset count = .ok bytes) :
    offset + count ≤ data.length ∧ bytes = between data offset (offset + count) := by
  unfold slice at read
  split at read
  · rename_i inside
    cases read
    exact ⟨inside, by rw [between, Nat.add_sub_cancel_left]⟩
  · cases read

def octet (data : List UInt8) (offset : Nat) : Nat := (data.getD offset 0).toNat

def octets (data : List UInt8) (offset : Nat) : Nat := octet data offset * 256 + octet data (offset + 1)

-- Where the payload of a packet lies by the packet's own lengths: behind the
-- IPv4 header of the length it states and the UDP header, up to the IPv4 total
-- length, which is where the UDP length ends too.
structure PayloadAt (data : List UInt8) (start stop : Nat) : Prop where
  least : 5 ≤ octet data 14 % 16
  headers : start = 14 + 4 * (octet data 14 % 16) + 8
  total : stop = 14 + octets data 16
  udpLength : stop + 8 = start + octets data (start - 4)
  ordered : start ≤ stop
  inside : stop ≤ data.length

theorem read_byte_octet (data : List UInt8) (offset : Nat) (byte : UInt8) (read : readByte data offset = .ok byte) :
    octet data offset = byte.toNat := by
  unfold readByte at read
  split at read
  · next found =>
      cases read
      rw [octet, List.getD_eq_getElem?_getD, found]
      rfl
  · cases read

theorem read_word_octets (data : List UInt8) (offset : Nat) (value : UInt16) (read : readWord data offset = .ok value) :
    octets data offset = value.toNat := by
  unfold readWord at read
  cases high : readByte data offset with
  | error fault => simp [high, bind, Except.bind] at read
  | ok first =>
    cases low : readByte data (offset + 1) with
    | error fault => simp [high, low, bind, Except.bind] at read
    | ok second =>
      rw [high, low, ok_bind, ok_bind] at read
      cases read
      rw [octets, read_byte_octet data offset first high, read_byte_octet data _ second low, word_value]

theorem decode_packet_cases (data : List UInt8) :
    decodePacket route data = .error .refused ∨
      ∃ start stop, PayloadAt data start stop ∧ decodePacket route data = decodePayload (between data start stop) := by
  rcases decode_packet_accepted route data with refused | ⟨version, header, total, length, checksum, payload, accepted, decoded⟩
  · exact .inl refused
  · obtain ⟨inside, same⟩ := slice_between data payload _ _ accepted.payloadRead
    have least := accepted.least
    have covers := accepted.covers
    have roomy := accepted.roomy
    have headerLength : header = 4 * (octet data 14 % 16) := by
      have masked : (version &&& 15).toNat = version.toNat % 16 := Nat.and_two_pow_sub_one_eq_mod _ 4
      rw [read_byte_octet data 14 version accepted.versionRead, accepted.headerLength, masked, Nat.mul_comm]
    have totalRead := read_word_octets data (14 + 2) total accepted.totalRead
    have lengthRead := read_word_octets data (14 + header + 4) length accepted.lengthRead
    have field : 14 + header + 8 - 4 = 14 + header + 4 := by omega
    refine .inr ⟨14 + header + 8, _, ⟨by omega, by rw [headerLength], ?_, ?_, by omega, inside⟩, by rw [decoded, same]⟩
    · rw [totalRead]
      omega
    · rw [field, lengthRead]
      omega

theorem decode_payload_cases (payload : List UInt8) :
    decodePayload payload = .error .refused ∨
      ∃ frames reserved, decodePayload payload = .ok (frames.flatMap RelayFrame.records) ∧
        reserved.length = frames.length ∧ payload = (List.zipWith frameBytes frames reserved).flatten ∧
        ∀ frame ∈ frames, frame.type = .helperToRelay ∧ ∀ record ∈ frame.records, valid record = true := by
  rw [decodePayload]
  split
  · exact .inl rfl
  rcases decode_frames_forth payload with refused | ⟨frames, reserved, decoded, counted, -, bytes⟩
  · rw [refused]
    exact .inl rfl
  · rw [decoded, ok_bind]
    cases ran : frames.foldlM appendFrame [] with
    | error fault =>
      cases fault with
      | pastEnd => exact absurd ran (append_frames_fault frames [])
      | refused => exact .inl rfl
    | ok messages =>
      obtain ⟨joined, types, records⟩ := append_frames_ok frames [] messages ran
      refine .inr ⟨frames, reserved, congrArg Except.ok (by simpa using joined), counted, bytes, ?_⟩
      exact fun frame inside => ⟨types frame inside, records frame inside⟩

theorem slice_joined (front middle back : List UInt8) (offset count : Nat) (placed : front.length = offset)
    (sized : middle.length = count) : slice (front ++ middle ++ back) offset count = .ok middle := by
  subst placed sized
  rw [slice_inside _ _ _ (by simp only [List.length_append]; omega), List.append_assoc, List.drop_left, List.take_left]

theorem read_word_joined (front back : List UInt8) (value : UInt16) (offset : Nat) (placed : front.length = offset) :
    readWord (front ++ writeWord value ++ back) offset = .ok value := by
  subst placed
  have high : readByte (front ++ writeWord value ++ back) front.length = .ok (value >>> 8).toUInt8 := by
    simp [readByte, writeWord]
  have low : readByte (front ++ writeWord value ++ back) (front.length + 1) = .ok value.toUInt8 := by
    simp [readByte, writeWord]
  rw [readWord, high, low, ok_bind, ok_bind, word_write]
  rfl

@[simp] theorem write_word_length (value : UInt16) : (writeWord value).length = 2 := rfl

@[simp] theorem ethernet_header_length : (ethernetHeader route).length = 14 := by simp [ethernetHeader]

@[simp] theorem ip_header_length (size : Nat) (checksum : UInt16) : (ipHeader route size checksum).length = 20 := by
  simp [ipHeader]

@[simp] theorem udp_segment_length (payload : List UInt8) (checksum : UInt16) :
    (udpSegment route payload checksum).length = 8 + payload.length := by
  simp only [udpSegment, List.length_append, write_word_length]

theorem total_field (front back : List UInt8) (value : UInt16) (even : front.length % 2 = 0) :
    total (front ++ writeWord value ++ back) = total front + value.toNat + total back := by
  rw [List.append_assoc, total_append front _ even, total_write, Nat.add_assoc]

theorem ip_header_total (size : Nat) (checksum : UInt16) :
    total (ipHeader route size checksum) = total (ipHeader route size 0) + checksum.toNat := by
  have filled (value : UInt16) := total_field
    ([0x45, 0] ++ writeWord (UInt16.ofNat (28 + size)) ++ [0, 0] ++ writeWord 0x4000 ++ [64, 17])
    (route.localIp.toList ++ route.remoteIp.toList) value (by simp)
  have zero : (0 : UInt16).toNat = 0 := rfl
  rw [ipHeader, filled checksum, ipHeader, filled 0, zero]
  omega

theorem udp_segment_total (payload : List UInt8) (checksum : UInt16) :
    total (udpSegment route payload checksum) = total (udpSegment route payload 0) + checksum.toNat := by
  have filled (value : UInt16) := total_field
    (writeWord route.localPort ++ writeWord route.remotePort ++ writeWord (UInt16.ofNat (8 + payload.length)))
    payload value (by simp)
  have zero : (0 : UInt16).toNat = 0 := rfl
  rw [udpSegment, filled checksum, udpSegment, filled 0, zero]
  omega

theorem ip_checksum_passes (size : Nat) : finish (sum (ipHeader route size (ipChecksum route size)) 0) = 0 := by
  have zero : (0 : UInt32).toNat = 0 := rfl
  have value (checksum : UInt16) : (sum (ipHeader route size checksum) 0).toNat = total (ipHeader route size checksum) := by
    have bound := total_bound (ipHeader route size checksum)
    rw [ip_header_length] at bound
    rw [sum_value _ _ (by rw [zero]; omega), zero, Nat.zero_add]
  have version : 0 < total (ipHeader route size 0) := by
    simp only [ipHeader, List.cons_append, List.nil_append, total]
    have first : (0x45 : UInt8).toNat = 69 := rfl
    omega
  have balanced := finish_complement (sum (ipHeader route size 0) 0)
  rw [value 0] at balanced
  have filled := ip_header_total route size (ipChecksum route size)
  apply finish_zero
  · rw [value]
    omega
  · rw [value, filled]
    exact balanced

theorem datagram_sum_value (addresses segment : List UInt8) (length : UInt16) (eight : addresses.length = 8)
    (short : segment.length ≤ 8 + kMaxPayloadBytes) :
    (sum segment (pseudoSum addresses length)).toNat = total addresses + 17 + length.toNat + total segment := by
  have limit : kMaxPayloadBytes = 1448 := rfl
  have lengthBound := length.toNat_lt
  have addressBound := total_bound addresses
  have segmentBound := total_bound segment
  have halves : (segment.length + 1) / 2 * 65535 ≤ 728 * 65535 := Nat.mul_le_mul_right _ (by omega)
  rw [eight] at addressBound
  have zero : (0 : UInt32).toNat = 0 := rfl
  have protocol : (17 : UInt32).toNat = 17 := rfl
  have pseudo : (pseudoSum addresses length).toNat = total addresses + 17 + length.toNat := by
    rw [pseudoSum, UInt32.toNat_add, UInt32.toNat_add, sum_value _ _ (by rw [zero]; omega), zero, protocol,
      UInt16.toNat_toUInt32]
    omega
  rw [sum_value _ _ (by rw [pseudo]; omega), pseudo]

theorem udp_checksum_passes (payload : List UInt8) (short : payload.length ≤ kMaxPayloadBytes) :
    finish (sum (udpSegment route payload (if udpChecksum route payload ≠ 0 then udpChecksum route payload else 0xFFFF))
      (pseudoSum (route.localIp.toList ++ route.remoteIp.toList) (UInt16.ofNat (8 + payload.length)))) = 0 := by
  have value (checksum : UInt16) := datagram_sum_value (route.localIp.toList ++ route.remoteIp.toList)
    (udpSegment route payload checksum) (UInt16.ofNat (8 + payload.length)) (by simp)
    (by rw [udp_segment_length]; omega)
  have balanced := finish_complement (sum (udpSegment route payload 0)
    (pseudoSum (route.localIp.toList ++ route.remoteIp.toList) (UInt16.ofNat (8 + payload.length))))
  have unfolded : finish (sum (udpSegment route payload 0)
    (pseudoSum (route.localIp.toList ++ route.remoteIp.toList) (UInt16.ofNat (8 + payload.length)))) = udpChecksum route payload := rfl
  rw [unfolded, value 0] at balanced
  apply finish_zero
  · rw [value]
    omega
  · rw [value, udp_segment_total]
    split
    · omega
    · rename_i zero
      have other : (0xFFFF : UInt16).toNat = 65535 := rfl
      have none : (udpChecksum route payload).toNat = 0 := by
        rw [not_not.mp zero]
        rfl
      omega

def layout (route : Route) (payload : List UInt8) (ipSum udpSum : UInt16) : List UInt8 :=
  ethernetHeader route ++ ipHeader route payload.length ipSum ++ udpSegment route payload udpSum

section Fields

variable (route : Route) (payload : List UInt8) (ipSum udpSum : UInt16)

theorem layout_length : (layout route payload ipSum udpSum).length = 42 + payload.length := by
  simp only [layout, List.length_append, ethernet_header_length, ip_header_length, udp_segment_length]
  omega

theorem layout_destination : slice (layout route payload ipSum udpSum) 0 6 = .ok route.remoteMac.toList := by
  have read := slice_joined [] route.remoteMac.toList (route.localMac.toList ++ writeWord 0x0800 ++
    ipHeader route payload.length ipSum ++ udpSegment route payload udpSum) 0 6 rfl (by simp)
  rw [← read]
  simp only [layout, ethernetHeader, List.append_assoc, List.nil_append]

theorem layout_source : slice (layout route payload ipSum udpSum) 6 6 = .ok route.localMac.toList := by
  have read := slice_joined route.remoteMac.toList route.localMac.toList (writeWord 0x0800 ++
    ipHeader route payload.length ipSum ++ udpSegment route payload udpSum) 6 6 (by simp) (by simp)
  rw [← read]
  simp only [layout, ethernetHeader, List.append_assoc]

theorem layout_ether_type : readWord (layout route payload ipSum udpSum) 12 = .ok 0x0800 := by
  have read := read_word_joined (route.remoteMac.toList ++ route.localMac.toList)
    (ipHeader route payload.length ipSum ++ udpSegment route payload udpSum) 0x0800 12 (by simp)
  rw [← read]
  simp only [layout, ethernetHeader, List.append_assoc]

theorem layout_version : readByte (layout route payload ipSum udpSum) 14 = .ok 0x45 := by
  rw [layout, List.append_assoc, readByte, List.getElem?_append_right (by simp), ethernet_header_length]
  rfl

theorem layout_protocol : readByte (layout route payload ipSum udpSum) (14 + 9) = .ok 17 := by
  rw [layout, List.append_assoc, readByte, List.getElem?_append_right (by simp), ethernet_header_length]
  rfl

theorem layout_fragment : readWord (layout route payload ipSum udpSum) (14 + 6) = .ok 0x4000 := by
  have read := read_word_joined (ethernetHeader route ++ [0x45, 0] ++ writeWord (UInt16.ofNat (28 + payload.length)) ++ [0, 0])
    ([64, 17] ++ writeWord ipSum ++ (route.localIp.toList ++ route.remoteIp.toList) ++ udpSegment route payload udpSum)
    0x4000 (14 + 6) (by simp)
  rw [← read]
  simp only [layout, ipHeader, List.append_assoc]

theorem layout_header : slice (layout route payload ipSum udpSum) 14 20 = .ok (ipHeader route payload.length ipSum) :=
  slice_joined (ethernetHeader route) (ipHeader route payload.length ipSum) (udpSegment route payload udpSum) 14 20
    (by simp) (by simp)

theorem layout_source_ip : slice (layout route payload ipSum udpSum) (14 + 12) 4 = .ok route.localIp.toList := by
  have read := slice_joined (ethernetHeader route ++ ([0x45, 0] ++ writeWord (UInt16.ofNat (28 + payload.length)) ++
      [0, 0] ++ writeWord 0x4000 ++ [64, 17] ++ writeWord ipSum)) route.localIp.toList
    (route.remoteIp.toList ++ udpSegment route payload udpSum) (14 + 12) 4 (by simp) (by simp)
  rw [← read]
  simp only [layout, ipHeader, List.append_assoc]

theorem layout_destination_ip : slice (layout route payload ipSum udpSum) (14 + 16) 4 = .ok route.remoteIp.toList := by
  have read := slice_joined (ethernetHeader route ++ ([0x45, 0] ++ writeWord (UInt16.ofNat (28 + payload.length)) ++
      [0, 0] ++ writeWord 0x4000 ++ [64, 17] ++ writeWord ipSum ++ route.localIp.toList)) route.remoteIp.toList
    (udpSegment route payload udpSum) (14 + 16) 4 (by simp) (by simp)
  rw [← read]
  simp only [layout, ipHeader, List.append_assoc]

theorem layout_addresses :
    slice (layout route payload ipSum udpSum) (14 + 12) 8 = .ok (route.localIp.toList ++ route.remoteIp.toList) := by
  have read := slice_joined (ethernetHeader route ++ ([0x45, 0] ++ writeWord (UInt16.ofNat (28 + payload.length)) ++
      [0, 0] ++ writeWord 0x4000 ++ [64, 17] ++ writeWord ipSum)) (route.localIp.toList ++ route.remoteIp.toList)
    (udpSegment route payload udpSum) (14 + 12) 8 (by simp) (by simp)
  rw [← read]
  simp only [layout, ipHeader, List.append_assoc]

theorem layout_total :
    readWord (layout route payload ipSum udpSum) (14 + 2) = .ok (UInt16.ofNat (28 + payload.length)) := by
  have read := read_word_joined (ethernetHeader route ++ [0x45, 0])
    ([0, 0] ++ writeWord 0x4000 ++ [64, 17] ++ writeWord ipSum ++ (route.localIp.toList ++ route.remoteIp.toList) ++
      udpSegment route payload udpSum) (UInt16.ofNat (28 + payload.length)) (14 + 2) (by simp)
  rw [← read]
  simp only [layout, ipHeader, List.append_assoc]

theorem layout_source_port : readWord (layout route payload ipSum udpSum) (14 + 20) = .ok route.localPort := by
  have read := read_word_joined (ethernetHeader route ++ ipHeader route payload.length ipSum)
    (writeWord route.remotePort ++ writeWord (UInt16.ofNat (8 + payload.length)) ++ writeWord udpSum ++ payload)
    route.localPort (14 + 20) (by simp)
  rw [← read]
  simp only [layout, udpSegment, List.append_assoc]

theorem layout_destination_port : readWord (layout route payload ipSum udpSum) (14 + 20 + 2) = .ok route.remotePort := by
  have read := read_word_joined (ethernetHeader route ++ ipHeader route payload.length ipSum ++ writeWord route.localPort)
    (writeWord (UInt16.ofNat (8 + payload.length)) ++ writeWord udpSum ++ payload) route.remotePort (14 + 20 + 2) (by simp)
  rw [← read]
  simp only [layout, udpSegment, List.append_assoc]

theorem layout_udp_length :
    readWord (layout route payload ipSum udpSum) (14 + 20 + 4) = .ok (UInt16.ofNat (8 + payload.length)) := by
  have read := read_word_joined (ethernetHeader route ++ ipHeader route payload.length ipSum ++
      (writeWord route.localPort ++ writeWord route.remotePort)) (writeWord udpSum ++ payload)
    (UInt16.ofNat (8 + payload.length)) (14 + 20 + 4) (by simp)
  rw [← read]
  simp only [layout, udpSegment, List.append_assoc]

theorem layout_checksum : readWord (layout route payload ipSum udpSum) (14 + 20 + 6) = .ok udpSum := by
  have read := read_word_joined (ethernetHeader route ++ ipHeader route payload.length ipSum ++
      (writeWord route.localPort ++ writeWord route.remotePort ++ writeWord (UInt16.ofNat (8 + payload.length))))
    payload udpSum (14 + 20 + 6) (by simp)
  rw [← read]
  simp only [layout, udpSegment, List.append_assoc]

theorem layout_segment :
    slice (layout route payload ipSum udpSum) (14 + 20) (8 + payload.length) = .ok (udpSegment route payload udpSum) := by
  have read := slice_joined (ethernetHeader route ++ ipHeader route payload.length ipSum) (udpSegment route payload udpSum) []
    (14 + 20) (8 + payload.length) (by simp) (udp_segment_length route payload udpSum)
  rw [← read, List.append_nil, layout]

theorem layout_payload : slice (layout route payload ipSum udpSum) (14 + 20 + 8) payload.length = .ok payload := by
  have read := slice_joined (ethernetHeader route ++ ipHeader route payload.length ipSum ++
      (writeWord route.localPort ++ writeWord route.remotePort ++ writeWord (UInt16.ofNat (8 + payload.length)) ++
        writeWord udpSum)) payload [] (14 + 20 + 8) payload.length (by simp) rfl
  rw [← read, List.append_nil]
  simp only [layout, udpSegment, List.append_assoc]

end Fields

theorem word_of_length (length : Nat) (short : length ≤ 28 + kMaxPayloadBytes) : (UInt16.ofNat length).toNat = length := by
  have limit : kMaxPayloadBytes = 1448 := rfl
  have size : UInt16.size = 65536 := rfl
  exact UInt16.toNat_ofNat_of_lt' (by omega)

theorem decode_datagram_layout (payload : List UInt8) (ipSum udpSum : UInt16) (short : payload.length ≤ kMaxPayloadBytes)
    (body : finish (sum (udpSegment route payload udpSum)
      (pseudoSum (route.localIp.toList ++ route.remoteIp.toList) (UInt16.ofNat (8 + payload.length)))) = 0) :
    decodeDatagram route.swapped (layout route payload ipSum udpSum) 20 = decodePayload payload := by
  have whole := layout_length route payload ipSum udpSum
  have totalValue := word_of_length (28 + payload.length) (by omega)
  have lengthValue := word_of_length (8 + payload.length) (by omega)
  have fits : ¬ ((UInt16.ofNat (28 + payload.length)).toNat < 20 + 8 ∨
      (layout route payload ipSum udpSum).length < 14 + (UInt16.ofNat (28 + payload.length)).toNat) := by omega
  have addressed : ¬ ((UInt16.ofNat (8 + payload.length)).toNat < 8 ∨
      (UInt16.ofNat (8 + payload.length)).toNat ≠ (UInt16.ofNat (28 + payload.length)).toNat - 20 ∨
      route.localPort ≠ route.swapped.remotePort ∨ route.remotePort ≠ route.swapped.localPort) := by
    have source : route.swapped.remotePort = route.localPort := rfl
    have destination : route.swapped.localPort = route.remotePort := rfl
    rw [source, destination]
    simp only [ne_eq, not_true_eq_false, or_false]
    omega
  have passes : ¬ (udpSum ≠ 0 ∧ finish (sum (udpSegment route payload udpSum)
      (pseudoSum (route.localIp.toList ++ route.remoteIp.toList) (UInt16.ofNat (8 + payload.length)))) ≠ 0) := by
    rw [body]
    simp
  rw [decodeDatagram, layout_total, ok_bind, if_neg fits, layout_udp_length, ok_bind, layout_source_port, ok_bind,
    layout_destination_port, ok_bind, if_neg addressed, layout_checksum, ok_bind, lengthValue, layout_segment, ok_bind,
    layout_addresses, ok_bind, if_neg passes, Nat.add_sub_cancel_left, layout_payload, ok_bind]

theorem decode_encode_packet (payload packet : List UInt8) (sent : encodePacket route payload = some packet) :
    decodePacket route.swapped packet = decodePayload payload := by
  unfold encodePacket at sent
  split at sent
  · cases sent
  rename_i short
  have same : packet = layout route payload (ipChecksum route payload.length)
      (if udpChecksum route payload ≠ 0 then udpChecksum route payload else 0xFFFF) := (Option.some.inj sent).symm
  have fits : payload.length ≤ kMaxPayloadBytes := Nat.le_of_not_lt short
  have passes := ip_checksum_passes route payload.length
  have body := udp_checksum_passes route payload fits
  subst same
  generalize (if udpChecksum route payload ≠ 0 then udpChecksum route payload else 0xFFFF) = udpSum at *
  generalize ipChecksum route payload.length = ipSum at *
  have whole := layout_length route payload ipSum udpSum
  have long : ¬ (layout route payload ipSum udpSum).length < 42 := by omega
  have addressed : ¬ (route.remoteMac.toList ≠ route.swapped.localMac.toList ∨
      route.localMac.toList ≠ route.swapped.remoteMac.toList ∨ (0x0800 : UInt16) ≠ 0x0800) := by
    simp [Route.swapped]
  have words : ((0x45 : UInt8) &&& 15).toNat * 4 = 20 := rfl
  have headed : ¬ ((0x45 : UInt8) >>> 4 ≠ 4 ∨ 20 < 20 ∨ (layout route payload ipSum udpSum).length < 14 + 20 + 8) := by
    have version : (0x45 : UInt8) >>> 4 = 4 := rfl
    rw [version]
    simp only [ne_eq, not_true_eq_false, false_or]
    omega
  have accepted : ¬ ((17 : UInt8) ≠ 17 ∨ (0x4000 : UInt16) &&& 0x3FFF ≠ 0 ∨
      finish (sum (ipHeader route payload.length ipSum) 0) ≠ 0 ∨ route.localIp.toList ≠ route.swapped.remoteIp.toList ∨
      route.remoteIp.toList ≠ route.swapped.localIp.toList) := by
    have fragment : (0x4000 : UInt16) &&& 0x3FFF = 0 := rfl
    rw [passes, fragment]
    simp [Route.swapped]
  rw [decodePacket, if_neg long, layout_destination, ok_bind, layout_source, ok_bind, layout_ether_type, ok_bind,
    if_neg addressed, layout_version, ok_bind]
  dsimp only
  rw [words, if_neg headed, layout_protocol, ok_bind, layout_fragment, ok_bind, layout_header, ok_bind, layout_source_ip,
    ok_bind, layout_destination_ip, ok_bind, if_neg accepted]
  exact decode_datagram_layout route payload ipSum udpSum fits body

theorem payload_of_encodable (type : RelayFrameType) (messages : MotorMessages) (accepted : encodable messages = true) :
    decodeRelayFrames (encodeRelayFrames type messages) = .ok [⟨type, messages⟩] ∧
      (encodeRelayFrames type messages).length = 8 + messages.length * 18 := by
  have few : messages.length ≤ kMaxPayloadMessages := by
    simp only [encodable, Bool.and_eq_true, decide_eq_true_eq] at accepted
    exact accepted.1
  have bounded : messages.length ≤ kMaxRecordsPerFrame := Nat.le_trans few (by decide)
  have single := sent_frames_single ⟨type, messages⟩ bounded
  refine ⟨?_, ?_⟩
  · rw [decode_encode_relay type messages (encodable_lengths messages accepted)]
    exact congrArg Except.ok single
  · rw [encode_relay_bytes, single, List.flatMap_cons, List.flatMap_nil, List.append_nil, frameBytes, List.length_append,
      header_length, records_length]
    rfl

theorem payload_size (type : RelayFrameType) (messages : MotorMessages) (accepted : encodable messages = true) :
    8 ≤ (encodeRelayFrames type messages).length ∧ (encodeRelayFrames type messages).length ≤ kMaxPayloadBytes := by
  obtain ⟨-, sized⟩ := payload_of_encodable type messages accepted
  have few : messages.length ≤ kMaxPayloadMessages := by
    simp only [encodable, Bool.and_eq_true, decide_eq_true_eq] at accepted
    exact accepted.1
  have most : kMaxPayloadMessages = 80 := rfl
  have limit : kMaxPayloadBytes = 1448 := rfl
  omega

theorem decode_payload_encodable (type : RelayFrameType) (messages : MotorMessages) (accepted : encodable messages = true) :
    decodePayload (encodeRelayFrames type messages) =
      if type = .helperToRelay then .ok messages else .error .refused := by
  obtain ⟨decoded, -⟩ := payload_of_encodable type messages accepted
  obtain ⟨long, short⟩ := payload_size type messages accepted
  simp only [encodable, Bool.and_eq_true, decide_eq_true_eq] at accepted
  have sized : ¬ ((encodeRelayFrames type messages).length < 8 ∨
      (encodeRelayFrames type messages).length > kMaxPayloadBytes) := by omega
  rw [decodePayload, if_neg sized, decoded, ok_bind, List.foldlM_cons, appendFrame]
  cases type with
  | relayToHelper => rfl
  | helperToRelay =>
    have fits : ¬ (RelayFrameType.helperToRelay ≠ .helperToRelay ∨
        ([] : MotorMessages).length + messages.length > kMaxPayloadMessages ∨ ¬ messages.all valid = true) := by
      simp only [ne_eq, not_true_eq_false, false_or, List.length_nil, Nat.zero_add, not_or, Nat.not_lt, not_not]
      exact accepted
    rw [if_neg fits]
    rfl

theorem encode_packet_accepts (payload : List UInt8) (short : payload.length ≤ kMaxPayloadBytes) :
    ∃ packet, encodePacket route payload = some packet :=
  ⟨_, if_neg (Nat.not_lt.mpr short)⟩

/-- The other end decodes a packet to what its payload holds, and no packet at all makes the decoder leave
its bytes or return a part of the records between the UDP header and the total length. -/
theorem packet_codec :
    (∀ route payload packet, encodePacket route payload = some packet →
      decodePacket route.swapped packet = decodePayload payload) ∧
    (∀ route messages, encodable messages = true →
      (∃ packet, encodePacket route (encodeRelayFrames .helperToRelay messages) = some packet ∧
        decodePacket route.swapped packet = .ok messages) ∧
      ∃ payload packet, encodePayload messages = some payload ∧ encodePacket route payload = some packet ∧
        decodePacket route.swapped packet = .error .refused) ∧
    ∀ route data, decodePacket route data = .error .refused ∨
      ∃ start stop frames reserved, PayloadAt data start stop ∧
        reserved.length = frames.length ∧ between data start stop = (List.zipWith frameBytes frames reserved).flatten ∧
        (∀ frame ∈ frames, frame.type = .helperToRelay ∧ ∀ record ∈ frame.records, valid record = true) ∧
        decodePacket route data = .ok (frames.flatMap RelayFrame.records) := by
  refine ⟨decode_encode_packet, ?_, ?_⟩
  · intro route messages accepted
    refine ⟨?_, ?_⟩
    · obtain ⟨packet, sent⟩ := encode_packet_accepts route (encodeRelayFrames .helperToRelay messages)
        (payload_size .helperToRelay messages accepted).2
      refine ⟨packet, sent, ?_⟩
      rw [decode_encode_packet route _ packet sent, decode_payload_encodable .helperToRelay messages accepted]
      rfl
    · obtain ⟨packet, sent⟩ := encode_packet_accepts route (encodeRelayFrames .relayToHelper messages)
        (payload_size .relayToHelper messages accepted).2
      refine ⟨_, packet, if_pos accepted, sent, ?_⟩
      rw [decode_encode_packet route _ packet sent, decode_payload_encodable .relayToHelper messages accepted]
      rfl
  · intro route data
    rcases decode_packet_cases route data with refused | ⟨start, stop, placed, decoded⟩
    · exact .inl refused
    · rcases decode_payload_cases (between data start stop) with refused | ⟨frames, reserved, records, counted, bytes, shaped⟩
      · exact .inl (decoded.trans refused)
      · exact .inr ⟨start, stop, frames, reserved, placed, counted, bytes, shaped, decoded.trans records⟩

def sampleRoute : Route where
  localMac := #v[2, 0, 0, 0, 0, 1]
  remoteMac := #v[2, 0, 0, 0, 0, 2]
  localIp := #v[192, 168, 1, 10]
  remoteIp := #v[192, 168, 1, 20]
  localPort := 6000
  remotePort := 6001

def sampleMessage : MotorMessage := ⟨3, ⟨0x141, 0, 2, payload [0x9C, 0x10]⟩⟩

theorem packet_codec_sample :
    ∃ packet, encodePacket sampleRoute (encodeRelayFrames .helperToRelay [sampleMessage]) = some packet ∧
      decodePacket sampleRoute.swapped packet = .ok [sampleMessage] ∧ ∃ start stop, PayloadAt packet start stop := by
  obtain ⟨packet, sent, decoded⟩ := (packet_codec.2.1 sampleRoute [sampleMessage] (by decide)).1
  refine ⟨packet, sent, decoded, ?_⟩
  rcases packet_codec.2.2 sampleRoute.swapped packet with refused | ⟨start, stop, _, _, placed, _⟩
  · cases decoded.symm.trans refused
  · exact ⟨start, stop, placed⟩

/-- The host's own payload comes back as nothing: the decoder expects the gateway's direction. -/
theorem host_payload_refused :
    ¬ ∀ route messages payload packet, encodePayload messages = some payload → encodePacket route payload = some packet →
      decodePacket route.swapped packet = .ok messages := by
  intro returned
  obtain ⟨packet, sent⟩ := encode_packet_accepts sampleRoute (encodeRelayFrames .relayToHelper [])
    (payload_size .relayToHelper [] (by decide)).2
  have accepted := returned sampleRoute [] (encodeRelayFrames .relayToHelper []) packet (if_pos (by decide)) sent
  rw [decode_encode_packet _ _ _ sent, decode_payload_encodable .relayToHelper [] (by decide)] at accepted
  cases accepted

end EncosDriver.Ethernet
