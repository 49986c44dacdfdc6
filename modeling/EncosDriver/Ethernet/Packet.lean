import EncosDriver.Lib.Checksum
import EncosDriver.Relay.Frame

set_option autoImplicit false

namespace EncosDriver.Ethernet

open Lib Message Checksum

section Payload

open Relay

def kMaxPayloadMessages : Nat := 80

def kMaxPayloadBytes : Nat := 1448

def valid (message : MotorMessage) : Bool :=
  message.busIdx ≥ 0 && message.busIdx < 8 && message.data.len ≤ 8 && message.data.frameFlags &&& 0xF0 = 0 &&
    message.data.id ≤ (if message.data.frameFlags &&& 1 ≠ 0 then 0x1FFFFFFF else 0x7FF) &&
    (message.data.frameFlags &&& 4 = 0 || message.data.frameFlags &&& 2 ≠ 0) &&
    !(message.data.frameFlags &&& 8 ≠ 0 && message.data.frameFlags &&& 2 ≠ 0)

def encodable (messages : MotorMessages) : Bool := messages.length ≤ kMaxPayloadMessages && messages.all valid

def encodePayload (messages : MotorMessages) : Option (List UInt8) :=
  if encodable messages then some (encodeRelayFrames .relayToHelper messages) else none

def appendFrame (messages : MotorMessages) (frame : RelayFrame) : Except ReadFault MotorMessages :=
  if frame.type ≠ .helperToRelay ∨ messages.length + frame.records.length > kMaxPayloadMessages ∨
      ¬ frame.records.all valid then
    .error .refused
  else .ok (messages ++ frame.records)

def decodePayload (payload : List UInt8) : Except ReadFault MotorMessages :=
  if payload.length < 8 ∨ payload.length > kMaxPayloadBytes then .error .refused
  else do
    let frames ← decodeRelayFrames payload
    frames.foldlM appendFrame []

theorem valid_length (message : MotorMessage) (accepted : valid message = true) : message.data.len ≤ 8 := by
  simp only [valid, Bool.and_eq_true, decide_eq_true_eq] at accepted
  exact accepted.1.1.1.1.2

theorem encodable_lengths (messages : MotorMessages) (accepted : encodable messages = true) :
    ∀ message ∈ messages, message.data.len ≤ 8 := by
  intro message inside
  simp only [encodable, Bool.and_eq_true, List.all_eq_true] at accepted
  exact valid_length message (accepted.2 message inside)

theorem append_frames_ok (frames : List RelayFrame) (before messages : MotorMessages)
    (ran : frames.foldlM appendFrame before = .ok messages) :
    messages = before ++ frames.flatMap RelayFrame.records ∧
      (∀ frame ∈ frames, frame.type = .helperToRelay) ∧ ∀ frame ∈ frames, ∀ record ∈ frame.records, valid record = true := by
  induction frames generalizing before with
  | nil =>
    cases ran
    exact ⟨by simp, nofun, nofun⟩
  | cons frame rest ih =>
    simp only [List.foldlM_cons, bind_ok] at ran
    obtain ⟨between, first, others⟩ := ran
    unfold appendFrame at first
    split at first
    · cases first
    · rename_i accepted
      cases first
      simp only [ne_eq, not_or, not_not, List.all_eq_true] at accepted
      obtain ⟨joined, types, records⟩ := ih _ others
      refine ⟨by rw [joined]; simp, ?_, ?_⟩
      · intro other inside
        rcases List.mem_cons.mp inside with rfl | inside
        · exact accepted.1
        · exact types other inside
      · intro other inside
        rcases List.mem_cons.mp inside with rfl | inside
        · exact accepted.2.2
        · exact records other inside

theorem append_frames_fault (frames : List RelayFrame) (before : MotorMessages) :
    frames.foldlM appendFrame before ≠ .error .pastEnd := by
  induction frames generalizing before with
  | nil => nofun
  | cons frame rest ih =>
    rw [List.foldlM_cons]
    cases first : appendFrame before frame with
    | error fault =>
      unfold appendFrame at first
      split at first
      · cases first
        nofun
      · cases first
    | ok between => exact ih between

end Payload

structure Route where
  localMac : Vector UInt8 6
  remoteMac : Vector UInt8 6
  localIp : Vector UInt8 4
  remoteIp : Vector UInt8 4
  localPort : UInt16
  remotePort : UInt16
deriving DecidableEq, Repr

def Route.swapped (route : Route) : Route :=
  ⟨route.remoteMac, route.localMac, route.remoteIp, route.localIp, route.remotePort, route.localPort⟩

def readByte (data : List UInt8) (offset : Nat) : Except ReadFault UInt8 :=
  match data[offset]? with
  | some byte => .ok byte
  | none => .error .pastEnd

def slice (data : List UInt8) (offset count : Nat) : Except ReadFault (List UInt8) :=
  if offset + count ≤ data.length then .ok ((data.drop offset).take count) else .error .pastEnd

def readWord (data : List UInt8) (offset : Nat) : Except ReadFault UInt16 := do
  let high ← readByte data offset
  let low ← readByte data (offset + 1)
  return word high low

def writeWord (value : UInt16) : List UInt8 := [(value >>> 8).toUInt8, value.toUInt8]

def pseudoSum (addresses : List UInt8) (length : UInt16) : UInt32 := sum addresses 0 + 17 + length.toUInt32

def ethernetHeader (route : Route) : List UInt8 := route.remoteMac.toList ++ route.localMac.toList ++ writeWord 0x0800

def ipHeader (route : Route) (size : Nat) (checksum : UInt16) : List UInt8 :=
  [0x45, 0] ++ writeWord (UInt16.ofNat (28 + size)) ++ [0, 0] ++ writeWord 0x4000 ++ [64, 17] ++ writeWord checksum ++
    (route.localIp.toList ++ route.remoteIp.toList)

def udpSegment (route : Route) (payload : List UInt8) (checksum : UInt16) : List UInt8 :=
  writeWord route.localPort ++ writeWord route.remotePort ++ writeWord (UInt16.ofNat (8 + payload.length)) ++
    writeWord checksum ++ payload

def ipChecksum (route : Route) (size : Nat) : UInt16 := finish (sum (ipHeader route size 0) 0)

def udpChecksum (route : Route) (payload : List UInt8) : UInt16 :=
  finish (sum (udpSegment route payload 0)
    (pseudoSum (route.localIp.toList ++ route.remoteIp.toList) (UInt16.ofNat (8 + payload.length))))

def encodePacket (route : Route) (payload : List UInt8) : Option (List UInt8) :=
  if payload.length > kMaxPayloadBytes then none
  else
    some (ethernetHeader route ++ ipHeader route payload.length (ipChecksum route payload.length) ++
      udpSegment route payload (if udpChecksum route payload ≠ 0 then udpChecksum route payload else 0xFFFF))

def decodeDatagram (route : Route) (data : List UInt8) (header : Nat) : Except ReadFault MotorMessages := do
  let total ← readWord data (14 + 2)
  if total.toNat < header + 8 ∨ data.length < 14 + total.toNat then .error .refused
  else
    let length ← readWord data (14 + header + 4)
    let sourcePort ← readWord data (14 + header)
    let destinationPort ← readWord data (14 + header + 2)
    if length.toNat < 8 ∨ length.toNat ≠ total.toNat - header ∨ sourcePort ≠ route.remotePort ∨
        destinationPort ≠ route.localPort then .error .refused
    else
      let checksum ← readWord data (14 + header + 6)
      let segment ← slice data (14 + header) length.toNat
      let addresses ← slice data (14 + 12) 8
      if checksum ≠ 0 ∧ finish (sum segment (pseudoSum addresses length)) ≠ 0 then .error .refused
      else
        let payload ← slice data (14 + header + 8) (length.toNat - 8)
        decodePayload payload

def decodePacket (route : Route) (data : List UInt8) : Except ReadFault MotorMessages :=
  if data.length < 42 then .error .refused
  else do
    let destination ← slice data 0 6
    let source ← slice data 6 6
    let etherType ← readWord data 12
    if destination ≠ route.localMac.toList ∨ source ≠ route.remoteMac.toList ∨ etherType ≠ 0x0800 then .error .refused
    else
      let version ← readByte data 14
      let header := (version &&& 15).toNat * 4
      if version >>> 4 ≠ 4 ∨ header < 20 ∨ data.length < 14 + header + 8 then .error .refused
      else
        let protocol ← readByte data (14 + 9)
        let fragment ← readWord data (14 + 6)
        let headerBytes ← slice data 14 header
        let sourceIp ← slice data (14 + 12) 4
        let destinationIp ← slice data (14 + 16) 4
        if protocol ≠ 17 ∨ fragment &&& 0x3FFF ≠ 0 ∨ finish (sum headerBytes 0) ≠ 0 ∨ sourceIp ≠ route.remoteIp.toList ∨
            destinationIp ≠ route.localIp.toList then .error .refused
        else decodeDatagram route data header

variable (data : List UInt8)

theorem read_byte_inside (offset : Nat) (inside : offset < data.length) :
    readByte data offset = .ok data[offset] := by
  simp [readByte, inside]

theorem read_word_inside (offset : Nat) (inside : offset + 1 < data.length) :
    readWord data offset = .ok (word data[offset] data[offset + 1]) := by
  rw [readWord, read_byte_inside data offset (by omega), read_byte_inside data (offset + 1) inside]
  rfl

theorem slice_inside (offset count : Nat) (inside : offset + count ≤ data.length) :
    slice data offset count = .ok ((data.drop offset).take count) := if_pos inside

theorem word_write (value : UInt16) : word (value >>> 8).toUInt8 value.toUInt8 = value := by
  apply UInt16.toNat_inj.mp
  have bound := value.toNat_lt
  rw [word_value]
  simp only [UInt16.toNat_toUInt8, UInt16.toNat_shiftRight]
  have small : (8 : UInt16).toNat % 16 = 8 := rfl
  rw [small, Nat.shiftRight_eq_div_pow]
  omega

theorem total_write (value : UInt16) (rest : List UInt8) : total (writeWord value ++ rest) = value.toNat + total rest := by
  have joined := word_value (value >>> 8).toUInt8 value.toUInt8
  rw [word_write] at joined
  simp only [writeWord, List.cons_append, List.nil_append, total]
  omega

end EncosDriver.Ethernet
