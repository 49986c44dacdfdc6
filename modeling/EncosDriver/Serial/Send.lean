import EncosDriver.Lib.Bytes
import EncosDriver.Serial.Receive

set_option autoImplicit false

namespace EncosDriver.Serial

open Lib Message

def sendHeader (extended : Bool) (id : UInt32) (size : Nat) : List UInt8 :=
  if extended then
    [0xBB, ((id >>> 24) &&& 0xFF).toUInt8, ((id >>> 16) &&& 0xFF).toUInt8, ((id >>> 8) &&& 0xFF).toUInt8,
      (id &&& 0xFF).toUInt8, UInt8.ofNat size]
  else [0xAA, (id >>> 8).toUInt8, (id &&& 0xFF).toUInt8, UInt8.ofNat size]

-- The bytes that Send hands to the port, if it gets that far. The checksum
-- covers the whole buffer while its own byte is zero.
def send (isOk : Bool) (message : MotorMessage) : Option (List UInt8) :=
  let msg := message.data
  let flags := sanitizeCanFrameFlags msg.frameFlags
  if isOk = false then none
  else if msg.len > 8 then none
  else
    let extended := canFrameFlagsUseExtendedId flags
    let size := msg.len.toNat + headerSize extended + 1
    let buffer := sendHeader extended msg.id size ++ msg.data.toList.take msg.len.toNat
    some (buffer ++ [checksum (buffer ++ [0])])

structure SendCall where
  isOk : Bool
  message : MotorMessage
deriving DecidableEq, Repr

def accepted (calls : List SendCall) : MotorMessages :=
  (calls.filter fun call => (send call.isOk call.message).isSome).map SendCall.message

def written (calls : List SendCall) : List UInt8 := (calls.filterMap fun call => send call.isOk call.message).flatten

structure Same (sent received : MotorMessage) : Prop where
  id : received.data.id = sent.data.id
  extended : canFrameFlagsUseExtendedId received.data.frameFlags = canFrameFlagsUseExtendedId sent.data.frameFlags
  len : received.data.len = sent.data.len
  data : received.data.data.toList.take received.data.len.toNat = sent.data.data.toList.take sent.data.len.toNat

def IdFits (msg : MotorPackMsg) : Prop := canFrameFlagsUseExtendedId msg.frameFlags = true ∨ msg.id.toNat < 2 ^ 16

-- The written bytes bring the accepted messages back however they are cut on
-- their way, and no message goes out under another id.
structure Faithful (calls : List SendCall) : Prop where
  delivered : ∀ chunks : List (List UInt8), chunks.flatten = written calls →
    ∃ adapter, receiveCalls {} chunks = some adapter ∧ adapter.readBuffer = [] ∧
      List.Forall₂ Same (accepted calls) adapter.delivered
  rejected : ∀ call ∈ calls, ¬ IdFits call.message.data → send call.isOk call.message = none

theorem checksum_trailing (bytes : List UInt8) : checksum (bytes ++ [0]) = checksum bytes := by
  rw [checksum, List.foldl_append]
  exact UInt8.add_zero _

def idField (extended : Bool) (id : UInt32) : List UInt8 :=
  if extended then
    [((id >>> 24) &&& 0xFF).toUInt8, ((id >>> 16) &&& 0xFF).toUInt8, ((id >>> 8) &&& 0xFF).toUInt8, (id &&& 0xFF).toUInt8]
  else [(id >>> 8).toUInt8, (id &&& 0xFF).toUInt8]

def sentParts (msg : MotorPackMsg) (short : msg.len ≤ 8) : FrameParts where
  extended := canFrameFlagsUseExtendedId msg.frameFlags
  id := idField (canFrameFlagsUseExtendedId msg.frameFlags) msg.id
  data := msg.data.toList.take msg.len.toNat
  idComplete := by cases canFrameFlagsUseExtendedId msg.frameFlags <;> rfl
  dataShort := by
    have eight : msg.len.toNat ≤ 8 := UInt8.le_iff_toNat_le.mp short
    rw [List.length_take]
    omega

theorem sent_data_length (msg : MotorPackMsg) (short : msg.len ≤ 8) :
    (msg.data.toList.take msg.len.toNat).length = msg.len.toNat := by
  have eight : msg.len.toNat ≤ 8 := UInt8.le_iff_toNat_le.mp short
  rw [List.length_take, Vector.length_toList]
  omega

theorem send_parts (message : MotorMessage) (short : message.data.len ≤ 8) :
    send true message = some (sentParts message.data short).bytes := by
  have eight : ¬ message.data.len > 8 := UInt8.not_lt.mpr short
  have size := sent_data_length message.data short
  simp only [send, eight, sanitized_extended, checksum_trailing, FrameParts.bytes, sealed, sentParts, size, sendHeader,
    Bool.true_eq_false, ↓reduceIte]
  rw [Nat.add_comm message.data.len.toNat]
  cases canFrameFlagsUseExtendedId message.data.frameFlags with
  | false => rfl
  | true => rfl

theorem send_cases (call : SendCall) :
    (send call.isOk call.message = none ∧ ¬ (call.isOk = true ∧ call.message.data.len ≤ 8)) ∨
      ∃ short : call.message.data.len ≤ 8, call.isOk = true ∧
        send call.isOk call.message = some (sentParts call.message.data short).bytes := by
  obtain ⟨isOk, message⟩ := call
  cases isOk with
  | false => exact .inl ⟨rfl, nofun⟩
  | true =>
    by_cases short : message.data.len ≤ 8
    · exact .inr ⟨short, rfl, send_parts message short⟩
    · refine .inl ⟨?_, fun both => short both.2⟩
      have long : message.data.len > 8 := UInt8.not_le.mp short
      simp only [send, long, Bool.true_eq_false, ↓reduceIte]

theorem extended_id_back (id : UInt32) : bigEndian (idField true id) = id := by
  have joined := Codec.join_split_u32 id
  have turned (first second third fourth : UInt32) : first ||| second ||| third ||| fourth = fourth ||| third ||| second ||| first := by
    ac_rfl
  simp only [idField, ↓reduceIte, wire_id_extended]
  exact (turned _ _ _ _).trans joined

theorem standard_id_back (id : UInt32) (fits : id.toNat < 2 ^ 16) : bigEndian (idField false id) = id := by
  have low : id.toUInt16.toUInt32 = id := by
    apply UInt32.toNat_inj.mp
    rw [UInt16.toNat_toUInt32, UInt32.toNat_toUInt16, Nat.mod_eq_of_lt fits]
  simp only [idField, Bool.false_eq_true, ↓reduceIte, wire_id_standard]
  rw [← low]
  apply UInt32.eq_of_toBitVec_eq
  simp only [UInt32.toBitVec_or, UInt32.toBitVec_and, UInt32.toBitVec_shiftLeft, UInt32.toBitVec_shiftRight,
    UInt8.toBitVec_toUInt32, UInt32.toBitVec_toUInt8, UInt16.toBitVec_toUInt32]
  ext index inRange
  simp
  interval_cases index <;> simp

theorem payload_front (bytes : List UInt8) (short : bytes.length ≤ 8) : (payload bytes).toList.take bytes.length = bytes := by
  apply List.ext_getElem
  · rw [List.length_take, Vector.length_toList]
    omega
  · intro index inside within
    simp [payload, within]

theorem extended_flag_back (extended : Bool) :
    canFrameFlagsUseExtendedId (if extended then kCanFrameFlagEff else 0) = extended := by
  cases extended <;> decide

theorem sent_same (message : MotorMessage) (short : message.data.len ≤ 8) (fits : IdFits message.data) :
    Same message (sentParts message.data short).message := by
  have size := sent_data_length message.data short
  have len : (sentParts message.data short).message.data.len = message.data.len := by
    simp only [FrameParts.message, sentParts, size, UInt8.ofNat_toNat]
  refine ⟨?_, ?_, len, ?_⟩
  · simp only [FrameParts.message, sentParts]
    cases extended : canFrameFlagsUseExtendedId message.data.frameFlags with
    | true => exact extended_id_back message.data.id
    | false =>
      rcases fits with other | narrow
      · cases extended.symm.trans other
      · exact standard_id_back message.data.id narrow
  · exact extended_flag_back (canFrameFlagsUseExtendedId message.data.frameFlags)
  · have front := payload_front _ (sentParts message.data short).dataShort
    rw [len]
    simp only [FrameParts.message]
    simp only [sentParts, size] at front ⊢
    exact front

theorem scan_written (calls : List SendCall)
    (fit : ∀ call ∈ calls, call.isOk = true → call.message.data.len ≤ 8 → IdFits call.message.data) :
    (frameScanner.scan (written calls)).2 = [] ∧ List.Forall₂ Same (accepted calls) (frameScanner.scan (written calls)).1 := by
  induction calls with
  | nil =>
    rw [Scanner.scan_waits frameScanner (written []) rfl]
    exact ⟨rfl, .nil⟩
  | cons call rest ih =>
    obtain ⟨scanned, others⟩ := ih fun other inside => fit other (List.mem_cons_of_mem _ inside)
    rcases send_cases call with ⟨dropped, -⟩ | ⟨short, isOk, sent⟩
    · have bytes : written (call :: rest) = written rest := by simp [written, dropped]
      have messages : accepted (call :: rest) = accepted rest := by simp [accepted, dropped]
      rw [bytes, messages]
      exact ⟨scanned, others⟩
    · have bytes : written (call :: rest) = (sentParts call.message.data short).bytes ++ written rest := by
        simp [written, sent]
      have messages : accepted (call :: rest) = call.message :: accepted rest := by simp [accepted, sent]
      rw [bytes, messages,
        Scanner.scan_steps frameScanner ((sentParts call.message.data short).bytes ++ written rest) _ _
          (examine_next_parts _ _),
        List.drop_left' rfl]
      exact ⟨scanned, .cons (sent_same call.message short (fit call List.mem_cons_self isOk short)) others⟩

/-- Only the length and the port decide whether a message is sent, so a standard id above sixteen bits goes out cut off.
-/
theorem serial_fidelity (calls : List SendCall) :
    Faithful calls ↔
      ∀ call ∈ calls, call.isOk = true → call.message.data.len ≤ 8 → IdFits call.message.data := by
  constructor
  · intro faithful call inside isOk short
    by_contra wide
    rcases send_cases call with ⟨-, refused⟩ | ⟨_, -, sent⟩
    · exact refused ⟨isOk, short⟩
    · rw [faithful.rejected call inside wide] at sent
      cases sent
  · intro fit
    obtain ⟨scanned, others⟩ := scan_written calls fit
    refine ⟨?_, ?_⟩
    · intro chunks whole
      refine ⟨_, receive_chunks_scan chunks, ?_, ?_⟩
      · rw [whole]
        exact scanned
      · rw [whole]
        exact others
    · intro call inside wide
      rcases send_cases call with ⟨dropped, -⟩ | ⟨short, isOk, -⟩
      · exact dropped
      · exact absurd (fit call inside isOk short) wide

def wideStandard : SendCall := ⟨true, ⟨0, ⟨0x10141, 0, 1, #v[0xAA, 0, 0, 0, 0, 0, 0, 0]⟩⟩⟩

/-- The standard id 0x10141 goes out, and comes back, as 0x141. -/
theorem wide_standard_id_sent :
    written [wideStandard] = [0xAA, 0x01, 0x41, 6, 0xAA, 0x9C] ∧
      (receiveCalls {} [written [wideStandard]]).map (fun adapter => adapter.delivered.map fun message => message.data.id) =
        some [0x141] ∧
      ¬ Faithful [wideStandard] := by
  refine ⟨by decide +kernel, by decide +kernel, ?_⟩
  intro faithful
  have wide : ¬ IdFits wideStandard.message.data := by
    rintro (extended | narrow)
    · exact absurd extended (by decide)
    · exact absurd narrow (by decide)
  have refused := faithful.rejected wideStandard List.mem_cons_self wide
  exact absurd refused (by decide +kernel)

end EncosDriver.Serial
