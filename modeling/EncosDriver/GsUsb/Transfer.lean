import EncosDriver.GsUsb.Adapter
import EncosDriver.Lib.Stream
import Mathlib.Data.List.TakeWhile

set_option autoImplicit false

namespace EncosDriver.GsUsb

open Lib Message

def kEchoBusFrame : UInt32 := 0xFFFFFFFF
def kCanErr : UInt32 := 0x20000000

theorem filled_agree (first second : List UInt8) (size : Nat) (agree : ∀ index, index < size → first[index]? = second[index]?) :
    filled first size = filled second size := by
  ext index bound
  simp only [filled, Vector.getElem_ofFn]
  split
  · rename_i within
    rw [List.getD_eq_getElem?_getD, List.getD_eq_getElem?_getD, agree index within]
  · rfl

theorem copied_inside (flags dlc : UInt8) (short : ¬ (flags &&& kFrameFlagFd ≠ 0 ∧ dlc > 15)) :
    12 + dataSize flags dlc ≤ frameSize flags := by
  unfold dataSize frameSize
  split
  · rename_i fd
    have bound : dlc.toNat ≤ 15 := UInt8.le_iff_toNat_le.mp (UInt8.not_lt.mp fun long => short ⟨fd, long⟩)
    simp only [kFdFrameSize]
    omega
  · simp only [kClassicFrameSize]
    omega

theorem decode_frame_local (data other : List UInt8) (frame : Frame) (count : Nat)
    (decoded : decodeFrame data = some (frame, count)) :
    0 < count ∧ count ≤ data.length ∧ decodeFrame (data.take count ++ other) = some (frame, count) := by
  unfold decodeFrame at decoded
  split at decoded
  · cases decoded
  split at decoded
  · rename_i echo0 echo1 echo2 echo3 id0 id1 id2 id3 dlc channel flags reserved body long
    dsimp only at decoded
    split at decoded
    · cases decoded
    rename_i defined
    split at decoded
    · cases decoded
    rename_i available
    split at decoded
    · cases decoded
    rename_i standard
    split at decoded
    · cases decoded
    rename_i fd
    split at decoded
    · cases decoded
    rename_i plain
    cases decoded
    have copied := copied_inside flags dlc fun long => fd ⟨long.1, .inl long.2⟩
    obtain ⟨rest, size⟩ : ∃ rest, frameSize flags = rest + 12 := ⟨frameSize flags - 12, by omega⟩
    have least : kClassicFrameSize ≤ frameSize flags := by
      unfold frameSize
      split <;> decide
    have same : filled (body.take rest ++ other) (dataSize flags dlc) = filled body (dataSize flags dlc) := by
      refine filled_agree _ _ _ fun index within => ?_
      simp only [List.length_cons] at available
      rw [List.getElem?_append_left (by rw [List.length_take]; omega), List.getElem?_take_of_lt (by omega)]
    refine ⟨by omega, by omega, ?_⟩
    simp only [List.length_cons] at available
    rw [size]
    simp only [List.take_succ_cons, List.cons_append, decodeFrame, List.length_cons, List.length_append, List.length_take]
    rw [if_neg (by omega), if_neg defined, if_neg (by omega), if_neg standard, if_neg fd, if_neg plain, same, size]
  · cases decoded

def frameScanner : Scanner UInt8 Frame where
  next unread := (decodeFrame unread).map fun decoded => ([decoded.1], decoded.2)
  consumes := by
    intro unread items count found
    obtain ⟨⟨frame, size⟩, decoded, same⟩ := Option.map_eq_some_iff.mp found
    cases same
    obtain ⟨positive, bounded, _⟩ := decode_frame_local unread [] frame size decoded
    exact ⟨positive, bounded⟩
  stable := by
    intro unread more items count found
    obtain ⟨⟨frame, size⟩, decoded, same⟩ := Option.map_eq_some_iff.mp found
    cases same
    obtain ⟨_, _, extended⟩ := decode_frame_local unread (unread.drop size ++ more) frame size decoded
    rw [← List.append_assoc, List.take_append_drop] at extended
    rw [extended]
    rfl

def decodeTransfer (data : List UInt8) : List Frame := (frameScanner.scan data).1

def received (channels : Nat) (frame : Frame) : Option MotorMessage :=
  if frame.channel.toNat ≥ channels then none
  else if frame.echoId ≠ kEchoBusFrame then none
  else if frame.canId &&& kCanErr ≠ 0 then none
  else some (incoming frame)

def receiveTransfer (channels : Nat) (data : List UInt8) : List MotorMessage :=
  (decodeTransfer data).filterMap (received channels)

theorem transfer_front (frame : Frame) (capacity : Nat) (bytes rest : List UInt8)
    (encoded : encodeFrame frame capacity = some bytes) :
    decodeTransfer (bytes ++ rest) = if frame.Legal then frame.carried :: decodeTransfer rest else [] := by
  have front := decode_encode_append frame capacity bytes rest encoded
  unfold decodeTransfer
  split
  · rename_i legal
    rw [if_pos legal] at front
    have first : frameScanner.next (bytes ++ rest) = some ([frame.carried], bytes.length) := by
      simp only [frameScanner, front, Option.map_some]
    rw [Scanner.scan_steps frameScanner _ _ _ first, List.drop_left]
    rfl
  · rename_i illegal
    rw [if_neg illegal] at front
    have stops : frameScanner.next (bytes ++ rest) = none := by
      simp only [frameScanner, front, Option.map_none]
    rw [Scanner.scan_waits frameScanner _ stops]

def Frame.Plain (frame : Frame) : Prop :=
  frame.reserved = 0 ∧ ∀ index : Fin 64, dataSize frame.flags frame.dlc ≤ index.val → frame.data[index] = 0

theorem carried_plain (frame : Frame) (plain : frame.Plain) : frame.carried = frame := by
  obtain ⟨unused, behind⟩ := plain
  have data : filled frame.data.toList (dataSize frame.flags frame.dlc) = frame.data := by
    ext index bound
    simp only [filled, Vector.getElem_ofFn]
    split
    · simp [List.getD_eq_getElem?_getD, bound]
    · rename_i outside
      rw [← behind ⟨index, bound⟩ (by dsimp only; omega)]
      rfl
  unfold Frame.carried
  rw [data, ← unused]

inductive Encoded : List Frame → List UInt8 → Prop where
  | nil : Encoded [] []
  | cons (frame : Frame) (capacity : Nat) (bytes : List UInt8) (frames : List Frame) (rest : List UInt8)
      (encoded : encodeFrame frame capacity = some bytes) (following : Encoded frames rest) :
      Encoded (frame :: frames) (bytes ++ rest)

theorem transfer_frames (frames : List Frame) (data : List UInt8) (encoded : Encoded frames data) :
    decodeTransfer data = (frames.takeWhile fun frame => frame.Legal).map Frame.carried := by
  induction encoded with
  | nil =>
    unfold decodeTransfer
    rw [Scanner.scan_waits frameScanner [] rfl]
    rfl
  | cons frame capacity bytes frames rest encoded _ ih =>
    rw [transfer_front frame capacity bytes rest encoded, ih, List.takeWhile_cons]
    by_cases legal : frame.Legal
    · rw [if_pos legal, decide_eq_true legal, if_pos rfl, List.map_cons]
    · rw [if_neg legal, decide_eq_false legal, if_neg Bool.false_ne_true, List.map_nil]

theorem receive_frames (channels : Nat) (frames : List Frame) (data : List UInt8) (encoded : Encoded frames data) :
    receiveTransfer channels data =
      ((frames.takeWhile fun frame => frame.Legal).map Frame.carried).filterMap (received channels) := by
  rw [receiveTransfer, transfer_frames frames data encoded]

theorem transfer_round_trip (frames : List Frame) (data : List UInt8) (encoded : Encoded frames data) :
    (decodeTransfer data = (frames.takeWhile fun frame => frame.Legal).map Frame.carried) ∧
      ((∀ frame ∈ frames, frame.Legal ∧ frame.Plain) → decodeTransfer data = frames) ∧
      (∀ (transfer other : List UInt8) (frame : Frame) (count : Nat), decodeFrame transfer = some (frame, count) →
        0 < count ∧ count ≤ transfer.length ∧ decodeFrame (transfer.take count ++ other) = some (frame, count)) ∧
      ∀ channels, receiveTransfer channels data =
        ((frames.takeWhile fun frame => frame.Legal).map Frame.carried).filterMap (received channels) := by
  refine ⟨transfer_frames frames data encoded, ?_, ?_, fun channels => receive_frames channels frames data encoded⟩
  · intro all
    rw [transfer_frames frames data encoded, List.takeWhile_eq_self_iff.mpr fun frame here => decide_eq_true (all frame here).1]
    exact (List.map_congr_left fun frame here => carried_plain frame (all frame here).2).trans (List.map_id frames)
  · exact fun transfer other frame count decoded => decode_frame_local transfer other frame count decoded

def classicFrame (canId : UInt32) : Frame := ⟨kEchoBusFrame, canId, 1, 0, 0, 0, filled [7] 1⟩
def fdFrame : Frame := ⟨kEchoBusFrame, 0x80012345, 2, 1, 0x06, 0, filled [8, 9] 2⟩

theorem transfer_round_trip_mixed :
    ∃ data, Encoded [classicFrame 0x123, fdFrame] data ∧ decodeTransfer data = [classicFrame 0x123, fdFrame] := by
  obtain ⟨first, firstEncoded⟩ := encode_some (classicFrame 0x123) 20 (by decide) (by decide)
  obtain ⟨second, secondEncoded⟩ := encode_some fdFrame 76 (by decide) (by decide)
  have encoded : Encoded [classicFrame 0x123, fdFrame] (first ++ (second ++ [])) :=
    .cons _ 20 first _ _ firstEncoded (.cons _ 76 second _ _ secondEncoded .nil)
  refine ⟨_, encoded, (transfer_round_trip _ _ encoded).2.1 ?_⟩
  refine List.forall_mem_cons.mpr ⟨⟨by decide, rfl, by decide⟩, List.forall_mem_cons.mpr ⟨⟨by decide, rfl, by decide⟩, ?_⟩⟩
  exact fun _ none => absurd none List.not_mem_nil

/-- EncodeFrame writes a standard identifier of twelve bits as it is, and DecodeFrame refuses the frame and with it the
rest of the transfer. -/
theorem wide_identifier_stops_transfer :
    ∃ data, Encoded [classicFrame 0x800, fdFrame] data ∧ decodeTransfer data ≠ [classicFrame 0x800, fdFrame] := by
  obtain ⟨first, firstEncoded⟩ := encode_some (classicFrame 0x800) 20 (by decide) (by decide)
  obtain ⟨second, secondEncoded⟩ := encode_some fdFrame 76 (by decide) (by decide)
  refine ⟨first ++ (second ++ []), .cons _ 20 first _ _ firstEncoded (.cons _ 76 second _ _ secondEncoded .nil), ?_⟩
  rw [transfer_front _ 20 first _ firstEncoded, if_neg (by decide)]
  exact List.cons_ne_nil _ _ ∘ Eq.symm

end EncosDriver.GsUsb
