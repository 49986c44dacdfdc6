import EncosDriver.Slcan.Line

set_option autoImplicit false

namespace EncosDriver.Slcan

open Lib Message

def kReadBufferSize : Nat := 1024

structure Receiver where
  readBuffer : List UInt8
  discardingLine : Bool
  messages : MotorMessages
deriving DecidableEq, Repr

def initialReceiver : Receiver := ⟨[], false, []⟩

def receiveByte (receiver : Receiver) (byte : UInt8) : Receiver :=
  if byte = carriageReturn ∨ byte = lineFeed then
    ⟨[], false, receiver.messages ++ if receiver.discardingLine then [] else (receiveLine receiver.readBuffer).toList⟩
  else if receiver.discardingLine then receiver
  else if receiver.readBuffer.length = kReadBufferSize then { receiver with readBuffer := [], discardingLine := true }
  else { receiver with readBuffer := receiver.readBuffer ++ [byte] }

def receiveBytes (receiver : Receiver) (data : List UInt8) : Receiver := data.foldl receiveByte receiver

def terminates (byte : UInt8) : Bool := byte = carriageReturn || byte = lineFeed

inductive Piece where
  | sent (message : MotorMessage)
  | garbage (line : List UInt8) (ending : UInt8)

def Piece.bytes : Piece → List UInt8
  | .sent message => (send message).getD []
  | .garbage line ending => line ++ [ending]

-- The message as a line carries it: on the adapter's only bus, with the defined
-- flags and the bytes that are sent.
def carried (message : MotorMessage) : MotorMessage :=
  { busIdx := 0
    data :=
      { id := message.data.id
        frameFlags := sanitizeCanFrameFlags message.data.frameFlags
        len := message.data.len
        data := payload (if canFrameFlagsUseRtr message.data.frameFlags then []
          else message.data.data.toList.take message.data.len.toNat) } }

def Piece.Allowed : Piece → Prop
  | .sent message => (send message).isSome = true
  | .garbage line ending => line.all (fun byte => !terminates byte) = true ∧ terminates ending = true ∧
      (line.length ≤ kReadBufferSize → receiveLine line = none)

def Piece.delivers : Piece → MotorMessages
  | .sent message => [carried message]
  | .garbage _ _ => []

theorem plain_cons (byte : UInt8) (rest : List UInt8) (plain : (byte :: rest).all (fun byte => !terminates byte) = true) :
    ¬ (byte = carriageReturn ∨ byte = lineFeed) ∧ rest.all (fun byte => !terminates byte) = true := by
  simp only [List.all_cons, terminates, Bool.and_eq_true, Bool.not_eq_true', Bool.or_eq_false_iff, decide_eq_false_iff_not] at plain
  exact ⟨not_or.mpr plain.1, plain.2⟩

theorem discard_characters (receiver : Receiver) (line : List UInt8) (discarding : receiver.discardingLine = true)
    (plain : line.all (fun byte => !terminates byte) = true) : receiveBytes receiver line = receiver := by
  induction line with
  | nil => rfl
  | cons byte rest ih =>
    obtain ⟨character, following⟩ := plain_cons byte rest plain
    rw [receiveBytes, List.foldl_cons, receiveByte, if_neg character, if_pos discarding]
    exact ih following

theorem receive_line_characters (receiver : Receiver) (line : List UInt8) (collecting : receiver.discardingLine = false)
    (inside : receiver.readBuffer.length ≤ kReadBufferSize) (plain : line.all (fun byte => !terminates byte) = true) :
    receiveBytes receiver line =
      if receiver.readBuffer.length + line.length ≤ kReadBufferSize then
        { receiver with readBuffer := receiver.readBuffer ++ line }
      else { receiver with readBuffer := [], discardingLine := true } := by
  induction line generalizing receiver with
  | nil =>
    rw [List.length_nil, Nat.add_zero, if_pos inside, List.append_nil]
    rfl
  | cons byte rest ih =>
    obtain ⟨character, following⟩ := plain_cons byte rest plain
    have step : receiveBytes receiver (byte :: rest) = receiveBytes (receiveByte receiver byte) rest := rfl
    rw [step, receiveByte, if_neg character, if_neg (by rw [collecting]; decide), List.length_cons]
    split
    · rename_i full
      rw [discard_characters _ rest rfl following, if_neg (by omega)]
    · rename_i room
      have collected := ih { receiver with readBuffer := receiver.readBuffer ++ [byte] } collecting
        (by rw [List.length_append, List.length_singleton]; omega) following
      rw [collected]
      simp only [List.length_append, List.length_singleton, List.append_assoc, List.singleton_append]
      have same : receiver.readBuffer.length + 1 + rest.length = receiver.readBuffer.length + (rest.length + 1) := by omega
      rw [same]

theorem receive_whole_line (messages : MotorMessages) (line : List UInt8) (ending : UInt8)
    (plain : line.all (fun byte => !terminates byte) = true) (ends : terminates ending = true) :
    receiveBytes ⟨[], false, messages⟩ (line ++ [ending]) =
      ⟨[], false, messages ++ if line.length ≤ kReadBufferSize then (receiveLine line).toList else []⟩ := by
  have split : receiveBytes ⟨[], false, messages⟩ (line ++ [ending]) =
      receiveByte (receiveBytes ⟨[], false, messages⟩ line) ending := by
    simp [receiveBytes]
  have terminator : ending = carriageReturn ∨ ending = lineFeed := by
    simpa [terminates] using ends
  rw [split, receive_line_characters _ line rfl (Nat.zero_le _) plain, List.length_nil, Nat.zero_add]
  by_cases fits : line.length ≤ kReadBufferSize
  · rw [if_pos fits, if_pos fits, receiveByte, if_pos terminator]
    rfl
  · rw [if_neg fits, if_neg fits, receiveByte, if_pos terminator]
    rfl

theorem sendable_flags (flags : UInt8) (valid : canFrameFlagsHaveValidCanFdBits flags = true)
    (plain : canFrameFlagsUseCanFd flags = false) :
    sanitizeCanFrameFlags flags = lineFlags (canFrameFlagsUseExtendedId flags) (canFrameFlagsUseRtr flags) := by
  have every := sanitized_cases (fun flags => canFrameFlagsHaveValidCanFdBits flags = true →
    canFrameFlagsUseCanFd flags = false →
      sanitizeCanFrameFlags flags = lineFlags (canFrameFlagsUseExtendedId flags) (canFrameFlagsUseRtr flags)) (by decide) flags
  simp only [sanitize_sanitize, sanitized_extended, sanitized_rtr, sanitized_can_fd] at every
  refine every ?_ plain
  rw [canFrameFlagsHaveValidCanFdBits, sanitize_sanitize, sanitized_can_fd]
  exact valid

theorem send_some (message : MotorMessage) (command : List UInt8) (sent : send message = some command) :
    let extended := canFrameFlagsUseExtendedId message.data.frameFlags
    let rtr := canFrameFlagsUseRtr message.data.frameFlags
    sanitizeCanFrameFlags message.data.frameFlags = lineFlags extended rtr ∧ message.data.len.toNat ≤ 8 ∧
      message.data.id.toNat ≤ (maxId extended).toNat ∧
      command = commandText extended rtr message.data.id message.data.len message.data.data.toList ++ [carriageReturn] := by
  unfold send at sent
  simp only [sanitized_extended, sanitized_rtr, sanitized_can_fd] at sent
  split_ifs at sent with valid fd long wide
  cases sent
  have fdBits : canFrameFlagsHaveValidCanFdBits message.data.frameFlags = true := by
    rw [canFrameFlagsHaveValidCanFdBits, sanitize_sanitize, sanitized_can_fd] at valid
    rw [canFrameFlagsHaveValidCanFdBits]
    exact Bool.of_not_eq_false valid
  exact ⟨sendable_flags _ fdBits (Bool.of_not_eq_true fd),
    UInt8.le_iff_toNat_le.mp (UInt8.not_lt.mp long), UInt32.le_iff_toNat_le.mp (UInt32.not_lt.mp wide), rfl⟩

theorem read_data_text (data rest : List UInt8) :
    receiveData data.length ((data.flatMap fun byte => Hex.text 2 byte.toNat) ++ rest) = some data := by
  induction data with
  | nil => rfl
  | cons byte others ih =>
    have small := byte.toNat_lt
    have two := Hex.text_length 2 byte.toNat (by omega)
    have digits := Hex.text_digits 2 byte.toNat
    have value := Hex.value_text 2 byte.toNat
    have present : Hex.text 2 byte.toNat ≠ [] := by
      intro empty
      rw [empty] at two
      cases two
    have converted := Hex.stoi_digits _ digits present (by omega)
    rw [value] at converted
    have back : UInt8.ofInt (byte.toNat : Int) = byte := by
      rw [byte_of_nat, UInt8.ofNat_toNat]
    have front : (Hex.text 2 byte.toNat ++ ((others.flatMap fun byte => Hex.text 2 byte.toNat) ++ rest)).take 2 =
        Hex.text 2 byte.toNat := List.take_left' two
    have following : (Hex.text 2 byte.toNat ++ ((others.flatMap fun byte => Hex.text 2 byte.toNat) ++ rest)).drop 2 =
        (others.flatMap fun byte => Hex.text 2 byte.toNat) ++ rest := List.drop_left' two
    rw [List.flatMap_cons, List.length_cons, List.append_assoc, receiveData, front, following, converted, ih]
    simp [back]

variable (extended rtr : Bool) (id : UInt32) (len : UInt8) (data : List UInt8)

theorem command_text_length (idBound : id.toNat ≤ (maxId extended).toNat) (lenBound : len.toNat ≤ 8) (full : data.length = 8) :
    (commandText extended rtr id len data).length = dataStart extended + (if rtr then 0 else len.toNat) * 2 := by
  have widths : (maxId extended).toNat < 16 ^ idWidth extended := by cases extended <;> decide
  have idLength := Hex.text_length (idWidth extended) id.toNat (by omega)
  have lenLength := Hex.text_length 1 len.toNat (by omega)
  rw [commandText, List.length_cons, List.length_append, List.length_append, idLength, lenLength, dataStart]
  split
  · simp only [List.length_nil]
    omega
  · rw [data_text_length, List.length_take, full, Nat.min_eq_left lenBound]
    omega

theorem receive_command_text (idBound : id.toNat ≤ (maxId extended).toNat) (lenBound : len.toNat ≤ 8) (full : data.length = 8) :
    receiveLine (commandText extended rtr id len data) =
      some ⟨0, ⟨id, lineFlags extended rtr, len, payload (if rtr then [] else data.take len.toNat)⟩⟩ := by
  have widths : (maxId extended).toNat < 16 ^ idWidth extended := by cases extended <;> decide
  have most : (maxId extended).toNat ≤ 2147483647 := by cases extended <;> decide
  have idLength := Hex.text_length (idWidth extended) id.toNat (by omega)
  have lenLength := Hex.text_length 1 len.toNat (by omega)
  have idSame : idField extended (commandText extended rtr id len data) = Hex.text (idWidth extended) id.toNat := by
    rw [idField, commandText, List.drop_one, List.tail_cons, List.append_assoc]
    exact List.take_left' idLength
  have lenSame : lenField extended (commandText extended rtr id len data) = Hex.text 1 len.toNat := by
    rw [lenField, commandText, Nat.add_comm, List.drop_succ_cons, List.append_assoc, List.drop_left' idLength]
    exact List.take_left' lenLength
  have dataSame : (commandText extended rtr id len data).drop (dataStart extended) =
      if rtr then [] else (data.take len.toNat).flatMap fun byte => Hex.text 2 byte.toNat := by
    have start : dataStart extended = idWidth extended + 1 + 1 := by
      rw [dataStart]
      omega
    rw [start, commandText, List.drop_succ_cons]
    exact List.drop_left' (by rw [List.length_append, idLength, lenLength])
  have lenValue : Hex.value (lenField extended (commandText extended rtr id len data)) = len.toNat := by
    rw [lenSame, Hex.value_text]
  have count : dataCount extended rtr (commandText extended rtr id len data) = if rtr then 0 else len.toNat := by
    rw [dataCount, lenValue, Nat.min_eq_right lenBound]
  have whole := command_text_length extended rtr id len data idBound lenBound full
  have present : Hex.text (idWidth extended) id.toNat ≠ [] := by
    intro empty
    rw [empty] at idLength
    cases extended <;> cases idLength
  have converted := Hex.stoi_digits _ (Hex.text_digits (idWidth extended) id.toNat) present (by rw [Hex.value_text]; omega)
  rw [Hex.value_text] at converted
  have lenient : Hex.Lenient (Hex.text 1 len.toNat) = true := by
    have lenPresent : Hex.text 1 len.toNat ≠ [] := by
      intro empty
      rw [empty] at lenLength
      cases lenLength
    have lenConverted := Hex.stoi_digits _ (Hex.text_digits 1 len.toNat) lenPresent (by rw [Hex.value_text]; omega)
    exact ((Hex.stoi_converts _ (by omega)).mp (by rw [lenConverted]; rfl)).1
  have read : receiveData (if rtr then 0 else len.toNat)
      (if rtr then [] else (data.take len.toNat).flatMap fun byte => Hex.text 2 byte.toNat) =
      some (if rtr then [] else data.take len.toNat) := by
    cases rtr with
    | true => rfl
    | false =>
      have bytes := read_data_text (data.take len.toNat) []
      rw [List.length_take, full, Nat.min_eq_left lenBound, List.append_nil] at bytes
      exact bytes
  refine (receive_line_iff _ _).mpr ⟨extended, rtr, rfl, (receive_fields_iff extended rtr _ _).mpr ⟨⟨?_, ?_⟩, ?_, ?_⟩⟩
  · omega
  · rw [count]
    omega
  · rw [lenSame]
    exact lenient
  · refine ⟨id.toNat, if rtr then [] else data.take len.toNat, ?_, ?_, ?_⟩
    · rw [idSame]
      exact converted
    · rw [count, dataSame]
      exact read
    · have idBack : UInt32.ofInt (id.toNat : Int) = id := by
        have reduced : ((id.toNat : Int) % 2 ^ 32).toNat = id.toNat := by omega
        rw [UInt32.ofInt, reduced, UInt32.ofNat_toNat]
      rw [idBack, lenValue, Nat.min_eq_right lenBound, UInt8.ofNat_toNat]

theorem digits_plain (text : List UInt8) (digits : text.all Hex.isDigit = true) :
    text.all (fun byte => !terminates byte) = true := by
  rw [List.all_eq_true] at digits ⊢
  intro byte inside
  exact Hex.byte_cases (fun byte => Hex.isDigit byte = true → (!terminates byte) = true) (by decide +kernel) byte
    (digits byte inside)

theorem command_text_plain : (commandText extended rtr id len data).all (fun byte => !terminates byte) = true := by
  have type : (!terminates (commandType extended rtr)) = true := by cases extended <;> cases rtr <;> rfl
  have tail : (if rtr then [] else (data.take len.toNat).flatMap fun byte => Hex.text 2 byte.toNat).all Hex.isDigit = true := by
    split
    · rfl
    · exact data_text_digits _
  rw [commandText, List.all_cons, type, Bool.true_and]
  apply digits_plain
  rw [List.all_append, List.all_append, Hex.text_digits, Hex.text_digits, tail]
  rfl

theorem receive_piece (messages : MotorMessages) (piece : Piece) (allowed : piece.Allowed) :
    receiveBytes ⟨[], false, messages⟩ piece.bytes = ⟨[], false, messages ++ piece.delivers⟩ := by
  cases piece with
  | sent message =>
    obtain ⟨command, sent⟩ := Option.isSome_iff_exists.mp allowed
    obtain ⟨flags, lenBound, idBound, rfl⟩ := send_some message command sent
    have received := receive_command_text (canFrameFlagsUseExtendedId message.data.frameFlags)
      (canFrameFlagsUseRtr message.data.frameFlags) message.data.id message.data.len message.data.data.toList idBound lenBound
      Vector.length_toList
    have plain := command_text_plain (canFrameFlagsUseExtendedId message.data.frameFlags)
      (canFrameFlagsUseRtr message.data.frameFlags) message.data.id message.data.len message.data.data.toList
    have fits : (commandText (canFrameFlagsUseExtendedId message.data.frameFlags)
        (canFrameFlagsUseRtr message.data.frameFlags) message.data.id message.data.len
        message.data.data.toList).length ≤ kReadBufferSize := by
      have start : dataStart (canFrameFlagsUseExtendedId message.data.frameFlags) ≤ 10 := by
        cases canFrameFlagsUseExtendedId message.data.frameFlags <;> decide
      have size : kReadBufferSize = 1024 := rfl
      rw [command_text_length _ _ _ _ _ idBound lenBound Vector.length_toList]
      split <;> omega
    rw [Piece.bytes, sent, Option.getD_some, receive_whole_line messages _ carriageReturn plain rfl, if_pos fits, received,
      ← flags]
    rfl
  | garbage line ending =>
    obtain ⟨plain, ends, silent⟩ := allowed
    rw [Piece.bytes, receive_whole_line messages line ending plain ends]
    split
    · rename_i fits
      rw [silent fits]
      rfl
    · rfl

theorem receive_pieces (messages : MotorMessages) (pieces : List Piece) (allowed : ∀ piece ∈ pieces, piece.Allowed) :
    receiveBytes ⟨[], false, messages⟩ (pieces.flatMap Piece.bytes) =
      ⟨[], false, messages ++ pieces.flatMap Piece.delivers⟩ := by
  induction pieces generalizing messages with
  | nil => simp [receiveBytes]
  | cons piece rest ih =>
    rw [List.forall_mem_cons] at allowed
    have first := receive_piece messages piece allowed.1
    have others := ih (messages ++ piece.delivers) allowed.2
    rw [receiveBytes] at first others ⊢
    rw [List.flatMap_cons, List.foldl_append, first, others, List.flatMap_cons, List.append_assoc]

theorem receive_chunks (receiver : Receiver) (chunks : List (List UInt8)) :
    chunks.foldl receiveBytes receiver = receiveBytes receiver chunks.flatten := by
  induction chunks generalizing receiver with
  | nil => rfl
  | cons chunk rest ih =>
    rw [List.foldl_cons, ih, List.flatten_cons]
    simp only [receiveBytes, List.foldl_append]

def Piece.message : Piece → MotorMessages
  | .sent message => [message]
  | .garbage _ _ => []

theorem stream_round_trip (pieces : List Piece) (chunks : List (List UInt8)) (allowed : ∀ piece ∈ pieces, piece.Allowed)
    (cut : chunks.flatten = pieces.flatMap Piece.bytes) :
    chunks.foldl receiveBytes initialReceiver = ⟨[], false, (pieces.flatMap Piece.message).map carried⟩ := by
  have delivered : pieces.flatMap Piece.delivers = (pieces.flatMap Piece.message).map carried := by
    rw [List.map_flatMap]
    congr 1
    funext piece
    cases piece <;> rfl
  rw [receive_chunks, cut, initialReceiver, receive_pieces [] pieces allowed, List.nil_append, delivered]

def sampleMessage : MotorMessage := ⟨0, ⟨0x123, 0, 2, #v[0xAB, 0xCD, 0, 0, 0, 0, 0, 0]⟩⟩

theorem stream_round_trip_sample :
    [(send sampleMessage).getD [], [122, carriageReturn] ++ (send sampleMessage).getD []].foldl receiveBytes initialReceiver =
      ⟨[], false, [carried sampleMessage, carried sampleMessage]⟩ :=
  stream_round_trip [.sent sampleMessage, .garbage [122] carriageReturn, .sent sampleMessage] _
    (by
      intro piece inside
      simp only [List.mem_cons, List.not_mem_nil, or_false] at inside
      rcases inside with rfl | rfl | rfl
      · exact rfl
      · exact ⟨rfl, rfl, fun _ => rfl⟩
      · exact rfl)
    (by simp [Piece.bytes])

def remoteMessage : MotorMessage := ⟨0, ⟨0x123, 8, 2, #v[0xAB, 0xCD, 0, 0, 0, 0, 0, 0]⟩⟩

theorem remote_message_altered :
    ∃ command message, send remoteMessage = some command ∧
      (receiveBytes initialReceiver command).messages = [message] ∧ message ≠ remoteMessage := by
  have sent : send remoteMessage =
      some (commandText false true 0x123 2 [0xAB, 0xCD, 0, 0, 0, 0, 0, 0] ++ [carriageReturn]) := rfl
  have received := receive_pieces [] [.sent remoteMessage] (by
    intro piece inside
    rw [List.mem_singleton.mp inside]
    rfl)
  simp only [List.flatMap_cons, List.flatMap_nil, List.append_nil, Piece.bytes, sent, Option.getD_some] at received
  refine ⟨_, carried remoteMessage, sent, by rw [initialReceiver, received]; rfl, by decide⟩

end EncosDriver.Slcan
