import EncosDriver.Fake.Answer
import EncosDriver.Motor.StatusLifetime

set_option autoImplicit false

namespace EncosDriver.Fake

open Message Motor Lib MotorImpl

inductive Exchange where
  | query (parameter : MotorParameter)
  | write (parameterId : UInt8) (rawValue : List UInt8)
  | system (idx : UInt16) (code : UInt8)
  | brake (enabled : Bool)
deriving DecidableEq, Repr

def Exchange.checker : Exchange → Checker
  | .query parameter => getParameterChecker parameter
  | .write parameterId rawValue => parameterChecker parameterId rawValue
  | .system idx code => systemChecker idx code
  | .brake enabled => brakeChecker enabled

def exchangeOf (motor : MotorImpl) : MotorCommand → Option Exchange
  | .brake enabled => some (.brake enabled)
  | .setId newIdx => some (.system newIdx 0x04)
  | .setPos _ => some (.system motor.idx 0x03)
  | .resetZeroPos => some (.system motor.idx 0x03)
  | .setPVTKpRange min max => some (.write 0x05 (bigEndian min ++ bigEndian max))
  | .setPVTKdRange min max => some (.write 0x06 (bigEndian min ++ bigEndian max))
  | .setPVTPosRange min max => some (.write 0x07 (bigEndian min.toUInt16 ++ bigEndian max.toUInt16))
  | .setPVTSpdRange min max => some (.write 0x08 (bigEndian min.toUInt16 ++ bigEndian max.toUInt16))
  | .setPVTTorRange min max => some (.write 0x09 (bigEndian min.toUInt16 ++ bigEndian max.toUInt16))
  | .setPVTCurRange min max => some (.write 0x0a (bigEndian min.toUInt16 ++ bigEndian max.toUInt16))
  | .setCanTimeout timeoutMs => some (.write 0x0b (bigEndian timeoutMs))
  | .setCommunicationMode mode waitForAck => if waitForAck then some (.write 0x02 [mode.value]) else none
  | .setCurPI kpInt kiInt => some (.write 0x0c (bigEndian kpInt ++ bigEndian kiInt))
  | .setSpdPI kpInt kiInt => some (.write 0x0d (bigEndian kpInt ++ bigEndian kiInt))
  | .setPosPD kpInt kdInt => some (.write 0x0e (bigEndian kpInt ++ bigEndian kdInt))
  | .getParameter parameter => some (.query parameter)
  | _ => none

theorem checker_of_exchange (motor : MotorImpl) (command : MotorCommand) :
    command.checker motor = (exchangeOf motor command).map Exchange.checker := by
  cases command with
  | setCommunicationMode mode waitForAck => cases waitForAck <;> rfl
  | _ => rfl

inductive Reply (busIdx : Int32) (id : UInt32) : Exchange → MotorMessage → Prop where
  | query (parameter : MotorParameter) (bytes : List UInt8) (frameFlags : UInt8)
      (sized : bytes.length = parameter.rawType.payloadSize) :
      Reply busIdx id (.query parameter) (makeParameterReply busIdx id parameter.value bytes frameFlags)
  | write (parameterId : UInt8) (rawValue : List UInt8) (frameFlags : UInt8) :
      Reply busIdx id (.write parameterId rawValue) (makeRawWriteAckMessage busIdx id parameterId rawValue frameFlags)
  | system (idx : UInt16) (code : UInt8) :
      Reply busIdx id (.system idx code) (makeSystemAck busIdx (idx >>> 8).toUInt8 (idx &&& 0xFF).toUInt8 code)
  | brake (error : MotorError) (enabled : Bool) : Reply busIdx id (.brake enabled) (makeBrakeAck busIdx id error enabled)

def writeSize (parameterId : UInt8) : Nat := if parameterId = 0x02 then 1 else if parameterId = 0x0b then 2 else 4

def Exchange.Formed : Exchange → Prop
  | .write parameterId rawValue => rawValue.length = writeSize parameterId
  | .system idx _ => idx ≤ 0x7FE
  | _ => True

def commandInRange : MotorCommand → Prop
  | .setId newIdx => newIdx ≤ 0x7FE
  | _ => True

theorem exchange_formed (motor : MotorImpl) (own : motor.idx ≤ 0x7FE) (command : MotorCommand) (range : commandInRange command)
    (exchange : Exchange) (waits : exchangeOf motor command = some exchange) : exchange.Formed := by
  cases command with
  | pvtControl => cases waits
  | posControl => cases waits
  | spdControl => cases waits
  | curControl => cases waits
  | torControl => cases waits
  | stop => cases waits
  | setId newIdx =>
    cases waits
    exact range
  | setCommunicationMode mode waitForAck =>
    cases waitForAck with
    | false => cases waits
    | true =>
      cases waits
      rfl
  | _ =>
    cases waits
    first
      | exact own
      | rfl
      | trivial

theorem write_size_short (parameterId : UInt8) : 1 ≤ writeSize parameterId ∧ writeSize parameterId ≤ 4 := by
  unfold writeSize
  split
  · decide
  · split <;> decide

theorem index_high (idx : UInt16) (small : idx ≤ 0x7FE) : (idx >>> 8).toUInt8 ≤ 7 := by
  have bound : idx.toNat ≤ 0x7FE := UInt16.le_iff_toNat_le.mp small
  rw [UInt8.le_iff_toNat_le]
  simp only [UInt16.toNat_toUInt8, UInt16.toNat_shiftRight, UInt16.reduceToNat, Nat.reduceMod, UInt8.reduceToNat]
  rw [Nat.shiftRight_eq_div_pow]
  omega

theorem low_not_marked (byte : UInt8) (low : byte ≤ 7) : byte ≠ 0xA0 ∧ byte ≠ 0xFF ∧ ∀ error : UInt8, byte ≠ 0xC0 ||| error := by
  have bound : byte.toNat ≤ 7 := UInt8.le_iff_toNat_le.mp low
  refine ⟨?_, ?_, ?_⟩
  · rintro rfl
    exact absurd bound (by decide)
  · rintro rfl
    exact absurd bound (by decide)
  · rintro error rfl
    rw [UInt8.toNat_or] at bound
    have marked : 0xC0 ≤ (0xC0 : UInt8).toNat ||| error.toNat := Nat.left_le_or
    omega

theorem brake_byte_unmarked (error : UInt8) : (0xC0 : UInt8) ||| error ≠ 0xA0 := by
  have codes : ∀ code : BitVec 8, 0xC0#8 ||| code ≠ 0xA0#8 := by decide +kernel
  intro same
  exact codes error.toBitVec (by simpa only [← UInt8.toBitVec_inj, UInt8.toBitVec_or, UInt8.toBitVec_ofNat] using same)

theorem index_of_bytes (first second : UInt16) (high : (first >>> 8).toUInt8 = (second >>> 8).toUInt8)
    (low : (first &&& 0xFF).toUInt8 = (second &&& 0xFF).toUInt8) : first = second := by
  rw [← word_bytes first, ← word_bytes second, high, low]

theorem query_checks (parameter : MotorParameter) (pack : MotorPackMsg) (accepted : getParameterChecker parameter pack = true) :
    pack.data.get 0 = 0xA0 ∧ pack.data.get 1 = parameter.value ∧ 2 + parameter.rawType.payloadSize ≤ pack.len.toNat := by
  simp only [getParameterChecker, packetHasPayload, Bool.and_eq_true, beq_iff_eq, decide_eq_true_eq] at accepted
  exact ⟨accepted.1.1, accepted.1.2, accepted.2⟩

theorem write_checks (parameterId : UInt8) (rawValue : List UInt8) (pack : MotorPackMsg)
    (accepted : parameterChecker parameterId rawValue pack = true) :
    pack.data.get 0 = 0xFF ∧ pack.data.get 1 = 0xFE ∧ pack.data.get 2 = parameterId ∧
      (pack.data.toList.drop 3).take rawValue.length = rawValue := by
  simp only [parameterChecker, packetHasPayload, Bool.and_eq_true, beq_iff_eq, decide_eq_true_eq] at accepted
  obtain ⟨⟨⟨⟨-, first⟩, second⟩, third⟩, rest⟩ := accepted
  exact ⟨first, second, third, rest⟩

theorem system_checks (idx : UInt16) (code : UInt8) (pack : MotorPackMsg) (accepted : systemChecker idx code pack = true) :
    pack.data.get 0 = (idx >>> 8).toUInt8 ∧ pack.data.get 1 = (idx &&& 0xFF).toUInt8 ∧ pack.data.get 3 = code := by
  simp only [systemChecker, Bool.and_eq_true, beq_iff_eq] at accepted
  exact ⟨accepted.1.1, accepted.1.2, accepted.2⟩

theorem brake_checks (enabled : Bool) (pack : MotorPackMsg) (accepted : brakeChecker enabled pack = true) :
    pack.len = 2 ∧ (pack.data.get 0 = 0xC0 ∨ pack.data.get 0 = 0xA0) ∧ pack.data.get 1 = if enabled then 0 else 1 := by
  simpa only [brakeChecker, Bool.and_eq_true, Bool.or_eq_true, beq_iff_eq, and_assoc] using accepted

variable (busIdx : Int32) (id : UInt32)

theorem write_reply_value (parameterId : UInt8) (rawValue : List UInt8) (frameFlags : UInt8) (short : rawValue.length ≤ 5) :
    ((makeRawWriteAckMessage busIdx id parameterId rawValue frameFlags).data.data.toList.drop 3).take rawValue.length = rawValue :=
  (write_checks parameterId rawValue _ (write_accepted busIdx id parameterId rawValue frameFlags short)).2.2.2

theorem query_reply_length (parameter : MotorParameter) (bytes : List UInt8) (frameFlags : UInt8)
    (sized : bytes.length = parameter.rawType.payloadSize) :
    3 ≤ (makeParameterReply busIdx id parameter.value bytes frameFlags).data.len.toNat ∧
      (makeParameterReply busIdx id parameter.value bytes frameFlags).data.len.toNat < 8 := by
  have bounds : 1 ≤ parameter.rawType.payloadSize ∧ parameter.rawType.payloadSize ≤ 5 := by cases parameter <;> decide
  have len : (makeParameterReply busIdx id parameter.value bytes frameFlags).data.len.toNat = bytes.length + 2 := by
    simp [makeParameterReply, Nat.mod_eq_of_lt (show bytes.length + 2 < 256 by omega)]
  omega

theorem reply_separated (exchange other : Exchange) (reply : MotorMessage) (formed : exchange.Formed)
    (otherFormed : other.Formed) (replied : Reply busIdx id exchange reply) (accepted : other.checker reply.data = true) :
    other = exchange := by
  cases other with
  | query parameter =>
    obtain ⟨first, second, -⟩ := query_checks parameter reply.data accepted
    cases replied with
    | query asked bytes frameFlags sized =>
      have value : asked.value = parameter.value := second
      have same := congrArg parameterFromValue value
      simp only [parameter_from_value, Option.some.injEq] at same
      rw [same]
    | write parameterId rawValue frameFlags => exact absurd (show (0xFF : UInt8) = 0xA0 from first) (by decide)
    | system idx code => exact absurd first (low_not_marked _ (index_high idx formed)).1
    | brake error enabled => exact absurd first (brake_byte_unmarked error.code)
  | write parameterId rawValue =>
    obtain ⟨first, second, third, rest⟩ := write_checks parameterId rawValue reply.data accepted
    cases replied with
    | query asked bytes frameFlags sized => exact absurd (show (0xA0 : UInt8) = 0xFF from first) (by decide)
    | write writtenId writtenValue frameFlags =>
      obtain rfl : writtenId = parameterId := third
      have length : writtenValue.length = rawValue.length := formed.trans otherFormed.symm
      have short := (write_size_short writtenId).2
      have value := write_reply_value busIdx id writtenId writtenValue frameFlags (by rw [formed]; omega)
      rw [length] at value
      exact congrArg (Exchange.write writtenId) (rest.symm.trans value)
    | system idx code => exact absurd first (low_not_marked _ (index_high idx formed)).2.1
    | brake error enabled =>
      have byte : (if enabled then (0 : UInt8) else 1) = 0xFE := second
      cases enabled <;> exact absurd byte (by decide)
  | system idx code =>
    obtain ⟨first, second, fourth⟩ := system_checks idx code reply.data accepted
    obtain ⟨notQuery, notWrite, notBrake⟩ := low_not_marked _ (index_high idx otherFormed)
    cases replied with
    | query asked bytes frameFlags sized => exact absurd first.symm notQuery
    | write parameterId rawValue frameFlags => exact absurd first.symm notWrite
    | system named ackCode =>
      obtain rfl : ackCode = code := fourth
      rw [index_of_bytes named idx first second]
    | brake error enabled => exact absurd first.symm (notBrake error.code)
  | brake enabled =>
    obtain ⟨len, first, second⟩ := brake_checks enabled reply.data accepted
    cases replied with
    | query asked bytes frameFlags sized =>
      have long := (query_reply_length busIdx id asked bytes frameFlags sized).1
      rw [len] at long
      exact absurd long (by decide)
    | write parameterId rawValue frameFlags =>
      rcases first with clear | query
      · exact absurd (show (0xFF : UInt8) = 0xC0 from clear) (by decide)
      · exact absurd (show (0xFF : UInt8) = 0xA0 from query) (by decide)
    | system idx code => exact absurd (show (4 : UInt8) = 2 from len) (by decide)
    | brake error engaged =>
      have byte : (if engaged then (0 : UInt8) else 1) = if enabled then 0 else 1 := second
      cases engaged <;> cases enabled <;> first
        | rfl
        | exact absurd byte (by decide)

theorem reply_no_feedback (exchange : Exchange) (reply : MotorMessage) (formed : exchange.Formed)
    (replied : Reply busIdx id exchange reply) : StatusCache.carriesFeedback reply.data = false := by
  have short : reply.data.len.toNat < 8 := by
    cases replied with
    | query asked bytes frameFlags sized => exact (query_reply_length busIdx id asked bytes frameFlags sized).2
    | write parameterId rawValue frameFlags =>
      have length : rawValue.length ≤ 4 := formed ▸ (write_size_short parameterId).2
      simp only [makeRawWriteAckMessage, UInt8.toNat_ofNat']
      omega
    | system idx code => exact (by decide : 4 < 8)
    | brake error enabled => exact (by decide : 2 < 8)
  have open_end : packetHasPayload reply.data 0 8 = false := decide_eq_false (by omega)
  rw [StatusCache.carriesFeedback, open_end, Bool.false_and]

section Simulator

variable {Number : Type} [FloatArithmetic Number] (adapter : FakeAdapter Number) (moment : Moment Number) (message : MotorMessage)
  (key : Key) (snapshot : FakeMotorSnapshot Number) (reply : MotorMessage)

theorem query_replies (parameter : MotorParameter)
    (answered : (adapter.getParameter moment message key snapshot parameter.value).2 = some reply) :
    Reply message.busIdx message.data.id (.query parameter) reply := by
  simp only [FakeAdapter.getParameter, parameter_from_value] at answered
  split at answered
  · cases answered
  · cases answered
    exact .query parameter _ _ (payload_size _ parameter)

theorem write_replies (rawParameterId : UInt8) (rawValue : List UInt8)
    (answered : (adapter.setParameter message key snapshot (fakeWriteParameterFromRawId rawParameterId) rawParameterId rawValue).2 =
      some reply) : Reply message.busIdx message.data.id (.write rawParameterId rawValue) reply := by
  simp only [FakeAdapter.setParameter] at answered
  split at answered
  · cases answered
  · cases answered
    split
    · rename_i parameter known
      rw [makeWriteAck, FakeAdapter.raw_id_of_parameter rawParameterId parameter known]
      exact .write rawParameterId rawValue _
    · exact .write rawParameterId rawValue _

theorem respond_replies (motor : MotorImpl) (busIdx : Int32) (command : MotorCommand) (exchange : Exchange) (bytes : MotorPackMsg)
    (sent : command.message motor = some bytes) (waits : exchangeOf motor command = some exchange)
    (answered : (adapter.respond moment ⟨busIdx, bytes⟩ key snapshot (recorded motor command).2).2 = some reply) :
    Reply busIdx bytes.id exchange reply := by
  cases command with
  | pvtControl => cases waits
  | posControl => cases waits
  | spdControl => cases waits
  | curControl => cases waits
  | torControl => cases waits
  | stop => cases waits
  | brake enabled =>
    cases waits
    cases answered
    exact .brake snapshot.error enabled
  | setId newIdx =>
    cases waits
    cases answered
    exact .system newIdx 0x04
  | setPos position | resetZeroPos =>
    cases waits
    cases sent
    cases answered
    exact .system motor.idx 0x03
  | setCommunicationMode mode waitForAck =>
    cases waitForAck with
    | false => cases waits
    | true =>
      cases waits
      exact write_replies adapter ⟨busIdx, bytes⟩ key snapshot reply 0x02 [mode.value] answered
  | getParameter parameter =>
    cases waits
    exact query_replies adapter moment ⟨busIdx, bytes⟩ key snapshot reply parameter answered
  | _ =>
    cases waits
    exact write_replies adapter ⟨busIdx, bytes⟩ key snapshot reply _ _ answered

theorem below_system (idx : UInt16) (small : idx ≤ 0x7FE) : idx ≠ 0x7FF := by
  rintro rfl
  exact absurd small (by decide)

theorem send_replies (motor : MotorImpl) (busIdx : Int32) (command : MotorCommand) (exchange : Exchange) (bytes : MotorPackMsg)
    (own : motor.idx ≤ 0x7FE) (sent : command.message motor = some bytes) (waits : exchangeOf motor command = some exchange)
    (answered : (adapter.send moment ⟨busIdx, bytes⟩).2 = some reply) : Reply busIdx bytes.id exchange reply := by
  have checks : command.checker motor = some exchange.checker := by rw [checker_of_exchange, waits, Option.map_some]
  have decoded := decode_command motor (below_system motor.idx own) command (waiting_fits motor command _ checks) bytes sent
  simp only [FakeAdapter.send] at answered
  split at answered
  · cases answered
  · next found present =>
      split at answered
      · rw [decoded] at answered
        exact respond_replies _ moment _ found reply motor busIdx command exchange bytes sent waits answered
      · cases answered

end Simulator

def deliveredTo (motor : MotorImpl) (pack : MotorPackMsg) : Bool := pack.id == systemId || pack.id == motor.idx.toUInt32

-- The kind, motor, parameter and value that two commands have in common. Moving
-- the zero point and setting the position are one kind, and new identifiers are
-- told by themselves.
def Alike (first second : MotorImpl) : MotorCommand → MotorCommand → Prop
  | .setId newIdx, .setId otherIdx => newIdx = otherIdx
  | .setPos _, .setPos _ => first.idx = second.idx
  | .setPos _, .resetZeroPos => first.idx = second.idx
  | .resetZeroPos, .setPos _ => first.idx = second.idx
  | command, other => command = other ∧ first.idx = second.idx

def Exchange.command : Exchange → Option MotorCommand
  | .query parameter => some (.getParameter parameter)
  | .brake enabled => some (.brake enabled)
  | .system _ _ => none
  | .write parameterId rawValue =>
    let byte := fun place : Nat => rawValue.getD place 0
    let first := word (byte 0) (byte 1)
    let second := word (byte 2) (byte 3)
    match parameterId with
    | 0x02 => some (.setCommunicationMode (if byte 0 = 0 then .classicCan else if byte 0 = 1 then .canFd else .canOpen) true)
    | 0x05 => some (.setPVTKpRange first second)
    | 0x06 => some (.setPVTKdRange first second)
    | 0x07 => some (.setPVTPosRange first.toInt16 second.toInt16)
    | 0x08 => some (.setPVTSpdRange first.toInt16 second.toInt16)
    | 0x09 => some (.setPVTTorRange first.toInt16 second.toInt16)
    | 0x0a => some (.setPVTCurRange first.toInt16 second.toInt16)
    | 0x0b => some (.setCanTimeout first)
    | 0x0c => some (.setCurPI first second)
    | 0x0d => some (.setSpdPI first second)
    | 0x0e => some (.setPosPD first second)
    | _ => none

theorem signed_bytes (value : Int16) : (word (value.toUInt16 >>> 8).toUInt8 (value.toUInt16 &&& 0xFF).toUInt8).toInt16 = value := by
  rw [word_bytes, Int16.toInt16_toUInt16]

theorem exchange_command (motor : MotorImpl) (command : MotorCommand) (exchange : Exchange)
    (waits : exchangeOf motor command = some exchange) :
    exchange.command = some command ∨ (∃ newIdx, command = .setId newIdx ∧ exchange = .system newIdx 0x04) ∨
      (((∃ position, command = .setPos position) ∨ command = .resetZeroPos) ∧ exchange = .system motor.idx 0x03) := by
  cases command with
  | pvtControl => cases waits
  | posControl => cases waits
  | spdControl => cases waits
  | curControl => cases waits
  | torControl => cases waits
  | stop => cases waits
  | setId newIdx =>
    cases waits
    exact .inr (.inl ⟨newIdx, rfl, rfl⟩)
  | setPos position =>
    cases waits
    exact .inr (.inr ⟨.inl ⟨position, rfl⟩, rfl⟩)
  | resetZeroPos =>
    cases waits
    exact .inr (.inr ⟨.inr rfl, rfl⟩)
  | setCommunicationMode mode waitForAck =>
    cases waitForAck with
    | false => cases waits
    | true =>
      cases waits
      cases mode <;> exact .inl rfl
  | setPVTKpRange min max =>
    cases waits
    exact .inl (congrArg₂ (fun first second => some (MotorCommand.setPVTKpRange first second)) (word_bytes min) (word_bytes max))
  | setPVTKdRange min max =>
    cases waits
    exact .inl (congrArg₂ (fun first second => some (MotorCommand.setPVTKdRange first second)) (word_bytes min) (word_bytes max))
  | setPVTPosRange min max =>
    cases waits
    exact .inl (congrArg₂ (fun first second => some (MotorCommand.setPVTPosRange first second)) (signed_bytes min) (signed_bytes max))
  | setPVTSpdRange min max =>
    cases waits
    exact .inl (congrArg₂ (fun first second => some (MotorCommand.setPVTSpdRange first second)) (signed_bytes min) (signed_bytes max))
  | setPVTTorRange min max =>
    cases waits
    exact .inl (congrArg₂ (fun first second => some (MotorCommand.setPVTTorRange first second)) (signed_bytes min) (signed_bytes max))
  | setPVTCurRange min max =>
    cases waits
    exact .inl (congrArg₂ (fun first second => some (MotorCommand.setPVTCurRange first second)) (signed_bytes min) (signed_bytes max))
  | setCanTimeout timeoutMs =>
    cases waits
    exact .inl (congrArg (fun first => some (MotorCommand.setCanTimeout first)) (word_bytes timeoutMs))
  | setCurPI kpInt kiInt =>
    cases waits
    exact .inl (congrArg₂ (fun first second => some (MotorCommand.setCurPI first second)) (word_bytes kpInt) (word_bytes kiInt))
  | setSpdPI kpInt kiInt =>
    cases waits
    exact .inl (congrArg₂ (fun first second => some (MotorCommand.setSpdPI first second)) (word_bytes kpInt) (word_bytes kiInt))
  | setPosPD kpInt kdInt =>
    cases waits
    exact .inl (congrArg₂ (fun first second => some (MotorCommand.setPosPD first second)) (word_bytes kpInt) (word_bytes kdInt))
  | brake enabled | getParameter parameter =>
    cases waits
    exact .inl rfl

theorem alike_self (first second : MotorImpl) (command : MotorCommand) (same : first.idx = second.idx) :
    Alike first second command command := by
  cases command with
  | setId newIdx => rfl
  | setPos position => exact same
  | _ => exact ⟨rfl, same⟩

theorem exchange_alike (first second : MotorImpl) (command other : MotorCommand) (exchange : Exchange)
    (waits : exchangeOf first command = some exchange) (otherWaits : exchangeOf second other = some exchange)
    (reached : exchange.command ≠ none → first.idx = second.idx) : Alike first second command other := by
  rcases exchange_command first command exchange waits with own | ⟨newIdx, rfl, rfl⟩ | ⟨moves, rfl⟩
  · rcases exchange_command second other exchange otherWaits with otherOwn | ⟨otherIdx, rfl, rfl⟩ | ⟨otherMoves, rfl⟩
    · obtain rfl := Option.some.inj (own.symm.trans otherOwn)
      exact alike_self first second command (reached (by rw [own]; exact Option.some_ne_none command))
    · cases own
    · cases own
  · rcases exchange_command second other _ otherWaits with otherOwn | ⟨otherIdx, rfl, same⟩ | ⟨otherMoves, same⟩
    · cases otherOwn
    · exact (Exchange.system.inj same).1
    · exact absurd (Exchange.system.inj same).2 (by decide)
  · rcases exchange_command second other _ otherWaits with otherOwn | ⟨otherIdx, rfl, same⟩ | ⟨otherMoves, same⟩
    · cases otherOwn
    · exact absurd (Exchange.system.inj same).2 (by decide)
    · have idx := (Exchange.system.inj same).1
      rcases moves with ⟨position, rfl⟩ | rfl <;> rcases otherMoves with ⟨otherPosition, rfl⟩ | rfl
      · exact idx
      · exact idx
      · exact idx
      · exact ⟨rfl, idx⟩

theorem index_word (first second : UInt16) (same : first.toUInt32 = second.toUInt32) : first = second := by
  apply UInt16.toNat_inj.mp
  simpa using congrArg UInt32.toNat same

theorem reply_id (exchange : Exchange) (reply : MotorMessage) (replied : Reply busIdx id exchange reply)
    (own : exchange.command ≠ none) : reply.data.id = id := by
  cases replied with
  | system idx code => exact absurd rfl own
  | _ => rfl

theorem own_sent_id (motor : MotorImpl) (command : MotorCommand) (exchange : Exchange) (bytes : MotorPackMsg)
    (sent : command.message motor = some bytes) (waits : exchangeOf motor command = some exchange) (own : exchange.command ≠ none) :
    bytes.id = motor.idx.toUInt32 := by
  cases command with
  | setId newIdx | setPos position | resetZeroPos =>
    cases waits
    exact absurd rfl own
  | brake enabled =>
    simp only [MotorCommand.message, MotorImpl.brake] at sent
    split at sent
    · cases sent
    · cases sent
      rfl
  | setCommunicationMode mode waitForAck =>
    simp only [MotorCommand.message, MotorImpl.setCommunicationMode] at sent
    split at sent
    · cases sent
    · cases sent
      rfl
  | _ =>
    cases sent
    rfl

/-- The reply to one waiting command is no feedback, and where it reaches another waiting motor of the bus it is
accepted only by a command alike. -/
theorem no_cross_talk {Number : Type} [FloatArithmetic Number] (adapter : FakeAdapter Number) (moment : Moment Number) (busIdx : Int32)
    (first second : MotorImpl) (command other : MotorCommand) (bytes : MotorPackMsg) (checker otherChecker : Checker)
    (reply : MotorMessage) (own : first.idx ≤ 0x7FE) (otherOwn : second.idx ≤ 0x7FE) (range : commandInRange command)
    (otherRange : commandInRange other) (waits : command.checker first = some checker) (otherWaits : other.checker second = some otherChecker)
    (sent : command.message first = some bytes) (answered : (adapter.send moment ⟨busIdx, bytes⟩).2 = some reply) :
    StatusCache.carriesFeedback reply.data = false ∧
      (deliveredTo second reply.data = true → otherChecker reply.data = true → Alike first second command other) := by
  rw [checker_of_exchange] at waits otherWaits
  obtain ⟨exchange, opened, rfl⟩ := Option.map_eq_some_iff.mp waits
  obtain ⟨otherExchange, otherOpened, rfl⟩ := Option.map_eq_some_iff.mp otherWaits
  have formed := exchange_formed first own command range exchange opened
  have otherFormed := exchange_formed second otherOwn other otherRange otherExchange otherOpened
  have replied := send_replies adapter moment reply first busIdx command exchange bytes own sent opened answered
  refine ⟨reply_no_feedback busIdx bytes.id exchange reply formed replied, ?_⟩
  intro delivered accepted
  obtain rfl := reply_separated busIdx bytes.id exchange otherExchange reply formed otherFormed replied accepted
  refine exchange_alike first second command other otherExchange opened otherOpened ?_
  intro named
  have id : reply.data.id = first.idx.toUInt32 :=
    (reply_id busIdx bytes.id otherExchange reply replied named).trans (own_sent_id first command otherExchange bytes sent opened named)
  simp only [deliveredTo, Bool.or_eq_true, beq_iff_eq, id] at delivered
  rcases delivered with system | reaches
  · exact absurd system (own_id first (below_system first.idx own))
  · exact index_word first.idx second.idx reaches

/-- Two motors that ask for one new identifier accept each other's acknowledgement. -/
theorem no_cross_talk_set_id :
    StatusCache.carriesFeedback (makeSystemAck 0 0 9 4).data = false ∧
      (deliveredTo ⟨6, 0, 0⟩ (makeSystemAck 0 0 9 4).data = true → systemChecker 9 0x04 (makeSystemAck 0 0 9 4).data = true →
        Alike ⟨5, 0, 0⟩ ⟨6, 0, 0⟩ (.setId 9) (.setId 9)) :=
  no_cross_talk (sampleAdapter (sampleSnapshot (some 0) .noError)) sampleMoment 0 ⟨5, 0, 0⟩ ⟨6, 0, 0⟩ (.setId 9) (.setId 9)
    (MotorImpl.setId ⟨5, 0, 0⟩ 9) (systemChecker 9 0x04) (systemChecker 9 0x04) (makeSystemAck 0 0 9 4) (by decide) (by decide)
    (show (9 : UInt16) ≤ 0x7FE by decide) (show (9 : UInt16) ≤ 0x7FE by decide) rfl rfl rfl rfl

end EncosDriver.Fake
