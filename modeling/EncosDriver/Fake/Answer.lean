import EncosDriver.Fake.Adapter
import EncosDriver.Fake.RoundTrip

set_option autoImplicit false

namespace EncosDriver.Fake

open Message Motor Lib MotorImpl

variable {Number : Type} [FloatArithmetic Number]

def Supports (snapshot : FakeMotorSnapshot Number) : MotorCommand → Prop
  | .brake _ => snapshotIsNewFirmware snapshot = false
  | .getParameter .encoderAngle => snapshotIsNewFirmware snapshot = true
  | .getParameter .productId => snapshotIsNewFirmware snapshot = true
  | .getParameter .hardwareVersion => snapshotIsNewFirmware snapshot = true
  | .getParameter .firmwareVersion => snapshot.fwVersion ≠ none
  | _ => True

def snapshotRaw (snapshot : FakeMotorSnapshot Number) : MotorParameter → Option RawValue
  | .curKpKi => some (.kpKi snapshot.curGainRaw)
  | .spdKpKi => some (.kpKi snapshot.spdGainRaw)
  | .posKpKd => some (.kpKd snapshot.posGainRaw)
  | .canTimeout => some (.uint16 snapshot.canTimeoutMs)
  | .productId => some (.uint32 snapshot.productId)
  | .hardwareVersion => some (.uint32 snapshot.hwVersion)
  | .firmwareVersion => snapshot.fwVersion.map .uint32
  | _ => none

def Answers (motor : MotorImpl) (busIdx : Int32) (snapshot : FakeMotorSnapshot Number) (command : MotorCommand) (checker : Checker)
    (reply : Option MotorMessage) : Prop :=
  ∃ answer, reply = some answer ∧ answer.busIdx = busIdx ∧ (answer.data.id = motor.idx.toUInt32 ∨ answer.data.id = systemId) ∧
    checker answer.data = true ∧
      ∀ parameter value, command = .getParameter parameter → snapshotRaw snapshot parameter = some value →
        decodeParameterRaw parameter.rawType answer.data = value

def AnswerReady (snapshot : FakeMotorSnapshot Number) : MotorCommand → Prop
  | .brake _ => snapshot.error.code &&& 0x3F = 0
  | .getParameter _ => snapshot.fwVersion ≠ none
  | _ => True

theorem payload_prefix (bytes : List UInt8) (short : bytes.length ≤ 8) : (payload bytes).toList.take bytes.length = bytes := by
  apply List.ext_getElem
  · simp [short]
  · intro index inside within
    simp [payload, within]

variable (busIdx : Int32)

theorem write_accepted (id : UInt32) (rawParameterId : UInt8) (rawValue : List UInt8) (frameFlags : UInt8)
    (short : rawValue.length ≤ 5) :
    parameterChecker rawParameterId rawValue (makeRawWriteAckMessage busIdx id rawParameterId rawValue frameFlags).data = true := by
  have len : (makeRawWriteAckMessage busIdx id rawParameterId rawValue frameFlags).data.len.toNat = rawValue.length + 3 := by
    simp [makeRawWriteAckMessage, Nat.mod_eq_of_lt (show rawValue.length + 3 < 256 by omega)]
  have bytes : (makeRawWriteAckMessage busIdx id rawParameterId rawValue frameFlags).data.data =
      payload (0xFF :: 0xFE :: rawParameterId :: rawValue) := by
    simp [makeRawWriteAckMessage, List.take_of_length_le short]
  have written : ((payload (0xFF :: 0xFE :: rawParameterId :: rawValue)).toList.drop 3).take rawValue.length = rawValue := by
    have whole := payload_prefix (0xFF :: 0xFE :: rawParameterId :: rawValue) (by simp only [List.length_cons]; omega)
    have rest := congrArg (List.drop 3) whole
    rw [List.drop_take] at rest
    simpa using rest
  have covers : packetHasPayload (makeRawWriteAckMessage busIdx id rawParameterId rawValue frameFlags).data 0 (3 + rawValue.length) := by
    simp only [packetHasPayload, len]
    exact decide_eq_true (by omega)
  rw [parameterChecker, covers, bytes, written]
  simp [payload_get]

theorem payload_size (snapshot : FakeMotorSnapshot Number) (parameter : MotorParameter) :
    (parameterPayload snapshot parameter).length = parameter.rawType.payloadSize := by
  cases parameter <;> rfl

theorem size_short (rawType : RawType) : rawType.payloadSize ≤ 5 := by
  cases rawType <;> decide

theorem query_accepted (id : UInt32) (parameter : MotorParameter) (bytes : List UInt8) (frameFlags : UInt8)
    (sized : bytes.length = parameter.rawType.payloadSize) :
    getParameterChecker parameter (makeParameterReply busIdx id parameter.value bytes frameFlags).data = true := by
  have short := size_short parameter.rawType
  have len : (makeParameterReply busIdx id parameter.value bytes frameFlags).data.len.toNat = bytes.length + 2 := by
    simp [makeParameterReply, Nat.mod_eq_of_lt (show bytes.length + 2 < 256 by omega)]
  have covers : packetHasPayload (makeParameterReply busIdx id parameter.value bytes frameFlags).data 2 parameter.rawType.payloadSize := by
    simp only [packetHasPayload, len]
    exact decide_eq_true (by omega)
  rw [getParameterChecker, covers]
  simp [makeParameterReply, payload_get]

theorem raw_recovered (snapshot : FakeMotorSnapshot Number) (busIdx : Int32) (id : UInt32) (frameFlags : UInt8) (parameter : MotorParameter)
    (value : RawValue) (held : snapshotRaw snapshot parameter = some value) :
    decodeParameterRaw parameter.rawType (makeParameterReply busIdx id parameter.value (parameterPayload snapshot parameter) frameFlags).data =
      value := by
  cases parameter <;> first
    | cases held
    | skip
  case canTimeout => exact congrArg RawValue.uint16 (word_bytes snapshot.canTimeoutMs)
  case curKpKi =>
    exact congrArg₂ (fun kp ki => RawValue.kpKi ⟨kp, ki⟩) (word_bytes snapshot.curGainRaw.kp) (word_bytes snapshot.curGainRaw.ki)
  case spdKpKi =>
    exact congrArg₂ (fun kp ki => RawValue.kpKi ⟨kp, ki⟩) (word_bytes snapshot.spdGainRaw.kp) (word_bytes snapshot.spdGainRaw.ki)
  case posKpKd =>
    exact congrArg₂ (fun kp kd => RawValue.kpKd ⟨kp, kd⟩) (word_bytes snapshot.posGainRaw.kp) (word_bytes snapshot.posGainRaw.kd)
  case productId => exact congrArg RawValue.uint32 (word32_bytes snapshot.productId)
  case hardwareVersion => exact congrArg RawValue.uint32 (word32_bytes snapshot.hwVersion)
  case firmwareVersion =>
    obtain ⟨version, known, rfl⟩ := Option.map_eq_some_iff.mp held
    have answered : decodeParameterRaw .uint32 (makeParameterReply busIdx id MotorParameter.firmwareVersion.value
        (parameterPayload snapshot .firmwareVersion) frameFlags).data = .uint32 (snapshot.fwVersion.getD 0) :=
      congrArg RawValue.uint32 (word32_bytes (snapshot.fwVersion.getD 0))
    rw [known, Option.getD_some] at answered
    exact answered

theorem brake_accepted (id : UInt32) (error : MotorError) (enabled : Bool) :
    brakeChecker enabled (makeBrakeAck busIdx id error enabled).data = true ↔ error.code &&& 0x3F = 0 := by
  have codes : ∀ code : BitVec 8, (0xC0#8 ||| code = 0xC0#8 ∨ 0xC0#8 ||| code = 0xA0#8) ↔ code &&& 0x3F#8 = 0#8 := by
    decide +kernel
  have acknowledged : ((0xC0 : UInt8) ||| error.code = 0xC0 ∨ (0xC0 : UInt8) ||| error.code = 0xA0) ↔ error.code &&& 0x3F = 0 := by
    simpa only [← UInt8.toBitVec_inj, UInt8.toBitVec_or, UInt8.toBitVec_and, UInt8.toBitVec_ofNat] using codes error.code.toBitVec
  rw [← acknowledged]
  simp [brakeChecker, makeBrakeAck, payload_get]

theorem system_accepted (idx : UInt16) (code : UInt8) :
    systemChecker idx code (makeSystemAck busIdx (idx >>> 8).toUInt8 (idx &&& 0xFF).toUInt8 code).data = true := by
  have bytes (high low : UInt8) : (payload [high, low, 0, code]).get 0 = high ∧ (payload [high, low, 0, code]).get 1 = low ∧
      (payload [high, low, 0, code]).get 3 = code := ⟨rfl, rfl, rfl⟩
  simp [systemChecker, makeSystemAck, bytes]

namespace FakeAdapter

omit [FloatArithmetic Number] in
@[simp] theorem record_reply_mode (adapter : FakeAdapter Number) (command : FakeCommandRecord) :
    (adapter.record command).replyMode = adapter.replyMode := by
  unfold record
  split <;> rfl

omit [FloatArithmetic Number] in
@[simp] theorem record_policies (adapter : FakeAdapter Number) (command : FakeCommandRecord) :
    (adapter.record command).parameterPolicies = adapter.parameterPolicies := by
  unfold record
  split <;> rfl

variable (adapter : FakeAdapter Number) (moment : Moment Number) (message : MotorMessage)

theorem received_reply_mode : (adapter.received moment message).replyMode = adapter.replyMode := by
  simp only [received, record_reply_mode]
  split <;> rfl

theorem received_policy (key : Key) (parameter : Option MotorParameter) :
    (adapter.received moment message).writePolicy key parameter = adapter.writePolicy key parameter := by
  have same : (adapter.received moment message).parameterPolicies = adapter.parameterPolicies := by
    simp only [received, record_policies]
    split <;> rfl
  simp only [writePolicy, same]

theorem send_responds (key : Key)
    (snapshot : FakeMotorSnapshot Number) (payload : FakeCommandPayload) (automatic : adapter.replyMode = .automatic)
    (named : key = (message.busIdx, logicalMotorId message.data)) (present : adapter.current moment key = some snapshot)
    (decoded : (decodePayload message.data).2 = payload) :
    adapter.send moment message = (adapter.received moment message).respond moment message key snapshot payload := by
  subst named decoded
  simp only [send, present, received_reply_mode, automatic, ↓reduceIte]

theorem advance_keeps (moment : Moment Number) (positionErrorEnabled : Bool) (snapshot : FakeMotorSnapshot Number)
    (motion : Option (FakeMotionState Number)) (parameter : MotorParameter) :
    snapshotRaw (advanceMotion moment positionErrorEnabled snapshot motion).1 parameter = snapshotRaw snapshot parameter := by
  fun_cases advanceMotion moment positionErrorEnabled snapshot motion <;> cases parameter <;> rfl

variable (adapter : FakeAdapter Number) (moment : Moment Number) (message : MotorMessage) (key : Key)
  (snapshot : FakeMotorSnapshot Number)

theorem query_unanswered (value : UInt8) (versionless : snapshot.fwVersion = none) :
    (adapter.getParameter moment message key snapshot value).2 = none := by
  simp [getParameter, versionless]

omit [FloatArithmetic Number] in
theorem hidden_supported (parameter : MotorParameter) (supports : Supports snapshot (.getParameter parameter)) :
    (!snapshotIsNewFirmware snapshot && parameterHiddenFromOldFirmware parameter) = false := by
  cases parameter <;> simp_all [parameterHiddenFromOldFirmware, Supports]

theorem query_answered (parameter : MotorParameter) (known : snapshot.fwVersion ≠ none)
    (supports : Supports snapshot (.getParameter parameter)) :
    ∃ read : FakeMotorSnapshot Number, (adapter.getParameter moment message key snapshot parameter.value).2 = some (makeParameterReply message.busIdx message.data.id
        parameter.value (parameterPayload read parameter) read.replyFrameFlags) ∧
      snapshotRaw read parameter = snapshotRaw snapshot parameter := by
  have shown := hidden_supported snapshot parameter supports
  have version : snapshot.fwVersion.isNone = false := by
    rw [Option.isNone_eq_false_iff]
    exact Option.isSome_iff_ne_none.mpr known
  refine ⟨if parameter = .position ∨ parameter = .speed ∨ parameter = .current then
    (advanceMotion moment adapter.positionErrorEnabled snapshot (adapter.motions.find key)).1 else snapshot, ?_, ?_⟩
  · simp [getParameter, version, shown]
  · split
    · exact advance_keeps moment adapter.positionErrorEnabled snapshot (adapter.motions.find key) parameter
    · rfl

theorem raw_id_of_parameter (rawParameterId : UInt8) (parameter : MotorParameter)
    (known : fakeWriteParameterFromRawId rawParameterId = some parameter) : fakeRawIdFromWriteParameter parameter = rawParameterId := by
  unfold fakeWriteParameterFromRawId at known
  split at known <;> first
    | (obtain rfl := Option.some.inj known; rfl)
    | cases known

theorem write_answered (rawParameterId : UInt8) (rawValue : List UInt8)
    (success : adapter.writePolicy key (fakeWriteParameterFromRawId rawParameterId) = .success) :
    ∃ frameFlags, (adapter.setParameter message key snapshot (fakeWriteParameterFromRawId rawParameterId) rawParameterId rawValue).2 =
      some (makeRawWriteAckMessage message.busIdx message.data.id rawParameterId rawValue frameFlags) := by
  refine ⟨(applyWrite snapshot (fakeWriteParameterFromRawId rawParameterId) rawParameterId rawValue).replyFrameFlags, ?_⟩
  simp only [setParameter, success, ne_eq, not_true_eq_false, ↓reduceIte, Option.some.injEq]
  split
  · rename_i parameter known
    simp only [makeWriteAck, raw_id_of_parameter rawParameterId parameter known]
  · rfl

end FakeAdapter

theorem sent_id (motor : MotorImpl) (command : MotorCommand) (bytes : MotorPackMsg) (sent : command.message motor = some bytes) :
    bytes.id = motor.idx.toUInt32 ∨ bytes.id = systemId := by
  cases command with
  | brake enabled =>
    simp only [MotorCommand.message, brake] at sent
    split at sent
    · cases sent
    · cases sent
      exact .inl rfl
  | setCommunicationMode mode waitForAck =>
    simp only [MotorCommand.message, setCommunicationMode] at sent
    split at sent
    · cases sent
    · cases sent
      exact .inl rfl
  | _ =>
    cases sent
    first
      | exact .inl rfl
      | exact .inr rfl

theorem waiting_fits (motor : MotorImpl) (command : MotorCommand) (checker : Checker) (waits : command.checker motor = some checker) :
    Fits command := by
  cases command with
  | pvtControl => cases waits
  | posControl => cases waits
  | spdControl => cases waits
  | curControl => cases waits
  | torControl => cases waits
  | stop => cases waits
  | _ => trivial

section Commands

variable (adapter : FakeAdapter Number) (moment : Moment Number) (motor : MotorImpl) (busIdx : Int32)
  (snapshot : FakeMotorSnapshot Number) (bytes : MotorPackMsg)

theorem setter_answers (command : MotorCommand) (key : Key) (rawParameterId : UInt8) (rawValue : List UInt8) (waitForAck : Bool)
    (sent : command.message motor = some bytes) (setter : ∀ parameter, command ≠ .getParameter parameter) (short : rawValue.length ≤ 5)
    (success : adapter.writePolicy key (fakeWriteParameterFromRawId rawParameterId) = .success) :
    Answers motor busIdx snapshot command (parameterChecker rawParameterId rawValue)
      (adapter.respond moment ⟨busIdx, bytes⟩ key snapshot (written rawParameterId rawValue waitForAck).2).2 := by
  obtain ⟨frameFlags, answered⟩ := adapter.write_answered ⟨busIdx, bytes⟩ key snapshot rawParameterId rawValue success
  exact ⟨_, answered, rfl, sent_id motor command bytes sent, write_accepted busIdx bytes.id rawParameterId rawValue frameFlags short,
    fun parameter _ query _ => absurd query (setter parameter)⟩

theorem query_answers_iff (parameter : MotorParameter) (key : Key) (sent : (MotorCommand.getParameter parameter).message motor = some bytes)
    (supports : Supports snapshot (.getParameter parameter)) :
    Answers motor busIdx snapshot (.getParameter parameter) (getParameterChecker parameter)
      (adapter.respond moment ⟨busIdx, bytes⟩ key snapshot (.getParameter parameter.value)).2 ↔ snapshot.fwVersion ≠ none := by
  constructor
  · rintro ⟨answer, answered, _⟩ versionless
    have silent := adapter.query_unanswered moment ⟨busIdx, bytes⟩ key snapshot parameter.value versionless
    rw [FakeAdapter.respond, silent] at answered
    cases answered
  · intro known
    obtain ⟨read, answered, same⟩ := adapter.query_answered moment ⟨busIdx, bytes⟩ key snapshot parameter known supports
    refine ⟨_, answered, rfl, sent_id motor _ bytes sent,
      query_accepted busIdx bytes.id parameter _ _ (payload_size read parameter), ?_⟩
    intro other value query held
    obtain rfl := MotorCommand.getParameter.inj query
    rw [← same] at held
    exact raw_recovered read busIdx bytes.id read.replyFrameFlags parameter value held

theorem brake_answers_iff (enabled : Bool) (key : Key) (waitForAck : Bool) (sent : (MotorCommand.brake enabled).message motor = some bytes) :
    Answers motor busIdx snapshot (.brake enabled) (brakeChecker enabled)
      (adapter.respond moment ⟨busIdx, bytes⟩ key snapshot (.brake enabled waitForAck)).2 ↔ snapshot.error.code &&& 0x3F = 0 := by
  constructor
  · rintro ⟨answer, answered, _, _, accepted, _⟩
    cases answered
    exact (brake_accepted busIdx bytes.id snapshot.error enabled).mp accepted
  · intro clear
    exact ⟨_, rfl, rfl, sent_id motor _ bytes sent, (brake_accepted busIdx bytes.id snapshot.error enabled).mpr clear,
      fun parameter _ query _ => by cases query⟩

end Commands

/-- Every waiting command that the firmware supports is answered as its checker expects exactly where it is ready. -/
theorem answered_iff (adapter : FakeAdapter Number) (moment : Moment Number) (motor : MotorImpl) (busIdx : Int32)
    (snapshot : FakeMotorSnapshot Number) (command : MotorCommand) (checker : Checker) (bytes : MotorPackMsg)
    (automatic : adapter.replyMode = .automatic)
    (success : ∀ parameter, adapter.writePolicy (busIdx, motor.idx.toUInt32.toInt32) parameter = .success)
    (present : adapter.current moment (busIdx, motor.idx.toUInt32.toInt32) = some snapshot) (own : motor.idx ≠ 0x7FF)
    (sent : command.message motor = some bytes) (waits : command.checker motor = some checker) (supports : Supports snapshot command) :
    Answers motor busIdx snapshot command checker (adapter.send moment ⟨busIdx, bytes⟩).2 ↔ AnswerReady snapshot command := by
  have fits := waiting_fits motor command checker waits
  have decoded := decode_command motor own command fits bytes sent
  obtain ⟨logical, _⟩ := logical_motor motor own command bytes sent
  have responds := adapter.send_responds moment ⟨busIdx, bytes⟩ (busIdx, motor.idx.toUInt32.toInt32) snapshot _ automatic
    (by rw [logical]) present rfl
  have ready : ∀ parameter, (adapter.received moment ⟨busIdx, bytes⟩).writePolicy (busIdx, motor.idx.toUInt32.toInt32) parameter =
      .success := by
    intro parameter
    rw [adapter.received_policy moment ⟨busIdx, bytes⟩]
    exact success parameter
  rw [responds, decoded]
  cases command with
  | pvtControl => cases waits
  | posControl => cases waits
  | spdControl => cases waits
  | curControl => cases waits
  | torControl => cases waits
  | stop => cases waits
  | brake enabled =>
    cases waits
    exact brake_answers_iff _ moment motor busIdx snapshot bytes enabled _ true sent
  | setId newIdx =>
    cases waits
    exact iff_of_true ⟨_, rfl, rfl, .inr rfl, system_accepted busIdx newIdx 0x04, fun parameter _ query _ => by cases query⟩ trivial
  | setPos position | resetZeroPos =>
    cases waits
    cases sent
    exact iff_of_true ⟨_, rfl, rfl, .inr rfl, system_accepted busIdx motor.idx 0x03, fun parameter _ query _ => by cases query⟩ trivial
  | setCommunicationMode mode waitForAck =>
    cases waitForAck with
    | false => cases waits
    | true =>
      cases waits
      exact iff_of_true (setter_answers _ moment motor busIdx snapshot bytes _ _ 0x02 [mode.value] true sent (by simp) (by simp)
        (ready _)) trivial
  | getParameter parameter =>
    cases waits
    exact query_answers_iff _ moment motor busIdx snapshot bytes parameter _ sent supports
  | _ =>
    cases waits
    exact iff_of_true (setter_answers _ moment motor busIdx snapshot bytes _ _ _ _ false sent (by simp) (by simp [bigEndian])
      (ready _)) trivial

section Samples

def unitProperties (Number : Type) [FloatArithmetic Number] : MotorProperties Number :=
  let unit : Range Number := ⟨ofInt (-1), ofInt 1⟩
  ⟨unit, unit, unit, unit, unit, unit, ofInt 1, false, 0⟩

def sampleMoment : Moment Float32 := ⟨0, fun _ => ofInt 0, unitProperties Float32⟩

def sampleSnapshot (fwVersion : Option UInt32) (error : MotorError) : FakeMotorSnapshot Float32 :=
  { createSnapshot (unitProperties Float32) with fwVersion := fwVersion, error := error }

def sampleAdapter (snapshot : FakeMotorSnapshot Float32) : FakeAdapter Float32 where
  snapshots := (∅ : Table Key (FakeMotorSnapshot Float32)).put (0, 5) snapshot
  motions := ∅
  parameterPolicies := ∅
  replyMode := .automatic
  autoCreateMotorEnabled := false
  commandRecordingEnabled := true
  commandRecords := []
  replyRecords := []
  rawSentMessages := []
  positionErrorEnabled := false

/-- A motor without a version leaves every query unanswered, and one with an error has its brake acknowledged beyond
recognition. -/
theorem supported_unanswered :
    (Supports (sampleSnapshot none .noError) (.getParameter .canTimeout) ∧
      ¬Answers ⟨5, 0, 0⟩ 0 (sampleSnapshot none .noError) (.getParameter .canTimeout) (getParameterChecker .canTimeout)
        ((sampleAdapter (sampleSnapshot none .noError)).send sampleMoment ⟨0, MotorImpl.getParameter ⟨5, 0, 0⟩ .canTimeout⟩).2) ∧
      Supports (sampleSnapshot (some 0) .overTemperature) (.brake true) ∧
        ∃ bytes, MotorImpl.brake ⟨5, 0, 0⟩ true = some bytes ∧
          ¬Answers ⟨5, 0, 0⟩ 0 (sampleSnapshot (some 0) .overTemperature) (.brake true) (brakeChecker true)
            ((sampleAdapter (sampleSnapshot (some 0) .overTemperature)).send sampleMoment ⟨0, bytes⟩).2 := by
  refine ⟨⟨trivial, ?_⟩, rfl, _, rfl, ?_⟩
  · rintro ⟨answer, answered, _⟩
    cases answered
  · rintro ⟨answer, answered, _, _, accepted, _⟩
    cases answered
    revert accepted
    decide +kernel

theorem timeout_answered :
    Answers ⟨5, 0, 0⟩ 0 (sampleSnapshot (some 0) .noError) (.getParameter .canTimeout) (getParameterChecker .canTimeout)
      ((sampleAdapter (sampleSnapshot (some 0) .noError)).send sampleMoment ⟨0, MotorImpl.getParameter ⟨5, 0, 0⟩ .canTimeout⟩).2 :=
  (answered_iff (sampleAdapter (sampleSnapshot (some 0) .noError)) sampleMoment ⟨5, 0, 0⟩ 0 (sampleSnapshot (some 0) .noError)
    (.getParameter .canTimeout) _ _ rfl (fun parameter => by cases parameter <;> rfl) rfl (by decide) rfl rfl trivial).mpr
    (by simp [AnswerReady, sampleSnapshot])

end Samples

end EncosDriver.Fake
