import EncosDriver.GsUsb.Adapter

set_option autoImplicit false

namespace EncosDriver.Can

open Message

def canEffFlag : UInt32 := 0x80000000
def canRtrFlag : UInt32 := 0x40000000
def canErrFlag : UInt32 := 0x20000000
def canSffMask : UInt32 := 0x7FF
def canEffMask : UInt32 := 0x1FFFFFFF
def canMtu : Int := 16
def canfdMtu : Int := 72
def canMaxDlen : UInt8 := 8
def canfdMaxDlen : UInt8 := 64
def canfdBrs : UInt8 := 0x01
def canfdFdf : UInt8 := 0x04

structure CanFrame where
  canId : UInt32
  len : UInt8
  data : Vector UInt8 8
deriving DecidableEq

structure CanfdFrame where
  canId : UInt32
  len : UInt8
  flags : UInt8
  data : Vector UInt8 64
deriving DecidableEq

def maxId (extended : Bool) : UInt32 := if extended then canEffMask else canSffMask

def decodeCanFrame (frame : CanfdFrame) (nbytes : Int) : MotorPackMsg :=
  let extended : Bool := frame.canId &&& canEffFlag ≠ 0
  let flags := sanitizeCanFrameFlags ((if extended then kCanFrameFlagEff else 0) |||
    (if frame.canId &&& canRtrFlag ≠ 0 then kCanFrameFlagRtr else 0) |||
    (if nbytes = canfdMtu ∧ frame.flags &&& canfdFdf ≠ 0 then kCanFrameFlagFdMask else 0))
  let len := if frame.len < 8 then frame.len else 8
  { id := frame.canId &&& maxId extended
    frameFlags := flags
    len := len
    data := if flags &&& kCanFrameFlagRtr = 0 then payload (frame.data.toList.take len.toNat) else payload [] }

structure CanHandle where
  running : Bool
  fdFramesEnabled : Bool
deriving DecidableEq

inductive Dropped where
  | notOk
  | invalidFdBits (flags : UInt8)
  | tooLong (len : UInt8)
  | idRange (id : UInt32) (extended : Bool)
  | fdRemote (id : UInt32)
  | fdDisabled (id : UInt32)
deriving DecidableEq

inductive Written where
  | classic (frame : CanFrame)
  | fd (frame : CanfdFrame)
deriving DecidableEq

def CanHandle.send (handle : CanHandle) (message : MotorMessage) : Except Dropped Written :=
  let msg := message.data
  let flags := sanitizeCanFrameFlags msg.frameFlags
  let extended := canFrameFlagsUseExtendedId flags
  let rtr := canFrameFlagsUseRtr flags
  let canId := msg.id ||| (if extended then canEffFlag else 0)
  if !handle.running then .error .notOk
  else if !canFrameFlagsHaveValidCanFdBits flags then .error (.invalidFdBits flags)
  else if msg.len > 8 then .error (.tooLong msg.len)
  else if msg.id > maxId extended then .error (.idRange msg.id extended)
  else if canFrameFlagsUseCanFd flags then
    if rtr then .error (.fdRemote msg.id)
    else if !handle.fdFramesEnabled then .error (.fdDisabled msg.id)
    else .ok (.fd ⟨canId, msg.len, canfdBrs, GsUsb.filled msg.data.toList msg.len.toNat⟩)
  else .ok (.classic ⟨canId ||| (if rtr then canRtrFlag else 0), msg.len,
    if rtr then payload [] else payload (msg.data.toList.take msg.len.toNat)⟩)

def accepted (frame : CanfdFrame) (nbytes : Int) : Bool :=
  (nbytes = canMtu || nbytes = canfdMtu) && frame.canId &&& canErrFlag = 0 &&
    frame.len ≤ (if nbytes = canMtu then canMaxDlen else canfdMaxDlen)

-- What the kernel delivers of a written frame: the same identifier, length and
-- data, with the FD marker on exactly the frames that were written as FD. A
-- classic frame may come in either structure.
def Delivered (frame : CanfdFrame) (nbytes : Int) : Written → Prop
  | .classic written => frame.canId = written.canId ∧ frame.len = written.len ∧
      frame.data.toList.take 8 = written.data.toList ∧ frame.flags &&& canfdFdf = 0 ∧ (nbytes = canMtu ∨ nbytes = canfdMtu)
  | .fd written => frame.canId = written.canId ∧ frame.len = written.len ∧ frame.data = written.data ∧
      frame.flags &&& canfdFdf ≠ 0 ∧ nbytes = canfdMtu

def carried (msg : MotorPackMsg) : MotorPackMsg :=
  { id := msg.id
    frameFlags := sanitizeCanFrameFlags msg.frameFlags
    len := msg.len
    data := if canFrameFlagsUseRtr msg.frameFlags then payload [] else payload (msg.data.toList.take msg.len.toNat) }

section Send

variable (handle : CanHandle) (message : MotorMessage)

def frameId (msg : MotorPackMsg) : UInt32 :=
  msg.id ||| (if canFrameFlagsUseExtendedId msg.frameFlags then canEffFlag else 0)

structure Sendable (msg : MotorPackMsg) : Prop where
  fdBits : canFrameFlagsHaveValidCanFdBits msg.frameFlags = true
  len : msg.len ≤ 8
  id : msg.id ≤ maxId (canFrameFlagsUseExtendedId msg.frameFlags)
  fdRemote : canFrameFlagsUseCanFd msg.frameFlags = true → canFrameFlagsUseRtr msg.frameFlags = false

theorem sanitized_fd_bits (flags : UInt8) :
    canFrameFlagsHaveValidCanFdBits (sanitizeCanFrameFlags flags) = canFrameFlagsHaveValidCanFdBits flags := by
  simp only [canFrameFlagsHaveValidCanFdBits, sanitize_sanitize, sanitized_can_fd]

theorem send_sendable (sendable : Sendable message.data) (running : handle.running = true)
    (enabled : canFrameFlagsUseCanFd message.data.frameFlags = true → handle.fdFramesEnabled = true) :
    handle.send message = .ok
      (if canFrameFlagsUseCanFd message.data.frameFlags then
        .fd ⟨frameId message.data, message.data.len, canfdBrs, GsUsb.filled message.data.data.toList message.data.len.toNat⟩
      else
        .classic ⟨frameId message.data ||| (if canFrameFlagsUseRtr message.data.frameFlags then canRtrFlag else 0),
          message.data.len, (carried message.data).data⟩) := by
  obtain ⟨fdBits, len, id, fdRemote⟩ := sendable
  have short : ¬ message.data.len > 8 := UInt8.not_lt.mpr len
  have inRange : ¬ message.data.id > maxId (canFrameFlagsUseExtendedId message.data.frameFlags) := UInt32.not_lt.mpr id
  simp only [CanHandle.send, sanitized_extended, sanitized_rtr, sanitized_can_fd, sanitized_fd_bits, running, fdBits,
    Bool.not_true, Bool.false_eq_true, if_false, short, inRange]
  by_cases fd : canFrameFlagsUseCanFd message.data.frameFlags = true
  · simp only [fd, fdRemote fd, enabled fd, if_true, Bool.not_true, Bool.false_eq_true, if_false, frameId]
  · simp only [fd, Bool.false_eq_true, if_false, frameId, carried]

theorem send_only_sendable (written : Written) (sent : handle.send message = .ok written) :
    Sendable message.data ∧ handle.running = true ∧
      (canFrameFlagsUseCanFd message.data.frameFlags = true → handle.fdFramesEnabled = true) := by
  simp only [CanHandle.send, sanitized_extended, sanitized_rtr, sanitized_can_fd, sanitized_fd_bits] at sent
  split at sent
  · cases sent
  rename_i running
  split at sent
  · cases sent
  rename_i fdBits
  split at sent
  · cases sent
  rename_i short
  split at sent
  · cases sent
  rename_i inRange
  rw [Bool.not_eq_true', Bool.not_eq_false] at running fdBits
  have kept (fdRemote : canFrameFlagsUseCanFd message.data.frameFlags = true → canFrameFlagsUseRtr message.data.frameFlags = false) :
      Sendable message.data := ⟨fdBits, UInt8.not_lt.mp short, UInt32.not_lt.mp inRange, fdRemote⟩
  split at sent
  · split at sent
    · cases sent
    rename_i remote
    split at sent
    · cases sent
    rename_i enabled
    rw [Bool.not_eq_true', Bool.not_eq_false] at enabled
    exact ⟨kept fun _ => Bool.eq_false_iff.mpr remote, running, fun _ => enabled⟩
  · rename_i classic
    exact ⟨kept fun fd => absurd fd classic, running, fun fd => absurd fd classic⟩

end Send

theorem decode_marked (frame : CanfdFrame) (nbytes : Int) (id : UInt32) (extended rtr fd : Bool)
    (made : frame.canId = id ||| (if extended then canEffFlag else 0) ||| (if rtr then canRtrFlag else 0))
    (inRange : id ≤ maxId extended) (marker : fd = decide (nbytes = canfdMtu ∧ frame.flags &&& canfdFdf ≠ 0)) :
    decodeCanFrame frame nbytes =
      { id := id
        frameFlags := sanitizeCanFrameFlags (GsUsb.carriedFlags extended rtr fd)
        len := if frame.len < 8 then frame.len else 8
        data := if rtr then payload [] else payload (frame.data.toList.take (if frame.len < 8 then frame.len else 8).toNat) } := by
  have masked := (GsUsb.masked_same id extended).mpr inRange
  obtain ⟨eff, remote, same⟩ := GsUsb.marked_id id extended rtr frame.canId (masked.symm ▸ made)
  have wide : decide (frame.canId &&& canEffFlag ≠ 0) = extended := by
    rw [show frame.canId &&& canEffFlag = _ from eff]
    cases extended <;> rfl
  have asked : frame.canId &&& canRtrFlag ≠ 0 ↔ rtr = true := by
    rw [show frame.canId &&& canRtrFlag = _ from remote]
    cases rtr <;> decide
  have marked : (nbytes = canfdMtu ∧ frame.flags &&& canfdFdf ≠ 0) ↔ fd = true := by rw [marker, decide_eq_true_iff]
  have flags : sanitizeCanFrameFlags (GsUsb.carriedFlags extended rtr fd) &&& kCanFrameFlagRtr = 0 ↔ ¬rtr = true := by
    cases extended <;> cases rtr <;> cases fd <;> decide
  have id : frame.canId &&& maxId extended = id := same.trans masked
  have combined : sanitizeCanFrameFlags ((if extended = true then kCanFrameFlagEff else 0) |||
      (if rtr = true then kCanFrameFlagRtr else 0) ||| (if fd = true then kCanFrameFlagFdMask else 0)) =
        sanitizeCanFrameFlags (GsUsb.carriedFlags extended rtr fd) := rfl
  simp only [decodeCanFrame, wide, asked, marked, id, combined, flags, ite_not]

theorem take_filled (bytes : List UInt8) (size : Nat) : payload ((GsUsb.filled bytes size).toList.take size) = payload (bytes.take size) := by
  ext index inside
  by_cases within : index < size
  · have room : index < 64 := by omega
    simp [payload, GsUsb.filled, within, room, List.getD_eq_getElem?_getD, List.getElem?_take_of_lt]
  · simp [payload, within, List.getD_eq_getElem?_getD]

theorem take_payload (bytes : List UInt8) (size : Nat) : payload ((payload (bytes.take size)).toList.take size) = payload (bytes.take size) := by
  ext index inside
  by_cases within : index < size
  · simp [payload, within, inside, List.getD_eq_getElem?_getD, List.getElem?_take_of_lt]
  · simp [payload, within, List.getD_eq_getElem?_getD]

theorem capped_small (len : UInt8) (small : len ≤ 8) : (if len < 8 then len else 8) = len := by
  split
  · rfl
  · rename_i large
    exact UInt8.le_antisymm (UInt8.not_lt.mp large) small

theorem carried_data (msg : MotorPackMsg) (bytes : List UInt8) (small : msg.len.toNat ≤ 8) (front : bytes.take 8 = (carried msg).data.toList) :
    (if canFrameFlagsUseRtr msg.frameFlags then payload [] else payload (bytes.take msg.len.toNat)) = (carried msg).data := by
  by_cases remote : canFrameFlagsUseRtr msg.frameFlags = true
  · rw [if_pos remote, carried, if_pos remote]
  · have same : (carried msg).data = payload (msg.data.toList.take msg.len.toNat) := by rw [carried, if_neg remote]
    have again : bytes.take msg.len.toNat = (carried msg).data.toList.take msg.len.toNat := by
      rw [← front, List.take_take, Nat.min_eq_left small]
    rw [if_neg remote, again, same, take_payload]

variable (handle : CanHandle)

theorem decode_delivered (message : MotorMessage) (written : Written) (sent : handle.send message = .ok written)
    (frame : CanfdFrame) (nbytes : Int) (delivered : Delivered frame nbytes written) :
    decodeCanFrame frame nbytes = carried message.data := by
  obtain ⟨sendable, running, enabled⟩ := send_only_sendable handle message written sent
  rw [send_sendable handle message sendable running enabled] at sent
  have flags := (GsUsb.carried_flags_same message.data.frameFlags).mpr sendable.fdBits
  have short := capped_small message.data.len sendable.len
  by_cases fd : canFrameFlagsUseCanFd message.data.frameFlags = true
  · rw [if_pos fd] at sent
    cases sent
    obtain ⟨canId, len, data, marker, full⟩ := delivered
    have plain := sendable.fdRemote fd
    have made : frame.canId = message.data.id ||| (if canFrameFlagsUseExtendedId message.data.frameFlags then canEffFlag else 0) |||
        (if false then canRtrFlag else 0) := by
      rw [canId, frameId]
      simp
    rw [fd, plain] at flags
    rw [decode_marked frame nbytes message.data.id _ false true made sendable.id (decide_eq_true ⟨full, marker⟩).symm, len, short, data,
      take_filled, flags, carried, plain]
  · rw [if_neg fd] at sent
    cases sent
    obtain ⟨canId, len, data, marker, -⟩ := delivered
    have unmarked : false = decide (nbytes = canfdMtu ∧ frame.flags &&& canfdFdf ≠ 0) :=
      (decide_eq_false fun both => both.2 marker).symm
    rw [Bool.eq_false_iff.mpr fd] at flags
    rw [decode_marked frame nbytes message.data.id _ (canFrameFlagsUseRtr message.data.frameFlags) false canId sendable.id unmarked,
      len, short, carried_data message.data _ (UInt8.le_iff_toNat_le.mp sendable.len) data, flags]
    rfl

-- What the kernel promises of a frame that a socket receives: no FD frame is
-- remote, and none comes to a socket that did not ask for them.
structure Promised (handle : CanHandle) (frame : CanfdFrame) (nbytes : Int) : Prop where
  remote : nbytes = canfdMtu → frame.flags &&& canfdFdf ≠ 0 → frame.canId &&& canRtrFlag = 0
  enabled : nbytes = canfdMtu → frame.flags &&& canfdFdf ≠ 0 → handle.fdFramesEnabled = true

theorem decoded_flags (extended rtr fd : Bool) :
    canFrameFlagsUseExtendedId (sanitizeCanFrameFlags (GsUsb.carriedFlags extended rtr fd)) = extended ∧
      canFrameFlagsUseRtr (sanitizeCanFrameFlags (GsUsb.carriedFlags extended rtr fd)) = rtr ∧
        canFrameFlagsUseCanFd (sanitizeCanFrameFlags (GsUsb.carriedFlags extended rtr fd)) = fd ∧
          canFrameFlagsHaveValidCanFdBits (sanitizeCanFrameFlags (GsUsb.carriedFlags extended rtr fd)) = true := by
  cases extended <;> cases rtr <;> cases fd <;> decide

theorem decoded_sendable (frame : CanfdFrame) (nbytes : Int) (promised : Promised handle frame nbytes) :
    Sendable (decodeCanFrame frame nbytes) ∧
      (canFrameFlagsUseCanFd (decodeCanFrame frame nbytes).frameFlags = true → handle.fdFramesEnabled = true) := by
  obtain ⟨extended, remote, fd, fdBits⟩ := decoded_flags (decide (frame.canId &&& canEffFlag ≠ 0))
    (decide (frame.canId &&& canRtrFlag ≠ 0)) (decide (nbytes = canfdMtu ∧ frame.flags &&& canfdFdf ≠ 0))
  have flags : (decodeCanFrame frame nbytes).frameFlags = sanitizeCanFrameFlags
      (GsUsb.carriedFlags (decide (frame.canId &&& canEffFlag ≠ 0)) (decide (frame.canId &&& canRtrFlag ≠ 0))
        (decide (nbytes = canfdMtu ∧ frame.flags &&& canfdFdf ≠ 0))) := by
    simp only [decodeCanFrame, GsUsb.carriedFlags, decide_eq_true_eq]
  rw [← flags] at extended remote fd fdBits
  refine ⟨⟨fdBits, ?_, ?_, ?_⟩, ?_⟩
  · simp only [decodeCanFrame]
    split
    · rename_i small
      exact UInt8.le_of_lt small
    · exact UInt8.le_refl 8
  · rw [extended, UInt32.le_iff_toNat_le]
    exact (UInt32.toNat_and _ _).trans_le Nat.and_le_right
  · intro isFd
    obtain ⟨full, marker⟩ := of_decide_eq_true (fd.symm.trans isFd)
    rw [remote, decide_eq_false_iff_not, not_not]
    exact promised.remote full marker
  · intro isFd
    obtain ⟨full, marker⟩ := of_decide_eq_true (fd.symm.trans isFd)
    exact promised.enabled full marker

/-- Loop hands every frame that it accepts on under bus index 0. -/
theorem socket_can_fidelity :
    (∀ message written, handle.send message = .ok written → ∀ frame nbytes, Delivered frame nbytes written →
      decodeCanFrame frame nbytes = carried message.data) ∧
      ∀ frame nbytes, handle.running = true → accepted frame nbytes = true → Promised handle frame nbytes →
        ∃ written, handle.send ⟨0, decodeCanFrame frame nbytes⟩ = .ok written := by
  refine ⟨decode_delivered handle, ?_⟩
  intro frame nbytes running _ promised
  obtain ⟨sendable, enabled⟩ := decoded_sendable handle frame nbytes promised
  exact ⟨_, send_sendable handle ⟨0, decodeCanFrame frame nbytes⟩ sendable running enabled⟩

/-- An FD message there and back, and a long FD frame that comes in. -/
theorem socket_can_fd :
    let message : MotorMessage := ⟨0, 0x123, 0x06, 2, #v[7, 9, 1, 0, 0, 0, 0, 0]⟩
    let frame : CanfdFrame := ⟨0x123, 2, 0x05, GsUsb.filled [7, 9] 2⟩
    let long : CanfdFrame := ⟨0x123, 64, 0x04, GsUsb.filled [1, 2, 3, 4, 5, 6, 7, 8, 9] 9⟩
    decodeCanFrame frame 72 = carried message.data ∧
      ∃ written, CanHandle.send ⟨true, true⟩ ⟨0, decodeCanFrame long 72⟩ = .ok written :=
  ⟨(socket_can_fidelity ⟨true, true⟩).1 ⟨0, 0x123, 0x06, 2, #v[7, 9, 1, 0, 0, 0, 0, 0]⟩
      (.fd ⟨0x123, 2, 0x01, GsUsb.filled [7, 9, 1, 0, 0, 0, 0, 0] 2⟩) rfl ⟨0x123, 2, 0x05, GsUsb.filled [7, 9] 2⟩ 72
      ⟨rfl, rfl, by decide, by decide, rfl⟩,
    (socket_can_fidelity ⟨true, true⟩).2 ⟨0x123, 64, 0x04, GsUsb.filled [1, 2, 3, 4, 5, 6, 7, 8, 9] 9⟩ 72 rfl (by decide)
      ⟨fun _ _ => by decide, fun _ _ => rfl⟩⟩

end EncosDriver.Can
