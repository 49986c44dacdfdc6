import Mathlib.Algebra.GroupWithZero.Nat
import Mathlib.Data.Vector.Defs

set_option autoImplicit false

namespace EncosDriver.Message

instance payload_not_empty : NeZero 8 := ⟨by decide⟩

structure MotorPackMsg where
  id : UInt32
  frameFlags : UInt8
  len : UInt8
  data : Vector UInt8 8
deriving DecidableEq, Repr

structure MotorMessage where
  busIdx : Int32
  data : MotorPackMsg
deriving DecidableEq, Repr

abbrev MotorMessages := List MotorMessage

def kCanFrameFlagEff : UInt8 := 0x01
def kCanFrameFlagFdBit1 : UInt8 := 0x02
def kCanFrameFlagFdBit2 : UInt8 := 0x04
def kCanFrameFlagRtr : UInt8 := 0x08
def kCanFrameFlagFdMask : UInt8 := kCanFrameFlagFdBit1 ||| kCanFrameFlagFdBit2
def kCanFrameFlagMask : UInt8 := 0x0F

def sanitizeCanFrameFlags (flags : UInt8) : UInt8 := flags &&& kCanFrameFlagMask

def canFrameFlagsUseExtendedId (flags : UInt8) : Bool := sanitizeCanFrameFlags flags &&& kCanFrameFlagEff ≠ 0

def canFrameFlagsUseRtr (flags : UInt8) : Bool := sanitizeCanFrameFlags flags &&& kCanFrameFlagRtr ≠ 0

def canFrameFlagsUseCanFd (flags : UInt8) : Bool :=
  sanitizeCanFrameFlags flags &&& kCanFrameFlagFdMask = kCanFrameFlagFdMask

def canFrameFlagsHaveValidCanFdBits (flags : UInt8) : Bool :=
  sanitizeCanFrameFlags flags &&& kCanFrameFlagFdMask = 0 || canFrameFlagsUseCanFd flags

variable (flags : UInt8)

@[simp] theorem sanitize_sanitize :
    sanitizeCanFrameFlags (sanitizeCanFrameFlags flags) = sanitizeCanFrameFlags flags := by
  simp only [sanitizeCanFrameFlags, UInt8.and_assoc, UInt8.and_self]

theorem sanitized_cases (property : UInt8 → Prop) (holds : ∀ value : Fin 16, property (UInt8.ofNat value.val))
    (flags : UInt8) : property (sanitizeCanFrameFlags flags) := by
  have small : (sanitizeCanFrameFlags flags).toNat < 16 := by
    rw [sanitizeCanFrameFlags, UInt8.toNat_and]
    exact Nat.lt_of_le_of_lt Nat.and_le_right (by decide)
  have value := holds ⟨(sanitizeCanFrameFlags flags).toNat, small⟩
  simpa only [UInt8.ofNat_toNat] using value

theorem sanitized_extended :
    canFrameFlagsUseExtendedId (sanitizeCanFrameFlags flags) = canFrameFlagsUseExtendedId flags := by
  rw [canFrameFlagsUseExtendedId, sanitize_sanitize, canFrameFlagsUseExtendedId]

theorem sanitized_rtr : canFrameFlagsUseRtr (sanitizeCanFrameFlags flags) = canFrameFlagsUseRtr flags := by
  rw [canFrameFlagsUseRtr, sanitize_sanitize, canFrameFlagsUseRtr]

theorem sanitized_can_fd :
    canFrameFlagsUseCanFd (sanitizeCanFrameFlags flags) = canFrameFlagsUseCanFd flags := by
  rw [canFrameFlagsUseCanFd, sanitize_sanitize, canFrameFlagsUseCanFd]

def payload (bytes : List UInt8) : Vector UInt8 8 := Vector.ofFn fun index => bytes.getD index 0

theorem payload_get (bytes : List UInt8) (index : Fin 8) : (payload bytes).get index = bytes.getD index 0 := by
  have read : (payload bytes).get index = (payload bytes)[index.val] := rfl
  rw [read, payload, Vector.getElem_ofFn]

theorem full_payload_get (first second third fourth fifth sixth seventh last : UInt8) :
    let data := payload [first, second, third, fourth, fifth, sixth, seventh, last]
    data.get 0 = first ∧ data.get 1 = second ∧ data.get 2 = third ∧ data.get 3 = fourth ∧ data.get 4 = fifth ∧
      data.get 5 = sixth ∧ data.get 6 = seventh ∧ data.get 7 = last :=
  ⟨rfl, rfl, rfl, rfl, rfl, rfl, rfl, rfl⟩

@[simp] theorem payload_to_list (data : Vector UInt8 8) : payload data.toList = data := by
  ext index inside
  simp [payload]

theorem to_list_payload (bytes : List UInt8) (full : bytes.length = 8) : (payload bytes).toList = bytes := by
  apply List.ext_getElem
  · simp [full]
  · intro index inside within
    simp [payload, within]

end EncosDriver.Message
