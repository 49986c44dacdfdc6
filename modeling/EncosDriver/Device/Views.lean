import EncosDriver.Device.Status
import EncosDriver.Lib.Expiring

set_option autoImplicit false

namespace EncosDriver.Device

open Driver Lib Message Motor

structure StatusDevice (Kind Part Update State : Type) [DecidableEq Kind] where
  expiring : Expiring Kind Part
  initial : State
  decode : MotorPackMsg → Option Update
  store : State → Int → Update → State
  read : State → Int → State
  setOnStatus : State → Bool → State
  parts : State → Parts Kind Part
  kind : Update → Kind
  part : Update → Part
  positive : 0 ≤ expiring.timeout
  initial_parts : parts initial = expiring.start
  store_parts : ∀ state now update, parts (store state now update) = Expiring.accept (parts state) (kind update) (part update) now
  read_parts : ∀ state now, parts (read state now) = expiring.expire (parts state) now
  set_parts : ∀ state isSet, parts (setOnStatus state isSet) = parts state

namespace StatusDevice

variable {Kind Part Update State : Type} [DecidableEq Kind] (device : StatusDevice Kind Part Update State)

def step (state : State) : StatusEvent → State
  | .frame now message =>
    match device.decode message with
    | none => state
    | some update => device.store state now update
  | .getStatus now => device.read state now
  | .setOnStatus isSet => device.setOnStatus state isSet

def run (history : List StatusEvent) : State := history.foldl device.step device.initial

def partEvent : StatusEvent → Option (PartEvent Kind Part)
  | .frame now message => (device.decode message).map fun update => .accept (device.kind update) (device.part update) now
  | .getStatus now => some (.read now)
  | .setOnStatus _ => none

def events (history : List StatusEvent) : List (PartEvent Kind Part) := history.filterMap device.partEvent

theorem events_append (history later : List StatusEvent) :
    device.events (history ++ later) = device.events history ++ device.events later := List.filterMap_append

variable (history : List StatusEvent)

theorem events_accepted (now : Int) (message : MotorPackMsg) (update : Update) (decoded : device.decode message = some update) :
    device.events (history ++ [.frame now message]) =
      device.events history ++ [.accept (device.kind update) (device.part update) now] := by
  rw [events_append]
  simp only [events, List.filterMap_cons, List.filterMap_nil, partEvent, decoded, Option.map_some]

theorem run_append (event : StatusEvent) : device.run (history ++ [event]) = device.step (device.run history) event := by
  rw [run, List.foldl_append]
  rfl

theorem run_parts : device.parts (device.run history) = device.expiring.run (device.events history) := by
  induction history using List.reverseRecOn with
  | nil => exact device.initial_parts
  | append_singleton history event ih =>
    rw [run_append, events_append]
    cases event with
    | frame now message =>
      cases decoded : device.decode message with
      | none =>
        simp only [step, decoded, events, List.filterMap_cons, List.filterMap_nil, partEvent, Option.map_none, List.append_nil]
        exact ih
      | some update =>
        simp only [step, decoded, events, List.filterMap_cons, List.filterMap_nil, partEvent, Option.map_some]
        rw [device.store_parts, Expiring.run_append, ih]
        rfl
    | getStatus now =>
      simp only [step, events, List.filterMap_cons, List.filterMap_nil, partEvent]
      rw [device.read_parts, Expiring.run_append, ih]
      rfl
    | setOnStatus isSet =>
      simp only [step, events, List.filterMap_cons, List.filterMap_nil, partEvent, List.append_nil]
      rw [device.set_parts]
      exact ih

theorem part_event_time (event : StatusEvent) (part : PartEvent Kind Part) (translated : device.partEvent event = some part) :
    event.time = some part.time := by
  cases event with
  | frame now message =>
    obtain ⟨update, _, rfl⟩ := Option.map_eq_some_iff.mp translated
    rfl
  | getStatus now =>
    cases translated
    rfl
  | setOnStatus isSet => cases translated

theorem event_times : ((device.events history).map PartEvent.time).Sublist (history.filterMap StatusEvent.time) := by
  induction history with
  | nil => exact List.Sublist.slnil
  | cons event rest ih =>
    cases translated : device.partEvent event with
    | none =>
      rw [events, List.filterMap_cons_none translated]
      cases time : event.time with
      | none =>
        rw [List.filterMap_cons_none time]
        exact ih
      | some now =>
        rw [List.filterMap_cons_some time]
        exact ih.cons _
    | some part =>
      rw [events, List.filterMap_cons_some translated, List.filterMap_cons_some (device.part_event_time event part translated),
        List.map_cons]
      exact ih.cons_cons _

theorem events_ordered (ordered : InOrder history) : ((device.events history).map PartEvent.time).Pairwise (· ≤ ·) :=
  List.Pairwise.sublist (device.event_times history) ordered

theorem events_before (now : Int) (message : MotorPackMsg) (ordered : InOrder (history ++ [.frame now message])) :
    (∀ event ∈ device.events history, event.time ≤ now) ∧
      ∀ event ∈ device.events (history ++ [.frame now message]), event.time ≤ now := by
  rw [InOrder, List.filterMap_append, List.pairwise_append] at ordered
  have before : ∀ event ∈ device.events history, event.time ≤ now := by
    intro event inside
    have timed := (device.event_times history).subset (List.mem_map_of_mem inside)
    exact ordered.2.2 _ timed now (List.mem_singleton_self _)
  refine ⟨before, ?_⟩
  intro event inside
  rw [events_append] at inside
  rcases List.mem_append.mp inside with old | new
  · exact before event old
  · obtain ⟨latest, here, translated⟩ := List.mem_filterMap.mp new
    rw [List.mem_singleton] at here
    subst here
    exact Int.le_of_eq (Option.some.inj (device.part_event_time _ event translated)).symm

section Accepted

variable (history : List StatusEvent) (now : Int) (message : MotorPackMsg) (update : Update)
  (ordered : InOrder (history ++ [.frame now message])) (decoded : device.decode message = some update)

include ordered decoded

theorem read_after (kind : Kind) :
    (device.parts (device.read (device.store (device.run history) now update) now)).stored kind =
      device.expiring.view (device.events (history ++ [.frame now message])) now kind := by
  have after : device.run (history ++ [.frame now message]) = device.store (device.run history) now update := by
    rw [run_append, step, decoded]
  rw [← after, device.read_parts, run_parts]
  exact device.expiring.read_view _ now (device.events_before history now message ordered).2 kind

theorem agrees_iff :
    (∀ kind, (device.parts (device.store (device.run history) now update)).stored kind =
        (device.parts (device.read (device.store (device.run history) now update) now)).stored kind) ↔
      ∀ kind, kind ≠ device.kind update → device.expiring.timeout < now - (device.parts (device.run history)).last kind →
        (device.parts (device.run history)).stored kind = device.expiring.expired kind := by
  have iff := device.expiring.accept_view_iff (device.events history) now
    (device.events_before history now message ordered).1 (device.kind update) (device.part update) device.positive
  rw [← run_parts, ← device.store_parts, ← device.events_accepted history now message update decoded] at iff
  simp only [← device.read_after history now message update ordered decoded] at iff
  exact iff

end Accepted

end StatusDevice

namespace Imu

inductive ImuKind where
  | acceleration
  | angularVelocity
  | eulerAngle
  | quaternion
deriving DecidableEq, Repr

section Views

variable {Number : Type}

def ImuUpdate.kind : ImuUpdate Number → ImuKind
  | .acceleration _ => .acceleration
  | .angularVelocity _ => .angularVelocity
  | .eulerAngle _ => .eulerAngle
  | .quaternion _ => .quaternion

def ImuStatus.part (status : ImuStatus Number) : ImuKind → Option (ImuUpdate Number)
  | .acceleration => status.acceleration.map .acceleration
  | .angularVelocity => status.angularVelocity.map .angularVelocity
  | .eulerAngle => status.eulerAngle.map .eulerAngle
  | .quaternion => status.quaternion.map .quaternion

def Impl.last (impl : Impl Number) : ImuKind → Int
  | .acceleration => impl.lastAccelerationUpdate
  | .angularVelocity => impl.lastAngularVelocityUpdate
  | .eulerAngle => impl.lastEulerAngleUpdate
  | .quaternion => impl.lastQuaternionUpdate

def Impl.parts (impl : Impl Number) : Parts ImuKind (Option (ImuUpdate Number)) := ⟨impl.currentStatus.part, impl.last⟩

def expiring (Number : Type) : Expiring ImuKind (Option (ImuUpdate Number)) := ⟨stateTimeout, 0, fun _ => none, fun _ => none⟩

theorem state_timeout_positive : 0 ≤ stateTimeout := by decide

theorem part_injective (first second : ImuStatus Number) (same : ∀ kind, first.part kind = second.part kind) : first = second := by
  obtain ⟨acceleration, angularVelocity, eulerAngle, quaternion⟩ := first
  obtain ⟨otherAcceleration, otherAngularVelocity, otherEulerAngle, otherQuaternion⟩ := second
  have acceleration_ := Option.map_injective (fun _ _ same => ImuUpdate.acceleration.inj same) (same .acceleration)
  have angularVelocity_ := Option.map_injective (fun _ _ same => ImuUpdate.angularVelocity.inj same) (same .angularVelocity)
  have eulerAngle_ := Option.map_injective (fun _ _ same => ImuUpdate.eulerAngle.inj same) (same .eulerAngle)
  have quaternion_ := Option.map_injective (fun _ _ same => ImuUpdate.quaternion.inj same) (same .quaternion)
  simp only at acceleration_ angularVelocity_ eulerAngle_ quaternion_
  subst acceleration_ angularVelocity_ eulerAngle_ quaternion_
  rfl

variable (impl : Impl Number)

theorem store_parts (now : Int) (update : ImuUpdate Number) :
    (impl.store now update).parts = Expiring.accept impl.parts update.kind (some update) now := by
  rw [Impl.parts, Expiring.accept, Parts.mk.injEq]
  refine ⟨?_, ?_⟩ <;> funext kind <;> cases update <;> cases kind <;> rfl

theorem status_parts (now : Int) :
    (impl.getStatusSnapshot now).2.parts = (expiring Number).expire impl.parts now := by
  rw [Impl.parts, Expiring.expire, Parts.mk.injEq]
  refine ⟨?_, rfl⟩
  funext kind
  cases kind <;> exact apply_ite (Option.map _) _ _ _

theorem store_on_status (now : Int) (update : ImuUpdate Number) :
    (impl.store now update).onStatus = impl.onStatus := by
  cases update <;> rfl

variable [FloatArithmetic Number]

def device (Number : Type) [FloatArithmetic Number] (idx : UInt16) :
    StatusDevice ImuKind (Option (ImuUpdate Number)) (ImuUpdate Number) (Impl Number) where
  expiring := expiring Number
  initial := {}
  decode := decode idx
  store := Impl.store
  read impl now := (impl.getStatusSnapshot now).2
  setOnStatus impl isSet := { impl with onStatus := isSet }
  parts := Impl.parts
  kind := ImuUpdate.kind
  part := some
  positive := state_timeout_positive
  initial_parts := by
    rw [Impl.parts, Expiring.start, Parts.mk.injEq]
    refine ⟨?_, ?_⟩ <;> funext kind <;> cases kind <;> rfl
  store_parts := store_parts
  read_parts := status_parts
  set_parts _ _ := rfl

theorem run_device (idx : UInt16) (history : List StatusEvent) : (run idx history : Impl Number) = (device Number idx).run history := by
  have same : (fun impl event => Impl.step impl idx event : Impl Number → StatusEvent → Impl Number) = (device Number idx).step := by
    funext impl event
    cases event with
    | frame now message =>
      cases decoded : (decode idx message : Option (ImuUpdate Number)) with
      | none | some update => simp only [Impl.step, Impl.onMessage, StatusDevice.step, device, decoded]
    | getStatus now => rfl
    | setOnStatus isSet => rfl
  rw [run, same]
  rfl

def frames (Number : Type) [FloatArithmetic Number] (idx : UInt16) (kind : ImuKind) (history : List StatusEvent) :
    List (Option (ImuUpdate Number) × Int) := arrivals kind ((device Number idx).events history)

-- What the property says of one message: one that is not accepted changes
-- nothing, and the callback gets what GetStatus would return at that moment,
-- without any part that is older than the timeout.
structure Agrees (Number : Type) [FloatArithmetic Number] (idx : UInt16) (history : List StatusEvent) (now : Int)
    (message : MotorPackMsg) : Prop where
  foreign : (decode idx message : Option (ImuUpdate Number)) = none →
    (run idx history : Impl Number).onMessage idx now message = ⟨run idx history, none, false⟩
  handed : ∀ snapshot, ((run idx history : Impl Number).onMessage idx now message).handed = some snapshot →
    snapshot = (((run idx history : Impl Number).onMessage idx now message).state.getStatusSnapshot now).1 ∧
      ∀ kind update, snapshot.part kind = some update →
        ∃ time, (frames Number idx kind (history ++ [.frame now message])).getLast? = some (some update, time) ∧
          now - time ≤ stateTimeout

def Settled (Number : Type) [FloatArithmetic Number] (idx : UInt16) (history : List StatusEvent) (now : Int)
    (message : MotorPackMsg) : Prop :=
  ∀ update, (decode idx message : Option (ImuUpdate Number)) = some update → (run idx history : Impl Number).onStatus = true →
    ∀ kind, kind ≠ update.kind → stateTimeout < now - (run idx history : Impl Number).last kind →
      (run idx history : Impl Number).currentStatus.part kind = none

theorem agrees_iff_settled (idx : UInt16) (history : List StatusEvent) (now : Int) (message : MotorPackMsg)
    (ordered : InOrder (history ++ [.frame now message])) :
    Agrees Number idx history now message ↔ Settled Number idx history now message := by
  have foreign : (decode idx message : Option (ImuUpdate Number)) = none →
      (run idx history : Impl Number).onMessage idx now message = ⟨run idx history, none, false⟩ := by
    intro none
    rw [Impl.onMessage, none]
  cases decoded : (decode idx message : Option (ImuUpdate Number)) with
  | none =>
    refine ⟨fun _ update some => ?_, fun _ => ⟨foreign, fun snapshot handed => ?_⟩⟩
    · rw [decoded] at some
      cases some
    · rw [foreign decoded] at handed
      cases handed
  | some update =>
    have message_ : (run idx history : Impl Number).onMessage idx now message =
        ⟨(run idx history).store now update,
          if (run idx history : Impl Number).onStatus then some ((run idx history).store now update).currentStatus else none,
          true⟩ := by
      simp only [Impl.onMessage, decoded, store_on_status]
    have iff := (device Number idx).agrees_iff history now message update ordered decoded
    have after := (device Number idx).read_after history now message update ordered decoded
    rw [← run_device] at iff after
    constructor
    · intro agrees other same isSet kind different old
      rw [decoded] at same
      cases same
      have handed := (agrees.handed ((run idx history).store now update).currentStatus (by rw [message_, if_pos isSet])).1
      rw [message_] at handed
      exact iff.mp (fun kind => congrArg (fun status => ImuStatus.part status kind) handed) kind different old
    · intro settled
      refine ⟨foreign, ?_⟩
      intro snapshot handed
      rw [message_] at handed ⊢
      simp only [Option.ite_none_right_eq_some, Option.some.injEq] at handed
      obtain ⟨isSet, rfl⟩ := handed
      have same := iff.mpr (settled update decoded isSet)
      refine ⟨part_injective _ _ same, ?_⟩
      intro kind present shown
      refine (expiring Number).view_present kind _ now (some present) ?_ (fun same => by cases same) (fun same => by cases same)
      rw [← shown]
      exact (after kind).symm.trans (same kind).symm

end Views

end Imu

namespace Battery

inductive BatteryKind where
  | state
  | temp
  | error
  | activeCommands
deriving DecidableEq, Repr

section Views

variable {Number : Type}

def BatteryUpdate.kind : BatteryUpdate Number → BatteryKind
  | .state _ => .state
  | .temp _ => .temp
  | .error _ => .error
  | .activeCommands _ => .activeCommands

def BatteryStatus.part (status : BatteryStatus Number) : BatteryKind → Option (BatteryUpdate Number)
  | .state => status.state.map .state
  | .temp => status.temp.map .temp
  | .error => some (.error status.error)
  | .activeCommands => status.activeCommands.map .activeCommands

def Impl.last (impl : Impl Number) : BatteryKind → Int
  | .state => impl.lastStateUpdate
  | .temp => impl.lastTempUpdate
  | .error => impl.lastErrorUpdate
  | .activeCommands => impl.lastActiveCommandsUpdate

def Impl.parts (impl : Impl Number) : Parts BatteryKind (Option (BatteryUpdate Number)) :=
  ⟨impl.currentStatus.part, impl.last⟩

-- What stands for a part that is old: nothing, and the communication timeout for
-- the error.
def expiredPart (Number : Type) : BatteryKind → Option (BatteryUpdate Number)
  | .error => some (.error commTimeoutError)
  | _ => none

def initialPart (Number : Type) : BatteryKind → Option (BatteryUpdate Number)
  | .error => some (.error {})
  | _ => none

def expiring (Number : Type) : Expiring BatteryKind (Option (BatteryUpdate Number)) :=
  ⟨stateTimeout, 0, initialPart Number, expiredPart Number⟩

theorem state_timeout_positive : 0 ≤ stateTimeout := by decide

theorem part_injective (first second : BatteryStatus Number) (same : ∀ kind, first.part kind = second.part kind) :
    first = second := by
  obtain ⟨state, temp, activeCommands, error⟩ := first
  obtain ⟨otherState, otherTemp, otherActiveCommands, otherError⟩ := second
  have state_ := Option.map_injective (fun _ _ same => BatteryUpdate.state.inj same) (same .state)
  have temp_ := Option.map_injective (fun _ _ same => BatteryUpdate.temp.inj same) (same .temp)
  have activeCommands_ := Option.map_injective (fun _ _ same => BatteryUpdate.activeCommands.inj same) (same .activeCommands)
  have error_ := BatteryUpdate.error.inj (Option.some.inj (same .error))
  simp only at state_ temp_ activeCommands_ error_
  subst state_ temp_ activeCommands_ error_
  rfl

variable (impl : Impl Number)

theorem store_parts (now : Int) (update : BatteryUpdate Number) :
    (impl.store now update).parts = Expiring.accept impl.parts update.kind (some update) now := by
  rw [Impl.parts, Expiring.accept, Parts.mk.injEq]
  refine ⟨?_, ?_⟩ <;> funext kind <;> cases update <;> cases kind <;> rfl

theorem status_parts (now : Int) :
    (impl.getStatusSnapshot now).2.parts = (expiring Number).expire impl.parts now := by
  rw [Impl.parts, Expiring.expire, Parts.mk.injEq]
  refine ⟨?_, rfl⟩
  funext kind
  cases kind with
  | error => exact apply_ite (fun error => some (BatteryUpdate.error error)) _ _ _
  | _ => exact apply_ite (Option.map _) _ _ _

theorem store_on_status (now : Int) (update : BatteryUpdate Number) :
    (impl.store now update).onStatus = impl.onStatus := by
  cases update <;> rfl

variable [FloatArithmetic Number]

def device (Number : Type) [FloatArithmetic Number] (idx : UInt16) :
    StatusDevice BatteryKind (Option (BatteryUpdate Number)) (BatteryUpdate Number) (Impl Number) where
  expiring := expiring Number
  initial := {}
  decode := decode idx
  store := Impl.store
  read impl now := (impl.getStatusSnapshot now).2
  setOnStatus impl isSet := { impl with onStatus := isSet }
  parts := Impl.parts
  kind := BatteryUpdate.kind
  part := some
  positive := state_timeout_positive
  initial_parts := by
    rw [Impl.parts, Expiring.start, Parts.mk.injEq]
    refine ⟨?_, ?_⟩ <;> funext kind <;> cases kind <;> rfl
  store_parts := store_parts
  read_parts := status_parts
  set_parts _ _ := rfl

variable (idx : UInt16) (history : List StatusEvent)

theorem run_device : (run idx history : Impl Number) = (device Number idx).run history := by
  have same : (fun impl event => Impl.step impl idx event : Impl Number → StatusEvent → Impl Number) = (device Number idx).step := by
    funext impl event
    cases event with
    | frame now message =>
      cases decoded : (decode idx message : Option (BatteryUpdate Number)) with
      | none | some update => simp only [Impl.step, Impl.onMessage, StatusDevice.step, device, decoded]
    | getStatus now => rfl
    | setOnStatus isSet => rfl
  rw [run, same]
  rfl

def frames (Number : Type) [FloatArithmetic Number] (idx : UInt16) (kind : BatteryKind) (history : List StatusEvent) :
    List (Option (BatteryUpdate Number) × Int) := arrivals kind ((device Number idx).events history)

-- What the property says of one message. The communication timeout stands for
-- the error exactly if no error frame has come within the timeout.
structure Agrees (Number : Type) [FloatArithmetic Number] (idx : UInt16) (history : List StatusEvent) (now : Int)
    (message : MotorPackMsg) : Prop where
  foreign : (decode idx message : Option (BatteryUpdate Number)) = none →
    (run idx history : Impl Number).onMessage idx now message = ⟨run idx history, none, false⟩
  handed : ∀ snapshot, ((run idx history : Impl Number).onMessage idx now message).handed = some snapshot →
    snapshot = (((run idx history : Impl Number).onMessage idx now message).state.getStatusSnapshot now).1 ∧
      (∀ kind update, kind ≠ .error → snapshot.part kind = some update →
        ∃ time, (frames Number idx kind (history ++ [.frame now message])).getLast? = some (some update, time) ∧
          now - time ≤ stateTimeout) ∧
      (snapshot.error.commTimeout = true ↔
        ∀ frame ∈ frames Number idx .error (history ++ [.frame now message]), stateTimeout < now - frame.2)

-- No part that is stored when the frame comes, other than the frame's own, is
-- old, and the stored error says so if it is. With no error frame at all, the
-- clock is past the timeout.
def Settled (Number : Type) [FloatArithmetic Number] (idx : UInt16) (history : List StatusEvent) (now : Int)
    (message : MotorPackMsg) : Prop :=
  ∀ update, (decode idx message : Option (BatteryUpdate Number)) = some update → (run idx history : Impl Number).onStatus = true →
    (∀ kind, kind ≠ update.kind → stateTimeout < now - (run idx history : Impl Number).last kind →
      (run idx history : Impl Number).currentStatus.part kind = expiredPart Number kind) ∧
    (frames Number idx .error (history ++ [.frame now message]) = [] → stateTimeout < now)

theorem decoded_error (message : MotorPackMsg) (error : BatteryError)
    (decoded : (decode idx message : Option (BatteryUpdate Number)) = some (.error error)) : error.commTimeout = false := by
  unfold decode at decoded
  simp only at decoded
  split at decoded
  · cases decoded
  · split at decoded
    · cases decoded
    · split at decoded
      · cases decoded
        rfl
      · split at decoded <;> cases decoded

theorem frame_error (frame : Option (BatteryUpdate Number) × Int)
    (brought : frame ∈ frames Number idx .error history) : ∃ error, frame.1 = some (.error error) ∧ error.commTimeout = false := by
  have event := arrival_event BatteryKind.error ((device Number idx).events history) frame brought
  obtain ⟨latest, _, translated⟩ := List.mem_filterMap.mp event
  cases latest with
  | frame now message =>
    obtain ⟨update, decoded, same⟩ := Option.map_eq_some_iff.mp translated
    rw [PartEvent.accept.injEq] at same
    cases update with
    | error error => exact ⟨error, same.2.1.symm, decoded_error idx message error decoded⟩
    | state parsed => cases same.1
    | temp parsed => cases same.1
    | activeCommands parsed => cases same.1
  | getStatus now => cases translated
  | setOnStatus isSet => cases translated

theorem view_error (now : Int) (status : BatteryStatus Number)
    (shown : some (.error status.error) = (expiring Number).view ((device Number idx).events history) now .error) :
    status.error.commTimeout = true ↔
      stateTimeout < now - ((expiring Number).origin .error ((device Number idx).events history)).2 := by
  have own : ∃ error, ((expiring Number).origin .error ((device Number idx).events history)).1 = some (.error error) ∧
      error.commTimeout = false :=
    (expiring Number).origin_holds .error _ (fun part => ∃ error, part = some (.error error) ∧ error.commTimeout = false)
      ⟨{}, rfl, rfl⟩ (frame_error idx history)
  obtain ⟨error, brought, quiet⟩ := own
  rw [Expiring.view] at shown
  split at shown
  · next old =>
    have same := BatteryUpdate.error.inj (Option.some.inj shown)
    rw [same]
    exact ⟨fun _ => old, fun _ => rfl⟩
  · next young =>
    rw [brought] at shown
    have same := BatteryUpdate.error.inj (Option.some.inj shown)
    rw [same, quiet]
    exact ⟨fun set => (by cases set), fun old => absurd old young⟩

theorem error_old_iff (Number : Type) [FloatArithmetic Number] (idx : UInt16) (history : List StatusEvent) (now : Int) (ordered : InOrder history) :
    ((stateTimeout < now - ((expiring Number).origin .error ((device Number idx).events history)).2 ↔
        ∀ frame ∈ frames Number idx .error history, stateTimeout < now - frame.2) ↔
      (frames Number idx .error history = [] → stateTimeout < now)) := by
  have newest := (expiring Number).origin_newest .error _ ((device Number idx).events_ordered history ordered)
  rcases (expiring Number).origin_cases .error ((device Number idx).events history) with ⟨none, first⟩ | latest
  · rw [first]
    have epoch : now - (expiring Number).epoch = now := Int.sub_zero now
    have empty : frames Number idx .error history = [] := none
    simp only [epoch, empty, List.not_mem_nil, false_implies, implies_true, iff_true, forall_true_left]
  · have inside := List.mem_of_getLast? latest
    have some : frames Number idx .error history ≠ [] := List.ne_nil_of_mem inside
    refine ⟨fun _ none => absurd none some, fun _ => ⟨?_, fun all => all _ inside⟩⟩
    intro old frame brought
    have later := newest frame brought
    omega

theorem agrees_iff_settled (now : Int) (message : MotorPackMsg)
    (ordered : InOrder (history ++ [.frame now message])) :
    Agrees Number idx history now message ↔ Settled Number idx history now message := by
  have foreign : (decode idx message : Option (BatteryUpdate Number)) = none →
      (run idx history : Impl Number).onMessage idx now message = ⟨run idx history, none, false⟩ := by
    intro none
    rw [Impl.onMessage, none]
  cases decoded : (decode idx message : Option (BatteryUpdate Number)) with
  | none =>
    refine ⟨fun _ update some => ?_, fun _ => ⟨foreign, fun snapshot handed => ?_⟩⟩
    · rw [decoded] at some
      cases some
    · rw [foreign decoded] at handed
      cases handed
  | some update =>
    have message_ : (run idx history : Impl Number).onMessage idx now message =
        ⟨(run idx history).store now update,
          if (run idx history : Impl Number).onStatus then some ((run idx history).store now update).currentStatus else none,
          true⟩ := by
      simp only [Impl.onMessage, decoded, store_on_status]
    have iff := (device Number idx).agrees_iff history now message update ordered decoded
    have after := (device Number idx).read_after history now message update ordered decoded
    rw [← run_device] at iff after
    have old := error_old_iff Number idx (history ++ [.frame now message]) now ordered
    constructor
    · intro agrees other same isSet
      rw [decoded] at same
      cases same
      obtain ⟨handed, _, timeout⟩ :=
        agrees.handed ((run idx history).store now update).currentStatus (by rw [message_, if_pos isSet])
      rw [message_] at handed
      have shown := fun kind => congrArg (fun status => BatteryStatus.part status kind) handed
      refine ⟨iff.mp shown, old.mp ?_⟩
      exact (view_error idx _ now _ ((shown .error).trans (after .error))).symm.trans timeout
    · intro settled
      refine ⟨foreign, ?_⟩
      intro snapshot handed
      rw [message_] at handed ⊢
      simp only [Option.ite_none_right_eq_some, Option.some.injEq] at handed
      obtain ⟨isSet, rfl⟩ := handed
      have conditions := settled update decoded isSet
      have same := iff.mpr conditions.1
      refine ⟨part_injective _ _ same, ?_, ?_⟩
      · intro kind present different shown
        have absent : expiredPart Number kind = none ∧ initialPart Number kind = none := by
          cases kind with
          | error => exact absurd rfl different
          | _ => exact ⟨rfl, rfl⟩
        refine (expiring Number).view_present kind _ now (some present) ?_ ?_ ?_
        · rw [← shown]
          exact (after kind).symm.trans (same kind).symm
        · exact fun other => by cases other.trans absent.1
        · exact fun other => by cases other.trans absent.2
      · exact (view_error idx _ now _ ((same .error).trans (after .error))).trans (old.mpr conditions.2)

end Views

end Battery

/-- At every message of a history in order, the callback gets what a reader would see exactly if the store has nothing
old. -/
theorem views_agree (Number : Type) [FloatArithmetic Number] (idx : UInt16) (history : List StatusEvent) (now : Int)
    (message : MotorPackMsg) (ordered : InOrder (history ++ [.frame now message])) :
    (Imu.Agrees Number idx history now message ↔ Imu.Settled Number idx history now message) ∧
      (Battery.Agrees Number idx history now message ↔ Battery.Settled Number idx history now message) :=
  ⟨Imu.agrees_iff_settled idx history now message ordered, Battery.agrees_iff_settled idx history now message ordered⟩

def sampleFrame (id : UInt32) : MotorPackMsg := ⟨id, kCanFrameFlagEff, 8, payload []⟩

theorem views_agree_sample :
    Imu.Agrees Float32 1 [.setOnStatus true, .frame (5 * second) (sampleFrame (imuCanId 0xF02D 1))] (5 * second + 500000000)
      (sampleFrame (imuCanId 0xF02A 1)) := by
  refine (views_agree Float32 1 _ _ _ (by decide)).1.mpr ?_
  intro update _ _ kind _ old
  cases kind with
  | acceleration => exact absurd old (by decide +kernel)
  | _ => rfl

theorem views_disagree :
    ¬ ∀ idx history now message, InOrder (history ++ [.frame now message]) →
      Imu.Agrees Float32 idx history now message ∧ Battery.Agrees Float32 idx history now message := by
  intro always
  have agrees := (always 1 [.setOnStatus true, .frame (5 * second) (sampleFrame (imuCanId 0xF02D 1))] (7 * second)
    (sampleFrame (imuCanId 0xF02A 1)) (by decide)).1
  have handed := (agrees.handed _ rfl).1
  have present := congrArg (fun status => status.acceleration.isSome) handed
  exact absurd present (by decide +kernel)

end EncosDriver.Device
