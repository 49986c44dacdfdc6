import EncosDriver.Driver.Dispatch
import EncosDriver.Motor.StatusLifetime

set_option autoImplicit false

namespace EncosDriver.Motor.StatusDispatch

open Message
open StatusCache (Status carriesFeedback message_ignored message_cached)

inductive LogSession where
  | off
  | recording
  | failed
deriving DecidableEq, Repr

structure MotorState where
  cache : StatusCache
  userOnStatus : Bool := false
  logSession : LogSession := .off

inductive Effect where
  | logRow (motor : Driver.Pointer) (status : Status)
  | callback (motor : Driver.Pointer) (status : Status)

structure State where
  motors : Driver.Pointer → Option MotorState
  effects : List Effect := []

def handleStatus (motor : Driver.Pointer) (state : MotorState) (status : Status) : List Effect :=
  (if state.logSession = .recording then [.logRow motor status] else []) ++
    (if state.userOnStatus then [.callback motor status] else [])

def MotorState.onMessage (state : MotorState) (message : MotorPackMsg) : MotorState :=
  { state with cache := state.cache.onMessage message }

def publications (motor : Driver.Pointer) (state : MotorState) (message : MotorPackMsg) : List Effect :=
  if (StatusCache.autoDecodeFeedback message state.cache.ranges).error = .noResponse then []
  else (state.cache.onMessage message).status.elim [] (handleStatus motor state)

def State.deliver (tables : Driver.Tables) (message : MotorPackMsg) (state : State) (record : Driver.RecordId) : State :=
  match tables.records.find record with
  | none => state
  | some route =>
    match state.motors route.device with
    | none => state
    | some motor =>
      { motors := Function.update state.motors route.device (some (motor.onMessage message))
        effects := state.effects ++ publications route.device motor message }

def State.dispatchReceive (state : State) (tables : Driver.Tables) (adapter : Driver.Pointer) (message : MotorMessage) : State :=
  if message.data.id = Driver.systemFrameId then
    (tables.systemRoutes adapter message.busIdx).foldl (State.deliver tables message.data) state
  else
    (tables.exactRoute adapter ⟨message.busIdx, message.data.id⟩).elim state (state.deliver tables message.data)

inductive Event where
  | dispatch (tables : Driver.Tables) (adapter : Driver.Pointer) (message : MotorMessage)
  | use (motor : Driver.Pointer) (event : StatusCache.Event)
  | setOnStatus (motor : Driver.Pointer) (installed : Bool)
  | setLog (motor : Driver.Pointer) (session : LogSession)

def State.change (state : State) (motor : Driver.Pointer) (change : MotorState → MotorState) : State :=
  { state with motors := Function.update state.motors motor ((state.motors motor).map change) }

def State.step (state : State) : Event → State
  | .dispatch tables adapter message => state.dispatchReceive tables adapter message
  | .use motor event => state.change motor fun held => { held with cache := held.cache.step event }
  | .setOnStatus motor installed => state.change motor fun held => { held with userOnStatus := installed }
  | .setLog motor session => state.change motor fun held => { held with logSession := session }

def State.run (state : State) (history : List Event) : State := history.foldl State.step state

structure Untouched (before after : State) : Prop where
  motors : ∀ motor, after.motors motor = before.motors motor
  effects : after.effects = before.effects

def leadsToMotor (motors : Driver.Pointer → Option MotorState) (tables : Driver.Tables) (record : Driver.RecordId) : Bool :=
  (tables.records.find record).any fun route => (motors route.device).isSome

theorem no_publication (motor : Driver.Pointer) (state : MotorState) (message : MotorPackMsg)
    (plain : carriesFeedback message = false) : publications motor state message = [] := by
  have refused : ¬ StatusCache.Accepted state.cache message := by
    rw [StatusCache.accepted_iff, plain]
    exact Bool.false_ne_true
  simp only [StatusCache.Accepted, ne_eq, not_not] at refused
  simp only [publications, refused, ↓reduceIte]

variable (tables : Driver.Tables) (message : MotorPackMsg) (state : State) (record : Driver.RecordId)

theorem deliver_ignored (plain : carriesFeedback message = false) : state.deliver tables message record = state := by
  unfold State.deliver
  cases tables.records.find record with
  | none => rfl
  | some route =>
    cases found : state.motors route.device with
    | none => simp only [found]
    | some motor =>
      have kept : motor.onMessage message = motor := by
        simp only [MotorState.onMessage, message_ignored motor.cache message plain]
      simp only [found, kept, no_publication route.device motor message plain, List.append_nil]
      rw [← found, Function.update_eq_self]

theorem deliver_elsewhere
    (elsewhere : leadsToMotor state.motors tables record = false) : state.deliver tables message record = state := by
  unfold State.deliver
  unfold leadsToMotor at elsewhere
  cases found : tables.records.find record with
  | none => rfl
  | some route =>
    rw [found, Option.any_some, Option.isSome_eq_false_iff, Option.isNone_iff_eq_none] at elsewhere
    simp only [elsewhere]

theorem walk_ignored (records : List Driver.RecordId) (tables : Driver.Tables) (message : MotorPackMsg) (state : State)
    (ignored : ∀ record ∈ records, state.deliver tables message record = state) :
    records.foldl (State.deliver tables message) state = state := by
  induction records with
  | nil => rfl
  | cons record rest ih =>
    obtain ⟨first, following⟩ := List.forall_mem_cons.mp ignored
    rw [List.foldl_cons, first]
    exact ih following

def Listens (state : State) (motor : Driver.Pointer) : Prop := ∃ held, state.motors motor = some held ∧ held.userOnStatus = true

theorem feedback_published (motor : Driver.Pointer) (state : MotorState) (message : MotorPackMsg)
    (feeds : carriesFeedback message = true) (listens : state.userOnStatus = true) : publications motor state message ≠ [] := by
  have accepted := (StatusCache.accepted_iff state.cache message).mpr feeds
  obtain ⟨cached, -, -⟩ := message_cached state.cache message feeds
  unfold StatusCache.Accepted at accepted
  obtain ⟨status, present⟩ := Option.ne_none_iff_exists'.mp cached
  simp only [publications, accepted, ↓reduceIte, present, Option.elim_some, handleStatus, listens]
  simp

theorem deliver_effects : state.effects.length ≤ (state.deliver tables message record).effects.length := by
  unfold State.deliver
  split
  · exact Nat.le_refl _
  · split
    · exact Nat.le_refl _
    · simp

theorem walk_effects (records : List Driver.RecordId) (tables : Driver.Tables) (message : MotorPackMsg) (state : State) :
    state.effects.length ≤ (records.foldl (State.deliver tables message) state).effects.length := by
  induction records generalizing state with
  | nil => exact Nat.le_refl _
  | cons record rest ih => exact Nat.le_trans (deliver_effects tables message state record) (ih _)

theorem deliver_listens
    (motor : Driver.Pointer) (listens : Listens state motor) : Listens (state.deliver tables message record) motor := by
  unfold State.deliver
  split
  · exact listens
  · next route _ =>
      split
      · exact listens
      · next held found =>
          obtain ⟨own, present, installed⟩ := listens
          by_cases same : motor = route.device
          · subst same
            obtain rfl := Option.some.inj (found.symm.trans present)
            exact ⟨held.onMessage message, Function.update_self _ _ _, installed⟩
          · exact ⟨own, by simpa [Function.update_of_ne same] using present, installed⟩

theorem walk_publishes (records : List Driver.RecordId) (tables : Driver.Tables) (message : MotorPackMsg) (state : State)
    (feeds : carriesFeedback message = true) (record : Driver.RecordId) (route : Driver.RouteRecord) (inside : record ∈ records)
    (found : tables.records.find record = some route) (listens : Listens state route.device) :
    state.effects.length < (records.foldl (State.deliver tables message) state).effects.length := by
  induction records generalizing state with
  | nil => exact absurd inside List.not_mem_nil
  | cons first rest ih =>
    rw [List.foldl_cons]
    rcases List.mem_cons.mp inside with rfl | later
    · obtain ⟨held, present, installed⟩ := listens
      have published := feedback_published route.device held message feeds installed
      have delivered : state.effects.length < (state.deliver tables message record).effects.length := by
        simp only [State.deliver, found, present, List.length_append]
        have some := List.length_pos_iff.mpr published
        omega
      exact Nat.lt_of_lt_of_le delivered (walk_effects rest tables message _)
    · have kept := deliver_listens tables message state first route.device listens
      exact Nat.lt_of_le_of_lt (deliver_effects tables message state first) (ih _ later kept)

theorem change_registered (motor other : Driver.Pointer) (change : MotorState → MotorState) :
    ((state.change motor change).motors other).isSome = (state.motors other).isSome := by
  by_cases same : other = motor
  · subst same
    simp [State.change]
  · simp [State.change, Function.update_of_ne same]

theorem deliver_registered
    (other : Driver.Pointer) : ((state.deliver tables message record).motors other).isSome = (state.motors other).isSome := by
  unfold State.deliver
  split
  · rfl
  · next route _ =>
      split
      · rfl
      · next held found =>
          by_cases same : other = route.device
          · subst same
            simp [found]
          · simp [Function.update_of_ne same]

theorem step_registered (event : Event) (other : Driver.Pointer) :
    ((state.step event).motors other).isSome = (state.motors other).isSome := by
  cases event with
  | dispatch tables adapter message =>
    simp only [State.step, State.dispatchReceive]
    split
    · induction tables.systemRoutes adapter message.busIdx generalizing state with
      | nil => rfl
      | cons record rest ih =>
        rw [List.foldl_cons, ih, deliver_registered]
    · cases tables.exactRoute adapter ⟨message.busIdx, message.data.id⟩ with
      | none => rfl
      | some record => exact deliver_registered tables message.data state record other
  | use motor event | setOnStatus motor installed | setLog motor session => exact change_registered state motor other _

theorem run_registered (history : List Event) (other : Driver.Pointer) :
    ((state.run history).motors other).isSome = (state.motors other).isSome := by
  induction history generalizing state with
  | nil => rfl
  | cons event rest ih =>
    rw [State.run, List.foldl_cons, ← State.run, ih, step_registered]

theorem leads_registered (history : List Event) (tables : Driver.Tables) (record : Driver.RecordId) :
    leadsToMotor (state.run history).motors tables record = leadsToMotor state.motors tables record := by
  simp only [leadsToMotor, run_registered]

/-- A system frame leaves the motors of its bus untouched in every state of theirs exactly when it does not have the
shape of feedback, or no route of the bus leads to a motor. -/
theorem system_frames_iff (motors : Driver.Pointer → Option MotorState) (tables : Driver.Tables) (adapter : Driver.Pointer)
    (message : MotorMessage) (system : message.data.id = Driver.systemFrameId) :
    (∀ history, Untouched (State.run ⟨motors, []⟩ history)
        ((State.run ⟨motors, []⟩ history).dispatchReceive tables adapter message)) ↔
      (carriesFeedback message.data = false ∨
        ∀ record ∈ tables.systemRoutes adapter message.busIdx, leadsToMotor motors tables record = false) := by
  constructor
  · intro untouched
    by_contra neither
    simp only [not_or, Bool.not_eq_false, not_forall, exists_prop] at neither
    obtain ⟨feeds, record, inside, leads⟩ := neither
    obtain ⟨route, found, registered⟩ : ∃ route, tables.records.find record = some route ∧ (motors route.device).isSome := by
      simpa [leadsToMotor, Option.any_eq_true] using leads
    obtain ⟨held, present⟩ := Option.isSome_iff_exists.mp registered
    -- The motor of the route listens after a history of one step.
    have listens : Listens (State.run ⟨motors, []⟩ [.setOnStatus route.device true]) route.device :=
      ⟨{ held with userOnStatus := true }, by simp [State.run, State.step, State.change, present], rfl⟩
    have same := (untouched [.setOnStatus route.device true]).effects
    have more := walk_publishes _ tables message.data _ feeds record route inside found listens
    rw [State.dispatchReceive, if_pos system] at same
    rw [same] at more
    exact Nat.lt_irrefl _ more
  · intro harmless history
    have ignored : ∀ record ∈ tables.systemRoutes adapter message.busIdx,
        (State.run ⟨motors, []⟩ history).deliver tables message.data record = State.run ⟨motors, []⟩ history := by
      intro record inside
      rcases harmless with plain | elsewhere
      · exact deliver_ignored tables message.data _ record plain
      · exact deliver_elsewhere tables message.data _ record ((leads_registered _ _ _ _).trans (elsewhere record inside))
    have walked := walk_ignored _ tables message.data _ ignored
    rw [State.dispatchReceive, if_pos system, walked]
    exact ⟨fun motor => rfl, rfl⟩

def oneRoute : Driver.Tables :=
  { records := (∅ : Lib.Table Driver.RecordId Driver.RouteRecord).put ⟨30, 0⟩ ⟨30, 20, 10, true, 0, false⟩
    routes := (∅ : Lib.Table Driver.RouteKey Driver.RecordId).put (Driver.routeKey ⟨10, 0⟩ 1) ⟨30, 0⟩ }

def oneMotor : Driver.Pointer → Option MotorState := fun motor =>
  if motor = 30 then some { cache := { ranges := StatusCache.zeroRanges } } else none

def servedOnce : List Event := [.dispatch oneRoute 10 ⟨0, StatusCache.positionFeedback⟩]

def setIdAck : MotorMessage := ⟨0, ⟨0x7FF, 0, 4, payload [0x00, 0x01, 0x00, 0x04]⟩⟩

theorem system_frames_iff_acknowledgement :
    Untouched (State.run ⟨oneMotor, []⟩ servedOnce) ((State.run ⟨oneMotor, []⟩ servedOnce).dispatchReceive oneRoute 10 setIdAck) :=
  (system_frames_iff oneMotor oneRoute 10 setIdAck rfl).mpr (.inl (by decide)) servedOnce

def feedbackFrame : MotorMessage := ⟨0, ⟨0x7FF, 0, 8, payload [0x20]⟩⟩

theorem system_frames_touch :
    ¬ ∀ motors tables adapter message history, message.data.id = Driver.systemFrameId →
      Untouched (State.run ⟨motors, []⟩ history) ((State.run ⟨motors, []⟩ history).dispatchReceive tables adapter message) := by
  intro untouched
  have same := (untouched oneMotor oneRoute 10 feedbackFrame [] rfl).motors 30
  have before : ((State.run ⟨oneMotor, []⟩ []).motors 30).any (fun motor => motor.cache.status.isSome) = false := by decide +kernel
  have after : (((State.run ⟨oneMotor, []⟩ []).dispatchReceive oneRoute 10 feedbackFrame).motors 30).any
      (fun motor => motor.cache.status.isSome) = true := by
    decide +kernel
  rw [same, before] at after
  exact absurd after (by decide)

end EncosDriver.Motor.StatusDispatch
