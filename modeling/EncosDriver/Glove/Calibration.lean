import EncosDriver.Glove.Aggregation
import EncosDriver.Lib.Calls
import EncosDriver.Lib.System
import EncosDriver.Message.Types

set_option autoImplicit false

namespace EncosDriver.Glove

open Lib Message

inductive GloveCalibrationStatus where
  | success
  | failed
  | limited
  | timeout
deriving DecidableEq, Repr

def kCalibrationDlc : UInt8 := 8
def kEncoderMask : UInt16 := 0x03FF
def kCalibrateAll : UInt8 := 0xA0
def kCalibrateMask : UInt8 := 0xA1
def kGloveCalibrationId : UInt32 := 0x8150

def responseStatus (message : MotorPackMsg) : Option GloveCalibrationStatus :=
  if message.len ≠ kCalibrationDlc then none
  else if message.data.get 0 = 0xA0 then some .success
  else if message.data.get 0 = 0xA1 then some .failed
  else if message.data.get 0 = 0xA2 then some .limited
  else none

def mergeCalibrationStatus (current next : GloveCalibrationStatus) : GloveCalibrationStatus :=
  if current = .failed ∨ next = .failed then .failed
  else if current = .limited ∨ next = .limited then .limited
  else .success

structure Calibrator where
  response : GloveCalibrationStatus := .timeout
  responseReceived : Bool := false
  waitingForResponse : Bool := false
deriving DecidableEq, Repr

namespace Calibrator

def begin (_ : Calibrator) : Calibrator := { response := .timeout, responseReceived := false, waitingForResponse := true }

def clear (calibrator : Calibrator) : Calibrator := { calibrator with responseReceived := false, waitingForResponse := false }

def result (calibrator : Calibrator) : GloveCalibrationStatus :=
  if calibrator.responseReceived then calibrator.response else .timeout

def onMessage (calibrator : Calibrator) (message : MotorPackMsg) : Option Calibrator :=
  match responseStatus message with
  | none => none
  | some status =>
    if !calibrator.waitingForResponse || calibrator.responseReceived then none
    else some { calibrator with response := status, responseReceived := true }

end Calibrator

structure Finger where
  calibrator : Calibrator := {}
  requester : Option Nat := none
  answer : Option Nat := none
deriving DecidableEq, Repr

structure Arrival where
  finger : Nat
  message : MotorPackMsg
  requester : Option Nat
deriving DecidableEq, Repr

structure Reply where
  call : Nat
  finger : Nat
  status : GloveCalibrationStatus
  answer : Option Nat
deriving DecidableEq, Repr

inductive Request where
  | all
  | mask (finger : Nat) (encoderMask : UInt16)
deriving DecidableEq, Repr

inductive Ended where
  | returned (status : GloveCalibrationStatus)
  | threw (text : String)
deriving DecidableEq, Repr

inductive SendPc where
  | entering
  | starting
  | writing
  | failing
  | waiting
deriving DecidableEq, Repr

inductive CalibratePc where
  | entering
  | locking
  | sending (finger : Nat) (result : GloveCalibrationStatus) (pc : SendPc)
  | leaving (ended : Ended)
  | done (ended : Ended)
deriving DecidableEq, Repr

structure Call where
  request : Request
  pc : CalibratePc
deriving DecidableEq, Repr

structure Shared where
  requestLock : Option Nat := none
  fingers : Nat → Finger := fun _ => {}
  arrivals : List Arrival := []
  sent : List (Nat × Nat × MotorPackMsg) := []
  replies : List Reply := []

namespace Shared

def setFinger (shared : Shared) (index : Nat) (finger : Finger) : Shared :=
  { shared with fingers := fun other => if other = index then finger else shared.fingers other }

def start (shared : Shared) (id index : Nat) : Shared :=
  shared.setFinger index ⟨(shared.fingers index).calibrator.begin, some id, none⟩

def finish (shared : Shared) (id index : Nat) (status : GloveCalibrationStatus) (answer : Option Nat) : Shared :=
  { shared.setFinger index ⟨(shared.fingers index).calibrator.clear, none, none⟩ with
    replies := shared.replies ++ [⟨id, index, status, answer⟩] }

def arrive (shared : Shared) (index : Nat) (message : MotorPackMsg) : Shared :=
  { shared with arrivals := shared.arrivals ++ [⟨index, message, (shared.fingers index).requester⟩] }

def onMessage (shared : Shared) (index : Nat) (message : MotorPackMsg) : Shared :=
  let finger := shared.fingers index
  match finger.calibrator.onMessage message with
  | none => shared.arrive index message
  | some calibrator =>
    (shared.arrive index message).setFinger index ⟨calibrator, finger.requester, some shared.arrivals.length⟩

end Shared

def badFinger : String := "Glove finger index must be in range [0, 4]"

def badMask : String := "Glove encoder mask may only use bits [0, 9]"

def unavailable : String := "Glove is being destroyed or is no longer available"

def kAllMessage : MotorPackMsg := ⟨kGloveCalibrationId, kCanFrameFlagEff, kCalibrationDlc, payload [kCalibrateAll]⟩

def maskMessage (encoderMask : UInt16) : MotorPackMsg :=
  ⟨kGloveCalibrationId, kCanFrameFlagEff, kCalibrationDlc,
    payload [kCalibrateMask, (encoderMask &&& 0xFF).toUInt8, (encoderMask >>> 8).toUInt8]⟩

def Request.message : Request → Except String MotorPackMsg
  | .all => .ok kAllMessage
  | .mask _ encoderMask => if encoderMask &&& ~~~kEncoderMask ≠ 0 then .error badMask else .ok (maskMessage encoderMask)

def Request.refused : Request → Option String
  | .all => none
  | .mask finger encoderMask =>
    if finger ≥ kFingerCount then some badFinger
    else if encoderMask &&& ~~~kEncoderMask ≠ 0 then some badMask
    else none

def Request.first : Request → Nat
  | .all => 0
  | .mask finger _ => finger

def Request.next (request : Request) (finger : Nat) (result status : GloveCalibrationStatus) : CalibratePc :=
  match request with
  | .mask _ _ => .leaving (.returned status)
  | .all =>
    if status = .timeout then .leaving (.returned .timeout)
    else if finger + 1 < kFingerCount then .sending (finger + 1) (mergeCalibrationStatus result status) .entering
    else .leaving (.returned (mergeCalibrationStatus result status))

inductive Answer where
  | returns
  | throws (text : String)
deriving DecidableEq, Repr

abbrev Moved := Option (Move Shared Call)

def moved (shared : Shared) (request : Request) (pc : CalibratePc) : Moved := some ⟨shared, ⟨request, pc⟩, none⟩

def sendAndWait (shared : Shared) (id : Nat) (answer : Answer) (request : Request) (finger : Nat)
    (result : GloveCalibrationStatus) : SendPc → Moved
  | .entering =>
    match request.message, answer with
    | .error text, _ => moved shared request (.leaving (.threw text))
    | .ok _, .throws text => moved shared request (.leaving (.threw text))
    | .ok _, .returns => moved shared request (.sending finger result .starting)
  | .starting => moved (shared.start id finger) request (.sending finger result .writing)
  | .writing =>
    match request.message, answer with
    | .ok message, .returns =>
      moved { shared with sent := shared.sent ++ [(id, finger, message)] } request (.sending finger result .waiting)
    | _, _ => moved shared request (.sending finger result .failing)
  | .failing => moved (shared.finish id finger .timeout none) request (request.next finger result .timeout)
  | .waiting =>
    let asked := shared.fingers finger
    moved (shared.finish id finger asked.calibrator.result asked.answer) request
      (request.next finger result asked.calibrator.result)

def calibrate (shared : Shared) (id : Nat) (answer : Answer) (request : Request) : CalibratePc → Moved
  | .entering =>
    match request.refused, answer with
    | some text, _ => moved shared request (.done (.threw text))
    | none, .throws _ => moved shared request (.done (.threw unavailable))
    | none, .returns => moved shared request .locking
  | .locking =>
    match shared.requestLock with
    | some _ => none
    | none => moved { shared with requestLock := some id } request (.sending request.first .success .entering)
  | .sending finger result pc => sendAndWait shared id answer request finger result pc
  | .leaving ended => moved { shared with requestLock := none } request (.done ended)
  | .done _ => none

-- A new call from any thread, the next section of a call, or a frame on the bus
-- of a finger.
inductive Action where
  | calibrate (request : Request)
  | run (id : Nat) (answer : Answer)
  | onMessage (finger : Nat) (message : MotorPackMsg)
deriving DecidableEq, Repr

abbrev State := World Shared Call

def step (state : State) : Action → Option State
  | .calibrate request => some (state.start ⟨request, .entering⟩)
  | .run id answer =>
    match state.calls.find id with
    | none => none
    | some call => (calibrate state.shared id answer call.request call.pc).map fun move => state.advance id move
  | .onMessage finger message =>
    if finger < kFingerCount then some { state with shared := state.shared.onMessage finger message } else none

def initial : State := ⟨{}, ∅, 0⟩

def system : System State Action where
  init := fun state => state = initial
  step := step

open World

def CalibratePc.asks : CalibratePc → Nat → Bool
  | .sending finger _ .writing, other | .sending finger _ .failing, other | .sending finger _ .waiting, other => other = finger
  | _, _ => false

def CalibratePc.holds : CalibratePc → Bool
  | .sending _ _ _ | .leaving _ => true
  | _ => false

def verdict (statuses : List GloveCalibrationStatus) : GloveCalibrationStatus :=
  if .timeout ∈ statuses then .timeout
  else if .failed ∈ statuses then .failed
  else if .limited ∈ statuses then .limited
  else .success

def Answers (arrivals : List Arrival) (index finger id : Nat) (status : GloveCalibrationStatus) : Prop :=
  ∃ arrival, arrivals[index]? = some arrival ∧ arrival.finger = finger ∧ arrival.requester = some id ∧
    responseStatus arrival.message = some status

def ReplyOk (arrivals : List Arrival) (reply : Reply) : Prop :=
  (reply.answer = none ∧ reply.status = .timeout) ∨
    ∃ index, reply.answer = some index ∧ Answers arrivals index reply.finger reply.call reply.status

structure FingerOk (arrivals : List Arrival) (index : Nat) (finger : Finger) : Prop where
  waiting : finger.calibrator.waitingForResponse = finger.requester.isSome
  answer : (finger.calibrator.responseReceived = false ∧ finger.answer = none) ∨
    (finger.calibrator.responseReceived = true ∧ ∃ arrival id, finger.answer = some arrival ∧ finger.requester = some id ∧
      Answers arrivals arrival index id finger.calibrator.response)

structure StoreOk (shared : Shared) : Prop where
  fingers : ∀ index, FingerOk shared.arrivals index (shared.fingers index)
  alone : ∀ index id, (shared.fingers index).requester = some id → shared.requestLock = some id
  replies : ∀ reply ∈ shared.replies, ReplyOk shared.arrivals reply
  once : shared.replies.Pairwise fun one other => one.call = other.call → one.finger ≠ other.finger

structure View where
  lock : Bool
  asks : Nat → Bool
  replies : List Reply

def Shared.view (shared : Shared) (id : Nat) : View :=
  ⟨shared.requestLock = some id, fun index => (shared.fingers index).requester = some id,
    shared.replies.filter fun reply => reply.call = id⟩

def View.empty : View := ⟨false, fun _ => false, []⟩

def Asked (request : Request) (finger : Nat) (result : GloveCalibrationStatus) (replies : List Reply) : Prop :=
  match request with
  | .all =>
    replies.map Reply.finger = List.range finger ∧ finger < kFingerCount ∧ .timeout ∉ replies.map Reply.status ∧
      result = verdict (replies.map Reply.status)
  | .mask index _ => finger = index ∧ replies = []

def Returned (request : Request) (status : GloveCalibrationStatus) (replies : List Reply) : Prop :=
  match request with
  | .all =>
    status = verdict (replies.map Reply.status) ∧
      ∃ count, replies.map Reply.finger = List.range count ∧ (count = kFingerCount ∨ status = .timeout)
  | .mask index _ => ∃ reply, replies = [reply] ∧ reply.finger = index ∧ reply.status = status

def Progress (request : Request) (replies : List Reply) : CalibratePc → Prop
  | .entering | .locking => replies = []
  | .sending finger result _ => Asked request finger result replies
  | .leaving (.returned status) | .done (.returned status) => Returned request status replies
  | .leaving (.threw _) | .done (.threw _) => True

structure CallOk (view : View) (call : Call) : Prop where
  lock : view.lock = call.pc.holds
  asks : view.asks = call.pc.asks
  progress : Progress call.request view.replies call.pc

abbrev Inv (state : State) : Prop :=
  Sound StoreOk (fun shared id => shared.view id ≠ .empty) (fun _ _ => True) (fun shared id call => CallOk (shared.view id) call)
    state

variable (arrivals : List Arrival) (arrival : Arrival)

theorem answers_append (index finger id : Nat) (status : GloveCalibrationStatus)
    (answers : Answers arrivals index finger id status) : Answers (arrivals ++ [arrival]) index finger id status := by
  obtain ⟨found, located, facts⟩ := answers
  refine ⟨found, ?_, facts⟩
  obtain ⟨bound, _⟩ := List.getElem?_eq_some_iff.mp located
  rw [List.getElem?_append_left bound]
  exact located

theorem reply_ok_append (reply : Reply) (fine : ReplyOk arrivals reply) : ReplyOk (arrivals ++ [arrival]) reply := by
  rcases fine with unanswered | ⟨index, answer, answers⟩
  · exact .inl unanswered
  · exact .inr ⟨index, answer, answers_append _ _ _ _ _ _ answers⟩

theorem finger_ok_append (index : Nat) (finger : Finger)
    (fine : FingerOk arrivals index finger) : FingerOk (arrivals ++ [arrival]) index finger := by
  refine ⟨fine.waiting, ?_⟩
  rcases fine.answer with open_ | ⟨received, answer, id, at_, requester, answers⟩
  · exact .inl open_
  · exact .inr ⟨received, answer, id, at_, requester, answers_append _ _ _ _ _ _ answers⟩

theorem merge_verdict (statuses : List GloveCalibrationStatus) (status : GloveCalibrationStatus)
    (earlier : .timeout ∉ statuses) (now : status ≠ .timeout) :
    mergeCalibrationStatus (verdict statuses) status = verdict (statuses ++ [status]) := by
  unfold verdict mergeCalibrationStatus
  by_cases failed : .failed ∈ statuses
  · simp [earlier, now.symm, failed]
  · by_cases limited : .limited ∈ statuses <;> cases status <;> simp_all

theorem verdict_timeout (statuses : List GloveCalibrationStatus) : verdict (statuses ++ [.timeout]) = .timeout := by
  simp [verdict]

theorem asked_fresh (request : Request) (finger : Nat) (result : GloveCalibrationStatus) (replies : List Reply)
    (asked : Asked request finger result replies) (reply : Reply) (member : reply ∈ replies) : reply.finger ≠ finger := by
  cases request with
  | all =>
    have listed : reply.finger ∈ List.range finger := asked.1 ▸ List.mem_map_of_mem member
    exact Nat.ne_of_lt (List.mem_range.mp listed)
  | mask index encoderMask =>
    rw [asked.2] at member
    cases member

theorem asked_next (request : Request) (result : GloveCalibrationStatus) (replies : List Reply) (reply : Reply)
    (asked : Asked request reply.finger result replies) :
    Progress request (replies ++ [reply]) (request.next reply.finger result reply.status) := by
  cases request with
  | mask index encoderMask =>
    obtain ⟨here, none⟩ := asked
    subst none
    exact ⟨reply, rfl, here, rfl⟩
  | all =>
    obtain ⟨order, bound, timely, merged⟩ := asked
    have ordered : (replies ++ [reply]).map Reply.finger = List.range (reply.finger + 1) := by
      rw [List.map_append, order, List.range_succ]
      rfl
    have statuses : (replies ++ [reply]).map Reply.status = replies.map Reply.status ++ [reply.status] := List.map_append
    by_cases late : reply.status = .timeout
    · rw [Request.next, if_pos late]
      refine ⟨?_, reply.finger + 1, ordered, .inr rfl⟩
      rw [statuses, late, verdict_timeout]
    · have merges := merge_verdict _ _ timely late
      rw [← merged, ← statuses] at merges
      by_cases more : reply.finger + 1 < kFingerCount
      · rw [Request.next, if_neg late, if_pos more]
        refine ⟨ordered, more, ?_, merges⟩
        rw [statuses]
        intro member
        rcases List.mem_append.mp member with earlier | latest
        · exact timely earlier
        · exact late (List.mem_singleton.mp latest).symm
      · rw [Request.next, if_neg late, if_neg more]
        exact ⟨merges, reply.finger + 1, ordered, .inl (Nat.le_antisymm bound (Nat.le_of_not_lt more))⟩

theorem view_congr (one two : Shared) (id : Nat) (lock : one.requestLock = some id ↔ two.requestLock = some id)
    (asks : ∀ index, (one.fingers index).requester = some id ↔ (two.fingers index).requester = some id)
    (replies : (one.view id).replies = (two.view id).replies) : one.view id = two.view id := by
  refine View.mk.injEq _ _ _ _ _ _ ▸ ⟨decide_eq_decide.mpr lock, ?_, replies⟩
  funext index
  exact decide_eq_decide.mpr (asks index)

variable (shared : Shared)

theorem view_set_finger (index id : Nat) (finger : Finger)
    (before : (shared.fingers index).requester ≠ some id) (after : finger.requester ≠ some id) :
    (shared.setFinger index finger).view id = shared.view id := by
  refine view_congr _ _ id Iff.rfl ?_ rfl
  intro other
  by_cases here : other = index
  · simp [Shared.setFinger, here, before, after]
  · simp [Shared.setFinger, here]

variable (index : Nat)

theorem set_finger_ok (finger : Finger) (ok : StoreOk shared) (fine : FingerOk shared.arrivals index finger)
    (alone : ∀ id, finger.requester = some id → shared.requestLock = some id) : StoreOk (shared.setFinger index finger) := by
  refine ⟨?_, ?_, ok.replies, ok.once⟩
  · intro other
    by_cases here : other = index
    · subst here
      simpa only [Shared.setFinger, ↓reduceIte] using fine
    · simpa only [Shared.setFinger, here, ↓reduceIte] using ok.fingers other
  · intro other id
    by_cases here : other = index
    · simpa only [Shared.setFinger, here, ↓reduceIte] using alone id
    · simpa only [Shared.setFinger, here, ↓reduceIte] using ok.alone other id

structure Moves (shared : Shared) (id : Nat) (move : Move Shared Call) : Prop where
  store : StoreOk move.shared
  others : ∀ other, other ≠ id → move.shared.view other = shared.view other
  own : CallOk (move.shared.view id) move.call
  alone : move.started = none

theorem stays (shared next : Shared) (id : Nat) (call : Call) (store : StoreOk next)
    (same : ∀ other, next.view other = shared.view other) (own : CallOk (shared.view id) call) :
    Moves shared id ⟨next, call, none⟩ := by
  refine ⟨store, fun other _ => same other, ?_, rfl⟩
  rw [same]
  exact own

theorem lock_moves (id : Nat) (call : Call) (lock : Option Nat) (ok : StoreOk shared)
    (others : ∀ other, other ≠ id → shared.requestLock ≠ some other ∧ lock ≠ some other)
    (alone : ∀ index other, (shared.fingers index).requester = some other → lock = some other)
    (own : CallOk { shared.view id with lock := lock = some id } call) :
    Moves shared id ⟨{ shared with requestLock := lock }, call, none⟩ := by
  refine ⟨⟨ok.fingers, alone, ok.replies, ok.once⟩, ?_, own, rfl⟩
  intro other different
  obtain ⟨before, after⟩ := others other different
  simp [Shared.view, before, after]

theorem holder_alone (id other : Nat) (locked : shared.requestLock = some id) (different : other ≠ id) :
    shared.requestLock ≠ some other := by
  rw [locked]
  exact fun same => different (Option.some.inj same).symm

theorem start_moves (id index : Nat) (request : Request) (result : GloveCalibrationStatus) (ok : StoreOk shared)
    (fine : CallOk (shared.view id) ⟨request, .sending index result .starting⟩) :
    Moves shared id ⟨shared.start id index, ⟨request, .sending index result .writing⟩, none⟩ := by
  have locked : shared.requestLock = some id := of_decide_eq_true fine.lock
  refine ⟨?_, ?_, ⟨fine.lock, ?_, fine.progress⟩, rfl⟩
  · refine set_finger_ok shared index _ ok ⟨rfl, .inl ⟨rfl, rfl⟩⟩ ?_
    intro other same
    exact locked.trans same
  · intro other different
    refine view_set_finger shared index other _ ?_ ?_
    · exact fun same => holder_alone shared id other locked different (ok.alone index other same)
    · exact fun same => different (Option.some.inj same).symm
  · funext other
    by_cases here : other = index
    · simp [Shared.view, Shared.start, Shared.setFinger, CalibratePc.asks, here]
    · have nowhere := congrFun fine.asks other
      simpa [Shared.view, Shared.start, Shared.setFinger, CalibratePc.asks, here] using nowhere

theorem next_asks (request : Request) (finger other : Nat) (result status : GloveCalibrationStatus) :
    (request.next finger result status).asks other = false := by
  cases request with
  | mask index encoderMask => rfl
  | all =>
    rw [Request.next]
    repeat' split
    all_goals rfl

theorem next_holds (request : Request) (finger : Nat) (result status : GloveCalibrationStatus) :
    (request.next finger result status).holds = true := by
  cases request with
  | mask index encoderMask => rfl
  | all =>
    rw [Request.next]
    repeat' split
    all_goals rfl

theorem finish_moves (id : Nat) (request : Request) (result : GloveCalibrationStatus) (pc : SendPc) (reply : Reply)
    (ok : StoreOk shared) (fine : CallOk (shared.view id) ⟨request, .sending reply.finger result pc⟩) (own : reply.call = id)
    (asks : (CalibratePc.sending reply.finger result pc).asks = fun other => other = reply.finger)
    (good : ReplyOk shared.arrivals reply) :
    Moves shared id ⟨shared.finish id reply.finger reply.status reply.answer,
      ⟨request, request.next reply.finger result reply.status⟩, none⟩ := by
  have locked : shared.requestLock = some id := of_decide_eq_true fine.lock
  have requester : ∀ other, (shared.fingers other).requester = some id ↔ other = reply.finger := by
    intro other
    have asked := congrFun (fine.asks.trans asks) other
    simpa [Shared.view] using asked
  have recorded : (⟨id, reply.finger, reply.status, reply.answer⟩ : Reply) = reply := by
    rw [← own]
  have progress : Asked request reply.finger result (shared.view id).replies := fine.progress
  have cleared := set_finger_ok shared reply.finger ⟨(shared.fingers reply.finger).calibrator.clear, none, none⟩ ok
    ⟨rfl, .inl ⟨rfl, rfl⟩⟩ (fun _ same => by cases same)
  refine ⟨⟨cleared.fingers, cleared.alone, ?_, ?_⟩, ?_, ⟨?_, ?_, ?_⟩, rfl⟩
  · intro other member
    rcases List.mem_append.mp member with earlier | latest
    · exact ok.replies other earlier
    · rw [List.mem_singleton.mp latest, recorded]
      exact good
  · refine List.pairwise_append.mpr ⟨ok.once, List.pairwise_singleton _ _, ?_⟩
    intro one member other latest same
    rw [List.mem_singleton.mp latest] at same ⊢
    exact asked_fresh request reply.finger result _ progress one
      (List.mem_filter.mpr ⟨member, decide_eq_true same⟩)
  · intro other different
    have kept := view_set_finger shared reply.finger other ⟨(shared.fingers reply.finger).calibrator.clear, none, none⟩
      (fun same => holder_alone shared id other locked different (ok.alone reply.finger other same)) (fun same => by cases same)
    rw [← kept]
    refine view_congr _ _ other Iff.rfl (fun _ => Iff.rfl) ?_
    simp [Shared.view, Shared.finish, Shared.setFinger, different.symm]
  · exact fine.lock.trans (next_holds _ _ _ _).symm
  · funext other
    rw [next_asks]
    by_cases here : other = reply.finger
    · simp [Shared.view, Shared.finish, Shared.setFinger, here]
    · have elsewhere := mt (requester other).mp here
      simp [Shared.view, Shared.finish, Shared.setFinger, here, elsewhere]
  · have listed : ((shared.finish id reply.finger reply.status reply.answer).view id).replies = (shared.view id).replies ++ [reply] := by
      simp only [Shared.view, Shared.finish, Shared.setFinger, List.filter_append, recorded]
      simp [own]
    rw [listed]
    exact asked_next request result _ reply progress

theorem send_moves (id : Nat) (answer : Answer) (request : Request) (finger : Nat) (result : GloveCalibrationStatus)
    (pc : SendPc) (move : Move Shared Call) (ok : StoreOk shared)
    (fine : CallOk (shared.view id) ⟨request, .sending finger result pc⟩)
    (taken : sendAndWait shared id answer request finger result pc = some move) : Moves shared id move := by
  have unchanged (next : Shared) (store : StoreOk next) (same : ∀ other, next.view other = shared.view other) (pc' : SendPc)
      (asks : (CalibratePc.sending finger result pc).asks = (CalibratePc.sending finger result pc').asks) :
      Moves shared id ⟨next, ⟨request, .sending finger result pc'⟩, none⟩ :=
    stays shared next id _ store same ⟨fine.lock, fine.asks.trans asks, fine.progress⟩
  cases pc with
  | entering =>
    have leaves (text : String) : Moves shared id ⟨shared, ⟨request, .leaving (.threw text)⟩, none⟩ :=
      stays shared shared id _ ok (fun _ => rfl) ⟨fine.lock, fine.asks, trivial⟩
    simp only [sendAndWait] at taken
    split at taken <;> cases taken
    · exact leaves _
    · exact leaves _
    · exact unchanged shared ok (fun _ => rfl) _ rfl
  | starting =>
    cases taken
    exact start_moves shared id finger request result ok fine
  | writing =>
    simp only [sendAndWait] at taken
    split at taken <;> cases taken
    · next message _ =>
      exact unchanged { shared with sent := shared.sent ++ [(id, finger, message)] } ⟨ok.fingers, ok.alone, ok.replies, ok.once⟩
        (fun _ => rfl) .waiting rfl
    · exact unchanged shared ok (fun _ => rfl) .failing rfl
  | failing =>
    cases taken
    exact finish_moves shared id request result .failing ⟨id, finger, .timeout, none⟩ ok fine rfl rfl (.inl ⟨rfl, rfl⟩)
  | waiting =>
    cases taken
    refine finish_moves shared id request result .waiting
      ⟨id, finger, (shared.fingers finger).calibrator.result, (shared.fingers finger).answer⟩ ok fine rfl rfl ?_
    have requester : (shared.fingers finger).requester = some id := by
      have asked := congrFun fine.asks finger
      simpa [Shared.view, CalibratePc.asks] using asked
    rcases (ok.fingers finger).answer with ⟨unheard, unanswered⟩ | ⟨received, index, asker, answered, asking, answers⟩
    · exact .inl ⟨unanswered, by rw [Calibrator.result, unheard]; rfl⟩
    · rw [requester] at asking
      cases asking
      refine .inr ⟨index, answered, ?_⟩
      rw [Calibrator.result, if_pos received]
      exact answers

theorem calibrate_moves (id : Nat) (answer : Answer) (call : Call) (move : Move Shared Call) (ok : StoreOk shared)
    (fine : CallOk (shared.view id) call) (taken : calibrate shared id answer call.request call.pc = some move) :
    Moves shared id move := by
  obtain ⟨request, pc⟩ := call
  cases pc with
  | entering =>
    have ends (text : String) : Moves shared id ⟨shared, ⟨request, .done (.threw text)⟩, none⟩ :=
      stays shared shared id _ ok (fun _ => rfl) ⟨fine.lock, fine.asks, trivial⟩
    simp only [calibrate] at taken
    split at taken <;> cases taken
    · exact ends _
    · exact ends _
    · exact stays shared shared id _ ok (fun _ => rfl) ⟨fine.lock, fine.asks, fine.progress⟩
  | locking =>
    simp only [calibrate] at taken
    split at taken
    · cases taken
    · next free =>
      cases taken
      have nothing : (shared.view id).replies = [] := fine.progress
      refine lock_moves shared id _ (some id) ok ?_ ?_ ⟨decide_eq_true rfl, fine.asks, ?_⟩
      · intro other different
        exact ⟨by rw [free]; exact (Option.some_ne_none other).symm, fun same => different (Option.some.inj same).symm⟩
      · intro index other requester
        rw [ok.alone index other requester] at free
        cases free
      · show Asked request request.first .success (shared.view id).replies
        rw [nothing]
        cases request with
        | all => exact ⟨rfl, Nat.zero_lt_succ _, List.not_mem_nil, rfl⟩
        | mask index encoderMask => exact ⟨rfl, rfl⟩
  | sending finger result pc => exact send_moves shared id answer request finger result pc move ok fine taken
  | leaving ended =>
    cases taken
    have locked : shared.requestLock = some id := of_decide_eq_true fine.lock
    refine lock_moves shared id _ none ok ?_ ?_ ⟨rfl, fine.asks, ?_⟩
    · intro other different
      exact ⟨holder_alone shared id other locked different, (Option.some_ne_none other).symm⟩
    · intro index other requester
      obtain rfl := Option.some.inj (locked.symm.trans (ok.alone index other requester))
      have idle := congrFun fine.asks index
      simp [Shared.view, requester, CalibratePc.asks] at idle
    · have progress := fine.progress
      cases ended <;> exact progress
  | done ended => cases taken

theorem on_message_some (calibrator next : Calibrator) (message : MotorPackMsg) (taken : calibrator.onMessage message = some next) :
    ∃ status, responseStatus message = some status ∧ calibrator.waitingForResponse = true ∧ calibrator.responseReceived = false ∧
      next = { calibrator with response := status, responseReceived := true } := by
  unfold Calibrator.onMessage at taken
  cases decoded : responseStatus message with
  | none => simp only [decoded, reduceCtorEq] at taken
  | some status =>
    simp only [decoded, Option.ite_none_left_eq_some, Bool.or_eq_true, Bool.not_eq_eq_eq_not, Bool.not_true, not_or,
      Bool.not_eq_false, Bool.not_eq_true, Option.some.injEq] at taken
    exact ⟨status, rfl, taken.1.1, taken.1.2, taken.2.symm⟩

theorem on_message_none (calibrator : Calibrator) (message : MotorPackMsg)
    (ignored : responseStatus message = none ∨ calibrator.waitingForResponse = false ∨ calibrator.responseReceived = true) :
    calibrator.onMessage message = none := by
  cases taken : calibrator.onMessage message with
  | none => rfl
  | some next =>
    obtain ⟨status, decoded, waiting, open_, _⟩ := on_message_some calibrator next message taken
    simp [decoded, waiting, open_] at ignored

variable (message : MotorPackMsg)

theorem receive_ignored
    (ignored : (shared.fingers index).calibrator.onMessage message = none) :
    shared.onMessage index message = shared.arrive index message := by
  simp only [Shared.onMessage, ignored]

theorem receive_taken (calibrator : Calibrator)
    (taken : (shared.fingers index).calibrator.onMessage message = some calibrator) :
    shared.onMessage index message =
      (shared.arrive index message).setFinger index ⟨calibrator, (shared.fingers index).requester, some shared.arrivals.length⟩ := by
  simp only [Shared.onMessage, taken]

theorem receive_view (index id : Nat) (message : MotorPackMsg) : (shared.onMessage index message).view id = shared.view id := by
  cases taken : (shared.fingers index).calibrator.onMessage message with
  | none =>
    rw [receive_ignored shared index message taken]
    rfl
  | some calibrator =>
    rw [receive_taken shared index message calibrator taken]
    refine view_congr _ _ id Iff.rfl ?_ rfl
    intro other
    by_cases here : other = index <;> simp [Shared.setFinger, Shared.arrive, here]

theorem receive_ok (ok : StoreOk shared) : StoreOk (shared.onMessage index message) := by
  have arrived : StoreOk (shared.arrive index message) :=
    ⟨fun other => finger_ok_append _ _ _ _ (ok.fingers other), ok.alone,
      fun reply member => reply_ok_append _ _ _ (ok.replies reply member), ok.once⟩
  cases taken : (shared.fingers index).calibrator.onMessage message with
  | none =>
    rw [receive_ignored shared index message taken]
    exact arrived
  | some calibrator =>
    rw [receive_taken shared index message calibrator taken]
    obtain ⟨status, decoded, waiting, _, rfl⟩ := on_message_some _ _ _ taken
    refine set_finger_ok _ index _ arrived ⟨(ok.fingers index).waiting, ?_⟩ (ok.alone index)
    have asked := (ok.fingers index).waiting.symm.trans waiting
    obtain ⟨id, requester⟩ := Option.isSome_iff_exists.mp asked
    exact .inr ⟨rfl, shared.arrivals.length, id, rfl, requester,
      ⟨index, message, (shared.fingers index).requester⟩, List.getElem?_concat_length, rfl, requester, decoded⟩

theorem step_inv (state next : State) (action : Action) (inv : Inv state) (taken : step state action = some next) : Inv next := by
  cases action with
  | calibrate request =>
    cases taken
    have unknown : state.shared.view state.nextCall = .empty := by
      by_contra held
      obtain ⟨call, found, _⟩ := inv.backed state.nextCall held
      rw [numbered_absent state inv.numbered] at found
      cases found
    refine sound_start state _ inv ?_
    rw [unknown]
    exact ⟨rfl, rfl, rfl⟩
  | run id answer =>
    cases present : state.calls.find id with
    | none => simp only [step, present, reduceCtorEq] at taken
    | some call =>
      simp only [step, present] at taken
      obtain ⟨move, moved, rfl⟩ := Option.map_eq_some_iff.mp taken
      have moves := calibrate_moves state.shared id answer call move inv.store (inv.calls id call present) moved
      refine sound_advance state id call move inv present moves.store ?_ (fun _ => trivial) moves.own ?_ moves.alone
      · intro other different held
        rwa [moves.others other different] at held
      · intro other holder different fine
        rwa [moves.others other different]
  | onMessage finger message =>
    simp only [step, Option.ite_none_right_eq_some, Option.some.injEq] at taken
    obtain ⟨_, rfl⟩ := taken
    refine sound_store state _ inv (receive_ok state.shared finger message inv.store) ?_ ?_
    · intro id held
      rwa [receive_view] at held
    · intro id call fine
      rwa [receive_view]

theorem calibration_inv : ∀ state, Reachable system state → Inv state := by
  refine reachable_invariant system Always Inv ?_ ?_
  · intro state first
    subst first
    refine ⟨?_, ⟨fun _ => ⟨rfl, .inl ⟨rfl, rfl⟩⟩, ?_, ?_, .nil⟩, ?_, ?_⟩
    · intro id call found
      cases found
    · intro index id asked
      cases asked
    · intro reply member
      cases member
    · intro id held
      exact absurd rfl held
    · intro id call found
      cases found
  · intro state action next inv _ taken
    exact step_inv state next action inv taken

def Requests (state : State) (id finger : Nat) : Prop := ∃ call, state.calls.find id = some call ∧ call.pc.asks finger = true

structure Calibrates (state : State) : Prop where
  requests : ∀ finger id, (state.shared.fingers finger).requester = some id ↔ Requests state id finger
  flags : ∀ finger, (state.shared.fingers finger).calibrator.waitingForResponse = (state.shared.fingers finger).requester.isSome
  distinct : state.shared.replies.Pairwise fun one other => one.call = other.call → one.finger ≠ other.finger
  answered : ∀ reply ∈ state.shared.replies, ReplyOk state.shared.arrivals reply
  once : (state.shared.replies.filterMap Reply.answer).Nodup
  unheard : ∀ finger message next, step state (.onMessage finger message) = some next →
    ((state.shared.fingers finger).requester = none ∨ responseStatus message = none ∨
      (state.shared.fingers finger).calibrator.responseReceived = true) →
    next = { state with shared := state.shared.arrive finger message }
  returned : ∀ id request status, state.calls.find id = some ⟨request, .done (.returned status)⟩ →
    Returned request status (state.shared.view id).replies

theorem requester_requests (state : State) (inv : Inv state) (finger id : Nat) :
    (state.shared.fingers finger).requester = some id ↔ Requests state id finger := by
  have asks (call : Call) (found : state.calls.find id = some call) :
      call.pc.asks finger = decide ((state.shared.fingers finger).requester = some id) :=
    (congrFun (inv.calls id call found).asks finger).symm
  constructor
  · intro requester
    have held : state.shared.view id ≠ .empty := by
      intro nothing
      have idle := congrFun (congrArg View.asks nothing) finger
      simp [Shared.view, View.empty, requester] at idle
    obtain ⟨call, found, _⟩ := inv.backed id held
    exact ⟨call, found, by rw [asks call found, requester, decide_eq_true rfl]⟩
  · intro ⟨call, found, asking⟩
    rw [asks call found] at asking
    exact of_decide_eq_true asking

theorem answers_once (ok : StoreOk shared) : (shared.replies.filterMap Reply.answer).Nodup := by
  refine List.pairwise_filterMap.mpr (ok.once.imp_of_mem ?_)
  intro one other first second distinct index answer later answered same
  subst same
  rcases ok.replies one first with ⟨unanswered, _⟩ | ⟨here, at_, arrival, located, finger, requester, _⟩
  · rw [unanswered] at answer
    cases answer
  · rcases ok.replies other second with ⟨unanswered, _⟩ | ⟨there, by_, found, placed, otherFinger, otherRequester, _⟩
    · rw [unanswered] at answered
      cases answered
    · obtain rfl := Option.some.inj (at_.symm.trans answer)
      obtain rfl := Option.some.inj (by_.symm.trans answered)
      obtain rfl := Option.some.inj (located.symm.trans placed)
      exact distinct (Option.some.inj (requester.symm.trans otherRequester)) (finger.symm.trans otherFinger)

theorem calibration_protocol (state : State) (reached : Reachable system state) : Calibrates state := by
  have inv := calibration_inv state reached
  refine ⟨requester_requests state inv, fun finger => (inv.store.fingers finger).waiting, inv.store.once, inv.store.replies, answers_once state.shared inv.store, ?_, ?_⟩
  · intro finger message next taken deaf
    simp only [step, Option.ite_none_right_eq_some, Option.some.injEq] at taken
    obtain ⟨_, rfl⟩ := taken
    have waiting := (inv.store.fingers finger).waiting
    rw [receive_ignored state.shared finger message (on_message_none _ _ ?_)]
    rcases deaf with alone | malformed | answered
    · rw [alone] at waiting
      exact .inr (.inl waiting)
    · exact .inl malformed
    · exact .inr (.inr answered)
  · intro id request status found
    exact (inv.calls id _ found).progress

def response (status : UInt8) : MotorPackMsg := ⟨kGloveCalibrationId, kCanFrameFlagEff, kCalibrationDlc, payload [status]⟩

def askingRun (finger : Nat) (status : UInt8) : List Action :=
  [.run 0 .returns, .run 0 .returns, .run 0 .returns, .onMessage finger (response status), .run 0 .returns,
    .onMessage finger (response 0xA0)]

def mergingRun : List Action :=
  [.calibrate .all, .run 0 .returns, .run 0 .returns] ++ askingRun 0 0xA0 ++ askingRun 1 0xA2 ++ askingRun 2 0xA1 ++
    askingRun 3 0xA2 ++ askingRun 4 0xA0 ++ [.run 0 .returns]

theorem calibration_protocol_merged :
    ∃ state, Reachable system state ∧ state.calls.find 0 = some ⟨.all, .done (.returned .failed)⟩ ∧
      state.shared.replies.filterMap Reply.answer = [0, 2, 4, 6, 8] ∧ Calibrates state := by
  have checked : (runActions system initial mergingRun).any (fun state =>
      decide (state.calls.find 0 = some ⟨.all, .done (.returned .failed)⟩) &&
        decide (state.shared.replies.filterMap Reply.answer = [0, 2, 4, 6, 8])) = true := by
    decide +kernel
  obtain ⟨state, reached, facts⟩ := run_actions_found system mergingRun initial (.start _ rfl) _ checked
  obtain ⟨returned, answers⟩ := Bool.and_eq_true_iff.mp facts
  exact ⟨state, reached, of_decide_eq_true returned, of_decide_eq_true answers, calibration_protocol state reached⟩

end EncosDriver.Glove
