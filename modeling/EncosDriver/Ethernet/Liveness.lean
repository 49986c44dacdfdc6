import EncosDriver.Ethernet.Heartbeat
import EncosDriver.Lib.System

set_option autoImplicit false

namespace EncosDriver.Ethernet.Liveness

open Lib

abbrev Packet := List UInt8

def gwGet32 (packet : Packet) (offset : Nat) : UInt32 :=
  (packet.getD offset 0).toUInt32 ||| ((packet.getD (offset + 1) 0).toUInt32 <<< 8) |||
    ((packet.getD (offset + 2) 0).toUInt32 <<< 16) ||| ((packet.getD (offset + 3) 0).toUInt32 <<< 24)

def kDiscover : UInt8 := 1
def kSubscribed : UInt8 := 4
def kCanEvent : UInt8 := 5
def kCanState : UInt8 := 9

def gwPacketValid (packet : Packet) : Bool :=
  packet.length = 64 && packet.take 4 = [0x45, 0x4D, 0x4D, 0x31] && packet.getD 4 0 = 1 && kDiscover ≤ packet.getD 5 0 &&
    packet.getD 5 0 ≤ kCanState && packet.getD 6 0 = 64 && packet.getD 7 0 = 0

structure CanError where
  sequence : UInt32
  uptime : UInt32
  channel : UInt32
deriving DecidableEq, Repr

def sameIdentity (packet identity : Packet) : Bool := (packet.drop 12).take 16 = identity

def decodeCanError (packet identity : Packet) : Option CanError :=
  if !gwPacketValid packet || packet.getD 5 0 ≠ kCanEvent || !sameIdentity packet identity || 8 ≤ gwGet32 packet 32 then none
  else some ⟨gwGet32 packet 8, gwGet32 packet 28, gwGet32 packet 32⟩

structure Gateway where
  identity : Packet
  channelCount : UInt32
deriving DecidableEq, Repr

def Gateway.event (gateway : Gateway) (packet : Packet) : Option HeartbeatKey :=
  match decodeCanError packet gateway.identity with
  | none => none
  | some event => if gateway.channelCount ≤ event.channel then none else some (event.sequence, event.uptime)

structure ReconfigureRequest where
  channel : UInt32
  timing : Packet
deriving DecidableEq, Repr

structure Exchange where
  asked : ReconfigureRequest
  request : UInt32 := 0
  deadline : Int := 0
  next : Int := 0
deriving DecidableEq, Repr

inductive ConfigurePc where
  | identifying
  | limiting
  | scheduling
  | head
  | sending
  | rescheduling
  | waiting
deriving DecidableEq, Repr

inductive LoopPc where
  | head
  | servicing
  | configuring (exchange : Exchange) (pc : ConfigurePc)
  | checking
  | waiting
  | reporting (key : HeartbeatKey)
  | stopped
deriving DecidableEq, Repr

-- The members `started`, `now`, `seen`, `fresh` and `reported` are histories:
-- when the loop began and was last seen, the identifiers of all event packets
-- taken in, when each new one came and whether the loop itself read it, and when
-- the loop reported a heartbeat timeout. `answered` holds how the requests
-- ended, with an exception's text.
structure LoopState where
  heartbeat : ManagementHeartbeat
  next : Int
  request : UInt32
  pc : LoopPc := .head
  started : Int
  now : Int
  answered : List (Option String) := []
  seen : List HeartbeatKey := []
  fresh : List (Int × Bool) := []
  reported : List Int := []
deriving DecidableEq, Repr

inductive Action where
  | running (continues : Bool)
  | service (request : Option ReconfigureRequest)
  | clock (now : Int)
  | socket (now : Int) (packet : Option Packet)
  | throws (text : String)
deriving DecidableEq, Repr

def Action.time : Action → Option Int
  | .clock now => some now
  | .socket now _ => some now
  | _ => none

def second : Int := 1000000000

def millisecond : Int := 1000000

def requestId (now : Int) : UInt32 := UInt32.ofInt now

def timedOut (channel : UInt32) : String := s!"CAN{channel} initialization timed out"

def rejected (channel status : UInt32) : String :=
  s!"CAN{channel} initialization rejected or timing mismatch, status={status}"

namespace LoopState

def takeIn (gateway : Gateway) (state : LoopState) (now : Int) (own : Bool) (packet : Packet) : LoopState :=
  match gateway.event packet with
  | none => state
  | some key =>
    if state.seen.contains key then state
    else { state with seen := state.seen ++ [key], fresh := state.fresh ++ [(now, own)] }

def answer (state : LoopState) (ended : Option String) : LoopState :=
  { state with answered := state.answered ++ [ended], pc := .checking }

end LoopState

def configureReceive (gateway : Gateway) (state : LoopState) (exchange : Exchange) (packet : Packet) : LoopState :=
  let again := { state with pc := .configuring exchange .head }
  if !gwPacketValid packet then again
  else if packet.getD 5 0 = kCanEvent then again
  else if packet.getD 5 0 ≠ kCanState || gwGet32 packet 8 ≠ exchange.request then again
  else if !sameIdentity packet gateway.identity || gwGet32 packet 28 ≠ exchange.asked.channel then again
  else if gwGet32 packet 48 ≠ 0 || gwGet32 packet 52 ≠ 1 || (packet.drop 32).take 16 ≠ exchange.asked.timing then
    state.answer (some (rejected exchange.asked.channel (gwGet32 packet 48)))
  else state.answer none

def configure (gateway : Gateway) (state : LoopState) (exchange : Exchange) : ConfigurePc → Action → Option LoopState
  | .identifying, .clock now =>
    some { state with now := now, pc := .configuring { exchange with request := requestId now } .limiting }
  | .limiting, .clock now =>
    some { state with now := now, pc := .configuring { exchange with deadline := now + 2 * second } .scheduling }
  | .scheduling, .clock now => some { state with now := now, pc := .configuring { exchange with next := now } .head }
  | .head, .clock now =>
    if now < exchange.deadline then some { state with now := now, pc := .configuring exchange .sending }
    else some ({ state with now := now }.answer (some (timedOut exchange.asked.channel)))
  | .sending, .clock now =>
    if exchange.next ≤ now then some { state with now := now, pc := .configuring exchange .rescheduling }
    else some { state with now := now, pc := .configuring exchange .waiting }
  | .rescheduling, .clock now =>
    some { state with now := now, pc := .configuring { exchange with next := now + 200 * millisecond } .waiting }
  | .waiting, .socket now none => some { state with now := now, pc := .configuring exchange .head }
  | .waiting, .socket now (some packet) =>
    some (configureReceive gateway ({ state with now := now }.takeIn gateway now false packet) exchange packet)
  | _, .throws text => some (state.answer (some text))
  | _, _ => none

def loopReceive (gateway : Gateway) (state : LoopState) (packet : Packet) : LoopState :=
  if !gwPacketValid packet then { state with pc := .head }
  else if packet.getD 5 0 = kSubscribed && gwGet32 packet 8 = state.request && sameIdentity packet gateway.identity then
    { state with pc := .head }
  else
    match gateway.event packet with
    | none => { state with pc := .head }
    | some key => { state with pc := .reporting key }

-- Times never go back. The subscription that is renewed every three seconds only
-- changes the request that an acknowledgement must name.
def step (gateway : Gateway) (state : LoopState) (action : Action) : Option LoopState :=
  if !action.time.all (state.now ≤ ·) then none
  else
    match state.pc, action with
    | .head, .running continues => some { state with pc := if continues then .servicing else .stopped }
    | .servicing, .service none => some { state with pc := .checking }
    | .servicing, .service (some request) => some { state with pc := .configuring { asked := request } .identifying }
    | .configuring exchange pc, action => configure gateway state exchange pc action
    | .checking, .clock now =>
      let (lost, heartbeat) := state.heartbeat.checkTimeout now
      let renewed := decide (state.next ≤ now)
      some { state with
        now := now
        heartbeat := heartbeat
        reported := if lost then state.reported ++ [now] else state.reported
        request := if renewed then state.request + 1 else state.request
        next := if renewed then now + 3 * second else state.next
        pc := .waiting }
    | .waiting, .socket now none => some { state with now := now, pc := .head }
    | .waiting, .socket now (some packet) =>
      some (loopReceive gateway ({ state with now := now }.takeIn gateway now true packet) packet)
    | .reporting key, .clock now =>
      some { state with now := now, heartbeat := (state.heartbeat.report key now).2, pc := .head }
    | .checking, .throws _ | .waiting, .throws _ => some { state with pc := .stopped }
    | _, _ => none

def begin (request : UInt32) (now : Int) : LoopState :=
  { heartbeat := ⟨now, true, []⟩, next := now, request := request, started := now, now := now }

def loop (gateway : Gateway) : System LoopState Action where
  init := fun state => ∃ request now, state = begin request now
  step := step gateway

-- Some entry of the history of new events, among those that count, is less than
-- the interval old. The first interval begins with the loop.
def KeptAlive (counts : Bool → Bool) (state : LoopState) (now : Int) : Prop :=
  now < state.started + ManagementHeartbeat.kTimeout ∨
    ∃ entry ∈ state.fresh, counts entry.2 = true ∧ now < entry.1 + ManagementHeartbeat.kTimeout

instance (counts : Bool → Bool) (state : LoopState) (now : Int) : Decidable (KeptAlive counts state now) :=
  inferInstanceAs (Decidable (_ ∨ _))

def Lively (state : LoopState) (action : Action) : Prop :=
  ∀ now, action.time = some now → KeptAlive (fun _ => true) state now

def lively (state : LoopState) (action : Action) : Bool :=
  action.time.all fun now => decide (KeptAlive (fun _ => true) state now)

theorem lively_sound (state : LoopState) (action : Action) (passed : lively state action = true) : Lively state action := by
  intro now timed
  rw [lively, timed] at passed
  exact of_decide_eq_true passed

def Attended (state : LoopState) (action : Action) : Prop :=
  ∀ now, state.pc = .checking → action = .clock now → KeptAlive id state now

def LoopPc.key : LoopPc → Option HeartbeatKey
  | .reporting key => some key
  | _ => none

structure Watched (state : LoopState) : Prop where
  online : state.heartbeat.online = true
  silent : state.reported = []
  begun : state.started ≤ state.heartbeat.lastReport
  recent : ∀ key ∈ state.heartbeat.recent, key ∈ state.seen
  named : ∀ key, state.pc.key = some key → key ∈ state.seen
  past : state.started ≤ state.now ∧ ∀ entry ∈ state.fresh, entry.1 ≤ state.now
  heard : ∀ time, (time, true) ∈ state.fresh →
    time ≤ state.heartbeat.lastReport ∨ ∃ key, state.pc.key = some key ∧ key ∉ state.heartbeat.recent

structure Aside (state next : LoopState) : Prop where
  heartbeat : next.heartbeat = state.heartbeat
  reported : next.reported = state.reported
  started : next.started = state.started
  now : state.now ≤ next.now
  seen : ∀ key ∈ state.seen, key ∈ next.seen
  fresh : ∀ entry ∈ next.fresh, entry ∈ state.fresh ∨ entry = (next.now, false)
  from_ : state.pc.key = none
  to_ : next.pc.key = none

section Steps

variable (gateway : Gateway) (state next : LoopState) (action : Action)

variable (now : Int)

theorem aside_of_moved (later : state.now ≤ now) (pc : LoopPc) (from_ : state.pc.key = none)
    (to_ : pc.key = none) (moved : next = { state with now := now, pc := pc, answered := next.answered }) : Aside state next := by
  rw [moved]
  exact ⟨rfl, rfl, rfl, later, fun _ inside => inside, fun _ inside => .inl inside, from_, to_⟩

theorem take_in_seen (own : Bool) (packet : Packet) :
    ∀ key ∈ state.seen, key ∈ (state.takeIn gateway now own packet).seen := by
  intro key inside
  unfold LoopState.takeIn
  split
  · exact inside
  · split
    · exact inside
    · exact List.mem_append_left _ inside

theorem take_in_fresh (own : Bool) (packet : Packet) :
    ∀ entry ∈ (state.takeIn gateway now own packet).fresh, entry ∈ state.fresh ∨ entry = (now, own) := by
  intro entry inside
  unfold LoopState.takeIn at inside
  split at inside
  · exact .inl inside
  · split at inside
    · exact .inl inside
    · rcases List.mem_append.mp inside with old | new
      · exact .inl old
      · exact .inr (List.mem_singleton.mp new)

theorem take_in_rest (own : Bool) (packet : Packet) :
    state.takeIn gateway now own packet = { state with
      seen := (state.takeIn gateway now own packet).seen
      fresh := (state.takeIn gateway now own packet).fresh } := by
  unfold LoopState.takeIn
  split
  · rfl
  · split <;> rfl

variable (exchange : Exchange)

theorem configure_receive_rest (packet : Packet) :
    ∃ answered pc, pc.key = none ∧
      configureReceive gateway state exchange packet = { state with answered := answered, pc := pc } := by
  unfold configureReceive
  split
  · exact ⟨_, _, rfl, rfl⟩
  · split
    · exact ⟨_, _, rfl, rfl⟩
    · split
      · exact ⟨_, _, rfl, rfl⟩
      · split
        · exact ⟨_, _, rfl, rfl⟩
        · split <;> exact ⟨_, _, rfl, rfl⟩

theorem received_aside (now : Int) (packet : Packet) (after : state.now ≤ now)
    (from_ : state.pc.key = none) :
    Aside state (configureReceive gateway ({ state with now := now }.takeIn gateway now false packet) exchange packet) := by
  obtain ⟨answered, pc, to_, received⟩ :=
    configure_receive_rest gateway ({ state with now := now }.takeIn gateway now false packet) exchange packet
  have rest := take_in_rest gateway { state with now := now } now false packet
  rw [received, rest]
  exact ⟨rfl, rfl, rfl, after, take_in_seen gateway { state with now := now } now false packet,
    take_in_fresh gateway { state with now := now } now false packet, from_, to_⟩

theorem configure_aside (pc : ConfigurePc) (here : state.pc = .configuring exchange pc)
    (later : ∀ now, action.time = some now → state.now ≤ now)
    (taken : configure gateway state exchange pc action = some next) : Aside state next := by
  have from_ : state.pc.key = none := by rw [here]; rfl
  cases action with
  | running continues => cases pc <;> cases taken
  | service request => cases pc <;> cases taken
  | throws text =>
    have answered : next = state.answer (some text) := by cases pc <;> exact (Option.some.inj taken).symm
    rw [answered]
    exact aside_of_moved state _ state.now (Int.le_refl _) .checking from_ rfl rfl
  | clock now =>
    have after := later now rfl
    have moved : next.pc.key = none ∧ next = { state with now := now, pc := next.pc, answered := next.answered } := by
      cases pc with
      | identifying => cases taken; exact ⟨rfl, rfl⟩
      | limiting => cases taken; exact ⟨rfl, rfl⟩
      | scheduling => cases taken; exact ⟨rfl, rfl⟩
      | rescheduling => cases taken; exact ⟨rfl, rfl⟩
      | waiting => cases taken
      | head | sending =>
        simp only [configure] at taken
        split at taken <;> cases taken <;> exact ⟨rfl, rfl⟩
    exact aside_of_moved state next now after next.pc from_ moved.1 moved.2
  | socket now read =>
    have after := later now rfl
    cases pc with
    | identifying => cases taken
    | limiting => cases taken
    | scheduling => cases taken
    | rescheduling => cases taken
    | head => cases taken
    | sending => cases taken
    | waiting =>
      cases read with
      | none =>
        have moved : next = { state with now := now, pc := .configuring exchange .head } := (Option.some.inj taken).symm
        rw [moved]
        exact aside_of_moved state _ now after _ from_ rfl rfl
      | some packet =>
        rw [← Option.some.inj taken]
        exact received_aside gateway state exchange now packet after from_

variable (packet : Packet) (key : HeartbeatKey)

theorem event_of_packet (event : gateway.event packet = some key) :
    gwPacketValid packet = true ∧ packet.getD 5 0 = kCanEvent := by
  unfold Gateway.event at event
  split at event
  · cases event
  · next decoded =>
    unfold decodeCanError at decoded
    split at decoded
    · cases decoded
    · next accepted =>
      simp only [Bool.or_eq_true, Bool.not_eq_true', decide_eq_true_eq, not_or, Bool.not_eq_false, ne_eq, not_not] at accepted
      exact accepted.1.1

theorem loop_receive_event (event : gateway.event packet = some key) :
    loopReceive gateway state packet = { state with pc := .reporting key } := by
  obtain ⟨valid, kind⟩ := event_of_packet gateway packet key event
  have other : packet.getD 5 0 ≠ kSubscribed := by rw [kind]; decide
  simp only [loopReceive, valid, other, event, Bool.not_true, Bool.false_eq_true, decide_false, Bool.false_and, ↓reduceIte]

theorem loop_receive_rest (none : gateway.event packet = none) :
    loopReceive gateway state packet = { state with pc := .head } := by
  simp only [loopReceive, none]
  split
  · rfl
  · split <;> rfl

theorem step_cases (taken : step gateway state action = some next) :
    Aside state next ∨
      (∃ now packet, state.now ≤ now ∧ state.pc = .waiting ∧
        next = loopReceive gateway ({ state with now := now }.takeIn gateway now true packet) packet) ∨
      (∃ now, state.now ≤ now ∧ state.pc = .checking ∧ action = .clock now ∧
        ∃ next' request, next = { state with
          now := now
          heartbeat := (state.heartbeat.checkTimeout now).2
          reported := if (state.heartbeat.checkTimeout now).1 then state.reported ++ [now] else state.reported
          next := next'
          request := request
          pc := .waiting }) ∨
      ∃ key now, state.now ≤ now ∧ state.pc = .reporting key ∧
        next = { state with now := now, heartbeat := (state.heartbeat.report key now).2, pc := .head } := by
  have later : ∀ now, action.time = some now → state.now ≤ now := by
    intro now timed
    unfold step at taken
    rw [timed] at taken
    by_cases monotone : state.now ≤ now
    · exact monotone
    · simp [monotone] at taken
  have timely : action.time.all (state.now ≤ ·) = true := by
    rw [Option.all_eq_true]
    intro now timed
    exact decide_eq_true (later now timed)
  simp only [step, timely, Bool.not_true, Bool.false_eq_true, ↓reduceIte] at taken
  cases here : state.pc with
  | configuring exchange pc =>
    rw [here] at taken
    exact .inl (configure_aside gateway state next action exchange pc here later taken)
  | head =>
    rw [here] at taken
    have from_ : state.pc.key = none := by rw [here]; rfl
    cases action with
    | running continues =>
      rw [← Option.some.inj taken]
      exact .inl (aside_of_moved state _ state.now (Int.le_refl _) _ from_ (by cases continues <;> rfl) rfl)
    | _ => cases taken
  | servicing =>
    rw [here] at taken
    have from_ : state.pc.key = none := by rw [here]; rfl
    cases action with
    | service request =>
      cases request with
      | none | some request =>
        rw [← Option.some.inj taken]
        exact .inl (aside_of_moved state _ state.now (Int.le_refl _) _ from_ rfl rfl)
    | _ => cases taken
  | checking =>
    rw [here] at taken
    cases action with
    | clock now =>
      rw [← Option.some.inj taken]
      exact .inr (.inr (.inl ⟨now, later now rfl, rfl, rfl, _, _, rfl⟩))
    | throws text =>
      rw [← Option.some.inj taken]
      exact .inl (aside_of_moved state _ state.now (Int.le_refl _) _ (by rw [here]; rfl) rfl rfl)
    | _ => cases taken
  | waiting =>
    rw [here] at taken
    cases action with
    | socket now read =>
      cases read with
      | none =>
        rw [← Option.some.inj taken]
        exact .inl (aside_of_moved state _ now (later now rfl) _ (by rw [here]; rfl) rfl rfl)
      | some packet => exact .inr (.inl ⟨now, packet, later now rfl, rfl, (Option.some.inj taken).symm⟩)
    | throws text =>
      rw [← Option.some.inj taken]
      exact .inl (aside_of_moved state _ state.now (Int.le_refl _) _ (by rw [here]; rfl) rfl rfl)
    | _ => cases taken
  | reporting key =>
    rw [here] at taken
    cases action with
    | clock now => exact .inr (.inr (.inr ⟨key, now, later now rfl, rfl, (Option.some.inj taken).symm⟩))
    | _ => cases taken
  | stopped =>
    rw [here] at taken
    cases action <;> cases taken

theorem aside_watched (watched : Watched state) (aside : Aside state next) : Watched next := by
  refine ⟨?_, ?_, ?_, ?_, ?_, ⟨?_, ?_⟩, ?_⟩
  · rw [aside.heartbeat]
    exact watched.online
  · rw [aside.reported]
    exact watched.silent
  · rw [aside.started, aside.heartbeat]
    exact watched.begun
  · intro key inside
    rw [aside.heartbeat] at inside
    exact aside.seen key (watched.recent key inside)
  · intro key reporting
    rw [aside.to_] at reporting
    cases reporting
  · rw [aside.started]
    exact Int.le_trans watched.past.1 aside.now
  · intro entry inside
    rcases aside.fresh entry inside with old | new
    · exact Int.le_trans (watched.past.2 entry old) aside.now
    · exact Int.le_of_eq (congrArg Prod.fst new)
  · intro time inside
    rcases aside.fresh (time, true) inside with old | new
    · rcases watched.heard time old with before | ⟨key, reporting, _⟩
      · rw [aside.heartbeat]
        exact .inl before
      · rw [aside.from_] at reporting
        cases reporting
    · cases new

theorem read_watched (watched : Watched state) (later : state.now ≤ now) (here : state.pc = .waiting) :
    Watched (loopReceive gateway ({ state with now := now }.takeIn gateway now true packet) packet) := by
  have past : ∀ entry ∈ state.fresh, entry.1 ≤ now := fun entry inside => Int.le_trans (watched.past.2 entry inside) later
  have heard : ∀ time, (time, true) ∈ state.fresh → time ≤ state.heartbeat.lastReport := by
    intro time inside
    rcases watched.heard time inside with before | ⟨key, reporting, _⟩
    · exact before
    · rw [here] at reporting
      cases reporting
  cases event : gateway.event packet with
  | none =>
    rw [loop_receive_rest gateway _ packet event, LoopState.takeIn, event]
    exact ⟨watched.online, watched.silent, watched.begun, watched.recent, (fun _ reporting => by cases reporting),
      ⟨Int.le_trans watched.past.1 later, past⟩, fun time inside => .inl (heard time inside)⟩
  | some key =>
    rw [loop_receive_event gateway _ packet key event, LoopState.takeIn, event]
    by_cases found : state.seen.contains key
    · have seen := List.contains_iff_mem.mp found
      simp only [found, ↓reduceIte]
      exact ⟨watched.online, watched.silent, watched.begun, watched.recent, (fun _ reporting => Option.some.inj reporting ▸ seen),
        ⟨Int.le_trans watched.past.1 later, past⟩, fun time inside => .inl (heard time inside)⟩
    · simp only [found, Bool.false_eq_true, ↓reduceIte]
      refine ⟨watched.online, watched.silent, watched.begun, ?_, ?_, ⟨Int.le_trans watched.past.1 later, ?_⟩, ?_⟩
      · intro other inside
        exact List.mem_append_left _ (watched.recent other inside)
      · intro other reporting
        exact List.mem_append_right _ (List.mem_singleton.mpr (Option.some.inj reporting).symm)
      · intro entry inside
        rcases List.mem_append.mp inside with old | new
        · exact past entry old
        · exact Int.le_of_eq (congrArg Prod.fst (List.mem_singleton.mp new))
      · intro time inside
        rcases List.mem_append.mp inside with old | _
        · exact .inl (heard time old)
        · exact .inr ⟨key, rfl, fun remembered => found (List.contains_iff_mem.mpr (watched.recent key remembered))⟩

theorem report_watched (now : Int) (watched : Watched state) (later : state.now ≤ now)
    (here : state.pc = .reporting key) :
    Watched { state with now := now, heartbeat := (state.heartbeat.report key now).2, pc := .head } := by
  have past : ∀ entry ∈ state.fresh, entry.1 ≤ now := fun entry inside => Int.le_trans (watched.past.2 entry inside) later
  have begun : state.started ≤ now := Int.le_trans watched.past.1 later
  have known : key ∈ state.seen := watched.named key (by rw [here]; rfl)
  by_cases seen : key ∈ state.heartbeat.recent
  · rw [ManagementHeartbeat.report, if_pos seen]
    refine ⟨watched.online, watched.silent, watched.begun, watched.recent, (fun _ reporting => by cases reporting), ⟨begun, past⟩, ?_⟩
    intro time inside
    rcases watched.heard time inside with before | ⟨other, reporting, fresh⟩
    · exact .inl before
    · rw [here] at reporting
      cases reporting
      exact absurd seen fresh
  · have report : (state.heartbeat.report key now).2.lastReport = now ∧ (state.heartbeat.report key now).2.online = true := by
      rw [ManagementHeartbeat.report, if_neg seen]
      exact ⟨rfl, rfl⟩
    have remembered : ∀ other ∈ (state.heartbeat.report key now).2.recent, other ∈ state.heartbeat.recent ++ [key] := by
      intro other inside
      rw [ManagementHeartbeat.report, if_neg seen] at inside
      simp only at inside
      split at inside
      · exact List.mem_of_mem_tail inside
      · exact inside
    refine ⟨report.2, watched.silent, ?_, ?_, (fun _ reporting => by cases reporting), ⟨begun, past⟩, ?_⟩
    · exact report.1.symm ▸ begun
    · intro other inside
      rcases List.mem_append.mp (remembered other inside) with old | new
      · exact watched.recent other old
      · exact List.mem_singleton.mp new ▸ known
    · intro time inside
      exact .inl (report.1.symm ▸ past (time, true) inside)

theorem check_watched (now next' : Int) (request : UInt32) (watched : Watched state) (later : state.now ≤ now)
    (here : state.pc = .checking) (kept : KeptAlive id state now) :
    Watched { state with
      now := now
      heartbeat := (state.heartbeat.checkTimeout now).2
      reported := if (state.heartbeat.checkTimeout now).1 then state.reported ++ [now] else state.reported
      next := next'
      request := request
      pc := .waiting } := by
  have recent : now < state.heartbeat.lastReport + ManagementHeartbeat.kTimeout := by
    rcases kept with early | ⟨entry, inside, own, young⟩
    · have begun := watched.begun
      omega
    · rcases watched.heard entry.1 (by rw [← show entry.2 = true from own]; exact inside) with before | ⟨key, reporting, _⟩
      · omega
      · rw [here] at reporting
        cases reporting
  have same : state.heartbeat.checkTimeout now = (false, state.heartbeat) := by
    rw [ManagementHeartbeat.checkTimeout, if_neg (fun both => by have waited := both.2; omega)]
  rw [same]
  refine ⟨watched.online, watched.silent, watched.begun, watched.recent, (fun _ reporting => by cases reporting),
    ⟨Int.le_trans watched.past.1 later, fun entry inside => Int.le_trans (watched.past.2 entry inside) later⟩, ?_⟩
  intro time inside
  rcases watched.heard time inside with before | ⟨key, reporting, _⟩
  · exact .inl before
  · rw [here] at reporting
    cases reporting

end Steps

theorem reachable_watched (gateway : Gateway) (state : LoopState) (reached : ReachableWith (loop gateway) Attended state) :
    Watched state := by
  refine reachable_invariant (loop gateway) Attended Watched ?_ ?_ state reached
  · intro state initial
    obtain ⟨request, now, rfl⟩ := initial
    exact ⟨rfl, rfl, Int.le_refl _, (fun _ inside => by cases inside), (fun _ reporting => by cases reporting),
      ⟨Int.le_refl _, fun _ inside => by cases inside⟩, fun _ inside => by cases inside⟩
  · intro state action next watched attended taken
    rcases step_cases gateway state next action taken with
      aside | ⟨now, packet, later, here, read⟩ | ⟨now, later, here, clock, next', request, checked⟩ | ⟨key, now, later, here, report⟩
    · exact aside_watched state next watched aside
    · rw [read]
      exact read_watched gateway state now packet watched later here
    · rw [checked]
      exact check_watched state now next' request watched later here (attended now here clock)
    · rw [report]
      exact report_watched state key now watched later here

theorem attended_never_lost (gateway : Gateway) (state : LoopState)
    (reached : ReachableWith (loop gateway) Attended state) : state.reported = [] :=
  (reachable_watched gateway state reached).silent

section Samples

def sampleGateway : Gateway := ⟨List.replicate 16 0, 8⟩

def sampleEvent (sequence : UInt8) : Packet :=
  [0x45, 0x4D, 0x4D, 0x31, 1, kCanEvent, 64, 0, sequence] ++ List.replicate 55 0

def sampleAnswer : Packet :=
  [0x45, 0x4D, 0x4D, 0x31, 1, kCanState, 64, 0] ++ List.replicate 44 0 ++ [1] ++ List.replicate 11 0

def roundOf (moment : Int) (sends : Bool) (read : Packet) : List Action :=
  [.clock moment, .clock moment] ++ (if sends then [.clock moment] else []) ++ [.socket (moment + 100 * millisecond) (some read)]

def servedRun : List Action :=
  [.running true, .service (some ⟨0, List.replicate 16 0⟩), .clock 0, .clock 0, .clock 0] ++ roundOf 0 true (sampleEvent 1) ++
    roundOf (100 * millisecond) false (sampleEvent 2) ++ roundOf (200 * millisecond) true (sampleEvent 3) ++
    roundOf (300 * millisecond) false (sampleEvent 4) ++ roundOf (400 * millisecond) true (sampleEvent 5) ++
    roundOf (500 * millisecond) false sampleAnswer ++ [.clock (600 * millisecond)]

theorem served_events_are_lost : ¬ ∀ gateway state, ReachableWith (loop gateway) Lively state → state.reported = [] := by
  intro never
  obtain ⟨state, reached, found⟩ := run_checked_found (loop sampleGateway) Lively lively lively_sound servedRun (begin 0 0)
    (.start _ ⟨0, 0, rfl⟩) (fun state => decide (state.reported ≠ [])) (by decide +kernel)
  exact of_decide_eq_true found (never sampleGateway state reached)

def attendedRun : List Action :=
  [.running true, .service none, .clock 0, .socket (400 * millisecond) (some (sampleEvent 1)), .clock (400 * millisecond),
    .running true, .service none, .clock (800 * millisecond)]

def attended (state : LoopState) (action : Action) : Bool :=
  action.time.all fun now => decide (state.pc ≠ .checking) || decide (KeptAlive id state now)

theorem attended_sound (state : LoopState) (action : Action) (passed : attended state action = true) : Attended state action := by
  intro now here clock
  rw [attended, clock, Action.time, Option.all_some, here] at passed
  exact of_decide_eq_true passed

theorem attended_never_lost_sample : ∃ state, ReachableWith (loop sampleGateway) Attended state ∧ state.now = 800 * millisecond ∧
    state.reported = [] := by
  obtain ⟨state, reached, found⟩ := run_checked_found (loop sampleGateway) Attended attended attended_sound attendedRun (begin 0 0)
    (.start _ ⟨0, 0, rfl⟩) (fun state => decide (state.now = 800 * millisecond)) (by decide +kernel)
  exact ⟨state, reached, of_decide_eq_true found, attended_never_lost sampleGateway state reached⟩

end Samples

end EncosDriver.Ethernet.Liveness
