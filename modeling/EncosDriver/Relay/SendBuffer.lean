import EncosDriver.Lib.History
import EncosDriver.Lib.System
import EncosDriver.Relay.Frame

set_option autoImplicit false

namespace EncosDriver.Relay

open Lib Message

def kMaxOutgoingMessages : Nat := 4096

structure RelayQueuedMessage where
  message : MotorMessage
  generation : Nat
deriving DecidableEq, Repr

def trimRelayMessagesToNewest (messages : List RelayQueuedMessage) (capacity : Nat) : List RelayQueuedMessage :=
  if messages.length ≤ capacity then messages else messages.drop (messages.length - capacity)

def reinsertFailedRelayMessages (current failed : List RelayQueuedMessage) (capacity : Nat) : List RelayQueuedMessage :=
  trimRelayMessagesToNewest (failed ++ current) capacity

def flushFrame (type : RelayFrameType) (frame : MotorMessages) : List UInt8 :=
  if frame = [] then [] else encodeRelayFrames type frame

def encodeQueued (type : RelayFrameType) : List RelayQueuedMessage → MotorMessages → (Int32 → Option Nat) → List UInt8
  | [], frame, _ => flushFrame type frame
  | queued :: rest, frame, generations =>
    let found := generations queued.message.busIdx
    if frame.length = 255 ∨ (found.isSome ∧ found ≠ some queued.generation) then
      flushFrame type frame ++
        encodeQueued type rest [queued.message] (Function.update (fun _ => none) queued.message.busIdx queued.generation)
    else
      encodeQueued type rest (frame ++ [queued.message])
        (if found.isSome then generations else Function.update generations queued.message.busIdx queued.generation)

def encodeQueuedRelayFrames (type : RelayFrameType) (messages : List RelayQueuedMessage) : List UInt8 :=
  if messages = [] then encodeRelayFrames type [] else encodeQueued type messages [] fun _ => none

inductive Flush where
  | idle
  | sending (taken : List RelayQueuedMessage)
  | failed (taken : List RelayQueuedMessage)
deriving DecidableEq, Repr

-- What was submitted, and what each successful flush sent, is recorded beside
-- the adapter's own state.
structure RelayWs where
  sendBuffer : List RelayQueuedMessage
  busGenerations : Int32 → Nat
  ok : Bool
  flush : Flush
  submitted : List RelayQueuedMessage
  sent : List (List RelayQueuedMessage)

inductive Action where
  | send (message : MotorMessage)
  | sendSynchronized (messages : MotorMessages)
  | connection (isConnected : Bool)
  | take
  | sendBinary (succeeded : Bool)
  | reinsert

def raise (generations : Int32 → Nat) (messages : MotorMessages) (bus : Int32) : Nat :=
  if messages.any (fun message => message.busIdx = bus) then generations bus + 1 else generations bus

def tagged (generations : Int32 → Nat) (messages : MotorMessages) : List RelayQueuedMessage :=
  messages.map fun message => ⟨message, generations message.busIdx⟩

def append (relay : RelayWs) (queued : List RelayQueuedMessage) : RelayWs :=
  { relay with
    sendBuffer := trimRelayMessagesToNewest (relay.sendBuffer ++ queued) kMaxOutgoingMessages
    submitted := relay.submitted ++ queued }

def step (relay : RelayWs) : Action → Option RelayWs
  | .send message => some (append relay (tagged relay.busGenerations [message]))
  | .sendSynchronized messages =>
    if messages = [] then some relay
    else
      let during := raise relay.busGenerations messages
      some { append relay (tagged during messages) with busGenerations := raise during messages }
  -- The worker sets the flag between two flushes.
  | .connection isConnected => if relay.flush = .idle then some { relay with ok := isConnected } else none
  | .take =>
    if relay.flush = .idle ∧ relay.ok = true then some { relay with sendBuffer := [], flush := .sending relay.sendBuffer }
    else none
  | .sendBinary succeeded =>
    match relay.flush with
    | .sending taken =>
      if succeeded then some { relay with flush := .idle, sent := relay.sent ++ [taken] }
      else some { relay with flush := .failed taken, ok := false }
    | _ => none
  | .reinsert =>
    match relay.flush with
    | .failed taken => some { relay with
        sendBuffer := reinsertFailedRelayMessages relay.sendBuffer taken kMaxOutgoingMessages
        flush := .idle }
    | _ => none

def initial : RelayWs := ⟨[], fun _ => 0, false, .idle, [], []⟩

def relaySystem : System RelayWs Action where
  init := fun relay => relay = initial
  step := step

def Action.messages : Action → MotorMessages
  | .send message => [message]
  | .sendSynchronized messages => messages
  | _ => []

def OneGeneration (group : List RelayQueuedMessage) : Prop :=
  ∀ first ∈ group, ∀ second ∈ group, first.message.busIdx = second.message.busIdx → first.generation = second.generation

def frameOf (type : RelayFrameType) (group : List RelayQueuedMessage) : RelayFrame :=
  ⟨type, group.map RelayQueuedMessage.message⟩

variable (type : RelayFrameType)

theorem frames_joined (groups : List (List RelayQueuedMessage)) :
    (groups.map (frameOf type)).flatMap RelayFrame.records = groups.flatten.map RelayQueuedMessage.message := by
  rw [List.map_flatten, List.flatMap_def, List.map_map]
  rfl

def Batched (type : RelayFrameType) (bytes : List UInt8) (groups : List (List RelayQueuedMessage)) : Prop :=
  bytes = (groups.flatMap fun group => frameBytes (frameOf type group) 0) ∧
    ∀ group ∈ groups, group.length ≤ kMaxRecordsPerFrame ∧ OneGeneration group

def Tracks (generations : Int32 → Option Nat) (frame : List RelayQueuedMessage) : Prop :=
  ∀ queued ∈ frame, generations queued.message.busIdx = some queued.generation

theorem tracks_one_generation (generations : Int32 → Option Nat) (frame : List RelayQueuedMessage)
    (tracks : Tracks generations frame) : OneGeneration frame := by
  intro first inside second inside' same
  have one := tracks first inside
  rw [same, tracks second inside'] at one
  exact (Option.some.inj one).symm

theorem tracks_appended (generations : Int32 → Option Nat) (frame : List RelayQueuedMessage) (queued : RelayQueuedMessage)
    (tracks : Tracks generations frame)
    (agrees : ¬ ((generations queued.message.busIdx).isSome ∧ generations queued.message.busIdx ≠ some queued.generation)) :
    Tracks (if (generations queued.message.busIdx).isSome then generations
      else Function.update generations queued.message.busIdx queued.generation) (frame ++ [queued]) := by
  intro other inside
  split
  · rename_i present
    rcases List.mem_append.mp inside with inside | last
    · exact tracks other inside
    · rw [List.mem_singleton.mp last]
      exact not_not.mp fun differs => agrees ⟨present, differs⟩
  · rename_i absent
    rcases List.mem_append.mp inside with inside | last
    · have known := tracks other inside
      have elsewhere : other.message.busIdx ≠ queued.message.busIdx := by
        intro same
        rw [same] at known
        rw [known] at absent
        exact absurd rfl absent
      rw [Function.update_of_ne elsewhere]
      exact known
    · rw [List.mem_singleton.mp last, Function.update_self]

theorem flush_batched (frame : List RelayQueuedMessage) (generations : Int32 → Option Nat)
    (tracks : Tracks generations frame) (bounded : frame.length ≤ kMaxRecordsPerFrame) :
    ∃ groups, groups.flatten = frame ∧ Batched type (flushFrame type (frame.map RelayQueuedMessage.message)) groups := by
  unfold flushFrame
  split
  · rename_i empty
    rw [List.map_eq_nil_iff] at empty
    subst empty
    exact ⟨[], rfl, rfl, nofun⟩
  · have single := sent_frames_single (frameOf type frame) (by simpa [frameOf] using bounded)
    refine ⟨[frame], by simp, ?_, ?_⟩
    · rw [encode_relay_bytes]
      exact (congrArg (fun frames => List.flatMap (fun frame => frameBytes frame 0) frames) single).trans (by simp)
    · intro group inside
      rw [List.mem_singleton.mp inside]
      exact ⟨bounded, tracks_one_generation generations frame tracks⟩

theorem batched_append (front back : List UInt8) (first second : List (List RelayQueuedMessage))
    (one : Batched type front first) (two : Batched type back second) : Batched type (front ++ back) (first ++ second) := by
  refine ⟨by rw [List.flatMap_append, one.1, two.1], ?_⟩
  intro group inside
  rcases List.mem_append.mp inside with inside | inside
  · exact one.2 group inside
  · exact two.2 group inside

theorem encode_queued_batched (messages frame : List RelayQueuedMessage)
    (generations : Int32 → Option Nat) (tracks : Tracks generations frame) (bounded : frame.length ≤ kMaxRecordsPerFrame) :
    ∃ groups, groups.flatten = frame ++ messages ∧
      Batched type (encodeQueued type messages (frame.map RelayQueuedMessage.message) generations) groups := by
  induction messages generalizing frame generations with
  | nil =>
    rw [encodeQueued, List.append_nil]
    exact flush_batched type frame generations tracks bounded
  | cons queued rest ih =>
    have most : kMaxRecordsPerFrame = 255 := rfl
    rw [encodeQueued]
    split
    · obtain ⟨before, beforeFlat, beforeBatched⟩ := flush_batched type frame generations tracks bounded
      have fresh : Tracks (Function.update (fun _ => none) queued.message.busIdx (some queued.generation)) [queued] := by
        intro other inside
        rw [List.mem_singleton.mp inside, Function.update_self]
      obtain ⟨after, afterFlat, afterBatched⟩ := ih [queued] _ fresh (by rw [List.length_singleton]; omega)
      refine ⟨before ++ after, ?_, batched_append type _ _ _ _ beforeBatched afterBatched⟩
      rw [List.flatten_append, beforeFlat, afterFlat, List.singleton_append]
    · rename_i room
      rw [not_or, List.length_map] at room
      obtain ⟨groups, flat, batched⟩ := ih (frame ++ [queued]) _ (tracks_appended generations frame queued tracks room.2)
        (by rw [List.length_append, List.length_singleton]; omega)
      rw [List.map_append] at batched
      exact ⟨groups, by rw [flat, List.append_assoc, List.singleton_append], batched⟩

variable (messages : List RelayQueuedMessage)

theorem queued_relay_batched :
    ∃ groups, groups.flatten = messages ∧ Batched type (encodeQueuedRelayFrames type messages) groups := by
  unfold encodeQueuedRelayFrames
  split
  · rename_i empty
    subst empty
    refine ⟨[[]], rfl, ?_, ?_⟩
    · rw [encode_relay_bytes]
      rfl
    · intro group inside
      rw [List.mem_singleton.mp inside]
      exact ⟨Nat.zero_le _, nofun⟩
  · exact encode_queued_batched type messages [] (fun _ => none) nofun (Nat.zero_le _)

theorem decode_batched (bytes : List UInt8) (groups : List (List RelayQueuedMessage))
    (batched : Batched type bytes groups) (fit : ∀ queued ∈ groups.flatten, queued.message.data.len ≤ 8) :
    decodeRelayFrames bytes = .ok (groups.map (frameOf type)) := by
  obtain ⟨rfl, shaped⟩ := batched
  induction groups with
  | nil => rw [List.flatMap_nil, decodeRelayFrames, if_pos rfl]; rfl
  | cons group rest ih =>
    rw [List.flatten_cons] at fit
    have first := decode_frame_back (frameOf type group) 0 (rest.flatMap fun group => frameBytes (frameOf type group) 0)
      (by simpa [frameOf] using (shaped group List.mem_cons_self).1)
      (by
        intro record inside
        obtain ⟨queued, here, rfl⟩ := List.mem_map.mp inside
        exact fit queued (List.mem_append_left _ here))
    have others := ih (fun queued inside => fit queued (List.mem_append_right _ inside))
      (fun other inside => shaped other (List.mem_cons_of_mem _ inside))
    rw [List.flatMap_cons, decode_frames_step _ _ _ first, others]
    rfl

/-- Every frame is a run of the queued messages, in their order, that is short enough and mixes no generations. -/
theorem relay_batching (type : RelayFrameType) (messages : List RelayQueuedMessage)
    (fit : ∀ queued ∈ messages, queued.message.data.len ≤ 8) :
    ∃ groups : List (List RelayQueuedMessage), groups.flatten = messages ∧
      decodeRelayFrames (encodeQueuedRelayFrames type messages) = .ok (groups.map (frameOf type)) ∧
      (groups.map (frameOf type)).flatMap RelayFrame.records = messages.map RelayQueuedMessage.message ∧
      ∀ group ∈ groups, (frameOf type group).records.length ≤ 255 ∧ OneGeneration group := by
  obtain ⟨groups, flat, batched⟩ := queued_relay_batched type messages
  refine ⟨groups, flat, decode_batched type _ groups batched (flat ▸ fit),
    flat ▸ frames_joined type groups, ?_⟩
  intro group inside
  obtain ⟨bounded, one⟩ := batched.2 group inside
  exact ⟨by rwa [frameOf, List.length_map], one⟩

def queuedSample (busIdx : Int32) (generation : Nat) (byte : UInt8) : RelayQueuedMessage :=
  ⟨⟨busIdx, ⟨0x141, 0, 8, Vector.replicate 8 byte⟩⟩, generation⟩

theorem relay_batching_generations :
    ∃ groups : List (List RelayQueuedMessage),
      groups.flatten = [queuedSample 0 1 10, queuedSample 1 1 11, queuedSample 1 2 12, queuedSample 0 1 13] ∧
      (groups.map (frameOf .helperToRelay)).flatMap RelayFrame.records =
        [(queuedSample 0 1 10).message, (queuedSample 1 1 11).message, (queuedSample 1 2 12).message,
          (queuedSample 0 1 13).message] := by
  obtain ⟨groups, flat, -, joined, -⟩ := relay_batching .helperToRelay
    [queuedSample 0 1 10, queuedSample 1 1 11, queuedSample 1 2 12, queuedSample 0 1 13] (by decide)
  exact ⟨groups, flat, joined⟩

def overlongQueued : RelayQueuedMessage := ⟨⟨0, ⟨0x141, 0, 9, Vector.replicate 8 0⟩⟩, 0⟩

/-- The encoder copies any length, and the decoder refuses one above eight. -/
theorem overlong_refused :
    decodeRelayFrames (encodeQueuedRelayFrames .helperToRelay [overlongQueued]) = .error .refused ∧
      ¬ ∃ frames, decodeRelayFrames (encodeQueuedRelayFrames .helperToRelay [overlongQueued]) = .ok frames ∧
          frames.flatMap RelayFrame.records = [overlongQueued.message] := by
  have refused : decodeRelayFrames (encodeQueuedRelayFrames .helperToRelay [overlongQueued]) = .error .refused := by
    decide +kernel
  refine ⟨refused, ?_⟩
  rintro ⟨frames, decoded, -⟩
  rw [refused] at decoded
  cases decoded

theorem trim_newest (capacity : Nat) :
    trimRelayMessagesToNewest messages capacity = newest capacity messages := by
  unfold trimRelayMessagesToNewest
  split
  · rename_i fits
    rw [newest_fits capacity messages fits]
  · rfl

def Carries (type : RelayFrameType) (bytes : List UInt8) (messages : MotorMessages) : Prop :=
  ∃ frames : List RelayFrame, bytes = (frames.flatMap fun frame => frameBytes frame 0) ∧
    frames.flatMap RelayFrame.records = messages ∧
    ∀ one ∈ frames, one.type = type ∧ one.records.length ≤ kMaxRecordsPerFrame

theorem encode_queued_relay_bytes :
    Carries type (encodeQueuedRelayFrames type messages) (messages.map RelayQueuedMessage.message) := by
  obtain ⟨groups, flat, bytes, shaped⟩ := queued_relay_batched type messages
  refine ⟨groups.map (frameOf type), by rw [bytes, List.flatMap_map], flat ▸ frames_joined type groups, ?_⟩
  intro one inside
  obtain ⟨group, present, rfl⟩ := List.mem_map.mp inside
  exact ⟨rfl, by rw [frameOf, List.length_map]; exact (shaped group present).1⟩

def Flush.taken : Flush → List RelayQueuedMessage
  | .idle => []
  | .sending taken => taken
  | .failed taken => taken

-- The submitted messages are those of the successful flushes, those that the
-- present flush took over and those submitted since then. A flush sends the
-- newest of its messages, and the buffer holds the newest of the rest.
structure Accounted (relay : RelayWs) (settled : List (List RelayQueuedMessage)) (flying waiting : List RelayQueuedMessage) :
    Prop where
  submitted : relay.submitted = settled.flatten ++ (flying ++ waiting)
  sent : relay.sent = settled.map (newest kMaxOutgoingMessages)
  idle : relay.flush = .idle → flying = []
  taken : relay.flush.taken = newest kMaxOutgoingMessages flying
  buffer : relay.sendBuffer = newest kMaxOutgoingMessages waiting

theorem append_accounted (relay : RelayWs) (queued : List RelayQueuedMessage) (settled : List (List RelayQueuedMessage))
    (flying waiting : List RelayQueuedMessage) (accounted : Accounted relay settled flying waiting) :
    Accounted (append relay queued) settled flying (waiting ++ queued) where
  submitted := by simp only [append, accounted.submitted, List.append_assoc]
  sent := accounted.sent
  idle := accounted.idle
  taken := accounted.taken
  buffer := by
    have collected : (append relay queued).sendBuffer =
        trimRelayMessagesToNewest (relay.sendBuffer ++ queued) kMaxOutgoingMessages := rfl
    rw [collected, trim_newest, accounted.buffer, newest_append_left]

theorem step_accounted (relay next : RelayWs) (action : Action)
    (accounted : ∃ settled flying waiting, Accounted relay settled flying waiting) (taken : step relay action = some next) :
    ∃ settled flying waiting, Accounted next settled flying waiting := by
  obtain ⟨settled, flying, waiting, accounted⟩ := accounted
  cases action with
  | send message =>
    cases taken
    exact ⟨settled, flying, _, append_accounted relay _ settled flying waiting accounted⟩
  | sendSynchronized messages =>
    rw [step] at taken
    split at taken
    · cases taken
      exact ⟨settled, flying, waiting, accounted⟩
    · cases taken
      have appended := append_accounted relay (tagged (raise relay.busGenerations messages) messages) settled flying waiting
        accounted
      exact ⟨settled, flying, _, appended.submitted, appended.sent, appended.idle, appended.taken, appended.buffer⟩
  | connection isConnected =>
    rw [step] at taken
    split at taken
    · cases taken
      exact ⟨settled, flying, waiting, accounted.submitted, accounted.sent, accounted.idle, accounted.taken, accounted.buffer⟩
    · cases taken
  | take =>
    rw [step] at taken
    split at taken
    · rename_i free
      cases taken
      refine ⟨settled, waiting, [], ?_, accounted.sent, nofun, accounted.buffer, (newest_nil _).symm⟩
      have submitted := accounted.submitted
      rw [accounted.idle free.1] at submitted
      rw [submitted, List.nil_append, List.append_nil]
    · cases taken
  | sendBinary succeeded =>
    rw [step] at taken
    split at taken
    · rename_i held during
      have hold := accounted.taken
      rw [during] at hold
      split at taken
      · cases taken
        refine ⟨settled ++ [flying], [], waiting, ?_, ?_, fun _ => rfl, (newest_nil _).symm, accounted.buffer⟩
        · simp [accounted.submitted]
        · have flown : held = newest kMaxOutgoingMessages flying := hold
          simp [accounted.sent, flown]
      · cases taken
        exact ⟨settled, flying, waiting, accounted.submitted, accounted.sent, nofun, hold, accounted.buffer⟩
    · cases taken
  | reinsert =>
    rw [step] at taken
    split at taken
    · rename_i held during
      have hold := accounted.taken
      rw [during] at hold
      cases taken
      refine ⟨settled, [], flying ++ waiting, ?_, accounted.sent, fun _ => rfl, (newest_nil _).symm, ?_⟩
      · rw [accounted.submitted, List.nil_append]
      · have flown : held = newest kMaxOutgoingMessages flying := hold
        dsimp only
        rw [reinsertFailedRelayMessages, trim_newest, accounted.buffer, flown, newest_append]
    · cases taken

theorem reachable_accounted (relay : RelayWs) (reached : Reachable relaySystem relay) :
    ∃ settled flying waiting, Accounted relay settled flying waiting := by
  refine reachable_invariant relaySystem Always (fun relay => ∃ settled flying waiting, Accounted relay settled flying waiting)
    ?_ ?_ relay reached
  · rintro _ rfl
    exact ⟨[], [], [], rfl, rfl, fun _ => rfl, (newest_nil _).symm, (newest_nil _).symm⟩
  · exact fun relay action next accounted _ taken => step_accounted relay next action accounted taken

theorem step_submits (relay next : RelayWs) (action : Action) (taken : step relay action = some next) :
    next.submitted.map RelayQueuedMessage.message =
      relay.submitted.map RelayQueuedMessage.message ++ action.messages := by
  have handed (generations : Int32 → Nat) (messages : MotorMessages) :
      (tagged generations messages).map RelayQueuedMessage.message = messages := by
    rw [tagged, List.map_map]
    exact List.map_id _
  cases action with
  | send message =>
    cases taken
    rw [append, List.map_append, handed]
    rfl
  | sendSynchronized messages =>
    rw [step] at taken
    split at taken
    · rename_i empty
      cases taken
      simp [Action.messages, empty]
    · cases taken
      simp only [append, List.map_append, handed, Action.messages]
  | connection isConnected | take | reinsert =>
    rw [step] at taken
    split at taken <;> cases taken
    simp [Action.messages]
  | sendBinary succeeded =>
    rw [step] at taken
    repeat' split at taken
    all_goals cases taken
    all_goals simp [Action.messages]

theorem sent_sublist (settled : List (List RelayQueuedMessage)) (rest : List RelayQueuedMessage) :
    (settled.map (newest kMaxOutgoingMessages)).flatten.Sublist (settled.flatten ++ rest) := by
  refine List.Sublist.trans ?_ (List.sublist_append_left _ _)
  induction settled with
  | nil => exact List.Sublist.refl _
  | cons first others ih =>
    rw [List.map_cons, List.flatten_cons, List.flatten_cons]
    exact (newest_suffix _ first).sublist.append ih

/-- Every run accounts for every submitted message. While no flush is under way, the send buffer is exactly the newest
of the messages submitted since the last successful flush took over; a flush that is under way holds the newest of those
before it and the buffer the newest of those after it. -/
theorem send_buffer_conserved :
    (∀ relay, Reachable relaySystem relay → ∃ (settled : List (List RelayQueuedMessage)) (flying waiting : List RelayQueuedMessage),
      relay.submitted = settled.flatten ++ (flying ++ waiting) ∧
      relay.sent = settled.map (newest kMaxOutgoingMessages) ∧ relay.sent.flatten.Sublist relay.submitted ∧
      relay.flush.taken = newest kMaxOutgoingMessages flying ∧
      relay.sendBuffer = newest kMaxOutgoingMessages waiting ∧
      (relay.flush = .idle → flying = [] ∧ relay.submitted = settled.flatten ++ waiting)) ∧
    (∀ relay next action, step relay action = some next →
      next.submitted.map RelayQueuedMessage.message = relay.submitted.map RelayQueuedMessage.message ++ action.messages) ∧
    ∀ type messages, Carries type (encodeQueuedRelayFrames type messages) (messages.map RelayQueuedMessage.message) := by
  refine ⟨?_, step_submits, encode_queued_relay_bytes⟩
  intro relay reached
  obtain ⟨settled, flying, waiting, accounted⟩ := reachable_accounted relay reached
  refine ⟨settled, flying, waiting, accounted.submitted, accounted.sent, ?_, accounted.taken, accounted.buffer, ?_⟩
  · rw [accounted.sent, accounted.submitted]
    exact sent_sublist settled _
  · intro free
    have none := accounted.idle free
    refine ⟨none, ?_⟩
    rw [accounted.submitted, none, List.nil_append]

def sampleQueued : MotorMessage := ⟨0, ⟨0x141, 0, 2, payload [0x9C, 0x10]⟩⟩

def secondQueued : MotorMessage := ⟨1, ⟨0x142, 0, 2, payload [0x9C, 0x10]⟩⟩

def failedFlushRun : List Action :=
  [.connection true, .send sampleQueued, .take, .sendSynchronized [secondQueued], .sendBinary false, .reinsert, .connection true,
    .take, .sendBinary true, .send sampleQueued]

def flushedRelay : RelayWs := (runActions relaySystem initial failedFlushRun).getD initial

theorem flushed_reached : Reachable relaySystem flushedRelay :=
  run_actions_default relaySystem failedFlushRun initial (.start _ rfl)

theorem send_buffer_conserved_failed_flush :
    (flushedRelay.sent = [[⟨sampleQueued, 0⟩, ⟨secondQueued, 1⟩]] ∧ flushedRelay.sendBuffer = [⟨sampleQueued, 0⟩]) ∧
      ∃ (settled : List (List RelayQueuedMessage)) (flying waiting : List RelayQueuedMessage),
        flushedRelay.submitted = settled.flatten ++ (flying ++ waiting) ∧
          flushedRelay.sent = settled.map (newest kMaxOutgoingMessages) ∧
          flushedRelay.sendBuffer = newest kMaxOutgoingMessages waiting := by
  refine ⟨by decide +kernel, ?_⟩
  obtain ⟨settled, flying, waiting, submitted, sent, -, -, buffer, -⟩ := send_buffer_conserved.1 flushedRelay flushed_reached
  exact ⟨settled, flying, waiting, submitted, sent, buffer⟩

def NewestUnsent (relay : RelayWs) : Prop :=
  ∃ (settled : List (List RelayQueuedMessage)) (waiting : List RelayQueuedMessage), relay.submitted = settled.flatten ++ waiting ∧
    relay.sent = settled.map (newest kMaxOutgoingMessages) ∧ relay.sendBuffer = newest kMaxOutgoingMessages waiting

theorem flush_holds_messages :
    ∃ relay, Reachable relaySystem relay ∧ relay.submitted.map RelayQueuedMessage.message = [sampleQueued] ∧
      relay.sent = [] ∧ relay.sendBuffer = [] ∧ ¬ NewestUnsent relay := by
  have ran : runActions relaySystem initial [.connection true, .send sampleQueued, .take] =
      some ⟨[], fun _ => 0, true, .sending [⟨sampleQueued, 0⟩], [⟨sampleQueued, 0⟩], []⟩ := rfl
  refine ⟨_, run_actions_reachable relaySystem _ initial _ (.start _ rfl) ran, rfl, rfl, rfl, ?_⟩
  rintro ⟨settled, waiting, submitted, sent, buffer⟩
  have none : settled = [] := List.map_eq_nil_iff.mp sent.symm
  subst none
  dsimp only at submitted buffer
  rw [List.flatten_nil, List.nil_append] at submitted
  rw [← submitted] at buffer
  cases buffer

end EncosDriver.Relay
