import EncosDriver.Lib.System
import Mathlib.Data.List.Perm.Basic
import Mathlib.Algebra.GroupWithZero.Nat

set_option autoImplicit false

namespace EncosDriver.Relay

open Lib

def kMaxIncomingFrames : Nat := 1024
def kMaxIncomingBytes : UInt64 := 8 * 1024 * 1024

structure Frame where
  number : Nat
  bytes : List UInt8
deriving DecidableEq, Repr

def Frame.size (frame : Frame) : UInt64 := UInt64.ofNat frame.bytes.length

-- A call of Poll: what its locked section took, how much of it the callback has
-- been given, and whether it has to report that the connection is closed.
structure Poll where
  messages : List Frame
  handed : Nat
  notifyClose : Bool
deriving DecidableEq, Repr

-- From `polls` on, what the run has done is recorded beside the client's own
-- state.
structure RelayWsClient where
  incoming : List Frame := []
  incomingBytes : UInt64 := 0
  droppedIncoming : Nat := 0
  closed : Bool := false
  closeReported : Bool := false
  polls : List Poll := []
  received : List Frame := []
  dropped : List Frame := []
  discarded : List Frame := []
  counted : List Nat := []
  callbacks : List Frame := []
  closeCallbacks : Nat := 0
  underflowed : Bool := false
  overlapped : Bool := false
deriving DecidableEq, Repr

structure Evicted where
  lost : List Frame
  kept : List Frame
  bytes : UInt64
  underflowed : Bool
deriving DecidableEq, Repr

def evict (size : UInt64) : List Frame → UInt64 → Evicted
  | [], bytes => ⟨[], [], bytes, false⟩
  | front :: rest, bytes =>
    if (front :: rest).length ≥ kMaxIncomingFrames ∨ bytes + size > kMaxIncomingBytes then
      let following := evict size rest (bytes - front.size)
      { following with lost := front :: following.lost, underflowed := following.underflowed || decide (bytes < front.size) }
    else ⟨[], front :: rest, bytes, false⟩

def onMessage (client : RelayWsClient) (data : Frame) (len : Int32) : RelayWsClient :=
  if len ≤ 0 then client
  else
    let size := UInt64.ofNat len.toNatClampNeg
    let frame : Frame := { data with bytes := data.bytes.take len.toNatClampNeg }
    if size > kMaxIncomingBytes then
      { client with droppedIncoming := client.droppedIncoming + 1, dropped := client.dropped ++ [frame] }
    else
      let evicted := evict size client.incoming client.incomingBytes
      { client with
        incoming := evicted.kept ++ [frame]
        incomingBytes := evicted.bytes + size
        droppedIncoming := client.droppedIncoming + evicted.lost.length
        dropped := client.dropped ++ evicted.lost
        underflowed := client.underflowed || evicted.underflowed }

def Poll.finished (poll : Poll) : Bool := poll.handed == poll.messages.length

inductive Event where
  | frame (bytes : List UInt8)
  | poll
  | callback (index : Nat)
  | closeCallback (index : Nat)
  | connect
  | takeDroppedIncomingCount
  | close

def receive (client : RelayWsClient) (bytes : List UInt8) : RelayWsClient :=
  let frame : Frame := ⟨client.received.length, bytes⟩
  if bytes = [] then client
  else onMessage { client with received := client.received ++ [frame] } frame (Int32.ofNat bytes.length)

def beginPoll (client : RelayWsClient) : RelayWsClient :=
  let notifyClose := client.closed && !client.closeReported
  { client with
    incoming := []
    incomingBytes := 0
    closeReported := client.closeReported || notifyClose
    polls := client.polls ++ [⟨client.incoming, 0, notifyClose⟩]
    overlapped := client.overlapped || !client.polls.all Poll.finished }

def handOver (client : RelayWsClient) (index : Nat) : Option RelayWsClient := do
  let poll ← client.polls[index]?
  let message ← poll.messages[poll.handed]?
  return { client with
    polls := client.polls.set index { poll with handed := poll.handed + 1 }
    callbacks := client.callbacks ++ [message] }

def reportClose (client : RelayWsClient) (index : Nat) : Option RelayWsClient := do
  let poll ← client.polls[index]?
  if poll.finished && poll.notifyClose then
    return { client with
      polls := client.polls.set index { poll with notifyClose := false }
      closeCallbacks := client.closeCallbacks + 1 }
  else none

def connect (client : RelayWsClient) : RelayWsClient :=
  { client with
    incoming := []
    incomingBytes := 0
    closed := false
    closeReported := false
    discarded := client.discarded ++ client.incoming }

def takeDroppedIncomingCount (client : RelayWsClient) : RelayWsClient :=
  { client with droppedIncoming := 0, counted := client.counted ++ [client.droppedIncoming] }

def clientStep (client : RelayWsClient) : Event → Option RelayWsClient
  | .frame bytes => some (receive client bytes)
  | .poll => some (beginPoll client)
  | .callback index => handOver client index
  | .closeCallback index => reportClose client index
  | .connect => some (connect client)
  | .takeDroppedIncomingCount => some (takeDroppedIncomingCount client)
  | .close => some { client with closed := true }

def clientSystem : System RelayWsClient Event where
  init := fun client => client = {}
  step := clientStep

def Poll.given (poll : Poll) : List Frame := poll.messages.take poll.handed

def taken (client : RelayWsClient) : List Frame := client.polls.flatMap Poll.messages

def given (client : RelayWsClient) : List Frame := client.polls.flatMap Poll.given

def totalBytes (frames : List Frame) : Nat := (frames.map fun frame => frame.bytes.length).sum

-- Every received frame has one place: it was taken by one Poll, counted as
-- dropped, discarded by a Connect, or it waits.
structure Balanced (client : RelayWsClient) : Prop where
  bytes : client.incomingBytes.toNat = totalBytes client.incoming
  frames : client.incoming.length ≤ kMaxIncomingFrames
  room : client.incomingBytes ≤ kMaxIncomingBytes
  noUnderflow : client.underflowed = false
  numbered : client.received.map Frame.number = List.range client.received.length
  once : client.received.Perm (taken client ++ client.dropped ++ client.discarded ++ client.incoming)
  ordered : (taken client ++ client.incoming).Pairwise fun first second => first.number < second.number
  counted : client.counted.sum + client.droppedIncoming = client.dropped.length
  handed : ∀ poll ∈ client.polls, poll.handed ≤ poll.messages.length
  called : client.callbacks.Perm (given client)
  inOrder : client.overlapped = false → client.callbacks = given client

def DropsOldest (client next : RelayWsClient) (event : Event) : Prop :=
  next.dropped = client.dropped ∨
    ∃ bytes, event = .frame bytes ∧
      ((bytes.length > kMaxIncomingBytes.toNat ∧ next.dropped = client.dropped ++ [⟨client.received.length, bytes⟩] ∧
          next.incoming = client.incoming) ∨
        ∃ lost kept, client.incoming = lost ++ kept ∧ next.dropped = client.dropped ++ lost ∧
          next.incoming = kept ++ [⟨client.received.length, bytes⟩])

def ShortFrames (_ : RelayWsClient) (event : Event) : Prop := ∀ bytes, event = .frame bytes → bytes.length < 2 ^ 31

theorem max_incoming_bytes : kMaxIncomingBytes.toNat = 8388608 := rfl

theorem total_bytes_cons (frame : Frame) (frames : List Frame) :
    totalBytes (frame :: frames) = frame.bytes.length + totalBytes frames := rfl

theorem total_bytes_append (first second : List Frame) : totalBytes (first ++ second) = totalBytes first + totalBytes second := by
  simp [totalBytes]

theorem size_exact (length : Nat) (small : length < 2 ^ 64) : (UInt64.ofNat length).toNat = length :=
  UInt64.toNat_ofNat_of_lt' small

theorem evict_spec (size : UInt64) (queue : List Frame) (bytes : UInt64) (small : size ≤ kMaxIncomingBytes)
    (room : bytes ≤ kMaxIncomingBytes) (exact : bytes.toNat = totalBytes queue) :
    queue = (evict size queue bytes).lost ++ (evict size queue bytes).kept ∧ (evict size queue bytes).underflowed = false ∧
      (evict size queue bytes).bytes.toNat = totalBytes (evict size queue bytes).kept ∧
      (evict size queue bytes).kept.length < kMaxIncomingFrames ∧
      (evict size queue bytes).bytes.toNat + size.toNat ≤ kMaxIncomingBytes.toNat := by
  rw [UInt64.le_iff_toNat_le] at small
  induction queue generalizing bytes with
  | nil =>
    have none : bytes.toNat = 0 := exact
    refine ⟨rfl, rfl, exact, Nat.zero_lt_succ 1023, ?_⟩
    change bytes.toNat + size.toNat ≤ kMaxIncomingBytes.toNat
    omega
  | cons front rest ih =>
    rw [UInt64.le_iff_toNat_le] at room
    have most := max_incoming_bytes
    rw [total_bytes_cons] at exact
    have frontSize : front.size.toNat = front.bytes.length := size_exact _ (by omega)
    have enough : front.size ≤ bytes := by
      rw [UInt64.le_iff_toNat_le]
      omega
    have less := UInt64.toNat_sub_of_le bytes front.size enough
    rw [evict]
    split
    · obtain ⟨cut, intact, counted, short, fits⟩ := ih (bytes - front.size)
        (by rw [UInt64.le_iff_toNat_le]; omega) (by omega)
      refine ⟨congrArg (front :: ·) cut, ?_, counted, short, fits⟩
      simp only [intact, Bool.false_or, decide_eq_false_iff_not]
      exact UInt64.not_lt.mpr enough
    · rename_i fits
      rw [not_or] at fits
      refine ⟨rfl, rfl, exact, Nat.lt_of_not_le fits.1, ?_⟩
      have sum := UInt64.toNat_add bytes size
      have below := UInt64.le_iff_toNat_le.mp (UInt64.not_lt.mp fits.2)
      simp only
      omega

theorem short_frame (bytes : List UInt8) (present : bytes ≠ []) (short : bytes.length < 2 ^ 31) :
    ¬ Int32.ofNat bytes.length ≤ 0 ∧ (Int32.ofNat bytes.length).toNatClampNeg = bytes.length := by
  have positive := List.length_pos_iff.mpr present
  refine ⟨?_, Int32.toNatClampNeg_ofNat_of_lt short⟩
  rw [Int32.le_iff_toInt_le, Int32.toInt_ofNat_of_lt short]
  simp only [Int32.toInt_zero]
  omega

variable (client : RelayWsClient)

variable (bytes : List UInt8)

theorem receive_cases (present : bytes ≠ []) (short : bytes.length < 2 ^ 31) :
    (bytes.length > kMaxIncomingBytes.toNat ∧
      receive client bytes = { client with
        received := client.received ++ [⟨client.received.length, bytes⟩]
        droppedIncoming := client.droppedIncoming + 1
        dropped := client.dropped ++ [⟨client.received.length, bytes⟩] }) ∨
    ∃ size evicted, size.toNat = bytes.length ∧ size ≤ kMaxIncomingBytes ∧
      evicted = evict size client.incoming client.incomingBytes ∧
      receive client bytes = { client with
        received := client.received ++ [⟨client.received.length, bytes⟩]
        incoming := evicted.kept ++ [⟨client.received.length, bytes⟩]
        incomingBytes := evicted.bytes + size
        droppedIncoming := client.droppedIncoming + evicted.lost.length
        dropped := client.dropped ++ evicted.lost
        underflowed := client.underflowed || evicted.underflowed } := by
  obtain ⟨positive, same⟩ := short_frame bytes present short
  have size : (UInt64.ofNat bytes.length).toNat = bytes.length := size_exact _ (by omega)
  by_cases large : UInt64.ofNat bytes.length > kMaxIncomingBytes
  · refine .inl ⟨?_, ?_⟩
    · rw [← size]
      exact UInt64.lt_iff_toNat_lt.mp large
    · simp only [receive, present, onMessage, positive, same, large, List.take_length, ↓reduceIte]
  · refine .inr ⟨UInt64.ofNat bytes.length, _, size, UInt64.not_lt.mp large, rfl, ?_⟩
    simp only [receive, present, onMessage, positive, same, large, List.take_length, ↓reduceIte]

theorem balanced_initial : Balanced {} := by
  refine ⟨rfl, Nat.zero_le _, by decide, rfl, rfl, .nil, .nil, rfl, nofun, .nil, fun _ => rfl⟩

theorem balanced_earlier (balanced : Balanced client) (frame : Frame)
    (inside : frame ∈ taken client ++ client.incoming) : frame.number < client.received.length := by
  have arrived : frame ∈ client.received := by
    refine balanced.once.mem_iff.mpr ?_
    simp only [List.mem_append] at inside ⊢
    rcases inside with inside | inside
    · exact .inl (.inl (.inl inside))
    · exact .inr inside
  have number := List.mem_map_of_mem (f := Frame.number) arrived
  rw [balanced.numbered] at number
  exact List.mem_range.mp number

theorem numbered_next (balanced : Balanced client) (bytes : List UInt8) :
    (client.received ++ [(⟨client.received.length, bytes⟩ : Frame)]).map Frame.number =
      List.range (client.received ++ [(⟨client.received.length, bytes⟩ : Frame)]).length := by
  rw [List.map_append, balanced.numbered, List.length_append, List.length_singleton, List.range_succ]
  rfl

theorem receive_balanced (balanced : Balanced client) (short : bytes.length < 2 ^ 31) :
    Balanced (receive client bytes) := by
  by_cases empty : bytes = []
  · simp only [receive, empty, ↓reduceIte]
    exact balanced
  · have numbered := numbered_next client balanced bytes
    have together := List.perm_iff_count.mp balanced.once
    rcases receive_cases client bytes empty short with ⟨-, received⟩ | ⟨size, evicted, exact, small, rfl, received⟩
    · rw [received]
      refine { balanced with numbered := numbered, once := ?_, counted := ?_ }
      · refine List.perm_iff_count.mpr fun frame => ?_
        have one := together frame
        simp only [taken, List.count_append] at one ⊢
        omega
      · have counted := balanced.counted
        simp only [List.length_append, List.length_singleton]
        omega
    · obtain ⟨cut, intact, counted, room, fits⟩ := evict_spec size client.incoming client.incomingBytes small balanced.room
        balanced.bytes
      rw [received]
      generalize evict size client.incoming client.incomingBytes = evicted at cut intact counted room fits ⊢
      have sum : (evicted.bytes + size).toNat = evicted.bytes.toNat + size.toNat := by
        have most := max_incoming_bytes
        rw [UInt64.toNat_add]
        omega
      refine ⟨?_, ?_, ?_, ?_, numbered, ?_, ?_, ?_, balanced.handed, balanced.called, balanced.inOrder⟩
      · simp only [sum, counted, exact, total_bytes_append, total_bytes_cons]
        rfl
      · rw [List.length_append, List.length_singleton]
        exact room
      · rw [UInt64.le_iff_toNat_le]
        simp only [sum]
        exact fits
      · simp only [balanced.noUnderflow, intact, Bool.or_self]
      · refine List.perm_iff_count.mpr fun frame => ?_
        have one := together frame
        rw [cut] at one
        simp only [taken, List.count_append] at one ⊢
        omega
      · have order := balanced.ordered
        have earlier := balanced_earlier client balanced
        rw [cut] at order earlier
        have kept : (taken client ++ evicted.kept).Sublist (taken client ++ (evicted.lost ++ evicted.kept)) :=
          (List.Sublist.refl _).append (List.sublist_append_right _ _)
        change (taken client ++ (evicted.kept ++ [(⟨client.received.length, bytes⟩ : Frame)])).Pairwise _
        rw [← List.append_assoc, List.pairwise_append]
        refine ⟨order.sublist kept, List.pairwise_singleton _ _, ?_⟩
        intro first inside second last
        rw [List.mem_singleton.mp last]
        exact earlier first (kept.mem inside)
      · have balance := balanced.counted
        simp only [List.length_append]
        omega

theorem receive_drops_oldest (balanced : Balanced client)
    (short : bytes.length < 2 ^ 31) : DropsOldest client (receive client bytes) (.frame bytes) := by
  by_cases empty : bytes = []
  · simp only [receive, empty, ↓reduceIte]
    exact .inl rfl
  · rcases receive_cases client bytes empty short with ⟨large, received⟩ | ⟨size, evicted, -, small, rfl, received⟩
    · rw [received]
      exact .inr ⟨bytes, rfl, .inl ⟨large, rfl, rfl⟩⟩
    · obtain ⟨cut, -⟩ := evict_spec size client.incoming client.incomingBytes small balanced.room balanced.bytes
      rw [received]
      exact .inr ⟨bytes, rfl, .inr ⟨_, _, cut, rfl, rfl⟩⟩

theorem begin_poll_balanced (balanced : Balanced client) : Balanced (beginPoll client) := by
  have all : taken (beginPoll client) = taken client ++ client.incoming := by
    simp [taken, beginPoll]
  have none : given (beginPoll client) = given client := by
    simp [given, beginPoll, Poll.given]
  refine { balanced with
    bytes := rfl, frames := Nat.zero_le _, room := UInt64.zero_le, once := ?_, ordered := ?_, handed := ?_, called := ?_,
    inOrder := ?_ }
  · rw [all]
    refine List.perm_iff_count.mpr fun frame => ?_
    have one := List.perm_iff_count.mp balanced.once frame
    simp only [beginPoll, List.count_append, List.count_nil] at one ⊢
    omega
  · rw [all]
    simp only [beginPoll, List.append_nil]
    exact balanced.ordered
  · intro poll inside
    rcases List.mem_append.mp inside with inside | last
    · exact balanced.handed poll inside
    · rw [List.mem_singleton.mp last]
      exact Nat.zero_le _
  · rw [none]
    exact balanced.called
  · intro alone
    rw [none]
    exact balanced.inOrder (Bool.or_eq_false_iff.mp alone).1

theorem connect_balanced (balanced : Balanced client) : Balanced (connect client) := by
  refine { balanced with bytes := rfl, frames := Nat.zero_le _, room := UInt64.zero_le, once := ?_, ordered := ?_ }
  · refine List.perm_iff_count.mpr fun frame => ?_
    have one := List.perm_iff_count.mp balanced.once frame
    simp only [taken, connect, List.count_append, List.count_nil] at one ⊢
    omega
  · simp only [taken, connect, List.append_nil]
    exact (List.pairwise_append.mp balanced.ordered).1

theorem take_dropped_balanced (balanced : Balanced client) : Balanced (takeDroppedIncomingCount client) := by
  refine { balanced with counted := ?_ }
  have balance := balanced.counted
  simp only [takeDroppedIncomingCount, List.sum_append, List.sum_cons, List.sum_nil]
  omega

theorem poll_split (polls : List Poll) (index : Nat) (poll : Poll) (found : polls[index]? = some poll) :
    ∃ front back, polls = front ++ poll :: back ∧ ∀ other, polls.set index other = front ++ other :: back := by
  obtain ⟨inside, here⟩ := List.getElem?_eq_some_iff.mp found
  refine ⟨polls.take index, polls.drop (index + 1), ?_, ?_⟩
  · rw [← here, List.getElem_cons_drop, List.take_append_drop]
  · intro other
    rw [List.set_eq_take_append_cons_drop, if_pos inside]

variable (client next : RelayWsClient)

variable (index : Nat)

theorem hand_over_cases (ran : handOver client index = some next) :
    ∃ front poll message back, client.polls = front ++ poll :: back ∧ poll.messages[poll.handed]? = some message ∧
      next = { client with
        polls := front ++ { poll with handed := poll.handed + 1 } :: back
        callbacks := client.callbacks ++ [message] } := by
  simp only [handOver, Option.bind_eq_bind, Option.bind_eq_some_iff] at ran
  obtain ⟨poll, found, message, here, made⟩ := ran
  obtain ⟨front, back, split, replaced⟩ := poll_split client.polls index poll found
  cases made
  exact ⟨front, poll, message, back, split, here, by rw [replaced]⟩

theorem report_close_cases (ran : reportClose client index = some next) :
    ∃ front poll back, client.polls = front ++ poll :: back ∧ poll.finished = true ∧
      next = { client with
        polls := front ++ { poll with notifyClose := false } :: back
        closeCallbacks := client.closeCallbacks + 1 } := by
  simp only [reportClose, Option.bind_eq_bind, Option.bind_eq_some_iff] at ran
  obtain ⟨poll, found, made⟩ := ran
  obtain ⟨front, back, split, replaced⟩ := poll_split client.polls index poll found
  split at made
  · rename_i due
    cases made
    exact ⟨front, poll, back, split, (Bool.and_eq_true_iff.mp due).1, by rw [replaced]⟩
  · cases made

def OneAtATime (client : RelayWsClient) : Prop := client.overlapped = false → ∀ poll ∈ client.polls.dropLast, poll.finished = true

variable (front back : List Poll)

theorem before_last (poll : Poll) (present : back ≠ []) :
    (front ++ poll :: back).dropLast = front ++ poll :: back.dropLast := by
  rw [List.dropLast_append_of_ne_nil (List.cons_ne_nil poll back), List.dropLast_cons_of_ne_nil present]

theorem replaced_taken (poll other : Poll) (same : other.messages = poll.messages) :
    (front ++ other :: back).flatMap Poll.messages = (front ++ poll :: back).flatMap Poll.messages := by
  simp [same]

theorem replaced_handed (poll other : Poll)
    (bounded : ∀ one ∈ front ++ poll :: back, one.handed ≤ one.messages.length) (within : other.handed ≤ other.messages.length) :
    ∀ one ∈ front ++ other :: back, one.handed ≤ one.messages.length := by
  intro one inside
  rcases List.mem_append.mp inside with inside | inside
  · exact bounded one (List.mem_append_left _ inside)
  · rcases List.mem_cons.mp inside with rfl | inside
    · exact within
    · exact bounded one (List.mem_append_right _ (List.mem_cons_of_mem _ inside))

theorem hand_over_balanced (balanced : Balanced client) (single : OneAtATime client)
    (ran : handOver client index = some next) : Balanced next ∧ OneAtATime next := by
  obtain ⟨front, poll, message, back, split, here, rfl⟩ := hand_over_cases client next index ran
  obtain ⟨within, -⟩ := List.getElem?_eq_some_iff.mp here
  have longer : ({ poll with handed := poll.handed + 1 } : Poll).given = poll.given ++ [message] := by
    rw [Poll.given, List.take_add_one, here]
    rfl
  have last : client.overlapped = false → back = [] := by
    intro alone
    by_contra present
    have ended := single alone poll (by rw [split, before_last front back poll present]; simp)
    rw [Poll.finished, beq_iff_eq] at ended
    omega
  have before : given client = front.flatMap Poll.given ++ poll.given ++ back.flatMap Poll.given := by
    simp [given, split]
  have after : (front ++ { poll with handed := poll.handed + 1 } :: back).flatMap Poll.given =
      front.flatMap Poll.given ++ (poll.given ++ [message]) ++ back.flatMap Poll.given := by
    rw [List.flatMap_append, List.flatMap_cons, longer, ← List.append_assoc]
  have same : (front ++ { poll with handed := poll.handed + 1 } :: back).flatMap Poll.messages = taken client := by
    rw [taken, split]
    exact replaced_taken front back poll _ rfl
  refine ⟨{ balanced with once := ?_, ordered := ?_, handed := ?_, called := ?_, inOrder := ?_ }, ?_⟩
  · rw [taken, same]
    exact balanced.once
  · rw [taken, same]
    exact balanced.ordered
  · exact replaced_handed front back poll _ (split ▸ balanced.handed) within
  · rw [given, after]
    refine List.perm_iff_count.mpr fun frame => ?_
    have one := List.perm_iff_count.mp balanced.called frame
    rw [before] at one
    simp only [List.count_append] at one ⊢
    omega
  · intro alone
    have called := balanced.inOrder alone
    rw [given, after, called, before, last alone]
    simp
  · intro alone other inside
    simp only [last alone, List.dropLast_concat] at inside
    exact single alone other (by rw [split, last alone, List.dropLast_concat]; exact inside)

theorem report_close_balanced (balanced : Balanced client) (single : OneAtATime client)
    (ran : reportClose client index = some next) : Balanced next ∧ OneAtATime next := by
  obtain ⟨front, poll, back, split, ended, rfl⟩ := report_close_cases client next index ran
  have handed : (front ++ { poll with notifyClose := false } :: back).flatMap Poll.given = given client := by
    simp [given, split, Poll.given]
  have same : (front ++ { poll with notifyClose := false } :: back).flatMap Poll.messages = taken client := by
    rw [taken, split]
    exact replaced_taken front back poll _ rfl
  refine ⟨{ balanced with once := ?_, ordered := ?_, handed := ?_, called := ?_, inOrder := ?_ }, ?_⟩
  · rw [taken, same]
    exact balanced.once
  · rw [taken, same]
    exact balanced.ordered
  · have bounded := split ▸ balanced.handed
    exact replaced_handed front back poll _ bounded (bounded poll (List.mem_append_right _ List.mem_cons_self))
  · rw [given, handed]
    exact balanced.called
  · intro alone
    rw [given, handed]
    exact balanced.inOrder alone
  · intro alone other inside
    have others := single alone
    rw [split] at others
    by_cases empty : back = []
    · subst empty
      rw [List.dropLast_concat] at inside others
      exact others other inside
    · rw [before_last _ _ _ empty] at inside others
      rcases List.mem_append.mp inside with inside | inside
      · exact others other (List.mem_append_left _ inside)
      · rcases List.mem_cons.mp inside with rfl | inside
        · exact ended
        · exact others other (List.mem_append_right _ (List.mem_cons_of_mem _ inside))

theorem receive_polls (bytes : List UInt8) (short : bytes.length < 2 ^ 31) :
    (receive client bytes).polls = client.polls ∧ (receive client bytes).overlapped = client.overlapped := by
  by_cases empty : bytes = []
  · simp only [receive, empty, ↓reduceIte, and_self]
  · rcases receive_cases client bytes empty short with ⟨-, received⟩ | ⟨size, evicted, -, -, -, received⟩
    · rw [received]
      exact ⟨rfl, rfl⟩
    · rw [received]
      exact ⟨rfl, rfl⟩

theorem begin_poll_single : OneAtATime (beginPoll client) := by
  intro alone poll inside
  simp only [beginPoll, Bool.or_eq_false_iff, Bool.not_eq_false', List.dropLast_concat] at alone inside
  exact List.all_eq_true.mp alone.2 poll inside

theorem client_step_balanced (event : Event) (balanced : Balanced client)
    (single : OneAtATime client) (short : ShortFrames client event) (ran : clientStep client event = some next) :
    Balanced next ∧ OneAtATime next := by
  cases event with
  | frame bytes =>
    cases ran
    obtain ⟨polls, overlapped⟩ := receive_polls client bytes (short bytes rfl)
    refine ⟨receive_balanced client bytes balanced (short bytes rfl), ?_⟩
    rw [OneAtATime, polls, overlapped]
    exact single
  | poll =>
    cases ran
    exact ⟨begin_poll_balanced client balanced, begin_poll_single client⟩
  | callback index => exact hand_over_balanced client next index balanced single ran
  | closeCallback index => exact report_close_balanced client next index balanced single ran
  | connect =>
    cases ran
    exact ⟨connect_balanced client balanced, single⟩
  | takeDroppedIncomingCount =>
    cases ran
    exact ⟨take_dropped_balanced client balanced, single⟩
  | close =>
    cases ran
    exact ⟨{ balanced with }, single⟩

theorem reachable_balanced (reached : ReachableWith clientSystem ShortFrames client) : Balanced client ∧ OneAtATime client := by
  refine reachable_invariant clientSystem ShortFrames (fun client => Balanced client ∧ OneAtATime client) ?_ ?_ client reached
  · rintro _ rfl
    exact ⟨balanced_initial, fun _ => nofun⟩
  · rintro client event next ⟨balanced, single⟩ short ran
    exact client_step_balanced client next event balanced single short ran

theorem client_step_drops_oldest (event : Event) (balanced : Balanced client)
    (short : ShortFrames client event) (ran : clientStep client event = some next) : DropsOldest client next event := by
  cases event with
  | frame bytes =>
    cases ran
    exact receive_drops_oldest client bytes balanced (short bytes rfl)
  | callback index =>
    obtain ⟨_, _, _, _, -, -, rfl⟩ := hand_over_cases client next index ran
    exact .inl rfl
  | closeCallback index =>
    obtain ⟨_, _, _, -, -, rfl⟩ := report_close_cases client next index ran
    exact .inl rfl
  | poll | connect | takeDroppedIncomingCount | close =>
    cases ran
    exact .inl rfl

/-- In every run in which no frame outgrows an int, every received frame is accounted for in every state, and only the
oldest queued frames make room. -/
theorem incoming_accounted (client : RelayWsClient) (reached : ReachableWith clientSystem ShortFrames client) :
    Balanced client ∧
      ∀ event next, ShortFrames client event → clientSystem.step client event = some next → DropsOldest client next event := by
  obtain ⟨balanced, -⟩ := reachable_balanced client reached
  refine ⟨balanced, ?_⟩
  intro event next short ran
  exact client_step_drops_oldest client next event balanced short ran

def isShort : RelayWsClient → Event → Bool
  | _, .frame bytes => bytes.length < 2 ^ 31
  | _, _ => true

theorem is_short_sound (event : Event) (passed : isShort client event = true) : ShortFrames client event := by
  rintro bytes rfl
  exact of_decide_eq_true passed

theorem incoming_accounted_run :
    ∃ client, Balanced client ∧ client.callbacks = [⟨0, [1]⟩] ∧ taken client = [⟨0, [1]⟩, ⟨1, [2, 3]⟩] ∧
      client.incoming = [⟨2, [4]⟩] ∧ client.incomingBytes = 1 := by
  obtain ⟨client, reached, facts⟩ := run_checked_found clientSystem ShortFrames isShort is_short_sound
    [.frame [1], .frame [2, 3], .poll, .frame [4], .callback 0] {} (.start _ rfl)
    (fun client => client.callbacks = [⟨0, [1]⟩] ∧ taken client = [⟨0, [1]⟩, ⟨1, [2, 3]⟩] ∧
      client.incoming = [⟨2, [4]⟩] ∧ client.incomingBytes = 1) (by decide +kernel)
  exact ⟨client, (incoming_accounted client reached).1, of_decide_eq_true facts⟩

/-- The size of a frame of 2^31 bytes is negative as an int: the frame is ignored, and no one counts it as dropped. -/
theorem huge_frame_lost :
    ∃ client, Reachable clientSystem client ∧ client.received.length = 1 ∧ client.incoming = [] ∧ client.polls = [] ∧
      client.dropped = [] ∧ client.discarded = [] ∧ client.droppedIncoming = 0 ∧ ¬ Balanced client := by
  obtain ⟨huge, size⟩ : ∃ huge : List UInt8, huge.length = 2 ^ 31 := ⟨List.replicate (2 ^ 31) 0, List.length_replicate⟩
  have present : huge ≠ [] := by
    rintro rfl
    cases size
  have negative : Int32.ofNat huge.length ≤ 0 := by
    rw [size]
    decide
  have ignored : receive {} huge = { received := [⟨0, huge⟩] } := by
    simp only [receive, present, onMessage, negative, ↓reduceIte]
    rfl
  refine ⟨receive {} huge, .next _ _ (.frame huge) (.start _ rfl) trivial rfl, ?_⟩
  rw [ignored]
  refine ⟨rfl, rfl, rfl, rfl, rfl, rfl, ?_⟩
  intro balanced
  have counted := balanced.once.length_eq
  cases counted

end EncosDriver.Relay
