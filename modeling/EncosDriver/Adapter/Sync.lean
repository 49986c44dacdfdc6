import EncosDriver.Lib.Ring
import EncosDriver.Lib.System
import EncosDriver.Lib.Table
import EncosDriver.Message.Types

set_option autoImplicit false

namespace EncosDriver.Adapter

open Lib Message

inductive Stream where
  | device (bus : Int32) (channel : Nat)
  | bulk (bus : Int32)
  | immediate (bus : Int32)
deriving DecidableEq, Repr

-- A submitted message with its place in the order of the submissions, which
-- nothing in the code reads.
structure Entry where
  number : Nat
  stream : Stream
  message : MotorMessage
deriving DecidableEq, Repr

def kSendChannelLength : Nat := 10

theorem send_channel_positive : 0 < kSendChannelLength := by decide

structure SendChannel where
  id : Nat
  port : Ring kSendChannelLength Entry

structure Bus where
  syncMode : Bool
  sendChannels : List SendChannel
  bulkQueue : List Entry

def SendChannel.drain (channel : SendChannel) : List Entry × SendChannel :=
  let drained := Ring.drain kSendChannelLength channel.port
  (drained.1, { channel with port := drained.2 })

namespace Bus

def drainOutgoingLocked (bus : Bus) : List Entry × Bus :=
  ((bus.sendChannels.flatMap fun channel => channel.drain.1) ++ bus.bulkQueue,
    { bus with sendChannels := bus.sendChannels.map fun channel => channel.drain.2, bulkQueue := [] })

def push (bus : Bus) (channel : Nat) (entry : Entry) : Bus :=
  { bus with
    sendChannels := bus.sendChannels.map fun found =>
      if found.id = channel then { found with port := found.port.push entry } else found }

def overwrites (bus : Bus) (channel : Nat) : List Entry :=
  (bus.sendChannels.filter fun found => found.id = channel).flatMap fun found =>
    found.port.queued.take (found.port.queued.length + 1 - kSendChannelLength)

def channelQueue (bus : Bus) (channel : Nat) : List Entry :=
  (bus.sendChannels.filter fun found => found.id = channel).flatMap fun found => found.port.queued

def remove (bus : Bus) (channel : Nat) : Bus :=
  { bus with sendChannels := bus.sendChannels.filter fun found => found.id ≠ channel }

def enterMode (bus : Bus) (enabled drains : Bool) : List Entry × Bus :=
  if drains then ({ bus with syncMode := enabled } : Bus).drainOutgoingLocked else ([], { bus with syncMode := enabled })

end Bus

inductive Call where
  | submitDeviceMessage (bus : Int32) (channel : Nat) (message : MotorPackMsg)
  | submitBusMessages (bus : Int32) (messages : MotorMessages) (immediate : Bool)
  | commit (order : List Int32)
  | setSyncMode (enabled : Bool) (order : List Int32)
  | commitBus (bus : Int32)
  | setBusSyncMode (bus : Int32) (enabled : Bool)
  | initializeBusSyncMode (bus : Int32)
deriving DecidableEq, Repr

inductive Stage where
  | locked (entries : List Entry)
  | visit (remaining : List Int32) (messages : List Entry)
  | send (messages : List Entry)
  | publish
deriving DecidableEq, Repr

-- In `returned` are the buses that some caller has got; the last four fields are
-- histories.
structure State where
  defaultSyncMode : Bool
  buses : Table Int32 Bus
  pending : List Int32
  returned : List Int32
  nextChannel : Nat
  holder : Option (Call × Stage)
  submitted : List Entry
  handed : List Entry
  overwritten : List Entry
  dropped : List Entry

namespace State

def knownBuses (state : State) : List Int32 := (state.buses.toList.map fun entry => entry.1).filter fun bus => bus ∉ state.pending

def number (state : State) (stream : Stream) (messages : MotorMessages) : List Entry :=
  messages.zipIdx.map fun entry => ⟨state.submitted.length + entry.2, stream, entry.1⟩

def hold (state : State) (call : Call) (stage : Stage) : State := { state with holder := some (call, stage) }

def enter (state : State) (call : Call) (entries : List Entry) : State :=
  { state with holder := some (call, .locked entries), submitted := state.submitted ++ entries }

def begin (state : State) : Call → Option State
  | .submitDeviceMessage bus channel message =>
    match state.buses.find bus with
    | none => none
    | some found =>
      if bus ∈ state.returned ∧ channel ∈ found.sendChannels.map fun existing => existing.id then
        some (state.enter (.submitDeviceMessage bus channel message)
          (state.number (.device bus channel)
            [⟨bus, { message with frameFlags := sanitizeCanFrameFlags message.frameFlags }⟩]))
      else none
  | .submitBusMessages bus messages immediate =>
    if bus ∈ state.returned then
      if messages.isEmpty then some state
      else
        some (state.enter (.submitBusMessages bus messages immediate)
          (state.number (if immediate then .immediate bus else .bulk bus) messages))
    else none
  | .commit order =>
    if order.Perm state.knownBuses then
      some ({ state with defaultSyncMode := true }.hold (.commit order) (.visit order []))
    else none
  | .setSyncMode enabled order =>
    if order.Perm state.knownBuses then
      some ({ state with defaultSyncMode := enabled }.hold (.setSyncMode enabled order) (.visit order []))
    else none
  | .commitBus bus => if bus ∈ state.returned then some (state.hold (.commitBus bus) (.locked [])) else none
  | .setBusSyncMode bus enabled =>
    if bus ∈ state.returned then some (state.hold (.setBusSyncMode bus enabled) (.locked [])) else none
  | .initializeBusSyncMode bus =>
    if bus ∈ state.pending ∧ state.buses.contains bus then some (state.hold (.initializeBusSyncMode bus) (.locked [])) else none

def release (state : State) (messages : List Entry) : State := { state with holder := none, handed := state.handed ++ messages }

def enterBusMode (state : State) (bus : Int32) (enabled : Bool) (drains : Bus → Bool) : List Entry × State :=
  match state.buses.find bus with
  | none => ([], state)
  | some found =>
    let entered := found.enterMode enabled (drains found)
    (entered.1, { state with buses := state.buses.put bus entered.2 })

def proceed (state : State) : Call → Stage → Option State
  | _, .send messages => some (state.release messages)
  | _, .visit [] messages => some (state.release messages)
  | .submitDeviceMessage bus channel message, .locked [entry] =>
    match state.buses.find bus with
    | none => none
    | some found =>
      if found.syncMode then
        some
          { state with
            buses := state.buses.put bus (found.push channel entry)
            overwritten := state.overwritten ++ found.overwrites channel
            holder := none }
      else some (state.hold (.submitDeviceMessage bus channel message) (.send [entry]))
  | .submitBusMessages bus messages immediate, .locked entries =>
    match state.buses.find bus with
    | none => none
    | some found =>
      if found.syncMode && !immediate then
        some { state with buses := state.buses.put bus { found with bulkQueue := found.bulkQueue ++ entries }, holder := none }
      else some (state.hold (.submitBusMessages bus messages immediate) (.send entries))
  | .commit order, .visit (bus :: rest) messages =>
    let entered := state.enterBusMode bus true fun found => found.syncMode
    some (entered.2.hold (.commit order) (.visit rest (messages ++ entered.1)))
  | .setSyncMode enabled order, .visit (bus :: rest) messages =>
    let entered := state.enterBusMode bus enabled fun found => !enabled && found.syncMode
    some (entered.2.hold (.setSyncMode enabled order) (.visit rest (messages ++ entered.1)))
  | .commitBus bus, .locked _ =>
    let entered := state.enterBusMode bus true fun _ => true
    some (entered.2.hold (.commitBus bus) (.send entered.1))
  | .setBusSyncMode bus enabled, .locked _ =>
    let entered := state.enterBusMode bus enabled fun found => !enabled && found.syncMode
    some (entered.2.hold (.setBusSyncMode bus enabled) (.send entered.1))
  | .initializeBusSyncMode bus, .locked _ =>
    let entered := state.enterBusMode bus state.defaultSyncMode fun _ => false
    some (entered.2.hold (.initializeBusSyncMode bus) .publish)
  | .initializeBusSyncMode bus, .publish =>
    some { state with pending := state.pending.erase bus, returned := bus :: state.returned, holder := none }
  | _, _ => none

def getBus (state : State) (bus : Int32) : Option State :=
  if state.buses.contains bus then some { state with returned := bus :: state.returned }
  else if bus ∈ state.pending then none
  else some { state with pending := bus :: state.pending }

def publishBus (state : State) (bus : Int32) : Option State :=
  if bus ∈ state.pending ∧ ¬ state.buses.contains bus then some { state with buses := state.buses.put bus ⟨false, [], []⟩ } else none

def abandonBus (state : State) (bus : Int32) : Option State :=
  if bus ∈ state.pending ∧ ¬ state.buses.contains bus then some { state with pending := state.pending.erase bus } else none

def makeDeviceWriter (state : State) (bus : Int32) : Option State :=
  match state.buses.find bus with
  | none => none
  | some found =>
    if bus ∈ state.returned then
      some
        { state with
          buses := state.buses.put bus { found with sendChannels := found.sendChannels ++ [⟨state.nextChannel, Ring.empty _ _ send_channel_positive⟩] }
          nextChannel := state.nextChannel + 1 }
    else none

def unregisterSendChannel (state : State) (bus : Int32) (channel : Nat) : Option State :=
  match state.buses.find bus with
  | none => none
  | some found =>
    match state.holder with
    | some (.submitDeviceMessage _ used _, _) => if used = channel then none else some (removed found)
    | _ => some (removed found)
where
  removed (found : Bus) : State :=
    { state with buses := state.buses.put bus (found.remove channel), dropped := state.dropped ++ found.channelQueue channel }

end State

inductive Action where
  | call (call : Call)
  | proceed
  | makeDeviceWriter (bus : Int32)
  | unregisterSendChannel (bus : Int32) (channel : Nat)
  | getBus (bus : Int32)
  | publishBus (bus : Int32)
  | abandonBus (bus : Int32)
deriving DecidableEq, Repr

def step (state : State) : Action → Option State
  | .call call => if state.holder.isSome then none else state.begin call
  | .proceed =>
    match state.holder with
    | none => none
    | some (call, stage) => state.proceed call stage
  | .makeDeviceWriter bus => state.makeDeviceWriter bus
  | .unregisterSendChannel bus channel => state.unregisterSendChannel bus channel
  | .getBus bus => state.getBus bus
  | .publishBus bus => state.publishBus bus
  | .abandonBus bus => state.abandonBus bus

def Stream.bus : Stream → Int32
  | .device bus _ => bus
  | .bulk bus => bus
  | .immediate bus => bus

def ofStream (stream : Stream) (entries : List Entry) : List Entry := entries.filter fun entry => entry.stream = stream

variable (stream : Stream)

@[simp] theorem of_stream_append (front back : List Entry) :
    ofStream stream (front ++ back) = ofStream stream front ++ ofStream stream back := List.filter_append ..

theorem of_stream_all (entries : List Entry) (same : ∀ entry ∈ entries, entry.stream = stream) :
    ofStream stream entries = entries := List.filter_eq_self.mpr fun entry member => by simpa using same entry member

theorem of_stream_none (entries : List Entry) (others : ∀ entry ∈ entries, entry.stream ≠ stream) :
    ofStream stream entries = [] := List.filter_eq_nil_iff.mpr fun entry member => by simpa using others entry member

namespace Bus

def contents (bus : Bus) : List Entry := (bus.sendChannels.flatMap fun channel => channel.port.queued) ++ bus.bulkQueue

def queueFor (bus : Bus) : Stream → List Entry
  | .device _ channel => bus.channelQueue channel
  | .bulk _ => bus.bulkQueue
  | .immediate _ => []

def Empty (bus : Bus) : Prop := bus.contents = []

def ids (bus : Bus) : List Nat := bus.sendChannels.map fun channel => channel.id

end Bus

structure BusOk (index : Int32) (nextChannel : Nat) (bus : Bus) : Prop where
  distinct : bus.ids.Nodup
  used : ∀ id ∈ bus.ids, id < nextChannel
  own : ∀ channel ∈ bus.sendChannels, ∀ entry ∈ channel.port.queued, entry.stream = .device index channel.id
  bulk : ∀ entry ∈ bus.bulkQueue, entry.stream = .bulk index

theorem drain_channel (channel : SendChannel) :
    channel.drain.1 = channel.port.queued ∧ channel.drain.2.port.queued = [] ∧ channel.drain.2.id = channel.id := by
  obtain ⟨drained, left⟩ := Ring.drain_queued kSendChannelLength channel.port channel.port.queued_length.2
  exact ⟨drained, left, rfl⟩

theorem drain_outgoing (bus : Bus) :
    bus.drainOutgoingLocked.1 = bus.contents ∧ bus.drainOutgoingLocked.2.Empty ∧
      bus.drainOutgoingLocked.2.syncMode = bus.syncMode ∧ bus.drainOutgoingLocked.2.ids = bus.ids := by
  have taken : (fun channel : SendChannel => channel.drain.1) = fun channel => channel.port.queued :=
    funext fun channel => (drain_channel channel).1
  refine ⟨by simp only [Bus.drainOutgoingLocked, Bus.contents, taken], ?_, rfl, ?_⟩
  · simp [Bus.Empty, Bus.contents, Bus.drainOutgoingLocked, (drain_channel _).2.1]
  · simp only [Bus.ids, Bus.drainOutgoingLocked, List.map_map]
    rfl

theorem empty_queues (bus : Bus) (empty : bus.Empty) (stream : Stream) : bus.queueFor stream = [] := by
  obtain ⟨channels, bulk⟩ := List.append_eq_nil_iff.mp empty
  cases stream with
  | device index id =>
    refine List.flatMap_eq_nil_iff.mpr ?_
    intro channel member
    exact List.flatMap_eq_nil_iff.mp channels channel (List.mem_of_mem_filter member)
  | bulk index => exact bulk
  | immediate index => rfl

variable (index : Int32) (nextChannel : Nat) (bus : Bus)

theorem empty_bus_ok (empty : bus.Empty) (distinct : bus.ids.Nodup)
    (used : ∀ id ∈ bus.ids, id < nextChannel) : BusOk index nextChannel bus := by
  obtain ⟨channels, bulk⟩ := List.append_eq_nil_iff.mp empty
  refine ⟨distinct, used, ?_, by simp [bulk]⟩
  intro channel member entry inside
  rw [List.flatMap_eq_nil_iff.mp channels channel member] at inside
  cases inside

theorem channels_of_stream (channels : List SendChannel)
    (own : ∀ channel ∈ channels, ∀ entry ∈ channel.port.queued, entry.stream = .device index channel.id) (stream : Stream)
    (same : stream.bus = index) :
    ofStream stream (channels.flatMap fun channel => channel.port.queued) =
      match stream with
      | .device _ id => (channels.filter fun channel => channel.id = id).flatMap fun channel => channel.port.queued
      | _ => [] := by
  induction channels with
  | nil => cases stream <;> rfl
  | cons channel rest ih =>
    obtain ⟨first, others⟩ := List.forall_mem_cons.mp own
    rw [List.flatMap_cons, of_stream_append, ih others]
    cases stream with
    | device holder id =>
      obtain rfl : holder = index := same
      by_cases found : channel.id = id
      · rw [of_stream_all _ _ (found ▸ first)]
        simp [found]
      · rw [of_stream_none _ _ fun entry member => by simp [first entry member, found]]
        simp [found]
    | bulk holder | immediate holder =>
      rw [of_stream_none _ _ fun entry member => by simp [first entry member]]
      rfl

theorem contents_of_stream (formed : BusOk index nextChannel bus) (stream : Stream)
    (same : stream.bus = index) : ofStream stream bus.contents = bus.queueFor stream := by
  rw [Bus.contents, of_stream_append, channels_of_stream index bus.sendChannels formed.own stream same]
  cases stream with
  | device holder id =>
    rw [of_stream_none _ _ fun entry member => by simp [formed.bulk entry member]]
    exact List.append_nil _
  | bulk holder =>
    obtain rfl : holder = index := same
    exact of_stream_all _ _ formed.bulk
  | immediate holder => exact of_stream_none _ _ fun entry member => by simp [formed.bulk entry member]

theorem contents_own_stream (formed : BusOk index nextChannel bus) : ∀ entry ∈ bus.contents, entry.stream.bus = index := by
  intro entry member
  rcases List.mem_append.mp member with queued | bulk
  · obtain ⟨channel, inside, held⟩ := List.mem_flatMap.mp queued
    rw [formed.own channel inside entry held]
    rfl
  · rw [formed.bulk entry bulk]
    rfl

theorem enter_mode_spec (formed : BusOk index nextChannel bus) (enabled drains : Bool) :
    BusOk index nextChannel (bus.enterMode enabled drains).2 ∧ (bus.enterMode enabled drains).2.syncMode = enabled ∧
      ((drains = true ∧ (bus.enterMode enabled drains).1 = bus.contents ∧ (bus.enterMode enabled drains).2.Empty) ∨
        (drains = false ∧ (bus.enterMode enabled drains).1 = [] ∧ (bus.enterMode enabled drains).2.contents = bus.contents ∧
          ∀ stream, (bus.enterMode enabled drains).2.queueFor stream = bus.queueFor stream)) := by
  cases drains with
  | false => exact ⟨⟨formed.distinct, formed.used, formed.own, formed.bulk⟩, rfl, .inr ⟨rfl, rfl, rfl, fun stream => by cases stream <;> rfl⟩⟩
  | true =>
    obtain ⟨taken, empty, mode, ids⟩ := drain_outgoing { bus with syncMode := enabled }
    refine ⟨empty_bus_ok index nextChannel _ empty ?_ ?_, mode, .inl ⟨rfl, taken, empty⟩⟩
    · exact ids ▸ formed.distinct
    · exact ids ▸ formed.used

theorem channel_split (distinct : bus.ids.Nodup) (id : Nat) (present : id ∈ bus.ids) :
    ∃ front channel back, bus.sendChannels = front ++ channel :: back ∧ channel.id = id ∧
      (∀ other ∈ front, other.id ≠ id) ∧ ∀ other ∈ back, other.id ≠ id := by
  obtain ⟨channel, member, rfl⟩ := List.mem_map.mp present
  obtain ⟨front, back, parts⟩ := List.append_of_mem member
  rw [Bus.ids, parts, List.map_append, List.map_cons, List.nodup_append, List.nodup_cons] at distinct
  refine ⟨front, channel, back, parts, rfl, ?_, ?_⟩
  · intro other inside same
    exact distinct.2.2 _ (List.mem_map_of_mem inside) _ List.mem_cons_self same
  · intro other inside same
    exact distinct.2.1.1 (same ▸ List.mem_map_of_mem inside)

theorem filter_split (front back : List SendChannel) (channel : SendChannel) (id : Nat) (same : channel.id = id)
    (before : ∀ other ∈ front, other.id ≠ id) (after : ∀ other ∈ back, other.id ≠ id) :
    (front ++ channel :: back).filter (fun other => other.id = id) = [channel] := by
  have none (channels : List SendChannel) (others : ∀ other ∈ channels, other.id ≠ id) :
      channels.filter (fun other => other.id = id) = [] :=
    List.filter_eq_nil_iff.mpr fun other member => by simpa using others other member
  rw [List.filter_append, List.filter_cons_of_pos (by simpa using same), none front before, none back after]
  rfl

theorem push_spec (formed : BusOk index nextChannel bus) (id : Nat)
    (present : id ∈ bus.ids) (entry : Entry) (stream : entry.stream = .device index id) :
    BusOk index nextChannel (bus.push id entry) ∧
      bus.overwrites id ++ (bus.push id entry).queueFor (.device index id) = bus.queueFor (.device index id) ++ [entry] ∧
      (bus.overwrites id ≠ [] → ((bus.push id entry).queueFor (.device index id)).length = kSendChannelLength) ∧
      (∀ other, other.bus = index → other ≠ .device index id → (bus.push id entry).queueFor other = bus.queueFor other) ∧
      ∀ held, (bus.push id entry).contents.count held + (bus.overwrites id).count held =
        bus.contents.count held + [entry].count held := by
  obtain ⟨front, channel, back, parts, same, before, after⟩ := channel_split bus formed.distinct id present
  have untouched (channels : List SendChannel) (others : ∀ other ∈ channels, other.id ≠ id) :
      (channels.map fun found => if found.id = id then { found with port := found.port.push entry } else found) = channels := by
    rw [List.map_congr_left (g := fun found => found) fun found member => if_neg (others found member)]
    exact List.map_id' channels
  have pushed : (bus.push id entry).sendChannels = front ++ { channel with port := channel.port.push entry } :: back := by
    simp only [Bus.push, parts, List.map_append, List.map_cons, untouched front before, untouched back after, if_pos same]
  have ids : (bus.push id entry).ids = bus.ids := by simp [Bus.ids, pushed, parts]
  have small := channel.port.queued_length.2
  have newest := channel.port.push_queued entry
  rw [List.drop_append_of_le_length (by simp only [kSendChannelLength] at small ⊢; omega)] at newest
  have lost : bus.overwrites id = channel.port.queued.take (channel.port.queued.length + 1 - kSendChannelLength) := by
    simp [Bus.overwrites, parts, filter_split front back channel id same before after]
  have old : bus.queueFor (.device index id) = channel.port.queued := by
    simp [Bus.queueFor, Bus.channelQueue, parts, filter_split front back channel id same before after]
  have new : (bus.push id entry).queueFor (.device index id) = (channel.port.push entry).queued := by
    simp [Bus.queueFor, Bus.channelQueue, pushed,
      filter_split front back { channel with port := channel.port.push entry } id same before after]
  have formedAll := formed.own
  rw [parts, List.forall_mem_append, List.forall_mem_cons] at formedAll
  refine ⟨⟨ids ▸ formed.distinct, ids ▸ formed.used, ?_, formed.bulk⟩, ?_, ?_, ?_, ?_⟩
  · rw [pushed]
    refine List.forall_mem_append.mpr ⟨formedAll.1, List.forall_mem_cons.mpr ⟨?_, formedAll.2.2⟩⟩
    intro held member
    rw [newest] at member
    rcases List.mem_append.mp member with earlier | last
    · exact formedAll.2.1 held (List.mem_of_mem_drop earlier)
    · rw [List.mem_singleton.mp last, stream, same]
  · rw [lost, old, new, newest, ← List.append_assoc, List.take_append_drop]
  · intro overwritten
    rw [new, newest, List.length_append, List.length_drop, List.length_singleton]
    have full : channel.port.queued.length + 1 - kSendChannelLength ≠ 0 := by
      intro zero
      rw [lost, zero] at overwritten
      exact overwritten List.take_zero
    simp only [kSendChannelLength] at full small ⊢
    omega
  · intro other sameBus different
    cases other with
    | device holder otherId =>
      obtain rfl : holder = index := sameBus
      have apart : id ≠ otherId := fun sameId => different (by rw [sameId])
      have skipped : channel.id ≠ otherId := same ▸ apart
      simp [Bus.queueFor, Bus.channelQueue, pushed, parts, skipped]
    | bulk holder => rfl
    | immediate holder => rfl
  · intro held
    simp only [Bus.contents, pushed, parts, lost, newest, List.flatMap_append, List.flatMap_cons, List.count_append]
    have split := congrArg (List.count held)
      (List.take_append_drop (channel.port.queued.length + 1 - kSendChannelLength) channel.port.queued)
    rw [List.count_append] at split
    have bulk : (bus.push id entry).bulkQueue = bus.bulkQueue := rfl
    rw [bulk]
    omega

theorem remove_spec (formed : BusOk index nextChannel bus) (id : Nat) :
    BusOk index nextChannel (bus.remove id) ∧ (bus.remove id).queueFor (.device index id) = [] ∧
      (∀ other, other.bus = index → other ≠ .device index id → (bus.remove id).queueFor other = bus.queueFor other) ∧
      ∀ held, (bus.remove id).contents.count held + (bus.channelQueue id).count held = bus.contents.count held := by
  have kept (other : Nat) (different : other ≠ id) : (bus.remove id).channelQueue other = bus.channelQueue other := by
    simp only [Bus.channelQueue, Bus.remove, List.filter_filter]
    congr 1
    apply List.filter_congr
    intro channel _
    by_cases found : channel.id = other
    · simp [found, different]
    · simp [found]
  refine ⟨⟨?_, ?_, ?_, formed.bulk⟩, ?_, ?_, ?_⟩
  · exact (List.filter_sublist.map _).nodup formed.distinct
  · intro found member
    exact formed.used found ((List.filter_sublist.map _).subset member)
  · intro channel member
    exact formed.own channel (List.mem_of_mem_filter member)
  · simp [Bus.queueFor, Bus.channelQueue, Bus.remove, List.filter_filter]
  · intro other sameBus different
    cases other with
    | device holder otherId =>
      obtain rfl : holder = index := sameBus
      exact kept otherId fun sameId => different (by rw [sameId])
    | bulk holder => rfl
    | immediate holder => rfl
  · intro held
    simp only [Bus.contents, Bus.remove, Bus.channelQueue, List.count_append]
    have parted (channels : List SendChannel) :
        ((channels.filter fun found => found.id ≠ id).flatMap fun channel => channel.port.queued).count held +
          ((channels.filter fun found => found.id = id).flatMap fun channel => channel.port.queued).count held =
            (channels.flatMap fun channel => channel.port.queued).count held := by
      induction channels with
      | nil => rfl
      | cons channel rest ih =>
        by_cases found : channel.id = id
        · simp [found] at ih ⊢
          omega
        · simp [found] at ih ⊢
          omega
    have whole := parted bus.sendChannels
    omega

end EncosDriver.Adapter
