import EncosDriver.Adapter.Sync

set_option autoImplicit false

namespace EncosDriver.Adapter

open Lib Message

def Stage.entering : Stage → List Entry
  | .locked entries => entries
  | _ => []

def Stage.moving : Stage → List Entry
  | .visit _ messages => messages
  | .send messages => messages
  | _ => []

namespace State

def entering (state : State) : List Entry :=
  match state.holder with
  | some (_, stage) => stage.entering
  | none => []

def moving (state : State) : List Entry :=
  match state.holder with
  | some (_, stage) => stage.moving
  | none => []

def queueOf (state : State) (stream : Stream) : List Entry :=
  match state.buses.find stream.bus with
  | some bus => bus.queueFor stream
  | none => []

def history (state : State) (stream : Stream) : List Entry :=
  ofStream stream (state.handed ++ state.moving) ++ state.queueOf stream ++ ofStream stream state.entering

def queuedCount (state : State) (entry : Entry) : Nat := state.buses.sum fun _ bus => bus.contents.count entry

def places (state : State) (entry : Entry) : Nat :=
  state.handed.count entry + state.moving.count entry + state.queuedCount entry + state.entering.count entry +
    state.overwritten.count entry + state.dropped.count entry

end State

def Numbered (entries : List Entry) : Prop := entries.Pairwise fun earlier later => earlier.number < later.number

structure Books (state : State) : Prop where
  buses : ∀ bus found, state.buses.find bus = some found → BusOk bus state.nextChannel found
  direct : ∀ bus found, state.buses.find bus = some found → found.syncMode = false → found.Empty
  placed : ∀ entry, state.places entry = state.submitted.count entry
  numbered : state.submitted.map (fun entry => entry.number) = List.range state.submitted.length
  ordered : ∀ stream, Numbered (state.history stream)

variable (state : State)

theorem queue_put (bus : Int32) (new : Bus) (stream : Stream) (after : State) (buses : after.buses = state.buses.put bus new) :
    after.queueOf stream = if stream.bus = bus then new.queueFor stream else state.queueOf stream := by
  simp only [State.queueOf, buses, Table.find_put]
  by_cases same : stream.bus = bus
  · simp [same]
  · simp [same]

theorem queued_count_put (bus : Int32) (found new : Bus) (after : State) (at_ : state.buses.find bus = some found)
    (buses : after.buses = state.buses.put bus new) (entry : Entry) :
    after.queuedCount entry + found.contents.count entry = state.queuedCount entry + new.contents.count entry := by
  have summed := Table.sum_put state.buses (fun _ bus => bus.contents.count entry) bus new
  rw [Table.share_found _ _ bus found at_] at summed
  simp only [State.queuedCount, buses]
  exact summed

variable (state after : State)

theorem books_section (books : Books state) (bus : Int32) (found new : Bus)
    (lost gone moving entering moving' entering' : List Entry) (movingAt : state.moving = moving)
    (enteringAt : state.entering = entering) (movingAfter : after.moving = moving') (enteringAfter : after.entering = entering')
    (at_ : state.buses.find bus = some found) (buses : after.buses = state.buses.put bus new)
    (channels : state.nextChannel ≤ after.nextChannel) (formed : BusOk bus after.nextChannel new)
    (direct : new.syncMode = false → new.Empty)
    (submitted : after.submitted = state.submitted) (handed : after.handed = state.handed)
    (overwritten : after.overwritten = state.overwritten ++ lost) (dropped : after.dropped = state.dropped ++ gone)
    (counted : ∀ entry, moving'.count entry + new.contents.count entry + entering'.count entry + lost.count entry +
      gone.count entry = moving.count entry + found.contents.count entry + entering.count entry)
    (own : ∀ stream, stream.bus = bus →
      (ofStream stream moving' ++ new.queueFor stream ++ ofStream stream entering').Sublist
        (ofStream stream moving ++ found.queueFor stream ++ ofStream stream entering))
    (others : ∀ stream, stream.bus ≠ bus → ofStream stream moving' = ofStream stream moving ∧
      ofStream stream entering' = ofStream stream entering) : Books after := by
  refine ⟨?_, ?_, ?_, by rw [submitted, books.numbered], ?_⟩
  · intro other busAt located
    rw [buses, Table.find_put] at located
    split at located
    · next same =>
        cases located
        exact same ▸ formed
    · obtain ⟨distinct, used, kept, bulk⟩ := books.buses other busAt located
      exact ⟨distinct, fun id member => Nat.lt_of_lt_of_le (used id member) channels, kept, bulk⟩
  · intro other busAt located off
    rw [buses, Table.find_put] at located
    split at located
    · cases located
      exact direct off
    · exact books.direct other busAt located off
  · intro entry
    have before := books.placed entry
    have moved := counted entry
    have queued := queued_count_put state bus found new after at_ buses entry
    simp only [State.places, movingAt, enteringAt] at before
    simp only [State.places, movingAfter, enteringAfter, handed, overwritten, dropped, submitted, List.count_append]
    omega
  · intro stream
    have before := books.ordered stream
    simp only [State.history, of_stream_append, movingAt, enteringAt] at before
    simp only [State.history, of_stream_append, movingAfter, enteringAfter, handed, queue_put state bus new stream after buses]
    by_cases same : stream.bus = bus
    · have kept := own stream same
      have old : state.queueOf stream = found.queueFor stream := by simp only [State.queueOf, same, at_]
      rw [if_pos same]
      rw [old] at before
      refine before.sublist ?_
      simpa only [List.append_assoc] using List.Sublist.append_left (by simpa only [List.append_assoc] using kept) _
    · obtain ⟨taken, locked⟩ := others stream same
      rw [if_neg same, taken, locked]
      exact before

theorem books_moved (books : Books state) (buses : after.buses = state.buses)
    (channels : after.nextChannel = state.nextChannel) (submitted : after.submitted = state.submitted)
    (overwritten : after.overwritten = state.overwritten) (dropped : after.dropped = state.dropped)
    (counted : ∀ entry, after.handed.count entry + after.moving.count entry + after.entering.count entry =
      state.handed.count entry + state.moving.count entry + state.entering.count entry)
    (kept : ∀ stream, after.history stream = state.history stream) : Books after := by
  refine ⟨?_, ?_, ?_, by rw [submitted, books.numbered], fun stream => kept stream ▸ books.ordered stream⟩
  · rw [buses, channels]
    exact books.buses
  · rw [buses]
    exact books.direct
  · intro entry
    have before := books.placed entry
    have moved := counted entry
    simp only [State.places, State.queuedCount, overwritten, dropped, submitted, buses] at before ⊢
    omega

theorem queue_same (buses : after.buses = state.buses) (stream : Stream) :
    after.queueOf stream = state.queueOf stream := by
  simp only [State.queueOf, buses]

theorem submitted_below (books : Books state) (entry : Entry) (member : entry ∈ state.submitted) :
    entry.number < state.submitted.length := by
  have listed : entry.number ∈ state.submitted.map fun entry => entry.number := List.mem_map_of_mem member
  rw [books.numbered] at listed
  exact List.mem_range.mp listed

theorem history_submitted (books : Books state) (stream : Stream) : ∀ entry ∈ state.history stream, entry ∈ state.submitted := by
  intro entry member
  have placed := books.placed entry
  apply List.count_pos_iff.mp
  have positive (entries : List Entry) (inside : entry ∈ entries) : 0 < entries.count entry := List.count_pos_iff.mpr inside
  simp only [State.history, List.mem_append, of_stream_append] at member
  unfold State.places at placed
  rcases member with ((handed | moving) | queued) | entering
  · have some := positive _ (List.mem_of_mem_filter handed)
    omega
  · have some := positive _ (List.mem_of_mem_filter moving)
    omega
  · simp only [State.queueOf] at queued
    split at queued
    · next bus at_ =>
        rw [← contents_of_stream stream.bus state.nextChannel bus (books.buses _ bus at_) stream rfl] at queued
        have some := positive _ (List.mem_of_mem_filter queued)
        have share := Table.share_le_sum state.buses (fun _ bus => bus.contents.count entry) stream.bus
        rw [Table.share_found _ _ _ bus at_] at share
        simp only [State.queuedCount] at placed
        omega
    · cases queued
  · have some := positive _ (List.mem_of_mem_filter entering)
    omega

theorem number_entries (stream : Stream) (messages : MotorMessages) :
    (state.number stream messages).map (fun entry => entry.number) =
      (List.range (state.number stream messages).length).map (state.submitted.length + ·) ∧
      ∀ entry ∈ state.number stream messages, entry.stream = stream := by
  have indices : messages.zipIdx.map Prod.snd = List.range messages.length := by
    rw [List.zipIdx_map_snd, List.range_eq_range']
  constructor
  · simp only [State.number, List.map_map, List.length_map, List.length_zipIdx, ← indices]
    rfl
  · intro entry member
    obtain ⟨_, _, rfl⟩ := List.mem_map.mp member
    rfl

theorem books_enter (books : Books state) (call : Call) (stream : Stream) (messages : MotorMessages)
    (free : state.holder = none) : Books (state.enter call (state.number stream messages)) := by
  obtain ⟨numbers, own⟩ := number_entries state stream messages
  generalize state.number stream messages = entries at numbers own
  have moving : state.moving = [] := by simp [State.moving, free]
  have entering : state.entering = [] := by simp [State.entering, free]
  refine ⟨books.buses, books.direct, ?_, ?_, ?_⟩
  · intro entry
    have before := books.placed entry
    simp only [State.places, moving, entering, List.count_nil] at before
    simp only [State.places, State.enter, State.moving, Stage.moving, State.entering, Stage.entering, List.count_append,
      List.count_nil, State.queuedCount] at before ⊢
    omega
  · simp only [State.enter, List.map_append, numbers, books.numbered, List.length_append, List.range_add]
  · intro other
    have before := books.ordered other
    have known := history_submitted state books other
    simp only [State.history, moving, entering, List.append_nil, show ofStream other [] = [] from rfl] at before known
    have increasing : Numbered entries := by
      have whole := List.pairwise_lt_range (n := entries.length)
      have mapped : (entries.map fun entry => entry.number).Pairwise (· < ·) := by
        rw [numbers]
        exact List.pairwise_map.mpr (whole.imp fun less => Nat.add_lt_add_left less _)
      exact List.pairwise_map.mp mapped
    simp only [State.history, State.enter, State.moving, Stage.moving, State.entering, Stage.entering, List.append_nil]
    refine List.pairwise_append.mpr ⟨before, List.Pairwise.filter _ increasing, ?_⟩
    intro earlier earlierAt later laterAt
    have below := submitted_below state books earlier (known earlier earlierAt)
    have listed : later.number ∈ entries.map fun entry => entry.number := List.mem_map_of_mem (List.mem_of_mem_filter laterAt)
    rw [numbers] at listed
    obtain ⟨index, _, number⟩ := List.mem_map.mp listed
    omega

theorem books_release (books : Books state) (call : Call) (stage : Stage) (messages : List Entry)
    (holder : state.holder = some (call, stage)) (moving : stage.moving = messages) (entering : stage.entering = []) :
    Books (state.release messages) := by
  refine books_moved state _ books rfl rfl rfl rfl rfl ?_ ?_
  · intro entry
    simp [State.release, State.moving, State.entering, holder, moving, entering]
  · intro stream
    have same := queue_same state (state.release messages) rfl stream
    simp only [State.history, same]
    simp [State.release, State.moving, State.entering, holder, moving, entering]

theorem books_direct (books : Books state) (call : Call) (entries : List Entry) (stream : Stream)
    (holder : state.holder = some (call, .locked entries)) (own : ∀ entry ∈ entries, entry.stream = stream)
    (empty : state.queueOf stream = []) : Books (state.hold call (.send entries)) := by
  refine books_moved state _ books rfl rfl rfl rfl rfl ?_ ?_
  · intro entry
    simp [State.hold, State.moving, State.entering, Stage.moving, Stage.entering, holder]
  · intro other
    have same := queue_same state (state.hold call (.send entries)) rfl other
    simp only [State.history, same]
    simp only [State.hold, State.moving, State.entering, Stage.moving, Stage.entering, holder, of_stream_append]
    by_cases found : stream = other
    · subst found
      rw [empty]
      simp [ofStream]
    · rw [of_stream_none other entries fun entry member => own entry member ▸ found]
      simp [ofStream]

theorem books_push (books : Books state) (call : Call) (bus : Int32) (channel : Nat) (entry : Entry) (found : Bus)
    (holder : state.holder = some (call, .locked [entry])) (at_ : state.buses.find bus = some found)
    (present : channel ∈ found.ids) (stream : entry.stream = .device bus channel) (synchronized : found.syncMode = true) :
    Books
      { state with
        buses := state.buses.put bus (found.push channel entry)
        overwritten := state.overwritten ++ found.overwrites channel
        holder := none } := by
  obtain ⟨formed, queue, _, otherQueues, counted⟩ := push_spec bus state.nextChannel found (books.buses bus found at_) channel present
    entry stream
  have own : ∀ held ∈ [entry], held.stream = .device bus channel := by simpa using stream
  refine books_section state _ books bus found (found.push channel entry) (found.overwrites channel) [] [] [entry] [] []
    (by simp [State.moving, holder, Stage.moving]) (by simp [State.entering, holder, Stage.entering]) rfl rfl at_ rfl (Nat.le_refl _)
    formed ?_ rfl rfl rfl (List.append_nil _).symm ?_ ?_ ?_
  · intro off
    rw [show (found.push channel entry).syncMode = found.syncMode from rfl, synchronized] at off
    cases off
  · intro held
    have count := counted held
    simp only [List.count_nil]
    omega
  · intro other sameBus
    by_cases same : other = .device bus channel
    · subst same
      rw [of_stream_all _ [entry] own]
      simp only [ofStream, List.filter_nil, List.nil_append, List.append_nil, ← queue]
      exact List.sublist_append_right _ _
    · rw [otherQueues other sameBus same, of_stream_none other [entry] fun held member => own held member ▸ Ne.symm same]
      exact List.Sublist.refl _
  · intro other different
    rw [of_stream_none other [entry] fun held member same => different (by rw [← same, own held member]; rfl)]
    exact ⟨rfl, rfl⟩

theorem books_bulk (books : Books state) (call : Call) (bus : Int32) (entries : List Entry) (found : Bus)
    (holder : state.holder = some (call, .locked entries)) (at_ : state.buses.find bus = some found)
    (own : ∀ entry ∈ entries, entry.stream = .bulk bus) (synchronized : found.syncMode = true) :
    Books { state with buses := state.buses.put bus { found with bulkQueue := found.bulkQueue ++ entries }, holder := none } := by
  have formed := books.buses bus found at_
  refine books_section state _ books bus found { found with bulkQueue := found.bulkQueue ++ entries } [] [] [] entries [] []
    (by simp [State.moving, holder, Stage.moving]) (by simp [State.entering, holder, Stage.entering]) rfl rfl at_ rfl (Nat.le_refl _)
    ⟨formed.distinct, formed.used, formed.own, List.forall_mem_append.mpr ⟨formed.bulk, own⟩⟩ ?_ rfl rfl
    (List.append_nil _).symm (List.append_nil _).symm ?_ ?_ ?_
  · intro off
    rw [show Bus.syncMode { found with bulkQueue := found.bulkQueue ++ entries } = found.syncMode from rfl, synchronized] at off
    cases off
  · intro held
    simp only [List.count_nil, Bus.contents, List.count_append]
    omega
  · intro other sameBus
    cases other with
    | bulk holderBus =>
      obtain rfl : holderBus = bus := sameBus
      rw [of_stream_all _ entries own]
      simp [Bus.queueFor, ofStream]
    | device holderBus id | immediate holderBus =>
      rw [of_stream_none _ entries fun entry member => by rw [own entry member]; simp]
      exact List.Sublist.refl _
  · intro other different
    rw [of_stream_none other entries fun entry member same => different (by rw [← same, own entry member]; rfl)]
    exact ⟨rfl, rfl⟩

theorem books_mode (books : Books state) (call : Call) (stage stage' : Stage) (bus : Int32) (enabled : Bool)
    (drains : Bus → Bool) (holder : state.holder = some (call, stage)) (entering : stage.entering = [])
    (moving : stage'.moving = stage.moving ++ (state.enterBusMode bus enabled drains).1) (entering' : stage'.entering = [])
    (quiet : ∀ found, state.buses.find bus = some found → enabled = false → drains found = false → found.Empty) :
    Books ((state.enterBusMode bus enabled drains).2.hold call stage') ∧
      (∀ other, other ≠ bus → (state.enterBusMode bus enabled drains).2.buses.find other = state.buses.find other) ∧
      ∀ found new, state.buses.find bus = some found → (state.enterBusMode bus enabled drains).2.buses.find bus = some new →
        (drains found = true ∨ found.Empty) → new.Empty := by
  cases at_ : state.buses.find bus with
  | none =>
    have unchanged : state.enterBusMode bus enabled drains = ([], state) := by simp only [State.enterBusMode, at_]
    rw [unchanged] at moving ⊢
    refine ⟨?_, fun _ _ => rfl, fun found _ impossible => by cases impossible⟩
    refine books_moved state _ books rfl rfl rfl rfl rfl ?_ ?_
    · intro entry
      simp [State.hold, State.moving, State.entering, holder, moving, entering, entering']
    · intro stream
      have same := queue_same state (state.hold call stage') rfl stream
      simp only [State.history, same]
      simp [State.hold, State.moving, State.entering, holder, moving, entering, entering']
  | some found =>
    have formed := books.buses bus found at_
    obtain ⟨formedNew, mode, cases⟩ := enter_mode_spec bus state.nextChannel found formed enabled (drains found)
    have taken : (state.enterBusMode bus enabled drains).1 = (found.enterMode enabled (drains found)).1 := by
      simp only [State.enterBusMode, at_]
    have entered : (state.enterBusMode bus enabled drains).2 =
        { state with buses := state.buses.put bus (found.enterMode enabled (drains found)).2 } := by
      simp only [State.enterBusMode, at_]
    rw [taken] at moving
    rw [entered]
    have emptied : (drains found = true ∨ found.Empty) → (found.enterMode enabled (drains found)).2.Empty := by
      intro reason
      rcases cases with ⟨_, _, empty⟩ | ⟨stays, _, same, _⟩
      · exact empty
      · rcases reason with drained | empty
        · rw [drained] at stays
          cases stays
        · exact same.trans empty
    refine ⟨?_, fun other different => Table.put_other _ _ _ _ different, ?_⟩
    · refine books_section state _ books bus found (found.enterMode enabled (drains found)).2 [] [] stage.moving [] stage'.moving []
        (by simp [State.moving, holder]) (by simp [State.entering, holder, entering]) rfl entering' at_ rfl (Nat.le_refl _) formedNew
        ?_ rfl rfl (List.append_nil _).symm (List.append_nil _).symm ?_ ?_ ?_
      · intro off
        rw [mode] at off
        apply emptied
        cases drained : drains found with
        | true => exact .inl rfl
        | false => exact .inr (quiet found at_ off drained)
      · intro entry
        rcases cases with ⟨_, moved, empty⟩ | ⟨_, moved, same, _⟩
        · rw [moving, moved, show (found.enterMode enabled (drains found)).2.contents = [] from empty]
          simp
        · rw [moving, moved, same]
          simp
      · intro stream sameBus
        rcases cases with ⟨_, moved, empty⟩ | ⟨_, moved, _, queues⟩
        · rw [moving, moved, of_stream_append, contents_of_stream bus state.nextChannel found formed stream sameBus,
            empty_queues _ empty stream]
          simp
        · rw [moving, moved, queues stream]
          simp
      · intro stream different
        refine ⟨?_, rfl⟩
        have none : ofStream stream (found.enterMode enabled (drains found)).1 = [] := by
          apply of_stream_none
          intro entry member same
          rcases cases with ⟨_, moved, _⟩ | ⟨_, moved, _⟩
          · rw [moved] at member
            have own := contents_own_stream bus state.nextChannel found formed entry member
            rw [same] at own
            exact different own
          · rw [moved] at member
            cases member
        rw [moving, of_stream_append, none, List.append_nil]
    · intro old new same located reason
      cases same
      rw [Table.put_same] at located
      cases located
      exact emptied reason

theorem books_writer (books : Books state) (bus : Int32) (found : Bus) (at_ : state.buses.find bus = some found) :
    Books
      { state with
        buses := state.buses.put bus { found with sendChannels := found.sendChannels ++ [⟨state.nextChannel, Ring.empty _ _ send_channel_positive⟩] }
        nextChannel := state.nextChannel + 1 } := by
  have formed := books.buses bus found at_
  have queued := Ring.empty_queued kSendChannelLength Entry send_channel_positive
  have contents : Bus.contents { found with sendChannels := found.sendChannels ++ [⟨state.nextChannel, Ring.empty _ _ send_channel_positive⟩] } =
      found.contents := by
    simp [Bus.contents, queued]
  refine books_section state _ books bus found _ [] [] state.moving state.entering state.moving state.entering rfl rfl rfl rfl at_ rfl
    (Nat.le_succ _) ⟨?_, ?_, ?_, formed.bulk⟩ ?_ rfl rfl (List.append_nil _).symm (List.append_nil _).symm ?_ ?_ fun _ _ => ⟨rfl, rfl⟩
  · simp only [Bus.ids, List.map_append, List.map_cons, List.map_nil]
    refine List.nodup_append.mpr ⟨formed.distinct, List.nodup_singleton _, ?_⟩
    intro id member fresh inside same
    have below := formed.used id member
    rw [same, List.mem_singleton.mp inside] at below
    exact Nat.lt_irrefl _ below
  · simp only [Bus.ids, List.map_append, List.map_cons, List.map_nil]
    refine List.forall_mem_append.mpr ⟨fun id member => Nat.lt_succ_of_lt (formed.used id member), ?_⟩
    exact List.forall_mem_singleton.mpr (Nat.lt_succ_self _)
  · refine List.forall_mem_append.mpr ⟨formed.own, List.forall_mem_singleton.mpr ?_⟩
    intro entry member
    rw [queued] at member
    cases member
  · intro off
    exact contents.trans (books.direct bus found at_ off)
  · intro entry
    rw [contents]
    simp
  · intro stream _
    have same : Bus.queueFor { found with sendChannels := found.sendChannels ++ [⟨state.nextChannel, Ring.empty _ _ send_channel_positive⟩] } stream =
        found.queueFor stream := by
      cases stream with
      | device holder id =>
        by_cases fresh : state.nextChannel = id
        · simp [Bus.queueFor, Bus.channelQueue, fresh, queued]
        · simp [Bus.queueFor, Bus.channelQueue, fresh]
      | bulk holder => rfl
      | immediate holder => rfl
    rw [same]

theorem books_unregister (books : Books state) (bus : Int32) (channel : Nat) (found : Bus)
    (at_ : state.buses.find bus = some found) :
    Books
      { state with buses := state.buses.put bus (found.remove channel), dropped := state.dropped ++ found.channelQueue channel } := by
  have formed := books.buses bus found at_
  obtain ⟨formedNew, queue, others, counted⟩ := remove_spec bus state.nextChannel found formed channel
  refine books_section state _ books bus found _ [] (found.channelQueue channel) state.moving state.entering state.moving state.entering
    rfl rfl rfl rfl at_ rfl (Nat.le_refl _) formedNew ?_ rfl rfl (List.append_nil _).symm rfl ?_ ?_ fun _ _ => ⟨rfl, rfl⟩
  · intro off
    have empty : found.contents = [] := books.direct bus found at_ off
    apply List.eq_nil_iff_forall_not_mem.mpr
    intro entry member
    have count := counted entry
    have some := List.count_pos_iff.mpr member
    rw [empty, List.count_nil] at count
    omega
  · intro entry
    have count := counted entry
    simp only [List.count_nil]
    omega
  · intro stream sameBus
    by_cases same : stream = .device bus channel
    · subst same
      rw [queue, List.append_nil, List.append_assoc]
      exact List.Sublist.append_left (List.sublist_append_right _ _) _
    · rw [others stream sameBus same]

theorem books_publish_bus (books : Books state) (bus : Int32) (absent : state.buses.find bus = none) :
    Books { state with buses := state.buses.put bus ⟨false, [], []⟩ } := by
  have empty : Bus.Empty ⟨false, [], []⟩ := rfl
  refine ⟨?_, ?_, ?_, books.numbered, ?_⟩
  · intro other found located
    rw [Table.find_put] at located
    split at located
    · cases located
      exact empty_bus_ok _ _ _ empty List.nodup_nil (by simp [Bus.ids])
    · exact books.buses other found located
  · intro other found located off
    rw [Table.find_put] at located
    split at located
    · cases located
      exact empty
    · exact books.direct other found located off
  · intro entry
    have before := books.placed entry
    have summed := Table.sum_put state.buses (fun _ bus => bus.contents.count entry) bus ⟨false, [], []⟩
    rw [Table.share_absent _ _ bus absent, show Bus.contents ⟨false, [], []⟩ = [] from rfl, List.count_nil, Nat.add_zero,
      Nat.add_zero] at summed
    simp only [State.places, State.queuedCount] at before ⊢
    rw [summed]
    exact before
  · intro stream
    have same : State.queueOf { state with buses := state.buses.put bus ⟨false, [], []⟩ } stream = state.queueOf stream := by
      rw [queue_put state bus ⟨false, [], []⟩ stream _ rfl]
      split
      · next sameBus =>
          rw [empty_queues _ empty]
          simp [State.queueOf, sameBus, absent]
      · rfl
    have before := books.ordered stream
    simp only [State.history] at before ⊢
    rw [same]
    exact before

end EncosDriver.Adapter
