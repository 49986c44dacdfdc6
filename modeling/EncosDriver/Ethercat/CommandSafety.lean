import EncosDriver.Ethercat.Commands
import EncosDriver.Ethercat.Decode

set_option autoImplicit false

namespace EncosDriver.Ethercat

open Lib Message

def commandsFor (encoded : Int32) (id : UInt32) (messages : MotorMessages) : List MotorPackMsg :=
  commandsOf id ((messages.filter fun message => message.busIdx = encoded).map fun message => message.data)

-- For every motor the decoded messages are the submitted ones, as `seen` on the
-- wire, in order; only control commands that were followed by another message of
-- the motor are missing. No other bus receives anything.
structure KeepsCommands (configs : List SlaveConfig) (slaveCount : Nat) (seen : MotorPackMsg → MotorPackMsg)
    (submitted decoded : MotorMessages) : Prop where
  coalesced : ∀ encoded id, (targetOf configs slaveCount encoded).isSome → Coalesces IsControl
    ((commandsFor encoded id submitted).map seen) (commandsFor encoded id decoded)
  inOrder : ∀ encoded id, (targetOf configs slaveCount encoded).isSome →
    (commandsFor encoded id decoded).Sublist ((commandsFor encoded id submitted).map seen)
  newest : ∀ encoded id, (targetOf configs slaveCount encoded).isSome →
    (commandsFor encoded id decoded).getLast? = ((commandsFor encoded id submitted).map seen).getLast?
  elsewhere : ∀ message ∈ decoded, (targetOf configs slaveCount message.busIdx).isSome

theorem keeps_commands_of (configs : List SlaveConfig) (slaveCount : Nat) (seen : MotorPackMsg → MotorPackMsg)
    (submitted decoded : MotorMessages)
    (coalesced : ∀ encoded id, (targetOf configs slaveCount encoded).isSome → Coalesces IsControl
      ((commandsFor encoded id submitted).map seen) (commandsFor encoded id decoded))
    (elsewhere : ∀ message ∈ decoded, (targetOf configs slaveCount message.busIdx).isSome) :
    KeepsCommands configs slaveCount seen submitted decoded where
  coalesced := coalesced
  inOrder := fun encoded id found => coalesces_sublist IsControl _ _ (coalesced encoded id found)
  newest := fun encoded id found => coalesces_last IsControl _ _ (coalesced encoded id found)
  elsewhere := elsewhere

theorem forward_content (slots : List Slot) (slave bus : Nat) (formed : ∀ slot ∈ slots, SlotOk slot) :
    (forwardMessages slots slave bus).map (fun message => message.data) = (occupied slots).map fun slot => slot.data := by
  simp only [forwardMessages, List.map_map]
  apply List.map_congr_left
  intro slot member
  obtain ⟨inside, long⟩ := (mem_occupied slots slot).mp member
  have content := (formed slot inside).content
  cases origins : slot.origins with
  | nil =>
    rw [origins] at content
    exact absurd (by rw [content]; rfl) long
  | cons newest rest =>
    rw [origins] at content
    simp [content, sent]

theorem commands_seen (encoded : Int32) (id : UInt32) (submissions : List Submission) :
    (commandsFor encoded id (submissions.map fun submission => submission.message)).map sent =
      commandsOf id ((ofBus encoded submissions).map fun submission => sent submission.message.data) := by
  simp only [commandsFor, commandsOf, ofBus, List.filter_map, List.map_map]
  rfl

section Decoded

variable (configs : List SlaveConfig) (slaveCount : Nat) (topology : Topology configs slaveCount)
include topology

def decodeQueue (configs : List SlaveConfig) (slaveCount : Nat) (queue : List QueuedFrame) : MotorMessages :=
  queue.flatMap fun queued => decodeFrame configs slaveCount queued.frame

variable (queue : List QueuedFrame)

theorem decode_queue_own (formed : QueueOk configs slaveCount queue) (encoded : Int32) (target : Target)
    (traits : PacketTraits) (found : targetOf configs slaveCount encoded = some target)
    (placed : Placed configs slaveCount target traits)
    (slots : ∀ segment ∈ laneOf traits target encoded queue, ∀ slot ∈ segment.slots, SlotOk slot) :
    ((decodeQueue configs slaveCount queue).filter fun message => message.busIdx = encoded).map (fun message => message.data) =
      contentOf (laneOf traits target encoded queue) := by
  induction queue with
  | nil => rfl
  | cons queued rest ih =>
    obtain ⟨frame, following⟩ := List.forall_mem_cons.mp formed
    obtain ⟨own, others⟩ := List.forall_mem_cons.mp slots
    have first := decode_own configs slaveCount topology queued.frame frame encoded target traits found placed
    have behind := ih following others
    simp only [decodeQueue, List.flatMap_cons, List.filter_append, List.map_append] at behind ⊢
    rw [first, behind, forward_content _ _ _ own]
    rfl

theorem decode_queue_elsewhere (formed : QueueOk configs slaveCount queue) :
    ∀ message ∈ decodeQueue configs slaveCount queue, (targetOf configs slaveCount message.busIdx).isSome := by
  intro message member
  obtain ⟨queued, inside, decoded⟩ := List.mem_flatMap.mp member
  cases found : targetOf configs slaveCount message.busIdx with
  | none => exact absurd rfl (decode_none configs slaveCount topology queued.frame (formed queued inside) message.busIdx found message decoded)
  | some target => rfl

theorem lanes_keep_commands (formed : QueueOk configs slaveCount queue) (submissions : List Submission)
    (long : ∀ submission ∈ submissions, submission.message.data.len ≠ 0)
    (lanes : ∀ encoded target traits, targetOf configs slaveCount encoded = some target → Placed configs slaveCount target traits →
      ∃ lane, LaneMoves traits.motorsPerBus emptyLane lane ∧ lane.discarded = [] ∧ lane.packed = ofBus encoded submissions ∧
        lane.handed ++ lane.waiting = laneOf traits target encoded queue) :
    KeepsCommands configs slaveCount sent (submissions.map fun submission => submission.message)
      (decodeQueue configs slaveCount queue) := by
  refine keeps_commands_of configs slaveCount sent _ _ ?_ (decode_queue_elsewhere configs slaveCount topology queue formed)
  intro encoded id found
  obtain ⟨target, found⟩ := Option.isSome_iff_exists.mp found
  obtain ⟨traits, placed, _⟩ := target_placed configs slaveCount topology encoded target found
  obtain ⟨lane, moves, untrimmed, packed, frames⟩ := lanes encoded target traits found placed
  have laneFormed := lane_ok traits.motorsPerBus placed.capacity lane moves
  have considered : Considered lane := by
    refine ⟨untrimmed, ?_⟩
    rw [packed]
    exact fun submission member => long submission (List.mem_of_mem_filter member)
  have kept := (lane_keeps traits.motorsPerBus placed.capacity lane moves considered).kept id
  have slots : ∀ segment ∈ laneOf traits target encoded queue, ∀ slot ∈ segment.slots, SlotOk slot := by
    intro segment member
    rw [← frames] at member
    refine laneFormed.slots segment ?_
    rcases List.mem_append.mp member with handed | waiting
    · exact .inl handed
    · exact .inr (.inr waiting)
  have decoded := decode_queue_own configs slaveCount topology queue formed encoded target traits found placed slots
  rw [commands_seen, commandsFor, decoded, ← frames, ← packed]
  exact kept

end Decoded

theorem packing_keeps_commands (configs : List SlaveConfig) (slaveCount : Nat) (topology : Topology configs slaveCount) :
    (∀ messages : MotorMessages, (∀ message ∈ messages, message.data.len ≠ 0) →
      KeepsCommands configs slaveCount sent messages
        ((packMessages configs slaveCount (({} : Handle).number messages none)).flatMap (decodeFrame configs slaveCount))) ∧
    (∀ handle, Reachable (system configs slaveCount) handle → handle.discarded = [] →
      (∀ submission ∈ handle.submitted, submission.message.data.len ≠ 0) →
      ∃ packed, handle.submitted = packed ++ messagesOf handle.pendingBatches ∧
        KeepsCommands configs slaveCount sent (packed.map fun submission => submission.message)
          (decodeQueue configs slaveCount (handle.handed ++ handle.sendFrames))) := by
  refine ⟨?_, ?_⟩
  · intro messages long
    have named : (({} : Handle).number messages none).map (fun submission => submission.message) = messages :=
    number_messages {} messages none
    have ordered : Ordered (({} : Handle).number messages none) := by
      apply numbered_ordered
      have origins := number_origins {} messages none
      simpa using origins
    have waiting := pack_messages_formed configs slaveCount topology ∅ [] (({} : Handle).number messages none) (by simp [QueueOk])
    have kept := lanes_keep_commands configs slaveCount topology _ waiting (({} : Handle).number messages none) ?_ ?_
    · rw [named] at kept
      simpa only [packMessages, decodeQueue, List.flatMap_map] using kept
    · intro submission member
      refine long submission.message ?_
      rw [← named]
      exact List.mem_map_of_mem member
    · intro encoded target traits found placed
      have moves := pack_messages_moves configs slaveCount topology encoded target traits found placed ∅
        (({} : Handle).number messages none) [] emptyLane (by simp [QueueOk]) rfl rfl
        (fun submission member => number_batch {} messages none submission (List.mem_of_mem_filter member))
        (by simpa [Ordered, emptyLane, ofBus] using List.Pairwise.filter _ ordered)
      exact ⟨_, moves, rfl, rfl, rfl⟩
  · intro handle reached untrimmed long
    obtain ⟨packed, shows'⟩ := handle_shows configs slaveCount topology handle reached
    refine ⟨packed, shows'.covered, ?_⟩
    refine lanes_keep_commands configs slaveCount topology (handle.handed ++ handle.sendFrames)
      (List.forall_mem_append.mpr ⟨shows'.handed, shows'.waiting⟩) packed ?_ ?_
    · intro submission member
      apply long
      rw [shows'.covered]
      exact List.mem_append_left _ member
    · intro encoded target traits found placed
      refine ⟨_, shows'.lanes encoded target traits found placed, by simp [laneView, untrimmed, laneOf], rfl, ?_⟩
      rw [lane_append]
      rfl

def commandMessages : MotorMessages := [shortMessage 1 1, shortMessage 1 2, shortMessage 2 1]

def commandRun : List Action := [.queueMessages commandMessages, .prepareNextFrame, .queueMessage (shortMessage 1 3), .flush]

theorem command_ran : (runActions (system twoBusSlave 1) {} commandRun).isSome = true := by decide +kernel

def commandHandle : Handle := (runActions (system twoBusSlave 1) {} commandRun).get command_ran

theorem command_reached : Reachable (system twoBusSlave 1) commandHandle :=
  run_actions_reachable (system twoBusSlave 1) commandRun _ _ (.start _ rfl) (Option.some_get command_ran).symm

theorem packing_keeps_commands_two_bus :
    KeepsCommands twoBusSlave 1 sent commandMessages
        ((packMessages twoBusSlave 1 (({} : Handle).number commandMessages none)).flatMap (decodeFrame twoBusSlave 1)) ∧
      ∃ packed, commandHandle.submitted = packed ++ messagesOf commandHandle.pendingBatches ∧
        KeepsCommands twoBusSlave 1 sent (packed.map fun submission => submission.message)
          (decodeQueue twoBusSlave 1 (commandHandle.handed ++ commandHandle.sendFrames)) := by
  have untrimmed : commandHandle.discarded.length = 0 := by decide +kernel
  have long : ∀ submission ∈ commandHandle.submitted, submission.message.data.len ≠ 0 := by decide +kernel
  exact ⟨(packing_keeps_commands twoBusSlave 1 two_bus_topology).1 commandMessages (by decide),
    (packing_keeps_commands twoBusSlave 1 two_bus_topology).2 commandHandle command_reached (List.length_eq_zero_iff.mp untrimmed) long⟩

def oddFlags : MotorMessages := [⟨0, ⟨1, 0x10, 1, payload []⟩⟩]

/-- Only the four defined frame flags travel: a message with another flag set is not decoded as it was submitted. -/
theorem undefined_flag_dropped : ∃ configs slaveCount messages, Topology configs slaveCount ∧
    (∀ message ∈ messages, message.data.len ≠ 0) ∧
    ¬ KeepsCommands configs slaveCount id messages
      ((packMessages configs slaveCount (({} : Handle).number messages none)).flatMap (decodeFrame configs slaveCount)) := by
  refine ⟨twoBusSlave, 1, oddFlags, two_bus_topology, by decide, ?_⟩
  intro kept
  have newest := kept.newest 0 1 (by decide)
  revert newest
  decide +kernel

end EncosDriver.Ethercat
