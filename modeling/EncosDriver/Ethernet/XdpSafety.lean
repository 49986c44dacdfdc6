import EncosDriver.Ethernet.Xdp
import EncosDriver.Ethernet.PacketRoundTrip

set_option autoImplicit false

namespace EncosDriver.Ethernet

open Lib Message

namespace Xdp

theorem frame_of_inside (frame offset : Nat) (bounded : frame < kFrameCount) (inside : offset < kFrameSize) :
    frameOf (frame * kFrameSize + offset) = frame * kFrameSize := by
  unfold kFrameCount at bounded
  unfold kFrameSize at inside ⊢
  apply Nat.eq_of_testBit_eq
  intro bit
  have mask : 2 ^ 64 - 2048 = (2 ^ 53 - 1) * 2 ^ 11 := by decide
  have low : (frame * 2048 + offset) / 2 ^ 11 = frame := by omega
  have whole : frame * 2048 = frame * 2 ^ 11 := by omega
  rw [frameOf, kFrameSize, mask, Nat.testBit_and, Nat.testBit_mul_two_pow, whole, Nat.testBit_mul_two_pow,
    Nat.testBit_two_pow_sub_one]
  by_cases high : 11 ≤ bit
  · have moved : (frame * 2 ^ 11 + offset).testBit bit = frame.testBit (bit - 11) := by
      rw [← whole, ← low, Nat.testBit_div_two_pow, Nat.sub_add_cancel high, low]
    rw [moved, decide_eq_true high, Bool.true_and, Bool.true_and]
    by_cases far : bit - 11 < 53
    · rw [decide_eq_true far, Bool.and_true]
    · have small : frame < 2 ^ (bit - 11) :=
        Nat.lt_of_lt_of_le (by omega : frame < 2 ^ 53) (Nat.pow_le_pow_right (by omega) (by omega))
      rw [Nat.testBit_lt_two_pow small, Bool.false_and]
  · rw [decide_eq_false high, Bool.false_and, Bool.false_and, Bool.and_false]

theorem mem_frames (first count address : Nat) :
    address ∈ frames first count ↔ ∃ frame, first ≤ frame ∧ frame < first + count ∧ address = frame * kFrameSize := by
  simp only [frames, List.mem_map, List.mem_range]
  constructor
  · rintro ⟨index, inside, rfl⟩
    exact ⟨first + index, Nat.le_add_right first index, by omega, rfl⟩
  · rintro ⟨frame, above, below, rfl⟩
    exact ⟨frame - first, by omega, by rw [Nat.add_sub_cancel' above]⟩

theorem frames_nodup (first count : Nat) : (frames first count).Nodup := by
  refine List.nodup_range.map ?_
  intro one two same
  have scaled : (first + one) * 2048 = (first + two) * 2048 := same
  omega

theorem encode_fits (peers : Peers) (slave : Nat) (messages : MotorMessages) (bytes : List UInt8)
    (encoded : encode peers slave messages = some bytes) : bytes.length ≤ kFrameSize := by
  unfold encode at encoded
  cases known : peers.routes.find slave with
  | none => simp only [known, reduceCtorEq] at encoded
  | some route =>
    simp only [known, Option.bind_eq_some_iff] at encoded
    obtain ⟨payload, -, packet⟩ := encoded
    unfold encodePacket at packet
    split at packet
    · cases packet
    · next short =>
        cases packet
        simp only [List.length_append, ethernet_header_length, ip_header_length, udp_segment_length]
        unfold kMaxPayloadBytes at short
        unfold kFrameSize
        omega

def Delivered (descriptor : Descriptor) : Prop :=
  ∃ frame offset, frame < kRxSize ∧ offset < kFrameSize ∧ descriptor.addr = frame * kFrameSize + offset ∧
    offset + descriptor.len ≤ kFrameSize

def Configured (peers : Peers) : Prop :=
  ∀ source slave, peers.sources.find source = some slave → (peers.routes.find slave).isSome = true

theorem decode_from_known (peers : Peers) (data : List UInt8) (configured : Configured peers) :
    ∃ messages, decodeFrom peers data = some messages := by
  unfold decodeFrom
  simp only
  split
  · exact ⟨[], rfl⟩
  · next slave found =>
      have known := configured _ slave found
      split
      · next absent =>
          rw [absent] at known
          cases known
      · split
        · exact ⟨[], rfl⟩
        · split
          · exact ⟨_, rfl⟩
          · exact ⟨_, rfl⟩

theorem receive_all_delivered (peers : Peers) (memory : Nat → UInt8) (descriptors : List Descriptor)
    (result : MotorMessages) (pending : List Nat) (configured : Configured peers)
    (delivered : ∀ descriptor ∈ descriptors, Delivered descriptor) :
    ∃ messages, receiveAll peers memory descriptors result pending =
      (some messages, pending ++ descriptors.map fun descriptor => frameOf descriptor.addr) := by
  induction descriptors generalizing result pending with
  | nil => exact ⟨result, by simp only [receiveAll, List.map_nil, List.append_nil]⟩
  | cons descriptor rest ih =>
    obtain ⟨frame, offset, bounded, inside, placed, fits⟩ := delivered descriptor List.mem_cons_self
    have valid : ¬ descriptor.addr + descriptor.len > kUmemSize := by
      rw [placed]
      unfold kUmemSize kRxSize kFrameCount kFrameSize at *
      omega
    obtain ⟨messages, decoded⟩ := decode_from_known peers (bytesAt memory descriptor.addr descriptor.len) configured
    obtain ⟨all, received⟩ := ih (result ++ messages) (pending ++ [frameOf descriptor.addr])
      (fun other inside => delivered other (List.mem_cons_of_mem descriptor inside))
    refine ⟨all, ?_⟩
    simp only [receiveAll, valid, ↓reduceIte, decoded, received, List.map_cons, List.append_assoc, List.singleton_append]

variable (items : List Nat)

theorem take_drop_count (count item : Nat) :
    (items.take count).count item + (items.drop count).count item = items.count item := by
  rw [← List.count_append, List.take_append_drop]

theorem erase_idx_count (index item taken : Nat) (found : items[index]? = some taken) :
    (items.eraseIdx index).count item + (if taken = item then 1 else 0) = items.count item := by
  induction items generalizing index with
  | nil => cases found
  | cons first rest ih =>
    cases index with
    | zero =>
      cases found
      simp only [List.eraseIdx_cons_zero, List.count_cons, beq_iff_eq]
    | succ index =>
      have fewer := ih index found
      simp only [List.eraseIdx_cons_succ, List.count_cons]
      omega

theorem drop_last_count (item last : Nat) (found : items.getLast? = some last) :
    items.dropLast.count item + (if last = item then 1 else 0) = items.count item := by
  have joined := List.dropLast_append_getLast? last found
  rw [← joined, List.dropLast_concat, List.count_append, List.count_singleton]
  simp only [beq_iff_eq]

structure Conserved (transport : Transport) : Prop where
  receives : ∀ address, (owns transport .receiveSide).count address + (owns transport .pendingRefill).count address =
    (frames 0 kRxSize).count address
  transmits : ∀ address, (owns transport .freeList).count address + (owns transport .sending).count address +
    (owns transport .inFlight).count address = (frames kRxSize (kFrameCount - kRxSize)).count address

structure Inv (transport : Transport) : Prop extends Conserved transport where
  configured : Configured transport.peers
  delivered : ∀ descriptor ∈ transport.rx, Delivered descriptor
  fits : ∀ address bytes, transport.pc = .writing address bytes → bytes.length ≤ kFrameSize

theorem mapped_inv (transport : Transport) (initial : system.init transport) : Inv transport := by
  obtain ⟨peers, memory, rfl, configured⟩ := initial
  refine ⟨⟨?_, ?_⟩, configured, nofun, nofun⟩
  · intro address
    simp only [owns, mapped, List.append_nil, List.map_nil, List.count_nil, Nat.add_zero]
  · intro address
    simp only [owns, mapped, heldBySend, List.append_nil, List.map_nil, List.count_nil, Nat.add_zero]

theorem conserved_same (before after : Transport) (conserved : Conserved before)
    (same : ∀ owner, owns after owner = owns before owner) : Conserved after := by
  refine ⟨?_, ?_⟩
  · intro address
    rw [same, same]
    exact conserved.receives address
  · intro address
    rw [same, same, same]
    exact conserved.transmits address

theorem inv_goto (transport : Transport) (pc : Pc) (inv : Inv transport)
    (same : heldBySend pc = heldBySend transport.pc) (plain : ∀ address bytes, pc ≠ .writing address bytes) :
    Inv { transport with pc := pc } := by
  refine ⟨conserved_same transport _ inv.toConserved ?_, inv.configured, inv.delivered, ?_⟩
  · intro owner
    cases owner with
    | sending => exact same
    | _ => rfl
  · exact fun address bytes writing => absurd writing (plain address bytes)

variable (transport next : Transport) (action : Action)

theorem call_inv (inv : Inv transport) (taken : stepCall transport action = some next) : Inv next := by
  cases action with
  | begin call =>
    simp only [stepCall] at taken
    split at taken
    · next rests =>
        cases taken
        refine ⟨conserved_same transport _ inv.toConserved ?_, inv.configured, inv.delivered, nofun⟩
        intro owner
        cases owner with
        | sending =>
          cases here : transport.pc with
          | idle | returned _ | answered _ => simp only [owns, heldBySend, here]
          | _ =>
            rw [here] at rests
            cases rests
        | _ => rfl
    · cases taken
  | reap count =>
    cases here : transport.pc with
    | reaping call =>
      simp only [stepCall, here] at taken
      split at taken
      · cases taken
        refine ⟨⟨inv.receives, ?_⟩, inv.configured, inv.delivered, nofun⟩
        intro address
        have balance := inv.transmits address
        have split := take_drop_count transport.completion count address
        simp only [owns, here, heldBySend, List.count_append, List.count_nil] at balance ⊢
        omega
      · cases taken
    | _ => simp only [stepCall, here, reduceCtorEq] at taken
  | release =>
    cases here : transport.pc with
    | releasing call count =>
      simp only [stepCall, here] at taken
      cases taken
      refine ⟨conserved_same transport _ inv.toConserved ?_, inv.configured, inv.delivered, ?_⟩
      · intro owner
        cases owner with
        | sending =>
          simp only [owns, here, heldBySend]
          cases call <;> rfl
        | _ => rfl
      · cases call <;> nofun
    | _ => simp only [stepCall, here, reduceCtorEq] at taken
  | _ => cases taken

theorem send_inv (inv : Inv transport) (taken : stepSend transport action = some next) : Inv next := by
  cases action with
  | reserve room =>
    cases here : transport.pc with
    | reserving slave messages =>
      have quiet := fun pc (empty : heldBySend pc = []) => inv_goto transport pc inv (by rw [here, empty]; rfl)
      simp only [stepSend, here] at taken
      split at taken
      · cases taken
        exact quiet .idle rfl nofun
      · next bytes encoded =>
          split at taken
          · cases taken
            exact quiet (.kicking false) rfl nofun
          · next address last =>
              split at taken
              · cases taken
                exact quiet (.kicking false) rfl nofun
              · split at taken
                · cases taken
                  refine ⟨⟨inv.receives, ?_⟩, inv.configured, inv.delivered, ?_⟩
                  · intro other
                    have balance := inv.transmits other
                    have fewer := drop_last_count transport.freeTx other address last
                    simp only [owns, here, heldBySend, List.count_singleton, List.count_nil, beq_iff_eq] at balance ⊢
                    omega
                  · intro other written writing
                    cases writing
                    exact encode_fits transport.peers slave messages bytes encoded
                · cases taken
    | _ => simp only [stepSend, here, reduceCtorEq] at taken
  | write =>
    cases here : transport.pc with
    | writing address bytes =>
      simp only [stepSend, here] at taken
      cases taken
      refine ⟨conserved_same transport _ inv.toConserved ?_, inv.configured, inv.delivered, nofun⟩
      intro owner
      cases owner with
      | sending => simp only [owns, here, heldBySend]
      | _ => rfl
    | _ => simp only [stepSend, here, reduceCtorEq] at taken
  | submit =>
    cases here : transport.pc with
    | submitting descriptor =>
      simp only [stepSend, here] at taken
      cases taken
      refine ⟨⟨inv.receives, ?_⟩, inv.configured, inv.delivered, nofun⟩
      intro address
      have balance := inv.transmits address
      simp only [owns, here, heldBySend, List.map_append, List.map_cons, List.map_nil, List.count_append,
        List.count_singleton, List.count_nil] at balance ⊢
      omega
    | _ => simp only [stepSend, here, reduceCtorEq] at taken
  | kick fails =>
    cases here : transport.pc with
    | kicking sent =>
      simp only [stepSend, here] at taken
      cases taken
      cases fails with
      | true => exact inv_goto transport .idle inv (by rw [here]; rfl) nofun
      | false => exact inv_goto transport (.returned sent) inv (by rw [here]; rfl) nofun
    | waking =>
      simp only [stepSend, here] at taken
      cases taken
      cases fails with
      | true => exact inv_goto transport .idle inv (by rw [here]; rfl) nofun
      | false => exact inv_goto transport .peeking inv (by rw [here]; rfl) nofun
    | _ => simp only [stepSend, here, reduceCtorEq] at taken
  | _ => cases taken

theorem receive_inv (inv : Inv transport) (taken : stepReceive transport action = some next) : Inv next := by
  cases action with
  | peek count =>
    cases here : transport.pc with
    | peeking =>
      simp only [stepReceive, here] at taken
      split at taken
      · have delivered : ∀ descriptor ∈ transport.rx.take count, Delivered descriptor :=
          fun descriptor inside => inv.delivered descriptor (List.mem_of_mem_take inside)
        obtain ⟨messages, received⟩ := receive_all_delivered transport.peers transport.memory (transport.rx.take count) []
          transport.pendingFill inv.configured delivered
        simp only [received] at taken
        cases taken
        refine ⟨⟨?_, ?_⟩, inv.configured, ?_, nofun⟩
        · intro address
          have balance := inv.receives address
          have split := take_drop_count (transport.rx.map fun descriptor => frameOf descriptor.addr) count address
          simp only [owns, List.count_append, List.map_take, List.map_drop] at balance split ⊢
          omega
        · intro address
          have balance := inv.transmits address
          simp only [owns, here, heldBySend] at balance ⊢
          exact balance
        · exact fun descriptor inside => inv.delivered descriptor (List.mem_of_mem_drop inside)
      · cases taken
    | _ => simp only [stepReceive, here, reduceCtorEq] at taken
  | drain =>
    cases here : transport.pc with
    | draining messages count =>
      simp only [stepReceive, here] at taken
      cases taken
      refine ⟨conserved_same transport _ inv.toConserved ?_, inv.configured, inv.delivered, nofun⟩
      intro owner
      cases owner with
      | sending => simp only [owns, here, heldBySend]
      | _ => rfl
    | _ => simp only [stepReceive, here, reduceCtorEq] at taken
  | refill room =>
    cases here : transport.pc with
    | refilling messages =>
      simp only [stepReceive, here] at taken
      split at taken
      · cases taken
        exact inv_goto transport (.answered messages) inv (by rw [here]; rfl) nofun
      · next address last =>
          split at taken
          · cases taken
            exact inv_goto transport (.answered messages) inv (by rw [here]; rfl) nofun
          · split at taken
            · cases taken
              refine ⟨⟨?_, ?_⟩, inv.configured, inv.delivered, nofun⟩
              · intro other
                have balance := inv.receives other
                have fewer := drop_last_count transport.pendingFill other address last
                simp only [owns, List.count_append, List.count_singleton, beq_iff_eq] at balance ⊢
                omega
              · intro other
                have balance := inv.transmits other
                simp only [owns, here, heldBySend] at balance ⊢
                exact balance
            · cases taken
    | _ => simp only [stepReceive, here, reduceCtorEq] at taken
  | _ => cases taken

theorem kernel_rx_frame (index address : Nat) (inv : Inv transport)
    (found : transport.kernelRx[index]? = some address) : ∃ frame < kRxSize, address = frame * kFrameSize := by
  have listed : 0 < transport.kernelRx.count address := List.count_pos_iff.mpr (List.mem_of_getElem? found)
  have balance := inv.receives address
  simp only [owns, List.count_append] at balance
  have member : address ∈ frames 0 kRxSize := List.count_pos_iff.mp (by omega)
  obtain ⟨frame, -, below, place⟩ := (mem_frames 0 kRxSize address).mp member
  exact ⟨frame, by omega, place⟩

theorem kernel_inv (inv : Inv transport) (taken : stepKernel transport action = some next) : Inv next := by
  cases action with
  | takeFill =>
    simp only [stepKernel] at taken
    split at taken
    · cases taken
    · next address rest filled =>
        cases taken
        refine ⟨⟨?_, inv.transmits⟩, inv.configured, inv.delivered, inv.fits⟩
        intro other
        have balance := inv.receives other
        simp only [owns, filled, List.count_append, List.count_cons, List.count_nil] at balance ⊢
        omega
  | deliver index offset bytes =>
    simp only [stepKernel] at taken
    split at taken
    · cases taken
    · next address found =>
        split at taken
        · next fits =>
            cases taken
            obtain ⟨frame, bounded, place⟩ := kernel_rx_frame transport index address inv found
            refine ⟨⟨?_, inv.transmits⟩, inv.configured, ?_, inv.fits⟩
            · intro other
              have balance := inv.receives other
              have fewer := erase_idx_count transport.kernelRx index other address found
              have same : frameOf (address + offset) = address := by
                have wide : kRxSize < kFrameCount := by decide
                rw [place, frame_of_inside frame offset (by omega) fits.1]
              simp only [owns, List.count_append, List.map_append, List.map_cons, List.map_nil, same,
                List.count_singleton, beq_iff_eq] at balance ⊢
              omega
            · intro descriptor inside
              rcases List.mem_append.mp inside with old | new
              · exact inv.delivered descriptor old
              · rw [List.mem_singleton.mp new]
                exact ⟨frame, offset, bounded, fits.1, by rw [place], fits.2.1⟩
        · cases taken
  | takeTx =>
    simp only [stepKernel] at taken
    split at taken
    · cases taken
    · next descriptor rest queued =>
        cases taken
        refine ⟨⟨inv.receives, ?_⟩, inv.configured, inv.delivered, inv.fits⟩
        intro other
        have balance := inv.transmits other
        simp only [owns, queued, List.map_cons, List.count_append, List.count_cons, List.count_nil] at balance ⊢
        omega
  | complete index =>
    simp only [stepKernel] at taken
    split at taken
    · cases taken
    · next address found =>
        split at taken
        · cases taken
          refine ⟨⟨inv.receives, ?_⟩, inv.configured, inv.delivered, inv.fits⟩
          intro other
          have balance := inv.transmits other
          have fewer := erase_idx_count transport.kernelTx index other address found
          simp only [owns, List.count_append, List.count_singleton, beq_iff_eq] at balance ⊢
          omega
        · cases taken
  | _ => cases taken

theorem step_inv (inv : Inv transport) (taken : step transport action = some next) : Inv next := by
  cases action with
  | begin call => exact call_inv transport next (.begin call) inv taken
  | reap count => exact call_inv transport next (.reap count) inv taken
  | release => exact call_inv transport next .release inv taken
  | reserve room => exact send_inv transport next (.reserve room) inv taken
  | write => exact send_inv transport next .write inv taken
  | submit => exact send_inv transport next .submit inv taken
  | kick fails => exact send_inv transport next (.kick fails) inv taken
  | peek count => exact receive_inv transport next (.peek count) inv taken
  | drain => exact receive_inv transport next .drain inv taken
  | refill room => exact receive_inv transport next (.refill room) inv taken
  | takeFill => exact kernel_inv transport next .takeFill inv taken
  | deliver index offset bytes => exact kernel_inv transport next (.deliver index offset bytes) inv taken
  | takeTx => exact kernel_inv transport next .takeTx inv taken
  | complete index => exact kernel_inv transport next (.complete index) inv taken

theorem reachable_inv (reached : Reachable system transport) : Inv transport :=
  reachable_invariant system Always Inv mapped_inv (fun state action next inv _ => step_inv state next action inv)
    transport reached

theorem frames_count (address : Nat) :
    (frames 0 kRxSize).count address + (frames kRxSize (kFrameCount - kRxSize)).count address ≤ 1 := by
  have first := List.nodup_iff_count_le_one.mp (frames_nodup 0 kRxSize) address
  have second := List.nodup_iff_count_le_one.mp (frames_nodup kRxSize (kFrameCount - kRxSize)) address
  by_cases low : address ∈ frames 0 kRxSize
  · have high : address ∉ frames kRxSize (kFrameCount - kRxSize) := by
      intro both
      obtain ⟨one, -, below, place⟩ := (mem_frames 0 kRxSize address).mp low
      obtain ⟨two, above, -, other⟩ := (mem_frames kRxSize (kFrameCount - kRxSize) address).mp both
      have same : one * 2048 = two * 2048 := place.symm.trans other
      omega
    rw [List.count_eq_zero.mpr high, Nat.add_zero]
    exact first
  · rw [List.count_eq_zero.mpr low, Nat.zero_add]
    exact second

theorem owned_side (inv : Inv transport) (owner : Owner) (address : Nat) (member : address ∈ owns transport owner) :
    if owner.receives then address ∈ frames 0 kRxSize else address ∈ frames kRxSize (kFrameCount - kRxSize) := by
  have listed : 0 < (owns transport owner).count address := List.count_pos_iff.mpr member
  have received := inv.receives address
  have transmitted := inv.transmits address
  cases owner with
  | receiveSide | pendingRefill => exact List.count_pos_iff.mp (by omega)
  | freeList | sending | inFlight => exact List.count_pos_iff.mp (by omega)

theorem owned_frame (inv : Inv transport) (owner : Owner) (address : Nat) (member : address ∈ owns transport owner) :
    ∃ frame < kFrameCount, address = frame * kFrameSize ∧ (owner.receives = true ↔ frame < kRxSize) := by
  have side := owned_side transport inv owner address member
  have wide : kRxSize < kFrameCount := by decide
  split at side
  · next receives =>
      obtain ⟨frame, -, below, place⟩ := (mem_frames 0 kRxSize address).mp side
      exact ⟨frame, by omega, place, iff_of_true receives (by omega)⟩
  · next transmits =>
      obtain ⟨frame, above, below, place⟩ := (mem_frames kRxSize (kFrameCount - kRxSize) address).mp side
      exact ⟨frame, by omega, place, iff_of_false transmits (by omega)⟩

theorem owned_once (inv : Inv transport) (owner : Owner) (address : Nat) (member : address ∈ owns transport owner) :
    (owns transport owner).count address = 1 ∧ ∀ other, other ≠ owner → (owns transport other).count address = 0 := by
  have listed : 0 < (owns transport owner).count address := List.count_pos_iff.mpr member
  have received := inv.receives address
  have transmitted := inv.transmits address
  have bound := frames_count address
  constructor
  · cases owner <;> omega
  · intro other different
    cases owner <;> cases other <;> first | exact absurd rfl different | omega

theorem frame_owned (inv : Inv transport) (frame : Nat) (bounded : frame < kFrameCount) :
    ∃ owner, frame * kFrameSize ∈ owns transport owner := by
  have received := inv.receives (frame * kFrameSize)
  have transmitted := inv.transmits (frame * kFrameSize)
  have wide : kRxSize < kFrameCount := by decide
  by_cases low : frame < kRxSize
  · have listed : 0 < (frames 0 kRxSize).count (frame * kFrameSize) :=
      List.count_pos_iff.mpr ((mem_frames 0 kRxSize _).mpr ⟨frame, Nat.zero_le frame, by omega, rfl⟩)
    by_cases pending : frame * kFrameSize ∈ owns transport .pendingRefill
    · exact ⟨.pendingRefill, pending⟩
    · rw [List.count_eq_zero.mpr pending] at received
      exact ⟨.receiveSide, List.count_pos_iff.mp (by omega)⟩
  · have listed : 0 < (frames kRxSize (kFrameCount - kRxSize)).count (frame * kFrameSize) :=
      List.count_pos_iff.mpr ((mem_frames kRxSize _ _).mpr ⟨frame, by omega, by omega, rfl⟩)
    by_cases free : frame * kFrameSize ∈ owns transport .freeList
    · exact ⟨.freeList, free⟩
    · by_cases held : frame * kFrameSize ∈ owns transport .sending
      · exact ⟨.sending, held⟩
      · rw [List.count_eq_zero.mpr free, List.count_eq_zero.mpr held] at transmitted
        exact ⟨.inFlight, List.count_pos_iff.mp (by omega)⟩

theorem write_elsewhere (memory : Nat → UInt8) (bytes : List UInt8) (frame other offset : Nat)
    (fits : bytes.length ≤ kFrameSize) (inside : offset < kFrameSize) (different : other ≠ frame) :
    writeAt memory (frame * kFrameSize) bytes (other * kFrameSize + offset) = memory (other * kFrameSize + offset) := by
  unfold kFrameSize at *
  unfold writeAt
  split
  · rw [List.getElem?_eq_none (by omega), Option.getD_none]
  · rfl

theorem step_memory (inv : Inv transport)
    (own : ∀ index offset bytes, action ≠ .deliver index offset bytes) (taken : step transport action = some next)
    (owner : Owner) (notHeld : owner ≠ .sending) (address : Nat) (member : address ∈ owns transport owner) (offset : Nat)
    (inside : offset < kFrameSize) : next.memory (address + offset) = transport.memory (address + offset) := by
  obtain ⟨frame, -, place, -⟩ := owned_frame transport inv owner address member
  cases action with
  | deliver index offset bytes => exact absurd rfl (own index offset bytes)
  | write =>
    cases here : transport.pc with
    | writing target bytes =>
      simp only [step, stepSend, here] at taken
      cases taken
      have held : target ∈ owns transport .sending := by
        simp only [owns, here, heldBySend, List.mem_singleton]
      obtain ⟨targetFrame, -, targetPlace, -⟩ := owned_frame transport inv .sending target held
      have different : frame ≠ targetFrame := by
        intro same
        rw [← same, ← place] at targetPlace
        have alone := (owned_once transport inv owner address member).2 .sending notHeld.symm
        rw [← targetPlace] at alone
        exact List.count_eq_zero.mp alone held
      simp only [targetPlace, place]
      exact write_elsewhere transport.memory bytes targetFrame frame offset (inv.fits target bytes here) inside different
    | _ => simp only [step, stepSend, here, reduceCtorEq] at taken
  | begin call | release =>
    simp only [step, stepCall] at taken
    split at taken <;> cases taken
    rfl
  | reap count =>
    simp only [step, stepCall] at taken
    split at taken
    · split at taken <;> cases taken
      rfl
    · cases taken
  | reserve room =>
    simp only [step, stepSend] at taken
    split at taken
    · split at taken
      · cases taken
        rfl
      · split at taken
        · cases taken
          rfl
        · split at taken
          · cases taken
            rfl
          · split at taken <;> cases taken
            rfl
    · cases taken
  | submit =>
    simp only [step, stepSend] at taken
    split at taken <;> cases taken
    rfl
  | kick fails =>
    simp only [step, stepSend] at taken
    split at taken <;> cases taken <;> rfl
  | peek count =>
    simp only [step, stepReceive] at taken
    split at taken
    · split at taken <;> cases taken
      rfl
    · cases taken
  | drain =>
    simp only [step, stepReceive] at taken
    split at taken <;> cases taken
    rfl
  | refill room =>
    simp only [step, stepReceive] at taken
    split at taken
    · split at taken
      · cases taken
        rfl
      · split at taken
        · cases taken
          rfl
        · split at taken <;> cases taken
          rfl
    · cases taken
  | takeFill | takeTx =>
    simp only [step, stepKernel] at taken
    split at taken <;> cases taken
    rfl
  | complete index =>
    simp only [step, stepKernel] at taken
    split at taken
    · cases taken
    · split at taken <;> cases taken
      rfl

def inSend : Pc → Bool
  | .reaping (.send _ _) | .releasing (.send _ _) _ | .reserving _ _ | .writing _ _ | .submitting _ | .kicking _ => true
  | _ => false

def OnlyCollected (first : Transport) (transport : Transport) : Prop :=
  (∃ collected, transport.freeTx = first.freeTx ++ collected) ∧ transport.pendingFill = first.pendingFill

def Refusing (first : Transport) (transport : Transport) : Prop :=
  match transport.pc with
  | .reaping (.send _ _) | .releasing (.send _ _) _ | .reserving _ _ | .kicking false | .returned false =>
    OnlyCollected first transport
  | _ => True

theorem refusing_kept (first before after : Transport) (refusing : Refusing first before) (pc : after.pc = before.pc)
    (free : after.freeTx = before.freeTx) (pending : after.pendingFill = before.pendingFill) : Refusing first after := by
  unfold Refusing OnlyCollected at *
  rw [pc, free, pending]
  exact refusing

theorem kernel_frame (taken : stepKernel transport action = some next) :
    next.pc = transport.pc ∧ next.freeTx = transport.freeTx ∧ next.pendingFill = transport.pendingFill := by
  cases action with
  | takeFill | takeTx =>
    simp only [stepKernel] at taken
    split at taken <;> cases taken
    exact ⟨rfl, rfl, rfl⟩
  | deliver index offset bytes | complete index =>
    simp only [stepKernel] at taken
    split at taken
    · cases taken
    · split at taken <;> cases taken
      exact ⟨rfl, rfl, rfl⟩
  | _ => cases taken

theorem step_refusing (first transport next : Transport) (action : Action) (refusing : Refusing first transport)
    (inside : inSend transport.pc = true) (taken : step transport action = some next) : Refusing first next := by
  cases action with
  | takeFill | deliver _ _ _ | takeTx | complete _ =>
    simp only [step] at taken
    obtain ⟨pc, free, pending⟩ := kernel_frame transport next _ taken
    exact refusing_kept first transport next refusing pc free pending
  | begin call =>
    simp only [step, stepCall] at taken
    cases here : transport.pc with
    | idle | returned _ | answered _ =>
      rw [here] at inside
      cases inside
    | _ => simp only [here, resting, Bool.false_eq_true, ↓reduceIte, reduceCtorEq] at taken
  | reap count =>
    simp only [step, stepCall] at taken
    cases here : transport.pc with
    | reaping call =>
      simp only [here] at taken
      split at taken
      · cases taken
        cases call with
        | receive => trivial
        | send slave messages =>
          simp only [Refusing, here] at refusing
          obtain ⟨⟨collected, appended⟩, pending⟩ := refusing
          exact ⟨⟨_, by rw [appended, List.append_assoc]⟩, pending⟩
      · cases taken
    | _ => simp only [here, reduceCtorEq] at taken
  | release =>
    simp only [step, stepCall] at taken
    cases here : transport.pc with
    | releasing call count =>
      simp only [here] at taken
      cases taken
      cases call with
      | receive => trivial
      | send slave messages =>
        simp only [Refusing, here] at refusing
        exact refusing
    | _ => simp only [here, reduceCtorEq] at taken
  | reserve room =>
    simp only [step, stepSend] at taken
    cases here : transport.pc with
    | reserving slave messages =>
      simp only [Refusing, here] at refusing
      simp only [here] at taken
      split at taken
      · cases taken
        trivial
      · split at taken
        · cases taken
          exact refusing
        · split at taken
          · cases taken
            exact refusing
          · split at taken <;> cases taken
            trivial
    | _ => simp only [here, reduceCtorEq] at taken
  | write | submit =>
    simp only [step, stepSend] at taken
    split at taken <;> cases taken
    trivial
  | kick fails =>
    simp only [step, stepSend] at taken
    cases here : transport.pc with
    | kicking sent =>
      simp only [Refusing, here] at refusing
      simp only [here] at taken
      cases taken
      cases fails with
      | true => trivial
      | false =>
        cases sent with
        | true => trivial
        | false => exact refusing
    | waking =>
      rw [here] at inside
      cases inside
    | _ => simp only [here, reduceCtorEq] at taken
  | peek count =>
    simp only [step, stepReceive] at taken
    cases here : transport.pc with
    | peeking =>
      rw [here] at inside
      cases inside
    | _ => simp only [here, reduceCtorEq] at taken
  | drain =>
    simp only [step, stepReceive] at taken
    cases here : transport.pc with
    | draining messages count =>
      rw [here] at inside
      cases inside
    | _ => simp only [here, reduceCtorEq] at taken
  | refill room =>
    simp only [step, stepReceive] at taken
    cases here : transport.pc with
    | refilling messages =>
      rw [here] at inside
      cases inside
    | _ => simp only [here, reduceCtorEq] at taken

theorem run_refusing (first last : Transport) (slave : Nat) (messages : MotorMessages)
    (starts : first.pc = .reaping (.send slave messages))
    (ran : RunsWhile system (fun transport => inSend transport.pc = true) first last) : Refusing first last := by
  induction ran with
  | here =>
    unfold Refusing
    rw [starts]
    exact ⟨⟨[], (List.append_nil _).symm⟩, rfl⟩
  | next state next action previous inside taken ih => exact step_refusing first state next action ih inside taken

/-- Every frame has one owner and stays on its side; the transport writes only what Send holds, which the kernel may not
read; and a refused Send has only moved completed frames to the free list. -/
theorem frame_conservation :
    (∀ transport, Reachable system transport →
      (∀ frame < kFrameCount, ∃ owner, (owns transport owner).count (frame * kFrameSize) = 1 ∧
        ∀ other, other ≠ owner → (owns transport other).count (frame * kFrameSize) = 0) ∧
      (∀ owner address, address ∈ owns transport owner →
        ∃ frame < kFrameCount, address = frame * kFrameSize ∧ (owner.receives = true ↔ frame < kRxSize)) ∧
      transport.freeTx.Nodup) ∧
    (∀ transport next action, Reachable system transport →
      (∀ index offset bytes, action ≠ Action.deliver index offset bytes) → step transport action = some next →
      ∀ owner, owner ≠ .sending → ∀ address ∈ owns transport owner, ∀ offset < kFrameSize,
        next.memory (address + offset) = transport.memory (address + offset)) ∧
    (∀ first last slave messages, Reachable system first → first.pc = .reaping (.send slave messages) →
      RunsWhile system (fun transport => inSend transport.pc = true) first last → last.pc = .returned false →
      ∃ collected, last.freeTx = first.freeTx ++ collected ∧ last.pendingFill = first.pendingFill ∧
        ∀ address, (owns last .inFlight).count address + collected.count address = (owns first .inFlight).count address ∧
          (owns last .receiveSide).count address = (owns first .receiveSide).count address) := by
  refine ⟨?_, ?_, ?_⟩
  · intro transport reached
    have inv := reachable_inv transport reached
    refine ⟨?_, fun owner address => owned_frame transport inv owner address, ?_⟩
    · intro frame bounded
      obtain ⟨owner, member⟩ := frame_owned transport inv frame bounded
      exact ⟨owner, owned_once transport inv owner _ member⟩
    · rw [List.nodup_iff_count_le_one]
      intro address
      have transmitted := inv.transmits address
      have bound := frames_count address
      simp only [owns] at transmitted
      omega
  · intro transport next action reached own taken owner notHeld address member offset inside
    exact step_memory transport next action (reachable_inv transport reached) own taken owner notHeld address member
      offset inside
  · intro first last slave messages reached starts ran refused
    have before := reachable_inv first reached
    have after := reachable_inv last (runs_while_reachable system _ first last reached ran)
    have refusing := run_refusing first last slave messages starts ran
    simp only [Refusing, refused] at refusing
    obtain ⟨⟨collected, appended⟩, pending⟩ := refusing
    refine ⟨collected, appended, pending, ?_⟩
    intro address
    have transmitsBefore := before.transmits address
    have transmitsAfter := after.transmits address
    have receivesBefore := before.receives address
    have receivesAfter := after.receives address
    have noneHeld : (owns last .sending).count address = 0 ∧ (owns first .sending).count address = 0 := by
      simp only [owns, refused, starts, heldBySend, List.count_nil, and_self]
    have grown : (owns last .freeList).count address = (owns first .freeList).count address + collected.count address := by
      simp only [owns, appended, List.count_append]
    have same : (owns last .pendingRefill).count address = (owns first .pendingRefill).count address := by
      simp only [owns, pending]
    omega

def deliveryRun : List Action :=
  [.takeFill, .deliver 0 256 [1, 2, 3], .begin .receive, .reap 0, .release, .kick false, .peek 1, .drain]

theorem frame_conservation_delivery :
    ∃ transport, Reachable system transport ∧ transport.pendingFill = [0] ∧ 0 ∉ transport.fill := by
  obtain ⟨transport, reached, facts⟩ := run_actions_found system deliveryRun (mapped ⟨false, ∅, ∅⟩ fun _ => 0)
    (.start _ ⟨_, _, rfl, nofun⟩) (fun transport => transport.pendingFill = [0]) (by decide +kernel)
  have pending := of_decide_eq_true facts
  refine ⟨transport, reached, pending, ?_⟩
  obtain ⟨owner, -, alone⟩ := (frame_conservation.1 transport reached).1 0 (by decide)
  have owned : (owns transport .pendingRefill).count 0 = 1 := by
    simp only [owns, pending, List.count_singleton_self]
  have same : owner = .pendingRefill := by
    by_contra different
    have none_ := alone .pendingRefill (Ne.symm different)
    rw [Nat.zero_mul, owned] at none_
    cases none_
  have elsewhere := alone .receiveSide (by rw [same]; decide)
  intro filled
  refine List.count_eq_zero.mp elsewhere ?_
  rw [Nat.zero_mul]
  exact List.mem_append_left _ (List.mem_append_left _ filled)

end Xdp

end EncosDriver.Ethernet
