import EncosDriver.Ethernet.Adapter

set_option autoImplicit false

namespace EncosDriver.Ethernet

open Lib Message

theorem batches_of_cut (messages : MotorMessages) :
    (batchesOf messages).flatten = messages ∧
      ∀ batch ∈ batchesOf messages, batch ≠ [] ∧ batch.length ≤ kMaxPayloadMessages := by
  induction messages using batchesOf.induct with
  | case1 =>
    rw [batchesOf]
    simp
  | case2 messages present ih =>
    obtain ⟨joined, sized⟩ := ih
    have most : kMaxPayloadMessages = 80 := rfl
    rw [batchesOf, if_neg present]
    refine ⟨?_, ?_⟩
    · rw [List.flatten_cons, joined, List.take_append_drop]
    · rw [List.forall_mem_cons]
      refine ⟨⟨?_, List.length_take_le _ _⟩, sized⟩
      intro empty
      have positive := List.length_pos_iff.mpr present
      have short := congrArg List.length empty
      rw [List.length_take, List.length_nil] at short
      omega

theorem total_flatten (batches : List MotorMessages) : TransmitQueue.total batches = batches.flatten.length := by
  rw [TransmitQueue.total, List.length_flatten]

variable (discovery : Discovery)

-- The peer that a bus index names: its upper half, or the only peer there is.
def peerOf (message : MotorMessage) : Nat := if discovery.multi then message.busIdx.toInt.toNat / 65536 else 0

def localOf (message : MotorMessage) : MotorMessage :=
  if discovery.multi then { message with busIdx := Int32.ofNat (message.busIdx.toInt.toNat % 65536) } else message

def sentTo (messages : MotorMessages) (slave : Nat) : MotorMessages :=
  (messages.filter fun message => peerOf discovery message = slave).map (localOf discovery)

theorem sent_to_append (front back : MotorMessages) (slave : Nat) :
    sentTo discovery (front ++ back) slave = sentTo discovery front slave ++ sentTo discovery back slave := by
  rw [sentTo, List.filter_append, List.map_append]
  rfl

variable (index : Int32)

theorem natural_value (low : ¬ index < 0) : index.toInt.toNat = index.toUInt32.toNat := by
  have positive : 0 ≤ index.toInt := by
    have above := mt Int32.lt_iff_toInt_lt.mpr low
    have zero : (0 : Int32).toInt = 0 := rfl
    omega
  have value := BitVec.toInt_eq_toNat_cond index.toBitVec
  have bound := index.toBitVec.isLt
  have same : index.toUInt32.toNat = index.toBitVec.toNat := rfl
  have signed : index.toInt = index.toBitVec.toInt := rfl
  rw [signed] at positive ⊢
  rw [same]
  split at value <;> omega

theorem peer_value (low : ¬ index < 0) : (index.toUInt32 >>> 16).toNat = index.toInt.toNat / 65536 := by
  rw [natural_value index low, UInt32.toNat_shiftRight]
  exact Nat.shiftRight_eq_div_pow _ _

theorem local_value (low : ¬ index < 0) : index &&& 0xFFFF = Int32.ofNat (index.toInt.toNat % 65536) := by
  rw [natural_value index low]
  apply Int32.toBitVec_inj.mp
  apply BitVec.eq_of_toNat_eq
  have bound := index.toUInt32.toNat_lt
  have mask : index.toUInt32.toNat &&& 65535 = index.toUInt32.toNat % 65536 := Nat.and_two_pow_sub_one_eq_mod _ 16
  calc (index &&& 0xFFFF).toBitVec.toNat = index.toUInt32.toNat &&& 65535 := rfl
    _ = index.toUInt32.toNat % 65536 := mask
    _ = (Int32.ofNat (index.toUInt32.toNat % 65536)).toBitVec.toNat := by
      rw [Int32.toBitVec_ofNat', BitVec.toNat_ofNat]
      omega

theorem valid_bus_natural (passed : isValidBus discovery index ≠ false) : ¬ index < 0 := by
  intro low
  exact passed (by rw [isValidBus, if_pos low])

theorem route_spec (message : MotorMessage) (slave : Nat) (localMessage : MotorMessage)
    (ran : route discovery message = .ok (slave, localMessage)) :
    slave = peerOf discovery message ∧ localMessage = localOf discovery message ∧ slave ∈ discovery.slaves := by
  unfold route at ran
  split at ran
  · cases ran
  · next passed =>
      have natural := valid_bus_natural discovery message.busIdx passed
      split at ran
      · cases ran
      · next peer addressed =>
          split at ran
          · cases ran
          · next known =>
              cases ran
              refine ⟨?_, ?_, by simpa using known⟩
              · cases multi : discovery.multi with
                | false =>
                  simp only [multi, Bool.false_eq_true, if_false, Option.some.injEq] at addressed
                  rw [peerOf, multi, ← addressed]
                  rfl
                | true =>
                  simp only [multi, if_true, busSlave] at addressed
                  split at addressed
                  · cases addressed
                  · rw [peerOf, multi, if_pos rfl, ← peer_value _ natural]
                    exact (Option.some.inj addressed).symm
              · rw [localOf, ← local_value _ natural]

variable (messages : MotorMessages) (routed : List (Nat × MotorMessage))

theorem routed_spec (ran : routeAll discovery messages = .ok routed) :
    routed = messages.map (fun message => (peerOf discovery message, localOf discovery message)) ∧
      ∀ message ∈ messages, peerOf discovery message ∈ discovery.slaves := by
  induction messages generalizing routed with
  | nil =>
    cases ran
    exact ⟨rfl, nofun⟩
  | cons message rest ih =>
    rw [routeAll] at ran
    cases first : route discovery message with
    | error error => simp [first] at ran
    | ok pair =>
      cases others : routeAll discovery rest with
      | error error => simp [first, others] at ran
      | ok tail =>
        simp only [first, others, Except.ok.injEq] at ran
        subst ran
        obtain ⟨peer, seen, known⟩ := route_spec discovery message pair.1 pair.2 first
        obtain ⟨same, all⟩ := ih tail others
        refine ⟨?_, ?_⟩
        · rw [List.map_cons, ← same, ← peer, ← seen]
        · rw [List.forall_mem_cons]
          exact ⟨peer ▸ known, all⟩

theorem group_sent (ran : routeAll discovery messages = .ok routed) (slave : Nat) :
    group routed slave = sentTo discovery messages slave := by
  rw [(routed_spec discovery messages routed ran).1, group, sentTo, List.filter_map, List.map_map]
  rfl

theorem route_error (message : MotorMessage) : route discovery message ≠ .error .invariantViolated := by
  unfold route
  split
  · nofun
  · split
    · nofun
    · split <;> nofun

theorem route_all_error (messages : MotorMessages) : routeAll discovery messages ≠ .error .invariantViolated := by
  induction messages with
  | nil => nofun
  | cons message rest ih =>
    have first := route_error discovery message
    rw [routeAll]
    cases ran : route discovery message with
    | error error =>
      rw [ran] at first
      exact fun same => first (congrArg _ (Except.error.inj same))
    | ok pair =>
      dsimp only
      cases others : routeAll discovery rest with
      | error error =>
        rw [others] at ih
        exact fun same => ih (congrArg _ (Except.error.inj same))
      | ok tail => nofun

theorem group_undiscovered (ran : routeAll discovery messages = .ok routed) (slave : Nat) (absent : slave ∉ discovery.slaves) :
    group routed slave = [] := by
  have known := (routed_spec discovery messages routed ran).2
  have none : messages.filter (fun message => peerOf discovery message = slave) = [] := by
    rw [List.filter_eq_nil_iff]
    intro message inside same
    exact absent (of_decide_eq_true same ▸ known message inside)
  rw [group_sent discovery messages routed ran, sentTo, none, List.map_nil]

theorem encodable_channels (batch : MotorMessages) (accepted : encodable batch = true) :
    ∀ message ∈ batch, 0 ≤ message.busIdx ∧ message.busIdx < 8 := by
  intro message inside
  simp only [encodable, Bool.and_eq_true, List.all_eq_true] at accepted
  have legal := accepted.2 message inside
  simp only [valid, Bool.and_eq_true, decide_eq_true_eq] at legal
  exact ⟨legal.1.1.1.1.1.1, legal.1.1.1.1.1.2⟩

theorem push_all_fits (pairs : List (Nat × MotorMessages)) (queues : Queues)
    (counted : ∀ slave, TransmitQueue.Counted (queues slave))
    (legal : ∀ pair ∈ pairs, pair.2 ≠ [] ∧ encodable pair.2 = true)
    (fits : ∀ slave, TransmitQueue.total (queues slave).batches +
      TransmitQueue.total ((pairs.filter fun pair => pair.1 = slave).map Prod.snd) ≤ kQueueCapacity) :
    ∃ next, pushAll pairs queues = (.ok (), next) ∧
      ∀ slave, TransmitQueue.Counted (next slave) ∧
        (next slave).batches = (queues slave).batches ++ (pairs.filter fun pair => pair.1 = slave).map Prod.snd := by
  induction pairs generalizing queues with
  | nil => exact ⟨queues, rfl, fun slave => ⟨counted slave, by simp⟩⟩
  | cons pair rest ih =>
    obtain ⟨slave, batch⟩ := pair
    rw [List.forall_mem_cons] at legal
    obtain ⟨⟨present, accepted⟩, others⟩ := legal
    have room := fits slave
    simp only [decide_true, List.filter_cons_of_pos, List.map_cons] at room
    have first : TransmitQueue.total (batch :: (rest.filter fun pair => pair.1 = slave).map Prod.snd) =
        batch.length + TransmitQueue.total ((rest.filter fun pair => pair.1 = slave).map Prod.snd) := by
      simp [TransmitQueue.total]
    obtain ⟨queue, pushed, extended, stillCounted⟩ := TransmitQueue.push_fits (queues slave) batch (counted slave) present
      (by omega) (encodable_channels batch accepted)
    obtain ⟨next, ran, spec⟩ := ih (Function.update queues slave queue)
      (by
        intro other
        by_cases same : other = slave
        · subst same
          rw [Function.update_self]
          exact stillCounted
        · rw [Function.update_of_ne same]
          exact counted other)
      others
      (by
        intro other
        by_cases same : other = slave
        · subst same
          rw [Function.update_self, extended, TransmitQueue.total_append, TransmitQueue.total_one]
          omega
        · have before := fits other
          rw [List.filter_cons_of_neg (by simpa using Ne.symm same)] at before
          rw [Function.update_of_ne same]
          exact before)
    refine ⟨next, by rw [pushAll, pushed]; exact ran, ?_⟩
    intro other
    obtain ⟨sound, batches⟩ := spec other
    refine ⟨sound, ?_⟩
    by_cases same : other = slave
    · subst same
      rw [batches, Function.update_self, extended, List.filter_cons_of_pos (by simp), List.map_cons, List.append_assoc]
      rfl
    · rw [batches, Function.update_of_ne same, List.filter_cons_of_neg (by simpa using Ne.symm same)]

theorem addressed_group (slaves : List Nat) (batches : Nat → List MotorMessages) (distinct : slaves.Nodup) (slave : Nat) :
    ((slaves.flatMap fun other => (batches other).map fun batch => (other, batch)).filter
      fun pair => pair.1 = slave).map Prod.snd = if slave ∈ slaves then batches slave else [] := by
  induction slaves with
  | nil => simp
  | cons other rest ih =>
    rw [List.nodup_cons] at distinct
    have own : ((batches other).map fun batch => (other, batch)).filter (fun pair => pair.1 = slave) =
        if other = slave then (batches other).map fun batch => (other, batch) else [] := by
      split
      · rename_i same
        subst same
        rw [List.filter_eq_self]
        intro pair inside
        obtain ⟨batch, -, rfl⟩ := List.mem_map.mp inside
        simp
      · rename_i different
        rw [List.filter_eq_nil_iff]
        intro pair inside
        obtain ⟨batch, -, rfl⟩ := List.mem_map.mp inside
        simpa using different
    rw [List.flatMap_cons, List.filter_append, List.map_append, ih distinct.2, own]
    by_cases same : other = slave
    · subst same
      rw [if_pos rfl, if_neg distinct.1, if_pos List.mem_cons_self, List.append_nil, List.map_map]
      exact List.map_id _
    · rw [if_neg same, List.map_nil, List.nil_append]
      by_cases inside : slave ∈ rest
      · rw [if_pos inside, if_pos (List.mem_cons_of_mem _ inside)]
      · rw [if_neg inside, if_neg (by rw [List.mem_cons]; exact not_or.mpr ⟨Ne.symm same, inside⟩)]

-- What an accepted call leaves: behind the batches of every peer that were there
-- stand new ones, which hold the messages for this peer one for one, within the
-- capacity.
structure Placed (discovery : Discovery) (messages : MotorMessages) (before after : Queues) : Prop where
  batches : ∀ slave, (after slave).batches = (before slave).batches ++ placed discovery messages slave
  whole : ∀ slave, (placed discovery messages slave).flatten = sentTo discovery messages slave
  peers : ∀ message ∈ messages, peerOf discovery message ∈ discovery.slaves
  counted : ∀ slave, TransmitQueue.Counted (after slave)
  legal : ∀ slave, ∀ batch ∈ placed discovery messages slave,
    batch ≠ [] ∧ batch.length ≤ kMaxPayloadMessages ∧ encodable batch = true

theorem placed_routed (ran : routeAll discovery messages = .ok routed) (slave : Nat) :
    placed discovery messages slave = batchesOf (group routed slave) := by
  rw [placed, ran]

theorem send_cases (ok : Bool) (queues : Queues) (messages : MotorMessages)
    (counted : ∀ slave, TransmitQueue.Counted (queues slave)) :
    (∃ next, sendSynchronized discovery ok queues messages = (.ok (), next) ∧ Placed discovery messages queues next) ∨
      ∃ error, sendSynchronized discovery ok queues messages = (.error error, queues) ∧ error ≠ .invariantViolated := by
  unfold sendSynchronized
  split
  · exact .inr ⟨.notRunning, rfl, nofun⟩
  cases ran : routeAll discovery messages with
  | error error =>
    refine .inr ⟨error, rfl, ?_⟩
    rintro rfl
    exact route_all_error discovery messages ran
  | ok routed =>
    dsimp only
    split
    · exact .inr ⟨.invalidRecords, rfl, nofun⟩
    rename_i legal
    split
    · exact .inr ⟨.queueFull, rfl, nofun⟩
    rename_i room
    have accepted : ∀ pair ∈ addressed discovery routed, encodable pair.2 = true := by
      simpa only [Bool.not_eq_false, List.all_eq_true] using legal
    have own (slave : Nat) : ((addressed discovery routed).filter fun pair => pair.1 = slave).map Prod.snd =
        batchesOf (group routed slave) := by
      rw [addressed, addressed_group _ _ discovery.distinct]
      split
      · rfl
      · rename_i absent
        rw [group_undiscovered discovery messages routed ran slave absent, batchesOf]
        rfl
    have present : ∀ pair ∈ addressed discovery routed, pair.2 ≠ [] ∧ encodable pair.2 = true := by
      intro pair inside
      refine ⟨?_, accepted pair inside⟩
      obtain ⟨slave, -, inGroup⟩ := List.mem_flatMap.mp inside
      obtain ⟨batch, inBatches, rfl⟩ := List.mem_map.mp inGroup
      exact ((batches_of_cut (group routed slave)).2 batch inBatches).1
    have fits (slave : Nat) : TransmitQueue.total (queues slave).batches +
        TransmitQueue.total (((addressed discovery routed).filter fun pair => pair.1 = slave).map Prod.snd) ≤ kQueueCapacity := by
      have bounded := (counted slave).bounded
      rw [own slave, total_flatten (batchesOf _), (batches_of_cut (group routed slave)).1]
      by_cases known : slave ∈ discovery.slaves
      · have enough : ¬ (group routed slave).length > (queues slave).available.toNat := by
          intro many
          exact room (List.any_eq_true.mpr ⟨slave, known, decide_eq_true many⟩)
        rw [TransmitQueue.available_value _ (counted slave)] at enough
        omega
      · rw [group_undiscovered discovery messages routed ran slave known, List.length_nil]
        exact bounded
    obtain ⟨next, pushed, spec⟩ := push_all_fits (addressed discovery routed) queues counted present fits
    refine .inl ⟨next, pushed, ⟨?_, ?_, (routed_spec discovery messages routed ran).2, fun slave => (spec slave).1, ?_⟩⟩
    · intro slave
      rw [(spec slave).2, own slave, placed_routed discovery messages routed ran]
    · intro slave
      rw [placed_routed discovery messages routed ran, (batches_of_cut (group routed slave)).1, group_sent discovery messages routed ran]
    · intro slave batch inside
      rw [placed_routed discovery messages routed ran] at inside
      obtain ⟨nonempty, short⟩ := (batches_of_cut (group routed slave)).2 batch inside
      refine ⟨nonempty, short, ?_⟩
      rw [← own slave] at inside
      obtain ⟨pair, inPairs, rfl⟩ := List.mem_map.mp inside
      exact accepted pair (List.mem_filter.mp inPairs).1

def held (outgoing : MotorMessages) : List MotorMessages := if outgoing = [] then [] else [outgoing]

def undelivered (adapter : Adapter) (slave : Nat) : List MotorMessages :=
  held (adapter.outgoing slave) ++ (adapter.queues slave).batches

structure Conserved (adapter : Adapter) : Prop where
  counted : ∀ slave, TransmitQueue.Counted (adapter.queues slave)
  conserved : ∀ slave, adapter.accepted slave = adapter.delivered slave ++ undelivered adapter slave
  legal : ∀ slave, ∀ batch ∈ adapter.accepted slave, batch ≠ [] ∧ batch.length ≤ kMaxPayloadMessages ∧ encodable batch = true

def Advances (before after : Adapter) (slave : Nat) : Prop :=
  (after.delivered slave = before.delivered slave ∧ undelivered after slave = undelivered before slave) ∨
    ∃ batch, undelivered before slave = batch :: undelivered after slave ∧
      after.delivered slave = before.delivered slave ++ [batch]

theorem initial_conserved : Conserved initial :=
  ⟨fun _ => TransmitQueue.empty_counted, fun _ => rfl, fun _ => nofun⟩

theorem refill_undelivered (queue : TransmitQueue) (counted : queue.Counted) :
    held queue.pop.1 ++ queue.pop.2.batches = queue.batches := by
  obtain ⟨-, ⟨empty, popped⟩ | ⟨batch, rest, batches, present, first, others⟩⟩ := TransmitQueue.pop_counted queue counted
  · rw [popped, empty]
    rfl
  · rw [first, others, batches, held, if_neg present]
    rfl

variable (adapter next : Adapter) (answer : Answer)

theorem work_spec (invariant : Conserved adapter)
    (taken : work discovery adapter answer = some next) :
    (∀ slave, TransmitQueue.Counted (next.queues slave)) ∧ next.accepted = adapter.accepted ∧
      ∀ slave, Advances adapter next slave := by
  have same (worker : Worker) (running : Bool) (made : next = { adapter with worker := worker, running := running }) :
      (∀ slave, TransmitQueue.Counted (next.queues slave)) ∧ next.accepted = adapter.accepted ∧
        ∀ slave, Advances adapter next slave := by
    subst made
    exact ⟨invariant.counted, rfl, fun slave => .inl ⟨rfl, rfl⟩⟩
  unfold work at taken
  split at taken
  · exact same _ _ (Option.some.inj taken).symm
  · rename_i slave rest at_
    split at taken
    · rename_i free
      cases taken
      refine ⟨?_, rfl, ?_⟩
      · intro other
        dsimp only
        by_cases this : other = slave
        · subst this
          rw [Function.update_self]
          exact (TransmitQueue.pop_counted _ (invariant.counted other)).1
        · rw [Function.update_of_ne this]
          exact invariant.counted other
      · intro other
        refine .inl ⟨rfl, ?_⟩
        by_cases this : other = slave
        · subst this
          have moved := refill_undelivered _ (invariant.counted other)
          have nothing : held [] = [] := rfl
          simp only [undelivered, Function.update_self, free, nothing, List.nil_append]
          exact moved
        · simp only [undelivered, Function.update_of_ne this]
    · exact same _ _ (Option.some.inj taken).symm
  · rename_i slave rest at_
    split at taken
    · exact same _ _ (Option.some.inj taken).symm
    · rename_i present
      split at taken
      · cases taken
        refine ⟨invariant.counted, rfl, ?_⟩
        intro other
        by_cases this : other = slave
        · subst this
          refine .inr ⟨adapter.outgoing other, ?_, ?_⟩
          · simp only [undelivered, Function.update_self, held, present, ↓reduceIte, List.nil_append, List.singleton_append]
          · simp only [Function.update_self]
        · refine .inl ⟨?_, ?_⟩
          · simp only [Function.update_of_ne this]
          · simp only [undelivered, Function.update_of_ne this]
      · exact same _ _ (Option.some.inj taken).symm
      · exact same _ _ (Option.some.inj taken).symm
  · split at taken
    · exact same _ _ (Option.some.inj taken).symm
    · exact same _ _ (Option.some.inj taken).symm
  · split at taken
    · exact same _ _ (Option.some.inj taken).symm
    · exact same _ _ (Option.some.inj taken).symm
  · cases taken

theorem work_conserved (invariant : Conserved adapter)
    (taken : work discovery adapter answer = some next) : Conserved next := by
  obtain ⟨counted, accepted, advances⟩ := work_spec discovery adapter next answer invariant taken
  refine ⟨counted, ?_, ?_⟩
  · intro slave
    rw [accepted, invariant.conserved slave]
    rcases advances slave with ⟨delivered, left⟩ | ⟨batch, left, delivered⟩
    · rw [delivered, left]
    · rw [delivered, left, List.append_assoc]
      rfl
  · rw [accepted]
    exact invariant.legal

theorem step_conserved (action : Action) (invariant : Conserved adapter)
    (taken : step discovery adapter action = some next) : Conserved next := by
  cases action with
  | send ok messages =>
    rw [step] at taken
    rcases send_cases discovery ok adapter.queues messages invariant.counted with ⟨queues, sent, spec⟩ | ⟨error, thrown, -⟩
    · rw [sent] at taken
      cases taken
      refine ⟨spec.counted, ?_, ?_⟩
      · intro slave
        simp only [undelivered, spec.batches slave, invariant.conserved slave, List.append_assoc]
      · intro slave batch inside
        rcases List.mem_append.mp inside with before | added
        · exact invariant.legal slave batch before
        · exact spec.legal slave batch added
    · rw [thrown] at taken
      cases taken
      exact ⟨invariant.counted, invariant.conserved, invariant.legal⟩
  | work answer => exact work_conserved discovery adapter next answer invariant taken
  | stop =>
    cases taken
    exact ⟨invariant.counted, invariant.conserved, invariant.legal⟩

theorem reachable_conserved (adapter : Adapter) (reached : Reachable (adapterSystem discovery) adapter) : Conserved adapter := by
  refine reachable_invariant (adapterSystem discovery) Always Conserved ?_ ?_ adapter reached
  · rintro _ rfl
    exact initial_conserved
  · exact fun adapter action next invariant _ taken => step_conserved discovery adapter next action invariant taken

theorem work_submitted (taken : work discovery adapter answer = some next) :
    next.submitted = adapter.submitted := by
  unfold work at taken
  repeat' split at taken
  all_goals cases taken
  all_goals rfl

def Whole (adapter : Adapter) : Prop := ∀ slave, (adapter.accepted slave).flatten = sentTo discovery adapter.submitted slave

theorem step_whole (action : Action) (invariant : Conserved adapter) (whole : Whole discovery adapter)
    (taken : step discovery adapter action = some next) : Whole discovery next := by
  intro slave
  cases action with
  | send ok messages =>
    rw [step] at taken
    rcases send_cases discovery ok adapter.queues messages invariant.counted with ⟨queues, sent, spec⟩ | ⟨error, thrown, -⟩
    · rw [sent] at taken
      cases taken
      rw [List.flatten_append, whole slave, spec.whole slave, sent_to_append]
    · rw [thrown] at taken
      cases taken
      exact whole slave
  | work answer =>
    rw [(work_spec discovery adapter next answer invariant taken).2.1, work_submitted discovery adapter next answer taken]
    exact whole slave
  | stop =>
    cases taken
    exact whole slave

theorem reachable_whole (adapter : Adapter) (reached : Reachable (adapterSystem discovery) adapter) : Whole discovery adapter := by
  refine reachable_invariant_under (adapterSystem discovery) Always Conserved (Whole discovery) (reachable_conserved discovery) ?_ ?_
    adapter reached
  · rintro _ rfl slave
    rfl
  · exact fun adapter action next invariant _ whole _ taken => step_whole discovery adapter next action invariant whole taken

def Served (before after : Adapter) (visited : List Nat) : Prop :=
  after.running = before.running ∧ ∀ slave,
    after.delivered slave = before.delivered slave ++ (undelivered before slave).take (visited.count slave) ∧
      undelivered after slave = (undelivered before slave).drop (visited.count slave)

theorem served_same (before after : Adapter) (running : after.running = before.running)
    (delivered : after.delivered = before.delivered) (left : ∀ slave, undelivered after slave = undelivered before slave) :
    Served before after [] :=
  ⟨running, fun slave => ⟨by simp [delivered], by simp [left slave]⟩⟩

theorem served_append (first second third : Adapter) (front back : List Nat) (one : Served first second front)
    (two : Served second third back) : Served first third (front ++ back) := by
  refine ⟨two.1.trans one.1, fun slave => ?_⟩
  obtain ⟨deliveredOne, leftOne⟩ := one.2 slave
  obtain ⟨deliveredTwo, leftTwo⟩ := two.2 slave
  rw [List.count_append]
  refine ⟨?_, ?_⟩
  · rw [deliveredTwo, deliveredOne, leftOne, List.take_add, List.append_assoc]
  · rw [leftTwo, leftOne, List.drop_drop]

def workAll (discovery : Discovery) (adapter : Adapter) (steps : Nat) : Option Adapter :=
  runActions (adapterSystem discovery) adapter (List.replicate steps (.work .taken))

theorem work_all_zero (adapter : Adapter) : workAll discovery adapter 0 = some adapter := rfl

theorem work_all_succ (steps : Nat) (taken : work discovery adapter .taken = some next) :
    workAll discovery adapter (steps + 1) = workAll discovery next steps := by
  have stepped : (adapterSystem discovery).step adapter (.work .taken) = some next := taken
  rw [workAll, List.replicate_succ, runActions, runChecked, if_pos rfl, stepped]
  rfl

theorem work_all_first (adapter final : Adapter) (steps : Nat) (ran : workAll discovery adapter (steps + 1) = some final) :
    ∃ next, work discovery adapter .taken = some next ∧ workAll discovery next steps = some final := by
  cases taken : work discovery adapter .taken with
  | none =>
    have stuck : (adapterSystem discovery).step adapter (.work .taken) = none := taken
    rw [workAll, List.replicate_succ, runActions, runChecked, if_pos rfl, stuck] at ran
    cases ran
  | some next =>
    rw [work_all_succ discovery adapter next steps taken] at ran
    exact ⟨next, rfl, ran⟩

theorem work_all_add (adapter middle : Adapter) (first second : Nat) (ran : workAll discovery adapter first = some middle) :
    workAll discovery adapter (first + second) = workAll discovery middle second := by
  induction first generalizing adapter with
  | zero =>
    cases ran
    rw [Nat.zero_add]
  | succ first ih =>
    obtain ⟨next, taken, others⟩ := work_all_first discovery adapter middle first ran
    have sum : first + 1 + second = first + second + 1 := by omega
    rw [sum, work_all_succ discovery adapter next _ taken]
    exact ih next others

variable (adapter : Adapter) (slave : Nat) (rest : List Nat)

theorem refill_step (invariant : Conserved adapter) (here : adapter.worker = .refill slave rest) :
    ∃ next, work discovery adapter .taken = some next ∧ next.worker = .transmit slave rest ∧ Served adapter next [] ∧
      (next.outgoing slave = [] → undelivered next slave = []) := by
  by_cases free : adapter.outgoing slave = []
  · have taken : work discovery adapter .taken = some { adapter with
        outgoing := Function.update adapter.outgoing slave (adapter.queues slave).pop.1
        queues := Function.update adapter.queues slave (adapter.queues slave).pop.2
        worker := .transmit slave rest } := by
      rw [work, here]
      dsimp only
      rw [if_pos free]
    refine ⟨_, taken, rfl, served_same _ _ rfl rfl ?_, ?_⟩
    · intro other
      by_cases this : other = slave
      · subst this
        have nothing : held [] = [] := rfl
        simp only [undelivered, Function.update_self, free, nothing, List.nil_append]
        exact refill_undelivered _ (invariant.counted other)
      · simp only [undelivered, Function.update_of_ne this]
    · intro none
      obtain ⟨-, ⟨empty, popped⟩ | ⟨batch, others, batches, present, first, -⟩⟩ :=
        TransmitQueue.pop_counted _ (invariant.counted slave)
      · simp only [undelivered, Function.update_self, popped, empty]
        rfl
      · simp only [Function.update_self, first] at none
        exact absurd none present
  · exact ⟨{ adapter with worker := .transmit slave rest }, by rw [work, here]; exact if_neg free, rfl,
      served_same _ _ rfl rfl fun _ => rfl, fun none => absurd none free⟩

theorem transmit_step
    (here : adapter.worker = .transmit slave rest) (refilled : adapter.outgoing slave = [] → undelivered adapter slave = []) :
    ∃ next, work discovery adapter .taken = some next ∧ next.worker = .heartbeat slave rest ∧ Served adapter next [slave] := by
  by_cases free : adapter.outgoing slave = []
  · refine ⟨{ adapter with worker := .heartbeat slave rest }, by rw [work, here]; exact if_pos free, rfl, rfl, ?_⟩
    intro other
    by_cases this : other = slave
    · subst this
      have same : undelivered { adapter with worker := .heartbeat other rest } other = undelivered adapter other := rfl
      rw [same, refilled free]
      simp
    · rw [List.count_singleton, if_neg (by simpa using Ne.symm this), List.take_zero, List.append_nil, List.drop_zero]
      exact ⟨rfl, rfl⟩
  · have taken : work discovery adapter .taken = some { adapter with
        outgoing := Function.update adapter.outgoing slave []
        delivered := Function.update adapter.delivered slave (adapter.delivered slave ++ [adapter.outgoing slave])
        worker := .heartbeat slave rest } := by
      rw [work, here]
      dsimp only
      rw [if_neg free]
    refine ⟨_, taken, rfl, rfl, ?_⟩
    intro other
    by_cases this : other = slave
    · subst this
      have oldest : undelivered adapter other = adapter.outgoing other :: (adapter.queues other).batches := by
        rw [undelivered, held, if_neg free]
        rfl
      rw [oldest]
      simp [undelivered, held]
    · rw [List.count_singleton, if_neg (by simpa using Ne.symm this), List.take_zero, List.append_nil, List.drop_zero]
      simp only [undelivered, Function.update_of_ne this]
      exact ⟨trivial, trivial⟩

theorem visit_serves (invariant : Conserved adapter) (here : adapter.worker = .refill slave rest) :
    ∃ next, workAll discovery adapter 3 = some next ∧ next.worker = visit rest ∧ Served adapter next [slave] := by
  obtain ⟨refilled, one, atTransmit, servedOne, oldest⟩ := refill_step discovery adapter slave rest invariant here
  obtain ⟨sent, two, atHeartbeat, servedTwo⟩ := transmit_step discovery refilled slave rest atTransmit oldest
  have three : work discovery sent .taken = some { sent with worker := visit rest } := by
    rw [work, atHeartbeat]
    rfl
  refine ⟨{ sent with worker := visit rest }, ?_, rfl, ?_⟩
  · rw [work_all_succ discovery adapter refilled 2 one, work_all_succ discovery refilled sent 1 two,
      work_all_succ discovery sent _ 0 three, work_all_zero]
  · have last : Served sent { sent with worker := visit rest } [] := served_same _ _ rfl rfl fun _ => rfl
    exact served_append _ _ _ [] _ servedOne (served_append _ _ _ [slave] [] servedTwo last)

theorem work_all_conserved (adapter final : Adapter) (steps : Nat) (invariant : Conserved adapter)
    (ran : workAll discovery adapter steps = some final) : Conserved final := by
  induction steps generalizing adapter with
  | zero =>
    cases ran
    exact invariant
  | succ steps ih =>
    obtain ⟨next, taken, others⟩ := work_all_first discovery adapter final steps ran
    exact ih next (work_conserved discovery adapter next .taken invariant taken) others

theorem visits_serve (slaves : List Nat) (adapter : Adapter) (invariant : Conserved adapter)
    (here : adapter.worker = visit slaves) :
    ∃ next, workAll discovery adapter (slaves.length * 3) = some next ∧ next.worker = .receive ∧ Served adapter next slaves := by
  induction slaves generalizing adapter with
  | nil => exact ⟨adapter, work_all_zero discovery adapter, here, served_same _ _ rfl rfl fun _ => rfl⟩
  | cons slave rest ih =>
    obtain ⟨visited, one, following, servedOne⟩ := visit_serves discovery adapter slave rest invariant here
    obtain ⟨final, others, behind, servedOthers⟩ :=
      ih visited (work_all_conserved discovery adapter visited 3 invariant one) following
    refine ⟨final, ?_, behind, served_append _ _ _ [slave] rest servedOne servedOthers⟩
    have steps : (slave :: rest).length * 3 = 3 + rest.length * 3 := by
      rw [List.length_cons]
      omega
    rw [steps, work_all_add discovery adapter visited 3 _ one, others]

def turnSteps (discovery : Discovery) : Nat := 1 + discovery.slaves.length * 3 + 1

theorem turn_serves (adapter : Adapter) (invariant : Conserved adapter) (running : adapter.running = true)
    (here : adapter.worker = .head) :
    ∃ next, workAll discovery adapter (turnSteps discovery) = some next ∧ next.worker = .head ∧
      Served adapter next discovery.slaves := by
  have first : work discovery adapter .taken = some { adapter with worker := visit discovery.slaves } := by
    rw [work, here, running]
    rfl
  have started := work_conserved discovery adapter _ .taken invariant first
  obtain ⟨visited, ran, behind, served⟩ :=
    visits_serve discovery discovery.slaves { adapter with worker := visit discovery.slaves } started rfl
  have last : work discovery visited .taken = some { visited with worker := .head } := by
    rw [work, behind]
    rfl
  refine ⟨{ visited with worker := .head }, ?_, rfl, ?_⟩
  · have one : workAll discovery adapter 1 = some { adapter with worker := visit discovery.slaves } := by
      rw [work_all_succ discovery adapter _ 0 first, work_all_zero]
    have whole := work_all_add discovery adapter _ 1 (discovery.slaves.length * 3) one
    rw [ran] at whole
    rw [turnSteps, work_all_add discovery adapter visited _ 1 whole, work_all_succ discovery visited _ 0 last, work_all_zero]
  · have begun : Served adapter { adapter with worker := visit discovery.slaves } [] := served_same _ _ rfl rfl fun _ => rfl
    have ended : Served visited { visited with worker := .head } [] := served_same _ _ rfl rfl fun _ => rfl
    have joined := served_append _ _ _ [] _ begun (served_append _ _ _ discovery.slaves [] served ended)
    rwa [List.nil_append, List.append_nil] at joined

theorem turns_deliver (turns : Nat) (adapter : Adapter) (invariant : Conserved adapter)
    (running : adapter.running = true) (here : adapter.worker = .head) :
    ∃ final, workAll discovery adapter (turns * turnSteps discovery) = some final ∧ final.worker = .head ∧
      ∀ slave ∈ discovery.slaves,
        final.delivered slave = adapter.delivered slave ++ (undelivered adapter slave).take turns ∧
        undelivered final slave = (undelivered adapter slave).drop turns := by
  induction turns generalizing adapter with
  | zero =>
    refine ⟨adapter, by rw [Nat.zero_mul, work_all_zero], here, fun slave _ => ?_⟩
    rw [List.take_zero, List.append_nil, List.drop_zero]
    exact ⟨rfl, rfl⟩
  | succ turns ih =>
    obtain ⟨next, one, again, served⟩ := turn_serves discovery adapter invariant running here
    obtain ⟨final, others, head, spec⟩ := ih next (work_all_conserved discovery adapter next _ invariant one)
      (served.1.trans running) again
    have steps : (turns + 1) * turnSteps discovery = turnSteps discovery + turns * turnSteps discovery := by ring
    refine ⟨final, by rw [steps, work_all_add discovery adapter next _ _ one, others], head, ?_⟩
    intro slave known
    obtain ⟨delivered, left⟩ := spec slave known
    obtain ⟨deliveredOne, leftOne⟩ := served.2 slave
    rw [discovery.distinct.count, if_pos known] at deliveredOne leftOne
    rw [delivered, left, deliveredOne, leftOne, List.append_assoc, List.drop_drop, Nat.add_comm turns 1, List.take_add]
    exact ⟨rfl, rfl⟩

/-- A synchronized send is atomic in every state of the queues. Every run keeps the counters right and loses or repeats
no batch, and the batches accepted for a peer are the messages submitted for it one for one; each step of the worker
delivers at most the oldest batch of a peer, and a transport that takes what it is given gets all of them. -/
theorem synchronized_send_atomic (discovery : Discovery) :
    (∀ ok queues messages, (∀ slave, TransmitQueue.Counted (queues slave)) →
      (∃ next, sendSynchronized discovery ok queues messages = (.ok (), next) ∧ Placed discovery messages queues next) ∨
        ∃ error, sendSynchronized discovery ok queues messages = (.error error, queues) ∧ error ≠ .invariantViolated) ∧
    ∀ adapter, Reachable (adapterSystem discovery) adapter →
      (∀ slave, (adapter.queues slave).size.toNat = TransmitQueue.total (adapter.queues slave).batches ∧
        TransmitQueue.total (adapter.queues slave).batches ≤ kQueueCapacity) ∧
      (∀ slave, TransmitQueue.Counted (adapter.queues slave)) ∧
      (∀ slave, adapter.accepted slave = adapter.delivered slave ++ undelivered adapter slave ∧
        (adapter.accepted slave).flatten = sentTo discovery adapter.submitted slave ∧
        ∀ batch ∈ adapter.accepted slave, batch ≠ [] ∧ batch.length ≤ kMaxPayloadMessages) ∧
      (∀ answer next, work discovery adapter answer = some next →
        next.accepted = adapter.accepted ∧ ∀ slave, Advances adapter next slave) ∧
      (adapter.running = true → adapter.worker = .head → ∀ turns,
        ∃ final, workAll discovery adapter (turns * turnSteps discovery) = some final ∧ final.worker = .head ∧
          ∀ slave ∈ discovery.slaves,
            final.delivered slave = adapter.delivered slave ++ (undelivered adapter slave).take turns ∧
            undelivered final slave = (undelivered adapter slave).drop turns) := by
  refine ⟨fun ok queues messages counted => send_cases discovery ok queues messages counted, ?_⟩
  intro adapter reached
  have invariant := reachable_conserved discovery adapter reached
  refine ⟨fun slave => ⟨(invariant.counted slave).size, (invariant.counted slave).bounded⟩, invariant.counted,
    fun slave => ⟨invariant.conserved slave, reachable_whole discovery adapter reached slave, fun batch inside =>
      ⟨(invariant.legal slave batch inside).1, (invariant.legal slave batch inside).2.1⟩⟩, ?_,
    fun running here turns => turns_deliver discovery turns adapter invariant running here⟩
  intro answer next taken
  exact (work_spec discovery adapter next answer invariant taken).2

def sampleRecord (bus : Int32) : MotorMessage := ⟨bus, ⟨0x141, 0, 2, #v[0x9C, 0x10, 0, 0, 0, 0, 0, 0]⟩⟩

-- Two peers with one bus of their own each and a second one of the first.
def sampleDiscovery : Discovery := ⟨true, [0, 1], fun _ => 2, by decide⟩

-- Two calls, of which the second is for both peers; the transport refuses the
-- batch of the second peer once.
def sampleRun : List Action :=
  [.send true [sampleRecord 1], .send true [sampleRecord 0, sampleRecord 65536, sampleRecord 0]] ++
    [.work .taken, .work .taken, .work .taken, .work .taken, .work .taken, .work .refused, .work .taken, .work .taken]

theorem synchronized_send_atomic_sample :
    ∃ adapter, Reachable (adapterSystem sampleDiscovery) adapter ∧
      adapter.delivered 0 = [[sampleRecord 1]] ∧ undelivered adapter 0 = [[sampleRecord 0, sampleRecord 0]] ∧
      adapter.delivered 1 = [] ∧ undelivered adapter 1 = [[sampleRecord 0]] ∧
      (∃ next, sendSynchronized sampleDiscovery true adapter.queues [sampleRecord 65537] = (.ok (), next) ∧
        Placed sampleDiscovery [sampleRecord 65537] adapter.queues next) ∧
      ∃ final, workAll sampleDiscovery adapter (2 * turnSteps sampleDiscovery) = some final ∧
        final.delivered 0 = [[sampleRecord 1], [sampleRecord 0, sampleRecord 0]] ∧ final.delivered 1 = [[sampleRecord 0]] := by
  have checked : (runActions (adapterSystem sampleDiscovery) initial sampleRun).any (fun adapter =>
      adapter.running && adapter.worker = .head && adapter.delivered 0 = [[sampleRecord 1]] &&
      undelivered adapter 0 = [[sampleRecord 0, sampleRecord 0]] && adapter.delivered 1 = [] &&
      undelivered adapter 1 = [[sampleRecord 0]] &&
      (sendSynchronized sampleDiscovery true adapter.queues [sampleRecord 65537]).1.toBool) = true := by
    decide +kernel
  obtain ⟨adapter, reached, facts⟩ := run_actions_found (adapterSystem sampleDiscovery) sampleRun initial (.start _ rfl) _ checked
  simp only [Bool.and_eq_true, decide_eq_true_eq] at facts
  obtain ⟨⟨⟨⟨⟨⟨running, head⟩, first⟩, left⟩, second⟩, other⟩, sends⟩ := facts
  have law := synchronized_send_atomic sampleDiscovery
  have runLaw := law.2 adapter reached
  obtain ⟨final, ran, -, delivered⟩ := runLaw.2.2.2.2 running head 2
  refine ⟨adapter, reached, first, left, second, other, ?_, final, ran, ?_, ?_⟩
  · rcases law.1 true adapter.queues [sampleRecord 65537] runLaw.2.1 with sent | ⟨error, thrown, -⟩
    · exact sent
    · rw [thrown] at sends
      cases sends
  · rw [(delivered 0 (by decide)).1, first, left]
    rfl
  · rw [(delivered 1 (by decide)).1, second, other]
    rfl

end EncosDriver.Ethernet
