import EncosDriver.Ethernet.Packet
import EncosDriver.Lib.System

set_option autoImplicit false

namespace EncosDriver.Ethernet

open Message Lib

def kQueueCapacity : Nat := 4096

structure TransmitQueue where
  batches : List MotorMessages
  size : UInt64
deriving DecidableEq, Repr

namespace TransmitQueue

def empty : TransmitQueue := ⟨[], 0⟩

def available (queue : TransmitQueue) : UInt64 := 4096 - queue.size

def push (queue : TransmitQueue) (messages : MotorMessages) : Option TransmitQueue :=
  if messages.length > queue.available.toNat then none
  else if messages.any (fun message => message.busIdx < 0 || message.busIdx ≥ 8) then none
  else if messages = [] then some queue
  else some ⟨queue.batches ++ [messages], queue.size + UInt64.ofNat messages.length⟩

def pop (queue : TransmitQueue) : MotorMessages × TransmitQueue :=
  match queue.batches with
  | [] => ([], queue)
  | batch :: rest => (batch, ⟨rest, queue.size - UInt64.ofNat batch.length⟩)

def total (batches : List MotorMessages) : Nat := (batches.map List.length).sum

structure Counted (queue : TransmitQueue) : Prop where
  size : queue.size.toNat = total queue.batches
  bounded : total queue.batches ≤ kQueueCapacity
  present : ∀ batch ∈ queue.batches, batch ≠ []

theorem empty_counted : Counted empty := ⟨rfl, Nat.zero_le _, nofun⟩

theorem total_append (front back : List MotorMessages) : total (front ++ back) = total front + total back := by
  simp [total]

theorem total_one (batch : MotorMessages) : total [batch] = batch.length := by simp [total]

variable (queue : TransmitQueue)

theorem available_value (counted : Counted queue) :
    queue.available.toNat = kQueueCapacity - total queue.batches := by
  have bounded := counted.bounded
  have size := counted.size
  have capacity : kQueueCapacity = 4096 := rfl
  have limit : (4096 : UInt64).toNat = 4096 := rfl
  have fits : queue.size ≤ 4096 := by
    rw [UInt64.le_iff_toNat_le, limit]
    omega
  rw [available, UInt64.toNat_sub_of_le _ _ fits, limit]
  omega

theorem push_fits (messages : MotorMessages) (counted : Counted queue) (present : messages ≠ [])
    (fits : total queue.batches + messages.length ≤ kQueueCapacity)
    (channels : ∀ message ∈ messages, 0 ≤ message.busIdx ∧ message.busIdx < 8) :
    ∃ next, queue.push messages = some next ∧ next.batches = queue.batches ++ [messages] ∧ Counted next := by
  have room := available_value queue counted
  have enough : ¬ messages.length > queue.available.toNat := by omega
  have legal : ¬ messages.any (fun message => message.busIdx < 0 || message.busIdx ≥ 8) = true := by
    rw [List.any_eq_true]
    rintro ⟨message, inside, outside⟩
    obtain ⟨low, high⟩ := channels message inside
    simp only [Bool.or_eq_true, decide_eq_true_eq] at outside
    rcases outside with below | above
    · exact absurd below (Int32.not_lt.mpr low)
    · exact absurd high (Int32.not_lt.mpr above)
  have capacity : kQueueCapacity = 4096 := rfl
  have size := counted.size
  have grown : (queue.size + UInt64.ofNat messages.length).toNat = total (queue.batches ++ [messages]) := by
    have small : (UInt64.ofNat messages.length).toNat = messages.length :=
      UInt64.toNat_ofNat_of_lt' (by have width : UInt64.size = 2 ^ 64 := rfl; omega)
    rw [UInt64.toNat_add, small, size, total_append, total_one]
    omega
  refine ⟨_, by rw [push, if_neg enough, if_neg legal, if_neg present], rfl, ⟨grown, ?_, ?_⟩⟩
  · rw [total_append, total_one]
    exact fits
  · intro batch inside
    rcases List.mem_append.mp inside with before | last
    · exact counted.present batch before
    · rw [List.mem_singleton.mp last]
      exact present

theorem pop_counted (counted : Counted queue) :
    Counted queue.pop.2 ∧
      (queue.batches = [] ∧ queue.pop = ([], queue) ∨
        ∃ batch rest, queue.batches = batch :: rest ∧ batch ≠ [] ∧ queue.pop.1 = batch ∧ queue.pop.2.batches = rest) := by
  unfold pop
  cases batches : queue.batches with
  | nil => exact ⟨counted, .inl ⟨rfl, rfl⟩⟩
  | cons batch rest =>
    have size := counted.size
    have bounded := counted.bounded
    have capacity : kQueueCapacity = 4096 := rfl
    have whole : total (batch :: rest) = batch.length + total rest := by simp [total]
    rw [batches, whole] at size bounded
    have small : (UInt64.ofNat batch.length).toNat = batch.length :=
      UInt64.toNat_ofNat_of_lt' (by have width : UInt64.size = 2 ^ 64 := rfl; omega)
    have fits : UInt64.ofNat batch.length ≤ queue.size := by
      rw [UInt64.le_iff_toNat_le, small]
      omega
    have present := counted.present
    rw [batches] at present
    refine ⟨⟨?_, by dsimp only; omega, fun other inside => present other (List.mem_cons_of_mem _ inside)⟩, .inr ?_⟩
    · dsimp only
      rw [UInt64.toNat_sub_of_le _ _ fits, small, size]
      omega
    · exact ⟨batch, rest, rfl, present batch List.mem_cons_self, rfl, rfl⟩

end TransmitQueue

structure Discovery where
  multi : Bool
  slaves : List Nat
  channelCount : Nat → Nat
  distinct : slaves.Nodup

inductive SendError where
  | notRunning
  | noBus (index : Int32)
  | reservedBus
  | undiscovered (slave : Nat)
  | invalidRecords
  | queueFull
  | invariantViolated
deriving DecidableEq, Repr

def SendError.text : SendError → String
  | .notRunning => "Ethernet worker is not running"
  | .noBus index => "Ethernet adapter has no bus " ++ toString index.toInt
  | .reservedBus => "Ethernet requires GetBus(slave_id 0..252, CAN 0..7)"
  | .undiscovered slave => "Ethernet slave was not discovered: " ++ toString slave
  | .invalidRecords => "EMR1 requires at most 80 valid CAN records, buses 0..7, data <=8 bytes"
  | .queueFull => "Ethernet transmit queue full"
  | .invariantViolated => "Ethernet transmit queue invariant violated"

def isValidBus (discovery : Discovery) (index : Int32) : Bool :=
  if index < 0 then false
  else
    let slave := if discovery.multi then (index.toUInt32 >>> 16).toNat else 0
    let channel := if discovery.multi then (index.toUInt32 &&& 0xFFFF).toNat else index.toUInt32.toNat
    discovery.slaves.contains slave && channel < discovery.channelCount slave

def busSlave (index : Int32) : Option Nat :=
  let id := index.toUInt32 >>> 16
  if index < 0 ∨ id > 252 ∨ index &&& 0xFFFF > 7 then none else some id.toNat

def route (discovery : Discovery) (message : MotorMessage) : Except SendError (Nat × MotorMessage) :=
  if isValidBus discovery message.busIdx = false then .error (.noBus message.busIdx)
  else
    match if discovery.multi then busSlave message.busIdx else some 0 with
    | none => .error .reservedBus
    | some slave =>
      if discovery.slaves.contains slave = false then .error (.undiscovered slave)
      else .ok (slave, if discovery.multi then { message with busIdx := message.busIdx &&& 0xFFFF } else message)

def routeAll (discovery : Discovery) : MotorMessages → Except SendError (List (Nat × MotorMessage))
  | [] => .ok []
  | message :: rest =>
    match route discovery message with
    | .error error => .error error
    | .ok first =>
      match routeAll discovery rest with
      | .error error => .error error
      | .ok others => .ok (first :: others)

def group (routed : List (Nat × MotorMessage)) (slave : Nat) : MotorMessages :=
  (routed.filter fun pair => pair.1 = slave).map Prod.snd

def batchesOf (messages : MotorMessages) : List MotorMessages :=
  if messages = [] then []
  else messages.take kMaxPayloadMessages :: batchesOf (messages.drop kMaxPayloadMessages)
termination_by messages.length
decreasing_by
  rename_i present
  have positive := List.length_pos_iff.mpr present
  simp only [List.length_drop, kMaxPayloadMessages]
  omega

abbrev Queues := Nat → TransmitQueue

def pushAll : List (Nat × MotorMessages) → Queues → Except SendError Unit × Queues
  | [], queues => (.ok (), queues)
  | (slave, batch) :: rest, queues =>
    match (queues slave).push batch with
    | none => (.error .invariantViolated, queues)
    | some queue => pushAll rest (Function.update queues slave queue)

def addressed (discovery : Discovery) (routed : List (Nat × MotorMessage)) : List (Nat × MotorMessages) :=
  discovery.slaves.flatMap fun slave => (batchesOf (group routed slave)).map fun batch => (slave, batch)

def sendSynchronized (discovery : Discovery) (ok : Bool) (queues : Queues) (messages : MotorMessages) :
    Except SendError Unit × Queues :=
  if ok = false then (.error .notRunning, queues)
  else
    match routeAll discovery messages with
    | .error error => (.error error, queues)
    | .ok routed =>
      if (addressed discovery routed).all (fun pair => encodable pair.2) = false then (.error .invalidRecords, queues)
      else if discovery.slaves.any (fun slave => (group routed slave).length > (queues slave).available.toNat) then
        (.error .queueFull, queues)
      else pushAll (addressed discovery routed) queues

inductive Worker where
  | head
  | refill (slave : Nat) (rest : List Nat)
  | transmit (slave : Nat) (rest : List Nat)
  | heartbeat (slave : Nat) (rest : List Nat)
  | receive
  | stopped
deriving DecidableEq, Repr

def visit : List Nat → Worker
  | [] => .receive
  | slave :: rest => .refill slave rest

-- Beside the adapter's own state stand the messages of the calls that returned,
-- and each peer's batches that were accepted and delivered so far.
structure Adapter where
  running : Bool
  queues : Queues
  outgoing : Nat → MotorMessages
  worker : Worker
  submitted : MotorMessages
  accepted : Nat → List MotorMessages
  delivered : Nat → List MotorMessages

inductive Answer where
  | taken
  | refused
  | threw
deriving DecidableEq, Repr

inductive Action where
  | send (ok : Bool) (messages : MotorMessages)
  | work (answer : Answer)
  | stop

def placed (discovery : Discovery) (messages : MotorMessages) (slave : Nat) : List MotorMessages :=
  match routeAll discovery messages with
  | .error _ => []
  | .ok routed => batchesOf (group routed slave)

def work (discovery : Discovery) (adapter : Adapter) (answer : Answer) : Option Adapter :=
  match adapter.worker with
  | .head => some { adapter with worker := if adapter.running then visit discovery.slaves else .stopped }
  | .refill slave rest =>
    if adapter.outgoing slave = [] then
      some { adapter with
        outgoing := Function.update adapter.outgoing slave (adapter.queues slave).pop.1
        queues := Function.update adapter.queues slave (adapter.queues slave).pop.2
        worker := .transmit slave rest }
    else some { adapter with worker := .transmit slave rest }
  | .transmit slave rest =>
    if adapter.outgoing slave = [] then some { adapter with worker := .heartbeat slave rest }
    else
      match answer with
      | .taken => some { adapter with
          outgoing := Function.update adapter.outgoing slave []
          delivered := Function.update adapter.delivered slave (adapter.delivered slave ++ [adapter.outgoing slave])
          worker := .heartbeat slave rest }
      | .refused => some { adapter with worker := .heartbeat slave rest }
      | .threw => some { adapter with running := false, worker := .stopped }
  -- The heartbeat carries no batch, whether it is due or not.
  | .heartbeat _ rest =>
    if answer = .threw then some { adapter with running := false, worker := .stopped }
    else some { adapter with worker := visit rest }
  | .receive =>
    if answer = .threw then some { adapter with running := false, worker := .stopped }
    else some { adapter with worker := .head }
  | .stopped => none

def step (discovery : Discovery) (adapter : Adapter) : Action → Option Adapter
  | .send ok messages =>
    match sendSynchronized discovery ok adapter.queues messages with
    | (.ok (), queues) => some { adapter with
        queues := queues
        submitted := adapter.submitted ++ messages
        accepted := fun slave => adapter.accepted slave ++ placed discovery messages slave }
    | (.error _, queues) => some { adapter with queues := queues }
  | .work answer => work discovery adapter answer
  | .stop => some { adapter with running := false }

def initial : Adapter :=
  { running := true
    queues := fun _ => .empty
    outgoing := fun _ => []
    worker := .head
    submitted := []
    accepted := fun _ => []
    delivered := fun _ => [] }

def adapterSystem (discovery : Discovery) : System Adapter Action where
  init := fun adapter => adapter = initial
  step := step discovery

end EncosDriver.Ethernet
