import EncosDriver.Adapter.SyncSafety

set_option autoImplicit false

namespace EncosDriver.Adapter

open Lib Message

def CreatesNoBus (_ : State) : Action → Prop
  | .getBus _ => False
  | .publishBus _ => False
  | .abandonBus _ => False
  | .call (.initializeBusSyncMode _) => False
  | _ => True

structure Settled (state : State) : Prop where
  published : state.pending = []
  writing : ∀ bus stage, state.holder ≠ some (.initializeBusSyncMode bus, stage)
  commits : ∀ order stage, state.holder = some (.commit order, stage) → ∀ bus, state.buses.contains bus → bus ∈ order
  switches : ∀ enabled order stage, state.holder = some (.setSyncMode enabled order, stage) →
    ∀ bus, state.buses.contains bus → bus ∈ order

variable (state next : State)

theorem unregistered (bus : Int32) (channel : Nat) (taken : state.unregisterSendChannel bus channel = some next) :
    ∃ found, state.buses.find bus = some found ∧ State.unregisterSendChannel.removed state bus channel found = next := by
  simp only [State.unregisterSendChannel] at taken
  split at taken
  · cases taken
  · next found at_ =>
      refine ⟨found, at_, ?_⟩
      split at taken
      · split at taken
        · cases taken
        · exact Option.some.inj taken
      · exact Option.some.inj taken

structure Conserved (state : State) : Prop where
  numbered : state.submitted.map (fun entry => entry.number) = List.range state.submitted.length
  placed : ∀ entry, state.places entry = if entry ∈ state.submitted then 1 else 0
  ordered : ∀ stream, Numbered (state.history stream)
  bounded : ∀ bus found, state.buses.find bus = some found → ∀ channel ∈ found.sendChannels,
    channel.port.queued.length ≤ kSendChannelLength

def Affects (state : State) : Call → Int32 → Prop
  | .commit _, bus => state.buses.contains bus
  | .setSyncMode false _, bus => state.buses.contains bus
  | .commitBus only, bus => bus = only
  | .setBusSyncMode only false, bus => bus = only
  | _, _ => False

structure Accounted (state : State) (action : Action) (next : State) : Prop where
  overwrites : next.overwritten ≠ state.overwritten → ∃ bus channel entry lost,
    next.overwritten = state.overwritten ++ lost ∧
      lost ++ next.queueOf (.device bus channel) = state.queueOf (.device bus channel) ++ [entry] ∧
        (next.queueOf (.device bus channel)).length = kSendChannelLength
  drops : next.dropped ≠ state.dropped → ∃ bus channel, action = .unregisterSendChannel bus channel ∧
    next.dropped = state.dropped ++ state.queueOf (.device bus channel)
  returns : ∀ call stage, state.holder = some (call, stage) → next.holder = none → ∀ bus, Affects state call bus → next.Drained bus

theorem release_drained (call : Call) (stage : Stage) (settled : Settled state) (inv : SyncInv state)
    (holder : state.holder = some (call, stage)) (proceeded : state.proceed call stage = some next) (free : next.holder = none)
    (bus : Int32) (affected : Affects state call bus) : next.Drained bus := by
  have listed : bus ∈ call.affected := by
    cases call with
    | commit order => exact settled.commits order stage holder bus affected
    | setSyncMode enabled order =>
      cases enabled with
      | false => exact settled.switches false order stage holder bus affected
      | true => exact absurd affected id
    | commitBus only => exact List.mem_singleton.mpr affected
    | setBusSyncMode only enabled =>
      cases enabled with
      | false => exact List.mem_singleton.mpr affected
      | true => exact absurd affected id
    | _ => exact absurd affected id
  have drained := inv.settled call stage holder bus
  cases stage with
  | send messages =>
    obtain rfl : state.release messages = next := by simpa [State.proceed] using proceeded
    exact drained listed
  | visit remaining messages =>
    cases remaining with
    | nil =>
      obtain rfl : state.release messages = next := by simpa [State.proceed] using proceeded
      exact drained (List.mem_filter.mpr ⟨listed, by simp⟩)
    | cons first rest =>
      cases call with
      | commit order | setSyncMode enabled order =>
        cases proceeded
        cases free
      | _ => exact absurd listed (by simp [State.proceed] at proceeded)
  | locked entries =>
    cases call with
    | commitBus only | setBusSyncMode only enabled =>
      simp only [State.proceed] at proceeded
      cases proceeded
      cases free
    | commit order => simp [State.proceed] at proceeded
    | setSyncMode enabled order => simp [State.proceed] at proceeded
    | _ => cases listed
  | publish =>
    cases call with
    | initializeBusSyncMode only => cases listed
    | _ => simp [State.proceed] at proceeded

theorem enter_histories (state : State) (bus : Int32) (enabled : Bool) (drains : Bus → Bool) :
    (state.enterBusMode bus enabled drains).2.overwritten = state.overwritten ∧
      (state.enterBusMode bus enabled drains).2.dropped = state.dropped := by
  simp only [State.enterBusMode]
  split <;> exact ⟨rfl, rfl⟩

theorem proceed_losses (call : Call) (stage : Stage) (inv : SyncInv state)
    (holder : state.holder = some (call, stage)) (proceeded : state.proceed call stage = some next) :
    next.dropped = state.dropped ∧ (next.overwritten = state.overwritten ∨
      ∃ bus channel entry found, state.buses.find bus = some found ∧ channel ∈ found.ids ∧ entry.stream = .device bus channel ∧
        next.overwritten = state.overwritten ++ found.overwrites channel ∧
          next.buses = state.buses.put bus (found.push channel entry)) := by
  have entered := enter_histories state
  cases stage with
  | send messages =>
    obtain rfl : state.release messages = next := by simpa [State.proceed] using proceeded
    exact ⟨rfl, .inl rfl⟩
  | publish =>
    cases call with
    | initializeBusSyncMode bus =>
      cases proceeded
      exact ⟨rfl, .inl rfl⟩
    | _ => simp [State.proceed] at proceeded
  | visit remaining messages =>
    cases remaining with
    | nil =>
      obtain rfl : state.release messages = next := by simpa [State.proceed] using proceeded
      exact ⟨rfl, .inl rfl⟩
    | cons bus rest =>
      cases call with
      | commit order | setSyncMode enabled order =>
        cases proceeded
        exact ⟨(entered bus _ _).2, .inl (entered bus _ _).1⟩
      | _ => simp [State.proceed] at proceeded
  | locked entries =>
    cases call with
    | submitDeviceMessage bus channel message =>
      obtain ⟨own, found, at_, present⟩ := inv.fits _ _ holder
      cases entries with
      | nil => simp [State.proceed] at proceeded
      | cons entry rest =>
        cases rest with
        | cons second rest => simp [State.proceed] at proceeded
        | nil =>
          simp only [State.proceed, at_] at proceeded
          split at proceeded
          · cases proceeded
            exact ⟨rfl, .inr ⟨bus, channel, entry, found, at_, present, own entry List.mem_cons_self, rfl, rfl⟩⟩
          · cases proceeded
            exact ⟨rfl, .inl rfl⟩
    | submitBusMessages bus messages immediate =>
      simp only [State.proceed] at proceeded
      split at proceeded
      · cases proceeded
      · split at proceeded <;> obtain rfl := Option.some.inj proceeded <;> exact ⟨rfl, .inl rfl⟩
    | commitBus bus | setBusSyncMode bus enabled | initializeBusSyncMode bus =>
      simp only [State.proceed] at proceeded
      cases proceeded
      exact ⟨(entered bus _ _).2, .inl (entered bus _ _).1⟩
    | _ => simp [State.proceed] at proceeded

theorem push_accounted (inv : SyncInv state) (bus : Int32) (channel : Nat) (entry : Entry) (found : Bus)
    (at_ : state.buses.find bus = some found) (present : channel ∈ found.ids) (own : entry.stream = .device bus channel)
    (overwritten : next.overwritten = state.overwritten ++ found.overwrites channel)
    (buses : next.buses = state.buses.put bus (found.push channel entry)) (lost : next.overwritten ≠ state.overwritten) :
    ∃ lost, next.overwritten = state.overwritten ++ lost ∧
      lost ++ next.queueOf (.device bus channel) = state.queueOf (.device bus channel) ++ [entry] ∧
        (next.queueOf (.device bus channel)).length = kSendChannelLength := by
  obtain ⟨_, moved, full, _, _⟩ := push_spec bus state.nextChannel found (inv.books.buses bus found at_) channel present entry own
  have before : state.queueOf (.device bus channel) = found.queueFor (.device bus channel) := by simp only [State.queueOf, Stream.bus, at_]
  have after : next.queueOf (.device bus channel) = (found.push channel entry).queueFor (.device bus channel) := by
    rw [queue_put state bus (found.push channel entry) _ next buses]
    exact if_pos rfl
  refine ⟨found.overwrites channel, overwritten, ?_, ?_⟩
  · rw [before, after, moved]
  · rw [after]
    refine full fun empty => lost ?_
    rw [overwritten, empty, List.append_nil]

theorem begin_keeps (call : Call) (begun : state.begin call = some next) :
    next.overwritten = state.overwritten ∧ next.dropped = state.dropped := by
  cases call with
  | submitDeviceMessage bus channel message =>
    simp only [State.begin] at begun
    split at begun
    · cases begun
    · split at begun
      · cases begun
        exact ⟨rfl, rfl⟩
      · cases begun
  | submitBusMessages bus messages immediate =>
    simp only [State.begin] at begun
    split at begun
    · split at begun <;> obtain rfl := Option.some.inj begun <;> exact ⟨rfl, rfl⟩
    · cases begun
  | _ =>
    simp only [State.begin] at begun
    split at begun
    · cases begun
      exact ⟨rfl, rfl⟩
    · cases begun

theorem step_accounted (action : Action) (inv : SyncInv state) (settled : Settled state)
    (allowed : CreatesNoBus state action) (taken : step state action = some next) : Accounted state action next := by
  cases action with
  | call call =>
    simp only [step] at taken
    split at taken
    · cases taken
    · next idle =>
        obtain ⟨overwritten, dropped⟩ := begin_keeps state next call taken
        have free : state.holder = none := by simpa using idle
        exact ⟨fun lost => absurd overwritten lost, fun lost => absurd dropped lost, by simp [free]⟩
  | proceed =>
    simp only [step] at taken
    split at taken
    · cases taken
    · next call stage holder =>
        obtain ⟨dropped, pushed⟩ := proceed_losses state next call stage inv holder taken
        refine ⟨?_, fun lost => absurd dropped lost, ?_⟩
        · intro lost
          rcases pushed with same | ⟨bus, channel, entry, found, at_, present, own, overwritten, buses⟩
          · exact absurd same lost
          · exact ⟨bus, channel, entry, push_accounted state next inv bus channel entry found at_ present own overwritten buses lost⟩
        · intro other otherStage held free bus affected
          cases holder.symm.trans held
          exact release_drained state next call stage settled inv holder taken free bus affected
  | makeDeviceWriter bus =>
    simp only [step, State.makeDeviceWriter] at taken
    split at taken
    · cases taken
    · split at taken
      · cases taken
        exact ⟨fun lost => absurd rfl lost, fun lost => absurd rfl lost, fun _ _ held free => by cases held.symm.trans free⟩
      · cases taken
  | unregisterSendChannel bus channel =>
    obtain ⟨found, at_, rfl⟩ := unregistered state next bus channel taken
    refine ⟨fun lost => absurd rfl lost, fun _ => ⟨bus, channel, rfl, ?_⟩, fun _ _ held free => by cases held.symm.trans free⟩
    simp only [State.queueOf, Stream.bus, at_]
    rfl
  | getBus bus => exact absurd allowed id
  | publishBus bus => exact absurd allowed id
  | abandonBus bus => exact absurd allowed id

end EncosDriver.Adapter
