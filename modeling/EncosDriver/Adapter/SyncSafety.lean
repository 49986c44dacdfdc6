import EncosDriver.Adapter.SyncInvariant

set_option autoImplicit false

namespace EncosDriver.Adapter

open Lib Message

def State.Drained (state : State) (bus : Int32) : Prop := ∀ found, state.buses.find bus = some found → found.Empty

def Call.affected : Call → List Int32
  | .commit order => order
  | .setSyncMode false order => order
  | .commitBus bus => [bus]
  | .setBusSyncMode bus false => [bus]
  | _ => []

def Call.settled (call : Call) : Stage → List Int32
  | .visit remaining _ => call.affected.filter fun bus => bus ∉ remaining
  | .send _ => call.affected
  | _ => []

def Fits (state : State) : Call → Stage → Prop
  | .submitDeviceMessage bus channel _, .locked entries =>
    (∀ entry ∈ entries, entry.stream = .device bus channel) ∧ ∃ found, state.buses.find bus = some found ∧ channel ∈ found.ids
  | .submitBusMessages bus _ immediate, .locked entries =>
    ∀ entry ∈ entries, entry.stream = if immediate then .immediate bus else .bulk bus
  | _, .locked entries => entries = []
  | _, _ => True

structure SyncInv (state : State) : Prop where
  books : Books state
  fits : ∀ call stage, state.holder = some (call, stage) → Fits state call stage
  settled : ∀ call stage, state.holder = some (call, stage) → ∀ bus ∈ call.settled stage, state.Drained bus

def InitializesEmpty (state : State) (action : Action) : Prop :=
  action = .proceed → ∀ bus entries, state.holder = some (.initializeBusSyncMode bus, .locked entries) →
    state.defaultSyncMode = true ∨ state.Drained bus

variable (state : State)

theorem inv_released (books : Books state) (free : state.holder = none) : SyncInv state := by
  refine ⟨books, ?_, ?_⟩
  · intro call stage holder
    rw [free] at holder
    cases holder
  · intro call stage holder
    rw [free] at holder
    cases holder

theorem inv_held (books : Books state) (call : Call) (stage : Stage) (holder : state.holder = some (call, stage))
    (fits : Fits state call stage) (settled : ∀ bus ∈ call.settled stage, state.Drained bus) : SyncInv state := by
  refine ⟨books, ?_, ?_⟩
  · intro other otherStage same
    rw [holder] at same
    cases same
    exact fits
  · intro other otherStage same
    rw [holder] at same
    cases same
    exact settled

theorem begin_empty (books : Books state) (free : state.holder = none) (mode : Bool) (call : Call) (stage : Stage)
    (moving : stage.moving = []) (entering : stage.entering = []) :
    Books ({ state with defaultSyncMode := mode }.hold call stage) := by
  have movingBefore : state.moving = [] := by simp [State.moving, free]
  have enteringBefore : state.entering = [] := by simp [State.entering, free]
  have movingAfter : State.moving ({ state with defaultSyncMode := mode }.hold call stage) = [] := moving
  have enteringAfter : State.entering ({ state with defaultSyncMode := mode }.hold call stage) = [] := entering
  refine books_moved state _ books rfl rfl rfl rfl rfl ?_ ?_
  · intro entry
    rw [movingAfter, enteringAfter, movingBefore, enteringBefore]
    rfl
  · intro stream
    simp only [State.history, movingAfter, enteringAfter, movingBefore, enteringBefore,
      queue_same state ({ state with defaultSyncMode := mode }.hold call stage) rfl]
    rfl

variable (state next : State)

theorem begin_inv (call : Call) (inv : SyncInv state) (free : state.holder = none)
    (begun : state.begin call = some next) : SyncInv next := by
  obtain ⟨books, _, _⟩ := inv
  cases call with
  | submitDeviceMessage bus channel message =>
    simp only [State.begin] at begun
    split at begun
    · cases begun
    · next found at_ =>
        split at begun
        · next ready =>
            cases begun
            obtain ⟨_, own⟩ := number_entries state (.device bus channel)
              [⟨bus, { message with frameFlags := sanitizeCanFrameFlags message.frameFlags }⟩]
            exact inv_held _ (books_enter state books _ _ _ free) _ _ rfl ⟨own, found, at_, ready.2⟩ (by simp [Call.settled])
        · cases begun
  | submitBusMessages bus messages immediate =>
    simp only [State.begin] at begun
    split at begun
    · split at begun
      · cases begun
        exact inv_released state books free
      · cases begun
        obtain ⟨_, own⟩ := number_entries state (if immediate then .immediate bus else .bulk bus) messages
        exact inv_held _ (books_enter state books _ _ _ free) _ _ rfl own (by simp [Call.settled])
    · cases begun
  | commit order =>
    simp only [State.begin] at begun
    split at begun
    · cases begun
      refine inv_held _ (begin_empty state books free _ _ _ rfl rfl) _ _ rfl trivial ?_
      simp [Call.settled, Call.affected]
    · cases begun
  | setSyncMode enabled order =>
    simp only [State.begin] at begun
    split at begun
    · cases begun
      refine inv_held _ (begin_empty state books free _ _ _ rfl rfl) _ _ rfl trivial ?_
      cases enabled <;> simp [Call.settled, Call.affected]
    · cases begun
  | commitBus bus | setBusSyncMode bus enabled | initializeBusSyncMode bus =>
    simp only [State.begin] at begun
    split at begun
    · cases begun
      exact inv_held _ (begin_empty state books free state.defaultSyncMode _ _ rfl rfl) _ _ rfl rfl (by simp [Call.settled])
    · cases begun

theorem mode_inv (inv : SyncInv state) (call : Call) (stage stage' : Stage) (bus : Int32) (enabled : Bool)
    (drains : Bus → Bool) (holder : state.holder = some (call, stage)) (entering : stage.entering = [])
    (moving : stage'.moving = stage.moving ++ (state.enterBusMode bus enabled drains).1) (entering' : stage'.entering = [])
    (quiet : ∀ found, state.buses.find bus = some found → enabled = false → drains found = false → found.Empty)
    (fits : Fits ((state.enterBusMode bus enabled drains).2.hold call stage') call stage')
    (settled : ∀ other ∈ call.settled stage', other ∈ call.settled stage ∨
      (other = bus ∧ ∀ found, state.buses.find bus = some found → drains found = true ∨ found.Empty)) :
    SyncInv ((state.enterBusMode bus enabled drains).2.hold call stage') := by
  obtain ⟨books, others, emptied⟩ := books_mode state inv.books call stage stage' bus enabled drains holder entering moving entering' quiet
  refine inv_held _ books call stage' rfl fits ?_
  intro other member new located
  by_cases same : other = bus
  · subst same
    cases at_ : state.buses.find other with
    | none =>
      have unchanged : (state.enterBusMode other enabled drains).2 = state := by simp only [State.enterBusMode, at_]
      have absent : (state.enterBusMode other enabled drains).2.buses.find other = none := by rw [unchanged, at_]
      have impossible : none = some new := absent.symm.trans located
      cases impossible
    | some found =>
      refine emptied found new at_ located ?_
      rcases settled other member with before | ⟨_, reason⟩
      · exact .inr (inv.settled call stage holder other before found at_)
      · exact reason found at_
  · have kept : state.buses.find other = some new := (others other same).symm.trans located
    rcases settled other member with before | ⟨here, _⟩
    · exact inv.settled call stage holder other before new kept
    · exact absurd here same

theorem visit_settled (call : Call) (bus : Int32) (rest : List Int32) (messages taken : List Entry) {reason : Prop} (done : reason) :
    ∀ other ∈ call.settled (.visit rest (messages ++ taken)), other ∈ call.settled (.visit (bus :: rest) messages) ∨
      (other = bus ∧ reason) := by
  intro other member
  obtain ⟨affected, behind⟩ := List.mem_filter.mp member
  by_cases same : other = bus
  · exact .inr ⟨same, done⟩
  · exact .inl (List.mem_filter.mpr ⟨affected, by simpa [same] using behind⟩)

theorem drained_or_direct (direct : ∀ bus found, state.buses.find bus = some found → found.syncMode = false → found.Empty)
    (bus : Int32) : ∀ found, state.buses.find bus = some found → (!false && found.syncMode) = true ∨ found.Empty := by
  intro found at_
  cases mode : found.syncMode with
  | true => exact .inl rfl
  | false => exact .inr (direct bus found at_ mode)

theorem turned_off (direct : ∀ bus found, state.buses.find bus = some found → found.syncMode = false → found.Empty)
    (bus : Int32) (enabled : Bool) :
    ∀ found, state.buses.find bus = some found → enabled = false → (!enabled && found.syncMode) = false → found.Empty := by
  rintro found at_ rfl kept
  exact direct bus found at_ (by simpa using kept)

theorem proceed_inv (call : Call) (stage : Stage) (inv : SyncInv state)
    (holder : state.holder = some (call, stage)) (allowed : InitializesEmpty state .proceed)
    (proceeded : state.proceed call stage = some next) : SyncInv next := by
  have fits := inv.fits call stage holder
  have direct := inv.books.direct
  cases stage with
  | send messages =>
    obtain rfl : state.release messages = next := by simpa [State.proceed] using proceeded
    exact inv_released _ (books_release state inv.books call (.send messages) messages holder rfl rfl) rfl
  | publish =>
    cases call with
    | initializeBusSyncMode bus =>
      cases proceeded
      refine inv_released _ (books_moved state _ inv.books rfl rfl rfl rfl rfl ?_ ?_) rfl
      · intro entry
        simp [State.moving, State.entering, holder, Stage.moving, Stage.entering]
      · intro stream
        simp [State.history, State.moving, State.entering, State.queueOf, holder, Stage.moving, Stage.entering]
    | _ => simp [State.proceed] at proceeded
  | visit remaining messages =>
    cases remaining with
    | nil =>
      obtain rfl : state.release messages = next := by simpa [State.proceed] using proceeded
      exact inv_released _ (books_release state inv.books call (.visit [] messages) messages holder rfl rfl) rfl
    | cons bus rest =>
      cases call with
      | commit order =>
        cases proceeded
        refine mode_inv state inv (.commit order) _ _ bus true _ holder rfl rfl rfl (fun _ _ off => by cases off) trivial ?_
        refine visit_settled _ bus rest messages _ ?_
        intro found at_
        cases mode : found.syncMode with
        | true => exact .inl rfl
        | false => exact .inr (direct bus found at_ mode)
      | setSyncMode enabled order =>
        cases proceeded
        refine mode_inv state inv (.setSyncMode enabled order) _ _ bus enabled _ holder rfl rfl rfl ?_ trivial ?_
        · exact turned_off state direct bus enabled
        · cases enabled with
          | true => exact fun other member => by simp [Call.settled, Call.affected] at member
          | false => exact visit_settled _ bus rest messages _ (drained_or_direct state direct bus)
      | _ => simp [State.proceed] at proceeded
  | locked entries =>
    cases call with
    | submitDeviceMessage bus channel message =>
      obtain ⟨own, found, at_, present⟩ := fits
      cases entries with
      | nil => simp [State.proceed] at proceeded
      | cons entry rest =>
        cases rest with
        | cons second rest => simp [State.proceed] at proceeded
        | nil =>
          simp only [State.proceed, at_] at proceeded
          split at proceeded
          · next synchronized =>
              cases proceeded
              exact inv_released _ (books_push state inv.books _ bus channel entry found holder at_ present
                (own entry List.mem_cons_self) synchronized) rfl
          · next off =>
              cases proceeded
              have empty : state.queueOf (.device bus channel) = [] := by
                simp only [State.queueOf, Stream.bus, at_]
                exact empty_queues found (direct bus found at_ (by simpa using off)) _
              exact inv_held _ (books_direct state inv.books _ [entry] _ holder own empty) _ _ rfl trivial
                (by simp [Call.settled, Call.affected])
    | submitBusMessages bus messages immediate =>
      simp only [State.proceed] at proceeded
      split at proceeded
      · cases proceeded
      · next found at_ =>
          split at proceeded
          · next queued =>
              cases proceeded
              obtain ⟨synchronized, later⟩ : found.syncMode = true ∧ immediate = false := by simpa using queued
              subst later
              exact inv_released _ (books_bulk state inv.books _ bus entries found holder at_ fits synchronized) rfl
          · next passed =>
              cases proceeded
              have empty : state.queueOf (if immediate then .immediate bus else .bulk bus) = [] := by
                cases immediate with
                | true => simp only [State.queueOf, ↓reduceIte, Stream.bus, at_, Bus.queueFor]
                | false =>
                  simp only [State.queueOf, Bool.false_eq_true, ↓reduceIte, Stream.bus, at_]
                  exact empty_queues found (direct bus found at_ (by simpa using passed)) _
              exact inv_held _ (books_direct state inv.books _ entries _ holder fits empty) _ _ rfl trivial
                (by simp [Call.settled, Call.affected])
    | commitBus bus =>
      simp only [State.proceed] at proceeded
      cases proceeded
      refine mode_inv state inv (.commitBus bus) _ _ bus true _ holder fits ?_ rfl (fun _ _ off => by cases off) trivial ?_
      · rfl
      · intro other member
        exact .inr ⟨List.mem_singleton.mp member, fun _ _ => .inl rfl⟩
    | setBusSyncMode bus enabled =>
      simp only [State.proceed] at proceeded
      cases proceeded
      refine mode_inv state inv (.setBusSyncMode bus enabled) _ _ bus enabled _ holder fits ?_ rfl ?_ trivial ?_
      · rfl
      · exact turned_off state direct bus enabled
      · cases enabled with
        | true => exact fun other member => by simp [Call.settled, Call.affected] at member
        | false =>
          intro other member
          exact .inr ⟨List.mem_singleton.mp member, drained_or_direct state direct bus⟩
    | initializeBusSyncMode bus =>
      simp only [State.proceed] at proceeded
      cases proceeded
      refine mode_inv state inv (.initializeBusSyncMode bus) _ .publish bus state.defaultSyncMode _ holder fits ?_ rfl ?_ trivial ?_
      · simp only [State.enterBusMode]
        split <;> rfl
      · intro found at_ off _
        rcases allowed rfl bus entries holder with on | empty
        · rw [on] at off
          cases off
        · exact empty found at_
      · intro other member
        simp [Call.settled] at member
    | _ => simp [State.proceed] at proceeded

theorem inv_beside (state after : State) (inv : SyncInv state) (books : Books after) (holder : after.holder = state.holder)
    (channels : ∀ bus channel message stage, state.holder = some (.submitDeviceMessage bus channel message, stage) →
      ∀ found, state.buses.find bus = some found → channel ∈ found.ids →
        ∃ kept, after.buses.find bus = some kept ∧ channel ∈ kept.ids)
    (drained : ∀ bus, state.Drained bus → after.Drained bus) : SyncInv after := by
  refine ⟨books, ?_, ?_⟩
  · intro call stage held
    rw [holder] at held
    have fits := inv.fits call stage held
    cases call with
    | submitDeviceMessage bus channel message =>
      cases stage with
      | locked entries =>
        obtain ⟨own, found, at_, present⟩ := fits
        exact ⟨own, channels bus channel message _ held found at_ present⟩
      | _ => trivial
    | _ => cases stage <;> exact fits
  · intro call stage held bus member
    rw [holder] at held
    exact drained bus (inv.settled call stage held bus member)

theorem put_drained (state after : State) (bus : Int32) (new : Bus) (buses : after.buses = state.buses.put bus new)
    (empty : state.Drained bus → new.Empty) : ∀ other, state.Drained other → after.Drained other := by
  intro other drained found located
  rw [buses, Table.find_put] at located
  split at located
  · next same =>
      cases located
      exact empty (same ▸ drained)
  · exact drained found located

theorem writer_inv (bus : Int32) (inv : SyncInv state) (taken : state.makeDeviceWriter bus = some next) :
    SyncInv next := by
  simp only [State.makeDeviceWriter] at taken
  split at taken
  · cases taken
  · next found at_ =>
      split at taken
      · cases taken
        refine inv_beside state _ inv (books_writer state inv.books bus found at_) rfl ?_ ?_
        · intro holderBus channel message stage _ old located present
          by_cases same : holderBus = bus
          · subst same
            obtain rfl := Option.some.inj (at_.symm.trans located)
            exact ⟨_, Table.put_same _ _ _, by simp only [Bus.ids, List.map_append]; exact List.mem_append_left _ present⟩
          · exact ⟨old, (Table.put_other _ _ _ _ same).trans located, present⟩
        · refine put_drained state _ bus _ rfl fun drained => ?_
          have empty : found.contents = [] := drained found at_
          have queued := Ring.empty_queued kSendChannelLength Entry send_channel_positive
          simpa [Bus.Empty, Bus.contents, queued] using empty
      · cases taken

theorem removed_empty (found : Bus) (channel : Nat) (empty : found.Empty) : (found.remove channel).Empty := by
  obtain ⟨channels, bulk⟩ := List.append_eq_nil_iff.mp empty
  refine List.append_eq_nil_iff.mpr ⟨?_, bulk⟩
  refine List.flatMap_eq_nil_iff.mpr fun held member => ?_
  exact List.flatMap_eq_nil_iff.mp channels held (List.mem_of_mem_filter member)

theorem unregister_inv (bus : Int32) (channel : Nat) (inv : SyncInv state)
    (taken : state.unregisterSendChannel bus channel = some next) : SyncInv next := by
  simp only [State.unregisterSendChannel] at taken
  split at taken
  · cases taken
  · next found at_ =>
      obtain ⟨rfl, free⟩ : State.unregisterSendChannel.removed state bus channel found = next ∧
          ∀ holderBus used message stage, state.holder = some (.submitDeviceMessage holderBus used message, stage) → used ≠ channel := by
        split at taken
        · next holderBus used message stage holder =>
            split at taken
            · cases taken
            · next other =>
                refine ⟨Option.some.inj taken, ?_⟩
                intro otherBus otherUsed otherMessage otherStage held
                rw [holder] at held
                cases held
                exact other
        · next none =>
            exact ⟨Option.some.inj taken, fun holderBus used message stage held => absurd held (none holderBus used message stage)⟩
      refine inv_beside state _ inv (books_unregister state inv.books bus channel found at_) rfl ?_ ?_
      · intro holderBus used message stage held old located present
        by_cases same : holderBus = bus
        · subst same
          obtain rfl := Option.some.inj (at_.symm.trans located)
          refine ⟨_, Table.put_same _ _ _, ?_⟩
          obtain ⟨existing, member, rfl⟩ := List.mem_map.mp present
          exact List.mem_map.mpr ⟨existing, List.mem_filter.mpr ⟨member, by simpa using free _ _ _ _ held⟩, rfl⟩
        · exact ⟨old, (Table.put_other _ _ _ _ same).trans located, present⟩
      · exact put_drained state _ bus _ rfl fun drained => removed_empty found channel (drained found at_)

theorem creation_inv (state after : State) (inv : SyncInv state) (same : after = { state with pending := after.pending, returned := after.returned }) :
    SyncInv after := by
  rw [same]
  exact ⟨{ inv.books with }, inv.fits, inv.settled⟩

theorem step_inv (action : Action) (inv : SyncInv state) (allowed : InitializesEmpty state action)
    (taken : step state action = some next) : SyncInv next := by
  cases action with
  | call call =>
    simp only [step] at taken
    split at taken
    · cases taken
    · next free => exact begin_inv state next call inv (by simpa using free) taken
  | proceed =>
    simp only [step] at taken
    split at taken
    · cases taken
    · next call stage holder => exact proceed_inv state next call stage inv holder allowed taken
  | makeDeviceWriter bus => exact writer_inv state next bus inv taken
  | unregisterSendChannel bus channel => exact unregister_inv state next bus channel inv taken
  | getBus bus =>
    simp only [step, State.getBus] at taken
    split at taken
    · cases taken
      exact creation_inv state _ inv rfl
    · split at taken
      · cases taken
      · cases taken
        exact creation_inv state _ inv rfl
  | publishBus bus =>
    simp only [step, State.publishBus] at taken
    split at taken
    · next free =>
        cases taken
        have absent : state.buses.find bus = none := by simpa using free.2
        refine inv_beside state _ inv (books_publish_bus state inv.books bus absent) rfl ?_ ?_
        · intro holderBus channel message stage _ old located present
          have different : holderBus ≠ bus := by
            rintro rfl
            rw [absent] at located
            cases located
          exact ⟨old, (Table.put_other _ _ _ _ different).trans located, present⟩
        · exact put_drained state _ bus _ rfl fun _ => rfl
    · cases taken
  | abandonBus bus =>
    simp only [step, State.abandonBus] at taken
    split at taken
    · cases taken
      exact creation_inv state _ inv rfl
    · cases taken

structure Initial (state : State) : Prop where
  buses : ∀ bus found, state.buses.find bus = some found → found.Empty ∧ found.ids.Nodup ∧ ∀ id ∈ found.ids, id < state.nextChannel
  idle : state.holder = none ∧ state.pending = []
  unused : state.submitted = [] ∧ state.handed = [] ∧ state.overwritten = [] ∧ state.dropped = []

def system : System State Action where
  init := Initial
  step := step

theorem initial_inv (initial : Initial state) : SyncInv state := by
  obtain ⟨holder, _⟩ := initial.idle
  obtain ⟨submitted, handed, overwritten, dropped⟩ := initial.unused
  have moving : state.moving = [] := by simp [State.moving, holder]
  have entering : state.entering = [] := by simp [State.entering, holder]
  refine inv_released state ⟨?_, ?_, ?_, by rw [submitted]; rfl, ?_⟩ holder
  · intro bus found at_
    obtain ⟨empty, distinct, used⟩ := initial.buses bus found at_
    exact empty_bus_ok bus state.nextChannel found empty distinct used
  · intro bus found at_ _
    exact (initial.buses bus found at_).1
  · intro entry
    have none : state.queuedCount entry = 0 := by
      refine Table.sum_zero _ _ fun bus found at_ => ?_
      rw [show found.contents = [] from (initial.buses bus found at_).1, List.count_nil]
    simp [State.places, moving, entering, submitted, handed, overwritten, dropped, none]
  · intro stream
    have none : state.queueOf stream = [] := by
      simp only [State.queueOf]
      split
      · next found at_ => exact empty_queues found (initial.buses _ found at_).1 stream
      · rfl
    simp [State.history, moving, entering, handed, none, ofStream, Numbered]

theorem sync_inv (reached : ReachableWith system InitializesEmpty state) : SyncInv state :=
  reachable_invariant system InitializesEmpty SyncInv initial_inv
    (fun state action next inv allowed taken => step_inv state next action inv allowed taken) state reached

def NoneStranded (state : State) : Prop := ∀ bus found, state.buses.find bus = some found → found.syncMode = false → found.Empty

theorem none_stranded (state : State) :
    (ReachableWith system InitializesEmpty state → NoneStranded state) ∧
      ∀ next, ReachableWith system InitializesEmpty state → ¬ InitializesEmpty state .proceed →
        step state .proceed = some next → ∃ after, step next .proceed = some after ∧ after.holder = none ∧ ¬ NoneStranded after := by
  refine ⟨fun reached => (sync_inv state reached).books.direct, ?_⟩
  intro next reached broken taken
  simp only [InitializesEmpty, forall_const] at broken
  push Not at broken
  obtain ⟨bus, entries, holder, off, held⟩ := broken
  obtain ⟨found, at_, full⟩ : ∃ found, state.buses.find bus = some found ∧ ¬ found.Empty := by
    by_contra none
    exact held fun found at_ => by_contra fun full => none ⟨found, at_, full⟩
  simp only [step, holder, State.proceed, State.enterBusMode, at_] at taken
  cases taken
  refine ⟨_, rfl, rfl, ?_⟩
  intro calm
  have mode : (found.enterMode state.defaultSyncMode false).2.syncMode = false := Bool.eq_false_iff.mpr off
  exact full (calm bus (found.enterMode state.defaultSyncMode false).2 (Table.put_same state.buses bus _) mode)

def emptyAdapter : State := ⟨false, ∅, [], [], 0, none, [], [], [], []⟩

theorem empty_adapter_initial : Initial emptyAdapter :=
  ⟨fun _ _ found => by simp [emptyAdapter] at found, ⟨rfl, rfl⟩, ⟨rfl, rfl, rfl, rfl⟩⟩

def initializesEmpty (state : State) : Action → Bool
  | .proceed =>
    match state.holder with
    | some (.initializeBusSyncMode bus, .locked _) =>
      state.defaultSyncMode || (state.buses.find bus).all fun found => found.contents.isEmpty
    | _ => true
  | _ => true

theorem initializes_empty (state : State) (action : Action) (passed : initializesEmpty state action = true) :
    InitializesEmpty state action := by
  rintro rfl bus entries holder
  simp only [initializesEmpty, holder, Bool.or_eq_true, Option.all_eq_true] at passed
  rcases passed with on | empty
  · exact .inl on
  · exact .inr fun found at_ => List.isEmpty_iff.mp (empty found at_)

def queuedOn (state : State) (bus : Int32) : Nat := ((state.buses.find bus).map fun found => found.contents.length).getD 0

def sendsDirectly (state : State) (bus : Int32) : Bool := (state.buses.find bus).any fun found => !found.syncMode

def queueRun : List Action :=
  [.getBus 0, .publishBus 0, .call (.initializeBusSyncMode 0), .proceed, .proceed, .makeDeviceWriter 0,
    .call (.setBusSyncMode 0 true), .proceed, .proceed, .call (.submitDeviceMessage 0 0 ⟨1, 0, 1, payload []⟩), .proceed,
    .call (.submitBusMessages 0 [⟨0, ⟨2, 0, 1, payload []⟩⟩, ⟨0, ⟨3, 0, 1, payload []⟩⟩] false), .proceed]

def drainRun : List Action := [.call (.setBusSyncMode 0 false), .proceed, .proceed]

def queuedState : State := (runChecked system initializesEmpty emptyAdapter queueRun).getD emptyAdapter

def drainedState : State := (runChecked system initializesEmpty queuedState drainRun).getD queuedState

theorem drained_reached : ReachableWith system InitializesEmpty drainedState :=
  run_checked_default system InitializesEmpty initializesEmpty initializes_empty drainRun queuedState
    (run_checked_default system InitializesEmpty initializesEmpty initializes_empty queueRun emptyAdapter
      (.start _ empty_adapter_initial))

def earlyUseRun : List Action :=
  [.getBus 0, .publishBus 0, .getBus 0, .makeDeviceWriter 0, .call (.setBusSyncMode 0 true), .proceed, .proceed,
    .call (.submitDeviceMessage 0 0 ⟨1, 0, 1, payload []⟩), .proceed, .call (.initializeBusSyncMode 0), .proceed, .proceed]

def usedState : State :=
  (runChecked system initializesEmpty emptyAdapter (earlyUseRun.take 10)).getD emptyAdapter

theorem used_reached : ReachableWith system InitializesEmpty usedState :=
  run_checked_default system InitializesEmpty initializesEmpty initializes_empty (earlyUseRun.take 10) emptyAdapter
    (.start _ empty_adapter_initial)

def overwrittenState : State := (step usedState .proceed).getD usedState

theorem used_breaks : step usedState .proceed = some overwrittenState ∧ ¬ InitializesEmpty usedState .proceed := by
  obtain ⟨ran, holder, off, full⟩ : (step usedState .proceed).isSome = true ∧
      usedState.holder = some (.initializeBusSyncMode 0, .locked []) ∧ usedState.defaultSyncMode = false ∧
      (usedState.buses.find 0).any (fun found => !found.contents.isEmpty) = true := by decide +kernel
  refine ⟨?_, fun allowed => ?_⟩
  · obtain ⟨next, taken⟩ := Option.isSome_iff_exists.mp ran
    rw [overwrittenState, taken, Option.getD_some]
  · obtain ⟨found, at_, queued⟩ := (Option.any_eq_true _ _).mp full
    rcases allowed rfl 0 [] holder with on | drained
    · cases off.symm.trans on
    · have empty : found.contents = [] := drained found at_
      simp [empty] at queued

def earlyUseState : State := (runActions system emptyAdapter earlyUseRun).getD emptyAdapter

/-- Three messages are queued in synchronized mode and handed over by the drain; early use breaks the condition. -/
theorem none_stranded_drained :
    (sendsDirectly queuedState 0 = false ∧ queuedOn queuedState 0 = 3 ∧ queuedState.handed = []) ∧
      (sendsDirectly drainedState 0 = true ∧ queuedOn drainedState 0 = 0 ∧ drainedState.handed.length = 3) ∧
      NoneStranded drainedState ∧
      ∃ after, step overwrittenState .proceed = some after ∧ after.holder = none ∧ ¬ NoneStranded after := by
  obtain ⟨queued, drained⟩ : (sendsDirectly queuedState 0 = false ∧ queuedOn queuedState 0 = 3 ∧ queuedState.handed = []) ∧
      sendsDirectly drainedState 0 = true ∧ queuedOn drainedState 0 = 0 ∧ drainedState.handed.length = 3 := by decide +kernel
  refine ⟨queued, drained, (none_stranded drainedState).1 drained_reached, ?_⟩
  exact (none_stranded usedState).2 overwrittenState used_reached used_breaks.2 used_breaks.1

theorem message_stranded : ∃ state, Reachable system state ∧ state.holder = none ∧ ¬ NoneStranded state := by
  obtain ⟨idle, left⟩ : earlyUseState.holder.isNone = true ∧
      (earlyUseState.buses.find 0).any (fun found => !found.syncMode && !found.contents.isEmpty) = true := by decide +kernel
  refine ⟨earlyUseState, ?_, Option.isNone_iff_eq_none.mp idle, fun calm => ?_⟩
  · exact run_actions_default system earlyUseRun emptyAdapter (.start _ empty_adapter_initial)
  · obtain ⟨found, at_, stranded⟩ := (Option.any_eq_true _ _).mp left
    simp only [Bool.and_eq_true, Bool.not_eq_true'] at stranded
    have empty : found.contents = [] := calm 0 found at_ stranded.1
    simp [empty] at stranded

end EncosDriver.Adapter
