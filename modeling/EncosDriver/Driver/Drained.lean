import EncosDriver.Driver.Listing

set_option autoImplicit false

namespace EncosDriver.Driver

open Lib

def Frame.through (record : RecordId) : Frame → Nat
  | .receive _ _ (.deliver _ _ admitted) => admitted.count record
  | .receive _ _ (.inCallback _ _ current admitted _) => (current :: admitted).count record
  | .receive _ _ (.leaveRoute _ _ current admitted) => (current :: admitted).count record
  | _ => 0

def Frame.isReceive : Frame → Bool
  | .receive _ _ _ => true
  | _ => false

def Effect.enters (record : RecordId) : Effect → Nat
  | .enterRoutes records => records.count record
  | _ => 0

def Effect.leaves (record : RecordId) : Effect → Nat
  | .leaveRoute left => if left = record then 1 else 0
  | _ => 0

def inFlightIn (records : Table RecordId RouteRecord) (record : RecordId) : Nat :=
  ((records.find record).map RouteRecord.inFlight).getD 0

abbrev Tables.inFlight (tables : Tables) (record : RecordId) : Nat := inFlightIn tables.records record

def Tallied (state : DriverState) : Prop :=
  ∀ record, state.shared.inFlight record = state.tally fun call => call.frame.through record

theorem not_receive_through (frame : Frame) (other : frame.isReceive = false) (record : RecordId) : frame.through record = 0 := by
  cases frame with
  | receive adapter delivery pc => cases other
  | _ => rfl

theorem request_through (request : Request) (record : RecordId) : request.frame.through record = 0 := by
  cases request <;> rfl

theorem entered_through (tables : Tables) (fresh : CallId) (frame : Frame) (result : CallbackContext × Frame) (record : RecordId)
    (entered : enterCallback tables fresh frame = some result) : result.2.through record = frame.through record := by
  unfold enterCallback at entered
  split at entered
  all_goals cases entered
  all_goals rfl

theorem receive_stays (frame next : Frame) (continues : frame.Continues next) (other : frame.isReceive = false) :
    next.isReceive = false := by
  cases next with
  | receive adapter delivery pc => cases frame <;> first | (cases other; done) | exact continues.elim
  | _ => rfl

theorem receive_flow (tables : Tables) (replyOf : CallId → Option Reply) (self : CallId) (choice : Choice)
    (adapter : Pointer) (delivery : Delivery) (pc : ReceivePc) (result : SectionResult) (record : RecordId)
    (ran : runReceive tables replyOf self choice adapter delivery pc = some result) :
    result.frame.through record + result.effect.leaves record =
      (Frame.receive adapter delivery pc).through record + result.effect.enters record := by
  unfold runReceive afterRoutes at ran
  repeat' split at ran
  all_goals cases ran
  all_goals simp [Frame.through, Effect.enters, Effect.leaves, List.count_cons]

variable (state : DriverState) (id : CallId) (choice : Choice) (call : Call) (result : SectionResult)

theorem run_flow (runs : Runs state id choice call result) (record : RecordId) :
    result.frame.through record + result.effect.leaves record = call.frame.through record + result.effect.enters record := by
  have from' := runs_from state id choice call result runs
  obtain ⟨-, ran⟩ := runs
  cases receives : call.frame.isReceive with
  | true =>
    obtain ⟨context, frame⟩ := call
    cases frame with
    | receive adapter delivery pc => exact receive_flow _ _ _ choice adapter delivery pc result record ran
    | _ => cases receives
  | false =>
    have after := receive_stays _ _ (frame_continues _ _ _ _ _ _ _ _ ran) receives
    rw [not_receive_through _ receives, not_receive_through _ after]
    cases effect : result.effect with
    | enterRoutes records =>
      rw [effect] at from'
      obtain ⟨adapter, delivery, report, route, next, -⟩ := from'
      rw [next] at after
      cases after
    | leaveRoute left =>
      rw [effect] at from'
      obtain ⟨adapter, delivery, report, route, rest, -, next⟩ := from'
      rw [next] at after
      cases after
    | _ => rfl

section Counters

variable (records : Table RecordId RouteRecord)

theorem in_flight_modify (target record : RecordId) (change : RouteRecord → RouteRecord) :
    inFlightIn (records.modify target change) record =
      if record = target then ((records.find record).map fun route => (change route).inFlight).getD 0
      else inFlightIn records record := by
  unfold inFlightIn
  rw [Table.find_modify]
  by_cases same : record = target
  · subst same
    cases records.find record <;> simp
  · simp [same]

theorem in_flight_unchanged (targets : List RecordId) (record : RecordId) (change : RouteRecord → RouteRecord)
    (kept : ∀ route, (change route).inFlight = route.inFlight) :
    inFlightIn (records.modifyAll targets change) record = inFlightIn records record := by
  induction targets generalizing records with
  | nil => rfl
  | cons target rest ih =>
    have unfolded : records.modifyAll (target :: rest) change = (records.modify target change).modifyAll rest change := rfl
    rw [unfolded, ih, in_flight_modify]
    by_cases same : record = target
    · simp [same, kept, inFlightIn]
    · rw [if_neg same]

theorem in_flight_entered (targets : List RecordId) (record : RecordId)
    (present : record ∈ targets → records.find record ≠ none) :
    inFlightIn (records.modifyAll targets fun route => { route with inFlight := route.inFlight + 1 }) record =
      inFlightIn records record + targets.count record := by
  induction targets generalizing records with
  | nil => rfl
  | cons target rest ih =>
    have unfolded : records.modifyAll (target :: rest) (fun route => { route with inFlight := route.inFlight + 1 }) =
      (records.modify target fun route => { route with inFlight := route.inFlight + 1 }).modifyAll rest
        fun route => { route with inFlight := route.inFlight + 1 } := rfl
    rw [unfolded, ih, in_flight_modify, List.count_cons]
    · by_cases same : record = target
      · subst same
        obtain ⟨route, found⟩ := Option.ne_none_iff_exists'.mp (present List.mem_cons_self)
        simp only [inFlightIn, found, Option.map_some, Option.getD_some, ↓reduceIte, beq_self_eq_true]
        omega
      · simp [same, Ne.symm same]
    · intro inside absent
      refine present (List.mem_cons_of_mem _ inside) ?_
      rw [Table.find_modify] at absent
      by_cases same : record = target
      · simpa [same] using absent
      · simpa [same] using absent

theorem in_flight_emplaced (entries : List (RecordId × RouteRecord)) (record : RecordId)
    (idle : ∀ entry ∈ entries, entry.2.inFlight = 0) :
    inFlightIn (records.emplaceAll entries) record = inFlightIn records record := by
  induction entries generalizing records with
  | nil => rfl
  | cons entry rest ih =>
    have unfolded : records.emplaceAll (entry :: rest) = (records.emplace entry.1 entry.2).emplaceAll rest := rfl
    rw [unfolded, ih _ fun other inside => idle other (List.mem_cons_of_mem _ inside)]
    unfold inFlightIn
    rw [Table.find_emplace]
    by_cases same : record = entry.1
    · cases found : records.find entry.1 with
      | none => simp [same, found, idle entry List.mem_cons_self]
      | some route => simp [same, found]
    · rw [if_neg same]

end Counters

theorem live_found (tables : Tables) (record : RecordId) (live : tables.liveRecord record = true) : tables.records.find record ≠ none := by
  intro absent
  simp [Tables.liveRecord, absent] at live

variable (tables : Tables) (self : CallId) (context : CallbackContext)

theorem admitted_live (frame next : Frame) (records : List RecordId)
    (from' : (Effect.enterRoutes records).From tables self context frame next) (record : RecordId) (inside : record ∈ records) :
    tables.liveRecord record = true := by
  obtain ⟨adapter, delivery, report, route, -, ⟨message, -, -, ⟨-, -, rfl⟩ | ⟨-, -, only, rfl, found⟩⟩ | ⟨before, -, -, -, only, rfl, found⟩⟩ := from'
  · obtain ⟨entry, kept, rfl⟩ := List.mem_map.mp inside
    have admitted := (List.mem_filter.mp kept).2
    simp only [Bool.and_eq_true] at admitted
    exact admitted.2
  · obtain rfl := List.mem_singleton.mp inside
    exact (Option.filter_eq_some_iff.mp found).2
  · obtain rfl := List.mem_singleton.mp inside
    exact (Option.filter_eq_some_iff.mp found).2

theorem apply_in_flight (frame next : Frame) (effect : Effect)
    (from' : effect.From tables self context frame next) (record : RecordId) :
    (effect.apply tables).inFlight record = tables.inFlight record + effect.enters record - effect.leaves record := by
  cases effect with
  | publishRoutes call bus adapter domain recipe =>
    refine in_flight_emplaced tables.records _ record ?_
    intro entry inside
    obtain ⟨prepared, -, rfl⟩ := List.mem_map.mp inside
    rfl
  | detachDevice device | acceptDevice call device bus | activateRoutes device =>
    exact in_flight_unchanged tables.records _ record _ fun _ => rfl
  | enterRoutes records =>
    exact in_flight_entered tables.records records record fun inside =>
      live_found tables record (admitted_live tables self context frame next records from' record inside)
  | leaveRoute left =>
    simp only [Tables.inFlight, Effect.apply, Effect.enters, Effect.leaves, in_flight_modify]
    by_cases same : record = left
    · subst same
      cases found : tables.records.find record <;> simp [inFlightIn, found]
    · simp [same, Ne.symm same]
  | _ => rfl

theorem step_tallied (state next : DriverState) (action : Action) (numbered : World.Numbered state) (tallied : Tallied state)
    (steps : Steps state action next) : Tallied next := by
  intro record
  have before := tallied record
  cases steps with
  | begins action request notRun =>
    rw [World.tally_start _ _ _ numbered, begin_call_frame, request_through]
    exact before
  | enters id call request context frame present entered =>
    have counted := World.tally_advance (fun call : Call => call.frame.through record) state id call
      ⟨state.shared, { call with frame := frame }, some (beginCall context request)⟩ numbered present
      (by rintro _ ⟨⟩; exact request_through request record)
    have same := entered_through _ _ _ _ record entered
    simp only at same counted
    rw [World.advance_shared]
    simp only [before]
    omega
  | runs id call choice result present ran =>
    have run : Runs state id choice call result := ⟨present, ran⟩
    have counted := World.tally_advance (fun call : Call => call.frame.through record) state id call
      ⟨result.effect.apply state.shared, { call with frame := result.frame }, result.nested.map (beginCall call.context)⟩ numbered present
      (by
        intro child started
        obtain ⟨request, -, rfl⟩ := Option.map_eq_some_iff.mp started
        exact request_through request record)
    have written := apply_in_flight _ _ _ _ _ _ (runs_from state id choice call result run) record
    have flow := run_flow state id choice call result run record
    have most := World.amount_le_tally (fun call : Call => call.frame.through record) state id call present
    simp only at counted most
    rw [World.advance_shared]
    simp only [written]
    omega

theorem reachable_tallied (allowed : DriverState → Action → Prop) (state : DriverState)
    (reached : ReachableWith system allowed state) : Tallied state := by
  refine reachable_invariant_under system allowed World.Numbered Tallied (reachable_numbered allowed) ?_ ?_ state reached
  · rintro _ rfl record
    rfl
  · intro state action next numbered _ tallied _ taken
    exact step_tallied state next action numbered tallied (step_cases state next action taken)

def Tables.RecordsListed (tables : Tables) : Prop :=
  ∀ device registration, tables.registrations.find device = some registration →
    ∀ index, tables.records.find ⟨device, index⟩ ≠ none → ⟨device, index⟩ ∈ Tables.retiredRecords registration

def Tables.Quiet (tables : Tables) (device : Pointer) (remaining : List RecordId) : Prop :=
  ∀ index route, tables.records.find ⟨device, index⟩ = some route →
    route.retiring = true ∧ (route.inFlight = 0 ∨ ⟨device, index⟩ ∈ remaining)

def DestroyDevicePc.drained : DestroyDevicePc → Bool
  | .accept | .drainRoutes _ _ => false
  | .drainGate _ | .erase _ | .finish => true

def Frame.Draining (tables : Tables) (_ : CallId) : Frame → Prop
  | .destroyDevice device _ pc =>
    match pc with
    | .accept => True
    | .drainRoutes _ remaining => tables.Quiet device remaining
    | _ => tables.Quiet device []
  | _ => True

theorem run_records_listed
    (backed : ∀ place, Backed place state) (listed : state.shared.RecordsListed) (runs : Runs state id choice call result) :
    (result.effect.apply state.shared).RecordsListed := by
  intro device registration found index present
  have from' := runs_from state id choice call result runs
  cases effect : result.effect with
  | publishRoutes made bus adapter domain recipe =>
    rw [effect] at from' found present
    obtain ⟨rfl, creation, frame, -⟩ := from'
    simp only [Effect.apply, Tables.publishRoutes, ne_eq, Table.find_emplace_all_none, not_and_or, not_not,
      List.map_map] at present
    by_cases own : device = made
    · subst own
      have fresh : state.shared.records.find ⟨device, index⟩ = none := by
        by_contra held
        exact backed_absent .record state (backed .record) device call runs.present (by rw [frame]; exact id) ⟨index, held⟩
      simp only [Effect.apply, Tables.publishRoutes, Table.find_put, ↓reduceIte] at found
      cases found
      exact present.resolve_left (not_not_intro fresh)
    · simp only [Effect.apply, Tables.publishRoutes, Table.find_put, if_neg own] at found
      refine listed device registration found index (present.resolve_right ?_)
      intro inside
      obtain ⟨entry, prepared, same⟩ := List.mem_map.mp inside
      have named := prepared_records made domain recipe entry prepared
      simp only [Function.comp_apply] at same
      rw [same] at named
      exact own named
  | detachDevice made =>
    rw [effect] at found present
    simp only [Effect.apply, Tables.detachRegistrationLocked, Table.find_remove, ne_eq, Table.find_modify_all_none] at found present
    by_cases own : device = made
    · simp [own] at found
    · exact listed device registration (by simpa [own] using found) index present
  | acceptDevice made target bus =>
    rw [effect] at found present
    simp only [Effect.apply, Tables.detachRegistrationLocked, Table.find_remove, ne_eq, Table.find_modify_all_none] at found present
    by_cases own : device = target
    · simp [own] at found
    · exact listed device registration (by simpa [own] using found) index present
  | activateRoutes target =>
    rw [effect] at found present
    simp only [Effect.apply, Tables.registerReceiveRoutes, ne_eq, Table.find_modify_all_none] at found present
    exact listed device registration found index present
  | enterRoutes records =>
    rw [effect] at found present
    simp only [Effect.apply, ne_eq, Table.find_modify_all_none] at found present
    exact listed device registration found index present
  | leaveRoute left =>
    rw [effect] at found present
    exact listed device registration found index (modify_ne_none state.shared.records left _ _ present)
  | migrate migration =>
    rw [effect] at found present
    simp only [Effect.apply, Tables.migrate, Table.find_modify] at found present
    by_cases own : device = migration.motor
    · rw [if_pos own] at found
      obtain ⟨before, registered, rfl⟩ := Option.map_eq_some_iff.mp found
      have inside := listed device before (own ▸ registered) index present
      unfold Tables.setFrontKey
      split
      · exact inside
      · next entry rest routes => simpa [Tables.retiredRecords, routes] using inside
    · rw [if_neg own] at found
      exact listed device registration found index present
  | _ =>
    rw [effect] at found present
    exact listed device registration found index present

theorem run_quiet (runs : Runs state id choice call result) (device : Pointer) (remaining : List RecordId)
    (entered : ∃ holder, state.calls.find device = some holder ∧ holder.frame.entered device)
    (quiet : state.shared.Quiet device remaining) : (result.effect.apply state.shared).Quiet device remaining := by
  intro index route found
  have from' := runs_from state id choice call result runs
  let Calm (route : RouteRecord) : Prop := route.retiring = true ∧ (route.inFlight = 0 ∨ ⟨device, index⟩ ∈ remaining)
  cases effect : result.effect with
  | publishRoutes made bus adapter domain recipe =>
    rw [effect] at from' found
    obtain ⟨rfl, creation, frame, -⟩ := from'
    have different : device ≠ made := by
      rintro rfl
      obtain ⟨holder, present, settled⟩ := entered
      rw [runs.present] at present
      cases present
      simp [frame, Frame.entered, Frame.backs] at settled
    refine quiet index route ?_
    rw [← found]
    refine (Table.find_emplace_all_other _ _ _ ?_).symm
    intro inside
    rw [List.map_map] at inside
    obtain ⟨entry, prepared, same⟩ := List.mem_map.mp inside
    have named := prepared_records made domain recipe entry prepared
    simp only [Function.comp_apply] at same
    rw [same] at named
    exact different named
  | detachDevice made | acceptDevice made target bus =>
    rw [effect] at found
    refine Table.modify_all_keeps _ _ _ _ Calm ?_ (quiet index) route found
    exact fun _ calm => ⟨rfl, calm.2⟩
  | activateRoutes target =>
    rw [effect] at found
    refine Table.modify_all_keeps _ _ _ _ Calm ?_ (quiet index) route found
    exact fun _ calm => calm
  | enterRoutes records =>
    rw [effect] at from' found
    have outside : ⟨device, index⟩ ∉ records := by
      intro inside
      have live := admitted_live _ _ _ _ _ _ from' _ inside
      obtain ⟨before, held⟩ := Option.ne_none_iff_exists'.mp (live_found _ _ live)
      simp [Tables.liveRecord, held, (quiet index before held).1] at live
    simp only [Effect.apply] at found
    rw [Table.find_modify_all_other _ _ _ _ outside] at found
    exact quiet index route found
  | leaveRoute left =>
    rw [effect] at found
    refine Table.modify_keeps _ _ _ _ Calm ?_ (quiet index) route found
    exact fun _ calm => ⟨calm.1, calm.2.imp_left fun idle => by simp [idle]⟩
  | _ =>
    rw [effect] at found
    exact quiet index route found

theorem detached_quiet (tables : Tables) (device : Pointer) (registration : DeviceRegistration) (listed : tables.RecordsListed)
    (registered : tables.registrations.find device = some registration) :
    (tables.detachRegistrationLocked device).Quiet device (tables.registeredRecords device) := by
  intro index route found
  have records : tables.registeredRecords device = Tables.retiredRecords registration := by
    simp [Tables.registeredRecords, registered]
  have present : tables.records.find ⟨device, index⟩ ≠ none := by
    intro absent
    have gone := (Table.find_modify_all_none _ (tables.registeredRecords device)
      (fun record : RouteRecord => { record with retiring := true }) _).mpr absent
    simp only [Tables.detachRegistrationLocked, gone] at found
    cases found
  have inside : ⟨device, index⟩ ∈ tables.registeredRecords device := by
    rw [records]
    exact listed device registration registered index present
  simp only [Tables.detachRegistrationLocked] at found
  rw [Table.find_modify_all _ _ (fun record : RouteRecord => { record with retiring := true }) (fun _ => rfl),
    if_pos inside] at found
  obtain ⟨before, -, rfl⟩ := Option.map_eq_some_iff.mp found
  exact ⟨rfl, .inr inside⟩

theorem destroy_device_draining (device : Pointer)
    (expected : DeviceKind) (pc : DestroyDevicePc) (result : SectionResult) (listed : tables.RecordsListed)
    (ran : runDestroyDevice tables self context device expected pc = some result)
    (draining : (Frame.destroyDevice device expected pc).Draining tables self) :
    result.frame.Draining (result.effect.apply tables) self := by
  cases pc with
  | accept =>
    simp only [runDestroyDevice] at ran
    repeat' split at ran
    all_goals cases ran
    all_goals try trivial
    -- Every record of the device is in its registration, which has just been detached.
    next key found refused contained =>
    obtain ⟨registration, registered⟩ := Option.ne_none_iff_exists'.mp
      ((Table.contains_true _ _).mp (not_not.mp (not_or.mp contained).1))
    exact detached_quiet tables device registration listed registered
  | drainRoutes key remaining =>
    cases remaining with
    | nil =>
      cases ran
      exact draining
    | cons record rest =>
      simp only [runDestroyDevice] at ran
      split at ran
      · cases ran
      · next idle =>
          cases ran
          intro index route (found : tables.records.find ⟨device, index⟩ = some route)
          obtain ⟨retiring, still⟩ := draining index route found
          refine ⟨retiring, still.elim .inl fun inside => ?_⟩
          rcases List.mem_cons.mp inside with same | later
          · rw [← same] at idle
            exact .inl (by simpa [Tables.recordBusy, found] using idle)
          · exact .inr later
  | drainGate key =>
    simp only [runDestroyDevice, Driver.draining] at ran
    split at ran
    · cases ran
    · cases ran
      exact draining
  | erase key =>
    cases ran
    exact draining
  | finish =>
    cases ran
    trivial

def Retired (state : DriverState) : Prop := Grounded state ∧ state.shared.RecordsListed

theorem destroyed_entered (grounded : Grounded state) (id : CallId) (call : Call)
    (present : state.calls.find id = some call) (object : Pointer) (holds : call.frame.token = some (.deleting object)) :
    ∃ holder, state.calls.find object = some holder ∧ holder.frame.entered object := by
  have marked : state.shared.deleting.find object = some id := (grounded.owned (.deleting object) id).mpr ⟨call, present, holds⟩
  exact grounded.deletingEntered object (by simp [marked])

theorem draining_kept : KeptLocally (fun state _ _ => Retired state) Frame.Draining where
  fresh := by
    intro tables id request
    cases request <;> trivial
  entered := entered_receives _ fun _ _ _ _ _ => trivial
  own := by
    intro state id choice call result known draining runs
    have before := draining id call runs.present
    have ran := runs.ran
    have continues := frame_continues _ _ _ _ _ _ _ _ ran
    cases frame : call.frame with
    | destroyDevice device expected pc =>
      rw [frame] at ran before
      exact destroy_device_draining _ _ call.context device expected pc result known.2 ran before
    | _ =>
      rw [frame] at continues
      cases next : result.frame with
      | destroyDevice device expected pc =>
        rw [next] at continues
        exact continues.elim
      | _ => trivial
  others := by
    intro state id choice call result other otherCall known _ runs different found holds
    cases frame : otherCall.frame with
    | destroyDevice device expected pc =>
      have entered (started : pc ≠ .accept) := destroyed_entered state known.1 other otherCall found device (by
        rw [frame]
        cases pc <;> first | exact absurd rfl started | rfl)
      rw [frame] at holds
      cases pc with
      | accept => trivial
      | _ => exact run_quiet state id choice call result runs device _ (entered nofun) holds
    | _ => trivial

structure Silent (device : Pointer) (state : DriverState) : Prop where
  entered : ∃ holder, state.calls.find device = some holder ∧ holder.frame.entered device
  quiet : state.shared.Quiet device []

theorem step_silent (state next : DriverState) (action : Action) (grounded : Grounded state) (steps : Steps state action next)
    (device : Pointer) (silent : Silent device state) : Silent device next := by
  refine ⟨step_entered state next action grounded.numbered steps device silent.entered, ?_⟩
  refine tables_kept (fun now _ _ => now = state) (fun tables => tables.Quiet device []) ?_ state next action silent.quiet
    (fun _ _ _ => rfl) steps
  rintro now id choice call result rfl quiet runs
  exact run_quiet now id choice call result runs device [] silent.entered quiet

theorem silent_through (tallied : Tallied state) (device : Pointer) (silent : Silent device state)
    (id : CallId) (call : Call) (present : state.calls.find id = some call) (record : RecordId) (own : record.device = device) :
    call.frame.through record = 0 := by
  have counted := tallied record
  have idle : state.shared.inFlight record = 0 := by
    obtain ⟨named, index⟩ := record
    obtain rfl : named = device := own
    cases found : state.shared.records.find ⟨named, index⟩ with
    | none => simp [inFlightIn, found]
    | some route => simpa [inFlightIn, found] using ((silent.quiet index route found).2.resolve_right (fun other => by cases other))
  have most := World.amount_le_tally (fun call : Call => call.frame.through record) state id call present
  rw [← counted, idle] at most
  exact Nat.le_zero.mp most

structure RoutesDrain (state : DriverState) : Prop where
  -- The counter of a route is the number of deliveries that were admitted through it and have not left.
  counted : ∀ record route, state.shared.records.find record = some route →
    route.inFlight = state.tally fun call => call.frame.through record
  -- A delivery that leaves has been counted.
  leaving : ∀ id call adapter delivery report route record admitted, state.calls.find id = some call →
    call.frame = .receive adapter delivery (.leaveRoute report route record admitted) → 0 < state.shared.inFlight record
  -- Once the records of a device are drained, nothing is inside its callbacks, now or later.
  silent : ∀ id call device expected pc, state.calls.find id = some call → call.frame = .destroyDevice device expected pc →
    pc.drained = true → ∀ later, RunsWhile system (fun _ => True) state later →
      ∀ other otherCall record, later.calls.find other = some otherCall → record.device = device → otherCall.frame.through record = 0

theorem reachable_draining (allowed : DriverState → Action → Prop) (state : DriverState)
    (reached : ReachableWith system allowed state) :
    state.shared.RecordsListed ∧ Every Frame.Draining state := by
  refine reachable_invariant_under system allowed Grounded (fun state => state.shared.RecordsListed ∧ Every Frame.Draining state)
    (reachable_grounded allowed) ?_ ?_ state reached
  · rintro _ rfl
    refine ⟨fun device registration found => ?_, fun id call present => ?_⟩
    · simp [initial] at found
    · simp [initial] at present
  · rintro state action next grounded _ ⟨listed, draining⟩ _ taken
    have steps := step_cases state next action taken
    refine ⟨?_, every_kept _ Frame.Draining draining_kept state next action draining (fun _ _ _ => ⟨grounded, listed⟩) steps⟩
    exact tables_kept (fun now _ _ => now = state) Tables.RecordsListed
      (fun now id choice call result same before runs =>
        run_records_listed now id choice call result (same ▸ grounded.backed) before runs)
      state next action listed (fun _ _ _ => rfl) steps

theorem silent_later (state later : DriverState) (device : Pointer) (reached : Reachable system state)
    (ran : RunsWhile system (fun _ => True) state later) (silent : Silent device state) : Silent device later := by
  induction ran with
  | here => exact silent
  | next before after action previous _ taken ih =>
    have grounded := reachable_grounded Always before (runs_while_reachable system _ state before reached previous)
    exact step_silent before after action grounded (step_cases before after action taken) device ih

theorem routes_drain (state : DriverState) (reached : Reachable system state) : RoutesDrain state := by
  have tallied := reachable_tallied Always state reached
  refine ⟨?_, ?_, ?_⟩
  · intro record route found
    rw [← tallied record]
    simp [inFlightIn, found]
  · intro id call adapter delivery report route record admitted present frame
    have most := World.amount_le_tally (fun call : Call => call.frame.through record) state id call present
    rw [tallied record]
    refine Nat.lt_of_lt_of_le ?_ most
    simp [frame, Frame.through]
  · intro id call device expected pc present frame drained later ran other otherCall record found own
    have grounded := reachable_grounded Always state reached
    have entered := destroyed_entered state grounded id call present device (by
      rw [frame]
      cases pc with
      | accept => cases drained
      | drainRoutes key remaining => cases drained
      | _ => rfl)
    have quiet : state.shared.Quiet device [] := by
      have known := (reachable_draining Always state reached).2 id call present
      rw [frame] at known
      cases pc with
      | accept => cases drained
      | drainRoutes key remaining => cases drained
      | _ => exact known
    have reachedLater := runs_while_reachable system _ state later reached ran
    have silent := silent_later state later device reached ran ⟨entered, quiet⟩
    exact silent_through later (reachable_tallied Always later reachedLater) device silent other otherCall found record own

def runsOf (id : CallId) (count : Nat) : List Action := List.replicate count (.run id .proceed)

def twoMotorsRun : List Action :=
  .call (.createAdapter "can0") :: runsOf 0 2 ++ .call (.createBus ⟨0, 0⟩) :: runsOf 1 5 ++
    .call (.createDevice 1 (.motor 1)) :: runsOf 2 6 ++ .call (.createDevice 1 (.motor 2)) :: runsOf 3 6

def drainingRun : List Action := twoMotorsRun ++ .call (.destroyDevice 2 .motor) :: runsOf 4 4

theorem routes_drain_destroyed : ∃ state, RoutesDrain state ∧ ∃ call expected pc, state.calls.find 4 = some call ∧
    call.frame = .destroyDevice 2 expected pc ∧ pc.drained = true := by
  have checked : (runActions system initial drainingRun).any (fun state =>
      (state.calls.find 4).any fun call =>
        match call.frame with
        | .destroyDevice device _ pc => device = 2 && pc.drained
        | _ => false) = true := by decide +kernel
  obtain ⟨state, reached, facts⟩ := run_actions_found system drainingRun initial (.start _ rfl) _ checked
  obtain ⟨call, found, inside⟩ := (Option.any_eq_true _ _).mp facts
  refine ⟨state, routes_drain state reached, call, ?_⟩
  split at inside
  · next device expected pc frame =>
      simp only [Bool.and_eq_true, decide_eq_true_eq] at inside
      exact ⟨expected, pc, found, inside.1 ▸ frame, inside.2⟩
  · cases inside

def Frame.running (record : RecordId) : Frame → Nat
  | .receive _ _ (.inCallback _ _ current _ _) => if current = record then 1 else 0
  | _ => 0

def broadcastRun : List Action := twoMotorsRun ++ .receive 0 [⟨0, systemFrameId⟩] :: runsOf 4 7

theorem counter_above_running : ∃ state, Reachable system state ∧ ∃ record route, state.shared.records.find record = some route ∧
    route.inFlight ≠ state.tally fun call => call.frame.running record := by
  have checked : (runActions system initial broadcastRun).any (fun state =>
      ((state.shared.records.find ⟨2, 0⟩).any fun route =>
        route.inFlight ≠ state.tally fun call => call.frame.running ⟨2, 0⟩)) = true := by decide +kernel
  obtain ⟨state, reached, facts⟩ := run_actions_found system broadcastRun initial (.start _ rfl) _ checked
  obtain ⟨route, found, above⟩ := (Option.any_eq_true _ _).mp facts
  exact ⟨state, reached, ⟨2, 0⟩, route, found, of_decide_eq_true above⟩

end EncosDriver.Driver
