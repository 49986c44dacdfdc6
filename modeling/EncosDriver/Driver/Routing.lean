import EncosDriver.Driver.Drained

set_option autoImplicit false

namespace EncosDriver.Driver

open Lib

def RouteEntry.claimKey (entry : RouteEntry) : BusKey := ⟨entry.key.adapter, rawIdxOf entry.key.uniqueId⟩

def Tables.Registers (tables : Tables) (entry : RouteEntry) : Prop :=
  ∃ registration, tables.registrations.find entry.record.device = some registration ∧ entry ∈ registration.routes

structure RegistrationOk (objects : Table Pointer BusKey) (records : Table RecordId RouteRecord) (device : Pointer)
    (registration : DeviceRegistration) (raw : Int32) : Prop where
  bus : objects.find registration.bus = some ⟨registration.adapter, raw⟩
  keys : ∀ entry ∈ registration.routes, entry.claimKey = ⟨registration.adapter, raw⟩
  distinct : (registration.routes.map fun entry => entry.record).Nodup
  records : ∀ entry ∈ registration.routes, entry.record.device = device ∧
    ∃ route, records.find entry.record = some route ∧
      route.retiring = false ∧ route.device = device ∧ route.bus = registration.bus ∧ route.adapter = registration.adapter

def NamedOk (objects : Table Pointer BusKey) (key : DeviceKey) (registration : DeviceRegistration) : Prop :=
  registration.bus = key.bus ∧ (key.kind = .motor → ∃ domain record,
    objects.find key.bus = some domain ∧ registration.adapter = domain.adapter ∧
      registration.routes = [⟨routeKey domain key.idx.toUInt32, record, false⟩])

structure Tables.Routed (tables : Tables) : Prop where
  buses : ∀ bus key, tables.busKeys.find bus = some key → tables.busObjects.find bus = some key
  exact : ∀ key record, tables.routes.find key = some record ↔
    ∃ entry, tables.Registers entry ∧ entry.claim = false ∧ entry.key = key ∧ entry.record = record
  claims : ∀ key record, tables.claimRoutes.find key = some record ↔
    ∃ entry, tables.Registers entry ∧ entry.claim = true ∧ entry.claimKey = key ∧ entry.record = record
  registrations : ∀ device registration, tables.registrations.find device = some registration →
    ∃ raw, RegistrationOk tables.busObjects tables.records device registration raw
  named : ∀ device key registration, tables.deviceKeys.find device = some key →
    tables.registrations.find device = some registration → NamedOk tables.busObjects key registration

def Frame.Publishes (tables : Tables) (self : CallId) : Frame → Prop
  | .createBus key pc => pc = .publish → tables.busObjects.find self = some key
  | .createDevice bus recipe pc => ∀ creation, pc.creation = some creation →
      tables.busObjects.find bus = some creation.busKey ∧
        (pc = .commit creation → tables.registrations.find self =
          some ⟨creation.busKey.adapter, bus, Tables.preparedRoutes self creation.busKey recipe⟩)
  | _ => True

variable (device : Pointer) (domain : BusKey) (recipe : DeviceRecipe)

theorem prepared_claim (entry : RouteEntry)
    (inside : entry ∈ Tables.preparedRoutes device domain recipe) : entry.claim = recipe.claimsBus := by
  unfold Tables.preparedRoutes at inside
  split at inside
  · next claims => rw [List.mem_singleton.mp inside, claims]
  · next claims =>
      obtain ⟨id, -, rfl⟩ := List.mem_map.mp inside
      simpa using claims

theorem prepared_key (entry : RouteEntry)
    (inside : entry ∈ Tables.preparedRoutes device domain recipe) : entry.claimKey = domain := by
  unfold Tables.preparedRoutes at inside
  split at inside
  · rw [List.mem_singleton.mp inside]
    simp [RouteEntry.claimKey, routeKey, raw_idx_of_unique_id]
  · obtain ⟨id, -, rfl⟩ := List.mem_map.mp inside
    simp [RouteEntry.claimKey, routeKey, raw_idx_of_unique_id]

theorem prepared_distinct : ((Tables.preparedRoutes device domain recipe).map fun entry => entry.record).Nodup := by
  unfold Tables.preparedRoutes
  split
  · exact List.nodup_singleton _
  · rw [List.map_map]
    refine List.Nodup.of_map (fun record : RecordId => record.index) ?_
    rw [List.map_map]
    have indices : recipe.canIds.zipIdx.map ((fun record : RecordId => record.index) ∘
        (fun entry : RouteEntry => entry.record) ∘ fun id => ⟨routeKey domain id.1, ⟨device, id.2⟩, false⟩) =
        recipe.canIds.zipIdx.map Prod.snd := List.map_congr_left fun _ _ => rfl
    rw [indices, List.zipIdx_map_snd]
    exact List.nodup_range'

theorem prepared_motor (device : Pointer) (domain : BusKey) (idx : Int32) :
    Tables.preparedRoutes device domain (.motor idx) = [⟨routeKey domain idx.toUInt32, ⟨device, 0⟩, false⟩] := rfl

theorem run_bus_object (state : DriverState) (id : CallId) (choice : Choice) (call : Call) (result : SectionResult)
    (backed : ∀ place, Backed place state) (runs : Runs state id choice call result) (bus : Pointer) (key : BusKey)
    (found : state.shared.busObjects.find bus = some key) :
    (result.effect.apply state.shared).busObjects.find bus = some key := by
  have from' := runs_from state id choice call result runs
  cases effect : result.effect with
  | constructBus made key' =>
    rw [effect] at from'
    obtain ⟨rfl, frame, -⟩ := from'
    have different : bus ≠ made := by
      rintro rfl
      refine backed_absent .busObject state (backed .busObject) bus call runs.present (by rw [frame]; exact id) ?_
      simp [Tables.has, found]
    simpa [Effect.apply, different] using found
  | _ => exact found

theorem run_uncommitted (state : DriverState) (id other : CallId) (choice : Choice) (call otherCall : Call) (result : SectionResult)
    (backed : ∀ place, Backed place state) (runs : Runs state id choice call result) (different : other ≠ id)
    (found : state.calls.find other = some otherCall) (not : ¬ otherCall.frame.backs other .device) :
    (result.effect.apply state.shared).registrations.find other = state.shared.registrations.find other := by
  have from' := runs_from state id choice call result runs
  have unnamed := backed_absent .device state (backed .device) other otherCall found not
  simp only [Tables.has, ne_eq, not_not] at unnamed
  rcases apply_registration _ _ _ _ _ _ from' other with same | own | ⟨bus, accepted⟩ | ⟨migration, migrated, motor⟩
  · exact same
  · exact absurd own different
  · rw [accepted] at from'
    obtain ⟨-, expected, key, -, -, -, registered, -⟩ := from'
    rw [unnamed] at registered
    cases registered
  · rw [migrated] at from'
    obtain ⟨busKey, registration, entry, ready⟩ := migration_ready _ _ _ _ from'.2.2.1
    have registered := ready.registered
    rw [motor, unnamed] at registered
    cases registered

theorem create_bus_publishes (tables : Tables) (self : CallId) (choice : Choice) (key : BusKey) (pc : CreateBusPc)
    (result : SectionResult) (ran : runCreateBus tables self choice key pc = some result) :
    result.frame.Publishes (result.effect.apply tables) self := by
  unfold runCreateBus draining at ran
  repeat' split at ran
  all_goals cases ran
  all_goals first
    | trivial
    | (intro publishing; cases publishing; done)
    | (intro publishing; simp [Effect.apply])

theorem create_device_publishes (tables : Tables) (self : CallId) (choice : Choice) (bus : Pointer) (recipe : DeviceRecipe)
    (pc : CreateDevicePc) (result : SectionResult) (ran : runCreateDevice tables self choice bus recipe pc = some result)
    (buses : ∀ bus key, tables.busKeys.find bus = some key → tables.busObjects.find bus = some key)
    (publishes : (Frame.createDevice bus recipe pc).Publishes tables self) :
    result.frame.Publishes (result.effect.apply tables) self := by
  cases pc with
  | publish creation =>
    simp only [runCreateDevice] at ran
    obtain ⟨there, -⟩ := publishes creation rfl
    repeat' split at ran
    all_goals cases ran
    · rintro _ ⟨⟩
      exact ⟨there, (fun other => by cases other)⟩
    · rintro _ ⟨⟩
      exact ⟨there, (fun other => by cases other)⟩
    · next domain found _ =>
      have same : domain = creation.busKey := by
        obtain ⟨key, named, rfl⟩ := Option.map_eq_some_iff.mp found
        have object := buses bus key named
        rw [there, Option.some.injEq] at object
        rw [← object]
      rintro _ ⟨⟩
      exact ⟨there, fun _ => by simp [Effect.apply, Tables.publishRoutes, same]⟩
  | enter =>
    simp only [runCreateDevice] at ran
    repeat' split at ran
    all_goals cases ran
    all_goals first
      | trivial
      | (rintro _ ⟨⟩; done)
      | (rintro _ ⟨⟩; exact ⟨buses bus _ ‹_›, (fun other => by cases other)⟩)
  | await publication =>
    simp only [runCreateDevice] at ran
    repeat' split at ran
    all_goals cases ran
    all_goals first | trivial | exact fun _ other => by cases other
  | drainRoutes creation remaining =>
    have there := (publishes creation rfl).1
    cases remaining with
    | nil =>
      cases ran
      rintro _ ⟨⟩
      exact ⟨there, (fun other => by cases other)⟩
    | cons record rest =>
      simp only [runCreateDevice] at ran
      split at ran
      · cases ran
      · cases ran
        rintro _ ⟨⟩
        exact ⟨there, (fun other => by cases other)⟩
  | _ =>
    have there := (publishes _ rfl).1
    simp only [runCreateDevice, draining] at ran
    repeat' split at ran
    all_goals cases ran
    all_goals try trivial
    all_goals
      rintro _ ⟨⟩
      exact ⟨there, (fun other => by cases other)⟩

structure Placed (state : DriverState) : Prop where
  grounded : Grounded state
  routed : state.shared.Routed

theorem publishes_kept : KeptLocally (fun state _ _ => Placed state) Frame.Publishes where
  fresh := by
    intro tables id request
    cases request <;> first | trivial | exact nofun
  entered := entered_receives _ fun _ _ _ _ _ => trivial
  own := by
    intro state id choice call result known publishes runs
    have before := publishes id call runs.present
    have ran := runs.ran
    have continues := frame_continues _ _ _ _ _ _ _ _ ran
    cases frame : call.frame with
    | createBus key pc =>
      rw [frame] at ran
      exact create_bus_publishes _ _ choice key pc result ran
    | createDevice bus recipe pc =>
      rw [frame] at ran before
      exact create_device_publishes _ _ choice bus recipe pc result ran known.routed.buses before
    | _ =>
      rw [frame] at continues
      cases next : result.frame with
      | createBus key pc | createDevice bus recipe pc =>
        rw [next] at continues
        exact continues.elim
      | _ => trivial
  others := by
    intro state id choice call result other otherCall known _ runs different found holds
    cases frame : otherCall.frame with
    | createDevice bus recipe pc =>
      rw [frame] at holds
      intro creation named
      obtain ⟨there, published⟩ := holds creation named
      refine ⟨run_bus_object state id choice call result known.grounded.backed runs bus _ there, ?_⟩
      rintro rfl
      rw [run_uncommitted state id other choice call otherCall result known.grounded.backed runs different found
        (by rw [frame]; exact not_false)]
      exact published rfl
    | createBus key pc =>
      rw [frame] at holds
      exact fun publishing => run_bus_object state id choice call result known.grounded.backed runs other key (holds publishing)
    | _ => trivial

theorem named_kept (objects next : Table Pointer BusKey) (kept : ∀ bus key, objects.find bus = some key → next.find bus = some key)
    (key : DeviceKey) (registration : DeviceRegistration) (named : NamedOk objects key registration) :
    NamedOk next key registration := by
  refine ⟨named.1, fun motor => ?_⟩
  obtain ⟨domain, record, there, adapter, routes⟩ := named.2 motor
  exact ⟨domain, record, kept _ _ there, adapter, routes⟩

theorem routed_kept (tables next : Tables) (routed : tables.Routed) (registrations : next.registrations = tables.registrations)
    (routes : next.routes = tables.routes) (claims : next.claimRoutes = tables.claimRoutes)
    (objects : ∀ bus key, tables.busObjects.find bus = some key → next.busObjects.find bus = some key)
    (buses : ∀ bus key, next.busKeys.find bus = some key → next.busObjects.find bus = some key)
    (records : ∀ record route, tables.records.find record = some route → ∃ after, next.records.find record = some after ∧
      after.retiring = route.retiring ∧ after.device = route.device ∧ after.bus = route.bus ∧ after.adapter = route.adapter)
    (named : ∀ device key registration, next.deviceKeys.find device = some key →
      tables.registrations.find device = some registration → NamedOk next.busObjects key registration) : next.Routed where
  buses := buses
  exact := by
    intro key record
    simp only [Tables.Registers, routes, registrations]
    exact routed.exact key record
  claims := by
    intro key record
    simp only [Tables.Registers, claims, registrations]
    exact routed.claims key record
  registrations := by
    intro device registration found
    rw [registrations] at found
    obtain ⟨raw, valid⟩ := routed.registrations device registration found
    refine ⟨raw, objects _ _ valid.bus, valid.keys, valid.distinct, fun entry inside => ?_⟩
    obtain ⟨own, route, held, serving, device', bus, adapter⟩ := valid.records entry inside
    obtain ⟨after, found, same, sameDevice, sameBus, sameAdapter⟩ := records entry.record route held
    exact ⟨own, after, found, same.trans serving, sameDevice.trans device', sameBus.trans bus, sameAdapter.trans adapter⟩
  named := by
    intro device key registration keyed found
    rw [registrations] at found
    exact named device key registration keyed found

end EncosDriver.Driver
