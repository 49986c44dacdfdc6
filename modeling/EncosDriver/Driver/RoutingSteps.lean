import EncosDriver.Driver.Routing

set_option autoImplicit false

namespace EncosDriver.Driver

open Lib

variable (tables : Tables)

theorem registers_record (routed : tables.Routed) (device : Pointer) (registration : DeviceRegistration)
    (found : tables.registrations.find device = some registration) (entry : RouteEntry) (inside : entry ∈ registration.routes) :
    entry.record.device = device ∧ tables.Registers entry := by
  obtain ⟨raw, valid⟩ := routed.registrations device registration found
  obtain ⟨own, -⟩ := valid.records entry inside
  exact ⟨own, registration, own ▸ found, inside⟩

variable (self adapter bus : Pointer) (domain : BusKey) (recipe : DeviceRecipe)

theorem published_registers (free : tables.registrations.find self = none) (entry : RouteEntry) :
    (tables.publishRoutes self adapter bus domain recipe).Registers entry ↔
      entry ∈ Tables.preparedRoutes self domain recipe ∨ tables.Registers entry := by
  simp only [Tables.Registers, Tables.publishRoutes, Table.find_put]
  by_cases own : entry.record.device = self
  · have before : ¬ ∃ registration, tables.registrations.find entry.record.device = some registration ∧
        entry ∈ registration.routes := by
      rintro ⟨registration, found, -⟩
      rw [own, free] at found
      cases found
    simp [own, free]
  · have outside : entry ∉ Tables.preparedRoutes self domain recipe :=
      fun inside => own (prepared_records self domain recipe entry inside)
    simp [own, outside]

theorem published_exact (clear : tables.routesConflict self domain recipe = false) (key : RouteKey) (record : RecordId) :
    (tables.publishRoutes self adapter bus domain recipe).routes.find key = some record ↔
      tables.routes.find key = some record ∨
        ∃ entry ∈ Tables.preparedRoutes self domain recipe, entry.claim = false ∧ entry.key = key ∧ entry.record = record := by
  simp only [Tables.routesConflict, Bool.or_eq_false_iff] at clear
  by_cases claims : recipe.claimsBus
  · have none : ¬ ∃ entry ∈ Tables.preparedRoutes self domain recipe,
        entry.claim = false ∧ entry.key = key ∧ entry.record = record := by
      rintro ⟨entry, inside, exact, -⟩
      rw [prepared_claim self domain recipe entry inside, claims] at exact
      cases exact
    simp [Tables.publishRoutes, claims, none]
  · have free := clear.2
    rw [if_neg claims, Bool.or_eq_false_iff, List.any_eq_false] at free
    obtain ⟨absent, distinct⟩ := free
    simp only [decide_not, Bool.not_eq_eq_eq_not, Bool.not_false, decide_eq_true_eq] at distinct
    have found := Table.find_emplace_all tables.routes
      ((Tables.preparedRoutes self domain recipe).map fun entry => (entry.key, entry.record)) key record
      (by
        intro pair inside
        obtain ⟨entry, prepared, rfl⟩ := List.mem_map.mp inside
        have clearEntry := absent entry prepared
        simp only [Bool.or_eq_true, not_or, Table.contains_true, not_not] at clearEntry
        exact clearEntry.1)
      (by
        rw [List.map_map]
        exact distinct)
    simp only [Tables.publishRoutes, if_neg claims, found, List.mem_map, Prod.mk.injEq]
    have exact : ∀ entry ∈ Tables.preparedRoutes self domain recipe, entry.claim = false := fun entry inside => by
      rw [prepared_claim self domain recipe entry inside]
      simpa using claims
    constructor
    · rintro (before | ⟨entry, inside, keyed, recorded⟩)
      · exact .inl before
      · exact .inr ⟨entry, inside, exact entry inside, keyed, recorded⟩
    · rintro (before | ⟨entry, inside, -, keyed, recorded⟩)
      · exact .inl before
      · exact .inr ⟨entry, inside, keyed, recorded⟩

theorem published_claims (clear : tables.routesConflict self domain recipe = false) (key : BusKey) (record : RecordId) :
    (tables.publishRoutes self adapter bus domain recipe).claimRoutes.find key = some record ↔
      tables.claimRoutes.find key = some record ∨
        ∃ entry ∈ Tables.preparedRoutes self domain recipe, entry.claim = true ∧ entry.claimKey = key ∧ entry.record = record := by
  simp only [Tables.routesConflict, Bool.or_eq_false_iff] at clear
  by_cases claims : recipe.claimsBus
  · have free := clear.2
    rw [if_pos claims, Table.contains_false] at free
    simp only [Tables.publishRoutes, if_pos claims, Table.find_put]
    have prepared : Tables.preparedRoutes self domain recipe =
        [⟨routeKey domain kDeviceClaimBusRouteId, ⟨self, 0⟩, true⟩] := if_pos claims
    have keyed : (⟨routeKey domain kDeviceClaimBusRouteId, ⟨self, 0⟩, true⟩ : RouteEntry).claimKey = domain :=
      prepared_key self domain recipe _ (prepared ▸ List.mem_singleton_self _)
    simp only [prepared, List.mem_singleton, exists_eq_left, true_and, keyed]
    by_cases here : key = domain
    · simp [here, free]
    · simp [here, Ne.symm here]
  · have none : ¬ ∃ entry ∈ Tables.preparedRoutes self domain recipe,
        entry.claim = true ∧ entry.claimKey = key ∧ entry.record = record := by
      rintro ⟨entry, inside, claimed, -⟩
      rw [prepared_claim self domain recipe entry inside] at claimed
      exact claims claimed
    simp [Tables.publishRoutes, claims, none]

theorem emplaced_records (fresh : ∀ index, tables.records.find ⟨self, index⟩ = none) (record : RecordId) (route : RouteRecord) :
    (tables.publishRoutes self adapter bus domain recipe).records.find record = some route ↔
      tables.records.find record = some route ∨
        ∃ entry ∈ Tables.preparedRoutes self domain recipe, entry.record = record ∧
          route = ⟨self, bus, adapter, recipe.bindsCallback, 0, false⟩ := by
  have found := Table.find_emplace_all tables.records
    ((Tables.preparedRoutes self domain recipe).map fun entry =>
      (entry.record, (⟨self, bus, adapter, recipe.bindsCallback, 0, false⟩ : RouteRecord))) record route
    (by
      intro pair inside
      obtain ⟨entry, prepared, rfl⟩ := List.mem_map.mp inside
      have own := prepared_records self domain recipe entry prepared
      have absent := fresh entry.record.index
      rw [← own] at absent
      exact absent)
    (by
      rw [List.map_map]
      exact prepared_distinct self domain recipe)
  simp only [Tables.publishRoutes, found, List.mem_map, Prod.mk.injEq]
  constructor
  · rintro (before | ⟨entry, inside, recorded, rfl⟩)
    · exact .inl before
    · exact .inr ⟨entry, inside, recorded, rfl⟩
  · rintro (before | ⟨entry, inside, recorded, rfl⟩)
    · exact .inl before
    · exact .inr ⟨entry, inside, recorded, rfl⟩

theorem routed_published (routed : tables.Routed) (self adapter bus : Pointer) (domain : BusKey)
    (recipe : DeviceRecipe) (fresh : ∀ index, tables.records.find ⟨self, index⟩ = none)
    (unnamed : tables.deviceKeys.find self = none) (object : tables.busObjects.find bus = some domain)
    (home : domain.adapter = adapter) (clear : tables.routesConflict self domain recipe = false) :
    (tables.publishRoutes self adapter bus domain recipe).Routed := by
  have free : tables.registrations.find self = none := by
    simp only [Tables.routesConflict, Bool.or_eq_false_iff, Table.contains_false] at clear
    exact clear.1
  have registers := published_registers tables self adapter bus domain recipe free
  -- An entry is registered now if it was before or is one of the device's own.
  have either (holds : RouteEntry → Prop) :
      ((∃ entry, tables.Registers entry ∧ holds entry) ∨ ∃ entry ∈ Tables.preparedRoutes self domain recipe, holds entry) ↔
        ∃ entry, (tables.publishRoutes self adapter bus domain recipe).Registers entry ∧ holds entry := by
    simp only [registers, or_and_right, exists_or]
    exact or_comm
  constructor
  case buses => exact routed.buses
  case exact =>
    intro key record
    rw [published_exact tables self adapter bus domain recipe clear, routed.exact]
    exact either _
  case claims =>
    intro key record
    rw [published_claims tables self adapter bus domain recipe clear, routed.claims]
    exact either _
  case registrations =>
    intro device registration found
    simp only [Tables.publishRoutes, Table.find_put] at found
    have held := emplaced_records tables self adapter bus domain recipe fresh
    by_cases own : device = self
    · rw [if_pos own, Option.some.injEq] at found
      subst found own
      subst home
      refine ⟨domain.rawIdx, object, fun entry inside => prepared_key device domain recipe entry inside,
        prepared_distinct device domain recipe, fun entry inside => ⟨prepared_records device domain recipe entry inside,
          _, (held _ _).mpr (.inr ⟨entry, inside, rfl, rfl⟩), rfl, rfl, rfl, rfl⟩⟩
    · rw [if_neg own] at found
      obtain ⟨raw, valid⟩ := routed.registrations device registration found
      refine ⟨raw, valid.bus, valid.keys, valid.distinct, fun entry inside => ?_⟩
      obtain ⟨recorded, route, there, facts⟩ := valid.records entry inside
      exact ⟨recorded, route, (held _ _).mpr (.inl there), facts⟩
  case named =>
    intro device key registration keyed found
    have different : device ≠ self := by
      rintro rfl
      have absent : (tables.publishRoutes device adapter bus domain recipe).deviceKeys.find device = none := unnamed
      rw [absent] at keyed
      cases keyed
    exact routed.named device key registration keyed (by simpa [Tables.publishRoutes, different] using found)

theorem detached_registers (device : Pointer) (entry : RouteEntry) :
    (tables.detachRegistrationLocked device).Registers entry ↔ tables.Registers entry ∧ entry.record.device ≠ device := by
  simp only [Tables.Registers, Tables.detachRegistrationLocked, Table.find_remove]
  by_cases own : entry.record.device = device
  · simp [own]
  · simp [own]

theorem registered_adapter {objects : Table Pointer BusKey} {records : Table RecordId RouteRecord} {device : Pointer}
    {registration : DeviceRegistration} {raw : Int32} (valid : RegistrationOk objects records device registration raw)
    (entry : RouteEntry) (inside : entry ∈ registration.routes) : entry.key.adapter = registration.adapter :=
  congrArg BusKey.adapter (valid.keys entry inside)

theorem detached_entries (routed : tables.Routed) (device : Pointer) (retired : DeviceRegistration)
    (found : tables.registrations.find device = some retired) (key : RouteKey) (record : RecordId) :
    (key, record) ∈ Tables.exactEntries retired ↔
      ∃ entry ∈ retired.routes, entry.claim = false ∧ entry.key = key ∧ entry.record = record := by
  obtain ⟨raw, valid⟩ := routed.registrations device retired found
  simp only [Tables.exactEntries, List.mem_map, List.mem_filter, Prod.mk.injEq, Bool.not_eq_true, decide_eq_true_eq]
  constructor
  · rintro ⟨entry, ⟨inside, exact⟩, keyed, recorded⟩
    have adapter := registered_adapter valid entry inside
    exact ⟨entry, inside, exact, by rw [← keyed, ← adapter], recorded⟩
  · rintro ⟨entry, inside, exact, keyed, recorded⟩
    have adapter := registered_adapter valid entry inside
    exact ⟨entry, ⟨inside, exact⟩, by rw [← keyed, ← adapter], recorded⟩

theorem detached_claims (routed : tables.Routed) (device : Pointer) (retired : DeviceRegistration)
    (found : tables.registrations.find device = some retired) (key : BusKey) (record : RecordId) :
    (key, record) ∈ Tables.claimEntries retired ↔
      ∃ entry ∈ retired.routes, entry.claim = true ∧ entry.claimKey = key ∧ entry.record = record := by
  obtain ⟨raw, valid⟩ := routed.registrations device retired found
  simp only [Tables.claimEntries, List.mem_map, List.mem_filter, Prod.mk.injEq]
  constructor
  · rintro ⟨entry, ⟨inside, claimed⟩, keyed, recorded⟩
    have adapter := registered_adapter valid entry inside
    exact ⟨entry, inside, claimed, by rw [← keyed, ← adapter, RouteEntry.claimKey], recorded⟩
  · rintro ⟨entry, inside, claimed, keyed, recorded⟩
    have adapter := registered_adapter valid entry inside
    exact ⟨entry, ⟨inside, claimed⟩, by rw [← keyed, ← adapter, RouteEntry.claimKey], recorded⟩

theorem detached_exact (routed : tables.Routed) (device : Pointer) (key : RouteKey) (record : RecordId) :
    (tables.detachRegistrationLocked device).routes.find key = some record ↔
      tables.routes.find key = some record ∧ record.device ≠ device := by
  cases found : tables.registrations.find device with
  | none =>
    simp only [Tables.detachRegistrationLocked, found, iff_self_and]
    intro held own
    obtain ⟨entry, ⟨registration, registered, -⟩, -, -, recorded⟩ := (routed.exact key record).mp held
    rw [recorded, own, found] at registered
    cases registered
  | some retired =>
    simp only [Tables.detachRegistrationLocked, found, Table.find_remove_matching,
      detached_entries tables routed device retired found]
    refine and_congr_right fun held => not_congr ?_
    obtain ⟨entry, ⟨registration, registered, inside⟩, facts⟩ := (routed.exact key record).mp held
    constructor
    · rintro ⟨other, listed, -, -, recorded⟩
      rw [← recorded]
      exact (registers_record tables routed device retired found other listed).1
    · intro own
      rw [facts.2.2, own, found, Option.some.injEq] at registered
      exact ⟨entry, registered ▸ inside, facts⟩

theorem detached_claim (routed : tables.Routed) (device : Pointer) (key : BusKey) (record : RecordId) :
    (tables.detachRegistrationLocked device).claimRoutes.find key = some record ↔
      tables.claimRoutes.find key = some record ∧ record.device ≠ device := by
  cases found : tables.registrations.find device with
  | none =>
    simp only [Tables.detachRegistrationLocked, found, iff_self_and]
    intro held own
    obtain ⟨entry, ⟨registration, registered, -⟩, -, -, recorded⟩ := (routed.claims key record).mp held
    rw [recorded, own, found] at registered
    cases registered
  | some retired =>
    simp only [Tables.detachRegistrationLocked, found, Table.find_remove_matching,
      detached_claims tables routed device retired found]
    refine and_congr_right fun held => not_congr ?_
    obtain ⟨entry, ⟨registration, registered, inside⟩, facts⟩ := (routed.claims key record).mp held
    constructor
    · rintro ⟨other, listed, -, -, recorded⟩
      rw [← recorded]
      exact (registers_record tables routed device retired found other listed).1
    · intro own
      rw [facts.2.2, own, found, Option.some.injEq] at registered
      exact ⟨entry, registered ▸ inside, facts⟩

theorem routed_detached (routed : tables.Routed) (device : Pointer) : (tables.detachRegistrationLocked device).Routed := by
  have registers := detached_registers tables device
  -- The entries that stay are those of other devices.
  have others (holds : RouteEntry → Prop) (record : RecordId) (names : ∀ entry, holds entry → entry.record = record) :
      (∃ entry, tables.Registers entry ∧ holds entry) ∧ record.device ≠ device ↔
        ∃ entry, (tables.detachRegistrationLocked device).Registers entry ∧ holds entry := by
    simp only [registers, ← exists_and_right]
    exact exists_congr fun entry => ⟨fun ⟨⟨old, facts⟩, other⟩ => ⟨⟨old, names entry facts ▸ other⟩, facts⟩,
      fun ⟨⟨old, other⟩, facts⟩ => ⟨⟨old, facts⟩, names entry facts ▸ other⟩⟩
  constructor
  case buses => exact routed.buses
  case exact =>
    intro key record
    rw [detached_exact tables routed, routed.exact]
    exact others _ record fun entry facts => facts.2.2
  case claims =>
    intro key record
    rw [detached_claim tables routed, routed.claims]
    exact others _ record fun entry facts => facts.2.2
  case registrations =>
    intro other registration found
    simp only [Tables.detachRegistrationLocked, Table.find_remove] at found
    by_cases own : other = device
    · simp [own] at found
    · rw [if_neg own] at found
      obtain ⟨raw, valid⟩ := routed.registrations other registration found
      refine ⟨raw, valid.bus, valid.keys, valid.distinct, fun entry inside => ?_⟩
      obtain ⟨recorded, route, there, facts⟩ := valid.records entry inside
      refine ⟨recorded, route, ?_, facts⟩
      refine (Table.find_modify_all_other _ _ _ _ ?_).trans there
      -- The records it retires are those of its own registration.
      intro listed
      cases held : tables.registrations.find device with
      | none => simp [Tables.registeredRecords, held] at listed
      | some retired =>
        simp only [Tables.registeredRecords, held, Tables.retiredRecords, List.mem_map] at listed
        obtain ⟨mine, member, same⟩ := listed
        have device' := (registers_record tables routed device retired held mine member).1
        rw [same, recorded] at device'
        exact own device'
  case named =>
    intro other key registration keyed found
    simp only [Tables.detachRegistrationLocked, Table.find_remove] at found
    by_cases own : other = device
    · simp [own] at found
    · exact routed.named other key registration keyed (by simpa [own] using found)

theorem motor_entry (routed : tables.Routed) (migration : Tables.Migration) (busKey : BusKey)
    (registration : DeviceRegistration) (entry : RouteEntry)
    (ready : MigrationReady tables migration busKey registration entry) :
    entry.claim = false ∧ entry.key.adapter = busKey.adapter ∧ registration.bus = migration.oldKey.bus ∧
      registration.adapter = busKey.adapter ∧ tables.busObjects.find migration.oldKey.bus = some busKey ∧
      entry.key = routeKey busKey migration.oldKey.idx.toUInt32 := by
  have object := routed.buses _ _ ready.busFound
  obtain ⟨bus, motor⟩ := routed.named _ _ _ ready.registered ready.registrationFound
  obtain ⟨domain, record, there, adapter, routes⟩ := motor ready.kind
  rw [object] at there
  cases there
  rw [ready.oneRoute, List.singleton_inj] at routes
  subst routes
  exact ⟨rfl, rfl, bus, adapter, object, rfl⟩

theorem migrated_registration (migration : Tables.Migration) (busKey : BusKey)
    (registration : DeviceRegistration) (entry : RouteEntry) (ready : MigrationReady tables migration busKey registration entry)
    (device : Pointer) :
    (tables.migrate migration).registrations.find device =
      if device = migration.motor then some { registration with routes := [{ entry with key := migration.newRoute }] }
      else tables.registrations.find device := by
  simp only [Tables.migrate, Table.find_modify, ready.registrationFound, Option.map_some, Tables.setFrontKey, ready.oneRoute]

theorem migrated_registers (routed : tables.Routed) (migration : Tables.Migration) (busKey : BusKey)
    (registration : DeviceRegistration) (entry : RouteEntry) (ready : MigrationReady tables migration busKey registration entry)
    (other : RouteEntry) :
    (tables.migrate migration).Registers other ↔
      other = { entry with key := migration.newRoute } ∨ tables.Registers other ∧ other ≠ entry := by
  have own := (registers_record tables routed _ _ ready.registrationFound entry (by simp [ready.oneRoute])).1
  simp only [Tables.Registers, migrated_registration tables migration busKey registration entry ready]
  by_cases here : other.record.device = migration.motor
  · simp only [Option.some.injEq, exists_eq_left', List.mem_singleton, here, ready.registrationFound,
      ready.oneRoute]
    simp
  · have notMoved : other ≠ { entry with key := migration.newRoute } := by
      rintro rfl
      exact here own
    have notEntry : other ≠ entry := by
      rintro rfl
      exact here own
    simp [here, notMoved, notEntry]

theorem routed_migrated (routed : tables.Routed) (migration : Tables.Migration) (busKey : BusKey)
    (registration : DeviceRegistration) (entry : RouteEntry)
    (ready : MigrationReady tables migration busKey registration entry) : (tables.migrate migration).Routed := by
  obtain ⟨exact, adapter, bus, home, object, -⟩ := motor_entry tables routed migration busKey registration entry ready
  have listed : entry ∈ registration.routes := by simp [ready.oneRoute]
  obtain ⟨own, registered⟩ := registers_record tables routed _ _ ready.registrationFound entry listed
  have held : tables.routes.find entry.key = some entry.record := (routed.exact _ _).mpr ⟨entry, registered, exact, rfl, rfl⟩
  have old : (⟨migration.newRoute.adapter, migration.oldRoute.uniqueId⟩ : RouteKey) = entry.key := by
    have same : migration.newRoute.adapter = entry.key.adapter := by rw [ready.targetRoute, adapter, routeKey]
    rw [same, ready.oldRoute]
  have different : migration.newRoute ≠ entry.key := by
    intro same
    have free := ready.routeFree
    rw [same, held] at free
    cases free
  have registers := migrated_registers tables routed migration busKey registration entry ready
  constructor
  case buses => exact routed.buses
  case exact =>
    intro key record
    simp only [Tables.migrate, old, Table.find_rekey _ _ _ _ ready.routeFree different]
    by_cases atNew : key = migration.newRoute
    · rw [if_pos atNew, held, Option.some.injEq]
      constructor
      · rintro rfl
        exact ⟨_, (registers _).mpr (.inl rfl), exact, atNew.symm, rfl⟩
      · rintro ⟨other, there, claim, keyed, recorded⟩
        rcases (registers other).mp there with rfl | ⟨before, -⟩
        · exact recorded
        · have taken := (routed.exact key record).mpr ⟨other, before, claim, keyed, recorded⟩
          rw [atNew, ready.routeFree] at taken
          cases taken
    · rw [if_neg atNew]
      by_cases atOld : key = entry.key
      · rw [if_pos atOld]
        refine iff_of_false (fun found => by cases found) ?_
        rintro ⟨other, there, claim, keyed, recorded⟩
        rcases (registers other).mp there with rfl | ⟨before, distinct⟩
        · exact atNew keyed.symm
        · have same := (routed.exact key record).mpr ⟨other, before, claim, keyed, recorded⟩
          rw [atOld, held, Option.some.injEq] at same
          obtain ⟨found, inFound, inside⟩ := before
          rw [recorded, ← same, own, ready.registrationFound, Option.some.injEq] at inFound
          rw [← inFound, ready.oneRoute, List.mem_singleton] at inside
          exact distinct inside
      · rw [if_neg atOld, routed.exact]
        constructor
        · rintro ⟨other, before, claim, keyed, recorded⟩
          refine ⟨other, (registers other).mpr (.inr ⟨before, ?_⟩), claim, keyed, recorded⟩
          rintro rfl
          exact atOld keyed.symm
        · rintro ⟨other, there, claim, keyed, recorded⟩
          rcases (registers other).mp there with rfl | ⟨before, -⟩
          · exact absurd keyed.symm atNew
          · exact ⟨other, before, claim, keyed, recorded⟩
  case claims =>
    intro key record
    refine (routed.claims key record).trans ?_
    constructor
    · rintro ⟨other, before, claim, keyed, recorded⟩
      refine ⟨other, (registers other).mpr (.inr ⟨before, ?_⟩), claim, keyed, recorded⟩
      rintro rfl
      rw [exact] at claim
      cases claim
    · rintro ⟨other, there, claim, keyed, recorded⟩
      rcases (registers other).mp there with rfl | ⟨before, -⟩
      · rw [exact] at claim
        cases claim
      · exact ⟨other, before, claim, keyed, recorded⟩
  case registrations =>
    intro device found there
    rw [migrated_registration tables migration busKey registration entry ready] at there
    by_cases here : device = migration.motor
    · rw [if_pos here] at there
      cases there
      obtain ⟨raw, valid⟩ := routed.registrations _ _ ready.registrationFound
      obtain ⟨-, serves⟩ := valid.records entry listed
      have same : (⟨registration.adapter, raw⟩ : BusKey) = busKey := by
        have there := valid.bus
        rw [bus, object, Option.some.injEq] at there
        exact there.symm
      refine ⟨raw, valid.bus, ?_, List.nodup_singleton _, ?_⟩
      · intro moved inside
        rw [List.mem_singleton.mp inside, same]
        simp [RouteEntry.claimKey, ready.targetRoute, routeKey, raw_idx_of_unique_id]
      · intro moved inside
        rw [List.mem_singleton.mp inside, here]
        exact ⟨own, serves⟩
    · rw [if_neg here] at there
      exact routed.registrations device found there
  case named =>
    intro device key found keyed there
    rw [migrated_registration tables migration busKey registration entry ready] at there
    simp only [Tables.migrate, Table.find_modify] at keyed
    by_cases here : device = migration.motor
    · rw [if_pos here] at there
      cases there
      rw [if_pos here, ready.registered, Option.map_some] at keyed
      cases keyed
      rw [ready.target]
      exact ⟨bus, fun _ => ⟨busKey, entry.record, object, home, by
        rw [List.singleton_inj, RouteEntry.mk.injEq]
        exact ⟨ready.targetRoute, rfl, exact⟩⟩⟩
    · rw [if_neg here] at keyed there
      exact routed.named device key found keyed there

theorem routed_same (tables next : Tables) (routed : tables.Routed) (registrations : next.registrations = tables.registrations)
    (routes : next.routes = tables.routes) (claims : next.claimRoutes = tables.claimRoutes)
    (objects : next.busObjects = tables.busObjects) (records : next.records = tables.records)
    (buses : ∀ bus key, next.busKeys.find bus = some key → tables.busKeys.find bus = some key)
    (devices : ∀ device key, next.deviceKeys.find device = some key → tables.deviceKeys.find device = some key) :
    next.Routed := by
  refine routed_kept tables next routed registrations routes claims ?_ ?_ ?_ ?_
  · rw [objects]
    exact fun _ _ there => there
  · intro bus key found
    rw [objects]
    exact routed.buses bus key (buses bus key found)
  · rw [records]
    exact fun record route held => ⟨route, held, rfl, rfl, rfl, rfl⟩
  · intro device key registration keyed found
    rw [objects]
    exact routed.named device key registration (devices device key keyed) found

theorem routed_records (routed : tables.Routed) (targets : List RecordId) (change : RouteRecord → RouteRecord)
    (keeps : ∀ route, (change route).retiring = route.retiring ∧ (change route).device = route.device ∧
      (change route).bus = route.bus ∧ (change route).adapter = route.adapter) :
    ({ tables with records := tables.records.modifyAll targets change } : Tables).Routed := by
  refine routed_kept tables _ routed rfl rfl rfl (fun _ _ there => there) routed.buses ?_ routed.named
  intro record route held
  refine Table.modify_all_found tables.records targets record change (fun after => after.retiring = route.retiring ∧
    after.device = route.device ∧ after.bus = route.bus ∧ after.adapter = route.adapter) ?_ ⟨route, held, rfl, rfl, rfl, rfl⟩
  intro value same
  obtain ⟨retiring, device, bus, adapter⟩ := keeps value
  rw [retiring, device, bus, adapter]
  exact same

theorem remove_some {Key Value : Type} [DecidableEq Key] (table : Table Key Value) (key other : Key) (value : Value)
    (found : (table.remove key).find other = some value) : table.find other = some value := by
  rw [Table.find_remove] at found
  split at found
  · cases found
  · exact found

theorem remove_pointer_some {Value : Type} (table : Table Pointer Value) (pointer : Option Pointer) (other : Pointer) (value : Value)
    (found : (Tables.removePointer table pointer).find other = some value) : table.find other = some value := by
  cases pointer with
  | none => exact found
  | some pointer => exact remove_some table pointer other value found

theorem run_routed (state : DriverState) (id : CallId) (choice : Choice) (call : Call) (result : SectionResult)
    (backed : ∀ place, Backed place state) (publishes : Every Frame.Publishes state) (routed : state.shared.Routed)
    (runs : Runs state id choice call result) : (result.effect.apply state.shared).Routed := by
  have from' := runs_from state id choice call result runs
  have known := publishes id call runs.present
  have constant := run_bus_object state id choice call result backed runs
  cases effect : result.effect with
  | publishRoutes made bus adapter domain recipe =>
    rw [effect] at from'
    obtain ⟨rfl, creation, frame, home, -, place, -, clear⟩ := from'
    rw [frame] at known
    obtain ⟨object, -⟩ := known creation rfl
    have same : domain = creation.busKey := by
      obtain ⟨key, named, rfl⟩ := Option.map_eq_some_iff.mp place
      have there := routed.buses bus key named
      rw [object, Option.some.injEq] at there
      rw [home, ← there]
    have fresh (index : Nat) : state.shared.records.find ⟨made, index⟩ = none := by
      by_contra held
      exact backed_absent .record state (backed .record) made call runs.present (by rw [frame]; exact id) ⟨index, held⟩
    have unnamed : state.shared.deviceKeys.find made = none := by
      by_contra held
      exact backed_absent .device state (backed .device) made call runs.present (by rw [frame]; exact id) held
    have published := routed_published state.shared routed made adapter bus domain recipe fresh unnamed
      (same ▸ object) (by rw [same, home]) clear
    exact routed_same _ _ published rfl rfl rfl rfl rfl (fun _ _ found => found) (fun _ _ found => found)
  | detachDevice device | acceptDevice made device bus =>
    exact routed_same _ _ (routed_detached state.shared routed device) rfl rfl rfl rfl rfl (fun _ _ found => found)
      (fun _ _ found => found)
  | migrate migration =>
    rw [effect] at from'
    obtain ⟨busKey, registration, entry, ready⟩ := migration_ready _ _ _ _ from'.2.2.1
    exact routed_migrated state.shared routed migration busKey registration entry ready
  | commitDevice made bus recipe =>
    rw [effect] at from'
    obtain ⟨rfl, creation, frame, -⟩ := from'
    rw [frame] at known
    obtain ⟨object, registered⟩ := known creation rfl
    have unnamed : state.shared.deviceKeys.find made = none := by
      by_contra held
      exact backed_absent .device state (backed .device) made call runs.present (by rw [frame]; exact id) held
    refine routed_kept state.shared _ routed rfl rfl rfl (fun _ _ there => there) routed.buses
      (fun record route held => ⟨route, held, rfl, rfl, rfl, rfl⟩) ?_
    intro device key registration keyed found
    simp only [Effect.apply, Table.find_emplace_absent _ _ _ _ unnamed] at keyed
    by_cases own : device = made
    · rw [if_pos own, Option.some.injEq] at keyed
      rw [own, registered rfl, Option.some.injEq] at found
      subst keyed found
      refine ⟨rfl, fun motor => ?_⟩
      obtain ⟨idx, rfl⟩ := recipe_motor recipe motor
      exact ⟨creation.busKey, ⟨made, 0⟩, object, rfl, prepared_motor made creation.busKey idx⟩
    · rw [if_neg own] at keyed
      exact routed.named device key registration keyed found
  | constructBus made key =>
    rw [effect] at constant
    refine routed_kept state.shared _ routed rfl rfl rfl constant (fun bus key found => constant bus key (routed.buses bus key found))
      (fun record route held => ⟨route, held, rfl, rfl, rfl, rfl⟩) ?_
    exact fun device key registration keyed found => named_kept _ _ constant key registration (routed.named device key registration keyed found)
  | publishBus made key =>
    rw [effect] at from'
    obtain ⟨rfl, frame, -⟩ := from'
    rw [frame] at known
    have unnamed : state.shared.busKeys.find made = none := by
      by_contra held
      exact backed_absent .bus state (backed .bus) made call runs.present (by rw [frame]; exact id) held
    refine routed_kept state.shared _ routed rfl rfl rfl (fun _ _ there => there) ?_
      (fun record route held => ⟨route, held, rfl, rfl, rfl, rfl⟩) routed.named
    intro bus busKey found
    simp only [Effect.apply, Table.find_emplace_absent _ _ _ _ unnamed] at found
    by_cases own : bus = made
    · rw [if_pos own, Option.some.injEq] at found
      rw [own, ← found]
      exact known rfl
    · rw [if_neg own] at found
      exact routed.buses bus busKey found
  | rollbackBus made key constructed =>
    exact routed_same _ _ routed rfl rfl rfl rfl rfl (fun bus key found => remove_pointer_some _ _ bus key found)
      (fun _ _ found => found)
  | eraseBus bus key =>
    exact routed_same _ _ routed rfl rfl rfl rfl rfl (fun other key found => remove_some _ _ other key found)
      (fun _ _ found => found)
  | commitThrows made key =>
    exact routed_same _ _ routed rfl rfl rfl rfl rfl (fun _ _ found => found) (fun device key found => remove_some _ _ device key found)
  | eraseCreation key made =>
    exact routed_same _ _ routed rfl rfl rfl rfl rfl (fun _ _ found => found)
      (fun device key found => remove_pointer_some _ _ device key found)
  | eraseDevice device key =>
    exact routed_same _ _ routed rfl rfl rfl rfl rfl (fun _ _ found => found) (fun other key found => remove_some _ _ other key found)
  | activateRoutes device => exact routed_records state.shared routed _ _ fun _ => ⟨rfl, rfl, rfl, rfl⟩
  | enterRoutes records => exact routed_records state.shared routed records _ fun _ => ⟨rfl, rfl, rfl, rfl⟩
  | leaveRoute left => exact routed_records state.shared routed [left] _ fun _ => ⟨rfl, rfl, rfl, rfl⟩
  | _ => exact routed_same _ _ routed rfl rfl rfl rfl rfl (fun _ _ found => found) (fun _ _ found => found)

theorem reachable_placed (allowed : DriverState → Action → Prop) (state : DriverState)
    (reached : ReachableWith system allowed state) : Placed state ∧ Every Frame.Publishes state := by
  refine reachable_invariant system allowed (fun state => Placed state ∧ Every Frame.Publishes state) ?_ ?_ state reached
  · rintro _ rfl
    refine ⟨⟨reachable_grounded Always initial (.start initial rfl), ?_⟩, fun id call present => by simp [initial] at present⟩
    constructor <;> simp [initial, Tables.Registers]
  · rintro state action next ⟨⟨grounded, routed⟩, publishes⟩ _ taken
    have steps := step_cases state next action taken
    refine ⟨⟨step_grounded state next action grounded steps, ?_⟩,
      every_kept _ Frame.Publishes publishes_kept state next action publishes (fun _ _ _ => ⟨grounded, routed⟩) steps⟩
    refine tables_kept (fun now _ _ => now = state) Tables.Routed ?_ state next action routed (fun _ _ _ => rfl) steps
    rintro now id choice call result rfl before runs
    exact run_routed now id choice call result grounded.backed publishes before runs

end EncosDriver.Driver
