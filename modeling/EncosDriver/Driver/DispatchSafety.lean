import EncosDriver.Driver.RoutingSteps

set_option autoImplicit false

namespace EncosDriver.Driver

open Lib

def Tables.Home (tables : Tables) (record : RecordId) (domain : BusKey) : Prop :=
  ∃ route, tables.records.find record = some route ∧ route.adapter = domain.adapter ∧
    tables.busObjects.find route.bus = some domain

variable (tables : Tables)

theorem registered_home (routed : tables.Routed) (entry : RouteEntry) (registered : tables.Registers entry) :
    tables.Home entry.record entry.claimKey := by
  obtain ⟨registration, found, inside⟩ := registered
  obtain ⟨raw, valid⟩ := routed.registrations _ registration found
  obtain ⟨-, route, held, -, -, bus, adapter⟩ := valid.records entry inside
  rw [valid.keys entry inside]
  exact ⟨route, held, adapter, by rw [bus]; exact valid.bus⟩

theorem exact_home (routed : tables.Routed) (key : RouteKey) (record : RecordId)
    (found : tables.routes.find key = some record) : tables.Home record ⟨key.adapter, rawIdxOf key.uniqueId⟩ := by
  obtain ⟨entry, registered, -, rfl, rfl⟩ := (routed.exact key record).mp found
  exact registered_home tables routed entry registered

theorem claim_home (routed : tables.Routed) (key : BusKey) (record : RecordId)
    (found : tables.claimRoutes.find key = some record) : tables.Home record key := by
  obtain ⟨entry, registered, -, rfl, rfl⟩ := (routed.claims key record).mp found
  exact registered_home tables routed entry registered

theorem exact_route_found (adapter : Pointer) (message : MotorMessage) (record : RecordId)
    (found : tables.exactRoute adapter message = some record) :
    tables.routes.find (routeKey ⟨adapter, message.busIdx⟩ message.id) = some record ∧ tables.liveRecord record = true := by
  obtain ⟨held, live⟩ := Option.filter_eq_some_iff.mp found
  exact ⟨held, live⟩

theorem exact_record_unique (routed : tables.Routed) (first second : RouteKey) (record : RecordId)
    (firstFound : tables.routes.find first = some record) (secondFound : tables.routes.find second = some record) :
    first = second := by
  obtain ⟨one, ⟨registration, found, inside⟩, -, rfl, rfl⟩ := (routed.exact first record).mp firstFound
  obtain ⟨other, ⟨again, foundAgain, insideAgain⟩, -, rfl, same⟩ := (routed.exact second one.record).mp secondFound
  rw [same, found] at foundAgain
  cases foundAgain
  obtain ⟨raw, valid⟩ := routed.registrations _ registration found
  exact congrArg RouteEntry.key (List.inj_on_of_nodup_map valid.distinct inside insideAgain same.symm)

theorem unique_id_parts (uniqueId : UInt64) (rawBusIdx : Int32) (upper : (uniqueId >>> (32 : UInt64)).toUInt32 = rawBusIdx.toUInt32) :
    makeReceiveUniqueId rawBusIdx uniqueId.toUInt32 = uniqueId := by
  apply UInt64.toNat_inj.mp
  rw [unique_id_value, ← upper]
  have bound := uniqueId.toNat_lt
  have shift : (32 : UInt64).toNat % 64 = 32 := rfl
  simp only [UInt64.toNat_toUInt32, UInt64.toNat_shiftRight, shift, Nat.shiftRight_eq_div_pow]
  omega

theorem system_routes_exact (routed : tables.Routed) (adapter : Pointer) (rawBusIdx : Int32) :
    (tables.systemRoutes adapter rawBusIdx).Nodup ∧ ∀ record, record ∈ tables.systemRoutes adapter rawBusIdx ↔
      ∃ canId, tables.exactRoute adapter ⟨rawBusIdx, canId⟩ = some record := by
  constructor
  · refine List.Nodup.map_on ?_ ((List.Nodup.of_map Prod.fst (Table.to_list_distinct tables.routes)).filter _)
    rintro ⟨first, record⟩ one ⟨second, other⟩ two same
    have firstFound := (Table.mem_to_list tables.routes first record).mp (List.mem_of_mem_filter one)
    have secondFound := (Table.mem_to_list tables.routes second other).mp (List.mem_of_mem_filter two)
    obtain rfl : record = other := same
    rw [exact_record_unique tables routed first second record firstFound secondFound]
  · intro record
    simp only [Tables.systemRoutes, List.mem_map, List.mem_filter, Bool.and_eq_true, decide_eq_true_eq]
    constructor
    · rintro ⟨⟨⟨owner, uniqueId⟩, there⟩, ⟨inside, ⟨rfl, upper⟩, live⟩, rfl⟩
      refine ⟨uniqueId.toUInt32, Option.filter_eq_some_iff.mpr ⟨?_, live⟩⟩
      simp only [routeKey, unique_id_parts uniqueId rawBusIdx upper]
      exact (Table.mem_to_list tables.routes _ _).mp inside
    · rintro ⟨canId, found⟩
      obtain ⟨held, live⟩ := exact_route_found tables adapter ⟨rawBusIdx, canId⟩ record found
      exact ⟨⟨_, record⟩, ⟨(Table.mem_to_list tables.routes _ _).mpr held, ⟨rfl, unique_id_upper rawBusIdx canId⟩, live⟩, rfl⟩

theorem run_record (state : DriverState) (id : CallId) (choice : Choice) (call : Call) (result : SectionResult)
    (backed : ∀ place, Backed place state) (runs : Runs state id choice call result) (record : RecordId) (route : RouteRecord)
    (held : state.shared.records.find record = some route) :
    ∃ after, (result.effect.apply state.shared).records.find record = some after ∧
      after.device = route.device ∧ after.bus = route.bus ∧ after.adapter = route.adapter := by
  have from' := runs_from state id choice call result runs
  have modified (targets : List RecordId) (change : RouteRecord → RouteRecord)
      (keeps : ∀ route, (change route).device = route.device ∧ (change route).bus = route.bus ∧ (change route).adapter = route.adapter) :
      ∃ after, (state.shared.records.modifyAll targets change).find record = some after ∧
        after.device = route.device ∧ after.bus = route.bus ∧ after.adapter = route.adapter := by
    refine Table.modify_all_found state.shared.records targets record change (fun after => after.device = route.device ∧
      after.bus = route.bus ∧ after.adapter = route.adapter) ?_ ⟨route, held, rfl, rfl, rfl⟩
    intro value same
    obtain ⟨device, bus, adapter⟩ := keeps value
    rw [device, bus, adapter]
    exact same
  cases effect : result.effect with
  | publishRoutes made bus adapter domain recipe =>
    rw [effect] at from'
    obtain ⟨rfl, creation, frame, -⟩ := from'
    have fresh (index : Nat) : state.shared.records.find ⟨made, index⟩ = none := by
      by_contra present
      exact backed_absent .record state (backed .record) made call runs.present (by rw [frame]; exact id) ⟨index, present⟩
    exact ⟨route, (emplaced_records state.shared made adapter bus domain recipe fresh record route).mpr (.inl held), rfl, rfl, rfl⟩
  | detachDevice device | acceptDevice made device bus | activateRoutes device =>
    exact modified _ _ fun _ => ⟨rfl, rfl, rfl⟩
  | enterRoutes records => exact modified records _ fun _ => ⟨rfl, rfl, rfl⟩
  | leaveRoute left => exact modified [left] _ fun _ => ⟨rfl, rfl, rfl⟩
  | _ => exact ⟨route, held, rfl, rfl, rfl⟩

theorem run_home (state : DriverState) (id : CallId) (choice : Choice) (call : Call) (result : SectionResult)
    (backed : ∀ place, Backed place state) (runs : Runs state id choice call result) (record : RecordId) (domain : BusKey)
    (home : state.shared.Home record domain) : (result.effect.apply state.shared).Home record domain := by
  obtain ⟨route, held, adapter, object⟩ := home
  obtain ⟨after, found, -, bus, same⟩ := run_record state id choice call result backed runs record route held
  refine ⟨after, found, same.trans adapter, ?_⟩
  rw [bus]
  exact run_bus_object state id choice call result backed runs route.bus domain object

namespace DispatchReport

def domain (report : DispatchReport) (adapter : Pointer) : BusKey := ⟨adapter, report.message.busIdx⟩

def exactCalls (report : DispatchReport) (adapter : Pointer) : List RecordId :=
  if report.message.id = systemFrameId then report.seen.systemRoutes adapter report.message.busIdx
  else (report.seen.exactRoute adapter report.message).toList

def Unmatched (report : DispatchReport) (adapter : Pointer) : Prop :=
  report.message.id = systemFrameId ∨ report.seen.exactRoute adapter report.message = none

def claimCalls (report : DispatchReport) (adapter : Pointer) : List RecordId :=
  match report.seenClaim with
  | none => []
  | some claim => (claim.claimRoute adapter report.message.busIdx).toList

structure Sound (report : DispatchReport) (tables : Tables) (adapter : Pointer) : Prop where
  routed : report.seen.Routed
  home : ∀ record ∈ report.exactCalls adapter ++ report.claimCalls adapter, tables.Home record (report.domain adapter)

structure Under (report : DispatchReport) (adapter : Pointer) (route : DispatchRoute) (remaining : List RecordId) : Prop where
  unmatched : route ≠ .exact ↔ report.Unmatched adapter
  claim : route = .claim ↔ report.seenClaim ≠ none
  calls : report.called ++ remaining = report.exactCalls adapter ++ report.claimCalls adapter
  mailbox : report.mailbox = []

structure Between (report : DispatchReport) (adapter : Pointer) (claimed : Bool) : Prop where
  unmatched : report.Unmatched adapter
  claim : claimed ↔ report.seenClaim ≠ none
  calls : report.called = report.exactCalls adapter ++ report.claimCalls adapter
  mailbox : report.mailbox = []

structure Over (report : DispatchReport) (adapter : Pointer) : Prop where
  claim : report.Unmatched adapter ↔ report.seenClaim ≠ none
  calls : report.called = report.exactCalls adapter ++ report.claimCalls adapter
  matched : ¬ report.Unmatched adapter → report.mailbox = []

end DispatchReport

namespace ReceivePc

def report : ReceivePc → Option DispatchReport
  | .deliver report _ _ | .inCallback report _ _ _ _ | .leaveRoute report _ _ _ | .claimLookup report | .unknown report => some report
  | _ => none

def current : ReceivePc → Option MotorMessage
  | .lookup message => some message
  | pc => pc.report.map fun report => report.message

def Fits (adapter : Pointer) : ReceivePc → Prop
  | .deliver report route remaining => report.Under adapter route remaining
  | .inCallback report route _ remaining _ => report.Under adapter route remaining
  | .leaveRoute report route _ remaining => report.Under adapter route remaining
  | .claimLookup report => report.Between adapter false
  | .unknown report => report.Between adapter true
  | _ => True

end ReceivePc

def Frame.Dispatching (tables : Tables) (_ : CallId) : Frame → Prop
  | .receive adapter delivery pc =>
    (∀ report ∈ delivery.history ++ pc.report.toList, report.Sound tables adapter) ∧ pc.Fits adapter ∧
      ∀ report ∈ delivery.history, report.Over adapter
  | _ => True

theorem sound_kept (tables next : Tables) (adapter : Pointer) (report : DispatchReport)
    (kept : ∀ record domain, tables.Home record domain → next.Home record domain) (sound : report.Sound tables adapter) :
    report.Sound next adapter :=
  ⟨sound.routed, fun record inside => kept _ _ (sound.home record inside)⟩

theorem live_home (routed : tables.Routed) (adapter : Pointer) (message : MotorMessage) (record : RecordId)
    (found : tables.exactRoute adapter message = some record) : tables.Home record ⟨adapter, message.busIdx⟩ := by
  have home := exact_home tables routed _ record (exact_route_found tables adapter message record found).1
  simpa [routeKey, raw_idx_of_unique_id] using home

theorem begun_sound (routed : tables.Routed) (adapter : Pointer) (message : MotorMessage) :
    (⟨message, tables, none, [], []⟩ : DispatchReport).Sound tables adapter := by
  refine ⟨routed, fun record inside => ?_⟩
  simp only [DispatchReport.exactCalls, DispatchReport.claimCalls, List.append_nil] at inside
  split at inside
  · obtain ⟨canId, found⟩ := ((system_routes_exact tables routed adapter message.busIdx).2 record).mp inside
    exact live_home tables routed adapter ⟨message.busIdx, canId⟩ record found
  · exact live_home tables routed adapter message record (Option.mem_toList.mp inside)

theorem claimed_sound (routed : tables.Routed) (adapter : Pointer) (report : DispatchReport)
    (sound : report.Sound tables adapter) : ({ report with seenClaim := some tables } : DispatchReport).Sound tables adapter := by
  refine ⟨sound.routed, fun record inside => ?_⟩
  rcases List.mem_append.mp inside with exact | claim
  · exact sound.home record (List.mem_append_left _ exact)
  · obtain ⟨found, -⟩ := Option.filter_eq_some_iff.mp (Option.mem_toList.mp claim)
    exact claim_home tables routed _ record found

theorem begun_under (adapter : Pointer) (message : MotorMessage) (route : DispatchRoute) (records : List RecordId)
    (taken : (message.id = systemFrameId ∧ route = .system ∧ records = tables.systemRoutes adapter message.busIdx) ∨
      (message.id ≠ systemFrameId ∧ route = .exact ∧ ∃ record, records = [record] ∧ tables.exactRoute adapter message = some record)) :
    (⟨message, tables, none, [], []⟩ : DispatchReport).Under adapter route records := by
  rcases taken with ⟨broadcast, rfl, rfl⟩ | ⟨single, rfl, record, rfl, found⟩
  · exact
      { unmatched := iff_of_true nofun (.inl broadcast)
        claim := iff_of_false nofun (fun claimed => claimed rfl)
        calls := by simp [DispatchReport.exactCalls, DispatchReport.claimCalls, broadcast]
        mailbox := rfl }
  · exact
      { unmatched := iff_of_false (fun other => other rfl) (by simp [DispatchReport.Unmatched, single, found])
        claim := iff_of_false nofun (fun claimed => claimed rfl)
        calls := by simp [DispatchReport.exactCalls, DispatchReport.claimCalls, single, found]
        mailbox := rfl }

theorem begun_between (adapter : Pointer) (message : MotorMessage) (single : message.id ≠ systemFrameId)
    (absent : tables.exactRoute adapter message = none) :
    (⟨message, tables, none, [], []⟩ : DispatchReport).Between adapter false where
  unmatched := .inr absent
  claim := iff_of_false nofun (fun claimed => claimed rfl)
  calls := by simp [DispatchReport.exactCalls, DispatchReport.claimCalls, single, absent]
  mailbox := rfl

namespace DispatchReport

variable {report : DispatchReport} {adapter : Pointer}

theorem Under.next {route : DispatchRoute} {record : RecordId}
    {rest : List RecordId} (under : report.Under adapter route (record :: rest)) :
    ({ report with called := report.called ++ [record] } : DispatchReport).Under adapter route rest where
  unmatched := under.unmatched
  claim := under.claim
  calls := by
    rw [List.append_assoc]
    exact under.calls
  mailbox := under.mailbox

theorem Under.over (under : report.Under adapter .exact []) : report.Over adapter where
  claim := iff_of_false (fun unmatched => under.unmatched.mpr unmatched rfl) (fun claimed => nomatch under.claim.mpr claimed)
  calls := by
    have calls := under.calls
    rwa [List.append_nil] at calls
  matched := fun _ => under.mailbox

theorem Under.between {route : DispatchRoute} (under : report.Under adapter route [])
    (other : route ≠ .exact) (claimed : Bool) (stage : claimed ↔ route = .claim) : report.Between adapter claimed where
  unmatched := under.unmatched.mp other
  claim := stage.trans under.claim
  calls := by
    have calls := under.calls
    rwa [List.append_nil] at calls
  mailbox := under.mailbox

theorem Between.calls_exact (between : report.Between adapter false) : report.called = report.exactCalls adapter := by
  have absent : report.seenClaim = none := by simpa using between.claim
  have calls := between.calls
  rwa [claimCalls, absent, List.append_nil] at calls

theorem Between.claims (between : report.Between adapter false) (tables : Tables)
    (record : RecordId) (found : tables.claimRoute adapter report.message.busIdx = some record) :
    ({ report with seenClaim := some tables } : DispatchReport).Under adapter .claim [record] where
  unmatched := iff_of_true nofun between.unmatched
  claim := iff_of_true rfl nofun
  calls := by
    simp only [claimCalls, found, Option.toList_some, between.calls_exact]
    rfl
  mailbox := between.mailbox

theorem Between.unclaimed (between : report.Between adapter false) (tables : Tables)
    (absent : tables.claimRoute adapter report.message.busIdx = none) :
    ({ report with seenClaim := some tables } : DispatchReport).Between adapter true where
  unmatched := between.unmatched
  claim := iff_of_true rfl nofun
  calls := by
    simp only [claimCalls, absent, Option.toList_none, List.append_nil, between.calls_exact]
    rfl
  mailbox := between.mailbox

theorem Between.over (between : report.Between adapter true) (mailbox : List Pointer) :
    ({ report with mailbox := mailbox } : DispatchReport).Over adapter where
  claim := iff_of_true between.unmatched (between.claim.mp rfl)
  calls := between.calls
  matched := fun matched => absurd between.unmatched matched

end DispatchReport

variable (replyOf : CallId → Option Reply) (self : CallId) (choice : Choice) (adapter : Pointer) (delivery : Delivery)

theorem receive_dispatching (pc : ReceivePc) (result : SectionResult) (routed : tables.Routed)
    (ran : runReceive tables replyOf self choice adapter delivery pc = some result)
    (kept : ∀ record domain, tables.Home record domain → (result.effect.apply tables).Home record domain)
    (known : (Frame.receive adapter delivery pc).Dispatching tables self) :
    result.frame.Dispatching (result.effect.apply tables) self := by
  obtain ⟨sound, fits, ended⟩ := known
  have past (report : DispatchReport) (inside : report ∈ delivery.history) : report.Sound (result.effect.apply tables) adapter :=
    sound_kept tables _ adapter report kept (sound report (List.mem_append_left _ inside))
  have started (report : DispatchReport) (before : report.Sound tables adapter) :
      ∀ other ∈ delivery.history ++ [report], other.Sound (result.effect.apply tables) adapter := by
    intro other inside
    rcases List.mem_append.mp inside with earlier | now
    · exact past other earlier
    · rw [List.mem_singleton.mp now]
      exact sound_kept tables _ adapter report kept before
  have overAll (report : DispatchReport) (now : report.Over adapter) : ∀ other ∈ delivery.history ++ [report], other.Over adapter := by
    intro other inside
    rcases List.mem_append.mp inside with earlier | last
    · exact ended other earlier
    · rw [List.mem_singleton.mp last]
      exact now
  have same : ∀ report ∈ delivery.history ++ [], report.Sound (result.effect.apply tables) adapter := by
    rw [List.append_nil]
    exact past
  cases pc with
  | lookup message =>
    have begun := started _ (begun_sound tables routed adapter message)
    simp only [runReceive] at ran
    split at ran
    · next broadcast =>
      cases ran
      exact ⟨begun, begun_under tables adapter message .system _ (.inl ⟨broadcast, rfl, rfl⟩), ended⟩
    · next single =>
      split at ran
      · next record found =>
        cases ran
        exact ⟨begun, begun_under tables adapter message .exact [record] (.inr ⟨single, rfl, record, rfl, found⟩), ended⟩
      · next absent =>
        cases ran
        exact ⟨begun, begun_between tables adapter message single absent, ended⟩
  | deliver report route admitted =>
    have before := sound report (List.mem_append_right _ (List.mem_singleton_self _))
    cases admitted with
    | nil =>
      cases ran
      cases route with
      | exact =>
        refine ⟨?_, trivial, overAll report fits.over⟩
        intro other inside
        exact started report before other (by simpa [afterRoutes, Delivery.record, ReceivePc.report] using inside)
      | system => exact ⟨started report before, fits.between nofun false (iff_of_false nofun nofun), ended⟩
      | claim => exact ⟨started report before, fits.between nofun true (iff_of_true rfl rfl), ended⟩
    | cons record rest =>
      cases ran
      exact ⟨started _ ⟨before.routed, before.home⟩, fits.next, ended⟩
  | inCallback report route record admitted nested =>
    have before := sound report (List.mem_append_right _ (List.mem_singleton_self _))
    cases nested with
    | none =>
      cases ran
      exact ⟨started report before, fits, ended⟩
    | some child =>
      simp only [runReceive] at ran
      split at ran
      · cases ran
      · cases ran
        exact ⟨started report before, fits, ended⟩
  | leaveRoute report route record admitted =>
    have before := sound report (List.mem_append_right _ (List.mem_singleton_self _))
    cases ran
    exact ⟨started report before, fits, ended⟩
  | claimLookup report =>
    have before := sound report (List.mem_append_right _ (List.mem_singleton_self _))
    simp only [runReceive] at ran
    split at ran
    · next record found =>
      cases ran
      exact ⟨started _ (claimed_sound tables routed adapter report before), fits.claims tables record found, ended⟩
    · next absent =>
      cases ran
      exact ⟨started _ (claimed_sound tables routed adapter report before), fits.unclaimed tables absent, ended⟩
  | unknown report =>
    have before := sound report (List.mem_append_right _ (List.mem_singleton_self _))
    simp only [runReceive] at ran
    split at ran
    · cases ran
      refine ⟨?_, trivial, overAll report (fits.over report.mailbox)⟩
      intro other inside
      exact started report before other (by simpa [Delivery.record, ReceivePc.report] using inside)
    · next bus found =>
      cases ran
      refine ⟨?_, trivial, overAll _ (fits.over _)⟩
      intro other inside
      exact started { report with mailbox := report.mailbox ++ [bus] } ⟨before.routed, before.home⟩ other
        (by simpa [Delivery.record, ReceivePc.report] using inside)
  | inRelay nested =>
    cases nested with
    | none =>
      cases ran
      exact ⟨same, trivial, ended⟩
    | some child =>
      simp only [runReceive] at ran
      split at ran
      · cases ran
      · cases ran
        exact ⟨same, trivial, ended⟩
  | _ =>
    simp only [runReceive] at ran
    repeat' split at ran
    all_goals cases ran
    all_goals trivial

theorem dispatching_kept : KeptLocally (fun state _ _ => Placed state) Frame.Dispatching where
  fresh := by
    intro tables id request
    cases request with
    | receive adapter messages => exact ⟨nofun, trivial, nofun⟩
    | _ => trivial
  entered := by
    intro tables id fresh frame result known entered
    unfold enterCallback at entered
    split at entered
    all_goals cases entered
    all_goals exact known
  own := by
    intro state id choice call result known dispatching runs
    have before := dispatching id call runs.present
    have kept := run_home state id choice call result known.grounded.backed runs
    have ran := runs.ran
    have continues := frame_continues _ _ _ _ _ _ _ _ ran
    cases frame : call.frame with
    | receive adapter delivery pc =>
      rw [frame] at ran before
      exact receive_dispatching _ _ _ choice adapter delivery pc result known.routed ran kept before
    | _ =>
      rw [frame] at continues
      cases next : result.frame with
      | receive adapter delivery pc =>
        rw [next] at continues
        exact continues.elim
      | _ => trivial
  others := by
    intro state id choice call result other otherCall known _ runs _ _ holds
    have kept := run_home state id choice call result known.grounded.backed runs
    cases frame : otherCall.frame with
    | receive adapter delivery pc =>
      rw [frame] at holds
      obtain ⟨sound, fits, ended⟩ := holds
      exact ⟨fun report inside => sound_kept state.shared _ adapter report kept (sound report inside), fits, ended⟩
    | _ => trivial

theorem reachable_dispatching (state : DriverState) (reached : Reachable system state) : Every Frame.Dispatching state := by
  refine reachable_invariant_under system Always Placed (Every Frame.Dispatching)
    (fun state reached => (reachable_placed Always state reached).1) ?_ ?_ state reached
  · rintro _ rfl id call present
    simp [initial] at present
  · intro state action next placed _ dispatching _ taken
    exact every_kept _ Frame.Dispatching dispatching_kept state next action dispatching (fun _ _ _ => placed)
      (step_cases state next action taken)

def pending (delivery : Delivery) (pc : ReceivePc) : List MotorMessage := pc.current.toList ++ delivery.messages

def pushed (mailboxes : Table Pointer (List MotorMessage)) (buses : List Pointer) (message : MotorMessage) :
    Table Pointer (List MotorMessage) :=
  buses.foldl (fun boxes bus => boxes.put bus ((boxes.find bus).getD [] ++ [message])) mailboxes

def ReceivePc.closing : ReceivePc → Bool
  | .unlock | .leave => true
  | _ => false

def Frame.Paced (_ : Tables) (_ : CallId) : Frame → Prop
  | .receive _ delivery pc => (pc = .enter → delivery.history = []) ∧ (pc.closing = true → delivery.messages = [])
  | _ => True

theorem paced_elsewhere (pc : ReceivePc) (entered : pc ≠ .enter) (open' : pc.closing = false) :
    (Frame.receive adapter delivery pc).Paced tables self :=
  ⟨fun same => absurd same entered, fun closing => absurd (open'.symm.trans closing) (by decide)⟩

theorem receive_paced (pc : ReceivePc) (result : SectionResult) (after : Tables)
    (ran : runReceive tables replyOf self choice adapter delivery pc = some result)
    (paced : (Frame.receive adapter delivery pc).Paced tables self) : result.frame.Paced after self := by
  cases pc with
  | next =>
    simp only [runReceive] at ran
    split at ran
    · next empty =>
      cases ran
      exact ⟨by simp, fun _ => empty⟩
    · split at ran
      all_goals
        cases ran
        exact paced_elsewhere _ _ _ _ _ (by simp) rfl
  | unlock =>
    cases ran
    exact ⟨by simp, fun _ => paced.2 rfl⟩
  | deliver report route admitted =>
    cases admitted with
    | nil =>
      cases ran
      cases route <;> exact paced_elsewhere _ _ _ _ _ (by simp) rfl
    | cons record rest =>
      cases ran
      exact paced_elsewhere _ _ _ _ _ (by simp) rfl
  | inCallback report route record admitted nested | inRelay nested =>
    cases nested with
    | none =>
      cases ran
      exact paced_elsewhere _ _ _ _ _ (by simp) rfl
    | some child =>
      simp only [runReceive] at ran
      split at ran
      · cases ran
      · cases ran
        exact paced_elsewhere _ _ _ _ _ (by simp) rfl
  | _ =>
    simp only [runReceive] at ran
    repeat' split at ran
    all_goals cases ran
    all_goals first | trivial | exact paced_elsewhere _ _ _ _ _ (by simp) rfl

theorem paced_kept : KeptLocally (fun _ _ _ => True) Frame.Paced where
  fresh := by
    intro tables id request
    cases request with
    | receive adapter messages => exact ⟨fun _ => rfl, nofun⟩
    | _ => trivial
  entered := by
    intro tables id fresh frame result _ entered
    unfold enterCallback at entered
    split at entered
    all_goals cases entered
    all_goals exact ⟨nofun, nofun⟩
  own := by
    intro state id choice call result _ paced runs
    have before := paced id call runs.present
    have ran := runs.ran
    have continues := frame_continues _ _ _ _ _ _ _ _ ran
    cases frame : call.frame with
    | receive adapter delivery pc =>
      rw [frame] at ran before
      exact receive_paced _ _ _ choice adapter delivery pc result _ ran before
    | _ =>
      rw [frame] at continues
      cases next : result.frame with
      | receive adapter delivery pc =>
        rw [next] at continues
        exact continues.elim
      | _ => trivial
  others := by
    intro state id choice call result other otherCall _ _ _ _ _ holds
    cases frame : otherCall.frame with
    | receive adapter delivery pc => exact frame ▸ holds
    | _ => trivial

theorem reachable_paced (state : DriverState) (reached : Reachable system state) : Every Frame.Paced state := by
  refine reachable_invariant system Always (Every Frame.Paced) ?_ ?_ state reached
  · rintro _ rfl id call present
    simp [initial] at present
  · intro state action next paced _ taken
    exact every_kept _ Frame.Paced paced_kept state next action paced (fun _ _ _ => trivial) (step_cases state next action taken)

inductive DeliveryEnd (before after : Tables) (adapter : Pointer) (delivery : Delivery) (pc : ReceivePc) : Reply → Prop where
  | completed (dealt : pending delivery pc = []) (mailboxes : after.unknownMessages = before.unknownMessages) :
      DeliveryEnd before after adapter delivery pc (.verdict true)
  | refused (untouched : pc = .enter ∧ delivery.history = [])
      (closed : ∀ gate, before.operationRegistry.find adapter = some gate → gate.retiring = true)
      (mailboxes : after.unknownMessages = before.unknownMessages) : DeliveryEnd before after adapter delivery pc (.verdict false)

inductive DeliveryStep (before after : Tables) (adapter : Pointer) (delivery : Delivery) (pc : ReceivePc) (next : Delivery)
    (nextPc : ReceivePc) : Prop where
  | goesOn (messages : pending next nextPc = pending delivery pc) (history : next.history = delivery.history)
      (mailboxes : after.unknownMessages = before.unknownMessages)
  | skips (message : MotorMessage) (messages : pending delivery pc = message :: pending next nextPc)
      (unregistered : before.domainBuses.find ⟨adapter, message.busIdx⟩ = none) (history : next.history = delivery.history)
      (mailboxes : after.unknownMessages = before.unknownMessages)
  | ends (report : DispatchReport) (messages : pending delivery pc = report.message :: pending next nextPc)
      (history : next.history = delivery.history ++ [report])
      (mailbox : report.Unmatched adapter → report.mailbox = (before.domainBuses.find (report.domain adapter)).toList)
      (mailboxes : after.unknownMessages = pushed before.unknownMessages report.mailbox report.message)

theorem receive_moves (pc : ReceivePc) (result : SectionResult) (fits : pc.Fits adapter)
    (paced : (Frame.receive adapter delivery pc).Paced tables self)
    (ran : runReceive tables replyOf self choice adapter delivery pc = some result) :
    (∃ reply, result.frame = .finished reply ∧ DeliveryEnd tables (result.effect.apply tables) adapter delivery pc reply) ∨
      ∃ next nextPc, result.frame = .receive adapter next nextPc ∧
        DeliveryStep tables (result.effect.apply tables) adapter delivery pc next nextPc := by
  cases pc with
  | next =>
    simp only [runReceive] at ran
    split at ran
    · cases ran
      exact .inr ⟨_, _, rfl, .goesOn rfl rfl rfl⟩
    · next message rest messages =>
      have taken : pending delivery .next = message :: rest := messages
      split at ran
      · cases ran
        exact .inr ⟨_, _, rfl, .goesOn taken.symm rfl rfl⟩
      · next absent =>
        cases ran
        exact .inr ⟨_, _, rfl, .skips message taken (by simpa using absent) rfl rfl⟩
  | deliver report route admitted =>
    cases admitted with
    | nil =>
      cases ran
      cases route with
      | exact =>
        have ended := DispatchReport.Under.over fits
        have matched : ¬ report.Unmatched adapter := fun unmatched => fits.unmatched.mpr unmatched rfl
        refine .inr ⟨_, _, rfl, .ends report rfl rfl (fun unmatched => absurd unmatched matched) ?_⟩
        rw [ended.matched matched]
        rfl
      | system => exact .inr ⟨_, _, rfl, .goesOn rfl rfl rfl⟩
      | claim => exact .inr ⟨_, _, rfl, .goesOn rfl rfl rfl⟩
    | cons record rest =>
      cases ran
      exact .inr ⟨_, _, rfl, .goesOn rfl rfl rfl⟩
  | unknown report =>
    have empty : report.mailbox = [] := fits.mailbox
    simp only [runReceive] at ran
    split at ran
    · next absent =>
      cases ran
      refine .inr ⟨_, _, rfl, .ends report rfl rfl (fun _ => ?_) ?_⟩
      · rw [empty, DispatchReport.domain, absent]
        rfl
      · rw [empty]
        rfl
    · next bus found =>
      cases ran
      refine .inr ⟨_, _, rfl, .ends { report with mailbox := report.mailbox ++ [bus] } rfl rfl (fun _ => ?_) ?_⟩
      · rw [empty]
        exact (congrArg Option.toList found).symm
      · rw [empty]
        rfl
  | inCallback report route record admitted nested | inRelay nested =>
    cases nested with
    | none =>
      cases ran
      exact .inr ⟨_, _, rfl, .goesOn rfl rfl rfl⟩
    | some child =>
      simp only [runReceive] at ran
      split at ran
      · cases ran
      · cases ran
        exact .inr ⟨_, _, rfl, .goesOn rfl rfl rfl⟩
  | enter =>
    simp only [runReceive] at ran
    split at ran
    · next gate found =>
      split at ran
      · next retiring =>
        cases ran
        refine .inl ⟨_, rfl, .refused ⟨rfl, paced.1 rfl⟩ (fun other there => ?_) rfl⟩
        rw [found, Option.some.injEq] at there
        exact there ▸ retiring
      · cases ran
        exact .inr ⟨_, _, rfl, .goesOn rfl rfl rfl⟩
    · next absent =>
      cases ran
      exact .inl ⟨_, rfl, .refused ⟨rfl, paced.1 rfl⟩ (fun gate there => by cases absent.symm.trans there) rfl⟩
  | leave =>
    cases ran
    exact .inl ⟨_, rfl, .completed (paced.2 rfl) rfl⟩
  | _ =>
    simp only [runReceive] at ran
    repeat' split at ran
    all_goals cases ran
    all_goals exact .inr ⟨_, _, rfl, .goesOn rfl rfl rfl⟩

theorem mailboxes_kept (context : CallbackContext) (frame next : Frame) (effect : Effect)
    (from' : effect.From tables self context frame next) (other : frame.isReceive = false) :
    (effect.apply tables).unknownMessages = tables.unknownMessages := by
  cases effect with
  | pushUnknown bus message =>
    obtain ⟨adapter, delivery, report, rfl, -⟩ := from'
    cases other
  | _ => rfl

end EncosDriver.Driver
