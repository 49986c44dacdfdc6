import EncosDriver.Driver.Inversion

set_option autoImplicit false

namespace EncosDriver.Driver

open Lib

inductive Place where
  | adapter
  | bus
  | busObject
  | glove
  | device
  | registration
  | record
deriving DecidableEq, Repr

def Tables.has (tables : Tables) : Place → Pointer → Prop
  | .adapter, object => tables.adapterNames.find object ≠ none
  | .bus, object => tables.busKeys.find object ≠ none
  | .busObject, object => tables.busObjects.find object ≠ none
  | .glove, object => tables.gloveKeys.find object ≠ none
  | .device, object => tables.deviceKeys.find object ≠ none
  | .registration, object => tables.registrations.find object ≠ none
  | .record, object => ∃ index, tables.records.find ⟨object, index⟩ ≠ none

def Effect.inserts : Place → Effect → Option CallId
  | .adapter, .publishAdapter call _ => some call
  | .bus, .publishBus call _ => some call
  | .busObject, .constructBus call _ => some call
  | .glove, .publishGlove call _ _ _ => some call
  | .device, .commitDevice call _ _ => some call
  | .registration, .publishRoutes call _ _ _ _ => some call
  | .record, .publishRoutes call _ _ _ _ => some call
  | _, _ => none

def Frame.backs (self : CallId) : Place → Frame → Prop
  | .busObject, .finished _ | .record, .finished _ => True
  | _, .finished reply => reply = .object self
  | .bus, .createBus _ pc =>
    match pc with
    | .complete => True
    | .endAdapter _ reply => reply = .object self
    | _ => False
  | .busObject, .createBus _ pc =>
    match pc with
    | .enter | .await _ | .construct => False
    | _ => True
  | .glove, .createGlove _ pc =>
    match pc with
    | .endAdapter _ reply => reply = .object self
    | _ => False
  | .device, .createDevice _ _ pc =>
    match pc with
    | .endBus _ reply | .endAdapter _ reply => reply = .object self
    | _ => False
  | .registration, .createDevice _ _ pc =>
    match pc with
    | .commit _ | .rollbackDetach _ => True
    | .endBus _ reply | .endAdapter _ reply => reply = .object self
    | _ => False
  | .record, .createDevice _ _ pc =>
    match pc with
    | .enter | .await _ | .construct _ | .publish _ => False
    | _ => True
  | _, _ => False

theorem find_emplace_ne_none {Key Value : Type} [DecidableEq Key] (table : Table Key Value) (key other : Key) (value : Value)
    (present : (table.emplace key value).find other ≠ none) : table.find other ≠ none ∨ key = other := by
  rw [Table.find_emplace] at present
  by_cases same : other = key
  · exact .inr same.symm
  · exact .inl (by simpa [same] using present)

theorem remove_ne_none {Key Value : Type} [DecidableEq Key] (table : Table Key Value) (key other : Key)
    (present : (table.remove key).find other ≠ none) : table.find other ≠ none := by
  intro absent
  simp [absent] at present

theorem remove_pointer_ne_none {Value : Type} (table : Table Pointer Value) (pointer : Option Pointer) (other : Pointer)
    (present : (Tables.removePointer table pointer).find other ≠ none) : table.find other ≠ none := by
  cases pointer with
  | none => exact present
  | some pointer => exact remove_ne_none table pointer other present

theorem modify_ne_none {Key Value : Type} [DecidableEq Key] (table : Table Key Value) (key other : Key)
    (change : Value → Value) (present : (table.modify key change).find other ≠ none) : table.find other ≠ none := by
  intro absent
  by_cases same : other = key
  · subst same
    simp [absent] at present
  · simp [same, absent] at present

theorem prepared_records (device : Pointer) (domain : BusKey) (recipe : DeviceRecipe) (entry : RouteEntry)
    (inside : entry ∈ Tables.preparedRoutes device domain recipe) : entry.record.device = device := by
  unfold Tables.preparedRoutes at inside
  split at inside
  · rw [List.mem_singleton.mp inside]
  · obtain ⟨id, -, rfl⟩ := List.mem_map.mp inside
    rfl

variable (tables : Tables)

theorem apply_has_record (effect : Effect) (object : Pointer)
    (held : (effect.apply tables).has .record object) : tables.has .record object ∨ effect.inserts .record = some object := by
  obtain ⟨index, present⟩ := held
  cases effect with
  | publishRoutes call bus adapter domain recipe =>
    simp only [Effect.apply, Tables.publishRoutes, ne_eq, Table.find_emplace_all_none, not_and_or, not_not,
      List.map_map] at present
    rcases present with before | inside
    · exact .inl ⟨index, before⟩
    · obtain ⟨entry, prepared, same⟩ := List.mem_map.mp inside
      have device := prepared_records call domain recipe entry prepared
      simp only [Function.comp_apply] at same
      rw [same] at device
      exact .inr (congrArg some device.symm)
  | detachDevice device | acceptDevice call device bus | activateRoutes device =>
    exact .inl ⟨index, fun absent => present ((Table.find_modify_all_none _ _ _ _).mpr absent)⟩
  | enterRoutes records =>
    refine .inl ⟨index, fun absent => present ?_⟩
    exact (Table.find_modify_all_none _ records _ _).mpr absent
  | leaveRoute record => exact .inl ⟨index, modify_ne_none tables.records record _ _ present⟩
  | _ => exact .inl ⟨index, present⟩

theorem apply_has (effect : Effect) (place : Place) (object : Pointer)
    (held : (effect.apply tables).has place object) : tables.has place object ∨ effect.inserts place = some object := by
  cases place with
  | adapter =>
    cases effect with
    | publishAdapter call name =>
      exact (find_emplace_ne_none tables.adapterNames call object name held).imp_right (congrArg some)
    | eraseAdapter adapter name => exact .inl (remove_ne_none tables.adapterNames adapter object held)
    | _ => exact .inl held
  | bus =>
    cases effect with
    | publishBus call key => exact (find_emplace_ne_none tables.busKeys call object key held).imp_right (congrArg some)
    | rollbackBus call key constructed => exact .inl (remove_pointer_ne_none tables.busKeys _ object held)
    | eraseBus bus key => exact .inl (remove_ne_none tables.busKeys bus object held)
    | _ => exact .inl held
  | busObject =>
    cases effect with
    | constructBus call key =>
      by_cases same : object = call
      · exact .inr (congrArg some same.symm)
      · exact .inl (by simpa [Tables.has, Effect.apply, same] using held)
    | _ => exact .inl held
  | glove =>
    cases effect with
    | publishGlove call key buses busKeys =>
      exact (find_emplace_ne_none tables.gloveKeys call object key held).imp_right (congrArg some)
    | rollbackGlove call key parts busKeys => exact .inl (remove_pointer_ne_none tables.gloveKeys _ object held)
    | eraseGlove glove key => exact .inl (remove_ne_none tables.gloveKeys glove object held)
    | _ => exact .inl held
  | device =>
    cases effect with
    | commitDevice call bus recipe =>
      exact (find_emplace_ne_none tables.deviceKeys call object (recipe.key bus) held).imp_right (congrArg some)
    | commitThrows call key => exact .inl (remove_ne_none tables.deviceKeys call object held)
    | eraseCreation key device => exact .inl (remove_pointer_ne_none tables.deviceKeys device object held)
    | eraseDevice device key => exact .inl (remove_ne_none tables.deviceKeys device object held)
    | migrate migration => exact .inl (modify_ne_none tables.deviceKeys _ object _ held)
    | _ => exact .inl held
  | registration =>
    cases effect with
    | publishRoutes call bus adapter domain recipe =>
      by_cases same : object = call
      · exact .inr (congrArg some same.symm)
      · exact .inl (by simpa [Tables.has, Effect.apply, Tables.publishRoutes, same] using held)
    | detachDevice device | acceptDevice call device bus =>
      exact .inl (remove_ne_none tables.registrations device object held)
    | migrate migration => exact .inl (modify_ne_none tables.registrations _ object _ held)
    | _ => exact .inl held
  | record => exact apply_has_record tables effect object held

def Effect.Answers (tables : Tables) (self : CallId) (frame next : Frame) (effect : Effect) : Prop :=
  ∀ place, frame.backs self place ∨ effect.inserts place = some self →
    next.backs self place ∨ ¬ (effect.apply tables).has place self

theorem detached_unregistered (device : Pointer) :
    ¬ ((Effect.detachDevice device).apply tables).has .registration device := by
  simp [Tables.has, Effect.apply, Tables.detachRegistrationLocked]

variable (tables : Tables) (self : CallId) (choice : Choice)

theorem create_adapter_answers (name : String) (pc : CreateAdapterPc)
    (result : SectionResult) (ran : runCreateAdapter tables self choice name pc = some result) :
    result.effect.Answers tables self (Frame.createAdapter name pc) result.frame := by
  unfold runCreateAdapter at ran
  repeat' split at ran
  all_goals cases ran
  all_goals
    intro place held
    cases place <;> simp_all [Frame.backs, Effect.inserts]

theorem create_bus_answers (key : BusKey) (pc : CreateBusPc)
    (result : SectionResult) (ran : runCreateBus tables self choice key pc = some result) :
    result.effect.Answers tables self (Frame.createBus key pc) result.frame := by
  unfold runCreateBus draining at ran
  repeat' split at ran
  all_goals cases ran
  all_goals
    intro place held
    cases place <;> simp_all [Frame.backs, Effect.inserts]

theorem create_device_answers (bus : Pointer) (recipe : DeviceRecipe) (pc : CreateDevicePc)
    (result : SectionResult) (ran : runCreateDevice tables self choice bus recipe pc = some result) :
    result.effect.Answers tables self (Frame.createDevice bus recipe pc) result.frame := by
  unfold runCreateDevice draining at ran
  repeat' split at ran
  all_goals cases ran
  all_goals
    intro place held
    cases place <;> simp_all [Frame.backs, Effect.inserts, detached_unregistered]

variable (tables : Tables) (replyOf : CallId → Option Reply) (self fresh : CallId)

variable (choice : Choice)

theorem create_glove_answers (key : GloveKey) (pc : CreateGlovePc)
    (result : SectionResult) (ran : runCreateGlove tables replyOf self fresh choice key pc = some result) :
    result.effect.Answers tables self (Frame.createGlove key pc) result.frame := by
  unfold runCreateGlove draining at ran
  repeat' split at ran
  all_goals cases ran
  all_goals
    intro place held
    cases place <;> simp_all [Frame.backs, Effect.inserts]

variable (context : CallbackContext)

theorem destroy_device_answers (device : Pointer) (expected : DeviceKind) (pc : DestroyDevicePc)
    (result : SectionResult) (ran : runDestroyDevice tables self context device expected pc = some result) :
    result.effect.Answers tables self (Frame.destroyDevice device expected pc) result.frame := by
  unfold runDestroyDevice draining at ran
  repeat' split at ran
  all_goals cases ran
  all_goals
    intro place held
    cases place <;> simp_all [Frame.backs, Effect.inserts]

theorem destroy_bus_answers (bus : Pointer) (allowGloveInternal : Bool) (pc : DestroyBusPc)
    (result : SectionResult) (ran : runDestroyBus tables replyOf self fresh choice context bus allowGloveInternal pc = some result) :
    result.effect.Answers tables self (Frame.destroyBus bus allowGloveInternal pc) result.frame := by
  unfold runDestroyBus draining at ran
  repeat' split at ran
  all_goals cases ran
  all_goals
    intro place held
    cases place <;> simp_all [Frame.backs, Effect.inserts]

theorem destroy_glove_answers (glove : Pointer) (pc : DestroyGlovePc)
    (result : SectionResult) (ran : runDestroyGlove tables replyOf self fresh context glove pc = some result) :
    result.effect.Answers tables self (Frame.destroyGlove glove pc) result.frame := by
  unfold runDestroyGlove draining at ran
  repeat' split at ran
  all_goals cases ran
  all_goals
    intro place held
    cases place <;> simp_all [Frame.backs, Effect.inserts]

theorem destroy_adapter_answers (adapter : Pointer) (pc : DestroyAdapterPc)
    (result : SectionResult) (ran : runDestroyAdapter tables replyOf self fresh choice context adapter pc = some result) :
    result.effect.Answers tables self (Frame.destroyAdapter adapter pc) result.frame := by
  unfold runDestroyAdapter draining at ran
  repeat' split at ran
  all_goals cases ran
  all_goals
    intro place held
    cases place <;> simp_all [Frame.backs, Effect.inserts]

theorem reserve_answers (motor : Pointer) (newMotorIdx : Int32) (pc : ReservePc)
    (result : SectionResult) (ran : runReserve tables choice motor newMotorIdx pc = some result) :
    result.effect.Answers tables self (Frame.reserve motor newMotorIdx pc) result.frame := by
  unfold runReserve at ran
  repeat' split at ran
  all_goals cases ran
  all_goals
    intro place held
    cases place <;> simp_all [Frame.backs, Effect.inserts]

theorem migrate_answers (motor : Pointer) (newMotorIdx : Int32) (pc : MigratePc)
    (result : SectionResult) (ran : runMigrate tables choice motor newMotorIdx pc = some result) :
    result.effect.Answers tables self (Frame.migrate motor newMotorIdx pc) result.frame := by
  unfold runMigrate at ran
  repeat' split at ran
  all_goals cases ran
  all_goals
    intro place held
    cases place <;> simp_all [Frame.backs, Effect.inserts]

theorem reset_bus_answers (bus : Pointer) (pc : ResetBusPc)
    (result : SectionResult) (ran : runResetBus tables replyOf self fresh bus pc = some result) :
    result.effect.Answers tables self (Frame.resetBus bus pc) result.frame := by
  unfold runResetBus at ran
  repeat' split at ran
  all_goals cases ran
  all_goals
    intro place held
    cases place <;> simp_all [Frame.backs, Effect.inserts]

theorem operate_answers (object : Pointer) (pc : OperatePc)
    (result : SectionResult) (ran : runOperate tables object pc = some result) :
    result.effect.Answers tables self (Frame.operate object pc) result.frame := by
  unfold runOperate at ran
  repeat' split at ran
  all_goals cases ran
  all_goals
    intro place held
    cases place <;> simp_all [Frame.backs, Effect.inserts]

theorem receive_answers (adapter : Pointer) (delivery : Delivery) (pc : ReceivePc)
    (result : SectionResult) (ran : runReceive tables replyOf self choice adapter delivery pc = some result) :
    result.effect.Answers tables self (Frame.receive adapter delivery pc) result.frame := by
  unfold runReceive afterRoutes at ran
  repeat' split at ran
  all_goals cases ran
  all_goals
    intro place held
    cases place <;> simp_all [Frame.backs, Effect.inserts]

theorem frame_answers (frame : Frame) (result : SectionResult)
    (ran : runFrame tables replyOf self fresh choice context frame = some result) :
    result.effect.Answers tables self frame result.frame := by
  cases frame with
  | finished reply => cases ran
  | createAdapter name pc => exact create_adapter_answers tables self choice name pc result ran
  | createBus key pc => exact create_bus_answers tables self choice key pc result ran
  | createDevice bus recipe pc => exact create_device_answers tables self choice bus recipe pc result ran
  | createGlove key pc => exact create_glove_answers tables replyOf self fresh choice key pc result ran
  | destroyDevice device expected pc => exact destroy_device_answers tables self context device expected pc result ran
  | destroyBus bus allowed pc => exact destroy_bus_answers tables replyOf self fresh choice context bus allowed pc result ran
  | destroyGlove glove pc => exact destroy_glove_answers tables replyOf self fresh context glove pc result ran
  | destroyAdapter adapter pc => exact destroy_adapter_answers tables replyOf self fresh choice context adapter pc result ran
  | reserve motor newMotorIdx pc => exact reserve_answers tables self choice motor newMotorIdx pc result ran
  | release motor newMotorIdx | configure adapter setting =>
    cases ran
    intro place held
    cases place <;> simp_all [Frame.backs, Effect.inserts]
  | migrate motor newMotorIdx pc => exact migrate_answers tables self choice motor newMotorIdx pc result ran
  | resetBus bus pc => exact reset_bus_answers tables replyOf self fresh bus pc result ran
  | operate object pc => exact operate_answers tables self object pc result ran
  | receive adapter delivery pc => exact receive_answers tables replyOf self choice adapter delivery pc result ran

theorem inserts_self (frame next : Frame) (effect : Effect)
    (from' : effect.From tables self context frame next) (place : Place) (call : CallId)
    (inserted : effect.inserts place = some call) : call = self := by
  cases effect <;> cases place <;> first
    | (cases inserted; done)
    | (cases inserted; exact from'.1)

theorem entered_backs (fresh self : CallId) (frame : Frame) (result : CallbackContext × Frame)
    (entered : enterCallback tables fresh frame = some result) (place : Place) : ¬ frame.backs self place := by
  unfold enterCallback at entered
  split at entered
  all_goals cases entered
  all_goals cases place <;> exact id

def Backed (place : Place) (state : DriverState) : Prop :=
  World.Backed (fun tables object => Tables.has tables place object) (fun id (call : Call) => call.frame.backs id place) state

theorem step_backed (place : Place) (state next : DriverState) (action : Action) (numbered : World.Numbered state)
    (backed : Backed place state) (steps : Steps state action next) : Backed place next := by
  cases steps with
  | begins action request notRun => exact World.backed_start state _ numbered backed
  | enters id call request context frame present entered =>
    refine World.backed_advance state id call _ numbered present backed (fun _ _ held => held) ?_
    intro held
    exact absurd held (World.backed_absent state backed id call present (entered_backs _ _ id _ _ entered place))
  | runs id call choice result present ran =>
    have from' := runs_from state id choice call result ⟨present, ran⟩
    refine World.backed_advance state id call _ numbered present backed ?_ ?_
    · intro other different held
      rcases apply_has state.shared result.effect place other held with before | inserted
      · exact before
      · exact absurd (inserts_self _ _ _ _ _ _ from' place other inserted) different
    · intro held
      have answers := frame_answers _ _ id _ choice _ _ result ran place
      rcases apply_has state.shared result.effect place id held with before | inserted
      · obtain ⟨holder, found, backs⟩ := backed id before
        rw [present] at found
        cases found
        exact (answers (.inl backs)).resolve_right (not_not_intro held)
      · exact (answers (.inr inserted)).resolve_right (not_not_intro held)

theorem reachable_backed (place : Place) (allowed : DriverState → Action → Prop) (state : DriverState)
    (reached : ReachableWith system allowed state) : Backed place state := by
  refine reachable_invariant_under system allowed World.Numbered (Backed place) (reachable_numbered allowed) ?_ ?_ state reached
  · rintro _ rfl id held
    cases place <;> simp [initial, Tables.has] at held
  · intro state action next numbered _ backed _ taken
    exact step_backed place state next action numbered backed (step_cases state next action taken)

theorem backed_absent (place : Place) (state : DriverState) (backed : Backed place state) (id : CallId) (call : Call)
    (present : state.calls.find id = some call) (not : ¬ call.frame.backs id place) : ¬ state.shared.has place id :=
  World.backed_absent state backed id call present not

def Frame.entered (self : CallId) (frame : Frame) : Prop :=
  frame.backs self .adapter ∨ frame.backs self .bus ∨ frame.backs self .device

def DeletingEntered (state : DriverState) : Prop :=
  World.Backed (fun tables object => tables.deleting.find object ≠ none) (fun id (call : Call) => call.frame.entered id) state

theorem entered_stays (state : DriverState) (id : CallId) (choice : Choice) (call : Call) (result : SectionResult)
    (runs : Runs state id choice call result) (entered : call.frame.entered id) : result.frame.entered id := by
  obtain ⟨-, ran⟩ := runs
  obtain ⟨context, frame⟩ := call
  simp only at entered ran
  cases frame with
  | finished reply => cases ran
  | createBus key pc =>
    cases pc with
    | complete =>
      simp only [runFrame, runCreateBus] at ran
      cases ran
      exact .inr (.inl rfl)
    | endAdapter counted reply =>
      have made : reply = .object id := by simpa [Frame.entered, Frame.backs] using entered
      simp only [runFrame, runCreateBus] at ran
      split at ran
      all_goals cases ran
      all_goals exact .inr (.inl made)
    | _ => simp [Frame.entered, Frame.backs] at entered
  | createDevice bus recipe pc =>
    cases pc with
    | endBus creation reply | endAdapter creation reply =>
      have made : reply = .object id := by simpa [Frame.entered, Frame.backs] using entered
      simp only [runFrame, runCreateDevice] at ran
      split at ran
      all_goals cases ran
      all_goals exact .inr (.inr made)
    | _ => simp [Frame.entered, Frame.backs] at entered
  | _ => simp [Frame.entered, Frame.backs] at entered

abbrev Entered (state : DriverState) (object : Pointer) : Prop :=
  ∃ holder, state.calls.find object = some holder ∧ holder.frame.entered object

theorem step_entered (state next : DriverState) (action : Action) (numbered : World.Numbered state)
    (steps : Steps state action next) (object : Pointer) (entered : Entered state object) : Entered next object := by
  obtain ⟨holder, found, settled⟩ := entered
  have known := numbered object holder found
  cases steps with
  | begins action request notRun =>
    refine ⟨holder, ?_, settled⟩
    rw [World.find_start, if_neg (Nat.ne_of_lt known)]
    exact found
  | enters id call request context frame present enters =>
    have different : object ≠ id := by
      rintro rfl
      rw [present] at found
      cases found
      have not := entered_backs _ _ object _ _ enters
      rcases settled with adapter | bus | device
      · exact not _ adapter
      · exact not _ bus
      · exact not _ device
    exact ⟨holder, (World.find_advance_other state id object _ different known).trans found, settled⟩
  | runs id call choice result present ran =>
    by_cases same : object = id
    · subst same
      rw [present] at found
      cases found
      exact ⟨_, World.find_advance_self state object _ known, entered_stays state object choice _ result ⟨present, ran⟩ settled⟩
    · exact ⟨holder, (World.find_advance_other state id object _ same known).trans found, settled⟩

theorem apply_deleting (frame next : Frame) (effect : Effect)
    (from' : effect.From tables self context frame next) (object : Pointer)
    (marked : (effect.apply tables).deleting.find object ≠ none) :
    tables.deleting.find object ≠ none ∨ tables.has .adapter object ∨ tables.has .bus object ∨ tables.has .device object := by
  cases effect with
  | acceptDevice call device bus =>
    by_cases same : object = device
    · obtain ⟨-, expected, key, -, -, -, found, -⟩ := from'
      subst same
      exact .inr (.inr (.inr (by simp [Tables.has, found])))
    · exact .inl (by simpa [Effect.apply, same] using marked)
  | acceptBus call bus key =>
    by_cases same : object = bus
    · obtain ⟨-, allowed, -, -, found, -⟩ := from'
      subst same
      exact .inr (.inr (.inl (by simp [Tables.has, found])))
    · exact .inl (by simpa [Effect.apply, same] using marked)
  | acceptAdapter call adapter =>
    by_cases same : object = adapter
    · obtain ⟨-, name, -, -, found, -⟩ := from'
      subst same
      exact .inr (.inl (by simp [Tables.has, found]))
    · exact .inl (by simpa [Effect.apply, same] using marked)
  | finishDevice device => exact .inl (remove_ne_none tables.deleting device object marked)
  | finishBus bus => exact .inl (remove_ne_none tables.deleting bus object marked)
  | finishAdapter adapter => exact .inl (remove_ne_none tables.deleting adapter object marked)
  | _ => exact .inl marked

structure Grounded (state : DriverState) : Prop where
  numbered : World.Numbered state
  owned : Owned state
  backed : ∀ place, Backed place state
  deletingEntered : DeletingEntered state

theorem step_deleting_entered (state next : DriverState) (action : Action) (numbered : World.Numbered state)
    (backed : ∀ place, Backed place state) (entered : DeletingEntered state) (steps : Steps state action next) :
    DeletingEntered next := by
  intro object marked
  have later (known : Entered state object) : Entered next object := step_entered state next action numbered steps object known
  cases steps with
  | begins action request notRun => exact later (entered object marked)
  | enters id call request context frame present enters =>
    rw [World.advance_shared] at marked
    exact later (entered object marked)
  | runs id call choice result present ran =>
    rw [World.advance_shared] at marked
    rcases apply_deleting _ _ _ _ _ _ (runs_from state id choice call result ⟨present, ran⟩) object marked with
      before | adapter | bus | device
    · exact later (entered object before)
    · obtain ⟨holder, found, backs⟩ := backed .adapter object adapter
      exact later ⟨holder, found, .inl backs⟩
    · obtain ⟨holder, found, backs⟩ := backed .bus object bus
      exact later ⟨holder, found, .inr (.inl backs)⟩
    · obtain ⟨holder, found, backs⟩ := backed .device object device
      exact later ⟨holder, found, .inr (.inr backs)⟩

theorem reachable_grounded (allowed : DriverState → Action → Prop) (state : DriverState)
    (reached : ReachableWith system allowed state) : Grounded state := by
  have numbered := reachable_numbered allowed state reached
  have owned := reachable_owned allowed state reached
  have backed := fun place => reachable_backed place allowed state reached
  refine ⟨numbered, owned, backed, ?_⟩
  refine reachable_invariant_under system allowed (fun state => World.Numbered state ∧ ∀ place, Backed place state) DeletingEntered
    (fun state reached => ⟨reachable_numbered allowed state reached, fun place => reachable_backed place allowed state reached⟩)
    ?_ ?_ state reached
  · rintro _ rfl id marked
    simp [initial] at marked
  · intro state action next known _ entered _ taken
    exact step_deleting_entered state next action known.1 known.2 entered (step_cases state next action taken)

end EncosDriver.Driver
