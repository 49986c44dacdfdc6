import EncosDriver.Driver.System

set_option autoImplicit false

namespace EncosDriver.Driver

open Lib

-- What at most one call holds at a time: the mark on an object that it destroys
-- or resets, or the lead of a creation.
inductive Token where
  | deleting (object : Pointer)
  | deletingGlove (glove : Pointer)
  | resetting (bus : Pointer)
  | pendingAdapter (name : String)
  | pendingBus (key : BusKey)
  | pendingDevice (key : DeviceKey)
  | pendingGlove (key : GloveKey)
deriving DecidableEq, Repr

def Tables.owner (tables : Tables) : Token → Option CallId
  | .deleting object => tables.deleting.find object
  | .deletingGlove glove => tables.deletingGloves.find glove
  | .resetting bus => tables.resettingBuses.find bus
  | .pendingAdapter name => tables.pendingAdapters.find name
  | .pendingBus key => tables.pendingBuses.find key
  | .pendingDevice key => tables.pendingDevices.find key
  | .pendingGlove key => tables.pendingGloves.find key

def Frame.token : Frame → Option Token
  | .createAdapter name pc =>
    match pc with
    | .enter | .await _ => none
    | .publish | .abandon => some (.pendingAdapter name)
  | .createBus key pc =>
    match pc with
    | .enter | .await _ | .drainGate _ | .endAdapter _ _ => none
    | .construct | .publish | .complete | .rollback _ _ => some (.pendingBus key)
  | .createDevice bus recipe pc =>
    match pc with
    | .enter | .await _ | .endBus _ _ | .endAdapter _ _ => none
    | _ => some (.pendingDevice (recipe.key bus))
  | .createGlove key pc =>
    match pc with
    | .enter | .await _ | .endAdapter _ _ => none
    | _ => some (.pendingGlove key)
  | .destroyDevice device _ pc =>
    match pc with
    | .accept => none
    | _ => some (.deleting device)
  | .destroyBus bus _ pc =>
    match pc with
    | .accept => none
    | _ => some (.deleting bus)
  | .destroyGlove glove pc =>
    match pc with
    | .accept => none
    | _ => some (.deletingGlove glove)
  | .destroyAdapter adapter pc =>
    match pc with
    | .accept => none
    | _ => some (.deleting adapter)
  | .resetBus bus pc =>
    match pc with
    | .mark => none
    | _ => some (.resetting bus)
  | _ => none

def Effect.takes : Effect → Option (Token × CallId)
  | .leadAdapter call name => some (.pendingAdapter name, call)
  | .leadBus call key _ => some (.pendingBus key, call)
  | .leadDevice call key _ => some (.pendingDevice key, call)
  | .leadGlove call key _ => some (.pendingGlove key, call)
  | .acceptDevice call device _ => some (.deleting device, call)
  | .acceptBus call bus _ => some (.deleting bus, call)
  | .acceptAdapter call adapter => some (.deleting adapter, call)
  | .acceptGlove call glove => some (.deletingGlove glove, call)
  | .markResetting call bus => some (.resetting bus, call)
  | _ => none

def Effect.gives : Effect → Option Token
  | .publishAdapter _ name => some (.pendingAdapter name)
  | .abandonAdapter _ name => some (.pendingAdapter name)
  | .completeBus _ key => some (.pendingBus key)
  | .rollbackBus _ key _ => some (.pendingBus key)
  | .commitDevice _ bus recipe => some (.pendingDevice (recipe.key bus))
  | .abandonDevice _ key => some (.pendingDevice key)
  | .publishGlove _ key _ _ => some (.pendingGlove key)
  | .rollbackGlove _ key _ _ => some (.pendingGlove key)
  | .finishDevice device => some (.deleting device)
  | .finishBus bus => some (.deleting bus)
  | .finishAdapter adapter => some (.deleting adapter)
  | .finishGlove glove => some (.deletingGlove glove)
  | .clearResetting bus => some (.resetting bus)
  | _ => none

theorem apply_owner (tables : Tables) (effect : Effect) (held : Token) :
    (effect.apply tables).owner held =
      match effect.takes with
      | some (token, call) => if token = held then some call else tables.owner held
      | none => if effect.gives = some held then none else tables.owner held := by
  cases effect <;> cases held <;> first
    | rfl
    | simp [Effect.apply, Effect.takes, Effect.gives, Tables.owner, eq_comm]

inductive TokenFlow (tables : Tables) (self : CallId) (before after : Option Token) (effect : Effect) : Prop where
  | keeps (same : after = before) (takesNone : effect.takes = none) (givesNone : effect.gives = none) : TokenFlow tables self before after effect
  | takes (token : Token) (empty : before = none) (holds : after = some token) (recorded : effect.takes = some (token, self))
      (free : tables.owner token = none) : TokenFlow tables self before after effect
  | gives (token : Token) (held : before = some token) (empty : after = none) (takesNone : effect.takes = none)
      (recorded : effect.gives = some token) : TokenFlow tables self before after effect

variable (tables : Tables) (self : CallId) (choice : Choice)

theorem create_adapter_tokens (name : String) (pc : CreateAdapterPc)
    (result : SectionResult) (ran : runCreateAdapter tables self choice name pc = some result) :
    TokenFlow tables self (Frame.createAdapter name pc).token result.frame.token result.effect := by
  unfold runCreateAdapter at ran
  repeat' split at ran
  all_goals cases ran
  all_goals first | exact .keeps rfl rfl rfl | exact .takes _ rfl rfl rfl ‹_› | exact .gives _ rfl rfl rfl rfl

theorem create_bus_tokens (key : BusKey) (pc : CreateBusPc)
    (result : SectionResult) (ran : runCreateBus tables self choice key pc = some result) :
    TokenFlow tables self (Frame.createBus key pc).token result.frame.token result.effect := by
  unfold runCreateBus draining at ran
  repeat' split at ran
  all_goals cases ran
  all_goals first | exact .keeps rfl rfl rfl | exact .takes _ rfl rfl rfl ‹_› | exact .gives _ rfl rfl rfl rfl

theorem create_device_tokens (bus : Pointer) (recipe : DeviceRecipe) (pc : CreateDevicePc)
    (result : SectionResult) (ran : runCreateDevice tables self choice bus recipe pc = some result) :
    TokenFlow tables self (Frame.createDevice bus recipe pc).token result.frame.token result.effect := by
  unfold runCreateDevice draining at ran
  repeat' split at ran
  all_goals cases ran
  all_goals first | exact .keeps rfl rfl rfl | exact .takes _ rfl rfl rfl ‹_› | exact .gives _ rfl rfl rfl rfl

variable (tables : Tables) (replyOf : CallId → Option Reply) (self fresh : CallId)

variable (choice : Choice)

theorem create_glove_tokens (key : GloveKey) (pc : CreateGlovePc)
    (result : SectionResult) (ran : runCreateGlove tables replyOf self fresh choice key pc = some result) :
    TokenFlow tables self (Frame.createGlove key pc).token result.frame.token result.effect := by
  unfold runCreateGlove draining at ran
  repeat' split at ran
  all_goals cases ran
  all_goals first | exact .keeps rfl rfl rfl | exact .takes _ rfl rfl rfl ‹_› | exact .gives _ rfl rfl rfl rfl

variable (context : CallbackContext)

theorem destroy_device_tokens (device : Pointer) (expected : DeviceKind) (pc : DestroyDevicePc)
    (result : SectionResult) (ran : runDestroyDevice tables self context device expected pc = some result) :
    TokenFlow tables self (Frame.destroyDevice device expected pc).token result.frame.token result.effect := by
  unfold runDestroyDevice draining at ran
  repeat' split at ran
  all_goals cases ran
  all_goals first
    | exact .keeps rfl rfl rfl
    | exact .gives _ rfl rfl rfl rfl
    | exact .takes _ rfl rfl rfl (by simp_all [Tables.owner])

theorem destroy_bus_tokens (bus : Pointer) (allowGloveInternal : Bool) (pc : DestroyBusPc)
    (result : SectionResult) (ran : runDestroyBus tables replyOf self fresh choice context bus allowGloveInternal pc = some result) :
    TokenFlow tables self (Frame.destroyBus bus allowGloveInternal pc).token result.frame.token result.effect := by
  unfold runDestroyBus draining at ran
  repeat' split at ran
  all_goals cases ran
  all_goals first
    | exact .keeps rfl rfl rfl
    | exact .gives _ rfl rfl rfl rfl
    | exact .takes _ rfl rfl rfl (by simp_all [Tables.owner])

theorem destroy_glove_tokens (glove : Pointer) (pc : DestroyGlovePc)
    (result : SectionResult) (ran : runDestroyGlove tables replyOf self fresh context glove pc = some result) :
    TokenFlow tables self (Frame.destroyGlove glove pc).token result.frame.token result.effect := by
  unfold runDestroyGlove draining at ran
  repeat' split at ran
  all_goals cases ran
  all_goals first
    | exact .keeps rfl rfl rfl
    | exact .gives _ rfl rfl rfl rfl
    | exact .takes _ rfl rfl rfl (by simp_all [Tables.owner])

theorem destroy_adapter_tokens (adapter : Pointer) (pc : DestroyAdapterPc)
    (result : SectionResult) (ran : runDestroyAdapter tables replyOf self fresh choice context adapter pc = some result) :
    TokenFlow tables self (Frame.destroyAdapter adapter pc).token result.frame.token result.effect := by
  unfold runDestroyAdapter draining at ran
  repeat' split at ran
  all_goals cases ran
  all_goals first
    | exact .keeps rfl rfl rfl
    | exact .gives _ rfl rfl rfl rfl
    | exact .takes _ rfl rfl rfl (by simp_all [Tables.owner])

theorem reserve_tokens (motor : Pointer) (newMotorIdx : Int32) (pc : ReservePc)
    (result : SectionResult) (ran : runReserve tables choice motor newMotorIdx pc = some result) :
    TokenFlow tables self (Frame.reserve motor newMotorIdx pc).token result.frame.token result.effect := by
  unfold runReserve at ran
  repeat' split at ran
  all_goals cases ran
  all_goals exact .keeps rfl rfl rfl

theorem migrate_tokens (motor : Pointer) (newMotorIdx : Int32) (pc : MigratePc)
    (result : SectionResult) (ran : runMigrate tables choice motor newMotorIdx pc = some result) :
    TokenFlow tables self (Frame.migrate motor newMotorIdx pc).token result.frame.token result.effect := by
  unfold runMigrate at ran
  repeat' split at ran
  all_goals cases ran
  all_goals exact .keeps rfl rfl rfl

theorem reset_bus_tokens (bus : Pointer) (pc : ResetBusPc)
    (result : SectionResult) (ran : runResetBus tables replyOf self fresh bus pc = some result) :
    TokenFlow tables self (Frame.resetBus bus pc).token result.frame.token result.effect := by
  unfold runResetBus at ran
  repeat' split at ran
  all_goals cases ran
  all_goals first
    | exact .keeps rfl rfl rfl
    | exact .gives _ rfl rfl rfl rfl
    | exact .takes _ rfl rfl rfl (by simp_all [Tables.owner, parentRetiring])

theorem operate_tokens (object : Pointer) (pc : OperatePc)
    (result : SectionResult) (ran : runOperate tables object pc = some result) :
    TokenFlow tables self (Frame.operate object pc).token result.frame.token result.effect := by
  unfold runOperate at ran
  repeat' split at ran
  all_goals cases ran
  all_goals exact .keeps rfl rfl rfl

theorem receive_tokens (adapter : Pointer) (delivery : Delivery) (pc : ReceivePc)
    (result : SectionResult) (ran : runReceive tables replyOf self choice adapter delivery pc = some result) :
    TokenFlow tables self (Frame.receive adapter delivery pc).token result.frame.token result.effect := by
  unfold runReceive afterRoutes at ran
  repeat' split at ran
  all_goals cases ran
  all_goals exact .keeps rfl rfl rfl

theorem frame_tokens (frame : Frame) (result : SectionResult)
    (ran : runFrame tables replyOf self fresh choice context frame = some result) :
    TokenFlow tables self frame.token result.frame.token result.effect := by
  cases frame with
  | finished reply => cases ran
  | createAdapter name pc => exact create_adapter_tokens tables self choice name pc result ran
  | createBus key pc => exact create_bus_tokens tables self choice key pc result ran
  | createDevice bus recipe pc => exact create_device_tokens tables self choice bus recipe pc result ran
  | createGlove key pc => exact create_glove_tokens tables replyOf self fresh choice key pc result ran
  | destroyDevice device expected pc => exact destroy_device_tokens tables self context device expected pc result ran
  | destroyBus bus allowed pc => exact destroy_bus_tokens tables replyOf self fresh choice context bus allowed pc result ran
  | destroyGlove glove pc => exact destroy_glove_tokens tables replyOf self fresh context glove pc result ran
  | destroyAdapter adapter pc => exact destroy_adapter_tokens tables replyOf self fresh choice context adapter pc result ran
  | reserve motor newMotorIdx pc => exact reserve_tokens tables self choice motor newMotorIdx pc result ran
  | release motor newMotorIdx =>
    cases ran
    exact .keeps rfl rfl rfl
  | migrate motor newMotorIdx pc => exact migrate_tokens tables self choice motor newMotorIdx pc result ran
  | resetBus bus pc => exact reset_bus_tokens tables replyOf self fresh bus pc result ran
  | configure adapter setting =>
    cases ran
    exact .keeps rfl rfl rfl
  | operate object pc => exact operate_tokens tables self object pc result ran
  | receive adapter delivery pc => exact receive_tokens tables replyOf self choice adapter delivery pc result ran

theorem request_token (request : Request) : request.frame.token = none := by
  cases request <;> rfl

theorem entered_token (frame : Frame) (result : CallbackContext × Frame)
    (entered : enterCallback tables fresh frame = some result) : frame.token = none ∧ result.2.token = none := by
  unfold enterCallback at entered
  split at entered
  all_goals cases entered
  all_goals exact ⟨rfl, rfl⟩

def Owned (state : DriverState) : Prop := World.Owned Tables.owner (fun call : Call => call.frame.token) state

theorem flow_exchanges (call next : Call) (effect : Effect)
    (flow : TokenFlow tables self call.frame.token next.frame.token effect) :
    World.Exchanges Tables.owner (fun call : Call => call.frame.token) self tables (effect.apply tables) call next := by
  cases flow with
  | keeps same takesNone givesNone =>
    refine ⟨fun held holds => .inl (same.symm.trans holds), fun held _ => ?_, fun held different => absurd same different⟩
    simp [apply_owner, takesNone, givesNone]
  | takes token empty after recorded free =>
    refine ⟨fun held holds => ?_, fun held same => ?_, fun held _ => ?_⟩
    · have equal : some token = some held := after.symm.trans holds
      cases equal
      exact .inr free
    · have equal : some token = none := (after.symm.trans same).trans empty
      cases equal
    · simp [apply_owner, recorded, after, empty]
  | gives token before empty takesNone recorded =>
    refine ⟨fun held holds => ?_, fun held same => ?_, fun held _ => ?_⟩
    · have equal : none = some held := empty.symm.trans holds
      cases equal
    · have equal : none = some token := (empty.symm.trans same).trans before
      cases equal
    · simp [apply_owner, takesNone, recorded, before, empty]

theorem step_owned (state next : DriverState) (action : Action) (numbered : World.Numbered state) (owned : Owned state)
    (steps : Steps state action next) : Owned next := by
  cases steps with
  | begins action request notRun => exact World.owned_start state _ numbered owned (request_token request)
  | enters id call request context frame present entered =>
    refine World.owned_advance state id call _ numbered present owned ?_ ?_
    · obtain ⟨before, after⟩ := entered_token _ _ _ _ entered
      exact flow_exchanges state.shared id call _ .nothing (.keeps (after.trans before.symm) rfl rfl)
    · rintro _ ⟨⟩
      exact request_token request
  | runs id call choice result present ran =>
    refine World.owned_advance state id call _ numbered present owned ?_ ?_
    · exact flow_exchanges state.shared id call _ result.effect (frame_tokens _ _ id _ choice _ _ result ran)
    · intro child started
      obtain ⟨request, -, rfl⟩ := Option.map_eq_some_iff.mp started
      exact request_token request

theorem reachable_owned (allowed : DriverState → Action → Prop) (state : DriverState)
    (reached : ReachableWith system allowed state) : Owned state := by
  refine reachable_invariant_under system allowed World.Numbered Owned (reachable_numbered allowed) ?_ ?_ state reached
  · rintro _ rfl held id
    cases held <;> simp [initial, Tables.owner]
  · intro state action next numbered _ owned _ taken
    exact step_owned state next action numbered owned (step_cases state next action taken)

end EncosDriver.Driver
