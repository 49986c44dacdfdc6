import EncosDriver.Lib.Calls
import EncosDriver.Lib.System
import EncosDriver.Driver.Dispatch

set_option autoImplicit false

namespace EncosDriver.Driver

open Lib

abbrev DriverState := World Tables Call

def replyOf (calls : Table CallId Call) (id : CallId) : Option Reply :=
  match calls.find id with
  | some { frame := .finished reply, .. } => some reply
  | _ => none

theorem reply_of_finished (calls : Table CallId Call) (id : CallId) (call : Call) (reply : Reply)
    (found : calls.find id = some call) (replied : replyOf calls id = some reply) : call.frame = .finished reply := by
  obtain ⟨context, frame⟩ := call
  simp only [replyOf, found] at replied
  cases frame with
  | finished answer =>
    cases replied
    rfl
  | _ => cases replied

def runFrame (tables : Tables) (replyOf : CallId → Option Reply) (self fresh : CallId) (choice : Choice)
    (context : CallbackContext) : Frame → Option SectionResult
  | .finished _ => none
  | .createAdapter name pc => runCreateAdapter tables self choice name pc
  | .createBus key pc => runCreateBus tables self choice key pc
  | .createDevice bus recipe pc => runCreateDevice tables self choice bus recipe pc
  | .createGlove key pc => runCreateGlove tables replyOf self fresh choice key pc
  | .destroyDevice device expected pc => runDestroyDevice tables self context device expected pc
  | .destroyBus bus allowGloveInternal pc => runDestroyBus tables replyOf self fresh choice context bus allowGloveInternal pc
  | .destroyGlove glove pc => runDestroyGlove tables replyOf self fresh context glove pc
  | .destroyAdapter adapter pc => runDestroyAdapter tables replyOf self fresh choice context adapter pc
  | .reserve motor newMotorIdx pc => runReserve tables choice motor newMotorIdx pc
  | .release motor newMotorIdx => runRelease motor newMotorIdx
  | .migrate motor newMotorIdx pc => runMigrate tables choice motor newMotorIdx pc
  | .resetBus bus pc => runResetBus tables replyOf self fresh bus pc
  | .configure adapter setting => runConfigure adapter setting
  | .operate object pc => runOperate tables object pc
  | .receive adapter delivery pc => runReceive tables replyOf self choice adapter delivery pc

def enterCallback (tables : Tables) (fresh : CallId) : Frame → Option (CallbackContext × Frame)
  | .receive adapter delivery (.inRelay none) =>
    some (⟨none, none, some adapter, true⟩, .receive adapter delivery (.inRelay (some fresh)))
  | .receive adapter delivery (.inCallback report route record rest none) =>
    some (tables.routeContext record, .receive adapter delivery (.inCallback report route record rest (some fresh)))
  | _ => none

inductive Action where
  -- A client thread outside every callback makes a call.
  | call (request : Request)
  -- A receive thread of an adapter delivers messages.
  | receive (adapter : Pointer) (messages : List MotorMessage)
  -- The client code of the callback that a delivery is inside makes a call.
  | callback (delivery : CallId) (request : Request)
  -- A call runs its next locked section.
  | run (id : CallId) (choice : Choice)
deriving DecidableEq, Repr

def beginCall (context : CallbackContext) (request : Request) : Call := ⟨context, request.frame⟩

def sectionMove (driver : DriverState) (id : CallId) (choice : Choice) (call : Call) : Option (SectionResult × Move Tables Call) :=
  match runFrame driver.shared (replyOf driver.calls) id driver.nextCall choice call.context call.frame with
  | none => none
  | some result =>
    some (result,
      ⟨result.effect.apply driver.shared, { call with frame := result.frame }, result.nested.map (beginCall call.context)⟩)

def callbackMove (driver : DriverState) (request : Request) (call : Call) : Option (Move Tables Call) :=
  match enterCallback driver.shared driver.nextCall call.frame with
  | none => none
  | some (context, frame) => some ⟨driver.shared, { call with frame := frame }, some (beginCall context request)⟩

def step (driver : DriverState) : Action → Option DriverState
  | .call request => if request.isPublic then some (driver.start (beginCall {} request)) else none
  | .receive adapter messages => some (driver.start (beginCall {} (.receive adapter messages)))
  | .callback delivery request =>
    if request.isPublic then
      match driver.calls.find delivery with
      | none => none
      | some call => (callbackMove driver request call).map (driver.advance delivery)
    else none
  | .run id choice =>
    match driver.calls.find id with
    | none => none
    | some call => (sectionMove driver id choice call).map fun moved => driver.advance id moved.2

def initial : DriverState := ⟨{}, ∅, 0⟩

def system : System DriverState Action where
  init := fun driver => driver = initial
  step := step

theorem begin_call_frame (context : CallbackContext) (request : Request) : (beginCall context request).frame = request.frame := rfl

inductive Steps (state : DriverState) : Action → DriverState → Prop where
  | begins (action : Action) (request : Request) (notRun : ∀ id choice, action ≠ .run id choice) :
      Steps state action (state.start (beginCall {} request))
  | enters (id : CallId) (call : Call) (request : Request) (context : CallbackContext) (frame : Frame)
      (present : state.calls.find id = some call)
      (entered : enterCallback state.shared state.nextCall call.frame = some (context, frame)) :
      Steps state (.callback id request)
        (state.advance id ⟨state.shared, { call with frame := frame }, some (beginCall context request)⟩)
  | runs (id : CallId) (call : Call) (choice : Choice) (result : SectionResult)
      (present : state.calls.find id = some call)
      (ran : runFrame state.shared (replyOf state.calls) id state.nextCall choice call.context call.frame = some result) :
      Steps state (.run id choice)
        (state.advance id ⟨result.effect.apply state.shared, { call with frame := result.frame },
          result.nested.map (beginCall call.context)⟩)

theorem step_cases (state next : DriverState) (action : Action) (taken : step state action = some next) :
    Steps state action next := by
  cases action with
  | call request =>
    simp only [step] at taken
    by_cases allowed : request.isPublic
    · rw [if_pos allowed, Option.some.injEq] at taken
      exact taken ▸ .begins (.call request) request nofun
    · rw [if_neg allowed] at taken
      cases taken
  | receive adapter messages =>
    simp only [step, Option.some.injEq] at taken
    exact taken ▸ .begins (.receive adapter messages) (.receive adapter messages) nofun
  | callback delivery request =>
    simp only [step] at taken
    by_cases allowed : request.isPublic
    · rw [if_pos allowed] at taken
      cases present : state.calls.find delivery with
      | none => simp [present] at taken
      | some call =>
        simp only [present, callbackMove] at taken
        cases entered : enterCallback state.shared state.nextCall call.frame with
        | none => simp [entered] at taken
        | some result =>
          simp only [entered, Option.map_some, Option.some.injEq] at taken
          exact taken ▸ .enters delivery call request result.1 result.2 present entered
    · rw [if_neg allowed] at taken
      cases taken
  | run id choice =>
    simp only [step] at taken
    cases present : state.calls.find id with
    | none => simp [present] at taken
    | some call =>
      simp only [present, sectionMove] at taken
      cases ran : runFrame state.shared (replyOf state.calls) id state.nextCall choice call.context call.frame with
      | none => simp [ran] at taken
      | some result =>
        simp only [ran, Option.map_some, Option.some.injEq] at taken
        exact taken ▸ .runs id call choice result present ran

theorem step_numbered (state next : DriverState) (action : Action) (steps : Steps state action next)
    (numbered : World.Numbered state) : World.Numbered next := by
  cases steps with
  | begins action request notRun => exact World.numbered_start state _ numbered
  | enters id call request context frame present entered | runs id call choice result present ran =>
    exact World.numbered_advance state id _ numbered (numbered id call present)

theorem reachable_numbered (allowed : DriverState → Action → Prop) (state : DriverState)
    (reached : ReachableWith system allowed state) : World.Numbered state := by
  refine reachable_invariant system allowed World.Numbered ?_ ?_ state reached
  · rintro _ rfl id call present
    simp [initial] at present
  · intro state action next numbered _ taken
    exact step_numbered state next action (step_cases state next action taken) numbered

structure Runs (state : DriverState) (id : CallId) (choice : Choice) (call : Call) (result : SectionResult) : Prop where
  present : state.calls.find id = some call
  ran : runFrame state.shared (replyOf state.calls) id state.nextCall choice call.context call.frame = some result

theorem tables_kept (Known : DriverState → CallId → Choice → Prop) (Inv : Tables → Prop)
    (kept : ∀ state id choice call result, Known state id choice → Inv state.shared → Runs state id choice call result →
      Inv (result.effect.apply state.shared))
    (state next : DriverState) (action : Action) (before : Inv state.shared)
    (known : ∀ id choice, action = .run id choice → Known state id choice) (steps : Steps state action next) :
    Inv next.shared := by
  cases steps with
  | begins action request notRun => exact before
  | enters id call request context frame present entered =>
    rw [World.advance_shared]
    exact before
  | runs id call choice result present ran =>
    rw [World.advance_shared]
    exact kept state id choice call result (known id choice rfl) before ⟨present, ran⟩

def Every (Local : Tables → CallId → Frame → Prop) (state : DriverState) : Prop :=
  ∀ id call, state.calls.find id = some call → Local state.shared id call.frame

-- What keeps a property of every call: it holds of new calls, survives a
-- callback entering the manager, is re-established by the call that runs a
-- section and is not lost by any other call. `Known state id choice` is what may
-- be relied on when that call runs there.
theorem entered_receives (Local : Tables → CallId → Frame → Prop)
    (receives : ∀ tables id adapter delivery pc, Local tables id (.receive adapter delivery pc)) (tables : Tables) (id fresh : CallId)
    (frame : Frame) (result : CallbackContext × Frame) (_ : Local tables id frame)
    (entered : enterCallback tables fresh frame = some result) : Local tables id result.2 := by
  unfold enterCallback at entered
  split at entered
  all_goals cases entered
  all_goals exact receives tables id _ _ _

structure KeptLocally (Known : DriverState → CallId → Choice → Prop) (Local : Tables → CallId → Frame → Prop) : Prop where
  fresh : ∀ tables id request, Local tables id (Request.frame request)
  entered : ∀ tables id fresh frame result, Local tables id frame → enterCallback tables fresh frame = some result →
    Local tables id result.2
  own : ∀ state id choice call result, Known state id choice → Every Local state → Runs state id choice call result →
    Local (result.effect.apply state.shared) id result.frame
  others : ∀ state id choice call result other otherCall, Known state id choice → Every Local state →
    Runs state id choice call result → other ≠ id → state.calls.find other = some otherCall →
    Local state.shared other otherCall.frame → Local (result.effect.apply state.shared) other otherCall.frame

theorem every_kept (Known : DriverState → CallId → Choice → Prop) (Local : Tables → CallId → Frame → Prop)
    (kept : KeptLocally Known Local) (state next : DriverState) (action : Action) (every : Every Local state)
    (known : ∀ id choice, action = .run id choice → Known state id choice) (steps : Steps state action next) :
    Every Local next := by
  cases steps with
  | begins action request notRun =>
    intro id call present
    rw [World.find_start] at present
    by_cases new : id = state.nextCall
    · simp only [new, ↓reduceIte] at present
      cases present
      exact kept.fresh _ _ request
    · rw [if_neg new] at present
      exact every id call present
  | enters id call request context frame present entered =>
    intro other otherCall found
    rw [World.advance_shared]
    refine World.advance_every state id _ (fun tables id call => Local tables id call.frame) every ?_ ?_ ?_ other otherCall found
    · exact kept.entered _ id _ _ _ (every id call present) entered
    · exact fun _ _ _ _ holds => holds
    · intro child started
      cases started
      exact kept.fresh _ _ request
  | runs id call choice result present ran =>
    have run : Runs state id choice call result := ⟨present, ran⟩
    intro other otherCall found
    rw [World.advance_shared]
    refine World.advance_every state id _ (fun tables id call => Local tables id call.frame) every ?_ ?_ ?_ other otherCall found
    · exact kept.own state id choice call result (known id choice rfl) every run
    · intro other otherCall different found holds
      exact kept.others state id choice call result other otherCall (known id choice rfl) every run different found holds
    · intro child started
      obtain ⟨request, -, rfl⟩ := Option.map_eq_some_iff.mp started
      exact kept.fresh _ _ request

end EncosDriver.Driver
