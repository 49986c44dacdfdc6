import EncosDriver.LogWriter.Worker

set_option autoImplicit false

namespace EncosDriver.LogWriter

open Lib

structure Local where
  client : Client := {}
  tasks : List Task := []
  stage : Option Stage := none

inductive LocalAction where
  | create (headers : List Octets)
  | begin (call : CallId) (request : Request)
  | run (call : CallId) (injected : Bool)
  | work (outcome : Outcome)
deriving DecidableEq, Repr

def localStep (codec : Compression) (state : Local) : LocalAction → Option Local
  | .create headers =>
    match state.client.writer with
    | some _ => none
    | none =>
      some { state with client := { state.client with writer := some (newWriter headers), headers := headers } }
  | .begin call request =>
    match state.client.writer, state.client.calls call with
    | some writer, none =>
      some { state with
        client := { state.client with calls := Function.update state.client.calls call (some (request.frame writer)) } }
    | _, _ => none
  | .run call injected =>
    match state.client.writer, state.client.calls call with
    | some writer, some frame =>
      (runCall writer call injected frame).map fun moved =>
        { state with client := state.client.moved call frame moved, tasks := state.tasks ++ moved.task.toList }
    | _, _ => none
  | .work outcome =>
    match state.stage with
    | none =>
      match state.tasks with
      | [] => none
      | task :: rest => some { state with tasks := rest, stage := some (.check task) }
    | some stage =>
      match state.client.writer with
      | none => none
      | some writer =>
        let done := runStage codec writer outcome stage
        some { state with client := { state.client with writer := some done.1 }, stage := done.2 }

inductive LocalSteps (codec : Compression) (state : Local) : LocalAction → Local → Prop where
  | create (headers : List Octets) (absent : state.client.writer = none) :
      LocalSteps codec state (.create headers)
        { state with client := { state.client with writer := some (newWriter headers), headers := headers } }
  | begin (call : CallId) (request : Request) (writer : Writer) (present : state.client.writer = some writer)
      (free : state.client.calls call = none) :
      LocalSteps codec state (.begin call request) { state with
        client := { state.client with calls := Function.update state.client.calls call (some (request.frame writer)) } }
  | run (call : CallId) (injected : Bool) (writer : Writer) (frame : Frame) (moved : Section)
      (present : state.client.writer = some writer) (found : state.client.calls call = some frame)
      (ran : runCall writer call injected frame = some moved) :
      LocalSteps codec state (.run call injected)
        { state with client := state.client.moved call frame moved, tasks := state.tasks ++ moved.task.toList }
  | take (outcome : Outcome) (task : Task) (rest : List Task) (idle : state.stage = none) (queue : state.tasks = task :: rest) :
      LocalSteps codec state (.work outcome) { state with tasks := rest, stage := some (.check task) }
  | work (outcome : Outcome) (stage : Stage) (writer : Writer) (busy : state.stage = some stage)
      (present : state.client.writer = some writer) :
      LocalSteps codec state (.work outcome) { state with
        client := { state.client with writer := some (runStage codec writer outcome stage).1 }
        stage := (runStage codec writer outcome stage).2 }

theorem local_steps {codec : Compression} {state next : Local} {action : LocalAction}
    (taken : localStep codec state action = some next) : LocalSteps codec state action next := by
  cases action with
  | create headers =>
    simp only [localStep] at taken
    split at taken
    · cases taken
    · next absent => exact Option.some.inj taken ▸ .create headers absent
  | begin call request =>
    simp only [localStep] at taken
    split at taken
    · next writer present free => exact Option.some.inj taken ▸ .begin call request writer present free
    · cases taken
  | run call injected =>
    simp only [localStep] at taken
    split at taken
    · next writer frame present found =>
      obtain ⟨moved, ran, rfl⟩ := Option.map_eq_some_iff.mp taken
      exact .run call injected writer frame moved present found ran
    · cases taken
  | work outcome =>
    simp only [localStep] at taken
    split at taken
    · next idle =>
      split at taken
      · cases taken
      · next task rest queue => exact Option.some.inj taken ▸ .take outcome task rest idle queue
    · next stage busy =>
      split at taken
      · cases taken
      · next writer present => exact Option.some.inj taken ▸ .work outcome stage writer busy present

def localSystem (codec : Compression) : System Local LocalAction where
  init := fun state => state = {}
  step := localStep codec

def ownTask (id : WriterId) (entry : WriterId × Task) : Option Task := if entry.1 = id then some entry.2 else none

def ownStage (id : WriterId) (entry : WriterId × Stage) : Option Stage := if entry.1 = id then some entry.2 else none

def view (state : State) (id : WriterId) : Local where
  client := state.clients id
  tasks := state.tasks.filterMap (ownTask id)
  stage := state.worker.bind (ownStage id)

def actor (state : State) : Action → Option WriterId
  | .create id _ => some id
  | .begin id _ _ => some id
  | .run id _ _ => some id
  | .work _ =>
    match state.worker with
    | some (id, _) => some id
    | none => state.tasks.head?.map fun entry => entry.1

@[simp] theorem view_set_same (state : State) (id : WriterId) (client : Client) :
    view (state.set id client) id = { view state id with client := client } := by
  simp [view, State.set]

theorem view_set_other (state : State) (id other : WriterId) (client : Client) (different : other ≠ id) :
    view (state.set id client) other = view state other := by
  simp [view, State.set, Function.update_of_ne different]

variable (codec : Compression)

theorem step_unseen (state next : State) (action : Action) (taken : step codec state action = some next)
    (id : WriterId) (other : actor state action ≠ some id) : view next id = view state id := by
  cases action with
  | create made headers | begin made call request =>
    have different : id ≠ made := fun same => other (congrArg some same.symm)
    simp only [step] at taken
    split at taken
    all_goals cases taken
    exact view_set_other state made id _ different
  | run made call injected =>
    have different : id ≠ made := fun same => other (congrArg some same.symm)
    simp only [step] at taken
    split at taken
    · rename_i frame _ _
      obtain ⟨moved, -, rfl⟩ := Option.map_eq_some_iff.mp taken
      have foreign : ((moved.task.map fun task => (made, task)).toList).filterMap (ownTask id) = [] := by
        cases moved.task with
        | none => rfl
        | some task => simp [ownTask, Ne.symm different]
      have same := view_set_other state made id ((state.clients made).moved call frame moved) different
      simp only [view, List.filterMap_append, foreign, List.append_nil] at same ⊢
      exact same
    · cases taken
  | work outcome =>
    simp only [step] at taken
    cases at' : state.worker with
    | none =>
      simp only [at'] at taken
      cases queue : state.tasks with
      | nil => simp [queue] at taken
      | cons entry rest =>
        simp only [queue] at taken
        cases taken
        have different : entry.1 ≠ id := fun same => other (by simp [actor, at', queue, same])
        simp [view, at', queue, ownTask, ownStage, different]
    | some entry =>
      obtain ⟨made, stage⟩ := entry
      have different : made ≠ id := fun same => other (by simp [actor, at', same])
      cases present : (state.clients made).writer with
      | none => simp [at', present] at taken
      | some writer =>
        simp only [at', present] at taken
        cases taken
        have away : ((runStage codec writer outcome stage).2.map fun stage => (made, stage)).bind (ownStage id) = none := by
          cases (runStage codec writer outcome stage).2 with
          | none => rfl
          | some after => simp [ownStage, different]
        simp [view, State.set, at', ownStage, different, away, Function.update_of_ne (Ne.symm different)]

theorem step_seen (state next : State) (action : Action) (taken : step codec state action = some next)
    (id : WriterId) (own : actor state action = some id) :
    ∃ seen, localStep codec (view state id) seen = some (view next id) := by
  cases action with
  | create made headers =>
    have same : made = id := Option.some.inj own
    subst same
    refine ⟨.create headers, ?_⟩
    simp only [step] at taken
    cases present : (state.clients made).writer with
    | some writer => simp [present] at taken
    | none =>
      simp only [present] at taken
      cases taken
      rw [view_set_same]
      simp [localStep, view, present]
  | begin made call request =>
    have same : made = id := Option.some.inj own
    subst same
    refine ⟨.begin call request, ?_⟩
    simp only [step] at taken
    cases present : (state.clients made).writer with
    | none => simp [present] at taken
    | some writer =>
      cases free : (state.clients made).calls call with
      | some frame => simp [present, free] at taken
      | none =>
        simp only [present, free] at taken
        cases taken
        rw [view_set_same]
        simp [localStep, view, present, free]
  | run made call injected =>
    have same : made = id := Option.some.inj own
    subst same
    refine ⟨.run call injected, ?_⟩
    simp only [step] at taken
    cases present : (state.clients made).writer with
    | none => simp [present] at taken
    | some writer =>
      cases found : (state.clients made).calls call with
      | none => simp [present, found] at taken
      | some frame =>
        simp only [present, found] at taken
        obtain ⟨moved, ran, rfl⟩ := Option.map_eq_some_iff.mp taken
        have pushed : ((moved.task.map fun task => (made, task)).toList).filterMap (ownTask made) = moved.task.toList := by
          cases moved.task with
          | none => rfl
          | some task => simp [ownTask]
        simp [localStep, view, present, found, ran, pushed, State.set]
  | work outcome =>
    refine ⟨.work outcome, ?_⟩
    simp only [step] at taken
    cases at' : state.worker with
    | none =>
      simp only [at'] at taken
      cases queue : state.tasks with
      | nil => simp [queue] at taken
      | cons entry rest =>
        simp only [queue] at taken
        cases taken
        have same : entry.1 = id := by simpa [actor, at', queue] using own
        simp [localStep, view, at', queue, ownTask, ownStage, same]
    | some entry =>
      obtain ⟨made, stage⟩ := entry
      have same : made = id := by simpa [actor, at'] using own
      subst same
      cases present : (state.clients made).writer with
      | none => simp [at', present] at taken
      | some writer =>
        simp only [at', present] at taken
        cases taken
        have near : ((runStage codec writer outcome stage).2.map fun stage => (made, stage)).bind (ownStage made) =
            (runStage codec writer outcome stage).2 := by
          cases (runStage codec writer outcome stage).2 with
          | none => rfl
          | some after => simp [ownStage]
        have moved := view_set_same state made
          { state.clients made with writer := some (runStage codec writer outcome stage).1 }
        simp only [view, near] at moved ⊢
        simp [localStep, at', ownStage, present, State.set]

theorem reachable_view (state : State) (reached : Reachable (system codec) state) (id : WriterId) :
    Reachable (localSystem codec) (view state id) := by
  induction reached with
  | start state initial =>
    have fresh : state = {} := initial
    subst fresh
    exact .start _ rfl
  | next state next action _ _ taken ih =>
    by_cases own : actor state action = some id
    · obtain ⟨seen, moved⟩ := step_seen codec state next action taken id own
      exact .next _ _ seen ih trivial moved
    · rw [step_unseen codec state next action taken id own]
      exact ih

def Stage.task : Stage → Task
  | .check task | .write task | .flush task | .complete task _ => task

def Stage.unwritten : Stage → Octets
  | .check task | .write task => task.data
  | .flush _ | .complete _ _ => []

def Stage.failing : Stage → Bool
  | .complete _ (some _) => true
  | _ => false

def Stage.working : Stage → Bool
  | .write _ | .flush _ | .complete _ (some _) => true
  | _ => false

def Frame.held : Frame → List Task
  | .write _ _ (.push sequence data) => [⟨data, sequence, false⟩]
  | .flush _ _ (.push sequence data) => [⟨data, sequence, true⟩]
  | _ => []

def Frame.locked : Frame → Bool
  | .write _ _ .enter | .flush _ _ .enter => false
  | .write _ _ _ | .flush _ _ _ => true
  | _ => false

def held (writer : Writer) (calls : CallId → Option Frame) : List Task :=
  match writer.mutex with
  | some call => ((calls call).map Frame.held).getD []
  | none => []

def pending (state : Local) (writer : Writer) : List Task :=
  (state.stage.map Stage.task).toList ++ state.tasks ++ held writer state.client.calls

def unwritten (state : Local) (writer : Writer) : Octets :=
  ((state.stage.map Stage.unwritten).getD []) ++ (state.tasks.map Task.data).flatten ++
    ((held writer state.client.calls).map Task.data).flatten

def Durable (codec : Compression) (writer : Writer) (before : Nat) : Prop :=
  ∃ chunks, chunks <+: writer.chunks ∧ writer.text.take before <+: chunks.flatten ∧
    codec.frames chunks <+: writer.file.written

def Drained (state : Local) (writer : Writer) : Prop :=
  (pending state writer = [] ∧ (writer.error = none → writer.file.buffered = [])) ∨
    ∃ task, (pending state writer).getLast? = some task ∧ task.flush = true

def CallOk (codec : Compression) (state : Local) (writer : Writer) : Frame → Prop
  | .write _ late pc =>
    late = true → writer.error ≠ none ∧ (pc = .enter ∨ pc = .check ∨ ∃ failure, pc = .unlock (some failure))
  | .flush before late pc =>
    before ≤ writer.text.length ∧ (late = true → writer.error ≠ none ∧ pc ≠ .unlock none) ∧
      match pc with
      | .push _ _ => writer.buffer = []
      | .wait sequence =>
        writer.buffer = [] ∧ sequence = writer.submitted ∧ Drained state writer
      | .unlock none => Durable codec writer before
      | _ => True
  | .wrote _ late => late = false
  | .flushed before late => late = false ∧ before ≤ writer.text.length ∧ Durable codec writer before
  | .thrown _ => True

def Holds (mutex : Option CallId) (calls : CallId → Option Frame) : Prop :=
  (∀ call frame, calls call = some frame → frame.locked = true → mutex = some call) ∧
    ∀ call, mutex = some call → ∃ frame, calls call = some frame ∧ frame.locked = true

structure Sound (codec : Compression) (state : Local) (writer : Writer) : Prop where
  chunked : writer.file.total <+: codec.frames writer.chunks
  covered : writer.chunks.flatten <+: writer.text
  sequences : (pending state writer).map Task.sequence = List.range' (writer.completed + 1) (pending state writer).length
  submitted : writer.submitted = writer.completed + (pending state writer).length
  healthy : writer.error = none ∨ (state.stage.map Stage.working).getD false = true →
    (state.stage.map Stage.failing).getD false = false → writer.file.total = codec.frames writer.chunks ∧
      writer.chunks.flatten ++ unwritten state writer ++ writer.buffer = writer.text
  working : (state.stage.map Stage.working).getD false = true →
    writer.error = none ∨ writer.error = some .interaction
  emptied : ∀ task, state.stage = some (.complete task none) → writer.error = none → task.flush = true →
    writer.file.buffered = []
  locked : Holds writer.mutex state.client.calls
  calls : ∀ call frame, state.client.calls call = some frame → CallOk codec state writer frame

def LocalSound (codec : Compression) (state : Local) : Prop :=
  match state.client.writer with
  | some writer => Sound codec state writer
  | none => state.tasks = [] ∧ state.stage = none ∧ ∀ call, state.client.calls call = none

structure Grows (before after : Writer) : Prop where
  text : before.text <+: after.text
  chunks : before.chunks <+: after.chunks
  written : before.file.written <+: after.file.written
  error : before.error ≠ none → after.error ≠ none

theorem take_prefix_same (before after : Octets) (count : Nat) (grown : before <+: after) (within : count ≤ before.length) :
    after.take count = before.take count := by
  obtain ⟨more, rfl⟩ := grown
  rw [List.take_append_of_le_length within]

theorem durable_grows (before after : Writer) (count : Nat) (grows : Grows before after)
    (within : count ≤ before.text.length) (durable : Durable codec before count) : Durable codec after count := by
  obtain ⟨chunks, part, covers, has⟩ := durable
  refine ⟨chunks, part.trans grows.chunks, ?_, has.trans grows.written⟩
  rw [take_prefix_same before.text after.text count grows.text within]
  exact covers

theorem call_ok_unlocked (state next : Local) (before after : Writer) (frame : Frame)
    (grows : Grows before after) (free : frame.locked = false) (ok : CallOk codec state before frame) :
    CallOk codec next after frame := by
  cases frame with
  | write fields late pc =>
    cases pc with
    | enter => exact fun began => ⟨grows.error (ok began).1, .inl rfl⟩
    | _ => cases free
  | flush count late pc =>
    cases pc with
    | enter =>
      obtain ⟨within, later, -⟩ := ok
      exact ⟨within.trans grows.text.length_le, fun began => ⟨grows.error (later began).1, nofun⟩, trivial⟩
    | _ => cases free
  | wrote fields late => exact ok
  | flushed count late =>
    obtain ⟨early, within, durable⟩ := ok
    exact ⟨early, within.trans grows.text.length_le, durable_grows codec before after count grows within durable⟩
  | thrown failure => trivial

theorem call_ok_worked (state next : Local) (before after : Writer) (frame : Frame)
    (grows : Grows before after) (text : after.text = before.text) (buffer : after.buffer = before.buffer)
    (submitted : after.submitted = before.submitted) (drained : Drained state before → Drained next after)
    (ok : CallOk codec state before frame) : CallOk codec next after frame := by
  cases frame with
  | write fields late pc => exact fun began => ⟨grows.error (ok began).1, (ok began).2⟩
  | flush count late pc =>
    obtain ⟨within, later, stands⟩ := ok
    refine ⟨text ▸ within, fun began => ⟨grows.error (later began).1, (later began).2⟩, ?_⟩
    cases pc with
    | push sequence data => exact buffer.trans stands
    | wait sequence =>
      obtain ⟨empty, own, waits⟩ := stands
      exact ⟨buffer.trans empty, own.trans submitted.symm, drained waits⟩
    | unlock failure =>
      cases failure with
      | none => exact durable_grows codec before after count grows within stands
      | some failure => trivial
    | enter | sequence => trivial
  | wrote fields late => exact ok
  | flushed count late =>
    obtain ⟨early, within, durable⟩ := ok
    exact ⟨early, within.trans grows.text.length_le, durable_grows codec before after count grows within durable⟩
  | thrown failure => trivial

theorem grows_same (before after : Writer) (text : after.text = before.text) (chunks : after.chunks = before.chunks)
    (file : after.file = before.file) (error : after.error = before.error) : Grows before after := by
  refine ⟨?_, ?_, ?_, ?_⟩
  · rw [text]
  · rw [chunks]
  · rw [file]
  · rw [error]
    exact fun failed => failed

def Local.with (state : Local) (writer : Writer) (calls : CallId → Option Frame) : Local :=
  { state with client := { state.client with writer := some writer, calls := calls } }

variable (writer : Writer) (calls : CallId → Option Frame) (call : CallId) (frame : Frame)

theorem held_other (other : writer.mutex ≠ some call) :
    held writer (Function.update calls call (some frame)) = held writer calls := by
  simp only [held]
  cases taken : writer.mutex with
  | none => rfl
  | some holder =>
    have different : holder ≠ call := fun same => other (taken.trans (congrArg some same))
    simp only [Function.update_of_ne different]

theorem held_own (own : writer.mutex = some call) : held writer (Function.update calls call (some frame)) = frame.held := by
  simp [held, own]

theorem held_found (own : writer.mutex = some call) (found : calls call = some frame) : held writer calls = frame.held := by
  simp [held, own, found]

theorem others_ok (codec : Compression) (state next : Local) (writer after : Writer) (call : CallId) (frame : Frame)
    (grows : Grows writer after)
    (free : ∀ other frame, other ≠ call → state.client.calls other = some frame → frame.locked = false)
    (calls : ∀ other frame, state.client.calls other = some frame → CallOk codec state writer frame)
    (own : CallOk codec next after frame) :
    ∀ other frame', Function.update state.client.calls call (some frame) other = some frame' →
      CallOk codec next after frame' := by
  intro other frame' found
  by_cases same : other = call
  · subst same
    rw [Function.update_self] at found
    cases found
    exact own
  · rw [Function.update_of_ne same] at found
    exact call_ok_unlocked codec state next writer after frame' grows (free other frame' same found)
      (calls other frame' found)

variable (codec : Compression) (state : Local) (writer : Writer)

theorem sound_quiet (sound : Sound codec state writer) (mutex : Option CallId) (calls : CallId → Option Frame)
    (same : held { writer with mutex := mutex } calls = held writer state.client.calls)
    (locked : Holds mutex calls)
    (ok : ∀ call frame, calls call = some frame →
      CallOk codec (state.with { writer with mutex := mutex } calls) { writer with mutex := mutex } frame) :
    Sound codec (state.with { writer with mutex := mutex } calls) { writer with mutex := mutex } := by
  have still : pending (state.with { writer with mutex := mutex } calls) { writer with mutex := mutex } =
      pending state writer := by
    simp only [pending, Local.with, same]
  have left : unwritten (state.with { writer with mutex := mutex } calls) { writer with mutex := mutex } =
      unwritten state writer := by
    simp only [unwritten, Local.with, same]
  refine ⟨sound.chunked, sound.covered, ?_, ?_, ?_, sound.working, sound.emptied, locked, ok⟩
  · rw [still]
    exact sound.sequences
  · rw [still]
    exact sound.submitted
  · rw [left]
    exact sound.healthy

theorem sound_failed (sound : Sound codec state writer) (clean : writer.error = none) (calls : CallId → Option Frame)
    (same : held writer calls = held writer state.client.calls) (locked : Holds writer.mutex calls)
    (ok : ∀ call frame, calls call = some frame →
      CallOk codec (state.with { writer with error := some .interaction } calls) { writer with error := some .interaction } frame) :
    Sound codec (state.with { writer with error := some .interaction } calls) { writer with error := some .interaction } := by
  have hands : held { writer with error := some .interaction } calls = held writer calls := rfl
  have still : pending (state.with { writer with error := some .interaction } calls)
      { writer with error := some .interaction } = pending state writer := by
    simp only [pending, Local.with, hands, same]
  have left : unwritten (state.with { writer with error := some .interaction } calls)
      { writer with error := some .interaction } = unwritten state writer := by
    simp only [unwritten, Local.with, hands, same]
  refine ⟨sound.chunked, sound.covered, ?_, ?_, ?_, fun _ => .inr rfl, (fun _ _ clean' => by cases clean'), locked, ok⟩
  · rw [still]
    exact sound.sequences
  · rw [still]
    exact sound.submitted
  · intro _ calm
    rw [left]
    exact sound.healthy (.inl clean) calm

theorem sound_append (sound : Sound codec state writer) (more : Octets) (calls : CallId → Option Frame)
    (same : held writer calls = held writer state.client.calls)
    (locked : Holds writer.mutex calls)
    (ok : ∀ call frame, calls call = some frame →
      CallOk codec (state.with { writer with buffer := writer.buffer ++ more, text := writer.text ++ more } calls)
        { writer with buffer := writer.buffer ++ more, text := writer.text ++ more } frame) :
    Sound codec (state.with { writer with buffer := writer.buffer ++ more, text := writer.text ++ more } calls)
      { writer with buffer := writer.buffer ++ more, text := writer.text ++ more } := by
  have still : pending (state.with { writer with buffer := writer.buffer ++ more, text := writer.text ++ more } calls)
      { writer with buffer := writer.buffer ++ more, text := writer.text ++ more } = pending state writer := by
    have hands : held { writer with buffer := writer.buffer ++ more, text := writer.text ++ more } calls =
        held writer calls := rfl
    simp only [pending, Local.with, hands, same]
  have left : unwritten (state.with { writer with buffer := writer.buffer ++ more, text := writer.text ++ more } calls)
      { writer with buffer := writer.buffer ++ more, text := writer.text ++ more } = unwritten state writer := by
    have hands : held { writer with buffer := writer.buffer ++ more, text := writer.text ++ more } calls =
        held writer calls := rfl
    simp only [unwritten, Local.with, hands, same]
  refine ⟨sound.chunked, sound.covered.trans (List.prefix_append _ _), ?_, ?_, ?_, sound.working, sound.emptied,
    locked, ok⟩
  · rw [still]
    exact sound.sequences
  · rw [still]
    exact sound.submitted
  · intro clean calm
    obtain ⟨total, text⟩ := sound.healthy clean calm
    refine ⟨total, ?_⟩
    rw [left, ← text, List.append_assoc]
    simp

theorem sound_sequence (sound : Sound codec state writer) (flush : Bool) (calls : CallId → Option Frame)
    (empty : held writer state.client.calls = [])
    (taken : held writer calls = [⟨writer.buffer, writer.submitted + 1, flush⟩])
    (locked : Holds writer.mutex calls)
    (ok : ∀ call frame, calls call = some frame →
      CallOk codec (state.with { writer with buffer := [], submitted := writer.submitted + 1 } calls)
        { writer with buffer := [], submitted := writer.submitted + 1 } frame) :
    Sound codec (state.with { writer with buffer := [], submitted := writer.submitted + 1 } calls)
      { writer with buffer := [], submitted := writer.submitted + 1 } := by
  have hands : held { writer with buffer := [], submitted := writer.submitted + 1 } calls = held writer calls := rfl
  have longer : pending (state.with { writer with buffer := [], submitted := writer.submitted + 1 } calls)
      { writer with buffer := [], submitted := writer.submitted + 1 } =
        pending state writer ++ [⟨writer.buffer, writer.submitted + 1, flush⟩] := by
    simp only [pending, Local.with, hands, taken, empty, List.append_nil]
  have left : unwritten (state.with { writer with buffer := [], submitted := writer.submitted + 1 } calls)
      { writer with buffer := [], submitted := writer.submitted + 1 } = unwritten state writer ++ writer.buffer := by
    simp only [unwritten, Local.with, hands, taken, empty, List.map_nil, List.map_cons, List.flatten_nil,
      List.flatten_cons, List.append_nil]
  refine ⟨sound.chunked, sound.covered, ?_, ?_, ?_, sound.working, sound.emptied, locked, ok⟩
  · rw [longer]
    simp only [List.map_append, List.map_cons, List.map_nil, List.length_append, List.length_singleton, sound.sequences]
    rw [List.range'_concat, sound.submitted]
    simp only [Nat.one_mul]
    have last : writer.completed + (pending state writer).length + 1 =
        writer.completed + 1 + (pending state writer).length := by omega
    rw [last]
  · rw [longer]
    simp only [List.length_append, List.length_singleton, sound.submitted]
    omega
  · intro clean calm
    obtain ⟨total, text⟩ := sound.healthy clean calm
    refine ⟨total, ?_⟩
    rw [left, List.append_nil, ← List.append_assoc]
    exact text

theorem sound_push (sound : Sound codec state writer) (task : Task) (calls : CallId → Option Frame)
    (before : held writer state.client.calls = [task]) (after : held writer calls = [])
    (locked : Holds writer.mutex calls)
    (ok : ∀ call frame, calls call = some frame →
      CallOk codec { state.with writer calls with tasks := state.tasks ++ [task] } writer frame) :
    Sound codec { state.with writer calls with tasks := state.tasks ++ [task] } writer := by
  have still : pending { state.with writer calls with tasks := state.tasks ++ [task] } writer = pending state writer := by
    simp only [pending, Local.with, before, after, List.append_nil, List.append_assoc]
  have left : unwritten { state.with writer calls with tasks := state.tasks ++ [task] } writer =
      unwritten state writer := by
    simp only [unwritten, Local.with, before, after, List.map_append, List.flatten_append, List.map_nil, List.flatten_nil,
      List.append_nil, List.append_assoc]
  refine ⟨sound.chunked, sound.covered, ?_, ?_, ?_, sound.working, sound.emptied, locked, ok⟩
  · rw [still]
    exact sound.sequences
  · rw [still]
    exact sound.submitted
  · rw [left]
    exact sound.healthy

end EncosDriver.LogWriter
