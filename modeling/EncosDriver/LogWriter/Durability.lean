import EncosDriver.LogWriter.Stages

set_option autoImplicit false

namespace EncosDriver.LogWriter

open Lib

theorem new_sound (codec : Compression) (headers : List Octets) (calls : CallId → Option Frame)
    (fresh : ∀ call, calls call = none) (rows : List (CallId × List Octets)) :
    Sound codec { client := ⟨some (newWriter headers), calls, headers, rows⟩ } (newWriter headers) := by
  refine ⟨?_, List.nil_prefix, rfl, rfl, fun _ _ => ⟨rfl, rfl⟩, nofun, nofun, ⟨?_, nofun⟩, ?_⟩
  · exact List.prefix_rfl
  · intro call frame found
    cases (fresh call).symm.trans found
  · intro call frame found
    cases (fresh call).symm.trans found

variable (codec : Compression) (state : Local) (writer : Writer)

theorem begin_sound (sound : Sound codec state writer) (call : CallId)
    (request : Request) (free : state.client.calls call = none) :
    Sound codec (state.with writer (Function.update state.client.calls call (some (request.frame writer)))) writer := by
  have idle : (request.frame writer).held = [] ∧ (request.frame writer).locked = false := by
    cases request with
    | write fields | flush => exact ⟨rfl, rfl⟩
  have other : writer.mutex ≠ some call := by
    intro own
    obtain ⟨frame, found, -⟩ := sound.locked.2 call own
    rw [free] at found
    cases found
  have begun := sound_quiet codec state writer sound writer.mutex
    (Function.update state.client.calls call (some (request.frame writer)))
    (held_other writer state.client.calls call _ other) ⟨?_, ?_⟩ ?_
  · exact begun
  · intro holder frame found locked
    by_cases same : holder = call
    · subst same
      rw [Function.update_self] at found
      cases found
      rw [idle.2] at locked
      cases locked
    · rw [Function.update_of_ne same] at found
      exact sound.locked.1 holder frame found locked
  · intro holder taken
    obtain ⟨frame, found, locked⟩ := sound.locked.2 holder taken
    have different : holder ≠ call := fun same => other (same ▸ taken)
    exact ⟨frame, by rw [Function.update_of_ne different]; exact found, locked⟩
  · intro moving frame found
    by_cases same : moving = call
    · subst same
      rw [Function.update_self] at found
      cases found
      cases request with
      | write fields => exact fun began => ⟨by simpa [Option.isSome_iff_ne_none] using began, .inl rfl⟩
      | flush => exact ⟨le_refl _, fun began => ⟨by simpa [Option.isSome_iff_ne_none] using began, nofun⟩, trivial⟩
    · rw [Function.update_of_ne same] at found
      have before := sound.calls moving frame found
      cases locked : frame.locked with
      | false => exact call_ok_unlocked codec state _ writer _ frame (grows_same _ _ rfl rfl rfl rfl) locked before
      | true =>
        refine call_ok_worked codec state _ writer _ frame (grows_same _ _ rfl rfl rfl rfl) rfl rfl rfl ?_ before
        intro drained
        simpa only [Drained, pending, Local.with, held_other writer state.client.calls call _ other] using drained

theorem sound_history (sound : Sound codec state writer) (headers : List Octets) (rows : List (CallId × List Octets)) :
    Sound codec { state with client := { state.client with headers := headers, rows := rows } } writer :=
  ⟨sound.chunked, sound.covered, sound.sequences, sound.submitted, sound.healthy, sound.working, sound.emptied, sound.locked,
    sound.calls⟩

theorem local_step_sound (codec : Compression) (state next : Local) (action : LocalAction)
    (taken : localStep codec state action = some next) (sound : LocalSound codec state) : LocalSound codec next := by
  cases local_steps taken with
  | create headers absent =>
    simp only [LocalSound, absent] at sound
    obtain ⟨queue, idle, fresh⟩ := sound
    obtain ⟨client, tasks, stage⟩ := state
    cases queue
    cases idle
    exact new_sound codec headers client.calls fresh client.rows
  | begin call request writer present free =>
    simp only [LocalSound, present] at sound
    have begun := begin_sound codec state writer sound call request free
    simpa only [LocalSound, Local.with, present] using begun
  | run call injected writer frame moved present found ran =>
    simp only [LocalSound, present] at sound
    refine sound_history codec (state.after call moved) moved.writer ?_ _ _
    cases frame with
    | write fields late pc => exact write_sound codec state writer sound call fields late pc found injected moved ran
    | flush before late pc => exact flush_sound codec state writer sound call before late pc found moved ran
    | wrote fields late | flushed before late | thrown failure => cases ran
  | take outcome task rest idle queue =>
    cases present : state.client.writer with
    | none =>
      simp only [LocalSound, present] at sound
      rw [queue] at sound
      cases sound.1
    | some writer =>
      simp only [LocalSound, present] at sound
      have popped := pop_sound codec state writer sound task rest idle queue
      simpa only [LocalSound, present] using popped
  | work outcome stage writer busy present =>
    simp only [LocalSound, present] at sound
    exact run_stage_sound codec state writer sound stage outcome busy

theorem local_sound (codec : Compression) (state : Local) (reached : Reachable (localSystem codec) state) :
    LocalSound codec state := by
  induction reached with
  | start state initial =>
    have fresh : state = {} := initial
    subst fresh
    exact ⟨rfl, rfl, fun _ => rfl⟩
  | next state next action _ _ taken ih => exact local_step_sound codec state next action taken ih

theorem client_sound (codec : Compression) (state : State) (reached : Reachable (system codec) state) (id : WriterId)
    (writer : Writer) (present : (state.clients id).writer = some writer) : Sound codec (view state id) writer := by
  have sound := local_sound codec (view state id) (reachable_view codec state reached id)
  simpa only [LocalSound, view, present] using sound

def Frame.submitted : Frame → Option (List Octets)
  | .write fields _ .sequence | .write fields _ (.push _ _) | .write fields _ (.unlock none) | .wrote fields _ => some fields
  | _ => none

def Client.text (client : Client) : Octets := row client.headers ++ client.rows.flatMap fun entry => row entry.2

structure Recorded (client : Client) (writer : Writer) : Prop where
  text : writer.text = client.text
  once : (client.rows.map Prod.fst).Nodup
  submitted : ∀ call fields,
    (call, fields) ∈ client.rows ↔ ∃ frame, client.calls call = some frame ∧ frame.submitted = some fields

def LocalRecorded (state : Local) : Prop :=
  match state.client.writer with
  | some writer => Recorded state.client writer
  | none => state.client.rows = [] ∧ ∀ call, state.client.calls call = none

theorem recorded_same (client next : Client) (writer after : Writer) (recorded : Recorded client writer)
    (headers : next.headers = client.headers) (rows : next.rows = client.rows) (text : after.text = writer.text)
    (call : CallId) (frame : Option Frame) (calls : next.calls = Function.update client.calls call frame)
    (same : frame.bind Frame.submitted = (client.calls call).bind Frame.submitted) : Recorded next after := by
  refine ⟨?_, ?_, ?_⟩
  · rw [text, recorded.text, Client.text, Client.text, headers, rows]
  · rw [rows]
    exact recorded.once
  · intro other fields
    rw [rows, recorded.submitted, ← Option.bind_eq_some_iff, ← Option.bind_eq_some_iff, calls]
    by_cases own : other = call
    · subst own
      rw [Function.update_self, same]
    · rw [Function.update_of_ne own]

theorem recorded_submitted (client next : Client) (writer after : Writer) (recorded : Recorded client writer)
    (call : CallId) (fields : List Octets) (frame : Frame) (open' : (client.calls call).bind Frame.submitted = none)
    (headers : next.headers = client.headers) (rows : next.rows = client.rows ++ [(call, fields)])
    (text : after.text = appendRow writer.text fields) (calls : next.calls = Function.update client.calls call (some frame))
    (submits : frame.submitted = some fields) : Recorded next after := by
  have absent : ∀ other, (call, other) ∉ client.rows := by
    intro other inside
    rw [recorded.submitted, ← Option.bind_eq_some_iff, open'] at inside
    cases inside
  refine ⟨?_, ?_, ?_⟩
  · rw [text, recorded.text, appendRow, Client.text, Client.text, headers, rows, List.flatMap_append, List.append_assoc]
    simp
  · rw [rows, List.map_append, List.map_singleton, List.nodup_append]
    refine ⟨recorded.once, by simp, ?_⟩
    intro other inside mine own same
    obtain ⟨⟨earlier, row'⟩, there, rfl⟩ := List.mem_map.mp inside
    obtain rfl := List.mem_singleton.mp own
    subst same
    exact absent row' there
  · intro other row'
    rw [rows, List.mem_append, List.mem_singleton, recorded.submitted, ← Option.bind_eq_some_iff, ← Option.bind_eq_some_iff,
      calls]
    by_cases own : other = call
    · subst own
      rw [Function.update_self, open', Option.bind_some, submits]
      simp [eq_comm]
    · rw [Function.update_of_ne own]
      simp [own]

theorem run_recorded (client : Client) (writer : Writer) (call : CallId) (injected : Bool) (frame : Frame)
    (found : client.calls call = some frame) (moved : Section) (ran : runCall writer call injected frame = some moved)
    (recorded : Recorded client writer) : Recorded (client.moved call frame moved) moved.writer := by
  have passes : frame.submits call = [] → moved.writer.text = writer.text → moved.frame.submitted = frame.submitted →
      Recorded (client.moved call frame moved) moved.writer := by
    intro quiet text same
    refine recorded_same client _ writer _ recorded rfl ?_ text call (some moved.frame) rfl ?_
    · simp [Client.moved, quiet]
    · rw [found]
      exact same
  cases frame with
  | write fields late pc =>
    cases pc with
    | enter =>
      simp only [runCall, runWrite] at ran
      split at ran
      all_goals cases ran
      exact passes rfl rfl rfl
    | check =>
      simp only [runCall, runWrite] at ran
      split at ran
      · cases ran
        exact passes rfl rfl rfl
      · split at ran
        all_goals
          cases ran
          exact passes rfl rfl rfl
    | append =>
      cases ran
      refine recorded_submitted client _ writer _ recorded call fields _ ?_ rfl rfl rfl rfl ?_
      · rw [found]
        rfl
      · split
        all_goals rfl
    | sequence | push sequence data =>
      cases ran
      exact passes rfl rfl rfl
    | unlock failure =>
      cases failure with
      | none | some failure =>
        cases ran
        exact passes rfl rfl rfl
  | flush before late pc =>
    cases pc with
    | enter | wait sequence =>
      simp only [runCall, runFlush] at ran
      split at ran
      all_goals cases ran
      exact passes rfl rfl rfl
    | sequence | push sequence data =>
      cases ran
      exact passes rfl rfl rfl
    | unlock failure =>
      cases failure with
      | none | some failure =>
        cases ran
        exact passes rfl rfl rfl
  | wrote fields late | flushed before late | thrown failure => cases ran

theorem stage_text (codec : Compression) (writer : Writer) (outcome : Outcome) (stage : Stage) :
    (runStage codec writer outcome stage).1.text = writer.text := by
  cases stage with
  | check task =>
    simp only [runStage]
    split
    all_goals rfl
  | write task =>
    cases outcome with
    | injected => rfl
    | succeed spilled | compression | short kept spilled =>
      simp only [runStage]
      split
      all_goals rfl
  | flush task =>
    simp only [runStage]
    split
    · cases outcome with
      | succeed spilled | injected | compression | short kept spilled => rfl
    · rfl
  | complete task failure => rfl

theorem local_step_recorded (codec : Compression) (state next : Local) (action : LocalAction)
    (taken : localStep codec state action = some next) (recorded : LocalRecorded state) : LocalRecorded next := by
  cases local_steps taken with
  | create headers absent =>
    simp only [LocalRecorded, absent] at recorded
    obtain ⟨unwritten, fresh⟩ := recorded
    refine ⟨?_, ?_, ?_⟩
    · simp [newWriter, appendRow, Client.text, unwritten]
    · simp [unwritten]
    · simp [unwritten, fresh]
  | begin call request writer present free =>
    simp only [LocalRecorded, present] at recorded ⊢
    refine recorded_same _ _ writer writer recorded rfl rfl rfl call (some (request.frame writer)) rfl ?_
    rw [free]
    cases request with
    | write fields | flush => rfl
  | run call injected writer frame moved present found ran =>
    simp only [LocalRecorded, present] at recorded
    exact run_recorded state.client writer call injected frame found moved ran recorded
  | take => exact recorded
  | work outcome stage writer busy present =>
    simp only [LocalRecorded, present] at recorded
    exact ⟨(stage_text codec writer outcome stage).trans recorded.text, recorded.once, recorded.submitted⟩

theorem client_recorded (codec : Compression) (state : State) (reached : Reachable (system codec) state) (id : WriterId)
    (writer : Writer) (present : (state.clients id).writer = some writer) : Recorded (state.clients id) writer := by
  have recorded : LocalRecorded (view state id) := by
    refine reachable_invariant (localSystem codec) _ LocalRecorded ?_ ?_ _ (reachable_view codec state reached id)
    · intro state initial
      have fresh : state = {} := initial
      subst fresh
      exact ⟨rfl, fun _ => rfl⟩
    · exact fun state action next recorded _ taken => local_step_recorded codec state next action taken recorded
  simpa only [LocalRecorded, view, present] using recorded

-- What one step leaves of a writer. After a failure of the worker the file stays
-- as it is; when an interaction fails, the worker still finishes the task that
-- it has already begun, and begins no other.
structure Kept (state : Local) (writer : Writer) (next : Local) (after : Writer) : Prop where
  completed : writer.completed ≤ after.completed
  failed : writer.error ≠ none → after.error = writer.error
  closed : writer.error ≠ none → writer.error ≠ some .interaction → after.file = writer.file
  finishing : writer.error ≠ none → after.file ≠ writer.file →
    ∃ stage, state.stage = some stage ∧ stage.working = true
  skipped : writer.error ≠ none → ∀ stage, next.stage = some stage → stage.working = true →
    ∃ begun, state.stage = some begun ∧ begun.working = true ∧ stage.task = begun.task
  headers : next.client.headers = state.client.headers
  rows : next.client.rows = state.client.rows ∨ ∃ call fields late pc,
    state.client.calls call = some (.write fields late .append) ∧ next.client.calls call = some (.write fields late pc) ∧
      pc ≠ .append ∧ next.client.rows = state.client.rows ++ [(call, fields)]

theorem kept_same (state : Local) (writer : Writer) (next : Local) (after : Writer)
    (completed : after.completed = writer.completed) (error : writer.error ≠ none → after.error = writer.error)
    (file : after.file = writer.file) (stage : ∀ stage, next.stage = some stage → stage.working = true → state.stage = some stage)
    (headers : next.client.headers = state.client.headers) (rows : next.client.rows = state.client.rows) :
    Kept state writer next after :=
  ⟨completed.ge, error, fun _ _ => file, fun _ moved => absurd file moved,
    fun _ begun at' working => ⟨begun, stage begun at' working, working, rfl⟩, headers, .inl rows⟩

theorem run_kept (state : Local) (writer : Writer) (call : CallId) (injected : Bool) (frame : Frame)
    (found : state.client.calls call = some frame) (moved : Section) (ran : runCall writer call injected frame = some moved) :
    Kept state writer
      { state with client := state.client.moved call frame moved, tasks := state.tasks ++ moved.task.toList } moved.writer := by
  have passes : frame.submits call = [] → moved.writer.completed = writer.completed →
      (writer.error ≠ none → moved.writer.error = writer.error) → moved.writer.file = writer.file →
      Kept state writer
        { state with client := state.client.moved call frame moved, tasks := state.tasks ++ moved.task.toList }
        moved.writer := by
    intro quiet completed error file
    exact kept_same _ _ _ _ completed error file (fun _ at' _ => at') rfl (by simp [Client.moved, quiet])
  cases frame with
  | write fields late pc =>
    cases pc with
    | enter =>
      simp only [runCall, runWrite] at ran
      split at ran
      all_goals cases ran
      exact passes rfl rfl (fun _ => rfl) rfl
    | check =>
      simp only [runCall, runWrite] at ran
      split at ran
      · cases ran
        exact passes rfl rfl (fun _ => rfl) rfl
      · rename_i clean
        split at ran
        all_goals
          cases ran
          exact passes rfl rfl (fun failed => absurd clean failed) rfl
    | append =>
      cases ran
      refine ⟨le_refl _, fun _ => rfl, fun _ _ => rfl, fun _ moved => absurd rfl moved, ?_, rfl, .inr ?_⟩
      · exact fun _ stage at' working => ⟨stage, at', working, rfl⟩
      · refine ⟨call, fields, late, _, found, Function.update_self .., ?_, rfl⟩
        split
        all_goals
          intro other
          cases other
    | sequence | push sequence data | unlock failure =>
      cases ran
      exact passes rfl rfl (fun _ => rfl) rfl
  | flush before late pc =>
    cases pc with
    | enter | wait sequence =>
      simp only [runCall, runFlush] at ran
      split at ran
      all_goals cases ran
      exact passes rfl rfl (fun _ => rfl) rfl
    | sequence | push sequence data | unlock failure =>
      cases ran
      exact passes rfl rfl (fun _ => rfl) rfl
  | wrote fields late | flushed before late | thrown failure => cases ran

theorem stage_kept (sound : Sound codec state writer) (outcome : Outcome)
    (stage : Stage) (at' : state.stage = some stage) :
    Kept state writer
      (state.worked (runStage codec writer outcome stage).1 (runStage codec writer outcome stage).2)
      (runStage codec writer outcome stage).1 := by
  -- Past its check the worker meets at most the failure of an interaction.
  have entered : stage.working = true → writer.error ≠ none → writer.error = some .interaction :=
    fun working failed => (sound.working (by rw [at']; exact working)).resolve_left failed
  cases stage with
  | check task =>
    cases failed : writer.error with
    | some failure =>
      simp only [runStage, failed]
      refine kept_same _ _ _ _ rfl (fun _ => rfl) rfl ?_ rfl rfl
      intro after same working
      cases same
      cases working
    | none =>
      simp only [runStage, failed]
      have clean : ∀ {goal : Prop}, writer.error ≠ none → goal := fun other => absurd failed other
      exact ⟨le_refl _, clean, clean, clean, clean, rfl, .inl rfl⟩
  | write task =>
    refine ⟨?_, ?_, fun failed other => absurd (entered rfl failed) other, fun _ _ => ⟨_, at', rfl⟩, ?_, rfl, .inl rfl⟩
    · simp only [runStage]
      cases outcome with
      | injected => exact le_refl _
      | succeed spilled | compression | short kept spilled =>
        simp only
        split
        all_goals exact le_refl _
    · intro _
      simp only [runStage]
      cases outcome with
      | injected => rfl
      | succeed spilled | compression | short kept spilled =>
        simp only
        split
        all_goals rfl
    · intro _ after same _
      refine ⟨_, at', rfl, ?_⟩
      simp only [Local.worked, runStage] at same
      cases outcome with
      | injected =>
        cases same
        rfl
      | succeed spilled | compression | short kept spilled =>
        simp only at same
        split at same
        all_goals
          cases same
          rfl
  | flush task =>
    refine ⟨?_, ?_, fun failed other => absurd (entered rfl failed) other, fun _ _ => ⟨_, at', rfl⟩, ?_, rfl, .inl rfl⟩
    · simp only [runStage]
      split
      · cases outcome with
        | succeed spilled | injected | compression | short kept spilled => exact le_refl _
      · exact le_refl _
    · intro _
      simp only [runStage]
      split
      · cases outcome with
        | succeed spilled | injected | compression | short kept spilled => rfl
      · rfl
    · intro _ after same _
      refine ⟨_, at', rfl, ?_⟩
      simp only [Local.worked, runStage] at same
      split at same
      · cases outcome with
        | succeed spilled | injected | compression | short kept spilled =>
          cases same
          rfl
      · cases same
        rfl
  | complete task failure =>
    have next' : task.sequence = writer.completed + 1 := by
      have numbers := sound.sequences
      simp only [pending, at', Option.map_some, Option.toList_some, List.cons_append, List.nil_append, List.map_cons,
        List.length_cons, List.range'_succ] at numbers
      exact (List.cons.inj numbers).1
    refine ⟨?_, fun failed => if_neg failed, fun _ _ => rfl, fun _ moved => absurd rfl moved, ?_, rfl, .inl rfl⟩
    · simp only [runStage, next']
      omega
    · intro _ after same
      cases same

theorem local_step_kept (codec : Compression) (state next : Local) (action : LocalAction)
    (taken : localStep codec state action = some next) (writer : Writer) (present : state.client.writer = some writer)
    (sound : Sound codec state writer) :
    ∃ after, next.client.writer = some after ∧ Kept state writer next after := by
  cases local_steps taken with
  | create headers absent => simp [present] at absent
  | begin call request holder there free =>
    exact ⟨writer, present, kept_same _ _ _ _ rfl (fun _ => rfl) rfl (fun _ same _ => same) rfl rfl⟩
  | run call injected holder frame moved there found ran =>
    obtain rfl := Option.some.inj (there.symm.trans present)
    exact ⟨moved.writer, rfl, run_kept state holder call injected frame found moved ran⟩
  | take outcome task rest idle queue =>
    refine ⟨writer, present, kept_same _ _ _ _ rfl (fun _ => rfl) rfl ?_ rfl rfl⟩
    intro stage same working
    cases same
    cases working
  | work outcome stage holder busy there =>
    obtain rfl := Option.some.inj (there.symm.trans present)
    exact ⟨_, rfl, stage_kept codec state holder sound outcome stage busy⟩

theorem step_kept (codec : Compression) (state next : State) (action : Action) (taken : step codec state action = some next)
    (id : WriterId) (writer : Writer) (present : (state.clients id).writer = some writer)
    (sound : Sound codec (view state id) writer) :
    ∃ after, (next.clients id).writer = some after ∧ Kept (view state id) writer (view next id) after := by
  by_cases own : actor state action = some id
  · obtain ⟨seen, moved⟩ := step_seen codec state next action taken id own
    exact local_step_kept codec (view state id) (view next id) seen moved writer present sound
  · have unseen := step_unseen codec state next action taken id own
    have same : next.clients id = state.clients id := congrArg Local.client unseen
    rw [unseen, same]
    exact ⟨writer, present, kept_same _ _ _ _ rfl (fun _ => rfl) rfl (fun _ same _ => same) rfl rfl⟩

theorem sound_readable (sound : Sound codec state writer) : codec.decompress writer.file.written <+: writer.text := by
  have part := codec.decompress_part writer.chunks writer.file.written
    (writer.file.written_prefix_total.trans sound.chunked)
  exact part.trans sound.covered

theorem sound_durable (sound : Sound codec state writer) (before : Nat)
    (durable : Durable codec writer before) : writer.text.take before <+: codec.decompress writer.file.written := by
  obtain ⟨chunks, part, covers, has⟩ := durable
  exact covers.trans (codec.decompress_has chunks writer.chunks writer.file.written part has
    (writer.file.written_prefix_total.trans sound.chunked))

def Frame.done : Frame → Bool
  | .wrote _ _ | .flushed _ _ | .thrown _ => true
  | _ => false

theorem holder_moves (writer : Writer) (call : CallId) (frame : Frame) (locked : frame.locked = true) :
    (∀ injected, ∃ moved, runCall writer call injected frame = some moved) ∨
      ∃ before late sequence, frame = .flush before late (.wait sequence) ∧ writer.completed < sequence := by
  cases frame with
  | write fields late pc =>
    refine .inl fun injected => ?_
    cases pc with
    | enter => cases locked
    | check =>
      cases failed : writer.error with
      | none =>
        cases injected with
        | false | true => exact ⟨_, by simp only [runCall, runWrite, failed]; rfl⟩
      | some failure => exact ⟨_, by simp only [runCall, runWrite, failed]; rfl⟩
    | append | sequence | push sequence data | unlock failure => exact ⟨_, rfl⟩
  | flush before late pc =>
    cases pc with
    | enter => cases locked
    | sequence | push sequence data | unlock failure => exact .inl fun _ => ⟨_, rfl⟩
    | wait sequence =>
      by_cases completed : sequence ≤ writer.completed
      · exact .inl fun _ => ⟨_, by simp only [runCall, runFlush, completed, if_true]; rfl⟩
      · exact .inr ⟨before, late, sequence, rfl, by omega⟩
  | wrote fields late | flushed before late | thrown failure => cases locked

theorem worker_moves (codec : Compression) (state : State) (reached : Reachable (system codec) state)
    (busy : state.worker ≠ none ∨ state.tasks ≠ []) (outcome : Outcome) :
    ∃ next, step codec state (.work outcome) = some next := by
  cases at' : state.worker with
  | none =>
    cases queue : state.tasks with
    | nil => exact (busy.elim (fun working => working at') fun waiting => waiting queue).elim
    | cons entry rest => exact ⟨_, by simp only [step, at', queue]; rfl⟩
  | some entry =>
    obtain ⟨id, stage⟩ := entry
    cases present : (state.clients id).writer with
    | none =>
      have sound := local_sound codec (view state id) (reachable_view codec state reached id)
      simp only [LocalSound, view, present] at sound
      simp [at', ownStage] at sound
    | some writer => exact ⟨_, by simp only [step, at', present]; rfl⟩

theorem run_moves (codec : Compression) (state : State) (id : WriterId) (writer : Writer)
    (present : (state.clients id).writer = some writer) (call : CallId) (frame : Frame)
    (found : (state.clients id).calls call = some frame) (injected : Bool) (moved : Section)
    (ran : runCall writer call injected frame = some moved) : ∃ next, step codec state (.run id call injected) = some next := by
  have moves : (step codec state (.run id call injected)).isSome = true := by
    simp only [step, present, found, ran, Option.map_some, Option.isSome_some]
  exact Option.isSome_iff_exists.mp moves

theorem calls_move (codec : Compression) (state : State) (reached : Reachable (system codec) state) (id : WriterId)
    (writer : Writer) (present : (state.clients id).writer = some writer) (call : CallId) (frame : Frame)
    (found : (state.clients id).calls call = some frame) (open' : frame.done = false) :
    (∃ moving, ∀ injected, ∃ next, step codec state (.run id moving injected) = some next) ∨
      ∀ outcome, ∃ next, step codec state (.work outcome) = some next := by
  have sound := client_sound codec state reached id writer present
  have holds : ∀ holder held', (state.clients id).calls holder = some held' → held'.locked = true →
      (∃ moving, ∀ injected, ∃ next, step codec state (.run id moving injected) = some next) ∨
        ∀ outcome, ∃ next, step codec state (.work outcome) = some next := by
    intro holder held' found' locked
    rcases holder_moves writer holder held' locked with runs | ⟨before, late, sequence, rfl, behind⟩
    · refine .inl ⟨holder, fun injected => ?_⟩
      obtain ⟨moved, ran⟩ := runs injected
      exact run_moves codec state id writer present holder held' found' injected moved ran
    · refine .inr (worker_moves codec state reached ?_)
      obtain ⟨-, -, -, last, -⟩ := sound.calls holder _ found'
      have own := sound.locked.1 holder _ found' locked
      have idle := held_found writer (state.clients id).calls holder _ own found'
      by_contra rests
      simp only [not_or, not_not] at rests
      have done : pending (view state id) writer = [] := by
        simp [pending, view, rests.1, rests.2, idle, Frame.held]
      have total := sound.submitted
      rw [done, List.length_nil] at total
      omega
  cases locked : frame.locked with
  | true => exact holds call frame found locked
  | false =>
    cases taken : writer.mutex with
    | some holder =>
      obtain ⟨held', found', locked'⟩ := sound.locked.2 holder taken
      exact holds holder held' found' locked'
    | none =>
      have enters : ∀ injected, ∃ moved, runCall writer call injected frame = some moved := by
        intro injected
        cases frame with
        | write fields late pc =>
          cases pc with
          | enter => exact ⟨_, by simp only [runCall, runWrite, taken]; rfl⟩
          | _ => cases locked
        | flush before late pc =>
          cases pc with
          | enter => exact ⟨_, by simp only [runCall, runFlush, taken]; rfl⟩
          | _ => cases locked
        | wrote fields late | flushed before late | thrown failure => cases open'
      refine .inl ⟨call, fun injected => ?_⟩
      obtain ⟨moved, ran⟩ := enters injected
      exact run_moves codec state id writer present call frame found injected moved ran

theorem begin_frames (codec : Compression) (state next : State) (id : WriterId) (writer : Writer)
    (present : (state.clients id).writer = some writer) (call : CallId) (request : Request)
    (taken : step codec state (.begin id call request) = some next) :
    (next.clients id).calls call = some (request.frame writer) := by
  simp only [step, present] at taken
  cases free : (state.clients id).calls call with
  | some frame => simp [free] at taken
  | none =>
    simp only [free] at taken
    cases taken
    simp [State.set]

theorem log_writer_law (codec : Compression) (state : State) (reached : Reachable (system codec) state) (id : WriterId)
    (writer : Writer) (present : (state.clients id).writer = some writer) :
    codec.decompress writer.file.written <+: (state.clients id).text ∧
      Recorded (state.clients id) writer ∧
      (∀ call before late, (state.clients id).calls call = some (.flushed before late) →
        before ≤ (state.clients id).text.length ∧
          (state.clients id).text.take before <+: codec.decompress writer.file.written) ∧
      (∀ call fields before, (state.clients id).calls call ≠ some (.wrote fields true) ∧
        (state.clients id).calls call ≠ some (.flushed before true)) ∧
      (∀ call next, step codec state (.begin id call .flush) = some next →
        (next.clients id).calls call = some (.flush (state.clients id).text.length writer.error.isSome .enter)) ∧
      (∀ call fields next, step codec state (.begin id call (.write fields)) = some next →
        (next.clients id).calls call = some (.write fields writer.error.isSome .enter)) ∧
      (∀ call frame, (state.clients id).calls call = some frame → frame.done = false →
        (∃ moving, ∀ injected, ∃ next, step codec state (.run id moving injected) = some next) ∨
          ∀ outcome, ∃ next, step codec state (.work outcome) = some next) ∧
      (∀ action next, step codec state action = some next →
        ∃ after, (next.clients id).writer = some after ∧ Kept (view state id) writer (view next id) after) ∧
      (∀ action next, step codec state action = some next → actor state action ≠ some id →
        view next id = view state id) ∧
      Reachable (localSystem codec) (view state id) := by
  have sound := client_sound codec state reached id writer present
  have recorded := client_recorded codec state reached id writer present
  refine ⟨?_, recorded, ?_, ?_, ?_, ?_, ?_, ?_, ?_, reachable_view codec state reached id⟩
  · rw [← recorded.text]
    exact sound_readable codec _ writer sound
  · intro call before late found
    obtain ⟨-, within, durable⟩ := sound.calls call _ found
    rw [← recorded.text]
    exact ⟨within, sound_durable codec _ writer sound before durable⟩
  · intro call fields before
    refine ⟨fun found => ?_, fun found => ?_⟩
    · exact Bool.noConfusion (sound.calls call _ found)
    · exact Bool.noConfusion (sound.calls call _ found).1
  · intro call next taken
    rw [← recorded.text]
    exact begin_frames codec state next id writer present call .flush taken
  · exact fun call fields next taken => begin_frames codec state next id writer present call (.write fields) taken
  · exact calls_move codec state reached id writer present
  · exact fun action next taken => step_kept codec state next action taken id writer present sound
  · exact fun action next taken other => step_unseen codec state next action taken id other

def plainCodec : Compression where
  compress := fun data => data
  decompress := fun data => data
  undoes := fun chunks more rest part => ⟨rest, by simp, by simpa using part⟩

def flushedRun : List Action :=
  [.create 0 [[0x41]], .begin 0 0 (.write [[0x42]])] ++ List.replicate 4 (.run 0 0 false) ++ [.begin 0 1 .flush] ++
    List.replicate 3 (.run 0 1 false) ++ List.replicate 5 (.work (.succeed 1)) ++ List.replicate 2 (.run 0 1 false)

theorem log_writer_law_flushed :
    ∃ state writer, Reachable (system plainCodec) state ∧ (state.clients 0).writer = some writer ∧
      (state.clients 0).rows = [(0, [[0x42]])] ∧ (state.clients 0).calls 1 = some (.flushed 4 false) ∧
      (state.clients 0).text.take 4 <+: plainCodec.decompress writer.file.written := by
  have checked : (runActions (system plainCodec) {} flushedRun).any (fun state =>
      (state.clients 0).writer.isSome && decide ((state.clients 0).rows = [(0, [[0x42]])] ∧
        (state.clients 0).calls 1 = some (.flushed 4 false))) = true := by
    decide +kernel
  obtain ⟨state, reached, facts⟩ := run_actions_found (system plainCodec) flushedRun {} (.start _ rfl) _ checked
  obtain ⟨there, back⟩ := Bool.and_eq_true_iff.mp facts
  obtain ⟨writer, present⟩ := Option.isSome_iff_exists.mp there
  obtain ⟨rows, flushed⟩ := of_decide_eq_true back
  exact ⟨state, writer, reached, present, rows, flushed,
    ((log_writer_law plainCodec state reached 0 writer present).2.2.1 1 4 false flushed).2⟩

end EncosDriver.LogWriter
