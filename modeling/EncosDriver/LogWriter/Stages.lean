import EncosDriver.LogWriter.Pipeline

set_option autoImplicit false

namespace EncosDriver.LogWriter

open Lib

def Local.after (state : Local) (call : CallId) (moved : Section) : Local :=
  { state.with moved.writer (Function.update state.client.calls call (some moved.frame)) with
    tasks := state.tasks ++ moved.task.toList }

theorem after_quiet (state : Local) (call : CallId) (writer : Writer) (frame : Frame) :
    state.after call ⟨writer, none, frame⟩ = state.with writer (Function.update state.client.calls call (some frame)) := by
  simp [Local.after, Local.with]

section Holder

variable (codec : Compression) (state : Local) (writer : Writer) (sound : Sound codec state writer) (call : CallId)
  (frame : Frame) (found : state.client.calls call = some frame)

include sound

theorem locked_moved (own : writer.mutex = some call) (moved : Frame) (holds : moved.locked = true) :
    Holds writer.mutex (Function.update state.client.calls call (some moved)) := by
  refine ⟨?_, ?_⟩
  · intro other frame' present locked
    by_cases same : other = call
    · rw [same]
      exact own
    · rw [Function.update_of_ne same] at present
      exact sound.locked.1 other frame' present locked
  · intro other taken
    have same : call = other := Option.some.inj (own.symm.trans taken)
    subst same
    exact ⟨moved, Function.update_self .., holds⟩

theorem locked_left (own : writer.mutex = some call) (moved : Frame) (free : moved.locked = false) :
    Holds none (Function.update state.client.calls call (some moved)) := by
  refine ⟨?_, nofun⟩
  intro other frame' present locked
  by_cases same : other = call
  · subst same
    rw [Function.update_self] at present
    cases present
    rw [free] at locked
    cases locked
  · rw [Function.update_of_ne same] at present
    exact absurd (Option.some.inj ((sound.locked.1 other frame' present locked).symm.trans own)) same

theorem locked_entered (vacant : writer.mutex = none) (moved : Frame) (holds : moved.locked = true) :
    Holds (some call) (Function.update state.client.calls call (some moved)) := by
  refine ⟨?_, ?_⟩
  · intro other frame' present locked
    by_cases same : other = call
    · rw [same]
    · rw [Function.update_of_ne same] at present
      have taken := sound.locked.1 other frame' present locked
      rw [vacant] at taken
      cases taken
  · intro other taken
    have same : call = other := Option.some.inj taken
    subst same
    exact ⟨moved, Function.update_self .., holds⟩

theorem others_free (own : writer.mutex = some call) :
    ∀ other frame', other ≠ call → state.client.calls other = some frame' → frame'.locked = false := by
  intro other frame' different present
  cases holds : frame'.locked with
  | false => rfl
  | true => exact absurd (Option.some.inj ((sound.locked.1 other frame' present holds).symm.trans own)) different

theorem others_free_vacant (vacant : writer.mutex = none) :
    ∀ other frame', other ≠ call → state.client.calls other = some frame' → frame'.locked = false := by
  intro other frame' different present
  cases holds : frame'.locked with
  | false => rfl
  | true =>
    have taken := sound.locked.1 other frame' present holds
    rw [vacant] at taken
    cases taken

theorem enter_sound (vacant : writer.mutex = none) (moved : Frame) (idle : moved.held = [])
    (holds : moved.locked = true)
    (ok : ∀ next after, after.error = writer.error → after.text = writer.text → CallOk codec next after moved) :
    Sound codec (state.after call ⟨{ writer with mutex := some call }, none, moved⟩) { writer with mutex := some call } := by
  rw [after_quiet]
  refine sound_quiet codec state writer sound (some call) _ ?_ (locked_entered codec state writer sound call vacant moved holds) ?_
  · rw [held_own _ _ call moved rfl, idle]
    simp [held, vacant]
  · exact others_ok codec state _ writer _ call moved (grows_same _ _ rfl rfl rfl rfl)
      (others_free_vacant codec state writer sound call vacant) sound.calls (ok _ _ rfl rfl)

include found

theorem pass_sound (own : writer.mutex = some call) (idle : frame.held = []) (moved : Frame) (still : moved.held = [])
    (holds : moved.locked = true)
    (ok : CallOk codec (state.with writer (Function.update state.client.calls call (some moved))) writer moved) :
    Sound codec (state.after call ⟨writer, none, moved⟩) writer := by
  have passed := sound_quiet codec state writer sound writer.mutex (Function.update state.client.calls call (some moved))
    (by
      have before := held_found writer state.client.calls call frame own found
      have after := held_own writer state.client.calls call moved own
      exact (after.trans still).trans (before.trans idle).symm)
    (locked_moved codec state writer sound call own moved holds)
    (others_ok codec state _ writer writer call moved (grows_same _ _ rfl rfl rfl rfl)
      (others_free codec state writer sound call own) sound.calls ok)
  rw [after_quiet]
  exact passed

theorem leave_sound (own : writer.mutex = some call) (idle : frame.held = []) (moved : Frame)
    (free : moved.locked = false)
    (ok : ∀ next, CallOk codec next { writer with mutex := none } moved) :
    Sound codec (state.after call ⟨{ writer with mutex := none }, none, moved⟩) { writer with mutex := none } := by
  rw [after_quiet]
  refine sound_quiet codec state writer sound none _ ?_ (locked_left codec state writer sound call own moved free) ?_
  · rw [held_found writer state.client.calls call frame own found, idle]
    rfl
  · exact others_ok codec state _ writer _ call moved (grows_same _ _ rfl rfl rfl rfl)
      (others_free codec state writer sound call own) sound.calls (ok _)

end Holder

variable (codec : Compression) (state : Local) (writer : Writer)

theorem held_sequence (sound : Sound codec state writer) (task : Task) (hands : held writer state.client.calls = [task]) :
    task.sequence = writer.submitted := by
  have ends : pending state writer = (state.stage.map Stage.task).toList ++ state.tasks ++ [task] := by
    rw [pending, hands]
  have numbers := sound.sequences
  rw [ends, List.map_append, List.length_append, List.length_singleton, List.range'_concat, List.map_singleton] at numbers
  have last := (List.append_inj' numbers rfl).2
  have total := sound.submitted
  rw [ends, List.length_append, List.length_singleton] at total
  simp only [List.cons.injEq, and_true] at last
  omega

theorem write_early (fields : List Octets) (late : Bool) (pc : WritePc) (ok : CallOk codec state writer (.write fields late pc))
    (past : pc ≠ .enter ∧ pc ≠ .check ∧ ∀ failure, pc ≠ .unlock (some failure)) : late = false := by
  cases late with
  | false => rfl
  | true =>
    obtain ⟨-, at' | at' | ⟨failure, at'⟩⟩ := ok rfl
    · exact absurd at' past.1
    · exact absurd at' past.2.1
    · exact absurd at' (past.2.2 failure)

theorem write_sound (sound : Sound codec state writer) (call : CallId)
    (fields : List Octets) (late : Bool) (pc : WritePc) (found : state.client.calls call = some (.write fields late pc))
    (injected : Bool) (moved : Section) (ran : runWrite writer call injected fields late pc = some moved) :
    Sound codec (state.after call moved) moved.writer := by
  have ok := sound.calls call _ found
  cases pc with
  | enter =>
    cases vacant : writer.mutex with
    | some holder => simp [runWrite, vacant] at ran
    | none =>
      simp only [runWrite, vacant] at ran
      cases ran
      refine enter_sound codec state writer sound call vacant _ rfl rfl ?_
      intro next after error text began
      refine ⟨?_, .inr (.inl rfl)⟩
      rw [error]
      exact (ok began).1
  | check =>
    have own := sound.locked.1 call _ found rfl
    simp only [runWrite] at ran
    cases failed : writer.error with
    | some failure =>
      simp only [failed] at ran
      cases ran
      refine pass_sound codec state writer sound call _ found own rfl _ rfl rfl ?_
      exact fun began => ⟨(ok began).1, .inr (.inr ⟨failure, rfl⟩)⟩
    | none =>
      simp only [failed] at ran
      cases injected with
      | true =>
        cases ran
        rw [after_quiet]
        refine sound_failed codec state writer sound failed _ ?_ (locked_moved codec state writer sound call own _ rfl) ?_
        · rw [held_found writer state.client.calls call _ own found, held_own writer state.client.calls call _ own]
          rfl
        · refine others_ok codec state _ writer _ call _ ?_ (others_free codec state writer sound call own) sound.calls ?_
          · exact ⟨List.prefix_rfl, List.prefix_rfl, List.prefix_rfl, fun _ => nofun⟩
          · exact fun _ => ⟨nofun, .inr (.inr ⟨.interaction, rfl⟩)⟩
      | false =>
        cases ran
        refine pass_sound codec state writer sound call _ found own rfl _ rfl rfl ?_
        exact fun began => absurd failed (ok began).1
  | append =>
    have own := sound.locked.1 call _ found rfl
    have early := write_early codec state writer fields late _ ok ⟨nofun, nofun, nofun⟩
    cases ran
    rw [after_quiet]
    have idle : ∀ pc', pc' = .sequence ∨ pc' = .unlock none →
        Sound codec
          (state.with { writer with buffer := writer.buffer ++ row fields, text := writer.text ++ row fields }
            (Function.update state.client.calls call (some (.write fields late pc'))))
          { writer with buffer := writer.buffer ++ row fields, text := writer.text ++ row fields } := by
      intro pc' stands
      have holds : (Frame.write fields late pc').locked = true := by
        rcases stands with rfl | rfl
        · rfl
        · rfl
      refine sound_append codec state writer sound (row fields) _ ?_
        (locked_moved codec state writer sound call own _ holds) ?_
      · rw [held_found writer state.client.calls call _ own found, held_own writer state.client.calls call _ own]
        rcases stands with rfl | rfl
        · rfl
        · rfl
      · refine others_ok codec state _ writer _ call _ ?_ (others_free codec state writer sound call own) sound.calls ?_
        · exact ⟨List.prefix_append _ _, List.prefix_rfl, List.prefix_rfl, fun failed => failed⟩
        · intro began
          rw [early] at began
          cases began
    refine idle _ ?_
    split
    · exact .inl rfl
    · exact .inr rfl
  | sequence =>
    have own := sound.locked.1 call _ found rfl
    have early := write_early codec state writer fields late _ ok ⟨nofun, nofun, nofun⟩
    cases ran
    rw [after_quiet]
    refine sound_sequence codec state writer sound false _ ?_ ?_ (locked_moved codec state writer sound call own _ rfl) ?_
    · exact held_found writer state.client.calls call _ own found
    · exact held_own writer state.client.calls call _ own
    · refine others_ok codec state _ writer _ call _ (grows_same _ _ rfl rfl rfl rfl)
        (others_free codec state writer sound call own) sound.calls ?_
      intro began
      rw [early] at began
      cases began
  | push sequence data =>
    have own := sound.locked.1 call _ found rfl
    have early := write_early codec state writer fields late _ ok ⟨nofun, nofun, nofun⟩
    cases ran
    refine sound_push codec state writer sound ⟨data, sequence, false⟩ _ ?_ ?_
      (locked_moved codec state writer sound call own _ rfl) ?_
    · exact held_found writer state.client.calls call _ own found
    · exact held_own writer state.client.calls call _ own
    · refine others_ok codec state _ writer _ call _ (grows_same _ _ rfl rfl rfl rfl)
        (others_free codec state writer sound call own) sound.calls ?_
      intro began
      rw [early] at began
      cases began
  | unlock failure =>
    have own := sound.locked.1 call _ found rfl
    cases failure with
    | none =>
      cases ran
      refine leave_sound codec state writer sound call _ found own rfl _ rfl ?_
      exact fun next => write_early codec state writer fields late _ ok ⟨nofun, nofun, nofun⟩
    | some failure =>
      cases ran
      exact leave_sound codec state writer sound call _ found own rfl _ rfl fun next => trivial

theorem durable_drained (sound : Sound codec state writer)
    (done : pending state writer = []) (empty : writer.buffer = []) (clean : writer.error = none)
    (synced : writer.file.buffered = []) (before : Nat) : Durable codec writer before := by
  simp only [pending, List.append_eq_nil_iff] at done
  obtain ⟨⟨idle, queue⟩, hands⟩ := done
  have resting : state.stage = none := by
    cases at' : state.stage with
    | none => rfl
    | some stage => simp [at'] at idle
  obtain ⟨total, text⟩ := sound.healthy (.inl clean) (by simp [resting])
  have all : writer.chunks.flatten = writer.text := by
    simpa [unwritten, resting, queue, hands, empty] using text
  refine ⟨writer.chunks, List.prefix_rfl, ?_, ?_⟩
  · rw [all]
    exact List.take_prefix before writer.text
  · rw [← total, FileStream.total, synced, List.append_nil]

theorem flush_sound (sound : Sound codec state writer) (call : CallId)
    (before : Nat) (late : Bool) (pc : FlushPc) (found : state.client.calls call = some (.flush before late pc))
    (moved : Section) (ran : runFlush writer call before late pc = some moved) :
    Sound codec (state.after call moved) moved.writer := by
  have ok := sound.calls call _ found
  obtain ⟨within, later, stands⟩ := ok
  cases pc with
  | enter =>
    cases vacant : writer.mutex with
    | some holder => simp [runFlush, vacant] at ran
    | none =>
      simp only [runFlush, vacant] at ran
      cases ran
      refine enter_sound codec state writer sound call vacant _ rfl rfl ?_
      intro next after error text
      refine ⟨text ▸ within, fun began => ⟨?_, nofun⟩, trivial⟩
      rw [error]
      exact (later began).1
  | sequence =>
    have own := sound.locked.1 call _ found rfl
    cases ran
    rw [after_quiet]
    refine sound_sequence codec state writer sound true _ ?_ ?_ (locked_moved codec state writer sound call own _ rfl) ?_
    · exact held_found writer state.client.calls call _ own found
    · exact held_own writer state.client.calls call _ own
    · exact others_ok codec state _ writer _ call _ (grows_same _ _ rfl rfl rfl rfl)
        (others_free codec state writer sound call own) sound.calls
        ⟨within, fun began => ⟨(later began).1, nofun⟩, rfl⟩
  | push sequence data =>
    have own := sound.locked.1 call _ found rfl
    have hands := held_found writer state.client.calls call _ own found
    have numbered := held_sequence codec state writer sound _ hands
    cases ran
    have given := held_own writer state.client.calls call (.flush before late (.wait sequence)) own
    refine sound_push codec state writer sound ⟨data, sequence, true⟩ _ hands given
      (locked_moved codec state writer sound call own _ rfl) ?_
    refine others_ok codec state _ writer _ call _ (grows_same _ _ rfl rfl rfl rfl)
      (others_free codec state writer sound call own) sound.calls ?_
    refine ⟨within, fun began => ⟨(later began).1, nofun⟩, stands, numbered, .inr ⟨⟨data, sequence, true⟩, ?_, rfl⟩⟩
    simp [pending, Local.with, given, Frame.held]
  | wait sequence =>
    have own := sound.locked.1 call _ found rfl
    obtain ⟨empty, own', drained⟩ := stands
    simp only [runFlush] at ran
    split at ran
    · rename_i completed
      simp only [Option.some.injEq] at ran
      subst ran
      have done : pending state writer = [] := by
        have total := sound.submitted
        exact List.eq_nil_of_length_eq_zero (by omega)
      refine pass_sound codec state writer sound call _ found own rfl _ rfl rfl ?_
      refine ⟨within, fun began => ⟨(later began).1, ?_⟩, ?_⟩
      · intro same
        exact (later began).1 (FlushPc.unlock.inj same)
      · cases failed : writer.error with
        | some failure => trivial
        | none =>
          rcases drained with ⟨-, synced⟩ | ⟨task, last, -⟩
          · exact durable_drained codec state writer sound done empty failed (synced failed) before
          · simp [done] at last
    · cases ran
  | unlock failure =>
    have own := sound.locked.1 call _ found rfl
    cases failure with
    | none =>
      cases ran
      refine leave_sound codec state writer sound call _ found own rfl _ rfl fun next => ⟨?_, within, stands⟩
      cases late with
      | false => rfl
      | true => exact absurd rfl (later rfl).2
    | some failure =>
      cases ran
      exact leave_sound codec state writer sound call _ found own rfl _ rfl fun next => trivial

def Local.worked (state : Local) (writer : Writer) (stage : Option Stage) : Local :=
  { state with client := { state.client with writer := some writer }, stage := stage }

theorem pop_sound (sound : Sound codec state writer) (task : Task) (rest : List Task) (idle : state.stage = none)
    (queue : state.tasks = task :: rest) :
    Sound codec { state with tasks := rest, stage := some (.check task) } writer := by
  have still : pending { state with tasks := rest, stage := some (.check task) } writer = pending state writer := by
    simp [pending, idle, queue, Stage.task]
  have left : unwritten { state with tasks := rest, stage := some (.check task) } writer = unwritten state writer := by
    simp [unwritten, idle, queue, Stage.unwritten]
  refine ⟨sound.chunked, sound.covered, ?_, ?_, ?_, (fun busy => by cases busy), (fun _ other => by cases other), sound.locked, ?_⟩
  · rw [still]
    exact sound.sequences
  · rw [still]
    exact sound.submitted
  · intro clean calm
    rw [left]
    exact sound.healthy (by simpa [idle, Stage.working] using clean) (by simp [idle])
  · intro call frame found
    refine call_ok_worked codec state _ writer writer frame (grows_same _ _ rfl rfl rfl rfl) rfl rfl rfl ?_
      (sound.calls call frame found)
    intro drained
    rw [Drained, still]
    exact drained

theorem stage_sound (writer after : Writer) (sound : Sound codec state writer)
    (stage next : Stage) (at' : state.stage = some stage) (same : next.task = stage.task)
    (grows : Grows writer after) (mutex : after.mutex = writer.mutex) (text : after.text = writer.text)
    (buffer : after.buffer = writer.buffer) (submitted : after.submitted = writer.submitted)
    (completed : after.completed = writer.completed)
    (chunked : after.file.total <+: codec.frames after.chunks) (covered : after.chunks.flatten <+: after.text)
    (healthy : after.error = none ∨ next.working = true → next.failing = false →
      (writer.error = none ∨ stage.working = true) ∧ stage.failing = false ∧ after.file.total = codec.frames after.chunks ∧
        after.chunks.flatten ++ next.unwritten = writer.chunks.flatten ++ stage.unwritten)
    (working : next.working = true → after.error = none ∨ after.error = some .interaction)
    (emptied : ∀ task, next = .complete task none → after.error = none → task.flush = true → after.file.buffered = []) :
    Sound codec (state.worked after (some next)) after := by
  have hands : held after state.client.calls = held writer state.client.calls := by simp only [held, mutex]
  have still : pending (state.worked after (some next)) after = pending state writer := by
    simp only [pending, Local.worked, at', Option.map_some, same, hands]
  refine ⟨chunked, covered, ?_, ?_, ?_, working, ?_, ?_, ?_⟩
  · rw [still, completed]
    exact sound.sequences
  · rw [still, completed, submitted]
    exact sound.submitted
  · intro clean calm
    obtain ⟨clean', calm', total, flat⟩ := healthy clean calm
    obtain ⟨-, whole⟩ := sound.healthy (by rw [at']; exact clean') (by rw [at']; exact calm')
    refine ⟨total, ?_⟩
    simp only [unwritten, at', Option.map_some, Option.getD_some] at whole
    simp only [unwritten, Local.worked, Option.map_some, Option.getD_some, hands, buffer, text, ← whole]
    simp only [← List.append_assoc, flat]
  · intro task stands
    exact emptied task (Option.some.inj stands)
  · rw [mutex]
    exact sound.locked
  · intro call frame found
    refine call_ok_worked codec state _ writer after frame grows text buffer submitted ?_ (sound.calls call frame found)
    rintro (⟨done, -⟩ | ⟨task, last, flush⟩)
    · simp [pending, at'] at done
    · exact .inr ⟨task, by rw [still]; exact last, flush⟩

theorem complete_sound (sound : Sound codec state writer) (task : Task)
    (failure : Option Failure) (at' : state.stage = some (.complete task failure)) :
    Sound codec
      (state.worked
        { writer with error := if writer.error = none then failure else writer.error, completed := task.sequence } none)
      { writer with error := if writer.error = none then failure else writer.error, completed := task.sequence } := by
  generalize after' :
    ({ writer with error := if writer.error = none then failure else writer.error, completed := task.sequence } : Writer) =
      after
  have ends : pending state writer = task :: pending (state.worked after none) after := by
    subst after'
    simp [pending, Local.worked, at', Stage.task, held]
  have numbers := sound.sequences
  rw [ends, List.map_cons, List.length_cons, List.range'_succ] at numbers
  obtain ⟨first, following⟩ := List.cons.inj numbers
  have total := sound.submitted
  rw [ends, List.length_cons] at total
  have grows : Grows writer after := by
    subst after'
    refine ⟨List.prefix_rfl, List.prefix_rfl, List.prefix_rfl, fun failed => ?_⟩
    simp [failed]
  have clean' : after.error = none → writer.error = none ∧ failure = none := by
    subst after'
    cases writer.error with
    | none => exact fun clean => ⟨rfl, by simpa using clean⟩
    | some failure => exact fun clean => by simp at clean
  refine ⟨?_, ?_, ?_, ?_, ?_, (fun busy => by cases busy), (fun _ other => by cases other), ?_, ?_⟩
  · subst after'
    exact sound.chunked
  · subst after'
    exact sound.covered
  · have counted : after.completed = writer.completed + 1 := by
      subst after'
      exact first
    rw [counted]
    exact following
  · subst after'
    simp only at first total ⊢
    omega
  · intro clean calm
    obtain ⟨before, calm'⟩ := clean' (clean.resolve_right (by simp [Local.worked]))
    subst calm'
    have whole := sound.healthy (.inl before) (by simp [at', Stage.failing])
    subst after'
    simpa [unwritten, Local.worked, at', Stage.unwritten, held] using whole
  · subst after'
    exact sound.locked
  · intro call frame found
    refine call_ok_worked codec state _ writer after frame grows ?_ ?_ ?_ ?_ (sound.calls call frame found)
    · subst after'
      rfl
    · subst after'
      rfl
    · subst after'
      rfl
    · rintro (⟨done, -⟩ | ⟨last, at'', flush⟩)
      · rw [ends] at done
        cases done
      · rw [ends] at at''
        cases rest : pending (state.worked after none) after with
        | nil =>
          rw [rest] at at''
          have same : task = last := by simpa using at''
          refine .inl ⟨rest, fun clean => ?_⟩
          obtain ⟨before, calm⟩ := clean' clean
          subst calm
          have synced := sound.emptied task at' before (same ▸ flush)
          subst after'
          exact synced
        | cons other others =>
          rw [rest, List.getLast?_cons_cons] at at''
          exact .inr ⟨last, by rw [rest]; exact at'', flush⟩

theorem hold_sound (sound : Sound codec state writer)
    (stage next : Stage) (at' : state.stage = some stage) (same : next.task = stage.task)
    (left : writer.error = none ∨ next.working = true → next.failing = false →
      (writer.error = none ∨ stage.working = true) ∧ stage.failing = false ∧ next.unwritten = stage.unwritten)
    (working : next.working = true → writer.error = none ∨ writer.error = some .interaction)
    (emptied : ∀ task, next = .complete task none → writer.error = none → task.flush = true → writer.file.buffered = []) :
    Sound codec (state.worked writer (some next)) writer := by
  refine stage_sound codec state writer writer sound stage next at' same (grows_same _ _ rfl rfl rfl rfl) rfl rfl rfl rfl rfl
    sound.chunked sound.covered ?_ working emptied
  intro clean calm
  obtain ⟨clean', calm', still⟩ := left clean calm
  obtain ⟨total, -⟩ := sound.healthy (by rw [at']; exact clean') (by rw [at']; exact calm')
  exact ⟨clean', calm', total, by rw [still]⟩

theorem check_sound (sound : Sound codec state writer) (task : Task)
    (outcome : Outcome) (at' : state.stage = some (.check task)) :
    Sound codec
      (state.worked (runStage codec writer outcome (.check task)).1 (runStage codec writer outcome (.check task)).2)
      (runStage codec writer outcome (.check task)).1 := by
  cases failed : writer.error with
  | some failure =>
    simp only [runStage, failed]
    refine hold_sound codec state writer sound _ _ at' rfl (fun clean => ?_) nofun
      (fun _ _ clean => by rw [failed] at clean; cases clean)
    rw [failed] at clean
    exact absurd clean (by simp [Stage.working])
  | none =>
    simp only [runStage, failed]
    exact hold_sound codec state writer sound _ _ at' rfl (fun _ _ => ⟨.inl failed, rfl, rfl⟩) (fun _ => .inl failed) nofun

theorem write_stage_sound (sound : Sound codec state writer)
    (task : Task) (outcome : Outcome) (at' : state.stage = some (.write task)) :
    Sound codec
      (state.worked (runStage codec writer outcome (.write task)).1 (runStage codec writer outcome (.write task)).2)
      (runStage codec writer outcome (.write task)).1 := by
  have clean : writer.error = none ∨ writer.error = some .interaction := sound.working (by rw [at']; rfl)
  obtain ⟨total, text⟩ := sound.healthy (.inr (by rw [at']; rfl)) (by rw [at']; rfl)
  have fails : ∀ failure, Sound codec (state.worked writer (some (.complete task (some failure)))) writer := fun failure =>
    hold_sound codec state writer sound _ _ at' rfl (fun _ calm => by cases calm) (fun _ => clean)
      (fun _ other => by cases other)
  have covered : (writer.chunks ++ [task.data]).flatten <+: writer.text := by
    rw [← text]
    simp [unwritten, at', Stage.unwritten]
  have frames : codec.frames (writer.chunks ++ [task.data]) = writer.file.total ++ codec.compress task.data := by
    rw [Compression.frames_append, total]
    simp [Compression.frames]
  by_cases empty : task.data = []
  · have passes : Sound codec (state.worked writer (some (.flush task))) writer :=
      hold_sound codec state writer sound _ _ at' rfl (fun _ _ => ⟨.inr rfl, rfl, empty.symm⟩) (fun _ => clean)
        (fun _ other => by cases other)
    cases outcome with
    | succeed spilled | compression | short kept spilled =>
      simp only [runStage, empty, if_true]
      exact passes
    | injected => exact fails .injected
  · cases outcome with
    | injected => exact fails .injected
    | compression =>
      simp only [runStage, empty, if_false]
      exact fails .compression
    | short kept spilled =>
      simp only [runStage, empty, if_false]
      refine stage_sound codec state writer _ sound _ _ at' rfl ?_ rfl rfl rfl rfl rfl ?_ covered
        (fun _ calm => by cases calm) (fun _ => clean) (fun _ other => by cases other)
      · exact ⟨List.prefix_rfl, List.prefix_append _ _, FileStream.written_accept _ _ _, fun failed => failed⟩
      · simp only [handOver, frames]
        exact FileStream.total_short writer.file _ kept spilled
    | succeed spilled =>
      simp only [runStage, empty, if_false]
      have all : (writer.file.accept (codec.compress task.data) spilled).total =
          codec.frames (writer.chunks ++ [task.data]) := by
        rw [FileStream.total_accept, frames]
      refine stage_sound codec state writer _ sound _ _ at' rfl ?_ rfl rfl rfl rfl rfl ?_ covered ?_ (fun _ => clean)
        (fun _ other => by cases other)
      · exact ⟨List.prefix_rfl, List.prefix_append _ _, FileStream.written_accept _ _ _, fun failed => failed⟩
      · simp only [handOver, all]
        exact List.prefix_rfl
      · refine fun _ _ => ⟨.inr rfl, rfl, all, ?_⟩
        simp [handOver, Stage.unwritten]

theorem flush_stage_sound (sound : Sound codec state writer)
    (task : Task) (outcome : Outcome) (at' : state.stage = some (.flush task)) :
    Sound codec
      (state.worked (runStage codec writer outcome (.flush task)).1 (runStage codec writer outcome (.flush task)).2)
      (runStage codec writer outcome (.flush task)).1 := by
  have clean : writer.error = none ∨ writer.error = some .interaction := sound.working (by rw [at']; rfl)
  obtain ⟨total, -⟩ := sound.healthy (.inr (by rw [at']; rfl)) (by rw [at']; rfl)
  cases flush : task.flush with
  | false =>
    simp only [runStage, flush, Bool.false_eq_true, if_false]
    refine hold_sound codec state writer sound _ _ at' rfl (fun _ _ => ⟨.inr rfl, rfl, rfl⟩) nofun ?_
    intro other same _ flushed
    cases same
    rw [flush] at flushed
    cases flushed
  | true =>
    have synced : Sound codec
        (state.worked { writer with file := writer.file.flushed } (some (.complete task none)))
        { writer with file := writer.file.flushed } := by
      refine stage_sound codec state writer _ sound _ _ at' rfl ?_ rfl rfl rfl rfl rfl ?_ sound.covered ?_ nofun ?_
      · exact ⟨List.prefix_rfl, List.prefix_rfl, writer.file.written_prefix_total, fun failed => failed⟩
      · rw [FileStream.total_flushed]
        exact sound.chunked
      · exact fun _ _ => ⟨.inr rfl, rfl, (FileStream.total_flushed _).trans total, rfl⟩
      · exact fun _ _ _ _ => rfl
    cases outcome with
    | short kept spilled =>
      simp only [runStage, flush, if_true]
      refine stage_sound codec state writer _ sound _ _ at' rfl ?_ rfl rfl rfl rfl rfl ?_ sound.covered
        (fun _ calm => by cases calm) (fun _ => clean) nofun
      · exact ⟨List.prefix_rfl, List.prefix_rfl, FileStream.written_accept _ _ _, fun failed => failed⟩
      · rw [FileStream.total_flush_short]
        exact sound.chunked
    | succeed spilled | injected | compression =>
      simp only [runStage, flush, if_true]
      exact synced

theorem run_stage_sound (sound : Sound codec state writer) (stage : Stage) (outcome : Outcome) (at' : state.stage = some stage) :
    Sound codec (state.worked (runStage codec writer outcome stage).1 (runStage codec writer outcome stage).2)
      (runStage codec writer outcome stage).1 := by
  cases stage with
  | check task => exact check_sound codec state writer sound task outcome at'
  | write task => exact write_stage_sound codec state writer sound task outcome at'
  | flush task => exact flush_stage_sound codec state writer sound task outcome at'
  | complete task failure => exact complete_sound codec state writer sound task failure at'

end EncosDriver.LogWriter
