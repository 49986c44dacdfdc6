import EncosDriver.Wasm.Answers

set_option autoImplicit false

namespace EncosDriver.Wasm

open Lib

variable (world : World)

variable (drains : AdapterId → Drain)

theorem poll_record :
    (world.pollPendingAdapterDeletionsOnce drains).1.disposed = world.disposed ∧
      (world.pollPendingAdapterDeletionsOnce drains).1.births = world.births := by
  have fold : ∀ (entries : List (AdapterId × PendingAdapterDeletion)) (polled : Polled),
      (entries.foldl (pollOne drains) polled).world.disposed = polled.world.disposed ∧
        (entries.foldl (pollOne drains) polled).world.births = polled.world.births := by
    intro entries
    induction entries with
    | nil => exact fun _ => ⟨rfl, rfl⟩
    | cons entry rest ih =>
      intro polled
      obtain ⟨disposed, births⟩ := ih (pollOne drains polled entry)
      rcases poll_one_cases drains polled entry.1 entry.2 with same | ⟨after, -, -, -, same⟩ | same
      all_goals
        rw [same] at disposed births
        exact ⟨disposed, births⟩
  exact fold _ _

theorem poll_disposed : (world.pollPendingAdapterDeletionsOnce drains).1.disposed = world.disposed :=
  (poll_record world drains).1

theorem poll_births : (world.pollPendingAdapterDeletionsOnce drains).1.births = world.births :=
  (poll_record world drains).2

theorem sound_again (sound : Sound world) (handle : Handle) (past : handle ∈ world.disposed) :
    Sound { world with disposed := handle :: world.disposed } := by
  have same : ∀ other, other ∈ handle :: world.disposed ↔ other ∈ world.disposed := by
    intro other
    constructor
    · intro inside
      rcases List.mem_cons.mp inside with rfl | before
      · exact past
      · exact before
    · exact List.mem_cons_of_mem _
  obtain ⟨accounted, family⟩ := sound
  refine ⟨?_, ?_⟩
  · refine ⟨accounted.bounded, fun other inside => accounted.past other ((same other).mp inside), accounted.distinct,
      accounted.manager, accounted.reserved, ?_, ?_, accounted.ended, accounted.leases, accounted.pendings,
      accounted.interfaces⟩
    · intro other entry found
      obtain ⟨adapter, managed, own, born, held, name, stands⟩ := accounted.entries other entry found
      refine ⟨adapter, managed, own, born, held, name, ?_⟩
      simp only [World.Standing, same]
      exact stands
    · exact fun other adapter born open' =>
        accounted.kept other adapter born fun inside => open' ((same other).mpr inside)
  · refine ⟨family.buses, ?_, family.busListed, family.devices, ?_, family.deviceListed, family.creating⟩
    · intro other parent born
      obtain ⟨made, there⟩ := family.busKept other parent born
      exact ⟨made, fun open' => there fun inside => open' ((same parent).mpr inside)⟩
    · intro kind other bus born
      obtain ⟨parent, at', there⟩ := family.deviceKept kind other bus born
      exact ⟨parent, at', fun open' => there fun inside => open' ((same parent).mpr inside)⟩

variable (emscripten : Bool)

theorem dispose_cases (world : World) (sound : Sound world) (handle : Handle) (drain : Drain)
    (drains : AdapterId → Drain) :
    ((world.disposeAdapter emscripten handle drain drains).2 ≠ .ok ∧
        ∃ store, (world.disposeAdapter emscripten handle drain drains).1 = { world with store := store } ∧
          world.store.Same store) ∨
      ((world.disposeAdapter emscripten handle drain drains).2 = .ok ∧
        Sound (world.disposeAdapter emscripten handle drain drains).1 ∧
        (world.store.Indexed → (world.disposeAdapter emscripten handle drain drains).1.store.Indexed)) := by
  have still : world.store.Same world.store :=
    ⟨rfl, le_refl _, fun _ => rfl, fun _ => rfl, fun _ _ => rfl, fun _ => rfl, rfl, rfl⟩
  unfold World.disposeAdapter World.dispose
  cases found : world.store.adapters.find handle with
  | none => exact .inl ⟨nofun, world.store, rfl, still⟩
  | some entry =>
    obtain ⟨adapter, managed, own, -, -, -, stands⟩ := sound.accounted.entries handle entry found
    rcases stands with ⟨valid, quiet, -⟩ | ⟨invalid, disposing, past, pending, held, own'⟩
    · simp only [valid, quiet, Bool.not_true, Bool.false_and, Bool.false_or, Bool.false_eq_true, if_false]
      rcases valid_ends emscripten world sound handle entry drain found valid quiet with
        ⟨failed, store, same, kept⟩ | ⟨done, after, disposed, -, closed⟩
      · simp only [failed, if_false]
        exact .inl ⟨failed, store, same, kept⟩
      · simp only [done, if_true]
        rw [disposed]
        exact .inr ⟨trivial, after, fun indexed => closed_indexed world sound indexed _ handle entry found valid closed⟩
    · simp only [invalid, disposing, Bool.not_false, Bool.and_true, if_true, World.disposePending, own, held, own',
        ne_eq, not_true_eq_false, if_false]
      refine .inr ?_
      cases pending.exhausted with
      | false => exact ⟨rfl, sound_again world sound handle past, id⟩
      | true =>
        simp only [Bool.not_true, Bool.false_eq_true, if_false, if_true]
        refine ⟨trivial, sound_again _ ?_ handle ?_, fun indexed => ?_⟩
        · exact poll_sound _ (retry_sound world sound adapter pending
            { adapterHandle := handle, interfaceName := pending.interfaceName, adapter := pending.adapter } held
            ⟨own'.symm, rfl, rfl⟩) drains
        · rw [poll_disposed]
          exact past
        · refine poll_indexed _ ?_ drains
          exact ⟨indexed.buses, indexed.devices⟩

theorem step_sound (world next : World) (action : Action) (sound : Sound world)
    (taken : step emscripten world action = some next) : Sound next := by
  cases action with
  | createAdapter adapterType interfaceName made =>
    cases taken
    unfold World.createAdapter
    split
    · exact sound
    · refine create_sound world sound _ made adoptAny _ _ ⟨rfl, rfl, fun _ => rfl⟩ ?_
      intro manager got adapter fake adopted
      cases got with
      | made other => simp_all [adoptAny]
      | threw | null => cases adopted
  | createFakeAdapter interfaceName made =>
    cases taken
    refine create_sound world sound _ (fakeFactory made) adoptFake _ _ ⟨rfl, rfl, fun _ => rfl⟩ ?_
    intro manager got adapter fake adopted
    cases got with
    | made other =>
      simp only [adoptFake] at adopted
      split at adopted
      · simp_all
      · cases adopted
    | threw | null => cases adopted
  | getBus adapterHandle slaveIdx busIdx made =>
    cases taken
    exact get_bus_sound world sound adapterHandle slaveIdx busIdx made
  | getMotorWithModel busHandle motorIdx =>
    cases taken
    exact get_motor_sound world sound busHandle motorIdx
  | finishMotor made =>
    obtain ⟨result, ran, rfl⟩ := Option.map_eq_some_iff.mp taken
    exact finish_motor_sound world sound made result ran
  | getBattery busHandle batteryIdx made =>
    cases taken
    exact get_device_sound world sound .battery _ busHandle batteryIdx made
  | getImu busHandle imuIdx made =>
    cases taken
    exact get_device_sound world sound .imu _ busHandle imuIdx made
  | disposeAdapter handle drain drains =>
    cases taken
    rcases dispose_cases emscripten world sound handle drain drains with ⟨-, store, same, kept⟩ | ⟨-, after, -⟩
    · rw [same]
      exact sound_same world sound store kept world.creating (.inl rfl)
    · exact after
  | poll drains =>
    cases taken
    exact poll_sound world sound drains
  | manage name fake =>
    cases taken
    exact register_world_sound world sound name fake

theorem initial_sound : Sound {} := by
  refine ⟨⟨nofun, nofun, List.nodup_nil, ⟨nofun, nofun, nofun, List.nodup_nil, nofun⟩, rfl, nofun, nofun, nofun,
    fun _ => rfl, nofun, ?_⟩, ⟨nofun, nofun, nofun, fun _ => nofun, nofun, nofun, nofun⟩⟩
  intro name
  constructor
  · intro inside
    simp at inside
  · rintro ⟨adapter, pending, held, -⟩
    cases held

theorem reachable_sound (world : World) (reached : Reachable (system emscripten) world) :
    Sound world := by
  induction reached with
  | start world initial =>
    have fresh : world = {} := initial
    subst fresh
    exact initial_sound
  | next world next action _ _ taken ih => exact step_sound emscripten world next action ih taken

theorem step_indexed (world next : World) (action : Action) (sound : Sound world) (indexed : world.store.Indexed)
    (taken : step emscripten world action = some next) : next.store.Indexed := by
  cases action with
  | createAdapter adapterType interfaceName made =>
    cases taken
    unfold World.createAdapter
    split
    · exact indexed
    · exact create_indexed world sound indexed _ made adoptAny _ _ rfl
  | createFakeAdapter interfaceName made =>
    cases taken
    exact create_indexed world sound indexed _ (fakeFactory made) adoptFake _ _ rfl
  | getBus adapterHandle slaveIdx busIdx made =>
    cases taken
    exact get_bus_indexed world sound indexed adapterHandle slaveIdx busIdx made
  | getMotorWithModel busHandle motorIdx =>
    cases taken
    exact get_motor_indexed world indexed busHandle motorIdx
  | finishMotor made =>
    obtain ⟨result, ran, rfl⟩ := Option.map_eq_some_iff.mp taken
    exact finish_motor_indexed world sound indexed made result ran
  | getBattery busHandle batteryIdx made =>
    cases taken
    exact get_device_indexed world sound indexed .battery _ busHandle batteryIdx made
  | getImu busHandle imuIdx made =>
    cases taken
    exact get_device_indexed world sound indexed .imu _ busHandle imuIdx made
  | disposeAdapter handle drain drains =>
    cases taken
    rcases dispose_cases emscripten world sound handle drain drains with ⟨-, store, same, kept⟩ | ⟨-, -, after⟩
    · rw [same]
      exact same_indexed world.store store indexed kept
    · exact after indexed
  | poll drains =>
    cases taken
    exact poll_indexed world indexed drains
  | manage name fake =>
    cases taken
    exact indexed

theorem reachable_indexed (world : World) (reached : Reachable (system emscripten) world) :
    world.store.Indexed := by
  refine reachable_invariant_under (system emscripten) Always Sound (fun world => world.store.Indexed) (reachable_sound emscripten)
    ?_ ?_ world reached
  · rintro _ rfl
    exact ⟨nofun, nofun⟩
  · exact fun world action next sound _ indexed _ taken => step_indexed emscripten world next action sound indexed taken

theorem destroyed_disposed (accounted : Accounted world) (handle : Handle) (adapter : AdapterId)
    (born : (handle, .adapter adapter) ∈ world.births) (gone : adapter ∈ world.manager.destroyed) :
    handle ∈ world.disposed := by
  by_contra open'
  obtain ⟨entry, found, own⟩ := accounted.kept handle adapter born open'
  obtain ⟨object, managed, own', -, held, -⟩ := accounted.entries handle entry found
  have same : object = adapter := Option.some.inj (own'.symm.trans own)
  rw [same, (accounted.manager.gone adapter gone).1] at held
  cases held

theorem disposed_destroyed (accounted : Accounted world) (handle : Handle) (adapter : AdapterId)
    (born : (handle, .adapter adapter) ∈ world.births)
    (all : ∀ other, (other, .adapter adapter) ∈ world.births → other ∈ world.disposed) :
    adapter ∈ world.manager.destroyed ∨ ∃ pending, world.store.pendingAdapterDeletions.find adapter = some pending := by
  rcases accounted.ended handle adapter born with gone | some'
  · exact .inl gone
  · obtain ⟨other, entry, found, counted⟩ := Table.sum_positive _ _ some'
    have own : entry.adapter = some adapter := by
      by_contra different
      simp [holds, different] at counted
    obtain ⟨object, managed, own', born', -, -, stands⟩ := accounted.entries other entry found
    have same : object = adapter := Option.some.inj (own'.symm.trans own)
    subst same
    rcases stands with ⟨-, -, open'⟩ | ⟨-, -, -, pending, held, -⟩
    · exact absurd (all other born') open'
    · exact .inr ⟨pending, held⟩

-- The tombstone of a deletion after a poll that found its waiters and the
-- manager so.
def PendingAdapterDeletion.polled (pending : PendingAdapterDeletion) (drain : Drain) : Option PendingAdapterDeletion :=
  if pending.exhausted then some pending
  else if drain.drained && drain.accepts then none
  else some (if kMaximumDeletionRetries ≤ pending.retryCount + 1 then pending.exhaust else pending.retry)

theorem poll_one_pending (polled : Polled) (sound : Sound polled.world) (adapter : AdapterId)
    (pending : PendingAdapterDeletion) (held : polled.world.store.pendingAdapterDeletions.find adapter = some pending) :
    (pollOne drains polled (adapter, pending)).world.store.pendingAdapterDeletions.find adapter = pending.polled (drains adapter) := by
  have refused : (if kMaximumDeletionRetries ≤ pending.retryCount + 1 then
        ({ polled with world := polled.world.notePending adapter pending.exhaust } : Polled)
      else { world := polled.world.notePending adapter pending.retry, needsRetry := true,
             nextDelayMs := min polled.nextDelayMs pending.retry.retryDelayMs }).world.store.pendingAdapterDeletions.find adapter =
        some (if kMaximumDeletionRetries ≤ pending.retryCount + 1 then pending.exhaust else pending.retry) := by
    split <;> exact Table.put_same _ _ _
  unfold pollOne PendingAdapterDeletion.polled
  cases tired : pending.exhausted with
  | true =>
    simp only [tired, if_true]
    exact held
  | false =>
    cases drained : (drains adapter).drained with
    | false =>
      simp only [tired, drained, Bool.false_eq_true, if_false, Bool.false_and]
      exact refused
    | true =>
      cases accepts : (drains adapter).accepts with
      | false =>
        simp only [tired, drained, accepts, destroy_refused, Bool.false_eq_true, if_true, if_false, Bool.and_false]
        exact refused
      | true =>
        have done := (tombstone_sound polled.world sound adapter pending held).1
        simp only [tired, drained, accepts, done, if_true, Bool.false_eq_true, if_false, Bool.and_true, World.endPending,
          Table.find_remove]

theorem poll_fold_pendings (entries : List (AdapterId × PendingAdapterDeletion)) (polled : Polled)
    (sound : Sound polled.world) (distinct : (entries.map Prod.fst).Nodup)
    (held : ∀ entry ∈ entries, polled.world.store.pendingAdapterDeletions.find entry.1 = some entry.2) :
    (∀ entry ∈ entries, (entries.foldl (pollOne drains) polled).world.store.pendingAdapterDeletions.find entry.1 =
        entry.2.polled (drains entry.1)) ∧
      ∀ other, other ∉ entries.map Prod.fst → (entries.foldl (pollOne drains) polled).world.store.pendingAdapterDeletions.find other =
        polled.world.store.pendingAdapterDeletions.find other := by
  induction entries generalizing polled with
  | nil => exact ⟨nofun, fun _ _ => rfl⟩
  | cons entry rest ih =>
    simp only [List.map_cons, List.nodup_cons] at distinct
    obtain ⟨after, others⟩ := poll_one_sound drains polled sound entry.1 entry.2 (held entry List.mem_cons_self)
    have first := poll_one_pending drains polled sound entry.1 entry.2 (held entry List.mem_cons_self)
    obtain ⟨inside, outside⟩ := ih (pollOne drains polled entry) after distinct.2 (by
      intro other member
      have different : other.1 ≠ entry.1 := fun same => distinct.1 (same ▸ List.mem_map_of_mem member)
      exact (others other.1 different).trans (held other (List.mem_cons_of_mem _ member)))
    refine ⟨?_, ?_⟩
    · intro other member
      rcases List.mem_cons.mp member with rfl | later
      · exact (outside other.1 distinct.1).trans first
      · exact inside other later
    · intro other absent
      rw [List.map_cons, List.mem_cons, not_or] at absent
      exact (outside other absent.2).trans (others other absent.1)

theorem poll_pendings (sound : Sound world) (drains : AdapterId → Drain) (adapter : AdapterId) :
    (world.pollPendingAdapterDeletionsOnce drains).1.store.pendingAdapterDeletions.find adapter =
      (world.store.pendingAdapterDeletions.find adapter).bind fun pending => pending.polled (drains adapter) := by
  obtain ⟨inside, outside⟩ := poll_fold_pendings drains world.store.pendingAdapterDeletions.toList { world := world } sound
    (Table.to_list_distinct _) (fun entry member => (Table.mem_to_list _ _ _).mp member)
  cases held : world.store.pendingAdapterDeletions.find adapter with
  | some pending => exact inside (adapter, pending) ((Table.mem_to_list _ _ _).mpr held)
  | none =>
    refine (outside adapter ?_).trans held
    intro member
    obtain ⟨entry, there, rfl⟩ := List.mem_map.mp member
    rw [(Table.mem_to_list _ _ _).mp there] at held
    cases held

-- The adapter is deleted, and neither an entry nor a lease, a tombstone or a
-- reserved interface is left of it.
structure Cleaned (world : World) (adapter : AdapterId) (interfaceName : String) : Prop where
  destroyed : adapter ∈ world.manager.destroyed
  entries : ∀ handle entry, world.store.adapters.find handle = some entry → entry.adapter ≠ some adapter
  lease : world.store.adapterHandleLeases.find (some adapter) = none
  pending : world.store.pendingAdapterDeletions.find adapter = none
  interface : interfaceName ∉ world.store.pendingAdapterInterfaces

theorem single_open (accounted : Accounted world) (handle : Handle) (entry : AdapterEntry) (adapter : AdapterId)
    (found : world.store.adapters.find handle = some entry) (own : entry.adapter = some adapter)
    (single : world.store.references adapter = 1) (other : Handle) (born : (other, .adapter adapter) ∈ world.births)
    (different : other ≠ handle) : other ∈ world.disposed := by
  by_contra open'
  obtain ⟨second, found', own'⟩ := accounted.kept other adapter born open'
  exact different (references_two world.store handle other entry second adapter found own found' own' single)

theorem cleaned_after (before next : World) (sound : Sound before) (after : Sound next) (handle : Handle) (adapter : AdapterId)
    (managed : Managed) (held : before.manager.objects.find adapter = some managed) (born : (handle, .adapter adapter) ∈ next.births)
    (all : ∀ other, (other, .adapter adapter) ∈ next.births → other ∈ next.disposed)
    (dropped : next.store.pendingAdapterDeletions.find adapter = none)
    (earlier : ∀ other pending, next.store.pendingAdapterDeletions.find other = some pending →
      ∃ was, before.store.pendingAdapterDeletions.find other = some was ∧ was.interfaceName = pending.interfaceName) :
    Cleaned next adapter managed.name := by
  have destroyed : adapter ∈ next.manager.destroyed := by
    rcases disposed_destroyed next after.accounted handle adapter born all with gone | ⟨pending, waits⟩
    · exact gone
    · rw [dropped] at waits
      cases waits
  have entries : ∀ handle entry, next.store.adapters.find handle = some entry → entry.adapter ≠ some adapter := by
    intro handle entry found own
    obtain ⟨object, _, own', -, there, -⟩ := after.accounted.entries handle entry found
    obtain rfl : object = adapter := Option.some.inj (own'.symm.trans own)
    rw [(after.accounted.manager.gone object destroyed).1] at there
    cases there
  refine ⟨destroyed, entries, ?_, dropped, ?_⟩
  · rw [after.accounted.leases, if_pos]
    exact Table.sum_zero _ _ fun handle entry found => if_neg (entries handle entry found)
  · intro reserved
    obtain ⟨other, pending, waits, named⟩ := (after.accounted.interfaces managed.name).mp reserved
    obtain ⟨was, waited, same⟩ := earlier other pending waits
    -- A name stands for one adapter, so the deletion that reserves it is of this adapter.
    obtain ⟨-, -, tomb, found, own, -, tombName⟩ := sound.accounted.pendings other was waited
    obtain ⟨object, object', own', -, there, called, -⟩ := sound.accounted.entries _ tomb found
    obtain rfl : object = other := Option.some.inj (own'.symm.trans own)
    have first := sound.accounted.manager.named adapter managed held
    have second := sound.accounted.manager.named object object' there
    rw [called, tombName, same, named, first, Option.some.injEq] at second
    rw [← second, dropped] at waits
    cases waits

theorem polled_earlier (pending after : PendingAdapterDeletion) (drain : Drain) (polled : pending.polled drain = some after) :
    pending.interfaceName = after.interfaceName := by
  unfold PendingAdapterDeletion.polled at polled
  repeat' split at polled
  all_goals cases polled
  all_goals rfl

theorem poll_cleans (sound : Sound world) (drains : AdapterId → Drain) (adapter : AdapterId) (pending : PendingAdapterDeletion)
    (held : world.store.pendingAdapterDeletions.find adapter = some pending) (done : pending.polled (drains adapter) = none) :
    Cleaned (world.pollPendingAdapterDeletionsOnce drains).1 adapter pending.interfaceName := by
  obtain ⟨-, single, tomb, found, own, invalid, name⟩ := sound.accounted.pendings adapter pending held
  obtain ⟨object, managed, own', born, there, called, stands⟩ := sound.accounted.entries _ tomb found
  obtain rfl : object = adapter := Option.some.inj (own'.symm.trans own)
  rw [← name, ← called]
  refine cleaned_after world _ sound (poll_sound world sound drains) pending.adapterHandle object managed there ?_ ?_ ?_ ?_
  · rw [poll_births]
    exact born
  · intro other birth
    rw [poll_births] at birth
    rw [poll_disposed]
    by_cases same : other = pending.adapterHandle
    · rcases stands with ⟨valid, -⟩ | ⟨-, -, past, -⟩
      · rw [invalid] at valid
        cases valid
      · exact same ▸ past
    · exact single_open world sound.accounted _ tomb object found own single other birth same
  · rw [poll_pendings world sound, held]
    exact done
  · intro other after waits
    rw [poll_pendings world sound] at waits
    obtain ⟨was, waited, polled⟩ := Option.bind_eq_some_iff.mp waits
    exact ⟨was, waited, polled_earlier was after _ polled⟩

structure PollLaw (world : World) (drains : AdapterId → Drain) : Prop where
  pendings : ∀ adapter, (world.pollPendingAdapterDeletionsOnce drains).1.store.pendingAdapterDeletions.find adapter =
    (world.store.pendingAdapterDeletions.find adapter).bind fun pending => pending.polled (drains adapter)
  cleans : ∀ adapter pending, world.store.pendingAdapterDeletions.find adapter = some pending →
    pending.polled (drains adapter) = none →
      Cleaned (world.pollPendingAdapterDeletionsOnce drains).1 adapter pending.interfaceName
  handles : (world.pollPendingAdapterDeletionsOnce drains).1.births = world.births ∧
    (world.pollPendingAdapterDeletionsOnce drains).1.disposed = world.disposed

-- What DisposeAdapter makes of an open handle and of one whose deletion is
-- pending.
structure DisposeLaw (emscripten : Bool) (world : World) (handle : Handle) (drain : Drain) (drains : AdapterId → Drain) : Prop where
  accepted : ∀ entry adapter, world.store.resolveAdapter handle = .success entry → entry.adapter = some adapter →
    ((world.disposeAdapter emscripten handle drain drains).2 = .ok ↔ world.store.motorCreationAdapter ≠ some adapter ∧
      (1 < world.store.references adapter ∨ (emscripten && !drain.drained) = true ∨ drain.accepts = true))
  shared : ∀ entry adapter, world.store.resolveAdapter handle = .success entry → entry.adapter = some adapter →
    (world.disposeAdapter emscripten handle drain drains).2 = .ok → 1 < world.store.references adapter →
      (world.disposeAdapter emscripten handle drain drains).1.manager = world.manager
  deferred : ∀ entry adapter, world.store.resolveAdapter handle = .success entry → entry.adapter = some adapter →
    (world.disposeAdapter emscripten handle drain drains).2 = .ok → world.store.references adapter = 1 →
      (emscripten && !drain.drained) = true →
        (world.disposeAdapter emscripten handle drain drains).1.store.pendingAdapterDeletions.find adapter =
          some { adapterHandle := handle, interfaceName := entry.interfaceName, adapter := adapter }
  last : ∀ entry adapter, world.store.resolveAdapter handle = .success entry → entry.adapter = some adapter →
    (world.disposeAdapter emscripten handle drain drains).2 = .ok → world.store.references adapter = 1 →
      (emscripten && !drain.drained) = false →
        Cleaned (world.disposeAdapter emscripten handle drain drains).1 adapter entry.interfaceName
  handles : (world.disposeAdapter emscripten handle drain drains).1.births = world.births ∧
    (world.disposeAdapter emscripten handle drain drains).1.disposed =
      if (world.disposeAdapter emscripten handle drain drains).2 = .ok then handle :: world.disposed else world.disposed
  again : ∀ adapter pending, world.store.pendingAdapterDeletions.find adapter = some pending → pending.adapterHandle = handle →
    pending.exhausted = true → (drains adapter).drained = true → (drains adapter).accepts = true →
      (world.disposeAdapter emscripten handle drain drains).2 = .ok ∧
        Cleaned (world.disposeAdapter emscripten handle drain drains).1 adapter pending.interfaceName

theorem valid_outcome (sound : Sound world) (handle : Handle) (entry : AdapterEntry) (adapter : AdapterId)
    (drain : Drain) (found : world.store.adapters.find handle = some entry) (open' : entry.valid = true)
    (own : entry.adapter = some adapter) :
    ((world.disposeValid emscripten handle entry drain).2 = .ok ↔ world.store.motorCreationAdapter ≠ some adapter ∧
      (1 < world.store.references adapter ∨ (emscripten && !drain.drained) = true ∨ drain.accepts = true)) ∧
    (1 < world.store.references adapter → (world.disposeValid emscripten handle entry drain).1.manager = world.manager) ∧
    ((world.disposeValid emscripten handle entry drain).2 = .ok → world.store.references adapter = 1 →
      (world.disposeValid emscripten handle entry drain).1.store.pendingAdapterDeletions =
        if emscripten && !drain.drained then world.store.pendingAdapterDeletions.put adapter
          { adapterHandle := handle, interfaceName := entry.interfaceName, adapter := adapter }
        else world.store.pendingAdapterDeletions) := by
  have leases : (world.store.removeChildren handle entry).store.adapterHandleLeases = world.store.adapterHandleLeases := rfl
  have counted := sound.accounted.leases adapter
  obtain ⟨object, managed, own', -, held, -⟩ := sound.accounted.entries handle entry found
  obtain rfl : object = adapter := Option.some.inj (own'.symm.trans own)
  have some' : 0 < world.store.references object := by
    have shared := Table.share_le_sum world.store.adapters (holds object) handle
    rw [Table.share_found _ _ handle entry found, holds_own object handle entry own] at shared
    exact shared
  rw [if_neg (by omega)] at counted
  unfold World.disposeValid
  by_cases busy : world.store.motorCreationAdapter = some object
  · simp only [own, busy, if_true]
    exact ⟨⟨(fun same => by cases same), fun free => absurd rfl free.1⟩, fun _ => trivial, (fun same => by cases same)⟩
  · simp only [own, busy, if_false, leases, counted]
    rcases many : world.store.references object with _ | _ | count
    · omega
    · rw [many] at counted
      have free := open_not_pending world sound.accounted handle entry object found own open' many
      have begins := deletion_begins world.store handle entry object own counted free
      have destroyed : (world.manager.destroyAdapter object true).2 = true := by
        simp [Manager.destroyAdapter, held]
      simp only [World.disposeLast, begins, ne_eq]
      cases emscripten && !drain.drained with
      | true =>
        simp only [if_true]
        exact ⟨⟨fun _ => ⟨busy, .inr (.inl trivial)⟩, fun _ => trivial⟩, by omega, fun _ _ => trivial⟩
      | false =>
        cases drain.accepts with
        | true =>
          simp only [destroyed, Bool.false_eq_true, if_true, if_false]
          exact ⟨⟨fun _ => ⟨busy, .inr (.inr trivial)⟩, fun _ => trivial⟩, by omega, fun _ _ => rfl⟩
        | false =>
          simp only [destroy_refused, Bool.false_eq_true, if_false]
          refine ⟨⟨(fun same => by cases same), ?_⟩, by omega, (fun same => by cases same)⟩
          rintro ⟨-, more | other | other⟩
          · omega
          · cases other
          · cases other
    · refine ⟨⟨fun _ => ⟨busy, .inl (by omega)⟩, fun _ => rfl⟩, fun _ => rfl, fun _ single => by omega⟩

theorem dispose_handles (handle : Handle) (drain : Drain) (drains : AdapterId → Drain) :
    (world.dispose emscripten handle drain drains).1.births = world.births ∧
      (world.dispose emscripten handle drain drains).1.disposed = world.disposed := by
  have last (entry : AdapterEntry) (adapter : AdapterId) (removed : Removed) :
      (world.disposeLast emscripten handle entry adapter removed drain).1.births = world.births ∧
        (world.disposeLast emscripten handle entry adapter removed drain).1.disposed = world.disposed := by
    unfold World.disposeLast
    split
    · split <;> exact ⟨rfl, rfl⟩
    · dsimp only
      split <;> exact ⟨rfl, rfl⟩
  have valid (entry : AdapterEntry) : (world.disposeValid emscripten handle entry drain).1.births = world.births ∧
      (world.disposeValid emscripten handle entry drain).1.disposed = world.disposed := by
    unfold World.disposeValid
    split
    · exact ⟨rfl, rfl⟩
    · dsimp only
      split
      · exact last entry _ _
      all_goals exact ⟨rfl, rfl⟩
  have pending (entry : AdapterEntry) : (world.disposePending handle entry drains).1.births = world.births ∧
      (world.disposePending handle entry drains).1.disposed = world.disposed := by
    unfold World.disposePending
    repeat' split
    all_goals first | exact ⟨rfl, rfl⟩ | exact ⟨poll_births _ drains, poll_disposed _ drains⟩
  unfold World.dispose
  split
  · exact ⟨rfl, rfl⟩
  · split
    · exact pending _
    · split
      · exact ⟨rfl, rfl⟩
      · exact valid _

theorem dispose_law (sound : Sound world) (handle : Handle) (drain : Drain) (drains : AdapterId → Drain) :
    DisposeLaw emscripten world handle drain drains := by
  have opened (entry : AdapterEntry) (resolved : world.store.resolveAdapter handle = .success entry) :
      world.disposeAdapter emscripten handle drain drains =
        if (world.disposeValid emscripten handle entry drain).2 = .ok then
          ({ (world.disposeValid emscripten handle entry drain).1 with
              disposed := handle :: (world.disposeValid emscripten handle entry drain).1.disposed }, .ok)
        else world.disposeValid emscripten handle entry drain := by
    obtain ⟨found, valid⟩ := (resolve_adapter_success _ _ _).mp resolved
    obtain ⟨_, _, -, -, -, -, stands⟩ := sound.accounted.entries handle entry found
    have quiet : entry.disposing = false := by
      rcases stands with ⟨-, quiet, -⟩ | ⟨invalid, -⟩
      · exact quiet
      · rw [invalid] at valid
        cases valid
    simp only [World.disposeAdapter, World.dispose, found, valid, quiet, Bool.not_true, Bool.false_and, Bool.false_or,
      Bool.false_eq_true, if_false]
  have outcome (entry : AdapterEntry) (adapter : AdapterId) (resolved : world.store.resolveAdapter handle = .success entry)
      (own : entry.adapter = some adapter) := valid_outcome world emscripten sound handle entry adapter drain
    ((resolve_adapter_success _ _ _).mp resolved).1 ((resolve_adapter_success _ _ _).mp resolved).2 own
  have code (entry : AdapterEntry) (resolved : world.store.resolveAdapter handle = .success entry) :
      (world.disposeAdapter emscripten handle drain drains).2 = .ok ↔ (world.disposeValid emscripten handle entry drain).2 = .ok := by
    rw [opened entry resolved]
    split
    · next done => exact ⟨fun _ => done, fun _ => rfl⟩
    · exact Iff.rfl
  refine ⟨?_, ?_, ?_, ?_, ?_, ?_⟩
  · intro entry adapter resolved own
    exact (code entry resolved).trans (outcome entry adapter resolved own).1
  · intro entry adapter resolved own done more
    have same := (outcome entry adapter resolved own).2.1 more
    rw [opened entry resolved, if_pos ((code entry resolved).mp done)]
    exact same
  · intro entry adapter resolved own done single waits
    have pendings := (outcome entry adapter resolved own).2.2 ((code entry resolved).mp done) single
    rw [opened entry resolved, if_pos ((code entry resolved).mp done)]
    rw [if_pos waits] at pendings
    exact (congrArg (fun table => table.find adapter) pendings).trans (Table.put_same _ _ _)
  · intro entry adapter resolved own done single ready
    obtain ⟨found, valid⟩ := (resolve_adapter_success _ _ _).mp resolved
    have pendings := (outcome entry adapter resolved own).2.2 ((code entry resolved).mp done) single
    rw [if_neg (by simp [ready])] at pendings
    obtain ⟨object, managed, own', born, held, called, stands⟩ := sound.accounted.entries handle entry found
    obtain rfl : object = adapter := Option.some.inj (own'.symm.trans own)
    have quiet : entry.disposing = false := by
      rcases stands with ⟨-, quiet, -⟩ | ⟨invalid, -⟩
      · exact quiet
      · rw [invalid] at valid
        cases valid
    rcases valid_ends emscripten world sound handle entry drain found valid quiet with ⟨failed, -⟩ | ⟨-, after, -, births, -⟩
    · exact absurd ((code entry resolved).mp done) failed
    have free := open_not_pending world sound.accounted handle entry object found own valid single
    have cleaned := cleaned_after world _ sound after handle object managed held (births ▸ born) (by
        intro other birth
        by_cases same : other = handle
        · exact same ▸ List.mem_cons_self
        · refine List.mem_cons_of_mem _ (single_open world sound.accounted handle entry object found own single other ?_ same)
          exact births ▸ birth)
      ((congrArg (fun table => table.find object) pendings).trans free)
      (fun other pending waits => ⟨pending, (congrArg (fun table => table.find other) pendings).symm.trans waits, rfl⟩)
    rw [opened entry resolved, if_pos ((code entry resolved).mp done), ← called]
    exact ⟨cleaned.destroyed, cleaned.entries, cleaned.lease, cleaned.pending, cleaned.interface⟩
  · obtain ⟨births, disposed⟩ := dispose_handles world emscripten handle drain drains
    unfold World.disposeAdapter
    dsimp only
    by_cases done : (world.dispose emscripten handle drain drains).2 = .ok
    · simp only [done, if_true]
      exact ⟨births, by rw [disposed]⟩
    · simp only [done, if_false]
      exact ⟨births, disposed⟩
  · rintro adapter pending held rfl tired drained accepts
    obtain ⟨samePending, -, tomb, found, own, invalid, -⟩ := sound.accounted.pendings adapter pending held
    obtain ⟨_, _, -, -, -, -, stands⟩ := sound.accounted.entries _ tomb found
    have disposing : tomb.disposing = true := by
      rcases stands with ⟨valid, -⟩ | ⟨-, disposing, -⟩
      · rw [invalid] at valid
        cases valid
      · exact disposing
    let again : PendingAdapterDeletion := { pending with exhausted := false, retryCount := 0, retryDelayMs := 1 }
    have restarted := retry_sound world sound adapter pending again held ⟨rfl, rfl, rfl⟩
    have cleaned := poll_cleans _ restarted drains adapter again (Table.put_same _ _ _) (by
      simp [PendingAdapterDeletion.polled, again, drained, accepts])
    simp only [World.disposeAdapter, World.dispose, World.disposePending, found, invalid, disposing, own, held, tired, Bool.not_false,
      Bool.and_true, Bool.not_true, if_true, ne_eq, not_true_eq_false, Bool.false_eq_true, if_false]
    exact ⟨trivial, cleaned.destroyed, cleaned.entries, cleaned.lease, cleaned.pending, cleaned.interface⟩

theorem poll_law (sound : Sound world) (drains : AdapterId → Drain) : PollLaw world drains :=
  ⟨poll_pendings world sound drains, poll_cleans world sound drains, poll_births world drains, poll_disposed world drains⟩

end EncosDriver.Wasm
