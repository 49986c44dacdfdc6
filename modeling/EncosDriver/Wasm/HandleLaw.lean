import EncosDriver.Wasm.Deletions

set_option autoImplicit false

namespace EncosDriver.Wasm

open Lib

variable (world : World)

theorem resolves_same (store next : Store) (same : store.Same next) (handle : Handle) :
    next.resolveAdapter handle = store.resolveAdapter handle ∧ next.resolveBus handle = store.resolveBus handle ∧
      ∀ kind, next.resolveDevice kind handle = store.resolveDevice kind handle := by
  have adapters : ∀ handle, next.resolveAdapter handle = store.resolveAdapter handle := by
    intro handle
    simp only [Store.resolveAdapter, same.adapters]
  have buses : ∀ handle, next.resolveBus handle = store.resolveBus handle := by
    intro handle
    simp only [Store.resolveBus, same.buses, adapters]
  refine ⟨adapters handle, buses handle, fun kind => ?_⟩
  simp only [Store.resolveDevice, same.devices, buses]

def World.AdapterAlive (world : World) (handle : Handle) : Prop :=
  (∃ adapter, (handle, .adapter adapter) ∈ world.births) ∧ handle ∉ world.disposed

def World.BusAlive (world : World) (handle : Handle) : Prop :=
  ∃ parent, (handle, .bus parent) ∈ world.births ∧ world.AdapterAlive parent

def World.DeviceAlive (world : World) (kind : DeviceKind) (handle : Handle) : Prop :=
  ∃ bus, (handle, .device kind bus) ∈ world.births ∧ world.BusAlive bus

theorem adapter_resolves (accounted : Accounted world) (handle : Handle) :
    (∃ entry, world.store.resolveAdapter handle = .success entry) ↔ world.AdapterAlive handle := by
  constructor
  · rintro ⟨entry, resolved⟩
    obtain ⟨found, valid⟩ := (resolve_adapter_success _ _ _).mp resolved
    obtain ⟨adapter, managed, -, born, -, -, stands⟩ := accounted.entries handle entry found
    rcases stands with ⟨-, -, open'⟩ | ⟨invalid, -⟩
    · exact ⟨⟨adapter, born⟩, open'⟩
    · rw [invalid] at valid
      cases valid
  · rintro ⟨⟨adapter, born⟩, open'⟩
    obtain ⟨entry, found, -⟩ := accounted.kept handle adapter born open'
    obtain ⟨object, managed, -, -, -, -, stands⟩ := accounted.entries handle entry found
    rcases stands with ⟨valid, -⟩ | ⟨-, -, past, -⟩
    · exact ⟨entry, (resolve_adapter_success _ _ _).mpr ⟨found, valid⟩⟩
    · exact absurd past open'

theorem bus_resolves (sound : Sound world) (handle : Handle) :
    (∃ entry, world.store.resolveBus handle = .success entry) ↔ world.BusAlive handle := by
  constructor
  · rintro ⟨entry, resolved⟩
    obtain ⟨found, -, resolved'⟩ := (resolve_bus_success _ _ _).mp resolved
    obtain ⟨-, born, -⟩ := sound.family.buses handle entry found
    exact ⟨entry.adapterHandle, born, (adapter_resolves world sound.accounted _).mp resolved'⟩
  · rintro ⟨parent, born, alive⟩
    obtain ⟨-, there⟩ := sound.family.busKept handle parent born
    obtain ⟨bus, found, same⟩ := there alive.2
    obtain ⟨valid, -⟩ := sound.family.buses handle bus found
    have resolved := (adapter_resolves world sound.accounted parent).mpr alive
    exact ⟨bus, (resolve_bus_success _ _ _).mpr ⟨found, valid, same ▸ resolved⟩⟩

theorem device_resolves (sound : Sound world) (kind : DeviceKind) (handle : Handle) :
    (∃ entry, world.store.resolveDevice kind handle = .success entry) ↔ world.DeviceAlive kind handle := by
  constructor
  · rintro ⟨entry, resolved⟩
    obtain ⟨found, -, resolved'⟩ := (resolve_device_success _ _ _ _).mp resolved
    obtain ⟨-, born, -⟩ := sound.family.devices kind handle entry found
    exact ⟨entry.busHandle, born, (bus_resolves world sound _).mp resolved'⟩
  · rintro ⟨bus, born, alive⟩
    obtain ⟨parent, at', there⟩ := sound.family.deviceKept kind handle bus born
    have open' : parent ∉ world.disposed := by
      obtain ⟨parent', at'', alive'⟩ := alive
      have same := Birth.bus.inj (births_unique world sound.accounted bus _ _ at' at'')
      rw [same]
      exact alive'.2
    obtain ⟨device, found, same⟩ := there open'
    obtain ⟨valid, -⟩ := sound.family.devices kind handle device found
    have resolved := (bus_resolves world sound bus).mpr alive
    exact ⟨device, (resolve_device_success _ _ _ _).mpr ⟨found, valid, same ▸ resolved⟩⟩

/-- In every run the tables are consistent, a handle resolves exactly as long as it is alive, and the next call or poll
gives out, closes and deletes what it answers. -/
theorem handle_store_law (emscripten : Bool) (world : World) (reached : Reachable (system emscripten) world) :
    (∀ adapter, (world.store.adapterHandleLeases.find (some adapter)).getD 0 = world.store.references adapter) ∧
      (world.manager.destroyed.Nodup ∧
        (∀ handle entry, world.store.resolveAdapter handle = .success entry →
          ∃ adapter, entry.adapter = some adapter ∧ adapter ∉ world.manager.destroyed) ∧
        (∀ handle adapter, (handle, .adapter adapter) ∈ world.births → adapter ∈ world.manager.destroyed →
          handle ∈ world.disposed) ∧
        ∀ handle adapter, (handle, .adapter adapter) ∈ world.births →
          (∀ other, (other, .adapter adapter) ∈ world.births → other ∈ world.disposed) →
            adapter ∈ world.manager.destroyed ∨
              ∃ pending, world.store.pendingAdapterDeletions.find adapter = some pending) ∧
      (∀ handle,
        ((∃ entry, world.store.resolveAdapter handle = .success entry) ↔ world.AdapterAlive handle) ∧
          ((∃ entry, world.store.resolveBus handle = .success entry) ↔ world.BusAlive handle) ∧
          ∀ kind, (∃ entry, world.store.resolve kind handle = .success entry) ↔ world.DeviceAlive kind handle) ∧
      (∀ handle drain drains, (world.disposeAdapter emscripten handle drain drains).2 ≠ .ok → ∀ other,
        (world.disposeAdapter emscripten handle drain drains).1.store.resolveAdapter other =
            world.store.resolveAdapter other ∧
          (world.disposeAdapter emscripten handle drain drains).1.store.resolveBus other = world.store.resolveBus other ∧
          ∀ kind, (world.disposeAdapter emscripten handle drain drains).1.store.resolve kind other =
            world.store.resolve kind other) ∧
      (world.births.map Prod.fst).Nodup ∧
      (∀ name, name ∈ world.store.pendingAdapterInterfaces ↔
        ∃ adapter pending, world.store.pendingAdapterDeletions.find adapter = some pending ∧
          pending.interfaceName = name) ∧
      CallsLaw world ∧ (∀ handle drain drains, DisposeLaw emscripten world handle drain drains) ∧
      ∀ drains, PollLaw world drains := by
  have sound := reachable_sound emscripten world reached
  have accounted := sound.accounted
  refine ⟨?_, ⟨accounted.manager.once, ?_, ?_, ?_⟩, ?_, ?_, accounted.distinct, accounted.interfaces,
    calls_law world sound (reachable_indexed emscripten world reached), dispose_law world emscripten sound, poll_law world sound⟩
  · intro adapter
    rw [accounted.leases]
    split
    · rename_i none'
      rw [none']
      rfl
    · rfl
  · intro handle entry resolved
    obtain ⟨found, -⟩ := (resolve_adapter_success _ _ _).mp resolved
    obtain ⟨adapter, managed, own, -, held, -⟩ := accounted.entries handle entry found
    refine ⟨adapter, own, fun gone => ?_⟩
    rw [(accounted.manager.gone adapter gone).1] at held
    cases held
  · exact destroyed_disposed world accounted
  · exact disposed_destroyed world accounted
  · exact fun handle =>
      ⟨adapter_resolves world accounted handle, bus_resolves world sound handle, fun kind =>
        resolve_device world.store kind handle ▸ device_resolves world sound kind handle⟩
  · intro handle drain drains failed other
    rcases dispose_cases emscripten world sound handle drain drains with ⟨-, store, same, kept⟩ | ⟨done, -⟩
    · rw [same]
      obtain ⟨adapter, bus, device⟩ := resolves_same world.store store kept other
      exact ⟨adapter, bus, fun kind => by rw [resolve_device, resolve_device, device kind]⟩
    · exact absurd done failed

-- Two handles of one fake adapter, a motor of the first, and the disposal of
-- both; the second one has to wait.
def sharedRun : List Action :=
  [.createFakeAdapter "fake" (.made true), .createFakeAdapter "fake" (.made true), .getBus 1 (-1) 0 (.made (0, 7)),
    .getMotorWithModel 3 1, .finishMotor (.made 8), .disposeAdapter 1 ⟨true, true⟩ fun _ => ⟨true, true⟩,
    .disposeAdapter 2 ⟨false, true⟩ fun _ => ⟨true, true⟩]

theorem handle_store_law_shared :
    ∃ world, Reachable (system true) world ∧ world.births = [(1, .adapter 0), (2, .adapter 0), (3, .bus 1), (4, .device .motor 3)] ∧
      world.disposed = [2, 1] ∧ (¬ ∃ entry, world.store.resolveAdapter 2 = .success entry) ∧
      ∃ pending, world.store.pendingAdapterDeletions.find 0 = some pending ∧
        Cleaned (world.pollPendingAdapterDeletionsOnce fun _ => ⟨true, true⟩).1 0 pending.interfaceName := by
  have checked : (runActions (system true) {} sharedRun).any (fun world =>
      decide (world.births = [(1, .adapter 0), (2, .adapter 0), (3, .bus 1), (4, .device .motor 3)]) &&
        decide (world.disposed = [2, 1]) &&
          (world.store.pendingAdapterDeletions.find 0).any fun pending => !pending.exhausted) = true := by
    decide +kernel
  obtain ⟨world, reached, facts⟩ := run_actions_found (system true) sharedRun {} (.start _ rfl) _ checked
  simp only [Bool.and_eq_true, decide_eq_true_eq] at facts
  obtain ⟨⟨births, disposed⟩, waiting⟩ := facts
  obtain ⟨pending, held, tried⟩ := (Option.any_eq_true _ _).mp waiting
  have law := handle_store_law true world reached
  refine ⟨world, reached, births, disposed, ?_, pending, held, ?_⟩
  · intro resolved
    have alive := (law.2.2.1 2).1.mp resolved
    exact alive.2 (by simp [disposed])
  · refine (law.2.2.2.2.2.2.2.2 _).cleans 0 pending held ?_
    have untired : pending.exhausted = false := by simpa using tried
    simp [PendingAdapterDeletion.polled, untired]

end EncosDriver.Wasm
