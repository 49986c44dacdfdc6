import EncosDriver.Lib.Bytes
import EncosDriver.Lib.Regions

set_option autoImplicit false

namespace EncosDriver.Ethercat.Watchdog

open Lib

def kWatchdogDividerRegister : Nat := 0x0400
def kWatchdogTimeRegister : Nat := 0x0420
def kSmWatchdogTrigger : UInt8 := 0x40
def kSyncManagers : Nat := 8

structure SyncManager where
  type : UInt8
  length : UInt16
  startAddr : UInt16
deriving DecidableEq

structure SlaveInfo where
  outputBits : UInt16
  outputBytes : UInt32
  managers : Nat → SyncManager

def SlaveInfo.inputOnly (info : SlaveInfo) : Bool := info.outputBits = 0 && info.outputBytes = 0

def SlaveInfo.mapped (info : SlaveInfo) : List Nat :=
  (List.range kSyncManagers).filter fun sm =>
    (info.managers sm).type = 3 && (info.managers sm).length ≠ 0 && (info.managers sm).startAddr ≠ 0

inductive Event where
  | read (slave address : Nat) (answered : Bool)
  | write (slave address : Nat) (answered : Bool)
  | compare (slave address : Nat) (same : Bool)
deriving DecidableEq

def Event.clean : Event → Bool
  | .read _ _ answered => answered
  | .write _ _ answered => answered
  | .compare _ _ same => same

-- The registers of the slaves, the handle's own records about them, and a
-- history of the line that nothing reads.
structure World where
  registers : Nat → Nat → UInt8
  smFlags : Nat → Nat → UInt32
  restoring : Nat → Bool
  operations : Nat
  events : List Event

-- How the line treats each operation: whether the call is answered, and for a
-- write which bytes the slave stores in place of those it is given. An
-- unanswered write may be stored all the same.
structure Line where
  answers : Nat → Bool
  replaces : Nat → Nat → Option UInt8

abbrev Run := StateT World (Except World)

section Operations

variable (line : Line) (slave : Nat)

def readRegister (address size : Nat) : Run (List UInt8) := fun world =>
  let next := { world with
    operations := world.operations + 1
    events := world.events ++ [.read slave address (line.answers world.operations)] }
  if line.answers world.operations then .ok (Regions.load (world.registers slave) address size, next) else .error next

def issueWrite (address : Nat) (value : List UInt8) : Run Unit := fun world =>
  let stored := value.mapIdx fun index byte => (line.replaces world.operations index).getD byte
  let next := { world with
    registers := Function.update world.registers slave (Regions.store (world.registers slave) address stored)
    operations := world.operations + 1
    events := world.events ++ [.write slave address (line.answers world.operations)] }
  if line.answers world.operations then .ok ((), next) else .error next

def compareReadback (address : Nat) (same : Bool) : Run Unit := fun world =>
  let next := { world with events := world.events ++ [.compare slave address same] }
  if same then .ok ((), next) else .error next

def writeRegister (address : Nat) (value : List UInt8) : Run Unit := do
  issueWrite line slave address value
  let actual ← readRegister line slave address value.length
  compareReadback slave address (actual = value)

def smBase (sm : Nat) : Nat := 0x0800 + sm * 8

def enableTrigger (sm : Nat) (control activation : UInt8) : Run Unit := do
  writeRegister line slave (smBase sm + 6) [activation &&& ~~~1]
  writeRegister line slave (smBase sm + 4) [control ||| kSmWatchdogTrigger]
  writeRegister line slave (smBase sm + 6) [activation]

def ensureTrigger (sm : Nat) (control activation : UInt8) : Run Unit :=
  if control &&& kSmWatchdogTrigger = 0 then enableTrigger line slave sm control activation else pure ()

def recordFlags (sm : Nat) : Run Unit := fun world =>
  let flags := Function.update (world.smFlags slave) sm (world.smFlags slave sm ||| kSmWatchdogTrigger.toUInt32)
  .ok ((), { world with smFlags := Function.update world.smFlags slave flags })

def configureManager (sm : Nat) : Run Unit := do
  let control ← readRegister line slave (smBase sm + 4) 1
  let activation ← readRegister line slave (smBase sm + 6) 1
  ensureTrigger line slave sm (control.headD 0) (activation.headD 0)
  recordFlags slave sm

def configureManagers : List Nat → Run Unit
  | [] => pure ()
  | sm :: rest => do
      configureManager line slave sm
      configureManagers rest

end Operations

def le16 (bytes : List UInt8) : Nat := (bytes.getD 0 0).toNat + 256 * (bytes.getD 1 0).toNat

def watchdogCount (timeoutMs : UInt32) (divider : Nat) : Nat := (timeoutMs.toNat * 25000 + (divider + 2) - 1) / (divider + 2)

def refuse {Value : Type} : Run Value := fun world => .error world

def recordRestore (slave : Nat) : Run Unit := fun world =>
  .ok ((), { world with restoring := Function.update world.restoring slave true })

def configureSlave (line : Line) (timeoutMs : UInt32) (slave : Nat) (info : SlaveInfo) : Run Unit :=
  if info.inputOnly then pure ()
  else do
    let divider ← readRegister line slave kWatchdogDividerRegister 2
    let count := watchdogCount timeoutMs (le16 divider)
    if count = 0 ∨ count > 0xFFFF then refuse
    else do
      writeRegister line slave kWatchdogTimeRegister [UInt8.ofNat (count % 256), UInt8.ofNat (count / 256)]
      configureManagers line slave info.mapped
      if info.mapped = [] then refuse else recordRestore slave

def configureSlaves (line : Line) (timeoutMs : UInt32) (slavelist : Nat → SlaveInfo) : List Nat → Run Unit
  | [] => pure ()
  | slave :: rest => do
      configureSlave line timeoutMs slave (slavelist slave)
      configureSlaves line timeoutMs slavelist rest

def slavesOf (slavecount onlySlave : Nat) : List Nat := if onlySlave = 0 then List.range' 1 slavecount else [onlySlave]

def configureWatchdogs (line : Line) (timeoutMs : UInt32) (slavelist : Nat → SlaveInfo) (slavecount onlySlave : Nat) (world : World) :
    Bool × World :=
  match configureSlaves line timeoutMs slavelist (slavesOf slavecount onlySlave) world with
  | .ok (_, after) => (true, after)
  | .error after => (false, after)

def restoreWatchdog (line : Line) (timeoutMs : UInt32) (slavelist : Nat → SlaveInfo) (slavecount slave : Nat) (world : World) :
    Nat × Bool × World :=
  match configureWatchdogs line timeoutMs slavelist slavecount slave world with
  | (true, after) => (1, false, after)
  | (false, after) => (0, true, after)

theorem run_bind {First Second : Type} (first : Run First) (next : First → Run Second) (before after : World) (result : Second)
    (ran : (first >>= next) before = .ok (result, after)) :
    ∃ value middle, first before = .ok (value, middle) ∧ next value middle = .ok (result, after) := by
  obtain ⟨⟨value, middle⟩, began, ended⟩ := (bind_ok (first before) (fun pair => next pair.1 pair.2) (result, after)).mp ran
  exact ⟨value, middle, began, ended⟩

-- What a successful piece of the run did: the registers of one slave are what
-- they should be, all others are as before, and on the line everything went well
-- and no byte of a divider was written.
structure Did (slave : Nat) (memory : Nat → UInt8) (before after : World) : Prop where
  registers : after.registers = Function.update before.registers slave memory
  events : ∃ added, after.events = before.events ++ added ∧ ∀ event ∈ added, event.clean = true ∧
    ∀ other address answered, event = .write other address answered → other = slave ∧ kWatchdogDividerRegister + 2 ≤ address

namespace Did

variable {slave : Nat} {memory later : Nat → UInt8} {before middle after : World}

theorem memory_after (did : Did slave memory before after) : after.registers slave = memory := by
  rw [did.registers, Function.update_self]

theorem trans (first : Did slave memory before middle) (second : Did slave later middle after) : Did slave later before after := by
  obtain ⟨added, grown, fine⟩ := first.events
  obtain ⟨more, again, alsoFine⟩ := second.events
  refine ⟨?_, added ++ more, ?_, ?_⟩
  · rw [second.registers, first.registers, Function.update_idem]
  · rw [again, grown, List.append_assoc]
  · intro event inside
    rcases List.mem_append.mp inside with early | late
    · exact fine event early
    · exact alsoFine event late

end Did

theorem did_nothing (slave : Nat) (world : World) : Did slave (world.registers slave) world world :=
  ⟨(Function.update_eq_self _ _).symm, [], (List.append_nil _).symm, nofun⟩

section Pieces

variable (line : Line) (slave : Nat) (before after : World)

theorem read_did (address size : Nat) (value : List UInt8) (ran : readRegister line slave address size before = .ok (value, after)) :
    value = Regions.load (before.registers slave) address size ∧ Did slave (before.registers slave) before after := by
  simp only [readRegister] at ran
  split at ran
  · rename_i answered
    cases ran
    refine ⟨rfl, (Function.update_eq_self _ _).symm, [_], rfl, ?_⟩
    intro event inside
    rw [List.mem_singleton.mp inside]
    exact ⟨answered, nofun⟩
  · cases ran

def storedBytes (operation : Nat) (value : List UInt8) : List UInt8 :=
  value.mapIdx fun index byte => (line.replaces operation index).getD byte

theorem issue_did (address : Nat) (value : List UInt8) (behind : kWatchdogDividerRegister + 2 ≤ address)
    (ran : issueWrite line slave address value before = .ok ((), after)) :
    Did slave (Regions.store (before.registers slave) address (storedBytes line before.operations value)) before after := by
  simp only [issueWrite] at ran
  split at ran
  · rename_i answered
    cases ran
    refine ⟨rfl, [_], rfl, ?_⟩
    intro event inside
    rw [List.mem_singleton.mp inside]
    refine ⟨answered, ?_⟩
    rintro other there _ same
    cases same
    exact ⟨rfl, behind⟩
  · cases ran

theorem compare_did (address : Nat) (same : Bool) (ran : compareReadback slave address same before = .ok ((), after)) :
    same = true ∧ Did slave (before.registers slave) before after := by
  simp only [compareReadback] at ran
  split at ran
  · rename_i equal
    cases ran
    refine ⟨equal, (Function.update_eq_self _ _).symm, [_], rfl, ?_⟩
    intro event inside
    rw [List.mem_singleton.mp inside]
    exact ⟨equal, nofun⟩
  · cases ran

theorem write_did (address : Nat) (value : List UInt8) (behind : kWatchdogDividerRegister + 2 ≤ address)
    (ran : writeRegister line slave address value before = .ok ((), after)) :
    Did slave (Regions.store (before.registers slave) address value) before after := by
  obtain ⟨_, issued, wrote, ran⟩ := run_bind _ _ _ _ _ ran
  obtain ⟨actual, reread, readBack, compared⟩ := run_bind _ _ _ _ _ ran
  have one := issue_did line slave before issued address value behind wrote
  obtain ⟨rfl, two⟩ := read_did line slave issued reread address value.length actual readBack
  obtain ⟨same, three⟩ := compare_did slave reread after address _ compared
  have held := of_decide_eq_true same
  have size : (storedBytes line before.operations value).length = value.length := List.length_mapIdx
  have stored := Regions.load_store_same (before.registers slave) address (storedBytes line before.operations value)
  rw [one.memory_after] at held two
  rw [two.memory_after] at three
  rw [size, held] at stored
  rw [← stored] at one two three
  exact (one.trans two).trans three

def triggered (memory : Nat → UInt8) (sm : Nat) : Nat → UInt8 := fun address =>
  if address = smBase sm + 4 then memory address ||| kSmWatchdogTrigger else memory address

theorem trigger_on (control : UInt8) (on : control &&& kSmWatchdogTrigger ≠ 0) : control ||| kSmWatchdogTrigger = control := by
  have every : ∀ value : Fin 256, UInt8.ofNat value.val &&& kSmWatchdogTrigger ≠ 0 →
      UInt8.ofNat value.val ||| kSmWatchdogTrigger = UInt8.ofNat value.val := by decide +kernel
  have value := every ⟨control.toNat, control.toNat_lt⟩
  simp only [UInt8.ofNat_toNat] at value
  exact value on

theorem store_byte (memory : Nat → UInt8) (address : Nat) (byte : UInt8) :
    Regions.store memory address [byte] = Function.update memory address byte := by
  funext other
  rw [Regions.store, Function.update_apply]
  by_cases same : other = address
  · subst same
    simp
  · rw [if_neg same]
    by_cases behind : address ≤ other
    · have past : ([byte])[other - address]? = none := List.getElem?_eq_none (by simp; omega)
      rw [if_pos behind, past, Option.getD_none]
    · rw [if_neg behind]

theorem enable_did (sm : Nat) (control activation : UInt8) (held : control = before.registers slave (smBase sm + 4))
    (active : activation = before.registers slave (smBase sm + 6)) (ran : enableTrigger line slave sm control activation before = .ok ((), after)) :
    Did slave (triggered (before.registers slave) sm) before after := by
  obtain ⟨_, off, one, ran⟩ := run_bind _ _ _ _ _ ran
  obtain ⟨_, set, two, three⟩ := run_bind _ _ _ _ _ ran
  have switched := write_did line slave before off (smBase sm + 6) _ (by simp [smBase, kWatchdogDividerRegister]; omega) one
  have written := write_did line slave off set (smBase sm + 4) _ (by simp [smBase, kWatchdogDividerRegister]; omega) two
  have restored := write_did line slave set after (smBase sm + 6) _ (by simp [smBase, kWatchdogDividerRegister]; omega) three
  have all := (switched.trans written).trans restored
  rw [written.memory_after, switched.memory_after, store_byte, store_byte, store_byte] at all
  have same : Function.update (Function.update (Function.update (before.registers slave) (smBase sm + 6) (activation &&& ~~~1))
      (smBase sm + 4) (control ||| kSmWatchdogTrigger)) (smBase sm + 6) activation = triggered (before.registers slave) sm := by
    funext address
    rw [triggered, Function.update_apply, Function.update_apply, Function.update_apply]
    by_cases atActivation : address = smBase sm + 6
    · subst atActivation
      simp [active]
    · by_cases atControl : address = smBase sm + 4
      · subst atControl
        simp [held]
      · simp [atActivation, atControl]
  rw [same] at all
  exact all

theorem ensure_did (sm : Nat) (control activation : UInt8) (held : control = before.registers slave (smBase sm + 4))
    (active : activation = before.registers slave (smBase sm + 6)) (ran : ensureTrigger line slave sm control activation before = .ok ((), after)) :
    Did slave (triggered (before.registers slave) sm) before after := by
  rw [ensureTrigger] at ran
  split at ran
  · exact enable_did line slave before after sm control activation held active ran
  · rename_i on
    have same : triggered (before.registers slave) sm = before.registers slave := by
      funext address
      rw [triggered]
      split
      · rename_i here
        rw [here, ← held]
        exact trigger_on control on
      · rfl
    cases ran
    rw [same]
    exact did_nothing slave before

theorem record_did (sm : Nat) (ran : recordFlags slave sm before = .ok ((), after)) : Did slave (before.registers slave) before after := by
  cases ran
  exact ⟨(Function.update_eq_self _ _).symm, [], (List.append_nil _).symm, nofun⟩

theorem manager_did (sm : Nat) (ran : configureManager line slave sm before = .ok ((), after)) :
    Did slave (triggered (before.registers slave) sm) before after := by
  obtain ⟨control, first, readControl, ran⟩ := run_bind _ _ _ _ _ ran
  obtain ⟨activation, second, readActivation, ran⟩ := run_bind _ _ _ _ _ ran
  obtain ⟨_, third, enabled, recorded⟩ := run_bind _ _ _ _ _ ran
  obtain ⟨rfl, one⟩ := read_did line slave _ _ _ _ _ readControl
  obtain ⟨rfl, two⟩ := read_did line slave _ _ _ _ _ readActivation
  have both := one.trans two
  rw [one.memory_after] at both enabled
  have three := ensure_did line slave second third sm _ _ (by rw [both.memory_after]; rfl) (by rw [both.memory_after]; rfl) enabled
  have four := record_did slave third after sm recorded
  have all := (both.trans three).trans four
  rw [three.memory_after, both.memory_after] at all
  exact all

theorem managers_did (sms : List Nat) (ran : configureManagers line slave sms before = .ok ((), after)) :
    Did slave (sms.foldl triggered (before.registers slave)) before after := by
  induction sms generalizing before with
  | nil =>
    cases ran
    exact did_nothing slave _
  | cons sm rest ih =>
    obtain ⟨_, middle, one, others⟩ := run_bind _ _ _ _ _ ran
    have first := manager_did line slave before middle sm one
    have second := ih middle others
    rw [first.memory_after] at second
    exact first.trans second

end Pieces

structure Guarded (timeoutMs : UInt32) (info : SlaveInfo) (before after : Nat → UInt8) : Prop where
  count_fits : 1 ≤ le16 (Regions.load after kWatchdogTimeRegister 2) ∧ le16 (Regions.load after kWatchdogTimeRegister 2) ≤ 0xFFFF
  long_enough : timeoutMs.toNat * 25000 ≤
    le16 (Regions.load after kWatchdogTimeRegister 2) * (le16 (Regions.load before kWatchdogDividerRegister 2) + 2)
  within_tick : le16 (Regions.load after kWatchdogTimeRegister 2) * (le16 (Regions.load before kWatchdogDividerRegister 2) + 2) <
    timeoutMs.toNat * 25000 + (le16 (Regions.load before kWatchdogDividerRegister 2) + 2)
  some_mapped : info.mapped ≠ []
  control : ∀ sm ∈ info.mapped, after (smBase sm + 4) = before (smBase sm + 4) ||| kSmWatchdogTrigger
  activation : ∀ sm ∈ info.mapped, after (smBase sm + 6) = before (smBase sm + 6)
  divider : Regions.load after kWatchdogDividerRegister 2 = Regions.load before kWatchdogDividerRegister 2

theorem trigger_again (control : UInt8) :
    control ||| kSmWatchdogTrigger ||| kSmWatchdogTrigger = control ||| kSmWatchdogTrigger := by
  rw [UInt8.or_assoc, UInt8.or_self]

theorem triggers_at (sms : List Nat) (memory : Nat → UInt8) (address : Nat) : sms.foldl triggered memory address =
    if ∃ sm ∈ sms, address = smBase sm + 4 then memory address ||| kSmWatchdogTrigger else memory address := by
  induction sms generalizing memory with
  | nil => simp
  | cons sm rest ih =>
    rw [List.foldl_cons, ih, triggered]
    by_cases here : address = smBase sm + 4
    · simp [here, trigger_again]
    · simp [here]

theorem count_bytes (count : Nat) (fits : count ≤ 0xFFFF) :
    le16 [UInt8.ofNat (count % 256), UInt8.ofNat (count / 256)] = count := by
  simp only [le16, List.getD_cons_zero, List.getD_cons_succ, UInt8.toNat_ofNat']
  omega

theorem count_covers (timeoutMs : UInt32) (divider : Nat) :
    timeoutMs.toNat * 25000 ≤ watchdogCount timeoutMs divider * (divider + 2) ∧
      watchdogCount timeoutMs divider * (divider + 2) < timeoutMs.toNat * 25000 + (divider + 2) := by
  have whole := Nat.div_add_mod (timeoutMs.toNat * 25000 + (divider + 2) - 1) (divider + 2)
  have rest := Nat.mod_lt (timeoutMs.toNat * 25000 + (divider + 2) - 1) (show 0 < divider + 2 by omega)
  rw [watchdogCount, Nat.mul_comm _ (divider + 2)]
  omega

theorem guarded_of_count (timeoutMs : UInt32) (info : SlaveInfo) (before : Nat → UInt8) (mapped : info.mapped ≠ [])
    (positive : watchdogCount timeoutMs (le16 (Regions.load before kWatchdogDividerRegister 2)) ≠ 0)
    (fits : watchdogCount timeoutMs (le16 (Regions.load before kWatchdogDividerRegister 2)) ≤ 0xFFFF) :
    Guarded timeoutMs info before (info.mapped.foldl triggered (Regions.store before kWatchdogTimeRegister
      [UInt8.ofNat (watchdogCount timeoutMs (le16 (Regions.load before kWatchdogDividerRegister 2)) % 256),
        UInt8.ofNat (watchdogCount timeoutMs (le16 (Regions.load before kWatchdogDividerRegister 2)) / 256)])) := by
  have covers := count_covers timeoutMs (le16 (Regions.load before kWatchdogDividerRegister 2))
  generalize counted : watchdogCount timeoutMs (le16 (Regions.load before kWatchdogDividerRegister 2)) = count at *
  have below (memory : Nat → UInt8) (address : Nat) (low : address < smBase 0) : info.mapped.foldl triggered memory address = memory address := by
    rw [triggers_at, if_neg]
    rintro ⟨sm, _, rfl⟩
    simp only [smBase] at low
    omega
  have above (bytes : List UInt8) (address : Nat) (high : smBase 0 ≤ address) (two : bytes.length = 2) :
      Regions.store before kWatchdogTimeRegister bytes address = before address := by
    have past : bytes[address - kWatchdogTimeRegister]? = none :=
      List.getElem?_eq_none (by simp only [smBase, kWatchdogTimeRegister] at *; omega)
    rw [Regions.store, past, Option.getD_none, ite_self]
  have held : Regions.load (info.mapped.foldl triggered (Regions.store before kWatchdogTimeRegister
      [UInt8.ofNat (count % 256), UInt8.ofNat (count / 256)])) kWatchdogTimeRegister 2 =
      [UInt8.ofNat (count % 256), UInt8.ofNat (count / 256)] := by
    refine Eq.trans (List.map_congr_left fun step inside => below _ _ ?_)
      (Regions.load_store_same before kWatchdogTimeRegister [UInt8.ofNat (count % 256), UInt8.ofNat (count / 256)])
    have bounded := List.mem_range.mp inside
    simp only [smBase, kWatchdogTimeRegister]
    omega
  refine ⟨?_, ?_, ?_, mapped, ?_, ?_, ?_⟩
  · rw [held, count_bytes count fits]
    omega
  · rw [held, count_bytes count fits]
    exact covers.1
  · rw [held, count_bytes count fits]
    exact covers.2
  · intro sm inside
    rw [triggers_at, if_pos ⟨sm, inside, rfl⟩, above _ _ (by simp only [smBase]; omega) rfl]
  · intro sm inside
    rw [triggers_at, if_neg, above _ _ (by simp only [smBase]; omega) rfl]
    rintro ⟨other, _, same⟩
    simp only [smBase] at same
    omega
  · rw [← Regions.load_store_apart before kWatchdogTimeRegister kWatchdogDividerRegister 2
      [UInt8.ofNat (count % 256), UInt8.ofNat (count / 256)] (Or.inr (by decide))]
    refine List.map_congr_left fun step inside => below _ _ ?_
    have bounded := List.mem_range.mp inside
    simp only [smBase, kWatchdogDividerRegister]
    omega

theorem restore_did (slave : Nat) (before after : World) (ran : recordRestore slave before = .ok ((), after)) :
    Did slave (before.registers slave) before after := by
  cases ran
  exact ⟨(Function.update_eq_self _ _).symm, [], (List.append_nil _).symm, nofun⟩

theorem slave_did (line : Line) (timeoutMs : UInt32) (slave : Nat) (info : SlaveInfo) (before after : World)
    (ran : configureSlave line timeoutMs slave info before = .ok ((), after)) :
    (info.inputOnly = true ∧ after = before) ∨
      (info.inputOnly = false ∧ ∃ memory, Did slave memory before after ∧ Guarded timeoutMs info (before.registers slave) memory) := by
  rw [configureSlave] at ran
  split at ran
  · rename_i inputs
    cases ran
    exact Or.inl ⟨inputs, rfl⟩
  · rename_i outputs
    obtain ⟨divider, first, readDivider, ran⟩ := run_bind _ _ _ _ _ ran
    obtain ⟨rfl, one⟩ := read_did line slave _ _ _ _ _ readDivider
    dsimp only at ran
    split at ran
    · cases ran
    · rename_i fits
      obtain ⟨_, second, written, ran⟩ := run_bind _ _ _ _ _ ran
      obtain ⟨_, third, managed, ran⟩ := run_bind _ _ _ _ _ ran
      split at ran
      · cases ran
      · rename_i mapped
        have two := write_did line slave first second kWatchdogTimeRegister _ (by simp [kWatchdogTimeRegister, kWatchdogDividerRegister]) written
        have three := managers_did line slave second third info.mapped managed
        have four := restore_did slave third after ran
        have all := ((one.trans two).trans three).trans four
        rw [three.memory_after, two.memory_after, one.memory_after] at all
        rw [not_or, Nat.not_lt] at fits
        exact Or.inr ⟨Bool.eq_false_iff.mpr outputs, _, all, guarded_of_count timeoutMs info _ mapped fits.1 fits.2⟩

structure WatchdogsConfigured (timeoutMs : UInt32) (slavelist : Nat → SlaveInfo) (slaves : List Nat) (before after : World) : Prop where
  guarded : ∀ slave ∈ slaves, (slavelist slave).inputOnly = false →
    Guarded timeoutMs (slavelist slave) (before.registers slave) (after.registers slave)
  untouched : ∀ slave, slave ∉ slaves ∨ (slavelist slave).inputOnly = true → after.registers slave = before.registers slave
  events : ∃ added, after.events = before.events ++ added ∧ ∀ event ∈ added, event.clean = true ∧
    ∀ slave address answered, event = .write slave address answered →
      slave ∈ slaves ∧ (slavelist slave).inputOnly = false ∧ kWatchdogDividerRegister + 2 ≤ address

theorem slaves_did (line : Line) (timeoutMs : UInt32) (slavelist : Nat → SlaveInfo) (slaves : List Nat) (distinct : slaves.Nodup)
    (before after : World) (ran : configureSlaves line timeoutMs slavelist slaves before = .ok ((), after)) :
    WatchdogsConfigured timeoutMs slavelist slaves before after := by
  induction slaves generalizing before with
  | nil =>
    cases ran
    exact ⟨nofun, fun _ _ => rfl, [], (List.append_nil _).symm, nofun⟩
  | cons slave rest ih =>
    obtain ⟨notAgain, distinct⟩ := List.nodup_cons.mp distinct
    obtain ⟨_, middle, one, others⟩ := run_bind _ _ _ _ _ ran
    have later := ih distinct middle others
    obtain ⟨added, grown, fine⟩ := later.events
    have kept := later.untouched slave (Or.inl notAgain)
    rcases slave_did line timeoutMs slave (slavelist slave) before middle one with ⟨inputs, rfl⟩ | ⟨outputs, memory, did, guarded⟩
    · refine ⟨?_, ?_, added, grown, ?_⟩
      · intro other inside hasOutputs
        rcases List.mem_cons.mp inside with rfl | inside
        · rw [inputs] at hasOutputs
          cases hasOutputs
        · exact later.guarded other inside hasOutputs
      · rintro other (outside | alsoInputs)
        · exact later.untouched other (Or.inl fun inside => outside (List.mem_cons_of_mem _ inside))
        · exact later.untouched other (Or.inr alsoInputs)
      · intro event inside
        refine ⟨(fine event inside).1, fun other address answered same => ?_⟩
        obtain ⟨listed, rest⟩ := (fine event inside).2 other address answered same
        exact ⟨List.mem_cons_of_mem _ listed, rest⟩
    · obtain ⟨more, begun, alsoFine⟩ := did.events
      have elsewhere (other : Nat) (apart : other ≠ slave) : middle.registers other = before.registers other := by
        rw [did.registers, Function.update_of_ne apart]
      refine ⟨?_, ?_, more ++ added, ?_, ?_⟩
      · intro other inside hasOutputs
        rcases List.mem_cons.mp inside with rfl | inside
        · rw [kept, did.memory_after]
          exact guarded
        · have apart : other ≠ slave := fun same => notAgain (same ▸ inside)
          rw [← elsewhere other apart]
          exact later.guarded other inside hasOutputs
      · intro other why
        have apart : other ≠ slave := by
          rintro rfl
          rcases why with outside | inputs
          · exact outside List.mem_cons_self
          · rw [outputs] at inputs
            cases inputs
        rw [← elsewhere other apart]
        exact later.untouched other (why.imp_left fun outside inside => outside (List.mem_cons_of_mem _ inside))
      · rw [grown, begun, List.append_assoc]
      · intro event inside
        rcases List.mem_append.mp inside with early | late
        · refine ⟨(alsoFine event early).1, fun other address answered same => ?_⟩
          obtain ⟨rfl, behind⟩ := (alsoFine event early).2 other address answered same
          exact ⟨List.mem_cons_self, outputs, behind⟩
        · refine ⟨(fine event late).1, fun other address answered same => ?_⟩
          obtain ⟨listed, rest⟩ := (fine event late).2 other address answered same
          exact ⟨List.mem_cons_of_mem _ listed, rest⟩

theorem slaves_distinct (slavecount onlySlave : Nat) : (slavesOf slavecount onlySlave).Nodup := by
  rw [slavesOf]
  split
  · exact List.nodup_range'
  · exact List.nodup_cons.mpr ⟨nofun, List.nodup_nil⟩

section Configured

variable (line : Line) (timeoutMs : UInt32) (slavelist : Nat → SlaveInfo) (slavecount : Nat) (before : World)

theorem configured_of_success (onlySlave : Nat)
    (succeeded : (configureWatchdogs line timeoutMs slavelist slavecount onlySlave before).1 = true) :
    WatchdogsConfigured timeoutMs slavelist (slavesOf slavecount onlySlave) before
      (configureWatchdogs line timeoutMs slavelist slavecount onlySlave before).2 := by
  rw [configureWatchdogs] at succeeded ⊢
  split at succeeded
  · rename_i ended after ran
    exact slaves_did line timeoutMs slavelist _ (slaves_distinct slavecount onlySlave) before after ran
  · cases succeeded

theorem restored_or_stopped (slave : Nat) (positive : slave ≠ 0) :
    (restoreWatchdog line timeoutMs slavelist slavecount slave before).2.1 = true ∨
      WatchdogsConfigured timeoutMs slavelist [slave] before (restoreWatchdog line timeoutMs slavelist slavecount slave before).2.2 := by
  have configured := configured_of_success line timeoutMs slavelist slavecount before slave
  rw [slavesOf, if_neg positive] at configured
  rw [restoreWatchdog]
  split
  · rename_i after ran
    rw [ran] at configured
    exact Or.inr (configured rfl)
  · exact Or.inl rfl

/-- Success promises the whole configuration, and any failed access or mismatch of a readback denies it. -/
theorem configure_watchdogs_safe (onlySlave : Nat) :
    ((configureWatchdogs line timeoutMs slavelist slavecount onlySlave before).1 = true →
      WatchdogsConfigured timeoutMs slavelist (slavesOf slavecount onlySlave) before
        (configureWatchdogs line timeoutMs slavelist slavecount onlySlave before).2) ∧
    ((∃ event ∈ (configureWatchdogs line timeoutMs slavelist slavecount onlySlave before).2.events.drop before.events.length,
        event.clean = false) →
      (configureWatchdogs line timeoutMs slavelist slavecount onlySlave before).1 = false) ∧
    (onlySlave ≠ 0 → (restoreWatchdog line timeoutMs slavelist slavecount onlySlave before).2.1 = true ∨
      WatchdogsConfigured timeoutMs slavelist [onlySlave] before
        (restoreWatchdog line timeoutMs slavelist slavecount onlySlave before).2.2) := by
  refine ⟨configured_of_success line timeoutMs slavelist slavecount before onlySlave, ?_,
    restored_or_stopped line timeoutMs slavelist slavecount before onlySlave⟩
  rintro ⟨event, inside, unclean⟩
  by_contra succeeded
  have configured := configured_of_success line timeoutMs slavelist slavecount before onlySlave (Bool.not_eq_false _ ▸ succeeded)
  obtain ⟨added, grown, fine⟩ := configured.events
  rw [grown, List.drop_left] at inside
  rw [(fine event inside).1] at unclean
  cases unclean

end Configured

def driveAndSensor : Nat → SlaveInfo := fun slave =>
  if slave = 1 then ⟨64, 8, fun sm => if sm = 2 then ⟨3, 8, 0x1100⟩ else ⟨4, 8, 0x1400⟩⟩ else ⟨0, 0, fun _ => ⟨4, 8, 0x1400⟩⟩

def afterReset : World where
  registers := fun _ address => if address = 0x0400 then 0xC2 else if address = 0x0401 then 0x09 else 0x24
  smFlags := fun _ _ => 0
  restoring := fun _ => false
  operations := 0
  events := []

def quietLine : Line := ⟨fun _ => true, fun _ _ => none⟩

def lossyLine : Line := ⟨fun operation => operation ≠ 7, fun _ _ => none⟩

theorem drive_configured : WatchdogsConfigured 100 driveAndSensor (slavesOf 2 0) afterReset
      (configureWatchdogs quietLine 100 driveAndSensor 2 0 afterReset).2 ∧
    (configureWatchdogs lossyLine 100 driveAndSensor 2 0 afterReset).1 = false :=
  ⟨(configure_watchdogs_safe quietLine 100 driveAndSensor 2 afterReset 0).1 (by decide +kernel),
    (configure_watchdogs_safe lossyLine 100 driveAndSensor 2 afterReset 0).2.1 (by decide +kernel)⟩

end EncosDriver.Ethercat.Watchdog
