import EncosDriver.Lib.Table

set_option autoImplicit false

namespace EncosDriver.Lib

-- Any number of calls over one shared store. Each call runs one atomic section
-- at a time; a section may start a further call, which then runs under an
-- identity of its own.
structure World (Shared Call : Type) where
  shared : Shared
  calls : Table Nat Call
  nextCall : Nat

structure Move (Shared Call : Type) where
  shared : Shared
  call : Call
  started : Option Call

namespace World

variable {Shared Call : Type}

def start (world : World Shared Call) (call : Call) : World Shared Call :=
  { world with calls := world.calls.put world.nextCall call, nextCall := world.nextCall + 1 }

def advance (world : World Shared Call) (id : Nat) (move : Move Shared Call) : World Shared Call :=
  let moved : World Shared Call := { world with shared := move.shared, calls := world.calls.put id move.call }
  match move.started with
  | none => moved
  | some child => moved.start child

def Numbered (world : World Shared Call) : Prop :=
  ∀ id call, world.calls.find id = some call → id < world.nextCall

variable (world : World Shared Call)

theorem numbered_absent (numbered : Numbered world) : world.calls.find world.nextCall = none := by
  cases found : world.calls.find world.nextCall with
  | none => rfl
  | some call => exact absurd (numbered _ call found) (Nat.lt_irrefl _)

@[simp] theorem start_shared (call : Call) : (world.start call).shared = world.shared := rfl

variable (id : Nat) (move : Move Shared Call)

@[simp] theorem advance_shared : (world.advance id move).shared = move.shared := by
  unfold advance
  cases move.started <;> rfl

theorem find_start (call : Call) (id : Nat) :
    (world.start call).calls.find id = if id = world.nextCall then some call else world.calls.find id :=
  Table.find_put world.calls world.nextCall id call

theorem find_advance (id other : Nat) (move : Move Shared Call) :
    (world.advance id move).calls.find other =
      match move.started with
      | none => if other = id then some move.call else world.calls.find other
      | some child =>
        if other = world.nextCall then some child
        else if other = id then some move.call else world.calls.find other := by
  unfold advance
  cases move.started with
  | none => exact Table.find_put world.calls id other move.call
  | some child =>
    simp only [start, Table.find_put]

theorem numbered_start (call : Call) (numbered : Numbered world) : Numbered (world.start call) := by
  intro id found present
  rw [find_start] at present
  by_cases same : id = world.nextCall
  · simp [start, same]
  · rw [if_neg same] at present
    exact Nat.lt_succ_of_lt (numbered id found present)

theorem numbered_advance (numbered : Numbered world) (known : id < world.nextCall) : Numbered (world.advance id move) := by
  have moved : Numbered ({ world with shared := move.shared, calls := world.calls.put id move.call } : World Shared Call) := by
    intro other found present
    simp only [Table.find_put] at present
    by_cases same : other = id
    · exact same ▸ known
    · exact numbered other found (by simpa [same] using present)
  unfold advance
  cases move.started with
  | none => exact moved
  | some child => exact numbered_start _ child moved

theorem find_advance_cases (id other : Nat) (move : Move Shared Call) (call : Call)
    (present : (world.advance id move).calls.find other = some call) :
    (other = id ∧ call = move.call) ∨ (other = world.nextCall ∧ move.started = some call) ∨
      (other ≠ id ∧ world.calls.find other = some call) := by
  rw [find_advance] at present
  cases started : move.started with
  | none =>
    simp only [started] at present
    by_cases same : other = id
    · simp only [same, ↓reduceIte, Option.some.injEq] at present
      exact .inl ⟨same, present.symm⟩
    · simp only [same, ↓reduceIte] at present
      exact .inr (.inr ⟨same, present⟩)
  | some child =>
    simp only [started] at present
    by_cases fresh : other = world.nextCall
    · simp only [fresh, ↓reduceIte, Option.some.injEq] at present
      exact .inr (.inl ⟨fresh, by rw [present]⟩)
    · by_cases same : other = id
      · simp only [same, ↓reduceIte] at present
        by_cases clash : id = world.nextCall
        · exact absurd (same.trans clash) fresh
        · simp only [clash, ↓reduceIte, Option.some.injEq] at present
          exact .inl ⟨same, present.symm⟩
      · simp only [fresh, same, ↓reduceIte] at present
        exact .inr (.inr ⟨same, present⟩)

theorem find_advance_self (known : id < world.nextCall) : (world.advance id move).calls.find id = some move.call := by
  rw [find_advance]
  cases move.started with
  | none => simp
  | some child => simp [Nat.ne_of_lt known]

theorem find_advance_other (id other : Nat) (move : Move Shared Call) (different : other ≠ id) (known : other < world.nextCall) :
    (world.advance id move).calls.find other = world.calls.find other := by
  rw [find_advance]
  cases move.started with
  | none => simp [different]
  | some child => simp [different, Nat.ne_of_lt known]

theorem advance_every (Holds : Shared → Nat → Call → Prop)
    (before : ∀ other call, world.calls.find other = some call → Holds world.shared other call)
    (own : Holds move.shared id move.call)
    (others : ∀ other call, other ≠ id → world.calls.find other = some call → Holds world.shared other call →
      Holds move.shared other call)
    (child : ∀ call, move.started = some call → Holds move.shared world.nextCall call) :
    ∀ other call, (world.advance id move).calls.find other = some call → Holds move.shared other call := by
  intro other call present
  rcases find_advance_cases world id other move call present with ⟨rfl, rfl⟩ | ⟨rfl, started⟩ | ⟨different, kept⟩
  · exact own
  · exact child call started
  · exact others other call different kept (before other call kept)

section Owners

variable {Token : Type} (owner : Shared → Token → Option Nat) (token : Call → Option Token)

def Owned (world : World Shared Call) : Prop :=
  ∀ held id, owner world.shared held = some id ↔ ∃ call, world.calls.find id = some call ∧ token call = some held

variable {owner token}

variable (world : World Shared Call)

theorem owned_unique (owned : Owned owner token world) (held : Token) (first second : Nat)
    (firstCall secondCall : Call) (firstFound : world.calls.find first = some firstCall)
    (secondFound : world.calls.find second = some secondCall) (firstHolds : token firstCall = some held)
    (secondHolds : token secondCall = some held) : first = second := by
  have one := (owned held first).mpr ⟨firstCall, firstFound, firstHolds⟩
  have two := (owned held second).mpr ⟨secondCall, secondFound, secondHolds⟩
  exact Option.some.inj (one.symm.trans two)

theorem owned_start (call : Call) (numbered : Numbered world)
    (owned : Owned owner token world) (free : token call = none) : Owned owner token (world.start call) := by
  intro held id
  rw [start_shared, owned held id]
  constructor
  · rintro ⟨holder, found, holds⟩
    have old := Nat.ne_of_lt (numbered id holder found)
    exact ⟨holder, by rw [find_start, if_neg old]; exact found, holds⟩
  · rintro ⟨holder, found, holds⟩
    rw [find_start] at found
    by_cases fresh : id = world.nextCall
    · simp only [fresh, ↓reduceIte] at found
      cases found
      rw [free] at holds
      cases holds
    · rw [if_neg fresh] at found
      exact ⟨holder, found, holds⟩

structure Exchanges [DecidableEq Token] (owner : Shared → Token → Option Nat) (token : Call → Option Token) (id : Nat) (before after : Shared)
    (call next : Call) : Prop where
  acquired : ∀ held, token next = some held → token call = some held ∨ owner before held = none
  kept : ∀ held, token next = token call → owner after held = owner before held
  recorded : ∀ held, token next ≠ token call →
    owner after held = if token next = some held then some id else if token call = some held then none else owner before held

theorem owned_others (id other : Nat) (move : Move Shared Call) (held : Token)
    (numbered : Numbered world) (owned : Owned owner token world) (different : other ≠ id)
    (free : ∀ child, move.started = some child → token child = none) :
    (∃ call, (world.advance id move).calls.find other = some call ∧ token call = some held) ↔
      owner world.shared held = some other := by
  rw [owned held other]
  constructor
  · rintro ⟨holder, found, holds⟩
    rcases find_advance_cases world id other move holder found with ⟨rfl, rfl⟩ | ⟨rfl, started⟩ | ⟨_, kept⟩
    · exact absurd rfl different
    · rw [free holder started] at holds
      cases holds
    · exact ⟨holder, kept, holds⟩
  · rintro ⟨holder, found, holds⟩
    exact ⟨holder, by rw [find_advance_other world id other move different (numbered other holder found)]; exact found, holds⟩

theorem owned_advance [DecidableEq Token] (world : World Shared Call) (id : Nat) (call : Call) (move : Move Shared Call)
    (numbered : Numbered world) (present : world.calls.find id = some call) (owned : Owned owner token world)
    (exchange : Exchanges owner token id world.shared move.shared call move.call)
    (free : ∀ child, move.started = some child → token child = none) :
    Owned owner token (world.advance id move) := by
  have known := numbered id call present
  have self := find_advance_self world id move known
  intro held other
  rw [advance_shared]
  by_cases same : other = id
  · subst same
    have before := owned held other
    simp only [present, Option.some.injEq, exists_eq_left'] at before
    simp only [self, Option.some.injEq, exists_eq_left']
    by_cases unchanged : token move.call = token call
    · rw [exchange.kept held unchanged, unchanged, before]
    · rw [exchange.recorded held unchanged]
      by_cases takes : token move.call = some held
      · simp [takes]
      · simp only [takes, ↓reduceIte, iff_false]
        by_cases gives : token call = some held
        · simp [gives]
        · rw [if_neg gives, before]
          exact gives
  · rw [owned_others world id other move held numbered owned same free]
    by_cases unchanged : token move.call = token call
    · rw [exchange.kept held unchanged]
    · rw [exchange.recorded held unchanged]
      by_cases takes : token move.call = some held
      · rw [if_pos takes]
        rcases exchange.acquired held takes with keeps | unowned
        · exact absurd (takes.trans keeps.symm) unchanged
        · simp [unowned, Ne.symm same]
      · rw [if_neg takes]
        by_cases gives : token call = some held
        · have owns := (owned held id).mpr ⟨call, present, gives⟩
          simp [gives, owns, Ne.symm same]
        · rw [if_neg gives]

end Owners

section Backing

def Backed (has : Shared → Nat → Prop) (backs : Nat → Call → Prop) (world : World Shared Call) : Prop :=
  ∀ id, has world.shared id → ∃ call, world.calls.find id = some call ∧ backs id call

variable {has : Shared → Nat → Prop} {backs : Nat → Call → Prop}

variable (world : World Shared Call)

theorem backed_absent (backed : Backed has backs world) (id : Nat) (call : Call)
    (present : world.calls.find id = some call) (not : ¬ backs id call) : ¬ has world.shared id := by
  intro held
  obtain ⟨holder, found, answers⟩ := backed id held
  rw [present, Option.some.injEq] at found
  exact not (found ▸ answers)

theorem backed_start (call : Call) (numbered : Numbered world)
    (backed : Backed has backs world) : Backed has backs (world.start call) := by
  intro id held
  obtain ⟨holder, found, answers⟩ := backed id held
  exact ⟨holder, by rw [find_start, if_neg (Nat.ne_of_lt (numbered id holder found))]; exact found, answers⟩

theorem backed_advance (id : Nat) (call : Call) (move : Move Shared Call)
    (numbered : Numbered world) (present : world.calls.find id = some call) (backed : Backed has backs world)
    (others : ∀ other, other ≠ id → has move.shared other → has world.shared other)
    (own : has move.shared id → backs id move.call) : Backed has backs (world.advance id move) := by
  intro other held
  rw [advance_shared] at held
  by_cases same : other = id
  · subst same
    exact ⟨move.call, find_advance_self world other move (numbered other call present), own held⟩
  · obtain ⟨holder, found, answers⟩ := backed other (others other same held)
    refine ⟨holder, ?_, answers⟩
    rw [find_advance_other world id other move same (numbered other holder found)]
    exact found

end Backing

section Sound

variable (StoreOk : Shared → Prop) (has : Shared → Nat → Prop) (backs : Nat → Call → Prop)
  (CallOk : Shared → Nat → Call → Prop)

structure Sound (world : World Shared Call) : Prop where
  numbered : Numbered world
  store : StoreOk world.shared
  backed : Backed has backs world
  calls : ∀ id call, world.calls.find id = some call → CallOk world.shared id call

variable {StoreOk has backs CallOk}

variable (world : World Shared Call)

theorem sound_start (call : Call) (sound : Sound StoreOk has backs CallOk world)
    (ok : CallOk world.shared world.nextCall call) : Sound StoreOk has backs CallOk (world.start call) := by
  refine ⟨numbered_start world call sound.numbered, sound.store, backed_start world call sound.numbered sound.backed, ?_⟩
  intro id other found
  rw [find_start] at found
  split at found
  · next fresh =>
      cases found
      rw [fresh]
      exact ok
  · exact sound.calls id other found

theorem sound_advance (id : Nat) (call : Call) (move : Move Shared Call)
    (sound : Sound StoreOk has backs CallOk world) (present : world.calls.find id = some call)
    (store : StoreOk move.shared) (others : ∀ other, other ≠ id → has move.shared other → has world.shared other)
    (own : has move.shared id → backs id move.call) (ok : CallOk move.shared id move.call)
    (kept : ∀ other holder, other ≠ id → CallOk world.shared other holder → CallOk move.shared other holder)
    (alone : move.started = none) : Sound StoreOk has backs CallOk (world.advance id move) := by
  refine ⟨numbered_advance world id move sound.numbered (sound.numbered id call present), ?_,
    backed_advance world id call move sound.numbered present sound.backed others own, ?_⟩
  · rw [advance_shared]
    exact store
  · rw [advance_shared]
    refine advance_every world id move CallOk sound.calls ok ?_ ?_
    · intro other holder different _ fine
      exact kept other holder different fine
    · intro child started
      rw [alone] at started
      cases started

theorem sound_store (shared : Shared) (sound : Sound StoreOk has backs CallOk world)
    (store : StoreOk shared) (fewer : ∀ id, has shared id → has world.shared id)
    (kept : ∀ id call, CallOk world.shared id call → CallOk shared id call) :
    Sound StoreOk has backs CallOk { world with shared := shared } :=
  ⟨sound.numbered, store, fun id held => sound.backed id (fewer id held),
    fun id call found => kept id call (sound.calls id call found)⟩

theorem sound_owns (id : Nat) (call : Call) (sound : Sound StoreOk has backs CallOk world)
    (present : world.calls.find id = some call) (held : has world.shared id) : backs id call := by
  obtain ⟨holder, found, answers⟩ := sound.backed id held
  rw [present] at found
  exact Option.some.inj found ▸ answers

end Sound

section Tallies

variable (amount : Call → Nat)

def tally (world : World Shared Call) : Nat := world.calls.sum fun _ call => amount call

variable (world : World Shared Call)

theorem tally_start (call : Call) (numbered : Numbered world) :
    (world.start call).tally amount = world.tally amount + amount call := by
  have counted := Table.sum_put world.calls (fun _ call => amount call) world.nextCall call
  rw [Table.share_absent _ _ _ (numbered_absent world numbered)] at counted
  exact counted

theorem tally_advance (id : Nat) (call : Call) (move : Move Shared Call)
    (numbered : Numbered world) (present : world.calls.find id = some call)
    (idle : ∀ child, move.started = some child → amount child = 0) :
    (world.advance id move).tally amount + amount call = world.tally amount + amount move.call := by
  have known := numbered id call present
  let moved : World Shared Call := { world with shared := move.shared, calls := world.calls.put id move.call }
  have counted : moved.tally amount + amount call = world.tally amount + amount move.call := by
    have exact := Table.sum_put world.calls (fun _ call => amount call) id move.call
    rwa [Table.share_found _ _ _ _ present] at exact
  unfold advance
  cases started : move.started with
  | none => exact counted
  | some child =>
    have stillNumbered : Numbered moved := by
      intro other found inside
      simp only [moved, Table.find_put] at inside
      by_cases same : other = id
      · exact same ▸ known
      · exact numbered other found (by simpa [same] using inside)
    have grown := tally_start amount moved child stillNumbered
    rw [idle child started] at grown
    simp only [moved] at grown counted ⊢
    omega

theorem amount_le_tally (id : Nat) (call : Call)
    (present : world.calls.find id = some call) : amount call ≤ world.tally amount := by
  have bound := Table.share_le_sum world.calls (fun _ call => amount call) id
  rwa [Table.share_found _ _ _ _ present] at bound

theorem tally_zero
    (zero : ∀ id call, world.calls.find id = some call → amount call = 0) : world.tally amount = 0 :=
  Table.sum_zero world.calls (fun _ call => amount call) zero

end Tallies

end World

end EncosDriver.Lib
