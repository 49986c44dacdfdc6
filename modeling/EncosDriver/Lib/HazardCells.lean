import EncosDriver.Lib.System

set_option autoImplicit false

namespace EncosDriver.Lib

-- One writer, one reader and three cells. The writer fills an inactive cell and
-- then makes it active; the reader announces the active cell as its hazard and
-- keeps it only if the cell is still active after the announcement.
structure HazardCells where
  active : Nat
  hazard : Nat
  writing : Option Nat
  validated : Option Nat

namespace HazardCells

def cellCount : Nat := 3

def noHazard : Nat := cellCount

def nextCell (active hazard : Nat) : Nat :=
  if (active + 1) % cellCount = hazard then ((active + 1) % cellCount + 1) % cellCount
  else (active + 1) % cellCount

def beginWrite (cells : HazardCells) : HazardCells :=
  { cells with writing := some (nextCell cells.active cells.hazard) }

def publish (cells : HazardCells) (cell : Nat) : HazardCells :=
  { cells with active := cell, writing := none }

def announce (cells : HazardCells) (cell : Nat) : HazardCells :=
  { cells with hazard := cell }

def validate (cells : HazardCells) (cell : Nat) : HazardCells :=
  { cells with validated := some cell }

def clear (cells : HazardCells) : HazardCells :=
  { cells with hazard := noHazard, validated := none }

inductive Moves (cells : HazardCells) : HazardCells → Prop where
  | stay : Moves cells cells
  | beginWrite : Moves cells (beginWrite cells)
  | publish (cell : Nat) (written : cells.writing = some cell) : Moves cells (publish cells cell)
  | announce (cell : Nat) (unprotected : cells.validated = none) : Moves cells (announce cells cell)
  | validate (cell : Nat) (unprotected : cells.validated = none) (announced : cells.hazard = cell)
      (active : cells.active = cell) : Moves cells (validate cells cell)
  | clear : Moves cells (clear cells)

structure Safe (cells : HazardCells) : Prop where
  activeBound : cells.active < cellCount
  writingInactive : ∀ cell, cells.writing = some cell → cell < cellCount ∧ cell ≠ cells.active
  validatedHazard : ∀ cell, cells.validated = some cell → cells.hazard = cell
  validatedIdle : ∀ cell, cells.validated = some cell → cells.writing ≠ some cell

variable (active hazard : Nat)

theorem next_cell_bound : nextCell active hazard < cellCount := by
  unfold nextCell cellCount
  split <;> omega

theorem next_cell_avoids_hazard : nextCell active hazard ≠ hazard := by
  unfold nextCell cellCount
  split <;> omega

theorem next_cell_avoids_active (bound : active < cellCount) :
    nextCell active hazard ≠ active := by
  have three : active < 3 := bound
  unfold nextCell cellCount
  split <;> omega

variable (cells : HazardCells)

theorem begin_write_safe (safe : Safe cells) : Safe (beginWrite cells) := by
  refine ⟨safe.activeBound, ?_, safe.validatedHazard, ?_⟩
  · intro cell chosen
    cases chosen
    exact ⟨next_cell_bound _ _, next_cell_avoids_active _ _ safe.activeBound⟩
  · intro cell validated chosen
    cases chosen
    exact next_cell_avoids_hazard _ _ (safe.validatedHazard _ validated).symm

theorem publish_safe (cell : Nat) (safe : Safe cells)
    (written : cells.writing = some cell) : Safe (publish cells cell) := by
  refine ⟨(safe.writingInactive cell written).1, ?_, safe.validatedHazard, ?_⟩
  · intro other chosen
    cases chosen
  · intro other _ chosen
    cases chosen

theorem announce_safe (cell : Nat) (safe : Safe cells)
    (unprotected : cells.validated = none) : Safe (announce cells cell) := by
  refine ⟨safe.activeBound, safe.writingInactive, ?_, safe.validatedIdle⟩
  intro other validated
  rw [show (announce cells cell).validated = none from unprotected] at validated
  cases validated

/-- The writer may have loaded the hazard word before the announcement. It then either still fills a cell other than the
active one, or has published already. -/
theorem validate_safe (cell : Nat) (safe : Safe cells)
    (announced : cells.hazard = cell) (active : cells.active = cell) : Safe (validate cells cell) := by
  refine ⟨safe.activeBound, safe.writingInactive, ?_, ?_⟩
  · intro other validated
    cases validated
    exact announced
  · intro other validated writing
    cases validated
    exact (safe.writingInactive cell writing).2 active.symm

theorem clear_safe (safe : Safe cells) : Safe (clear cells) := by
  refine ⟨safe.activeBound, safe.writingInactive, ?_, ?_⟩
  · intro cell validated
    cases validated
  · intro cell validated
    cases validated

theorem moves_safe (cells next : HazardCells) (safe : Safe cells) (moved : Moves cells next) : Safe next := by
  cases moved with
  | stay => exact safe
  | beginWrite => exact begin_write_safe cells safe
  | publish cell written => exact publish_safe cells cell safe written
  | announce cell unprotected => exact announce_safe cells cell safe unprotected
  | validate cell _ announced active => exact validate_safe cells cell safe announced active
  | clear => exact clear_safe cells safe

theorem moves_until_cleared (cells next : HazardCells) (moved : Moves cells next) (cell : Nat)
    (guarded : cells.validated = some cell) : next.validated = some cell ∨ next.hazard = noHazard := by
  cases moved with
  | stay => exact .inl guarded
  | beginWrite => exact .inl guarded
  | publish other written => exact .inl guarded
  | announce other unprotected =>
    rw [unprotected] at guarded
    cases guarded
  | validate other unprotected announced active =>
    rw [unprotected] at guarded
    cases guarded
  | clear => exact .inr rfl

end HazardCells

end EncosDriver.Lib
