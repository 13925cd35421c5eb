import ClientGen.Output.Disk
import ClientGen.Log

/-!
# Runs over a directory tree

A run reads and changes a directory tree and keeps a log. When a step fails, the tree and
the log keep what the steps before it did, as they would on a real file system.
-/
namespace ClientGen

/-- The state a run changes: its tree and its log. -/
structure Workspace where
  disk : Disk
  logs : Array LogRecord
  deriving Inhabited

/-- A step of a run: it may fail, and changes the workspace either way. -/
abbrev Run := ExceptT Fault (StateM Workspace)

namespace Run

/-- Adds a record to the log. -/
def note (level : Level) (origin : Origin) (message : String) : Run Unit :=
  modify fun w => { w with logs := w.logs.push ⟨level, origin, message⟩ }

/-- A step that cannot change the workspace. -/
def lift {α : Type} (r : Except Fault α) : Run α := ExceptT.mk (pure r)

/-- A logged computation as a step, its records added to the log. -/
def ofLogged {α : Type} (step : Logged α) : Run α := do
  let (result, records) := step.run
  modify fun w => { w with logs := w.logs ++ records }
  lift result

/-- The tree as it stands. -/
def disk : Run Disk := do return (← get).disk

/-- Changes the tree by a step that may fail, leaving it as it was on failure. -/
def change (f : Disk → Except Fault Disk) : Run Unit := do
  let d ← lift (f (← disk))
  modify fun w => { w with disk := d }

/-- Runs a step from a workspace. -/
def exec {α : Type} (step : Run α) (w : Workspace) : Except Fault α × Workspace :=
  (step.run).run w

end Run

end ClientGen
