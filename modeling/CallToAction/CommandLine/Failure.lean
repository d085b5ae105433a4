import CallToAction.Batch.Source
import CallToAction.Batch.Page
import CallToAction.FactSheet.Assignment
import CallToAction.Settings.Store

/-!
# Failures

Why a command is not carried out, in words and as an exit status.  What a command starts with, its
settings and rules, has a status of its own; anything else that fails is due to what was put in.
-/

namespace CallToAction.CommandLine

/-- How a command ended. -/
inductive ExitStatus
  | success
  | invalidInput
  | invalidSettings
  deriving DecidableEq, Repr

/-- The number of an exit status. -/
def ExitStatus.code : ExitStatus → Nat
  | success => 0
  | invalidInput => 2
  | invalidSettings => 4

/-- Why a command is not carried out. -/
inductive Failure
  | settings (cause : Settings.LoadError)
  | outOfRange (complaints : List String)
  | rules (defects : List Defect)
  | starter (cause : Settings.StarterError)
  | assignments (errors : List (String × Assignment.Error))
  | inputs (cause : InputError)
  /-- The only page of an analysis failed. -/
  | page (source : String) (cause : PageError)
  | output (path : String) (cause : FileTree.WriteError)
  deriving DecidableEq

namespace Failure

/-- A title with a line for each item. -/
def itemized (title : String) (items : List String) : String :=
  Text.lines (title :: items.map ("  - " ++ ·))

/-- The wording of a failure to write a file. -/
def writing (path : String) : FileTree.WriteError → String
  | .opening cause => s!"Failed to open atomic write file at {path}: {cause.message}"
  | .saving cause => s!"Failed to save output to {path}: {cause.message}"

/-- The wording of a failure, its cause last. -/
def message : Failure → String
  | settings cause => "Config error: " ++ cause.message
  | outOfRange complaints => itemized "Config errors:" complaints
  | rules defects => itemized "Knowledge base errors:" (defects.map Defect.message)
  | starter cause => "Config error: " ++ cause.message
  | assignments errors =>
    itemized "Invalid overrides:" (errors.map fun (text, e) => s!"--set {text}: {e.message}")
  | inputs cause => "Input error: " ++ cause.message
  | page source cause => s!"Input error: {source}: {cause.message}"
  | output path cause => "Output error: " ++ writing path cause

/-- The exit status of a failure. -/
def status : Failure → ExitStatus
  | settings _ | outOfRange _ | rules _ | starter _ => .invalidSettings
  | assignments _ | inputs _ | page _ _ | output _ _ => .invalidInput

theorem status_ne_success (f : Failure) : f.status ≠ .success := by
  cases f <;> simp [status]

end Failure

end CallToAction.CommandLine
