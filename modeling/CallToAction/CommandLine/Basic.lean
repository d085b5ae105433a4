import CallToAction.CommandLine.Word
import CallToAction.Settings.Basic

/-!
# Commands

A command is what a command line asks for once its words are understood: an analysis, a list of the
rules, or a file of settings to begin with.  A command line that asks for the version or for help is
answered at once, whatever stands behind that word, and one that cannot be understood is misuse.
-/

namespace CallToAction.CommandLine

/-- What is asked for without any work. -/
inductive Notice
  | version
  | help
  /-- The command line cannot be understood. -/
  | misuse
  deriving DecidableEq, Repr

/-- What the words of a command line choose. -/
structure Choices where
  verbose : Bool
  settings : Option String
  assignments : List String
  format : Option OutputFormat
  simple : Bool
  sparse : Bool
  output : Option String
  force : Bool
  inputs : List String
  deriving DecidableEq, Repr

namespace Choices

/-- Nothing is chosen. -/
def unset : Choices := ⟨false, none, [], none, false, false, none, false, []⟩

/-- Choose a switch without value, which may be given once. -/
def flag (choices : Choices) : Switch → Except Notice Choices
  | .verbose => if choices.verbose then .error .misuse else .ok { choices with verbose := true }
  | .simple => if choices.simple then .error .misuse else .ok { choices with simple := true }
  | .sparse => if choices.sparse then .error .misuse else .ok { choices with sparse := true }
  | .force => if choices.force then .error .misuse else .ok { choices with force := true }
  | .version => .error .version
  | .help => .error .help
  | .settings | .assign | .format | .output => .error .misuse

/-- Choose a switch with its value.  Assignments add up; any other switch may be given once. -/
def valued (choices : Choices) (value : String) : Switch → Except Notice Choices
  | .settings =>
    if choices.settings.isSome then .error .misuse
    else .ok { choices with settings := some value }
  | .assign => .ok { choices with assignments := choices.assignments ++ [value] }
  | .format =>
    match choices.format, OutputFormat.named? value with
    | none, some format => .ok { choices with format := some format }
    | _, _ => .error .misuse
  | .output =>
    if choices.output.isSome ∨ value = "" then .error .misuse
    else .ok { choices with output := some value }
  | .verbose | .simple | .sparse | .force | .version | .help => .error .misuse

/-- Choose what a word says, where inputs are welcome or not. -/
def add (welcome : Bool) (choices : Choices) : Word → Except Notice Choices
  | .flag switch => choices.flag switch
  | .valued switch value => choices.valued value switch
  | .input text =>
    if welcome then .ok { choices with inputs := choices.inputs ++ [text] } else .error .misuse
  | .unknown => .error .misuse

/-- What words choose, or the notice that the first of them to end the reading asks for. -/
def ofWords (welcome : Bool) (words : List Word) : Except Notice Choices :=
  words.foldlM (add welcome) unset

end Choices

/-- What an analysis is asked for. -/
structure AnalysisRequest where
  inputs : List String
  assignments : List String
  format : Option OutputFormat
  simple : Bool
  /-- Facts that no document gives are left absent. -/
  sparse : Bool
  output : Option String
  deriving DecidableEq, Repr

/-- The work of a command. -/
inductive Task
  | analyze (request : AnalysisRequest)
  | rules (format : Option OutputFormat)
  | init (force : Bool)
  deriving DecidableEq, Repr

/-- The work that choices behind a verb ask for. -/
def Choices.task (choices : Choices) : Option Verb → Task
  | some .rules => .rules choices.format
  | some .init => .init choices.force
  | some .analyze | none =>
    .analyze
      ⟨choices.inputs, choices.assignments, choices.format, choices.simple, choices.sparse,
        choices.output⟩

end CommandLine

/-- What a command line asks for. -/
structure Command where
  verbose : Bool
  /-- The path of the settings, unless they are at the default path. -/
  settings : Option String
  task : CommandLine.Task
  deriving DecidableEq, Repr

namespace Command

open CommandLine

/-- Whether inputs may stand behind a verb. -/
def takesInputs (verb : Option Verb) : Bool := verb = none ∨ verb = some .analyze

/-- Read the arguments behind a verb. -/
def ofRest (verb : Option Verb) (arguments : List String) : Except Notice Command := do
  let choices ← Choices.ofWords (takesInputs verb) (words (Switch.behind verb) arguments)
  pure ⟨choices.verbose, choices.settings, choices.task verb⟩

/-- What asking for help on some words leads to. -/
def helpOn : List String → Notice
  | [] => .help
  | [topic] => if topic = "help" ∨ (Verb.named? topic).isSome then .help else .misuse
  | _ => .misuse

/-- Read a command line.  Only its first argument can be a verb. -/
def ofArguments : List String → Except Notice Command
  | [] => ofRest none []
  | first :: rest =>
    if first = "help" then .error (helpOn rest)
    else match Verb.named? first with
      | some verb => ofRest (some verb) rest
      | none => ofRest none (first :: rest)

end Command

end CallToAction
