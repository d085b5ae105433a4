import CallToAction.CommandLine.Presentation
import CallToAction.KnowledgeBase.Catalogue
import CallToAction.KnowledgeBase.Standard

/-!
# Carrying out commands

A command is carried out among files, with a text on the standard input.  It leaves behind an exit
status, what it printed on either stream, and the files.

* `AnalysisRequest.outcomes`: what becomes of the pages, before anything is shown;
* `Command.runWith`: the settings come first, and nothing is done under settings that do not hold or
  with rules that have defects;
* `respond`: a command line, understood or not.
-/

namespace CallToAction.CommandLine

/-- Where a command is carried out. -/
structure Surroundings where
  inputs : Inputs
  /-- The home directory, if there is one. -/
  home : Option String
  /-- The width of the terminal, if there is one. -/
  columns : Option Nat
  /-- Whether results are printed to a terminal. -/
  terminal : Bool

/-- What a command leaves behind. -/
structure Response where
  status : ExitStatus
  /-- What is printed as the result. -/
  output : String
  /-- What is printed besides. -/
  messages : String
  files : FileTree
  deriving DecidableEq

/-- The response of a failure behind other messages. -/
def Failure.response (f : Failure) (messages : String) (files : FileTree) : Response :=
  ⟨f.status, "", messages ++ f.message ++ "\n", files⟩

/-! ### Analyses -/

namespace AnalysisRequest

/-- The facts below those of every page. -/
def baseline (request : AnalysisRequest) (settings : Settings) : FactSheet :=
  (if request.sparse then FactSheet.empty else .defaults).overlay
    (settings.defaults.getD .empty)

/-- The facts above those of every page. -/
def overrides (request : AnalysisRequest) : Except Failure FactSheet :=
  match FactSheet.ofAssignments request.assignments with
  | .ok facts => .ok facts
  | .error errors => .error (.assignments errors)

/-- Where the pages come from. -/
def sources (request : AnalysisRequest) (files : FileTree) : Except Failure (List Source) :=
  match Source.ofInputs files request.inputs with
  | .ok sources => .ok sources
  | .error cause => .error (.inputs cause)

/-- What becomes of the pages. -/
def outcomes (request : AnalysisRequest) (kb : KnowledgeBase) (settings : Settings)
    (inputs : Inputs) : Except Failure (List PageOutcome) := do
  let overrides ← request.overrides
  let sources ← request.sources inputs.files
  pure (Batch.analyze kb ⟨request.baseline settings, overrides⟩ inputs sources)

/-- Print a text, or put it into the file that is asked for: what is printed, and the files. -/
def emit (request : AnalysisRequest) (files : FileTree) (text : String) :
    Except Failure (String × FileTree) :=
  match request.output with
  | none => .ok (text ++ "\n", files)
  | some path =>
    match files.replace path (text ++ "\n") with
    | .ok files => .ok ("", files)
    | .error cause => .error (.output path cause)

/-- The status of an analysis that was shown: a failure if no page succeeded. -/
def status (os : List PageOutcome) : ExitStatus :=
  if os.all fun o => !o.result.toBool then .invalidInput else .success

/-- Present the outcomes of an analysis. -/
def present (request : AnalysisRequest) (s : Surroundings) (settings : Settings)
    (os : List PageOutcome) : Except Failure (String × FileTree) := do
  request.emit s.inputs.files (← (request.presentation settings s.terminal).text os)

/-- Carry out an analysis. -/
def run (request : AnalysisRequest) (kb : KnowledgeBase) (s : Surroundings) (settings : Settings)
    (verbose : Bool) : Response :=
  match request.outcomes kb settings s.inputs with
  | .error f => f.response "" s.inputs.files
  | .ok os =>
    let messages := if verbose then diagnoses os else ""
    match request.present s settings os with
    | .error f => f.response messages s.inputs.files
    | .ok (output, files) => ⟨status os, output, messages, files⟩

end AnalysisRequest

/-! ### Commands -/

/-- The rules as a text. -/
def catalogue (kb : KnowledgeBase) (s : Surroundings) (settings : Settings)
    (format : Option OutputFormat) : String :=
  match formatOf settings format with
  | .json => kb.toJson.indented
  | .text => kb.table s.columns (colored settings s.terminal)

/-- Write settings to begin with. -/
def start (s : Surroundings) (path : Option String) (force : Bool) : Response :=
  match Settings.writeStarter s.inputs.files s.home path force with
  | (files, .ok path) => ⟨.success, s!"Wrote starter config to {path}\n", "", files⟩
  | (files, .error cause) => (Failure.starter cause).response "" files

/-- The settings of a command, which must be in range. -/
def settings (s : Surroundings) (path : Option String) : Except Failure Settings :=
  match Settings.load s.inputs.files s.home path with
  | .error cause => .error (.settings cause)
  | .ok settings =>
    match settings.complaints with
    | [] => .ok settings
    | complaints => .error (.outOfRange complaints)

/-- Carry out work with rules under settings, which come first; the rules must have no defects. -/
def underSettings (kb : KnowledgeBase) (s : Surroundings) (path : Option String)
    (work : Settings → Response) : Response :=
  match settings s path with
  | .error f => f.response "" s.inputs.files
  | .ok settings =>
    match kb.defects with
    | [] => work settings
    | defects => (Failure.rules defects).response "" s.inputs.files

end CommandLine

open CommandLine

/-- Carry out a command with given rules. -/
def Command.runWith (kb : KnowledgeBase) (s : Surroundings) (command : Command) : Response :=
  match command.task with
  | .init force => start s command.settings force
  | .rules format =>
    underSettings kb s command.settings fun settings =>
      ⟨.success, catalogue kb s settings format ++ "\n", "", s.inputs.files⟩
  | .analyze request =>
    underSettings kb s command.settings fun settings => request.run kb s settings command.verbose

/-- Carry out a command with the standard rules. -/
def Command.run (s : Surroundings) (command : Command) : Response := command.runWith .standard s

/-! ### Command lines -/

namespace CommandLine

/-- What is answered when help is asked for. -/
def usage : String :=
  Text.lines
    ["Call-to-action design advisor", "",
      "Usage: cta-advisor [analyze] [INPUTS]... [OPTIONS]", "       cta-advisor rules [OPTIONS]",
      "       cta-advisor init [OPTIONS]", "",
      "Inputs are fact files (YAML or JSON), glob patterns, or - for stdin.", "",
      "  -s, --set KEY=VALUE  Override a fact (repeatable)",
      "  -f, --format FORMAT  text or json", "      --simple         Condensed report",
      "      --partial        Do not fill missing facts with defaults",
      "  -o, --output PATH    Write the result to a file",
      "      --force          Overwrite an existing config file (init)",
      "  -c, --config PATH    Path to config file", "  -v, --verbose        Show diagnostics",
      "  -V, --version        Print the version", "  -h, --help           Print this help", ""]

/-- The response to a command line that is no command. -/
def Notice.response (files : FileTree) : Notice → Response
  | .version => ⟨.success, "cta-advisor 0.1.0\n", "", files⟩
  | .help => ⟨.success, usage, "", files⟩
  | .misuse => ⟨.invalidInput, "", "usage error\n", files⟩

/-- Carry out a command line. -/
def respond (s : Surroundings) (arguments : List String) : Response :=
  match Command.ofArguments arguments with
  | .ok command => command.run s
  | .error notice => notice.response s.inputs.files

end CommandLine

end CallToAction
