import CallToAction.Document.Basic
import CallToAction.Glob.Expansion

/-!
# Sources

A source is where the facts of a page come from: a file, the standard input, or nothing at all when
no inputs are given.  Inputs are turned into sources one after another: a hyphen is the standard
input, which can be read once only, a pattern stands for the files that fit it, in the order of
their components, and any other text is the path of a file.

Patterns are looked up by a `Glob.Look`, in a run of the program among its files.
-/

namespace CallToAction

/-- Where the facts of a page come from. -/
inductive Source
  /-- Nothing but what is layered around every page. -/
  | inline
  | standardInput
  | file (path : String)
  deriving DecidableEq, Repr

/-- Why inputs are no sources. -/
inductive InputError
  | repeatedStandardInput
  | invalidPattern (pattern : String) (cause : PatternError)
  | unreadablePattern (pattern : String) (cause : Glob.Refusal)
  | noMatch (pattern : String)
  deriving DecidableEq, Repr

/-- The wording of an `InputError`, its cause last. -/
def InputError.message : InputError → String
  | repeatedStandardInput => "stdin ('-') can only be given once"
  | invalidPattern pattern cause => s!"Invalid glob pattern '{pattern}': {cause.message}"
  | unreadablePattern pattern cause => s!"Failed to expand '{pattern}': {cause.message}"
  | noMatch pattern => s!"No files match '{pattern}'"

namespace Source

/-- The name of a source in listings and messages. -/
def name : Source → String
  | inline => "(inline)"
  | standardInput => "(stdin)"
  | file path => path

variable (look : Glob.Look)

/-- The files that fit a pattern; there must be one. -/
def ofPattern (pattern : String) : Except InputError (List Source) :=
  match look pattern with
  | .error cause => .error (.invalidPattern pattern cause)
  | .ok found =>
    match Glob.gather found with
    | .error cause => .error (.unreadablePattern pattern cause)
    | .ok [] => .error (.noMatch pattern)
    | .ok paths => .ok ((paths.mergeSort Path.precedes).map file)

/-- The sources of an input. -/
def ofInput (input : String) : Except InputError (List Source) :=
  if input = "-" then .ok [standardInput]
  else if isPattern input then ofPattern look input
  else .ok [file input]

/-- The sources of further inputs, where the standard input was given before or not. -/
def ofMore (given : Bool) : List String → Except InputError (List Source)
  | [] => .ok []
  | input :: inputs =>
    if given && input == "-" then .error .repeatedStandardInput
    else do
      let first ← ofInput look input
      let rest ← ofMore (given || input == "-") inputs
      pure (first ++ rest)

/-- The sources of inputs, in order. -/
def expand : List String → Except InputError (List Source)
  | [] => .ok [inline]
  | inputs => ofMore look false inputs

/-- The sources of inputs among the files of a tree. -/
def ofInputs (files : FileTree) (inputs : List String) : Except InputError (List Source) :=
  expand (Glob.look files) inputs

end Source

end CallToAction
