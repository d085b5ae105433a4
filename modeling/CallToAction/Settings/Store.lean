import CallToAction.FileTree.Basic
import CallToAction.Settings.Document

/-!
# Stored settings

Settings are kept in a file: one that the user names, or one in the home directory, which may be
missing.  `Settings.place` is where this file is, if it is anywhere: there may be no home directory.
`Settings.writeStarter` writes a file with common settings to begin with; it replaces an existing
file only by force.
-/

namespace CallToAction

namespace Settings

/-- The path of the settings in a home directory. -/
def defaultPath (home : String) : String :=
  Path.join (Path.join (Path.join home ".config") "cta-advisor") "config.yaml"

/-- Where settings are kept: at a path that is given, or at the default path. -/
def place (home path : Option String) : Option String := path <|> home.map defaultPath

/-! ### Loading -/

/-- Why settings cannot be loaded. -/
inductive LoadError
  /-- There is no home directory. -/
  | homeless
  | missing (path : String)
  | unreadable (path : String) (cause : OsError)
  | invalid (path : String)
  deriving DecidableEq, Repr

/-- The wording of a `LoadError`, its cause last. -/
def LoadError.message : LoadError → String
  | homeless => "Could not determine home directory"
  | missing path => s!"Config file not found at {path}"
  | unreadable path cause => s!"Failed to read config file at {path}: {cause.message}"
  | invalid path => s!"Failed to parse config: invalid YAML in {path}"

/-- Read the settings in a file that exists. -/
def readFile (files : FileTree) (path : String) : Except LoadError Settings :=
  match files.read path with
  | .error cause => .error (.unreadable path cause)
  | .ok text =>
    match ofYaml? text with
    | some settings => .ok settings
    | none => .error (.invalid path)

/-- Load the settings at a path, or at the default path.  Nothing is set where a file at the default
path is missing. -/
def load (files : FileTree) (home path : Option String) : Except LoadError Settings :=
  match place home path with
  | none => .error .homeless
  | some target =>
    if files.contains target then readFile files target
    else if path.isSome then .error (.missing target)
    else .ok unset

/-! ### Starting -/

/-- The text of the settings to begin with. -/
def starter : String :=
  "# cta-advisor configuration\n\noutput:\n  # text or json\n  format: text\n"
    ++ "  # auto, always or never\n  color: auto\n"
    ++ "  # recommendations shown in terminal output (1-5)\n  recommendations: 5\n\n"
    ++ "# Baseline facts layered under every analyzed page. Facts from the page\n"
    ++ "# file and --set overrides win over these.\ndefaults:\n"
    ++ "  largest_other_element_size: 8000\n  cta_mobile_width: 200\n  cta_mobile_height: 48\n"

/-- Why the settings to begin with cannot be written. -/
inductive StarterError
  /-- There is no home directory. -/
  | homeless
  | exists (path : String)
  | directory (path : String) (cause : OsError)
  | opening (path : String) (cause : OsError)
  | saving (cause : OsError)
  deriving DecidableEq, Repr

/-- The wording of a `StarterError`, its cause last. -/
def StarterError.message : StarterError → String
  | homeless => "Could not determine home directory"
  | .exists path => s!"Config file already exists at {path}. Use --force to overwrite it."
  | directory path cause => s!"Failed to create config directory at {path}: {cause.message}"
  | opening path cause => s!"Failed to open atomic write file at {path}: {cause.message}"
  | saving cause => s!"Failed to save starter config: {cause.message}"

/-- Make the directory of a path where it is missing.  If this fails, the files that there are by
then, and why. -/
def makeHome (files : FileTree) (path : String) : Except (FileTree × StarterError) FileTree :=
  let parent := Path.parent path
  if parent = "" ∨ files.contains parent then .ok files
  else match files.makeDirectories parent with
    | .ok files => .ok files
    | .error unmade => .error (unmade.files, .directory parent unmade.cause)

/-- Put the settings to begin with at a path.  The files after it, and the path or why it was not
written. -/
def putStarter (files : FileTree) (path : String) (force : Bool) :
    FileTree × Except StarterError String :=
  if files.contains path && !force then (files, .error (.exists path))
  else match makeHome files path with
    | .error (left, e) => (left, .error e)
    | .ok made =>
      match made.replace path starter with
      | .ok written => (written, .ok path)
      | .error (.opening cause) => (made, .error (.opening path cause))
      | .error (.saving cause) => (made, .error (.saving cause))

/-- Put the settings to begin with at a path, or at the default path. -/
def writeStarter (files : FileTree) (home path : Option String) (force : Bool) :
    FileTree × Except StarterError String :=
  match place home path with
  | none => (files, .error .homeless)
  | some target => putStarter files target force

end Settings

end CallToAction
