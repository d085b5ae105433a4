import CallToAction.CommandLine.Run

/-!
# The program

The program observes the files that its command line names, carries the command line out among them,
prints the response and brings the changes of the files about.
-/

namespace CallToAction.Program

open CommandLine

/-- Whether a path leads anywhere. -/
def leads (path : String) : IO Bool := do
  try
    discard (IO.FS.realPath path)
    pure true
  catch _ => pure false

/-- What stands at a path. -/
def entry? (path : String) : IO (Option FileTree.Entry) := do
  if ← leads (path ++ "/.") then pure (some .directory)
  else
    try
      let text ← IO.FS.readFile path
      pure (some (.file text))
    catch _ => pure none

/-- Observe what stands along components. -/
def observeAlong (files : FileTree) (route : Route) : List String → IO FileTree
  | [] => pure files
  | part :: parts => do
    let next := FileTree.step route part
    match ← entry? next.path with
    | some entry => observeAlong (files.put next entry) next parts
    | none => pure files

/-- Observe what stands along a path. -/
def observe (files : FileTree) (path : String) : IO FileTree :=
  observeAlong files (FileTree.start path) (Path.parts path)

/-- Observe the names below a directory, down to a depth. -/
def observeBelow (depth : Nat) (files : FileTree) (route : Route) : IO FileTree := do
  match depth with
  | 0 => pure files
  | depth + 1 =>
    if ← leads (route.path ++ "/.") then
      let entries ← (← IO.FS.realPath route.path).readDir
      entries.toList.foldlM (fun files entry => do
        let next := route.child entry.fileName
        if ← leads (next.path ++ "/.") then
          observeBelow depth (files.put next .directory) next
        else pure (files.put next (.file ""))) files
    else pure files

/-- How deep a pattern reaches into directories. -/
def depthOf (components : List Glob.Component) : Nat :=
  if components.contains .anyDirectories then 32 else components.length

/-- Observe the names that a pattern may stand for. -/
def observePattern (files : FileTree) (route : Route) : List Glob.Component → IO FileTree
  | .literal name :: rest => do
    let next := FileTree.step route name
    if ← leads next.path then observePattern (← observeAlong files route [name]) next rest
    else pure files
  | components => observeBelow (depthOf components) files route

/-- Observe what an input may stand for. -/
def observeInput (files : FileTree) (input : String) : IO FileTree :=
  if isPattern input then
    match Glob.PathPattern.parse input with
    | .ok pattern => observePattern files ⟨pattern.absolute, []⟩ pattern.components
    | .error _ => pure files
  else pure files

/-- Observe the file of a source. -/
def observeSource (files : FileTree) : Source → IO FileTree
  | .file path => observe files path
  | .inline | .standardInput => pure files

/-- The rest of a stream. -/
partial def readAll (stream : IO.FS.Stream) (text : String) : IO String := do
  let line ← stream.getLine
  if line.isEmpty then pure text else readAll stream (text ++ line)

/-- Observe what an analysis is about. -/
def observeRequest (files : FileTree) (request : AnalysisRequest) : IO Inputs := do
  let files ← request.output.toList.foldlM observe files
  let files ← request.inputs.foldlM observeInput files
  match Source.ofInputs files request.inputs with
  | .error _ => pure ⟨files, ""⟩
  | .ok sources =>
    let files ← sources.foldlM observeSource files
    let standard ← if sources.contains .standardInput then readAll (← IO.getStdin) "" else pure ""
    pure ⟨files, standard⟩

/-- Observe what a command is about. -/
def observeCommand (home : Option String) (command : Command) : IO Inputs := do
  let files ← (Settings.place home command.settings).toList.foldlM observe .empty
  match command.task with
  | .analyze request => observeRequest files request
  | .rules _ | .init _ => pure ⟨files, ""⟩

/-- Observe where a command line is carried out. -/
def surroundings (arguments : List String) : IO Surroundings := do
  let home ← IO.getEnv "HOME"
  let inputs ←
    match Command.ofArguments arguments with
    | .ok command => observeCommand home command
    | .error _ => pure ⟨.empty, ""⟩
  let terminal ← (← IO.getStdout).isTty
  let width := (← IO.getEnv "COLUMNS").bind String.toNat?
  pure ⟨inputs, home, if terminal then width else none, terminal⟩

/-- Bring a change about.  A file takes the place of another one in a single step. -/
def bringAbout (change : Route × FileTree.Entry) : IO Unit := do
  let path := change.1.path
  match change.2 with
  | .directory => IO.FS.createDirAll path
  | .file text =>
    IO.FS.writeFile (path ++ ".new") text
    IO.FS.rename (path ++ ".new") path

/-- Carry out a command line. -/
def run (arguments : List String) : IO UInt32 := do
  let before ← surroundings arguments
  let response := respond before arguments
  try
    (before.inputs.files.changes response.files).forM bringAbout
    IO.eprint response.messages
    IO.print response.output
    pure response.status.code.toUInt32
  catch e =>
    IO.eprintln ("Output error: " ++ toString e)
    pure ExitStatus.invalidInput.code.toUInt32

end CallToAction.Program

/-- Carry out the command line of the program. -/
def main (arguments : List String) : IO UInt32 := CallToAction.Program.run arguments
