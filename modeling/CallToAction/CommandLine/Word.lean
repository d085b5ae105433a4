import CallToAction.CommandLine.Switch
import CallToAction.FileTree.Path

/-!
# Words of a command line

The arguments behind the verb are words: switches, with their values, and inputs.  A long name
follows two hyphens and may carry its value behind an equals sign.  Letters follow one hyphen, many
together if they like; a letter that takes a value takes the rest of its argument, or else the next
argument, unless that looks like a switch itself.  A lone hyphen is an input, and so is everything
behind two hyphens that stand alone.

Nothing is read behind a word that cannot be understood.
-/

namespace CallToAction.CommandLine

/-- What an argument says, or a part of it. -/
inductive Word
  | flag (switch : Switch)
  | valued (switch : Switch) (value : String)
  | input (text : String)
  /-- No word at all. -/
  | unknown
  deriving DecidableEq, Repr

/-- The words of an argument, and the switch that takes the next argument as its value. -/
structure Argument where
  words : List Word
  awaits : Option Switch
  deriving DecidableEq, Repr

namespace Argument

/-- An argument that is complete. -/
def complete (words : List Word) : Argument := ⟨words, none⟩

/-- The argument of a long name, with the value behind the equals sign. -/
def ofName (switches : List Switch) (name : String) (value : Option String) : Argument :=
  match Switch.named? switches name, value with
  | none, _ => complete [.unknown]
  | some switch, none => if switch.takesValue then ⟨[], some switch⟩ else complete [.flag switch]
  | some switch, some value =>
    complete [if switch.takesValue then .valued switch value else .unknown]

/-- The argument behind two hyphens. -/
def ofLong (switches : List Switch) (cs : List Char) : Argument :=
  match cs.span (· ≠ '=') with
  | (name, []) => ofName switches (.ofList name) none
  | (name, _ :: value) => ofName switches (.ofList name) (some (.ofList value))

/-- The argument of a letter that takes a value, with what follows the letter. -/
def ofLetter (switch : Switch) : List Char → Argument
  | [] => ⟨[], some switch⟩
  | '=' :: value => complete [.valued switch (.ofList value)]
  | value => complete [.valued switch (.ofList value)]

/-- The argument behind one hyphen. -/
def ofLetters (switches : List Switch) : List Char → Argument
  | [] => complete []
  | c :: cs =>
    match Switch.lettered? switches c with
    | none => complete [.unknown]
    | some switch =>
      if switch.takesValue then ofLetter switch cs
      else
        let rest := ofLetters switches cs
        { rest with words := .flag switch :: rest.words }

/-- Whether an argument looks like a switch. -/
def isHyphened (s : String) : Bool := s.toList.head? == some '-' && s != "-"

/-- Read an argument other than two hyphens. -/
def ofText (switches : List Switch) (s : String) : Argument :=
  if isHyphened s then
    match s.toList.tail with
    | '-' :: name => ofLong switches name
    | letters => ofLetters switches letters
  else complete [.input s]

end Argument

/-- The words of arguments. -/
def words (switches : List Switch) : List String → List Word
  | [] => []
  | s :: rest =>
    if s = "--" then rest.map .input
    else
      let argument := Argument.ofText switches s
      match argument.awaits, rest with
      | none, rest => argument.words ++ words switches rest
      | some _, [] => argument.words ++ [.unknown]
      | some switch, value :: rest =>
        if Argument.isHyphened value then argument.words ++ [.unknown]
        else argument.words ++ .valued switch value :: words switches rest

end CallToAction.CommandLine
