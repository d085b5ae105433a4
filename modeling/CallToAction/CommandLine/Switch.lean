import CallToAction.Text.Layout

/-!
# Switches

A command line begins with a verb or leaves it out, and then means an analysis.  Each verb has
switches of its own.  A switch has a long name and may have a letter; some take a value.
-/

namespace CallToAction.CommandLine

/-- What is to be done. -/
inductive Verb
  | analyze
  | rules
  | init
  deriving DecidableEq, Repr

namespace Verb

/-- All verbs. -/
def all : List Verb := [analyze, rules, init]

/-- The name of a verb. -/
def name : Verb → String
  | analyze => "analyze"
  | rules => "rules"
  | init => "init"

/-- The verb with a name. -/
def named? (s : String) : Option Verb := all.find? fun verb => verb.name = s

end Verb

/-- A named option of the command line. -/
inductive Switch
  /-- Show how scores came about. -/
  | verbose
  /-- Take settings from a file. -/
  | settings
  /-- Override a fact. -/
  | assign
  | format
  /-- Show a digest in place of a report. -/
  | simple
  /-- Leave facts absent that no document gives. -/
  | sparse
  /-- Write the result to a file. -/
  | output
  /-- Replace a file that exists. -/
  | force
  | version
  | help
  deriving DecidableEq, Repr

namespace Switch

/-- The long name of a switch. -/
def name : Switch → String
  | verbose => "verbose"
  | settings => "config"
  | assign => "set"
  | format => "format"
  | simple => "simple"
  | sparse => "partial"
  | output => "output"
  | force => "force"
  | version => "version"
  | help => "help"

/-- The letter of a switch. -/
def letter? : Switch → Option Char
  | verbose => some 'v'
  | settings => some 'c'
  | assign => some 's'
  | format => some 'f'
  | output => some 'o'
  | version => some 'V'
  | help => some 'h'
  | simple | sparse | force => none

/-- Whether a switch comes with a value. -/
def takesValue : Switch → Bool
  | settings | assign | format | output => true
  | verbose | simple | sparse | force | version | help => false

/-- The switches of every verb. -/
def common : List Switch := [verbose, settings, help]

/-- The switches of an analysis. -/
def ofAnalysis : List Switch := common ++ [assign, format, simple, sparse, output]

/-- The switches behind a verb, or where the verb is left out. -/
def behind : Option Verb → List Switch
  | none => ofAnalysis ++ [version]
  | some .analyze => ofAnalysis
  | some .rules => common ++ [format]
  | some .init => common ++ [force]

/-- The switch among some with a long name. -/
def named? (switches : List Switch) (s : String) : Option Switch :=
  switches.find? fun switch => switch.name = s

/-- The switch among some with a letter. -/
def lettered? (switches : List Switch) (c : Char) : Option Switch :=
  switches.find? fun switch => switch.letter? = some c

end Switch

end CallToAction.CommandLine
