/-!
# Ink

Text on a terminal is dressed by escape sequences: `ESC [ n m` switches a property on, and a
second sequence switches it off again.  `Ink` is one such property, and `paint` dresses a text in
several of them, the first one innermost.  Without colors a text is left bare.
-/

namespace CallToAction

/-- A property of text on a terminal. -/
inductive Ink
  | bold
  | dimmed
  | red
  | green
  | yellow
  | magenta
  | cyan
  deriving DecidableEq, Repr

namespace Ink

/-- The code that switches a property on. -/
def start : Ink → String
  | .bold => "1"
  | .dimmed => "2"
  | .red => "31"
  | .green => "32"
  | .yellow => "33"
  | .magenta => "35"
  | .cyan => "36"

/-- The code that switches a property off: all of weight, or the foreground color. -/
def stop : Ink → String
  | .bold | .dimmed => "0"
  | _ => "39"

/-- The escape sequence of a code. -/
def sequence (code : String) : String := "\x1b[" ++ code ++ "m"

/-- A text dressed in one property. -/
def dress (ink : Ink) (s : String) : String := sequence ink.start ++ s ++ sequence ink.stop

/-- A text in some inks, the first one innermost; bare when colors are off. -/
def paint (colors : Bool) (inks : List Ink) (s : String) : String :=
  if colors then inks.foldl (fun s ink => ink.dress s) s else s

end Ink

end CallToAction
