/-!
# `Courier.Text.Paint`: coloured text

Colours and weights of a text on a terminal are written as control sequences around it. On
anything else nothing is written but the text.
-/

set_option autoImplicit false

namespace Courier.Text

/-- How a text looks: its weight, then its colour. -/
inductive Look where
  | bold
  | dimmed
  | red
  | green
  | yellow
  | cyan
  | boldCyan
  | boldRed
deriving DecidableEq

/-- The numbers that select a look. -/
def Look.code : Look → String
  | .bold => "1"
  | .dimmed => "2"
  | .red => "31"
  | .green => "32"
  | .yellow => "33"
  | .cyan => "36"
  | .boldCyan => "1;36"
  | .boldRed => "1;31"

/-- The control sequence that ends every look. -/
def plainLook : String := "\x1b[0m"

/-- The control sequence that begins a look. -/
def Look.start (l : Look) : String := "\x1b[" ++ l.code ++ "m"

/-- A text with a look. Where the text itself ends every look, the look begins anew. -/
def paint (colored : Bool) (l : Look) (s : String) : String :=
  if colored then l.start ++ s.replace plainLook (plainLook ++ l.start) ++ plainLook else s

end Courier.Text
