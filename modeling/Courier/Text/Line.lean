import Courier.Bytes
import Courier.Text.Blank

/-!
# `Courier.Text.Line`: lines of input

A line ends in a line feed, in front of which a carriage return can stand, or with the input. A
backspace in a line takes away the character in front of it, with the marks that belong to it.
-/

set_option autoImplicit false

namespace Courier.Text

/-- What comes of asking for a line. -/
inductive Line where
  | text (s : String)
  /-- The input is at its end. -/
  | ended
  /-- The line is not UTF-8. -/
  | notText
deriving DecidableEq

namespace Line

/-- The marks that belong to the character in front of them. -/
def markRanges : List (Nat × Nat) :=
  [(0x300, 0x36f), (0x483, 0x489), (0x591, 0x5bd), (0x610, 0x61a), (0x64b, 0x65f), (0x200c, 0x200d),
    (0x20d0, 0x20f0), (0x302a, 0x302f), (0x3099, 0x309a), (0xfe00, 0xfe0f), (0xfe20, 0xfe2f),
    (0x1f3fb, 0x1f3ff), (0xe0100, 0xe01ef)]

/-- The characters with what their backspaces take away. What stands so far is given last
character first. -/
def withoutErased (done : List Char) : List Char → List Char
  | [] => done.reverse
  | c :: cs =>
    if c = '\x08' then withoutErased (done.dropWhile (inRanges markRanges)).tail cs
    else withoutErased (c :: done) cs

/-- The text of a line that has come to its end. -/
def ofBytes (b : Bytes) : Line :=
  match Bytes.toString? b with
  | none => .notText
  | some s =>
    let cs := match s.toList.reverse with
      | '\n' :: '\r' :: cs => cs.reverse
      | '\n' :: cs => cs.reverse
      | cs => cs.reverse
    .text (String.ofList (withoutErased [] cs))

/-- The first line of some input, and what follows it. -/
def read (input : Bytes) : Line × Bytes :=
  match input.span (· ≠ 10) with
  | ([], []) => (.ended, [])
  | (line, []) => (ofBytes line, [])
  | (line, lf :: rest) => (ofBytes (line ++ [lf]), rest)

end Line

end Courier.Text
