/-!
# `Courier.Yaml.Cursor`: places in a YAML text

YAML gives a meaning to the column at which something stands. A cursor is a place in a text: the
characters that follow, and the line and the column. Reading moves it one character at a time.

Line breaks of other systems are read as line feeds, which `normalize` makes of them in advance;
two separators of Unicode are line breaks that stay themselves.
-/

set_option autoImplicit false

namespace Courier.Yaml

/-- Whether a character breaks a line. -/
def isBreak (c : Char) : Bool := c = '\n' || c = '\u2028' || c = '\u2029'

/-- Whether a character is a blank within a line. -/
def isBlank (c : Char) : Bool := c = ' ' || c = '\t'

/-- The text with every line break of one or two characters as a line feed. -/
def normalize : List Char → List Char
  | [] => []
  | '\r' :: '\n' :: rest => '\n' :: normalize rest
  | '\r' :: rest => '\n' :: normalize rest
  | c :: rest => (if c = '\u0085' then '\n' else c) :: normalize rest

/-- Whether a text may hold a character. -/
def isAllowed (c : Char) : Bool :=
  let n := c.toNat
  n = 9 || n = 10 || n = 13 || (0x20 ≤ n && n ≤ 0x7e) || n = 0x85 || (0xa0 ≤ n && n ≤ 0xfffd)
    || 0x10000 ≤ n

/-- A place in a text. -/
structure Cursor where
  rest : List Char
  line : Nat := 0
  column : Nat := 0
  /-- The number of characters before the place. -/
  index : Nat := 0

namespace Cursor

/-- The place after the next character. -/
def step (c : Cursor) : Cursor :=
  match c.rest with
  | [] => c
  | x :: rest =>
    if isBreak x then ⟨rest, c.line + 1, 0, c.index + 1⟩
    else ⟨rest, c.line, c.column + 1, c.index + 1⟩

/-- The place after some characters. -/
def skip (c : Cursor) : Nat → Cursor
  | 0 => c
  | n + 1 => c.step.skip n

/-- A step takes one character. -/
theorem length_step_lt {c : Cursor} {x : Char} {rest : List Char} (h : c.rest = x :: rest) :
    c.step.rest.length < c.rest.length := by
  simp only [step, h]
  split <;> simp

/-- The next character. -/
def peek? (c : Cursor) : Option Char := c.rest.head?

/-- Whether a blank, a line break or the end stands `n` characters further on. -/
def spaceAt (c : Cursor) (n : Nat) : Bool :=
  match c.rest[n]? with
  | none => true
  | some x => isBlank x || isBreak x

/-- Whether a mark of three characters stands alone at the beginning of a line. -/
def atMark (c : Cursor) (mark : Char) : Bool :=
  c.column = 0 && c.rest.take 3 = [mark, mark, mark] && c.spaceAt 3

/-- Whether a document begins or ends here. -/
def atDocumentMark (c : Cursor) : Bool := c.atMark '-' || c.atMark '.'

/-- The characters up to one that does not satisfy `p`, and the place of that one. -/
def takeWhile (p : Char → Bool) (c : Cursor) : List Char × Cursor :=
  match _h : c.rest with
  | [] => ([], c)
  | x :: _ =>
    if p x then
      let (taken, c) := takeWhile p c.step
      (x :: taken, c)
    else ([], c)
termination_by c.rest.length
decreasing_by exact length_step_lt ‹_›

end Cursor

/-- Blanks and line breaks between the words of a scalar. -/
structure Gap where
  /-- The blanks before the first line break. -/
  blanks : List Char := []
  /-- The line breaks. -/
  breaks : List Char := []
  /-- Whether a line break belongs to the gap, even one that leaves no trace. -/
  broken : Bool := false
  /-- Whether a tab stands where only spaces indent. -/
  tabbed : Bool := false

namespace Gap

/-- What a gap stands for in a scalar: without line breaks its blanks; one line break is a space,
and of several the first leaves no trace. -/
def fold (g : Gap) : List Char :=
  if g.broken then
    match g.breaks with
    | ['\n'] => [' ']
    | '\n' :: more => more
    | breaks => breaks
  else g.blanks

/-- Reads a gap further. A tab in a later line and before the column `indent` is marked. -/
def read (indent : Int) (g : Gap) (c : Cursor) : Gap × Cursor :=
  match _h : c.rest with
  | [] => (g, c)
  | x :: _ =>
    if isBreak x then read indent { g with breaks := g.breaks ++ [x], broken := true } c.step
    else if isBlank x then
      if g.broken then
        read indent { g with tabbed := g.tabbed || (x = '\t' && c.column < indent) } c.step
      else read indent { g with blanks := g.blanks ++ [x] } c.step
    else (g, c)
termination_by c.rest.length
decreasing_by all_goals exact Cursor.length_step_lt ‹_›

end Gap

end Courier.Yaml
