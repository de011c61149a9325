import Courier.Yaml.Scalar
import Courier.Yaml.Tag

/-!
# `Courier.Yaml.Token`: the marks and scalars of a YAML text

Indentation has a meaning, so that the columns at which lines begin become marks of their own:
where a block begins, and where the blocks end that a line leaves.

What stands in front of a colon is known as a key only when the colon comes. So the place of
whatever may be a key is kept, and the marks of a key, and of the block that it begins, are put
there when the colon has come. A key in a block stands on one line and is short, and where the
indentation says that a key must stand, the colon has to come.
-/

set_option autoImplicit false

namespace Courier.Yaml

/-- A mark or a scalar. -/
inductive Token where
  | directive (d : Tag.Directive)
  | documentStart
  | documentEnd
  | blockSequence
  | blockMapping
  | blockEnd
  | flowSequence
  | flowSequenceEnd
  | flowMapping
  | flowMappingEnd
  /-- The hyphen in front of an item of a block. -/
  | item
  /-- The comma between entries in brackets. -/
  | comma
  | key
  | value
  | alias (name : String)
  | anchor (name : String)
  /-- A tag and the handle in front of it, which is empty for a tag that has none. -/
  | tag (handle : String) (rest : Bytes)
  | scalar (text : String) (style : Style)
deriving DecidableEq

/-- The place of something that may be a key. -/
structure KeyPlace where
  /-- Whether the indentation says that it is one. -/
  required : Bool
  /-- The number of tokens in front of it. -/
  position : Nat
  cursor : Cursor

/-- How far scanning has come. -/
structure Scan where
  cursor : Cursor
  tokens : List Token := []
  /-- The columns of the blocks around the place, innermost first. -/
  indents : List Int := []
  /-- The column of the innermost block, or -1. -/
  indent : Int := -1
  /-- Whether a key may begin at the place. -/
  keyAllowed : Bool := true
  /-- What may be a key, for the block and for each pair of brackets around the place, innermost
  first. -/
  keys : List (Option KeyPlace) := [none]

namespace Scan

/-- Whether the place is between brackets. -/
def inFlow (s : Scan) : Bool := s.keys.length > 1

/-- The scan with a further token. -/
def emit (s : Scan) (t : Token) : Scan := { s with tokens := s.tokens ++ [t] }

/-- The scan some characters further on. -/
def skip (s : Scan) (n : Nat) : Scan := { s with cursor := s.cursor.skip n }

/-- The scan with keys allowed or not. -/
def allowKey (s : Scan) (allowed : Bool) : Scan := { s with keyAllowed := allowed }

/-- Skips blanks, comments and line breaks. In a block a new line may begin with a key, and then
no tab may stand in front of it. -/
def skipSpace (inFlow : Bool) (keyAllowed inComment : Bool) (c : Cursor) : Bool × Cursor :=
  match _h : c.rest with
  | [] => (keyAllowed, c)
  | x :: _ =>
    if isBreak x then skipSpace inFlow (keyAllowed || !inFlow) false c.step
    else if inComment then skipSpace inFlow keyAllowed true c.step
    else if x = ' ' || (x = '\t' && (inFlow || !keyAllowed)) then
      skipSpace inFlow keyAllowed false c.step
    else if x = '#' then skipSpace inFlow keyAllowed true c.step
    else (keyAllowed, c)
termination_by c.rest.length
decreasing_by all_goals exact Cursor.length_step_lt ‹_›

/-- Forgets what can no longer be a key, because it ends on another line or is too long. -/
def forgetStaleKeys (s : Scan) : Option Scan :=
  let stale (k : KeyPlace) : Bool :=
    k.cursor.line < s.cursor.line || k.cursor.index + 1024 < s.cursor.index
  if s.keys.any fun k => k.any fun k => stale k && k.required then none
  else some { s with keys := s.keys.map fun k => k.filter (!stale ·) }

/-- Ends the blocks that stand further to the right than a column. -/
def endBlocks (s : Scan) (column : Int) : Scan :=
  if s.inFlow then s
  else
    let rec go : List Int → Int → List Token → List Int × Int × List Token
      | [], indent, ts => ([], indent, ts)
      | outer :: more, indent, ts =>
        if indent > column then go more outer (ts ++ [.blockEnd]) else (outer :: more, indent, ts)
    let (indents, indent, tokens) := go s.indents s.indent s.tokens
    { s with indents := indents, indent := indent, tokens := tokens }

/-- Begins a block at a column, if that is further to the right than the innermost one; its mark
is put behind `position` tokens. -/
def beginBlock (s : Scan) (column : Nat) (position : Nat) (t : Token) : Scan :=
  if s.inFlow || s.indent ≥ column then s
  else
    { s with
      indents := s.indent :: s.indents
      indent := column
      tokens := s.tokens.take position ++ t :: s.tokens.drop position }

/-- Gives up what may be a key at this level. -/
def dropKey (s : Scan) : Option Scan :=
  match s.keys with
  | some k :: more => if k.required then none else some { s with keys := none :: more }
  | _ => some s

/-- Keeps the place as that of something that may be a key. -/
def saveKey (s : Scan) : Option Scan :=
  if s.keyAllowed then
    s.dropKey.map fun s =>
      let place : KeyPlace :=
        ⟨!s.inFlow && s.indent = s.cursor.column, s.tokens.length, s.cursor⟩
      { s with keys := some place :: s.keys.drop 1 }
  else some s

/-- A mark at which no block stays open. -/
def documentMark (s : Scan) (t : Token) (length : Nat) : Option Scan :=
  (s.endBlocks (-1)).dropKey.map fun s => ((s.allowKey false).skip length).emit t

/-- A line that tells about the document and is not part of it. -/
def directive (s : Scan) : Option Scan :=
  (s.endBlocks (-1)).dropKey.bind fun s =>
    (Tag.Directive.read s.cursor.step).map fun (d, c) =>
      { s.allowKey false with cursor := c }.emit (.directive d)

/-- An opening bracket. -/
def openFlow (s : Scan) (t : Token) : Option Scan :=
  s.saveKey.map fun s => ({ s with keys := none :: s.keys, keyAllowed := true }.skip 1).emit t

/-- A closing bracket. -/
def closeFlow (s : Scan) (t : Token) : Option Scan :=
  s.dropKey.map fun s =>
    let s := if s.inFlow then { s with keys := s.keys.drop 1 } else s
    ((s.allowKey false).skip 1).emit t

/-- A comma. -/
def comma (s : Scan) : Option Scan :=
  s.dropKey.map fun s => ((s.allowKey true).skip 1).emit .comma

/-- A hyphen in front of an item. -/
def item (s : Scan) : Option Scan :=
  if !s.inFlow && !s.keyAllowed then none
  else
    (s.beginBlock s.cursor.column s.tokens.length .blockSequence).dropKey.map fun s =>
      ((s.allowKey true).skip 1).emit .item

/-- A question mark in front of a key. -/
def explicitKey (s : Scan) : Option Scan :=
  if !s.inFlow && !s.keyAllowed then none
  else
    (s.beginBlock s.cursor.column s.tokens.length .blockMapping).dropKey.map fun s =>
      ((s.allowKey (!s.inFlow)).skip 1).emit .key

/-- A colon: what may be a key is one. -/
def value (s : Scan) : Option Scan :=
  match s.keys with
  | some k :: more =>
    let s := { s with
      keys := none :: more
      tokens := s.tokens.take k.position ++ Token.key :: s.tokens.drop k.position }
    let s := s.beginBlock k.cursor.column k.position .blockMapping
    some (((s.allowKey false).skip 1).emit .value)
  | _ =>
    if !s.inFlow && !s.keyAllowed then none
    else
      let s := s.beginBlock s.cursor.column s.tokens.length .blockMapping
      some (((s.allowKey (!s.inFlow)).skip 1).emit .value)

/-- The name of an anchor, or a reference to one. -/
def name (s : Scan) (make : String → Token) : Option Scan :=
  s.saveKey.bind fun s =>
    let (name, c) := s.cursor.step.takeWhile Tag.isNameChar
    let ends := c.spaceAt 0 || c.peek?.any ("?:,]\x7d%@`".toList.contains ·)
    if name.isEmpty || !ends then none
    else some ({ s.allowKey false with cursor := c }.emit (make (String.ofList name)))

/-- A tag, which ends before a blank or, between brackets, before a comma. -/
def tag (s : Scan) : Option Scan :=
  s.saveKey.bind fun s =>
    (Tag.read s.cursor).bind fun (handle, rest, c) =>
      if c.spaceAt 0 || (s.inFlow && c.peek? = some ',') then
        some ({ s.allowKey false with cursor := c }.emit (.tag handle rest))
      else none

/-- A block of lines. -/
def block (s : Scan) (folded : Bool) : Option Scan :=
  s.dropKey.bind fun s =>
    (Scalar.block folded s.indent s.cursor.step).map fun (text, c) =>
      let style := if folded then Style.folded else .literal
      { s.allowKey true with cursor := c }.emit (.scalar (String.ofList text) style)

/-- A scalar between quotation marks. -/
def quoted (s : Scan) (mark : Char) : Option Scan :=
  s.saveKey.bind fun s =>
    (Scalar.quoted mark s.cursor.step).map fun (text, c) =>
      { s.allowKey false with cursor := c }.emit (.scalar (String.ofList text) .quoted)

/-- A plain scalar. -/
def plain (s : Scan) : Option Scan :=
  s.saveKey.bind fun s =>
    (Scalar.plain s.inFlow (s.indent + 1) s.cursor).map fun (text, broken, c) =>
      { s.allowKey broken with cursor := c }.emit (.scalar (String.ofList text) .plain)

/-- Scans the token at the place, which begins with the character `x`. -/
def token (s : Scan) (x : Char) : Option Scan :=
  let c := s.cursor
  let marks := !s.inFlow && c.spaceAt 1 || s.inFlow
  if c.column = 0 && x = '%' then s.directive
  else if c.atMark '-' then s.documentMark .documentStart 3
  else if c.atMark '.' then s.documentMark .documentEnd 3
  else if x = '[' then s.openFlow .flowSequence
  else if x = '\x7b' then s.openFlow .flowMapping
  else if x = ']' then s.closeFlow .flowSequenceEnd
  else if x = '\x7d' then s.closeFlow .flowMappingEnd
  else if x = ',' then s.comma
  else if x = '-' && c.spaceAt 1 then s.item
  else if x = '?' && marks then s.explicitKey
  else if x = ':' && marks then s.value
  else if x = '*' then s.name .alias
  else if x = '&' then s.name .anchor
  else if x = '!' then s.tag
  else if x = '|' && !s.inFlow then s.block false
  else if x = '>' && !s.inFlow then s.block true
  else if x.toNat = 39 || x = '"' then s.quoted x
  else if "|>#%@`".toList.contains x || isBlank x then none
  else s.plain

/-- Scans all tokens. -/
def all : (budget : Nat) → Scan → Option (List Token)
  | 0, _ => none
  | budget + 1, s =>
    let (keyAllowed, c) := skipSpace s.inFlow s.keyAllowed false s.cursor
    match { s with keyAllowed := keyAllowed, cursor := c }.forgetStaleKeys with
    | none => none
    | some s =>
      match c.rest with
      | [] => (s.endBlocks (-1)).dropKey.map (·.tokens)
      | x :: _ => ((s.endBlocks c.column).token x).bind (all budget)

end Scan

/-- The tokens of a text, if it has any meaning. A mark of the byte order may begin it. -/
def Token.ofText? (text : String) : Option (List Token) :=
  let cs :=
    match text.toList with
    | '\uFEFF' :: rest => rest
    | cs => cs
  if cs.all isAllowed then
    let cs := normalize cs
    Scan.all (cs.length + 1) { cursor := ⟨cs, 0, 0, 0⟩ }
  else none

end Courier.Yaml
