import Courier.Yaml.Cursor
import Courier.Yaml.Plain

/-!
# `Courier.Yaml.Printer`: YAML for records

A record is written as a block of sections, each a block of entries. A text is written plainly if
it reads back as that text, else between apostrophes, else between quotation marks; one with
several lines is written as a block of lines if its blanks allow that.
-/

set_option autoImplicit false

namespace Courier.Yaml.Printer

/-- The value of an entry. -/
inductive Leaf where
  /-- A number, a truth value or nothing, in its own words. -/
  | bare (word : String)
  | text (s : String)

/-- Words that older readers take for truth values. -/
def oldTruthWords : List String :=
  ["y", "Y", "yes", "Yes", "YES", "n", "N", "no", "No", "NO", "true", "True", "TRUE", "false",
    "False", "FALSE", "on", "On", "ON", "off", "Off", "OFF"]

/-- Whether a text, written plainly, would be read as something else than a text. -/
def isAmbiguous (s : String) : Bool :=
  s.isEmpty || Plain.isNull s || (Plain.bool? s).isSome || oldTruthWords.contains s
    || Plain.isInteger s || Plain.hasLeadingZero s.toList || Plain.isFloat s

/-- Whether a character is shown as itself. -/
def isShown (c : Char) : Bool :=
  let n := c.toNat
  n = 10 || (0x20 ≤ n && n ≤ 0x7e) || (0xa0 ≤ n && n ≤ 0xfffd && n ≠ 0xfeff) || 0x10000 ≤ n

/-- Whether a character breaks a line. -/
def breaksLine (c : Char) : Bool := isBreak c || c = '\r' || c = '\u0085'

/-- Whether a blank or a line break stands in front of a text, or nothing. -/
def isSpaceAhead : List Char → Bool
  | [] => true
  | c :: _ => isBlank c || breaksLine c

/-- Whether the first character of a text has a meaning of its own there. -/
def beginsWithIndicator : List Char → Bool
  | [] => false
  | c :: rest =>
    "#,[]\x7b\x7d&*!|>\"%@`".toList.contains c || c.toNat = 39
      || ((c = '?' || c = ':' || c = '-') && isSpaceAhead rest)

/-- Whether a later character has a meaning of its own: a colon in front of a blank, or a number
sign behind one. -/
def hasIndicator (afterSpace : Bool) : List Char → Bool
  | [] => false
  | c :: rest =>
    (c = ':' && isSpaceAhead rest) || (c = '#' && afterSpace)
      || hasIndicator (isBlank c || breaksLine c) rest

/-- Whether a character that satisfies `p` stands right in front of one that satisfies `q`. -/
def hasPair (p q : Char → Bool) : List Char → Bool
  | [] => false
  | [_] => false
  | a :: b :: rest => (p a && q b) || hasPair p q (b :: rest)

/-- How a text can be written. -/
structure Shape where
  plain : Bool
  apostrophes : Bool
  lines : Bool

/-- How a text that is not empty can be written. -/
def shapeOf (cs : List Char) : Shape :=
  let isSpace (c : Char) : Bool := c = ' '
  let special := cs.any (!isShown ·) || hasPair isSpace breaksLine cs
  let spaceAfterBreak := hasPair breaksLine isSpace cs
  let ends := [cs.head?, cs.getLast?]
  let blankEnds := ends.any fun c => c.any fun c => isSpace c || breaksLine c
  let indicator := cs.take 3 = ['-', '-', '-'] || cs.take 3 = ['.', '.', '.']
    || beginsWithIndicator cs || hasIndicator (isSpaceAhead cs) (cs.drop 1)
  { plain := !(special || spaceAfterBreak || blankEnds || cs.any breaksLine || indicator)
    apostrophes := !(special || spaceAfterBreak)
    lines := !(special || cs.getLast?.any isSpace) }

/-- The text between apostrophes, each of which is written twice. -/
def inApostrophes (cs : List Char) : List Char :=
  let mark := Char.ofNat 39
  mark :: cs.flatMap (fun c => if c = mark then [mark, mark] else [c]) ++ [mark]

/-- A number in capital hexadecimal digits. -/
def hex (count n : Nat) : List Char :=
  let ds := (Nat.toDigits 16 n).map Char.toUpper
  List.replicate (count - ds.length) '0' ++ ds

/-- The letter behind a backslash that stands for a character. -/
def escapeLetter? (c : Char) : Option Char :=
  match c.toNat with
  | 0 => some '0'
  | 7 => some 'a'
  | 8 => some 'b'
  | 9 => some 't'
  | 10 => some 'n'
  | 11 => some 'v'
  | 12 => some 'f'
  | 13 => some 'r'
  | 27 => some 'e'
  | 34 => some '"'
  | 92 => some '\\'
  | 0x85 => some 'N'
  | 0xa0 => some '_'
  | 0x2028 => some 'L'
  | 0x2029 => some 'P'
  | _ => none

/-- A character between quotation marks. -/
def quoteChar (c : Char) : List Char :=
  if isShown c && !breaksLine c && c ≠ '"' && c ≠ '\\' then [c]
  else
    match escapeLetter? c with
    | some letter => ['\\', letter]
    | none =>
      let n := c.toNat
      if n ≤ 0xff then '\\' :: 'x' :: hex 2 n
      else if n ≤ 0xffff then '\\' :: 'u' :: hex 4 n
      else '\\' :: 'U' :: hex 8 n

/-- The text between quotation marks. -/
def inQuotes (cs : List Char) : List Char := '"' :: cs.flatMap quoteChar ++ ['"']

/-- The lines of a block, each behind the indentation, unless it is empty. -/
def indentLines (indent : List Char) (atStart : Bool) : List Char → List Char
  | [] => []
  | c :: rest =>
    if breaksLine c then c :: indentLines indent true rest
    else (if atStart then indent ++ [c] else [c]) ++ indentLines indent false rest

/-- The text as a block of lines, ending with a line break. -/
def inLines (indent : List Char) (cs : List Char) : List Char :=
  let explicit := if isSpaceAhead cs && cs.head? ≠ some '\t' then ['2'] else []
  let last := cs.reverse.takeWhile breaksLine
  let chomp := if last.isEmpty then ['-'] else if last.length > 1 ∨ cs.length = 1 then ['+'] else []
  '|' :: explicit ++ chomp ++ ['\n'] ++ indentLines indent true cs
    ++ (if last.isEmpty then ['\n'] else [])

/-- The value of an entry, behind the colon and a blank, with the line break at its end. -/
def leaf (indent : List Char) : Leaf → List Char
  | .bare word => word.toList ++ ['\n']
  | .text s =>
    let cs := s.toList
    if cs.isEmpty then inApostrophes cs ++ ['\n']
    else
      let shape := shapeOf cs
      if cs.contains '\n' then
        if shape.lines then inLines indent cs else inQuotes cs ++ ['\n']
      else if shape.plain && !isAmbiguous s then cs ++ ['\n']
      else if shape.apostrophes then inApostrophes cs ++ ['\n']
      else inQuotes cs ++ ['\n']

/-- A record of sections. -/
def record (sections : List (String × List (String × Leaf))) : String :=
  String.ofList <| sections.flatMap fun (name, entries) =>
    name.toList ++ ":\n".toList ++ entries.flatMap fun (key, value) =>
      "  ".toList ++ key.toList ++ ": ".toList ++ leaf "    ".toList value

end Courier.Yaml.Printer
