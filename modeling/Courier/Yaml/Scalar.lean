import Courier.Yaml.Cursor

/-!
# `Courier.Yaml.Scalar`: the texts in a YAML text

A scalar is written plainly, between quotation marks, or as a block of lines that are kept or
folded. Each reader starts behind the mark that introduces the scalar, if it has one, and gives
the text and the place behind it, or nothing if the scalar is malformed.
-/

set_option autoImplicit false

namespace Courier.Yaml

/-- How a scalar is written. -/
inductive Style where
  | plain
  /-- Between quotation marks. -/
  | quoted
  /-- As a block of lines that are kept. -/
  | literal
  /-- As a block of lines that are folded. -/
  | folded
deriving DecidableEq

namespace Scalar

/-! ### Plain scalars -/

/-- Whether a character separates entries of a list or a mapping in brackets. -/
def isFlowMark (c : Char) : Bool := c = ',' || c = '[' || c = ']' || c = '\x7b' || c = '\x7d'

/-- The characters of a plain scalar up to the next gap or the end of the scalar. -/
def plainWord (inFlow : Bool) (c : Cursor) : Option (List Char × Cursor) :=
  match _h : c.rest with
  | [] => some ([], c)
  | x :: rest =>
    if isBlank x || isBreak x then some ([], c)
    else if x = ':' && inFlow && (rest.head?.any fun y => isFlowMark y || y = '?') then none
    else if x = ':' && c.spaceAt 1 then some ([], c)
    else if inFlow && isFlowMark x then some ([], c)
    else (plainWord inFlow c.step).map fun (word, c) => (x :: word, c)
termination_by c.rest.length
decreasing_by exact Cursor.length_step_lt ‹_›

/-- Reads words and gaps of a plain scalar: its text, whether it ends after a line break, and the
place. `indent` is the first column at which a further line may begin. -/
def plainFrom (inFlow : Bool) (indent : Int) :
    (budget : Nat) → (text : List Char) → Gap → Cursor → Option (List Char × Bool × Cursor)
  | 0, _, _, _ => none
  | budget + 1, text, g, c =>
    if c.atDocumentMark || c.peek? = some '#' then some (text, g.broken, c)
    else
      match plainWord inFlow c with
      | none => none
      | some (word, c) =>
        let text := if word.isEmpty then text else text ++ g.fold ++ word
        let broken := word.isEmpty && g.broken
        if c.spaceAt 0 && !c.rest.isEmpty then
          let (g, c) := Gap.read indent {} c
          if g.tabbed then none
          else if !inFlow && c.column < indent then some (text, g.broken, c)
          else plainFrom inFlow indent budget text g c
        else some (text, broken, c)

/-- Reads a plain scalar. -/
def plain (inFlow : Bool) (indent : Int) (c : Cursor) : Option (List Char × Bool × Cursor) :=
  plainFrom inFlow indent (c.rest.length + 1) [] {} c

/-! ### Quoted scalars -/

/-- What a letter behind a backslash stands for, if it stands for one character. -/
def escaped? (c : Char) : Option Char :=
  match c with
  | '0' => some (Char.ofNat 0)
  | 'a' => some (Char.ofNat 7)
  | 'b' => some (Char.ofNat 8)
  | 't' => some '\t'
  | '\t' => some '\t'
  | 'n' => some '\n'
  | 'v' => some (Char.ofNat 11)
  | 'f' => some (Char.ofNat 12)
  | 'r' => some '\r'
  | 'e' => some (Char.ofNat 27)
  | ' ' => some ' '
  | '"' => some '"'
  | '/' => some '/'
  | '\\' => some '\\'
  | 'N' => some '\u0085'
  | '_' => some '\u00a0'
  | 'L' => some '\u2028'
  | 'P' => some '\u2029'
  | c => if c.toNat = 39 then some c else none

/-- The number of hexadecimal digits behind a letter behind a backslash. -/
def codeLength? (c : Char) : Option Nat :=
  match c with
  | 'x' => some 2
  | 'u' => some 4
  | 'U' => some 8
  | _ => none

/-- The value of a hexadecimal digit. -/
def hexDigit? (c : Char) : Option Nat :=
  let n := c.toNat
  if 48 ≤ n ∧ n ≤ 57 then some (n - 48)
  else if 97 ≤ n ∧ n ≤ 102 then some (n - 87)
  else if 65 ≤ n ∧ n ≤ 70 then some (n - 55)
  else none

/-- The character with the code that hexadecimal digits give, if it is one. -/
def codePoint? (digits : List Char) (count : Nat) : Option Char :=
  if digits.length < count then none
  else
    match (digits.take count).mapM hexDigit? with
    | none => none
    | some values =>
      let n := values.foldl (fun n d => n * 16 + d) 0
      if 0xd800 ≤ n ∧ n ≤ 0xdfff ∨ n > 0x10ffff then none else some (Char.ofNat n)

/-- The end of a run of characters between quotation marks. -/
inductive RunEnd where
  /-- A blank, a line break or the end of the text. -/
  | gap
  /-- The closing mark. -/
  | closed
  /-- A backslash in front of a line break. -/
  | joined
deriving DecidableEq

/-- Reads characters between quotation marks up to a gap or the closing mark. -/
def quotedRun (mark : Char) :
    (budget : Nat) → Cursor → Option (List Char × RunEnd × Cursor)
  | 0, _ => none
  | budget + 1, c =>
    let more (x : Char) (c : Cursor) :=
      (quotedRun mark budget c).map fun (run, how, c) => (x :: run, how, c)
    match c.rest with
    | [] => some ([], .gap, c)
    | x :: rest =>
      if isBlank x || isBreak x then some ([], .gap, c)
      else if x = mark then
        if mark ≠ '"' && rest.head? = some mark then more mark (c.skip 2)
        else some ([], .closed, c)
      else if mark = '"' && x = '\\' then
        match rest with
        | [] => none
        | y :: digits =>
          if isBreak y then some ([], .joined, c.skip 2)
          else
            match escaped? y, codeLength? y with
            | some z, _ => more z (c.skip 2)
            | none, some count =>
              match codePoint? digits count with
              | none => none
              | some z => more z (c.skip (2 + count))
            | none, none => none
      else more x c.step

/-- Reads runs and gaps between quotation marks. -/
def quotedFrom (mark : Char) :
    (budget : Nat) → (text : List Char) → Cursor → Option (List Char × Cursor)
  | 0, _, _ => none
  | budget + 1, text, c =>
    if c.atDocumentMark || c.rest.isEmpty then none
    else
      match quotedRun mark (c.rest.length + 1) c with
      | none => none
      | some (run, .closed, c) => some (text ++ run, c.step)
      | some (run, how, c) =>
        let (g, c) := Gap.read 0 { broken := how = .joined } c
        quotedFrom mark budget (text ++ run ++ g.fold) c

/-- Reads a scalar between quotation marks, behind the opening one. -/
def quoted (mark : Char) (c : Cursor) : Option (List Char × Cursor) :=
  quotedFrom mark (c.rest.length + 1) [] c

/-! ### Blocks of lines -/

/-- What becomes of the line breaks at the end of a block. -/
inductive Chomp where
  | strip
  | clip
  | keep
deriving DecidableEq

/-- What a character behind the mark of a block says of the line breaks at its end. -/
def chomp? (c : Char) : Option Chomp :=
  if c = '-' then some .strip else if c = '+' then some .keep else none

/-- The explicit indentation that a character gives. -/
def indentDigit? (c : Char) : Option Nat :=
  if '1' ≤ c ∧ c ≤ '9' then some (c.toNat - '0'.toNat) else none

/-- Reads what stands behind the mark of a block in its line. -/
def blockHead (c : Cursor) : Option (Chomp × Option Nat × Cursor) :=
  let ending (chomp : Chomp) (digit : Option Nat) (c : Cursor) :=
    let (_, c) := c.takeWhile isBlank
    let c := if c.peek? = some '#' then (c.takeWhile (!isBreak ·)).2 else c
    match c.rest with
    | [] => some (chomp, digit, c)
    | x :: _ => if isBreak x then some (chomp, digit, c.step) else none
  match c.peek? with
  | none => ending .clip none c
  | some x =>
    match chomp? x, indentDigit? x with
    | some chomp, _ =>
      let c := c.step
      match c.peek?.bind indentDigit? with
      | some d => ending chomp (some d) c.step
      | none => ending chomp none c
    | none, some d =>
      let c := c.step
      match c.peek?.bind chomp? with
      | some chomp => ending chomp (some d) c.step
      | none => ending .clip (some d) c
    | none, none => ending .clip none c

/-- Reads empty lines of a block and the indentation behind them: the line breaks, the greatest
column that is reached, and the place. An indentation that is not known yet has no limit. -/
def blockBreaks (indent? : Option Nat) :
    (budget : Nat) → (widest : Nat) → Cursor → Option (List Char × Nat × Cursor)
  | 0, _, _ => none
  | budget + 1, widest, c =>
    let within (c : Cursor) : Bool := indent?.all (c.column < ·)
    match c.rest with
    | ' ' :: _ =>
      if within c then blockBreaks indent? budget widest c.step
      else some ([], max widest c.column, c)
    | x :: _ =>
      if x = '\t' && within c then none
      else if isBreak x then
        (blockBreaks indent? budget (max widest c.column) c.step).map fun (breaks, widest, c) =>
          (x :: breaks, widest, c)
      else some ([], max widest c.column, c)
    | [] => some ([], max widest c.column, c)

/-- Reads the lines of a block: its text, and the line breaks at its end, those of the last line
with text apart from those of the empty lines. -/
def blockLines (folded : Bool) (indent : Nat) :
    (budget : Nat) → (text : List Char) → (lastBreak : List Char) → (empty : List Char) →
      (afterBlank : Bool) → Cursor → Option (List Char × List Char × List Char × Cursor)
  | 0, _, _, _, _, _ => none
  | budget + 1, text, lastBreak, empty, afterBlank, c =>
    if c.column ≠ indent || c.rest.isEmpty then some (text, lastBreak, empty, c)
    else
      let blank := (c.peek?.any isBlank)
      let joint :=
        if folded && lastBreak = ['\n'] && !afterBlank && !blank then
          if empty.isEmpty then [' '] else []
        else lastBreak
      let (line, c) := c.takeWhile (!isBreak ·)
      let lastBreak := c.rest.take 1
      match blockBreaks (some indent) (c.rest.length + 1) 0 c.step with
      | none => none
      | some (breaks, _, c) =>
        blockLines folded indent budget (text ++ joint ++ empty ++ line) lastBreak breaks blank c

/-- Reads a block, behind its mark. `indent` is the column of the structure around it, or -1. -/
def block (folded : Bool) (indent : Int) (c : Cursor) : Option (List Char × Cursor) :=
  match blockHead c with
  | none => none
  | some (chomp, digit, c) =>
    let known := digit.map fun d => (max indent 0).toNat + d
    match blockBreaks known (c.rest.length + 1) 0 c with
    | none => none
    | some (breaks, widest, c) =>
      let column := known.getD (max widest (max (indent + 1) 1).toNat)
      match blockLines folded column (c.rest.length + 1) [] [] breaks false c with
      | none => none
      | some (text, lastBreak, empty, c) =>
        let tail :=
          match chomp with
          | .strip => []
          | .clip => lastBreak
          | .keep => lastBreak ++ empty
        some (text ++ tail, c)

end Scalar

end Courier.Yaml
