import Courier.Bytes
import Courier.Text.Hex
import Courier.Yaml.Cursor

/-!
# `Courier.Yaml.Tag`: tags and the handles that shorten them

A tag tells what kind of thing a scalar is. It is written in full between `!<` and `>`, or with a
handle in front, such as `!`, `!!` or `!name!`, which stands for the beginning of the tag. The
directives at the top of a document say what its handles stand for, and which version of YAML it
is in.
-/

set_option autoImplicit false

namespace Courier.Yaml.Tag

/-- Whether a character can stand in the name of an anchor or a handle. -/
def isNameChar (c : Char) : Bool := c.isAlphanum || c = '_' || c = '-'

/-- Whether a character can stand in a tag. Those that separate entries in brackets stand only in
a tag that has an end of its own. -/
def isTagChar (enclosed : Bool) (c : Char) : Bool :=
  isNameChar c || ";/?:@&=+$.!~*'()%".toList.contains c || enclosed && ",[]".toList.contains c

/-- How many bytes follow the first byte of a character in UTF-8. -/
def following? (b : UInt8) : Option Nat :=
  if b < 0x80 then some 0
  else if b < 0xc0 then none
  else if b < 0xe0 then some 1
  else if b < 0xf0 then some 2
  else if b < 0xf8 then some 3
  else none

/-- The bytes that characters of a tag stand for. A byte can be written as a percent sign and two
digits. Then the character that it begins is written so as a whole; `due` more bytes of it have
to come. -/
def bytes? : (due : Nat) → List Char → Option Bytes
  | 0, [] => some []
  | due, '%' :: h :: l :: cs => do
    let high ← Text.Hex.digitValue? h
    let low ← Text.Hex.digitValue? l
    let b := UInt8.ofNat (16 * high + low)
    match due with
    | 0 => (bytes? (← following? b) cs).map (b :: ·)
    | due + 1 => if 0x80 ≤ b ∧ b < 0xc0 then (bytes? due cs).map (b :: ·) else none
  | 0, c :: cs => if c = '%' then none else (bytes? 0 cs).map (UInt8.ofNat c.toNat :: ·)
  | _ + 1, _ => none

/-- Reads the characters of a tag. -/
def readBytes (enclosed : Bool) (c : Cursor) : Option (Bytes × Cursor) :=
  let (cs, c) := c.takeWhile (isTagChar enclosed)
  (bytes? 0 cs).map (·, c)

/-- Reads a tag, from its exclamation mark on: the handle, which is empty for a tag that has none,
and what follows the handle. A lonely mark is a tag by itself. -/
def read (c : Cursor) : Option (String × Bytes × Cursor) :=
  if c.rest[1]? = some '<' then
    match readBytes true (c.skip 2) with
    | some (tag, c) => if tag.isEmpty || c.peek? ≠ some '>' then none else some ("", tag, c.step)
    | none => none
  else
    let (name, behind) := c.step.takeWhile isNameChar
    if behind.peek? = some '!' then
      match readBytes false behind.step with
      | some (tag, c) =>
        if tag.isEmpty then none else some ("!" ++ String.ofList name ++ "!", tag, c)
      | none => none
    else
      (readBytes false c.step).map fun (tag, c) =>
        if tag.isEmpty then ("", Bytes.ofString "!", c) else ("!", tag, c)

/-! ### Directives -/

/-- What a directive says. -/
inductive Directive where
  /-- The version of YAML. -/
  | version (major minor : Nat)
  /-- A handle and the beginning of a tag for which it stands. -/
  | handle (name : String) (beginning : Bytes)
deriving DecidableEq

/-- The place behind blanks. -/
def skipBlanks (c : Cursor) : Cursor := (c.takeWhile isBlank).2

/-- Reads a number of at most nine digits. -/
def readNumber (c : Cursor) : Option (Nat × Cursor) :=
  let (ds, c) := c.takeWhile Char.isDigit
  if ds.isEmpty || ds.length > 9 then none
  else some (ds.foldl (fun n d => n * 10 + (d.toNat - '0'.toNat)) 0, c)

/-- Reads a version. -/
def readVersion (c : Cursor) : Option (Directive × Cursor) := do
  let (major, c) ← readNumber (skipBlanks c)
  if c.peek? ≠ some '.' then none
  else
    let (minor, c) ← readNumber c.step
    some (.version major minor, c)

/-- Reads a handle and what it stands for. -/
def readHandle (c : Cursor) : Option (Directive × Cursor) := do
  let c := skipBlanks c
  if c.peek? ≠ some '!' then none
  else
    let (name, c) := c.step.takeWhile isNameChar
    let closed := c.peek? = some '!'
    if !closed && !name.isEmpty then none
    else
      let c := if closed then c.step else c
      if !c.peek?.any isBlank then none
      else
        let (beginning, c) ← readBytes true (skipBlanks c)
        if beginning.isEmpty || !c.spaceAt 0 then none
        else
          let handle := "!" ++ String.ofList name ++ if closed then "!" else ""
          some (.handle handle beginning, c)

/-- Reads a directive, behind its percent sign, up to the end of its line. -/
def Directive.read (c : Cursor) : Option (Directive × Cursor) := do
  let (name, c) := c.takeWhile isNameChar
  if !c.spaceAt 0 then none
  else
    let (directive, c) ←
      match String.ofList name with
      | "YAML" => readVersion c
      | "TAG" => readHandle c
      | _ => none
    let c := skipBlanks c
    let c := if c.peek? = some '#' then (c.takeWhile (!isBreak ·)).2 else c
    if c.peek?.all isBreak then some (directive, c) else none

/-- What handles stand for, the last one that has been declared first. -/
abbrev Handles := List (String × Bytes)

/-- The handles that every document knows. -/
def Handles.known : Handles :=
  [("!", Bytes.ofString "!"), ("!!", Bytes.ofString "tag:yaml.org,2002:")]

/-- The tag that follows a handle. -/
def Handles.expand? (hs : Handles) (handle : String) (tag : Bytes) : Option Bytes :=
  if handle.isEmpty then some tag
  else (hs.find? (·.1 = handle)).map fun found => found.2 ++ tag

/-- The handles of a document with these directives. The version stands at most once and is one
that is known, and no handle is declared twice. -/
def Handles.declared? (versioned : Bool) (hs : Handles) : List Directive → Option Handles
  | [] => some (hs ++ known)
  | .version major minor :: ds =>
    if versioned || major ≠ 1 || (minor ≠ 1 && minor ≠ 2) then none else declared? true hs ds
  | .handle name beginning :: ds =>
    if hs.any (·.1 = name) then none else declared? versioned ((name, beginning) :: hs) ds

/-- The tag of a kind of scalar that every document knows. -/
def core (kind : String) : Bytes := Bytes.ofString ("tag:yaml.org,2002:" ++ kind)

end Courier.Yaml.Tag
