/-!
# `Courier.Json.Fault`: where JSON text goes wrong

A fault is a kind and a place. The place is kept as the number of bytes that were left to read,
and turned into a line and a column, both counted in bytes of the whole text, when it is shown.
-/

set_option autoImplicit false

namespace Courier.Json

/-- The kinds of faults. -/
inductive FaultKind where
  | endInList
  | endInObject
  | endInString
  | endInValue
  | expectedColon
  | expectedListEnd
  | expectedObjectEnd
  | expectedWord
  | expectedValue
  | invalidEscape
  | invalidNumber
  | numberOutOfRange
  | controlCharacter
  | keyNotString
  | loneSurrogate
  | halfSurrogate
  | trailingComma
  | trailingCharacters
  | nestedTooDeeply
  /-- The text is JSON but stands for nothing of the wanted type. -/
  | wrongType
deriving DecidableEq

/-- The classes of faults. -/
inductive FaultCategory where
  | syntactic
  | ended
  | data
deriving DecidableEq

/-- The class of a kind of fault. -/
def FaultKind.category : FaultKind → FaultCategory
  | .endInList => .ended
  | .endInObject => .ended
  | .endInString => .ended
  | .endInValue => .ended
  | .wrongType => .data
  | _ => .syntactic

/-- The text of a kind of fault. -/
def FaultKind.message : FaultKind → String
  | .endInList => "EOF while parsing a list"
  | .endInObject => "EOF while parsing an object"
  | .endInString => "EOF while parsing a string"
  | .endInValue => "EOF while parsing a value"
  | .expectedColon => "expected `:`"
  | .expectedListEnd => "expected `,` or `]`"
  | .expectedObjectEnd => "expected `,` or `\x7d`"
  | .expectedWord => "expected ident"
  | .expectedValue => "expected value"
  | .invalidEscape => "invalid escape"
  | .invalidNumber => "invalid number"
  | .numberOutOfRange => "number out of range"
  | .controlCharacter => "control character (\\u0000-\\u001F) found while parsing a string"
  | .keyNotString => "key must be a string"
  | .loneSurrogate => "lone leading surrogate in hex escape"
  | .halfSurrogate => "unexpected end of hex escape"
  | .trailingComma => "trailing comma"
  | .trailingCharacters => "trailing characters"
  | .nestedTooDeeply => "recursion limit exceeded"
  | .wrongType => "invalid type"

/-- A fault and its place. -/
structure Fault where
  kind : FaultKind
  /-- The number of bytes of the text after the place. -/
  left : Nat
deriving DecidableEq

/-- The number of bytes of a text in UTF-8. -/
def byteCount (cs : List Char) : Nat := cs.foldl (fun n c => n + c.utf8Size) 0

/-- The fault at the place where reading has come to. -/
def Fault.here (kind : FaultKind) (rest : List Char) : Fault := ⟨kind, byteCount rest⟩

/-- The fault at the byte that would be read next. -/
def Fault.next (kind : FaultKind) (rest : List Char) : Fault := ⟨kind, byteCount rest - 1⟩

/-- The line and the column after the first `offset` bytes of a text. -/
def lineAndColumn (offset : Nat) : (line column : Nat) → List Char → Nat × Nat
  | line, column, [] => (line, column + offset)
  | line, column, c :: cs =>
    if offset < c.utf8Size then (line, column + offset)
    else if c = '\n' then lineAndColumn (offset - 1) (line + 1) 0 cs
    else lineAndColumn (offset - c.utf8Size) line (column + c.utf8Size) cs

/-- The text of a fault in a text. -/
def Fault.message (f : Fault) (text : String) : String :=
  let (line, column) := lineAndColumn (text.utf8ByteSize - f.left) 1 0 text.toList
  f.kind.message ++ " at line " ++ toString line ++ " column " ++ toString column

end Courier.Json
