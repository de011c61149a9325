import Courier.Fields
import Courier.Json
import Courier.Json.Fault
import Courier.Text.Hex

/-!
# `Courier.Json.Reader`: reading JSON text

`Json.read` reads a text that is exactly one JSON value. Values are nested at most 127 levels
deep: the reader recurses on the levels that are left, and a list or an object is read by a loop
that takes the reader for its items as an argument. The loops are bounded by the length of the
text, of which every turn uses up at least one character.

An integer is kept exactly if it fits 64 bits. Any other number is a float: the digits that fit
an unsigned 64-bit integer, scaled by a power of ten in one or more rounded operations.
-/

set_option autoImplicit false

namespace Courier.Json

/-- A result and what follows it in the text. -/
abbrev Parsed (α : Type) := Except Fault (α × List Char)

/-- A reader from the front of a text. -/
abbrev Reader (α : Type) := List Char → Parsed α

/-- Whether a character may stand between tokens. -/
def isSpace (c : Char) : Bool := c = ' ' || c = '\n' || c = '\t' || c = '\r'

/-- The text from the first character of a token. -/
def skipSpace (cs : List Char) : List Char := cs.dropWhile isSpace

/-- Reads the rest of a word and gives it a value. -/
def readWord {α : Type} (value : α) : List Char → Reader α
  | [], cs => .ok (value, cs)
  | _ :: _, [] => .error (.here .endInValue [])
  | w :: ws, c :: cs =>
    if c = w then readWord value ws cs else .error (.next .expectedWord (c :: cs))

/-! ### Numbers -/

/-- The value of a decimal digit. -/
def digit? (c : Char) : Option Nat :=
  if 48 ≤ c.toNat ∧ c.toNat ≤ 57 then some (c.toNat - 48) else none

/-- Appends digits to a significand while it fits 64 bits: the significand, how many digits were
appended, and the rest of the text. -/
def appendDigits (significand count : Nat) : List Char → Nat × Nat × List Char
  | [] => (significand, count, [])
  | c :: cs =>
    match digit? c with
    | none => (significand, count, c :: cs)
    | some d =>
      if significand * 10 + d < UInt64.size then appendDigits (significand * 10 + d) (count + 1) cs
      else (significand, count, c :: cs)

/-- Skips digits: how many there were, and the rest of the text. -/
def skipDigits (count : Nat) : List Char → Nat × List Char
  | [] => (count, [])
  | c :: cs => if (digit? c).isSome then skipDigits (count + 1) cs else (count, c :: cs)

/-- The power of ten up to 308, rounded. -/
def powerOfTen (k : Nat) : Binary64 := Binary64.ofDecimal false 1 k

/-- Scales a float by a power of ten: by one product or quotient if the power is in range, and
with one more quotient by the largest power for every 308 below it. Three of those make any
significand zero. -/
def scale (x : Binary64) (exponent : Int) : (turns : Nat) → Option Binary64
  | 0 => some x
  | turns + 1 =>
    if exponent.natAbs ≤ 308 then
      if exponent ≥ 0 then
        let y := x.mul (powerOfTen exponent.toNat)
        if y.isFinite then some y else none
      else some (x.div (powerOfTen exponent.natAbs))
    else if x.magnitude = 0 then some x
    else if exponent ≥ 0 then none
    else scale (x.div (powerOfTen 308)) (exponent + 308) turns

/-- The float of a significand and a power of ten, unless it is out of range. -/
def readFloat (negative : Bool) (significand : Nat) (exponent : Int) : Reader Number := fun cs =>
  match scale (Binary64.ofInt significand) exponent 4 with
  | none => .error (.here .numberOutOfRange cs)
  | some x => .ok (.float (if negative then x.neg else x), cs)

/-- The digits of an exponent and the float. A huge exponent is out of range, or the number is
zero. -/
def readExponentDigits (negative : Bool) (significand : Nat) (start : Int) (negativeExponent : Bool)
    (exponent : Nat) : Reader Number
  | [] => finish []
  | c :: cs =>
    match digit? c with
    | none => finish (c :: cs)
    | some d =>
      if exponent * 10 + d < 0x80000000 then
        readExponentDigits negative significand start negativeExponent (exponent * 10 + d) cs
      else if significand ≠ 0 ∧ !negativeExponent then .error (.here .numberOutOfRange cs)
      else .ok (.float (Binary64.ofMagnitude negative 0), (skipDigits 0 cs).2)
where
  /-- The float, once the exponent is known. -/
  finish : Reader Number :=
    readFloat negative significand (if negativeExponent then start - exponent else start + exponent)

/-- What follows the mark of an exponent: a sign and at least one digit. -/
def readExponent (negative : Bool) (significand : Nat) (start : Int) : Reader Number := fun cs =>
  let (negativeExponent, cs) := match cs with
    | '+' :: rest => (false, rest)
    | '-' :: rest => (true, rest)
    | rest => (false, rest)
  match cs with
  | [] => .error (.here .endInValue [])
  | c :: rest =>
    match digit? c with
    | none => .error (.next .invalidNumber (c :: rest))
    | some d => readExponentDigits negative significand start negativeExponent d rest

/-- What may follow the digits of a number that is a float already. -/
def afterDigits (negative : Bool) (significand : Nat) (start : Int) : Reader Number
  | 'e' :: rest => readExponent negative significand start rest
  | 'E' :: rest => readExponent negative significand start rest
  | cs => readFloat negative significand start cs

/-- What follows a decimal point: at least one digit. Digits beyond 64 bits are dropped. -/
def readFraction (negative : Bool) (significand : Nat) (start : Int) : Reader Number := fun cs =>
  let (extended, count, rest) := appendDigits significand 0 cs
  match rest with
  | [] =>
    if count = 0 then .error (.next .endInValue [])
    else afterDigits negative extended (start - count) []
  | c :: _ =>
    if (digit? c).isSome then afterDigits negative extended (start - count) (skipDigits 0 rest).2
    else if count = 0 then .error (.next .invalidNumber rest)
    else afterDigits negative extended (start - count) rest

/-- What follows an integer that fits 64 bits without its sign. Minus zero, and integers below
the least of 64 bits, are floats. -/
def afterInteger (negative : Bool) (significand : Nat) : Reader Number
  | '.' :: rest => readFraction negative significand 0 rest
  | 'e' :: rest => readExponent negative significand 0 rest
  | 'E' :: rest => readExponent negative significand 0 rest
  | cs =>
    if !negative then .ok (.natural (UInt64.ofNat significand), cs)
    else if 0 < significand ∧ significand ≤ 0x8000000000000000 then
      .ok (.negative (Int64.ofInt (-(significand : Int))), cs)
    else .ok (.float (Binary64.ofInt significand).neg, cs)

/-- Reads a number after its sign. -/
def readNumber (negative : Bool) : Reader Number
  | [] => .error (.here .endInValue [])
  | '0' :: cs =>
    match cs with
    | c :: _ =>
      if (digit? c).isSome then .error (.next .invalidNumber cs) else afterInteger negative 0 cs
    | [] => afterInteger negative 0 []
  | c :: cs =>
    match digit? c with
    | none => .error (.next .invalidNumber (c :: cs))
    | some d =>
      let (significand, _, rest) := appendDigits d 0 cs
      match rest with
      | [] => afterInteger negative significand []
      | c :: _ =>
        if (digit? c).isSome then
          let (dropped, rest) := skipDigits 0 rest
          match rest with
          | '.' :: rest => readFraction negative significand dropped rest
          | rest => afterDigits negative significand dropped rest
        else afterInteger negative significand rest

/-! ### Strings -/

/-- The four hexadecimal digits of an escape. -/
def readHexEscape (cs : List Char) : Parsed Nat :=
  let malformed : Parsed Nat :=
    if byteCount cs < 4 then .error (.here .endInString [])
    else .error ⟨.invalidEscape, byteCount cs - 4⟩
  match cs with
  | a :: b :: c :: d :: rest =>
    match Text.Hex.digitValue? a, Text.Hex.digitValue? b, Text.Hex.digitValue? c,
        Text.Hex.digitValue? d with
    | some a, some b, some c, some d => .ok (((a * 16 + b) * 16 + c) * 16 + d, rest)
    | _, _, _, _ => malformed
  | _ => malformed

/-- The character of an escape by code unit. A code unit that begins a pair needs the other half
of the pair after it. -/
def readUnicodeEscape (cs : List Char) : Parsed Char :=
  match readHexEscape cs with
  | .error f => .error f
  | .ok (n, rest) =>
    if 0xdc00 ≤ n ∧ n ≤ 0xdfff then .error (.here .loneSurrogate rest)
    else if n < 0xd800 ∨ 0xdbff < n then .ok (Char.ofNat n, rest)
    else match rest with
      | [] => .error (.here .endInString [])
      | '\\' :: rest =>
        match rest with
        | [] => .error (.here .endInString [])
        | 'u' :: rest =>
          match readHexEscape rest with
          | .error f => .error f
          | .ok (m, rest) =>
            if m < 0xdc00 ∨ 0xdfff < m then .error (.here .loneSurrogate rest)
            else .ok (Char.ofNat (0x10000 + (n - 0xd800) * 0x400 + (m - 0xdc00)), rest)
        | c :: rest => .error (.next .halfSurrogate (c :: rest))
      | c :: rest => .error (.next .halfSurrogate (c :: rest))

/-- The character that an escape stands for, after the backslash. -/
def readEscape : List Char → Parsed Char
  | [] => .error (.here .endInString [])
  | '"' :: rest => .ok ('"', rest)
  | '\\' :: rest => .ok ('\\', rest)
  | '/' :: rest => .ok ('/', rest)
  | 'b' :: rest => .ok (Char.ofNat 0x08, rest)
  | 'f' :: rest => .ok (Char.ofNat 0x0c, rest)
  | 'n' :: rest => .ok ('\n', rest)
  | 'r' :: rest => .ok ('\r', rest)
  | 't' :: rest => .ok ('\t', rest)
  | 'u' :: rest => readUnicodeEscape rest
  | c :: rest => .error (.next .invalidEscape (c :: rest))

/-- Reads a string after its opening mark onto `done`, which is last character first. `budget`
is at least the length of the text. -/
def readStringFrom : (budget : Nat) → (done : List Char) → Reader String
  | 0, _, cs => .error (.here .endInString cs)
  | _ + 1, _, [] => .error (.here .endInString [])
  | _ + 1, done, '"' :: rest => .ok (String.ofList done.reverse, rest)
  | budget + 1, done, '\\' :: rest =>
    match readEscape rest with
    | .error f => .error f
    | .ok (c, rest) => readStringFrom budget (c :: done) rest
  | budget + 1, done, c :: rest =>
    if c.toNat < 0x20 then .error (.here .controlCharacter rest)
    else readStringFrom budget (c :: done) rest

/-- Reads a string after its opening mark. -/
def readString : Reader String := fun cs => readStringFrom (cs.length + 1) [] cs

/-! ### Lists and objects -/

/-- Reads the items after the first onto `done`, which is last item first, and the closing
bracket. -/
def readItemsFrom {α : Type} (item : Reader α) : (budget : Nat) → (done : List α) → Reader (List α)
  | 0, _, cs => .error (.here .endInList cs)
  | budget + 1, done, cs =>
    match skipSpace cs with
    | [] => .error (.next .endInList [])
    | ']' :: rest => .ok (done.reverse, rest)
    | ',' :: rest =>
      match skipSpace rest with
      | [] => .error (.next .endInValue [])
      | ']' :: rest => .error (.next .trailingComma (']' :: rest))
      | rest =>
        match item rest with
        | .error f => .error f
        | .ok (x, rest) => readItemsFrom item budget (x :: done) rest
    | rest => .error (.next .expectedListEnd rest)

/-- Reads the items of a list after its opening bracket. -/
def readItems {α : Type} (item : Reader α) : Reader (List α) := fun cs =>
  match skipSpace cs with
  | [] => .error (.next .endInList [])
  | ']' :: rest => .ok ([], rest)
  | rest =>
    match item rest with
    | .error f => .error f
    | .ok (x, rest) => readItemsFrom item (rest.length + 1) [x] rest

/-- Reads the colon between a key and its value. -/
def readColon (cs : List Char) : Parsed Unit :=
  match skipSpace cs with
  | [] => .error (.next .endInObject [])
  | ':' :: rest => .ok ((), rest)
  | rest => .error (.next .expectedColon rest)

/-- Reads a key, after its opening mark, and its value. -/
def readField {α : Type} (item : Reader α) : Reader (String × α) := fun cs =>
  match readString cs with
  | .error f => .error f
  | .ok (key, rest) =>
    match readColon rest with
    | .error f => .error f
    | .ok (_, rest) =>
      match item rest with
      | .error f => .error f
      | .ok (x, rest) => .ok ((key, x), rest)

/-- Reads the fields after the first onto `done`, which is last field first, and the closing
brace. -/
def readFieldsFrom {α : Type} (item : Reader α) :
    (budget : Nat) → (done : List (String × α)) → Reader (List (String × α))
  | 0, _, cs => .error (.here .endInObject cs)
  | budget + 1, done, cs =>
    match skipSpace cs with
    | [] => .error (.next .endInObject [])
    | '\x7d' :: rest => .ok (done.reverse, rest)
    | ',' :: rest =>
      match skipSpace rest with
      | [] => .error (.next .endInValue [])
      | '"' :: rest =>
        match readField item rest with
        | .error f => .error f
        | .ok (x, rest) => readFieldsFrom item budget (x :: done) rest
      | '\x7d' :: rest => .error (.next .trailingComma ('\x7d' :: rest))
      | rest => .error (.next .keyNotString rest)
    | rest => .error (.next .expectedObjectEnd rest)

/-- Reads the fields of an object after its opening brace. -/
def readFields {α : Type} (item : Reader α) : Reader (List (String × α)) := fun cs =>
  match skipSpace cs with
  | [] => .error (.next .endInObject [])
  | '\x7d' :: rest => .ok ([], rest)
  | '"' :: rest =>
    match readField item rest with
    | .error f => .error f
    | .ok (x, rest) => readFieldsFrom item (rest.length + 1) [x] rest
  | rest => .error (.next .keyNotString rest)

/-! ### Values -/

/-- Makes a value of what was read. -/
def Parsed.map {α β : Type} (f : α → β) : Parsed α → Parsed β
  | .error e => .error e
  | .ok (x, rest) => .ok (f x, rest)

/-- Reads a value whose lists and objects hold values that `nested` reads; without it there may
be no lists and objects. Of two fields with one key the later one counts. -/
def readValueWith (nested : Option (Reader Json)) : Reader Json := fun cs =>
  match skipSpace cs with
  | [] => .error (.next .endInValue [])
  | 'n' :: rest => readWord .null ['u', 'l', 'l'] rest
  | 't' :: rest => readWord (.bool true) ['r', 'u', 'e'] rest
  | 'f' :: rest => readWord (.bool false) ['a', 'l', 's', 'e'] rest
  | '-' :: rest => (readNumber true rest).map .number
  | '"' :: rest => (readString rest).map .string
  | '[' :: rest =>
    match nested with
    | none => .error (.here .nestedTooDeeply rest)
    | some item => (readItems item rest).map .array
  | '\x7b' :: rest =>
    match nested with
    | none => .error (.here .nestedTooDeeply rest)
    | some item => (readFields item rest).map fun fs => .object (Fields.ofList fs)
  | c :: rest =>
    if (digit? c).isSome then (readNumber false (c :: rest)).map .number
    else .error (.next .expectedValue (c :: rest))

/-- Reads a value of at most so many levels. -/
def readValue : (levels : Nat) → Reader Json
  | 0 => readValueWith none
  | levels + 1 => readValueWith (some (readValue levels))

/-- How deeply lists and objects may be nested. -/
def levelLimit : Nat := 127

/-- What remains after a value must be space. -/
def onlySpace {α : Type} : Parsed α → Except Fault α
  | .error f => .error f
  | .ok (x, rest) =>
    match skipSpace rest with
    | [] => .ok x
    | rest => .error (.next .trailingCharacters rest)

/-- Reads a text that is exactly one value. -/
def read (text : String) : Except Fault Json := onlySpace (readValue levelLimit text.toList)

end Courier.Json
