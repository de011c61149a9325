import Courier.Bytes
import Courier.Http.Message

/-!
# `Courier.Http.Head`: the head of an answer

An answer begins with a line that has the version, the status and a reason, and with headers.
Lines end in a line feed, in front of which a carriage return can stand. Reading the front of an
answer gives its head and what follows it, or finds that more is needed, or a fault.
-/

set_option autoImplicit false

namespace Courier.Http

/-- How an answer breaks the rules. -/
inductive Fault where
  | version
  | status
  | header
  | tooLarge
  | contentLength
  | transferEncoding
  /-- The connection was closed before the head was complete. -/
  | incomplete
deriving DecidableEq

/-- The text of a fault. -/
def Fault.message : Fault → String
  | .version => "invalid HTTP version parsed"
  | .status => "invalid HTTP status-code parsed"
  | .header => "invalid HTTP header parsed"
  | .tooLarge => "message head is too large"
  | .contentLength => "invalid content-length parsed"
  | .transferEncoding => "unexpected transfer-encoding parsed"
  | .incomplete => "connection closed before message completed"

/-- What comes of reading something at the front of some bytes. -/
inductive Reading (α : Type) where
  | done (value : α) (rest : Bytes)
  /-- The bytes end too soon. -/
  | more
  | fault (cause : Fault)
deriving DecidableEq

/-- Goes on with what follows. -/
def Reading.andThen {α β : Type} (r : Reading α) (next : α → Bytes → Reading β) : Reading β :=
  match r with
  | .done value rest => next value rest
  | .more => .more
  | .fault cause => .fault cause

/-- The head of an answer. Names of headers are in lower case. -/
structure Head where
  /-- Whether the answer is of the version with chunks. -/
  modern : Bool
  status : Nat
  headers : List (String × Bytes)
deriving DecidableEq

namespace Head

/-- The end of a line. -/
def readLineEnd (cause : Fault) : Bytes → Reading Unit
  | [] => .more
  | 10 :: rest => .done () rest
  | [13] => .more
  | 13 :: 10 :: rest => .done () rest
  | _ => .fault cause

/-- Whether a byte can stand in the name of a header. -/
def isToken (b : UInt8) : Bool :=
  let c := Char.ofNat b.toNat
  b < 0x80 && (c.isAlphanum || "!#$%&'*+-.^_\x60|~".contains c)

/-- Whether a byte can stand in the value of a header, or in a reason. -/
def isText (b : UInt8) : Bool := b = 9 || (b ≥ 32 && b ≠ 127)

/-- Whether a byte is a blank. -/
def isBlank (b : UInt8) : Bool := b = 32 || b = 9

/-- A value without the blanks at its ends. -/
def trim (b : Bytes) : Bytes := ((b.dropWhile isBlank).reverse.dropWhile isBlank).reverse

/-- A header. -/
def readHeader (b : Bytes) : Reading (String × Bytes) :=
  match b.span isToken with
  | (_, []) => .more
  | (name, 0x3a :: rest) =>
    if name.isEmpty then .fault .header
    else
      let (value, rest) := rest.span isText
      (readLineEnd .header rest).andThen fun _ rest =>
        .done (String.ofList (name.map fun b => lowerChar (Char.ofNat b.toNat)), trim value) rest
  | _ => .fault .header

/-- The headers up to an empty line, at most `count`. -/
def readHeaders : (count : Nat) → Bytes → Reading (List (String × Bytes))
  | 0, b =>
    match b with
    | [] => .more
    | 10 :: rest => .done [] rest
    | 13 :: rest => (readLineEnd .header (13 :: rest)).andThen fun _ rest => .done [] rest
    | _ => .fault .tooLarge
  | count + 1, b =>
    match b with
    | [] => .more
    | 10 :: rest => .done [] rest
    | 13 :: rest => (readLineEnd .header (13 :: rest)).andThen fun _ rest => .done [] rest
    | b =>
      (readHeader b).andThen fun h rest =>
        (readHeaders count rest).andThen fun hs rest => .done (h :: hs) rest

/-- The empty lines in front of an answer. -/
def skipEmptyLines : Bytes → Reading Unit
  | [] => .more
  | 10 :: rest => skipEmptyLines rest
  | [13] => .more
  | 13 :: 10 :: rest => skipEmptyLines rest
  | 13 :: _ :: _ => .fault .header
  | b => .done () b

/-- The version, and whether it is the one with chunks. What cannot become a version is refused
even if more bytes are to come. -/
def readVersion (b : Bytes) : Reading Bool :=
  let name := b.take 8
  if name = Bytes.ofString "HTTP/1.1" then .done true (b.drop 8)
  else if name = Bytes.ofString "HTTP/1.0" then .done false (b.drop 8)
  else if name.isPrefixOf (Bytes.ofString "HTTP/1.") then .more
  else .fault .version

/-- A digit of a status. -/
def isDigit (b : UInt8) : Bool := 48 ≤ b && b ≤ 57

/-- A status of three digits. -/
def readStatus : Bytes → Reading Nat
  | a :: b :: c :: rest =>
    if isDigit a && isDigit b && isDigit c then
      .done ((a.toNat - 48) * 100 + (b.toNat - 48) * 10 + (c.toNat - 48)) rest
    else .fault .status
  | b => if b.all isDigit then .more else .fault .status

/-- What follows the status: a reason, or the end of the line. -/
def readReason : Bytes → Reading Unit
  | 32 :: rest => readLineEnd .status (rest.dropWhile isText)
  | b => readLineEnd .status b

/-- The most headers that an answer can have. -/
def maxHeaders : Nat := 100

/-- Reads the head of an answer. -/
def read (b : Bytes) : Reading Head :=
  (skipEmptyLines b).andThen fun _ b =>
  (readVersion b).andThen fun modern b =>
  match b with
  | [] => .more
  | 32 :: b =>
    (readStatus b).andThen fun status b =>
    (readReason b).andThen fun _ b =>
    (readHeaders maxHeaders b).andThen fun headers b =>
    if status < 100 then .fault .status else .done ⟨modern, status, headers⟩ b
  | _ => .fault .version

/-- The values of the headers with a name, in order. -/
def values (h : Head) (name : String) : List Bytes :=
  h.headers.filterMap fun f => if f.1 = name then some f.2 else none

/-- Whether an answer only announces another one. -/
def isInterim (h : Head) : Bool := 100 ≤ h.status && h.status < 200 && h.status ≠ 101

/-- Reads heads up to the first that does not only announce another one, at most `count`. -/
def readFinalUpTo : (count : Nat) → Bytes → Reading Head
  | 0, _ => .more
  | count + 1, b =>
    (read b).andThen fun head rest =>
      if head.isInterim then readFinalUpTo count rest else .done head rest

/-- Reads the head of the answer itself. Each head that is passed over has at least one byte. -/
def readFinal (b : Bytes) : Reading Head := readFinalUpTo (b.length + 1) b

/-- The text of a value of visible characters, blanks and tabs. -/
def visible? (value : Bytes) : Option String :=
  if value.all fun b => b = 9 || (32 ≤ b && b < 127) then
    some (String.ofList (value.map fun b => Char.ofNat b.toNat))
  else none

end Head

end Courier.Http
