import Courier.Http.Chunks
import Courier.Text.Blank

/-!
# `Courier.Http.Arrival`: what has come of an answer

The head of an answer says where its body ends: at once, after some bytes, with the last chunk, or
when the connection is closed. `Arrival.of` tells what the bytes that have come so far are, and
`Arrival.closed` what they are when no more can come.
-/

set_option autoImplicit false

namespace Courier.Http

/-- Where a body ends. -/
inductive Framing where
  | empty
  | length (n : Nat)
  | chunks
  | untilClosed
deriving DecidableEq

namespace Framing

/-- A length: digits, with a value of at most 64 bits. -/
def length? (cs : List Char) : Option Nat :=
  if cs.isEmpty ∨ !cs.all Char.isDigit then none
  else (some (cs.foldl (fun n c => n * 10 + (c.toNat - '0'.toNat)) 0)).filter (· < UInt64.size)

/-- The parts of a text between commas. -/
def commaParts (cs : List Char) : List (List Char) :=
  cs.foldr (fun c parts =>
    if c = ',' then [] :: parts
    else
      match parts with
      | [] => [[c]]
      | p :: ps => (c :: p) :: ps) [[]]

/-- The lengths that a value states. -/
def lengths? (value : Bytes) : Option (List Nat) := do
  (commaParts (← Head.visible? value).toList).mapM fun p => length? (Text.trimChars p)

/-- The one length that all values state. -/
def statedLength? (values : List Bytes) : Option Nat := do
  match (← values.mapM lengths?).flatten with
  | [] => none
  | n :: ns => if ns.all (· = n) then some n else none

/-- Whether the last encoding that a value names is that of chunks. -/
def endsInChunks (value : Bytes) : Bool :=
  match Head.visible? value with
  | none => false
  | some s =>
    (commaParts s.toList).getLast?.any fun p =>
      sameName (String.ofList (Text.trimChars p)) "chunked"

/-- Where the body of an answer ends. -/
def ofHead (h : Head) : Except Fault Framing :=
  if h.status = 101 ∨ h.status = 204 ∨ h.status = 304 then .ok .empty
  else
    match h.values "transfer-encoding", h.values "content-length" with
    | [], [] => .ok .untilClosed
    | [], values =>
      match statedLength? values with
      | none => .error .contentLength
      | some n => if n ≤ UInt64.size - 3 then .ok (.length n) else .error .tooLarge
    | encodings, _ =>
      if !h.modern then .error .transferEncoding
      else if encodings.getLast?.any endsInChunks then .ok .chunks
      else .ok .untilClosed

end Framing

/-- What has come of a body. -/
inductive BodyArrival where
  | whole (body : Bytes)
  /-- More has to come. -/
  | partly
  /-- The bytes so far, to which more may be added until the connection is closed. -/
  | soFar (body : Bytes)
  /-- The chunks break the rules. -/
  | broken
deriving DecidableEq

/-- What the bytes behind a head are. -/
def BodyArrival.of (framing : Framing) (b : Bytes) : BodyArrival :=
  match framing with
  | .empty => .whole []
  | .length n => if n ≤ b.length then .whole (b.take n) else .partly
  | .untilClosed => .soFar b
  | .chunks =>
    match ({} : Chunks).feed b with
    | none => .broken
    | some s => if s.phase = .finished then .whole s.content.reverse else .partly

/-- What has come of an answer. -/
inductive Arrival where
  /-- The head is not complete. -/
  | awaited
  /-- The head breaks the rules. -/
  | broken (cause : Fault)
  | headed (head : Head) (body : BodyArrival)
deriving DecidableEq

namespace Arrival

/-- What some bytes are. -/
def of (b : Bytes) : Arrival :=
  match Head.readFinal b with
  | .more => .awaited
  | .fault cause => .broken cause
  | .done head rest =>
    match Framing.ofHead head with
    | .error cause => .broken cause
    | .ok framing => .headed head (.of framing rest)

/-- Whether nothing that may still come changes what has come. -/
def isSettled : Arrival → Bool
  | .awaited => false
  | .broken _ => true
  | .headed _ (.whole _) => true
  | .headed _ .broken => true
  | .headed _ _ => false

/-- The head and the body, once nothing more can come; the body is missing if it was cut short. -/
def closed : Arrival → Except Fault (Head × Option Bytes)
  | .awaited => .error .incomplete
  | .broken cause => .error cause
  | .headed head (.whole body) => .ok (head, some body)
  | .headed head (.soFar body) => .ok (head, some body)
  | .headed head _ => .ok (head, none)

end Arrival

end Courier.Http
