import Courier.Http.Head

/-!
# `Courier.Http.Chunks`: bodies in pieces

A body of unknown length comes in chunks: a line with the length in hexadecimal digits, and as many
bytes with the end of a line behind them. A chunk without bytes is the last; headers and an empty
line follow it. Reading goes byte by byte.
-/

set_option autoImplicit false

namespace Courier.Http

/-- What is expected next of a body in chunks. -/
inductive ChunkPhase where
  /-- The first digit of a length. -/
  | start
  | length (n : Nat)
  /-- Blanks behind a length. -/
  | blanks (n : Nat)
  /-- Words behind a length, which mean nothing, and how many bytes of them there were. -/
  | extension (n count : Nat)
  /-- The line feed behind a length. -/
  | lengthEnd (n : Nat)
  /-- So many bytes of a chunk. -/
  | content (left : Nat)
  | contentReturn
  | contentEnd
  /-- A header behind the last chunk. -/
  | trailer
  | trailerEnd
  /-- A header, or the end. -/
  | lastReturn
  | lastEnd
  | finished
deriving DecidableEq

/-- What has been read of a body in chunks. -/
structure Chunks where
  phase : ChunkPhase := .start
  /-- The bytes of the chunks, last first. -/
  content : Bytes := []
  /-- The headers behind the last chunk, last byte first. -/
  trailer : Bytes := []
deriving DecidableEq

namespace Chunks

/-- The value of a hexadecimal digit. -/
def digit? (b : UInt8) : Option Nat :=
  if 48 ≤ b ∧ b ≤ 57 then some (b.toNat - 48)
  else if 97 ≤ b ∧ b ≤ 102 then some (b.toNat - 87)
  else if 65 ≤ b ∧ b ≤ 70 then some (b.toNat - 55)
  else none

/-- The state in which a phase is next. -/
def go (s : Chunks) (phase : ChunkPhase) : Option Chunks := some { s with phase := phase }

/-- The length with one more digit, if it fits into 64 bits. -/
def lengthen (s : Chunks) (n : Nat) (b : UInt8) : Option Chunks :=
  match digit? b with
  | some d => if n * 16 + d < UInt64.size then s.go (.length (n * 16 + d)) else none
  | none => none

/-- What can follow a length. -/
def behindLength (s : Chunks) (n : Nat) (b : UInt8) : Option Chunks :=
  if b = 9 ∨ b = 32 then s.go (.blanks n)
  else if b = 0x3b then s.go (.extension n 0)
  else if b = 13 then s.go (.lengthEnd n)
  else none

/-- Whether the headers behind the last chunk are headers. -/
def hasGoodTrailer (s : Chunks) : Bool :=
  s.trailer.isEmpty ||
    match Head.readHeaders s.trailer.length (s.trailer.reverse ++ [13, 10]) with
    | .done _ _ => true
    | _ => false

/-- The state after one more byte, if it is one that can come. -/
def step (s : Chunks) (b : UInt8) : Option Chunks :=
  match s.phase with
  | .start => s.lengthen 0 b
  | .length n => if (digit? b).isSome then s.lengthen n b else s.behindLength n b
  | .blanks n => s.behindLength n b
  | .extension n count =>
    if b = 13 then s.go (.lengthEnd n)
    else if b = 10 ∨ count + 1 ≥ 16384 then none
    else s.go (.extension n (count + 1))
  | .lengthEnd n =>
    if b ≠ 10 then none else if n = 0 then s.go .lastReturn else s.go (.content n)
  | .content left =>
    some { s with
      phase := if left ≤ 1 then .contentReturn else .content (left - 1)
      content := b :: s.content }
  | .contentReturn => if b = 13 then s.go .contentEnd else none
  | .contentEnd => if b = 10 then s.go .start else none
  | .trailer =>
    some { s with phase := if b = 13 then .trailerEnd else .trailer, trailer := b :: s.trailer }
  | .trailerEnd =>
    if b = 10 then some { s with phase := .lastReturn, trailer := b :: s.trailer } else none
  | .lastReturn =>
    if b = 13 then s.go .lastEnd
    else some { s with phase := .trailer, trailer := b :: s.trailer }
  | .lastEnd => if b = 10 ∧ s.hasGoodTrailer then s.go .finished else none
  | .finished => some s

/-- The state after some bytes. What follows the end of the body means nothing. -/
def feed (s : Chunks) : Bytes → Option Chunks
  | [] => some s
  | b :: rest =>
    match s.step b with
    | none => none
    | some next => next.feed rest

end Chunks

end Courier.Http
