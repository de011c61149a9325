import Courier.Bytes

/-!
# `Courier.Text.Base32`: bytes as groups of five bits

The unpadded base-32 form of RFC 4648 with the letters `A` to `Z` and `2` to `7`. The bytes are
read into an accumulator of twelve bits, and a letter is written as soon as five bits have arrived,
so that no more than four bits are pending between two bytes. Bits that have been written stay in
the accumulator until later ones push them out. A last group of fewer than five bits is filled with
zeros on the right.
-/

set_option autoImplicit false

namespace Courier.Text.Base32

/-- The letter of a number below thirty-two. -/
def letter (n : Nat) : Char := if n < 26 then Char.ofNat (65 + n) else Char.ofNat (24 + n)

/-- The value of a letter. -/
def letterValue? (c : Char) : Option Nat :=
  let n := c.toNat
  if 65 ≤ n ∧ n ≤ 90 then some (n - 65)
  else if 50 ≤ n ∧ n ≤ 55 then some (n - 24)
  else none

/-- What has been written and what is still to be written. -/
structure State where
  /-- The letters so far, last letter first. -/
  written : List Char
  /-- The last bits that have been read, as a number: those that are still to be written, below
  some that have been. -/
  pending : Nat
  /-- How many bits are still to be written. -/
  count : Nat

/-- Writes letters as long as five bits are pending. -/
def State.emit (s : State) : State :=
  if s.count < 5 then s
  else
    State.emit
      { s with
        written := letter ((s.pending >>> (s.count - 5)) % 32) :: s.written
        count := s.count - 5 }
termination_by s.count
decreasing_by simp_wf; omega

/-- Takes in one byte and writes what it completes. The accumulator keeps twelve bits. -/
def State.push (s : State) (d : UInt8) : State :=
  State.emit { s with pending := (s.pending * 256 + d.toNat) % 4096, count := s.count + 8 }

/-- The letters, with the last group filled up. -/
def State.finish (s : State) : List Char :=
  if s.count = 0 then s.written.reverse
  else (letter ((s.pending <<< (5 - s.count)) % 32) :: s.written).reverse

/-- The base-32 form of a byte string. -/
def encode (b : Bytes) : List Char := (b.foldl State.push ⟨[], 0, 0⟩).finish

/-- The bytes of which these letters are the base-32 form: the bits of the letters in groups
of eight. The bits that are left over must be zeros and fewer than five. -/
def decodeOnto (out : Bytes) (pending count : Nat) : List Char → Option Bytes
  | [] => if count < 5 ∧ pending = 0 then some out.reverse else none
  | c :: cs =>
    match letterValue? c with
    | none => none
    | some v =>
      if count + 5 < 8 then decodeOnto out (pending * 32 + v) (count + 5) cs
      else
        let rest := count + 5 - 8
        decodeOnto (UInt8.ofNat ((pending * 32 + v) >>> rest) :: out)
          ((pending * 32 + v) % (1 <<< rest)) rest cs

/-- The bytes whose base-32 form this is. -/
def decode? (cs : List Char) : Option Bytes := decodeOnto [] 0 0 cs

end Courier.Text.Base32
