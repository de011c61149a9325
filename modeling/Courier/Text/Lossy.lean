import Courier.Bytes

/-!
# `Courier.Text.Lossy`: bytes as text, whatever they are

Bytes that are UTF-8 are read as what they stand for. Elsewhere a replacement character stands
for the longest run of bytes that begins a character and is not continued to one, or for a
single byte that begins none.
-/

set_option autoImplicit false

namespace Courier.Text

namespace Lossy

/-- The beginning of a character: what its first byte contributes, the bounds of the second
byte, and the number of bytes to come. -/
structure Lead where
  value : Nat
  low : UInt8
  high : UInt8
  count : Nat

/-- What a byte begins, if it begins a character of several bytes. The bounds leave out what
has a shorter form, the surrogates, and what lies above the last character. -/
def lead? (b : UInt8) : Option Lead :=
  let n := b.toNat
  if n < 0xc2 then none
  else if n < 0xe0 then some ⟨n % 32, 0x80, 0xbf, 1⟩
  else if n = 0xe0 then some ⟨0, 0xa0, 0xbf, 2⟩
  else if n = 0xed then some ⟨13, 0x80, 0x9f, 2⟩
  else if n < 0xf0 then some ⟨n % 16, 0x80, 0xbf, 2⟩
  else if n = 0xf0 then some ⟨0, 0x90, 0xbf, 3⟩
  else if n < 0xf4 then some ⟨n % 8, 0x80, 0xbf, 3⟩
  else if n = 0xf4 then some ⟨4, 0x80, 0x8f, 3⟩
  else none

/-- The character that the bytes complete, or the replacement character, and the bytes after
those that were taken. -/
def complete (value : Nat) (low high : UInt8) : (count : Nat) → Bytes → Char × Bytes
  | 0, rest => (Char.ofNat value, rest)
  | _ + 1, [] => ('\uFFFD', [])
  | count + 1, b :: rest =>
    if low ≤ b ∧ b ≤ high then complete (value * 64 + b.toNat % 64) 0x80 0xbf count rest
    else ('\uFFFD', b :: rest)

/-- What is left behind a character is no longer than what there was. -/
theorem length_complete_le (value : Nat) (low high : UInt8) (count : Nat) (b : Bytes) :
    (complete value low high count b).2.length ≤ b.length := by
  induction count generalizing value low high b with
  | zero => simp [complete]
  | succ count ih =>
    cases b with
    | nil => simp [complete]
    | cons b rest =>
      simp only [complete]
      split
      · exact Nat.le_succ_of_le (ih ..)
      · exact Nat.le_refl _

/-- The characters that bytes stand for. -/
def chars : Bytes → List Char
  | [] => []
  | b :: rest =>
    if b < 0x80 then Char.ofNat b.toNat :: chars rest
    else
      match lead? b with
      | none => '\uFFFD' :: chars rest
      | some l =>
        let r := complete l.value l.low l.high l.count rest
        r.1 :: chars r.2
termination_by b => b.length
decreasing_by
  · simp
  · simp
  · have := length_complete_le l.value l.low l.high l.count rest
    simp only [List.length_cons]
    omega

end Lossy

/-- The text of bytes, with replacement characters where they are not UTF-8. -/
def lossy (b : Bytes) : String :=
  match Bytes.toString? b with
  | some s => s
  | none => String.ofList (Lossy.chars b)

end Courier.Text
