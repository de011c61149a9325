import Courier.Proofs.Text.Base32
import Courier.QueryEncoding

/-!
# `Courier.Proofs.QueryEncoding`: a query carries its bytes

Bytes are written in a query with the characters of an alphabet that is known in advance
(`mem_alphabet_of_mem_encode`), none of which has a meaning of its own in a URL, and they are read
back from there as they were (`decode?_encode`).
-/

set_option autoImplicit false

namespace Courier

namespace Text.Hex

/-- A digit has the value that it is written for. -/
theorem digitValue?_digit : ∀ n < 16, digitValue? (digit n) = some n := by decide

/-- The digits that are written. -/
def alphabet : List Char := "0123456789abcdef".toList

/-- The digits are the alphabet. -/
theorem digit_mem : ∀ n < 16, digit n ∈ alphabet := by decide

/-- The two digits of a byte are both below sixteen, and make the byte. -/
theorem digits_of_byte (d : UInt8) :
    d.toNat / 16 < 16 ∧ d.toNat % 16 < 16 ∧ 16 * (d.toNat / 16) + d.toNat % 16 = d.toNat := by
  have hd : d.toNat < 256 := d.toNat_lt
  omega

/-- What is encoded is decoded behind what has been decoded before. -/
theorem decodeOnto_encode (out b : Bytes) :
    decodeOnto out (encode b) = some (out.reverse ++ b) := by
  induction b generalizing out with
  | nil => rw [encode, List.flatMap_nil, decodeOnto, List.append_nil]
  | cons d b ih =>
    obtain ⟨hhigh, hlow, hmake⟩ := digits_of_byte d
    show decodeOnto out (digit (d.toNat / 16) :: digit (d.toNat % 16) :: encode b) = _
    rw [decodeOnto, digitValue?_digit _ hhigh, digitValue?_digit _ hlow]
    dsimp only
    rw [hmake, UInt8.ofNat_toNat, ih, List.reverse_cons, List.append_assoc, List.singleton_append]

/-- The digits of bytes are read back as the bytes. -/
theorem decode?_encode (b : Bytes) : decode? (encode b) = some b := decodeOnto_encode [] b

/-- Only digits of the alphabet are written. -/
theorem mem_alphabet_of_mem_encode {b : Bytes} {c : Char} (h : c ∈ encode b) : c ∈ alphabet := by
  unfold encode at h
  obtain ⟨d, -, hc⟩ := List.mem_flatMap.mp h
  obtain ⟨hhigh, hlow, -⟩ := digits_of_byte d
  rw [byteDigits] at hc
  simp only [List.mem_cons, List.not_mem_nil, or_false] at hc
  rcases hc with rfl | rfl
  · exact digit_mem _ hhigh
  · exact digit_mem _ hlow

end Text.Hex

namespace QueryEncoding

/-- The characters with which an encoding writes. -/
def alphabet : QueryEncoding → List Char
  | .hex => Text.Hex.alphabet
  | .base32 => Text.Base32.alphabet

/-- Every letter that is written is of the alphabet of its encoding. -/
theorem mem_alphabet_of_mem_encode {e : QueryEncoding} {b : Bytes} {c : Char}
    (h : c ∈ (e.encode b).toList) : c ∈ e.alphabet := by
  cases e with
  | hex =>
    rw [encode, String.toList_ofList] at h
    exact Text.Hex.mem_alphabet_of_mem_encode h
  | base32 =>
    rw [encode, String.toList_ofList] at h
    exact Text.Base32.mem_alphabet_of_mem_encode h

/-- The text of bytes is read back as the bytes. -/
theorem decode?_encode (e : QueryEncoding) (b : Bytes) : e.decode? (e.encode b) = some b := by
  cases e with
  | hex => rw [encode, decode?, String.toList_ofList, Text.Hex.decode?_encode]
  | base32 => rw [encode, decode?, String.toList_ofList, Text.Base32.decode?_encode]

end QueryEncoding

end Courier
