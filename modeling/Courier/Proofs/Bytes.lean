import Courier.Bytes
import Mathlib

/-!
# `Courier.Proofs.Bytes`: words that are read and written back

`Bytes.ofBigEndian_bigEndian` reads back what was written. This is the other way round: bytes are
the word of the number that they are the digits of (`bigEndian_ofBigEndian`), whatever they are.
The word is defined from its first digit on and the number from the last one, so both are taken
apart at the last byte.
-/

set_option autoImplicit false

namespace Courier

namespace Bytes

/-- The last byte of a word is the lowest digit. -/
theorem bigEndian_concat (width n : Nat) :
    bigEndian (width + 1) n = bigEndian width (n / 256) ++ [UInt8.ofNat n] := by
  induction width with
  | zero => simp [bigEndian, capacity]
  | succ width ih =>
    have hfirst : n / capacity (width + 1) = n / 256 / capacity width := by
      rw [capacity, Nat.mul_comm, Nat.div_div_eq_div_mul]
    rw [bigEndian, ih, hfirst]
    rfl

/-- One more byte behind is one more digit. -/
theorem ofBigEndian_concat (b : Bytes) (d : UInt8) :
    ofBigEndian (b ++ [d]) = ofBigEndian b * 256 + d.toNat := by
  unfold ofBigEndian
  rw [List.foldl_append, List.foldl_cons, List.foldl_nil]

/-- Bytes are the word of the number that they are the digits of. -/
theorem bigEndian_ofBigEndian (b : Bytes) : bigEndian b.length (ofBigEndian b) = b := by
  induction b using List.reverseRecOn with
  | nil => rfl
  | append_singleton b d ih =>
    have hd : d.toNat < 256 := d.toNat_lt
    have hrest : (ofBigEndian b * 256 + d.toNat) / 256 = ofBigEndian b := by omega
    have hlast : UInt8.ofNat (ofBigEndian b * 256 + d.toNat) = d := by
      apply UInt8.toNat_inj.mp
      rw [UInt8.toNat_ofNat']
      omega
    rw [List.length_append, List.length_singleton, ofBigEndian_concat, bigEndian_concat, hrest, ih,
      hlast]

end Bytes

end Courier
