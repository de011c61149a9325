/-!
# `Courier.Bytes`: byte strings and big-endian words

Everything that travels is a list of bytes. Numbers travel as big-endian words of a fixed
width. `bigEndian` writes one, `ofBigEndian` reads one, and the two are inverse on the
numbers that fit the width (`ofBigEndian_bigEndian`).
-/

set_option autoImplicit false

namespace Courier

/-- A byte string. -/
abbrev Bytes := List UInt8

namespace Bytes

/-- The bytes of a text in UTF-8. -/
def ofString (s : String) : Bytes := s.toUTF8.data.toList

/-- The text whose UTF-8 form these bytes are, if there is one. -/
def toString? (b : Bytes) : Option String := String.fromUTF8? ⟨b.toArray⟩

/-- How many numbers can be written with `width` bytes: the power of 256. -/
def capacity : (width : Nat) → Nat
  | 0 => 1
  | width + 1 => capacity width * 256

/-- The lowest `width` base-256 digits of `n`, most significant first. -/
def bigEndian : (width n : Nat) → Bytes
  | 0, _ => []
  | width + 1, n => UInt8.ofNat (n / capacity width) :: bigEndian width n

/-- The number whose base-256 digits are `b`, most significant first. -/
def ofBigEndian (b : Bytes) : Nat := b.foldl (fun n d => n * 256 + d.toNat) 0

/-- A number in bytes is as wide as it is asked to be. -/
@[simp] theorem length_bigEndian (width n : Nat) : (bigEndian width n).length = width := by
  induction width with
  | zero => rfl
  | succ width ih => simp [bigEndian, ih]

/-- A leading digit counts for the power of 256 of the digits after it. -/
theorem foldl_digits (b : Bytes) (n : Nat) :
    b.foldl (fun n d => n * 256 + d.toNat) n = n * capacity b.length + ofBigEndian b := by
  induction b generalizing n with
  | nil => simp [ofBigEndian, capacity]
  | cons d b ih =>
    simp only [ofBigEndian, List.foldl_cons, List.length_cons, Nat.zero_mul, Nat.zero_add]
    rw [ih, ih d.toNat, capacity, Nat.add_mul, Nat.mul_assoc, Nat.mul_comm 256, Nat.add_assoc]

/-- The first byte counts most. -/
theorem ofBigEndian_cons (d : UInt8) (b : Bytes) :
    ofBigEndian (d :: b) = d.toNat * capacity b.length + ofBigEndian b := by
  simpa [ofBigEndian] using foldl_digits b d.toNat

/-- Reading back a word gives the number modulo the width. -/
theorem ofBigEndian_bigEndian_mod (width n : Nat) :
    ofBigEndian (bigEndian width n) = n % capacity width := by
  induction width with
  | zero => simp [bigEndian, ofBigEndian, capacity, Nat.mod_one]
  | succ width ih =>
    have digit : (UInt8.ofNat (n / capacity width)).toNat = n / capacity width % 256 := by simp
    rw [bigEndian, ofBigEndian_cons, ih, length_bigEndian, digit, capacity, Nat.mod_mul]
    rw [Nat.add_comm, Nat.mul_comm]

/-- A number that fits the width is read back as it was written. -/
theorem ofBigEndian_bigEndian {width n : Nat} (h : n < capacity width) :
    ofBigEndian (bigEndian width n) = n := by
  rw [ofBigEndian_bigEndian_mod, Nat.mod_eq_of_lt h]

/-- The digits that are read make less than the power of 256 of their number. -/
theorem ofBigEndian_lt (b : Bytes) : ofBigEndian b < capacity b.length := by
  induction b with
  | nil => exact Nat.one_pos
  | cons d b ih =>
    have hd : d.toNat + 1 ≤ 256 := d.toNat_lt
    have hmul : (d.toNat + 1) * capacity b.length ≤ 256 * capacity b.length :=
      Nat.mul_le_mul_right _ hd
    rw [Nat.add_mul, Nat.one_mul, Nat.mul_comm 256] at hmul
    rw [ofBigEndian_cons, List.length_cons, capacity]
    omega

/-- A wider word has room for more. -/
theorem capacity_le {width greatest : Nat} (h : width ≤ greatest) :
    capacity width ≤ capacity greatest := by
  induction h with
  | refl => exact Nat.le_refl _
  | step _ ih =>
    rw [capacity]
    omega

/-- The bytes of a text are read as this text. -/
@[simp] theorem toString?_ofString (s : String) : toString? (ofString s) = some s := by
  have h : (⟨(s.toUTF8.data.toList).toArray⟩ : ByteArray) = s.toByteArray := by
    simp [String.toUTF8]
  unfold toString? ofString
  rw [h]
  simp [String.fromUTF8?, String.isValidUTF8, String.fromUTF8]

/-- A text that is read has the bytes that it is read from. -/
theorem ofString_of_toString? {b : Bytes} {s : String} (h : toString? b = some s) :
    ofString s = b := by
  unfold toString? String.fromUTF8? at h
  split at h
  · rw [← Option.some.inj h]
    rfl
  · cases h

end Bytes

end Courier
