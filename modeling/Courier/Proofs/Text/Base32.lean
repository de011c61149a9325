import Courier.Text.Base32
import Courier.Proofs.Bytes
import Mathlib

/-!
# `Courier.Proofs.Text.Base32`: the letters are the digits of a number

The base-32 form is written bit by bit out of an accumulator. What comes of it can be said without
one: take the bytes as one big-endian number, put zeros behind it until its bits come in groups of
five, and the letters are the digits of that number in base 32 (`encode_eq`). Reading the letters
gives the number again, and the number has the bytes (`decode?_encode`).

Both directions carry the same kind of invariant. What is written is the number without the bits
that are pending, and what is pending is the rest (`State.Holds` for the writer, the hypotheses of
`decodeOnto_map_letter` for the reader). The writer also has older bits in its accumulator, and only
so many in all. The invariant is about the pending ones alone, and between two bytes these are so
few that none is lost when the next byte comes in (`State.Holds.push`).
-/

set_option autoImplicit false

/-! ### Numbers as bits -/

namespace Courier

section Bits
variable {n c k v : Nat}

/-- Bits put behind a number are gone when they are cut off again. -/
theorem shift_div (n : Nat) (hv : v < 2 ^ k) : (n * 2 ^ k + v) / 2 ^ k = n := by
  rw [Nat.mul_comm, Nat.mul_add_div (Nat.two_pow_pos k), Nat.div_eq_of_lt hv, Nat.add_zero]

/-- So cutting off more cuts off bits that the number had before. -/
theorem shift_add_div (n c : Nat) (hv : v < 2 ^ k) :
    (n * 2 ^ k + v) / 2 ^ (c + k) = n / 2 ^ c := by
  rw [Nat.add_comm c k, Nat.pow_add, ← Nat.div_div_eq_div_mul, shift_div n hv]

/-- And they stand behind the lowest bits that the number had. -/
theorem shift_add_mod (n c : Nat) (hv : v < 2 ^ k) :
    (n * 2 ^ k + v) % 2 ^ (c + k) = n % 2 ^ c * 2 ^ k + v := by
  have hlow : (n * 2 ^ k + v) % 2 ^ k = v := by
    rw [Nat.mul_comm, Nat.mul_add_mod, Nat.mod_eq_of_lt hv]
  rw [Nat.add_comm c k, Nat.pow_add, Nat.mod_mul, hlow, shift_div n hv, Nat.add_comm,
    Nat.mul_comm]

/-- The upper ones of the lowest bits. -/
theorem mod_shift (n c k : Nat) : n % 2 ^ (c + k) / 2 ^ c = n / 2 ^ c % 2 ^ k := by
  rw [Nat.pow_add, Nat.mod_mul_right_div_self]

/-- The lower ones of the lowest bits. -/
theorem mod_mod_two_pow (n c k : Nat) : n % 2 ^ (c + k) % 2 ^ c = n % 2 ^ c :=
  Nat.mod_mod_of_dvd n (Nat.pow_dvd_pow 2 (Nat.le_add_right c k))

end Bits

end Courier

namespace Courier.Text.Base32

/-! ### Letters and digits -/

/-- A letter has the value that it is written for. -/
theorem letterValue?_letter : ∀ v < 32, letterValue? (letter v) = some v := by decide

/-- The alphabet of the base-32 form. -/
def alphabet : List Char := "ABCDEFGHIJKLMNOPQRSTUVWXYZ234567".toList

/-- The letters are the alphabet. -/
theorem letter_mem : ∀ v < 32, letter v ∈ alphabet := by decide

/-- The lowest `count` digits of a number in base 32, most significant first. -/
def digits : (count n : Nat) → List Nat
  | 0, _ => []
  | count + 1, n => digits count (n / 32) ++ [n % 32]

/-- As many digits are written as are asked for. -/
@[simp] theorem length_digits (count n : Nat) : (digits count n).length = count := by
  induction count generalizing n with
  | zero => rfl
  | succ count ih => rw [digits, List.length_append, ih, List.length_singleton]

/-- Each of them is below the base. -/
theorem lt_of_mem_digits {count n v : Nat} (h : v ∈ digits count n) : v < 32 := by
  induction count generalizing n with
  | zero => exact absurd h List.not_mem_nil
  | succ count ih =>
    rw [digits] at h
    rcases List.mem_append.mp h with h | h
    · exact ih h
    · rw [List.mem_singleton.mp h]
      exact Nat.mod_lt n (by decide)

/-- The digits of a number make the number, as far as they go. -/
theorem foldl_digits (count n : Nat) :
    (digits count n).foldl (fun n v => n * 32 + v) 0 = n % 2 ^ (5 * count) := by
  induction count generalizing n with
  | zero => exact (Nat.mod_one n).symm
  | succ count ih =>
    have hlast : n % 32 < 2 ^ 5 := Nat.mod_lt n (by decide)
    have hn : n / 32 * 2 ^ 5 + n % 32 = n := by omega
    have hmod := shift_add_mod (n / 32) (5 * count) hlast
    rw [hn] at hmod
    rw [digits, List.foldl_append, ih, List.foldl_cons, List.foldl_nil, Nat.mul_add, Nat.mul_one]
    exact hmod.symm

/-! ### Writing -/

/-- The state after some bits that form the number `n`: the letters are the digits of the number
without the pending bits, and the lowest bits of the accumulator are those. What stands above them
in the accumulator does not matter. -/
structure State.Holds (s : State) (n bits : Nat) : Prop where
  bits : bits = 5 * s.written.length + s.count
  written : s.written.reverse = (digits s.written.length (n / 2 ^ s.count)).map letter
  pending : s.pending % 2 ^ s.count = n % 2 ^ s.count

/-- Letters are written as long as there are five bits. -/
theorem State.count_emit (s : State) : s.emit.count < 5 := by
  fun_induction State.emit s with
  | case1 s hfew => exact hfew
  | case2 s hmany ih => exact ih

/-- Writing letters counts bits off and changes nothing else. -/
theorem State.Holds.emit {s : State} {n bits : Nat} (h : s.Holds n bits) : s.emit.Holds n bits := by
  fun_induction State.emit s with
  | case1 s hfew => exact h
  | case2 s hmany ih =>
    apply ih
    obtain ⟨c, hc⟩ : ∃ c, s.count = c + 5 := Nat.exists_eq_add_of_le' (Nat.le_of_not_lt hmany)
    have hbits := h.bits
    have hwritten := h.written
    have hpending := h.pending
    rw [hc] at hbits hwritten hpending ⊢
    -- the five bits above the lowest `c` ones are pending, so they are those of the number
    have hletter : (s.pending >>> c) % 32 = n / 2 ^ c % 32 := by
      rw [Nat.shiftRight_eq_div_pow]
      show s.pending / 2 ^ c % 2 ^ 5 = n / 2 ^ c % 2 ^ 5
      rw [← mod_shift, hpending, mod_shift]
    have hbefore : n / 2 ^ (c + 5) = n / 2 ^ c / 32 := by
      rw [Nat.pow_add, Nat.div_div_eq_div_mul]
    refine ⟨?_, ?_, ?_⟩
    · show bits = 5 * (s.written.length + 1) + c
      omega
    · show (letter ((s.pending >>> c) % 32) :: s.written).reverse =
        (digits (s.written.length + 1) (n / 2 ^ c)).map letter
      rw [List.reverse_cons, hwritten, hletter, hbefore, digits, List.map_append,
        List.map_singleton]
    · show s.pending % 2 ^ c = n % 2 ^ c
      rw [← mod_mod_two_pow s.pending c 5, hpending, mod_mod_two_pow]

/-- A byte puts eight bits behind the number. No more than four bits are pending before it, so the
accumulator loses none that are still to be written. -/
theorem State.Holds.push {s : State} {n bits : Nat} (h : s.Holds n bits) (hcount : s.count < 5)
    (d : UInt8) : (s.push d).Holds (n * 256 + d.toNat) (bits + 8) := by
  have hd : d.toNat < 2 ^ 8 := d.toNat_lt
  have htaken : State.Holds
      { s with pending := (s.pending * 256 + d.toNat) % 4096, count := s.count + 8 }
      (n * 256 + d.toNat) (bits + 8) := by
    refine ⟨?_, ?_, ?_⟩
    · have hbits := h.bits
      show bits + 8 = 5 * s.written.length + (s.count + 8)
      omega
    · show s.written.reverse =
        (digits s.written.length ((n * 2 ^ 8 + d.toNat) / 2 ^ (s.count + 8))).map letter
      rw [shift_add_div n s.count hd]
      exact h.written
    · have htwelve : 2 ^ (s.count + 8) ∣ 2 ^ 12 := Nat.pow_dvd_pow 2 (by omega)
      show (s.pending * 2 ^ 8 + d.toNat) % 2 ^ 12 % 2 ^ (s.count + 8)
        = (n * 2 ^ 8 + d.toNat) % 2 ^ (s.count + 8)
      rw [Nat.mod_mod_of_dvd _ htwelve, shift_add_mod _ _ hd, shift_add_mod _ _ hd, h.pending]
  exact htaken.emit

/-- Fewer than five bits are pending between two bytes. -/
theorem State.count_push (s : State) (d : UInt8) : (s.push d).count < 5 := State.count_emit _

/-- What is written and pending after all bytes is the number that they form. -/
theorem State.Holds.foldl {s : State} {n bits : Nat} (h : s.Holds n bits) (hcount : s.count < 5)
    (b : Bytes) :
    (b.foldl State.push s).Holds (b.foldl (fun n d => n * 256 + d.toNat) n) (bits + 8 * b.length) ∧
      (b.foldl State.push s).count < 5 := by
  induction b generalizing s n bits with
  | nil => exact ⟨h, hcount⟩
  | cons d b ih =>
    have hrest := ih (h.push hcount d) (State.count_push s d)
    rw [List.foldl_cons, List.foldl_cons, List.length_cons,
      show bits + 8 * (b.length + 1) = bits + 8 + 8 * b.length by omega]
    exact hrest

/-- How many letters some bits make. -/
def size (bits : Nat) : Nat := (bits + 4) / 5

/-- How many zeros stand behind the bits, so that they come in groups of five. -/
def padding (bits : Nat) : Nat := 5 * size bits - bits

/-- The letters have room for all bits, and for less than one letter more. -/
theorem size_padding (bits : Nat) : 5 * size bits = bits + padding bits ∧ padding bits < 5 := by
  unfold padding size
  omega

/-- The last letter has the bits that are left, with zeros behind them. -/
theorem State.Holds.finish {s : State} {n bits : Nat} (h : s.Holds n bits) (hcount : s.count < 5) :
    s.finish = (digits (size bits) (n * 2 ^ padding bits)).map letter := by
  have hbits := h.bits
  have hwritten := h.written
  have hsize := size_padding bits
  unfold State.finish
  split
  · rename_i hnone
    have hletters : size bits = s.written.length := by omega
    have hpadding : padding bits = 0 := by omega
    rw [hwritten, hletters, hpadding, hnone]
    simp
  · rename_i hsome
    have hletters : size bits = s.written.length + 1 := by omega
    have hpadding : padding bits = 5 - s.count := by omega
    -- the bits before the pending ones and the zeros are one group of five further up
    have hgroup : 32 = 2 ^ s.count * 2 ^ (5 - s.count) := by
      rw [← Nat.pow_add, show s.count + (5 - s.count) = 5 by omega]
    have hbefore : n * 2 ^ (5 - s.count) / 32 = n / 2 ^ s.count := by
      rw [hgroup, Nat.mul_div_mul_right _ _ (Nat.two_pow_pos _)]
    have hlast : n * 2 ^ (5 - s.count) % 32 = (s.pending <<< (5 - s.count)) % 32 := by
      rw [Nat.shiftLeft_eq, hgroup, Nat.mul_mod_mul_right, Nat.mul_mod_mul_right, h.pending]
    rw [List.reverse_cons, hwritten, hletters, hpadding, digits, List.map_append,
      List.map_singleton, hbefore, hlast]

/-- The base-32 form of bytes: the digits of the number that they form, with zeros behind it. -/
theorem encode_eq (b : Bytes) :
    encode b = (digits (size (8 * b.length))
      (Bytes.ofBigEndian b * 2 ^ padding (8 * b.length))).map letter := by
  have hempty : State.Holds ⟨[], 0, 0⟩ 0 0 := ⟨rfl, rfl, rfl⟩
  obtain ⟨hholds, hcount⟩ := hempty.foldl (by decide) b
  rw [Nat.zero_add] at hholds
  exact hholds.finish hcount

/-- Only letters of the alphabet are written. -/
theorem mem_alphabet_of_mem_encode {b : Bytes} {c : Char} (h : c ∈ encode b) : c ∈ alphabet := by
  rw [encode_eq] at h
  obtain ⟨v, hv, rfl⟩ := List.mem_map.mp h
  exact letter_mem v (lt_of_mem_digits hv)

/-! ### Reading -/

/-- Reading letters puts their digits behind the number so far. As many bytes come of it as fit the
bits, and the bits that are left must be zeros and fewer than five. -/
theorem decodeOnto_map_letter {vs : List Nat} (hvs : ∀ v ∈ vs, v < 32) {out : Bytes}
    {pending count n m : Nat} (hcount : count < 8) (hpending : pending = n % 2 ^ count)
    (hout : out.reverse = Bytes.bigEndian m (n / 2 ^ count)) {m' count' : Nat}
    (hcount' : count' < 8) (hbits : 8 * m' + count' = 8 * m + count + 5 * vs.length) :
    decodeOnto out pending count (vs.map letter) =
      if count' < 5 ∧ vs.foldl (fun n v => n * 32 + v) n % 2 ^ count' = 0 then
        some (Bytes.bigEndian m' (vs.foldl (fun n v => n * 32 + v) n / 2 ^ count'))
      else none := by
  induction vs generalizing out pending count n m with
  | nil =>
    rw [List.length_nil] at hbits
    obtain rfl : m' = m := by omega
    obtain rfl : count' = count := by omega
    rw [List.map_nil, decodeOnto, List.foldl_nil, hpending, hout]
  | cons v vs ih =>
    obtain ⟨hv, hvs⟩ := List.forall_mem_cons.mp hvs
    rw [List.length_cons] at hbits
    have hfive : v < 2 ^ 5 := hv
    have hmore : pending * 32 + v = (n * 32 + v) % 2 ^ (count + 5) := by
      rw [hpending]
      exact (shift_add_mod n count hfive).symm
    have hbefore : (n * 32 + v) / 2 ^ (count + 5) = n / 2 ^ count := shift_add_div n count hfive
    rw [List.map_cons, decodeOnto, letterValue?_letter v hv, List.foldl_cons]
    dsimp only
    split
    · -- there are no eight bits yet
      rename_i hfew
      exact ih hvs hfew hmore (hbefore.symm ▸ hout) (by omega)
    · -- the upper eight bits are the next byte
      rename_i hmany
      obtain ⟨c, hc⟩ : ∃ c, count + 5 = c + 8 :=
        Nat.exists_eq_add_of_le' (Nat.le_of_not_lt hmany)
      rw [hc] at hmore hbefore ⊢
      rw [Nat.add_sub_cancel]
      have hbyte : UInt8.ofNat ((pending * 32 + v) >>> c) = UInt8.ofNat ((n * 32 + v) / 2 ^ c) := by
        rw [hmore, Nat.shiftRight_eq_div_pow, mod_shift]
        exact UInt8.ofNat_mod_size
      have hrest : (pending * 32 + v) % (1 <<< c) = (n * 32 + v) % 2 ^ c := by
        rw [hmore, Nat.one_shiftLeft, mod_mod_two_pow]
      have hnext : (UInt8.ofNat ((pending * 32 + v) >>> c) :: out).reverse =
          Bytes.bigEndian (m + 1) ((n * 32 + v) / 2 ^ c) := by
        have hcut : (n * 32 + v) / 2 ^ c / 256 = n / 2 ^ count := by
          rw [Nat.div_div_eq_div_mul, ← hbefore, Nat.pow_add]
        rw [List.reverse_cons, hout, hbyte, Bytes.bigEndian_concat, hcut]
      exact ih hvs (by omega) hrest hnext (by omega)

/-- The bits of some bytes hold as many numbers as the bytes do. -/
theorem capacity_eq (width : Nat) : Bytes.capacity width = 2 ^ (8 * width) := by
  induction width with
  | zero => rfl
  | succ width ih => rw [Bytes.capacity, ih, Nat.mul_add, Nat.pow_add]

/-- The letters of bytes are read back as the bytes. -/
theorem decode?_encode (b : Bytes) : decode? (encode b) = some b := by
  obtain ⟨hgroups, hpadding⟩ := size_padding (8 * b.length)
  generalize hpad : padding (8 * b.length) = pad at hgroups hpadding
  -- the number has no more bits than its letters
  have hnumber : (digits (size (8 * b.length)) (Bytes.ofBigEndian b * 2 ^ pad)).foldl
      (fun n v => n * 32 + v) 0 = Bytes.ofBigEndian b * 2 ^ pad := by
    rw [foldl_digits, hgroups, Nat.pow_add]
    apply Nat.mod_eq_of_lt
    apply Nat.mul_lt_mul_of_pos_right _ (Nat.two_pow_pos pad)
    rw [← capacity_eq]
    exact Bytes.ofBigEndian_lt b
  -- reading begins with no bytes and no bits
  have hnoBits : (0 : Nat) = 0 % 2 ^ 0 := rfl
  have hnoBytes : ([] : Bytes).reverse = Bytes.bigEndian 0 (0 / 2 ^ 0) := rfl
  have hlength : 8 * b.length + pad = 8 * 0 + 0 +
      5 * (digits (size (8 * b.length)) (Bytes.ofBigEndian b * 2 ^ pad)).length := by
    rw [length_digits]
    omega
  have hread := decodeOnto_map_letter (fun v hv => lt_of_mem_digits hv) (by decide) hnoBits
    hnoBytes (by omega) hlength
  have hzeros : Bytes.ofBigEndian b * 2 ^ pad % 2 ^ pad = 0 := Nat.mul_mod_left _ _
  rw [hnumber, if_pos ⟨hpadding, hzeros⟩, Nat.mul_div_cancel _ (Nat.two_pow_pos pad),
    Bytes.bigEndian_ofBigEndian] at hread
  rw [decode?, encode_eq, hpad]
  exact hread

end Courier.Text.Base32
