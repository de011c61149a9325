import Courier.Proofs.Text.Base32

/-!
# `Courier.Proofs.Text.Groups`: the letters are groups of five bits

RFC 4648 explains the base-32 form without an accumulator. Write the bits of all bytes one after the
other, the highest bit of a byte first (`Bytes.bits`), cut them into groups of five, and look each
group up in the alphabet. Where the last group is short of bits it has zeros (`group`).

`letters_are_groups` says that this is what `encode` writes, letter by letter. The way there goes
over numbers. By `encode_eq` the letters are the digits of one number in base 32, and

* a digit is a quotient and a remainder of the number (`digits_eq_map`),
* and so is a stretch of its bits (`ofBits_slice`),

so that a letter and a group are the same cut through the same number (`encode_eq_map`). Two facts
about whole texts follow: the form can be cut wherever a group ends together with a byte, that is
after each five bytes (`encode_append`), and different bytes have different forms.
-/

set_option autoImplicit false

namespace Courier

/-! ### Bits and the number that they make -/

namespace Bytes

/-- The number that some bits make, the first one counting most. -/
def ofBits (bs : List Bool) : Nat := bs.foldl (fun n bit => 2 * n + bit.toNat) 0

/-- The bits of a byte, highest first. -/
def bitsOfByte (d : UInt8) : List Bool := (List.range 8).map fun k => d.toNat.testBit (7 - k)

/-- The bits of bytes, one byte after the other. -/
def bits (b : Bytes) : List Bool := b.flatMap bitsOfByte

/-- Bits in front of others count for a power of two more. -/
theorem foldl_bits (bs : List Bool) (n : Nat) :
    bs.foldl (fun n bit => 2 * n + bit.toNat) n = n * 2 ^ bs.length + ofBits bs := by
  induction bs generalizing n with
  | nil => simp [ofBits]
  | cons bit bs ih =>
    -- the bit in front joins the number so far, and there is none so far inside `ofBits`
    have hhere := ih (2 * n + bit.toNat)
    have hfront : ofBits (bit :: bs) = bit.toNat * 2 ^ bs.length + ofBits bs := by
      simpa [ofBits] using ih bit.toNat
    rw [List.foldl_cons, hhere, hfront, List.length_cons, Nat.pow_succ]
    ring

/-- The bits in front count by the number of those behind them. -/
theorem ofBits_append (bs cs : List Bool) :
    ofBits (bs ++ cs) = ofBits bs * 2 ^ cs.length + ofBits cs := by
  rw [ofBits, List.foldl_append]
  exact foldl_bits cs _

/-- Bits make a number below the power of their number. -/
theorem ofBits_lt (bs : List Bool) : ofBits bs < 2 ^ bs.length := by
  induction bs with
  | nil => exact Nat.one_pos
  | cons bit bs ih =>
    have hbit : ofBits [bit] ≤ 1 := by cases bit <;> decide
    have hcons := ofBits_append [bit] bs
    rw [List.singleton_append] at hcons
    rw [hcons, List.length_cons, Nat.pow_succ]
    have hmul : ofBits [bit] * 2 ^ bs.length ≤ 1 * 2 ^ bs.length := Nat.mul_le_mul_right _ hbit
    omega

/-- Zeros behind the bits of a number multiply it. -/
theorem ofBits_append_zeros (bs : List Bool) (count : Nat) :
    ofBits (bs ++ List.replicate count false) = ofBits bs * 2 ^ count := by
  have hzeros : ∀ count, ofBits (List.replicate count false) = 0 := by
    intro count
    induction count with
    | zero => rfl
    | succ count ih =>
      rw [List.replicate_succ', ofBits_append, ih]
      rfl
  rw [ofBits_append, hzeros, List.length_replicate, Nat.add_zero]

/-- Bits from the middle are what is left of the number when the bits behind them are cut off and
those in front of them taken away. -/
theorem ofBits_slice (bs : List Bool) {start count : Nat} (h : start + count ≤ bs.length) :
    ofBits ((bs.drop start).take count)
      = ofBits bs / 2 ^ (bs.length - (start + count)) % 2 ^ count := by
  have hsplit : bs = (bs.take start ++ (bs.drop start).take count) ++ bs.drop (start + count) := by
    rw [List.append_assoc, ← List.drop_drop, List.take_append_drop, List.take_append_drop]
  have hmiddle : ((bs.drop start).take count).length = count := by
    rw [List.length_take, List.length_drop]
    omega
  have hbehind := ofBits_lt (bs.drop (start + count))
  have hcount := ofBits_lt ((bs.drop start).take count)
  rw [List.length_drop] at hbehind
  rw [hmiddle] at hcount
  have hnumber : ofBits bs = (ofBits (bs.take start) * 2 ^ count
      + ofBits ((bs.drop start).take count)) * 2 ^ (bs.length - (start + count))
      + ofBits (bs.drop (start + count)) := by
    conv_lhs => rw [hsplit]
    rw [ofBits_append, ofBits_append, hmiddle, List.length_drop]
  rw [hnumber, shift_div _ hbehind, Nat.add_comm, Nat.add_mul_mod_self_right,
    Nat.mod_eq_of_lt hcount]

/-- The bits of a byte make the byte. -/
theorem ofBits_bitsOfByte (d : UInt8) : ofBits (bitsOfByte d) = d.toNat := by
  have hall : ∀ n < 256, ofBits ((List.range 8).map fun k => n.testBit (7 - k)) = n := by
    decide +kernel
  exact hall d.toNat d.toNat_lt

/-- There are eight of them. -/
@[simp] theorem length_bitsOfByte (d : UInt8) : (bitsOfByte d).length = 8 := by
  simp [bitsOfByte]

/-- A byte string has eight bits for each byte. -/
@[simp] theorem length_bits (b : Bytes) : b.bits.length = 8 * b.length := by
  induction b with
  | nil => rfl
  | cons d b ih =>
    show (bitsOfByte d ++ bits b).length = 8 * (b.length + 1)
    rw [List.length_append, length_bitsOfByte, ih]
    omega

/-- The bits of byte strings follow one another as these do. -/
theorem bits_append (a b : Bytes) : bits (a ++ b) = a.bits ++ b.bits := List.flatMap_append

/-- The bits of bytes make the number that the bytes make. -/
theorem ofBits_bits (b : Bytes) : ofBits b.bits = ofBigEndian b := by
  induction b with
  | nil => rfl
  | cons d b ih =>
    show ofBits (bitsOfByte d ++ bits b) = _
    rw [ofBits_append, ih, ofBits_bitsOfByte, length_bits, ofBigEndian_cons,
      Text.Base32.capacity_eq]

end Bytes

/-! ### Groups and letters -/

namespace Text.Base32

open Bytes (ofBits bits)

/-- The number that the group of five bits at a place makes. Bits that are missing are zeros. -/
def group (bs : List Bool) (i : Nat) : Nat :=
  ofBits ((List.range 5).map fun k => bs.getD (5 * i + k) false)

/-- The letters stand in the alphabet by their values. -/
theorem alphabet_letter : ∀ v < 32, alphabet[v]? = some (letter v) := by decide

/-- A group of five bits is the value of a letter. -/
theorem group_lt (bs : List Bool) (i : Nat) : group bs i < 32 := by
  have h := Bytes.ofBits_lt ((List.range 5).map fun k => bs.getD (5 * i + k) false)
  rw [List.length_map, List.length_range] at h
  exact h

/-- A group looks at its own five bits only. -/
theorem group_congr {bs cs : List Bool} {i j : Nat}
    (h : ∀ k < 5, bs[5 * i + k]?.getD false = cs[5 * j + k]?.getD false) :
    group bs i = group cs j := by
  unfold group
  congr 1
  apply List.map_congr_left
  intro k hk
  rw [List.getD_eq_getElem?_getD, List.getD_eq_getElem?_getD]
  exact h k (List.mem_range.mp hk)

/-- So it is the group at the front of the bits from there on. -/
theorem group_add (bs : List Bool) (i j : Nat) : group bs (i + j) = group (bs.drop (5 * i)) j := by
  apply group_congr
  intro k _
  have hplace : 5 * (i + j) + k = 5 * i + (5 * j + k) := by omega
  rw [List.getElem?_drop, hplace]

/-- Bits behind a group do not change it. -/
theorem group_append (bs cs : List Bool) {i : Nat} (h : 5 * i + 5 ≤ bs.length) :
    group (bs ++ cs) i = group bs i := by
  apply group_congr
  intro k hk
  rw [List.getElem?_append_left (by omega)]

/-- A group of bits that are all there is a stretch of them. -/
theorem group_eq_slice {bs : List Bool} {i : Nat} (h : 5 * i + 5 ≤ bs.length) :
    group bs i = ofBits ((bs.drop (5 * i)).take 5) := by
  unfold group
  congr 1
  apply List.ext_getElem
  · simp only [List.length_map, List.length_range, List.length_take, List.length_drop]
    omega
  · intro k hk _
    have hk : k < 5 := by simpa using hk
    have hthere : 5 * i + k < bs.length := by omega
    simp [hthere]

/-- Zeros that fill the last group up are there already as far as groups are concerned. -/
theorem group_append_zeros (bs : List Bool) (count i : Nat) :
    group (bs ++ List.replicate count false) i = group bs i := by
  apply group_congr
  intro k _
  rw [List.getElem?_append]
  split
  · rfl
  · rename_i hbeyond
    rw [List.getElem?_eq_none (Nat.le_of_not_lt hbeyond), List.getElem?_replicate]
    split <;> rfl

/-- Each digit of a number is a quotient of the number and the remainder of that. -/
theorem digits_eq_map (count n : Nat) :
    digits count n = (List.range count).map fun i => n / 2 ^ (5 * (count - (i + 1))) % 32 := by
  induction count generalizing n with
  | zero => rfl
  | succ count ih =>
    rw [digits, ih, List.range_succ, List.map_append, List.map_singleton]
    congr 1
    · apply List.map_congr_left
      intro i hi
      have hi : i < count := List.mem_range.mp hi
      have hexponent : 5 * (count + 1 - (i + 1)) = 5 + 5 * (count - (i + 1)) := by omega
      rw [hexponent, Nat.pow_add, ← Nat.div_div_eq_div_mul]
    · simp

/-- The letters of bytes are those of the groups of their bits. -/
theorem encode_eq_map (b : Bytes) :
    encode b = (List.range (size (8 * b.length))).map fun i => letter (group b.bits i) := by
  obtain ⟨hgroups, -⟩ := size_padding (8 * b.length)
  rw [encode_eq, digits_eq_map, List.map_map]
  apply List.map_congr_left
  intro i hi
  have hi : i < size (8 * b.length) := List.mem_range.mp hi
  -- with the zeros behind them the bits come in whole groups, and make the number of `encode_eq`
  generalize hpad : padding (8 * b.length) = pad at hgroups
  have hlength : (b.bits ++ List.replicate pad false).length = 5 * size (8 * b.length) := by
    rw [List.length_append, Bytes.length_bits, List.length_replicate, hgroups]
  have hfits : 5 * i + 5 ≤ (b.bits ++ List.replicate pad false).length := by omega
  have hexponent : (b.bits ++ List.replicate pad false).length - (5 * i + 5)
      = 5 * (size (8 * b.length) - (i + 1)) := by omega
  rw [← group_append_zeros b.bits pad i, group_eq_slice hfits, Bytes.ofBits_slice _ hfits,
    Bytes.ofBits_append_zeros, Bytes.ofBits_bits, hexponent]
  rfl

/-- There is a letter for every five bits, and one for those that are left. -/
theorem length_encode (b : Bytes) : (encode b).length = size (8 * b.length) := by
  rw [encode_eq_map, List.length_map, List.length_range]

/-- Where bytes and groups end together, the form of what follows begins anew. -/
theorem encode_append {a : Bytes} (b : Bytes) (h : 5 ∣ a.length) :
    encode (a ++ b) = encode a ++ encode b := by
  obtain ⟨blocks, hblocks⟩ := h
  have hfront : size (8 * a.length) = 8 * blocks := by
    unfold size
    omega
  have hwhole : size (8 * (a ++ b).length) = 8 * blocks + size (8 * b.length) := by
    rw [List.length_append]
    unfold size
    omega
  have hbits : a.bits.length = 5 * (8 * blocks) := by
    rw [Bytes.length_bits]
    omega
  -- the groups of the front come first, and those behind it are counted from its end
  rw [encode_eq_map, encode_eq_map a, encode_eq_map b, hwhole, hfront, List.range_add,
    List.map_append, List.map_map]
  congr 1
  · apply List.map_congr_left
    intro i hi
    have hi : i < 8 * blocks := List.mem_range.mp hi
    rw [Bytes.bits_append, group_append a.bits b.bits (by omega)]
  · apply List.map_congr_left
    intro j _
    show letter (group (bits (a ++ b)) (8 * blocks + j)) = letter (group b.bits j)
    rw [group_add, Bytes.bits_append, ← hbits, List.drop_left]

/-- Different bytes have different forms. -/
theorem encode_injective : Function.Injective encode := by
  intro a b h
  have hdecoded := congrArg decode? h
  rw [decode?_encode, decode?_encode] at hdecoded
  exact Option.some.inj hdecoded

/-- The form of some bytes has as many letters as their bits make groups of five, the last one
perhaps not full, and each letter is that of its group. Different bytes have different forms, and
bytes that come in fives can be written on their own. -/
theorem letters_are_groups (b : Bytes) :
    (encode b).length = 8 * b.length ⌈/⌉ 5 ∧
    (∀ i < (encode b).length, (encode b)[i]? = alphabet[group b.bits i]?) ∧
    Function.Injective encode ∧
    ∀ a c : Bytes, 5 ∣ a.length → encode (a ++ c) = encode a ++ encode c := by
  refine ⟨?_, ?_, encode_injective, fun a c h => encode_append c h⟩
  · rw [length_encode, Nat.ceilDiv_eq_add_pred_div]
    rfl
  · intro i hi
    rw [length_encode] at hi
    rw [encode_eq_map, List.getElem?_map, List.getElem?_range hi, alphabet_letter _ (group_lt _ i)]
    rfl

/-- The bytes of `foobar` and their form in RFC 4648. The last letter is that of two bits with three
zeros behind them, and the first eight letters are the form of `fooba`. -/
theorem letters_are_groups_foobar :
    (9 < (encode (Bytes.ofString "foobar")).length ∧
      (encode (Bytes.ofString "foobar"))[9]?
        = alphabet[ofBits [false, true, false, false, false]]?) ∧
    5 ∣ (Bytes.ofString "fooba").length ∧
    encode (Bytes.ofString "fooba" ++ Bytes.ofString "r")
      = "MZXW6YTB".toList ++ "OI".toList := by
  obtain ⟨-, hletter, -, happend⟩ := letters_are_groups (Bytes.ofString "foobar")
  have hlong : 9 < (encode (Bytes.ofString "foobar")).length := by
    rw [length_encode]
    decide
  have hfive : 5 ∣ (Bytes.ofString "fooba").length := by decide
  refine ⟨⟨hlong, ?_⟩, hfive, ?_⟩
  · rw [hletter 9 hlong]
    decide
  · rw [happend _ _ hfive]
    cbv

end Text.Base32

end Courier
