import Courier.Proofs.MessagePack.ReadBack

/-!
# `Courier.Proofs.MessagePack.Accepted`: what is read can be written

The reader accepts far more byte strings than the writer makes: integers and lengths in wider words
than they need, single-precision numbers, and the byte that the format reserves. The objects are
no others, though. Whatever the reader makes of an input within a budget of levels can be written,
and needs no more levels than that to be read again (`fits_of_read`).

The reasons are that a marker leads to words of at most eight bytes and lengths of at most four
(`Marker.Bounded`), that a word of so many bytes is a number below the power of 256
(`lt_of_readWord`), and that each kind of object asks for the levels that `Object.cost` says.
-/

set_option autoImplicit false

namespace Courier.MessagePack

/-- Whether an object can be written, and read again within a budget of levels. -/
structure Object.Fits (levels : Nat) (x : Object) : Prop where
  writable : x.Writable
  cost : x.cost ≤ levels

/-- Whether a length is below `2 ^ 32`, whatever the bytes are that it is read from. -/
def Count.Bounded : Count → Prop
  | .fixed n => n < 2 ^ 32
  | .word width => width ≤ 4

/-- Whether a marker leads to integers of at most eight bytes and lengths of at most four. -/
def Marker.Bounded : Marker → Prop
  | .int n => -2 ^ 63 ≤ n ∧ n < 2 ^ 63
  | .unsigned width => width ≤ 8
  | .signed width => width ≤ 8
  | .string count => count.Bounded
  | .binary count => count.Bounded
  | .array count => count.Bounded
  | .map count => count.Bounded
  | .ext count => count.Bounded
  | _ => True

end Courier.MessagePack

namespace Courier.Proofs.MessagePack

open Courier.MessagePack

/-! ### Markers -/

/-- Every marker is within these bounds. -/
theorem ofByte_bounded (marker : UInt8) : (Marker.ofByte marker).Bounded := by
  have hbyte := marker.toNat_lt
  unfold Marker.ofByte
  dsimp only
  -- the five ranges of markers that hold a number themselves
  split
  · simp only [Marker.Bounded]; omega
  split
  · simp only [Marker.Bounded, Count.Bounded]; omega
  split
  · simp only [Marker.Bounded, Count.Bounded]; omega
  split
  · simp only [Marker.Bounded, Count.Bounded]; omega
  split
  · simp only [Marker.Bounded]; omega
  -- and the single ones
  · split <;> simp [Marker.Bounded, Count.Bounded]

/-! ### Words and byte strings -/

section Words
variable {input rest : Bytes}

/-- A word says no more than its width allows. -/
theorem lt_of_readWord {width n : Nat} (h : readWord width input = .ok (n, rest)) :
    n < Bytes.capacity width := by
  unfold readWord at h
  rw [List.splitAt_eq] at h
  dsimp only at h
  split at h
  · cases h
  · rename_i hlen
    have hwidth : (input.take width).length = width := by
      have hle := List.length_take_le width input
      omega
    obtain ⟨rfl, -⟩ := Prod.mk.inj (Except.ok.inj h)
    calc Bytes.ofBigEndian (input.take width)
        < Bytes.capacity (input.take width).length := Bytes.ofBigEndian_lt _
      _ = Bytes.capacity width := by rw [hwidth]

/-- A length that is read can be written again. -/
theorem lt_of_read_count {count : Count} {n : Nat} (hcount : count.Bounded)
    (h : count.read input = .ok (n, rest)) : n < 2 ^ 32 := by
  cases count with
  | fixed m =>
    obtain ⟨rfl, -⟩ := Prod.mk.inj (Except.ok.inj h)
    exact hcount
  | word width =>
    calc n < Bytes.capacity width := lt_of_readWord h
      _ ≤ Bytes.capacity 4 := Bytes.capacity_le hcount

/-- Exactly as many bytes are read as were asked for. -/
theorem length_of_readBytes {n : Nat} {data : Bytes} (h : readBytes n input = .ok (data, rest)) :
    data.length = n := by
  unfold readBytes at h
  rw [List.splitAt_eq] at h
  dsimp only at h
  split at h
  · cases h
  · rename_i hlen
    obtain ⟨rfl, -⟩ := Prod.mk.inj (Except.ok.inj h)
    have hle := List.length_take_le n input
    omega

/-- A number of at most eight bytes in two's complement fits 64 bits. -/
theorem ofTwosComplement_range {width n : Nat} (hwidth : width ≤ 8)
    (hn : n < Bytes.capacity width) :
    -2 ^ 63 ≤ ofTwosComplement width n ∧ ofTwosComplement width n < 2 ^ 63 := by
  have hcapacity : Bytes.capacity width ≤ 2 ^ 64 := Bytes.capacity_le hwidth
  unfold ofTwosComplement
  split <;> omega

/-- What follows a length is read only if the length is. -/
theorem exists_of_count {count : Count} {body : Nat → Bytes → Read Object} {x : Object}
    (hcount : count.Bounded)
    (h : (match count.read input with
      | .error e => .error e
      | .ok (n, tail) => body n tail : Read Object) = .ok (x, rest)) :
    ∃ n tail, n < 2 ^ 32 ∧ body n tail = .ok (x, rest) := by
  split at h
  · cases h
  · rename_i n tail hn
    exact ⟨n, tail, lt_of_read_count hcount hn, h⟩

/-- What was made of something read was made of something read. -/
theorem exists_of_map_eq_ok {α β : Type} {f : α → β} {r : Read α} {y : β}
    (h : r.map f = .ok (y, rest)) : ∃ x, r = .ok (x, rest) ∧ f x = y := by
  cases r with
  | error e => cases h
  | ok result =>
    obtain ⟨x, tail⟩ := result
    obtain ⟨hy, rfl⟩ := Prod.mk.inj (Except.ok.inj h)
    exact ⟨x, rfl, hy⟩

/-- As many items are read as were announced, and all of them by the reader of items. -/
theorem readItems_spec {α : Type} {item : Bytes → Read α} {P : α → Prop}
    (hitem : ∀ {input rest x}, item input = .ok (x, rest) → P x) {n : Nat} {done xs : List α}
    (h : readItems item n done input = .ok (xs, rest)) (hdone : ∀ x ∈ done, P x) :
    xs.length = done.length + n ∧ ∀ x ∈ xs, P x := by
  induction n generalizing done input with
  | zero =>
    obtain ⟨rfl, -⟩ := Prod.mk.inj (Except.ok.inj h)
    exact ⟨List.length_reverse, fun x hx => hdone x (List.mem_reverse.mp hx)⟩
  | succ n ih =>
    -- the item in front joins those that are read already, and the others follow
    rw [readItems] at h
    split at h
    · cases h
    · rename_i x tail hx
      have hmore : ∀ y ∈ x :: done, P y := by
        intro y hy
        rcases List.mem_cons.mp hy with rfl | hy
        · exact hitem hx
        · exact hdone y hy
      obtain ⟨hlen, hall⟩ := ih h hmore
      refine ⟨?_, hall⟩
      rw [hlen, List.length_cons]
      omega

/-- A key and its value are both read by the reader of items. -/
theorem readEntry_spec {α : Type} {item : Bytes → Read α} {entry : α × α}
    (h : readEntry item input = .ok (entry, rest)) :
    ∃ tail, item input = .ok (entry.1, tail) ∧ item tail = .ok (entry.2, rest) := by
  unfold readEntry at h
  split at h
  · cases h
  · rename_i k tail hk
    split at h
    · cases h
    · rename_i x tail' hx
      obtain ⟨rfl, rfl⟩ := Prod.mk.inj (Except.ok.inj h)
      exact ⟨tail, hk, hx⟩

end Words

/-! ### Whole objects -/

/-- Items fit together if each of them fits. -/
theorem items_fit {levels : Nat} {xs : List Object} (h : ∀ x ∈ xs, x.Fits levels) :
    WritableItems xs ∧ itemsCost xs ≤ levels := by
  induction xs with
  | nil => exact ⟨trivial, Nat.zero_le _⟩
  | cons x xs ih =>
    obtain ⟨hx, hxs⟩ := List.forall_mem_cons.mp h
    obtain ⟨hwritable, hcost⟩ := ih hxs
    exact ⟨⟨hx.writable, hwritable⟩, Nat.max_le.mpr ⟨hx.cost, hcost⟩⟩

/-- Entries fit together if each key and each value fits. -/
theorem entries_fit {levels : Nat} {entries : List (Object × Object)}
    (h : ∀ entry ∈ entries, entry.1.Fits levels ∧ entry.2.Fits levels) :
    WritableEntries entries ∧ entriesCost entries ≤ levels := by
  induction entries with
  | nil => exact ⟨trivial, Nat.zero_le _⟩
  | cons entry entries ih =>
    obtain ⟨⟨hk, hx⟩, hentries⟩ := List.forall_mem_cons.mp h
    obtain ⟨hwritable, hcost⟩ := ih hentries
    exact ⟨⟨⟨hk.writable, hx.writable⟩, hwritable⟩,
      Nat.max_le.mpr ⟨Nat.max_le.mpr ⟨hk.cost, hx.cost⟩, hcost⟩⟩

section Bodies
variable {levels n : Nat} {input rest : Bytes} {x : Object}

/-- A text that is read can be written again at its level. -/
theorem fits_string (hn : n < 2 ^ 32)
    (h : (if levels < 2 then .error .depthLimit else (readBytes n input).map .string : Read Object)
      = .ok (x, rest)) : x.Fits (levels + 1) := by
  split at h
  · cases h
  · obtain ⟨b, hb, rfl⟩ := exists_of_map_eq_ok h
    have hlen : b.length < 2 ^ 32 := by rw [length_of_readBytes hb]; exact hn
    exact ⟨hlen, by rw [Object.cost]; omega⟩

/-- So can bytes. -/
theorem fits_binary (hn : n < 2 ^ 32)
    (h : (if levels < 1 then .error .depthLimit else (readBytes n input).map .binary : Read Object)
      = .ok (x, rest)) : x.Fits (levels + 1) := by
  split at h
  · cases h
  · obtain ⟨b, hb, rfl⟩ := exists_of_map_eq_ok h
    have hlen : b.length < 2 ^ 32 := by rw [length_of_readBytes hb]; exact hn
    exact ⟨hlen, by rw [Object.cost]; omega⟩

/-- And the data of an extension. -/
theorem fits_ext (hn : n < 2 ^ 32) (h : readExt levels n input = .ok (x, rest)) :
    x.Fits (levels + 1) := by
  unfold readExt at h
  split at h
  · cases h
  split at h
  · cases h
  split at h
  · cases h
  · obtain ⟨data, hdata, rfl⟩ := exists_of_map_eq_ok h
    have hlen : data.length < 2 ^ 32 := by rw [length_of_readBytes hdata]; exact hn
    exact ⟨hlen, by rw [Object.cost]; omega⟩

/-- An array takes two levels more than its items. -/
theorem fits_array
    (hitem : ∀ {input rest x}, Object.read levels input = .ok (x, rest) → x.Fits levels)
    (hn : n < 2 ^ 32)
    (h : (readItems (Object.read levels) n [] input).map .array = .ok (x, rest)) :
    x.Fits (levels + 2) := by
  obtain ⟨xs, hxs, rfl⟩ := exists_of_map_eq_ok h
  obtain ⟨hlen, hfit⟩ := readItems_spec hitem hxs (List.forall_mem_nil _)
  obtain ⟨hwritable, hcost⟩ := items_fit hfit
  rw [List.length_nil, Nat.zero_add] at hlen
  exact ⟨⟨hlen ▸ hn, hwritable⟩, by rw [Object.cost]; omega⟩

/-- And a map two more than its keys and values. -/
theorem fits_map
    (hitem : ∀ {input rest x}, Object.read levels input = .ok (x, rest) → x.Fits levels)
    (hn : n < 2 ^ 32)
    (h : (readItems (readEntry (Object.read levels)) n [] input).map .map = .ok (x, rest)) :
    x.Fits (levels + 2) := by
  obtain ⟨entries, hentries, rfl⟩ := exists_of_map_eq_ok h
  have hentry : ∀ {input rest entry}, readEntry (Object.read levels) input = .ok (entry, rest) →
      entry.1.Fits levels ∧ entry.2.Fits levels := by
    intro input rest entry hread
    obtain ⟨tail, hk, hx⟩ := readEntry_spec hread
    exact ⟨hitem hk, hitem hx⟩
  obtain ⟨hlen, hfit⟩ := readItems_spec hentry hentries (List.forall_mem_nil _)
  obtain ⟨hwritable, hcost⟩ := entries_fit hfit
  rw [List.length_nil, Nat.zero_add] at hlen
  exact ⟨⟨hlen ▸ hn, hwritable⟩, by rw [Object.cost]; omega⟩

end Bodies

/-- What is read within a budget of levels can be written, and read again within that budget. -/
theorem fits_of_read {levels : Nat} {input rest : Bytes} {x : Object}
    (h : Object.read levels input = .ok (x, rest)) : x.Fits levels := by
  -- the items of an array and of a map are read with two levels less
  induction levels using Nat.strongRecOn generalizing input rest x with
  | ind levels ih =>
  cases levels with
  | zero => cases h
  | succ levels =>
  cases input with
  | nil => cases h
  | cons marker input =>
  have hmarker := ofByte_bounded marker
  rw [Object.read] at h
  cases hm : Marker.ofByte marker with
  | nil =>
    rw [hm] at h
    obtain ⟨rfl, -⟩ := Prod.mk.inj (Except.ok.inj h)
    exact ⟨trivial, Nat.succ_pos levels⟩
  | bool b =>
    rw [hm] at h
    obtain ⟨rfl, -⟩ := Prod.mk.inj (Except.ok.inj h)
    exact ⟨trivial, Nat.succ_pos levels⟩
  | int n =>
    rw [hm] at h hmarker
    obtain ⟨rfl, -⟩ := Prod.mk.inj (Except.ok.inj h)
    obtain ⟨hlow, hhigh⟩ := hmarker
    exact ⟨⟨hlow, by omega⟩, Nat.succ_pos levels⟩
  | unsigned width =>
    rw [hm] at h hmarker
    obtain ⟨n, hn, rfl⟩ := exists_of_map_eq_ok h
    have hword : n < 2 ^ 64 := Nat.lt_of_lt_of_le (lt_of_readWord hn) (Bytes.capacity_le hmarker)
    exact ⟨⟨by omega, by omega⟩, Nat.succ_pos levels⟩
  | signed width =>
    rw [hm] at h hmarker
    obtain ⟨n, hn, rfl⟩ := exists_of_map_eq_ok h
    obtain ⟨hlow, hhigh⟩ := ofTwosComplement_range hmarker (lt_of_readWord hn)
    exact ⟨⟨hlow, by omega⟩, Nat.succ_pos levels⟩
  | float32 =>
    rw [hm] at h
    obtain ⟨n, -, rfl⟩ := exists_of_map_eq_ok h
    exact ⟨trivial, Nat.succ_pos levels⟩
  | float64 =>
    rw [hm] at h
    obtain ⟨n, -, rfl⟩ := exists_of_map_eq_ok h
    exact ⟨trivial, Nat.succ_pos levels⟩
  | string count =>
    rw [hm] at h hmarker
    obtain ⟨n, tail, hn, h⟩ := exists_of_count hmarker h
    exact fits_string hn h
  | binary count =>
    rw [hm] at h hmarker
    obtain ⟨n, tail, hn, h⟩ := exists_of_count hmarker h
    exact fits_binary hn h
  | ext count =>
    rw [hm] at h hmarker
    obtain ⟨n, tail, hn, h⟩ := exists_of_count hmarker h
    exact fits_ext hn h
  | array count =>
    rw [hm] at h hmarker
    obtain ⟨n, tail, hn, h⟩ := exists_of_count hmarker h
    -- without a second level the items are not even begun
    cases levels with
    | zero => cases h
    | succ inner => exact fits_array (ih inner (by omega)) hn h
  | map count =>
    rw [hm] at h hmarker
    obtain ⟨n, tail, hn, h⟩ := exists_of_count hmarker h
    cases levels with
    | zero => cases h
    | succ inner => exact fits_map (ih inner (by omega)) hn h

end Courier.Proofs.MessagePack
