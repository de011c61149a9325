import Courier.MessagePack.Reader
import Courier.MessagePack.Writer
import Mathlib

/-!
# `Courier.Proofs.MessagePack.ReadBack`: the shortest form is read back

`Object.bytes` writes an object and `Object.read` reads one within a budget of levels. The two
are far apart: the writer chooses the narrowest of up to eight markers for a length or a number,
and knows no budget; the reader knows every marker, and gives up where the budget ends.

* `Object.cost` is the budget that an object needs, the deepest path counted with the price of
  each kind. A key of a map costs like any other text.
* `Object.Writable` says that integers and lengths fit the widest marker.
* `read_bytes` joins the two: the bytes of a writable object, whatever follows them, are read
  back as that object if the budget reaches its cost, and run into the limit otherwise. No other
  error is possible.

Each head of a length is a marker that names the kind and then the length, in the marker itself
or in a word behind it. `Announces` says this once for the five kinds of heads, so that the
reader is opened once per kind (`read_string_head` and its siblings).
-/

set_option autoImplicit false

namespace Courier.MessagePack

mutual

/-- The levels that reading an object takes. -/
def Object.cost : Object → Nat
  | .nil => 1
  | .bool _ => 1
  | .int _ => 1
  | .float32 _ => 1
  | .float64 _ => 1
  | .string _ => 3
  | .binary _ => 2
  | .ext _ _ => 3
  | .array items => 2 + itemsCost items
  | .map entries => 2 + entriesCost entries

/-- The levels that the most expensive item takes. -/
def itemsCost : List Object → Nat
  | [] => 0
  | x :: rest => max x.cost (itemsCost rest)

/-- The levels that the most expensive key or value takes. -/
def entriesCost : List (Object × Object) → Nat
  | [] => 0
  | (k, x) :: rest => max (max k.cost x.cost) (entriesCost rest)

end

mutual

/-- Whether every integer and every length of an object fits the widest marker for it. -/
def Object.Writable : Object → Prop
  | .nil => True
  | .bool _ => True
  | .int n => -2 ^ 63 ≤ n ∧ n < 2 ^ 64
  | .float32 _ => True
  | .float64 _ => True
  | .string b => b.length < 2 ^ 32
  | .binary b => b.length < 2 ^ 32
  | .ext _ data => data.length < 2 ^ 32
  | .array items => items.length < 2 ^ 32 ∧ WritableItems items
  | .map entries => entries.length < 2 ^ 32 ∧ WritableEntries entries

/-- Whether every item is writable. -/
def WritableItems : List Object → Prop
  | [] => True
  | x :: rest => x.Writable ∧ WritableItems rest

/-- Whether every key and every value is writable. -/
def WritableEntries : List (Object × Object) → Prop
  | [] => True
  | (k, x) :: rest => (k.Writable ∧ x.Writable) ∧ WritableEntries rest

end

end Courier.MessagePack

namespace Courier.Proofs.MessagePack

open Courier.MessagePack

/-- No object can be read on an empty budget. -/
theorem cost_pos (x : Object) : 0 < x.cost := by
  cases x <;> simp only [Object.cost] <;> omega

/-! ### Words and byte strings -/

/-- A word is read back when the number fits its width. -/
theorem readWord_bigEndian (width n : Nat) (rest : Bytes) (h : n < Bytes.capacity width) :
    readWord width (Bytes.bigEndian width n ++ rest) = .ok (n, rest) := by
  have hlen : (Bytes.bigEndian width n).length = width := Bytes.length_bigEndian width n
  unfold readWord
  rw [List.splitAt_eq, List.take_left' hlen, List.drop_left' hlen]
  simp [hlen, Bytes.ofBigEndian_bigEndian h]

/-- A byte string of the announced length is read whole. -/
theorem readBytes_append (b rest : Bytes) : readBytes b.length (b ++ rest) = .ok (b, rest) := by
  unfold readBytes
  rw [List.splitAt_eq, List.take_left, List.drop_left]
  simp

/-! ### Integers -/

/-- The first half of the bytes stands for themselves. -/
theorem ofByte_positive : ∀ n < 0x80, Marker.ofByte (UInt8.ofNat n) = .int n := by decide

/-- The last bytes stand for the small integers below zero. -/
theorem ofByte_negative :
    ∀ n < 0x20, Marker.ofByte (UInt8.ofNat (0xe0 + n)) = .int ((n : Int) - 0x20) := by decide

/-- An integer that the marker holds itself. -/
theorem read_small {marker : UInt8} (levels : Nat) (n : Int) (rest : Bytes)
    (hm : Marker.ofByte marker = .int n) :
    Object.read (levels + 1) ([marker] ++ rest) = .ok (.int n, rest) := by
  rw [List.singleton_append, Object.read, hm]

/-- An integer in a word without a sign. -/
theorem read_unsigned {marker : UInt8} {width : Nat} (levels n : Nat) (rest : Bytes)
    (hm : Marker.ofByte marker = .unsigned width) (h : n < Bytes.capacity width) :
    Object.read (levels + 1) (marker :: Bytes.bigEndian width n ++ rest) = .ok (.int n, rest) := by
  rw [List.cons_append, Object.read, hm]
  dsimp only
  rw [readWord_bigEndian width n rest h, Read.map]

/-- A negative number is its two's complement less the capacity of the word. -/
theorem ofTwosComplement_add_capacity {width : Nat} {n : Int} (hneg : n < 0)
    (h : -(Bytes.capacity width : Int) ≤ 2 * n) :
    ofTwosComplement width (n + Bytes.capacity width).toNat = n := by
  unfold ofTwosComplement
  rw [if_neg (by omega)]
  omega

/-- A negative integer in two's complement. -/
theorem read_signed {marker : UInt8} {width : Nat} (levels : Nat) (n : Int) (rest : Bytes)
    (hm : Marker.ofByte marker = .signed width) (hneg : n < 0)
    (h : -(Bytes.capacity width : Int) ≤ 2 * n) :
    Object.read (levels + 1)
        (marker :: Bytes.bigEndian width (n + Bytes.capacity width).toNat ++ rest)
      = .ok (.int n, rest) := by
  have hfit : (n + Bytes.capacity width).toNat < Bytes.capacity width := by omega
  rw [List.cons_append, Object.read, hm]
  dsimp only
  rw [readWord_bigEndian width _ rest hfit, Read.map, ofTwosComplement_add_capacity hneg h]

/-- The shortest form of an integer is read back, whichever of the ten it is. -/
theorem read_intBytes {n : Int} (hlow : -2 ^ 63 ≤ n) (hhigh : n < 2 ^ 64) (levels : Nat)
    (rest : Bytes) : Object.read (levels + 1) (intBytes n ++ rest) = .ok (.int n, rest) := by
  unfold intBytes
  by_cases hsign : n ≥ 0
  · obtain ⟨m, rfl⟩ := Int.eq_ofNat_of_zero_le hsign
    rw [if_pos hsign]
    dsimp only
    rw [Int.toNat_natCast]
    -- five forms without a sign, the shortest first
    split
    · exact read_small levels m rest (ofByte_positive m ‹_›)
    split
    · exact read_unsigned levels m rest rfl ‹_›
    split
    · exact read_unsigned levels m rest rfl ‹_›
    split
    · exact read_unsigned levels m rest rfl ‹_›
    · exact read_unsigned levels m rest rfl (by simp only [Bytes.capacity]; omega)
  · rw [if_neg hsign]
    -- and five for negative numbers, the first of which is the marker itself
    split
    · have hm := ofByte_negative (n + 0x20).toNat (by omega)
      rw [show 0xe0 + (n + 0x20).toNat = (n + 0x100).toNat by omega,
        show ((n + 0x20).toNat : Int) - 0x20 = n by omega] at hm
      exact read_small levels n rest hm
    split
    · exact read_signed levels n rest rfl (by omega) (by simp only [Bytes.capacity]; omega)
    split
    · exact read_signed levels n rest rfl (by omega) (by simp only [Bytes.capacity]; omega)
    split
    · exact read_signed levels n rest rfl (by omega) (by simp only [Bytes.capacity]; omega)
    · exact read_signed levels n rest rfl (by omega) (by simp only [Bytes.capacity]; omega)

/-! ### Heads of lengths -/

/-- `head` is a marker of the given kind and the length `n`, in the marker or behind it. -/
def Announces (kind : Count → Marker) (n : Nat) (head : Bytes) : Prop :=
  ∃ marker tail count, head = marker :: tail ∧ Marker.ofByte marker = kind count ∧
    ∀ rest, count.read (tail ++ rest) = .ok (n, rest)

/-- A marker that has the count in itself announces it. -/
theorem Announces.fixed {kind : Count → Marker} {n : Nat} (marker : UInt8)
    (h : Marker.ofByte marker = kind (.fixed n)) : Announces kind n [marker] :=
  ⟨marker, [], .fixed n, rfl, h, fun _ => rfl⟩

/-- A marker with a word announces what the word says. -/
theorem Announces.word {kind : Count → Marker} {n : Nat} (marker : UInt8) (width : Nat)
    (h : Marker.ofByte marker = kind (.word width)) (hn : n < Bytes.capacity width) :
    Announces kind n (marker :: Bytes.bigEndian width n) :=
  ⟨marker, _, .word width, rfl, h, fun rest => readWord_bigEndian width n rest hn⟩

/-- Short texts have their length in the marker. -/
theorem ofByte_string :
    ∀ n < 0x20, Marker.ofByte (UInt8.ofNat (0xa0 + n)) = .string (.fixed n) := by decide

/-- So have short lists. -/
theorem ofByte_array :
    ∀ n < 0x10, Marker.ofByte (UInt8.ofNat (0x90 + n)) = .array (.fixed n) := by decide

/-- And short maps. -/
theorem ofByte_map :
    ∀ n < 0x10, Marker.ofByte (UInt8.ofNat (0x80 + n)) = .map (.fixed n) := by decide

/-- The head of a text announces its length in bytes. -/
theorem stringHead_announces {n : Nat} (h : n < 2 ^ 32) : Announces .string n (stringHead n) := by
  unfold stringHead
  split
  · exact .fixed _ (ofByte_string n ‹_›)
  split
  · exact .word 0xd9 1 rfl ‹_›
  split
  · exact .word 0xda 2 rfl ‹_›
  · exact .word 0xdb 4 rfl h

/-- The head of bytes announces how many there are. -/
theorem binaryHead_announces {n : Nat} (h : n < 2 ^ 32) : Announces .binary n (binaryHead n) := by
  unfold binaryHead
  split
  · exact .word 0xc4 1 rfl ‹_›
  split
  · exact .word 0xc5 2 rfl ‹_›
  · exact .word 0xc6 4 rfl h

/-- The head of a list announces the number of its items. -/
theorem arrayHead_announces {n : Nat} (h : n < 2 ^ 32) : Announces .array n (arrayHead n) := by
  unfold arrayHead
  split
  · exact .fixed _ (ofByte_array n ‹_›)
  split
  · exact .word 0xdc 2 rfl ‹_›
  · exact .word 0xdd 4 rfl h

/-- The head of a map announces the number of its entries. -/
theorem mapHead_announces {n : Nat} (h : n < 2 ^ 32) : Announces .map n (mapHead n) := by
  unfold mapHead
  split
  · exact .fixed _ (ofByte_map n ‹_›)
  split
  · exact .word 0xde 2 rfl ‹_›
  · exact .word 0xdf 4 rfl h

/-- The head of an extension announces the length of its data. -/
theorem extHead_announces {n : Nat} (h : n < 2 ^ 32) : Announces .ext n (extHead n) := by
  unfold extHead
  -- the five lengths with a marker of their own come first
  split
  · subst n; exact .fixed 0xd4 rfl
  split
  · subst n; exact .fixed 0xd5 rfl
  split
  · subst n; exact .fixed 0xd6 rfl
  split
  · subst n; exact .fixed 0xd7 rfl
  split
  · subst n; exact .fixed 0xd8 rfl
  split
  · exact .word 0xc7 1 rfl ‹_›
  split
  · exact .word 0xc8 2 rfl ‹_›
  · exact .word 0xc9 4 rfl h

section Heads
variable {n : Nat} {head : Bytes}

/-- Behind the head of a text its bytes are read, with two levels to spare. -/
theorem read_string_head (h : Announces .string n head) (levels : Nat) (rest : Bytes) :
    Object.read (levels + 1) (head ++ rest)
      = if levels < 2 then .error .depthLimit else (readBytes n rest).map .string := by
  obtain ⟨marker, tail, count, rfl, hm, hcount⟩ := h
  rw [List.cons_append, Object.read, hm]
  dsimp only
  rw [hcount]

/-- Behind the head of bytes the bytes are read, with one level to spare. -/
theorem read_binary_head (h : Announces .binary n head) (levels : Nat) (rest : Bytes) :
    Object.read (levels + 1) (head ++ rest)
      = if levels < 1 then .error .depthLimit else (readBytes n rest).map .binary := by
  obtain ⟨marker, tail, count, rfl, hm, hcount⟩ := h
  rw [List.cons_append, Object.read, hm]
  dsimp only
  rw [hcount]

/-- Behind the head of an extension its tag and data are read. -/
theorem read_ext_head (h : Announces .ext n head) (levels : Nat) (rest : Bytes) :
    Object.read (levels + 1) (head ++ rest) = readExt levels n rest := by
  obtain ⟨marker, tail, count, rfl, hm, hcount⟩ := h
  rw [List.cons_append, Object.read, hm]
  dsimp only
  rw [hcount]

/-- Behind the head of a list its items are read, one level below. -/
theorem read_array_head (h : Announces .array n head) (levels : Nat) (rest : Bytes) :
    Object.read (levels + 1) (head ++ rest)
      = match levels with
        | 0 => .error .depthLimit
        | inner + 1 => (readItems (Object.read inner) n [] rest).map .array := by
  obtain ⟨marker, tail, count, rfl, hm, hcount⟩ := h
  rw [List.cons_append, Object.read, hm]
  dsimp only
  cases levels <;> simp only [hcount]

/-- Behind the head of a map its entries are read, one level below. -/
theorem read_map_head (h : Announces .map n head) (levels : Nat) (rest : Bytes) :
    Object.read (levels + 1) (head ++ rest)
      = match levels with
        | 0 => .error .depthLimit
        | inner + 1 => (readItems (readEntry (Object.read inner)) n [] rest).map .map := by
  obtain ⟨marker, tail, count, rfl, hm, hcount⟩ := h
  rw [List.cons_append, Object.read, hm]
  dsimp only
  cases levels <;> simp only [hcount]

end Heads

/-! ### Whole objects

Every statement below has the same two outcomes: the object and what follows it if the budget
reaches the cost, and the limit otherwise. -/

/-- A number of single precision is read back bit by bit. -/
theorem read_float32 (bits : UInt32) (levels : Nat) (rest : Bytes) :
    Object.read (levels + 1) ((Object.float32 bits).bytes ++ rest)
      = .ok (.float32 bits, rest) := by
  have hm : Marker.ofByte 0xca = .float32 := rfl
  rw [Object.bytes, List.cons_append, Object.read, hm]
  dsimp only
  rw [readWord_bigEndian 4 _ rest bits.toNat_lt, Read.map, UInt32.ofNat_toNat]

/-- So is one of double precision. -/
theorem read_float64 (x : Binary64) (levels : Nat) (rest : Bytes) :
    Object.read (levels + 1) ((Object.float64 x).bytes ++ rest) = .ok (.float64 x, rest) := by
  have hm : Marker.ofByte 0xcb = .float64 := rfl
  rw [Object.bytes, List.cons_append, Object.read, hm]
  dsimp only
  rw [readWord_bigEndian 8 _ rest x.bits.toNat_lt, Read.map, UInt64.ofNat_toNat]

/-- An extension is read back with its tag, with two levels to spare. -/
theorem readExt_append (tag : Int8) (data rest : Bytes) (levels : Nat) :
    readExt levels data.length (tag.toUInt8 :: data ++ rest)
      = if 2 ≤ levels then .ok (.ext tag data, rest) else .error .depthLimit := by
  simp only [readExt, List.cons_append, readBytes_append, Int8.toInt8_toUInt8]
  split
  · rw [if_neg (by omega)]
  split
  · rw [if_neg (by omega)]
  · rw [if_pos (by omega), Read.map]

/-- One more item in front: the budget has to reach both the first item and the others. -/
theorem readItems_cons {α : Type} {item : Bytes → Read α} {n needed others levels : Nat}
    {x : α} {done xs : List α} {input tail rest : Bytes}
    (hx : item input = if needed ≤ levels then .ok (x, tail) else .error .depthLimit)
    (hxs : readItems item n (x :: done) tail
      = if others ≤ levels then .ok ((x :: done).reverse ++ xs, rest) else .error .depthLimit) :
    readItems item (n + 1) done input
      = if max needed others ≤ levels then .ok (done.reverse ++ x :: xs, rest)
        else .error .depthLimit := by
  rw [readItems, hx]
  by_cases hfirst : needed ≤ levels
  · -- the first item is read, and the others decide
    rw [if_pos hfirst]
    dsimp only
    rw [hxs, List.reverse_cons, List.append_assoc, List.singleton_append]
    by_cases hothers : others ≤ levels
    · rw [if_pos hothers, if_pos (by omega)]
    · rw [if_neg hothers, if_neg (by omega)]
  · -- the first item runs into the limit, and so does the whole
    rw [if_neg hfirst, if_neg (by omega)]

/-- A key and its value: the budget has to reach both. -/
theorem readEntry_eq {α : Type} {item : Bytes → Read α} {keyCost valueCost levels : Nat}
    {k x : α} {input tail rest : Bytes}
    (hk : item input = if keyCost ≤ levels then .ok (k, tail) else .error .depthLimit)
    (hx : item tail = if valueCost ≤ levels then .ok (x, rest) else .error .depthLimit) :
    readEntry item input
      = if max keyCost valueCost ≤ levels then .ok ((k, x), rest) else .error .depthLimit := by
  rw [readEntry, hk]
  by_cases hkey : keyCost ≤ levels
  · rw [if_pos hkey]
    dsimp only
    rw [hx]
    by_cases hvalue : valueCost ≤ levels
    · rw [if_pos hvalue, if_pos (by omega)]
    · rw [if_neg hvalue, if_neg (by omega)]
  · rw [if_neg hkey, if_neg (by omega)]

mutual

/-- The bytes of a writable object are read back if the budget reaches its cost, and run into
the limit otherwise, whatever follows them. -/
theorem read_bytes (x : Object) (hx : x.Writable) (levels : Nat) (rest : Bytes) :
    Object.read levels (x.bytes ++ rest)
      = if x.cost ≤ levels then .ok (x, rest) else .error .depthLimit := by
  cases levels with
  | zero =>
    -- nothing can be read without a budget, and nothing is free
    have hpos := cost_pos x
    rw [if_neg (by omega), Object.read]
  | succ levels =>
    cases x with
    | nil => rw [Object.cost, if_pos (by omega)]; rfl
    | bool b => rw [Object.cost, if_pos (by omega)]; cases b <;> rfl
    | int n =>
      obtain ⟨hlow, hhigh⟩ := hx
      rw [Object.cost, if_pos (by omega), Object.bytes, read_intBytes hlow hhigh]
    | float32 bits => rw [Object.cost, if_pos (by omega), read_float32]
    | float64 x => rw [Object.cost, if_pos (by omega), read_float64]
    | string b =>
      rw [Object.cost, Object.bytes, List.append_assoc,
        read_string_head (stringHead_announces hx), readBytes_append]
      split
      · rw [if_neg (by omega)]
      · rw [if_pos (by omega), Read.map]
    | binary b =>
      rw [Object.cost, Object.bytes, List.append_assoc,
        read_binary_head (binaryHead_announces hx), readBytes_append]
      split
      · rw [if_neg (by omega)]
      · rw [if_pos (by omega), Read.map]
    | ext tag data =>
      rw [Object.cost, Object.bytes, List.append_assoc,
        read_ext_head (extHead_announces hx), readExt_append]
      split
      · rw [if_pos (by omega)]
      · rw [if_neg (by omega)]
    | array items =>
      obtain ⟨hlen, hitems⟩ := hx
      rw [Object.cost, Object.bytes, List.append_assoc,
        read_array_head (arrayHead_announces hlen)]
      -- the array takes one level for its items and one for itself
      cases levels with
      | zero => rw [if_neg (by omega)]
      | succ inner =>
        dsimp only
        rw [readItems_itemBytes items hitems]
        split
        · rw [if_pos (by omega), Read.map, List.reverse_nil, List.nil_append]
        · rw [if_neg (by omega), Read.map]
    | map entries =>
      obtain ⟨hlen, hentries⟩ := hx
      rw [Object.cost, Object.bytes, List.append_assoc, read_map_head (mapHead_announces hlen)]
      cases levels with
      | zero => rw [if_neg (by omega)]
      | succ inner =>
        dsimp only
        rw [readItems_entryBytes entries hentries]
        split
        · rw [if_pos (by omega), Read.map, List.reverse_nil, List.nil_append]
        · rw [if_neg (by omega), Read.map]

/-- The items of an array, behind those that are read already. -/
theorem readItems_itemBytes (items : List Object) (hitems : WritableItems items) (levels : Nat)
    (done : List Object) (rest : Bytes) :
    readItems (Object.read levels) items.length done (itemBytes items ++ rest)
      = if itemsCost items ≤ levels then .ok (done.reverse ++ items, rest)
        else .error .depthLimit := by
  cases items with
  | nil => simp [readItems, itemBytes, itemsCost]
  | cons x items =>
    obtain ⟨hx, hitems⟩ := hitems
    rw [List.length_cons, itemBytes, List.append_assoc, itemsCost]
    exact readItems_cons (read_bytes x hx levels _)
      (readItems_itemBytes items hitems levels (x :: done) rest)

/-- The entries of a map, behind those that are read already. -/
theorem readItems_entryBytes (entries : List (Object × Object))
    (hentries : WritableEntries entries) (levels : Nat) (done : List (Object × Object))
    (rest : Bytes) :
    readItems (readEntry (Object.read levels)) entries.length done (entryBytes entries ++ rest)
      = if entriesCost entries ≤ levels then .ok (done.reverse ++ entries, rest)
        else .error .depthLimit := by
  cases entries with
  | nil => simp [readItems, entryBytes, entriesCost]
  | cons entry entries =>
    obtain ⟨k, x⟩ := entry
    obtain ⟨⟨hk, hx⟩, hentries⟩ := hentries
    rw [List.length_cons, entryBytes, List.append_assoc, List.append_assoc, entriesCost]
    exact readItems_cons (readEntry_eq (read_bytes k hk levels _) (read_bytes x hx levels _))
      (readItems_entryBytes entries hentries levels ((k, x) :: done) rest)

end

end Courier.Proofs.MessagePack
