import Courier.Codec
import Courier.Proofs.MessagePack.ReadBack
import Courier.Proofs.Timestamp

/-!
# `Courier.Proofs.Codec.RoundTrip`: what comes back of a value

A value goes to its bytes through the object that stands for it, and comes back through the
object that the bytes hold. For every value that the format can carry, this comes back:

* `Value.norm v`, if the budget of the reader reaches `Value.cost v`. Integers are in the form
  that readers expect, instants are whole seconds, and everything else is as it was.
* The depth limit otherwise. The writer knows no limit, so there are values that can be sent and
  not received.

`Value.Portable` is what the format can carry: lengths fit four bytes, instants round to a second
of the calendar, and no extension without a meaning has the tag of timestamps. That the keys of
maps are in order (`Value.WellFormed`) belongs to the type of maps, not to the format.

The proof has two halves. `Proofs/MessagePack/ReadBack` takes an object to its bytes and back;
`exists_stands` here takes a value to its object and back, by induction over the value.
-/

set_option autoImplicit false

namespace Courier.Value

mutual

/-- The levels that decoding a value takes. A key takes as many as any text. -/
def cost : Value → Nat
  | .nil => 1
  | .bool _ => 1
  | .int _ => 1
  | .uint _ => 1
  | .float _ => 1
  | .string _ => 3
  | .binary _ => 2
  | .array items => 2 + costItems items
  | .map fields => 2 + costFields fields
  | .timestamp _ => 3
  | .ext _ _ => 3

/-- The levels that the most expensive item takes. -/
def costItems : List Value → Nat
  | [] => 0
  | v :: rest => max v.cost (costItems rest)

/-- The levels that the most expensive key or value takes. -/
def costFields : List (String × Value) → Nat
  | [] => 0
  | (_, v) :: rest => max (max 3 v.cost) (costFields rest)

end

mutual

/-- What comes back of a value: an unsigned integer that fits the signed form is in that form,
an instant is what unpacking makes of its packed form, and all else stays. -/
def norm : Value → Value
  | .nil => .nil
  | .bool b => .bool b
  | .int n => .int n
  | .uint n => .ofUInt64 n
  | .float x => .float x
  | .string s => .string s
  | .binary b => .binary b
  | .array items => .array (normItems items)
  | .map fields => .map (normFields fields)
  | .timestamp t =>
    match Timestamp.unpack (Timestamp.pack t) with
    | .ok u => .timestamp u
    | .error _ => .timestamp t
  | .ext tag data => .ext tag data

/-- What comes back of the items. -/
def normItems : List Value → List Value
  | [] => []
  | v :: rest => v.norm :: normItems rest

/-- What comes back of the fields, under the same keys. -/
def normFields : List (String × Value) → List (String × Value)
  | [] => []
  | (key, v) :: rest => (key, v.norm) :: normFields rest

end

mutual

/-- Whether a value can be carried and given its meaning back. -/
def Portable : Value → Prop
  | .nil => True
  | .bool _ => True
  | .int _ => True
  | .uint _ => True
  | .float _ => True
  | .string s => (Bytes.ofString s).length < 2 ^ 32
  | .binary b => b.length < 2 ^ 32
  | .array items => items.length < 2 ^ 32 ∧ PortableItems items
  | .map fields => fields.length < 2 ^ 32 ∧ PortableFields fields
  | .timestamp t => (Instant.ofSeconds? (Timestamp.packedSeconds t)).isSome
  | .ext tag data => tag ≠ Timestamp.tag ∧ data.length < 2 ^ 32

/-- Whether every item is portable. -/
def PortableItems : List Value → Prop
  | [] => True
  | v :: rest => v.Portable ∧ PortableItems rest

/-- Whether every key and every value is portable. -/
def PortableFields : List (String × Value) → Prop
  | [] => True
  | (key, v) :: rest =>
    ((Bytes.ofString key).length < 2 ^ 32 ∧ v.Portable) ∧ PortableFields rest

end

/-! ### Items and fields, one by one -/

section
variable {bound : Nat} {vs : List Value} {fields : List (String × Value)}

/-- The items of a list are well formed together if each of them is. -/
theorem wellFormedItems_iff : WellFormedItems vs ↔ ∀ v ∈ vs, v.WellFormed := by
  induction vs with
  | nil => simp [WellFormedItems]
  | cons v vs ih => simp [WellFormedItems, ih]

/-- So are the fields of a map. -/
theorem wellFormedFields_iff : WellFormedFields fields ↔ ∀ p ∈ fields, p.2.WellFormed := by
  induction fields with
  | nil => simp [WellFormedFields]
  | cons p fields ih => simp [WellFormedFields, ih]

/-- The items of a list are portable together if each of them is. -/
theorem portableItems_iff : PortableItems vs ↔ ∀ v ∈ vs, v.Portable := by
  induction vs with
  | nil => simp [PortableItems]
  | cons v vs ih => simp [PortableItems, ih]

/-- The fields of a map are portable if their keys are short enough and their values portable. -/
theorem portableFields_iff : PortableFields fields ↔
    ∀ p ∈ fields, (Bytes.ofString p.1).length < 2 ^ 32 ∧ p.2.Portable := by
  induction fields with
  | nil => simp [PortableFields]
  | cons p fields ih => simp [PortableFields, ih]

/-- A bound holds of the cost of some items if it holds of each of them. -/
theorem costItems_le_iff : costItems vs ≤ bound ↔ ∀ v ∈ vs, v.cost ≤ bound := by
  induction vs with
  | nil => simp [costItems]
  | cons v vs ih => simp [costItems, ih]

/-- A key takes three levels, if there is one. -/
theorem costFields_le (hkey : 3 ≤ bound) (h : ∀ p ∈ fields, p.2.cost ≤ bound) :
    costFields fields ≤ bound := by
  induction fields with
  | nil => exact Nat.zero_le _
  | cons p fields ih =>
    obtain ⟨hp, hfields⟩ := List.forall_mem_cons.mp h
    have hrest := ih hfields
    rw [costFields]
    omega

end

end Courier.Value

namespace Courier.Proofs.Codec

open Courier.MessagePack (Object itemsCost entriesCost WritableItems WritableEntries)

/-! ### The standard codec and its one extension -/

/-- Instants are packed under the tag of timestamps. -/
theorem standard_pack (t : Instant) :
    Codec.standard.extensions.pack (.timestamp t)
      = some (.ok (Timestamp.tag, Timestamp.pack t)) := rfl

/-- Data under this tag are unpacked to an instant. -/
theorem standard_unpack_timestamp (data : Bytes) :
    Codec.standard.extensions.unpack Timestamp.tag data
      = (Timestamp.unpack data).map .timestamp := rfl

/-- Data under any other tag stay what they are. -/
theorem standard_unpack_other {tag : Int8} (data : Bytes) (h : tag ≠ Timestamp.tag) :
    Codec.standard.extensions.unpack tag data = .ok (.ext tag data) := by
  have hnone : Codec.standard.extensions.get? tag = none := by
    simp [Codec.standard, ExtensionTable.register, ExtensionTable.empty, ExtensionTable.place,
      ExtensionTable.get?, Extension.timestamp, Ne.symm h]
  rw [ExtensionTable.unpack, hnone]

/-! ### Leaves -/

/-- A signed integer is its own form. -/
theorem ofObject_int64 (c : Codec) (n : Int64) :
    c.ofObject (.int n.toInt) = .ok (.int n) := by
  have hlt : n.toInt < 0x8000000000000000 := Int64.toInt_lt n
  rw [Codec.ofObject, if_pos hlt, Int64.ofInt_toInt]

/-- An unsigned integer comes back signed if it fits. -/
theorem ofObject_uint64 (c : Codec) (n : UInt64) :
    c.ofObject (.int (n.toNat : Int)) = .ok (.ofUInt64 n) := by
  rw [Codec.ofObject, Value.ofUInt64]
  by_cases h : n.toNat < 0x8000000000000000
  · rw [if_pos (by omega), if_pos h]
    rfl
  · rw [if_neg (by omega), if_neg h, Int.toNat_natCast, UInt64.ofNat_toNat]

/-- The object of a portable instant comes back as what unpacking makes of it. -/
theorem unpack_portable {t : Instant} (h : (Value.timestamp t).Portable) :
    ∃ u, Timestamp.unpack (Timestamp.pack t) = .ok u := by
  obtain ⟨u, hu⟩ := Option.isSome_iff_exists.mp h
  exact ⟨u, by rw [Timestamp.unpack_pack, hu]⟩

/-! ### Values and their objects -/

/-- `x` is the object of `v`, can be written at the cost of `v`, and means what should come back
of `v`. -/
structure Stands (v : Value) (x : Object) : Prop where
  toObject : Codec.standard.toObject v = .ok x
  writable : x.Writable
  cost : x.cost = v.cost
  ofObject : Codec.standard.ofObject x = .ok v.norm

/-- The same for items. -/
structure StandsItems (vs : List Value) (xs : List Object) : Prop where
  toItems : Codec.standard.toItems vs = .ok xs
  length : xs.length = vs.length
  writable : WritableItems xs
  cost : itemsCost xs = Value.costItems vs
  ofItems : Codec.standard.ofItems xs = .ok (Value.normItems vs)

/-- The same for fields. -/
structure StandsFields (fields : List (String × Value)) (entries : List (Object × Object)) :
    Prop where
  toEntries : Codec.standard.toEntries fields = .ok entries
  length : entries.length = fields.length
  writable : WritableEntries entries
  cost : entriesCost entries = Value.costFields fields
  ofEntries : Codec.standard.ofEntries entries = .ok (Value.normFields fields)

/-- What comes back of fields has the same keys. -/
theorem map_fst_normFields (fields : List (String × Value)) :
    (Value.normFields fields).map Prod.fst = fields.map Prod.fst := by
  induction fields with
  | nil => rfl
  | cons field fields ih =>
    obtain ⟨key, v⟩ := field
    rw [Value.normFields, List.map_cons, List.map_cons, ih]

/-- So they are in order if the fields were. -/
theorem sorted_normFields {fields : List (String × Value)} (h : Fields.Sorted fields) :
    Fields.Sorted (Value.normFields fields) := by
  have hkeys : (fields.map Prod.fst).Pairwise (· < ·) := List.pairwise_map.mpr h
  rw [← map_fst_normFields] at hkeys
  exact List.pairwise_map.mp hkeys

mutual

/-- Every portable value has an object that stands for it. -/
theorem exists_stands (v : Value) (hform : v.WellFormed) (hport : v.Portable) :
    ∃ x, Stands v x := by
  cases v with
  | nil => exact ⟨.nil, rfl, trivial, rfl, rfl⟩
  | bool b => exact ⟨.bool b, rfl, trivial, rfl, rfl⟩
  | int n =>
    have hlow := Int64.le_toInt n
    have hhigh := Int64.toInt_lt n
    exact ⟨.int n.toInt, rfl, ⟨hlow, by omega⟩, rfl, ofObject_int64 _ n⟩
  | uint n =>
    have hlt := n.toNat_lt
    exact ⟨.int n.toNat, rfl, ⟨by omega, by omega⟩, rfl, ofObject_uint64 _ n⟩
  | float x => exact ⟨.float64 x, rfl, trivial, rfl, rfl⟩
  | string s =>
    -- the bytes of a text form a text, so they are not refused on the way back
    refine ⟨.string (Bytes.ofString s), rfl, hport, rfl, ?_⟩
    rw [Codec.ofObject, Bytes.toString?_ofString, Value.norm]
  | binary b => exact ⟨.binary b, rfl, hport, rfl, rfl⟩
  | array items =>
    obtain ⟨hlen, hitems⟩ := hport
    obtain ⟨xs, hxs⟩ := exists_standsItems items hform hitems
    refine ⟨.array xs, ?_, ⟨hxs.length ▸ hlen, hxs.writable⟩, ?_, ?_⟩
    · rw [Codec.toObject, hxs.toItems]
    · rw [Object.cost, hxs.cost, Value.cost]
    · rw [Codec.ofObject, hxs.ofItems, Value.norm]
  | map fields =>
    obtain ⟨hsorted, hform⟩ := hform
    obtain ⟨hlen, hfields⟩ := hport
    obtain ⟨entries, hentries⟩ := exists_standsFields fields hform hfields
    refine ⟨.map entries, ?_, ⟨hentries.length ▸ hlen, hentries.writable⟩, ?_, ?_⟩
    · rw [Codec.toObject, hentries.toEntries]
    · rw [Object.cost, hentries.cost, Value.cost]
    · rw [Codec.ofObject, hentries.ofEntries, Value.norm]
      dsimp only
      -- the fields come back in the order of their keys, which is the order they are in
      rw [Value.ofFields, Fields.ofList_of_sorted (sorted_normFields hsorted)]
  | timestamp t =>
    -- an instant becomes an extension, and the tag brings it back
    obtain ⟨u, hu⟩ := unpack_portable hport
    refine ⟨.ext Timestamp.tag (Timestamp.pack t), ?_, ?_, rfl, ?_⟩
    · rw [Codec.toObject, standard_pack]
    · rw [Object.Writable, Timestamp.length_pack]
      decide
    · rw [Codec.ofObject, standard_unpack_timestamp, Value.norm, hu]
      rfl
  | ext tag data =>
    obtain ⟨htag, hlen⟩ := hport
    exact ⟨.ext tag data, rfl, hlen, rfl, standard_unpack_other data htag⟩

/-- Portable items have objects that stand for them. -/
theorem exists_standsItems (vs : List Value) (hform : Value.WellFormedItems vs)
    (hport : Value.PortableItems vs) : ∃ xs, StandsItems vs xs := by
  cases vs with
  | nil => exact ⟨[], rfl, rfl, trivial, rfl, rfl⟩
  | cons v vs =>
    obtain ⟨hv, hvs⟩ := hform
    obtain ⟨hpv, hpvs⟩ := hport
    obtain ⟨x, hx⟩ := exists_stands v hv hpv
    obtain ⟨xs, hxs⟩ := exists_standsItems vs hvs hpvs
    refine ⟨x :: xs, ?_, ?_, ⟨hx.writable, hxs.writable⟩, ?_, ?_⟩
    · simp only [Codec.toItems, hx.toObject, hxs.toItems]
    · rw [List.length_cons, List.length_cons, hxs.length]
    · rw [itemsCost, hx.cost, hxs.cost, Value.costItems]
    · simp only [Codec.ofItems, hx.ofObject, hxs.ofItems, Value.normItems]

/-- Portable fields have entries that stand for them. -/
theorem exists_standsFields (fields : List (String × Value))
    (hform : Value.WellFormedFields fields) (hport : Value.PortableFields fields) :
    ∃ entries, StandsFields fields entries := by
  cases fields with
  | nil => exact ⟨[], rfl, rfl, trivial, rfl, rfl⟩
  | cons field fields =>
    obtain ⟨key, v⟩ := field
    obtain ⟨hv, hfields⟩ := hform
    obtain ⟨⟨hkey, hpv⟩, hpfields⟩ := hport
    obtain ⟨x, hx⟩ := exists_stands v hv hpv
    obtain ⟨entries, hentries⟩ := exists_standsFields fields hfields hpfields
    refine ⟨(.string (Bytes.ofString key), x) :: entries, ?_, ?_,
      ⟨⟨hkey, hx.writable⟩, hentries.writable⟩, ?_, ?_⟩
    · simp only [Codec.toEntries, hx.toObject, hentries.toEntries]
    · rw [List.length_cons, List.length_cons, hentries.length]
    · rw [entriesCost, Object.cost, hx.cost, hentries.cost, Value.costFields]
    · have hkeyOf : Codec.keyOf (.string (Bytes.ofString key)) = .ok key := by
        rw [Codec.keyOf, Bytes.toString?_ofString]
      simp only [Codec.ofEntries, hkeyOf, hx.ofObject, hentries.ofEntries, Value.normFields]

end

/-- The bytes of a value are those of the object that stands for it. -/
theorem Stands.encode {v : Value} {x : Object} (h : Stands v x) :
    Codec.standard.encode v = .ok x.bytes := by
  rw [Codec.encode, h.toObject]

/-- What those bytes decode to depends on the cost alone. -/
theorem Stands.decode {v : Value} {x : Object} (h : Stands v x) :
    Codec.standard.decode x.bytes
      = if v.cost ≤ 1024 then .ok v.norm else .error (.malformed .depthLimit) := by
  -- nothing follows the bytes, so nothing is left over after the object
  have hread := MessagePack.read_bytes x h.writable Courier.MessagePack.levelLimit []
  rw [List.append_nil, h.cost, Courier.MessagePack.levelLimit] at hread
  rw [Codec.decode, Courier.MessagePack.levelLimit, hread]
  by_cases hcost : v.cost ≤ 1024
  · rw [if_pos hcost, if_pos hcost]
    exact h.ofObject
  · rw [if_neg hcost, if_neg hcost]

/-- Every portable value can be encoded. Its bytes decode to `norm` of it if it costs at most
1024 levels, and are refused for their depth if it costs more. -/
theorem decode_encode_norm (v : Value) (hform : v.WellFormed) (hport : v.Portable) :
    ∃ b, Codec.standard.encode v = .ok b ∧
      (v.cost ≤ 1024 → Codec.standard.decode b = .ok v.norm) ∧
      (1024 < v.cost → ∃ e, Codec.standard.decode b = .error (.malformed e) ∧
        e.message = "depth limit exceeded") := by
  obtain ⟨x, hx⟩ := exists_stands v hform hport
  refine ⟨x.bytes, hx.encode, fun hcost => ?_, fun hcost => ⟨.depthLimit, ?_, rfl⟩⟩
  · rw [hx.decode, if_pos hcost]
  · rw [hx.decode, if_neg (by omega)]

/-- A map with a value of each kind that does not come back as it was, and two that do. -/
def mixed : Value :=
  .map [("at", .timestamp ⟨1700000000, 1000000, by decide, by decide, by decide⟩),
    ("few", .array [.uint 5, .uint 18446744073709551615, .float ⟨0x7ff8000000000001⟩]),
    ("tag", .ext 9 [1, 2])]

/-- Its keys stand in order. -/
theorem mixed_wellFormed : mixed.WellFormed := by
  refine ⟨?_, trivial, ⟨trivial, trivial, trivial, trivial⟩, trivial, trivial⟩
  unfold Fields.Sorted
  decide

/-- All of its parts can be written and read back. -/
theorem mixed_portable : mixed.Portable := by
  refine ⟨by decide, ⟨by decide, rfl⟩, ⟨by decide, by decide, ?_⟩,
    ⟨by decide, by decide, by decide⟩, trivial⟩
  exact ⟨trivial, trivial, trivial, trivial⟩

/-- In its normal form the small number is signed, and the instant is the next second. -/
theorem norm_mixed : mixed.norm = .map
    [("at", .timestamp ⟨1700000001, 0, by decide, by decide, by decide⟩),
      ("few", .array [.int 5, .uint 18446744073709551615, .float ⟨0x7ff8000000000001⟩]),
      ("tag", .ext 9 [1, 2])] := by
  have hat : Timestamp.unpack (Timestamp.pack
      ⟨1700000000, 1000000, by decide, by decide, by decide⟩)
      = .ok ⟨1700000001, 0, by decide, by decide, by decide⟩ := by
    rw [Timestamp.unpack_pack]
    rfl
  simp only [mixed, Value.norm, Value.normFields, Value.normItems, hat]
  rfl

/-- A nil inside `n` arrays of one item. -/
def nested : Nat → Value
  | 0 => .nil
  | n + 1 => .array [nested n]

/-- A list of one item is well formed if the item is. -/
theorem nested_wellFormed (n : Nat) : (nested n).WellFormed := by
  induction n with
  | zero => trivial
  | succ n ih => exact ⟨ih, trivial⟩

/-- It is portable if the item is. -/
theorem nested_portable (n : Nat) : (nested n).Portable := by
  induction n with
  | zero => trivial
  | succ n ih => exact ⟨by simp, ih, trivial⟩

/-- Each list takes two levels more. -/
theorem cost_nested (n : Nat) : (nested n).cost = 2 * n + 1 := by
  induction n with
  | zero => rfl
  | succ n ih =>
    rw [nested, Value.cost, Value.costItems, Value.costItems, ih]
    omega

/-- A value that comes back in another form: the small number is signed, and the instant, one
millisecond past a second, is the next second. And one that does not come back: 512 arrays
around nil take 1025 levels. -/
theorem decode_encode_norm_mixed_nested :
    mixed.WellFormed ∧ mixed.Portable ∧ mixed.cost ≤ 1024 ∧
    (∃ b, Codec.standard.encode mixed = .ok b ∧
      Codec.standard.decode b = .ok (.map
        [("at", .timestamp ⟨1700000001, 0, by decide, by decide, by decide⟩),
          ("few", .array [.int 5, .uint 18446744073709551615, .float ⟨0x7ff8000000000001⟩]),
          ("tag", .ext 9 [1, 2])])) ∧
    (nested 512).WellFormed ∧ (nested 512).Portable ∧ 1024 < (nested 512).cost ∧
    ∃ b e, Codec.standard.encode (nested 512) = .ok b ∧
      Codec.standard.decode b = .error (.malformed e) ∧ e.message = "depth limit exceeded" := by
  have hcost : mixed.cost ≤ 1024 := by decide
  have hdeep : 1024 < (nested 512).cost := by rw [cost_nested]; omega
  obtain ⟨b, hb, hnorm, -⟩ := decode_encode_norm mixed mixed_wellFormed mixed_portable
  rw [norm_mixed] at hnorm
  obtain ⟨d, hd, -, hlimit⟩ :=
    decode_encode_norm (nested 512) (nested_wellFormed 512) (nested_portable 512)
  obtain ⟨e, he, hmessage⟩ := hlimit hdeep
  exact ⟨mixed_wellFormed, mixed_portable, hcost, ⟨b, hb, hnorm hcost⟩,
    nested_wellFormed 512, nested_portable 512, hdeep, d, e, hd, he, hmessage⟩

end Courier.Proofs.Codec
