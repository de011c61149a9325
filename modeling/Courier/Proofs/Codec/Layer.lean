import Courier.Proofs.Codec.RoundTrip
import Courier.Proofs.Fields

/-!
# `Courier.Proofs.Codec.Layer`: timestamps are a layer over the bare codec

The standard codec differs from the bare one by the extension for timestamps, and the extension is
all that it differs by (`Codec.layered`).

* Where the bare codec fails to encode a value, the value has an instant in it (`Value.HasInstant`),
  and the error is that nobody packs instants. The standard codec writes what the bare one writes
  of the value with every instant packed (`Value.packed`).
* What the standard codec reads is what the bare one reads, with the data under the tag of
  timestamps unpacked and all else as it is (`Value.unpacked?`). What the bare one refuses, it
  refuses, too.

The last point has no converse. A timestamp that has no meaning is refused wherever it stands, even
under a key that comes again later and overrides it, so that the bare codec does not keep it.
-/

set_option autoImplicit false

namespace Courier.Value

mutual

/-- Whether an instant is somewhere in a value. -/
def HasInstant : Value → Prop
  | .array items => HasInstantItems items
  | .map fields => HasInstantFields fields
  | .timestamp _ => True
  | _ => False

/-- Whether an instant is in one of the items. -/
def HasInstantItems : List Value → Prop
  | [] => False
  | v :: rest => v.HasInstant ∨ HasInstantItems rest

/-- Whether an instant is in the value of one of the fields. -/
def HasInstantFields : List (String × Value) → Prop
  | [] => False
  | (_, v) :: rest => v.HasInstant ∨ HasInstantFields rest

end

mutual

/-- The value with every instant packed: in its place stands the extension that carries it. -/
def packed : Value → Value
  | .nil => .nil
  | .bool b => .bool b
  | .int n => .int n
  | .uint n => .uint n
  | .float x => .float x
  | .string s => .string s
  | .binary b => .binary b
  | .array items => .array (packedItems items)
  | .map fields => .map (packedFields fields)
  | .timestamp t => .ext Timestamp.tag (Timestamp.pack t)
  | .ext tag data => .ext tag data

/-- The items, each with its instants packed. -/
def packedItems : List Value → List Value
  | [] => []
  | v :: rest => v.packed :: packedItems rest

/-- The fields under the same keys, with the instants of their values packed. -/
def packedFields : List (String × Value) → List (String × Value)
  | [] => []
  | (key, v) :: rest => (key, v.packed) :: packedFields rest

end

mutual

/-- The value with the data under the tag of timestamps unpacked, if all of it is the data of
instants. Other extensions stay as they are. -/
def unpacked? : Value → Option Value
  | .nil => some .nil
  | .bool b => some (.bool b)
  | .int n => some (.int n)
  | .uint n => some (.uint n)
  | .float x => some (.float x)
  | .string s => some (.string s)
  | .binary b => some (.binary b)
  | .array items => (unpackedItems? items).map .array
  | .map fields => (unpackedFields? fields).map .map
  | .timestamp t => some (.timestamp t)
  | .ext tag data =>
    if tag = Timestamp.tag then (Timestamp.unpack data).toOption.map .timestamp
    else some (.ext tag data)

/-- The items, each with its data unpacked. -/
def unpackedItems? : List Value → Option (List Value)
  | [] => some []
  | v :: rest =>
    match v.unpacked?, unpackedItems? rest with
    | some u, some us => some (u :: us)
    | _, _ => none

/-- The fields under the same keys, with the data in their values unpacked. -/
def unpackedFields? : List (String × Value) → Option (List (String × Value))
  | [] => some []
  | (key, v) :: rest =>
    match v.unpacked?, unpackedFields? rest with
    | some u, some us => some ((key, u) :: us)
    | _, _ => none

end

end Courier.Value

namespace Courier.Codec

open Courier.MessagePack (Object levelLimit)
open Courier.Proofs.Codec (standard_pack standard_unpack_timestamp standard_unpack_other)

/-! ### Writing -/

mutual

/-- The bare codec has an object for a value unless an instant is in it, and then it says so. -/
theorem bare_toObject (v : Value) :
    (v.HasInstant ∧ bare.toObject v = .error (.noPacker .timestamp)) ∨
      (¬ v.HasInstant ∧ ∃ x, bare.toObject v = .ok x) := by
  cases v with
  | timestamp t => exact .inl ⟨trivial, rfl⟩
  | array items =>
    rcases bare_toItems items with ⟨hhas, herror⟩ | ⟨hnone, xs, hxs⟩
    · exact .inl ⟨hhas, by rw [toObject, herror]⟩
    · exact .inr ⟨hnone, .array xs, by rw [toObject, hxs]⟩
  | map fields =>
    rcases bare_toEntries fields with ⟨hhas, herror⟩ | ⟨hnone, xs, hxs⟩
    · exact .inl ⟨hhas, by rw [toObject, herror]⟩
    · exact .inr ⟨hnone, .map xs, by rw [toObject, hxs]⟩
  | nil => exact .inr ⟨id, _, rfl⟩
  | bool b => exact .inr ⟨id, _, rfl⟩
  | int n => exact .inr ⟨id, _, rfl⟩
  | uint n => exact .inr ⟨id, _, rfl⟩
  | float x => exact .inr ⟨id, _, rfl⟩
  | string s => exact .inr ⟨id, _, rfl⟩
  | binary b => exact .inr ⟨id, _, rfl⟩
  | ext tag data => exact .inr ⟨id, _, rfl⟩

/-- The same goes for the items of a list. -/
theorem bare_toItems (vs : List Value) :
    (Value.HasInstantItems vs ∧ bare.toItems vs = .error (.noPacker .timestamp)) ∨
      (¬ Value.HasInstantItems vs ∧ ∃ xs, bare.toItems vs = .ok xs) := by
  cases vs with
  | nil => exact .inr ⟨id, [], rfl⟩
  | cons v rest =>
    rcases bare_toObject v with ⟨hhas, herror⟩ | ⟨hnone, x, hx⟩
    · exact .inl ⟨.inl hhas, by rw [toItems, herror]⟩
    · -- the first item has an object, so the others decide
      rcases bare_toItems rest with ⟨hhas, herror⟩ | ⟨hnone', xs, hxs⟩
      · exact .inl ⟨.inr hhas, by rw [toItems, hx, herror]⟩
      · exact .inr ⟨not_or.mpr ⟨hnone, hnone'⟩, x :: xs, by rw [toItems, hx, hxs]⟩

/-- And for the fields of a map. -/
theorem bare_toEntries (fields : List (String × Value)) :
    (Value.HasInstantFields fields ∧ bare.toEntries fields = .error (.noPacker .timestamp)) ∨
      (¬ Value.HasInstantFields fields ∧ ∃ xs, bare.toEntries fields = .ok xs) := by
  cases fields with
  | nil => exact .inr ⟨id, [], rfl⟩
  | cons field rest =>
    obtain ⟨key, v⟩ := field
    rcases bare_toObject v with ⟨hhas, herror⟩ | ⟨hnone, x, hx⟩
    · exact .inl ⟨.inl hhas, by rw [toEntries, herror]⟩
    · rcases bare_toEntries rest with ⟨hhas, herror⟩ | ⟨hnone', xs, hxs⟩
      · exact .inl ⟨.inr hhas, by rw [toEntries, hx, herror]⟩
      · exact .inr ⟨not_or.mpr ⟨hnone, hnone'⟩, _, by rw [toEntries, hx, hxs]⟩

end

mutual

/-- The standard codec has the object that the bare one has for the value with its instants
packed. -/
theorem standard_toObject (v : Value) : standard.toObject v = bare.toObject v.packed := by
  cases v with
  | array items => rw [Value.packed, toObject, toObject, standard_toItems]
  | map fields => rw [Value.packed, toObject, toObject, standard_toEntries]
  | timestamp t => rw [Value.packed, toObject, standard_pack, toObject]
  | nil => rfl
  | bool b => rfl
  | int n => rfl
  | uint n => rfl
  | float x => rfl
  | string s => rfl
  | binary b => rfl
  | ext tag data => rfl

/-- The items of a list are written as the packed items are. -/
theorem standard_toItems (vs : List Value) :
    standard.toItems vs = bare.toItems (Value.packedItems vs) := by
  cases vs with
  | nil => rfl
  | cons v rest =>
    rw [Value.packedItems, toItems, toItems, standard_toObject v, standard_toItems rest]

/-- And the fields of a map as the packed fields. -/
theorem standard_toEntries (fields : List (String × Value)) :
    standard.toEntries fields = bare.toEntries (Value.packedFields fields) := by
  cases fields with
  | nil => rfl
  | cons field rest =>
    obtain ⟨key, v⟩ := field
    rw [Value.packedFields, toEntries, toEntries, standard_toObject v, standard_toEntries rest]

end

/-- The bare codec fails to encode a value if and only if an instant is in it, and always for the
same reason. -/
theorem bare_encode_error_iff (v : Value) (e : WireError) :
    bare.encode v = .error e ↔ v.HasInstant ∧ e = .noPacker .timestamp := by
  unfold encode
  rcases bare_toObject v with ⟨hhas, herror⟩ | ⟨hnone, x, hx⟩
  · rw [herror]
    constructor
    · intro h
      exact ⟨hhas, (Except.error.inj h).symm⟩
    · rintro ⟨-, rfl⟩
      rfl
  · rw [hx]
    constructor
    · intro h
      cases h
    · rintro ⟨hhas, -⟩
      exact absurd hhas hnone

/-! ### Reading

The fields of a map are brought into order after they have their meaning, and a later one overrides
an earlier one of its name. Which fields stay depends on the names only, and these are the same for
both codecs. So the induction carries the fields of both as one list (`exists_bareEntries`). -/

/-- What the two codecs make of the fields of a map: a name, the value that the bare codec gives it,
and the one that the standard codec gives it. -/
abbrev Paired := List (String × (Value × Value))

/-- Fields that are unpacked one by one are unpacked together. -/
theorem unpackedFields?_of_paired {pairs : Paired}
    (h : ∀ p ∈ pairs, p.2.1.unpacked? = some p.2.2) :
    Value.unpackedFields? (pairs.map fun p => (p.1, p.2.1))
      = some (pairs.map fun p => (p.1, p.2.2)) := by
  induction pairs with
  | nil => rfl
  | cons p rest ih =>
    obtain ⟨hp, hrest⟩ := List.forall_mem_cons.mp h
    rw [List.map_cons, List.map_cons, Value.unpackedFields?, hp, ih hrest]

/-- So are the fields that stay when they are brought into order. -/
theorem unpacked?_ofFields {pairs : Paired} (h : ∀ p ∈ pairs, p.2.1.unpacked? = some p.2.2) :
    (Value.ofFields (pairs.map fun p => (p.1, p.2.1))).unpacked?
      = some (.ofFields (pairs.map fun p => (p.1, p.2.2))) := by
  have hkept : ∀ p ∈ Fields.ofList pairs, p.2.1.unpacked? = some p.2.2 :=
    fun p hp => h p (Fields.mem_of_mem_ofList hp)
  have hbare : Fields.ofList (pairs.map fun p => (p.1, p.2.1))
      = (Fields.ofList pairs).map fun p => (p.1, p.2.1) := Fields.ofList_map Prod.fst pairs
  have hstandard : Fields.ofList (pairs.map fun p => (p.1, p.2.2))
      = (Fields.ofList pairs).map fun p => (p.1, p.2.2) := Fields.ofList_map Prod.snd pairs
  rw [Value.ofFields, Value.ofFields, hbare, hstandard, Value.unpacked?,
    unpackedFields?_of_paired hkept, Option.map_some]

/-- Data under the tag of timestamps is an instant for the standard codec, and data under any other
tag is the same for both. -/
theorem unpacked?_of_unpack {tag : Int8} {data : Bytes} {v : Value}
    (h : standard.extensions.unpack tag data = .ok v) :
    (Value.ext tag data).unpacked? = some v := by
  rw [Value.unpacked?]
  by_cases htag : tag = Timestamp.tag
  · rw [if_pos htag]
    rw [htag, standard_unpack_timestamp] at h
    cases hdata : Timestamp.unpack data with
    | error e => rw [hdata] at h; cases h
    | ok t =>
      rw [hdata] at h
      exact congrArg some (Except.ok.inj h)
  · rw [if_neg htag]
    rw [standard_unpack_other data htag] at h
    exact congrArg some (Except.ok.inj h)

mutual

/-- An object that means something to the standard codec means something to the bare one, and the
two meanings differ by the timestamps. -/
theorem exists_bareObject (x : Object) (v : Value) (h : standard.ofObject x = .ok v) :
    ∃ w, bare.ofObject x = .ok w ∧ w.unpacked? = some v := by
  cases x with
  | ext tag data => exact ⟨.ext tag data, rfl, unpacked?_of_unpack h⟩
  | array items =>
    rw [ofObject] at h
    split at h
    · rename_i vs hvs
      obtain ⟨ws, hws, hunpacked⟩ := exists_bareItems items vs hvs
      refine ⟨.array ws, by rw [ofObject, hws], ?_⟩
      rw [Value.unpacked?, hunpacked]
      exact congrArg some (Except.ok.inj h)
    · cases h
  | map entries =>
    rw [ofObject] at h
    split at h
    · rename_i fields hfields
      obtain ⟨pairs, hpairs, rfl, hunpacked⟩ := exists_bareEntries entries fields hfields
      refine ⟨.ofFields (pairs.map fun p => (p.1, p.2.1)), by rw [ofObject, hpairs], ?_⟩
      rw [unpacked?_ofFields hunpacked]
      exact congrArg some (Except.ok.inj h)
    · cases h
  | string b =>
    rw [ofObject] at h
    split at h
    · rename_i s hs
      cases h
      exact ⟨.string s, by rw [ofObject, hs], rfl⟩
    · cases h
  | int n =>
    refine ⟨v, h, ?_⟩
    rw [ofObject] at h
    -- neither form of an integer changes when it is unpacked
    split at h <;> cases h <;> rfl
  | nil => cases h; exact ⟨.nil, rfl, rfl⟩
  | bool b => cases h; exact ⟨.bool b, rfl, rfl⟩
  | float32 bits => cases h; exact ⟨_, rfl, rfl⟩
  | float64 x => cases h; exact ⟨.float x, rfl, rfl⟩
  | binary b => cases h; exact ⟨.binary b, rfl, rfl⟩

/-- The items of a list are unpacked one by one. -/
theorem exists_bareItems (xs : List Object) (vs : List Value) (h : standard.ofItems xs = .ok vs) :
    ∃ ws, bare.ofItems xs = .ok ws ∧ Value.unpackedItems? ws = some vs := by
  cases xs with
  | nil => cases h; exact ⟨[], rfl, rfl⟩
  | cons x xs =>
    rw [ofItems] at h
    split at h
    · cases h
    rename_i v hv
    split at h
    · cases h
    rename_i rest hrest
    cases h
    obtain ⟨w, hw, hunpacked⟩ := exists_bareObject x v hv
    obtain ⟨ws, hws, hunpackeds⟩ := exists_bareItems xs rest hrest
    refine ⟨w :: ws, by rw [ofItems, hw, hws], ?_⟩
    rw [Value.unpackedItems?, hunpacked, hunpackeds]

/-- So are the values of a map, under the same keys. -/
theorem exists_bareEntries (entries : List (Object × Object)) (fields : List (String × Value))
    (h : standard.ofEntries entries = .ok fields) :
    ∃ pairs : Paired, bare.ofEntries entries = .ok (pairs.map fun p => (p.1, p.2.1)) ∧
      pairs.map (fun p => (p.1, p.2.2)) = fields ∧
      ∀ p ∈ pairs, p.2.1.unpacked? = some p.2.2 := by
  cases entries with
  | nil => cases h; exact ⟨[], rfl, rfl, List.forall_mem_nil _⟩
  | cons entry entries =>
    obtain ⟨k, x⟩ := entry
    rw [ofEntries] at h
    split at h
    · cases h
    rename_i key hkey
    split at h
    · cases h
    rename_i v hv
    split at h
    · cases h
    rename_i rest hrest
    cases h
    -- the key is read without the codec, so only the value can differ
    obtain ⟨w, hw, hunpacked⟩ := exists_bareObject x v hv
    obtain ⟨pairs, hpairs, rfl, hunpackeds⟩ := exists_bareEntries entries rest hrest
    refine ⟨(key, w, v) :: pairs, ?_, rfl, List.forall_mem_cons.mpr ⟨hunpacked, hunpackeds⟩⟩
    rw [ofEntries, hkey]
    dsimp only
    rw [hw]
    dsimp only
    rw [hpairs, List.map_cons]

end

/-- What the standard codec decodes is what the bare one decodes, with the timestamps unpacked. -/
theorem exists_bareDecode {b : Bytes} {v : Value} (h : standard.decode b = .ok v) :
    ∃ w, bare.decode b = .ok w ∧ w.unpacked? = some v := by
  unfold decode at h ⊢
  split at h
  · cases h
  · rename_i x hx
    obtain ⟨w, hw, hunpacked⟩ := exists_bareObject x v h
    exact ⟨w, hw, hunpacked⟩
  · cases h

/-- The extension for timestamps is a layer over the bare codec, in both directions.

The bare codec fails to encode exactly the values that have an instant in them, for want of somebody
to pack it, and the standard codec encodes any value as the bare one encodes it with its instants
packed. What the standard codec decodes, the bare one decodes to a value that is the same once its
timestamps are unpacked, and what the bare one cannot decode, the standard codec cannot either. -/
theorem layered :
    (∀ v e, bare.encode v = .error e ↔ v.HasInstant ∧ e = .noPacker .timestamp) ∧
    (∀ v, standard.encode v = bare.encode v.packed) ∧
    (∀ b v, standard.decode b = .ok v → ∃ w, bare.decode b = .ok w ∧ w.unpacked? = some v) ∧
    ∀ b e, bare.decode b = .error e → ∃ cause, standard.decode b = .error cause := by
  refine ⟨bare_encode_error_iff, fun v => ?_, fun b v => exists_bareDecode, fun b e he => ?_⟩
  · unfold encode
    rw [standard_toObject]
  · cases h : standard.decode b with
    | error cause => exact ⟨cause, rfl⟩
    | ok v =>
      obtain ⟨w, hw, -⟩ := exists_bareDecode h
      exact absurd (hw.symm.trans he) nofun

/-- A map with the key `b` twice, the first time with a timestamp in an array, and then with data
under a tag that nobody knows. Its other key has a timestamp. -/
def layeredDocument : Bytes :=
  [0x83] ++
    [0xa1, 0x62] ++ [0x91] ++ [0xc7, 12, 5] ++ [0, 0, 0, 0, 0, 0, 0, 1, 0, 0, 0, 0] ++
    [0xa1, 0x61] ++ [0xc7, 12, 5] ++ [0, 0, 0, 0, 0x5f, 0x5e, 0x10, 0, 0, 0, 0, 0] ++
    [0xa1, 0x62] ++ [0xd4, 9, 7]

/-- What the bare codec makes of it, which is its value for the standard codec with the instant
packed. The other extension is the same for both. -/
theorem layered_document :
    (∃ v, standard.decode layeredDocument = .ok v ∧
      (Value.map [("a", .ext 5 [0, 0, 0, 0, 0x5f, 0x5e, 0x10, 0, 0, 0, 0, 0]),
        ("b", .ext 9 [7])]).unpacked? = some v) ∧
    bare.decode [0x81, 1, 0xc0] = .error (.nonStringKey "1") ∧
    ∃ cause, standard.decode [0x81, 1, 0xc0] = .error cause := by
  obtain ⟨-, -, hread, hrefused⟩ := layered
  have hstandard : standard.decode layeredDocument = .ok (.map
      [("a", .timestamp ⟨1600000000, 0, by decide, by decide, by decide⟩),
        ("b", .ext 9 [7])]) := by cbv
  have hbare : bare.decode layeredDocument = .ok (.map
      [("a", .ext 5 [0, 0, 0, 0, 0x5f, 0x5e, 0x10, 0, 0, 0, 0, 0]), ("b", .ext 9 [7])]) := by cbv
  have hkey : bare.decode [0x81, 1, 0xc0] = .error (.nonStringKey "1") := by cbv
  obtain ⟨w, hw, hunpacked⟩ := hread _ _ hstandard
  obtain rfl := Except.ok.inj (hbare.symm.trans hw)
  exact ⟨⟨_, hstandard, hunpacked⟩, hkey, hrefused _ _ hkey⟩

/-- A timestamp without data is refused under a key that comes again, and the bare codec does not
even keep it. -/
example : standard.decode [0x82, 0xa1, 0x61, 0xc7, 0, 5, 0xa1, 0x61, 0xc0]
      = .error (.timestampTooShort 12 0) ∧
    bare.decode [0x82, 0xa1, 0x61, 0xc7, 0, 5, 0xa1, 0x61, 0xc0] = .ok (.map [("a", .nil)]) := by
  constructor <;> cbv

end Courier.Codec
