import Courier.Proofs.Codec.RoundTrip
import Courier.Proofs.Fields
import Courier.Proofs.MessagePack.Accepted

/-!
# `Courier.Proofs.Codec.Normal`: decoding settles the form of a value

There are many documents for one value. Decoding accepts them all, and what distinguishes them is
gone afterwards: how wide the integers and lengths were, whether a float was single or double, in
which order the keys stood and what a later one overrode, the nanoseconds of an instant and what
follows them.

What is left is settled. The value is normal (`Value.Normal`), it has an object of its own that
takes no more levels than the one that it was made of, and that object means the value again
(`Codec.Settles`). So encoding a decoded value cannot fail, not even for its depth, and gives a
document that decodes to the same value: `decode_settles`.

The proof goes by induction over the object that is decoded (`settles_of_ofObject`). Of the table
of extensions it needs to know only that it settles what it makes of data (`Codec.Settling`), which
is so for both codecs.
-/

set_option autoImplicit false

namespace Courier.MessagePack

mutual

/-- An object and everything inside it. -/
def Object.parts : Object → List Object
  | .array items => .array items :: itemsParts items
  | .map entries => .map entries :: entriesParts entries
  | x => [x]

/-- Everything inside the items. -/
def itemsParts : List Object → List Object
  | [] => []
  | x :: rest => x.parts ++ itemsParts rest

/-- Everything inside the keys and values. -/
def entriesParts : List (Object × Object) → List Object
  | [] => []
  | (k, x) :: rest => k.parts ++ (x.parts ++ entriesParts rest)

end

end Courier.MessagePack

namespace Courier

namespace Value

mutual

/-- Whether a value has the form that decoding gives it, when the tags are those that have a
meaning. Integers are unsigned only if they do not fit the signed form. There are instants only
if their tag has a meaning, and these are whole seconds. No extension has a tag with a meaning. -/
def Normal (tags : List Int8) : Value → Prop
  | .nil => True
  | .bool _ => True
  | .int _ => True
  | .uint n => 2 ^ 63 ≤ n.toNat
  | .float _ => True
  | .string _ => True
  | .binary _ => True
  | .array items => NormalItems tags items
  | .map fields => NormalFields tags fields
  | .timestamp t => Timestamp.tag ∈ tags ∧ t.nanos = 0
  | .ext tag _ => tag ∉ tags

/-- Whether every item is normal. -/
def NormalItems (tags : List Int8) : List Value → Prop
  | [] => True
  | v :: rest => v.Normal tags ∧ NormalItems tags rest

/-- Whether the value of every field is normal. -/
def NormalFields (tags : List Int8) : List (String × Value) → Prop
  | [] => True
  | (_, v) :: rest => v.Normal tags ∧ NormalFields tags rest

end

section
variable {tags : List Int8} {vs : List Value} {fields : List (String × Value)}

/-- A list is normal if each of its items is. -/
theorem normalItems_iff : NormalItems tags vs ↔ ∀ v ∈ vs, v.Normal tags := by
  induction vs with
  | nil => simp [NormalItems]
  | cons v vs ih => simp [NormalItems, ih]

/-- A map is normal if the value of each field is. -/
theorem normalFields_iff : NormalFields tags fields ↔ ∀ p ∈ fields, p.2.Normal tags := by
  induction fields with
  | nil => simp [NormalFields]
  | cons p fields ih => simp [NormalFields, ih]

end

mutual

/-- A value in the form that decoding gives comes back as it is. -/
theorem norm_of_normal (v : Value) (h : v.Normal [Timestamp.tag]) : v.norm = v := by
  cases v with
  | uint n =>
    have hlarge : 2 ^ 63 ≤ n.toNat := h
    rw [norm, ofUInt64, if_neg (by omega)]
  | array items => rw [norm, normItems_of_normal items h]
  | map fields => rw [norm, normFields_of_normal fields h]
  | timestamp t =>
    have hunpack := Proofs.Timestamp.unpack_pack_whole h.2
    rw [norm, hunpack]
  | _ => rfl

/-- Normal items are their own normal form. -/
theorem normItems_of_normal (vs : List Value) (h : NormalItems [Timestamp.tag] vs) :
    normItems vs = vs := by
  cases vs with
  | nil => rfl
  | cons v vs => rw [normItems, norm_of_normal v h.1, normItems_of_normal vs h.2]

/-- So are normal fields. -/
theorem normFields_of_normal (fields : List (String × Value))
    (h : NormalFields [Timestamp.tag] fields) : normFields fields = fields := by
  cases fields with
  | nil => rfl
  | cons p fields =>
    obtain ⟨key, v⟩ := p
    rw [normFields, norm_of_normal v h.1, normFields_of_normal fields h.2]

end

end Value

/-- A value is normal, and has an object that can be written and read within a budget of levels and
that means the value. -/
structure Codec.Settles (c : Codec) (levels : Nat) (v : Value) : Prop where
  normal : v.Normal c.extensions.tags
  wellFormed : v.WellFormed
  stands : ∃ x, c.toObject v = .ok x ∧ x.Fits levels ∧ c.ofObject x = .ok v

/-- What the extensions of a codec make of data is settled. -/
def Codec.Settling (c : Codec) : Prop :=
  ∀ tag data v, data.length < 2 ^ 32 → c.extensions.unpack tag data = .ok v → c.Settles 3 v

end Courier

namespace Courier.Proofs.Codec

open Courier.MessagePack (Object itemsCost entriesCost WritableItems WritableEntries itemsParts
  entriesParts levelLimit)

variable {c : Codec} {levels : Nat}

/-! ### The two codecs -/

/-- The codec without extensions gives no tag a meaning. -/
theorem tags_bare : Codec.bare.extensions.tags = [] := rfl

/-- The standard codec gives one tag a meaning, that of timestamps. -/
theorem tags_standard : Codec.standard.extensions.tags = [Timestamp.tag] := rfl

/-- Without extensions data under any tag stay what they are, and so they settle. -/
theorem bare_settling : Codec.bare.Settling := by
  intro tag data v hlen h
  have hv : Value.ext tag data = v := Except.ok.inj h
  subst hv
  refine ⟨?_, trivial, .ext tag data, rfl, ⟨hlen, Nat.le_refl 3⟩, rfl⟩
  rw [Value.Normal, tags_bare]
  exact List.not_mem_nil

/-- Data under the tag of timestamps are a whole second, which is packed as it was. -/
theorem standard_settling : Codec.standard.Settling := by
  intro tag data v hlen h
  by_cases htag : tag = Timestamp.tag
  · -- data under the tag of timestamps is an instant, and a whole second
    subst htag
    rw [standard_unpack_timestamp] at h
    cases hdata : Timestamp.unpack data with
    | error e => rw [hdata] at h; cases h
    | ok t =>
      rw [hdata] at h
      have hv : Value.timestamp t = v := Except.ok.inj h
      subst hv
      have hwhole := Timestamp.nanos_of_unpack hdata
      refine ⟨?_, trivial, .ext Timestamp.tag (Timestamp.pack t), rfl, ⟨?_, Nat.le_refl 3⟩, ?_⟩
      · rw [Value.Normal, tags_standard]
        exact ⟨List.mem_singleton_self _, hwhole⟩
      · rw [Object.Writable, Timestamp.length_pack]
        decide
      · rw [Codec.ofObject, standard_unpack_timestamp, Timestamp.unpack_pack_whole hwhole]
        rfl
  · -- and data under any other tag is kept
    rw [standard_unpack_other data htag] at h
    have hv : Value.ext tag data = v := Except.ok.inj h
    subst hv
    refine ⟨?_, trivial, .ext tag data, rfl, ⟨hlen, Nat.le_refl 3⟩,
      standard_unpack_other data htag⟩
    rw [Value.Normal, tags_standard]
    exact fun hmem => htag (List.mem_singleton.mp hmem)

/-! ### Putting values together -/

/-- With more levels to spare a value settles all the more. -/
theorem settles_mono {fewer : Nat} {v : Value} (h : c.Settles fewer v) (hle : fewer ≤ levels) :
    c.Settles levels v := by
  obtain ⟨x, hobject, hfits, hmeans⟩ := h.stands
  exact ⟨h.normal, h.wellFormed, x, hobject, ⟨hfits.writable, Nat.le_trans hfits.cost hle⟩, hmeans⟩

/-- Settled items have objects that mean them. -/
theorem exists_items {vs : List Value} (h : ∀ v ∈ vs, c.Settles levels v) :
    ∃ xs, c.toItems vs = .ok xs ∧ xs.length = vs.length ∧ (∀ x ∈ xs, x.Fits levels) ∧
      c.ofItems xs = .ok vs := by
  induction vs with
  | nil => exact ⟨[], rfl, rfl, List.forall_mem_nil _, rfl⟩
  | cons v vs ih =>
    obtain ⟨hv, hvs⟩ := List.forall_mem_cons.mp h
    obtain ⟨x, hobject, hfits, hmeans⟩ := hv.stands
    obtain ⟨xs, hitems, hlen, hfit, hof⟩ := ih hvs
    refine ⟨x :: xs, ?_, ?_, List.forall_mem_cons.mpr ⟨hfits, hfit⟩, ?_⟩
    · rw [Codec.toItems, hobject, hitems]
    · rw [List.length_cons, List.length_cons, hlen]
    · rw [Codec.ofItems, hmeans, hof]

/-- Settled fields whose keys fit have entries that mean them. -/
theorem exists_entries {fields : List (String × Value)}
    (h : ∀ p ∈ fields, (Object.string (Bytes.ofString p.1)).Fits levels ∧ c.Settles levels p.2) :
    ∃ entries, c.toEntries fields = .ok entries ∧ entries.length = fields.length ∧
      (∀ entry ∈ entries, entry.1.Fits levels ∧ entry.2.Fits levels) ∧
      c.ofEntries entries = .ok fields := by
  induction fields with
  | nil => exact ⟨[], rfl, rfl, List.forall_mem_nil _, rfl⟩
  | cons p fields ih =>
    obtain ⟨key, v⟩ := p
    obtain ⟨⟨hkey, hv⟩, hfields⟩ := List.forall_mem_cons.mp h
    obtain ⟨x, hobject, hfits, hmeans⟩ := hv.stands
    obtain ⟨entries, hentries, hlen, hfit, hof⟩ := ih hfields
    have hkeyOf : Codec.keyOf (.string (Bytes.ofString key)) = .ok key := by
      rw [Codec.keyOf, Bytes.toString?_ofString]
    refine ⟨(.string (Bytes.ofString key), x) :: entries, ?_, ?_,
      List.forall_mem_cons.mpr ⟨⟨hkey, hfits⟩, hfit⟩, ?_⟩
    · rw [Codec.toEntries, hobject, hentries]
    · rw [List.length_cons, List.length_cons, hlen]
    · rw [Codec.ofEntries, hkeyOf, hmeans, hof]

/-- The items that settle are normal and well formed together. -/
theorem normal_items {vs : List Value} (h : ∀ v ∈ vs, c.Settles levels v) :
    Value.NormalItems c.extensions.tags vs ∧ Value.WellFormedItems vs :=
  ⟨Value.normalItems_iff.mpr fun v hv => (h v hv).normal,
    Value.wellFormedItems_iff.mpr fun v hv => (h v hv).wellFormed⟩

/-- So are the fields. -/
theorem normal_fields {fields : List (String × Value)} (h : ∀ p ∈ fields, c.Settles levels p.2) :
    Value.NormalFields c.extensions.tags fields ∧ Value.WellFormedFields fields :=
  ⟨Value.normalFields_iff.mpr fun p hp => (h p hp).normal,
    Value.wellFormedFields_iff.mpr fun p hp => (h p hp).wellFormed⟩

/-- An array of settled items is settled, at two levels more. -/
theorem settles_array {vs : List Value} (hlen : vs.length < 2 ^ 32)
    (h : ∀ v ∈ vs, c.Settles levels v) : c.Settles (levels + 2) (.array vs) := by
  obtain ⟨xs, hitems, hsame, hfit, hof⟩ := exists_items h
  obtain ⟨hwritable, hcost⟩ := MessagePack.items_fit hfit
  obtain ⟨hnormal, hform⟩ := normal_items h
  refine ⟨hnormal, hform, .array xs, ?_, ⟨⟨hsame ▸ hlen, hwritable⟩, ?_⟩, ?_⟩
  · rw [Codec.toObject, hitems]
  · rw [Object.cost]
    omega
  · rw [Codec.ofObject, hof]

/-- A map of settled fields in order is settled, at two levels more. -/
theorem settles_map {fields : List (String × Value)} (hsorted : Fields.Sorted fields)
    (hlen : fields.length < 2 ^ 32)
    (h : ∀ p ∈ fields, (Object.string (Bytes.ofString p.1)).Fits levels ∧ c.Settles levels p.2) :
    c.Settles (levels + 2) (.map fields) := by
  obtain ⟨entries, hentries, hsame, hfit, hof⟩ := exists_entries h
  obtain ⟨hwritable, hcost⟩ := MessagePack.entries_fit hfit
  obtain ⟨hnormal, hform⟩ := normal_fields fun p hp => (h p hp).2
  refine ⟨hnormal, ⟨hsorted, hform⟩, .map entries, ?_, ⟨⟨hsame ▸ hlen, hwritable⟩, ?_⟩, ?_⟩
  · rw [Codec.toObject, hentries]
  · rw [Object.cost]
    omega
  · rw [Codec.ofObject, hof]
    dsimp only
    -- fields in order stay as they are
    rw [Value.ofFields, Fields.ofList_of_sorted hsorted]

/-! ### What an object means -/

/-- An integer is signed if it fits, and the unsigned form is left for those that do not. -/
theorem settles_int {n : Int} {v : Value} (hlow : -2 ^ 63 ≤ n) (hhigh : n < 2 ^ 64)
    (hlevels : 1 ≤ levels) (h : c.ofObject (.int n) = .ok v) : c.Settles levels v := by
  have hfits : (Object.int n).Fits levels := ⟨⟨hlow, hhigh⟩, hlevels⟩
  -- in both cases the object that is decoded is the one that encoding makes again
  have hmeans := h
  rw [Codec.ofObject] at h
  split at h
  · have hv : Value.int (Int64.ofInt n) = v := Except.ok.inj h
    subst hv
    have hsame : (Int64.ofInt n).toInt = n := Int64.toInt_ofInt_of_le hlow (by omega)
    refine ⟨trivial, trivial, .int n, ?_, hfits, hmeans⟩
    rw [Codec.toObject, hsame]
  · have hv : Value.uint (UInt64.ofNat n.toNat) = v := Except.ok.inj h
    subst hv
    have hsame : (UInt64.ofNat n.toNat).toNat = n.toNat :=
      UInt64.toNat_ofNat_of_lt (by rw [UInt64.size]; omega)
    refine ⟨?_, trivial, .int n, ?_, hfits, hmeans⟩
    · rw [Value.Normal, hsame]
      omega
    · rw [Codec.toObject, hsame, Int.toNat_of_nonneg (by omega)]

/-- A text has the bytes that it is read from. -/
theorem settles_string {b : Bytes} {v : Value} (hx : (Object.string b).Fits levels)
    (h : c.ofObject (.string b) = .ok v) : c.Settles levels v := by
  have hmeans := h
  rw [Codec.ofObject] at h
  split at h
  · rename_i s hs
    have hv : Value.string s = v := Except.ok.inj h
    subst hv
    refine ⟨trivial, trivial, .string b, ?_, hx, hmeans⟩
    rw [Codec.toObject, Bytes.ofString_of_toString? hs]
  · cases h

/-- An object is a key only if it is a text, and the key has its bytes. -/
theorem string_of_keyOf {k : Object} {key : String} (h : Codec.keyOf k = .ok key) :
    k = .string (Bytes.ofString key) := by
  unfold Codec.keyOf at h
  split at h
  · rename_i b
    split at h
    · rename_i s hs
      rw [← Except.ok.inj h, Bytes.ofString_of_toString? hs]
    · cases h
  · cases h

mutual

/-- The meaning of an object that fits a budget of levels is settled within that budget. -/
theorem settles_of_ofObject (hc : c.Settling) (levels : Nat) (x : Object) (hx : x.Fits levels)
    (v : Value) (h : c.ofObject x = .ok v) : c.Settles levels v := by
  cases x with
  | nil =>
    have hv : Value.nil = v := Except.ok.inj h
    subst hv
    exact ⟨trivial, trivial, .nil, rfl, hx, rfl⟩
  | bool b =>
    have hv : Value.bool b = v := Except.ok.inj h
    subst hv
    exact ⟨trivial, trivial, .bool b, rfl, hx, rfl⟩
  | int n =>
    obtain ⟨hlow, hhigh⟩ := hx.writable
    exact settles_int hlow hhigh hx.cost h
  | float32 bits =>
    -- a single-precision number is double from now on
    have hv : Value.float (Binary64.ofBinary32 bits) = v := Except.ok.inj h
    subst hv
    exact ⟨trivial, trivial, .float64 (Binary64.ofBinary32 bits), rfl, ⟨trivial, hx.cost⟩, rfl⟩
  | float64 x =>
    have hv : Value.float x = v := Except.ok.inj h
    subst hv
    exact ⟨trivial, trivial, .float64 x, rfl, hx, rfl⟩
  | string b => exact settles_string hx h
  | binary b =>
    have hv : Value.binary b = v := Except.ok.inj h
    subst hv
    exact ⟨trivial, trivial, .binary b, rfl, hx, rfl⟩
  | ext tag data =>
    -- the table decides what the data is, and settles it
    exact settles_mono (hc tag data v hx.writable h) hx.cost
  | array items =>
    obtain ⟨⟨hlen, hwritable⟩, hcost⟩ := hx
    rw [Object.cost] at hcost
    -- the array itself takes two levels, and its items have the others
    obtain ⟨inner, rfl⟩ := Nat.exists_eq_add_of_le' (Nat.le_of_add_right_le hcost)
    rw [Codec.ofObject] at h
    split at h
    · rename_i vs hvs
      have hv : Value.array vs = v := Except.ok.inj h
      subst hv
      obtain ⟨hsame, hall⟩ :=
        settles_of_ofItems hc inner items hwritable (by omega) vs hvs
      exact settles_array (hsame ▸ hlen) hall
    · cases h
  | map entries =>
    obtain ⟨⟨hlen, hwritable⟩, hcost⟩ := hx
    rw [Object.cost] at hcost
    obtain ⟨inner, rfl⟩ := Nat.exists_eq_add_of_le' (Nat.le_of_add_right_le hcost)
    rw [Codec.ofObject] at h
    split at h
    · rename_i fields hfields
      have hv : Value.ofFields fields = v := Except.ok.inj h
      subst hv
      obtain ⟨hsame, hall⟩ :=
        settles_of_ofEntries hc inner entries hwritable (by omega) fields hfields
      -- bringing the fields into order keeps them few and makes no new ones
      refine settles_map (Fields.sorted_ofList fields) ?_ fun p hp =>
        hall p (Fields.mem_of_mem_ofList hp)
      have hle := Fields.length_ofList_le fields
      omega
    · cases h

/-- The meanings of items are as many as the items, and settled. -/
theorem settles_of_ofItems (hc : c.Settling) (levels : Nat) (xs : List Object)
    (hwritable : WritableItems xs) (hcost : itemsCost xs ≤ levels) (vs : List Value)
    (h : c.ofItems xs = .ok vs) : vs.length = xs.length ∧ ∀ v ∈ vs, c.Settles levels v := by
  cases xs with
  | nil =>
    have hvs : [] = vs := Except.ok.inj h
    subst hvs
    exact ⟨rfl, List.forall_mem_nil _⟩
  | cons x xs =>
    obtain ⟨hx, hxs⟩ := hwritable
    obtain ⟨hxcost, hxscost⟩ := Nat.max_le.mp hcost
    rw [Codec.ofItems] at h
    split at h
    · cases h
    rename_i v hv
    split at h
    · cases h
    rename_i rest hrest
    have hvs : v :: rest = vs := Except.ok.inj h
    subst hvs
    obtain ⟨hsame, hall⟩ := settles_of_ofItems hc levels xs hxs hxscost rest hrest
    have hfirst := settles_of_ofObject hc levels x ⟨hx, hxcost⟩ v hv
    exact ⟨by rw [List.length_cons, List.length_cons, hsame],
      List.forall_mem_cons.mpr ⟨hfirst, hall⟩⟩

/-- The fields of entries are as many as the entries, and their keys fit and their values are
settled. -/
theorem settles_of_ofEntries (hc : c.Settling) (levels : Nat) (entries : List (Object × Object))
    (hwritable : WritableEntries entries) (hcost : entriesCost entries ≤ levels)
    (fields : List (String × Value)) (h : c.ofEntries entries = .ok fields) :
    fields.length = entries.length ∧ ∀ p ∈ fields,
      (Object.string (Bytes.ofString p.1)).Fits levels ∧ c.Settles levels p.2 := by
  cases entries with
  | nil =>
    have hfields : [] = fields := Except.ok.inj h
    subst hfields
    exact ⟨rfl, List.forall_mem_nil _⟩
  | cons entry entries =>
    obtain ⟨k, x⟩ := entry
    obtain ⟨⟨hk, hx⟩, hentries⟩ := hwritable
    obtain ⟨hfirst, hothers⟩ := Nat.max_le.mp hcost
    obtain ⟨hkcost, hxcost⟩ := Nat.max_le.mp hfirst
    rw [Codec.ofEntries] at h
    split at h
    · cases h
    rename_i key hkey
    split at h
    · cases h
    rename_i v hv
    split at h
    · cases h
    rename_i rest hrest
    have hfields : (key, v) :: rest = fields := Except.ok.inj h
    subst hfields
    -- the recursion is mutual with the one over objects, as in the codec
    obtain ⟨hsame, hall⟩ := settles_of_ofEntries hc levels entries hentries hothers rest hrest
    have hvalue := settles_of_ofObject hc levels x ⟨hx, hxcost⟩ v hv
    have hfits : (Object.string (Bytes.ofString key)).Fits levels :=
      string_of_keyOf hkey ▸ ⟨hk, hkcost⟩
    exact ⟨by rw [List.length_cons, List.length_cons, hsame],
      List.forall_mem_cons.mpr ⟨⟨hfits, hvalue⟩, hall⟩⟩

end

/-! ### What the parts of an object mean -/

mutual

/-- If an object has a meaning, so has everything inside it. -/
theorem exists_of_mem_parts (x : Object) (v : Value) (h : c.ofObject x = .ok v) (y : Object)
    (hy : y ∈ x.parts) : ∃ w, c.ofObject y = .ok w := by
  -- only arrays and maps have other parts than themselves
  cases x with
  | array items =>
    have hitems := h
    rw [Codec.ofObject] at hitems
    split at hitems
    · rename_i vs hvs
      rw [Object.parts] at hy
      rcases List.mem_cons.mp hy with rfl | hy
      · exact ⟨v, h⟩
      · exact exists_of_mem_itemsParts items vs hvs y hy
    · cases hitems
  | map entries =>
    have hentries := h
    rw [Codec.ofObject] at hentries
    split at hentries
    · rename_i fields hfields
      rw [Object.parts] at hy
      rcases List.mem_cons.mp hy with rfl | hy
      · exact ⟨v, h⟩
      · exact exists_of_mem_entriesParts entries fields hfields y hy
    · cases hentries
  | _ => exact ⟨v, List.mem_singleton.mp hy ▸ h⟩

/-- What stands anywhere in the items of a list is read, too. -/
theorem exists_of_mem_itemsParts (xs : List Object) (vs : List Value) (h : c.ofItems xs = .ok vs)
    (y : Object) (hy : y ∈ itemsParts xs) : ∃ w, c.ofObject y = .ok w := by
  cases xs with
  | nil => exact absurd hy List.not_mem_nil
  | cons x xs =>
    rw [Codec.ofItems] at h
    split at h
    · cases h
    rename_i v hv
    split at h
    · cases h
    rename_i rest hrest
    rw [itemsParts] at hy
    rcases List.mem_append.mp hy with hy | hy
    · exact exists_of_mem_parts x v hv y hy
    · exact exists_of_mem_itemsParts xs rest hrest y hy

/-- So is what stands in the entries of a map. -/
theorem exists_of_mem_entriesParts (entries : List (Object × Object))
    (fields : List (String × Value)) (h : c.ofEntries entries = .ok fields) (y : Object)
    (hy : y ∈ entriesParts entries) : ∃ w, c.ofObject y = .ok w := by
  cases entries with
  | nil => exact absurd hy List.not_mem_nil
  | cons entry entries =>
    obtain ⟨k, x⟩ := entry
    rw [Codec.ofEntries] at h
    split at h
    · cases h
    rename_i key hkey
    split at h
    · cases h
    rename_i v hv
    split at h
    · cases h
    rename_i rest hrest
    rw [entriesParts] at hy
    rcases List.mem_append.mp hy with hy | hy
    · -- a key is a text, and has nothing inside it but itself
      rw [string_of_keyOf hkey] at hy
      refine ⟨.string key, ?_⟩
      rw [List.mem_singleton.mp hy, Codec.ofObject, Bytes.toString?_ofString]
    rcases List.mem_append.mp hy with hy | hy
    · exact exists_of_mem_parts x v hv y hy
    · exact exists_of_mem_entriesParts entries rest hrest y hy

end

/-- A map that has a meaning gives each key the last value that it has under it. -/
theorem get?_of_ofObject {entries : List (Object × Object)} {w : Value}
    (h : c.ofObject (.map entries) = .ok w) :
    ∃ fields, c.ofEntries entries = .ok fields ∧
      ∀ key, w.get? key = Fields.get? fields.reverse key := by
  rw [Codec.ofObject] at h
  split at h
  · rename_i fields hfields
    have hw : Value.ofFields fields = w := Except.ok.inj h
    subst hw
    exact ⟨fields, hfields, Fields.get?_ofList fields⟩
  · cases h

/-! ### Documents -/

/-- A document is one object and nothing after it. -/
theorem exists_of_decode {b : Bytes} {v : Value} (h : c.decode b = .ok v) :
    ∃ x, Object.read levelLimit b = .ok (x, []) ∧ c.ofObject x = .ok v := by
  unfold Codec.decode at h
  split at h
  · cases h
  · rename_i x hx
    exact ⟨x, hx, h⟩
  · cases h

/-- A settled value has a document, and decoding the document gives the value. -/
theorem exists_document {v : Value} (h : c.Settles levelLimit v) :
    ∃ d, c.encode v = .ok d ∧ c.decode d = .ok v := by
  obtain ⟨x, hobject, hfits, hmeans⟩ := h.stands
  have hread := MessagePack.read_bytes x hfits.writable levelLimit []
  rw [List.append_nil, if_pos hfits.cost] at hread
  refine ⟨x.bytes, ?_, ?_⟩
  · rw [Codec.encode, hobject]
  · rw [Codec.decode, hread]
    exact hmeans

/-- What is decoded is normal, and has a document that decodes to it and is its own: encoding
what that one decodes to gives it again. In every map of a document that is decoded, however deep,
the last value of a key counts. -/
theorem decode_settles {b : Bytes} {v : Value} (hc : c = .standard ∨ c = .bare)
    (h : c.decode b = .ok v) :
    v.Normal c.extensions.tags ∧ v.WellFormed ∧
    (∃ d, c.encode v = .ok d ∧ c.decode d = .ok v ∧ (c.decode d).bind c.encode = .ok d) ∧
    ∃ x, Object.read levelLimit b = .ok (x, []) ∧ ∀ entries, .map entries ∈ x.parts →
      ∃ fields w, c.ofEntries entries = .ok fields ∧ c.ofObject (.map entries) = .ok w ∧
        ∀ key, w.get? key = Fields.get? fields.reverse key := by
  have hsettling : c.Settling := by
    rcases hc with rfl | rfl
    · exact standard_settling
    · exact bare_settling
  obtain ⟨x, hread, hmeans⟩ := exists_of_decode h
  have hsettles := settles_of_ofObject hsettling levelLimit x (MessagePack.fits_of_read hread) v
    hmeans
  obtain ⟨d, hencode, hdecode⟩ := exists_document hsettles
  refine ⟨hsettles.normal, hsettles.wellFormed, ⟨d, hencode, hdecode, ?_⟩, x, hread, ?_⟩
  · rw [hdecode]
    exact hencode
  · intro entries hentries
    obtain ⟨w, hw⟩ := exists_of_mem_parts x v hmeans _ hentries
    obtain ⟨fields, hfields, hlast⟩ := get?_of_ofObject hw
    exact ⟨fields, w, hfields, hw, hlast⟩

/-- A document in a form that encoding never gives: lengths and integers are wider than they need
to be, a number is in single precision, the instant has a nanosecond and a byte after it, and the
key `b`, which stands first, comes again. -/
def wasteful : Bytes :=
  [0xde, 0, 3] ++
    [0xd9, 1, 0x62] ++ [0xcf, 0, 0, 0, 0, 0, 0, 0, 5] ++
    [0xd9, 1, 0x61] ++ [0xdd, 0, 0, 0, 3] ++
      [0xca, 0x3f, 0xc0, 0, 0] ++
      [0xd3, 0xff, 0xff, 0xff, 0xff, 0xff, 0xff, 0xff, 0xff] ++
      [0xcf, 0xff, 0xff, 0xff, 0xff, 0xff, 0xff, 0xff, 0xff] ++
    [0xa1, 0x62] ++ [0xc7, 13, 5] ++ [0, 0, 0, 0, 0x5f, 0x5e, 0x10, 0, 0, 0, 0, 1, 0xff]

/-- The document that encoding makes of the same value. -/
def thrifty : Bytes :=
  [0x82] ++
    [0xa1, 0x61] ++ [0x93] ++
      [0xcb, 0x3f, 0xf8, 0, 0, 0, 0, 0, 0] ++
      [0xff] ++
      [0xcf, 0xff, 0xff, 0xff, 0xff, 0xff, 0xff, 0xff, 0xff] ++
    [0xa1, 0x62] ++ [0xc7, 12, 5] ++ [0, 0, 0, 0, 0x5f, 0x5e, 0x10, 0, 0, 0, 0, 0]

/-- The value of both. -/
def settled : Value := .map
  [("a", .array [.float ⟨0x3ff8000000000000⟩, .int (-1), .uint 18446744073709551615]),
    ("b", .timestamp ⟨1600000000, 0, by decide, by decide, Instant.whole_lt⟩)]

/-- The wasteful document decodes to the value, and the value goes to the thrifty document and
back. -/
theorem decode_settles_wasteful :
    Codec.standard.decode wasteful = .ok settled ∧
    settled.Normal [Timestamp.tag] ∧ settled.WellFormed ∧
    Codec.standard.encode settled = .ok thrifty ∧ Codec.standard.decode thrifty = .ok settled := by
  have hdecode : Codec.standard.decode wasteful = .ok settled := by cbv
  have hencode : Codec.standard.encode settled = .ok thrifty := rfl
  obtain ⟨hnormal, hform, ⟨d, hd, hback, -⟩, -⟩ := decode_settles (.inl rfl) hdecode
  rw [tags_standard] at hnormal
  have hthrifty : thrifty = d := Except.ok.inj (hencode.symm.trans hd)
  exact ⟨hdecode, hnormal, hform, hencode, hthrifty ▸ hback⟩

end Courier.Proofs.Codec
