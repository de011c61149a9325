import Courier.Proofs.Codec.RoundTrip
import Courier.Proofs.Extension
import Courier.Proofs.Fields

/-!
# `Courier.Proofs.Codec.Routing`: each part of a value travels by itself

A codec can have any table of extensions: one that packs timestamps under another tag, one that
takes the place of the usual extension, one that unpacks its data into something else. What a value
becomes on its way through such a codec is said part by part. A `Path` leads from a value to a part
of it, by the numbers of items and the keys of fields, and `Value.at?` follows it.

If a value has been written and read again, whatever stands at a path has been written and read
there by itself (`exists_at?`). This is by induction on the path, with one step for arrays and one
for maps. The fields of a map keep their order, because they are sorted when they are written and
only the values change.

`Codec.extensions_routed` adds what becomes of a timestamp, and of data under a tag that nobody
knows.
-/

set_option autoImplicit false

namespace Courier

/-! ### The parts of a value -/

/-- A step into a value. -/
inductive Step where
  | item (i : Nat)
  | field (key : String)
deriving DecidableEq

/-- The way from a value to a part of it. -/
abbrev Path := List Step

/-- The part of a value at the end of a path. -/
def Value.at? : Value → Path → Option Value
  | v, [] => some v
  | .array items, .item i :: path => items[i]?.bind (at? · path)
  | .map fields, .field key :: path => (Fields.get? fields key).bind (at? · path)
  | _, _ :: _ => none

/-- A path leads on from an array by the number of an item, and from a map by a key, and from
nothing else. -/
theorem Value.at?_cons_eq_some {v u : Value} {step : Step} {path : Path}
    (h : v.at? (step :: path) = some u) :
    (∃ items i part, v = .array items ∧ step = .item i ∧ items[i]? = some part ∧
      part.at? path = some u) ∨
    ∃ fields key part, v = .map fields ∧ step = .field key ∧
      Fields.get? fields key = some part ∧ part.at? path = some u := by
  unfold at? at h
  split at h
  · rename_i hnil
    cases hnil
  · rename_i items i rest hcons
    obtain ⟨rfl, rfl⟩ := List.cons.inj hcons
    obtain ⟨part, hpart, hrest⟩ := Option.bind_eq_some_iff.mp h
    exact .inl ⟨items, i, part, rfl, rfl, hpart, hrest⟩
  · rename_i fields key rest hcons
    obtain ⟨rfl, rfl⟩ := List.cons.inj hcons
    obtain ⟨part, hpart, hrest⟩ := Option.bind_eq_some_iff.mp h
    exact .inr ⟨fields, key, part, rfl, rfl, hpart, hrest⟩
  · cases h

namespace Codec

open Courier.MessagePack (Object levelLimit)

section
variable {c : Codec}

/-! ### One step -/

/-- An item is written by itself. -/
theorem exists_getElem?_of_toItems {vs : List Value} {xs : List Object}
    (h : c.toItems vs = .ok xs) {i : Nat} {v : Value} (hv : vs[i]? = some v) :
    ∃ x, xs[i]? = some x ∧ c.toObject v = .ok x := by
  induction vs generalizing xs i with
  | nil => cases hv
  | cons u us ih =>
    rw [toItems] at h
    split at h
    · cases h
    rename_i x hx
    split at h
    · cases h
    rename_i rest hrest
    cases h
    cases i with
    | zero =>
      cases hv
      exact ⟨x, rfl, hx⟩
    | succ i => exact ih hrest hv

/-- An item is read by itself. -/
theorem exists_getElem?_of_ofItems {xs : List Object} {ws : List Value}
    (h : c.ofItems xs = .ok ws) {i : Nat} {x : Object} (hx : xs[i]? = some x) :
    ∃ w, ws[i]? = some w ∧ c.ofObject x = .ok w := by
  induction xs generalizing ws i with
  | nil => cases hx
  | cons y ys ih =>
    rw [ofItems] at h
    split at h
    · cases h
    rename_i w hw
    split at h
    · cases h
    rename_i rest hrest
    cases h
    cases i with
    | zero =>
      cases hx
      exact ⟨w, rfl, hw⟩
    | succ i => exact ih hrest hx

/-- The value of a field is written and read by itself, under the same key. -/
theorem exists_get?_of_entries {fields : List (String × Value)} {entries : List (Object × Object)}
    {read : List (String × Value)} (hto : c.toEntries fields = .ok entries)
    (hof : c.ofEntries entries = .ok read) :
    read.map Prod.fst = fields.map Prod.fst ∧
      ∀ key v, Fields.get? fields key = some v →
        ∃ x w, c.toObject v = .ok x ∧ c.ofObject x = .ok w ∧ Fields.get? read key = some w := by
  induction fields generalizing entries read with
  | nil =>
    cases hto
    cases hof
    exact ⟨rfl, nofun⟩
  | cons field rest ih =>
    obtain ⟨name, u⟩ := field
    -- writing goes on only if both the value and the rest have been written
    rw [toEntries] at hto
    split at hto
    · cases hto
    rename_i x hx
    split at hto
    · cases hto
    rename_i xs hxs
    cases hto
    have hname : keyOf (.string (Bytes.ofString name)) = .ok name := by
      rw [keyOf, Bytes.toString?_ofString]
    -- and the same holds of reading
    rw [ofEntries, hname] at hof
    dsimp only at hof
    split at hof
    · cases hof
    rename_i w hw
    split at hof
    · cases hof
    rename_i ws hws
    cases hof
    obtain ⟨hkeys, hvalues⟩ := ih hxs hws
    refine ⟨by rw [List.map_cons, List.map_cons, hkeys], fun key v hv => ?_⟩
    rw [Fields.get?_cons] at hv
    by_cases hkey : name = key
    · rw [if_pos hkey] at hv
      cases hv
      exact ⟨x, w, hx, hw, by rw [Fields.get?_cons, if_pos hkey]⟩
    · rw [if_neg hkey] at hv
      obtain ⟨y, z, hy, hz, hfound⟩ := hvalues key v hv
      exact ⟨y, z, hy, hz, by rw [Fields.get?_cons, if_neg hkey, hfound]⟩

/-- Whether fields are sorted depends on their keys. -/
theorem sorted_of_map_fst {fields read : List (String × Value)}
    (hkeys : read.map Prod.fst = fields.map Prod.fst) (h : Fields.Sorted fields) :
    Fields.Sorted read := by
  have hnames : (fields.map Prod.fst).Pairwise (· < ·) := List.pairwise_map.mpr h
  rw [← hkeys] at hnames
  exact List.pairwise_map.mp hnames

/-! ### Any number of steps -/

/-- Whatever stands at a path of a value is written by itself, and what is read of that stands at
the same path of what is read. -/
theorem exists_at? {v w u : Value} {x : Object} (hform : v.WellFormed)
    (hto : c.toObject v = .ok x) (hof : c.ofObject x = .ok w) (path : Path)
    (hu : v.at? path = some u) :
    ∃ y z, c.toObject u = .ok y ∧ c.ofObject y = .ok z ∧ w.at? path = some z := by
  induction path generalizing v w x with
  | nil =>
    obtain rfl : v = u := by simpa [Value.at?] using hu
    exact ⟨x, w, hto, hof, by simp [Value.at?]⟩
  | cons step path ih =>
    rcases Value.at?_cons_eq_some hu with
      ⟨items, i, part, rfl, rfl, hpart, hrest⟩ | ⟨fields, key, part, rfl, rfl, hpart, hrest⟩
    · rw [toObject] at hto
      split at hto
      · rename_i xs hxs
        cases hto
        rw [ofObject] at hof
        split at hof
        · rename_i ws hws
          cases hof
          obtain ⟨y, hy, hwritten⟩ := exists_getElem?_of_toItems hxs hpart
          obtain ⟨z, hz, hread⟩ := exists_getElem?_of_ofItems hws hy
          have hinner : part.WellFormed :=
            Value.wellFormedItems_iff.mp hform part (List.mem_of_getElem? hpart)
          obtain ⟨y', z', hy', hz', hplace⟩ := ih hinner hwritten hread hrest
          refine ⟨y', z', hy', hz', ?_⟩
          rw [Value.at?, hz]
          exact hplace
        · cases hof
      · cases hto
    · obtain ⟨hsorted, hfields⟩ := hform
      rw [toObject] at hto
      split at hto
      · rename_i entries hentries
        cases hto
        rw [ofObject] at hof
        split at hof
        · rename_i read hread
          cases hof
          obtain ⟨hkeys, hvalues⟩ := exists_get?_of_entries hentries hread
          obtain ⟨y, z, hy, hz, hfound⟩ := hvalues key part hpart
          have hinner : part.WellFormed :=
            Value.wellFormedFields_iff.mp hfields _ (Fields.mem_of_get? hpart)
          obtain ⟨y', z', hy', hz', hplace⟩ := ih hinner hy hz hrest
          refine ⟨y', z', hy', hz', ?_⟩
          -- the fields that are read are in order, so they stay as they are
          rw [Value.ofFields, Fields.ofList_of_sorted (sorted_of_map_fst hkeys hsorted),
            Value.at?, hfound]
          exact hplace
        · cases hof
      · cases hto

/-! ### Timestamps and unknown data -/

/-- What has become of a timestamp: the extension that answers for it has packed it, and the same
extension has unpacked that. -/
theorem exists_of_timestamp {t : Instant} {x : Object} {w : Value}
    (hto : c.toObject (.timestamp t) = .ok x) (hof : c.ofObject x = .ok w) :
    ∃ e data, c.extensions.Answers (.timestamp t) e (.ok data) ∧ e.unpack data = .ok w := by
  rw [toObject] at hto
  split at hto
  · rename_i tag data hpack
    cases hto
    obtain ⟨e, answer, hanswers, hpacked⟩ := ExtensionTable.pack_eq_some_iff.mp hpack
    cases answer with
    | error cause => cases hpacked
    | ok packed =>
      cases hpacked
      rw [ofObject, ExtensionTable.unpack, hanswers.registered] at hof
      exact ⟨e, data, hanswers, hof⟩
  · cases hto
  · cases hto

/-- Data under a tag that nobody knows stays as it is. -/
theorem eq_of_unknown {tag : Int8} {data : Bytes} {x : Object} {w : Value}
    (hunknown : c.extensions.get? tag = none) (hto : c.toObject (.ext tag data) = .ok x)
    (hof : c.ofObject x = .ok w) : w = .ext tag data := by
  cases hto
  rw [ofObject, ExtensionTable.unpack, hunknown] at hof
  exact (Except.ok.inj hof).symm

/-- What is decoded of the bytes of an object that the format has a form for is its meaning. -/
theorem ofObject_of_decode {v w : Value} {b : Bytes}
    (hfits : ∀ x, c.toObject v = .ok x → x.Writable) (hencode : c.encode v = .ok b)
    (hdecode : c.decode b = .ok w) : ∃ x, c.toObject v = .ok x ∧ c.ofObject x = .ok w := by
  unfold encode at hencode
  split at hencode
  · rename_i x hx
    cases hencode
    have hread := Proofs.MessagePack.read_bytes x (hfits x hx) levelLimit []
    rw [List.append_nil] at hread
    rw [decode, hread] at hdecode
    refine ⟨x, hx, ?_⟩
    by_cases hcost : x.cost ≤ levelLimit
    · rw [if_pos hcost] at hdecode
      exact hdecode
    · rw [if_neg hcost] at hdecode
      cases hdecode
  · cases hencode

end

open ExtensionTable (registered Answers)

/-- What becomes of extensions that are registered, in any order and with any tags.

* The tags of the table are those that have been registered, in ascending order, and its size is
  their number. Each has the extension that was registered for it last.
* A value is packed by the extension with the least tag that handles it, whatever its answer is, and
  under that tag. It is packed by nobody if no extension handles it.
* A codec with this table takes a value apart. If the value is encoded and its bytes are decoded,
  there stands in the place of each timestamp what the extension that packed it unpacks of what it
  packed, and data under a tag that is not registered stands where it was.

For the last point the object of the value has to be one that the format has a form for: a length is
written with 32 bits, and would be read as another one if it needed more. -/
theorem extensions_routed (es : List Extension) :
    ((registered es).tags.Pairwise (fun a b => a.toInt < b.toInt) ∧
      ∀ tag, tag ∈ (registered es).tags ↔ tag ∈ es.map (·.tag)) ∧
    (registered es).size = (es.map (·.tag)).toFinset.card ∧
    (∀ tag, (registered es).get? tag = es.reverse.find? fun e => e.tag = tag) ∧
    (∀ v, (registered es).pack v = none ↔
      ∀ e, (registered es).get? e.tag = some e → e.pack v = none) ∧
    (∀ v packed, (registered es).pack v = some packed ↔ ∃ e answer,
      (registered es).Answers v e answer ∧ packed = answer.map fun data => (e.tag, data)) ∧
    ∀ v b w, v.WellFormed →
      (∀ x, toObject ⟨registered es⟩ v = .ok x → x.Writable) →
      encode ⟨registered es⟩ v = .ok b → decode ⟨registered es⟩ b = .ok w → ∀ path,
        (∀ t, v.at? path = some (.timestamp t) → ∃ e data u,
          (registered es).Answers (.timestamp t) e (.ok data) ∧ e.unpack data = .ok u ∧
          w.at? path = some u) ∧
        ∀ tag data, v.at? path = some (.ext tag data) → (registered es).get? tag = none →
          w.at? path = some (.ext tag data) := by
  refine ⟨⟨ExtensionTable.tags_ascending _, ExtensionTable.mem_tags_registered es⟩,
    ExtensionTable.size_registered es, ExtensionTable.get?_registered es,
    fun v => ExtensionTable.pack_eq_none_iff, fun v packed => ExtensionTable.pack_eq_some_iff,
    fun v b w hform hfits hencode hdecode path => ?_⟩
  -- the object that was written is the one that is read, so both points follow a path into it
  obtain ⟨x, hto, hof⟩ := ofObject_of_decode hfits hencode hdecode
  refine ⟨fun t hpart => ?_, fun tag data hpart hunknown => ?_⟩
  · obtain ⟨y, u, hy, hu, hplace⟩ := exists_at? hform hto hof path hpart
    obtain ⟨e, data, hanswers, hunpacked⟩ := exists_of_timestamp hy hu
    exact ⟨e, data, u, hanswers, hunpacked, hplace⟩
  · obtain ⟨y, u, hy, hu, hplace⟩ := exists_at? hform hto hof path hpart
    rw [hplace, eq_of_unknown hunknown hy hu]

/-- An extension that handles instants under a tag below the usual one, and is vague about them. -/
def vague : Extension where
  tag := -1
  name := "vague"
  pack
    | .timestamp _ => some (.ok [7])
    | _ => none
  unpack _ := .ok (.string "then")

/-- An extension that takes the place of the usual one for timestamps, and packs nothing. -/
def idle : Extension where
  tag := Timestamp.tag
  name := "idle"
  pack _ := none
  unpack data := .ok (.binary data)

/-- A value with an instant in an array, and with data that nobody knows. -/
def note : Value :=
  .map [("at", .array [.timestamp ⟨1712345678, 250000000, by decide, by decide, by decide⟩]),
    ("raw", .ext 9 [1, 2])]

/-- The object that stands for the value once an instant is packed vaguely. -/
def noteObject : Object :=
  .map [(.string (Bytes.ofString "at"), .array [.ext (-1) [7]]),
    (.string (Bytes.ofString "raw"), .ext 9 [1, 2])]

/-- The notes are short enough to be written. -/
theorem noteObject_writable : noteObject.Writable := by
  unfold noteObject
  simp only [Object.Writable, MessagePack.WritableItems, MessagePack.WritableEntries]
  decide

/-- Their value has its keys in order. -/
theorem note_wellFormed : note.WellFormed := by
  unfold note
  simp only [Value.WellFormed, Value.WellFormedFields, Value.WellFormedItems, Fields.Sorted]
  decide

/-- An instant comes back as the extension below has it, which took it from the usual one, and from
the one that took the place of that. -/
theorem extensions_routed_vague :
    (registered [.timestamp, vague, idle]).size = 2 ∧
    ∃ b w, encode ⟨registered [.timestamp, vague, idle]⟩ note = .ok b ∧
      decode ⟨registered [.timestamp, vague, idle]⟩ b = .ok w ∧
      w.at? [.field "at", .item 0] = some (.string "then") ∧
      w.at? [.field "raw"] = some (.ext 9 [1, 2]) := by
  obtain ⟨-, hsize, -, -, -, htravel⟩ := extensions_routed [.timestamp, vague, idle]
  have hto : toObject ⟨registered [.timestamp, vague, idle]⟩ note = .ok noteObject := by rfl
  have hencode : encode ⟨registered [.timestamp, vague, idle]⟩ note = .ok noteObject.bytes := by
    rw [encode, hto]
  obtain ⟨w, hdecode⟩ : ∃ w,
      decode ⟨registered [.timestamp, vague, idle]⟩ noteObject.bytes = .ok w := ⟨_, by cbv⟩
  have hparts := htravel note noteObject.bytes w note_wellFormed
    (fun x hx => Except.ok.inj (hto.symm.trans hx) ▸ noteObject_writable) hencode hdecode
  refine ⟨hsize, noteObject.bytes, w, hencode, hdecode, ?_, ?_⟩
  · obtain ⟨e, data, u, hanswers, hunpacked, hplace⟩ :=
      (hparts [.field "at", .item 0]).1 _ rfl
    have hmem : e ∈ [vague, idle] := ExtensionTable.get?_tag_eq_some_iff.mp hanswers.registered
    rcases List.mem_cons.mp hmem with rfl | hmem
    · cases hunpacked
      exact hplace
    · -- the other one would have to pack something
      obtain rfl := List.mem_singleton.mp hmem
      have hhandles := hanswers.handles
      cases hhandles
  · exact (hparts [.field "raw"]).2 9 [1, 2] rfl rfl

end Codec

end Courier
