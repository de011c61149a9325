import Courier.Timestamp

/-!
# `Courier.Extension`: extension types and their table

An extension gives meaning to the data under one tag: it unpacks the data into a value, and
packs the values that it handles. A table holds one extension per tag in ascending order of the
tags. Packing asks the extensions in that order, and the first that handles the value decides;
unpacking asks the extension of the tag, and data under an unknown tag is kept as it is.
-/

set_option autoImplicit false

namespace Courier

/-- The meaning of the data under one tag. -/
structure Extension where
  tag : Int8
  /-- The name that diagnostics show. -/
  name : String
  /-- The data for a value, or nothing for a value that the extension does not handle. -/
  pack : Value → Option (Except WireError Bytes)
  /-- The value that data under the tag stands for. -/
  unpack : Bytes → Except WireError Value

/-- The extension for timestamps. -/
def Extension.timestamp : Extension where
  tag := Timestamp.tag
  name := "timestamp"
  pack
    | .timestamp t => some (.ok (Timestamp.pack t))
    | _ => none
  unpack data := (Timestamp.unpack data).map .timestamp

/-- Extensions in ascending order of their tags, one per tag. -/
structure ExtensionTable where
  entries : List Extension
  ascending : entries.Pairwise fun a b => a.tag.toInt < b.tag.toInt

namespace ExtensionTable

/-- The table without extensions. -/
def empty : ExtensionTable := ⟨[], .nil⟩

/-- Puts an extension into its place, over one with the same tag. -/
def place (e : Extension) : List Extension → List Extension
  | [] => [e]
  | f :: rest =>
    if e.tag.toInt < f.tag.toInt then e :: f :: rest
    else if f.tag.toInt < e.tag.toInt then f :: place e rest
    else e :: rest

/-- Only the placed extension is new. -/
theorem mem_place {e x : Extension} {entries : List Extension} (h : x ∈ place e entries) :
    x = e ∨ x ∈ entries := by
  induction entries with
  | nil => simpa [place] using h
  | cons f rest ih => grind [place]

/-- Placing keeps the order. -/
theorem place_ascending {e : Extension} {entries : List Extension}
    (h : entries.Pairwise fun a b => a.tag.toInt < b.tag.toInt) :
    (place e entries).Pairwise fun a b => a.tag.toInt < b.tag.toInt := by
  induction entries with
  | nil => simp [place]
  | cons f rest ih =>
    obtain ⟨hf, hrest⟩ := List.pairwise_cons.mp h
    unfold place
    split
    · rename_i hlt
      exact List.pairwise_cons.mpr ⟨fun x hx => by grind, h⟩
    · split
      · refine List.pairwise_cons.mpr ⟨fun x hx => ?_, ih hrest⟩
        rcases mem_place hx with rfl | hx
        · assumption
        · exact hf x hx
      · exact List.pairwise_cons.mpr ⟨fun x hx => by grind, hrest⟩

/-- The table with one more extension, which replaces one with the same tag. -/
def register (t : ExtensionTable) (e : Extension) : ExtensionTable :=
  ⟨place e t.entries, place_ascending t.ascending⟩

/-- The extension of a tag. -/
def get? (t : ExtensionTable) (tag : Int8) : Option Extension :=
  t.entries.find? fun e => e.tag = tag

/-- The tags in ascending order. -/
def tags (t : ExtensionTable) : List Int8 := t.entries.map (·.tag)

/-- The number of extensions. -/
def size (t : ExtensionTable) : Nat := t.entries.length

/-- The tag and data that the first extension to handle a value gives it. -/
def pack (t : ExtensionTable) (v : Value) : Option (Except WireError (Int8 × Bytes)) :=
  t.entries.findSome? fun e => (e.pack v).map fun r => r.map fun data => (e.tag, data)

/-- The value of the data under a tag. -/
def unpack (t : ExtensionTable) (tag : Int8) (data : Bytes) : Except WireError Value :=
  match t.get? tag with
  | some e => e.unpack data
  | none => .ok (.ext tag data)

/-- The tags and names of the table, for diagnostics. -/
def describe (t : ExtensionTable) : String :=
  "\x7b" ++ String.intercalate ", "
    (t.entries.map fun e => toString e.tag.toInt ++ ": " ++ Text.quoted e.name) ++ "\x7d"

end ExtensionTable

end Courier
