import Courier.Extension
import Mathlib

/-!
# `Courier.Proofs.Extension`: what a table says after some registrations

A table is built by registering extensions one after another, with any tags, repeated ones too. Its
entries are kept in ascending order of the tags, and that is all that `register` has to look at.
Seen from outside, a registration changes what the table says about one tag (`get?_register`). So
after any sequence of registrations each tag has the extension that was registered for it last
(`get?_registered`).

Packing asks the entries in order. As the order is that of the tags, the one that answers is the
extension with the least tag that handles the value (`ExtensionTable.Answers`, `pack_eq_some_iff`).
Its answer counts even if it is an error, and what it has packed is put under its own tag, which is
a tag that leads back to it.
-/

set_option autoImplicit false

namespace Courier.ExtensionTable

/-- The table after some extensions have been registered, the first one first. -/
def registered (es : List Extension) : ExtensionTable := es.foldl register empty

section
variable {t : ExtensionTable} {e : Extension} {v : Value}

/-! ### One registration -/

/-- Placing an extension changes what is found under its tag. -/
theorem find?_place (e : Extension) (entries : List Extension) (tag : Int8) :
    (place e entries).find? (fun f => f.tag = tag) =
      if e.tag = tag then some e else entries.find? fun f => f.tag = tag := by
  induction entries with
  | nil => by_cases htag : e.tag = tag <;> simp [place, htag]
  | cons f rest ih =>
    unfold place
    split
    · by_cases htag : e.tag = tag <;> simp [htag]
    · rename_i hnotless
      split
      · -- `e` comes behind `f`, so its tag is another one
        rename_i hless
        rw [List.find?_cons, List.find?_cons, ih]
        by_cases hf : f.tag = tag
        · have he : e.tag ≠ tag := by
            rintro rfl
            rw [hf] at hless
            omega
          simp [hf, he]
        · simp [hf]
      · -- `e` takes the place of `f`, which has the same tag
        rename_i hnotgreater
        have hsame : f.tag = e.tag := Int8.toInt_inj.mp (by omega)
        by_cases htag : e.tag = tag <;> simp [hsame, htag]

/-- A registration changes what the table says about one tag. -/
theorem get?_register (t : ExtensionTable) (e : Extension) (tag : Int8) :
    (t.register e).get? tag = if e.tag = tag then some e else t.get? tag :=
  find?_place e t.entries tag

/-! ### Any number of registrations -/

/-- Of several registrations under a tag the last one counts, and without one the table does. -/
theorem get?_foldl_register (t : ExtensionTable) (es : List Extension) (tag : Int8) :
    (es.foldl register t).get? tag =
      (es.reverse.find? fun e => e.tag = tag).or (t.get? tag) := by
  induction es generalizing t with
  | nil => rfl
  | cons e es ih =>
    rw [List.foldl_cons, ih, get?_register, List.reverse_cons, List.find?_append, Option.or_assoc]
    by_cases htag : e.tag = tag <;> simp [htag]

/-- Each tag has the extension that was registered for it last. -/
theorem get?_registered (es : List Extension) (tag : Int8) :
    (registered es).get? tag = es.reverse.find? fun e => e.tag = tag := by
  rw [registered, get?_foldl_register]
  exact Option.or_none

/-! ### The entries -/

/-- An extension stands under its own tag. -/
theorem tag_of_get? {tag : Int8} (h : t.get? tag = some e) : e.tag = tag := by
  simpa using List.find?_some h

/-- The tags ascend, so that each occurs once. -/
theorem tags_ascending (t : ExtensionTable) :
    t.tags.Pairwise fun a b => a.toInt < b.toInt :=
  List.pairwise_map.mpr t.ascending

/-- No tag stands twice. -/
theorem tags_nodup (t : ExtensionTable) : t.tags.Nodup := by
  refine t.tags_ascending.imp fun {a b} hlt => ?_
  rintro rfl
  omega

/-- What is found under its own tag is what is in the table. -/
theorem get?_tag_eq_some_iff : t.get? e.tag = some e ↔ e ∈ t.entries := by
  constructor
  · exact fun h => List.mem_of_find?_eq_some h
  · intro hmem
    cases hfound : t.get? e.tag with
    | none =>
      have hnone := List.find?_eq_none.mp hfound e hmem
      simp at hnone
    | some f =>
      have hf : f ∈ t.entries := List.mem_of_find?_eq_some hfound
      rw [List.inj_on_of_nodup_map t.tags_nodup hf hmem (tag_of_get? hfound)]

/-- The tags are those under which an extension is found. -/
theorem mem_tags_iff (tag : Int8) : tag ∈ t.tags ↔ (t.get? tag).isSome = true := by
  rw [tags, get?, List.find?_isSome]
  simp

/-- The tags of a table are those that have been registered. -/
theorem mem_tags_registered (es : List Extension) (tag : Int8) :
    tag ∈ (registered es).tags ↔ tag ∈ es.map (·.tag) := by
  rw [mem_tags_iff, get?_registered, List.find?_isSome]
  simp

/-- The size of a table is the number of different tags that have been registered. -/
theorem size_registered (es : List Extension) :
    (registered es).size = (es.map (·.tag)).toFinset.card := by
  have hsame : (registered es).tags.toFinset = (es.map (·.tag)).toFinset := by
    ext tag
    rw [List.mem_toFinset, List.mem_toFinset]
    exact mem_tags_registered es tag
  rw [← hsame, List.toFinset_card_of_nodup (tags_nodup _), tags, List.length_map, size]

/-! ### Packing -/

/-- Whether an extension of a table is the one that answers for a value: it handles the value, and
none with a smaller tag does. -/
structure Answers (t : ExtensionTable) (v : Value) (e : Extension)
    (answer : Except WireError Bytes) : Prop where
  registered : t.get? e.tag = some e
  handles : e.pack v = some answer
  least : ∀ f, t.get? f.tag = some f → f.tag.toInt < e.tag.toInt → f.pack v = none

/-- Nobody packs a value that no extension handles. -/
theorem pack_eq_none_iff :
    t.pack v = none ↔ ∀ e, t.get? e.tag = some e → e.pack v = none := by
  simp only [get?_tag_eq_some_iff]
  rw [pack, List.findSome?_eq_none_iff]
  simp only [Option.map_eq_none_iff]

/-- What a table packs is the answer of the extension with the least tag, under that tag. -/
theorem pack_eq_some_iff {packed : Except WireError (Int8 × Bytes)} :
    t.pack v = some packed ↔
      ∃ e answer, t.Answers v e answer ∧ packed = answer.map fun data => (e.tag, data) := by
  rw [pack, List.findSome?_eq_some_iff]
  constructor
  · rintro ⟨front, e, back, hsplit, hpacked, hfront⟩
    obtain ⟨answer, hanswer, rfl⟩ := Option.map_eq_some_iff.mp hpacked
    refine ⟨e, answer, ⟨?_, hanswer, fun f hf hless => ?_⟩, rfl⟩
    · rw [get?_tag_eq_some_iff, hsplit]
      simp
    · -- whoever has a smaller tag stands in front
      have hascending := t.ascending
      rw [hsplit] at hascending
      obtain ⟨-, hback, -⟩ := List.pairwise_append.mp hascending
      rw [get?_tag_eq_some_iff, hsplit, List.mem_append, List.mem_cons] at hf
      rcases hf with hf | rfl | hf
      · exact Option.map_eq_none_iff.mp (hfront f hf)
      · omega
      · have hgreater := (List.pairwise_cons.mp hback).1 f hf
        omega
  · rintro ⟨e, answer, hanswers, rfl⟩
    obtain ⟨front, back, hsplit⟩ :=
      List.append_of_mem (get?_tag_eq_some_iff.mp hanswers.registered)
    refine ⟨front, e, back, hsplit, by rw [hanswers.handles, Option.map_some], fun f hf => ?_⟩
    have hmem : f ∈ t.entries := hsplit ▸ List.mem_append_left _ hf
    have hascending := t.ascending
    rw [hsplit] at hascending
    obtain ⟨-, -, hcross⟩ := List.pairwise_append.mp hascending
    have hless := hcross f hf e List.mem_cons_self
    rw [hanswers.least f (get?_tag_eq_some_iff.mpr hmem) hless, Option.map_none]

end

end Courier.ExtensionTable
