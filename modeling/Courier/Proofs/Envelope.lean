import Courier.Envelope
import Courier.Proofs.Api.Outgoing
import Courier.Proofs.Codec.Normal
import Mathlib

/-!
# `Courier.Proofs.Envelope`: what an envelope takes from a map and gives back

An envelope holds two fields of a map: the body, and under `warn` nothing, nil or texts (`Warns`).
A map with anything else under `warn` is refused, and so is every value that is no map; other
fields are dropped. So what an envelope is written as, is what it was read from without the fields
that say nothing (`fields_of_ofValue`), and what it was written from, is read again
(`ofValue_toValue`).

Over bytes the envelope is one more map around the body, and the warnings are an array of texts
beside it. The map takes two levels of the budget of the decoder, and key and warnings never take
more than five inside it, which leaves 1022 for the body (`cost_toValue`). What does not fit the
format, does not come back either: whatever is decoded has lengths of four bytes
(`carriable_of_decode`).
-/

set_option autoImplicit false

namespace Courier.Envelope

/-! ### Which values are envelopes -/

/-- What may stand under `warn`, and the warnings that it holds. -/
inductive Warns : Option Value → List String → Prop where
  | absent : Warns none []
  | nil : Warns (some .nil) []
  | texts (warnings : List String) : Warns (some (.array (warnings.map .string))) warnings

section
variable {items : List Value} {warnings : List String}

/-- A list of texts has these texts. -/
theorem warningTexts_map (warnings : List String) :
    warningTexts (warnings.map .string) = .ok warnings := by
  induction warnings with
  | nil => rfl
  | cons s rest ih =>
    rw [List.map_cons, warningTexts, ih]
    rfl

/-- Warnings are read of texts only. -/
theorem eq_map_of_warningTexts (h : warningTexts items = .ok warnings) :
    items = warnings.map .string := by
  fun_induction warningTexts items generalizing warnings with
  | case1 =>
    cases h
    rfl
  | case2 s rest ih =>
    cases hrest : warningTexts rest with
    | error e =>
      rw [hrest] at h
      cases h
    | ok ws =>
      rw [hrest] at h
      cases h
      rw [List.map_cons, ← ih hrest]
  | case3 => cases h

/-- Items that are not all texts are refused for that. -/
theorem fault_of_warningTexts {e : WireError} (h : warningTexts items = .error e) :
    ∃ found, e = .envelope (.warningNotString found) := by
  fun_induction warningTexts items with
  | case1 => cases h
  | case2 s rest ih =>
    cases hrest : warningTexts rest with
    | error f =>
      rw [hrest] at h
      cases h
      exact ih hrest
    | ok ws =>
      rw [hrest] at h
      cases h
  | case3 v => exact ⟨v.kind, (Except.error.inj h).symm⟩

end

/-- An envelope is read from maps only, and takes its parts from two fields. -/
theorem ofValue_eq_ok_iff {v : Value} {e : Envelope} :
    ofValue v = .ok e ↔ ∃ fields, v = .map fields ∧
      e.body = (Fields.get? fields "body").getD .nil ∧
      Warns (Fields.get? fields "warn") e.warnings := by
  constructor
  · intro h
    -- of what a value may have under the key of warnings, the program takes three forms
    unfold ofValue at h
    split at h
    · rename_i fields
      dsimp only at h
      split at h
      · rename_i hwarn
        cases h
        exact ⟨fields, rfl, rfl, hwarn ▸ .absent⟩
      · rename_i hwarn
        cases h
        exact ⟨fields, rfl, rfl, hwarn ▸ .nil⟩
      · rename_i items hwarn
        cases hitems : warningTexts items with
        | error f =>
          rw [hitems] at h
          cases h
        | ok warnings =>
          rw [hitems] at h
          cases h
          rw [eq_map_of_warningTexts hitems] at hwarn
          exact ⟨fields, rfl, rfl, hwarn ▸ .texts warnings⟩
      · cases h
    · cases h
  · rintro ⟨fields, rfl, hbody, hwarn⟩
    obtain ⟨body, warnings⟩ := e
    dsimp only at hbody hwarn
    subst hbody
    rw [ofValue]
    -- the other way `hwarn` says what stands there, once the entry is known
    cases hentry : Fields.get? fields "warn" with
    | none =>
      rw [hentry] at hwarn
      cases hwarn
      rfl
    | some entry =>
      rw [hentry] at hwarn
      cases hwarn with
      | nil => rfl
      | texts =>
        dsimp only
        rw [warningTexts_map]
        rfl

/-- Whatever is refused as an envelope is refused for its form. -/
theorem fault_of_ofValue {v : Value} {e : WireError} (h : ofValue v = .error e) :
    ∃ fault, e = .envelope fault := by
  unfold ofValue at h
  split at h
  · dsimp only at h
    split at h
    · cases h
    · cases h
    · rename_i items hwarn
      cases hitems : warningTexts items with
      | error f =>
        rw [hitems] at h
        cases h
        obtain ⟨found, rfl⟩ := fault_of_warningTexts hitems
        exact ⟨_, rfl⟩
      | ok warnings =>
        rw [hitems] at h
        cases h
    · exact ⟨_, (Except.error.inj h).symm⟩
  · exact ⟨_, (Except.error.inj h).symm⟩

/-! ### What an envelope is written as -/

/-- Whether a value under `warn` tells that there is nothing to warn of. -/
def isSilent : Value → Bool
  | .nil => true
  | .array [] => true
  | _ => false

/-- Whether a field means something to an envelope. -/
def keeps (field : String × Value) : Bool :=
  field.1 = "body" || (field.1 = "warn" && !isSilent field.2)

/-- The fields of a map that mean something to an envelope, with nil for a body that is missing. -/
def kept (fields : List (String × Value)) : List (String × Value) :=
  let known := fields.filter keeps
  if (Fields.get? known "body").isSome then known else Fields.insert "body" .nil known

/-- The fields of an envelope. -/
def fields (e : Envelope) : List (String × Value) :=
  ("body", e.body) ::
    if e.warnings.isEmpty then [] else [("warn", .array (e.warnings.map .string))]

/-- An envelope is the map of its fields. -/
theorem toValue_eq (e : Envelope) : e.toValue = .map e.fields := by
  unfold toValue fields
  split <;> rfl

/-- Its fields stand in order. -/
theorem sorted_fields (e : Envelope) : Fields.Sorted e.fields := by
  have horder : "body" < "warn" := by decide
  unfold fields
  split
  · exact List.pairwise_singleton _ _
  · exact List.pairwise_pair.mpr horder

/-- The body is always there, and the warnings if there are any. -/
theorem get?_fields (e : Envelope) (name : String) :
    Fields.get? e.fields name =
      if name = "body" then some e.body
      else if name = "warn" then
        if e.warnings ≠ [] then some (.array (e.warnings.map .string)) else none
      else none := by
  unfold fields
  rw [Fields.get?_cons]
  by_cases hbody : name = "body"
  · rw [if_pos hbody.symm, if_pos hbody]
  rw [if_neg (Ne.symm hbody), if_neg hbody]
  cases hwarnings : e.warnings with
  | nil => simp [Fields.get?]
  | cons s rest =>
    rw [if_neg (by simp), Fields.get?_cons, if_pos (List.cons_ne_nil s rest)]
    by_cases hwarn : name = "warn"
    · rw [if_pos hwarn.symm, if_pos hwarn]
    · rw [if_neg (Ne.symm hwarn), if_neg hwarn]
      rfl

/-- What is under `warn` in an envelope says what its warnings are. -/
theorem warns_fields (e : Envelope) : Warns (Fields.get? e.fields "warn") e.warnings := by
  have hother : "warn" ≠ "body" := by decide
  rw [get?_fields, if_neg hother, if_pos rfl]
  by_cases hwarnings : e.warnings = []
  · rw [if_neg fun h => h hwarnings, hwarnings]
    exact .absent
  · rw [if_pos hwarnings]
    exact .texts e.warnings

/-- An envelope is read from the value that it is written as. -/
theorem ofValue_toValue (e : Envelope) : ofValue e.toValue = .ok e := by
  refine ofValue_eq_ok_iff.mpr ⟨e.fields, toValue_eq e, ?_, warns_fields e⟩
  rw [get?_fields, if_pos rfl, Option.getD_some]

section
variable {fields : List (String × Value)}

/-- What is kept of sorted fields is sorted. -/
theorem sorted_kept (h : Fields.Sorted fields) : Fields.Sorted (kept fields) := by
  have hknown : Fields.Sorted (fields.filter keeps) := h.filter _
  unfold kept
  dsimp only
  split
  · exact hknown
  · exact Fields.sorted_insert "body" .nil hknown

/-- The body is kept, or nothing stands for it, and so are the warnings unless they say nothing. -/
theorem get?_kept (h : Fields.Sorted fields) (name : String) :
    Fields.get? (kept fields) name =
      if name = "body" then some ((Fields.get? fields "body").getD .nil)
      else if name = "warn" then (Fields.get? fields "warn").filter (!isSilent ·)
      else none := by
  -- what the filter leaves under each of the names
  have hknown := Fields.get?_filter h keeps
  have hbody : Fields.get? (fields.filter keeps) "body" = Fields.get? fields "body" := by
    rw [hknown]
    cases Fields.get? fields "body" <;> rfl
  have hother : ∀ name, name ≠ "body" → Fields.get? (fields.filter keeps) name =
      if name = "warn" then (Fields.get? fields "warn").filter (!isSilent ·) else none := by
    intro name hname
    rw [hknown]
    by_cases hwarn : name = "warn"
    · subst hwarn
      rw [if_pos rfl]
      rfl
    · rw [if_neg hwarn]
      simp [keeps, hname, hwarn]
  unfold kept
  dsimp only
  rw [hbody]
  by_cases hname : name = "body"
  · subst hname
    rw [if_pos rfl]
    cases hfound : Fields.get? fields "body" with
    | none => simp [Fields.get?_insert]
    | some v => simpa [hfound] using hbody
  · rw [if_neg hname, ← hother name hname]
    split
    · rfl
    · rw [Fields.get?_insert, if_neg (Ne.symm hname)]

/-- Warnings that are there are not silent, and others are. -/
theorem filter_of_warns {entry : Option Value} {warnings : List String}
    (h : Warns entry warnings) :
    entry.filter (!isSilent ·)
      = if warnings ≠ [] then some (.array (warnings.map .string)) else none := by
  cases h with
  | absent => rfl
  | nil => rfl
  | texts =>
    cases warnings with
    | nil => rfl
    | cons s rest =>
      rw [if_pos (List.cons_ne_nil s rest)]
      rfl

/-- Writing what was read from a map leaves the fields that mean something. -/
theorem fields_of_ofValue {e : Envelope} (hsorted : Fields.Sorted fields)
    (h : ofValue (.map fields) = .ok e) : e.fields = kept fields := by
  obtain ⟨_, hmap, hbody, hwarn⟩ := ofValue_eq_ok_iff.mp h
  cases hmap
  refine Fields.ext_of_sorted (sorted_fields e) (sorted_kept hsorted) fun name => ?_
  rw [get?_fields, get?_kept hsorted, hbody, filter_of_warns hwarn]

end

/-! ### Envelopes over bytes -/

/-- Whether the format has lengths for the warnings. -/
def Carriable (warnings : List String) : Prop :=
  warnings.length < 2 ^ 32 ∧ ∀ s ∈ warnings, (Bytes.ofString s).length < 2 ^ 32

section
variable {e : Envelope}

/-- Texts are their own normal form. -/
theorem normItems_map_string (warnings : List String) :
    Value.normItems (warnings.map .string) = warnings.map .string := by
  induction warnings with
  | nil => rfl
  | cons s rest ih => rw [List.map_cons, Value.normItems, Value.norm, ih]

/-- Only the body of an envelope can come back in another form. -/
theorem norm_toValue (e : Envelope) : e.toValue.norm = toValue ⟨e.body.norm, e.warnings⟩ := by
  unfold toValue
  split
  · rfl
  · rw [Value.norm, Value.normFields, Value.normFields, Value.norm, normItems_map_string]
    rfl

/-- They take three levels at most. -/
theorem costItems_map_string_le (warnings : List String) :
    Value.costItems (warnings.map .string) ≤ 3 := by
  refine Value.costItems_le_iff.mpr fun v hv => ?_
  obtain ⟨s, -, rfl⟩ := List.mem_map.mp hv
  exact Nat.le_refl 3

/-- The map takes two levels, and what is in it beside the body never takes more than five. -/
theorem cost_toValue (e : Envelope) : e.toValue.cost ≤ 1024 ↔ e.body.cost ≤ 1022 := by
  have hwarnings := costItems_map_string_le e.warnings
  unfold toValue
  split
  · simp only [Value.cost, Value.costFields]
    omega
  · simp only [Value.cost, Value.costFields]
    omega

/-- An envelope is well formed if its body is. -/
theorem wellFormed_toValue (h : e.body.WellFormed) : e.toValue.WellFormed := by
  rw [toValue_eq]
  refine ⟨sorted_fields e, Value.wellFormedFields_iff.mpr fun p hp => ?_⟩
  unfold fields at hp
  rcases List.mem_cons.mp hp with rfl | hp
  · exact h
  · split at hp
    · cases hp
    · obtain rfl := List.mem_singleton.mp hp
      refine Value.wellFormedItems_iff.mpr fun v hv => ?_
      obtain ⟨s, -, rfl⟩ := List.mem_map.mp hv
      trivial

/-- An array of texts is portable if the format has lengths for it. -/
theorem portable_warnings {warnings : List String} :
    (Value.array (warnings.map .string)).Portable ↔ Carriable warnings := by
  rw [Value.Portable, Value.portableItems_iff, List.length_map, List.forall_mem_map]
  rfl

/-- It is portable if its body is, and its warnings are short enough. -/
theorem portable_toValue (hbody : e.body.Portable) (hwarnings : Carriable e.warnings) :
    e.toValue.Portable := by
  rw [toValue_eq]
  have hbodyKey : (Bytes.ofString "body").length < 2 ^ 32 := by decide
  have hwarnKey : (Bytes.ofString "warn").length < 2 ^ 32 := by decide
  have hlength : e.fields.length ≤ 2 := by
    unfold fields
    split <;> simp
  refine ⟨by omega, Value.portableFields_iff.mpr fun p hp => ?_⟩
  unfold fields at hp
  rcases List.mem_cons.mp hp with rfl | hp
  · exact ⟨hbodyKey, hbody⟩
  · split at hp
    · cases hp
    · obtain rfl := List.mem_singleton.mp hp
      exact ⟨hwarnKey, portable_warnings.mpr hwarnings⟩

end

/-! ### What fits the format -/

open MessagePack (Object WritableItems WritableEntries)

/-- The values of fields whose entries can be written can be written themselves. -/
theorem exists_writable_of_mem {c : Codec} {fields : List (String × Value)}
    {entries : List (Object × Object)} (h : c.toEntries fields = .ok entries)
    (hentries : WritableEntries entries) :
    ∀ p ∈ fields, ∃ x, c.toObject p.2 = .ok x ∧ x.Writable := by
  induction fields generalizing entries with
  | nil => exact List.forall_mem_nil _
  | cons p rest ih =>
    obtain ⟨key, v⟩ := p
    rw [Codec.toEntries] at h
    split at h
    · cases h
    rename_i x hx
    split at h
    · cases h
    rename_i others hothers
    cases h
    obtain ⟨⟨-, hwritable⟩, hrest⟩ := hentries
    exact List.forall_mem_cons.mpr ⟨⟨x, hx, hwritable⟩, ih hothers hrest⟩

/-- Any codec writes warnings as texts. -/
theorem toItems_map_string (c : Codec) (warnings : List String) :
    c.toItems (warnings.map .string)
      = .ok (warnings.map fun s => .string (Bytes.ofString s)) := by
  induction warnings with
  | nil => rfl
  | cons s rest ih => rw [List.map_cons, Codec.toItems, Codec.toObject, ih, List.map_cons]

/-- Warnings that can be written have lengths that the format has. -/
theorem carriable_of_writable {c : Codec} {warnings : List String} {x : Object}
    (h : c.toObject (.array (warnings.map .string)) = .ok x) (hx : x.Writable) :
    Carriable warnings := by
  rw [Codec.toObject, toItems_map_string] at h
  cases h
  obtain ⟨hlength, hitems⟩ := hx
  refine ⟨by rwa [List.length_map] at hlength, fun s hs => ?_⟩
  clear hlength
  induction warnings with
  | nil => cases hs
  | cons t rest ih =>
    obtain ⟨ht, hrest⟩ := hitems
    rcases List.mem_cons.mp hs with rfl | hs
    · exact ht
    · exact ih hrest hs

/-- The warnings of an envelope that was decoded fit the format, because whatever is decoded
does. -/
theorem carriable_of_decode {b : Bytes} {e : Envelope}
    (h : Codec.standard.decodeEnvelope b = .ok e) : Carriable e.warnings := by
  unfold Codec.decodeEnvelope at h
  split at h
  · rename_i v hv
    obtain ⟨x, hread, hmeans⟩ := Proofs.Codec.exists_of_decode hv
    have hsettles := Proofs.Codec.settles_of_ofObject Proofs.Codec.standard_settling _ x
      (Proofs.MessagePack.fits_of_read hread) v hmeans
    obtain ⟨fields, rfl, -, hwarn⟩ := ofValue_eq_ok_iff.mp h
    -- the value stands for an object that fits, and the texts are part of it
    obtain ⟨y, hobject, hfits, -⟩ := hsettles.stands
    rw [Codec.toObject] at hobject
    split at hobject
    · rename_i entries hentries
      cases hobject
      have hwritable := exists_writable_of_mem hentries hfits.writable.2
      -- `Warns` can be split only on an entry that is a variable
      generalize hentry : Fields.get? fields "warn" = entry at hwarn
      generalize e.warnings = warnings at hwarn ⊢
      cases hwarn with
      | absent => exact ⟨by simp, List.forall_mem_nil _⟩
      | nil => exact ⟨by simp, List.forall_mem_nil _⟩
      | texts =>
        obtain ⟨z, hz, hzwritable⟩ := hwritable _ (Fields.mem_of_get? hentry)
        exact carriable_of_writable hz hzwritable
    · cases hobject
  · cases h

/-- An envelope that fits the format is encoded, and what comes back depends on the cost of its
body alone. -/
theorem decodeEnvelope_bytes {e : Envelope} (hform : e.body.WellFormed)
    (hbody : e.body.Portable) (hwarnings : Carriable e.warnings) :
    ∃ b, Codec.standard.encodeEnvelope e = .ok b ∧ Codec.standard.decodeEnvelope b =
      if e.body.cost ≤ 1022 then .ok ⟨e.body.norm, e.warnings⟩
      else .error (.malformed .depthLimit) := by
  obtain ⟨x, hx⟩ := Proofs.Codec.exists_stands e.toValue (wellFormed_toValue hform)
    (portable_toValue hbody hwarnings)
  refine ⟨x.bytes, hx.encode, ?_⟩
  rw [Codec.decodeEnvelope, hx.decode]
  by_cases hcost : e.body.cost ≤ 1022
  · rw [if_pos hcost, if_pos ((cost_toValue e).mpr hcost), norm_toValue]
    exact ofValue_toValue _
  · rw [if_neg hcost, if_neg fun h => hcost ((cost_toValue e).mp h)]

/-- Envelopes are read from what they are written as. A value is an envelope if it is a map that has
nothing, nil or texts under `warn`, and is refused for its form otherwise. What is written of it
again is the map without what means nothing to an envelope.

Over bytes an envelope comes back, its body in the form that decoding gives, if the body takes at
most 1022 levels and the warnings have lengths that fit the format, and not otherwise. A body that
takes more is refused for its depth. -/
theorem carries_body_and_warnings :
    (∀ e : Envelope, ofValue e.toValue = .ok e) ∧
    (∀ v, (∃ e, ofValue v = .ok e) ↔
      ∃ fields warnings, v = .map fields ∧ Warns (Fields.get? fields "warn") warnings) ∧
    (∀ v error, ofValue v = .error error → ∃ fault, error = .envelope fault) ∧
    (∀ fields e, Fields.Sorted fields → ofValue (.map fields) = .ok e →
      e.toValue = .map (kept fields)) ∧
    ∀ e : Envelope, e.body.WellFormed → e.body.Portable →
      ∃ b, Codec.standard.encodeEnvelope e = .ok b ∧
        (Codec.standard.decodeEnvelope b = .ok ⟨e.body.norm, e.warnings⟩ ↔
          e.body.cost ≤ 1022 ∧ Carriable e.warnings) ∧
        (1022 < e.body.cost → Carriable e.warnings →
          Codec.standard.decodeEnvelope b = .error (.malformed .depthLimit)) := by
  refine ⟨ofValue_toValue, fun v => ⟨?_, ?_⟩, fun v error => fault_of_ofValue,
    fun fields e hsorted h => ?_, fun e hform hbody => ?_⟩
  · rintro ⟨e, he⟩
    obtain ⟨fields, hv, -, hwarn⟩ := ofValue_eq_ok_iff.mp he
    exact ⟨fields, e.warnings, hv, hwarn⟩
  · rintro ⟨fields, warnings, hv, hwarn⟩
    exact ⟨⟨_, warnings⟩, ofValue_eq_ok_iff.mpr ⟨fields, hv, rfl, hwarn⟩⟩
  · rw [toValue_eq, fields_of_ofValue hsorted h]
  · by_cases hwarnings : Carriable e.warnings
    · obtain ⟨b, hb, hdecode⟩ := decodeEnvelope_bytes hform hbody hwarnings
      refine ⟨b, hb, ⟨fun h => ⟨?_, hwarnings⟩, fun h => ?_⟩, fun hcost _ => ?_⟩
      · by_contra hcost
        rw [hdecode, if_neg hcost] at h
        cases h
      · rw [hdecode, if_pos h.1]
      · rw [hdecode, if_neg (by omega)]
    · -- such an envelope still has bytes, but they do not stand for it
      obtain ⟨x, hx⟩ := Codec.exists_standardObject e.toValue
      refine ⟨x.bytes, by rw [Codec.encodeEnvelope, Codec.encode, hx],
        ⟨fun h => absurd (carriable_of_decode h) hwarnings, fun h => absurd h.2 hwarnings⟩,
        fun _ h => absurd h hwarnings⟩

open Proofs.Codec (nested nested_wellFormed nested_portable cost_nested)

/-- An answer with 511 arrays around nil. The body takes 1023 levels, so that it can be decoded by
itself, but not in the map of its envelope. With one array less it comes back. A map without a body
and with no warnings in its array is an envelope, and is written without the field that says
nothing. -/
theorem carries_body_and_warnings_nested :
    ofValue (.map [("id", .int 7), ("warn", .array [])]) = .ok ⟨.nil, []⟩ ∧
    toValue ⟨.nil, []⟩ = .map [("body", .nil)] ∧
    (nested 511).WellFormed ∧ (nested 511).Portable ∧ (nested 511).cost = 1023 ∧
    (∃ b, Codec.standard.encodeEnvelope ⟨nested 511, ["slow"]⟩ = .ok b ∧
      Codec.standard.decodeEnvelope b = .error (.malformed .depthLimit)) ∧
    (nested 510).WellFormed ∧ (nested 510).Portable ∧ (nested 510).cost = 1021 ∧
    ∃ b, Codec.standard.encodeEnvelope ⟨nested 510, ["slow", "stale"]⟩ = .ok b ∧
      Codec.standard.decodeEnvelope b = .ok ⟨(nested 510).norm, ["slow", "stale"]⟩ := by
  obtain ⟨-, haccepts, -, hkept, hbytes⟩ := carries_body_and_warnings
  have hsorted : Fields.Sorted [("id", Value.int 7), ("warn", .array [])] := by
    unfold Fields.Sorted
    decide
  obtain ⟨e, he⟩ := (haccepts (.map [("id", .int 7), ("warn", .array [])])).mpr
    ⟨_, [], rfl, .texts []⟩
  have hempty : e = ⟨.nil, []⟩ := (Except.ok.inj he).symm
  subst hempty
  have hslow : Carriable ["slow"] := ⟨by decide, by decide⟩
  have hboth : Carriable ["slow", "stale"] := ⟨by decide, by decide⟩
  obtain ⟨b, hb, -, hdeep⟩ := hbytes ⟨nested 511, ["slow"]⟩ (nested_wellFormed _)
    (nested_portable _)
  obtain ⟨d, hd, hback, -⟩ := hbytes ⟨nested 510, ["slow", "stale"]⟩ (nested_wellFormed _)
    (nested_portable _)
  exact ⟨he, hkept _ _ hsorted he, nested_wellFormed _, nested_portable _, cost_nested _,
    ⟨b, hb, hdeep (by rw [cost_nested]; omega) hslow⟩, nested_wellFormed _, nested_portable _,
    cost_nested _, d, hd, hback.mpr ⟨by rw [cost_nested]; omega, hboth⟩⟩

end Courier.Envelope
