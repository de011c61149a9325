import Courier.Command
import Courier.Proofs.Api.Outgoing
import Courier.Proofs.Codec.Normal
import Courier.Proofs.Json.Reader
import Courier.Proofs.Timestamp.Domain
import Mathlib

/-!
# `Courier.Proofs.Payload`: payloads travel without a change

A payload that the operator writes is made of JSON, and what `Value.ofJson` makes of JSON has the
form that decoding gives to values: an integer is unsigned only if it does not fit the signed form,
an instant is a whole second of the calendar, and there are no extensions. Such a value is its own
normal form (`Value.norm_of_normal`).

It is also within what the format can carry. A level of JSON takes two levels of the budget of the
decoder and the innermost one takes three at most, so the 127 levels that the reader of JSON allows
take a quarter of the budget. And nothing in the value is longer than the text was. So the bytes of
a payload decode to the payload itself (`Value.Plain.exists_bytes`). The one condition is that of
the format: a length has four bytes, so that the text must be shorter than 4 GiB, or what is in it
must be.
-/

set_option autoImplicit false

namespace Courier

namespace Value

/-! ### Values of JSON -/

/-- A value is settled in its form, and fits what carries it: the budget of the decoder if it is of
so many levels, and the lengths of the format if nothing in it is longer than `size`. -/
structure Plain (size levels : Nat) (v : Value) : Prop where
  wellFormed : v.WellFormed
  normal : v.Normal [Timestamp.tag]
  cost : v.cost ≤ 2 * levels + 3
  portable : size < 2 ^ 32 → v.Portable

section
variable {size levels : Nat} {v : Value}

/-- A value without lists and fields takes three levels at most. -/
theorem plain_of_leaf (hform : v.WellFormed) (hnormal : v.Normal [Timestamp.tag])
    (hcost : v.cost ≤ 3) (hportable : v.Portable) : v.Plain size levels :=
  ⟨hform, hnormal, by omega, fun _ => hportable⟩

/-- An integer is unsigned only if it does not fit the signed form. -/
theorem plain_ofNumber (n : Json.Number) : (ofNumber n).Plain size levels := by
  cases n with
  | natural n =>
    rw [ofNumber, ofUInt64]
    split
    · exact plain_of_leaf trivial trivial (by simp [cost]) trivial
    · rename_i hlarge
      have hform : 2 ^ 63 ≤ n.toNat := by omega
      exact plain_of_leaf trivial hform (by simp [cost]) trivial
  | negative n => exact plain_of_leaf trivial trivial (by simp [ofNumber, cost]) trivial
  | float x => exact plain_of_leaf trivial trivial (by simp [ofNumber, cost]) trivial

/-- What stands for an instant is an instant of so many seconds. -/
theorem exists_instant {seconds : Json} (h : instantOfJson seconds = .ok v) :
    ∃ s t, Instant.ofSeconds? s = some t ∧ v = .timestamp t := by
  unfold instantOfJson at h
  split at h
  · split at h
    · cases h
    · split at h
      · cases h
      · rename_i t ht
        cases h
        exact ⟨_, t, ht, rfl⟩
  · cases h

/-- An instant of JSON is a whole second of the calendar. -/
theorem plain_instantOfJson {seconds : Json} (h : instantOfJson seconds = .ok v) :
    v.Plain size levels := by
  obtain ⟨s, t, ht, rfl⟩ := exists_instant h
  obtain ⟨-, hwhole⟩ := Proofs.Timestamp.ofSeconds?_eq_some ht
  have hnormal : (Value.timestamp t).Normal [Timestamp.tag] :=
    ⟨List.mem_singleton_self _, hwhole⟩
  -- nothing is rounded, so the packed second is in the calendar as well
  have hportable : (Value.timestamp t).Portable := by
    obtain ⟨u, hu, -⟩ :=
      Proofs.Timestamp.ofSeconds?_of_inCalendar ⟨t.least_le, t.le_greatest⟩
    rw [Portable, Proofs.Timestamp.packedSeconds_whole hwhole, hu]
    rfl
  exact plain_of_leaf trivial hnormal (by simp [cost]) hportable

/-- A list is plain if its items are, with one level more. -/
theorem plain_array {items : List Value} (hlength : items.length ≤ size)
    (h : ∀ v ∈ items, v.Plain size levels) : (Value.array items).Plain size (levels + 1) := by
  have hcost : costItems items ≤ 2 * levels + 3 :=
    costItems_le_iff.mpr fun v hv => (h v hv).cost
  refine ⟨wellFormedItems_iff.mpr fun v hv => (h v hv).wellFormed,
    normalItems_iff.mpr fun v hv => (h v hv).normal, by rw [cost]; omega, fun hsize => ?_⟩
  exact ⟨by omega, portableItems_iff.mpr fun v hv => (h v hv).portable hsize⟩

/-- So is a map, if its keys are short enough. -/
theorem plain_ofFields {fields : List (String × Value)} (hlength : fields.length ≤ size)
    (hkeys : ∀ p ∈ fields, (Bytes.ofString p.1).length ≤ size)
    (h : ∀ p ∈ fields, p.2.Plain size levels) :
    (Value.ofFields fields).Plain size (levels + 1) := by
  -- the map keeps some of the fields, in the order of their keys
  have hfewer := Fields.length_ofList_le fields
  have hkept : ∀ p ∈ Fields.ofList fields, p.2.Plain size levels :=
    fun p hp => h p (Fields.mem_of_mem_ofList hp)
  have hcost : costFields (Fields.ofList fields) ≤ 2 * levels + 3 :=
    costFields_le (by omega) fun p hp => (hkept p hp).cost
  have hform : WellFormedFields (Fields.ofList fields) :=
    wellFormedFields_iff.mpr fun p hp => (hkept p hp).wellFormed
  refine ⟨⟨Fields.sorted_ofList fields, hform⟩,
    normalFields_iff.mpr fun p hp => (hkept p hp).normal, by rw [ofFields, cost]; omega,
    fun hsize => ⟨by omega, portableFields_iff.mpr fun p hp => ?_⟩⟩
  have hkey := hkeys p (Fields.mem_of_mem_ofList hp)
  exact ⟨by omega, (hkept p hp).portable hsize⟩

/-- Every value of the items is that of an item, and there are as many of them. -/
theorem of_ofJsonItems {items : List Json} {values : List Value}
    (h : ofJsonItems items = .ok values) :
    values.length = items.length ∧ ∀ v ∈ values, ∃ x ∈ items, ofJson x = .ok v := by
  induction items generalizing values with
  | nil =>
    cases h
    exact ⟨rfl, List.forall_mem_nil _⟩
  | cons x rest ih =>
    rw [ofJsonItems] at h
    split at h
    · cases h
    · rename_i v hv
      split at h
      · cases h
      · rename_i vs hvs
        cases h
        obtain ⟨hlength, hmem⟩ := ih hvs
        refine ⟨congrArg (· + 1) hlength, List.forall_mem_cons.mpr ⟨?_, fun w hw => ?_⟩⟩
        · exact ⟨x, List.mem_cons_self, hv⟩
        · obtain ⟨y, hy, hvalue⟩ := hmem w hw
          exact ⟨y, List.mem_cons_of_mem _ hy, hvalue⟩

/-- So it is with the fields, whose keys stay. -/
theorem of_ofJsonFields {fields : List (String × Json)} {values : List (String × Value)}
    (h : ofJsonFields fields = .ok values) :
    values.length = fields.length ∧
      ∀ q ∈ values, ∃ p ∈ fields, p.1 = q.1 ∧ ofJson p.2 = .ok q.2 := by
  induction fields generalizing values with
  | nil =>
    cases h
    exact ⟨rfl, List.forall_mem_nil _⟩
  | cons p rest ih =>
    obtain ⟨key, x⟩ := p
    rw [ofJsonFields] at h
    split at h
    · cases h
    · rename_i v hv
      split at h
      · cases h
      · rename_i vs hvs
        cases h
        obtain ⟨hlength, hmem⟩ := ih hvs
        refine ⟨congrArg (· + 1) hlength, List.forall_mem_cons.mpr ⟨?_, fun q hq => ?_⟩⟩
        · exact ⟨(key, x), List.mem_cons_self, rfl, hv⟩
        · obtain ⟨p, hp, hsame⟩ := hmem q hq
          exact ⟨p, List.mem_cons_of_mem _ hp, hsame⟩

/-- What JSON within some bounds stands for is a plain value within the same bounds. -/
theorem plain_of_ofJson {j : Json} (hj : j.Within size levels) (h : ofJson j = .ok v) :
    v.Plain size levels := by
  induction hj generalizing v with
  | null =>
    cases h
    exact plain_of_leaf trivial trivial (by simp [cost]) trivial
  | bool b =>
    cases h
    exact plain_of_leaf trivial trivial (by simp [cost]) trivial
  | number n =>
    cases h
    exact plain_ofNumber n
  | string short =>
    cases h
    exact ⟨trivial, trivial, by rw [cost]; omega, fun hsize => Nat.lt_of_le_of_lt short hsize⟩
  | array short within ih =>
    rw [ofJson] at h
    split at h
    · rename_i values hvalues
      cases h
      obtain ⟨hlength, hmem⟩ := of_ofJsonItems hvalues
      refine plain_array (by omega) fun v hv => ?_
      obtain ⟨x, hx, hvalue⟩ := hmem v hv
      exact ih x hx hvalue
    · cases h
  | object short keys within ih =>
    rw [ofJson] at h
    split at h
    -- an object that is a time becomes an instant, any other one a map
    · exact plain_instantOfJson h
    · split at h
      · rename_i values hvalues
        cases h
        obtain ⟨hlength, hmem⟩ := of_ofJsonFields hvalues
        refine plain_ofFields (by omega) (fun q hq => ?_) fun q hq => ?_
        · obtain ⟨p, hp, hkey, -⟩ := hmem q hq
          exact hkey ▸ keys p hp
        · obtain ⟨p, hp, -, hvalue⟩ := hmem q hq
          exact ih p hp hvalue
      · cases h

/-- A plain value that the format can carry comes back as it is. -/
theorem Plain.exists_bytes (h : v.Plain size levels) (hlevels : levels ≤ 127) :
    ∃ bytes, Codec.standard.encode v = .ok bytes ∧
      (v.Portable → Codec.standard.decode bytes = .ok v) := by
  obtain ⟨x, hx⟩ := Codec.exists_standardObject v
  refine ⟨x.bytes, by rw [Codec.encode, hx], fun hportable => ?_⟩
  obtain ⟨y, hy⟩ := Proofs.Codec.exists_stands v h.wellFormed hportable
  obtain rfl := Except.ok.inj (hx.symm.trans hy.toObject)
  have hcost := h.cost
  rw [hy.decode, if_pos (by omega), norm_of_normal v h.normal]

end

end Value

namespace Payload

/-- The text of an argument: the argument itself, or what the file holds that it names. -/
def source (disk : Disk) (argument : String) : Except FileError String :=
  match file? argument with
  | none => .ok argument
  | some path => disk.readText path

section
variable {disk : Disk} {argument : String} {v : Value}

/-- A payload is plain, and no larger than the text that it was read of. -/
theorem plain_of_ofText {text : String} (h : ofText text = .ok v) :
    v.Plain (Bytes.ofString text).length Json.levelLimit := by
  unfold ofText at h
  split at h
  · cases h
  · rename_i json hread
    split at h
    · cases h
    · rename_i w hvalue
      cases h
      exact Value.plain_of_ofJson (Json.within_of_read hread) hvalue

/-- The payload of an argument is that of its text. -/
theorem exists_source (h : ofArgument disk argument = .ok v) :
    ∃ text, source disk argument = .ok text ∧ ofText text = .ok v := by
  unfold ofArgument at h
  unfold source
  cases hfile : file? argument with
  | none =>
    rw [hfile] at h
    exact ⟨argument, rfl, h⟩
  | some path =>
    rw [hfile] at h
    dsimp only at h ⊢
    split at h
    · cases h
    · rename_i text htext
      exact ⟨text, htext, h⟩

end

end Payload

end Courier
