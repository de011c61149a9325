import Courier.Proofs.Json.ReadBack
import Courier.Proofs.Payload
import Mathlib

/-!
# `Courier.Proofs.Payload.Display`: what is shown can be written

Answers are shown as JSON, and payloads are written as JSON. An instant is shown as a text, bytes as
a list of numbers and an extension as an object, and none of these is made of that again. Nor is a
map with the key of instants alone, because it is shown as what an instant is written as. Without
them, and without floats, a value is `Legible`. The JSON that shows it stands for the value itself,
with each integer in the signed form if it fits (`Value.ofJson_toJson`), and this JSON is read again
from its text if it is nested no deeper than the reader goes (`Value.exact_toJson`). Nothing that is
read is nested deeper (`Value.depth_le_of_ofJson`), so all others do not come back.

An argument that begins with an at sign names a file. No text of JSON begins so, so nothing that is
shown is taken for the name of a file (`file?_display`).
-/

set_option autoImplicit false

namespace Courier

namespace Value

/-- A value that is shown as what it is written as. -/
inductive Legible : Value → Prop
  | nil : Legible .nil
  | bool (b : Bool) : Legible (.bool b)
  | int (n : Int64) : Legible (.int n)
  | uint (n : UInt64) : Legible (.uint n)
  | string (s : String) : Legible (.string s)
  | array {items : List Value} (legible : ∀ v ∈ items, Legible v) : Legible (.array items)
  | map {fields : List (String × Value)} (notTime : fields.map Prod.fst ≠ [timeKey])
      (legible : ∀ p ∈ fields, Legible p.2) : Legible (.map fields)

/-! ### Lists and fields -/

section
variable {items : List Value} {fields : List (String × Value)} {n : Nat}

/-- A bound holds of the depth of some items if it holds of each of them. -/
theorem depthItems_le_iff : depthItems items ≤ n ↔ ∀ v ∈ items, v.depth ≤ n := by
  induction items with
  | nil => simp [depthItems]
  | cons v rest ih => rw [depthItems, max_le_iff, ih, List.forall_mem_cons]

/-- The same goes for the values of some fields. -/
theorem depthFields_le_iff : depthFields fields ≤ n ↔ ∀ p ∈ fields, p.2.depth ≤ n := by
  induction fields with
  | nil => simp [depthFields]
  | cons p rest ih =>
    obtain ⟨key, v⟩ := p
    rw [depthFields, max_le_iff, ih, List.forall_mem_cons]

/-- Items are as deep as their normal forms if each of them is. -/
theorem depthItems_normItems (h : ∀ v ∈ items, v.norm.depth = v.depth) :
    depthItems (normItems items) = depthItems items := by
  induction items with
  | nil => rfl
  | cons v rest ih =>
    obtain ⟨hv, hrest⟩ := List.forall_mem_cons.mp h
    rw [normItems, depthItems, depthItems, hv, ih hrest]

/-- So are the fields of a map. -/
theorem depthFields_normFields (h : ∀ p ∈ fields, p.2.norm.depth = p.2.depth) :
    depthFields (normFields fields) = depthFields fields := by
  induction fields with
  | nil => rfl
  | cons p rest ih =>
    obtain ⟨hp, hrest⟩ := List.forall_mem_cons.mp h
    rw [normFields, depthFields, depthFields, hp, ih hrest]

/-- The items of a list are put into JSON one by one. -/
theorem toJsonItems_eq (items : List Value) : toJsonItems items = items.map toJson := by
  induction items with
  | nil => rfl
  | cons v rest ih => rw [toJsonItems, ih, List.map_cons]

/-- So are the values of a map, under the same keys. -/
theorem toJsonFields_eq (fields : List (String × Value)) :
    toJsonFields fields = fields.map fun p => (p.1, p.2.toJson) := by
  induction fields with
  | nil => rfl
  | cons p rest ih =>
    obtain ⟨key, v⟩ := p
    rw [toJsonFields, ih, List.map_cons]

/-- Items come back in normal form if each of them does. -/
theorem ofJsonItems_map (h : ∀ v ∈ items, ofJson v.toJson = .ok v.norm) :
    ofJsonItems (items.map toJson) = .ok (normItems items) := by
  induction items with
  | nil => rfl
  | cons v rest ih =>
    obtain ⟨hv, hrest⟩ := List.forall_mem_cons.mp h
    rw [List.map_cons, ofJsonItems, hv, ih hrest]
    rfl

/-- So do fields. -/
theorem ofJsonFields_map (h : ∀ p ∈ fields, ofJson p.2.toJson = .ok p.2.norm) :
    ofJsonFields (fields.map fun p => (p.1, p.2.toJson)) = .ok (normFields fields) := by
  induction fields with
  | nil => rfl
  | cons p rest ih =>
    obtain ⟨key, v⟩ := p
    obtain ⟨hv, hrest⟩ := List.forall_mem_cons.mp h
    rw [List.map_cons, ofJsonFields, hv, ih hrest]
    rfl

/-- Fields are no instant if there are others than that of instants. -/
theorem onlyTime?_eq_none {fields : List (String × Json)}
    (h : fields.map Prod.fst ≠ [timeKey]) : onlyTime? fields = none := by
  unfold onlyTime?
  split
  · rename_i key seconds
    rw [if_neg]
    rintro rfl
    exact h rfl
  · rfl

end

/-! ### Values -/

section
variable {v : Value}

/-- An integer is read in the signed form if it was shown of that form. -/
theorem ofNumber_ofInt64 (n : Int64) : ofNumber (.ofInt64 n) = .int n := by
  have hlow := n.le_toInt
  have hhigh := n.toInt_lt
  unfold Json.Number.ofInt64
  split
  · rename_i hpos
    have hnat : (UInt64.ofNat n.toInt.toNat).toNat = n.toInt.toNat :=
      UInt64.toNat_ofNat_of_lt' (by show _ < 2 ^ 64; omega)
    have hint : Int64.ofNat n.toInt.toNat = n := by
      rw [← Int64.ofInt_eq_ofNat, Int.toNat_of_nonneg hpos, Int64.ofInt_toInt]
    rw [ofNumber, ofUInt64, hnat, if_pos (by omega), hint]
  · rfl

/-- What is shown is read from its text if it is not nested too deeply. -/
theorem exact_toJson {levels : Nat} (h : v.Legible) (hform : v.WellFormed)
    (hdepth : v.depth ≤ levels) : Json.Exact levels v.toJson := by
  induction h generalizing levels with
  | nil => exact .null
  | bool b => exact .bool b
  | int n =>
    rw [toJson, Json.Number.ofInt64]
    split
    · exact .natural _
    · rename_i hbelow
      exact .negative (by omega)
  | uint n => exact .natural n
  | string s => exact .string s
  | @array items legible ih =>
    rw [depth] at hdepth
    -- the array itself takes one of the levels
    obtain ⟨fewer, rfl⟩ := Nat.exists_eq_add_one_of_ne_zero (by omega : levels ≠ 0)
    have hitems := depthItems_le_iff.mp (Nat.le_of_succ_le_succ hdepth)
    rw [toJson, toJsonItems_eq]
    refine .array (List.forall_mem_map.mpr fun w hw => ?_)
    exact ih w hw (wellFormedItems_iff.mp hform w hw) (hitems w hw)
  | @map fields notTime legible ih =>
    rw [depth] at hdepth
    obtain ⟨fewer, rfl⟩ := Nat.exists_eq_add_one_of_ne_zero (by omega : levels ≠ 0)
    have hfields := depthFields_le_iff.mp (Nat.le_of_succ_le_succ hdepth)
    rw [toJson, toJsonFields_eq]
    refine .object (List.pairwise_map.mpr hform.1) (List.forall_mem_map.mpr fun p hp => ?_)
    exact ih p hp (wellFormedFields_iff.mp hform.2 p hp) (hfields p hp)

/-- The value is made again of what is shown, with integers in the signed form if they fit. -/
theorem ofJson_toJson (h : v.Legible) (hform : v.WellFormed) : ofJson v.toJson = .ok v.norm := by
  induction h with
  | nil => rfl
  | bool b => rfl
  | int n => rw [toJson, ofJson, ofNumber_ofInt64, norm]
  | uint n => rfl
  | string s => rfl
  | @array items legible ih =>
    have hitems := ofJsonItems_map fun w hw => ih w hw (wellFormedItems_iff.mp hform w hw)
    rw [toJson, toJsonItems_eq, ofJson, hitems, norm]
  | @map fields notTime legible ih =>
    have hfields := ofJsonFields_map fun p hp => ih p hp (wellFormedFields_iff.mp hform.2 p hp)
    have hother : onlyTime? (fields.map fun p => (p.1, p.2.toJson)) = none :=
      onlyTime?_eq_none (by rwa [List.map_map])
    rw [toJson, toJsonFields_eq, ofJson, hother, hfields, norm]
    dsimp only
    rw [ofFields, Fields.ofList_of_sorted (Proofs.Codec.sorted_normFields hform.1)]

/-- The form of its integers does not change how deep a value is. -/
theorem depth_norm (h : v.Legible) : v.norm.depth = v.depth := by
  induction h with
  | nil => rfl
  | bool b => rfl
  | int n => rfl
  | uint n =>
    rw [norm, ofUInt64]
    split <;> rfl
  | string s => rfl
  | @array items legible ih => rw [norm, depth, depth, depthItems_normItems ih]
  | @map fields notTime legible ih => rw [norm, depth, depth, depthFields_normFields ih]

/-- What JSON stands for is nested no deeper than the JSON is. -/
theorem depth_le_of_ofJson {size levels : Nat} {j : Json} (hj : j.Within size levels)
    (h : ofJson j = .ok v) : v.depth ≤ levels := by
  induction hj generalizing v with
  | null =>
    cases h
    exact Nat.zero_le _
  | bool b =>
    cases h
    exact Nat.zero_le _
  | number n =>
    cases h
    cases n with
    | natural n =>
      rw [ofNumber, ofUInt64]
      split <;> exact Nat.zero_le _
    | negative n => exact Nat.zero_le _
    | float x => exact Nat.zero_le _
  | string short =>
    cases h
    exact Nat.zero_le _
  | array short within ih =>
    rw [ofJson] at h
    split at h
    · rename_i values hvalues
      cases h
      refine Nat.succ_le_succ (depthItems_le_iff.mpr fun v hv => ?_)
      obtain ⟨x, hx, hvalue⟩ := (of_ofJsonItems hvalues).2 v hv
      exact ih x hx hvalue
    · cases h
  | object short keys within ih =>
    rw [ofJson] at h
    split at h
    -- an object that is a time becomes an instant, which is not nested
    · obtain ⟨s, t, -, rfl⟩ := exists_instant h
      exact Nat.zero_le _
    · split at h
      · rename_i values hvalues
        cases h
        refine Nat.succ_le_succ (depthFields_le_iff.mpr fun q hq => ?_)
        obtain ⟨p, hp, -, hvalue⟩ := (of_ofJsonFields hvalues).2 q (Fields.mem_of_mem_ofList hq)
        exact ih p hp hvalue
      · cases h

end

end Value

namespace Payload

/-- Nothing that is shown is the name of a file. -/
theorem file?_display {v : Value} (hform : v.WellFormed) (hlegible : v.Legible) :
    file? v.display = none := by
  -- whatever the depth is, some reader goes as deep
  have hread := Json.takes_prettyAt (Value.exact_toJson hlegible hform (Nat.le_refl _)) 0 .nil
  obtain ⟨c, tail, hstart, -, -, hc⟩ := Json.start_of_readValue hread
  unfold file?
  split
  · rename_i path hat
    rw [Value.display, String.toList_ofList, Json.pretty] at hat
    rw [List.append_nil, hat] at hstart
    cases hstart
    exact absurd rfl hc
  · rfl

/-- A value that is shown as what it is written as, comes back when its text is given as an
argument, exactly if it is nested at most 127 levels: an integer in the signed form if it fits, and
all else as it was. This is so whatever is on the disk, because the text is never the name of a
file. -/
theorem ofArgument_display (disk : Disk) {v : Value} (hform : v.WellFormed) (hlegible : v.Legible) :
    ofArgument disk v.display = .ok v.norm ↔ v.depth ≤ 127 := by
  have htext : ofArgument disk v.display = ofText v.display := by
    rw [ofArgument, file?_display hform hlegible]
  rw [htext]
  constructor
  · intro h
    unfold ofText at h
    split at h
    · cases h
    · rename_i json hread
      split at h
      · cases h
      · rename_i w hvalue
        cases h
        have hdepth := Value.depth_le_of_ofJson (Json.within_of_read hread) hvalue
        rwa [Value.depth_norm hlegible] at hdepth
  · intro hdepth
    have hread : Json.read v.display = .ok v.toJson :=
      Json.read_pretty (Value.exact_toJson hlegible hform hdepth)
    rw [ofText, hread]
    dsimp only
    rw [Value.ofJson_toJson hlegible hform]

/-- A map with a key and a text that need escapes, the least integer under the key of instants, and
two unsigned integers, the first of which fits the signed form. -/
def crowded : Value :=
  .map [("\x00\"\\\n", .string "\x1b[1m\t@/\u00e9"), ("$time", .int Int64.minValue),
    ("n", .array [.uint 9223372036854775807, .uint 18446744073709551615, .array [], .map [],
      .map [("$time", .nil), ("$times", .bool true)]])]

/-- Its keys stand in order. -/
theorem crowded_wellFormed : crowded.WellFormed := by
  refine ⟨?_, trivial, trivial, ⟨trivial, trivial, trivial, ⟨.nil, trivial⟩,
    ⟨?_, trivial, trivial, trivial⟩, trivial⟩, trivial⟩
  all_goals
    unfold Fields.Sorted
    decide

/-- None of its maps could be taken for an instant. -/
theorem crowded_legible : crowded.Legible := by
  have hinner : (Value.map [("$time", .nil), ("$times", .bool true)]).Legible := by
    refine .map (by decide) ?_
    simp only [List.forall_mem_cons]
    exact ⟨.nil, .bool true, List.forall_mem_nil _⟩
  have hitems : (Value.array [.uint 9223372036854775807, .uint 18446744073709551615, .array [],
      .map [], .map [("$time", .nil), ("$times", .bool true)]]).Legible := by
    refine .array ?_
    simp only [List.forall_mem_cons]
    exact ⟨.uint _, .uint _, .array (List.forall_mem_nil _),
      .map (by decide) (List.forall_mem_nil _), hinner, List.forall_mem_nil _⟩
  refine .map (by decide) ?_
  simp only [List.forall_mem_cons]
  exact ⟨.string _, .int _, hitems, List.forall_mem_nil _⟩

/-- It is read back, and only the integer that fits the signed form has changed. -/
theorem ofArgument_display_crowded : crowded.WellFormed ∧ crowded.Legible ∧ crowded.depth = 3 ∧
    ofArgument (Disk.ofFiles []) crowded.display = .ok
      (.map [("\x00\"\\\n", .string "\x1b[1m\t@/\u00e9"), ("$time", .int Int64.minValue),
        ("n", .array [.int 9223372036854775807, .uint 18446744073709551615, .array [], .map [],
          .map [("$time", .nil), ("$times", .bool true)]])]) :=
  ⟨crowded_wellFormed, crowded_legible, by rfl,
    (ofArgument_display (Disk.ofFiles []) crowded_wellFormed crowded_legible).mpr (by decide)⟩

end Payload

end Courier
