import Courier.Fields
import Mathlib

/-!
# `Courier.Proofs.Fields`: what bringing fields into order does

`Fields.ofList` sorts fields by name and drops those that a later field of the same name
overrides. The result is in order (`sorted_ofList`), holds fields of the list only
(`mem_of_mem_ofList`), and has under each name the last value that the list has under it
(`get?_ofList`).

The last point needs the sort to be stable. It is about the fields of one name at a time, and
these are in order as they stand, so the sort keeps them so (`filter_mergeSort`).

`Fields.insert` changes what is under one name (`get?_insert`) and keeps the order
(`sorted_insert`). Fields in order are a function of names: they are known by what is under each of
them (`ext_of_sorted`).
-/

set_option autoImplicit false

namespace Courier.Fields

variable {α : Type}

/-! ### Sorting by name -/

/-- The comparison of two fields that the sort asks for is transitive. -/
theorem byName_trans (a b c : String × α) (hab : decide (a.1 ≤ b.1) = true)
    (hbc : decide (b.1 ≤ c.1) = true) : decide (a.1 ≤ c.1) = true :=
  decide_eq_true (String.le_trans (of_decide_eq_true hab) (of_decide_eq_true hbc))

/-- And it holds one way or the other. -/
theorem byName_total (a b : String × α) : (decide (a.1 ≤ b.1) || decide (b.1 ≤ a.1)) = true := by
  rcases String.le_total a.1 b.1 with h | h
  · rw [decide_eq_true h, Bool.true_or]
  · rw [decide_eq_true h, Bool.or_true]

/-- The names of sorted fields ascend, not yet strictly. -/
theorem pairwise_mergeSort (fields : List (String × α)) :
    (fields.mergeSort fun a b => decide (a.1 ≤ b.1)).Pairwise fun a b => a.1 ≤ b.1 :=
  (List.pairwise_mergeSort byName_trans byName_total fields).imp of_decide_eq_true

/-- Sorting keeps the fields of one name as they stand. -/
theorem filter_mergeSort (fields : List (String × α)) (name : String) :
    (fields.mergeSort fun a b => decide (a.1 ≤ b.1)).filter (fun p => p.1 = name)
      = fields.filter fun p => p.1 = name := by
  -- among themselves they are in order, so they are a sublist of what the sort makes
  have hsame : (fields.filter fun p => p.1 = name).Pairwise
      fun a b => decide (a.1 ≤ b.1) = true := by
    refine List.pairwise_iff_forall_sublist.mpr fun {a b} hab => ?_
    have ha := hab.mem (List.mem_cons_self)
    have hb := hab.mem (List.mem_cons_of_mem a (List.mem_singleton_self b))
    have hname : a.1 = b.1 :=
      (of_decide_eq_true (List.mem_filter.mp ha).2).trans
        (of_decide_eq_true (List.mem_filter.mp hb).2).symm
    exact decide_eq_true (hname ▸ String.le_refl a.1)
  have hsub := (List.sublist_mergeSort byName_trans byName_total hsame
    List.filter_sublist).filter fun p => p.1 = name
  rw [List.filter_filter] at hsub
  simp only [Bool.and_self] at hsub
  -- and there are no others of that name
  have hperm := (List.mergeSort_perm fields fun a b => decide (a.1 ≤ b.1)).filter
    fun p => p.1 = name
  exact (hsub.eq_of_length hperm.length_eq.symm).symm

/-! ### Dropping what is overridden -/

/-- A field has a lesser name than one that it stands before and that does not override it. -/
theorem name_lt {p q : String × α} (hle : p.1 ≤ q.1) (hne : p.1 ≠ q.1) : p.1 < q.1 :=
  String.not_le.mp fun hge => hne (String.le_antisymm hle hge)

/-- Nothing is new but the field in front. -/
theorem mem_of_mem_consOverridden {p x : String × α} {fields : List (String × α)}
    (h : x ∈ consOverridden p fields) : x = p ∨ x ∈ fields := by
  cases fields with
  | nil => simpa [consOverridden] using h
  | cons q rest =>
    rw [consOverridden] at h
    split at h
    · exact .inr h
    · exact List.mem_cons.mp h

/-- Nothing is new among the fields that are left. -/
theorem mem_of_mem_foldr {x : String × α} {fields : List (String × α)}
    (h : x ∈ fields.foldr consOverridden []) : x ∈ fields := by
  induction fields with
  | nil => exact h
  | cons p rest ih =>
    rw [List.foldr_cons] at h
    rcases mem_of_mem_consOverridden h with rfl | hx
    · exact List.mem_cons_self
    · exact List.mem_cons_of_mem _ (ih hx)

/-- A field in front makes the fields longer by one at most. -/
theorem length_consOverridden_le (p : String × α) (fields : List (String × α)) :
    (consOverridden p fields).length ≤ fields.length + 1 := by
  cases fields with
  | nil => simp [consOverridden]
  | cons q rest =>
    rw [consOverridden]
    split <;> simp

/-- A field in front of fields in order, none of which has a lesser name, leaves them in order. -/
theorem sorted_consOverridden {p : String × α} {fields : List (String × α)}
    (hp : ∀ q ∈ fields, p.1 ≤ q.1) (h : Sorted fields) : Sorted (consOverridden p fields) := by
  cases fields with
  | nil => exact List.pairwise_singleton _ p
  | cons q rest =>
    rw [consOverridden]
    split
    · exact h
    · rename_i hne
      have hlt : p.1 < q.1 := name_lt (hp q List.mem_cons_self) hne
      refine List.pairwise_cons.mpr ⟨fun x hx => ?_, h⟩
      rcases List.mem_cons.mp hx with rfl | hx
      · exact hlt
      · exact String.lt_trans hlt ((List.pairwise_cons.mp h).1 x hx)

/-- The first field counts if it has the name. -/
theorem get?_cons (p : String × α) (fields : List (String × α)) (name : String) :
    get? (p :: fields) name = if p.1 = name then some p.2 else get? fields name := by
  unfold get?
  rw [List.find?_cons]
  by_cases h : p.1 = name <;> simp [h]

/-- Fields in order that begin after a name have nothing under it. -/
theorem get?_eq_none {fields : List (String × α)} {name : String}
    (h : ∀ q ∈ fields, name < q.1) : get? fields name = none := by
  unfold get?
  rw [List.find?_eq_none.mpr, Option.map_none]
  intro q hq
  simpa using fun he : q.1 = name => String.lt_irrefl q.1 (he ▸ h q hq)

/-- The field in front counts only if no other field has its name. -/
theorem get?_consOverridden {p : String × α} {fields : List (String × α)}
    (hp : ∀ q ∈ fields, p.1 ≤ q.1) (h : Sorted fields) (name : String) :
    get? (consOverridden p fields) name
      = (get? fields name).or (if p.1 = name then some p.2 else none) := by
  cases fields with
  | nil => simp [consOverridden, get?]
  | cons q rest =>
    rw [consOverridden]
    split
    · rename_i heq
      by_cases hname : p.1 = name
      · rw [get?_cons, if_pos (heq ▸ hname), Option.some_or]
      · rw [if_neg hname, Option.or_none]
    · rename_i hne
      rw [get?_cons]
      by_cases hname : p.1 = name
      · -- all the others have greater names
        have hlt : p.1 < q.1 := name_lt (hp q List.mem_cons_self) hne
        have hnone : get? (q :: rest) name = none := by
          refine get?_eq_none fun x hx => ?_
          rcases List.mem_cons.mp hx with rfl | hx
          · exact hname ▸ hlt
          · exact hname ▸ String.lt_trans hlt ((List.pairwise_cons.mp h).1 x hx)
        rw [hnone, if_pos hname, Option.none_or]
      · rw [if_neg hname, if_neg hname, Option.or_none]

/-- Of fields whose names ascend, each name keeps its last value, in strict order. -/
theorem foldr_consOverridden {fields : List (String × α)}
    (h : fields.Pairwise fun a b => a.1 ≤ b.1) :
    Sorted (fields.foldr consOverridden []) ∧
      ∀ name, get? (fields.foldr consOverridden []) name = get? fields.reverse name := by
  induction fields with
  | nil => exact ⟨.nil, fun _ => rfl⟩
  | cons p rest ih =>
    obtain ⟨hp, hrest⟩ := List.pairwise_cons.mp h
    obtain ⟨hsorted, hget⟩ := ih hrest
    have hbelow : ∀ q ∈ rest.foldr consOverridden [], p.1 ≤ q.1 :=
      fun q hq => hp q (mem_of_mem_foldr hq)
    refine ⟨sorted_consOverridden hbelow hsorted, fun name => ?_⟩
    -- the field in front is the last one of the list the other way round
    have hlast : get? (rest.reverse ++ [p]) name
        = (get? rest.reverse name).or (if p.1 = name then some p.2 else none) := by
      unfold get?
      rw [List.find?_append, Option.map_or]
      by_cases hname : p.1 = name <;> simp [hname]
    rw [List.foldr_cons, get?_consOverridden hbelow hsorted, hget, List.reverse_cons, hlast]

/-! ### The whole -/

/-- Bringing fields into order makes no new ones. -/
theorem mem_of_mem_ofList {x : String × α} {fields : List (String × α)}
    (h : x ∈ ofList fields) : x ∈ fields :=
  List.mem_mergeSort.mp (mem_of_mem_foldr h)

/-- Fields do not become more by being put in order. -/
theorem length_ofList_le (fields : List (String × α)) :
    (ofList fields).length ≤ fields.length := by
  have hfold : ∀ sorted : List (String × α),
      (sorted.foldr consOverridden []).length ≤ sorted.length := by
    intro sorted
    induction sorted with
    | nil => exact Nat.le_refl 0
    | cons p rest ih =>
      have hcons := length_consOverridden_le p (rest.foldr consOverridden [])
      rw [List.foldr_cons, List.length_cons]
      omega
  calc (ofList fields).length
      ≤ (fields.mergeSort fun a b => decide (a.1 ≤ b.1)).length := hfold _
    _ = fields.length := List.length_mergeSort fields

/-- They stand in ascending order of their names. -/
theorem sorted_ofList (fields : List (String × α)) : Sorted (ofList fields) :=
  (foldr_consOverridden (pairwise_mergeSort fields)).1

/-- Each name has the value of the last field of that name. -/
theorem get?_ofList (fields : List (String × α)) (name : String) :
    get? (ofList fields) name = get? fields.reverse name := by
  have hlast : ∀ list : List (String × α),
      get? list.reverse name = (list.filter fun p => p.1 = name).getLast?.map Prod.snd := by
    intro list
    rw [get?, List.getLast?_filter]
  unfold ofList
  rw [(foldr_consOverridden (pairwise_mergeSort fields)).2, hlast, hlast, filter_mergeSort]

/-- Bringing fields into order looks at their names only, so it does not matter whether the values
are changed before or after. -/
theorem ofList_map {β : Type} (f : α → β) (fields : List (String × α)) :
    ofList (fields.map fun p => (p.1, f p.2)) = (ofList fields).map fun p => (p.1, f p.2) := by
  have hsort : (fields.map fun p => (p.1, f p.2)).mergeSort (fun a b => decide (a.1 ≤ b.1))
      = (fields.mergeSort fun a b => decide (a.1 ≤ b.1)).map fun p => (p.1, f p.2) := by
    symm
    apply List.map_mergeSort
    intro a _ b _
    rfl
  unfold ofList
  rw [hsort]
  -- what is overridden is dropped by its name, too
  generalize fields.mergeSort (fun a b => decide (a.1 ≤ b.1)) = sorted
  induction sorted with
  | nil => rfl
  | cons p rest ih =>
    rw [List.map_cons, List.foldr_cons, List.foldr_cons, ih]
    cases rest.foldr consOverridden [] with
    | nil => rfl
    | cons q kept =>
      rw [List.map_cons, consOverridden, consOverridden]
      by_cases hsame : p.1 = q.1
      · rw [if_pos hsame, if_pos hsame, List.map_cons]
      · rw [if_neg hsame, if_neg hsame, List.map_cons, List.map_cons]

/-- Only the inserted field is new. -/
theorem mem_of_mem_insert {name : String} {v : α} {x : String × α} {fields : List (String × α)}
    (h : x ∈ insert name v fields) : x = (name, v) ∨ x ∈ fields := by
  induction fields with
  | nil => simpa [insert] using h
  | cons p rest ih =>
    unfold insert at h
    split at h
    · exact List.mem_cons.mp h
    · split at h
      · -- the field takes the place of one with its name
        rcases List.mem_cons.mp h with he | hx
        · exact .inl he
        · exact .inr (List.mem_cons_of_mem _ hx)
      · rcases List.mem_cons.mp h with rfl | hx
        · exact .inr List.mem_cons_self
        · exact (ih hx).imp id (List.mem_cons_of_mem _)

/-- Setting a field changes what is under its name, and nothing else. -/
theorem get?_insert (name : String) (v : α) (fields : List (String × α)) (key : String) :
    get? (insert name v fields) key = if name = key then some v else get? fields key := by
  induction fields with
  | nil => rw [insert, get?_cons]
  | cons p rest ih =>
    rw [insert]
    by_cases hless : name < p.1
    · rw [if_pos hless, get?_cons]
    · rw [if_neg hless]
      by_cases hsame : name = p.1
      · -- the field in front had the name, so it is found by no other key
        rw [if_pos hsame, get?_cons]
        by_cases hkey : name = key
        · rw [if_pos hkey, if_pos hkey]
        · rw [if_neg hkey, if_neg hkey, get?_cons, if_neg (hsame ▸ hkey)]
      · rw [if_neg hsame, get?_cons, ih, get?_cons]
        by_cases hfront : p.1 = key
        · rw [if_pos hfront, if_neg fun hkey => hsame (hkey.trans hfront.symm), if_pos hfront]
        · rw [if_neg hfront, if_neg hfront]

/-- The fields stay in order when one of them is set. -/
theorem sorted_insert (name : String) (v : α) {fields : List (String × α)} (h : Sorted fields) :
    Sorted (insert name v fields) := by
  induction fields with
  | nil => exact List.pairwise_singleton _ _
  | cons p rest ih =>
    obtain ⟨hp, hrest⟩ := List.pairwise_cons.mp h
    rw [insert]
    by_cases hless : name < p.1
    · rw [if_pos hless]
      refine List.pairwise_cons.mpr ⟨fun q hq => ?_, h⟩
      rcases List.mem_cons.mp hq with rfl | hq
      · exact hless
      · exact String.lt_trans hless (hp q hq)
    · rw [if_neg hless]
      by_cases hsame : name = p.1
      · rw [if_pos hsame]
        exact List.pairwise_cons.mpr ⟨fun q hq => hsame ▸ hp q hq, hrest⟩
      · -- the name is greater than the one in front
        have hgreater : p.1 < name := String.not_le.mp fun hle =>
          hsame (String.le_antisymm (String.not_lt.mp hless) hle).symm
        rw [if_neg hsame]
        refine List.pairwise_cons.mpr ⟨fun q hq => ?_, ih hrest⟩
        rcases mem_of_mem_insert hq with rfl | hq
        · exact hgreater
        · exact hp q hq

/-! ### Fields as functions of their names -/

/-- What is found is there. -/
theorem mem_of_get? {fields : List (String × α)} {name : String} {v : α}
    (h : get? fields name = some v) : (name, v) ∈ fields := by
  obtain ⟨⟨key, _⟩, hp, rfl⟩ := Option.map_eq_some_iff.mp h
  have hfound := List.find?_some hp
  have hname : key = name := of_decide_eq_true hfound
  subst hname
  exact List.mem_of_find?_eq_some hp

/-- Choosing among fields in order chooses from what is under each name. -/
theorem get?_filter {fields : List (String × α)} (h : Sorted fields)
    (keep : String × α → Bool) (name : String) :
    get? (fields.filter keep) name = (get? fields name).filter fun v => keep (name, v) := by
  induction fields with
  | nil => rfl
  | cons p rest ih =>
    obtain ⟨hp, hrest⟩ := List.pairwise_cons.mp h
    rw [List.filter_cons, get?_cons]
    by_cases hname : p.1 = name
    · obtain ⟨key, v⟩ := p
      cases hname
      rw [if_pos rfl, Option.filter_some]
      by_cases hkeep : keep (key, v) = true
      · rw [if_pos hkeep, if_pos hkeep, get?_cons, if_pos rfl]
      · -- the name does not come again
        rw [if_neg hkeep, if_neg hkeep]
        exact get?_eq_none fun q hq => hp q (List.mem_of_mem_filter hq)
    · rw [if_neg hname, ← ih hrest]
      split
      · rw [get?_cons, if_neg hname]
      · rfl

/-- Fields in order have nothing under a name that is less than the first. -/
theorem le_of_get? {p : String × α} {fields : List (String × α)} (h : Sorted (p :: fields))
    {name : String} {v : α} (hget : get? (p :: fields) name = some v) : p.1 ≤ name := by
  by_contra hle
  have hlt : name < p.1 := String.not_le.mp hle
  have hnone : get? (p :: fields) name = none := by
    refine get?_eq_none fun q hq => ?_
    rcases List.mem_cons.mp hq with rfl | hq
    · exact hlt
    · exact String.lt_trans hlt ((List.pairwise_cons.mp h).1 q hq)
  rw [hnone] at hget
  cases hget

/-- Fields in order are known by what is under each name. -/
theorem ext_of_sorted {fields others : List (String × α)} (hf : Sorted fields)
    (ho : Sorted others) (h : ∀ name, get? fields name = get? others name) : fields = others := by
  induction fields generalizing others with
  | nil =>
    cases others with
    | nil => rfl
    | cons q rest =>
      have hq := h q.1
      rw [get?_cons, if_pos rfl] at hq
      cases hq
  | cons p rest ih =>
    have hp : get? (p :: rest) p.1 = some p.2 := by rw [get?_cons, if_pos rfl]
    cases others with
    | nil =>
      rw [h] at hp
      cases hp
    | cons q others =>
      have hq : get? (q :: others) q.1 = some q.2 := by rw [get?_cons, if_pos rfl]
      -- each of the two first names is under the other list, so neither is less
      have hname : p.1 = q.1 :=
        String.le_antisymm (le_of_get? hf ((h q.1).trans hq))
          (le_of_get? ho ((h p.1).symm.trans hp))
      have hvalue : p.2 = q.2 := by
        rw [h, hname, hq] at hp
        exact (Option.some.inj hp).symm
      obtain ⟨hpfirst, hrest⟩ := List.pairwise_cons.mp hf
      obtain ⟨hqfirst, hothers⟩ := List.pairwise_cons.mp ho
      rw [Prod.ext hname hvalue]
      refine congrArg (q :: ·) (ih hrest hothers fun name => ?_)
      by_cases hfirst : p.1 = name
      · rw [get?_eq_none (hfirst ▸ hpfirst), get?_eq_none (hname.symm.trans hfirst ▸ hqfirst)]
      · have hothername := h name
        rwa [get?_cons, get?_cons, if_neg hfirst, if_neg (hname ▸ hfirst)] at hothername

end Courier.Fields
