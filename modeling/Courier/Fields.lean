/-!
# `Courier.Fields`: named fields in the order of their names

Maps with text keys are lists of fields in strictly ascending order of the names, which for
texts is the order of their UTF-8 bytes. `ofList` brings any list of fields into that form; of
two fields with one name the later one counts. A list that has the form already is kept
(`ofList_of_sorted`).
-/

set_option autoImplicit false

namespace Courier.Fields

variable {α β : Type}

/-- The names ascend strictly, so each name occurs once. -/
def Sorted (fields : List (String × α)) : Prop := fields.Pairwise fun a b => a.1 < b.1

/-- Puts a field in front unless the first field has the same name and overrides it. -/
def consOverridden (p : String × α) : List (String × α) → List (String × α)
  | [] => [p]
  | q :: rest => if p.1 = q.1 then q :: rest else p :: q :: rest

/-- The fields in ascending order of names, the last one of each name. The sort is stable, so
fields of one name keep their order. -/
def ofList (fields : List (String × α)) : List (String × α) :=
  (fields.mergeSort fun a b => decide (a.1 ≤ b.1)).foldr consOverridden []

/-- The value of the field with this name. -/
def get? (fields : List (String × α)) (name : String) : Option α :=
  (fields.find? fun p => p.1 = name).map Prod.snd

/-- Sets the field with this name. -/
def insert (name : String) (x : α) : List (String × α) → List (String × α)
  | [] => [(name, x)]
  | p :: rest =>
    if name < p.1 then (name, x) :: p :: rest
    else if name = p.1 then (name, x) :: rest
    else p :: insert name x rest

/-- Of sorted fields none is overridden. -/
theorem foldr_consOverridden_of_sorted {fields : List (String × α)} (h : Sorted fields) :
    fields.foldr consOverridden [] = fields := by
  induction fields with
  | nil => rfl
  | cons p rest ih =>
    obtain ⟨hp, hrest⟩ := List.pairwise_cons.mp h
    rw [List.foldr_cons, ih hrest]
    cases rest with
    | nil => rfl
    | cons q rest =>
      have hne : p.1 ≠ q.1 := fun he => String.lt_irrefl q.1 (he ▸ hp q (by simp))
      simp [consOverridden, hne]

/-- Fields in order stay as they are. -/
theorem ofList_of_sorted {fields : List (String × α)} (h : Sorted fields) :
    ofList fields = fields := by
  have hle : fields.Pairwise fun a b => decide (a.1 ≤ b.1) = true :=
    h.imp fun hlt => decide_eq_true (String.not_lt.mp (String.lt_asymm hlt))
  rw [ofList, List.mergeSort_of_pairwise hle, foldr_consOverridden_of_sorted h]

end Courier.Fields
