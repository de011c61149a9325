import Courier.Proofs.Json.Glance
import Courier.Proofs.Text.Case
import Courier.Site.Record

/-!
# `Courier.Proofs.Site.Record`: which sites are read, and with which role

A site is read while its text is, field by field, and no object is ever built. What a text says of
a site is told by the fields that `Lists` finds in it. `Told` says it of one field: the field stands
at most once, its value is of the right type, and where it is missing the default is kept. One more
field is entered exactly if it is told right (`told_cons_iff`), and so an object is read as a site
exactly if it tells every field of the site (`ofJsonText_eq_ok_iff`).

Names of roles are read in two ways. `SiteRole.parse` takes them in any case, and whatever is no
name stands for no role. A record has the stored names and nothing else, and that of no role is not
the one that is shown. The two agree on the stored names (`SiteRole.parse_storedName`), and with any
other name a record is not read at all (`role_read_iff_stored_name`).
-/

set_option autoImplicit false

namespace Courier

/-! ### Names of roles -/

namespace SiteRole

variable {s : String} {r : SiteRole}

/-- Only the role of nobody is stored under another name than it is shown. -/
theorem name_eq_storedName_iff : r.name = r.storedName ↔ r ≠ .none := by
  cases r <;> decide

/-- Every role but that of nobody has a name. -/
theorem named?_eq_some_iff : named? s = some r ↔ r ≠ .none ∧ s = r.name := by
  constructor
  · intro h
    have hname : r.name = s := by simpa using List.find?_some h
    refine ⟨?_, hname.symm⟩
    rintro rfl
    exact absurd (List.mem_of_find?_eq_some h) (by decide)
  · rintro ⟨hrole, rfl⟩
    cases r with
    | none => exact absurd rfl hrole
    | _ => rfl

/-- A role is read from its name in any case. What is no name stands for no role. -/
theorem parse_eq_iff (hr : r ≠ .none) : parse s = r ↔ Text.lowercase s = r.name := by
  unfold parse
  cases hnamed : named? (Text.lowercase s) with
  | none =>
    refine ⟨fun h => absurd h.symm hr, fun h => ?_⟩
    rw [named?_eq_some_iff.mpr ⟨hr, h⟩] at hnamed
    cases hnamed
  | some found =>
    obtain ⟨hfound, hname⟩ := named?_eq_some_iff.mp hnamed
    rw [Option.getD_some]
    constructor
    · rintro rfl
      exact hname
    · intro h
      rw [named?_eq_some_iff.mpr ⟨hr, h⟩] at hnamed
      exact (Option.some.inj hnamed).symm

/-- A stored name stands for the one role that is stored under it. -/
theorem stored?_eq_some_iff : stored? s = some r ↔ s = r.storedName := by
  constructor
  · intro h
    unfold stored? at h
    split at h
    · rename_i hnone
      cases h
      exact hnone
    · obtain ⟨hrole, rfl⟩ := named?_eq_some_iff.mp h
      rw [storedName, if_neg hrole]
  · rintro rfl
    cases r <;> rfl

/-- The name of a role in a stored record stands for it in any case. -/
theorem parse_storedName (r : SiteRole) : parse r.storedName = r := by
  cases r <;> decide +kernel

end SiteRole

namespace ActiveSite

open Json

/-! ### One field -/

namespace Field

/-- The site with the value of a field, if the value is of the right type. -/
def put? (f : Field) (s : ActiveSite) : Json → Option ActiveSite
  | .number n =>
    match f with
    | .id => n.asInt64?.map fun x => { s with id := x }
    | _ => none
  | .string x =>
    match f with
    | .id => none
    | .domain => some { s with domain := x }
    | .name => some { s with name := x }
    | .logo => some { s with logo := x }
    | .favicon => some { s with favicon := x }
    | .role => (SiteRole.stored? x).map fun r => { s with role := r }
  | _ => none

/-- Whether a value is that of a field of a site. -/
def Holds (f : Field) (s : ActiveSite) (v : Json) : Prop :=
  match f with
  | .id => ∃ n, v = .number n ∧ n.asInt64? = some s.id
  | .domain => v = .string s.domain
  | .name => v = .string s.name
  | .logo => v = .string s.logo
  | .favicon => v = .string s.favicon
  | .role => v = .string s.role.storedName

/-- Whether a field of two sites is the same. -/
def Same (f : Field) (s t : ActiveSite) : Prop :=
  match f with
  | .id => s.id = t.id
  | .domain => s.domain = t.domain
  | .name => s.name = t.name
  | .logo => s.logo = t.logo
  | .favicon => s.favicon = t.favicon
  | .role => s.role = t.role

variable {f : Field} {s t : ActiveSite} {v : Json} {cs rest : List Char}

/-- There are six fields. -/
theorem forall_iff {p : Field → Prop} :
    (∀ f, p f) ↔ p .id ∧ p .domain ∧ p .name ∧ p .logo ∧ p .favicon ∧ p .role := by
  refine ⟨fun h => ⟨h _, h _, h _, h _, h _, h _⟩, ?_⟩
  rintro ⟨hid, hdomain, hname, hlogo, hfavicon, hrole⟩ f
  cases f <;> assumption

/-- Two sites are the same if all of their fields are. -/
theorem eq_iff_same : s = t ↔ ∀ f : Field, f.Same s t := by
  rw [forall_iff]
  cases s
  cases t
  exact ActiveSite.mk.injEq .. ▸ Iff.rfl

/-- Exactly the one field is changed, and to the value. -/
theorem put?_eq_some_iff :
    f.put? s v = some t ↔ f.Holds t v ∧ ∀ g, g ≠ f → g.Same s t := by
  cases f <;> cases v <;>
    simp [put?, Holds, forall_iff, eq_iff_same, Same, SiteRole.stored?_eq_some_iff]
  -- what is left are the same six comparisons in another order
  all_goals tauto

/-- A value of the right type can be put in. -/
theorem exists_put? (h : f.Holds t v) (s : ActiveSite) :
    ∃ u, f.put? s v = some u ∧ f.Same u t := by
  cases f with
  | id =>
    obtain ⟨n, rfl, hn⟩ := h
    exact ⟨{ s with id := t.id }, by rw [put?, hn]; rfl, rfl⟩
  | role =>
    obtain rfl := h
    exact ⟨{ s with role := t.role }, by rw [put?, SiteRole.stored?_eq_some_iff.mpr rfl]; rfl, rfl⟩
  | domain | name | logo | favicon =>
    obtain rfl := h
    exact ⟨_, rfl, rfl⟩

/-- What a field holds depends on this field alone. -/
theorem holds_congr (h : f.Same s t) : f.Holds s v ↔ f.Holds t v := by
  cases f <;> simp_all [Same, Holds]

/-- Sites with the same field can take each other's place. -/
theorem same_congr {u : ActiveSite} (h : f.Same s u) : f.Same u t ↔ f.Same s t := by
  cases f <;> simp_all [Same]

/-- Every key is that of one field. -/
theorem find?_key_eq_some_iff {key : String} :
    (all.find? fun f => f.key = key) = some f ↔ key = f.key := by
  constructor
  · intro h
    have hkey : f.key = key := by simpa using List.find?_some h
    exact hkey.symm
  · rintro rfl
    cases f <;> rfl

/-- No two fields have the same key. -/
theorem key_injective {g : Field} (h : f.key = g.key) : f = g := by
  have hf : (all.find? fun x => x.key = f.key) = some f := find?_key_eq_some_iff.mpr rfl
  have hg : (all.find? fun x => x.key = f.key) = some g := find?_key_eq_some_iff.mpr h
  exact Option.some.inj (hf.symm.trans hg)

end Field

/-! ### The fields of an object -/

/-- What has been read of an object, after one more field: which fields have been read, and the site
that they make. -/
def enter? (state : List Field × ActiveSite) (p : String × Option Json) :
    Option (List Field × ActiveSite) :=
  match Field.all.find? fun f => f.key = p.1 with
  | none => some state
  | some f =>
    if state.1.contains f then none
    else (p.2.bind (f.put? state.2)).map fun s => (f :: state.1, s)

/-- How a field of a site `t` comes about that is read from the given fields of an object, when
those in `seen` have been read before and have made the site `s`. -/
@[mk_iff]
structure Told (seen : List Field) (s : ActiveSite) (fields : List (String × Option Json))
    (t : ActiveSite) (f : Field) : Prop where
  /-- No field of a site stands twice. -/
  once : (fields.map Prod.fst).count f.key ≤ 1
  /-- Nor does it stand here if it has been read before. -/
  fresh : f ∈ seen → f.key ∉ fields.map Prod.fst
  /-- What stands for it is its value. -/
  value : ∀ v?, (f.key, v?) ∈ fields → ∃ v, v? = some v ∧ f.Holds t v
  /-- What is missing stays as it is. -/
  default : f.key ∉ fields.map Prod.fst → f.Same s t

section
variable {seen : List Field} {s t : ActiveSite} {fields : List (String × Option Json)} {f : Field}
  {key : String} {v? : Option Json}

/-- A field that does not stand in an object keeps what it was. -/
theorem told_nil : Told seen s [] t f ↔ f.Same s t := by
  simp [told_iff]

/-- A field is told without regard to those with another key. -/
theorem told_cons_of_ne (h : key ≠ f.key) :
    Told seen s ((key, v?) :: fields) t f ↔ Told seen s fields t f := by
  have hcount : (((key, v?) :: fields).map Prod.fst).count f.key
      = (fields.map Prod.fst).count f.key := List.count_cons_of_ne h
  have hmem : f.key ∈ ((key, v?) :: fields).map Prod.fst ↔ f.key ∈ fields.map Prod.fst := by
    simp [h.symm]
  have hvalue : ∀ w?, (f.key, w?) ∈ (key, v?) :: fields ↔ (f.key, w?) ∈ fields := by
    simp [h.symm]
  simp only [told_iff, hcount, hmem, hvalue]

/-- A field that stands in front must be the first and the last with its key. -/
theorem told_cons_self : Told seen s ((f.key, v?) :: fields) t f ↔
    f ∉ seen ∧ f.key ∉ fields.map Prod.fst ∧ ∃ v, v? = some v ∧ f.Holds t v := by
  have hcount : (((f.key, v?) :: fields).map Prod.fst).count f.key
      = (fields.map Prod.fst).count f.key + 1 := List.count_cons_self
  have hkey : f.key ∈ ((f.key, v?) :: fields).map Prod.fst := List.mem_cons_self
  constructor
  · rintro ⟨once, fresh, value, -⟩
    rw [hcount] at once
    refine ⟨fun hseen => fresh hseen hkey, ?_, value v? List.mem_cons_self⟩
    exact List.count_eq_zero.mp (Nat.le_zero.mp (Nat.le_of_succ_le_succ once))
  · rintro ⟨hunseen, hlast, hvalue⟩
    refine ⟨?_, fun hseen => absurd hseen hunseen, fun w? hw => ?_, fun hnone => absurd hkey hnone⟩
    · rw [hcount, List.count_eq_zero.mpr hlast]
    · rcases List.mem_cons.mp hw with hsame | hlater
      · rw [(Prod.mk.inj hsame).2]
        exact hvalue
      · exact absurd (List.mem_map_of_mem hlater) hlast

/-- A field that has been read must not stand again, and stays as it was read. -/
theorem told_of_mem_seen (h : f ∈ seen) :
    Told seen s fields t f ↔ f.key ∉ fields.map Prod.fst ∧ f.Same s t := by
  constructor
  · intro htold
    exact ⟨htold.fresh h, htold.default (htold.fresh h)⟩
  · rintro ⟨hlast, hsame⟩
    refine ⟨?_, fun _ => hlast, fun v? hv => ?_, fun _ => hsame⟩
    · rw [List.count_eq_zero.mpr hlast]
      exact Nat.zero_le 1
    · exact absurd (List.mem_map_of_mem hv) hlast

/-- A field is told without regard to what becomes of another one. -/
theorem told_of_other {g : Field} {u : ActiveSite} (hother : f ≠ g) (hsame : f.Same s u) :
    Told (g :: seen) u fields t f ↔ Told seen s fields t f := by
  simp only [told_iff, List.mem_cons, hother, false_or, Field.same_congr hsame]

/-- One more field is entered exactly if it is told right. -/
theorem told_cons_iff {p : String × Option Json} :
    (∀ f, Told seen s (p :: fields) t f) ↔
      ∃ state, enter? (seen, s) p = some state ∧ ∀ f, Told state.1 state.2 fields t f := by
  obtain ⟨key, v?⟩ := p
  unfold enter?
  dsimp only
  cases hfind : Field.all.find? fun f => f.key = key with
  | none =>
    -- the key of no field is passed over
    have hother : ∀ f : Field, key ≠ f.key := by
      rintro f hkey
      rw [Field.find?_key_eq_some_iff.mpr hkey] at hfind
      cases hfind
    simp only [told_cons_of_ne (hother _), Option.some.injEq, exists_eq_left']
  | some g =>
    -- the key is that of `g`, so only `g` is entered, and of the others nothing changes
    obtain rfl := Field.find?_key_eq_some_iff.mp hfind
    have hkey : ∀ f, f ≠ g → g.key ≠ f.key :=
      fun f hother hkey => hother (Field.key_injective hkey.symm)
    dsimp only
    constructor
    · intro h
      obtain ⟨hunseen, hlast, v, rfl, hv⟩ := told_cons_self.mp (h g)
      obtain ⟨u, hput, hsame⟩ := Field.exists_put? hv s
      refine ⟨(g :: seen, u), ?_, fun f => ?_⟩
      · rw [if_neg (by simpa using hunseen), Option.bind_some, hput]
        rfl
      · by_cases hfield : f = g
        · subst hfield
          exact (told_of_mem_seen List.mem_cons_self).mpr ⟨hlast, hsame⟩
        · rw [told_of_other hfield ((Field.put?_eq_some_iff.mp hput).2 f hfield)]
          exact (told_cons_of_ne (hkey f hfield)).mp (h f)
    · rintro ⟨⟨after, u⟩, hstate, h⟩
      split at hstate
      · cases hstate
      · rename_i hunseen
        obtain ⟨_, hbind, hpair⟩ := Option.map_eq_some_iff.mp hstate
        cases hpair
        obtain ⟨v, rfl, hput⟩ := Option.bind_eq_some_iff.mp hbind
        obtain ⟨hv, hothers⟩ := Field.put?_eq_some_iff.mp hput
        intro f
        by_cases hfield : f = g
        · subst hfield
          obtain ⟨hlast, hsame⟩ := (told_of_mem_seen List.mem_cons_self).mp (h f)
          rw [told_cons_self]
          exact ⟨by simpa using hunseen, hlast, v, rfl, (Field.holds_congr hsame).mp hv⟩
        · rw [told_cons_of_ne (hkey f hfield), ← told_of_other hfield (hothers f hfield)]
          exact h f

/-- The fields that are read one after the other make a site exactly if they tell each field of
it. -/
theorem foldlM_enter?_iff : (∃ after, fields.foldlM enter? (seen, s) = some (after, t)) ↔
    ∀ f, Told seen s fields t f := by
  induction fields generalizing seen s with
  | nil =>
    simp only [List.foldlM_nil, told_nil, ← Field.eq_iff_same]
    refine ⟨fun ⟨_, h⟩ => (Prod.mk.inj (Option.some.inj h)).2, fun h => ⟨seen, ?_⟩⟩
    rw [h]
    rfl
  | cons p fields ih =>
    rw [told_cons_iff]
    simp only [List.foldlM_cons, ← ih]
    constructor
    · rintro ⟨after, h⟩
      obtain ⟨state, hstate, hrest⟩ := Option.bind_eq_some_iff.mp h
      exact ⟨state, hstate, after, hrest⟩
    · rintro ⟨state, hstate, after, hrest⟩
      exact ⟨after, Option.bind_eq_some_iff.mpr ⟨state, hstate, hrest⟩⟩

end

/-! ### What is read of a field -/

section
variable {cs rest after : List Char} {seen : List Field} {s t : ActiveSite} {f : Field}
  {key x : String} {v? : Option Json}

/-- A text is read where a string stands. -/
theorem readText_eq_ok_iff : readText cs = .ok (x, rest) ↔ StringAt cs x rest := by
  constructor
  · intro h
    unfold readText at h
    split at h
    · cases h
    · rename_i tail hstart
      exact ⟨tail, hstart, h⟩
    · cases h
  · rintro ⟨tail, hstart, hx⟩
    rw [readText, hstart]
    exact hx

/-- An integer is read where a number stands, if it fits. -/
theorem readInt64_eq_ok_iff {i : Int64} :
    readInt64 cs = .ok (i, rest) ↔ ∃ n, NumberAt cs n rest ∧ n.asInt64? = some i := by
  unfold readInt64
  extract_lets fits
  -- both kinds of numbers are taken if they fit
  have hfits : ∀ parsed, fits parsed = .ok (i, rest) ↔
      ∃ n, parsed = .ok (n, rest) ∧ n.asInt64? = some i := by
    rintro (fault | ⟨n, after⟩)
    · simp [fits]
    · cases hfit : n.asInt64? <;> simp [fits, hfit, and_comm]
  constructor
  · intro h
    split at h
    · cases h
    · rename_i tail hstart
      obtain ⟨n, hn, hi⟩ := (hfits _).mp h
      exact ⟨n, .inl ⟨tail, hstart, hn⟩, hi⟩
    · rename_i c tail _ hstart
      split at h
      · rename_i hdigit
        obtain ⟨n, hn, hi⟩ := (hfits _).mp h
        exact ⟨n, .inr ⟨c, tail, hstart, hdigit, hn⟩, hi⟩
      · cases h
  · rintro ⟨n, ⟨tail, hstart, hn⟩ | ⟨c, tail, hstart, hdigit, hn⟩, hi⟩
    · rw [hstart]
      exact (hfits _).mpr ⟨n, hn, hi⟩
    · rw [hstart]
      split
      · rename_i hnil
        cases hnil
      · rename_i hminus
        rw [(List.cons.inj hminus).1] at hdigit
        exact absurd hdigit (by decide)
      · rename_i hsame
        obtain ⟨rfl, rfl⟩ := List.cons.inj hsame
        rw [if_pos hdigit]
        exact (hfits _).mpr ⟨n, hn, hi⟩

/-- A role is read where its stored name stands. -/
theorem readRole_eq_ok_iff {r : SiteRole} (h : StringAt cs x rest) :
    readRole cs = .ok (r, after) ↔ SiteRole.stored? x = some r ∧ after = rest := by
  obtain ⟨tail, hstart, hx⟩ := h
  have hname : readText ('"' :: tail) = .ok (x, rest) :=
    readText_eq_ok_iff.mpr ⟨tail, rfl, hx⟩
  rw [readRole, hstart]
  show readRoleName ('"' :: tail) = _ ↔ _
  rw [readRoleName, hname]
  cases hstored : SiteRole.stored? x <;> simp [hstored, eq_comm]

/-- What is read of a field is what `glance` tells of its value, if that is of the right type. Of
roles only the names are meant. -/
theorem Field.read_eq_ok_iff (hvalue : glance cs = .ok (v?, rest))
    (hrole : f = .role → ∃ x, v? = some (.string x)) :
    f.read s cs = .ok (t, after) ↔ v?.bind (f.put? s) = some t ∧ after = rest := by
  have htext : ∀ x, readText cs = .ok (x, after) ↔ v? = some (.string x) ∧ after = rest := by
    intro x
    rw [readText_eq_ok_iff, ← glance_eq_string_iff, hvalue]
    simp [eq_comm]
  have hint : ∀ i, readInt64 cs = .ok (i, after) ↔
      ∃ n, v? = some (.number n) ∧ n.asInt64? = some i ∧ after = rest := by
    intro i
    rw [readInt64_eq_ok_iff]
    simp only [← glance_eq_number_iff, hvalue, Except.ok.injEq, Prod.mk.injEq, and_assoc]
    simp only [eq_comm (a := rest), and_comm (a := after = rest)]
  -- a text field differs from the next one only in where its text is put
  cases f with
  | id =>
    simp only [read, Parsed.map_eq_ok_iff, hint]
    rcases v? with _ | v
    · simp
    · cases v <;> simp [put?]
      simp only [and_right_comm (b := after = rest), exists_and_right]
  | role =>
    obtain ⟨x, rfl⟩ := hrole rfl
    simp only [read, Parsed.map_eq_ok_iff, readRole_eq_ok_iff (glance_eq_string_iff.mp hvalue)]
    simp [put?, and_right_comm (b := after = rest)]
  | domain | name | logo | favicon =>
    simp only [read, Parsed.map_eq_ok_iff, htext]
    rcases v? with _ | v
    · simp
    · cases v <;> simp [put?, and_comm]

/-- So a field is read where one more field is entered. -/
theorem readKeyed_eq_ok_iff {state : List Field × ActiveSite}
    (hfield : readField glance cs = .ok ((key, v?), rest))
    (hrole : key = Field.role.key → ∃ x, v? = some (.string x)) :
    readKeyed seen s cs = .ok (state, after) ↔
      enter? (seen, s) (key, v?) = some state ∧ after = rest := by
  obtain ⟨afterKey, afterColon, hkey, hcolon, hvalue⟩ := readField_eq_ok hfield
  unfold readKeyed enter?
  rw [hkey]
  dsimp only
  cases hfind : Field.all.find? fun f => f.key = key with
  | none =>
    -- the value under an unknown key is skipped, as `glance` skips it
    obtain ⟨_, hskip, -⟩ := Parsed.map_eq_ok hvalue
    dsimp only
    rw [hcolon]
    dsimp only
    rw [hskip]
    simp only [Parsed.map, Except.ok.injEq, Prod.mk.injEq, Option.some.injEq, eq_comm (a := rest)]
  | some f =>
    obtain rfl := Field.find?_key_eq_some_iff.mp hfind
    dsimp only
    split
    · exact ⟨nofun, fun h => nomatch h.1⟩
    · rw [hcolon]
      simp only [Parsed.map_eq_ok_iff, Option.map_eq_some_iff, and_right_comm (b := after = rest),
        Field.read_eq_ok_iff hvalue fun h => hrole (congrArg Field.key h), exists_and_right]

/-- What is read after a field goes on from what the field has made. -/
theorem readKeyed_then_eq_ok_iff {p : String × Option Json} {fields : List (String × Option Json)}
    {next : List Char} (readOn : List Field → ActiveSite → Reader ActiveSite)
    (hp : readField glance cs = .ok (p, next))
    (hrole : p.1 = Field.role.key → ∃ x, p.2 = some (.string x))
    (hnext : ∀ seen s, readOn seen s next = .ok (t, after) ↔
      (∃ state, fields.foldlM enter? (seen, s) = some (state, t)) ∧ after = rest) :
    (match readKeyed seen s cs with
      | .error e => .error e
      | .ok ((seen, s), next) => readOn seen s next : Parsed ActiveSite) = .ok (t, after) ↔
      (∃ state, (p :: fields).foldlM enter? (seen, s) = some (state, t)) ∧ after = rest := by
  constructor
  · intro h
    split at h
    · cases h
    · rename_i hread
      obtain ⟨henter, rfl⟩ := (readKeyed_eq_ok_iff hp hrole).mp hread
      obtain ⟨⟨state, hfold⟩, hafter⟩ := (hnext _ _).mp h
      exact ⟨⟨state, Option.bind_eq_some_iff.mpr ⟨_, henter, hfold⟩⟩, hafter⟩
  · rintro ⟨⟨state, hfold⟩, hafter⟩
    obtain ⟨_, henter, hfold⟩ := Option.bind_eq_some_iff.mp hfold
    rw [(readKeyed_eq_ok_iff hp hrole).mpr ⟨henter, rfl⟩]
    exact (hnext _ _).mpr ⟨⟨state, hfold⟩, hafter⟩

/-- The fields behind the first are read exactly if they can be entered one after the other. -/
theorem readKeyedFrom_eq_ok_iff {budget : Nat} {done all : List (String × Option Json)}
    (h : readFieldsFrom glance budget done cs = .ok (all, rest)) :
    ∃ fields, all = done.reverse ++ fields ∧
      ((∀ v?, (Field.role.key, v?) ∈ fields → ∃ x, v? = some (.string x)) →
        ∀ seen s t after, readKeyedFrom budget seen s cs = .ok (t, after) ↔
          (∃ state, fields.foldlM enter? (seen, s) = some (state, t)) ∧ after = rest) := by
  -- the record is read over the same text, so the induction is on how `glance` reads it
  fun_induction readFieldsFrom glance budget done cs with
  | case1 => cases h
  | case2 => cases h
  | case3 budget done cs tail hclose =>
    cases h
    refine ⟨[], by rw [List.append_nil], fun _ seen s t after => ?_⟩
    rw [readKeyedFrom, hclose]
    constructor
    · intro h
      cases h
      exact ⟨⟨seen, rfl⟩, rfl⟩
    · rintro ⟨⟨state, h⟩, rfl⟩
      cases h
      rfl
  | case4 => cases h
  | case5 => cases h
  | case6 budget done cs tail hcomma more hquote p next hp ih =>
    obtain ⟨fields, rfl, hfields⟩ := ih h
    refine ⟨p :: fields, by rw [List.reverse_cons, List.append_assoc]; rfl,
      fun hrole seen s t after => ?_⟩
    have hnext := hfields fun v? hv => hrole v? (List.mem_cons_of_mem p hv)
    simp only [readKeyedFrom, hcomma, hquote]
    exact readKeyed_then_eq_ok_iff (readKeyedFrom budget) hp
      (fun hkey => hrole p.2 (hkey ▸ List.mem_cons_self)) fun seen s => hnext seen s t after
  | case7 => cases h
  | case8 => cases h
  | case9 => cases h

end

/-! ### What is read of a text -/

section
variable {text : String} {fields : List (String × Option Json)} {t : ActiveSite}

/-- So are all fields of an object. -/
theorem reader_eq_ok_iff {cs tail rest after : List Char}
    (hstart : skipSpace cs = '\x7b' :: tail) (h : readFields glance tail = .ok (fields, rest))
    (hrole : ∀ v?, (Field.role.key, v?) ∈ fields → ∃ x, v? = some (.string x)) :
    reader cs = .ok (t, after) ↔
      (∃ state, fields.foldlM enter? ([], {}) = some (state, t)) ∧ after = rest := by
  -- an object has no field at all, or a first one with the others behind it
  unfold readFields at h
  split at h
  · cases h
  · rename_i more hclose
    cases h
    simp only [reader, hstart, hclose]
    constructor
    · intro hread
      cases hread
      exact ⟨⟨[], rfl⟩, rfl⟩
    · rintro ⟨⟨state, hfold⟩, rfl⟩
      cases hfold
      rfl
  · rename_i more hquote
    split at h
    · cases h
    · rename_i p next hp
      obtain ⟨later, rfl, hlater⟩ := readKeyedFrom_eq_ok_iff h
      have hnext := hlater fun v? hv => hrole v? (List.mem_cons_of_mem p hv)
      simp only [reader, hstart, hquote]
      exact readKeyed_then_eq_ok_iff
        (fun seen s next => readKeyedFrom (next.length + 1) seen s next) hp
        (fun hkey => hrole p.2 (hkey ▸ List.mem_cons_self)) fun seen s => hnext seen s t after
  · cases h

/-- An object is read as a site exactly if its fields tell it. -/
theorem ofJsonText_eq_ok_iff (h : Lists text fields)
    (hrole : ∀ v?, (Field.role.key, v?) ∈ fields → ∃ x, v? = some (.string x)) :
    ofJsonText text = .ok t ↔ ∀ f, Told [] {} fields t f := by
  obtain ⟨tail, rest, hstart, hfields, hend⟩ := h
  rw [ofJsonText, onlySpace_eq_ok_iff, ← foldlM_enter?_iff]
  simp only [reader_eq_ok_iff hstart hfields hrole]
  exact ⟨fun ⟨_, ⟨hfold, _⟩, _⟩ => hfold, fun hfold => ⟨rest, ⟨hfold, rfl⟩, hend⟩⟩

end

/-! ### The role of a site -/

/-- The fields of an object tell a site, whatever they say of its role. -/
def Describes (fields : List (String × Option Json)) (site : ActiveSite) : Prop :=
  ∀ f, f ≠ Field.role → Told [] {} fields site f

section
variable {text s : String} {fields : List (String × Option Json)} {site : ActiveSite}

/-- A role that stands once is found nowhere else. -/
theorem mem_role_iff
    (hrole : fields.filter (fun p => p.1 = Field.role.key) = [(Field.role.key, some (.string s))])
    (v? : Option Json) : (Field.role.key, v?) ∈ fields ↔ v? = some (.string s) := by
  have hmem : (Field.role.key, v?) ∈ fields.filter (fun p => p.1 = Field.role.key) ↔
      (Field.role.key, v?) ∈ fields := by simp
  rw [← hmem, hrole]
  simp

/-- A role that stands once in an object is told by its stored name. -/
theorem told_role_iff
    (hrole : fields.filter (fun p => p.1 = Field.role.key) = [(Field.role.key, some (.string s))]) :
    Told [] {} fields site .role ↔ s = site.role.storedName := by
  have hmem := mem_role_iff hrole
  have honce : (fields.map Prod.fst).count Field.role.key = 1 := by
    rw [List.count_eq_countP, List.countP_map, List.countP_eq_length_filter]
    exact congrArg List.length hrole
  have hkey : Field.role.key ∈ fields.map Prod.fst :=
    List.mem_map_of_mem ((hmem _).mpr rfl)
  constructor
  · intro h
    obtain ⟨v, hv, hname⟩ := h.value _ ((hmem _).mpr rfl)
    obtain rfl := Option.some.inj hv
    exact Json.string.inj hname
  · rintro rfl
    exact ⟨honce.le, nofun, fun v? hv => ⟨_, (hmem v?).mp hv, rfl⟩,
      fun hnone => absurd hkey hnone⟩

/-- The other fields are told whatever the role is. -/
theorem told_withRole_iff {r : SiteRole} {f : Field} (h : f ≠ .role) :
    Told [] {} fields { site with role := r } f ↔ Told [] {} fields site f := by
  cases f with
  | role => exact absurd rfl h
  | id | domain | name | logo | favicon => simp only [told_iff, Field.Holds, Field.Same]

/-- An object with a role is read as a site exactly if it describes the site and the role is stored
under that name. -/
theorem ofJsonText_eq_ok_iff_role (htext : Lists text fields)
    (hrole : fields.filter (fun p => p.1 = Field.role.key) = [(Field.role.key, some (.string s))]) :
    ofJsonText text = .ok site ↔ Describes fields site ∧ s = site.role.storedName := by
  rw [ofJsonText_eq_ok_iff htext fun v? hv => ⟨s, (mem_role_iff hrole v?).mp hv⟩]
  constructor
  · exact fun h => ⟨fun f _ => h f, (told_role_iff hrole).mp (h .role)⟩
  · rintro ⟨hothers, hname⟩ f
    by_cases hf : f = .role
    · rw [hf]
      exact (told_role_iff hrole).mpr hname
    · exact hothers f hf

/-- With a role in its record a site is read exactly if that is the stored name of the role it
stands for. A role in another case is refused, and so is a name that stands for no role, but for the
one under which no role is stored. The name that a role is shown by is read back for every role but
that one. -/
theorem role_read_iff_stored_name (htext : Lists text fields)
    (hrole : fields.filter (fun p => p.1 = Field.role.key) = [(Field.role.key, some (.string s))]) :
    (∀ r, r ≠ SiteRole.none → (SiteRole.parse s = r ↔ Text.lowercase s = r.name)) ∧
    (∀ site, ofJsonText text = .ok site →
      site.role = SiteRole.parse s ∧ s = (SiteRole.parse s).storedName) ∧
    ∀ site, Describes fields site →
      (s = (SiteRole.parse s).storedName →
        ofJsonText text = .ok { site with role := SiteRole.parse s }) ∧
      (s ≠ (SiteRole.parse s).storedName → ∃ fault, ofJsonText text = .error fault) ∧
      (s = site.role.name → (ofJsonText text = .ok site ↔ site.role ≠ .none)) := by
  have hread : ∀ site, ofJsonText text = .ok site ↔
      Describes fields site ∧ s = site.role.storedName :=
    fun _ => ofJsonText_eq_ok_iff_role htext hrole
  have hparse : ∀ site, ofJsonText text = .ok site →
      site.role = SiteRole.parse s ∧ s = (SiteRole.parse s).storedName := by
    intro site h
    obtain ⟨-, hname⟩ := (hread site).mp h
    have hsame : SiteRole.parse s = site.role := hname ▸ SiteRole.parse_storedName _
    exact ⟨hsame.symm, hsame ▸ hname⟩
  refine ⟨fun r hr => SiteRole.parse_eq_iff hr, hparse, fun site hsite => ⟨?_, ?_, ?_⟩⟩
  · intro hname
    exact (hread _).mpr ⟨fun f hf => (told_withRole_iff hf).mpr (hsite f hf), hname⟩
  · intro hname
    -- were the text read, its role would have `s` for its stored name
    cases htold : ofJsonText text with
    | error fault => exact ⟨fault, rfl⟩
    | ok other => exact absurd (hparse other htold).2 hname
  · rintro rfl
    rw [hread, SiteRole.name_eq_storedName_iff]
    exact and_iff_right hsite

end

/-- A record with nothing but a role leaves the rest of the site as it is by default. -/
theorem describes_default (v? : Option Json) : Describes [(Field.role.key, v?)] {} := by
  intro f hf
  rw [told_cons_of_ne fun hkey => hf (Field.key_injective hkey.symm), told_nil]
  exact Field.eq_iff_same.mp rfl f

/-- The role of an administrator is read from a record, and the site with it. With a capital letter
it stands for the same role, but the record is refused. -/
theorem role_read_iff_stored_name_admin :
    SiteRole.parse "admin" = .admin ∧
      ofJsonText "\x7b\"id\":4,\"role\":\"admin\"\x7d" = .ok { id := 4, role := .admin } ∧
    SiteRole.parse "Admin" = .admin ∧
      ∃ fault, ofJsonText "\x7b\"role\":\"Admin\"\x7d" = .error fault := by
  have htext : Lists "\x7b\"id\":4,\"role\":\"admin\"\x7d"
      [("id", some (.number (.natural 4))), ("role", some (.string "admin"))] :=
    ⟨"\"id\":4,\"role\":\"admin\"\x7d".toList, [], by cbv, by cbv, rfl⟩
  have hsite : Describes [("id", some (.number (.natural 4))), ("role", some (.string "admin"))]
      { id := 4 } := by
    intro f hf
    cases f with
    | id =>
      exact (told_cons_self (f := .id)).mpr
        ⟨List.not_mem_nil, by decide, _, rfl, .natural 4, rfl, by decide⟩
    | role => exact absurd rfl hf
    | domain | name | logo | favicon =>
      rw [told_cons_of_ne (by decide), told_cons_of_ne (by decide), told_nil]
      rfl
  have hcapital : Lists "\x7b\"role\":\"Admin\"\x7d" [("role", some (.string "Admin"))] :=
    ⟨"\"role\":\"Admin\"\x7d".toList, [], by cbv, by cbv, rfl⟩
  obtain ⟨hany, -, hread⟩ := role_read_iff_stored_name htext rfl
  obtain ⟨hanyCapital, -, hrefused⟩ := role_read_iff_stored_name hcapital rfl
  have hparse : SiteRole.parse "admin" = .admin := (hany .admin (by decide)).mpr (by cbv)
  have hparseCapital : SiteRole.parse "Admin" = .admin :=
    (hanyCapital .admin (by decide)).mpr (by cbv)
  refine ⟨hparse, ?_, hparseCapital, ?_⟩
  · rw [(hread _ hsite).1 (by rw [hparse]; rfl), hparse]
  · exact (hrefused _ (describes_default _)).2.1 (by rw [hparseCapital]; decide)

/-- An empty role stands for no role, but it is not read. -/
theorem empty_role_refused :
    ¬ ∀ text fields s site, Lists text fields →
      fields.filter (fun p => p.1 = Field.role.key) = [(Field.role.key, some (.string s))] →
      Describes fields site → ofJsonText text = .ok { site with role := SiteRole.parse s } := by
  intro h
  have htext : Lists "\x7b\"role\":\"\"\x7d" [("role", some (.string ""))] :=
    ⟨"\"role\":\"\"\x7d".toList, [], by cbv, by cbv, rfl⟩
  have hfault : ofJsonText "\x7b\"role\":\"\"\x7d" = .error ⟨.wrongType, 1⟩ := by cbv
  have hread := h _ _ _ _ htext rfl (describes_default _)
  rw [hfault] at hread
  cases hread

end ActiveSite

end Courier
