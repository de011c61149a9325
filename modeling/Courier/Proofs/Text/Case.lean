import Courier.Http.Message
import Courier.Proofs.Text.Blank
import Courier.Text.Case

/-!
# `Courier.Proofs.Text.Case`: names in any case

The lower-case form of a text is read off large tables, but of the names that the program compares
only two things matter. A text that differs from a name in ASCII at most in the case of letters has
the same lower-case form (`lowercase_of_sameName`). And blanks have no case, so a text whose
lower-case form is a word is a word itself (`isWord_of_lowercase`).
-/

set_option autoImplicit false

namespace Courier.Text

/-! ### ASCII -/

/-- On ASCII the tables are the mapping of its letters. -/
theorem mapByRuns_ascii : ∀ n ∈ List.range 128,
    mapByRuns lowerRuns (Char.ofNat n) = (Char.ofNat n).toLower := by decide +kernel

/-- Only characters of ASCII are mapped to such by the mapping of its letters, and all of them
are. -/
theorem toNat_toLower_lt_iff (c : Char) : c.toLower.toNat < 128 ↔ c.toNat < 128 := by
  unfold Char.toLower
  split
  case isTrue hcapital =>
    have hle : c.val.toNat ≤ 90 := UInt32.le_iff_toNat_le.mp hcapital.2
    have hsum : (c.val + ('a'.val - 'A'.val)).toNat = c.val.toNat + 32 := by
      have hdiff : ('a'.val - 'A'.val).toNat = 32 := by decide
      rw [UInt32.toNat_add, hdiff]
      omega
    show (c.val + ('a'.val - 'A'.val)).toNat < 128 ↔ c.val.toNat < 128
    omega
  case isFalse => rfl

/-- An ASCII character has one lower-case form, wherever it stands. -/
theorem lowerChar_ascii {c : Char} (h : c.toNat < 128) (before after : List Char) :
    lowerChar before c after = [c.toLower] := by
  have hmap := mapByRuns_ascii c.toNat (List.mem_range.mpr h)
  rw [Char.ofNat_toNat] at hmap
  have hsigma : ¬(c.toNat == 0x3a3) = true := by
    rw [beq_iff_eq]
    omega
  have hdotted : ¬(c.toNat == 0x130) = true := by
    rw [beq_iff_eq]
    omega
  rw [lowerChar, if_neg hsigma, if_neg hdotted, hmap]

/-- So an ASCII text is put in lower case character by character. -/
theorem lowerFrom_ascii {cs : List Char} (h : ∀ c ∈ cs, c.toNat < 128) (before : List Char) :
    lowerFrom before cs = cs.map Char.toLower := by
  induction cs generalizing before with
  | nil => rfl
  | cons c cs ih =>
    have hc : c.toNat < 128 := h c List.mem_cons_self
    have hcs : ∀ d ∈ cs, d.toNat < 128 := fun d hd => h d (List.mem_cons_of_mem _ hd)
    rw [lowerFrom, lowerChar_ascii hc, ih hcs, List.map_cons, List.singleton_append]

/-- This is what ASCII case mapping does. -/
theorem lowercase_ascii {s : String} (h : ∀ c ∈ s.toList, c.toNat < 128) :
    lowercase s = String.ofList (s.toList.map Char.toLower) := by
  rw [lowercase, lowerFrom_ascii h]

/-- A text that differs from one of ASCII in the case of letters of ASCII only has the same
lower-case form. -/
theorem lowercase_of_sameName {s name : String} (h : Http.sameName s name = true)
    (hname : ∀ c ∈ name.toList, c.toNat < 128) : lowercase s = lowercase name := by
  have hsame : s.toList.map Char.toLower = name.toList.map Char.toLower := of_decide_eq_true h
  have hs : ∀ c ∈ s.toList, c.toNat < 128 := by
    intro c hc
    have hmem : c.toLower ∈ name.toList.map Char.toLower := hsame ▸ List.mem_map_of_mem hc
    obtain ⟨d, hd, hdc⟩ := List.mem_map.mp hmem
    rw [← toNat_toLower_lt_iff, ← hdc, toNat_toLower_lt_iff]
    exact hname d hd
  rw [lowercase_ascii hs, lowercase_ascii hname, hsame]

/-! ### Blanks -/

/-- The code points of the blanks. -/
def blankPoints : List Nat :=
  [9, 10, 11, 12, 13, 0x20, 0x85, 0xa0, 0x1680, 0x2000, 0x2001, 0x2002, 0x2003, 0x2004, 0x2005,
    0x2006, 0x2007, 0x2008, 0x2009, 0x200a, 0x2028, 0x2029, 0x202f, 0x205f, 0x3000]

/-- The blanks are few. -/
theorem mem_blankPoints {c : Char} (h : isBlank c = true) : c.toNat ∈ blankPoints := by
  simp only [isBlank, Bool.or_eq_true, Bool.and_eq_true, decide_eq_true_eq, beq_iff_eq] at h
  simp only [blankPoints, List.mem_cons, List.not_mem_nil, or_false]
  omega

/-- None of them is in a table, or one of the two characters with rules of their own. -/
theorem lowerChar_point : ∀ n ∈ blankPoints, (n == 0x3a3) = false ∧ (n == 0x130) = false ∧
    mapByRuns lowerRuns (Char.ofNat n) = Char.ofNat n := by decide +kernel

/-- So a blank stays what it is. -/
theorem lowerChar_blank {c : Char} (h : isBlank c = true) (before after : List Char) :
    lowerChar before c after = [c] := by
  obtain ⟨hsigma, hdotted, hmap⟩ := lowerChar_point c.toNat (mem_blankPoints h)
  rw [Char.ofNat_toNat] at hmap
  rw [lowerChar, hsigma, hdotted, hmap]
  rfl

/-- The blanks of a text are in its lower-case form, too. -/
theorem mem_lowerFrom {c : Char} (hblank : isBlank c = true) {cs : List Char} (h : c ∈ cs)
    (before : List Char) : c ∈ lowerFrom before cs := by
  induction cs generalizing before with
  | nil => exact nomatch h
  | cons d cs ih =>
    rw [lowerFrom, List.mem_append]
    rcases List.mem_cons.mp h with rfl | hrest
    · left
      rw [lowerChar_blank hblank]
      exact List.mem_singleton_self c
    · right
      exact ih hrest _

/-- So only a word has the lower-case form of a word. -/
theorem isWord_of_lowercase {s : String} (h : IsWord (lowercase s)) : IsWord s where
  nonempty := by
    rintro rfl
    exact h.nonempty rfl
  solid c hc := by
    by_contra hnot
    have hblank : isBlank c = true := by simpa using hnot
    have hmem : c ∈ (lowercase s).toList := by
      rw [lowercase, String.toList_ofList]
      exact mem_lowerFrom hblank hc []
    exact hnot (h.solid c hmem)

end Courier.Text
