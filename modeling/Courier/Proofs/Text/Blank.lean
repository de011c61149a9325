import Courier.Text.Blank
import Mathlib

/-!
# `Courier.Proofs.Text.Blank`: taking a line apart at its blanks

Three kinds of texts make up a line: words, which have no blanks, gaps, which have nothing else, and
contents, which have blanks inside at most. A word and a content with a gap between them are told
apart by `splitAtBlank` and `trim`, whatever the blanks of the gap are (`splitAtBlank_gap`). With
the gap they are a content again (`IsContent.append`), so the rest of a line can be taken apart in
turn.
-/

set_option autoImplicit false

namespace Courier.Text

/-- Blanks, at least one. -/
structure IsGap (s : String) : Prop where
  nonempty : s ≠ ""
  blank : ∀ c ∈ s.toList, isBlank c = true

/-- Characters that are not blank, at least one. -/
structure IsWord (s : String) : Prop where
  nonempty : s ≠ ""
  solid : ∀ c ∈ s.toList, isBlank c = false

/-- A text that neither begins nor ends with a blank. -/
structure IsContent (s : String) : Prop where
  nonempty : s ≠ ""
  head : ∀ c ∈ s.toList.head?, isBlank c = false
  last : ∀ c ∈ s.toList.getLast?, isBlank c = false

section
variable {word gap rest s t : String}

/-- A text with something in it has characters. -/
theorem toList_ne_nil (h : s ≠ "") : s.toList ≠ [] :=
  fun hnil => h (String.toList_eq_nil_iff.mp hnil)

/-! ### Contents -/

/-- A word has content, and no blank at its ends. -/
theorem IsWord.isContent (h : IsWord s) : IsContent s where
  nonempty := h.nonempty
  head c hc := h.solid c (List.mem_of_mem_head? hc)
  last c hc := h.solid c (List.mem_of_getLast? hc)

/-- What stands between two contents is inside. -/
theorem IsContent.append (hs : IsContent s) (ht : IsContent t) (between : String) :
    IsContent (s ++ between ++ t) where
  nonempty := by
    intro hempty
    have hlist := congrArg String.toList hempty
    rw [String.toList_append, String.toList_append] at hlist
    exact toList_ne_nil ht.nonempty (List.append_eq_nil_iff.mp hlist).2
  head c hc := by
    rw [String.toList_append, String.toList_append, List.append_assoc,
      List.head?_append_of_ne_nil _ (toList_ne_nil hs.nonempty)] at hc
    exact hs.head c hc
  last c hc := by
    rw [String.toList_append, List.getLast?_append_of_ne_nil _ (toList_ne_nil ht.nonempty)] at hc
    exact ht.last c hc

/-! ### Trimming -/

/-- Nothing is dropped in front of a character that is not blank. -/
theorem dropWhile_isBlank_of_head {cs : List Char} (h : ∀ c ∈ cs.head?, isBlank c = false) :
    cs.dropWhile isBlank = cs := by
  cases cs with
  | nil => rfl
  | cons c cs =>
    have hc : isBlank c = false := h c rfl
    rw [List.dropWhile_cons, if_neg (by rw [hc]; exact nofun)]

/-- Blanks in front of a content are dropped, and nothing of the content is. -/
theorem trimChars_append {blanks : List Char} (hblanks : ∀ c ∈ blanks, isBlank c = true)
    (hs : IsContent s) : trimChars (blanks ++ s.toList) = s.toList := by
  have hreversed : ∀ c ∈ s.toList.reverse.head?, isBlank c = false := by
    rw [List.head?_reverse]
    exact hs.last
  rw [trimChars, List.dropWhile_append_of_pos hblanks, dropWhile_isBlank_of_head hs.head,
    dropWhile_isBlank_of_head hreversed, List.reverse_reverse]

/-- A content is not changed by trimming. -/
theorem IsContent.trim_eq (hs : IsContent s) : trim s = s := by
  have hnone : ∀ c ∈ ([] : List Char), isBlank c = true := nofun
  have hchars : trimChars s.toList = s.toList := trimChars_append hnone hs
  rw [trim, hchars, String.ofList_toList]

/-! ### Splitting -/

/-- A word is not split. -/
theorem IsWord.splitAtBlank_eq (h : IsWord s) : splitAtBlank s = none := by
  have hall : ∀ c ∈ s.toList, (!isBlank c) = true := fun c hc => by rw [h.solid c hc]; rfl
  have hspan : s.toList.span (!isBlank ·) = (s.toList, []) := by
    rw [List.span_eq_takeWhile_dropWhile, List.takeWhile_eq_self_iff.mpr hall,
      List.dropWhile_eq_nil_iff.mpr hall]
  rw [splitAtBlank, hspan]

/-- A word and a content are told apart by the gap between them. -/
theorem splitAtBlank_gap (hword : IsWord word) (hgap : IsGap gap) (hrest : IsContent rest) :
    ∃ after, splitAtBlank (word ++ gap ++ rest) = some (word, after) ∧ trim after = rest := by
  obtain ⟨blank, blanks, hblanks⟩ := List.exists_cons_of_ne_nil (toList_ne_nil hgap.nonempty)
  have hblank := hgap.blank
  rw [hblanks] at hblank
  have hall : ∀ c ∈ word.toList, (!isBlank c) = true := fun c hc => by rw [hword.solid c hc]; rfl
  have hstop : (!isBlank blank) = false := by rw [hblank blank List.mem_cons_self]; rfl
  -- the word ends where the gap begins
  have hspan : (word ++ gap ++ rest).toList.span (!isBlank ·)
      = (word.toList, blank :: (blanks ++ rest.toList)) := by
    rw [String.toList_append, String.toList_append, hblanks, List.append_assoc, List.cons_append,
      List.span_eq_takeWhile_dropWhile, List.takeWhile_append_of_pos hall,
      List.dropWhile_append_of_pos hall, List.takeWhile_cons_of_neg (by simp [hstop]),
      List.dropWhile_cons_of_neg (by simp [hstop]), List.append_nil]
  refine ⟨String.ofList (blanks ++ rest.toList), ?_, ?_⟩
  · rw [splitAtBlank, hspan]
    dsimp only
    rw [String.ofList_toList]
  · have hleft : ∀ c ∈ blanks, isBlank c = true := fun c hc => hblank c (List.mem_cons_of_mem _ hc)
    rw [trim, String.toList_ofList, trimChars_append hleft hrest, String.ofList_toList]

end

end Courier.Text
