import Courier.Http.Uri
import Mathlib

/-!
# `Courier.Proofs.Http.Uri`: what a target keeps of a text

A target is read from the front: a scheme, an authority, a path, and what follows the path. A text
that begins with `http://` and an authority has the scheme and the authority of its beginning, and
the rest is read as a path (`read_http`). A path ends at the first question mark or number sign. If
the text is a target at all, everything in front of that belongs to the path (`readPath_append`),
since any other character that does not belong to a path makes the text none.
-/

set_option autoImplicit false

namespace Courier.Http.Uri

section
variable {xs ys : List Char} {s : String}

/-- A stretch ends where the test fails first. -/
theorem span_append {p : Char → Bool} (hxs : ∀ x ∈ xs, p x = true)
    (hys : ∀ y ∈ ys.head?, p y = false) : (xs ++ ys).span p = (xs, ys) := by
  have hnone : ys.takeWhile p = [] ∧ ys.dropWhile p = ys := by
    cases ys with
    | nil => exact ⟨rfl, rfl⟩
    | cons y ys =>
      have hy : ¬ p y = true := by rw [hys y rfl]; exact nofun
      exact ⟨List.takeWhile_cons_of_neg hy, List.dropWhile_cons_of_neg hy⟩
  rw [List.span_eq_takeWhile_dropWhile, List.takeWhile_append_of_pos hxs,
    List.dropWhile_append_of_pos hxs, hnone.1, hnone.2, List.append_nil]

/-- What follows the path is a query or a fragment. -/
theorem readQuery_cons {c : Char} (hquery : c ≠ '?') (hfragment : c ≠ '#') (cs : List Char) :
    readQuery (c :: cs) = .error .invalidCharacter := by
  unfold readQuery
  split
  · rename_i h
    exact absurd (List.cons.inj h).1 hquery
  · rename_i h
    cases h
  · rename_i h
    exact absurd (List.cons.inj h).1 hfragment
  · rfl

/-- All that stands in front of the first question mark or number sign is the path. -/
theorem readPath_append (hquery : '?' ∉ xs) (hfragment : '#' ∉ xs)
    (hys : ∀ c ∈ ys.head?, c = '?' ∨ c = '#') (h : readPath (xs ++ ys) = .ok s) :
    ∃ query, readQuery ys = .ok query ∧ s = String.ofList (xs ++ query) := by
  unfold readPath at h
  by_cases hxs : ∀ x ∈ xs, isPathCharacter x = true
  · have hstop : ∀ y ∈ ys.head?, isPathCharacter y = false := by
      intro y hy
      rcases hys y hy with rfl | rfl <;> decide
    rw [span_append hxs hstop] at h
    dsimp only at h
    cases hread : readQuery ys with
    | error e =>
      rw [hread] at h
      cases h
    | ok query =>
      rw [hread] at h
      exact ⟨query, rfl, (Except.ok.inj h).symm⟩
  · -- the path ends too early, at a character behind which nothing may follow
    obtain ⟨c, cs, hc⟩ : ∃ c cs, xs.dropWhile isPathCharacter = c :: cs := by
      cases hdrop : xs.dropWhile isPathCharacter with
      | nil => exact absurd (List.dropWhile_eq_nil_iff.mp hdrop) hxs
      | cons c cs => exact ⟨c, cs, rfl⟩
    have hmem : c ∈ xs := (List.dropWhile_sublist _).mem (hc ▸ List.mem_cons_self)
    have hrest : (xs ++ ys).dropWhile isPathCharacter = c :: (cs ++ ys) := by
      rw [List.dropWhile_append, hc]
      rfl
    rw [List.span_eq_takeWhile_dropWhile, hrest] at h
    dsimp only at h
    rw [readQuery_cons (fun he => hquery (he ▸ hmem)) fun he => hfragment (he ▸ hmem)] at h
    cases h

/-- A query of characters that may stand there is kept. -/
theorem readQuery_of_all {query : List Char} (h : ∀ c ∈ query, isQueryCharacter c = true) :
    readQuery ('?' :: query) = .ok ('?' :: query) := by
  have hspan : query.span isQueryCharacter = (query, []) := by
    have happend : (query ++ []).span isQueryCharacter = (query, []) := span_append h nofun
    rwa [List.append_nil] at happend
  rw [readQuery, hspan]

/-- What is kept of what follows a path is kept when it is read once more. -/
theorem readQuery_of_kept {kept : List Char} (h : readQuery ys = .ok kept) :
    readQuery kept = .ok kept ∧ ∀ c ∈ kept.head?, c = '?' := by
  have hnone : readQuery [] = .ok [] ∧ ∀ c ∈ ([] : List Char).head?, c = '?' := ⟨rfl, nofun⟩
  have hsome : ∀ cs : List Char, readQuery ('?' :: cs.takeWhile isQueryCharacter)
      = .ok ('?' :: cs.takeWhile isQueryCharacter) ∧
      ∀ c ∈ ('?' :: cs.takeWhile isQueryCharacter).head?, c = '?' :=
    fun cs => ⟨readQuery_of_all fun c hc => List.mem_takeWhile_imp hc,
      fun c hc => (Option.some.inj hc).symm⟩
  -- either nothing is kept, or a question mark and the characters up to the first that is none
  unfold readQuery at h
  split at h
  · rename_i cs
    rw [List.span_eq_takeWhile_dropWhile] at h
    split at h
    · rename_i hspan
      rw [← (Prod.mk.inj hspan).1] at h
      cases h
      exact hsome cs
    · rename_i hspan
      rw [← (Prod.mk.inj hspan).1] at h
      cases h
      exact hsome cs
    · cases h
  · cases h
    exact hnone
  · cases h
    exact hnone
  · cases h

end

/-! ### Targets with a scheme -/

section
variable {authority tail : List Char} {text : String} {u : Uri}

/-- The authority reaches to the first character that ends it. -/
theorem ofSchemeAndRest_eq_ok {scheme : String} (hnonempty : authority ≠ [])
    (hauthority : ∀ c ∈ authority, endsAuthority c = false)
    (htail : ∀ c ∈ tail.head?, endsAuthority c = true)
    (h : ofSchemeAndRest scheme (authority ++ tail) = .ok u) :
    ∃ path, readPath tail = .ok path ∧ u = ⟨some scheme, String.ofList authority, path⟩ := by
  have hspan : (authority ++ tail).span (!endsAuthority ·) = (authority, tail) := by
    refine span_append (fun c hc => ?_) fun c hc => ?_
    · rw [hauthority c hc]
      rfl
    · rw [htail c hc]
      rfl
  have hempty : (authority ++ tail).isEmpty = false := by
    rw [List.isEmpty_eq_false_iff]
    exact List.append_ne_nil_of_left_ne_nil hnonempty _
  -- the rest is cut at the end of the authority, and what is cut off is not empty
  unfold ofSchemeAndRest splitAuthority at h
  rw [hempty, hspan] at h
  dsimp only at h
  rw [if_neg Bool.false_ne_true] at h
  split at h
  · cases h
  · rename_i hparts
    split at hparts
    · cases hparts
    · split at hparts
      · exact absurd (Prod.mk.inj (Except.ok.inj hparts)).1 hnonempty
      · cases hparts
  · rename_i hparts
    split at hparts
    · cases hparts
    · split at hparts
      · cases hparts
        cases hpath : readPath tail with
        | error e =>
          rw [hpath] at h
          cases h
        | ok path =>
          rw [hpath] at h
          exact ⟨path, rfl, (Except.ok.inj h).symm⟩
      · cases hparts

/-- A text of the web is taken apart behind its authority. -/
theorem read_http (hnonempty : authority ≠ [])
    (hauthority : ∀ c ∈ authority, endsAuthority c = false)
    (htail : ∀ c ∈ tail.head?, endsAuthority c = true)
    (htext : text.toList = "http://".toList ++ (authority ++ tail)) (h : read text = .ok u) :
    ∃ path, readPath tail = .ok path ∧ u = ⟨some "http", String.ofList authority, path⟩ := by
  unfold read at h
  rw [htext] at h
  split at h
  · cases h
  · -- the scheme stands in the text as it is looked for
    exact ofSchemeAndRest_eq_ok hnonempty hauthority htail h

/-- A text that begins with a slash is a path. -/
theorem read_slash (htext : text.toList = '/' :: tail) (h : read text = .ok u) :
    ∃ path, readPath ('/' :: tail) = .ok path ∧ u = { pathAndQuery := path } := by
  unfold read at h
  rw [htext] at h
  split at h
  · cases h
  · change (readPath ('/' :: tail)).map _ = .ok u at h
    cases hpath : readPath ('/' :: tail) with
    | error e =>
      rw [hpath] at h
      cases h
    | ok path =>
      rw [hpath] at h
      exact ⟨path, rfl, (Except.ok.inj h).symm⟩

end

end Courier.Http.Uri
