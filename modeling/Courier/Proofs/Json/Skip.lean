import Courier.Json.Skip
import Courier.Proofs.Json.Reader

/-!
# `Courier.Proofs.Json.Skip`: passing over a text or a number

A reader that passes over a value checks its grammar only. Of what can also be read it takes the
same characters: it stops where the reader of strings stops (`skipStringFrom_of_readString`), and
where that of numbers stops (`skipNumber_of_readNumber`).

The two do not go in step. Half of a pair of code units is an escape of its own for the one that
passes over it, so that it takes two turns where the reader takes one. And digits that the reader
takes one by one, as long as they fit, are passed over at once.
-/

set_option autoImplicit false

namespace Courier.Json

/-! ### Numbers -/

/-- A text behind the digits at its front. -/
def pastDigits (cs : List Char) : List Char := cs.dropWhile fun c => (digit? c).isSome

/-- A text behind a sign at its front. -/
def pastSign : List Char → List Char
  | '+' :: rest => rest
  | '-' :: rest => rest
  | rest => rest

/-- Behind the sign of an exponent at least one digit is wanted, and all are passed over. -/
theorem skipExponent_eq (cs : List Char) : skipExponent cs =
    match pastSign cs with
    | [] => .error (.here .invalidNumber [])
    | c :: rest =>
      if (digit? c).isSome then .ok ((), (skipDigits 0 rest).2)
      else .error (.next .invalidNumber (c :: rest)) := rfl

section
variable {α : Type} {c : Char} {cs rest : List Char} {n : Number} {negative : Bool}
  {significand : Nat} {start : Int}

/-- A digit is passed over. -/
theorem pastDigits_cons_digit (h : (digit? c).isSome = true) :
    pastDigits (c :: cs) = pastDigits cs :=
  List.dropWhile_cons_of_pos h

/-- Anything else is not. -/
theorem pastDigits_cons_other (h : ¬ (digit? c).isSome = true) : pastDigits (c :: cs) = c :: cs :=
  List.dropWhile_cons_of_neg h

/-- Counting digits makes no difference to where they end. -/
theorem skipDigits_snd (count : Nat) (cs : List Char) :
    (skipDigits count cs).2 = pastDigits cs := by
  fun_induction skipDigits count cs with
  | case1 => rfl
  | case2 count c cs hdigit ih => rw [ih, pastDigits_cons_digit hdigit]
  | case3 count c cs hother => rw [pastDigits_cons_other hother]

/-- The count only grows. -/
theorem le_skipDigits_fst (count : Nat) (cs : List Char) : count ≤ (skipDigits count cs).1 := by
  fun_induction skipDigits count cs with
  | case1 => exact Nat.le_refl _
  | case2 count c cs hdigit ih => exact Nat.le_of_succ_le ih
  | case3 => exact Nat.le_refl _

/-- Digits that fit are digits, whether they are followed by others or not. -/
theorem pastDigits_appendDigits (significand count : Nat) (cs : List Char) :
    pastDigits (appendDigits significand count cs).2.2 = pastDigits cs := by
  fun_induction appendDigits significand count cs with
  | case1 => rfl
  | case2 => rfl
  | case3 significand count c cs d hd hfit ih =>
    rw [ih, pastDigits_cons_digit (by rw [hd]; rfl)]
  | case4 => rfl

/-- Making a number of what has been read takes nothing more. -/
theorem rest_of_readFloat {exponent : Int}
    (h : readFloat negative significand exponent cs = .ok (n, rest)) : rest = cs := by
  unfold readFloat at h
  split at h
  · cases h
  · cases h
    rfl

/-- The digits of an exponent are all taken, even if it is out of range. -/
theorem rest_of_readExponentDigits {below : Bool} {exponent : Nat}
    (h : readExponentDigits negative significand start below exponent cs = .ok (n, rest)) :
    rest = pastDigits cs := by
  fun_induction readExponentDigits negative significand start below exponent cs with
  | case1 => exact rest_of_readFloat h
  | case2 exponent c cs hd =>
    rw [pastDigits_cons_other (by rw [hd]; decide)]
    exact rest_of_readFloat h
  | case3 exponent c cs d hd hfit ih => rw [ih h, pastDigits_cons_digit (by rw [hd]; rfl)]
  | case4 => cases h
  | case5 exponent c cs d hd hfit hout =>
    cases h
    rw [skipDigits_snd, pastDigits_cons_digit (by rw [hd]; rfl)]

/-- Behind the sign of an exponent that is read stand its digits. -/
theorem digits_of_readExponent (h : readExponent negative significand start cs = .ok (n, rest)) :
    ∃ c tail, pastSign cs = c :: tail ∧ (digit? c).isSome = true ∧ rest = pastDigits tail := by
  unfold readExponent at h
  dsimp only at h
  split at h
  · cases h
  · rename_i c tail hsign
    have hpast : pastSign cs = c :: tail := by
      split at hsign
      · exact hsign
      · exact hsign
      · rename_i hplus hminus
        exact (pastSign.eq_3 cs hplus hminus).trans hsign
    split at h
    · cases h
    · rename_i d hd
      exact ⟨c, tail, hpast, by rw [hd]; rfl, rest_of_readExponentDigits h⟩

/-- What is read as an exponent is passed over as one. -/
theorem skipExponent_of_readExponent
    (h : readExponent negative significand start cs = .ok (n, rest)) :
    skipExponent cs = .ok ((), rest) := by
  obtain ⟨c, tail, hpast, hdigit, rfl⟩ := digits_of_readExponent h
  rw [skipExponent_eq, hpast]
  dsimp only
  rw [if_pos hdigit, skipDigits_snd]

/-- Passes over an exponent, if there is one. -/
def skipMark : Reader Unit
  | 'e' :: rest => skipExponent rest
  | 'E' :: rest => skipExponent rest
  | rest => .ok ((), rest)

/-- So is the exponent behind digits, if there is one. -/
theorem skipMark_of_afterDigits
    (h : afterDigits negative significand start cs = .ok (n, rest)) :
    skipMark cs = .ok ((), rest) := by
  unfold afterDigits at h
  split at h
  · exact skipExponent_of_readExponent h
  · exact skipExponent_of_readExponent h
  · rename_i hlower hupper
    rw [skipMark.eq_3 cs hlower hupper, rest_of_readFloat h]

/-- Behind a point with a digit all digits are passed over, and then an exponent. -/
theorem skipFraction_point (h : ∃ c ∈ cs.head?, (digit? c).isSome = true) :
    skipFraction ('.' :: cs) = skipMark (pastDigits cs) := by
  obtain ⟨c, hc, hdigit⟩ := h
  obtain ⟨tail, rfl⟩ := List.head?_eq_some_iff.mp hc
  have hcount : (skipDigits 0 (c :: tail)).1 ≠ 0 := by
    rw [skipDigits, if_pos hdigit]
    exact Nat.ne_zero_of_lt (le_skipDigits_fst _ _)
  have hpast := skipDigits_snd 0 (c :: tail)
  rw [skipFraction, ← hpast]
  generalize skipDigits 0 (c :: tail) = skipped at hcount
  obtain ⟨count, rest⟩ := skipped
  split
  case h_1 hzero => exact absurd (Prod.mk.inj hzero).1 hcount
  case h_2 hmark => rw [(Prod.mk.inj hmark).2, skipMark]
  case h_3 hmark => rw [(Prod.mk.inj hmark).2, skipMark]
  case h_4 hlower hupper hother => rw [(Prod.mk.inj hother).2, skipMark.eq_3 _ hlower hupper]

/-- Without a point there is only the exponent. -/
theorem skipFraction_other (h : ∀ tail, cs = '.' :: tail → False) :
    skipFraction cs = skipMark cs := by
  unfold skipMark
  split
  · rfl
  · rfl
  · rename_i hlower hupper
    rw [skipFraction.eq_4 cs h hlower hupper]

/-- Behind a point stands at least one digit, whether it fits or not. -/
theorem digit_of_readFraction (h : readFraction negative significand start cs = .ok (n, rest)) :
    ∃ c ∈ cs.head?, (digit? c).isSome = true := by
  cases cs with
  | nil => cases h
  | cons c tail =>
    refine ⟨c, rfl, ?_⟩
    by_contra hother
    rw [Option.not_isSome_iff_eq_none] at hother
    simp [readFraction, appendDigits, hother] at h

/-- What is read as a fraction is passed over as one. -/
theorem skipFraction_of_readFraction
    (h : readFraction negative significand start cs = .ok (n, rest)) :
    skipFraction ('.' :: cs) = .ok ((), rest) := by
  rw [skipFraction_point (digit_of_readFraction h), ← pastDigits_appendDigits significand 0 cs]
  unfold readFraction at h
  dsimp only at h
  split at h
  · rename_i hnil
    rw [hnil]
    split at h
    · cases h
    · exact skipMark_of_afterDigits h
  · rename_i c tail hcons
    split at h
    · rw [skipDigits_snd] at h
      exact skipMark_of_afterDigits h
    · rename_i hother
      rw [hcons, pastDigits_cons_other hother]
      split at h
      · cases h
      · rw [hcons] at h
        exact skipMark_of_afterDigits h

/-- So is what is read behind the digits of an integer. -/
theorem skipFraction_of_afterInteger (h : afterInteger negative significand cs = .ok (n, rest)) :
    skipFraction cs = .ok ((), rest) := by
  unfold afterInteger at h
  split at h
  · exact skipFraction_of_readFraction h
  · exact skipExponent_of_readExponent h
  · exact skipExponent_of_readExponent h
  · rename_i hpoint hlower hupper
    have hrest : rest = cs := by
      split at h
      · cases h
        rfl
      · split at h
        · cases h
          rfl
        · cases h
          rfl
    rw [skipFraction.eq_4 cs hpoint hlower hupper, hrest]

/-- What is read as a number is passed over as one. -/
theorem skipNumber_of_readNumber (h : readNumber negative cs = .ok (n, rest)) :
    skipNumber cs = .ok ((), rest) := by
  unfold readNumber at h
  split at h
  · cases h
  · split at h
    · split at h
      · cases h
      · rename_i hother
        rw [skipNumber, if_neg hother]
        exact skipFraction_of_afterInteger h
    · exact skipFraction_of_afterInteger h
  · rename_i c tail hzero
    split at h
    · cases h
    · rename_i d hd
      have hdigit : (digit? c).isSome = true := by rw [hd]; rfl
      -- the digits that the reader still keeps and those too many for it are one row to the skipper
      rw [skipNumber.eq_4 c tail hzero, if_pos hdigit, skipDigits_snd,
        ← pastDigits_appendDigits d 0 tail]
      generalize appendDigits d 0 tail = appended at h ⊢
      obtain ⟨kept, count, after⟩ := appended
      dsimp only at h ⊢
      split at h
      · exact skipFraction_of_afterInteger h
      · rename_i next more
        split at h
        · rw [← skipDigits_snd 0 (next :: more)]
          split at h
          · rename_i last hpoint
            rw [hpoint]
            exact skipFraction_of_readFraction h
          · rename_i hpoint
            rw [skipFraction_other hpoint]
            exact skipMark_of_afterDigits h
        · rename_i hother
          rw [pastDigits_cons_other hother]
          exact skipFraction_of_afterInteger h

end

/-! ### Strings -/

section
variable {cs rest : List Char} {c : Char}

/-- A code unit is written in four digits. -/
theorem length_of_readHexEscape {n : Nat} (h : readHexEscape cs = .ok (n, rest)) :
    cs.length = rest.length + 4 := by
  unfold readHexEscape at h
  dsimp only at h
  split at h
  · split at h
    · cases h
      rfl
    · split at h <;> cases h
  · split at h <;> cases h

/-- One escape, or two for a pair of code units, from which what is left of a text behind its
backslash can be passed over. -/
inductive EscapeSkipped (cs rest : List Char) : Prop
  | one (skip : skipEscape cs = .ok ((), rest)) (shorter : rest.length < cs.length)
  | two {between : List Char} (first : skipEscape cs = .ok ((), '\\' :: between))
      (second : skipEscape between = .ok ((), rest)) (shorter : rest.length < between.length)
      (between_shorter : between.length + 1 < cs.length)

/-- A code point outside the first plane is passed over in two turns, and any other in one. -/
theorem skipped_of_readUnicodeEscape (h : readUnicodeEscape cs = .ok (c, rest)) :
    EscapeSkipped ('u' :: cs) rest := by
  -- a second escape is read only behind the upper half of a pair
  unfold readUnicodeEscape at h
  split at h
  · cases h
  · rename_i n tail hfirst
    have hlength := length_of_readHexEscape hfirst
    have hskip : skipEscape ('u' :: cs) = .ok ((), tail) := by
      rw [skipEscape, hfirst]
      rfl
    split at h
    · cases h
    · split at h
      · obtain ⟨-, rfl⟩ := Prod.mk.inj (Except.ok.inj h)
        exact .one hskip (by rw [List.length_cons]; omega)
      · split at h
        · cases h
        · split at h
          · cases h
          · rename_i between
            split at h
            · cases h
            · rename_i m more hsecond
              have hmore := length_of_readHexEscape hsecond
              simp only [List.length_cons] at hlength
              split at h
              · cases h
              · obtain ⟨-, rfl⟩ := Prod.mk.inj (Except.ok.inj h)
                refine .two hskip ?_ ?_ ?_
                · rw [skipEscape, hsecond]
                  rfl
                · rw [List.length_cons]
                  omega
                · simp only [List.length_cons]
                  omega
          · cases h
        · cases h

/-- So any escape that is read is passed over in one turn or in two. -/
theorem skipped_of_readEscape (h : readEscape cs = .ok (c, rest)) : EscapeSkipped cs rest := by
  unfold readEscape at h
  split at h
  case h_1 => cases h
  case h_10 => exact skipped_of_readUnicodeEscape h
  case h_11 => cases h
  -- one character stands for another one
  all_goals
    cases h
    exact .one rfl (Nat.lt_succ_self _)

/-- What is read as a string is passed over as one. -/
theorem skipStringFrom_of_readStringFrom {budget fuel : Nat} {done : List Char} {s : String}
    (h : readStringFrom budget done cs = .ok (s, rest)) (hfuel : cs.length < fuel) :
    skipStringFrom fuel cs = .ok ((), rest) := by
  -- by induction on the reading; an escape may be two to the skipper, so it has fuel of its own
  fun_induction readStringFrom budget done cs generalizing fuel with
  | case1 => cases h
  | case2 => cases h
  | case3 budget done tail =>
    cases h
    obtain ⟨fewer, rfl⟩ := Nat.exists_eq_add_one_of_ne_zero (Nat.ne_zero_of_lt hfuel)
    rw [skipStringFrom]
  | case4 => cases h
  | case5 budget done tail c more hescape ih =>
    obtain ⟨fewer, rfl⟩ := Nat.exists_eq_add_one_of_ne_zero (Nat.ne_zero_of_lt hfuel)
    rw [List.length_cons] at hfuel
    cases skipped_of_readEscape hescape with
    | one skip shorter =>
      rw [skipStringFrom, skip]
      exact ih h (by omega)
    | two first second shorter between_shorter =>
      obtain ⟨fewest, rfl⟩ := Nat.exists_eq_add_one_of_ne_zero (n := fewer) (by omega)
      rw [skipStringFrom, first]
      dsimp only
      rw [skipStringFrom, second]
      exact ih h (by omega)
  | case6 => cases h
  | case7 budget done c tail hquote hslash hcontrol ih =>
    obtain ⟨fewer, rfl⟩ := Nat.exists_eq_add_one_of_ne_zero (Nat.ne_zero_of_lt hfuel)
    rw [List.length_cons] at hfuel
    rw [skipStringFrom, if_neg hcontrol]
    · exact ih h (by omega)
    · exact hquote
    · exact hslash

/-- With a turn for each character there are enough of them. -/
theorem skipStringFrom_of_readString {s : String} (h : readString cs = .ok (s, rest)) :
    skipStringFrom (cs.length + 1) cs = .ok ((), rest) :=
  skipStringFrom_of_readStringFrom h (Nat.lt_succ_self _)

end

end Courier.Json
