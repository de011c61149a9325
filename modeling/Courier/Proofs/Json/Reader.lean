import Courier.Json.Reader
import Courier.Proofs.Fields
import Mathlib

/-!
# `Courier.Proofs.Json.Reader`: a value is no larger than its text

Whatever `Json.read` makes of a text, nothing in it is longer than the text: no text, because a
character takes at least as many bytes as it has itself, escaped or not, and no list and no object,
because each item and each field takes at least a comma or a bracket. And nothing is nested deeper
than the reader goes. `Json.Within` says so of a value, and `within_of_read` of every value that is
read.

A reader takes the text from the front and leaves the rest, so the bytes of the rest tell how much
it has used up (`byteCount_of_readString` and its like). Readers of lists and objects work with any
reader for their items. Whatever that one gives (`Gives`), the items have.
-/

set_option autoImplicit false

namespace Courier.Json

/-! ### The bytes that are left -/

/-- The bytes of a text, as the library counts them. -/
theorem byteCount_eq (cs : List Char) : byteCount cs = String.utf8Len cs := by
  have hfoldl : ∀ n, cs.foldl (fun n c => n + c.utf8Size) n = n + String.utf8Len cs := by
    induction cs with
    | nil => intro n; simp [String.utf8Len]
    | cons c cs ih => intro n; rw [List.foldl_cons, ih, String.utf8Len_cons]; omega
  rw [byteCount, hfoldl, Nat.zero_add]

/-- Nothing takes no bytes. -/
@[simp] theorem byteCount_nil : byteCount [] = 0 := rfl

/-- Each character adds its bytes. -/
@[simp] theorem byteCount_cons (c : Char) (cs : List Char) :
    byteCount (c :: cs) = c.utf8Size + byteCount cs := by
  rw [byteCount_eq, byteCount_eq, String.utf8Len_cons, Nat.add_comm]

/-- These are at least one. -/
theorem byteCount_lt_cons (c : Char) (cs : List Char) : byteCount cs < byteCount (c :: cs) := by
  have hpos := c.utf8Size_pos
  rw [byteCount_cons]
  omega

/-- A bound from below holds with one more character, too. -/
theorem le_byteCount_cons {k : Nat} {cs : List Char} (c : Char) (h : k ≤ byteCount cs) :
    k ≤ byteCount (c :: cs) :=
  Nat.le_trans h (Nat.le_of_lt (byteCount_lt_cons c cs))

/-- Passing over space leaves no more than there was. -/
theorem byteCount_skipSpace_le (cs : List Char) : byteCount (skipSpace cs) ≤ byteCount cs := by
  induction cs with
  | nil => exact Nat.le_refl _
  | cons c cs ih =>
    unfold skipSpace at ih ⊢
    rw [List.dropWhile_cons]
    split
    · exact le_byteCount_cons c ih
    · exact Nat.le_refl _

/-- A token takes at least one byte. -/
theorem byteCount_of_skipSpace {c : Char} {cs tail : List Char} (h : skipSpace cs = c :: tail) :
    byteCount tail < byteCount cs := by
  have hskip := byteCount_skipSpace_le cs
  have hlt := byteCount_lt_cons c tail
  rw [h] at hskip
  omega

/-! ### Words and numbers -/

/-- Neither does reading digits that fit. -/
theorem byteCount_appendDigits_le (significand count : Nat) (cs : List Char) :
    byteCount (appendDigits significand count cs).2.2 ≤ byteCount cs := by
  fun_induction appendDigits significand count cs with
  | case1 => exact Nat.le_refl _
  | case2 => exact Nat.le_refl _
  | case3 significand count c cs d hd hfit ih => exact le_byteCount_cons c ih
  | case4 => exact Nat.le_refl _

/-- Nor does passing over digits. -/
theorem byteCount_skipDigits_le (count : Nat) (cs : List Char) :
    byteCount (skipDigits count cs).2 ≤ byteCount cs := by
  fun_induction skipDigits count cs with
  | case1 => exact Nat.le_refl _
  | case2 count c cs hd ih => exact le_byteCount_cons c ih
  | case3 => exact Nat.le_refl _

section
variable {α : Type} {cs rest : List Char} {x : α} {n : Number} {negative : Bool}

/-- A word that is read is the wanted one. -/
theorem of_readWord {word : List Char} {y : α} (h : readWord x word cs = .ok (y, rest)) :
    y = x ∧ byteCount rest ≤ byteCount cs := by
  fun_induction readWord x word cs with
  | case1 => cases h; exact ⟨rfl, Nat.le_refl _⟩
  | case2 => cases h
  | case3 ws c cs ih =>
    obtain ⟨hy, hle⟩ := ih h
    exact ⟨hy, le_byteCount_cons c hle⟩
  | case4 => cases h

/-- Making a number of what has been read takes nothing more. -/
theorem byteCount_of_readFloat {significand : Nat} {exponent : Int}
    (h : readFloat negative significand exponent cs = .ok (n, rest)) :
    byteCount rest ≤ byteCount cs := by
  unfold readFloat at h
  split at h
  · cases h
  · cases h
    exact Nat.le_refl _

/-- The digits of an exponent are taken from the front. -/
theorem byteCount_of_readExponentDigits {significand : Nat} {start : Int} {below : Bool}
    {exponent : Nat}
    (h : readExponentDigits negative significand start below exponent cs = .ok (n, rest)) :
    byteCount rest ≤ byteCount cs := by
  fun_induction readExponentDigits negative significand start below exponent cs with
  | case1 => exact byteCount_of_readFloat h
  | case2 => exact byteCount_of_readFloat h
  | case3 exponent c cs d hd hfit ih => exact le_byteCount_cons c (ih h)
  | case4 => cases h
  | case5 exponent c cs d hd hfit hout =>
    -- the exponent is too large to count, and the number is zero
    cases h
    exact le_byteCount_cons c (byteCount_skipDigits_le 0 cs)

/-- So is the whole exponent. -/
theorem byteCount_of_readExponent {significand : Nat} {start : Int}
    (h : readExponent negative significand start cs = .ok (n, rest)) :
    byteCount rest ≤ byteCount cs := by
  unfold readExponent at h
  dsimp only at h
  split at h
  · cases h
  · rename_i c tail hsign
    -- what follows the sign is no longer than what includes it
    have htail : byteCount (c :: tail) ≤ byteCount cs := by
      rw [← hsign]
      split
      · exact le_byteCount_cons _ (Nat.le_refl _)
      · exact le_byteCount_cons _ (Nat.le_refl _)
      · exact Nat.le_refl _
    split at h
    · cases h
    · have hle := le_byteCount_cons c (byteCount_of_readExponentDigits h)
      exact Nat.le_trans hle htail

/-- Behind the digits of a fraction there may be an exponent. -/
theorem byteCount_of_afterDigits {significand : Nat} {start : Int}
    (h : afterDigits negative significand start cs = .ok (n, rest)) :
    byteCount rest ≤ byteCount cs := by
  unfold afterDigits at h
  split at h
  · exact le_byteCount_cons _ (byteCount_of_readExponent h)
  · exact le_byteCount_cons _ (byteCount_of_readExponent h)
  · exact byteCount_of_readFloat h

/-- A fraction is taken from the front. -/
theorem byteCount_of_readFraction {significand : Nat} {start : Int}
    (h : readFraction negative significand start cs = .ok (n, rest)) :
    byteCount rest ≤ byteCount cs := by
  have hdigits := byteCount_appendDigits_le significand 0 cs
  unfold readFraction at h
  dsimp only at h
  split at h
  · split at h
    · cases h
    · exact Nat.le_trans (byteCount_of_afterDigits h) (Nat.zero_le _)
  · split at h
    · exact Nat.le_trans (byteCount_of_afterDigits h)
        (Nat.le_trans (byteCount_skipDigits_le _ _) hdigits)
    · split at h
      · cases h
      · exact Nat.le_trans (byteCount_of_afterDigits h) hdigits

/-- Behind an integer there may be a fraction or an exponent. -/
theorem byteCount_of_afterInteger {significand : Nat}
    (h : afterInteger negative significand cs = .ok (n, rest)) : byteCount rest ≤ byteCount cs := by
  unfold afterInteger at h
  split at h
  · exact le_byteCount_cons _ (byteCount_of_readFraction h)
  · exact le_byteCount_cons _ (byteCount_of_readExponent h)
  · exact le_byteCount_cons _ (byteCount_of_readExponent h)
  · split at h
    · cases h
      exact Nat.le_refl _
    · split at h
      · cases h
        exact Nat.le_refl _
      · cases h
        exact Nat.le_refl _

/-- A number is read from the front of the text, and leaves no longer one. -/
theorem byteCount_of_readNumber (h : readNumber negative cs = .ok (n, rest)) :
    byteCount rest ≤ byteCount cs := by
  unfold readNumber at h
  split at h
  · cases h
  · split at h
    · split at h
      · cases h
      · exact le_byteCount_cons _ (byteCount_of_afterInteger h)
    · exact le_byteCount_cons _ (byteCount_of_afterInteger h)
  · rename_i c cs hzero
    apply le_byteCount_cons
    split at h
    · cases h
    · rename_i d hd
      -- the digits that fit come first, and then those that are dropped
      have hdigits := byteCount_appendDigits_le d 0 cs
      split at h
      rename_i heq
      rw [heq] at hdigits
      dsimp only at hdigits
      split at h
      · exact Nat.le_trans (byteCount_of_afterInteger h) hdigits
      · rename_i next tail
        split at h
        · split at h
          rename_i dropped rest hskipped
          have hskip := byteCount_skipDigits_le 0 (next :: tail)
          rw [hskipped] at hskip
          dsimp only at hskip
          have hrest := Nat.le_trans hskip hdigits
          split at h
          · exact Nat.le_trans (le_byteCount_cons _ (byteCount_of_readFraction h)) hrest
          · exact Nat.le_trans (byteCount_of_afterDigits h) hrest
        · exact Nat.le_trans (byteCount_of_afterInteger h) hdigits

end

/-! ### Strings -/

/-- The order of characters does not matter to their bytes. -/
theorem byteCount_reverse (cs : List Char) : byteCount cs.reverse = byteCount cs := by
  rw [byteCount_eq, byteCount_eq, String.utf8Len_reverse]

/-- The bytes of a text are those of its characters. -/
theorem length_ofString_ofList (cs : List Char) :
    (Bytes.ofString (String.ofList cs)).length = byteCount cs := by
  rw [byteCount_eq, ← String.utf8ByteSize_ofList]
  rfl

/-- The same goes for a text that is taken apart. -/
theorem byteCount_toList (s : String) : byteCount s.toList = (Bytes.ofString s).length := by
  rw [← length_ofString_ofList, String.ofList_toList]

section
variable {cs rest : List Char}

/-- Four digits of an escape are four bytes at least. -/
theorem byteCount_of_readHexEscape {n : Nat} (h : readHexEscape cs = .ok (n, rest)) :
    byteCount rest + 4 ≤ byteCount cs := by
  unfold readHexEscape at h
  dsimp only at h
  split at h
  · rename_i a b c d tail
    have ha := byteCount_lt_cons a (b :: c :: d :: tail)
    have hb := byteCount_lt_cons b (c :: d :: tail)
    have hc := byteCount_lt_cons c (d :: tail)
    have hd := byteCount_lt_cons d tail
    split at h
    · cases h
      omega
    · split at h <;> cases h
  · split at h <;> cases h

/-- The escape of a code unit is longer than any character. -/
theorem byteCount_of_readUnicodeEscape {c : Char} (h : readUnicodeEscape cs = .ok (c, rest)) :
    c.utf8Size + byteCount rest ≤ byteCount cs := by
  have hfour := c.utf8Size_le_four
  unfold readUnicodeEscape at h
  split at h
  · cases h
  · rename_i n tail hfirst
    have hle := byteCount_of_readHexEscape hfirst
    split at h
    · cases h
    · split at h
      · obtain ⟨-, rfl⟩ := Prod.mk.inj (Except.ok.inj h)
        omega
      · split at h
        · cases h
        · split at h
          · cases h
          · split at h
            · cases h
            · rename_i m more hsecond
              have hmore := byteCount_of_readHexEscape hsecond
              -- the other half stands behind a mark of two characters
              simp only [byteCount_cons] at hle
              split at h
              · cases h
              · obtain ⟨-, rfl⟩ := Prod.mk.inj (Except.ok.inj h)
                omega
          · cases h
        · cases h

/-- A character may take the place of one that has as many bytes at least. -/
theorem add_byteCount_le_cons {c d : Char} (h : c.utf8Size ≤ d.utf8Size) (cs : List Char) :
    c.utf8Size + byteCount cs ≤ byteCount (d :: cs) := by
  rw [byteCount_cons]
  omega

/-- An escape is no shorter than the character that it stands for. -/
theorem byteCount_of_readEscape {c : Char} (h : readEscape cs = .ok (c, rest)) :
    c.utf8Size + byteCount rest ≤ byteCount cs := by
  unfold readEscape at h
  split at h
  case h_1 => cases h
  case h_10 =>
    exact le_byteCount_cons _ (byteCount_of_readUnicodeEscape h)
  case h_11 => cases h
  -- one character stands for another one of one byte
  all_goals
    cases h
    exact add_byteCount_le_cons (by decide) _

/-- The characters that are done have been counted, and each further one takes as many bytes as it
has, or more. -/
theorem byteCount_of_readStringFrom {budget : Nat} {done : List Char} {s : String}
    (h : readStringFrom budget done cs = .ok (s, rest)) :
    (Bytes.ofString s).length + byteCount rest ≤ byteCount done + byteCount cs := by
  fun_induction readStringFrom budget done cs with
  | case1 => cases h
  | case2 => cases h
  | case3 budget done tail =>
    cases h
    rw [length_ofString_ofList, byteCount_reverse, byteCount_cons]
    omega
  | case4 => cases h
  | case5 budget done tail c more hescape ih =>
    have hle := ih h
    have hone := byteCount_of_readEscape hescape
    simp only [byteCount_cons] at hle ⊢
    omega
  | case6 => cases h
  | case7 budget done c tail hquote hslash hcontrol ih =>
    have hle := ih h
    simp only [byteCount_cons] at hle ⊢
    omega

/-- A string has at most as many bytes as are read for it. -/
theorem byteCount_of_readString {s : String} (h : readString cs = .ok (s, rest)) :
    (Bytes.ofString s).length + byteCount rest ≤ byteCount cs := by
  have hle := byteCount_of_readStringFrom h
  rw [byteCount_nil] at hle
  omega

end

/-! ### Lists and objects -/

/-- Whether no text, list or object inside a value is longer than `size`, and lists and objects are
nested at most so many levels deep. -/
inductive Within (size : Nat) : (levels : Nat) → Json → Prop
  | null {levels : Nat} : Within size levels .null
  | bool {levels : Nat} (b : Bool) : Within size levels (.bool b)
  | number {levels : Nat} (n : Number) : Within size levels (.number n)
  | string {levels : Nat} {s : String} (short : (Bytes.ofString s).length ≤ size) :
      Within size levels (.string s)
  | array {levels : Nat} {items : List Json} (short : items.length ≤ size)
      (within : ∀ x ∈ items, Within size levels x) : Within size (levels + 1) (.array items)
  | object {levels : Nat} {fields : List (String × Json)} (short : fields.length ≤ size)
      (keys : ∀ p ∈ fields, (Bytes.ofString p.1).length ≤ size)
      (within : ∀ p ∈ fields, Within size levels p.2) : Within size (levels + 1) (.object fields)

/-- What a reader gives has the property, as long as it reads from a text of at most `size` bytes,
and it leaves no longer text than it was given. -/
def Gives {α : Type} (size : Nat) (P : α → Prop) (r : Reader α) : Prop :=
  ∀ ⦃cs : List Char⦄ ⦃x : α⦄ ⦃rest : List Char⦄, byteCount cs ≤ size → r cs = .ok (x, rest) →
    byteCount rest ≤ byteCount cs ∧ P x

section
variable {α : Type} {size : Nat} {P : α → Prop} {item : Reader α} {cs rest : List Char}

/-- The items have the property, and each of them takes at least one byte: a comma in front of it,
or the closing bracket instead. -/
theorem of_readItemsFrom (hitem : Gives size P item) {budget : Nat} {done xs : List α}
    (hsize : byteCount cs ≤ size) (hdone : ∀ x ∈ done, P x)
    (h : readItemsFrom item budget done cs = .ok (xs, rest)) :
    xs.length + byteCount rest < done.length + byteCount cs ∧ ∀ x ∈ xs, P x := by
  fun_induction readItemsFrom item budget done cs with
  | case1 => cases h
  | case2 => cases h
  | case3 budget done cs tail hclose =>
    cases h
    have hbracket := byteCount_of_skipSpace hclose
    exact ⟨by rw [List.length_reverse]; omega, fun x hx => hdone x (List.mem_reverse.mp hx)⟩
  | case4 => cases h
  | case5 => cases h
  | case6 => cases h
  | case7 budget done cs tail hcomma _ _ x more hx ih =>
    have hmark := byteCount_of_skipSpace hcomma
    have hskip := byteCount_skipSpace_le tail
    obtain ⟨hmore, hP⟩ := hitem (by omega) hx
    obtain ⟨hlength, hall⟩ := ih (by omega) (List.forall_mem_cons.mpr ⟨hP, hdone⟩) h
    rw [List.length_cons] at hlength
    exact ⟨by omega, hall⟩
  | case8 => cases h

/-- A list has no more items than bytes, and each of them has what the reader of items gives. -/
theorem of_readItems (hitem : Gives size P item) {xs : List α} (hsize : byteCount cs ≤ size)
    (h : readItems item cs = .ok (xs, rest)) :
    xs.length + byteCount rest ≤ byteCount cs ∧ ∀ x ∈ xs, P x := by
  have hskip := byteCount_skipSpace_le cs
  unfold readItems at h
  split at h
  · cases h
  · rename_i tail hclose
    cases h
    have hbracket := byteCount_of_skipSpace hclose
    rw [List.length_nil]
    exact ⟨by omega, List.forall_mem_nil P⟩
  · split at h
    · cases h
    · rename_i x more hx
      obtain ⟨hmore, hP⟩ := hitem (by omega) hx
      obtain ⟨hlength, hall⟩ := of_readItemsFrom hitem (by omega)
        (List.forall_mem_singleton.mpr hP) h
      rw [List.length_singleton] at hlength
      exact ⟨by omega, hall⟩

/-- A colon is taken from the front. -/
theorem byteCount_of_readColon (h : readColon cs = .ok ((), rest)) :
    byteCount rest < byteCount cs := by
  unfold readColon at h
  split at h
  · cases h
  · rename_i tail hcolon
    cases h
    exact byteCount_of_skipSpace hcolon
  · cases h

/-- A key is no longer than what it is read from, and the value of a field has what its reader
gives. -/
theorem gives_readField (hitem : Gives size P item) :
    Gives size (fun p : String × α => (Bytes.ofString p.1).length ≤ size ∧ P p.2)
      (readField item) := by
  intro cs p rest hsize h
  unfold readField at h
  split at h
  · cases h
  · rename_i key afterKey hkey
    have hlength := byteCount_of_readString hkey
    split at h
    · cases h
    · rename_i u afterColon hcolon
      have hafter := byteCount_of_readColon hcolon
      split at h
      · cases h
      · rename_i x more hx
        cases h
        obtain ⟨hmore, hP⟩ := hitem (by omega) hx
        have hshort : (Bytes.ofString key).length ≤ size := by omega
        exact ⟨by omega, hshort, hP⟩

/-- The fields have the property, and each of them takes at least one byte, as items do. -/
theorem of_readFieldsFrom (hitem : Gives size P item) {budget : Nat}
    {done fields : List (String × α)} (hsize : byteCount cs ≤ size)
    (hdone : ∀ p ∈ done, (Bytes.ofString p.1).length ≤ size ∧ P p.2)
    (h : readFieldsFrom item budget done cs = .ok (fields, rest)) :
    fields.length + byteCount rest < done.length + byteCount cs ∧
      ∀ p ∈ fields, (Bytes.ofString p.1).length ≤ size ∧ P p.2 := by
  fun_induction readFieldsFrom item budget done cs with
  | case1 => cases h
  | case2 => cases h
  | case3 budget done cs tail hclose =>
    cases h
    have hbrace := byteCount_of_skipSpace hclose
    exact ⟨by rw [List.length_reverse]; omega, fun p hp => hdone p (List.mem_reverse.mp hp)⟩
  | case4 => cases h
  | case5 => cases h
  | case6 budget done cs tail hcomma tail' hquote p more hp ih =>
    have hmark := byteCount_of_skipSpace hcomma
    have hopen := byteCount_of_skipSpace hquote
    obtain ⟨hmore, hP⟩ := gives_readField hitem (by omega) hp
    obtain ⟨hlength, hall⟩ := ih (by omega) (List.forall_mem_cons.mpr ⟨hP, hdone⟩) h
    rw [List.length_cons] at hlength
    exact ⟨by omega, hall⟩
  | case7 => cases h
  | case8 => cases h
  | case9 => cases h

/-- An object has no more fields than bytes, and each field has what the reader of fields gives. -/
theorem of_readFields (hitem : Gives size P item) {fields : List (String × α)}
    (hsize : byteCount cs ≤ size) (h : readFields item cs = .ok (fields, rest)) :
    fields.length + byteCount rest ≤ byteCount cs ∧
      ∀ p ∈ fields, (Bytes.ofString p.1).length ≤ size ∧ P p.2 := by
  unfold readFields at h
  split at h
  · cases h
  · rename_i tail hclose
    cases h
    have hbrace := byteCount_of_skipSpace hclose
    rw [List.length_nil]
    exact ⟨by omega, List.forall_mem_nil _⟩
  · rename_i tail hquote
    have hopen := byteCount_of_skipSpace hquote
    split at h
    · cases h
    · rename_i p more hp
      obtain ⟨hmore, hP⟩ := gives_readField hitem (by omega) hp
      obtain ⟨hlength, hall⟩ := of_readFieldsFrom hitem (by omega)
        (List.forall_mem_singleton.mpr hP) h
      rw [List.length_singleton] at hlength
      exact ⟨by omega, hall⟩
  · cases h

end

/-! ### Values -/

section
variable {size : Nat}

/-- What is made of a value that is read has been made of one that ends there. -/
theorem Parsed.map_eq_ok {α β : Type} {r : Parsed α} {f : α → β} {y : β} {rest : List Char}
    (h : r.map f = .ok (y, rest)) : ∃ x, r = .ok (x, rest) ∧ f x = y := by
  unfold Parsed.map at h
  split at h
  · cases h
  · cases h
    exact ⟨_, rfl, rfl⟩

/-- A value is within one level more than the values inside it. -/
theorem gives_readValueWith {nested : Option (Reader Json)} {levels : Nat}
    (hnested : ∀ item, nested = some item →
      ∃ fewer, levels = fewer + 1 ∧ Gives size (Within size fewer) item) :
    Gives size (Within size levels) (readValueWith nested) := by
  intro cs j rest hsize h
  unfold readValueWith at h
  split at h
  · cases h
  -- the words
  · rename_i tail hstart
    have hfirst := byteCount_of_skipSpace hstart
    obtain ⟨rfl, hle⟩ := of_readWord h
    exact ⟨by omega, .null⟩
  · rename_i tail hstart
    have hfirst := byteCount_of_skipSpace hstart
    obtain ⟨rfl, hle⟩ := of_readWord h
    exact ⟨by omega, .bool true⟩
  · rename_i tail hstart
    have hfirst := byteCount_of_skipSpace hstart
    obtain ⟨rfl, hle⟩ := of_readWord h
    exact ⟨by omega, .bool false⟩
  -- a number below zero, a string, a list and an object
  · rename_i tail hstart
    have hfirst := byteCount_of_skipSpace hstart
    obtain ⟨n, hn, rfl⟩ := Parsed.map_eq_ok h
    have hle := byteCount_of_readNumber hn
    exact ⟨by omega, .number n⟩
  · rename_i tail hstart
    have hfirst := byteCount_of_skipSpace hstart
    obtain ⟨s, hs, rfl⟩ := Parsed.map_eq_ok h
    have hlength := byteCount_of_readString hs
    exact ⟨by omega, .string (by omega)⟩
  · rename_i tail hstart
    have hfirst := byteCount_of_skipSpace hstart
    split at h
    · cases h
    · rename_i item
      obtain ⟨fewer, rfl, hitem⟩ := hnested item rfl
      obtain ⟨items, hitems, rfl⟩ := Parsed.map_eq_ok h
      obtain ⟨hlength, hwithin⟩ := of_readItems hitem (by omega) hitems
      exact ⟨by omega, .array (by omega) hwithin⟩
  · rename_i tail hstart
    have hfirst := byteCount_of_skipSpace hstart
    split at h
    · cases h
    · rename_i item
      obtain ⟨fewer, rfl, hitem⟩ := hnested item rfl
      obtain ⟨fields, hfields, rfl⟩ := Parsed.map_eq_ok h
      obtain ⟨hlength, hwithin⟩ := of_readFields hitem (by omega) hfields
      -- no field is new among those that are left of the fields with one key
      have hfewer := Fields.length_ofList_le fields
      refine ⟨by omega, .object (by omega) (fun p hp => ?_) (fun p hp => ?_)⟩
      · exact (hwithin p (Fields.mem_of_mem_ofList hp)).1
      · exact (hwithin p (Fields.mem_of_mem_ofList hp)).2
  -- another number begins with its first digit
  · rename_i c tail _ _ _ _ _ _ _ hstart
    split at h
    · obtain ⟨n, hn, rfl⟩ := Parsed.map_eq_ok h
      have hle := byteCount_of_readNumber hn
      rw [← hstart] at hle
      exact ⟨Nat.le_trans hle (byteCount_skipSpace_le cs), .number n⟩
    · cases h

/-- A value that is read is no longer than its text, and nested within the levels. -/
theorem gives_readValue (levels : Nat) : Gives size (Within size levels) (readValue levels) := by
  induction levels with
  | zero => exact gives_readValueWith nofun
  | succ levels ih =>
    refine gives_readValueWith fun item hitem => ⟨levels, rfl, ?_⟩
    rw [← Option.some.inj hitem]
    exact ih

end

/-- What is read of a text is nowhere longer than the text, and nested within the limit. -/
theorem within_of_read {text : String} {j : Json} (h : read text = .ok j) :
    j.Within (Bytes.ofString text).length levelLimit := by
  have hread : ∃ rest, readValue levelLimit text.toList = .ok (j, rest) := by
    unfold read onlySpace at h
    split at h
    · cases h
    · rename_i x rest hvalue
      split at h
      · rw [hvalue, Except.ok.inj h]
        exact ⟨rest, rfl⟩
      · cases h
  obtain ⟨rest, hrest⟩ := hread
  have hsize : byteCount text.toList ≤ (Bytes.ofString text).length := by rw [byteCount_toList]
  exact (gives_readValue levelLimit hsize hrest).2

end Courier.Json
