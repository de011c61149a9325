import Courier.Json.Printer
import Courier.Json.Reader
import Courier.Proofs.QueryEncoding
import Mathlib

/-!
# `Courier.Proofs.Json.ReadBack`: what is printed is read again

The reader takes a printed value from the front of a text and leaves what follows it (`Takes`). What
follows is the end of the text, a comma or a new line, so that no digit, point or exponent is taken
for a part of a number (`EndsValue`).

This is so for JSON whose integers have the form of their sign, whose fields are in order, and that
is not nested deeper than the reader goes (`Exact`). Its numbers are integers: the digits of a float
are those of the nearest one, which is another matter.
-/

set_option autoImplicit false

namespace Courier.Json

/-- What may stand behind a value. -/
inductive EndsValue : List Char → Prop
  | nil : EndsValue []
  | comma (cs : List Char) : EndsValue (',' :: cs)
  | newLine (cs : List Char) : EndsValue ('\n' :: cs)

/-- A reader takes the text of a value, and leaves what stands behind it. -/
def Takes {α : Type} (r : Reader α) (cs : List Char) (x : α) : Prop :=
  ∀ ⦃rest : List Char⦄, EndsValue rest → r (cs ++ rest) = .ok (x, rest)

/-! ### Numbers -/

section
variable {c : Char} {ds rest : List Char} {n : Nat}

/-- A decimal digit has its distance from zero for its value. -/
theorem digit?_of_isDigit (h : c.isDigit = true) : digit? c = some (c.toNat - 48) := by
  rw [Char.isDigit, Bool.and_eq_true, decide_eq_true_eq, decide_eq_true_eq] at h
  exact if_pos ⟨UInt32.le_iff_toNat_le.mp h.1, UInt32.le_iff_toNat_le.mp h.2⟩

/-- All digits of a number that fits 64 bits are appended. -/
theorem appendDigits_append {significand count : Nat} (hds : ∀ c ∈ ds, c.isDigit = true)
    (hfit : Nat.ofDigitChars 10 ds significand < UInt64.size) (hrest : EndsValue rest) :
    appendDigits significand count (ds ++ rest)
      = (Nat.ofDigitChars 10 ds significand, count + ds.length, rest) := by
  induction ds generalizing significand count with
  | nil => cases hrest <;> rfl
  | cons c ds ih =>
    obtain ⟨hc, htail⟩ := List.forall_mem_cons.mp hds
    rw [Nat.ofDigitChars_cons] at hfit ⊢
    have hzero : c.toNat - '0'.toNat = c.toNat - 48 := rfl
    rw [hzero, Nat.mul_comm] at hfit ⊢
    -- digits that follow make the number no smaller
    have hgrows : significand * 10 + (c.toNat - 48)
        ≤ Nat.ofDigitChars 10 ds (significand * 10 + (c.toNat - 48)) := by
      rw [Nat.ofDigitChars_eq_ofDigitChars_zero]
      exact Nat.le_trans (Nat.le_mul_of_pos_left _ (by positivity)) (Nat.le_add_right _ _)
    rw [List.cons_append, appendDigits, digit?_of_isDigit hc]
    dsimp only
    rw [if_pos (by omega), ih htail hfit, List.length_cons, Nat.add_right_comm, Nat.add_assoc]

/-- The first digit of a positive number is not zero. -/
theorem head?_toDigits (hn : 0 < n) : ∀ c ∈ (Nat.toDigits 10 n).head?, c ≠ '0' := by
  induction n using Nat.strongRecOn with
  | ind n ih =>
    rw [Nat.toDigits_eq_if (by decide)]
    split
    · rintro c hc rfl
      exact absurd (Nat.digitChar_eq_zero.mp (Option.some.inj hc)) (by omega)
    · -- the digits begin with those of the number without the last one
      rw [List.head?_append_of_ne_nil _ Nat.toDigits_ne_nil]
      exact ih (n / 10) (by omega) (by omega)

/-- The digits of a number are read as the number. -/
theorem readNumber_toDigits {negative : Bool} (hfit : n < UInt64.size) (hrest : EndsValue rest) :
    readNumber negative (Nat.toDigits 10 n ++ rest) = afterInteger negative n rest := by
  rcases Nat.eq_zero_or_pos n with rfl | hpos
  · -- zero has a case of its own, in which no other digit may follow
    rw [Nat.toDigits_zero]
    cases hrest <;> rfl
  · obtain ⟨c, cs, hdigits⟩ := List.exists_cons_of_ne_nil (Nat.toDigits_ne_nil (n := n) (b := 10))
    have hall : ∀ d ∈ c :: cs, d.isDigit = true := fun d hd =>
      Nat.isDigit_of_mem_toDigits (by decide) (by decide) (hdigits ▸ hd)
    obtain ⟨hc, hcs⟩ := List.forall_mem_cons.mp hall
    have hzero : c ≠ '0' := head?_toDigits hpos c (by rw [hdigits]; rfl)
    have hvalue : Nat.ofDigitChars 10 cs (c.toNat - 48) = n := by
      have hten := Nat.ofDigitChars_ten_toDigits (n := n)
      rw [hdigits, Nat.ofDigitChars_cons, Nat.mul_zero, Nat.zero_add] at hten
      exact hten
    rw [hdigits, List.cons_append, readNumber]
    · rw [digit?_of_isDigit hc]
      dsimp only
      rw [appendDigits_append hcs (by rw [hvalue]; exact hfit) hrest, hvalue]
      cases hrest <;> rfl
    · exact fun h => hzero h

/-- An integer ends with its digits, and without a sign it is a natural number. -/
theorem afterInteger_natural (hrest : EndsValue rest) :
    afterInteger false n rest = .ok (.natural (UInt64.ofNat n), rest) := by
  cases hrest <;> rfl

/-- With a sign it is one below zero, if it fits. -/
theorem afterInteger_negative (hpos : 0 < n) (hfit : n ≤ 0x8000000000000000)
    (hrest : EndsValue rest) :
    afterInteger true n rest = .ok (.negative (Int64.ofInt (-(n : Int))), rest) := by
  cases hrest <;> exact if_pos ⟨hpos, hfit⟩

end

/-! ### Strings -/

section
variable {c : Char} {rest : List Char}

/-- A control character stands as its code unit. -/
theorem readEscape_hex (h : c.toNat < 0x20) :
    readEscape ('u' :: '0' :: '0' :: Text.Hex.digit (c.toNat / 16) ::
      Text.Hex.digit (c.toNat % 16) :: rest) = .ok (c, rest) := by
  have hzero : Text.Hex.digitValue? '0' = some 0 := by rfl
  have hunit : ((0 * 16 + 0) * 16 + c.toNat / 16) * 16 + c.toNat % 16 = c.toNat := by omega
  have hread : readHexEscape ('0' :: '0' :: Text.Hex.digit (c.toNat / 16) ::
      Text.Hex.digit (c.toNat % 16) :: rest) = .ok (c.toNat, rest) := by
    rw [readHexEscape, hzero, Text.Hex.digitValue?_digit _ (by omega),
      Text.Hex.digitValue?_digit _ (by omega)]
    dsimp only
    rw [hunit]
  rw [readEscape, readUnicodeEscape, hread]
  dsimp only
  rw [if_neg (by omega), if_pos (by omega), Char.ofNat_toNat]

/-- Every character is read from what stands for it. -/
theorem readStringFrom_escapeChar (budget : Nat) (done : List Char) :
    readStringFrom (budget + 1) done (escapeChar c ++ rest)
      = readStringFrom budget (c :: done) rest := by
  have hshort : ∀ mark d : Char, readEscape (mark :: rest) = .ok (d, rest) → c.toNat = d.toNat →
      readStringFrom (budget + 1) done ('\\' :: mark :: rest)
        = readStringFrom budget (c :: done) rest := by
    intro mark d hread hd
    rw [readStringFrom, hread, Char.toNat_inj.mp hd]
  unfold escapeChar
  dsimp only
  split
  · exact hshort '"' '"' rfl ‹_›
  split
  · exact hshort '\\' '\\' rfl ‹_›
  split
  · exact hshort 'b' '\x08' rfl ‹_›
  split
  · exact hshort 't' '\t' rfl ‹_›
  split
  · exact hshort 'n' '\n' rfl ‹_›
  split
  · exact hshort 'f' '\x0c' rfl ‹_›
  split
  · exact hshort 'r' '\r' rfl ‹_›
  split
  · -- a control character that has no mark
    rename_i h
    change readStringFrom (budget + 1) done ('\\' :: ('u' :: '0' :: '0' ::
      Text.Hex.digit (c.toNat / 16) :: Text.Hex.digit (c.toNat % 16) :: rest)) = _
    rw [readStringFrom, readEscape_hex h]
  · -- a character that stands for itself
    rename_i hmark hescape _ _ _ _ _ hcontrol
    rw [List.singleton_append, readStringFrom, if_neg hcontrol]
    · rintro rfl
      exact hmark rfl
    · rintro rfl
      exact hescape rfl

/-- The text of a string is read up to its closing mark. -/
theorem readStringFrom_flatMap {cs done : List Char} {budget : Nat} (hbudget : cs.length < budget) :
    readStringFrom budget done (cs.flatMap escapeChar ++ '"' :: rest)
      = .ok (String.ofList (done.reverse ++ cs), rest) := by
  induction cs generalizing done budget with
  | nil =>
    obtain ⟨fewer, rfl⟩ := Nat.exists_eq_add_one_of_ne_zero (Nat.ne_zero_of_lt hbudget)
    rw [List.flatMap_nil, List.nil_append, readStringFrom, List.append_nil]
  | cons c cs ih =>
    obtain ⟨fewer, rfl⟩ := Nat.exists_eq_add_one_of_ne_zero (Nat.ne_zero_of_lt hbudget)
    rw [List.length_cons] at hbudget
    rw [List.flatMap_cons, List.append_assoc, readStringFrom_escapeChar, ih (by omega),
      List.reverse_cons, List.append_assoc, List.singleton_append]

/-- So the budget of the reader, which is the length of the text, is enough. -/
theorem length_le_flatMap_escapeChar (cs : List Char) :
    cs.length ≤ (cs.flatMap escapeChar).length := by
  have hone : ∀ c, 1 ≤ (escapeChar c).length := by
    intro c
    unfold escapeChar
    dsimp only
    repeat' split
    all_goals simp
  induction cs with
  | nil => exact Nat.le_refl 0
  | cons c cs ih =>
    have hc := hone c
    rw [List.flatMap_cons, List.length_append, List.length_cons]
    omega

/-- A string that is written between quotation marks is read back. -/
theorem readString_stringChars (s : String) :
    readString (s.toList.flatMap escapeChar ++ '"' :: rest) = .ok (s, rest) := by
  have hlength := length_le_flatMap_escapeChar s.toList
  rw [readString, readStringFrom_flatMap (by rw [List.length_append]; omega), List.reverse_nil,
    List.nil_append, String.ofList_toList]

end

/-! ### Space -/

section
variable {levels indent : Nat} {cs rest : List Char} {j : Json}

/-- A new line and its indentation are space. -/
theorem skipSpace_newLine (indent : Nat) (cs : List Char) :
    skipSpace (newLine indent ++ cs) = skipSpace cs := by
  refine List.dropWhile_append_of_pos fun c hc => ?_
  rcases List.mem_cons.mp hc with rfl | hc
  · rfl
  · rw [List.eq_of_mem_replicate hc]
    rfl

/-- A value is read the same without the space in front of it. -/
theorem readValue_skipSpace : readValue levels (skipSpace cs) = readValue levels cs := by
  have hagain : skipSpace (skipSpace cs) = skipSpace cs := List.dropWhile_idempotent _ _
  cases levels with
  | zero => rw [readValue, readValueWith, readValueWith, hagain]
  | succ levels => rw [readValue, readValueWith, readValueWith, hagain]

/-- A value begins with its first character, which is no closing bracket and no at sign. -/
theorem start_of_readValue (h : readValue levels cs = .ok (j, rest)) :
    ∃ c tail, skipSpace cs = c :: tail ∧ readValue levels (c :: tail) = .ok (j, rest) ∧
      c ≠ ']' ∧ c ≠ '@' := by
  rw [← readValue_skipSpace] at h
  cases hstart : skipSpace cs with
  | nil =>
    rw [hstart] at h
    cases levels <;> cases h
  | cons c tail =>
    rw [hstart] at h
    refine ⟨c, tail, rfl, h, ?_, ?_⟩ <;>
    · rintro rfl
      cases levels <;> cases h

end

/-! ### Lists and objects -/

/-- What stands behind the first item: every other one, behind a comma and on a line of its own. -/
def itemsAfter (indent : Nat) (items : List Json) : List Char :=
  items.flatMap fun x => ',' :: (newLine indent ++ prettyAt indent x)

/-- A field as it stands on its line. -/
def fieldChars (indent : Nat) (p : String × Json) : List Char :=
  stringChars p.1 ++ ':' :: ' ' :: prettyAt indent p.2

/-- What stands behind the first field. -/
def fieldsAfter (indent : Nat) (fields : List (String × Json)) : List Char :=
  fields.flatMap fun p => ',' :: (newLine indent ++ fieldChars indent p)

section
variable {levels indent outer : Nat} {rest : List Char}

/-- The first item of a list stands on a line of its own, in front of the others. -/
theorem prettyItems_cons (x : Json) (items : List Json) :
    prettyItems indent (x :: items)
      = newLine indent ++ (prettyAt indent x ++ itemsAfter indent items) := by
  induction items generalizing x with
  | nil => rw [prettyItems, itemsAfter, List.flatMap_nil, List.append_nil]
  | cons y items ih =>
    simp only [prettyItems, ih, itemsAfter, List.flatMap_cons, List.cons_append, List.append_assoc]

/-- So does the first field of an object. -/
theorem prettyFields_cons (p : String × Json) (fields : List (String × Json)) :
    prettyFields indent (p :: fields)
      = newLine indent ++ (fieldChars indent p ++ fieldsAfter indent fields) := by
  induction fields generalizing p with
  | nil =>
    rw [prettyFields, fieldsAfter, List.flatMap_nil, List.append_nil, fieldChars, List.append_assoc]
  | cons q fields ih =>
    simp only [prettyFields, ih, fieldsAfter, fieldChars, List.flatMap_cons, List.cons_append,
      List.append_assoc]

/-- Each of the other items comes behind a comma. -/
theorem itemsAfter_cons (x : Json) (items : List Json) :
    itemsAfter indent (x :: items)
      = ',' :: (newLine indent ++ (prettyAt indent x ++ itemsAfter indent items)) := by
  rw [itemsAfter, itemsAfter, List.flatMap_cons, List.cons_append, List.append_assoc]

/-- So does each of the other fields. -/
theorem fieldsAfter_cons (p : String × Json) (fields : List (String × Json)) :
    fieldsAfter indent (p :: fields)
      = ',' :: (newLine indent ++ (fieldChars indent p ++ fieldsAfter indent fields)) := by
  rw [fieldsAfter, fieldsAfter, List.flatMap_cons, List.cons_append, List.append_assoc]

/-- Behind an item stands a comma, or the line of the closing bracket. -/
theorem endsValue_itemsAfter (items : List Json) :
    EndsValue (itemsAfter indent items ++ (newLine outer ++ rest)) := by
  cases items with
  | nil => exact .newLine _
  | cons x items => exact .comma _

/-- What follows a field ends a value, too. -/
theorem endsValue_fieldsAfter (fields : List (String × Json)) :
    EndsValue (fieldsAfter indent fields ++ (newLine outer ++ rest)) := by
  cases fields with
  | nil => exact .newLine _
  | cons p fields => exact .comma _

/-- One more item is read behind a comma. -/
theorem readItemsFrom_comma {x : Json} {done : List Json} {budget : Nat} {text : List Char}
    (h : readValue levels text = .ok (x, rest)) :
    readItemsFrom (readValue levels) (budget + 1) done (',' :: (newLine indent ++ text))
      = readItemsFrom (readValue levels) budget (x :: done) rest := by
  obtain ⟨c, cs, hstart, hitem, hbracket, -⟩ := start_of_readValue h
  have hcomma : skipSpace (',' :: (newLine indent ++ text)) = ',' :: (newLine indent ++ text) := rfl
  simp only [readItemsFrom, hcomma, skipSpace_newLine, hstart]
  split
  · rename_i hnone
    cases hnone
  · rename_i hclose
    exact absurd (List.cons.inj hclose).1 hbracket
  · rw [hitem]

/-- The items behind the first are read up to the closing bracket. -/
theorem readItemsFrom_itemsAfter {items done : List Json} {budget : Nat}
    (h : ∀ x ∈ items, Takes (readValue levels) (prettyAt indent x) x)
    (hbudget : (itemsAfter indent items).length < budget) :
    readItemsFrom (readValue levels) budget done
      (itemsAfter indent items ++ (newLine outer ++ ']' :: rest))
      = .ok (done.reverse ++ items, rest) := by
  induction items generalizing done budget with
  | nil =>
    obtain ⟨fewer, rfl⟩ := Nat.exists_eq_add_one_of_ne_zero (Nat.ne_zero_of_lt hbudget)
    have hclose : skipSpace (newLine outer ++ ']' :: rest) = ']' :: rest := skipSpace_newLine _ _
    rw [itemsAfter, List.flatMap_nil, List.nil_append, readItemsFrom, hclose, List.append_nil]
    rfl
  | cons x items ih =>
    obtain ⟨fewer, rfl⟩ := Nat.exists_eq_add_one_of_ne_zero (Nat.ne_zero_of_lt hbudget)
    obtain ⟨hx, hitems⟩ := List.forall_mem_cons.mp h
    -- the comma takes one turn of the loop and one character of the text
    rw [itemsAfter_cons] at hbudget ⊢
    simp only [List.length_cons, List.length_append] at hbudget
    simp only [List.cons_append, List.append_assoc]
    rw [readItemsFrom_comma (hx (endsValue_itemsAfter items)), ih hitems (by omega),
      List.reverse_cons, List.append_assoc, List.singleton_append]

/-- Items that are each read back are read back as a list. -/
theorem readItems_prettyItems {x : Json} {items : List Json}
    (h : ∀ y ∈ x :: items, Takes (readValue levels) (prettyAt indent y) y) :
    readItems (readValue levels) (prettyItems indent (x :: items) ++ (newLine outer ++ ']' :: rest))
      = .ok (x :: items, rest) := by
  obtain ⟨hx, hitems⟩ := List.forall_mem_cons.mp h
  have htail : EndsValue (itemsAfter indent items ++ (newLine outer ++ ']' :: rest)) :=
    endsValue_itemsAfter items
  obtain ⟨c, cs, hstart, hitem, hbracket, -⟩ := start_of_readValue (hx htail)
  rw [prettyItems_cons, List.append_assoc, List.append_assoc, readItems, skipSpace_newLine, hstart]
  split
  · rename_i hnone
    cases hnone
  · rename_i hclose
    exact absurd (List.cons.inj hclose).1 hbracket
  · rw [hitem]
    dsimp only
    rw [readItemsFrom_itemsAfter hitems (by rw [List.length_append]; omega), List.reverse_singleton,
      List.singleton_append]

/-- A field is read after the mark that opens its key. -/
theorem readField_fieldChars {p : String × Json}
    (h : Takes (readValue levels) (prettyAt indent p.2) p.2) (hrest : EndsValue rest) :
    readField (readValue levels) (p.1.toList.flatMap escapeChar ++
      '"' :: ':' :: ' ' :: (prettyAt indent p.2 ++ rest)) = .ok (p, rest) := by
  have hcolon : ∀ cs, readColon (':' :: ' ' :: cs) = .ok ((), ' ' :: cs) := fun cs => rfl
  have hspace : ∀ cs, readValue levels (' ' :: cs) = readValue levels cs := by
    intro cs
    have hskip : skipSpace (' ' :: cs) = skipSpace cs := rfl
    rw [← readValue_skipSpace, hskip, readValue_skipSpace]
  rw [readField, readString_stringChars]
  dsimp only
  rw [hcolon]
  dsimp only
  rw [hspace, h hrest]

/-- A field is its key between quotation marks, a colon and its value. -/
theorem fieldChars_append (p : String × Json) (cs : List Char) :
    fieldChars indent p ++ cs = '"' :: (p.1.toList.flatMap escapeChar ++
      '"' :: ':' :: ' ' :: (prettyAt indent p.2 ++ cs)) := by
  simp only [fieldChars, stringChars, List.cons_append, List.append_assoc, List.nil_append]

/-- The fields behind the first are read up to the closing brace. -/
theorem readFieldsFrom_fieldsAfter {fields done : List (String × Json)} {budget : Nat}
    (h : ∀ p ∈ fields, Takes (readValue levels) (prettyAt indent p.2) p.2)
    (hbudget : (fieldsAfter indent fields).length < budget) :
    readFieldsFrom (readValue levels) budget done
      (fieldsAfter indent fields ++ (newLine outer ++ '\x7d' :: rest))
      = .ok (done.reverse ++ fields, rest) := by
  induction fields generalizing done budget with
  | nil =>
    obtain ⟨fewer, rfl⟩ := Nat.exists_eq_add_one_of_ne_zero (Nat.ne_zero_of_lt hbudget)
    have hclose : skipSpace (newLine outer ++ '\x7d' :: rest) = '\x7d' :: rest :=
      skipSpace_newLine _ _
    rw [fieldsAfter, List.flatMap_nil, List.nil_append, readFieldsFrom, hclose, List.append_nil]
    rfl
  | cons p fields ih =>
    obtain ⟨fewer, rfl⟩ := Nat.exists_eq_add_one_of_ne_zero (Nat.ne_zero_of_lt hbudget)
    obtain ⟨hp, hfields⟩ := List.forall_mem_cons.mp h
    rw [fieldsAfter_cons] at hbudget ⊢
    simp only [List.length_cons, List.length_append] at hbudget
    -- the comma and the quotation mark are no space that could be skipped
    have hcomma : ∀ cs, skipSpace (',' :: cs) = ',' :: cs := fun cs => rfl
    have hmark : ∀ cs, skipSpace ('"' :: cs) = '"' :: cs := fun cs => rfl
    have htail : EndsValue (fieldsAfter indent fields ++ (newLine outer ++ '\x7d' :: rest)) :=
      endsValue_fieldsAfter fields
    simp only [List.cons_append, List.append_assoc, readFieldsFrom, hcomma, skipSpace_newLine,
      fieldChars_append, hmark, readField_fieldChars hp htail]
    rw [ih hfields (by omega), List.reverse_cons, List.append_assoc, List.singleton_append]

/-- Fields whose values are each read back are read back as an object. -/
theorem readFields_prettyFields {p : String × Json} {fields : List (String × Json)}
    (h : ∀ q ∈ p :: fields, Takes (readValue levels) (prettyAt indent q.2) q.2) :
    readFields (readValue levels)
      (prettyFields indent (p :: fields) ++ (newLine outer ++ '\x7d' :: rest))
      = .ok (p :: fields, rest) := by
  obtain ⟨hp, hfields⟩ := List.forall_mem_cons.mp h
  have hmark : ∀ cs, skipSpace ('"' :: cs) = '"' :: cs := fun cs => rfl
  have htail : EndsValue (fieldsAfter indent fields ++ (newLine outer ++ '\x7d' :: rest)) :=
    endsValue_fieldsAfter fields
  rw [prettyFields_cons, List.append_assoc, List.append_assoc]
  simp only [readFields, skipSpace_newLine, fieldChars_append, hmark, readField_fieldChars hp htail]
  rw [readFieldsFrom_fieldsAfter hfields (by rw [List.length_append]; omega),
    List.reverse_singleton, List.singleton_append]

end

/-! ### Values -/

/-- JSON that is printed so that it is read as it was: of integers, each in the form of its sign,
with fields in order, and nested at most so many levels. -/
inductive Exact : (levels : Nat) → Json → Prop
  | null {levels : Nat} : Exact levels .null
  | bool {levels : Nat} (b : Bool) : Exact levels (.bool b)
  | natural {levels : Nat} (n : UInt64) : Exact levels (.number (.natural n))
  | negative {levels : Nat} {n : Int64} (below : n.toInt < 0) :
      Exact levels (.number (.negative n))
  | string {levels : Nat} (s : String) : Exact levels (.string s)
  | array {levels : Nat} {items : List Json} (exact : ∀ x ∈ items, Exact levels x) :
      Exact (levels + 1) (.array items)
  | object {levels : Nat} {fields : List (String × Json)} (sorted : Fields.Sorted fields)
      (exact : ∀ p ∈ fields, Exact levels p.2) : Exact (levels + 1) (.object fields)

section
variable {levels indent : Nat} {j : Json} {rest : List Char}

/-! The first character tells which value it is. -/

/-- A sign begins a number below zero. -/
theorem readValue_minus (cs : List Char) :
    readValue levels ('-' :: cs) = (readNumber true cs).map .number := by
  cases levels <;> rfl

/-- A quotation mark begins a string. -/
theorem readValue_quote (cs : List Char) :
    readValue levels ('"' :: cs) = (readString cs).map .string := by
  cases levels <;> rfl

/-- A bracket begins a list, whose items are one level below. -/
theorem readValue_bracket (cs : List Char) :
    readValue (levels + 1) ('[' :: cs) = (readItems (readValue levels) cs).map .array := rfl

/-- A brace begins an object, whose fields are put in order when they have all been read. -/
theorem readValue_brace (cs : List Char) :
    readValue (levels + 1) ('\x7b' :: cs)
      = (readFields (readValue levels) cs).map fun fs => .object (Fields.ofList fs) := rfl

/-- A digit begins a number. -/
theorem readValue_digit {c : Char} (hc : c.isDigit = true) (cs : List Char) :
    readValue levels (c :: cs) = (readNumber false (c :: cs)).map .number := by
  have hskip : skipSpace (c :: cs) = c :: cs := by
    refine List.dropWhile_cons_of_neg fun hspace => ?_
    simp only [isSpace, Bool.or_eq_true, decide_eq_true_eq] at hspace
    rcases hspace with ((rfl | rfl) | rfl) | rfl <;> exact absurd hc (by decide)
  have hwith : ∀ nested,
      readValueWith nested (c :: cs) = (readNumber false (c :: cs)).map .number := by
    intro nested
    rw [readValueWith, hskip]
    split
    case h_1 hnone => cases hnone
    case h_9 hsame =>
      obtain ⟨rfl, rfl⟩ := List.cons.inj hsame
      rw [digit?_of_isDigit hc]
      rfl
    -- every other case has a character that is no digit
    all_goals
      rename_i hother
      obtain ⟨rfl, -⟩ := List.cons.inj hother
      exact absurd hc (by decide)
  cases levels <;> exact hwith _

/-- Natural numbers are read back. -/
theorem takes_natural (n : UInt64) :
    Takes (readValue levels) (prettyAt indent (.number (.natural n))) (.number (.natural n)) := by
  intro rest hrest
  obtain ⟨c, cs, hdigits⟩ :=
    List.exists_cons_of_ne_nil (Nat.toDigits_ne_nil (n := n.toNat) (b := 10))
  have hc : c.isDigit = true :=
    Nat.isDigit_of_mem_toDigits (by decide) (by decide) (hdigits ▸ List.mem_cons_self)
  rw [prettyAt, numberChars, hdigits, List.cons_append, readValue_digit hc, ← List.cons_append,
    ← hdigits, readNumber_toDigits n.toNat_lt hrest, afterInteger_natural hrest, UInt64.ofNat_toNat]
  rfl

/-- So are integers below zero. -/
theorem takes_negative {n : Int64} (below : n.toInt < 0) :
    Takes (readValue levels) (prettyAt indent (.number (.negative n))) (.number (.negative n)) := by
  intro rest hrest
  have hleast : -2 ^ 63 ≤ n.toInt := n.le_toInt
  have hminus : -((n.toInt.natAbs : Nat) : Int) = n.toInt := by omega
  have hsize : n.toInt.natAbs < UInt64.size := by
    show _ < 2 ^ 64
    omega
  rw [prettyAt, numberChars, List.cons_append, readValue_minus, readNumber_toDigits hsize hrest,
    afterInteger_negative (by omega) (by omega) hrest, hminus, Int64.ofInt_toInt]
  rfl

/-- And strings. -/
theorem takes_string (s : String) :
    Takes (readValue levels) (prettyAt indent (.string s)) (.string s) := by
  intro rest hrest
  rw [prettyAt, stringChars, List.append_assoc, List.cons_append, List.singleton_append,
    readValue_quote, readString_stringChars]
  rfl

/-- A list is read back if its items are, with one level more. -/
theorem takes_array {items : List Json}
    (h : ∀ x ∈ items, ∀ indent, Takes (readValue levels) (prettyAt indent x) x) :
    Takes (readValue (levels + 1)) (prettyAt indent (.array items)) (.array items) := by
  intro rest hrest
  cases items with
  | nil => rfl
  | cons x items =>
    have htext : prettyAt indent (.array (x :: items)) ++ rest = '[' ::
        (prettyItems (indent + 1) (x :: items) ++ (newLine indent ++ ']' :: rest)) := by
      simp only [prettyAt, List.cons_append, List.append_assoc, List.nil_append]
    rw [htext, readValue_bracket, readItems_prettyItems fun y hy => h y hy (indent + 1)]
    rfl

/-- An object is read back if its values are and its fields stand in order. -/
theorem takes_object {fields : List (String × Json)} (sorted : Fields.Sorted fields)
    (h : ∀ p ∈ fields, ∀ indent, Takes (readValue levels) (prettyAt indent p.2) p.2) :
    Takes (readValue (levels + 1)) (prettyAt indent (.object fields)) (.object fields) := by
  intro rest hrest
  -- fields in order are kept as they are
  have hkept := Fields.ofList_of_sorted sorted
  cases fields with
  | nil =>
    rw [prettyAt, List.cons_append, readValue_brace]
    exact congrArg (fun fs => Except.ok (Json.object fs, rest)) hkept
  | cons p fields =>
    have htext : prettyAt indent (.object (p :: fields)) ++ rest = '\x7b' ::
        (prettyFields (indent + 1) (p :: fields) ++ (newLine indent ++ '\x7d' :: rest)) := by
      simp only [prettyAt, List.cons_append, List.append_assoc, List.nil_append]
    rw [htext, readValue_brace, readFields_prettyFields fun q hq => h q hq (indent + 1)]
    exact congrArg (fun fs => Except.ok (Json.object fs, rest)) hkept

/-- A printed value is taken from the front of a text. -/
theorem takes_prettyAt (h : Exact levels j) (indent : Nat) :
    Takes (readValue levels) (prettyAt indent j) j := by
  induction h generalizing indent with
  | @null levels =>
    intro rest hrest
    cases levels <;> rfl
  | @bool levels b =>
    intro rest hrest
    cases b <;> cases levels <;> rfl
  | natural n => exact takes_natural n
  | negative below => exact takes_negative below
  | string s => exact takes_string s
  | array exact ih => exact takes_array ih
  | object sorted exact ih => exact takes_object sorted ih

/-- What is printed is read again. -/
theorem read_pretty (h : Exact levelLimit j) : read (String.ofList j.pretty) = .ok j := by
  have hvalue := takes_prettyAt h 0 .nil
  rw [List.append_nil] at hvalue
  rw [read, String.toList_ofList, pretty, hvalue]
  rfl

end

end Courier.Json
