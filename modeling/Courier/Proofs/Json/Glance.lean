import Courier.Proofs.Json.ReadBack
import Courier.Proofs.Json.Skip

/-!
# `Courier.Proofs.Json.Glance`: an object as its fields stand in the text

A reader that wants only some fields of an object passes over the others, and never learns what they
are. `glance` passes over a value, too, but tells what it is, if it can be read, so that the fields
of an object are known whoever reads them (`Lists`).

Strings and numbers are told by their first character, and both readers agree on where they end. So
what is told of a value is a string exactly if a string can be read there
(`glance_eq_string_iff`), and the same goes for numbers (`glance_eq_number_iff`).
-/

set_option autoImplicit false

namespace Courier.Json

/-- Passes over a value and tells what it is, if it can be read. -/
def glance : Reader (Option Json) := fun cs =>
  (skipValue cs).map fun _ =>
    match readValue (levelLimit - 1) cs with
    | .ok (j, _) => some j
    | .error _ => none

/-- The text is an object of these fields, in the order in which they stand there. A value that
cannot be read is passed over nevertheless: a number out of range, half of a pair of code units, or
what is nested too deeply. -/
def Lists (text : String) (fields : List (String × Option Json)) : Prop :=
  ∃ tail rest, skipSpace text.toList = '\x7b' :: tail ∧
    readFields glance tail = .ok (fields, rest) ∧ skipSpace rest = []

section
variable {cs tail rest : List Char} {c : Char} {levels : Nat} {s : String} {n : Number}

/-! ### The first character -/

/-- Where a string stands, and where it ends. -/
def StringAt (cs : List Char) (s : String) (rest : List Char) : Prop :=
  ∃ tail, skipSpace cs = '"' :: tail ∧ readString tail = .ok (s, rest)

/-- Where a number stands, with its sign or its first digit in front, and where it ends. -/
def NumberAt (cs : List Char) (n : Number) (rest : List Char) : Prop :=
  (∃ tail, skipSpace cs = '-' :: tail ∧ readNumber true tail = .ok (n, rest)) ∨
    ∃ c tail, skipSpace cs = c :: tail ∧ (digit? c).isSome = true ∧
      readNumber false (c :: tail) = .ok (n, rest)

/-- A string that is read begins with a quotation mark, and a number with its sign or its first
digit. -/
theorem at_of_readValueWith {nested : Option (Reader Json)} {j : Json}
    (h : readValueWith nested cs = .ok (j, rest)) :
    (∀ s, j = .string s → StringAt cs s rest) ∧ ∀ n, j = .number n → NumberAt cs n rest := by
  unfold readValueWith at h
  split at h
  case h_1 => cases h
  -- the words
  case h_2 =>
    obtain ⟨rfl, -⟩ := of_readWord h
    exact ⟨nofun, nofun⟩
  case h_3 =>
    obtain ⟨rfl, -⟩ := of_readWord h
    exact ⟨nofun, nofun⟩
  case h_4 =>
    obtain ⟨rfl, -⟩ := of_readWord h
    exact ⟨nofun, nofun⟩
  -- a number below zero and a string
  case h_5 tail hstart =>
    obtain ⟨n, hn, rfl⟩ := Parsed.map_eq_ok h
    refine ⟨nofun, ?_⟩
    rintro _ ⟨⟩
    exact .inl ⟨tail, hstart, hn⟩
  case h_6 tail hstart =>
    obtain ⟨s, hs, rfl⟩ := Parsed.map_eq_ok h
    refine ⟨?_, nofun⟩
    rintro _ ⟨⟩
    exact ⟨tail, hstart, hs⟩
  -- a list and an object
  case h_7 =>
    split at h
    · cases h
    · obtain ⟨items, -, rfl⟩ := Parsed.map_eq_ok h
      exact ⟨nofun, nofun⟩
  case h_8 =>
    split at h
    · cases h
    · obtain ⟨fields, -, rfl⟩ := Parsed.map_eq_ok h
      exact ⟨nofun, nofun⟩
  -- another number begins with its first digit
  case h_9 c tail _ _ _ _ _ _ _ hstart =>
    split at h
    · rename_i hdigit
      obtain ⟨n, hn, rfl⟩ := Parsed.map_eq_ok h
      refine ⟨nofun, ?_⟩
      rintro _ ⟨⟩
      exact .inr ⟨c, tail, hstart, hdigit, hn⟩
    · cases h

/-- So do they at any level. -/
theorem at_of_readValue {j : Json} (h : readValue levels cs = .ok (j, rest)) :
    (∀ s, j = .string s → StringAt cs s rest) ∧ ∀ n, j = .number n → NumberAt cs n rest := by
  cases levels with
  | zero => exact at_of_readValueWith h
  | succ levels => exact at_of_readValueWith h

/-- What is made of a value that is read ends where the value does. -/
theorem Parsed.map_eq_ok_iff {α β : Type} {r : Parsed α} {f : α → β} {y : β} :
    r.map f = .ok (y, rest) ↔ ∃ x, r = .ok (x, rest) ∧ f x = y := by
  refine ⟨Parsed.map_eq_ok, ?_⟩
  rintro ⟨x, rfl, rfl⟩
  rfl

/-- A field is its key, a colon and its value. -/
theorem readField_eq_ok {α : Type} {item : Reader α} {key : String} {x : α}
    (h : readField item cs = .ok ((key, x), rest)) :
    ∃ afterKey afterColon, readString cs = .ok (key, afterKey) ∧
      readColon afterKey = .ok ((), afterColon) ∧ item afterColon = .ok (x, rest) := by
  unfold readField at h
  split at h
  · cases h
  · rename_i afterKey hkey
    split at h
    · cases h
    · rename_i afterColon hcolon
      split at h
      · cases h
      · rename_i hx
        cases h
        exact ⟨afterKey, afterColon, hkey, hcolon, hx⟩

/-- A text is read as a whole if nothing but space is left of it. -/
theorem onlySpace_eq_ok_iff {α : Type} {r : Parsed α} {x : α} :
    onlySpace r = .ok x ↔ ∃ rest, r = .ok (x, rest) ∧ skipSpace rest = [] := by
  constructor
  · intro h
    unfold onlySpace at h
    split at h
    · cases h
    · rename_i rest
      split at h
      · rename_i hend
        cases h
        exact ⟨rest, rfl, hend⟩
      · cases h
  · rintro ⟨rest, rfl, hend⟩
    simp only [onlySpace, hend]

/-- Both notions of a digit agree. -/
theorem isDigit_of_digit? (h : (digit? c).isSome = true) : c.isDigit = true := by
  unfold digit? at h
  split at h
  · rename_i hrange
    rw [Char.isDigit, Bool.and_eq_true, decide_eq_true_eq, decide_eq_true_eq]
    exact ⟨UInt32.le_iff_toNat_le.mpr hrange.1, UInt32.le_iff_toNat_le.mpr hrange.2⟩
  · cases h

/-- Where a string stands, it is read as a value. -/
theorem StringAt.readValue (h : StringAt cs s rest) :
    readValue levels cs = .ok (.string s, rest) := by
  obtain ⟨tail, hstart, hs⟩ := h
  rw [← readValue_skipSpace, hstart, readValue_quote, hs]
  rfl

/-- Where a number stands, it is read as a value. -/
theorem NumberAt.readValue (h : NumberAt cs n rest) :
    readValue levels cs = .ok (.number n, rest) := by
  rw [← readValue_skipSpace]
  rcases h with ⟨tail, hstart, hn⟩ | ⟨c, tail, hstart, hdigit, hn⟩
  · rw [hstart, readValue_minus, hn]
    rfl
  · rw [hstart, readValue_digit (isDigit_of_digit? hdigit), hn]
    rfl

/-- Where a string stands, it is passed over. -/
theorem StringAt.skipValue (h : StringAt cs s rest) : skipValue cs = .ok ((), rest) := by
  obtain ⟨tail, hstart, hs⟩ := h
  rw [Json.skipValue, skipLevels, hstart]
  exact skipStringFrom_of_readString hs

/-- Where a number stands, it is passed over. -/
theorem NumberAt.skipValue (h : NumberAt cs n rest) : skipValue cs = .ok ((), rest) := by
  rcases h with ⟨tail, hstart, hn⟩ | ⟨c, tail, hstart, hdigit, hn⟩
  · rw [Json.skipValue, skipLevels, hstart]
    exact skipNumber_of_readNumber hn
  · rw [Json.skipValue, skipLevels, hstart]
    split
    case h_1 hnone => cases hnone
    case h_9 hsame =>
      obtain ⟨rfl, rfl⟩ := List.cons.inj hsame
      rw [if_pos hdigit]
      exact skipNumber_of_readNumber hn
    -- every other case has a character that is no digit
    all_goals
      rename_i hother
      obtain ⟨rfl, -⟩ := List.cons.inj hother
      exact absurd hdigit (by decide)

/-- What is told of a value is a string exactly if a string stands there. -/
theorem glance_eq_string_iff :
    glance cs = .ok (some (.string s), rest) ↔ StringAt cs s rest := by
  constructor
  · intro h
    obtain ⟨_, hskip, hvalue⟩ := Parsed.map_eq_ok h
    split at hvalue
    · rename_i j after hread
      obtain rfl := Option.some.inj hvalue
      have hstring := (at_of_readValue hread).1 s rfl
      rw [hstring.skipValue] at hskip
      cases hskip
      exact hstring
    · cases hvalue
  · intro h
    rw [glance, h.skipValue, h.readValue]
    rfl

/-- It is a number exactly if a number stands there. -/
theorem glance_eq_number_iff :
    glance cs = .ok (some (.number n), rest) ↔ NumberAt cs n rest := by
  constructor
  · intro h
    obtain ⟨_, hskip, hvalue⟩ := Parsed.map_eq_ok h
    split at hvalue
    · rename_i j after hread
      obtain rfl := Option.some.inj hvalue
      have hnumber := (at_of_readValue hread).2 n rfl
      rw [hnumber.skipValue] at hskip
      cases hskip
      exact hnumber
    · cases hvalue
  · intro h
    rw [glance, h.skipValue, h.readValue]
    rfl

end

end Courier.Json
