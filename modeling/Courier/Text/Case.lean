import Courier.Text.CaseTable
import Courier.Text.Blank

/-!
# `Courier.Text.Case`: full case mapping

`lowercase` and `uppercase` map a text by the Unicode rules that hold in every language: a
character may become several, and a capital sigma becomes the final form at the end of a word.
-/

set_option autoImplicit false

namespace Courier.Text

/-- The image of a character under a table of runs, itself if no run covers it. -/
def mapByRuns (runs : List (Nat × Nat × Nat × Int)) (c : Char) : Char :=
  match runs.find? fun r => r.1 ≤ c.toNat && c.toNat ≤ r.2.1 && (c.toNat - r.1) % r.2.2.1 == 0 with
  | some r => Char.ofNat ((c.toNat : Int) + r.2.2.2).toNat
  | none => c

/-- Whether the first character that casing does not ignore is a cased one. -/
def meetsCased (cs : List Char) : Bool :=
  match cs.dropWhile (inRanges caseIgnorableRanges) with
  | [] => false
  | c :: _ => inRanges casedRanges c

/-- The lower-case form of one character between what stands before it (nearest first) and
what stands after it. Only the capital sigma reads its neighbours: it takes the final form if
a cased character precedes it in the word and none follows. -/
def lowerChar (before : List Char) (c : Char) (after : List Char) : List Char :=
  if c.toNat == 0x3a3 then
    if meetsCased before && !meetsCased after then [Char.ofNat 0x3c2] else [Char.ofNat 0x3c3]
  else if c.toNat == 0x130 then ['i', Char.ofNat 0x307]
  else [mapByRuns lowerRuns c]

/-- The lower-case form of the characters after `before`, which is nearest first. -/
def lowerFrom (before : List Char) : List Char → List Char
  | [] => []
  | c :: after => lowerChar before c after ++ lowerFrom (c :: before) after

/-- The lower-case form of a text. -/
def lowercase (s : String) : String := String.ofList (lowerFrom [] s.toList)

/-- The upper-case form of one character. -/
def upperChar (c : Char) : List Char :=
  match upperExpansions.find? fun e => e.1 == c.toNat with
  | some e => e.2.map Char.ofNat
  | none => [mapByRuns upperRuns c]

/-- The upper-case form of a text. -/
def uppercase (s : String) : String := String.ofList (s.toList.flatMap upperChar)

end Courier.Text
