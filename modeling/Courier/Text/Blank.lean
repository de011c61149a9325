/-!
# `Courier.Text.Blank`: properties of characters, and white space

A property of characters is kept as the list of its ranges of code points, ends included.
`isBlank` is the Unicode property `White_Space`, which has few of them. Trimming and splitting at
blanks work on lists of characters, so that what they keep can be said with `dropWhile` and
`span`.
-/

set_option autoImplicit false

namespace Courier.Text

/-- Whether a character lies in one of the ranges. -/
def inRanges (ranges : List (Nat × Nat)) (c : Char) : Bool :=
  ranges.any fun r => r.1 ≤ c.toNat && c.toNat ≤ r.2

/-- Whether a character is white space. -/
def isBlank (c : Char) : Bool :=
  let n := c.toNat
  (9 ≤ n && n ≤ 13) || n == 0x20 || n == 0x85 || n == 0xa0 || n == 0x1680
    || (0x2000 ≤ n && n ≤ 0x200a) || n == 0x2028 || n == 0x2029 || n == 0x202f || n == 0x205f
    || n == 0x3000

/-- The characters from the first that is not blank to the last. -/
def trimChars (cs : List Char) : List Char :=
  ((cs.dropWhile isBlank).reverse.dropWhile isBlank).reverse

/-- A text without the blanks at its two ends. -/
def trim (s : String) : String := String.ofList (trimChars s.toList)

/-- The text before the first blank and the text after it, if there is a blank. -/
def splitAtBlank (s : String) : Option (String × String) :=
  match s.toList.span (!isBlank ·) with
  | (_, []) => none
  | (before, _ :: after) => some (String.ofList before, String.ofList after)

/-- The longest stretches without blanks; `word` is the one being read, last character
first. -/
def wordsFrom (word : List Char) : List Char → List (List Char)
  | [] => if word.isEmpty then [] else [word.reverse]
  | c :: cs =>
    if isBlank c then
      if word.isEmpty then wordsFrom [] cs else word.reverse :: wordsFrom [] cs
    else wordsFrom (c :: word) cs

/-- The words of a text: its longest stretches without blanks, in order. -/
def words (s : String) : List String := (wordsFrom [] s.toList).map String.ofList

end Courier.Text
