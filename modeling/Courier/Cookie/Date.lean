import Courier.Text.Integer

/-!
# `Courier.Cookie.Date`: when a cookie expires

Dates are written in four ways, in universal time: with a short day of the week and blanks, with a
long one and hyphens and a year of two digits, with the year at the end, and with a short one and
hyphens. A year below 69 is of this century, one below 100 of the last. The day of the week is
not compared with the date.
-/

set_option autoImplicit false

namespace Courier.Cookie.Date

/-- A date and a time of day. -/
structure Parts where
  year : Nat := 0
  month : Nat := 0
  day : Nat := 0
  hour : Nat := 0
  minute : Nat := 0
  second : Nat := 0
deriving DecidableEq, Inhabited

/-- What can stand in a date. -/
inductive Item where
  | literal (text : String)
  | shortWeekday
  | longWeekday
  | month
  /-- Two digits, or a blank and one digit. -/
  | day (padded : Bool)
  /-- Up to four digits. -/
  | year
  /-- The last two digits of a year. -/
  | shortYear
  | hour
  | minute
  | second
deriving DecidableEq

/-- The days of the week. -/
def weekdays : List String :=
  ["Monday", "Tuesday", "Wednesday", "Thursday", "Friday", "Saturday", "Sunday"]

/-- The months of the year. -/
def months : List String :=
  ["Jan", "Feb", "Mar", "Apr", "May", "Jun", "Jul", "Aug", "Sep", "Oct", "Nov", "Dec"]

/-- The time of day. -/
def time : List Item := [.hour, .literal ":", .minute, .literal ":", .second]

/-- The ways to write a date. -/
def forms : List (List Item) :=
  [[.shortWeekday, .literal ", ", .day false, .literal " ", .month, .literal " ", .year,
      .literal " "] ++ time ++ [.literal " GMT"],
    [.longWeekday, .literal ", ", .day false, .literal "-", .month, .literal "-", .shortYear,
      .literal " "] ++ time ++ [.literal " GMT"],
    [.shortWeekday, .literal " ", .month, .literal " ", .day true, .literal " "] ++ time
      ++ [.literal " ", .year],
    [.shortWeekday, .literal ", ", .day false, .literal "-", .month, .literal "-", .year,
      .literal " "] ++ time ++ [.literal " GMT"]]

/-- What follows a word at the start of a text. -/
def dropWord? (word : String) (cs : List Char) : Option (List Char) :=
  if word.toList.isPrefixOf cs then some (cs.drop word.length) else none

/-- The place of the first of some words that a text begins with, and what follows it. -/
def oneOf? (words : List String) (cs : List Char) : Option (Nat × List Char) :=
  words.zipIdx.findSome? fun (word, i) => (dropWord? word cs).map fun rest => (i, rest)

/-- A number of at least `least` and at most `most` digits, and what follows it. -/
def number? (least most : Nat) (cs : List Char) : Option (Nat × List Char) :=
  let ds := (cs.take most).takeWhile fun c => (Text.Integer.digit? c).isSome
  if ds.length < least then none
  else some (ds.foldl (fun n c => n * 10 + (c.toNat - '0'.toNat)) 0, cs.drop ds.length)

/-- Reads an item into the parts of a date. -/
def readItem (p : Parts) (cs : List Char) : Item → Option (Parts × List Char)
  | .literal text => (dropWord? text cs).map fun rest => (p, rest)
  | .shortWeekday => (oneOf? (weekdays.map fun d => (d.take 3).toString) cs).map fun r => (p, r.2)
  | .longWeekday => (oneOf? weekdays cs).map fun r => (p, r.2)
  | .month => (oneOf? months cs).map fun r => ({ p with month := r.1 + 1 }, r.2)
  | .day padded =>
    match padded, cs with
    | true, ' ' :: cs => (number? 1 1 cs).map fun r => ({ p with day := r.1 }, r.2)
    | _, cs => (number? 2 2 cs).map fun r => ({ p with day := r.1 }, r.2)
  | .year => (number? 1 4 cs).map fun r => ({ p with year := r.1 }, r.2)
  | .shortYear => (number? 2 2 cs).map fun r => ({ p with year := r.1 }, r.2)
  | .hour => (number? 2 2 cs).map fun r => ({ p with hour := r.1 }, r.2)
  | .minute => (number? 2 2 cs).map fun r => ({ p with minute := r.1 }, r.2)
  | .second => (number? 2 2 cs).map fun r => ({ p with second := r.1 }, r.2)

/-- Reads items one after another, to the end of the text. -/
def readItems (p : Parts) (cs : List Char) : List Item → Option Parts
  | [] => if cs.isEmpty then some p else none
  | item :: items =>
    match readItem p cs item with
    | none => none
    | some (p, rest) => readItems p rest items

/-- The year that is meant by a short one. -/
def fullYear (year : Nat) : Nat :=
  if year ≤ 68 then year + 2000 else if year ≤ 99 then year + 1900 else year

/-- Whether a year has a leap day. -/
def isLeap (year : Nat) : Bool := year % 4 = 0 && (year % 100 ≠ 0 || year % 400 = 0)

/-- The days of a month. -/
def daysIn (year month : Nat) : Nat :=
  if month = 2 then (if isLeap year then 29 else 28)
  else if month = 4 ∨ month = 6 ∨ month = 9 ∨ month = 11 then 30
  else 31

/-- The days from the start of 1970 to a date. Years begin in March here, so that the leap day is
the last of its year. -/
def dayNumber (year month day : Nat) : Int :=
  let y := if month ≤ 2 then year - 1 else year
  let m := if month ≤ 2 then month + 9 else month - 3
  (365 * y + y / 4 + y / 400 + (153 * m + 2) / 5 + day - y / 100 : Nat) - 719469

/-- The seconds from the start of 1970 to a date, if there is such a date. -/
def seconds? (p : Parts) : Option Int :=
  let year := fullYear p.year
  if 1 ≤ p.day ∧ p.day ≤ daysIn year p.month ∧ p.hour < 24 ∧ p.minute < 60 ∧ p.second < 60 then
    some (dayNumber year p.month p.day * 86400 + (p.hour * 3600 + p.minute * 60 + p.second : Nat))
  else none

/-- The seconds from the start of 1970 to the date that a text names, in the first form that it
has. -/
def read? (text : String) : Option Int :=
  (forms.findSome? fun form => readItems {} text.toList form).bind seconds?

end Courier.Cookie.Date
