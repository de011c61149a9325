/-!
# `Courier.Instant`: points in time and their calendar text

An instant is a number of whole seconds since the start of 1970 and a part of a second. Its
range is that of a proleptic Gregorian calendar with years from -262143 to 262142. A part of a
second of one or more is the second form of a leap second, which may stand behind any second, and
is written as the second that follows: as second 60 behind the last second of a minute. An instant
that is made of its parts has a leap second only there (`Instant.ofParts?`).
-/

set_option autoImplicit false

namespace Courier

/-- A point in time, to the nanosecond. -/
structure Instant where
  /-- Whole seconds since the start of 1970, rounded down. -/
  seconds : Int
  /-- The rest, in nanoseconds, up to the end of a leap second. -/
  nanos : Nat
  /-- Not before the first second of the calendar. -/
  least_le : -8334601228800 ≤ seconds := by omega
  /-- Not behind its last second. -/
  le_greatest : seconds ≤ 8210266876799 := by omega
  /-- Less than two seconds, as a leap second makes one more. -/
  nanos_lt : nanos < 2000000000 := by omega
deriving DecidableEq

namespace Instant

/-- A whole second, with no nanoseconds behind it, is within the bound. -/
theorem whole_lt : 0 < 2000000000 := by decide

instance : Inhabited Instant := ⟨⟨0, 0, by decide, by decide, whole_lt⟩⟩

/-- The instant at these seconds and nanoseconds, if it is in range. A leap second is taken at the
end of a minute only. -/
def ofParts? (seconds : Int) (nanos : Nat) : Option Instant :=
  if h : -8334601228800 ≤ seconds ∧ seconds ≤ 8210266876799
      ∧ (nanos < 1000000000 ∨ (nanos < 2000000000 ∧ seconds % 60 = 59)) then
    some ⟨seconds, nanos, h.1, h.2.1, by omega⟩
  else none

/-- The instant at a whole second, if it is in range. -/
def ofSeconds? (seconds : Int) : Option Instant := ofParts? seconds 0

/-- The instant at a whole millisecond, if it is in range. -/
def ofMillis? (millis : Int) : Option Instant :=
  ofParts? (millis / 1000) ((millis % 1000).toNat * 1000000)

/-- The whole milliseconds since the start of 1970. -/
def millis (t : Instant) : Int := t.seconds * 1000 + (t.nanos / 1000000 : Nat)

/-- A date of the Gregorian calendar. -/
structure Date where
  year : Int
  month : Nat
  day : Nat

/-- The date of a day, counted from the start of 1970. Days are counted from a first of March
at the start of a cycle of 400 years, so that the leap day is the last day of its year. -/
def Date.ofDay (day : Int) : Date :=
  let shifted := day + 719468
  let cycle := shifted / 146097
  let inCycle := (shifted % 146097).toNat
  let yearOfCycle := (inCycle - inCycle / 1460 + inCycle / 36524 - inCycle / 146096) / 365
  let dayOfYear := inCycle - (365 * yearOfCycle + yearOfCycle / 4 - yearOfCycle / 100)
  let m := (5 * dayOfYear + 2) / 153
  let month := if m < 10 then m + 3 else m - 9
  { year := (yearOfCycle : Int) + cycle * 400 + (if month ≤ 2 then 1 else 0)
    month := month
    day := dayOfYear - (153 * m + 2) / 5 + 1 }

/-- A number with leading zeros to a least width. -/
def padded (width n : Nat) : List Char :=
  let ds := Nat.toDigits 10 n
  List.replicate (width - ds.length) '0' ++ ds

/-- The year: four digits from 0 to 9999, and a sign and at least four digits elsewhere. -/
def yearText (year : Int) : List Char :=
  if 0 ≤ year ∧ year ≤ 9999 then padded 4 year.toNat
  else (if year < 0 then '-' else '+') :: padded 4 year.natAbs

/-- The instant in the form of RFC 3339, in whole seconds of universal time. -/
def toRfc3339 (t : Instant) : String :=
  let date := Date.ofDay (t.seconds / 86400)
  let second := (t.seconds % 86400).toNat
  String.ofList <| yearText date.year ++ '-' :: padded 2 date.month ++ '-' :: padded 2 date.day
    ++ 'T' :: padded 2 (second / 3600) ++ ':' :: padded 2 (second / 60 % 60)
    ++ ':' :: padded 2 (second % 60 + t.nanos / 1000000000) ++ ['Z']

end Instant

end Courier
