/-!
# `Courier.Net.Address`: addresses of the internet

Addresses of four bytes and of eight groups, read from their text and written in the short form:
groups without leading zeros, and two colons for the longest run of two or more zero groups, the
first one if there are several.
-/

set_option autoImplicit false

namespace Courier.Net

/-- The parts of a text between the places where a character stands. -/
def fields (separator : Char) : List Char → List (List Char)
  | [] => [[]]
  | c :: cs =>
    if c = separator then [] :: fields separator cs
    else
      match fields separator cs with
      | [] => [[c]]
      | part :: parts => (c :: part) :: parts

/-- The value of a digit of a base up to sixteen. -/
def digit? (base : Nat) (c : Char) : Option Nat :=
  let value? :=
    if '0' ≤ c ∧ c ≤ '9' then some (c.toNat - '0'.toNat)
    else if 'a' ≤ c ∧ c ≤ 'f' then some (c.toNat - 'a'.toNat + 10)
    else if 'A' ≤ c ∧ c ≤ 'F' then some (c.toNat - 'A'.toNat + 10)
    else none
  value?.filter (· < base)

/-- The number that digits of a base stand for. -/
def number? (base : Nat) (cs : List Char) : Option Nat :=
  cs.foldlM (fun n c => (digit? base c).map (n * base + ·)) 0

/-- An address of four bytes. -/
structure Ipv4 where
  a : UInt8
  b : UInt8
  c : UInt8
  d : UInt8
deriving DecidableEq

namespace Ipv4

/-- A part of an address: a number up to 255 without leading zeros. -/
def part? (cs : List Char) : Option UInt8 :=
  if cs = [] ∨ cs.length > 3 ∨ (cs.length > 1 ∧ cs.head? = some '0') then none
  else ((number? 10 cs).filter (· < 256)).map UInt8.ofNat

/-- Reads four numbers with points between them. -/
def read? (cs : List Char) : Option Ipv4 :=
  match (fields '.' cs).map part? with
  | [some a, some b, some c, some d] => some ⟨a, b, c, d⟩
  | _ => none

/-- The address that a number of 32 bits is. -/
def ofNat (n : Nat) : Ipv4 :=
  ⟨UInt8.ofNat (n / 0x1000000), UInt8.ofNat (n / 0x10000), UInt8.ofNat (n / 0x100), UInt8.ofNat n⟩

/-- The text of an address. -/
def text (x : Ipv4) : String :=
  ".".intercalate ([x.a, x.b, x.c, x.d].map fun b => toString b.toNat)

/-- Whether an address is of the machine itself. -/
def isLoopback (x : Ipv4) : Bool := x.a = 127

end Ipv4

/-- An address of eight groups of sixteen bits. -/
structure Ipv6 where
  groups : List UInt16
  length_eq : groups.length = 8
deriving DecidableEq

namespace Ipv6

/-- A group: up to four hexadecimal digits. -/
def group? (cs : List Char) : Option UInt16 :=
  if cs = [] ∨ cs.length > 4 then none else (number? 16 cs).map UInt16.ofNat

/-- The two groups of an address of four bytes. -/
def ofIpv4 (x : Ipv4) : List UInt16 :=
  [UInt16.ofNat (x.a.toNat * 256 + x.b.toNat), UInt16.ofNat (x.c.toNat * 256 + x.d.toNat)]

/-- The groups of parts, of which the last may be an address of four bytes. -/
def groupsOfParts? : List (List Char) → Option (List UInt16)
  | [] => some []
  | [part] =>
    match group? part with
    | some g => some [g]
    | none => (Ipv4.read? part).map ofIpv4
  | part :: parts => do return (← group? part) :: (← groupsOfParts? parts)

/-- The groups of a text with colons between them. -/
def groups? (cs : List Char) : Option (List UInt16) :=
  if cs = [] then some [] else groupsOfParts? (fields ':' cs)

/-- The text in front of the first two colons in a row, and the text behind them. -/
def splitGap : List Char → Option (List Char × List Char)
  | [] => none
  | ':' :: ':' :: rest => some ([], rest)
  | c :: rest => (splitGap rest).map fun s => (c :: s.1, s.2)

/-- The address with these groups, if they are eight. -/
def ofGroups? (groups : List UInt16) : Option Ipv6 :=
  if h : groups.length = 8 then some ⟨groups, h⟩ else none

/-- Reads eight groups, where two colons can stand for one or more groups of zeros. The groups in
front of them are not written as an address of four bytes. -/
def read? (cs : List Char) : Option Ipv6 :=
  match splitGap cs with
  | none => (groups? cs).bind ofGroups?
  | some (before, after) => do
    guard (!before.contains '.')
    let front ← groups? before
    let back ← groups? after
    guard (front.length + back.length < 8)
    ofGroups? (front ++ List.replicate (8 - front.length - back.length) 0 ++ back)

/-- The hexadecimal digits of a group. -/
def groupText (g : UInt16) : String := String.ofList (Nat.toDigits 16 g.toNat)

/-- The groups with colons between them. -/
def joined (groups : List UInt16) : String := ":".intercalate (groups.map groupText)

/-- The number of zero groups at the start. -/
def zeros (groups : List UInt16) : Nat := (groups.takeWhile (· = 0)).length

/-- Where the longest run of zero groups begins, and how long it is. -/
def longestRun : List UInt16 → Nat × Nat
  | [] => (0, 0)
  | g :: gs =>
    let (start, length) := longestRun gs
    let here := zeros (g :: gs)
    if here ≥ length ∧ here > 0 then (0, here) else (start + 1, length)

/-- The text of an address, with every group in hexadecimal digits. -/
def shortText (x : Ipv6) : String :=
  let (start, length) := longestRun x.groups
  if length < 2 then joined x.groups
  else joined (x.groups.take start) ++ "::" ++ joined (x.groups.drop (start + length))

/-- The address of four bytes that an address stands for. -/
def mapped? (x : Ipv6) : Option Ipv4 :=
  match x.groups with
  | [0, 0, 0, 0, 0, 0xffff, g, h] => some (.ofNat (g.toNat * 0x10000 + h.toNat))
  | _ => none

/-- The text of an address. One that stands for an address of four bytes shows those. -/
def text (x : Ipv6) : String :=
  match x.mapped? with
  | some y => "::ffff:" ++ y.text
  | none => x.shortText

/-- Whether an address is of the machine itself. -/
def isLoopback (x : Ipv6) : Bool := x.groups = [0, 0, 0, 0, 0, 0, 0, 1]

end Ipv6

end Courier.Net
