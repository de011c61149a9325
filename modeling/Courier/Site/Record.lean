import Courier.Json.Printer
import Courier.Json.Skip
import Courier.Site

/-!
# `Courier.Site.Record`: sites as JSON

A site is stored as an object of its six fields, or as the list of their values. Fields and
items that are missing keep their defaults, unknown fields are passed over, and a field that
stands twice is a fault. The reader decides while it reads, so that the first fault of a text is
the one that is found. The role is one of the stored names, as a string or as the only key of an
object whose value is null.
-/

set_option autoImplicit false

namespace Courier.ActiveSite

open Json

/-- The JSON of a site. -/
def toJson (s : ActiveSite) : Json :=
  .object [("id", .number (.ofInt64 s.id)), ("domain", .string s.domain), ("name", .string s.name),
    ("logo", .string s.logo), ("favicon", .string s.favicon), ("role", .string s.role.storedName)]

/-- The fault of a value that has another type than the wanted one. A scalar is read first, and
its own faults count. -/
def otherType (cs : List Char) : Fault :=
  let after {α : Type} : Parsed α → Fault
    | .error f => f
    | .ok (_, rest) => .here .wrongType rest
  match cs with
  | 'n' :: rest => after (readWord () ['u', 'l', 'l'] rest)
  | 't' :: rest => after (readWord () ['r', 'u', 'e'] rest)
  | 'f' :: rest => after (readWord () ['a', 'l', 's', 'e'] rest)
  | '-' :: rest => after (readNumber true rest)
  | '"' :: rest => after (readString rest)
  | '[' :: rest => .here .wrongType rest
  | '\x7b' :: rest => .here .wrongType rest
  | [] => .next .expectedValue []
  | c :: rest =>
    if (digit? c).isSome then after (readNumber false (c :: rest))
    else .next .expectedValue (c :: rest)

/-- An integer of 64 bits. -/
def readInt64 : Reader Int64 := fun cs =>
  let fits : Parsed Number → Parsed Int64
    | .error f => .error f
    | .ok (n, rest) =>
      match n.asInt64? with
      | some i => .ok (i, rest)
      | none => .error (.here .wrongType rest)
  match skipSpace cs with
  | [] => .error (.next .endInValue [])
  | '-' :: rest => fits (readNumber true rest)
  | c :: rest =>
    if (digit? c).isSome then fits (readNumber false (c :: rest))
    else .error (otherType (c :: rest))

/-- A text. -/
def readText : Reader String := fun cs =>
  match skipSpace cs with
  | [] => .error (.next .endInValue [])
  | '"' :: rest => readString rest
  | rest => .error (otherType rest)

/-- A name of a role. -/
def readRoleName : Reader SiteRole := fun cs =>
  match readText cs with
  | .error f => .error f
  | .ok (s, rest) =>
    match SiteRole.stored? s with
    | some r => .ok (r, rest)
    | none => .error (.here .wrongType rest)

/-- A role: a name, or an object with a name for its key and null for the value. -/
def readRole : Reader SiteRole := fun cs =>
  match skipSpace cs with
  | [] => .error (.next .endInValue [])
  | '"' :: rest => readRoleName ('"' :: rest)
  | '\x7b' :: rest =>
    match readRoleName rest with
    | .error f => .error f
    | .ok (r, rest) =>
      match readColon rest with
      | .error f => .error f
      | .ok (_, rest) =>
        match skipSpace rest with
        | 'n' :: rest =>
          match readWord () ['u', 'l', 'l'] rest with
          | .error f => .error f
          | .ok (_, rest) =>
            match skipSpace rest with
            | '\x7d' :: rest => .ok (r, rest)
            | [] => .error (.here .endInObject [])
            | rest => .error (.here .expectedValue rest)
        | [] => .error (.next .endInValue [])
        | rest => .error (otherType rest)
  | rest => .error (.next .expectedValue rest)

/-- The fields of a stored site, in order. -/
inductive Field where
  | id
  | domain
  | name
  | logo
  | favicon
  | role
deriving DecidableEq

/-- The key of a field. -/
def Field.key : Field → String
  | .id => "id"
  | .domain => "domain"
  | .name => "name"
  | .logo => "logo"
  | .favicon => "favicon"
  | .role => "role"

/-- All fields in order. -/
def Field.all : List Field := [.id, .domain, .name, .logo, .favicon, .role]

/-- Reads the value of a field into a site. -/
def Field.read (f : Field) (s : ActiveSite) : Reader ActiveSite := fun cs =>
  match f with
  | .id => (readInt64 cs).map fun x => { s with id := x }
  | .domain => (readText cs).map fun x => { s with domain := x }
  | .name => (readText cs).map fun x => { s with name := x }
  | .logo => (readText cs).map fun x => { s with logo := x }
  | .favicon => (readText cs).map fun x => { s with favicon := x }
  | .role => (readRole cs).map fun x => { s with role := x }

/-- Reads the key and the value of a field, after the opening mark of the key. -/
def readKeyed (seen : List Field) (s : ActiveSite) : Reader (List Field × ActiveSite) := fun cs =>
  match readString cs with
  | .error f => .error f
  | .ok (key, rest) =>
    match Field.all.find? fun f => f.key = key with
    | none =>
      match readColon rest with
      | .error f => .error f
      | .ok (_, rest) => (skipValue rest).map fun _ => (seen, s)
    | some f =>
      if seen.contains f then .error (.here .wrongType rest)
      else match readColon rest with
        | .error f => .error f
        | .ok (_, rest) => (f.read s rest).map fun s => (f :: seen, s)

/-- Reads the fields after the first. -/
def readKeyedFrom : (budget : Nat) → (seen : List Field) → ActiveSite → Reader ActiveSite
  | 0, _, _, cs => .error (.here .endInObject cs)
  | budget + 1, seen, s, cs =>
    match skipSpace cs with
    | [] => .error (.next .endInObject [])
    | '\x7d' :: rest => .ok (s, rest)
    | ',' :: rest =>
      match skipSpace rest with
      | [] => .error (.next .endInValue [])
      | '"' :: rest =>
        match readKeyed seen s rest with
        | .error f => .error f
        | .ok ((seen, s), rest) => readKeyedFrom budget seen s rest
      | '\x7d' :: rest => .error (.next .trailingComma ('\x7d' :: rest))
      | rest => .error (.next .keyNotString rest)
    | rest => .error (.next .expectedObjectEnd rest)

/-- Reads the values after the first as the given fields. -/
def readListedFrom : List Field → ActiveSite → Reader ActiveSite
  | [], s, cs =>
    match skipSpace cs with
    | [] => .error (.next .endInList [])
    | ']' :: rest => .ok (s, rest)
    | rest => .error (.next .trailingCharacters rest)
  | f :: fs, s, cs =>
    match skipSpace cs with
    | [] => .error (.next .endInList [])
    | ']' :: rest => .ok (s, rest)
    | ',' :: rest =>
      match skipSpace rest with
      | [] => .error (.next .endInValue [])
      | ']' :: rest => .error (.next .trailingComma (']' :: rest))
      | rest =>
        match f.read s rest with
        | .error f => .error f
        | .ok (s, rest) => readListedFrom fs s rest
    | rest => .error (.next .expectedListEnd rest)

/-- Reads a site from the front of a text. -/
def reader : Reader ActiveSite := fun cs =>
  match skipSpace cs with
  | [] => .error (.next .endInValue [])
  | '[' :: rest =>
    match skipSpace rest with
    | [] => .error (.next .endInList [])
    | ']' :: rest => .ok ({}, rest)
    | rest =>
      match Field.id.read {} rest with
      | .error f => .error f
      | .ok (s, rest) => readListedFrom (Field.all.drop 1) s rest
  | '\x7b' :: rest =>
    match skipSpace rest with
    | [] => .error (.next .endInObject [])
    | '\x7d' :: rest => .ok ({}, rest)
    | '"' :: rest =>
      match readKeyed [] {} rest with
      | .error f => .error f
      | .ok ((seen, s), rest) => readKeyedFrom (rest.length + 1) seen s rest
    | rest => .error (.next .keyNotString rest)
  | rest => .error (otherType rest)

/-- The site that a JSON text holds. -/
def ofJsonText (text : String) : Except Fault ActiveSite := onlySpace (reader text.toList)

end Courier.ActiveSite
