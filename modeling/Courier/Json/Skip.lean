import Courier.Json.Reader

/-!
# `Courier.Json.Skip`: passing over a value

A reader that wants only some fields passes over the others. It checks their grammar and nothing
else: numbers may be out of range, escapes may be halves of pairs, and nesting is not limited.
-/

set_option autoImplicit false

namespace Courier.Json

/-- Passes over an exponent after its mark. -/
def skipExponent : Reader Unit := fun cs =>
  let cs := match cs with
    | '+' :: rest => rest
    | '-' :: rest => rest
    | rest => rest
  match cs with
  | [] => .error (.here .invalidNumber [])
  | c :: rest =>
    if (digit? c).isSome then .ok ((), (skipDigits 0 rest).2)
    else .error (.next .invalidNumber (c :: rest))

/-- Passes over what may follow the integer part of a number. -/
def skipFraction : Reader Unit
  | '.' :: cs =>
    match skipDigits 0 cs with
    | (0, rest) => .error (.next .invalidNumber rest)
    | (_, 'e' :: rest) => skipExponent rest
    | (_, 'E' :: rest) => skipExponent rest
    | (_, rest) => .ok ((), rest)
  | 'e' :: rest => skipExponent rest
  | 'E' :: rest => skipExponent rest
  | rest => .ok ((), rest)

/-- Passes over a number after its sign. -/
def skipNumber : Reader Unit
  | [] => .error (.here .invalidNumber [])
  | '0' :: cs =>
    match cs with
    | c :: _ => if (digit? c).isSome then .error (.next .invalidNumber cs) else skipFraction cs
    | [] => .ok ((), [])
  | c :: cs =>
    if (digit? c).isSome then skipFraction (skipDigits 0 cs).2
    else .error (.next .invalidNumber (c :: cs))

/-- Passes over an escape after the backslash. -/
def skipEscape : Reader Unit
  | 'u' :: rest => (readHexEscape rest).map fun _ => ()
  | cs => (readEscape cs).map fun _ => ()

/-- Passes over a string after its opening mark. -/
def skipStringFrom : (budget : Nat) → Reader Unit
  | 0, cs => .error (.here .endInString cs)
  | _ + 1, [] => .error (.here .endInString [])
  | _ + 1, '"' :: rest => .ok ((), rest)
  | budget + 1, '\\' :: rest =>
    match skipEscape rest with
    | .error f => .error f
    | .ok (_, rest) => skipStringFrom budget rest
  | budget + 1, c :: rest =>
    if c.toNat < 0x20 then .error (.here .controlCharacter rest) else skipStringFrom budget rest

/-- Passes over a key, after its opening mark, and its value. -/
def skipField (item : Reader Unit) : Reader Unit := fun cs =>
  match skipStringFrom (cs.length + 1) cs with
  | .error f => .error f
  | .ok (_, rest) =>
    match readColon rest with
    | .error f => .error f
    | .ok (_, rest) => item rest

/-- Passes over the fields after the first. -/
def skipFieldsFrom (item : Reader Unit) : (budget : Nat) → Reader Unit
  | 0, cs => .error (.here .endInObject cs)
  | budget + 1, cs =>
    match skipSpace cs with
    | [] => .error (.next .endInObject [])
    | '\x7d' :: rest => .ok ((), rest)
    | ',' :: rest =>
      match skipSpace rest with
      | [] => .error (.next .endInObject [])
      | '"' :: rest =>
        match skipField item rest with
        | .error f => .error f
        | .ok (_, rest) => skipFieldsFrom item budget rest
      | rest => .error (.next .keyNotString rest)
    | rest => .error (.next .expectedObjectEnd rest)

/-- Passes over an object after its opening brace. -/
def skipFields (item : Reader Unit) : Reader Unit := fun cs =>
  match skipSpace cs with
  | [] => .error (.next .endInObject [])
  | '\x7d' :: rest => .ok ((), rest)
  | '"' :: rest =>
    match skipField item rest with
    | .error f => .error f
    | .ok (_, rest) => skipFieldsFrom item (rest.length + 1) rest
  | rest => .error (.next .keyNotString rest)

/-- Passes over a value of at most so many levels. -/
def skipLevels : (levels : Nat) → Reader Unit
  | 0, cs => .error (.here .nestedTooDeeply cs)
  | levels + 1, cs =>
    match skipSpace cs with
    | [] => .error (.next .endInValue [])
    | 'n' :: rest => readWord () ['u', 'l', 'l'] rest
    | 't' :: rest => readWord () ['r', 'u', 'e'] rest
    | 'f' :: rest => readWord () ['a', 'l', 's', 'e'] rest
    | '-' :: rest => skipNumber rest
    | '"' :: rest => skipStringFrom (rest.length + 1) rest
    | '[' :: rest => (readItems (skipLevels levels) rest).map fun _ => ()
    | '\x7b' :: rest => skipFields (skipLevels levels) rest
    | c :: rest =>
      if (digit? c).isSome then skipNumber (c :: rest)
      else .error (.next .expectedValue (c :: rest))

/-- Passes over a value. The text is longer than the value is deep. -/
def skipValue : Reader Unit := fun cs => skipLevels (cs.length + 1) cs

end Courier.Json
