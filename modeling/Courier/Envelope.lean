import Courier.Codec

/-!
# `Courier.Envelope`: the form of a successful answer

The server wraps what it answers into a map with a `body` and, if it has something to tell the
operator, an array of texts under `warn`. Other fields are ignored.
-/

set_option autoImplicit false

namespace Courier

/-- An answer and its warnings. -/
structure Envelope where
  body : Value
  warnings : List String

namespace Envelope

/-- The texts of warnings, all of which must be strings. -/
def warningTexts : List Value → Except WireError (List String)
  | [] => .ok []
  | .string s :: rest => (warningTexts rest).map (s :: ·)
  | other :: _ => .error (.envelope (.warningNotString other.kind))

/-- Reads a value as an envelope. Without a body the body is nil; without warnings, or with
nil for them, there are none. -/
def ofValue (v : Value) : Except WireError Envelope :=
  match v with
  | .map fields =>
    let body := (Fields.get? fields "body").getD .nil
    match Fields.get? fields "warn" with
    | none => .ok ⟨body, []⟩
    | some .nil => .ok ⟨body, []⟩
    | some (.array items) => (warningTexts items).map fun warnings => ⟨body, warnings⟩
    | some other => .error (.envelope (.warningsNotArray other.kind))
  | other => .error (.envelope (.notMap other.kind))

/-- The value of an envelope; it has no field for warnings if there are none. -/
def toValue (e : Envelope) : Value :=
  if e.warnings.isEmpty then .map [("body", e.body)]
  else .map [("body", e.body), ("warn", .array (e.warnings.map .string))]

end Envelope

/-- The envelope of exactly these bytes. -/
def Codec.decodeEnvelope (c : Codec) (b : Bytes) : Except WireError Envelope :=
  match c.decode b with
  | .ok v => Envelope.ofValue v
  | .error e => .error e

/-- The bytes of an envelope. -/
def Codec.encodeEnvelope (c : Codec) (e : Envelope) : Except WireError Bytes := c.encode e.toValue

end Courier
