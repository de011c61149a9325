import Courier.Text.Case

/-!
# `Courier.Method`: the methods of HTTP

A call names the method by which it is sent. Reading is sent by `get`, which carries its payload
in the query and not in the body.
-/

set_option autoImplicit false

namespace Courier

/-- A method of HTTP. -/
inductive Method where
  | get
  | post
  | put
  | patch
  | delete
deriving DecidableEq, Inhabited

namespace Method

/-- The name of a method on the wire. -/
def name : Method → String
  | .get => "GET"
  | .post => "POST"
  | .put => "PUT"
  | .patch => "PATCH"
  | .delete => "DELETE"

/-- All methods. -/
def all : List Method := [.get, .post, .put, .patch, .delete]

/-- Reads a method in any case; an unknown one is named in capitals. -/
def parse (s : String) : Except String Method :=
  let upper := Text.uppercase s
  match all.find? fun m => m.name = upper with
  | some m => .ok m
  | none => .error ("unsupported method: " ++ upper)

/-- Whether the payload travels in the query. -/
def inQuery (m : Method) : Bool := m = .get

end Method

end Courier
