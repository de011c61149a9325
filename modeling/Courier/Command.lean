import Courier.Call
import Courier.Codec
import Courier.Failure
import Courier.Payload
import Courier.QueryEncoding
import Courier.Site

/-!
# `Courier.Command`: what the operator asks for

A command is carried out by a plan: show something, switch the site, send a call and show its
body, or log in. The commands of the command line and the lines of the console are both read as
plans, so that both do the same.
-/

set_option autoImplicit false

namespace Courier

/-- What a dispatcher can do for the operator. -/
inductive Operation where
  /-- A call with a payload in JSON. -/
  | call (method : Method) (endpoint : String) (data? : Option String)
  /-- A login. A user who is not named is asked for. -/
  | login (user? : Option String)
deriving DecidableEq

/-- A command of the command line. -/
inductive Command where
  | console
  | operate (operation : Operation)
  /-- Encodes bytes, or a payload in JSON, as a query would carry them. -/
  | encode (encoding : QueryEncoding) (input : String) (json : Bool)
  /-- Shows the configuration. -/
  | config
deriving DecidableEq

/-- How a command is carried out. -/
inductive Plan where
  | show (text : String)
  | quit
  /-- Later calls act on the site. -/
  | switch (site : ActiveSite) (text : String)
  /-- The body of the answer is shown. -/
  | send (call : Call)
  /-- Asks for what is missing of the credentials and logs in. -/
  | login (user? : Option String)

namespace Payload

/-- The payload that a text in JSON stands for. -/
def ofText (text : String) : Except Failure Value :=
  match Json.read text with
  | .error fault => .error (.json fault text)
  | .ok json =>
    match Value.ofJson json with
    | .error e => .error (.words e.message)
    | .ok v => .ok v

/-- The name of a file, if an argument stands for the content of one. -/
def file? (argument : String) : Option String :=
  match argument.toList with
  | '@' :: path => some (String.ofList path)
  | _ => none

/-- The payload of an argument: JSON, or a file with JSON. -/
def ofArgument (disk : Disk) (argument : String) : Except Failure Value :=
  match file? argument with
  | none => ofText argument
  | some path =>
    match disk.readText path with
    | .error e => .error (.file e)
    | .ok text => ofText text

/-- The bytes of an argument: those of its text, or of a file. -/
def bytesOfArgument (disk : Disk) (argument : String) : Except Failure Bytes :=
  match file? argument with
  | none => .ok (Bytes.ofString argument)
  | some path =>
    match disk path with
    | .error e => .error (.file e)
    | .ok b => .ok b

end Payload

namespace Command

/-- The text that a query would carry for an argument, as it is or read as a payload. -/
def encoded (disk : Disk) (encoding : QueryEncoding) (input : String) (json : Bool) :
    Except Failure String :=
  if json then
    match Payload.ofArgument disk input with
    | .error e => .error e
    | .ok payload =>
      match Codec.standard.encode payload with
      | .error e => .error (.wire e)
      | .ok b => .ok (encoding.encode b)
  else (Payload.bytesOfArgument disk input).map encoding.encode

end Command

/-- The plan of an operation. -/
def Operation.plan (disk : Disk) : Operation → Except Failure Plan
  | .call method endpoint none => .ok (.send ⟨method, endpoint, none⟩)
  | .call method endpoint (some data) =>
    (Payload.ofArgument disk data).map fun payload => .send ⟨method, endpoint, some payload⟩
  | .login user? => .ok (.login user?)

namespace Plan

/-- What is shown when the call of a plan has ended. -/
def bodyShown (result : Except CallError Value) : Except Failure String :=
  match result with
  | .ok body => .ok body.display
  | .error e => .error (.call e)

/-- What is shown when the login of a user has ended. -/
def loginShown (colored : Bool) (user : String) (result : Except CallError Value) :
    Except Failure String :=
  match result with
  | .ok _ => .ok (Text.paint colored .green "Logged in" ++ " as " ++ Text.paint colored .cyan user)
  | .error e => .error (.call e)

end Plan

end Courier
