import Courier.Command
import Courier.Text.Blank

/-!
# `Courier.Console`: lines of the operator

A line of the console begins with a command word in any case; the rest, without the blanks at its
ends, belongs to the command. `Console.plan` is the plan of a line.
-/

set_option autoImplicit false

namespace Courier.Console

/-- What the console can do. -/
def help : String := "
Available commands:
  help                              Show this help

  get <endpoint> [payload_json]     Send a GET request (payload goes in ?data=)
  post <endpoint> [payload_json]    Send a POST request
  put <endpoint> [payload_json]     Send a PUT request
  patch <endpoint> [payload_json]   Send a PATCH request
  delete <endpoint> [payload_json]  Send a DELETE request

  login                             Log in (also happens on demand)
  site                              Show the active site
  site <id> [role]                  Switch the active site (0 = API host)

  encode <hex|base32> <text>        Encode text as a GET payload would be

  quit, exit                        Exit the REPL

Payloads are JSON; \x7b\"$time\": <unix seconds>\x7d sends a timestamp.
"

/-- The command word of a line, in lower case, and the rest. -/
def split (line : String) : String × String :=
  match Text.splitAtBlank line with
  | some (word, rest) => (Text.lowercase word, Text.trim rest)
  | none => (Text.lowercase line, "")

/-- The method that a command word names. -/
def method? (word : String) : Option Method :=
  Method.all.find? fun m => Text.lowercase m.name = word

/-- The plan of a call. -/
def call (method : Method) (word rest : String) : Except Failure Plan :=
  let (endpoint, data?) :=
    match Text.splitAtBlank rest with
    | some (endpoint, data) => (endpoint, some (Text.trim data))
    | none => (rest, none)
  if endpoint.isEmpty then .ok (.show ("Usage: " ++ word ++ " <endpoint> [payload_json]"))
  else
    match data? with
    | none => .ok (.send ⟨method, endpoint, none⟩)
    | some data =>
      (Payload.ofText data).map fun payload => .send ⟨method, endpoint, some payload⟩

/-- The line that shows the active site. -/
def siteLine (colored : Bool) (site : ActiveSite) : String :=
  let role :=
    if site.role = .none then Text.paint colored .dimmed "unknown"
    else Text.paint colored .yellow site.role.name
  "site " ++ Text.paint colored .cyan (toString site.id.toInt) ++ " " ++ site.domain
    ++ " (role: " ++ role ++ ")"

/-- The plan that shows or switches the site. -/
def site (colored : Bool) (active : ActiveSite) (rest : String) : Except Failure Plan :=
  match Text.words rest with
  | [] => .ok (.show (siteLine colored active))
  | id :: others =>
    match Text.readInt64 id with
    | .error e => .error (.number e)
    | .ok id =>
      let role := SiteRole.parse (others.head?.getD "")
      .ok (.switch { active with id := id, role := role }
        (Text.paint colored .green "Switched to" ++ " site " ++ toString id.toInt))

/-- The plan that encodes a text. -/
def encode (disk : Disk) (rest : String) : Except Failure Plan :=
  match Text.splitAtBlank rest with
  | none => .ok (.show "Usage: encode <hex|base32> <text>")
  | some (name, text) =>
    match QueryEncoding.parse name with
    | .error e => .error (.words e)
    | .ok encoding => (Command.encoded disk encoding (Text.trim text) false).map .show

/-- The file that a line names, if it is one that needs a file. -/
def file? (line : String) : Option String :=
  let (word, rest) := split line
  if word = "encode" then
    (Text.splitAtBlank rest).bind fun (_, text) => Payload.file? (Text.trim text)
  else none

/-- The plan of a line. -/
def plan (disk : Disk) (colored : Bool) (active : ActiveSite) (line : String) :
    Except Failure Plan :=
  let (word, rest) := split line
  match method? word with
  | some method => call method word rest
  | none =>
    if word = "help" ∨ word = "?" then .ok (.show help)
    else if word = "quit" ∨ word = "exit" ∨ word = "q" then .ok .quit
    else if word = "login" then .ok (.login none)
    else if word = "site" then site colored active rest
    else if word = "encode" then encode disk rest
    else .ok (.show ("Unknown command: " ++ word ++ ". Type 'help' for help."))

end Courier.Console
