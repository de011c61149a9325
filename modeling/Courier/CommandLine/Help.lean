import Courier.Config.Layers

/-!
# `Courier.CommandLine.Help`: how the command line explains itself

The help of the program and of each command: what it is for, how its words stand, and a list of
the words with what they mean. The meanings of a list begin in one column.
-/

set_option autoImplicit false

namespace Courier.CommandLine.Help

/-- The name of the program. -/
def programName : String := "mazewire"

/-- What is shown if the version is asked for. -/
def version : String := programName ++ " 0.1.0\n"

/-- What the program is for. -/
def programAbout : String := "Command-line client for the mazewire admin API"

/-- What the word `help` is for. -/
def helpAbout : String := "Print this message or the help of the given subcommand(s)"

/-- What a command is for. -/
def about : Word → String
  | .console => "Start interactive REPL"
  | .call .get => "Send a GET request; the payload travels in the query string"
  | .call m => "Send a " ++ m.name ++ " request"
  | .login => "Log in and verify the credentials"
  | .encode => "Encode text (or @file) the way GET payloads are encoded"
  | .config => "Print the effective configuration"

/-- The name of the value of an argument. -/
def valueName : Argument → String
  | .config => "CONFIG"
  | .apiUrl => "API_URL"
  | .site => "SITE"
  | .encoding => "ENCODING"
  | .caCert => "CA_CERT"
  | .data => "DATA"
  | .user => "USER"
  | .endpoint => "ENDPOINT"
  | .queryEncoding => "ENCODING"
  | .input => "INPUT"
  | _ => ""

/-- What an argument means. Behind words other than `get` those of a call are not explained. -/
def meaning (env : Environment) (word? : Option Word) : Argument → String
  | .config =>
    "Path to a YAML config file [env: MAZEWIRE_CONFIG=" ++ env.configFile?.getD "" ++ "]"
  | .apiUrl => "API base URL (e.g. https://example.com/api/)"
  | .site => "Site id to act on (0 = the site served by the API host)"
  | .encoding => "Encoding of GET payloads in the query string"
  | .caCert => "Path to CA certificate for server verification"
  | .insecure => "Skip server certificate verification (INSECURE)"
  | .help => "Print help"
  | .version => "Print version"
  | .data =>
    if word? = some (.call .get) then "Payload JSON (or @file.json to read from file)" else ""
  | .endpoint => if word? = some (.call .get) then "Endpoint relative to the API base URL" else ""
  | .user => "Username or email (prompted for if omitted)"
  | .json => "Treat the input as a JSON payload and encode its MessagePack form"
  | .queryEncoding => "hex or base32"
  | .input => "Input text, or @file to read raw bytes from a file"

/-- The value of an argument between angle brackets. -/
def placeholder (a : Argument) : String := "<" ++ valueName a ++ ">"

/-- How an option is written. -/
def optionText (a : Argument) : String :=
  (match a.short? with
    | some c => "-" ++ String.singleton c ++ ", "
    | none => "    ")
    ++ "--" ++ a.long?.getD "" ++ (if a.takesValue then " " ++ placeholder a else "")

/-- A text filled up with blanks. -/
def padded (width : Nat) (s : String) : String :=
  s ++ String.ofList (List.replicate (width - s.length) ' ')

/-- A list of words with what they mean, under a title. -/
def entryList (title : String) (entries : List (String × String)) : String :=
  if entries.isEmpty then ""
  else
    let width := (entries.map (·.1.length)).foldl max 0
    "\n" ++ title ++ ":\n"
      ++ String.join (entries.map fun e => "  " ++ padded width e.1 ++ "  " ++ e.2 ++ "\n")

/-- What is shown for a part of the command line. -/
def render (about usage : String) (sections : List (String × List (String × String))) : String :=
  about ++ "\n\nUsage: " ++ programName ++ usage ++ "\n"
    ++ String.join (sections.map fun s => entryList s.1 s.2)

/-- The options of a part of the command line with what they mean. -/
def options (env : Environment) (word? : Option Word) (g : Grammar) : List (String × String) :=
  g.options.map fun a => (optionText a, meaning env word? a)

/-- The help of the program. -/
def ofProgram (env : Environment) : String :=
  render programAbout " [OPTIONS] [COMMAND]"
    [("Commands", Word.all.map (fun w => (w.name, about w)) ++ [("help", helpAbout)]),
      ("Options", options env none .program)]

/-- The help of a command. -/
def ofWord (env : Environment) (w : Word) : String :=
  let g := Grammar.ofWord w
  let hasOptions := g.options.any (· ≠ .help)
  render (about w)
    (" " ++ w.name ++ (if hasOptions then " [OPTIONS]" else "")
      ++ String.join (g.operands.map fun a => " " ++ placeholder a))
    [("Arguments", g.operands.map fun a => (placeholder a, meaning env (some w) a)),
      ("Options", options env (some w) g)]

/-- The help of the word `help`. -/
def ofHelp : String :=
  render helpAbout " help [COMMAND]..."
    [("Arguments", [("[COMMAND]...", "Print help for the subcommand(s)")])]

/-- The help that is asked for. -/
def text (env : Environment) (name? : Option String) : String :=
  match name? with
  | none => ofProgram env
  | some name =>
    match Word.ofName? name with
    | some w => ofWord env w
    | none => ofHelp

end Courier.CommandLine.Help
