import Courier.Command

/-!
# `Courier.CommandLine`: the words of the command line

The words are options and their values, and the operands of a command. A word that begins with a
hyphen is an option; its value stands behind an equals sign, right behind a letter, or in the next
word. After two hyphens every word is an operand. Options of the program stand in front of the
command word, those of a command behind it.

A value is looked at when the next option or operand begins, or when there are no more words. So
of two mistakes the one that shows first counts, and mistakes behind the command word come before
one in the value of the last option in front of it.
-/

set_option autoImplicit false

namespace Courier.CommandLine

/-- What the command line does not mean a run of the program by. -/
inductive UsageError where
  /-- Help is asked for. -/
  | helpWanted (command? : Option String)
  /-- The version is asked for. -/
  | versionWanted
  | unknownArgument
  | unknownCommand
  /-- An option without its value, or with an empty one where it must not be. -/
  | noValue
  /-- A value that means nothing. -/
  | badValue
  /-- A value for an option that takes none. -/
  | superfluousValue
  /-- An option that stands twice. -/
  | repeated
  | missingArgument
deriving DecidableEq

/-- What can be given on the command line. -/
inductive Argument where
  | config
  | apiUrl
  | site
  | encoding
  | caCert
  | insecure
  | help
  | version
  | data
  | user
  | json
  /-- Operands. -/
  | endpoint
  | queryEncoding
  | input
deriving DecidableEq

namespace Argument

/-- The word of an option, behind two hyphens. -/
def long? : Argument → Option String
  | .config => some "config"
  | .apiUrl => some "api-url"
  | .site => some "site"
  | .encoding => some "encoding"
  | .caCert => some "ca-cert"
  | .insecure => some "insecure"
  | .help => some "help"
  | .version => some "version"
  | .data => some "data"
  | .user => some "user"
  | .json => some "json"
  | _ => none

/-- The letter of an option, behind one hyphen. -/
def short? : Argument → Option Char
  | .config => some 'c'
  | .apiUrl => some 'u'
  | .site => some 's'
  | .encoding => some 'e'
  | .insecure => some 'k'
  | .help => some 'h'
  | .version => some 'V'
  | .data => some 'd'
  | .user => some 'U'
  | _ => none

/-- Whether an option takes a value. -/
def takesValue : Argument → Bool
  | .insecure => false
  | .help => false
  | .version => false
  | .json => false
  | _ => true

/-- Whether a value can be used. -/
def check (a : Argument) (value : String) : Except UsageError Unit :=
  match a with
  | .config => if value.isEmpty then .error .noValue else .ok ()
  | .caCert => if value.isEmpty then .error .noValue else .ok ()
  | .site => if (Text.readInt64 value).isOk then .ok () else .error .badValue
  | .encoding => if (QueryEncoding.parse value).isOk then .ok () else .error .badValue
  | .queryEncoding => if (QueryEncoding.parse value).isOk then .ok () else .error .badValue
  | _ => .ok ()

end Argument

/-- The command words. -/
inductive Word where
  | console
  | call (method : Method)
  | login
  | encode
  | config
deriving DecidableEq

namespace Word

/-- A command word as it is written. -/
def name : Word → String
  | .console => "repl"
  | .call .get => "get"
  | .call .post => "post"
  | .call .put => "put"
  | .call .patch => "patch"
  | .call .delete => "delete"
  | .login => "login"
  | .encode => "encode"
  | .config => "config"

/-- All command words in the order of the help. -/
def all : List Word :=
  [.console, .call .get, .call .post, .call .put, .call .patch, .call .delete, .login, .encode,
    .config]

/-- The command word that is written like this. -/
def ofName? (s : String) : Option Word := all.find? (·.name = s)

end Word

/-- What can stand in one part of the command line. -/
structure Grammar where
  options : List Argument
  operands : List Argument
  /-- Whether a command word can follow. -/
  hasCommands : Bool

namespace Grammar

/-- The part in front of the command word. -/
def program : Grammar :=
  ⟨[.config, .apiUrl, .site, .encoding, .caCert, .insecure, .help, .version], [], true⟩

/-- The part behind a command word. -/
def ofWord : Word → Grammar
  | .console => ⟨[.help], [], false⟩
  | .call _ => ⟨[.data, .help], [.endpoint], false⟩
  | .login => ⟨[.user, .help], [], false⟩
  | .encode => ⟨[.json, .help], [.queryEncoding, .input], false⟩
  | .config => ⟨[.help], [], false⟩

end Grammar

/-- Arguments with their values; a value of an option that takes none is empty. -/
abbrev Given := List (Argument × String)

/-- How far reading has come. -/
structure Progress where
  given : Given := []
  /-- The argument that is not looked at yet, with its value, if that has come. -/
  pending? : Option (Argument × Option String) := none
  /-- The operands that can still come. -/
  operands : List Argument
  /-- Whether two hyphens have been read. -/
  onlyOperands : Bool := false

namespace Progress

/-- Whether the next word is the value of an option. -/
def awaitsValue (p : Progress) : Bool :=
  match p.pending? with
  | some (_, none) => true
  | _ => false

/-- Takes an argument with its value. -/
def take (p : Progress) (a : Argument) (value : String) : Except UsageError Progress :=
  if p.given.any (·.1 = a) then .error .repeated
  else
    match a.check value with
    | .error e => .error e
    | .ok _ => .ok { p with given := p.given ++ [(a, value)] }

/-- Looks at the pending argument. -/
def settle (p : Progress) : Except UsageError Progress :=
  match p.pending? with
  | none => .ok p
  | some (_, none) => .error .noValue
  | some (a, some value) => { p with pending? := none }.take a value

/-- Takes an option that has no value. -/
def takeFlag (word? : Option Word) (p : Progress) (a : Argument) : Except UsageError Progress :=
  match p.settle with
  | .error e => .error e
  | .ok p =>
    if a = .help then .error (.helpWanted (word?.map Word.name))
    else if a = .version then .error .versionWanted
    else p.take a ""

/-- Takes an option with the value that is attached to it, or waits for its value. -/
def takeOption (p : Progress) (a : Argument) (attached? : Option String) :
    Except UsageError Progress :=
  match p.settle with
  | .error e => .error e
  | .ok p =>
    match attached? with
    | some value => p.take a value
    | none => .ok { p with pending? := some (a, none) }

/-- Reads a word of an option, without its hyphens. -/
def readLong (g : Grammar) (word? : Option Word) (p : Progress) (word : List Char) :
    Except UsageError Progress :=
  let (name, attached?) :=
    match word.span (· ≠ '=') with
    | (name, []) => (String.ofList name, none)
    | (name, _ :: value) => (String.ofList name, some (String.ofList value))
  match g.options.find? (·.long? = some name) with
  | none => .error .unknownArgument
  | some a =>
    if a.takesValue then p.takeOption a attached?
    else if attached?.isSome then .error .superfluousValue
    else p.takeFlag word? a

/-- Reads letters of options. Behind a letter whose option takes a value the rest is the value,
which an equals sign may precede. -/
def readShort (g : Grammar) (word? : Option Word) :
    Progress → List Char → Except UsageError Progress
  | p, [] => .ok p
  | p, c :: rest =>
    match g.options.find? (·.short? = some c) with
    | none => .error .unknownArgument
    | some a =>
      if a.takesValue then
        match rest with
        | [] => p.takeOption a none
        | '=' :: value => p.takeOption a (some (String.ofList value))
        | value => p.takeOption a (some (String.ofList value))
      else
        match p.takeFlag word? a with
        | .error e => .error e
        | .ok p => readShort g word? p rest

/-- Reads an operand. -/
def readOperand (g : Grammar) (p : Progress) (word : String) : Except UsageError Progress :=
  match p.operands with
  | a :: others =>
    match p.settle with
    | .error e => .error e
    | .ok p => .ok { p with operands := others, pending? := some (a, some word) }
  | [] =>
    if !g.hasCommands then .error .unknownArgument
    else if p.onlyOperands ∧ (word = "help" ∨ (Word.ofName? word).isSome) then
      .error .unknownArgument
    else .error .unknownCommand

/-- Reads a word that is no command word. -/
def readWord (g : Grammar) (word? : Option Word) (p : Progress) (word : String) :
    Except UsageError Progress :=
  if p.onlyOperands then p.readOperand g word
  else
    match word.toList with
    | ['-', '-'] => .ok { p with onlyOperands := true }
    | '-' :: '-' :: name => p.readLong g word? name
    | '-' :: c :: letters => p.readShort g word? (c :: letters)
    | _ =>
      match p.pending? with
      | some (a, none) => .ok { p with pending? := some (a, some word) }
      | _ => p.readOperand g word

end Progress

/-- Reads the words behind a command word. -/
def readCommandWords (word : Word) : Progress → List String → Except UsageError Given
  | p, [] => p.settle.map (·.given)
  | p, w :: rest =>
    match p.readWord (.ofWord word) (some word) w with
    | .error e => .error e
    | .ok p => readCommandWords word p rest

/-- What the help is asked for behind the word `help`. -/
def helpOn : List String → UsageError
  | [] => .helpWanted none
  | ["help"] => .helpWanted (some "help")
  | [name] => if (Word.ofName? name).isSome then .helpWanted (some name) else .unknownCommand
  | _ => .unknownCommand

/-- The first value that is given for an argument. -/
def value? (given : Given) (a : Argument) : Option String :=
  (given.find? (·.1 = a)).map (·.2)

/-- The command of a command word and what is given behind it. -/
def command (word : Word) (given : Given) : Except UsageError Command :=
  match word with
  | .console => .ok .console
  | .config => .ok .config
  | .login => .ok (.operate (.login (value? given .user)))
  | .call method =>
    match value? given .endpoint with
    | none => .error .missingArgument
    | some endpoint => .ok (.operate (.call method endpoint (value? given .data)))
  | .encode =>
    match value? given .queryEncoding, value? given .input with
    | some name, some input =>
      match QueryEncoding.parse name with
      | .error _ => .error .badValue
      | .ok encoding => .ok (.encode encoding input (value? given .json).isSome)
    | _, _ => .error .missingArgument

/-- Reads the words of the command line: what stands in front of the command word, and the
command. -/
def readProgramWords : Progress → List String → Except UsageError (Given × Option Command)
  | p, [] => p.settle.map fun p => (p.given, none)
  | p, w :: rest =>
    let mayBeCommand := !p.onlyOperands && !p.awaitsValue
    if mayBeCommand ∧ w = "help" then .error (helpOn rest)
    else
      match if mayBeCommand then Word.ofName? w else none with
      | some word =>
        match readCommandWords word ⟨[], none, (Grammar.ofWord word).operands, false⟩ rest with
        | .error e => .error e
        | .ok given =>
          match command word given with
          | .error e => .error e
          | .ok c => p.settle.map fun p => (p.given, some c)
      | none =>
        match p.readWord .program none w with
        | .error e => .error e
        | .ok p => readProgramWords p rest

end CommandLine

/-- What a command line means. -/
structure Invocation where
  config? : Option String
  apiUrl? : Option String
  site? : Option Int64
  encoding? : Option QueryEncoding
  caCert? : Option String
  insecure : Bool
  command? : Option Command
deriving DecidableEq

open CommandLine in
/-- The meaning of the words of a command line. The file with the configuration is taken from
the environment if the words do not name it. -/
def Invocation.ofWords (configFromEnvironment? : Option String) (words : List String) :
    Except UsageError Invocation :=
  match readProgramWords ⟨[], none, [], false⟩ words with
  | .error e => .error e
  | .ok (given, command?) =>
    let config? := (value? given .config).or configFromEnvironment?
    match config?.map (Argument.check .config) with
    | some (.error e) => .error e
    | _ =>
      .ok {
        config? := config?
        apiUrl? := value? given .apiUrl
        site? := (value? given .site).bind fun s => (Text.readInt64 s).toOption
        encoding? := (value? given .encoding).bind fun s => (QueryEncoding.parse s).toOption
        caCert? := value? given .caCert
        insecure := (value? given .insecure).isSome
        command? := command? }

end Courier
