import Courier.CommandLine.Help
import Courier.Console
import Courier.Session.Workload
import Courier.Terminal
import Courier.Text.Line
import Courier.Transport

/-!
# `Courier.Program`: a run of the program

A run begins with the words of the command line. It ends at once, or goes on with a program that
waits: for a line of the operator, or for the answer to a request. `Program.enter` and
`Program.answer` let it go on from there to the next point at which it waits, or to its end.

The console carries out one line after another, and anything else one command. One call at a time
is under way, so its events end in what the program waits for next.
-/

set_option autoImplicit false

namespace Courier

/-- What a program writes. -/
inductive Output where
  | out (text : String)
  | err (text : String)
deriving DecidableEq

namespace Output

/-- The results of some output. -/
def results (os : List Output) : String :=
  String.join (os.map fun o => match o with
    | .out s => s
    | .err _ => "")

/-- What some output says beside the results. -/
def messages (os : List Output) : String :=
  String.join (os.map fun o => match o with
    | .out _ => ""
    | .err s => s)

end Output

/-- How a program shows things, and what it needs to carry out commands. -/
structure Desk where
  disk : Disk
  colored : Bool
  /-- Whether messages go to a terminal. -/
  interactive : Bool
  dispatcher : Dispatcher
  /-- Whether lines of the operator are carried out, and not only one command. -/
  isConsole : Bool

/-- What is shown of a call when it has ended. -/
inductive Goal where
  | body
  | login (user : String)
deriving DecidableEq

/-- Why credentials are asked for. -/
inductive Occasion where
  /-- A request under way needs a login. -/
  | refused
  /-- The operator wants to log in. -/
  | command
  /-- The operator wants to log in as a user who is named, so that only the password is asked
  for. -/
  | named
deriving DecidableEq

/-- What a program waits for. -/
inductive Wait where
  /-- A line for the console. -/
  | line
  | user (occasion : Occasion)
  | password (occasion : Occasion) (user : String)
  | answer (request : Http.Request)
deriving DecidableEq

/-- A program that waits. -/
structure Program where
  desk : Desk
  work : Workload
  /-- The number of the call that is under way, or comes next. -/
  task : Nat := 0
  goal : Goal := .body
  wait : Wait := .line

/-- How a run goes on: with a program that waits, or not at all. -/
inductive Progress where
  | waiting (p : Program)
  | ended (code : Nat)

/-- A stretch of a run: what has been written, and how it goes on. -/
abbrev Advance := List Output × Progress

namespace Program

/-- What is written before a stretch. -/
def after (written : List Output) (a : Advance) : Advance := (written ++ a.1, a.2)

/-- The end of a console. -/
def leave (p : Program) : Advance :=
  ([.out (Text.paint p.desk.colored .dimmed "Bye." ++ "\n")], .ended 0)

/-- Shows what a command has come to. The console goes on; otherwise the run is over. -/
def conclude (p : Program) (result : Except Failure String) : Advance :=
  if p.desk.isConsole then
    (match result with
      | .ok text => [.out (text ++ "\n\n")]
      | .error f => ((f.report? p.desk.colored).map fun s => Output.err (s ++ "\n")).toList,
      .waiting { p with wait := .line })
  else
    match result with
    | .ok text => ([.out (text ++ "\n")], .ended 0)
    | .error f =>
      (((f.report? p.desk.colored).map fun s => Output.err (s ++ "\n")).toList, .ended 1)

/-- Shows what a call has come to. -/
def concludeCall (p : Program) (result : Except CallError Value) : Advance :=
  { p with task := p.task + 1 }.conclude <|
    match p.goal with
    | .body => Plan.bodyShown result
    | .login user => Plan.loginShown p.desk.colored user result

/-- Asks for credentials in a dialog. -/
def openDialog (p : Program) (occasion : Occasion) (lastError : Option String) : Advance :=
  ([.err (Terminal.dialogOpened p.desk.colored .standard lastError)],
    .waiting { p with wait := .user occasion })

/-- Shows the events of the call that is under way, the last of which says what comes next. -/
def follow (p : Program) : List Event → Advance
  | [] => ([], .waiting p)
  | .loading _ visible :: rest =>
    after [.err (Terminal.loading p.desk.interactive p.desk.colored visible)] (p.follow rest)
  | .notice _ _ notice :: rest =>
    after [.err (Terminal.noticeLine p.desk.colored notice ++ "\n")] (p.follow rest)
  | .sent _ request :: rest => { p with wait := .answer request }.follow rest
  | .asked _ lastError :: _ => p.openDialog .refused lastError
  | .ended _ result :: _ => p.concludeCall result

/-- Lets the call that is under way go on. -/
def signal (p : Program) (s : Signal) : Advance :=
  match p.work.advance? s with
  | none => ([], .waiting p)
  | some (work, events) => { p with work := work }.follow events

/-- Begins a call. -/
def launch (p : Program) (call : Call) (isLogin : Bool) (goal : Goal) : Advance :=
  { p with goal := goal }.signal (.start ⟨p.task, 0, p.desk.dispatcher, call, isLogin⟩)

/-- Begins a login. -/
def logIn (p : Program) (c : Credentials) : Advance :=
  p.launch (c.login p.desk.dispatcher.api.authEndpoint) true (.login c.user)

/-- Carries out a plan. -/
def carryOut (p : Program) : Except Failure Plan → Advance
  | .error f => p.conclude (.error f)
  | .ok (.show text) => p.conclude (.ok text)
  | .ok .quit => p.leave
  | .ok (.switch site text) =>
    let work := ((p.work.advance? (.switch site)).map (·.1)).getD p.work
    { p with work := work }.conclude (.ok text)
  | .ok (.send call) => p.launch call false .body
  | .ok (.login none) => p.openDialog .command none
  | .ok (.login (some user)) => ([], .waiting { p with wait := .password .named user })

/-! ### What the operator enters -/

/-- The operator has filled in what was asked for. -/
def accepted (p : Program) (occasion : Occasion) (c : Credentials) : Advance :=
  let closed := [Output.err (Terminal.dialogAccepted p.desk.colored .standard)]
  match occasion with
  | .refused => after closed (p.signal (.credentials p.task (some c)))
  | .command => after closed (p.logIn c)
  | .named => p.logIn c

/-- The operator has not filled in what was asked for. -/
def dismissed (p : Program) (occasion : Occasion) (reason : Failure) : Advance :=
  match occasion with
  | .refused => p.signal (.credentials p.task none)
  | .command =>
    if p.desk.isConsole then p.conclude (.ok (Failure.cancelledLine p.desk.colored))
    else p.conclude (.error (.call .abandoned))
  | .named => p.conclude (.error reason)

/-- Carries out a line of the console. -/
def carryOutLine (p : Program) (line : String) : Advance :=
  let line := Text.trim line
  if line.isEmpty then ([], .waiting p)
  else p.carryOut (Console.plan p.desk.disk p.desk.colored p.work.session.site line)

/-- Why there is no line. -/
def failureOf : Text.Line → Failure
  | .notText => .file .notText
  | _ => .inputEnded

/-- What the console shows of a line that is not UTF-8, before it gives up. -/
def unreadableLine : String :=
  "Io(Error \x7b kind: InvalidData, message: \"stream did not contain valid UTF-8\" \x7d)"

/-- Goes on with a line of the operator. -/
def enter (p : Program) (line : Text.Line) : Advance :=
  match p.wait, line with
  | .line, .text s => p.carryOutLine s
  | .line, .ended => after [.out "^D\n"] p.leave
  | .line, .notText =>
    after [.out (Failure.errorLine p.desk.colored unreadableLine ++ "\n")] p.leave
  | .user occasion, .text s =>
    ([], .waiting { p with wait := .password occasion (Text.trim s) })
  | .user occasion, _ => p.dismissed occasion (failureOf line)
  | .password occasion user, .text s => p.accepted occasion ⟨user, s⟩
  | .password occasion _, _ => p.dismissed occasion (failureOf line)
  | .answer _, _ => ([], .waiting p)

/-- What invites the operator to enter something. -/
def invitation (p : Program) : String :=
  match p.wait with
  | .line => Text.paint p.desk.colored .cyan "mazewire>" ++ " "
  | .user _ => "user: "
  | .password .named user => "password for " ++ user ++ ": "
  | .password _ _ => "password: "
  | .answer _ => ""

/-- The file that a line of the operator names. -/
def file? (p : Program) (line : Text.Line) : Option String :=
  match p.wait, line with
  | .line, .text s => Console.file? (Text.trim s)
  | _, _ => none

/-- The same program with another disk. -/
def withDisk (p : Program) (disk : Disk) : Program :=
  { p with desk := { p.desk with disk := disk } }

/-- Goes on with the answer to a request. -/
def answer (p : Program) (outcome : Except TransportError Http.Response) : Advance :=
  p.signal (.answer p.task outcome)

/-! ### How a run begins -/

/-- What the console shows when it begins. -/
def greeting (colored : Bool) (api : Api) : String :=
  Text.paint colored .boldCyan "mazewire CLI" ++ "\nAPI: " ++ api.baseUrl
    ++ "\nType 'help' for available commands.\n\n"

/-- The program of a configuration and a command. -/
def begin (disk : Disk) (colored interactive : Bool) (c : Config) (operation? : Option Operation) :
    Advance :=
  let desk : Desk :=
    ⟨disk, colored, interactive, { api := c.api }, operation?.isNone⟩
  let p : Program := ⟨desk, ⟨{ site := { id := c.siteId } }, []⟩, 0, .body, .line⟩
  match operation? with
  | none => ([.out (greeting colored c.api)], .waiting p)
  | some operation => p.carryOut (operation.plan disk)

end Program

/-- The surroundings of a run. -/
structure Surroundings where
  disk : Disk
  env : Environment
  colored : Bool
  /-- Whether messages go to a terminal. -/
  interactive : Bool

namespace Surroundings

/-- A run that is over with an error. -/
def failed (s : Surroundings) (text : String) : Advance × Transport :=
  (([.err (Failure.errorLine s.colored text ++ "\n")], .ended 1), {})

/-- A run that is over because there is no transport. The fault is shown twice: to the operator,
and as what the run ends with. -/
def withoutTransport (s : Surroundings) (fault : Tls.Fault) : Advance × Transport :=
  (([.err (Text.paint s.colored .red "Transport setup failed" ++ ": "
        ++ (TransportError.tlsConfig fault.message).message ++ "\n"),
      .err ("Error: TlsConfig(" ++ Text.quoted fault.message ++ ")\n")], .ended 1), {})

/-- A run with a configuration: of the console, or of an operation. -/
def runWith (s : Surroundings) (i : Invocation) (operation? : Option Operation) :
    Advance × Transport :=
  match i.configure s.disk s.env with
  | .error e => s.failed e.message
  | .ok c =>
    match Transport.ofConfig s.disk c with
    | .error fault => s.withoutTransport fault
    | .ok t => (Program.begin s.disk s.colored s.interactive c operation?, t)

/-- The files that a command names. -/
def filesOf : Command → List String
  | .operate (.call _ _ (some data)) => (Payload.file? data).toList
  | .encode _ input _ => (Payload.file? input).toList
  | _ => []

/-- The files that a run reads when it begins, as far as that can be told from the files that are
already known. Those that the configuration names are told once its own file is known. -/
def files (s : Surroundings) (words : List String) : List String :=
  match Invocation.ofWords s.env.configFile? words with
  | .error _ => []
  | .ok i =>
    i.config?.toList ++ (i.command?.map filesOf).getD [] ++
      match i.configure s.disk s.env with
      | .error _ => []
      | .ok c => c.tls.caCert?.toList ++ c.tls.clientCert?.toList ++ c.tls.clientKey?.toList

/-- What is shown if the command line does not mean a run, and the code of it. -/
def usage (s : Surroundings) : CommandLine.UsageError → List Output × Nat
  | .helpWanted name? => ([.out (CommandLine.Help.text s.env name?)], 0)
  | .versionWanted => ([.out CommandLine.Help.version], 0)
  | _ => ([.err "error: invalid arguments\n\nFor more information, try '--help'.\n"], 2)

/-- The beginning of a run with the words of a command line, and the transport of its requests. -/
def run (s : Surroundings) (words : List String) : Advance × Transport :=
  match Invocation.ofWords s.env.configFile? words with
  | .error e =>
    let (output, code) := s.usage e
    ((output, .ended code), {})
  | .ok i =>
    match i.command? with
    | some (.encode encoding input json) =>
      match Command.encoded s.disk encoding input json with
      | .error f => s.failed f.message
      | .ok text => (([.out (text ++ "\n")], .ended 0), {})
    | some .config =>
      match i.configure s.disk s.env with
      | .error e => s.failed e.message
      | .ok c => (([.out c.toYaml], .ended 0), {})
    | some (.operate operation) => s.runWith i (some operation)
    | some .console => s.runWith i none
    | none => s.runWith i none

end Surroundings

end Courier
