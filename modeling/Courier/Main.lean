import Courier.Program
import Std.Async.DNS
import Std.Async.TCP
import Std.Async.Timer

/-!
# `Courier.Main`: the program

Everything that happens is decided by `Courier.Program`. Here its decisions are carried out: files
are read before they are needed, lines are read and texts written, and requests go over the
network.
-/

set_option autoImplicit false

namespace Courier.Main

open Std.Async

/-! ### Files -/

/-- Why a file has no content, from what the system says. -/
def fileError : IO.Error → FileError
  | .noFileOrDirectory _ _ _ => .missing
  | e => .other (toString e)

/-- The content of a file. -/
def readFile (path : String) : IO (Except FileError Bytes) := do
  try
    return .ok (← IO.FS.readBinFile path).toList
  catch e =>
    return .error (fileError e)

/-- A disk on which only these files are known. -/
def readFiles (paths : List String) : IO Disk := do
  let files ← paths.mapM fun path => return (path, ← readFile path)
  return fun path => ((files.find? (·.1 = path)).map (·.2)).getD (.error .missing)

/-- The environment, as far as the program looks at it. -/
def readEnvironment : IO Environment := do
  let names := ["CONFIG", "API_URL", "AUTH_ENDPOINT", "QUERY_ENCODING", "CONNECT_TIMEOUT",
    "REQUEST_TIMEOUT", "CA_CERT", "CLIENT_CERT", "CLIENT_KEY", "TLS_INSECURE", "SITE_ID"]
  let known ← (names.map ("MAZEWIRE_" ++ ·)).mapM fun name => return (name, ← IO.getEnv name)
  return fun name => (known.find? (·.1 = name)).bind (·.2)

/-! ### The terminal -/

/-- Writes output where it belongs. -/
def write (os : List Output) : IO Unit := do
  let stdout ← IO.getStdout
  let stderr ← IO.getStderr
  for o in os do
    match o with
    | .out s =>
      stdout.putStr s
      stdout.flush
    | .err s =>
      stderr.putStr s
      stderr.flush

/-- The bytes up to the end of a line. What has been read is given last byte first. -/
partial def readBytes (input : IO.FS.Stream) (done : Bytes) : IO Bytes := do
  match (← input.read 1).toList with
  | [] => return done.reverse
  | b :: _ => if b = 10 then return (b :: done).reverse else readBytes input (b :: done)

/-- A line of the operator. -/
def readLine (p : Program) : IO Text.Line := do
  let input ← IO.getStdin
  if ← input.isTty then write [.out p.invitation]
  return (Text.Line.read (← readBytes input [])).1

/-! ### The network -/

/-- The addresses of a host. -/
def addresses (host : String) : Async (List Std.Net.IPAddr) := do
  let name := ((host.dropPrefix "[").toString.dropSuffix "]").toString
  return (← DNS.getAddrInfo name "").toList

/-- The place of a port at an address. -/
def place (address : Std.Net.IPAddr) (port : Nat) : Std.Net.SocketAddress :=
  match address with
  | .v4 a => .v4 ⟨a, UInt16.ofNat port⟩
  | .v6 a => .v6 ⟨a, UInt16.ofNat port⟩

/-- A connection to the first address that answers. -/
def connectTo (port : Nat) : List Std.Net.IPAddr → Async TCP.Socket.Client
  | [] => throw (.userError "no address answers")
  | [a] => do
    let socket ← TCP.Socket.Client.mk
    socket.connect (place a port)
    return socket
  | a :: rest => do
    try
      let socket ← TCP.Socket.Client.mk
      socket.connect (place a port)
      return socket
    catch _ => connectTo port rest

/-- The second that it is now. -/
def clock : IO Int := return (← Std.Time.Timestamp.now).toSecondsSinceUnixEpoch.val

/-- Reads until nothing that may come changes the answer, or the peer hangs up. What has come so
far is in `heard`. -/
partial def readAnswer (socket : TCP.Socket.Client) (heard : IO.Ref (Option Bytes)) :
    Async Bytes := do
  let done := (← heard.get).getD []
  if (Http.Arrival.of done).isSettled then return done
  match ← socket.recv? 65536 with
  | none => return done
  | some more =>
    heard.set (some (done ++ more.toList))
    readAnswer socket heard

/-- Why the network failed, from what the system says. -/
def networkError : IO.Error → TransportError
  | .noSuchThing _ _ "connection refused" => .io "Connection refused (os error 111)"
  | e => .io (toString e)

/-- Sends a request and reads the bytes of its answer. There is something in `heard` as soon as
there is a connection. -/
def carry (t : Transport) (route : Route) (r : Http.Request) (heard : IO.Ref (Option Bytes)) :
    Async (Except TransportError Bytes) := do
  let socket ← connectTo route.port (← addresses route.host)
  if route.peer?.isSome then
    return .error (.tlsHandshake "encryption is not available")
  match t.compose (← clock) route r with
  | .error e => return .error e
  | .ok written =>
    heard.set (some [])
    socket.send ⟨written.bytes.toArray⟩
    return .ok (← readAnswer socket heard)

/-- Gives up after some seconds. -/
def within (seconds : UInt64) (work : Async (Except TransportError Bytes)) :
    Async (Except TransportError Bytes) :=
  Async.race work do
    sleep (.ofNat (seconds.toNat * 1000))
    return .error .timeout

/-- Sends a request and receives its answer, or what has come of it until it broke off. -/
def exchange (t : Transport) (r : Http.Request) :
    IO (Transport × Except TransportError Http.Response) := do
  match t.route r with
  | .error e => return (t, .error e)
  | .ok route =>
    let heard ← IO.mkRef (none : Option Bytes)
    try
      match ← (within t.http.requestTimeout (carry t route r heard)).block with
      | .ok b => return t.receive (← clock) route b
      | .error .timeout =>
        return t.interrupt (← clock) route ((← heard.get).getD []) .timeout
      | .error e => return (t, .error e)
    catch e =>
      match ← heard.get with
      | none => return (t, .error (networkError e))
      | some b => return t.interrupt (← clock) route b (.failure (toString e))

/-! ### The run -/

/-- Carries out a run to its end, and gives its code. -/
partial def carryOut (t : Transport) : Advance → IO UInt32
  | (output, .ended code) => do
    write output
    return UInt32.ofNat code
  | (output, .waiting p) => do
    write output
    match p.wait with
    | .answer r =>
      let (t, outcome) ← exchange t r
      carryOut t (p.answer outcome)
    | _ =>
      let line ← readLine p
      match p.file? line with
      | none => carryOut t (p.enter line)
      | some path => carryOut t ((p.withDisk (← readFiles [path])).enter line)

end Courier.Main

open Courier in
/-- Runs the program with the words of a command line. -/
def main (words : List String) : IO UInt32 := do
  let colored := (← (← IO.getStdout).isTty) && (← IO.getEnv "NO_COLOR").isNone
  let interactive ← (← IO.getStderr).isTty
  let empty : Surroundings :=
    ⟨← Main.readFiles [], ← Main.readEnvironment, colored, interactive⟩
  let named := { empty with disk := ← Main.readFiles (empty.files words) }
  let complete := { empty with disk := ← Main.readFiles (named.files words) }
  let (advance, transport) := complete.run words
  Main.carryOut transport advance
