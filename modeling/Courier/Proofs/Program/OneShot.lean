import Courier.Program
import Courier.Proofs.Session.Solo

/-!
# `Courier.Proofs.Program.OneShot`: the run of one command

A command that is carried out on its own has one call at most, and the call is alone in its session.
The program waits for one input after the other, a line of the operator or the answer to a request
(`Program.take?`), until the command has succeeded or failed. `Program.failure?` says which inputs
it fails with, and why.

Between two inputs the program is in one of four stages (`Program.Stage`): the call has not begun,
or its session is in one of the states of `Courier.Proofs.Session.Solo`. Here is what the stages
have in common: what is written of the events of the call (`Program.follow_end`), and how a command
begins (`Program.stage_begin`).
-/

set_option autoImplicit false

namespace Courier

/-- What a program that waits is given. -/
inductive Input where
  /-- What the operator enters. -/
  | line (entered : Text.Line)
  /-- The answer to a request. -/
  | answer (outcome : Except TransportError Http.Response)

/-- Whether an input is an answer that demands a login. -/
def Input.demandsLogin : Input → Bool
  | .line _ => false
  | .answer outcome => Courier.demandsLogin outcome

/-- Why a call has failed, if this is the end of one that has. -/
def Event.failure? : Event → Option CallError
  | .ended _ (.error cause) => some cause
  | _ => none

/-- What is written of an event, unless it is a question or the end. -/
def Event.written (desk : Desk) : Event → List Output
  | .loading _ visible => [.err (Terminal.loading desk.interactive desk.colored visible)]
  | .notice _ _ told => [.err (Terminal.noticeLine desk.colored told ++ "\n")]
  | _ => []

/-- What is printed of a failure. -/
def Failure.printed (colored : Bool) (f : Failure) : List Output :=
  ((f.report? colored).map fun s => Output.err (s ++ "\n")).toList

/-- Whether the call of an operation logs in. -/
def Operation.authenticates (api : Api) : Operation → Bool
  | .call _ endpoint _ => decide (endpoint = api.authEndpoint)
  | .login _ => true

namespace Program

/-- Goes on with an input, if it is one that the program waits for. -/
def take? (p : Program) : Input → Option Advance
  | .line line =>
    match p.wait with
    | .answer _ => none
    | _ => some (p.enter line)
  | .answer outcome =>
    match p.wait with
    | .answer _ => some (p.answer outcome)
    | _ => none

/-- What the session of a program is told when the program takes an input. -/
def signal? (p : Program) : Input → Option Signal
  | .answer outcome => some (.answer p.task outcome)
  | .line (.text s) =>
    match p.wait with
    | .password .refused user => some (.credentials p.task (some ⟨user, s⟩))
    | .password _ user =>
      some (.start ⟨p.task, 0, p.desk.dispatcher,
        (Credentials.mk user s).login p.desk.dispatcher.api.authEndpoint, true⟩)
    | _ => none
  | .line _ =>
    match p.wait with
    | .user .refused => some (.credentials p.task none)
    | .password .refused _ => some (.credentials p.task none)
    | _ => none

/-- Why the command fails when the program takes an input, with what its call lets be seen then: the
call has failed, the operator has not logged in, or there is no password. -/
def failure? (p : Program) (input : Input) : Option (List Event × Failure) :=
  match p.signal? input with
  | some signal =>
    match p.work.advance? signal with
    | some (_, events) =>
      (events.findSome? (·.failure?)).map fun cause => (events, .call cause)
    | none => none
  | none =>
    match p.wait, input with
    | _, .line (.text _) => none
    | .user .command, .line _ => some ([], .call .abandoned)
    | .password .command _, .line _ => some ([], .call .abandoned)
    | .password .named _, .line line => some ([], failureOf line)
    | _, _ => none

/-- The runs of an operation: the inputs so far, the last one first, and what the last one has led
to. -/
inductive OneShot (disk : Disk) (colored interactive : Bool) (c : Config) (op : Operation) :
    List Input → Advance → Prop
  | begun : OneShot disk colored interactive c op []
      (Program.begin disk colored interactive c (some op))
  | went {inputs : List Input} {os : List Output} {p : Program} {input : Input} {a : Advance}
      (hrun : OneShot disk colored interactive c op inputs (os, .waiting p))
      (htake : p.take? input = some a) : OneShot disk colored interactive c op (input :: inputs) a

/-! ### What is written of a stretch -/

section
variable {p : Program} {input : Input} {signal : Signal} {work : Workload} {events : List Event}

/-- Notices are written, and the program follows the rest. -/
theorem follow_notices (p : Program) (front task : Nat) (notices : List Notice)
    (rest : List Event) :
    p.follow (notices.map (.notice front task ·) ++ rest) =
      after ((notices.map (Event.notice front task)).flatMap (·.written p.desk))
        (p.follow rest) := by
  induction notices with
  | nil => rfl
  | cons notice notices ih =>
    rw [List.map_cons, List.cons_append, follow, ih, List.flatMap_cons]
    simp only [after, Event.written, List.append_assoc]

/-- A signal moves the work on, and the program follows. -/
theorem signal_eq {w : Workload} (desk : Desk) (task : Nat) (goal : Goal) (wait : Wait)
    (hadvance : w.advance? signal = some (work, events)) :
    Program.signal ⟨desk, w, task, goal, wait⟩ signal =
      follow ⟨desk, work, task, goal, wait⟩ events := by
  rw [Program.signal]
  dsimp only
  rw [hadvance]

/-- As long as the call goes on, nothing has failed. -/
theorem failure?_eq_none (hsignal : p.signal? input = some signal)
    (hadvance : p.work.advance? signal = some (work, events))
    (hnone : events.findSome? (·.failure?) = none) : p.failure? input = none := by
  unfold failure?
  rw [hsignal]
  dsimp only
  rw [hadvance]
  dsimp only
  rw [hnone]
  rfl

/-- When the call has failed, the command has. -/
theorem failure?_eq_some {cause : CallError} (hsignal : p.signal? input = some signal)
    (hadvance : p.work.advance? signal = some (work, events))
    (hcause : events.findSome? (·.failure?) = some cause) :
    p.failure? input = some (events, .call cause) := by
  unfold failure?
  rw [hsignal]
  dsimp only
  rw [hadvance]
  dsimp only
  rw [hcause]
  rfl

/-- A command on its own that fails ends with what is printed of the failure. -/
theorem conclude_error (p : Program) (hconsole : p.desk.isConsole = false) (f : Failure) :
    p.conclude (.error f) = (f.printed p.desk.colored, .ended 1) := by
  rw [conclude, hconsole]
  rfl

/-- A text that comes of a command is written, and the program ends well. -/
theorem conclude_ok (p : Program) (hconsole : p.desk.isConsole = false) (text : String) :
    p.conclude (.ok text) = ([.out (text ++ "\n")], .ended 0) := by
  rw [conclude, hconsole]
  rfl

/-- A login that the operator has asked for and then given up is a failure. -/
theorem dismissed_command (hconsole : p.desk.isConsole = false) (reason : Failure) :
    p.dismissed .command reason =
      ((Failure.call .abandoned).printed p.desk.colored, .ended 1) := by
  unfold dismissed
  dsimp only
  rw [if_neg (by rw [hconsole]; exact nofun), conclude_error p hconsole]

/-- It ends well if its call does. -/
theorem concludeCall_ok (hconsole : p.desk.isConsole = false) (body : Value) :
    (p.concludeCall (.ok body)).2 = .ended 0 := by
  have hok : ∀ text, ({ p with task := p.task + 1 }.conclude (.ok text)).2 = .ended 0 := fun text =>
    congrArg Prod.snd (conclude_ok { p with task := p.task + 1 } hconsole text)
  unfold concludeCall
  split
  · exact hok _
  · exact hok _

/-- It fails if its call does. -/
theorem concludeCall_error (hconsole : p.desk.isConsole = false) (cause : CallError) :
    p.concludeCall (.error cause) = ((Failure.call cause).printed p.desk.colored, .ended 1) := by
  have herror : { p with task := p.task + 1 }.conclude (.error (.call cause)) =
      ((Failure.call cause).printed p.desk.colored, .ended 1) :=
    conclude_error { p with task := p.task + 1 } hconsole _
  unfold concludeCall
  split
  · exact herror
  · exact herror

end

/-! ### The stages of a command -/

/-- A call of the program as it is set up: with the standard codec, and with an operator to ask. -/
structure IsCall (e : Errand) (authenticates : Bool) : Prop where
  codec : e.dispatcher.codec = .standard
  attended : e.dispatcher.attended = true
  authenticates : e.authenticates = authenticates

/-- A call that logs in is armed from the beginning. -/
theorem IsCall.armed {e : Errand} {authenticates : Bool} (h : IsCall e authenticates)
    (hlogin : authenticates = true) (asked : Bool) :
    e.authenticates = (authenticates || asked) := by
  rw [h.authenticates, hlogin, Bool.true_or]

/-- Between two inputs a command has not called yet, or its call waits for an answer to its request,
is in its dialog, or waits for the answer to a login out of the dialog. -/
inductive Stage (desk : Desk) (site : ActiveSite) (authenticates asked : Bool) : Program → Prop
  | notCalled {wait : Wait} (hlogin : authenticates = true)
      (hwait : wait = .user .command ∨ (∃ user, wait = .password .command user) ∨
        ∃ user, wait = .password .named user) :
      Stage desk site authenticates asked ⟨desk, .atRest site 0, 0, .body, wait⟩
  | sending {e : Errand} {generation : Nat} {armed : Bool} {goal : Goal} {request : Http.Request}
      (hcall : IsCall e authenticates) (harmed : armed = (authenticates || asked)) :
      Stage desk site authenticates asked
        ⟨desk, e.soloSending site generation armed, e.task, goal, .answer request⟩
  | prompting {e : Errand} {generation : Nat} {marked : Bool} {goal : Goal} {wait : Wait}
      (hcall : IsCall e authenticates) (hasked : asked = true)
      (hwait : wait = .user .refused ∨ ∃ user, wait = .password .refused user) :
      Stage desk site authenticates asked
        ⟨desk, e.soloDialog site generation marked .prompting, e.task, goal, wait⟩
  | loggingIn {e : Errand} {generation : Nat} {goal : Goal} {request : Http.Request}
      (hcall : IsCall e authenticates) (hasked : asked = true) :
      Stage desk site authenticates asked
        ⟨desk, e.soloDialog site generation true .loggingIn, e.task, goal, .answer request⟩

/-! ### How a call begins, and how it ends -/

section
variable {disk : Disk} {desk : Desk} {site : ActiveSite} {authenticates : Bool} {p : Program}
  {op : Operation}

/-- Notices are no failure. -/
theorem findSome?_notices (front task : Nat) (notices : List Notice) (rest : List Event) :
    (notices.map (Event.notice front task ·) ++ rest).findSome? (·.failure?) =
      rest.findSome? (·.failure?) := by
  induction notices with
  | nil => rfl
  | cons notice notices ih => exact ih

/-- The end of a call, with notices before it, is the end of the command. -/
theorem follow_end (hconsole : p.desk.isConsole = false) (e : Errand) (notices : List Notice)
    (cause : CallError) :
    p.follow (notices.map (Event.notice e.front e.task ·) ++ e.soloEnd (.error cause)) =
      ((notices.map (Event.notice e.front e.task ·) ++ e.soloEnd (.error cause)).flatMap
        (·.written p.desk) ++ (Failure.call cause).printed p.desk.colored, .ended 1) := by
  rw [follow_notices, Errand.soloEnd, follow, follow, concludeCall_error hconsole]
  simp only [after, List.flatMap_append, List.flatMap_cons, List.flatMap_nil, Event.written,
    List.append_nil, List.append_assoc]

/-- The call of a command. -/
def callOf (desk : Desk) (call : Call) (isLogin : Bool) : Errand :=
  ⟨0, 0, desk.dispatcher, call, isLogin⟩

/-- A call begins by sending its request. -/
theorem launch_eq (desk : Desk) (site : ActiveSite) (hcodec : desk.dispatcher.codec = .standard)
    (wait : Wait) (call : Call) (isLogin : Bool) (goal : Goal) :
    ∃ request,
      (Workload.atRest site 0).advance? (.start (callOf desk call isLogin)) =
        some
          ((callOf desk call isLogin).soloSending site 0 (callOf desk call isLogin).authenticates,
            [.loading 0 true, .sent 0 request]) ∧
      (launch ⟨desk, .atRest site 0, 0, .body, wait⟩ call isLogin goal).2 =
        .waiting ⟨desk, (callOf desk call isLogin).soloSending site 0
          (callOf desk call isLogin).authenticates, 0, goal, .answer request⟩ := by
  obtain ⟨request, hrequest⟩ := desk.dispatcher.api.exists_request site.id? call
  rw [← hcodec] at hrequest
  have hadvance : (Workload.atRest site 0).advance? (.start (callOf desk call isLogin)) = _ :=
    Errand.advance?_start hrequest
  refine ⟨request, hadvance, ?_⟩
  rw [launch]
  exact congrArg Prod.snd (signal_eq desk 0 goal wait hadvance)

/-- A login of the program is a call that logs in. -/
theorem isCall_login (hcodec : desk.dispatcher.codec = .standard)
    (hattended : desk.dispatcher.attended = true) (hlogin : authenticates = true)
    (c : Credentials) :
    IsCall (callOf desk (c.login desk.dispatcher.api.authEndpoint) true) authenticates where
  codec := hcodec
  attended := hattended
  authenticates := by
    rw [hlogin]
    exact decide_eq_true rfl

/-- The desk at which one command is carried out. -/
def deskOf (disk : Disk) (colored interactive : Bool) (c : Config) : Desk :=
  ⟨disk, colored, interactive, { api := c.api }, false⟩

/-- A command begins by carrying out its plan in a session at rest. -/
theorem begin_eq (disk : Disk) (colored interactive : Bool) (c : Config) (op : Operation) :
    Program.begin disk colored interactive c (some op) =
      carryOut ⟨deskOf disk colored interactive c, .atRest { id := c.siteId } 0, 0, .body, .line⟩
        (op.plan disk) := rfl

/-- What a command does first is to send the request of its call, or to ask for credentials. -/
theorem stage_begin (colored interactive : Bool) (c : Config) {plan : Plan}
    (h : op.plan disk = .ok plan) :
    ∃ p, (Program.begin disk colored interactive c (some op)).2 = .waiting p ∧
      Stage (deskOf disk colored interactive c) { id := c.siteId } (op.authenticates c.api) false
        p := by
  rw [begin_eq, h]
  -- every operation but a login is a call that begins at once
  have hsend : ∀ (method : Method) (endpoint : String) (payload? : Option Value),
      decide (endpoint = c.api.authEndpoint) = op.authenticates c.api →
      plan = .send ⟨method, endpoint, payload?⟩ →
      ∃ p, (carryOut ⟨deskOf disk colored interactive c, .atRest { id := c.siteId } 0, 0, .body,
          .line⟩ (.ok plan)).2 = .waiting p ∧
        Stage (deskOf disk colored interactive c) { id := c.siteId } (op.authenticates c.api)
          false p := by
    rintro method endpoint payload? hauthenticates rfl
    obtain ⟨request, -, hlaunch⟩ := launch_eq (deskOf disk colored interactive c)
      { id := c.siteId } rfl .line ⟨method, endpoint, payload?⟩ false .body
    exact ⟨_, hlaunch, .sending ⟨rfl, rfl, hauthenticates⟩
      (hauthenticates.trans (Bool.or_false _).symm)⟩
  cases op with
  | login user? =>
    cases h
    cases user? with
    | none => exact ⟨_, rfl, .notCalled rfl (.inl rfl)⟩
    | some user => exact ⟨_, rfl, .notCalled rfl (.inr (.inr ⟨user, rfl⟩))⟩
  | call method endpoint data? =>
    cases data? with
    | none =>
      cases h
      exact hsend method endpoint none rfl rfl
    | some data =>
      cases hpayload : Payload.ofArgument disk data with
      | error cause =>
        rw [Operation.plan, hpayload] at h
        exact nomatch h
      | ok payload =>
        rw [Operation.plan, hpayload] at h
        cases h
        exact hsend method endpoint (some payload) rfl rfl

end

end Program

end Courier
