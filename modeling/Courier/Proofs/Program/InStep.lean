import Courier.Proofs.Console
import Courier.Proofs.Program.OneShot

/-!
# `Courier.Proofs.Program.InStep`: a line of the console does what a command does

An operation can be asked for on the command line, and then it is all that the program does, or in a
line of the console, which goes on to the next line afterwards. Both are carried out in the same
way.

To compare them, a `Proceeding` keeps account of an operation from its beginning: what it has made
of the session, what has been seen of its call, the requests among it, and what has been written.
Two accounts are in step (`InStep`) if nothing tells them apart as long as the call is under way,
and if they come to the same result when it is over. Then they differ only in how the result is
shown and how the run goes on (`Program.conclude`).

The accounts are in step after every input (`InStep.take`), because the desk decides nothing before
the end. They are in step at the beginning because the line has the plan of the operation
(`Console.plan_of_callLine`), so they are in step throughout (`line_in_step`).
-/

set_option autoImplicit false

namespace Courier

/-- Whether a program that waits has a call under way. -/
def Wait.inCall : Wait → Bool
  | .answer _ => true
  | .user .refused => true
  | .password .refused _ => true
  | _ => false

/-- Whether an event says what a program waits for, or that it has nothing to wait for. -/
def Event.engages : Event → Bool
  | .sent _ _ => true
  | .asked _ _ => true
  | .ended _ _ => true
  | _ => false

/-- How far an operation has come: what it has made of the session, what has been seen of its call,
what has been written, and how the run goes on. -/
structure Proceeding where
  work : Workload
  events : List Event
  written : List Output
  progress : Progress

namespace Program

/-- The same program, at a desk where one command is carried out. -/
def alone (p : Program) : Program := { p with desk := { p.desk with isConsole := false } }

/-- What a signal makes of the session, and what is seen of it. -/
def told (p : Program) (signal? : Option Signal) : Workload × List Event :=
  (signal?.bind p.work.advance?).getD (p.work, [])

/-- What the session is told first when a plan is carried out. -/
def firstSignal? (p : Program) : Except Failure Plan → Option Signal
  | .ok (.send call) => some (.start ⟨p.task, 0, p.desk.dispatcher, call, false⟩)
  | .ok (.switch site _) => some (.switch site)
  | _ => none

/-- A program begins to carry out a plan. -/
def undertake (p : Program) (plan : Except Failure Plan) : Proceeding :=
  let (work, events) := p.told (p.firstSignal? plan)
  let (written, progress) := p.carryOut plan
  ⟨work, events, written, progress⟩

/-- A program begins with a line of the operator. -/
def takeUp (p : Program) (line : String) : Proceeding :=
  let plan := Console.plan p.desk.disk p.desk.colored p.work.session.site (Text.trim line)
  let (work, events) := p.told (p.firstSignal? plan)
  let (written, progress) := p.enter (.text line)
  ⟨work, events, written, progress⟩

end Program

namespace Proceeding

/-- The operation goes on with an input, as long as its call is under way. -/
def take (s : Proceeding) (input : Input) : Proceeding :=
  match s.progress with
  | .ended _ => s
  | .waiting p =>
    if p.wait.inCall then
      match p.take? input with
      | none => s
      | some (written, progress) =>
        let (work, events) := p.told (p.signal? input)
        ⟨work, s.events ++ events, s.written ++ written, progress⟩
    else s

/-- The operation goes on with one input after another. -/
def under (s : Proceeding) (inputs : List Input) : Proceeding := inputs.foldl take s

end Proceeding

namespace Program

/-- What a plan has come to: there is no plan, so that nothing has happened, or its call has
ended. -/
def ComesTo (plan : Except Failure Plan) (events : List Event) (result : Except Failure String) :
    Prop :=
  (∃ f, plan = .error f ∧ events = [] ∧ result = .error f) ∨
    ∃ task outcome, .ended task outcome ∈ events ∧ result = Plan.bodyShown outcome

/-- A console and a program with one command have come equally far with a plan. -/
inductive InStep (plan : Except Failure Plan) : Proceeding → Proceeding → Prop
  /-- Both wait for the same. -/
  | waiting {p : Program} {events : List Event} {written : List Output}
      (console : p.desk.isConsole = true) (goal : p.goal = .body) (inCall : p.wait.inCall = true) :
      InStep plan ⟨p.work, events, written, .waiting p⟩ ⟨p.work, events, written, .waiting p.alone⟩
  /-- Both have come to the same result, and each shows it in its own way. -/
  | ended {p : Program} {events : List Event} {written : List Output}
      {result : Except Failure String} (console : p.desk.isConsole = true)
      (reason : ComesTo plan events result) :
      InStep plan ⟨p.work, events, written ++ (p.conclude result).1, (p.conclude result).2⟩
        ⟨p.work, events, written ++ (p.alone.conclude result).1, (p.alone.conclude result).2⟩

section
variable {plan : Except Failure Plan} {p : Program} {s t : Proceeding}

/-! ### What a signal leads to -/

/-- Programs that show the same events stay in step. If no call is under way before them, the events
say what the programs wait for. -/
theorem InStep.follow (hconsole : p.desk.isConsole = true) (hgoal : p.goal = .body)
    {seen : List Event} (written : List Output) (events : List Event)
    (hseen : ∀ event ∈ events, event ∈ seen)
    (hnext : p.wait.inCall = true ∨ events.any (·.engages) = true) :
    InStep plan ⟨p.work, seen, written ++ (p.follow events).1, (p.follow events).2⟩
      ⟨p.work, seen, written ++ (p.alone.follow events).1, (p.alone.follow events).2⟩ := by
  induction events generalizing p written with
  | nil =>
    have hcall : p.wait.inCall = true := hnext.resolve_right nofun
    exact .waiting hconsole hgoal hcall
  | cons event rest ih =>
    have hrest : ∀ event ∈ rest, event ∈ seen := fun e he => hseen e (List.mem_cons_of_mem _ he)
    cases event with
    | loading front visible =>
      have hlater := ih hconsole hgoal
        (written ++ [.err (Terminal.loading p.desk.interactive p.desk.colored visible)]) hrest hnext
      rw [List.append_assoc, List.append_assoc] at hlater
      exact hlater
    | notice front task notice =>
      have hlater := ih hconsole hgoal
        (written ++ [.err (Terminal.noticeLine p.desk.colored notice ++ "\n")]) hrest hnext
      rw [List.append_assoc, List.append_assoc] at hlater
      exact hlater
    | sent task request =>
      have hcall : Wait.inCall (.answer request) = true := rfl
      let sending : Program := { p with wait := .answer request }
      exact ih (p := sending) hconsole hgoal written hrest (.inl hcall)
    | asked task lastError =>
      let asking : Program := { p with wait := .user .refused }
      exact InStep.waiting (p := asking) hconsole hgoal rfl
    | ended task outcome =>
      -- the goal is to show the body, so the result is what is shown of it
      obtain ⟨desk, work, number, goal, wait⟩ := p
      obtain rfl : goal = .body := hgoal
      have hended : ComesTo plan seen (Plan.bodyShown outcome) :=
        .inr ⟨task, outcome, hseen _ List.mem_cons_self, rfl⟩
      let next : Program := ⟨desk, work, number + 1, .body, wait⟩
      exact InStep.ended (p := next) hconsole hended

/-- Programs that go on with the same signal stay in step. A call is under way after the signal if
there was one before it, or if the signal begins one. -/
theorem InStep.signal (hconsole : p.desk.isConsole = true) (hgoal : p.goal = .body)
    (seen : List Event) (written : List Output) (signal : Signal)
    (hnext : p.wait.inCall = true ∨ (p.told (some signal)).2.any (·.engages) = true) :
    InStep plan
      ⟨(p.told (some signal)).1, seen ++ (p.told (some signal)).2, written ++ (p.signal signal).1,
        (p.signal signal).2⟩
      ⟨(p.told (some signal)).1, seen ++ (p.told (some signal)).2,
        written ++ (p.alone.signal signal).1, (p.alone.signal signal).2⟩ := by
  have halone : p.alone.work = p.work := rfl
  unfold Program.signal
  rw [halone]
  cases hadvance : p.work.advance? signal with
  | none =>
    -- the call does not wait for this signal, so nothing happens
    have htold : p.told (some signal) = (p.work, []) := by
      rw [told, Option.bind_some, hadvance, Option.getD_none]
    rw [htold] at hnext ⊢
    have hcall : p.wait.inCall = true := hnext.resolve_right nofun
    exact .waiting hconsole hgoal hcall
  | some result =>
    obtain ⟨work, events⟩ := result
    have htold : p.told (some signal) = (work, events) := by
      rw [told, Option.bind_some, hadvance, Option.getD_some]
    rw [htold] at hnext ⊢
    let moved : Program := { p with work := work }
    have hseen : ∀ event ∈ events, event ∈ seen ++ events :=
      fun e he => List.mem_append_right seen he
    exact InStep.follow (p := moved) hconsole hgoal written events hseen hnext

/-! ### What an input leads to -/

/-- A call under way does not wait for the input, or the operator is asked for more, or the session
is told something. The desk has no say in this. -/
theorem take?_inCall (hcall : p.wait.inCall = true) (input : Input) :
    (p.take? input = none ∧ p.alone.take? input = none) ∨
    (∃ wait, wait.inCall = true ∧ p.signal? input = none ∧
      p.take? input = some ([], .waiting { p with wait := wait }) ∧
      p.alone.take? input = some ([], .waiting { p.alone with wait := wait })) ∨
    ∃ os signal, p.signal? input = some signal ∧
      p.take? input = some (after os (p.signal signal)) ∧
      p.alone.take? input = some (after os (p.alone.signal signal)) := by
  obtain ⟨desk, work, task, goal, wait⟩ := p
  -- inside a call the program waits for an answer, or for a dialog that a refusal has opened
  cases wait with
  | line => exact nomatch hcall
  | answer request =>
    cases input with
    | line entered => exact .inl ⟨rfl, rfl⟩
    | answer outcome => exact .inr (.inr ⟨[], .answer task outcome, rfl, rfl, rfl⟩)
  | user occasion =>
    cases occasion with
    | command => exact nomatch hcall
    | named => exact nomatch hcall
    | refused =>
      cases input with
      | answer outcome => exact .inl ⟨rfl, rfl⟩
      | line entered =>
        cases entered with
        | text name =>
          exact .inr (.inl ⟨.password .refused (Text.trim name), rfl, rfl, rfl, rfl⟩)
        | ended => exact .inr (.inr ⟨[], .credentials task none, rfl, rfl, rfl⟩)
        | notText => exact .inr (.inr ⟨[], .credentials task none, rfl, rfl, rfl⟩)
  | password occasion user =>
    cases occasion with
    | command => exact nomatch hcall
    | named => exact nomatch hcall
    | refused =>
      cases input with
      | answer outcome => exact .inl ⟨rfl, rfl⟩
      | line entered =>
        cases entered with
        | text pass =>
          exact .inr (.inr ⟨[.err (Terminal.dialogAccepted desk.colored .standard)],
            .credentials task (some ⟨user, pass⟩), rfl, rfl, rfl⟩)
        | ended => exact .inr (.inr ⟨[], .credentials task none, rfl, rfl, rfl⟩)
        | notText => exact .inr (.inr ⟨[], .credentials task none, rfl, rfl, rfl⟩)

/-- When a console has shown a result, it waits for another line. -/
theorem conclude_console (hconsole : p.desk.isConsole = true) (result : Except Failure String) :
    (p.conclude result).2 = .waiting { p with wait := .line } := by
  unfold conclude
  rw [if_pos hconsole]

/-- When a command on its own has come to a result, the run is over. -/
theorem conclude_alone (p : Program) (result : Except Failure String) :
    ∃ code, (p.alone.conclude result).2 = .ended code := by
  cases result with
  | ok text => exact ⟨0, congrArg Prod.snd (conclude_ok p.alone rfl text)⟩
  | error f => exact ⟨1, congrArg Prod.snd (conclude_error p.alone rfl f)⟩

section
variable {work : Workload} {events : List Event} {written : List Output} {input : Input}

/-- Input that a program does not take changes nothing. -/
theorem take_of_none (h : p.take? input = none) :
    (⟨work, events, written, .waiting p⟩ : Proceeding).take input =
      ⟨work, events, written, .waiting p⟩ := by
  rw [Proceeding.take]
  dsimp only
  rw [h]
  split <;> rfl

/-- Input that it takes in a call moves the call, and what is seen of it is written. -/
theorem take_of_some (hcall : p.wait.inCall = true) {a : Advance} (h : p.take? input = some a) :
    (⟨work, events, written, .waiting p⟩ : Proceeding).take input =
      ⟨(p.told (p.signal? input)).1, events ++ (p.told (p.signal? input)).2, written ++ a.1,
        a.2⟩ := by
  rw [Proceeding.take]
  dsimp only
  rw [if_pos hcall, h]

end

/-- Accounts in step are in step after any input. -/
theorem InStep.take (h : InStep plan s t) (input : Input) :
    InStep plan (s.take input) (t.take input) := by
  cases h with
  | @waiting p events written console goal inCall =>
    have inCall' : p.alone.wait.inCall = true := inCall
    obtain ⟨hnone, hnone'⟩ | ⟨wait, hwait, hquiet, hsome, hsome'⟩ |
      ⟨os, signal, hsignal, hsome, hsome'⟩ := take?_inCall inCall input
    · rw [take_of_none hnone, take_of_none hnone']
      exact .waiting console goal inCall
    · have hquiet' : p.alone.signal? input = none := hquiet
      rw [take_of_some inCall hsome, take_of_some inCall' hsome', hquiet, hquiet']
      let asked : Program := { p with wait := wait }
      exact InStep.waiting (p := asked) console goal hwait
    · have hsignal' : p.alone.signal? input = some signal := hsignal
      have hon : InStep plan _ _ :=
        InStep.signal console goal events (written ++ os) signal (.inl inCall)
      rw [take_of_some inCall hsome, take_of_some inCall' hsome', hsignal, hsignal']
      rw [List.append_assoc, List.append_assoc] at hon
      exact hon
  | @ended p events written result console reason =>
    obtain ⟨code, hcode⟩ := conclude_alone p result
    -- neither of them takes an input any more
    have hstays : InStep plan ⟨p.work, events, written ++ (p.conclude result).1, _⟩
        ⟨p.work, events, written ++ (p.alone.conclude result).1, _⟩ := .ended console reason
    rw [conclude_console console, hcode] at hstays ⊢
    exact hstays

/-- So they are in step after any inputs. -/
theorem InStep.under (h : InStep plan s t) (inputs : List Input) :
    InStep plan (s.under inputs) (t.under inputs) := by
  induction inputs generalizing s t with
  | nil => exact h
  | cons input rest ih => exact ih (h.take input)

/-! ### How an operation begins -/

/-- A call that begins sends its request, or ends if it has none. -/
theorem start_engages (e : Errand) (session : Session) :
    (e.start session).events.any (·.engages) = true := by
  have hsend : ∀ (armed : Bool) (session : Session),
      (e.send armed session).events.any (·.engages) = true := by
    intro armed session
    unfold Errand.send
    cases e.dispatcher.api.request e.dispatcher.codec session.site.id? e.call with
    | ok request => rfl
    | error cause =>
      show (((e.depart (session.mark false)).2 ++ [Event.ended e.task _]).any (·.engages)) = true
      rw [List.any_append, List.any_cons, Event.engages, Bool.true_or, Bool.or_true]
  show ((if session.inFlight = 0 then [Event.loading e.front true] else []) ++
    (e.send _ _).events).any (·.engages) = true
  rw [List.any_append, hsend, Bool.or_true]

/-- So does the start of a call in a program. -/
theorem told_start_engages (p : Program) (e : Errand) :
    (p.told (some (.start e))).2.any (·.engages) = true := by
  show ((e.start p.work.session).events ++ _).any (·.engages) = true
  rw [List.any_append, start_engages, Bool.true_or]

/-- With a plan to send a call, and with none, a console and a program with one command begin in
step. -/
theorem InStep.undertake (hconsole : p.desk.isConsole = true)
    (hplan : (∃ f, plan = .error f) ∨ ∃ call, plan = .ok (.send call)) :
    InStep plan (p.undertake plan) (p.alone.undertake plan) := by
  rcases hplan with ⟨f, rfl⟩ | ⟨call, rfl⟩
  · have hnothing : ComesTo (.error f) [] (.error f) := .inl ⟨f, rfl, rfl, rfl⟩
    have hended : InStep (.error f) ⟨p.work, [], [] ++ (p.conclude (.error f)).1, _⟩
        ⟨p.work, [], [] ++ (p.alone.conclude (.error f)).1, _⟩ := .ended hconsole hnothing
    exact hended
  · let begun : Program := { p with goal := .body }
    exact InStep.signal (p := begun) hconsole rfl [] []
      (.start ⟨p.task, 0, p.desk.dispatcher, call, false⟩) (.inr (told_start_engages begun _))

/-- The plan of a call is to send it, if there is one. -/
theorem plan_call_cases (disk : Disk) (method : Method) (endpoint : String)
    (data? : Option String) :
    (∃ f, (Operation.call method endpoint data?).plan disk = .error f) ∨
      ∃ call, (Operation.call method endpoint data?).plan disk = .ok (.send call) := by
  cases data? with
  | none => exact .inr ⟨_, rfl⟩
  | some data =>
    rw [Operation.plan]
    cases Payload.ofArgument disk data with
    | error f => exact .inl ⟨f, rfl⟩
    | ok payload => exact .inr ⟨_, rfl⟩

/-- A line without blanks at its ends is carried out by its plan. -/
theorem enter_line (hwait : p.wait = .line) {line : String} (hline : Text.IsContent line) :
    p.enter (.text line) =
      p.carryOut (Console.plan p.desk.disk p.desk.colored p.work.session.site line) := by
  have hcarry : p.enter (.text line) = p.carryOutLine line := by
    unfold enter
    rw [hwait]
  rw [hcarry, carryOutLine, hline.trim_eq, if_neg (by simpa using hline.nonempty)]

/-- A line that has content is carried out as its plan. -/
theorem takeUp_eq (hwait : p.wait = .line) {line : String} (hline : Text.IsContent line) :
    p.takeUp line =
      p.undertake (Console.plan p.desk.disk p.desk.colored p.work.session.site line) := by
  unfold takeUp undertake
  rw [hline.trim_eq, enter_line hwait hline]

end

/-- A console that takes up the line of a call, in whatever session, and a program with that call as
its one command are in step under any answers and any entries of the operator: the same is sent, the
session is left the same, and the result is the same. And a line with a text to encode has the
result of the command that encodes it. -/
theorem line_in_step (p : Program) (hconsole : p.desk.isConsole = true) (hwait : p.wait = .line) :
    (∀ (method : Method) (endpoint : String) (data? : Option String) (line : String),
      Console.CallLine method endpoint data? line → ∀ inputs : List Input,
        InStep ((Operation.call method endpoint data?).plan p.desk.disk)
          ((p.takeUp line).under inputs)
          ((p.alone.undertake ((Operation.call method endpoint data?).plan p.desk.disk)).under
            inputs)) ∧
    ∀ (encoding : QueryEncoding) (text line : String), Console.EncodeLine encoding text line →
      p.enter (.text line) = p.conclude (Command.encoded p.desk.disk encoding text false) := by
  refine ⟨fun method endpoint data? line hline inputs => ?_, fun encoding text line hline => ?_⟩
  · rw [takeUp_eq hwait hline.isContent, Console.plan_of_callLine hline]
    have hbegun := InStep.undertake hconsole (plan_call_cases p.desk.disk method endpoint data?)
    exact hbegun.under inputs
  · rw [enter_line hwait hline.isContent, Console.plan_of_encodeLine hline]
    cases Command.encoded p.desk.disk encoding text false with
    | ok encoded => rfl
    | error f => rfl

/-- A console that acts on a site and has carried out two calls. -/
def seasoned : Program :=
  ⟨⟨fun _ => .error .missing, false, true, {}, true⟩, .atRest { id := 7 } 1, 2, .body, .line⟩

/-- A line with blanks of several kinds, one of them inside the payload. -/
def spacedLine : String := "PoSt" ++ "\u2003 " ++ ("posts" ++ "\n\t" ++ "[1,\t2]")

/-- It is a call, with blanks all over. -/
theorem spacedLine_callLine : Console.CallLine .post "posts" (some "[1,\t2]") spacedLine :=
  .carrying (by decide) ⟨by decide, by simp [Text.isBlank]⟩ ⟨by decide, by simp [Text.isBlank]⟩
    ⟨by decide, by simp [Text.isBlank]⟩
    ⟨by decide, by simp [Text.isBlank], by simp [Text.isBlank]⟩ (by simp)

/-- The encoding is known by a name with a capital and a hyphen. -/
theorem parse_base32 : QueryEncoding.parse "Base-32" = .ok .base32 := by
  unfold QueryEncoding.parse
  rw [Text.lowercase_ascii (by simp)]
  rfl

/-- A line with a file to encode. -/
def fileLine : String := "ENCODE" ++ "\u00a0" ++ ("Base-32" ++ " " ++ "@my notes")

/-- It asks for the payload in a file. -/
theorem fileLine_encodeLine : Console.EncodeLine .base32 "@my notes" fileLine :=
  .mk (by decide) ⟨by decide, by simp [Text.isBlank]⟩ parse_base32
    ⟨by decide, by simp [Text.isBlank]⟩
    ⟨by decide, by simp [Text.isBlank], by simp [Text.isBlank]⟩

/-- The line with blanks is carried out in step with the command, and the line with a file ends
because there is none. -/
theorem line_in_step_seasoned :
    (seasoned.desk.isConsole = true ∧ seasoned.wait = .line ∧
      Console.CallLine .post "posts" (some "[1,\t2]") spacedLine ∧
      Console.EncodeLine .base32 "@my notes" fileLine) ∧
    (∀ inputs : List Input,
      InStep ((Operation.call .post "posts" (some "[1,\t2]")).plan seasoned.desk.disk)
        ((seasoned.takeUp spacedLine).under inputs)
        ((seasoned.alone.undertake
          ((Operation.call .post "posts" (some "[1,\t2]")).plan seasoned.desk.disk)).under
            inputs)) ∧
    seasoned.enter (.text fileLine) = seasoned.conclude (.error (.file .missing)) := by
  obtain ⟨hcall, hencode⟩ := line_in_step seasoned rfl rfl
  refine ⟨⟨rfl, rfl, spacedLine_callLine, fileLine_encodeLine⟩, ?_, ?_⟩
  · exact hcall .post "posts" (some "[1,\t2]") spacedLine spacedLine_callLine
  · exact hencode .base32 "@my notes" fileLine fileLine_encodeLine

end Program

end Courier
