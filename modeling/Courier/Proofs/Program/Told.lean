import Courier.Proofs.Program.OneShot

/-!
# `Courier.Proofs.Program.Told`: how often the operator is told why a command has failed

Two parts of the program tell the operator of a failure: the call that fails gives notice of it, and
what is left is printed when the run is over (`Failure.report?`). They have agreed on who tells of
what by the kind of the error: of an error that the server reports the call gives notice, so it is
not printed. But the call withholds that notice while a login is under way, and for a command that
logs in, or that has been asked to, a login is under way to its end.

So a command that fails is told of once (`Program.told_once`), except for an error that the server
reports to a command that logs in or has been asked to: that one is told of nowhere
(`Program.refusal_untold`).

What an input leads to is proved stage by stage (`Program.Account`), and the mark of the call is
part of its stage: it is set exactly if the call logs in or has been asked to.
-/

set_option autoImplicit false

namespace Courier

/-- Whether the operator is given notice of a failure. -/
def Event.tellsOf (f : Failure) : Event → Bool
  | .notice _ _ told => decide (told = ⟨.error, f.message⟩)
  | _ => false

/-- Whether the server has reported an error. -/
def Failure.isRefusal : Failure → Bool
  | .call (.refused _ _) => true
  | _ => false

/-- How often the operator is told of a failure: by notices, and by what is printed. -/
def Failure.tellings (colored : Bool) (f : Failure) (events : List Event) : Nat :=
  events.countP (·.tellsOf f) + (f.printed colored).length

namespace Program

/-- What an input leads to, and how often the operator is told if it is a failure. -/
def Account (desk : Desk) (site : ActiveSite) (authenticates asked : Bool) (p : Program)
    (input : Input) (a : Advance) : Prop :=
  match p.failure? input with
  | some (events, f) =>
    a = (events.flatMap (·.written desk) ++ f.printed desk.colored, .ended 1) ∧
      f.tellings desk.colored events =
        if f.isRefusal && (authenticates || asked) then 0 else 1
  | none =>
    a.2 = .ended 0 ∨
      ∃ q, a.2 = .waiting q ∧ Stage desk site authenticates (asked || input.demandsLogin) q

/-! ### What an input leads to, stage by stage -/

section
variable {desk : Desk} {site : ActiveSite} {authenticates asked : Bool} {p q : Program}
  {input : Input} {a : Advance} {events : List Event} {f : Failure} {e : Errand}
  {signal : Signal} {work : Workload} {generation : Nat} {goal : Goal} {request : Http.Request}

/-- An input on which something fails is accounted for by what is written and told then. -/
theorem Account.failed (hfailure : p.failure? input = some (events, f))
    (ha : a = (events.flatMap (·.written desk) ++ f.printed desk.colored, .ended 1))
    (htold : f.tellings desk.colored events =
      if f.isRefusal && (authenticates || asked) then 0 else 1) :
    Account desk site authenticates asked p input a := by
  unfold Account
  rw [hfailure]
  exact ⟨ha, htold⟩

/-- One that ends the program without a failure needs no account. -/
theorem Account.succeeded (hfailure : p.failure? input = none) (ha : a.2 = .ended 0) :
    Account desk site authenticates asked p input a := by
  unfold Account
  rw [hfailure]
  exact .inl ha

/-- One after which the program waits leads to its next stage. -/
theorem Account.goesOn (hfailure : p.failure? input = none) (ha : a.2 = .waiting q)
    (hstage : Stage desk site authenticates (asked || input.demandsLogin) q) :
    Account desk site authenticates asked p input a := by
  unfold Account
  rw [hfailure]
  exact .inr ⟨q, ha, hstage⟩

/-- Nothing is printed of an answer that ends a call, whatever notice has been given. -/
theorem printed_answer {codec : Codec} {outcome : Except TransportError Http.Response}
    {cause : CallError} (colored : Bool) (hcause : codec.result outcome = .error cause) :
    (Failure.call cause).printed colored = [] := by
  obtain ⟨body, h⟩ | ⟨lost, h⟩ | ⟨lost, h⟩ | ⟨status, text, h⟩ := codec.result_cases outcome
  · exact nomatch h.symm.trans hcause
  · obtain rfl : CallError.ofTransport lost = cause := Except.error.inj (h.symm.trans hcause)
    cases lost <;> rfl
  · obtain rfl : CallError.decode lost = cause := Except.error.inj (h.symm.trans hcause)
    rfl
  · obtain rfl : CallError.refused status text = cause := Except.error.inj (h.symm.trans hcause)
    rfl

/-- The errors that the server reports are those with a status. -/
theorem isRefusal_call (cause : CallError) :
    (Failure.call cause).isRefusal = cause.status?.isSome := by
  cases cause <;> rfl

/-- Of the answer that ends a call the operator is given notice, unless it is an error that the
server reports and the call is armed. Nothing more is printed of it. -/
theorem tellings_answer (e : Errand) (colored armed : Bool)
    {outcome : Except TransportError Http.Response} {cause : CallError}
    (hcause : e.dispatcher.codec.result outcome = .error cause) :
    (Failure.call cause).tellings colored
        ((e.dispatcher.codec.notices armed outcome).map (.notice e.front e.task ·) ++
          e.soloEnd (.error cause)) =
      if (Failure.call cause).isRefusal && armed then 0 else 1 := by
  have hend : (e.soloEnd (.error cause)).countP (·.tellsOf (.call cause)) = 0 := rfl
  have hinfos : (((e.dispatcher.codec.warnings outcome).map (⟨.info, ·⟩)).map
      (Event.notice e.front e.task)).countP (·.tellsOf (.call cause)) = 0 := by
    rw [List.countP_eq_zero]
    intro event hevent
    simp only [List.mem_map] at hevent
    obtain ⟨notice, ⟨text, -, rfl⟩, rfl⟩ := hevent
    simp [Event.tellsOf]
  -- what is left to count is the notice of the error itself
  rw [Failure.tellings, printed_answer colored hcause, List.countP_append, hend, Codec.notices,
    List.map_append, List.countP_append, hinfos, Codec.told?, hcause, isRefusal_call,
    Bool.and_comm _ armed]
  dsimp only
  cases armed && cause.status?.isSome <;>
    simp [Event.tellsOf, Notice.ofError, Failure.message]

/-- A login that is given up is told of by what is printed. -/
theorem tellings_abandoned (e : Errand) (colored : Bool) :
    (Failure.call .abandoned).tellings colored (e.soloEnd (.error .abandoned)) = 1 := rfl

/-- The operator has entered the password of a login, which is sent. -/
theorem account_logIn (hcodec : desk.dispatcher.codec = .standard)
    (hattended : desk.dispatcher.attended = true) (hlogin : authenticates = true) {wait : Wait}
    {user s : String}
    (hwait : wait = .password .command user ∨ wait = .password .named user) :
    Account desk site authenticates asked ⟨desk, .atRest site 0, 0, .body, wait⟩
      (.line (.text s)) (enter ⟨desk, .atRest site 0, 0, .body, wait⟩ (.text s)) := by
  obtain ⟨request, hadvance, hlaunch⟩ := launch_eq desk site hcodec wait
    ((Credentials.mk user s).login desk.dispatcher.api.authEndpoint) true (.login user)
  have hcall := isCall_login hcodec hattended hlogin ⟨user, s⟩
  rcases hwait with rfl | rfl
  · exact .goesOn (failure?_eq_none rfl hadvance rfl) hlaunch
      (.sending hcall (hcall.armed hlogin _))
  · exact .goesOn (failure?_eq_none rfl hadvance rfl) hlaunch
      (.sending hcall (hcall.armed hlogin _))

/-- Before the call, the operator enters a user and a password, or does not log in. -/
theorem account_notCalled (hconsole : desk.isConsole = false)
    (hcodec : desk.dispatcher.codec = .standard) (hattended : desk.dispatcher.attended = true)
    (hlogin : authenticates = true) {wait : Wait}
    (hwait : wait = .user .command ∨ (∃ user, wait = .password .command user) ∨
      ∃ user, wait = .password .named user)
    (htake : take? ⟨desk, .atRest site 0, 0, .body, wait⟩ input = some a) :
    Account desk site authenticates asked ⟨desk, .atRest site 0, 0, .body, wait⟩ input a := by
  cases input with
  | answer outcome => rcases hwait with rfl | ⟨user, rfl⟩ | ⟨user, rfl⟩ <;> exact nomatch htake
  | line entered =>
    -- behind the user the password is asked for, and behind the password the call begins
    rcases hwait with rfl | ⟨user, rfl⟩ | ⟨user, rfl⟩
    · cases htake
      cases entered with
      | text s => exact .goesOn rfl rfl (.notCalled hlogin (.inr (.inl ⟨_, rfl⟩)))
      | ended => exact .failed rfl (dismissed_command hconsole (failureOf .ended)) rfl
      | notText => exact .failed rfl (dismissed_command hconsole (failureOf .notText)) rfl
    · cases htake
      cases entered with
      | text s => exact account_logIn hcodec hattended hlogin (.inl rfl)
      | ended => exact .failed rfl (dismissed_command hconsole (failureOf .ended)) rfl
      | notText => exact .failed rfl (dismissed_command hconsole (failureOf .notText)) rfl
    · cases htake
      cases entered with
      | text s => exact account_logIn hcodec hattended hlogin (.inr rfl)
      | ended => exact .failed rfl (conclude_error _ hconsole _) rfl
      | notText => exact .failed rfl (conclude_error _ hconsole _) rfl

/-- The answer to the request ends the call, or opens the dialog. -/
theorem account_sending {armed : Bool} (hconsole : desk.isConsole = false)
    (hcall : IsCall e authenticates) (harmed : armed = (authenticates || asked))
    (htake : take? ⟨desk, e.soloSending site generation armed, e.task, goal, .answer request⟩
      input = some a) :
    Account desk site authenticates asked
      ⟨desk, e.soloSending site generation armed, e.task, goal, .answer request⟩ input a := by
  cases input with
  | line entered => exact nomatch htake
  | answer outcome =>
    cases htake
    cases hdemand : demandsLogin outcome with
    | true =>
      -- there is always an operator at the terminal, so the dialog opens
      have hadvance : (e.soloSending site generation armed).advance? (.answer e.task outcome) = _ :=
        Errand.advance?_demanded hcall.attended hdemand
      have hasked : (asked || demandsLogin outcome) = true := by rw [hdemand, Bool.or_true]
      have hsignal := signal_eq desk e.task goal (.answer request) hadvance
      exact .goesOn (failure?_eq_none rfl hadvance rfl) (congrArg Prod.snd hsignal)
        (.prompting hcall hasked (.inl rfl))
    | false =>
      have hadvance : (e.soloSending site generation armed).advance? (.answer e.task outcome) = _ :=
        Errand.advance?_ended hdemand
      cases hresult : e.dispatcher.codec.result outcome with
      | ok body =>
        rw [hresult] at hadvance
        have hsignal := signal_eq desk e.task goal (.answer request) hadvance
        rw [follow_notices] at hsignal
        exact .succeeded (failure?_eq_none rfl hadvance (findSome?_notices _ _ _ _))
          ((congrArg Prod.snd hsignal).trans (concludeCall_ok hconsole body))
      | error cause =>
        rw [hresult] at hadvance
        have hsignal := signal_eq desk e.task goal (.answer request) hadvance
        refine .failed (failure?_eq_some rfl hadvance (findSome?_notices _ _ _ _))
          (hsignal.trans (follow_end hconsole e _ cause)) ?_
        rw [← harmed]
        exact tellings_answer e desk.colored armed hresult

/-- The operator fills in the dialog, or gives up. -/
theorem account_prompting {marked : Bool} (hconsole : desk.isConsole = false)
    (hcall : IsCall e authenticates) (hasked : asked = true) {wait : Wait}
    (hwait : wait = .user .refused ∨ ∃ user, wait = .password .refused user)
    (htake : take? ⟨desk, e.soloDialog site generation marked .prompting, e.task, goal, wait⟩
      input = some a) :
    Account desk site authenticates asked
      ⟨desk, e.soloDialog site generation marked .prompting, e.task, goal, wait⟩ input a := by
  -- nothing asks for a login, so the call has been asked to as before
  have hasked' : (asked || false) = true := by rw [hasked, Bool.or_false]
  have hdismissed : (e.soloDialog site generation marked .prompting).advance?
      (.credentials e.task none) = _ := Errand.advance?_dismissed
  have hfollow := (signal_eq desk e.task goal wait hdismissed).trans
    (follow_end hconsole e [] .abandoned)
  have hend := tellings_abandoned e desk.colored
  cases input with
  | answer outcome => rcases hwait with rfl | ⟨user, rfl⟩ <;> exact nomatch htake
  | line entered =>
    rcases hwait with rfl | ⟨user, rfl⟩
    · cases htake
      cases entered with
      | text s => exact .goesOn rfl rfl (.prompting hcall hasked' (.inr ⟨_, rfl⟩))
      | ended =>
        exact .failed (failure?_eq_some rfl hdismissed rfl) hfollow hend
      | notText =>
        exact .failed (failure?_eq_some rfl hdismissed rfl) hfollow hend
    · cases htake
      cases entered with
      | text s =>
        obtain ⟨request, hrequest⟩ :=
          e.dispatcher.api.exists_login e.dispatcher.codec site.id? ⟨user, s⟩
        have hadvance : (e.soloDialog site generation marked .prompting).advance?
            (.credentials e.task (some ⟨user, s⟩)) = _ := Errand.advance?_entered hrequest
        have hsignal := signal_eq desk e.task goal (.password .refused user) hadvance
        exact .goesOn (failure?_eq_none rfl hadvance rfl) (congrArg Prod.snd hsignal)
          (.loggingIn hcall hasked')
      | ended =>
        exact .failed (failure?_eq_some rfl hdismissed rfl) hfollow hend
      | notText =>
        exact .failed (failure?_eq_some rfl hdismissed rfl) hfollow hend

/-- The answer to a login out of the dialog is followed by the request, or by another question. -/
theorem account_loggingIn (hcall : IsCall e authenticates) (hasked : asked = true)
    (htake : take? ⟨desk, e.soloDialog site generation true .loggingIn, e.task, goal,
      .answer request⟩ input = some a) :
    Account desk site authenticates asked
      ⟨desk, e.soloDialog site generation true .loggingIn, e.task, goal, .answer request⟩ input
      a := by
  cases input with
  | line entered => exact nomatch htake
  | answer outcome =>
    cases htake
    have hasked' : (asked || demandsLogin outcome) = true := by rw [hasked, Bool.true_or]
    -- the dialog closes on an accepted login and asks again on any other answer
    cases haccepts : e.dispatcher.codec.accepts outcome with
    | true =>
      obtain ⟨again, hrequest⟩ := e.dispatcher.api.exists_request site.id? e.call
      rw [← hcall.codec] at hrequest
      have hadvance : (e.soloDialog site generation true .loggingIn).advance?
          (.answer e.task outcome) = _ := Errand.advance?_loggedIn hrequest haccepts
      have harmed : true = (authenticates || (asked || demandsLogin outcome)) := by
        rw [hasked', Bool.or_true]
      have hsignal := signal_eq desk e.task goal (.answer request) hadvance
      rw [follow_notices] at hsignal
      exact .goesOn (failure?_eq_none rfl hadvance (findSome?_notices _ _ _ _))
        (congrArg Prod.snd hsignal) (.sending hcall harmed)
    | false =>
      have hadvance : (e.soloDialog site generation true .loggingIn).advance?
          (.answer e.task outcome) = _ := Errand.advance?_notLoggedIn hcall.attended haccepts
      have hsignal := signal_eq desk e.task goal (.answer request) hadvance
      rw [follow_notices] at hsignal
      exact .goesOn (failure?_eq_none rfl hadvance (findSome?_notices _ _ _ _))
        (congrArg Prod.snd hsignal) (.prompting hcall hasked' (.inl rfl))

/-- Every input that a program takes is accounted for. -/
theorem Stage.account (hconsole : desk.isConsole = false)
    (hcodec : desk.dispatcher.codec = .standard) (hattended : desk.dispatcher.attended = true)
    (h : Stage desk site authenticates asked p) (htake : p.take? input = some a) :
    Account desk site authenticates asked p input a := by
  cases h with
  | notCalled hlogin hwait =>
    exact account_notCalled hconsole hcodec hattended hlogin hwait htake
  | sending hcall harmed => exact account_sending hconsole hcall harmed htake
  | prompting hcall hasked hwait => exact account_prompting hconsole hcall hasked hwait htake
  | loggingIn hcall hasked => exact account_loggingIn hcall hasked htake

end

/-! ### Runs of a command -/

section
variable {disk : Disk} {colored interactive : Bool} {c : Config} {op : Operation}
  {inputs : List Input} {os : List Output} {p : Program} {input : Input} {a : Advance}

/-- A command that cannot be planned is told of by what is printed, as it has not called. -/
theorem tellings_of_plan {f : Failure} (h : op.plan disk = .error f) :
    f.tellings colored [] = 1 := by
  -- a plan fails at its payload only: at its file, or at its text
  have htext : ∀ text, Payload.ofText text = .error f → f.tellings colored [] = 1 := by
    intro text htext
    unfold Payload.ofText at htext
    split at htext
    · cases htext
      rfl
    · split at htext
      · cases htext
        rfl
      · cases htext
  have hargument : ∀ data, Payload.ofArgument disk data = .error f →
      f.tellings colored [] = 1 := by
    intro data hargument
    unfold Payload.ofArgument at hargument
    split at hargument
    · exact htext _ hargument
    · split at hargument
      · cases hargument
        rfl
      · exact htext _ hargument
  cases op with
  | login user? => cases h
  | call method endpoint data? =>
    cases data? with
    | none => cases h
    | some data =>
      cases hpayload : Payload.ofArgument disk data with
      | ok payload =>
        rw [Operation.plan, hpayload] at h
        cases h
      | error cause =>
        rw [Operation.plan, hpayload] at h
        cases h
        exact hargument data hpayload

/-- At every point of its run a command is in one of its stages. -/
theorem OneShot.stage (h : OneShot disk colored interactive c op inputs a)
    (hwaits : a.2 = .waiting p) :
    Stage (deskOf disk colored interactive c) { id := c.siteId } (op.authenticates c.api)
      (inputs.any (·.demandsLogin)) p := by
  -- by induction on the inputs: a command that waits on has come to a stage with each of them
  induction h generalizing p with
  | begun =>
    cases hplan : op.plan disk with
    | error f =>
      rw [begin_eq, hplan] at hwaits
      exact nomatch (congrArg Prod.snd (conclude_error _ rfl f)).symm.trans hwaits
    | ok plan =>
      obtain ⟨q, hbegin, hstage⟩ := stage_begin colored interactive c hplan
      cases hbegin.symm.trans hwaits
      exact hstage
  | @went inputs os q input a hrun htake ih =>
    have haccount := (ih rfl).account rfl rfl rfl htake
    unfold Account at haccount
    split at haccount
    · rw [haccount.1] at hwaits
      exact nomatch hwaits
    · rcases haccount with hended | ⟨next, hnext, hstage⟩
      · exact nomatch hended.symm.trans hwaits
      · cases hnext.symm.trans hwaits
        rw [List.any_cons, Bool.or_comm]
        exact hstage

end

/-- How often the operator is told why a command has failed, when it is carried out on its own.

A command that cannot be planned ends at once, and this is told of once. Any other waits for its
first input. Whatever the inputs are so far, and whatever the next one is, if the command fails with
it, then the run ends with what has been written of the events of its call and with what is printed
of the failure, and the operator is told of it once: by a notice, or by what is printed. The
exception is an error that the server reports, if the call logs in or has been asked to: nobody
tells of that. If the command does not fail with an input, it goes on or ends well. -/
theorem told_once (disk : Disk) (colored interactive : Bool) (c : Config) (op : Operation) :
    (∀ f, op.plan disk = .error f →
      Program.begin disk colored interactive c (some op) = (f.printed colored, .ended 1) ∧
        f.tellings colored [] = 1) ∧
    (∀ plan, op.plan disk = .ok plan →
      ∃ p, (Program.begin disk colored interactive c (some op)).2 = .waiting p) ∧
    ∀ inputs os p, OneShot disk colored interactive c op inputs (os, .waiting p) →
      ∀ input a, p.take? input = some a →
        match p.failure? input with
        | some (events, f) =>
          a = (events.flatMap (·.written (deskOf disk colored interactive c)) ++ f.printed colored,
              .ended 1) ∧
            f.tellings colored events =
              if f.isRefusal && (op.authenticates c.api || inputs.any (·.demandsLogin)) then 0
              else 1
        | none => a.2 = .ended 0 ∨ ∃ q, a.2 = .waiting q := by
  refine ⟨fun f hplan => ⟨?_, tellings_of_plan hplan⟩, fun plan hplan => ?_, ?_⟩
  · rw [begin_eq, hplan]
    exact conclude_error _ rfl f
  · obtain ⟨p, hbegin, -⟩ := stage_begin colored interactive c hplan
    exact ⟨p, hbegin⟩
  · intro inputs os p hrun input a htake
    -- at each stage of a run the next input is accounted for
    have haccount := (hrun.stage rfl).account rfl rfl rfl htake
    unfold Account at haccount
    split at haccount
    · exact haccount
    · exact haccount.imp_right fun ⟨q, hwaits, _⟩ => ⟨q, hwaits⟩

/-- A list that cannot be read for want of an answer is told of once. -/
theorem told_once_timeout : ∃ os p a events f,
    OneShot (fun _ => .error .missing) false false {} (.call .get "list" none) []
      (os, .waiting p) ∧
    p.take? (.answer (.error .timeout)) = some a ∧
    p.failure? (.answer (.error .timeout)) = some (events, f) ∧ a.2 = .ended 1 ∧
    f.tellings false events = 1 := by
  have htold := (told_once (fun _ => .error .missing) false false {} (.call .get "list" none)).2.2
    [] _ _ .begun (.answer (.error .timeout)) _ rfl
  exact ⟨_, _, _, _, _, .begun, rfl, rfl, congrArg Prod.snd htold.1, htold.2⟩

/-- A wrong password is told of nowhere. -/
theorem refusal_untold :
    ¬ ∀ (disk : Disk) (colored interactive : Bool) (c : Config) (op : Operation)
      (inputs : List Input) (os : List Output) (p : Program),
      OneShot disk colored interactive c op inputs (os, .waiting p) →
      ∀ input a events f, p.take? input = some a → p.failure? input = some (events, f) →
        f.tellings colored events = 1 := by
  intro htold
  -- the password has been entered, and the login has been sent
  let desk := deskOf (fun _ => .error .missing) false false {}
  let e := callOf desk ((Credentials.mk "bob" "wrong").login "auth") true
  obtain ⟨request, -, hlaunch⟩ := launch_eq desk {} rfl (.password .named "bob")
    ((Credentials.mk "bob" "wrong").login "auth") true (.login "bob")
  have hrun : OneShot (fun _ => .error .missing) false false {} (.login (some "bob"))
      [.line (.text "wrong")]
      (_, .waiting ⟨desk, e.soloSending {} 0 true, 0, .login "bob", .answer request⟩) :=
    .went .begun (congrArg some (Prod.ext rfl hlaunch))
  -- the server refuses it, and the call ends without a notice
  let outcome : Except TransportError Http.Response :=
    .ok ⟨401, Bytes.ofString "Invalid credentials."⟩
  have hadvance : (e.soloSending {} 0 true).advance? (.answer 0 outcome) = _ :=
    Errand.advance?_ended rfl
  have hresult : e.dispatcher.codec.result outcome = .error (.refused 401 _) := rfl
  rw [hresult] at hadvance
  have hfailure : failure? ⟨desk, e.soloSending {} 0 true, 0, .login "bob", .answer request⟩
      (.answer outcome) = some (_, .call (.refused 401 _)) :=
    failure?_eq_some rfl hadvance (findSome?_notices _ _ _ _)
  have honce := htold _ _ _ _ _ _ _ _ hrun (.answer outcome) _ _ _ rfl hfailure
  rw [tellings_answer e false true hresult] at honce
  exact nomatch honce

end Program

end Courier
