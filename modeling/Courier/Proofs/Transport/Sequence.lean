import Courier.Transport
import Mathlib

/-!
# `Courier.Proofs.Transport.Sequence`: one request after another

A `Sending` is a request together with everything outside the transport that decides what comes of
it: what the clock says, whether its route can be connected, and what the peer answers to what is
written. Nothing is assumed of any of these. `Transport.send` carries out the three steps of a
request for a sending, so it is `Transport.exchange` for peers that hang up and a clock that stands
still (`send_ofNetwork`). `Transport.after` is the transport after some sendings, one after another.

A sending can fail in front of the head of the answer, for a fault of the URL, of the network, of
the headers or of the head itself. `Transport.heard?` is the head of the answer if it does not.
Hearing it is all that a sending does to a transport (`send_transport`), so what is heard in a
sequence of sendings is all that the transport is made of afterwards (`after_eq`).
-/

set_option autoImplicit false

namespace Courier

/-! ### What is outside -/

/-- Why a route cannot be connected. -/
inductive Obstacle where
  | io (detail : String)
  | handshake (detail : String)
  | http (detail : String)
  | timeout
deriving DecidableEq

/-- The error of a request whose route cannot be connected. -/
def Obstacle.error : Obstacle → TransportError
  | .io detail => .io detail
  | .handshake detail => .tlsHandshake detail
  | .http detail => .http detail
  | .timeout => .timeout

/-- What comes back on a connection. -/
inductive Reply where
  /-- Some bytes, behind which the peer hangs up. -/
  | closed (b : Bytes)
  /-- Some bytes, behind which nothing comes any more. -/
  | brokenOff (b : Bytes) (why : Transport.Interruption)
deriving DecidableEq

/-- The bytes that come back. -/
def Reply.bytes : Reply → Bytes
  | .closed b => b
  | .brokenOff b _ => b

/-- A request that is sent, and what it meets on its way. -/
structure Sending where
  request : Http.Request
  /-- The second in which the request is written. -/
  writtenAt : Int
  /-- The second in which the head of the answer comes. -/
  answeredAt : Int
  network : Route → Except Obstacle (Http.Written → Reply)

/-- The head of an answer, with the URL that was asked and the second in which it came. -/
structure Heard where
  head : Http.Head
  url : Url
  time : Int
deriving DecidableEq

namespace Http.Arrival

/-- The head of an answer, if it has come. -/
def head? : Arrival → Option Head
  | .headed head _ => some head
  | _ => none

end Http.Arrival

namespace Transport

/-! ### Where a request goes -/

section
variable {t : Transport} {uri : Http.Uri} {url : Url} {host : String} {route : Route}

/-- A route leads to where the URL says: openly if its scheme is the open one, and to a peer of an
encrypted connection if it is the other one. -/
theorem routeTo_eq_ok (h : t.routeTo uri url host = .ok route) :
    route.uri = uri ∧ route.url = url ∧ route.host = host ∧
      (uri.scheme? = some "http" ∧ route.peer? = none ∨
        uri.scheme? = some "https" ∧ t.connector?.isSome = true ∧ route.peer?.isSome = true) := by
  unfold routeTo at h
  split at h
  · rename_i hscheme
    cases h
    exact ⟨rfl, rfl, rfl, .inl ⟨hscheme, rfl⟩⟩
  split at h
  · rename_i hscheme
    cases hconnector : t.connector? with
    | none =>
      rw [hconnector] at h
      cases h
    | some connector =>
      rw [hconnector] at h
      cases hpeer : Tls.ServerName.ofHost t.tls host with
      | error e =>
        rw [hpeer] at h
        cases h
      | ok peer =>
        rw [hpeer] at h
        cases h
        exact ⟨rfl, rfl, rfl, .inr ⟨hscheme, rfl, rfl⟩⟩
  · cases h

/-- A request with a route has a URL that can be read, and that names a host and a scheme. -/
theorem route_eq_ok {r : Http.Request} (h : t.route r = .ok route) :
    Http.Uri.read r.url = .ok route.uri ∧ Url.read r.url = .ok route.url ∧
      route.uri.host? = some route.host ∧
      (route.uri.scheme? = some "http" ∧ route.peer? = none ∨
        route.uri.scheme? = some "https" ∧ t.connector?.isSome = true ∧
          route.peer?.isSome = true) := by
  unfold Transport.route at h
  split at h
  · cases h
  rename_i uri huri
  split at h
  · cases h
  rename_i url hurl
  split at h
  · cases h
  rename_i host hhost
  obtain ⟨rfl, rfl, rfl, hscheme⟩ := routeTo_eq_ok h
  exact ⟨huri, hurl, hhost, hscheme⟩

end

/-! ### One request -/

/-- What has come back, once nothing more does. -/
def conclude (t : Transport) (now : Int) (route : Route) :
    Reply → Transport × Except TransportError Http.Response
  | .closed b => t.receive now route b
  | .brokenOff b why => t.interrupt now route b why

/-- Sends a request and receives its answer, as far as it comes. -/
def send (t : Transport) (x : Sending) : Exchange :=
  match t.route x.request with
  | .error e => ⟨t, none, .error e⟩
  | .ok route =>
    match x.network route with
    | .error obstacle => ⟨t, none, .error obstacle.error⟩
    | .ok connection =>
      match t.compose x.writtenAt route x.request with
      | .error e => ⟨t, none, .error e⟩
      | .ok written =>
        let (t, outcome) := t.conclude x.answeredAt route (connection written)
        ⟨t, some written, outcome⟩

/-- The route of a request, what is written there and what comes back, if it gets that far. -/
def through? (t : Transport) (x : Sending) : Option (Route × Http.Written × Reply) := do
  let route ← (t.route x.request).toOption
  let connection ← (x.network route).toOption
  let written ← (t.compose x.writtenAt route x.request).toOption
  return (route, written, connection written)

/-- The head of the answer to a request, if one comes. -/
def heard? (t : Transport) (x : Sending) : Option Heard := do
  let (route, _, reply) ← t.through? x
  let head ← (Http.Arrival.of reply.bytes).head?
  return ⟨head, route.url, x.answeredAt⟩

/-- The transport after the head of an answer has come. -/
def hear (t : Transport) (h : Heard) : Transport := t.record h.time h.url h.head

section
variable {t : Transport} {now : Int} {route : Route} {reply : Reply} {x : Sending} {h : Heard}

/-- Without a head there is nothing to record, and no response. -/
theorem conclude_of_head?_eq_none (hhead : (Http.Arrival.of reply.bytes).head? = none) :
    (t.conclude now route reply).1 = t ∧ ∃ e, (t.conclude now route reply).2 = .error e := by
  cases reply with
  | closed b =>
    simp only [Reply.bytes] at hhead
    simp only [conclude, receive]
    cases harrival : Http.Arrival.of b with
    | awaited => exact ⟨rfl, _, rfl⟩
    | broken cause => exact ⟨rfl, _, rfl⟩
    | headed head body =>
      rw [harrival] at hhead
      exact nomatch hhead
  | brokenOff b why =>
    simp only [Reply.bytes] at hhead
    simp only [conclude, interrupt, receive]
    cases harrival : Http.Arrival.of b with
    | awaited => exact ⟨rfl, _, rfl⟩
    | broken cause => exact ⟨rfl, _, rfl⟩
    | headed head body =>
      rw [harrival] at hhead
      exact nomatch hhead

/-- With a head its cookies are recorded, whatever comes of the body. A response has the status of
the head; without one it is the body that is missing. -/
theorem conclude_of_headed {head : Http.Head} {body : Http.BodyArrival}
    (harrival : Http.Arrival.of reply.bytes = .headed head body) :
    (t.conclude now route reply).1 = t.record now route.url head ∧
      ∀ response, (t.conclude now route reply).2 = .ok response →
        response.status = head.status := by
  cases reply with
  | closed b =>
    simp only [Reply.bytes] at harrival
    simp only [conclude, receive, harrival]
    cases body <;> simp +contextual [Http.Arrival.closed, eq_comm]
  | brokenOff b why =>
    simp only [Reply.bytes] at harrival
    simp only [conclude, interrupt, receive, harrival]
    cases body <;> simp +contextual [Http.Arrival.closed, Http.Arrival.isSettled, eq_comm]

/-- A request gets through to its peer if it has a route, the route can be connected, and the
headers can be written. -/
theorem through?_eq_some_iff {written : Http.Written} :
    t.through? x = some (route, written, reply) ↔
      ∃ connection, t.route x.request = .ok route ∧ x.network route = .ok connection ∧
        t.compose x.writtenAt route x.request = .ok written ∧ connection written = reply := by
  unfold through?
  constructor
  · intro h
    cases hroute : t.route x.request with
    | error e => simp [hroute, Except.toOption] at h
    | ok found =>
      cases hnetwork : x.network found with
      | error obstacle => simp [hroute, hnetwork, Except.toOption] at h
      | ok connection =>
        cases hcompose : t.compose x.writtenAt found x.request with
        | error e => simp [hroute, hnetwork, hcompose, Except.toOption] at h
        | ok sent =>
          simp only [hroute, hnetwork, hcompose, Except.toOption, Option.bind_eq_bind,
            Option.bind_some] at h
          cases h
          exact ⟨connection, rfl, hnetwork, hcompose, rfl⟩
  · rintro ⟨connection, hroute, hnetwork, hcompose, hreply⟩
    simp [hroute, hnetwork, hcompose, hreply, Except.toOption]

/-- A request that gets through is settled by what comes back. -/
theorem send_of_through? {written : Http.Written}
    (h : t.through? x = some (route, written, reply)) :
    t.send x = ⟨(t.conclude x.answeredAt route reply).1, some written,
      (t.conclude x.answeredAt route reply).2⟩ := by
  obtain ⟨connection, hroute, hnetwork, hcompose, rfl⟩ := through?_eq_some_iff.mp h
  simp only [send, hroute, hnetwork, hcompose]

/-- A request that does not get through fails and is not written, and nothing else happens. -/
theorem send_of_through?_eq_none (h : t.through? x = none) :
    ∃ e, t.send x = ⟨t, none, .error e⟩ := by
  unfold send
  cases hroute : t.route x.request with
  | error e => exact ⟨e, rfl⟩
  | ok route =>
    cases hnetwork : x.network route with
    | error obstacle => exact ⟨obstacle.error, by simp only [hnetwork]⟩
    | ok connection =>
      cases hcompose : t.compose x.writtenAt route x.request with
      | error e => exact ⟨e, by simp only [hnetwork, hcompose]⟩
      | ok written =>
        have hthrough := through?_eq_some_iff.mpr ⟨connection, hroute, hnetwork, hcompose, rfl⟩
        exact nomatch h.symm.trans hthrough

/-- Only what gets through is written. -/
theorem through?_of_sent? {written : Http.Written} (h : (t.send x).sent? = some written) :
    ∃ route reply, t.through? x = some (route, written, reply) := by
  cases hthrough : t.through? x with
  | none =>
    obtain ⟨e, hsend⟩ := send_of_through?_eq_none hthrough
    rw [hsend] at h
    cases h
  | some found =>
    obtain ⟨route, sent, reply⟩ := found
    rw [send_of_through? hthrough] at h
    cases h
    exact ⟨route, reply, rfl⟩

/-- A head is heard if the request gets through and what comes back begins with one. -/
theorem heard?_eq_some_iff : t.heard? x = some h ↔
    ∃ route written reply body, t.through? x = some (route, written, reply) ∧
      Http.Arrival.of reply.bytes = .headed h.head body ∧
      h.url = route.url ∧ h.time = x.answeredAt := by
  unfold heard?
  constructor
  · intro heard
    cases hthrough : t.through? x with
    | none => simp [hthrough] at heard
    | some found =>
      obtain ⟨route, written, reply⟩ := found
      simp only [hthrough, Option.bind_eq_bind, Option.bind_some] at heard
      -- of the three ways in which bytes arrive, one has a head
      cases harrival : Http.Arrival.of reply.bytes with
      | awaited => simp [harrival, Http.Arrival.head?] at heard
      | broken cause => simp [harrival, Http.Arrival.head?] at heard
      | headed head body =>
        simp only [harrival, Http.Arrival.head?, Option.bind_some] at heard
        cases heard
        exact ⟨route, written, reply, body, rfl, harrival, rfl, rfl⟩
  · rintro ⟨route, written, reply, body, hthrough, harrival, hurl, htime⟩
    obtain ⟨head, url, time⟩ := h
    simp only at harrival hurl htime
    subst hurl htime
    simp [hthrough, harrival, Http.Arrival.head?]

/-- A request whose answer has no head fails, and leaves the transport as it is. -/
theorem send_of_heard?_eq_none (h : t.heard? x = none) :
    (t.send x).transport = t ∧ ∃ e, (t.send x).outcome = .error e := by
  cases hthrough : t.through? x with
  | none =>
    obtain ⟨e, hsend⟩ := send_of_through?_eq_none hthrough
    rw [hsend]
    exact ⟨rfl, e, rfl⟩
  | some found =>
    obtain ⟨route, written, reply⟩ := found
    rw [send_of_through? hthrough]
    simp only [heard?, hthrough, Option.bind_eq_bind, Option.bind_some, Option.bind_eq_none_iff]
      at h
    have hhead : (Http.Arrival.of reply.bytes).head? = none :=
      Option.eq_none_iff_forall_ne_some.mpr fun head hsome => nomatch h head hsome
    exact conclude_of_head?_eq_none hhead

/-- A head that is heard has its cookies recorded, and a response has its status. -/
theorem send_of_heard? (heard : t.heard? x = some h) :
    (t.send x).transport = t.hear h ∧
      ∀ response, (t.send x).outcome = .ok response → response.status = h.head.status := by
  obtain ⟨route, written, reply, body, hthrough, harrival, hurl, htime⟩ :=
    heard?_eq_some_iff.mp heard
  rw [send_of_through? hthrough, hear, hurl, htime]
  exact conclude_of_headed harrival

/-- What is heard is all that sending a request does to a transport. -/
theorem send_transport (t : Transport) (x : Sending) :
    (t.send x).transport = (t.heard? x).toList.foldl hear t := by
  cases hheard : t.heard? x with
  | none => exact (send_of_heard?_eq_none hheard).1
  | some h => exact (send_of_heard? hheard).1

end

/-- A network whose peers hang up gives a sending at any second. -/
theorem send_ofNetwork (t : Transport) (now : Int) (r : Http.Request)
    (network : Route → Except Obstacle (Http.Written → Bytes)) :
    t.send ⟨r, now, now, fun route => (network route).map fun connection written =>
      .closed (connection written)⟩ =
    t.exchange now (fun route => (network route).mapError Obstacle.error) r := by
  unfold send exchange
  cases t.route r with
  | error e => rfl
  | ok route =>
    dsimp only
    cases network route with
    | error obstacle => rfl
    | ok connection => rfl

/-! ### One after another -/

/-- The transport after some requests have been sent, one after another. -/
def after (t : Transport) : List Sending → Transport
  | [] => t
  | x :: xs => (t.send x).transport.after xs

/-- The heads that are heard in the meantime, in order. -/
def heardBy (t : Transport) : List Sending → List Heard
  | [] => []
  | x :: xs => (t.heard? x).toList ++ (t.send x).transport.heardBy xs

section
variable {xs ys : List Sending}

/-- Requests can be sent in two batches. -/
theorem after_append (t : Transport) : t.after (xs ++ ys) = (t.after xs).after ys := by
  induction xs generalizing t with
  | nil => rfl
  | cons x xs ih => exact ih (t.send x).transport

/-- Whatever a transport has met with, it is made of what it was and of what it has heard. -/
theorem after_eq (t : Transport) (xs : List Sending) :
    t.after xs = (t.heardBy xs).foldl hear t := by
  induction xs generalizing t with
  | nil => rfl
  | cons x xs ih => rw [after, heardBy, List.foldl_append, ← send_transport, ih]

end

end Transport

end Courier
