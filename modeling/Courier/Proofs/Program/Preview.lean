import Courier.Proofs.Payload
import Courier.Proofs.Program.InStep
import Courier.Proofs.QueryEncoding
import Courier.Proofs.Session.Resend
import Mathlib

/-!
# `Courier.Proofs.Program.Preview`: what is encoded is what is sent

An operator can have a payload encoded and look at the text, or have it sent by a `get`, which
carries such a text behind its endpoint. The two go different ways. The command encodes the payload
by itself. The call goes through the session, which hands it to a dispatch, which makes the request
on behalf of the active site. On the default site, requests name no site, and then the text is the
same (`encode_shows_get`). It is read back as the payload that the operator has written, because
payloads are settled in their form and shallow enough (`Payload.plain_of_ofText`).
-/

set_option autoImplicit false

namespace Courier

section
variable {a : Api} {s : Session} {e : Errand} {r : Http.Request}

/-- A call whose request can be made begins with sending it. -/
theorem Errand.requestsOf_start
    (h : e.dispatcher.api.request e.dispatcher.codec s.site.id? e.call = .ok r) :
    requestsOf e.task (e.start s).events = [r] := by
  have hsend : ∀ (armed : Bool) (session : Session), session.site = s.site →
      requestsOf e.task (e.send armed session).events = [r] := by
    intro armed session hsite
    unfold Errand.send
    rw [hsite, h]
    show (if e.task = e.task then some r else none).toList = [r]
    rw [if_pos rfl]
    rfl
  show requestsOf e.task ((if s.inFlight = 0 then [.loading e.front true] else []) ++
    (e.send e.authenticates _).events) = [r]
  rw [requestsOf_append, requestsOf_shown, List.nil_append]
  -- neither the count of requests nor a mark of a login changes the site
  apply hsend
  split <;> rfl

/-- On the default site a `get` carries the text of its payload behind the endpoint. -/
theorem Api.request_get {endpoint : String} {site : ActiveSite} {v : Value} {bytes : Bytes}
    (hsite : site.id = 0) (hbare : ¬ endpoint.contains '?')
    (hbytes : Codec.standard.encode v = .ok bytes) :
    a.request .standard site.id? ⟨.get, endpoint, some v⟩ = .ok
      ⟨.get, a.normalizedBaseUrl ++ endpoint ++ "?data=" ++ a.encoding.encode bytes,
        commonHeaders, none⟩ := by
  have hdefault : site.id? = none := by
    unfold ActiveSite.id? ActiveSite.isDefault
    rw [if_pos (decide_eq_true hsite)]
  rw [hdefault, request]
  dsimp only
  rw [withSite, hbytes]
  dsimp only
  rw [carry]
  dsimp only
  rw [if_pos (by rfl), if_neg hbare]

end

namespace Program

/-- A program that begins a call sends the request of the call first. -/
theorem head?_requestsOf_undertake (p : Program) {call : Call} {r : Http.Request}
    (h : p.desk.dispatcher.api.request p.desk.dispatcher.codec p.work.session.site.id? call
      = .ok r) :
    (requestsOf p.task (p.undertake (.ok (.send call))).events).head? = some r := by
  let e : Errand := ⟨p.task, 0, p.desk.dispatcher, call, false⟩
  have hstart : requestsOf p.task (e.start p.work.session).events = [r] :=
    Errand.requestsOf_start (e := e) h
  -- whoever is let in through the turnstile afterwards comes later
  show (requestsOf p.task ((e.start p.work.session).events ++ _)).head? = some r
  rw [requestsOf_append, hstart]
  rfl

/-- The text that the command to encode a payload shows is the one that a `get` with this payload
sends behind its endpoint, on behalf of the default site. The text stands for bytes, and these
decode to the payload itself. For every payload is normal, so that decoding has nothing to change,
and takes a quarter of the levels that it has. This is so if no length in the payload exceeds the
four bytes that the format has for it, as it never does in a text below 4 GiB. -/
theorem encode_shows_get (p : Program) (endpoint argument : String) {v : Value}
    (hsite : p.work.session.site.id = 0) (hcodec : p.desk.dispatcher.codec = .standard)
    (hbare : ¬ endpoint.contains '?')
    (hpayload : Payload.ofArgument p.desk.disk argument = .ok v) :
    ∃ text request bytes,
      Command.encoded p.desk.disk p.desk.dispatcher.api.encoding argument true = .ok text ∧
      (requestsOf p.task (p.undertake
        ((Operation.call .get endpoint (some argument)).plan p.desk.disk)).events).head?
          = some request ∧
      request.method = .get ∧
      request.url = p.desk.dispatcher.api.normalizedBaseUrl ++ endpoint ++ "?data=" ++ text ∧
      request.body? = none ∧
      p.desk.dispatcher.api.encoding.decode? text = some bytes ∧
      (v.Normal [Timestamp.tag] ∧ v.norm = v ∧ v.cost ≤ 257) ∧
      (v.Portable → Codec.standard.decode bytes = .ok v) ∧
      ∀ source, Payload.source p.desk.disk argument = .ok source →
        (Bytes.ofString source).length < 2 ^ 32 → v.Portable := by
  obtain ⟨source, hsource, hread⟩ := Payload.exists_source hpayload
  have hplain := Payload.plain_of_ofText hread
  obtain ⟨bytes, hbytes, hdecode⟩ := hplain.exists_bytes (Nat.le_refl _)
  -- what is shown and what is sent are both the text of these bytes
  have hencoded : Command.encoded p.desk.disk p.desk.dispatcher.api.encoding argument true
      = .ok (p.desk.dispatcher.api.encoding.encode bytes) := by
    unfold Command.encoded
    rw [if_pos rfl, hpayload]
    dsimp only
    rw [hbytes]
  have hplan : (Operation.call .get endpoint (some argument)).plan p.desk.disk
      = .ok (.send ⟨.get, endpoint, some v⟩) := by
    rw [Operation.plan, hpayload]
    rfl
  have hrequest := Api.request_get (a := p.desk.dispatcher.api) hsite hbare hbytes
  rw [← hcodec] at hrequest
  have hfirst := head?_requestsOf_undertake p hrequest
  rw [← hplan] at hfirst
  refine ⟨_, _, bytes, hencoded, hfirst, rfl, rfl, rfl, QueryEncoding.decode?_encode _ bytes,
    ⟨hplain.normal, Value.norm_of_normal v hplain.normal, hplain.cost⟩, hdecode, ?_⟩
  -- no length in a value exceeds that of its source
  intro text htext hsize
  obtain rfl := Except.ok.inj (hsource.symm.trans htext)
  exact hplain.portable hsize

/-- An instant before 1970, an integer that needs the unsigned form, and a text with an escape. -/
def written : String :=
  "\x7b\"at\": \x7b\"$time\": -5\x7d, \"n\": [18446744073709551615, 7, \"\\u00e9\"]\x7d"

/-- The payload that is written there. -/
def filed : Value :=
  .map [("at", .timestamp ⟨-5, 0, by decide, by decide, Instant.whole_lt⟩),
    ("n", .array [.uint 18446744073709551615, .int 7, .string "\u00e9"])]

/-- A program on the default site, with the payload in a file. -/
def reader : Program :=
  ⟨⟨Disk.ofFiles [("at.json", Bytes.ofString written)], false, true,
    { api := { encoding := .base32 } }, false⟩, .atRest {} 0, 0, .body, .line⟩

/-- The payload in the file is shown, and sent, in the same letters, which say what the file says.
-/
theorem encode_shows_get_filed :
    ∃ text request bytes,
      Command.encoded reader.desk.disk .base32 "@at.json" true = .ok text ∧
      (requestsOf 0 (reader.undertake
        ((Operation.call .get "pages" (some "@at.json")).plan reader.desk.disk)).events).head?
          = some request ∧
      request.url = "http://localhost:8080/api/pages?data=" ++ text ∧
      QueryEncoding.base32.decode? text = some bytes ∧
      Codec.standard.decode bytes = .ok filed := by
  have hbare : ¬ "pages".contains '?' := by
    rw [String.contains_char_eq]
    decide
  have hsource : Payload.source reader.desk.disk "@at.json" = .ok written := by cbv
  have hpayload : Payload.ofArgument reader.desk.disk "@at.json" = .ok filed := by cbv
  obtain ⟨text, request, bytes, hencoded, hfirst, -, hurl, -, hread, -, hdecode, hportable⟩ :=
    encode_shows_get reader "pages" "@at.json" rfl rfl hbare hpayload
  have hshort : (Bytes.ofString written).length < 2 ^ 32 := by decide
  have hbase : reader.desk.dispatcher.api.normalizedBaseUrl ++ "pages" ++ "?data="
      = "http://localhost:8080/api/pages?data=" := by decide
  rw [hbase] at hurl
  exact ⟨text, request, bytes, hencoded, hfirst, hurl, hread,
    hdecode (hportable written hsource hshort)⟩

end Program

end Courier
