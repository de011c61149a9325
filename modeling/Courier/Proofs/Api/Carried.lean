import Courier.Proofs.Api.Outgoing
import Courier.Proofs.Codec.RoundTrip
import Courier.Proofs.Fields
import Courier.Proofs.QueryEncoding
import Courier.Site

/-!
# `Courier.Proofs.Api.Carried`: a request carries exactly its payload

A payload goes through four hands on its way into a request: it names the active site, becomes
bytes, becomes text if it travels in the query, and is put behind the endpoint or into the body.
`Carries a endpoint r v?` reads the other way. It says what whoever receives the request `r` below
the endpoint finds in it: nothing, or the bytes of a value.

A request carries one thing only (`Carries.unique`), because the text in a query can be told from
the endpoint in front of it and is read back as one byte string. And the request of a call carries
what comes back of the payload that is sent (`request_carries`). So calls of one endpoint that
differ in their method, or in what they send, have different requests.
-/

set_option autoImplicit false

namespace Courier

namespace Value

/-- Setting a field to a well formed value keeps the fields well formed. -/
theorem wellFormedFields_insert (name : String) {x : Value} (hx : x.WellFormed)
    {fields : List (String × Value)} (h : WellFormedFields fields) :
    WellFormedFields (Fields.insert name x fields) := by
  rw [wellFormedFields_iff] at h ⊢
  intro p hp
  rcases Fields.mem_of_mem_insert hp with rfl | hp
  · exact hx
  · exact h p hp

end Value

namespace Api

open Courier.Proofs.Codec (exists_stands)

/-! ### What a call sends -/

/-- The payload as it is sent on behalf of a site: a map names the site, unless that is the
default one. -/
def onBehalf (site : ActiveSite) : Value → Value
  | .map fields =>
    if site.id = 0 then .map fields else .map (Fields.insert "site" (.int site.id) fields)
  | v => v

/-- What a call sends on behalf of a site. A `get` whose endpoint has a query of its own sends
nothing. -/
def sent? (site : ActiveSite) (call : Call) : Option Value :=
  if call.method = .get ∧ call.endpoint.contains '?' then none
  else call.payload?.map (onBehalf site)

/-- What a call sends can be carried there and read back. That the payload is in order belongs to
the type of maps; the rest is asked only of what is sent. -/
structure Sendable (site : ActiveSite) (call : Call) : Prop where
  wellFormed : ∀ payload, call.payload? = some payload → payload.WellFormed
  portable : ∀ v, sent? site call = some v → v.Portable
  cost : ∀ v, sent? site call = some v → v.cost ≤ 1024

/-- What a request is found to carry by whoever reads it below an endpoint. -/
inductive Carries (a : Api) (endpoint : String) (r : Http.Request) : Option Value → Prop
  /-- The URL ends with the endpoint, and there is no body. -/
  | nothing (url : r.url = a.normalizedBaseUrl ++ endpoint) (body : r.body? = none)
      (contentType : r.header? "Content-Type" = none) : Carries a endpoint r none
  /-- A `get` has a text behind the endpoint, and the text is read as the bytes of the value. -/
  | inQuery {text : String} {bytes : Bytes} {v : Value} (get : r.method = .get)
      (url : r.url = a.normalizedBaseUrl ++ endpoint ++ "?data=" ++ text)
      (alphabet : ∀ c ∈ text.toList, c ∈ a.encoding.alphabet)
      (reads : a.encoding.decode? text = some bytes)
      (decodes : Codec.standard.decode bytes = .ok v) (body : r.body? = none)
      (contentType : r.header? "Content-Type" = none) : Carries a endpoint r (some v)
  /-- Any other method has the bytes of the value in its body, and says what they are. -/
  | inBody {bytes : Bytes} {v : Value} (notGet : r.method ≠ .get)
      (url : r.url = a.normalizedBaseUrl ++ endpoint) (body : r.body? = some bytes)
      (decodes : Codec.standard.decode bytes = .ok v)
      (contentType : r.header? "Content-Type" = some contentType) : Carries a endpoint r (some v)

/-! ### A request carries one thing -/

/-- A URL that has a text behind an endpoint does not end with the endpoint. -/
theorem url_ne_append_query (base text : String) : base ≠ base ++ "?data=" ++ text := by
  intro h
  have hlength := congrArg String.length h
  have hmark : "?data=".length = 6 := by decide
  rw [String.length_append, String.length_append, hmark] at hlength
  omega

section
variable {a : Api} {endpoint : String} {r : Http.Request} {v? w? : Option Value}

/-- Nobody who reads a request finds two different things in it. -/
theorem Carries.unique (h : Carries a endpoint r v?) (h' : Carries a endpoint r w?) : v? = w? := by
  cases h with
  | nothing url body =>
    cases h' with
    | nothing => rfl
    | inQuery _ url' => exact absurd (url.symm.trans url') (url_ne_append_query _ _)
    | inBody _ _ body' => exact nomatch body.symm.trans body'
  | inQuery get url _ htext hbytes body =>
    cases h' with
    | nothing url' => exact absurd (url'.symm.trans url) (url_ne_append_query _ _)
    | inQuery _ url' _ htext' hbytes' =>
      -- the texts stand behind the same beginning
      have hsame := (String.append_right_inj _).mp (url.symm.trans url')
      subst hsame
      obtain rfl := Option.some.inj (htext.symm.trans htext')
      cases hbytes.symm.trans hbytes'
      rfl
    | inBody notGet => exact absurd get notGet
  | inBody notGet _ body hbytes =>
    cases h' with
    | nothing _ body' => exact nomatch body'.symm.trans body
    | inQuery get => exact absurd get notGet
    | inBody _ _ body' hbytes' =>
      obtain rfl := Option.some.inj (body.symm.trans body')
      cases hbytes.symm.trans hbytes'
      rfl

end

/-! ### The request of a call -/

/-- The payload names the site by its id, as far as requests name sites at all. -/
theorem withSite_id? (site : ActiveSite) (payload : Value) :
    withSite site.id? payload = onBehalf site payload := by
  unfold ActiveSite.id? ActiveSite.isDefault
  by_cases hdefault : site.id = 0
  · rw [if_pos (decide_eq_true hdefault)]
    cases payload with
    | map fields => rw [onBehalf, if_pos hdefault, withSite]
    | _ => rfl
  · rw [if_neg (by simpa using hdefault)]
    cases payload with
    | map fields =>
      rw [onBehalf, if_neg hdefault]
      rfl
    | _ => rfl

/-- Every other key has what it had in the payload. -/
theorem get?_onBehalf {site : ActiveSite} (h : site.id ≠ 0) (fields : List (String × Value))
    (key : String) : (onBehalf site (.map fields)).get? key
      = if "site" = key then some (.int site.id) else Fields.get? fields key := by
  rw [onBehalf, if_neg h]
  exact Fields.get?_insert _ _ _ _

/-- The payload stays well formed when the site is named in it. -/
theorem wellFormed_onBehalf (site : ActiveSite) {payload : Value} (h : payload.WellFormed) :
    (onBehalf site payload).WellFormed := by
  cases payload with
  | map fields =>
    obtain ⟨hsorted, hfields⟩ := h
    rw [onBehalf]
    by_cases hdefault : site.id = 0
    · rw [if_pos hdefault]
      exact ⟨hsorted, hfields⟩
    · have hid : (Value.int site.id).WellFormed := trivial
      rw [if_neg hdefault]
      exact ⟨Fields.sorted_insert _ _ hsorted, Value.wellFormedFields_insert _ hid hfields⟩
  | _ => exact h

section
variable {a : Api} {site : ActiveSite} {call : Call}

/-- The request of a call with a payload, once the payload has bytes. -/
theorem request_of_payload {payload : Value} {bytes : Bytes} (h : call.payload? = some payload)
    (hbytes : Codec.standard.encode (onBehalf site payload) = .ok bytes) :
    a.request .standard site.id? call = .ok (a.carry call (some bytes)) := by
  rw [request, h]
  dsimp only
  rw [withSite_id?, hbytes]

/-- The request of a call that sends nothing carries nothing. -/
theorem carries_nothing {r : Http.Request} (hrequest : a.request .standard site.id? call = .ok r)
    (h : sent? site call = none) : r.method = call.method ∧ Carries a call.endpoint r none := by
  cases hpayload : call.payload? with
  | none =>
    rw [request, hpayload] at hrequest
    cases hrequest
    exact ⟨rfl, .nothing rfl rfl rfl⟩
  | some payload =>
    -- there is a payload, so it is the endpoint that keeps it back
    obtain ⟨x, hx⟩ := Codec.exists_standardObject (onBehalf site payload)
    have hbytes : Codec.standard.encode (onBehalf site payload) = .ok x.bytes := by
      rw [Codec.encode, hx]
    have hquery : call.method = .get ∧ call.endpoint.contains '?' := by
      by_contra hnot
      rw [sent?, if_neg hnot, hpayload] at h
      cases h
    rw [request_of_payload hpayload hbytes, carry] at hrequest
    rw [if_pos (by rw [Method.inQuery, hquery.1]; rfl), if_pos hquery.2] at hrequest
    cases hrequest
    exact ⟨rfl, .nothing rfl rfl rfl⟩

/-- The request of a call that sends a value carries what comes back of the value. -/
theorem carries_sent {r : Http.Request} (hrequest : a.request .standard site.id? call = .ok r)
    (hcall : Sendable site call) {v : Value} (h : sent? site call = some v) :
    r.method = call.method ∧ Carries a call.endpoint r (some v.norm) := by
  have hportable := hcall.portable v h
  have hcost := hcall.cost v h
  rw [sent?] at h
  by_cases hquery : call.method = .get ∧ call.endpoint.contains '?'
  · rw [if_pos hquery] at h
    cases h
  rw [if_neg hquery] at h
  obtain ⟨payload, hpayload, rfl⟩ := Option.map_eq_some_iff.mp h
  have hform := wellFormed_onBehalf site (hcall.wellFormed payload hpayload)
  obtain ⟨x, hx⟩ := exists_stands _ hform hportable
  have hdecode : Codec.standard.decode x.bytes = .ok (onBehalf site payload).norm := by
    rw [hx.decode, if_pos hcost]
  rw [request_of_payload hpayload hx.encode, carry] at hrequest
  -- the payload goes into the query of a `get`, and into the body of any other method
  by_cases hget : call.method = .get
  · have hbare : ¬call.endpoint.contains '?' := fun hmark => hquery ⟨hget, hmark⟩
    rw [if_pos (by rw [hget]; rfl), if_neg hbare] at hrequest
    cases hrequest
    exact ⟨rfl, .inQuery hget rfl (fun c hc => QueryEncoding.mem_alphabet_of_mem_encode hc)
      (QueryEncoding.decode?_encode _ _) hdecode rfl rfl⟩
  · rw [if_neg (by rw [Method.inQuery]; simpa using hget)] at hrequest
    cases hrequest
    exact ⟨rfl, .inBody hget rfl rfl hdecode rfl⟩

/-- The request of a call carries what the call sends. -/
theorem carries_of_request {r : Http.Request}
    (hrequest : a.request .standard site.id? call = .ok r) (hcall : Sendable site call) :
    r.method = call.method ∧ Carries a call.endpoint r ((sent? site call).map Value.norm) := by
  cases hsent : sent? site call with
  | none => exact carries_nothing hrequest hsent
  | some v => exact carries_sent hrequest hcall hsent

end

/-- Every call that sends what can be read back has a request. It is sent by the method of the call
and carries what comes back of the payload, in which the site has been set and nothing else
changed. No other call of the endpoint has this request, unless it has the same method and sends
what comes back as the same. -/
theorem request_carries (a : Api) (site : ActiveSite) (call : Call) (hcall : Sendable site call) :
    ∃ r, a.request .standard site.id? call = .ok r ∧ r.method = call.method ∧
      Carries a call.endpoint r ((sent? site call).map Value.norm) ∧
      (site.id ≠ 0 → ∀ fields key, (onBehalf site (.map fields)).get? key
        = if "site" = key then some (.int site.id) else Fields.get? fields key) ∧
      ∀ call', call'.endpoint = call.endpoint → Sendable site call' →
        a.request .standard site.id? call' = .ok r →
        call'.method = call.method ∧
          (sent? site call').map Value.norm = (sent? site call).map Value.norm := by
  obtain ⟨r, hr⟩ := exists_request a site.id? call
  obtain ⟨hmethod, hcarries⟩ := carries_of_request hr hcall
  refine ⟨r, hr, hmethod, hcarries, get?_onBehalf, fun call' hendpoint hcall' hr' => ?_⟩
  obtain ⟨hmethod', hcarries'⟩ := carries_of_request hr' hcall'
  rw [hendpoint] at hcarries'
  exact ⟨hmethod'.symm.trans hmethod, hcarries'.unique hcarries⟩

/-- A question about a post, which names a site of its own. -/
def question : Call := ⟨.get, "posts", some (.map [("id", .uint 5), ("site", .int 3)])⟩

/-- The question is sent with the active site in place of its own. -/
theorem sent?_question : sent? { id := 7 } question
    = some (.map [("id", .uint 5), ("site", .int 7)]) := by
  have hbare : question.endpoint.contains '?' = false := by
    rw [String.contains_char_eq]
    decide
  rw [sent?, if_neg (by simp [hbare])]
  rfl

/-- It can be sent and read back. -/
theorem question_sendable : Sendable { id := 7 } question := by
  refine ⟨fun payload hpayload => ?_, fun v hv => ?_, fun v hv => ?_⟩
  · cases hpayload
    refine ⟨?_, trivial, trivial, trivial⟩
    unfold Fields.Sorted
    decide
  · cases sent?_question.symm.trans hv
    exact ⟨by decide, ⟨by decide, trivial⟩, ⟨by decide, trivial⟩, trivial⟩
  · cases sent?_question.symm.trans hv
    decide

/-- The active site takes the place of the one in the question, and the small number comes back in
the signed form. -/
theorem request_carries_question : Sendable { id := 7 } question ∧
    ∃ r, Api.request {} .standard (some 7) question = .ok r ∧ r.method = .get ∧
      Carries {} "posts" r (some (.map [("id", .int 5), ("site", .int 7)])) := by
  refine ⟨question_sendable, ?_⟩
  obtain ⟨r, hrequest, hmethod, hcarries, -, -⟩ :=
    request_carries {} { id := 7 } question question_sendable
  rw [sent?_question] at hcarries
  exact ⟨r, hrequest, hmethod, hcarries⟩

end Api

end Courier
