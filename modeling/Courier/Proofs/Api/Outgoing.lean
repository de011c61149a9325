import Courier.Api
import Courier.Proofs.Fields

/-!
# `Courier.Proofs.Api.Outgoing`: which calls have a request

A call has no request if its payload has no bytes, and a value has no bytes only for want of an
extension that packs its timestamps. So with the standard codec every call has a request
(`exists_request`). Credentials hold texts and at most the id of a site, so the call that logs in
has a request whatever the codec is (`exists_login`).

The requests of one call on behalf of different sites differ in what they carry, and in nothing else
(`sameFrame_of_request`). They do not differ at all if the payload is no map (`request_of_not_map`).
-/

set_option autoImplicit false

namespace Courier

namespace Codec

/-- Fields whose values have objects have entries. -/
theorem exists_toEntries {c : Codec} {fields : List (String × Value)}
    (h : ∀ p ∈ fields, ∃ x, c.toObject p.2 = .ok x) : ∃ xs, c.toEntries fields = .ok xs := by
  induction fields with
  | nil => exact ⟨[], rfl⟩
  | cons p rest ih =>
    obtain ⟨key, v⟩ := p
    obtain ⟨x, hx⟩ := h (key, v) List.mem_cons_self
    obtain ⟨xs, hxs⟩ := ih fun q hq => h q (List.mem_cons_of_mem _ hq)
    exact ⟨(.string (Bytes.ofString key), x) :: xs, by rw [toEntries, hx, hxs]⟩

mutual

/-- With the extension for timestamps every value has an object. -/
theorem exists_standardObject (v : Value) : ∃ x, standard.toObject v = .ok x := by
  cases v with
  | nil => exact ⟨.nil, rfl⟩
  | bool b => exact ⟨.bool b, rfl⟩
  | int n => exact ⟨.int n.toInt, rfl⟩
  | uint n => exact ⟨.int n.toNat, rfl⟩
  | float x => exact ⟨.float64 x, rfl⟩
  | string s => exact ⟨.string (Bytes.ofString s), rfl⟩
  | binary b => exact ⟨.binary b, rfl⟩
  | array items =>
    obtain ⟨xs, hxs⟩ := exists_standardItems items
    exact ⟨.array xs, by rw [toObject, hxs]⟩
  | map fields =>
    obtain ⟨xs, hxs⟩ := exists_standardEntries fields
    exact ⟨.map xs, by rw [toObject, hxs]⟩
  | timestamp t => exact ⟨.ext Timestamp.tag (Timestamp.pack t), rfl⟩
  | ext tag data => exact ⟨.ext tag data, rfl⟩

/-- The same goes for the items of a list. -/
theorem exists_standardItems (vs : List Value) : ∃ xs, standard.toItems vs = .ok xs := by
  cases vs with
  | nil => exact ⟨[], rfl⟩
  | cons v rest =>
    obtain ⟨x, hx⟩ := exists_standardObject v
    obtain ⟨xs, hxs⟩ := exists_standardItems rest
    exact ⟨x :: xs, by rw [toItems, hx, hxs]⟩

/-- And for the fields of a map. -/
theorem exists_standardEntries (fields : List (String × Value)) :
    ∃ xs, standard.toEntries fields = .ok xs := by
  cases fields with
  | nil => exact ⟨[], rfl⟩
  | cons p rest =>
    obtain ⟨key, v⟩ := p
    obtain ⟨x, hx⟩ := exists_standardObject v
    obtain ⟨xs, hxs⟩ := exists_standardEntries rest
    exact ⟨(.string (Bytes.ofString key), x) :: xs, by rw [toEntries, hx, hxs]⟩

end

end Codec

namespace Api

/-- A call whose payload has an object has a request. -/
theorem exists_request_of_toObject {a : Api} {codec : Codec} {site? : Option Int64} {call : Call}
    (h : ∀ payload, call.payload? = some payload →
      ∃ x, codec.toObject (withSite site? payload) = .ok x) :
    ∃ request, a.request codec site? call = .ok request := by
  unfold request
  cases hpayload : call.payload? with
  | none => exact ⟨_, rfl⟩
  | some payload =>
    obtain ⟨x, hx⟩ := h payload hpayload
    exact ⟨a.carry call (some x.bytes), by simp [Codec.encode, hx]⟩

/-- With the standard codec every call has a request. -/
theorem exists_request (a : Api) (site? : Option Int64) (call : Call) :
    ∃ request, a.request .standard site? call = .ok request :=
  exists_request_of_toObject fun payload _ => Codec.exists_standardObject (withSite site? payload)

/-- A login has a request with any codec. -/
theorem exists_login (a : Api) (codec : Codec) (site? : Option Int64) (c : Credentials) :
    ∃ request, a.request codec site? (c.login a.authEndpoint) = .ok request := by
  refine exists_request_of_toObject fun payload hpayload => ?_
  obtain rfl : c.payload = payload := Option.some.inj hpayload
  -- every field of the payload, with or without a site, is a text or an integer
  have hplain : ∀ fields : List (String × Value),
      (∀ p ∈ fields, (∃ s, p.2 = .string s) ∨ ∃ n, p.2 = .int n) →
      ∃ x, codec.toObject (.map fields) = .ok x := by
    intro fields hfields
    have hvalues : ∀ p ∈ fields, ∃ x, codec.toObject p.2 = .ok x := by
      intro p hp
      rcases hfields p hp with ⟨s, hs⟩ | ⟨n, hn⟩
      · exact ⟨_, by rw [hs, Codec.toObject]⟩
      · exact ⟨_, by rw [hn, Codec.toObject]⟩
    obtain ⟨xs, hxs⟩ := Codec.exists_toEntries hvalues
    exact ⟨.map xs, by rw [Codec.toObject, hxs]⟩
  have htexts : ∀ p ∈ Fields.ofList [("user", Value.string c.user), ("pass", .string c.pass)],
      ∃ s, p.2 = Value.string s := by
    intro p hp
    have hmem := Fields.mem_of_mem_ofList hp
    simp only [List.mem_cons, List.not_mem_nil, or_false] at hmem
    rcases hmem with rfl | rfl
    · exact ⟨c.user, rfl⟩
    · exact ⟨c.pass, rfl⟩
  unfold withSite
  cases site? with
  | none => exact hplain _ fun p hp => .inl (htexts p hp)
  | some id =>
    refine hplain _ fun p hp => ?_
    rcases Fields.mem_of_mem_insert hp with rfl | hp
    · exact .inr ⟨id, rfl⟩
    · exact .inl (htexts p hp)

/-! ### What a request has to do with the site -/

/-- Two requests that differ at most in what they carry: in the body, or in the query of a method
that carries its payload there. -/
structure SameFrame (r r' : Http.Request) : Prop where
  method : r.method = r'.method
  headers : r.headers = r'.headers
  url : r.method.inQuery = false → r.url = r'.url
  body : r.method.inQuery = true → r.body? = r'.body?

/-- A request has the frame that it has. -/
theorem SameFrame.refl (r : Http.Request) : SameFrame r r := ⟨rfl, rfl, fun _ => rfl, fun _ => rfl⟩

/-- Other bytes change nothing but what is carried. -/
theorem sameFrame_carry (a : Api) (call : Call) (bytes bytes' : Bytes) :
    SameFrame (a.carry call (some bytes)) (a.carry call (some bytes')) := by
  unfold carry
  dsimp only
  split
  case isTrue hquery =>
    -- the bytes are in the query, or nowhere
    split
    · exact .refl _
    · exact ⟨rfl, rfl, fun hbody => (nomatch hbody.symm.trans hquery), fun _ => rfl⟩
  case isFalse hbody =>
    exact ⟨rfl, rfl, fun _ => rfl, fun hquery => absurd hquery hbody⟩

section
variable {a : Api} {codec : Codec} {site? site'? : Option Int64} {call : Call}
  {r r' : Http.Request}

/-- The site decides about what a request carries, and about nothing else. -/
theorem sameFrame_of_request (h : a.request codec site? call = .ok r)
    (h' : a.request codec site'? call = .ok r') : SameFrame r r' := by
  unfold request at h h'
  cases hpayload : call.payload? with
  | none =>
    rw [hpayload] at h h'
    cases h
    cases h'
    exact .refl _
  | some payload =>
    rw [hpayload] at h h'
    dsimp only at h h'
    split at h
    case h_2 => exact nomatch h
    case h_1 bytes hbytes =>
      split at h'
      case h_2 => exact nomatch h'
      case h_1 bytes' hbytes' =>
        cases h
        cases h'
        exact sameFrame_carry a call bytes bytes'

/-- A request carries some bytes, or none. -/
theorem exists_carry_of_request (h : a.request codec site? call = .ok r) :
    ∃ bytes?, r = a.carry call bytes? := by
  unfold request at h
  split at h
  · cases h
    exact ⟨none, rfl⟩
  split at h
  · rename_i bytes hbytes
    cases h
    exact ⟨some bytes, rfl⟩
  · cases h

/-- Only a map names the site. -/
theorem withSite_of_not_map {payload : Value} (h : payload.kind ≠ .map) (site? : Option Int64) :
    withSite site? payload = payload := by
  unfold withSite
  cases site? with
  | none => rfl
  | some id =>
    cases payload with
    | map fields => exact absurd rfl h
    | _ => rfl

/-- A call whose payload is no map has the same request whatever the site is. -/
theorem request_of_not_map (h : ∀ payload, call.payload? = some payload → payload.kind ≠ .map) :
    a.request codec site? call = a.request codec site'? call := by
  unfold request
  cases hpayload : call.payload? with
  | none => rfl
  | some payload =>
    dsimp only
    rw [withSite_of_not_map (h payload hpayload) site?,
      withSite_of_not_map (h payload hpayload) site'?]

end

end Api

end Courier
