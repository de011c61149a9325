import Courier.Proofs.Config
import Courier.Proofs.Transport.Scheme

/-!
# `Courier.Proofs.Api.BaseUrl`: what becomes of a base URL when it is normalised

Normalising takes all slashes from the end of a base URL and puts one back. So it is the text in
front of those slashes, the stem, that says what comes out, and only their number changes.

A base URL is valid if it begins with a scheme and two slashes. These two belong to the slashes at
its end if nothing else follows (`IsBare`), as in `http://`. Then one of them is lost: what comes
out is not valid itself, and an endpoint behind it makes a URL without a scheme, unless it begins
with a slash of its own (`scheme_cut`). Every other valid base URL stays valid
(`normalized_valid_unless_bare`).
-/

set_option autoImplicit false

namespace Courier.Api

/-! ### Slashes at the end -/

section
variable {cs : List Char}

/-- What is taken from the end are slashes. -/
theorem exists_slashes (cs : List Char) :
    ∃ count, cs = trimSlashes cs ++ List.replicate count '/' := by
  have hslashes : ∀ c ∈ (cs.reverse.takeWhile (· = '/')).reverse, c = '/' := by
    intro c hc
    simpa using List.mem_takeWhile_imp (List.mem_reverse.mp hc)
  have htaken := List.eq_replicate_of_mem hslashes
  refine ⟨(cs.reverse.takeWhile (· = '/')).reverse.length, ?_⟩
  rw [← htaken, trimSlashes, ← List.reverse_append, List.takeWhile_append_dropWhile,
    List.reverse_reverse]

/-- No slash is left at the end. -/
theorem getLast?_trimSlashes (cs : List Char) : (trimSlashes cs).getLast? ≠ some '/' := by
  have hhead := List.head?_dropWhile_not (· = '/') cs.reverse
  rw [trimSlashes, List.getLast?_reverse]
  intro hslash
  rw [hslash] at hhead
  simp at hhead

/-- Nothing is left of slashes. -/
theorem trimSlashes_replicate (count : Nat) : trimSlashes (List.replicate count '/') = [] := by
  rw [trimSlashes, List.reverse_replicate, List.reverse_eq_nil_iff, List.dropWhile_eq_nil_iff]
  intro c hc
  simpa using List.eq_of_mem_replicate hc

/-- How many slashes there are behind the stem makes no difference. -/
theorem trimSlashes_append_replicate (h : cs.getLast? ≠ some '/') (count : Nat) :
    trimSlashes (cs ++ List.replicate count '/') = cs := by
  have hlast : ∀ c ∈ cs.getLast?, c ≠ '/' := by
    rintro c hc rfl
    exact h hc
  rw [trimSlashes_append hlast, trimSlashes_replicate, List.append_nil]

end

/-! ### Schemes -/

/-- The settings with the base URL as it stands in front of endpoints. -/
def normalized (a : Api) : Api := { a with baseUrl := a.normalizedBaseUrl }

/-- A URL that is nothing but a scheme of the web and slashes. -/
def IsBare (url : String) : Prop :=
  ∃ encrypted count,
    url.toList = (webScheme encrypted).toList ++ ':' :: List.replicate count '/'

section
variable {a : Api} {url : String}

/-- What comes out is the stem and one slash. -/
theorem toList_normalizedBaseUrl (a : Api) :
    a.normalizedBaseUrl.toList = trimSlashes a.baseUrl.toList ++ ['/'] := by
  rw [normalizedBaseUrl, String.toList_ofList]

/-- Normalising is done once and for all. -/
theorem normalizedBaseUrl_normalized (a : Api) :
    a.normalized.normalizedBaseUrl = a.normalizedBaseUrl := by
  have hstem : trimSlashes a.normalizedBaseUrl.toList = trimSlashes a.baseUrl.toList := by
    rw [toList_normalizedBaseUrl]
    exact trimSlashes_append_replicate (getLast?_trimSlashes _) 1
  rw [normalizedBaseUrl, normalized, hstem, normalizedBaseUrl]

/-- Without the slashes at its end a bare URL ends in a colon. -/
theorem isBare_iff : IsBare url ↔
    ∃ encrypted, trimSlashes url.toList = (webScheme encrypted).toList ++ [':'] := by
  have hcolon : ∀ encrypted, ((webScheme encrypted).toList ++ [':']).getLast? ≠ some '/' := by
    simp
  constructor
  · rintro ⟨encrypted, count, h⟩
    refine ⟨encrypted, ?_⟩
    rw [h, List.append_cons, trimSlashes_append_replicate (hcolon encrypted)]
  · rintro ⟨encrypted, h⟩
    obtain ⟨count, hcount⟩ := exists_slashes url.toList
    refine ⟨encrypted, count, ?_⟩
    rw [h, List.append_assoc] at hcount
    exact hcount

/-- Behind a scheme, a colon and a slash another slash must follow. -/
theorem hasScheme_iff {encrypted : Bool} {cs : List Char}
    (h : url.toList = (webScheme encrypted).toList ++ ':' :: '/' :: cs) :
    hasScheme url = true ↔ cs.head? = some '/' := by
  rw [hasScheme, h]
  cases cs with
  | nil => cases encrypted <;> decide
  | cons c cs =>
    have hfirst : '/' = c ↔ c = '/' := eq_comm
    cases encrypted <;> simp [webScheme, hfirst]

/-- A base URL with a scheme loses one of its slashes if it is bare, and keeps both otherwise. -/
theorem normalized_cases (h : hasScheme a.baseUrl = true) :
    (IsBare a.baseUrl ∧ a.normalizedBaseUrl.toList =
      (webScheme (Transport.isEncrypted a)).toList ++ [':', '/']) ∨
    (¬ IsBare a.baseUrl ∧ ∃ rest, a.normalizedBaseUrl.toList =
      (webScheme (Transport.isEncrypted a)).toList ++ ':' :: '/' :: '/' :: rest) := by
  obtain ⟨rest, hbase⟩ := exists_baseUrl_of_hasScheme h
  generalize Transport.isEncrypted a = encrypted at hbase ⊢
  have hcolon : ∀ c ∈ ((webScheme encrypted).toList ++ [':']).getLast?, c ≠ '/' := by simp
  have hstem : trimSlashes a.baseUrl.toList =
      (webScheme encrypted).toList ++ ':' :: trimSlashes ('/' :: '/' :: rest) := by
    rw [hbase, List.append_cons, trimSlashes_append hcolon, ← List.append_cons]
  rw [toList_normalizedBaseUrl, isBare_iff, hstem]
  cases htrimmed : trimSlashes ('/' :: '/' :: rest) with
  | nil => exact .inl ⟨⟨encrypted, rfl⟩, by simp⟩
  | cons c cs =>
    obtain ⟨more, hmore⟩ := trimSlashes_front ('/' :: '/' :: rest)
    rw [htrimmed] at hmore
    obtain ⟨rfl, hcs⟩ := List.cons.inj hmore
    -- a single slash would be one at the end
    have hlast := getLast?_trimSlashes ('/' :: '/' :: rest)
    rw [htrimmed] at hlast
    cases cs with
    | nil => exact absurd rfl hlast
    | cons d ds =>
      obtain rfl : d = '/' := (List.cons.inj hcs).1
      refine .inr ⟨?_, ds ++ ['/'], by simp⟩
      rintro ⟨other, hother⟩
      cases encrypted <;> cases other <;> simp [webScheme] at hother

/-- So a URL that begins with a base URL has a scheme unless the base URL is bare, or else if what
follows it begins with a slash. -/
theorem hasScheme_append_iff (h : hasScheme a.baseUrl = true) (tail : String) :
    hasScheme (a.normalizedBaseUrl ++ tail) = true ↔
      (IsBare a.baseUrl → tail.toList.head? = some '/') := by
  rcases normalized_cases h with ⟨hbare, htext⟩ | ⟨hfull, rest, htext⟩
  · have hurl : (a.normalizedBaseUrl ++ tail).toList =
        (webScheme (Transport.isEncrypted a)).toList ++ ':' :: '/' :: tail.toList := by
      rw [String.toList_append, htext, List.append_assoc]
      rfl
    rw [hasScheme_iff hurl]
    exact ⟨fun hhead _ => hhead, fun hhead => hhead hbare⟩
  · have hurl : (a.normalizedBaseUrl ++ tail).toList =
        (webScheme (Transport.isEncrypted a)).toList ++ ':' :: '/' :: '/' ::
          (rest ++ tail.toList) := by
      rw [String.toList_append, htext, List.append_assoc]
      rfl
    rw [hasScheme_iff hurl]
    exact ⟨fun _ hbare => absurd hbare hfull, fun _ => rfl⟩

/-- What comes out has a scheme unless the base URL is bare. -/
theorem hasScheme_normalized_iff (h : hasScheme a.baseUrl = true) :
    hasScheme a.normalizedBaseUrl = true ↔ ¬ IsBare a.baseUrl := by
  have happend := hasScheme_append_iff h ""
  rw [String.append_empty] at happend
  rw [happend]
  have hempty : "".toList.head? ≠ some '/' := by decide
  exact ⟨fun hhead hbare => hempty (hhead hbare), fun hfull hbare => absurd hbare hfull⟩

/-- Normalising changes nothing that is looked at but the scheme. -/
theorem check_normalized (h : a.check = .ok ()) : a.normalized.check =
    if hasScheme a.normalizedBaseUrl then .ok ()
    else .error (.otherScheme a.normalizedBaseUrl) := by
  have hnonempty : a.normalizedBaseUrl.isEmpty = false := by
    refine String.isEmpty_eq_false_iff.mpr fun hempty => ?_
    have hslash := toList_normalizedBaseUrl a
    rw [hempty] at hslash
    simp at hslash
  have hendpoint : a.authEndpoint.isEmpty = false := by
    rw [check_eq] at h
    split at h
    · cases h
    · by_contra hempty
      rw [if_pos (by simpa using hempty)] at h
      cases h
  rw [check, normalized, hnonempty, hendpoint]
  cases hasScheme a.normalizedBaseUrl <;> rfl

/-- What a request asks for stands right behind the base URL, and no slash stands behind that. -/
theorem exists_url_eq_endpoint {codec : Codec} {site? : Option Int64} {call : Call}
    {r : Http.Request} (h : a.request codec site? call = .ok r) :
    ∃ query : String, r.url = a.normalizedBaseUrl ++ (call.endpoint ++ query) ∧
      query.toList.head? ≠ some '/' := by
  obtain ⟨bytes?, rfl⟩ := exists_carry_of_request h
  have hplain : a.normalizedBaseUrl ++ call.endpoint =
      a.normalizedBaseUrl ++ (call.endpoint ++ "") := by
    rw [String.append_empty]
  unfold carry
  dsimp only
  split
  · exact ⟨"", hplain, nofun⟩
  · split
    · split
      · exact ⟨"", hplain, nofun⟩
      · rename_i bytes _ _
        refine ⟨"?data=" ++ a.encoding.encode bytes, by simp only [String.append_assoc], ?_⟩
        rw [String.toList_append]
        exact fun hslash => absurd (Option.some.inj hslash) (by decide)
    · exact ⟨"", hplain, nofun⟩

end

/-- Normalising a valid base URL changes the number of slashes at its end to one, and nothing else,
and doing so again changes nothing. What comes out is valid, and what stands behind it has one of
the two schemes, with one exception: a base URL that is nothing but a scheme and slashes. Of that
one slash of the scheme is left, which is not valid, and only what begins with a slash makes a URL
with a scheme behind it. The same holds for the URLs of requests. -/
theorem normalized_valid_unless_bare {a : Api} (hvalid : a.check = .ok ()) :
    (∃ stem count, stem.getLast? ≠ some '/' ∧
      a.baseUrl.toList = stem ++ List.replicate count '/' ∧
      a.normalizedBaseUrl.toList = stem ++ ['/']) ∧
    a.normalized.normalizedBaseUrl = a.normalizedBaseUrl ∧
    (¬ IsBare a.baseUrl → a.normalized.check = .ok ()) ∧
    (IsBare a.baseUrl →
      a.normalizedBaseUrl = webScheme (Transport.isEncrypted a) ++ ":/" ∧
      a.normalized.check = .error (.otherScheme a.normalizedBaseUrl)) ∧
    (∀ endpoint : String, hasScheme (a.normalizedBaseUrl ++ endpoint) = true ↔
      (IsBare a.baseUrl → endpoint.toList.head? = some '/')) ∧
    ∀ codec site? call r, a.request codec site? call = .ok r →
      (hasScheme r.url = true ↔ (IsBare a.baseUrl → call.endpoint.toList.head? = some '/')) := by
  have hscheme := hasScheme_of_check hvalid
  have hcheck := check_normalized hvalid
  refine ⟨?_, normalizedBaseUrl_normalized a, fun hfull => ?_, fun hbare => ⟨?_, ?_⟩,
    hasScheme_append_iff hscheme, fun codec site? call r hrequest => ?_⟩
  · obtain ⟨count, hcount⟩ := exists_slashes a.baseUrl.toList
    exact ⟨trimSlashes a.baseUrl.toList, count, getLast?_trimSlashes _, hcount,
      toList_normalizedBaseUrl a⟩
  · rw [hcheck, if_pos ((hasScheme_normalized_iff hscheme).mpr hfull)]
  · rcases normalized_cases hscheme with ⟨-, htext⟩ | ⟨hfull, -⟩
    · rw [← String.toList_inj, htext, String.toList_append]
      rfl
    · exact absurd hbare hfull
  · rw [hcheck, if_neg fun hkept => (hasScheme_normalized_iff hscheme).mp hkept hbare]
  · -- a query that is added begins with no slash, so the endpoint decides
    obtain ⟨query, hurl, hquery⟩ := exists_url_eq_endpoint hrequest
    have hhead : (call.endpoint ++ query).toList.head? = some '/' ↔
        call.endpoint.toList.head? = some '/' := by
      rw [String.toList_append]
      cases call.endpoint.toList with
      | nil => exact ⟨fun hslash => absurd hslash hquery, nofun⟩
      | cons c cs => rfl
    rw [hurl, hasScheme_append_iff hscheme, hhead]

/-- A base URL with two slashes at its end. -/
def doubled : Api := { baseUrl := "https://example.com/api//" }

/-- There is more to it than a scheme. -/
theorem not_isBare_doubled : ¬ IsBare doubled.baseUrl := by
  rw [isBare_iff]
  rintro ⟨encrypted, hstem⟩
  cases encrypted <;> exact absurd hstem (by decide)

/-- A base URL that is nothing but a scheme, with one more slash. -/
def schemeOnly : Api := { baseUrl := "http:///" }

/-- There is not. -/
theorem isBare_schemeOnly : IsBare schemeOnly.baseUrl := ⟨false, 3, by decide⟩

/-- Of two slashes behind a path one is left. Of three behind a scheme one is left, too, and a call
of `pages` is then made to `http:/pages`. -/
theorem normalized_valid_unless_bare_slashes :
    doubled.check = .ok () ∧ doubled.normalized.check = .ok () ∧
    hasScheme (doubled.normalizedBaseUrl ++ "pages") = true ∧
    schemeOnly.check = .ok () ∧ schemeOnly.normalizedBaseUrl = "http:/" ∧
    schemeOnly.normalized.check = .error (.otherScheme "http:/") ∧
    hasScheme (schemeOnly.normalizedBaseUrl ++ "/example.com/pages") = true ∧
    ∃ r, schemeOnly.request .standard none { method := .get, endpoint := "pages" } = .ok r ∧
      ¬ hasScheme r.url = true := by
  have hdoubled : doubled.check = .ok () := by decide
  have hschemeOnly : schemeOnly.check = .ok () := by decide
  obtain ⟨-, -, hvalid, -, hurls, -⟩ := normalized_valid_unless_bare hdoubled
  obtain ⟨-, -, -, hbare, hbareUrls, hrequests⟩ := normalized_valid_unless_bare hschemeOnly
  obtain ⟨htext, hinvalid⟩ := hbare isBare_schemeOnly
  have hslash : schemeOnly.normalizedBaseUrl = "http:/" := htext
  rw [hslash] at hinvalid
  obtain ⟨r, hrequest⟩ : ∃ r, schemeOnly.request .standard none
      { method := .get, endpoint := "pages" } = .ok r := ⟨_, rfl⟩
  refine ⟨hdoubled, hvalid not_isBare_doubled, ?_, hschemeOnly, hslash, hinvalid, ?_, r, hrequest,
    ?_⟩
  · exact (hurls "pages").mpr fun hbare => absurd hbare not_isBare_doubled
  · exact (hbareUrls "/example.com/pages").mpr fun _ => by decide
  · rw [hrequests .standard none _ r hrequest]
    exact fun hhead => absurd (hhead isBare_schemeOnly) (by decide)

/-- So a valid base URL is not enough for what comes out to be valid. -/
theorem scheme_cut :
    ¬ ∀ a : Api, a.check = .ok () → a.normalized.check = .ok () ∧
      ∀ endpoint : String, hasScheme (a.normalizedBaseUrl ++ endpoint) = true := by
  intro h
  obtain ⟨hkept, -⟩ := h { baseUrl := "http://" } (by decide)
  exact absurd hkept (by decide)

end Courier.Api
