import Courier.Proofs.Http.RequestLine
import Courier.Proofs.Session.Sent
import Courier.Proofs.Transport.Cookies

/-!
# `Courier.Proofs.Transport.Scheme`: which scheme a URL turns out to have

Whether an API is encrypted is decided three times. A configuration is valid if its base URL begins
with one of two schemes. A transport has what it needs for encryption if the base URL begins with
the encrypted one (`isEncrypted`). And a request is encrypted if its URL has that scheme once it is
read, where the URL is the base URL, normalised, with any endpoint behind it.

Normalising can take slashes of the scheme away, as it does for `http://`, but never all of them: a
slash is put back. So a URL begins with one of the schemes, a colon and a slash
(`exists_url_of_request`). If another slash follows, this is the scheme that is read, and there is
a host, since no authority is empty. If none follows the text is no target (`read_web`).

`schemes_agree` is the consequence for whole runs, whatever the calls, the peers and the other
requests are: no request fails for its scheme or for want of a host.
-/

set_option autoImplicit false

namespace Courier

/-- The scheme of the web, encrypted or not. -/
def webScheme (encrypted : Bool) : String := if encrypted then "https" else "http"

/-! ### Reading a URL -/

namespace Http.Uri

section
variable {encrypted : Bool} {cs rest : List Char} {text : String} {u : Uri}

/-- A slash is the lower case of itself alone. -/
theorem eq_slash_of_toLower {c : Char} (h : c.toLower = '/') : c = '/' := by
  unfold Char.toLower at h
  split at h
  · -- the lower case of a capital comes behind all capitals, and a slash before
    rename_i hcapital
    have hval := congrArg Char.val h
    obtain ⟨hfirst, hlast⟩ := hcapital
    simp only [ge_iff_le, UInt32.le_iff_toNat_le, ← UInt32.toNat_inj, UInt32.toNat_add]
      at hfirst hlast hval
    simp at hfirst hlast hval
    omega
  · exact h

/-- A scheme of the web is found in front of two slashes. -/
theorem splitScheme_two_slashes (encrypted : Bool) (rest : List Char) :
    splitScheme ((webScheme encrypted).toList ++ ':' :: '/' :: '/' :: rest) =
      .ok (some (webScheme encrypted), rest) := by
  cases encrypted <;> rfl

/-- No scheme is found in front of a single slash. -/
theorem splitScheme_one_slash (encrypted : Bool) (h : rest.head? ≠ some '/') :
    splitScheme ((webScheme encrypted).toList ++ ':' :: '/' :: rest) =
      .ok (none, (webScheme encrypted).toList ++ ':' :: '/' :: rest) := by
  have hhead : rest.head?.map Char.toLower ≠ some '/' := by
    intro hlower
    obtain ⟨c, hc, hslash⟩ := Option.map_eq_some_iff.mp hlower
    rw [eq_slash_of_toLower hslash] at hc
    exact h hc
  have hscheme : ∀ c ∈ (webScheme encrypted).toList, isSchemeCharacter c = true := by
    have hletters : (webScheme encrypted).toList.all Char.isAlphanum = true := by
      cases encrypted <;> rfl
    intro c hc
    simp [isSchemeCharacter, List.all_eq_true.mp hletters c hc]
  have hcolon : isSchemeCharacter ':' = false := by cbv
  have hspan : ((webScheme encrypted).toList ++ ':' :: '/' :: rest).span isSchemeCharacter =
      ((webScheme encrypted).toList, ':' :: '/' :: rest) := by
    refine span_append hscheme fun c hc => ?_
    obtain rfl := Option.some.inj hc
    exact hcolon
  -- the fifth character tells the two schemes apart, and the second slash is missing
  have hopen : (((webScheme encrypted).toList ++ ':' :: '/' :: rest).take 7).map Char.toLower ≠
      "http://".toList := by
    intro hsame
    cases encrypted with
    | false =>
      cases rest with
      | nil =>
        have hnone : none = some '/' := congrArg (·[6]?) hsame
        cases hnone
      | cons c cs => exact hhead (congrArg (·[6]?) hsame)
    | true =>
      have hfifth : some 's' = some ':' := congrArg (·[4]?) hsame
      exact absurd hfifth (by decide)
  have hclosed : (((webScheme encrypted).toList ++ ':' :: '/' :: rest).take 8).map Char.toLower ≠
      "https://".toList := by
    intro hsame
    cases encrypted with
    | false =>
      have hfifth : some ':' = some 's' := congrArg (·[4]?) hsame
      exact absurd hfifth (by decide)
    | true =>
      cases rest with
      | nil =>
        have hnone : none = some '/' := congrArg (·[7]?) hsame
        cases hnone
      | cons c cs => exact hhead (congrArg (·[7]?) hsame)
  unfold splitScheme
  dsimp only
  rw [if_neg hopen, if_neg hclosed, hspan]
  cases rest with
  | nil => rfl
  | cons c cs =>
    have hc : c ≠ '/' := fun hc => h (congrArg some hc)
    simp [hc]

/-- Behind a scheme there is an authority. -/
theorem ofSchemeAndRest_spec {scheme : String} (h : ofSchemeAndRest scheme rest = .ok u) :
    u.scheme? = some scheme ∧ u.host?.isSome = true := by
  unfold ofSchemeAndRest at h
  split at h
  · cases h
  split at h
  · cases h
  · cases h
  · rename_i authority path hnonempty hsplit
    cases hpath : readPath path with
    | error e =>
      rw [hpath] at h
      cases h
    | ok path =>
      rw [hpath] at h
      cases h
      have hfull : (String.ofList authority).isEmpty = false := by
        refine String.isEmpty_eq_false_iff.mpr fun hempty => hnonempty ?_
        rw [← String.toList_ofList (l := authority), hempty]
        rfl
      refine ⟨rfl, ?_⟩
      simp only [host?, hfull, if_neg Bool.false_ne_true]
      split <;> rfl

/-- A target without a scheme is nothing but an authority, which has no slash. -/
theorem ofAuthority_of_slash {other : UriError} (h : '/' ∈ cs) : ofAuthority other cs ≠ .ok u := by
  intro hread
  unfold ofAuthority at hread
  split at hread
  · cases hread
  · rename_i authority hsplit
    unfold splitAuthority at hsplit
    rw [List.span_eq_takeWhile_dropWhile] at hsplit
    dsimp only at hsplit
    split at hsplit
    · cases hsplit
    split at hsplit
    · -- the authority is the whole text, so that no character ends it
      have hrest := (Prod.mk.inj (Except.ok.inj hsplit)).2
      have hslash := List.dropWhile_eq_nil_iff.mp hrest '/' h
      exact absurd hslash (by decide)
    · cases hsplit
  · cases hread

/-- What is read of a text that begins with a scheme of the web, a colon and a slash has this
scheme, and a host. -/
theorem read_web (htext : text.toList = (webScheme encrypted).toList ++ ':' :: '/' :: rest)
    (h : read text = .ok u) : u.scheme? = some (webScheme encrypted) ∧ u.host?.isSome = true := by
  have hfirst : text.toList.head? = some 'h' := by rw [htext]; cases encrypted <;> rfl
  have hsecond : text.toList[1]? = some 't' := by rw [htext]; cases encrypted <;> rfl
  unfold read at h
  split at h
  · cases h
  split at h
  -- two letters are neither a path nor one of the shortest targets
  · rename_i hnil
    rw [hnil] at hfirst
    cases hfirst
  · rename_i hstar
    rw [hstar] at hsecond
    cases hsecond
  · rename_i hpath
    rw [hpath] at hfirst
    exact absurd (Option.some.inj hfirst) (by decide)
  · rename_i hsingle
    rw [hsingle] at hsecond
    cases hsecond
  · rw [htext] at h
    by_cases hslash : rest.head? = some '/'
    · obtain ⟨rest, rfl⟩ := List.head?_eq_some_iff.mp hslash
      rw [splitScheme_two_slashes] at h
      exact ofSchemeAndRest_spec h
    · rw [splitScheme_one_slash encrypted hslash] at h
      have hmem : '/' ∈ (webScheme encrypted).toList ++ ':' :: '/' :: rest := by simp
      exact absurd h (ofAuthority_of_slash hmem)

end

end Http.Uri

/-! ### The URLs of an API -/

namespace Api

variable {a : Api}

/-- The base URL of valid settings has one of the two schemes. -/
theorem hasScheme_of_check (h : a.check = .ok ()) : hasScheme a.baseUrl = true := by
  by_contra hother
  unfold check at h
  split at h
  · cases h
  · rw [if_pos (by simp [hother])] at h
    cases h

/-- A valid base URL begins with the scheme that its API asks for. -/
theorem exists_baseUrl_of_hasScheme (h : hasScheme a.baseUrl = true) :
    ∃ rest, a.baseUrl.toList =
      (webScheme (Transport.isEncrypted a)).toList ++ ':' :: '/' :: '/' :: rest := by
  unfold hasScheme at h
  cases hencrypted : Transport.isEncrypted a with
  | true =>
    obtain ⟨rest, hrest⟩ := List.isPrefixOf_iff_prefix.mp hencrypted
    exact ⟨rest, hrest.symm⟩
  | false =>
    have hopen : "http://".toList.isPrefixOf a.baseUrl.toList = true := by
      rw [show "https://".toList.isPrefixOf a.baseUrl.toList = false from hencrypted,
        Bool.or_false] at h
      exact h
    obtain ⟨rest, hrest⟩ := List.isPrefixOf_iff_prefix.mp hopen
    exact ⟨rest, hrest.symm⟩

/-- Normalising takes no letter and no colon away, and leaves a slash behind them. -/
theorem exists_normalized_of_hasScheme (h : hasScheme a.baseUrl = true) :
    ∃ rest, a.normalizedBaseUrl.toList =
      (webScheme (Transport.isEncrypted a)).toList ++ ':' :: '/' :: rest := by
  obtain ⟨rest, hbase⟩ := exists_baseUrl_of_hasScheme h
  generalize (webScheme (Transport.isEncrypted a)).toList = scheme at hbase ⊢
  have hcolon : ∀ c ∈ (scheme ++ [':']).getLast?, c ≠ '/' := by simp
  have hnormalized : a.normalizedBaseUrl.toList =
      scheme ++ ':' :: (trimSlashes ('/' :: '/' :: rest) ++ ['/']) := by
    have hsplit : scheme ++ ':' :: '/' :: '/' :: rest =
        (scheme ++ [':']) ++ '/' :: '/' :: rest := by
      simp
    rw [normalizedBaseUrl, String.toList_ofList, hbase, hsplit, trimSlashes_append hcolon]
    simp
  rw [hnormalized]
  cases htrimmed : trimSlashes ('/' :: '/' :: rest) with
  | nil => exact ⟨[], rfl⟩
  | cons c cs =>
    -- what is left of the slashes and the rest begins as they do
    obtain ⟨more, hmore⟩ := trimSlashes_front ('/' :: '/' :: rest)
    rw [htrimmed] at hmore
    obtain rfl : c = '/' := (List.cons.inj hmore).1
    exact ⟨cs ++ ['/'], rfl⟩

/-- The base URL stands in front of whatever is asked for. -/
theorem exists_url_eq_append {codec : Codec} {site? : Option Int64} {call : Call}
    {r : Http.Request} (h : a.request codec site? call = .ok r) :
    ∃ tail, r.url = a.normalizedBaseUrl ++ tail := by
  obtain ⟨bytes?, rfl⟩ := exists_carry_of_request h
  unfold carry
  dsimp only
  split
  · exact ⟨_, rfl⟩
  · split
    · split
      · exact ⟨_, rfl⟩
      · exact ⟨_, by rw [String.append_assoc, String.append_assoc]⟩
    · exact ⟨_, rfl⟩

/-- The URL of a request begins with the scheme that its API asks for, a colon and a slash. -/
theorem exists_url_of_request {codec : Codec} {site? : Option Int64} {call : Call}
    {r : Http.Request} (hscheme : hasScheme a.baseUrl = true)
    (h : a.request codec site? call = .ok r) :
    ∃ rest, r.url.toList =
      (webScheme (Transport.isEncrypted a)).toList ++ ':' :: '/' :: rest := by
  obtain ⟨rest, hrest⟩ := exists_normalized_of_hasScheme hscheme
  obtain ⟨tail, htail⟩ := exists_url_eq_append h
  refine ⟨rest ++ tail.toList, ?_⟩
  rw [htail, String.toList_append, hrest, List.append_assoc]
  rfl

end Api

/-- What is valid as a whole has a valid API. -/
theorem Config.check_api {c : Config} (h : c.check = .ok ()) : c.api.check = .ok () := by
  unfold check at h
  split at h
  · cases h
  · assumption

/-! ### Errors about schemes -/

/-- The errors of a transport that is not made for the scheme of a URL, or finds no host in it. -/
inductive TransportError.DeniesScheme : TransportError → Prop
  | connector : DeniesScheme (.tlsConfig "https URL without TLS connector")
  | scheme (found : String) : DeniesScheme (.invalidUrl ("unsupported scheme: " ++ found))
  | host (url : String) : DeniesScheme (.invalidUrl ("missing host: " ++ url))

namespace Transport

/-- A transport has what it needs for encryption if its API asks for that. -/
theorem isSome_connector?_of_ofConfig {disk : Disk} {c : Config} {t : Transport}
    (h : ofConfig disk c = .ok t) : t.connector?.isSome = isEncrypted c.api := by
  unfold ofConfig at h
  cases hencrypted : isEncrypted c.api with
  | false =>
    rw [if_neg (by simp [hencrypted])] at h
    cases h
    rfl
  | true =>
    rw [if_pos hencrypted] at h
    cases hconnector : Tls.Connector.ofSettings disk c.tls with
    | error fault =>
      rw [hconnector] at h
      cases h
    | ok connector =>
      rw [hconnector] at h
      cases h
      rfl

section
variable {t : Transport} {encrypted : Bool} {r : Http.Request} {rest : List Char}
  {e : TransportError}

/-- An error that begins with the URL does not begin with a word about its scheme or host. -/
theorem not_deniesScheme_of_url
    (hurl : r.url.toList = (webScheme encrypted).toList ++ ':' :: '/' :: rest) (cause : String) :
    ¬ (TransportError.invalidUrl (r.url ++ ": " ++ cause)).DeniesScheme := by
  have hfirst : ∀ text : String, "unsupported scheme: " ++ text ≠ r.url ++ ": " ++ cause ∧
      "missing host: " ++ text ≠ r.url ++ ": " ++ cause := by
    intro text
    have hhead : (r.url ++ ": " ++ cause).toList.head? = some 'h' := by
      rw [String.toList_append, String.toList_append, hurl]
      cases encrypted <;> rfl
    refine ⟨fun hsame => ?_, fun hsame => ?_⟩
    · rw [← hsame, String.toList_append] at hhead
      have hletter : some 'u' = some 'h' := hhead
      exact absurd hletter (by decide)
    · rw [← hsame, String.toList_append] at hhead
      have hletter : some 'm' = some 'h' := hhead
      exact absurd hletter (by decide)
  generalize r.url ++ ": " ++ cause = detail at hfirst
  intro hdenies
  cases hdenies with
  | scheme found => exact (hfirst found).1 rfl
  | host url => exact (hfirst url).2 rfl

/-- A peer without a name is no wrong scheme. -/
theorem not_deniesScheme_of_ofHost {host : String}
    (h : Tls.ServerName.ofHost t.tls host = .error e) : ¬ e.DeniesScheme := by
  have hfirst : ∀ name : String,
      "https URL without TLS connector" ≠ "invalid server name: " ++ name := by
    intro name hsame
    have hletter : some 'h' = some 'i' := by
      have hhead : "https URL without TLS connector".toList.head? =
          ("invalid server name: " ++ name).toList.head? := by rw [hsame]
      rw [String.toList_append] at hhead
      exact hhead
    exact absurd hletter (by decide)
  unfold Tls.ServerName.ofHost at h
  dsimp only at h
  split at h
  · cases h
  · cases h
    generalize hdetail : "invalid server name: " ++ t.tls.serverName?.getD host = detail
    intro hdenies
    cases hdenies
    exact hfirst _ hdetail.symm

/-- A transport made for a URL finds the scheme and the host that it expects, if it can read the URL
at all. -/
theorem not_deniesScheme_of_route (hconnector : t.connector?.isSome = encrypted)
    (hurl : r.url.toList = (webScheme encrypted).toList ++ ':' :: '/' :: rest)
    (h : t.route r = .error e) : ¬ e.DeniesScheme := by
  unfold route at h
  split at h
  · cases h
    exact not_deniesScheme_of_url hurl _
  rename_i uri huri
  obtain ⟨hscheme, hhost⟩ := Http.Uri.read_web hurl huri
  split at h
  · cases h
    exact not_deniesScheme_of_url hurl _
  split at h
  · rename_i hnone
    rw [hnone] at hhost
    exact nomatch hhost
  rename_i host _
  unfold routeTo at h
  -- an open transport needs no connector, and an encrypted one has it
  cases encrypted with
  | false =>
    have hopen : uri.scheme? = some "http" := hscheme
    rw [if_pos hopen] at h
    exact nomatch h
  | true =>
    have hclosed : uri.scheme? = some "https" := hscheme
    have hother : uri.scheme? ≠ some "http" := by
      rw [hclosed]
      decide
    obtain ⟨connector, hsome⟩ := Option.isSome_iff_exists.mp hconnector
    rw [if_neg hother, if_pos hclosed, hsome] at h
    cases hpeer : Tls.ServerName.ofHost t.tls host with
    | error cause =>
      rw [hpeer] at h
      cases h
      exact not_deniesScheme_of_ofHost hpeer
    | ok peer =>
      rw [hpeer] at h
      exact nomatch h

/-- What comes back says nothing about the scheme. -/
theorem not_deniesScheme_of_receive {now : Int} {route : Route} {b : Bytes}
    (h : (t.receive now route b).2 = .error e) : ¬ e.DeniesScheme := by
  unfold receive at h
  split at h
  · cases h
    exact nofun
  · dsimp only at h
    split at h
    · cases h
      exact nofun
    · cases h

/-- Nothing that comes back can be about the scheme. -/
theorem not_deniesScheme_of_conclude {now : Int} {route : Route} {reply : Reply}
    (h : (t.conclude now route reply).2 = .error e) : ¬ e.DeniesScheme := by
  cases reply with
  | closed b => exact not_deniesScheme_of_receive h
  | brokenOff b why =>
    unfold conclude interrupt at h
    dsimp only at h
    split at h
    · exact not_deniesScheme_of_receive h
    · split at h
      · cases h
        cases why <;> exact nofun
      · cases h
        cases why <;> exact nofun

/-- Neither does anything that happens on the way deny the scheme. -/
theorem not_deniesScheme_of_send {x : Sending}
    (hroute : ∀ e, t.route x.request = .error e → ¬ e.DeniesScheme)
    (h : (t.send x).outcome = .error e) : ¬ e.DeniesScheme := by
  unfold send at h
  split at h
  · rename_i hfailed
    cases h
    exact hroute _ hfailed
  split at h
  · rename_i obstacle _
    cases h
    cases obstacle <;> exact nofun
  split at h
  · rename_i hfailed
    unfold compose at hfailed
    split at hfailed
    · cases hfailed
      cases h
      exact nofun
    · cases hfailed
  · exact not_deniesScheme_of_conclude h

end

end Transport

/-- The three decisions on encryption agree in any run of the requests of an API, with a transport
for the same valid configuration, whatever it has met with before.

* A URL that can be read has the scheme that the base URL begins with, and a host.
* The transport has what it needs for encryption exactly if that is the encrypted scheme.
* So no request fails because its scheme is not expected, or because it has no host. -/
theorem Run.schemes_agree {disk : Disk} {c : Config} {t : Transport} {history : List Moment}
    {w : Workload} {m : Moment} {task : Nat} {r : Http.Request} (hvalid : c.check = .ok ())
    (htransport : Transport.ofConfig disk c = .ok t) (hrun : Run history w)
    (hapi : ∀ m ∈ history, ∀ e, m.signal = .start e → e.dispatcher.api = c.api)
    (hm : m ∈ history) (hsent : .sent task r ∈ m.events) :
    (∀ uri, Http.Uri.read r.url = .ok uri →
      uri.scheme? = some (webScheme (Transport.isEncrypted c.api)) ∧ uri.host?.isSome = true) ∧
    ∀ past, (t.after past).connector?.isSome = Transport.isEncrypted c.api ∧
      ∀ x, x.request = r → ∀ e, ((t.after past).send x).outcome = .error e →
        ¬ e.DeniesScheme := by
  obtain ⟨x, hx, e, hstart, site?, call, hrequest⟩ := hrun.canSend_of_sent hm hsent
  rw [hapi x hx e hstart] at hrequest
  have hscheme : Api.hasScheme c.api.baseUrl = true :=
    Api.hasScheme_of_check (Config.check_api hvalid)
  obtain ⟨rest, hurl⟩ := Api.exists_url_of_request hscheme hrequest
  refine ⟨fun uri huri => Http.Uri.read_web hurl huri, fun past => ?_⟩
  have hconnector : (t.after past).connector?.isSome = Transport.isEncrypted c.api := by
    rw [← Transport.isSome_connector?_of_ofConfig htransport, Transport.after_eq_recordAll]
  refine ⟨hconnector, ?_⟩
  rintro x rfl e houtcome
  exact Transport.not_deniesScheme_of_send
    (fun e he => Transport.not_deniesScheme_of_route hconnector hurl he) houtcome

/-- A base URL that is nothing but a scheme, with anybody trusted. -/
def bare : Config := { api := { baseUrl := "https://" }, tls := { insecure := true } }

/-- A call whose endpoint names the host. -/
def hostCall : Errand where
  task := 0
  front := 0
  dispatcher := { api := bare.api }
  call := { method := .get, endpoint := "/a/x" }

/-- The request of that call. -/
def hostRequest : Http.Request := ⟨.get, "https://a/x", Api.commonHeaders, none⟩

/-- There is a session in which the call is made and its request is sent. -/
theorem exists_run_hostCall :
    ∃ history w m, replay? [] { session := {} } [.start hostCall] = some (history, w) ∧
      history = [m] ∧ m.signal = .start hostCall ∧ .sent 0 hostRequest ∈ m.events := by
  refine ⟨_, _, _, rfl, rfl, rfl, ?_⟩
  have hevents : (hostCall.start {}).events = [.loading 0 true, .sent 0 hostRequest] := by rfl
  show .sent 0 hostRequest ∈ (hostCall.start {}).events
  rw [hevents]
  exact List.mem_cons_of_mem _ (List.mem_singleton.mpr rfl)

/-- Even a base URL that is nothing but a scheme is put together with an endpoint so that the scheme
is found again. -/
theorem Run.schemes_agree_bare :
    ∃ t history w m, bare.check = .ok () ∧ Transport.ofConfig (Disk.ofFiles []) bare = .ok t ∧
      Run history w ∧ m ∈ history ∧ .sent 0 hostRequest ∈ m.events ∧
      Http.Uri.read hostRequest.url = .ok ⟨some "https", "a", "/x"⟩ ∧
      webScheme (Transport.isEncrypted bare.api) = "https" ∧
      ∀ past, (t.after past).connector?.isSome = Transport.isEncrypted bare.api ∧
        ∀ x, x.request = hostRequest → ∀ e, ((t.after past).send x).outcome = .error e →
          ¬ e.DeniesScheme := by
  have hvalid : bare.check = .ok () := by decide
  obtain ⟨t, htransport⟩ : ∃ t, Transport.ofConfig (Disk.ofFiles []) bare = .ok t := ⟨_, rfl⟩
  obtain ⟨history, w, m, hreplay, rfl, hstart, hsent⟩ := exists_run_hostCall
  have hrun := Run.of_replay? (.idle {}) hreplay
  have hm : m ∈ [m] := List.mem_singleton.mpr rfl
  have hapi : ∀ x ∈ [m], ∀ e, x.signal = .start e → e.dispatcher.api = bare.api := by
    intro x hx e he
    rw [List.mem_singleton.mp hx, hstart] at he
    cases he
    rfl
  have huri : Http.Uri.read hostRequest.url = .ok ⟨some "https", "a", "/x"⟩ := by
    have hrest : Http.Uri.ofSchemeAndRest "https" "a/x".toList
        = .ok ⟨some "https", "a", "/x"⟩ := by cbv
    exact hrest
  obtain ⟨hread, hpast⟩ := Run.schemes_agree hvalid htransport hrun hapi hm hsent
  have hscheme : webScheme (Transport.isEncrypted bare.api) = "https" :=
    (Option.some.inj (hread _ huri).1).symm
  exact ⟨t, [m], w, m, hvalid, htransport, hrun, hm, hsent, huri, hscheme, hpast⟩

end Courier
