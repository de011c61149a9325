import Courier.Api
import Courier.Proofs.Http.Uri
import Courier.Proofs.QueryEncoding
import Courier.Transport
import Mathlib

/-!
# `Courier.Proofs.Http.RequestLine`: what of a URL is written

A URL is read twice on its way to the line of a request: for the route, and as the target that is
written (`Transport.target_of_sent`). Normalising a base URL changes its path only, so the URL of a
call has the host of the base URL, and behind that a path that begins with a slash. Whatever part of
it has neither a question mark nor a number sign is written as it is (`Transport.target_of_path`).

The endpoint of a `get` is looked through for a question mark, not for a number sign. If it has one,
the payload that is put behind the endpoint is part of a fragment, and a fragment is not sent.
-/

set_option autoImplicit false

namespace Courier

namespace Http.Written

variable {userAgent : String} {cookies? : Option String} {u : Uri} {r : Request} {w : Written}

/-- What is written as the target of a request is the target of its URL, read once more. -/
theorem target_of_ofRequest (h : ofRequest userAgent cookies? u r = .ok w) :
    ∃ target, Uri.read u.target = .ok target ∧ w.target = target.target := by
  unfold ofRequest at h
  split at h
  · cases h
  · rename_i target htarget
    refine ⟨target, htarget, ?_⟩
    simp only [bind, Except.bind, pure, Except.pure] at h
    split at h
    · cases h
    split at h
    · cases h
    split at h
    · cases h
    cases h
    rfl

end Http.Written

namespace Transport

variable {t : Transport} {now : Int} {network : Network} {r : Http.Request} {w : Http.Written}

/-- The target of a route is that of the URL of its request. -/
theorem uri_of_route {route : Route} (h : t.route r = .ok route) :
    Http.Uri.read r.url = .ok route.uri := by
  -- each check only refuses; none of them changes the URL
  unfold Transport.route at h
  split at h
  · cases h
  rename_i uri huri
  split at h
  · cases h
  split at h
  · cases h
  unfold routeTo at h
  split at h
  · cases h
    exact huri
  split at h
  · split at h
    · cases h
    · cases hpeer : Tls.ServerName.ofHost t.tls _ with
      | error e =>
        rw [hpeer] at h
        cases h
      | ok peer =>
        rw [hpeer] at h
        cases h
        exact huri
  · cases h

/-- What is written has the target of the URL of the request. -/
theorem target_of_sent (h : (t.exchange now network r).sent? = some w) :
    ∃ uri target, Http.Uri.read r.url = .ok uri ∧ Http.Uri.read uri.target = .ok target ∧
      w.target = target.target := by
  unfold exchange at h
  split at h
  · cases h
  rename_i route hroute
  split at h
  · cases h
  split at h
  · cases h
  rename_i written hwritten
  cases h
  unfold compose at hwritten
  split at hwritten
  · cases hwritten
  rename_i hrequest
  cases hwritten
  obtain ⟨target, hread, hsame⟩ := Http.Written.target_of_ofRequest hrequest
  exact ⟨route.uri, target, uri_of_route hroute, hread, hsame⟩

end Transport

namespace Api

/-! ### Base URLs -/

/-- A base URL of the web that has a host, and neither a query nor a fragment. -/
structure IsPlainBase (url : String) (authority path : List Char) : Prop where
  text : url.toList = "http://".toList ++ (authority ++ path)
  nonempty : authority ≠ []
  /-- No character of the authority ends it. -/
  host : ∀ c ∈ authority, Http.Uri.endsAuthority c = false
  /-- The path begins with a slash, if there is one. -/
  rooted : ∀ c ∈ path.head?, c = '/'
  noQuery : '?' ∉ path
  noFragment : '#' ∉ path

section
variable {xs ys : List Char}

/-- What is left is the front of what there was. -/
theorem trimSlashes_front (cs : List Char) : trimSlashes cs <+: cs := by
  have hsuffix := List.dropWhile_suffix (l := cs.reverse) (· = '/')
  rw [← List.reverse_prefix, List.reverse_reverse] at hsuffix
  exact hsuffix

/-- No slashes are taken from in front of another character. -/
theorem trimSlashes_append (h : ∀ c ∈ xs.getLast?, c ≠ '/') :
    trimSlashes (xs ++ ys) = xs ++ trimSlashes ys := by
  have hkept : xs.reverse.dropWhile (· = '/') = xs.reverse := by
    rw [← List.head?_reverse] at h
    cases hreverse : xs.reverse with
    | nil => rfl
    | cons c cs =>
      rw [hreverse] at h
      rw [List.dropWhile_cons_of_neg]
      simpa using h c rfl
  unfold trimSlashes
  rw [List.reverse_append, List.dropWhile_append]
  split
  · rename_i hempty
    rw [hkept, List.isEmpty_iff.mp hempty, List.reverse_nil, List.append_nil,
      List.reverse_reverse]
  · rw [List.reverse_append, List.reverse_reverse]

end

/-- The path of a base URL once it is normalised. -/
def root (path : List Char) : List Char := trimSlashes path ++ ['/']

section
variable {a : Api} {authority path : List Char}

/-- Normalising a base URL changes its path only. -/
theorem IsPlainBase.toList_normalized (h : IsPlainBase a.baseUrl authority path) :
    a.normalizedBaseUrl.toList = "http://".toList ++ (authority ++ root path) := by
  have hlast : ∀ c ∈ ("http://".toList ++ authority).getLast?, c ≠ '/' := by
    intro c hc
    rw [List.getLast?_append_of_ne_nil _ h.nonempty] at hc
    rintro rfl
    exact absurd (h.host '/' (List.mem_of_getLast? hc)) (by decide)
  rw [normalizedBaseUrl, String.toList_ofList, h.text, ← List.append_assoc,
    trimSlashes_append hlast, root]
  simp only [List.append_assoc]

/-- The root of a plain base begins with a slash. -/
theorem IsPlainBase.head?_root (h : IsPlainBase a.baseUrl authority path) :
    (root path).head? = some '/' := by
  unfold root
  cases htrimmed : trimSlashes path with
  | nil => rfl
  | cons c cs =>
    obtain ⟨more, hmore⟩ := trimSlashes_front path
    have hslash : c = '/' := h.rooted c (by rw [← hmore, htrimmed]; rfl)
    rw [hslash]
    rfl

/-- Slashes are the only characters that normalising adds. -/
theorem not_mem_root {c : Char} (hpath : c ∉ path) (hslash : c ≠ '/') : c ∉ root path := by
  intro hc
  rcases List.mem_append.mp hc with hc | hc
  · exact hpath ((trimSlashes_front path).mem hc)
  · exact hslash (List.mem_singleton.mp hc)

end

end Api

namespace Transport

variable {t : Transport} {now : Int} {network : Network} {r : Http.Request} {w : Http.Written}
  {authority path rest : List Char}

/-- A target that is a path, with what is kept of a query behind it, is read as it is. -/
theorem target_of_slash {text : String} {target : Http.Uri} {kept : List Char}
    (hslash : path.head? = some '/') (hquery : '?' ∉ path) (hfragment : '#' ∉ path)
    (hagain : Http.Uri.readQuery kept = .ok kept) (hstart : ∀ c ∈ kept.head?, c = '?')
    (htext : text.toList = path ++ kept) (h : Http.Uri.read text = .ok target) :
    target.pathAndQuery = text := by
  obtain ⟨tail, rfl⟩ := List.head?_eq_some_iff.mp hslash
  obtain ⟨line, hline, rfl⟩ := Http.Uri.read_slash htext h
  obtain ⟨query, hread, rfl⟩ := Http.Uri.readPath_append hquery hfragment
    (fun c hc => .inl (hstart c hc)) hline
  rw [hagain] at hread
  cases hread
  rw [← htext, String.ofList_toList]

/-- A request to a path of a host is written with the path, and with what is kept of what follows
it. -/
theorem target_of_path (hnonempty : authority ≠ [])
    (hauthority : ∀ c ∈ authority, Http.Uri.endsAuthority c = false)
    (hslash : path.head? = some '/') (hquery : '?' ∉ path) (hfragment : '#' ∉ path)
    (hrest : ∀ c ∈ rest.head?, c = '?' ∨ c = '#')
    (hurl : r.url.toList = "http://".toList ++ (authority ++ (path ++ rest)))
    (hsent : (t.exchange now network r).sent? = some w) :
    ∃ kept, Http.Uri.readQuery rest = .ok kept ∧ w.target.toList = path ++ kept := by
  obtain ⟨uri, target, huri, htarget, hsame⟩ := target_of_sent hsent
  have hne : path ≠ [] := by
    rintro rfl
    cases hslash
  have hend : ∀ c ∈ (path ++ rest).head?, Http.Uri.endsAuthority c = true := by
    rw [List.head?_append_of_ne_nil _ hne, hslash]
    intro c hc
    cases hc
    rfl
  obtain ⟨line, hline, rfl⟩ := Http.Uri.read_http hnonempty hauthority hend hurl huri
  obtain ⟨kept, hkept, rfl⟩ := Http.Uri.readPath_append hquery hfragment hrest hline
  obtain ⟨hagain, hstart⟩ := Http.Uri.readQuery_of_kept hkept
  have hlist : (String.ofList (path ++ kept)).toList = path ++ kept := String.toList_ofList
  -- the target is not empty, so it is read again as it is
  have hfull : (String.ofList (path ++ kept)).isEmpty = false := by
    refine String.isEmpty_eq_false_iff.mpr fun hempty => hne ?_
    rw [String.toList_eq_nil_iff.mpr hempty] at hlist
    exact (List.append_eq_nil_iff.mp hlist.symm).1
  refine ⟨kept, hkept, ?_⟩
  rw [Http.Uri.target, hfull] at htarget
  have hread := target_of_slash hslash hquery hfragment hagain hstart hlist htarget
  rw [hsame, Http.Uri.target, hread, hfull]
  exact hlist

end Transport

namespace Api

variable {a : Api} {codec : Codec} {site? : Option Int64} {call : Call} {payload : Value}
  {r : Http.Request} {t : Transport} {now : Int} {network : Network} {w : Http.Written}
  {authority path : List Char}

/-- The URL of a `get` with a payload has the text of the payload at its end. -/
theorem url_of_get (hget : call.method = .get) (hpayload : call.payload? = some payload)
    (hbare : '?' ∉ call.endpoint.toList) (hrequest : a.request codec site? call = .ok r) :
    ∃ bytes, codec.encode (withSite site? payload) = .ok bytes ∧
      r.url = a.normalizedBaseUrl ++ call.endpoint ++ "?data=" ++ a.encoding.encode bytes := by
  have hcontains : call.endpoint.contains '?' = false := by
    rw [String.contains_char_eq]
    simpa using hbare
  rw [request, hpayload] at hrequest
  dsimp only at hrequest
  split at hrequest
  · rename_i bytes hbytes
    cases hrequest
    refine ⟨bytes, hbytes, ?_⟩
    rw [carry]
    rw [hget, hcontains, if_pos (by rfl), if_neg Bool.false_ne_true]
  · cases hrequest

/-- The text of a payload has no character that ends a query. -/
theorem isQueryCharacter_of_mem_data {e : QueryEncoding} {bytes : Bytes} :
    ∀ c ∈ "data=".toList ++ (e.encode bytes).toList, Http.Uri.isQueryCharacter c = true := by
  have hmark : "data=".toList.all Http.Uri.isQueryCharacter = true := by rfl
  have halphabet : e.alphabet.all Http.Uri.isQueryCharacter = true := by cases e <;> rfl
  intro c hc
  rcases List.mem_append.mp hc with hc | hc
  · exact List.all_eq_true.mp hmark c hc
  · exact List.all_eq_true.mp halphabet c (QueryEncoding.mem_alphabet_of_mem_encode hc)

/-- What is written of a `get` with a payload. Behind an endpoint without a fragment stands the text
of the payload. Otherwise nothing stands behind the part of the endpoint that is no fragment. -/
theorem target_of_get (hbase : IsPlainBase a.baseUrl authority path) (hget : call.method = .get)
    (hpayload : call.payload? = some payload) (hbare : '?' ∉ call.endpoint.toList)
    (hrequest : a.request codec site? call = .ok r)
    (hsent : (t.exchange now network r).sent? = some w) :
    ∃ bytes, codec.encode (withSite site? payload) = .ok bytes ∧
      ('#' ∉ call.endpoint.toList → w.target.toList = root path ++
        (call.endpoint.toList ++ ("?data=" ++ a.encoding.encode bytes).toList)) ∧
      ∀ front fragment, call.endpoint.toList = front ++ '#' :: fragment → '#' ∉ front →
        w.target.toList = root path ++ front := by
  obtain ⟨bytes, hbytes, hurl⟩ := url_of_get hget hpayload hbare hrequest
  have hlist : r.url.toList = "http://".toList ++ (authority ++ (root path ++
      (call.endpoint.toList ++ ("?data=" ++ a.encoding.encode bytes).toList))) := by
    rw [hurl]
    simp only [String.toList_append, hbase.toList_normalized, List.append_assoc]
  have hquery : '?' ∉ root path := not_mem_root hbase.noQuery (by decide)
  have hfragment : '#' ∉ root path := not_mem_root hbase.noFragment (by decide)
  -- whatever part of the endpoint is added, the path begins as that of the base URL does
  have hslash : ∀ more, (root path ++ more).head? = some '/' := by
    intro more
    rw [List.head?_append, hbase.head?_root]
    rfl
  refine ⟨bytes, hbytes, fun hwhole => ?_, fun front fragment hendpoint hfront => ?_⟩
  · -- the endpoint belongs to the path, and the text of the payload is the query
    have hdata : ("?data=" ++ a.encoding.encode bytes).toList
        = '?' :: ("data=".toList ++ (a.encoding.encode bytes).toList) := String.toList_append
    have hstart : ∀ c ∈ ("?data=" ++ a.encoding.encode bytes).toList.head?, c = '?' ∨ c = '#' := by
      rw [hdata]
      exact fun c hc => .inl (Option.some.inj hc).symm
    rw [← List.append_assoc (root path)] at hlist
    obtain ⟨kept, hread, htarget⟩ := Transport.target_of_path hbase.nonempty hbase.host
      (hslash _) (List.not_mem_append hquery hbare) (List.not_mem_append hfragment hwhole)
      hstart hlist hsent
    rw [hdata, Http.Uri.readQuery_of_all isQueryCharacter_of_mem_data] at hread
    cases hread
    rw [htarget, hdata, List.append_assoc]
  · -- the fragment begins in the endpoint, and takes what is behind it along
    have hfrontQuery : '?' ∉ front := fun hc =>
      hbare (by rw [hendpoint]; exact List.mem_append_left _ hc)
    rw [hendpoint, List.append_assoc front, List.cons_append, ← List.append_assoc (root path)]
      at hlist
    have hstart : ∀ c ∈ ('#' :: (fragment ++ ("?data=" ++ a.encoding.encode bytes).toList)).head?,
        c = '?' ∨ c = '#' := fun c hc => .inr (Option.some.inj hc).symm
    obtain ⟨kept, hread, htarget⟩ := Transport.target_of_path hbase.nonempty hbase.host
      (hslash _) (List.not_mem_append hquery hfrontQuery) (List.not_mem_append hfragment hfront)
      hstart hlist hsent
    cases hread
    rw [htarget, List.append_nil]

/-! ### The page with a number -/

/-- A call for the page with the number 7. -/
def page (endpoint : String) : Call := ⟨.get, endpoint, some (.map [("id", .int 7)])⟩

/-- An API on a host with a name of one letter. -/
def short : Api := { baseUrl := "http://a/" }

/-- A network that connects everybody and hangs up. -/
def silent : Network := fun _ => .ok fun _ => []

/-- A request without a body. -/
def fetch (url : String) : Http.Request := ⟨.get, url, commonHeaders, none⟩

/-- It is plain, and nothing stands behind the host but a slash. -/
theorem isPlainBase_short : IsPlainBase short.baseUrl ['a'] ['/'] where
  text := by rfl
  nonempty := List.cons_ne_nil _ _
  host := List.forall_mem_singleton.mpr rfl
  rooted := fun _ h => (Option.some.inj h).symm
  noQuery := by decide
  noFragment := by decide

/-- A call for a page with this payload becomes the fetch of a URL. -/
theorem request_page {endpoint : String} (url : String) (hbare : '?' ∉ endpoint.toList)
    (hurl : "http://a/" ++ endpoint ++ "?data=81a2696407" = url) :
    short.request .standard none (page endpoint) = .ok (fetch url) := by
  have hbytes : Codec.standard.encode (withSite none (.map [("id", .int 7)]))
      = .ok [0x81, 0xa2, 0x69, 0x64, 0x07] := by cbv
  have hdata : "?data=" ++ short.encoding.encode [0x81, 0xa2, 0x69, 0x64, 0x07]
      = "?data=81a2696407" := by rfl
  have hbase : short.normalizedBaseUrl = "http://a/" := by rfl
  have hcontains : endpoint.contains '?' = false := by
    rw [String.contains_char_eq]
    simpa using hbare
  rw [request, page]
  dsimp only
  rw [hbytes]
  dsimp only
  rw [carry, hcontains, hbase, ← hurl, ← hdata, ← String.append_assoc]
  rfl

/-- A request to that host is written whatever its path is, if its URL can be read. -/
theorem exists_sent (url path : String) {target : Http.Uri}
    (huri : Http.Uri.read url = .ok ⟨some "http", "a", path⟩) (hurl : (Url.read url).isOk = true)
    (hpath : path.isEmpty = false) (htarget : Http.Uri.read path = .ok target) :
    ∃ w, (({} : Transport).exchange 0 silent (fetch url)).sent? = some w := by
  have hwhole : Http.Uri.target ⟨some "http", "a", path⟩ = path := by
    rw [Http.Uri.target, hpath]
    rfl
  have hhost : Http.Uri.host? ⟨some "http", "a", path⟩ = some "a" := by cbv
  have hname : Http.Written.hostHeader ⟨some "http", "a", path⟩ = "a" := by cbv
  have howner : Http.Written.header "host" "a" = .ok ("host", "a") := by cbv
  have hagent : Http.Written.header "user-agent" "mazewire/0.1.0"
      = .ok ("user-agent", "mazewire/0.1.0") := by cbv
  have hcontrol : Http.Written.header "Cache-Control" "no-store"
      = .ok ("cache-control", "no-store") := by cbv
  -- the texts are evaluated by now, so only the branches are left
  unfold Transport.exchange Transport.route Transport.compose Http.Written.ofRequest
  rw [fetch, huri]
  cases hread : Url.read url with
  | error e =>
    rw [hread] at hurl
    cases hurl
  | ok u =>
    dsimp only
    rw [hhost]
    have hjar : ({} : Transport).jar.header? 0 u = none := by rfl
    simp only [Transport.routeTo, if_pos, silent, hwhole, htarget, hname, commonHeaders,
      List.mapM_cons, List.mapM_nil, howner, hagent, hcontrol, hjar]
    exact ⟨_, rfl⟩

/-- A `get` with a payload whose endpoint has no query of its own, to a plain base: the line that is
written ends with the text of the payload if the endpoint has no fragment. If it has one, the line
has no query at all. -/
theorem payload_on_line_iff_no_fragment (hbase : IsPlainBase a.baseUrl authority path)
    (hget : call.method = .get) (hpayload : call.payload? = some payload)
    (hbare : '?' ∉ call.endpoint.toList) (hrequest : a.request codec site? call = .ok r)
    (hsent : (t.exchange now network r).sent? = some w) :
    ∃ bytes, codec.encode (withSite site? payload) = .ok bytes ∧
      (("?data=" ++ a.encoding.encode bytes).toList <:+ w.target.toList ↔
        '#' ∉ call.endpoint.toList) ∧
      ('#' ∈ call.endpoint.toList → '?' ∉ w.target.toList) := by
  obtain ⟨bytes, hbytes, hwhole, hcut⟩ :=
    target_of_get hbase hget hpayload hbare hrequest hsent
  have hlost : '#' ∈ call.endpoint.toList → '?' ∉ w.target.toList := by
    intro hfragment
    -- the line ends where the fragment begins, and in front of it there is no question mark
    obtain ⟨front, fragment, hendpoint, hfront⟩ := List.eq_append_cons_of_mem hfragment
    rw [hcut front fragment hendpoint hfront]
    refine List.not_mem_append (not_mem_root hbase.noQuery (by decide)) fun hc => hbare ?_
    rw [hendpoint]
    exact List.mem_append_left _ hc
  refine ⟨bytes, hbytes, ⟨fun hsuffix hfragment => ?_, fun hfragment => ?_⟩, hlost⟩
  · -- the text of the payload begins with a question mark
    have hmark : '?' ∈ ("?data=" ++ a.encoding.encode bytes).toList := by
      rw [String.toList_append]
      exact List.mem_append_left _ (by decide)
    exact hlost hfragment (hsuffix.mem hmark)
  · rw [hwhole hfragment, ← List.append_assoc]
    exact List.suffix_append _ _

/-- The payload of a call for `pages` is on the line. -/
theorem payload_on_line_pages : ∃ r w, short.request .standard none (page "pages") = .ok r ∧
    (({} : Transport).exchange 0 silent r).sent? = some w ∧
    ∃ bytes, Codec.standard.encode (.map [("id", .int 7)]) = .ok bytes ∧
      ("?data=" ++ short.encoding.encode bytes).toList <:+ w.target.toList := by
  have hbare : '?' ∉ (page "pages").endpoint.toList := by decide
  have hrequest := request_page "http://a/pages?data=81a2696407" hbare (by rfl)
  have htarget : Http.Uri.read "/pages?data=81a2696407"
      = .ok { pathAndQuery := "/pages?data=81a2696407" } := by cbv
  obtain ⟨w, hsent⟩ := exists_sent "http://a/pages?data=81a2696407" "/pages?data=81a2696407"
    (by cbv) (by cbv) (by rfl) htarget
  obtain ⟨bytes, hbytes, hline, -⟩ := payload_on_line_iff_no_fragment isPlainBase_short rfl rfl
    hbare hrequest hsent
  exact ⟨_, w, hrequest, hsent, bytes, hbytes, hline.mpr (by decide)⟩

/-- The payload of a call for `pages#top` is not. -/
theorem lost_behind_fragment :
    ¬ ∀ (a : Api) (codec : Codec) (site? : Option Int64) (call : Call) (payload : Value)
      (r : Http.Request) (t : Transport) (now : Int) (network : Network) (w : Http.Written)
      (authority path : List Char), IsPlainBase a.baseUrl authority path → call.method = .get →
      call.payload? = some payload → '?' ∉ call.endpoint.toList →
      a.request codec site? call = .ok r → (t.exchange now network r).sent? = some w →
      ∃ bytes, codec.encode (withSite site? payload) = .ok bytes ∧
        ("?data=" ++ a.encoding.encode bytes).toList <:+ w.target.toList := by
  intro hclaim
  have hbare : '?' ∉ (page "pages#top").endpoint.toList := by decide
  have hrequest := request_page "http://a/pages#top?data=81a2696407" hbare (by rfl)
  have hread : Http.Uri.read "/pages" = .ok { pathAndQuery := "/pages" } := by cbv
  obtain ⟨w, hsent⟩ := exists_sent "http://a/pages#top?data=81a2696407" "/pages" (by cbv) (by cbv)
    (by rfl) hread
  obtain ⟨bytes, -, hsuffix⟩ := hclaim short .standard none (page "pages#top") _ _ {} 0 silent w
    ['a'] ['/'] isPlainBase_short rfl rfl hbare hrequest hsent
  obtain ⟨_, -, -, hcut⟩ := target_of_get isPlainBase_short rfl rfl hbare hrequest hsent
  have htarget : w.target.toList = "/pages".toList :=
    hcut "pages".toList "top".toList (by rfl) (by decide)
  have hmark : '?' ∈ ("?data=" ++ short.encoding.encode bytes).toList := by
    rw [String.toList_append]
    exact List.mem_append_left _ (by decide)
  have hmem := hsuffix.mem hmark
  rw [htarget] at hmem
  exact absurd hmem (by decide)

end Api

end Courier
