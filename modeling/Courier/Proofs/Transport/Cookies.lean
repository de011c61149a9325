import Courier.Proofs.Api.Outgoing
import Courier.Proofs.Transport.Sequence

/-!
# `Courier.Proofs.Transport.Cookies`: the jar is what has been heard

A transport looks into its jar for each request, and puts into it what the head of the answer sets.
This module says what is in the jar after any sequence of requests, whatever the peers do: the
cookies of the heads that have been heard, put in one after another (`after_eq_recordAll`). A body
that is cut short, or a status that is an error, makes no difference to this, and a request that
fails in front of the head leaves no trace.

The other way round, a request is written with the cookies of the jar. Writing puts headers of one
name together and adds the length of the body; neither changes the values of any other name
(`valuesOf_grouped`, `valuesOf_withLength`). So the values of `cookie` that are written are those of
the request itself, and behind them the header of the jar if there is one
(`cookies_of_ofRequest`). A request of an API has none itself, so it is written with the cookies of
the jar alone (`valuesOf_cookie_of_request`).

`cookies_follow_heads` has both, for the last one of a sequence of requests. How a jar puts in a
cookie, and which cookies apply to a URL, is `Courier.Cookie.Jar`, of which nothing is used here.
-/

set_option autoImplicit false

namespace Courier

/-! ### The values of a header -/

namespace Http

/-- The values of the headers with a name, in order. -/
def valuesOf (name : String) (hs : List (String × String)) : List String :=
  (hs.filter (·.1 = name)).map (·.2)

/-- The values that a request gives to a header, in order. -/
def Request.valuesOf (r : Request) (name : String) : List String :=
  (r.headers.filter fun h => sameName h.1 name).map (·.2)

namespace Written

section
variable {name : String} {h : String × String} {hs : List (String × String)}

/-- The values of headers follow one another as these do. -/
theorem valuesOf_append (name : String) (hs gs : List (String × String)) :
    valuesOf name (hs ++ gs) = valuesOf name hs ++ valuesOf name gs := by
  simp [valuesOf]

/-- A header is the last one of its name wherever it is placed. -/
theorem valuesOf_place (name : String) (h : String × String) (hs : List (String × String)) :
    valuesOf name (place h hs) = valuesOf name (hs ++ [h]) := by
  induction hs with
  | nil => rfl
  | cons g gs ih =>
    unfold place
    split
    · rename_i hlast
      obtain ⟨hsame, hnone⟩ := hlast
      -- behind `g` there is no header of this name, so `h` may as well stand at the end
      have hrest : ∀ other ∈ gs, other.1 ≠ h.1 := by simpa using hnone
      by_cases hname : h.1 = name
      · have hempty : gs.filter (·.1 = name) = [] := by
          rw [List.filter_eq_nil_iff]
          intro other hother
          simpa [← hname] using hrest other hother
        simp [valuesOf, hsame, hname, hempty]
      · simp [valuesOf, hsame, hname]
    · rw [← List.singleton_append, valuesOf_append, ih, ← valuesOf_append]
      rfl

/-- So it makes no difference in which order headers are placed one after another. -/
theorem valuesOf_foldl_place (name : String) (hs placed : List (String × String)) :
    valuesOf name (hs.foldl (fun placed h => place h placed) placed) =
      valuesOf name (placed ++ hs) := by
  induction hs generalizing placed with
  | nil => simp
  | cons h hs ih => rw [List.foldl_cons, ih, valuesOf_append, valuesOf_place, ← valuesOf_append,
      List.append_assoc, List.singleton_append]

/-- Putting headers of one name together keeps the values of each. -/
theorem valuesOf_grouped (name : String) (hs : List (String × String)) :
    valuesOf name (grouped hs) = valuesOf name hs :=
  valuesOf_foldl_place name hs []

/-- Only headers about the length of the body come with the body. -/
theorem valuesOf_withLength (body : Bytes) (hlength : name ≠ "content-length")
    (hencoding : name ≠ "transfer-encoding") :
    valuesOf name (withLength body hs) = valuesOf name hs := by
  unfold withLength
  split
  · simp only [valuesOf, List.filter_filter]
    congr 1
    apply List.filter_congr
    intro h _
    by_cases hname : h.1 = name
    · simp [hname, hencoding]
    · simp [hname]
  · split
    · rfl
    · simp [valuesOf, hlength.symm]

/-- A header that can be written has its name in lower case. -/
theorem header_eq_ok {value : String} (hok : header name value = .ok h) :
    h = (String.ofList (name.toList.map lowerChar), value) := by
  unfold header at hok
  split at hok
  · cases hok
  split at hok
  · cases hok
  exact (Except.ok.inj hok).symm

/-- Headers that can be written have their names in lower case. -/
theorem mapM_header_eq_ok {gs : List (String × String)}
    (hok : hs.mapM (fun h => header h.1 h.2) = .ok gs) :
    gs = hs.map fun h => (String.ofList (h.1.toList.map lowerChar), h.2) := by
  induction hs generalizing gs with
  | nil => exact (Except.ok.inj hok).symm
  | cons h hs ih =>
    rw [List.mapM_cons] at hok
    cases hhead : header h.1 h.2 with
    | error e =>
      rw [hhead] at hok
      exact nomatch hok
    | ok g =>
      cases htail : hs.mapM (fun h => header h.1 h.2) with
      | error e =>
        rw [hhead, htail] at hok
        exact nomatch hok
      | ok tail =>
        rw [hhead, htail] at hok
        cases hok
        rw [header_eq_ok hhead, ih htail, List.map_cons]

/-- Headers in lower case have the values that they had in any case. -/
theorem valuesOf_lower (hlower : name.toList.map lowerChar = name.toList)
    (hs : List (String × String)) :
    valuesOf name (hs.map fun h => (String.ofList (h.1.toList.map lowerChar), h.2)) =
      (hs.filter fun h => sameName h.1 name).map (·.2) := by
  have hsame : ∀ s : String, String.ofList (s.toList.map lowerChar) = name ↔
      sameName s name = true := by
    intro s
    rw [sameName, decide_eq_true_iff, hlower, ← String.toList_inj, String.toList_ofList]
  simp only [valuesOf, List.filter_map, List.map_map, Function.comp_def, hsame, Bool.decide_eq_true]

/-- The cookies that are written: those of the request, and behind them the reminder if there is
one. -/
theorem cookies_of_ofRequest {userAgent : String} {cookies? : Option String} {u : Uri}
    {r : Request} {w : Written} (hok : ofRequest userAgent cookies? u r = .ok w) :
    valuesOf "cookie" w.headers = r.valuesOf "cookie" ++ cookies?.toList := by
  unfold ofRequest at hok
  split at hok
  · cases hok
  rename_i target _
  simp only [bind, Except.bind, pure, Except.pure] at hok
  split at hok
  · cases hok
  rename_i own hown
  split at hok
  · cases hok
  rename_i given hgiven
  split at hok
  · cases hok
  rename_i cookies hcookies
  cases hok
  have hlower : "cookie".toList.map lowerChar = "cookie".toList := by decide
  -- neither an added length nor the grouping nor the change of case touches the values of a name
  rw [valuesOf_withLength _ (by decide) (by decide), valuesOf_grouped, valuesOf_append,
    valuesOf_append, mapM_header_eq_ok hown, mapM_header_eq_ok hgiven, mapM_header_eq_ok hcookies,
    valuesOf_lower hlower, valuesOf_lower hlower, valuesOf_lower hlower, Request.valuesOf]
  have hclient : ([("host", hostHeader u), ("user-agent", userAgent)].filter
      fun h => sameName h.1 "cookie") = [] := by
    have hhost : sameName "host" "cookie" = false := by decide
    have hagent : sameName "user-agent" "cookie" = false := by decide
    simp [hhost, hagent]
  have hreminder : sameName "cookie" "cookie" = true := by decide
  cases cookies? with
  | none => simp [hclient]
  | some reminder => simp [hclient, hreminder]

end

end Written

end Http

/-- The requests of an API give no cookies of their own. -/
theorem Api.valuesOf_cookie_request {a : Api} {codec : Codec} {site? : Option Int64} {call : Call}
    {r : Http.Request} (h : a.request codec site? call = .ok r) : r.valuesOf "cookie" = [] := by
  have hcontrol : Http.sameName "Cache-Control" "cookie" = false := by decide
  have htype : Http.sameName "Content-Type" "cookie" = false := by decide
  obtain ⟨bytes?, rfl⟩ := exists_carry_of_request h
  unfold carry
  dsimp only
  split
  · simp [Http.Request.valuesOf, commonHeaders, hcontrol]
  · split
    · split <;> simp [Http.Request.valuesOf, commonHeaders, hcontrol]
    · simp [Http.Request.valuesOf, commonHeaders, hcontrol, htype]

/-! ### The jar -/

/-- A text that is to set a cookie, with the URL that it came from and the second in which it
came. -/
structure Setting where
  time : Int
  url : Url
  text : String
deriving DecidableEq

/-- What a head sets, in order: all its texts that can be read. -/
def Heard.settings (h : Heard) : List Setting :=
  (Transport.cookieTexts h.head).map (⟨h.time, h.url, ·⟩)

/-- The jar after some texts have come, one after another. -/
def Cookie.Jar.recordAll (jar : Cookie.Jar) (settings : List Setting) : Cookie.Jar :=
  settings.foldl (fun jar s => jar.record s.time s.url s.text) jar

namespace Transport

section
variable {t : Transport} {x : Sending} {written : Http.Written}

/-- A head that is heard is put into the jar, and changes nothing else. -/
theorem hear_eq (t : Transport) (h : Heard) :
    t.hear h = { t with jar := t.jar.recordAll h.settings } := by
  simp only [hear, record, Cookie.Jar.recordAll, Heard.settings, List.foldl_map]

/-- Heads that are heard one after another are put into the jar in this order. -/
theorem foldl_hear (t : Transport) (hs : List Heard) :
    hs.foldl hear t = { t with jar := t.jar.recordAll (hs.flatMap Heard.settings) } := by
  induction hs generalizing t with
  | nil => rfl
  | cons h hs ih =>
    rw [List.foldl_cons, ih, hear_eq, List.flatMap_cons]
    simp only [Cookie.Jar.recordAll, List.foldl_append]

/-- After any sequence of requests a transport is what it was, with what has been heard put into
its jar. -/
theorem after_eq_recordAll (t : Transport) (xs : List Sending) :
    t.after xs = { t with jar := t.jar.recordAll ((t.heardBy xs).flatMap Heard.settings) } := by
  rw [after_eq, foldl_hear]

/-- A request that is written reminds its URL of what is in the jar. -/
theorem valuesOf_cookie_of_sent? (h : (t.send x).sent? = some written) :
    ∃ url, Url.read x.request.url = .ok url ∧
      Http.valuesOf "cookie" written.headers =
        x.request.valuesOf "cookie" ++ (t.jar.header? x.writtenAt url).toList := by
  obtain ⟨route, reply, hthrough⟩ := through?_of_sent? h
  obtain ⟨connection, hroute, -, hcompose, -⟩ := through?_eq_some_iff.mp hthrough
  obtain ⟨-, hurl, -⟩ := route_eq_ok hroute
  refine ⟨route.url, hurl, ?_⟩
  unfold compose at hcompose
  split at hcompose
  · cases hcompose
  rename_i hrequest
  cases hcompose
  exact Http.Written.cookies_of_ofRequest hrequest

/-- A request of an API brings no cookies, so it is written with those of the jar alone, whatever
has been sent before. -/
theorem valuesOf_cookie_of_request {a : Api} {codec : Codec} {site? : Option Int64} {call : Call}
    {past : List Sending} (hrequest : a.request codec site? call = .ok x.request)
    (hsent : ((t.after past).send x).sent? = some written) :
    ∃ url, Url.read x.request.url = .ok url ∧
      Http.valuesOf "cookie" written.headers =
        ((t.jar.recordAll ((t.heardBy past).flatMap Heard.settings)).header?
          x.writtenAt url).toList := by
  obtain ⟨url, hurl, hvalues⟩ := valuesOf_cookie_of_sent? hsent
  rw [a.valuesOf_cookie_request hrequest, List.nil_append, after_eq_recordAll] at hvalues
  exact ⟨url, hurl, hvalues⟩

/-- What a transport remembers, whatever requests it has sent before one more.

* Its jar is the one that it had in the beginning, with all texts of all heads that have been heard
  put in, in order, each with the URL that was asked.
* The head of the answer to the next request is heard if the request gets through and the bytes
  that come back begin with a head, whatever its status is and whatever has come of its body.
* If none is heard the request fails, and the transport stays as it is.
* What is written of the request has the cookies that the request brings itself, and then those of
  the jar for its URL, if there are any. -/
theorem cookies_follow_heads (t : Transport) (past : List Sending) (x : Sending) :
    (t.after past).jar = t.jar.recordAll ((t.heardBy past).flatMap Heard.settings) ∧
    (∀ h, (t.after past).heard? x = some h ↔
      ∃ route written reply body, (t.after past).through? x = some (route, written, reply) ∧
        Http.Arrival.of reply.bytes = .headed h.head body ∧
        Url.read x.request.url = .ok h.url ∧ h.time = x.answeredAt) ∧
    ((t.after past).heard? x = none →
      t.after (past ++ [x]) = t.after past ∧
        ∃ e, ((t.after past).send x).outcome = .error e) ∧
    ∀ written, ((t.after past).send x).sent? = some written →
      ∃ url, Url.read x.request.url = .ok url ∧
        Http.valuesOf "cookie" written.headers = x.request.valuesOf "cookie" ++
          ((t.jar.recordAll ((t.heardBy past).flatMap Heard.settings)).header?
            x.writtenAt url).toList := by
  have hjar : (t.after past).jar = t.jar.recordAll ((t.heardBy past).flatMap Heard.settings) := by
    rw [after_eq_recordAll]
  refine ⟨hjar, fun h => ?_, fun hnone => ?_, fun written hwritten => ?_⟩
  · rw [heard?_eq_some_iff]
    constructor
    · rintro ⟨route, written, reply, body, hthrough, harrival, hurl, htime⟩
      obtain ⟨connection, hroute, -⟩ := through?_eq_some_iff.mp hthrough
      obtain ⟨-, hread, -⟩ := route_eq_ok hroute
      exact ⟨route, written, reply, body, hthrough, harrival, hurl ▸ hread, htime⟩
    · rintro ⟨route, written, reply, body, hthrough, harrival, hread, htime⟩
      obtain ⟨connection, hroute, -⟩ := through?_eq_some_iff.mp hthrough
      obtain ⟨-, hroute, -⟩ := route_eq_ok hroute
      have hurl : h.url = route.url := Except.ok.inj (hread.symm.trans hroute)
      exact ⟨route, written, reply, body, hthrough, harrival, hurl, htime⟩
  · obtain ⟨hsame, hfailed⟩ := send_of_heard?_eq_none hnone
    refine ⟨?_, hfailed⟩
    rw [after_append]
    exact hsame
  · rw [← hjar]
    exact valuesOf_cookie_of_sent? hwritten

end

/-- A request for a page. -/
def page : Http.Request := ⟨.get, "http://a/x", [], none⟩

/-- The URL of the page, as cookies see it. -/
def pageUrl : Url := ⟨"http", some (.domain "a"), "/x", false⟩

/-- The way to the page. -/
def pageRoute : Route := ⟨⟨some "http", "a", "/x"⟩, pageUrl, "a", 80, none⟩

/-- The head of an answer that is an error, and sets a cookie. -/
def oops : Http.Head := ⟨true, 500, [("set-cookie", Bytes.ofString "sid=abc")]⟩

/-- The bytes of that head. -/
def oopsBytes : Bytes := Bytes.ofString "HTTP/1.1 500 Oops\r\nset-cookie: sid=abc\r\n\r\n"

/-- The page is asked for, and the connection breaks behind the head of the answer. -/
def cutShort : Sending :=
  ⟨page, 1000, 1001, fun _ => .ok fun _ => .brokenOff oopsBytes (.failure "reset")⟩

/-- The page is asked for, and nobody answers. -/
def unanswered : Sending := ⟨page, 1000, 1001, fun _ => .ok fun _ => .closed []⟩

/-- The page is asked for, and there is no connection. -/
def unconnected : Sending := ⟨page, 1000, 1001, fun _ => .error .timeout⟩

/-- The page has this route, whatever is in the jar. -/
theorem route_page (jar : Cookie.Jar) :
    ({ jar := jar } : Transport).route page = .ok pageRoute := by
  cbv

/-- The page can be asked for with any reminder that can be written. -/
theorem exists_compose_page {jar : Cookie.Jar} {reminder : List (String × String)}
    (h : ((jar.header? 1000 pageUrl).map (("cookie", ·))).toList.mapM
      (fun h => Http.Written.header h.1 h.2) = .ok reminder) :
    ∃ written, ({ jar := jar } : Transport).compose 1000 pageRoute page = .ok written := by
  have hread : Http.Uri.read "/x" = .ok { pathAndQuery := "/x" } := by cbv
  have htarget : Http.Uri.target ⟨some "http", "a", "/x"⟩ = "/x" := by cbv
  have hname : Http.Written.hostHeader ⟨some "http", "a", "/x"⟩ = "a" := by cbv
  have howner : Http.Written.header "host" "a" = .ok ("host", "a") := by cbv
  have hagent : Http.Written.header "user-agent" "mazewire/0.1.0"
      = .ok ("user-agent", "mazewire/0.1.0") := by cbv
  unfold compose Http.Written.ofRequest
  simp only [pageRoute, htarget, hread, hname, h, page, List.mapM_cons, List.mapM_nil, howner,
    hagent]
  exact ⟨_, rfl⟩

/-- The cookie that it sets. -/
def token : Cookie := ⟨"sid", "abc", "a", true, "/", false, false, none⟩

/-- The head of the first answer is heard, and nothing else. -/
theorem heardBy_cut_short :
    ({} : Transport).heardBy [cutShort, unconnected] = [⟨oops, pageUrl, 1001⟩] := by
  have harrival : Http.Arrival.of oopsBytes = .headed oops (.soFar []) := by
    have hread : Http.Head.readFinal oopsBytes = .done oops [] := by cbv
    have hframing : Http.Framing.ofHead oops = .ok .untilClosed := by decide +kernel
    rw [Http.Arrival.of, hread]
    dsimp only
    rw [hframing]
    rfl
  obtain ⟨written, hcompose⟩ := @exists_compose_page [] [] rfl
  have hheard : ({} : Transport).heard? cutShort = some ⟨oops, pageUrl, 1001⟩ :=
    heard?_eq_some_iff.mpr ⟨pageRoute, written, _, _,
      through?_eq_some_iff.mpr ⟨_, route_page [], rfl, hcompose, rfl⟩, harrival, rfl, rfl⟩
  have hlost : ∀ t : Transport, t.heard? unconnected = none := by
    intro t
    unfold heard? through?
    cases t.route unconnected.request with
    | error e => rfl
    | ok route => rfl
  rw [heardBy, heardBy, heardBy, hheard, hlost]
  rfl

/-- The cookie of an answer that breaks off behind its head comes with the next request that is
written, and a request that fails in between changes nothing. -/
theorem cookies_follow_heads_cut_short :
    ∃ written,
      ((({} : Transport).after [cutShort, unconnected]).send unanswered).sent? = some written ∧
      Http.valuesOf "cookie" written.headers = ["sid=abc"] := by
  have hjar : Cookie.Jar.recordAll []
      ((({} : Transport).heardBy [cutShort, unconnected]).flatMap Heard.settings) = [token] := by
    have hsettings : Heard.settings ⟨oops, pageUrl, 1001⟩ = [⟨1001, pageUrl, "sid=abc"⟩] := by
      decide +kernel
    rw [heardBy_cut_short, List.flatMap_cons, List.flatMap_nil, hsettings]
    cbv
  have hafter : ({} : Transport).after [cutShort, unconnected] = { jar := [token] } := by
    rw [after_eq_recordAll]
    exact congrArg (fun jar => ({ jar := jar } : Transport)) hjar
  have hheader : Cookie.Jar.header? [token] 1000 pageUrl = some "sid=abc" := by cbv
  have hreminder : [("cookie", "sid=abc")].mapM (fun h => Http.Written.header h.1 h.2)
      = .ok [("cookie", "sid=abc")] := by cbv
  obtain ⟨written, hcompose⟩ := exists_compose_page (by rw [hheader]; exact hreminder)
  have hsent : ((({} : Transport).after [cutShort, unconnected]).send unanswered).sent?
      = some written := by
    rw [hafter, send_of_through? (through?_eq_some_iff.mpr
      ⟨_, route_page [token], rfl, hcompose, rfl⟩)]
  refine ⟨written, hsent, ?_⟩
  obtain ⟨-, -, -, hcookies⟩ := cookies_follow_heads {} [cutShort, unconnected] unanswered
  obtain ⟨url, hurl, hvalues⟩ := hcookies written hsent
  obtain ⟨-, hpage, -⟩ := route_eq_ok (route_page [])
  have hsame : url = pageUrl := Except.ok.inj (hurl.symm.trans hpage)
  rw [hvalues, hjar, hsame]
  show page.valuesOf "cookie" ++ (Cookie.Jar.header? [token] 1000 pageUrl).toList = ["sid=abc"]
  rw [hheader]
  rfl

end Transport

end Courier
