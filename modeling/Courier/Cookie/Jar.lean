import Courier.Cookie

/-!
# `Courier.Cookie.Jar`: the cookies of a client

A jar holds at most one cookie for each name, domain and path, in the order in which they were
first set. A cookie that has expired when it comes takes away the one in its place.
-/

set_option autoImplicit false

namespace Courier.Cookie

/-- The cookies of a client. -/
abbrev Jar := List Cookie

namespace Jar

/-- The cookie in the place of another one, unless it has expired. -/
def sharing? (jar : Jar) (now : Int) (c : Cookie) : Option Cookie :=
  jar.find? fun old => old.sharesPlace c && !old.isExpired now

/-- The jar after a cookie has been put in. -/
def put (jar : Jar) (c : Cookie) : Jar :=
  if jar.any (·.sharesPlace c) then jar.map fun old => if old.sharesPlace c then c else old
  else jar ++ [c]

/-- The jar after a URL has set a cookie. One for HTTP alone is not replaced by anything else. -/
def insert (jar : Jar) (now : Int) (url : Url) (c : Cookie) : Jar :=
  if (jar.sharing? now c).any (·.httpOnly) ∧ !url.speaksHttp then jar
  else if c.isExpired now then jar.filter (!·.sharesPlace c)
  else jar.put c

/-- The jar after a text has come from a URL that is to set a cookie. A text that is no cookie
changes nothing. -/
def record (jar : Jar) (now : Int) (url : Url) (text : String) : Jar :=
  match Cookie.read? now url text with
  | none => jar
  | some c => jar.insert now url c

/-- The cookies that are sent to a URL. -/
def applying (jar : Jar) (now : Int) (url : Url) : List Cookie :=
  jar.filter (·.appliesTo now url)

/-- A cookie as it is sent. -/
def pairText (c : Cookie) : String := c.name ++ "=" ++ c.value

/-- The header that reminds a URL of its cookies, if there are any. -/
def header? (jar : Jar) (now : Int) (url : Url) : Option String :=
  match jar.applying now url with
  | [] => none
  | cs => some ("; ".intercalate (cs.map pairText))

/-- The value of the first cookie with a name that has not expired, wherever it belongs. -/
def get? (jar : Jar) (now : Int) (name : String) : Option String :=
  (jar.find? fun c => c.name = name && !c.isExpired now).map (·.value)

end Jar

end Courier.Cookie
