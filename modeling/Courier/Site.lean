import Courier.Text.Case

/-!
# `Courier.Site`: the site that an operator acts on

One server serves many sites. A request acts on the active site, and an operator has a role on
each. The site with id 0 is the one that the API host itself serves; it is not named in requests.
-/

set_option autoImplicit false

namespace Courier

/-- An operator's role on a site. -/
inductive SiteRole where
  | none
  | subscriber
  | author
  | editor
  | admin
  | owner
  /-- Not granted per site; implies every other role. -/
  | super
deriving DecidableEq, Inhabited

namespace SiteRole

/-- The place of a role among the roles, lowest first. -/
def rank : SiteRole → Nat
  | .none => 0
  | .subscriber => 1
  | .author => 2
  | .editor => 3
  | .admin => 4
  | .owner => 5
  | .super => 6

/-- The name of a role; no role has an empty one. -/
def name : SiteRole → String
  | .none => ""
  | .subscriber => "subscriber"
  | .author => "author"
  | .editor => "editor"
  | .admin => "admin"
  | .owner => "owner"
  | .super => "super"

/-- The role with exactly this name. -/
def named? (s : String) : Option SiteRole :=
  [.subscriber, .author, .editor, .admin, .owner, .super].find? fun r => r.name = s

/-- Reads a role in any case. An unknown name stands for no role. -/
def parse (s : String) : SiteRole := (named? (Text.lowercase s)).getD .none

/-- The name of a role in a stored record, where no role has a name too. -/
def storedName (r : SiteRole) : String := if r = .none then "none" else r.name

/-- The role with exactly this name in a stored record. -/
def stored? (s : String) : Option SiteRole := if s = "none" then some .none else named? s

end SiteRole

/-- The site that an operator acts on. -/
structure ActiveSite where
  id : Int64 := 0
  domain : String := ""
  name : String := ""
  logo : String := ""
  favicon : String := ""
  role : SiteRole := .none
deriving DecidableEq, Inhabited

namespace ActiveSite

/-- Whether this is the site of the API host. -/
def isDefault (s : ActiveSite) : Bool := s.id = 0

/-- The id that requests name, if they name one. -/
def id? (s : ActiveSite) : Option Int64 := if s.isDefault then none else some s.id

/-- Whether the operator's role is at least `wanted`. Without a role nothing is satisfied, and
only the role above all satisfies a request for none. -/
def atLeast (s : ActiveSite) (wanted : SiteRole) : Bool :=
  match s.role with
  | .super => true
  | .none => false
  | actual => wanted ≠ .none && wanted.rank ≤ actual.rank

end ActiveSite

end Courier
