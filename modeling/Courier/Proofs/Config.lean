import Courier.Config.Layers
import Mathlib

/-!
# `Courier.Proofs.Config`: which configuration decides whether there is one

The layers of a configuration replace one another field by field. What comes out at the top is the
configuration in effect (`Invocation.effective`): each field has the word of the highest layer that
has a usable one for it. It would be enough to look at this configuration alone. But the layers
beneath the command line are already looked at by themselves before the flags are laid on top
(`Config.load`), and must be valid, too.

Flags reach one field only that can be at fault, the base URL. So the two looks differ in one case
(`check_beneath`): the flags replace a base URL that is unfit by one that is fit. Then there is no
configuration, although the one in effect is valid (`stopped_by_overridden`). In every other case
the configuration in effect decides (`effective_decides`).
-/

set_option autoImplicit false

namespace Courier

/-! ### What a check finds -/

/-- What is wrong with a base URL. -/
def Api.faultOfUrl? (url : String) : Option ConfigFault :=
  if url.isEmpty then some .emptyBaseUrl
  else if !hasScheme url then some (.otherScheme url)
  else none

/-- The base URL is looked at first. -/
theorem Api.check_eq (a : Api) : a.check =
    match faultOfUrl? a.baseUrl with
    | some fault => .error fault
    | none => if a.authEndpoint.isEmpty then .error .emptyAuthEndpoint else .ok () := by
  unfold check faultOfUrl?
  split
  · rfl
  · split <;> rfl

namespace Config

/-- Beside the base URL there are only the endpoint for logins and the times to find fault with. -/
theorem check_eq (c : Config) : c.check =
    match Api.faultOfUrl? c.api.baseUrl with
    | some fault => .error fault
    | none =>
      if c.api.authEndpoint.isEmpty then .error .emptyAuthEndpoint
      else if c.http.connectTimeout = 0 ∨ c.http.requestTimeout = 0 then .error .zeroTimeout
      else .ok () := by
  rw [check, Api.check_eq]
  cases Api.faultOfUrl? c.api.baseUrl with
  | some fault => rfl
  | none =>
    dsimp only
    by_cases hendpoint : c.api.authEndpoint.isEmpty = true
    · rw [if_pos hendpoint, if_pos hendpoint]
    · rw [if_neg hendpoint, if_neg hendpoint]

/-- Flags change nothing of what a check looks at but the base URL. So if it is fine above the
flags, it is fine beneath them, or the base URL is to blame. -/
theorem check_beneath {c : Config} {i : Invocation} (h : (c.withFlags i).check = .ok ()) :
    c.check =
      match Api.faultOfUrl? c.api.baseUrl with
      | some fault => .error fault
      | none => .ok () := by
  rw [check_eq] at h ⊢
  cases Api.faultOfUrl? c.api.baseUrl with
  | some fault => rfl
  | none =>
    dsimp only
    split at h
    · cases h
    · exact h

/-- A configuration without a fault is taken as it is. -/
theorem validated_of_ok {c : Config} (h : c.check = .ok ()) : c.validated = .ok c := by
  rw [validated, h]

/-- One with a fault is refused for this fault. -/
theorem validated_of_error {c : Config} {fault : ConfigFault} (h : c.check = .error fault) :
    c.validated = .error (.invalid fault) := by
  rw [validated, h]

end Config

/-! ### The configuration in effect -/

/-- What a variable of the environment stands for, if it is set and can be read. -/
def Environment.reading? {ε α : Type} (env : Environment) (name : String)
    (read : String → Except ε α) : Option α :=
  (env name).bind fun s => (read s).toOption

namespace Invocation

/-- The lowest layers: the file if there is one, which leaves the defaults for what it does not
name, and nothing but the defaults otherwise. -/
def bottom (i : Invocation) (disk : Disk) : Except ConfigError Config :=
  match i.config? with
  | none => .ok {}
  | some path => Config.ofFile disk path

/-- The configuration in effect above the lowest layers. Every field has the word of the flags, or
else that of the environment, or else that of the layers beneath. An empty text of the environment
is no word for the base URL and the endpoint of logins, and neither is one that cannot be read for
the encoding and the numbers. The flag for trust in any server can only be given, whereas the
environment can take that trust back. -/
def effective (i : Invocation) (env : Environment) (c : Config) : Config where
  api := {
    baseUrl := (i.apiUrl?.or (env.nonEmpty? "MAZEWIRE_API_URL")).getD c.api.baseUrl
    authEndpoint := (env.nonEmpty? "MAZEWIRE_AUTH_ENDPOINT").getD c.api.authEndpoint
    encoding := (i.encoding?.or
      (env.reading? "MAZEWIRE_QUERY_ENCODING" QueryEncoding.parse)).getD c.api.encoding }
  http := {
    connectTimeout :=
      (env.reading? "MAZEWIRE_CONNECT_TIMEOUT" Text.readUInt64).getD c.http.connectTimeout
    requestTimeout :=
      (env.reading? "MAZEWIRE_REQUEST_TIMEOUT" Text.readUInt64).getD c.http.requestTimeout
    userAgent := c.http.userAgent }
  tls := {
    caCert? := (i.caCert?.or (env "MAZEWIRE_CA_CERT")).or c.tls.caCert?
    clientCert? := (env "MAZEWIRE_CLIENT_CERT").or c.tls.clientCert?
    clientKey? := (env "MAZEWIRE_CLIENT_KEY").or c.tls.clientKey?
    insecure := i.insecure ||
      ((env "MAZEWIRE_TLS_INSECURE").map Config.isOn).getD c.tls.insecure
    serverName? := c.tls.serverName? }
  siteId := (i.site?.or (env.reading? "MAZEWIRE_SITE_ID" Text.readInt64)).getD c.siteId

/-- The base URL in effect if there were no flags. -/
def urlBeneath (env : Environment) (c : Config) : String :=
  (env.nonEmpty? "MAZEWIRE_API_URL").getD c.api.baseUrl

section
variable {i : Invocation} {disk : Disk} {env : Environment} {c : Config}

/-- Laying the environment and then the flags on top gives the configuration in effect. -/
theorem withFlags_withEnvironment (i : Invocation) (env : Environment) (c : Config) :
    (c.withEnvironment env).withFlags i = i.effective env c := by
  unfold Config.withFlags Config.withEnvironment effective Environment.reading?
  simp only [Option.getD_or, Option.or_assoc, Bool.or_comm]

/-- A run looks at the layers beneath the flags, and then at the configuration in effect. -/
theorem configure_eq (h : i.bottom disk = .ok c) : i.configure disk env =
    match (c.withEnvironment env).check with
    | .error fault => .error (.invalid fault)
    | .ok _ => (i.effective env c).validated := by
  have hload : Config.load disk env i.config? = (c.withEnvironment env).validated := by
    unfold bottom at h
    unfold Config.load
    cases hpath : i.config? with
    | none =>
      rw [hpath] at h
      cases h
      rfl
    | some path =>
      rw [hpath] at h
      dsimp only at h
      rw [Option.map_some, h]
  rw [configure, hload, Config.validated]
  cases (c.withEnvironment env).check with
  | error fault => rfl
  | ok =>
    dsimp only
    rw [withFlags_withEnvironment]

/-- Without a flag for it, the base URL in effect is the one beneath. -/
theorem fit_of_no_flag (hflag : i.apiUrl? = none) (hvalid : (i.effective env c).check = .ok ()) :
    Api.faultOfUrl? (urlBeneath env c) = none := by
  have hsame : (i.effective env c).api.baseUrl = urlBeneath env c := by
    rw [effective, hflag, Option.none_or]
    rfl
  rw [Config.check_eq, hsame] at hvalid
  split at hvalid
  · cases hvalid
  · assumption

/-- The configuration in effect decides whether a run has a configuration, and is the one that it
has, with one exception. A configuration that is not valid is refused for a fault. One that is valid
is taken if no flag replaces the base URL, or if the base URL that is replaced was fit itself. If it
was not, the run is refused for the fault of a URL that is not in effect. -/
theorem effective_decides (h : i.bottom disk = .ok c) :
    (∀ fault, (i.effective env c).check = .error fault →
      ∃ shown, i.configure disk env = .error (.invalid shown)) ∧
    ((i.effective env c).check = .ok () →
      (i.apiUrl? = none ∨ Api.faultOfUrl? (urlBeneath env c) = none →
        i.configure disk env = .ok (i.effective env c)) ∧
      ∀ fault, Api.faultOfUrl? (urlBeneath env c) = some fault →
        i.apiUrl? ≠ none ∧ i.configure disk env = .error (.invalid fault)) := by
  rw [configure_eq h]
  refine ⟨fun fault hfault => ?_, fun hvalid => ?_⟩
  · -- whichever of the two looks finds something, it is a fault
    cases (c.withEnvironment env).check with
    | error shown => exact ⟨shown, rfl⟩
    | ok => exact ⟨fault, Config.validated_of_error hfault⟩
  · have hbeneath : (c.withEnvironment env).check =
        match Api.faultOfUrl? (urlBeneath env c) with
        | some fault => .error fault
        | none => .ok () := by
      rw [← withFlags_withEnvironment] at hvalid
      exact Config.check_beneath hvalid
    refine ⟨fun hurl => ?_, fun fault hfault => ⟨fun hflag => ?_, ?_⟩⟩
    · have hfit : Api.faultOfUrl? (urlBeneath env c) = none :=
        hurl.elim (fun hflag => fit_of_no_flag hflag hvalid) id
      rw [hbeneath, hfit]
      exact Config.validated_of_ok hvalid
    · rw [fit_of_no_flag hflag hvalid] at hfault
      cases hfault
    · rw [hbeneath, hfault]

end

/-- The base URL of the environment is out of use, and the flag gives another. -/
def moved : Invocation :=
  { config? := none, apiUrl? := some "http://new.test/api/", site? := some 4, encoding? := none,
    caCert? := none, insecure := false, command? := some .config }

/-- An environment of two variables. -/
def pair (first second : String × String) : Environment := fun name =>
  if name = first.1 then some first.2 else if name = second.1 then some second.2 else none

/-- A number that cannot be read is passed over, and the flags win. A time of zero is refused
whatever the flags are. And a base URL that nobody could use is refused though nobody would. -/
theorem effective_decides_moved :
    moved.bottom (Disk.ofFiles []) = .ok {} ∧
    moved.configure (Disk.ofFiles [])
        (pair ("MAZEWIRE_API_URL", "http://old.test/") ("MAZEWIRE_CONNECT_TIMEOUT", "soon"))
      = .ok { api := { baseUrl := "http://new.test/api/" }, siteId := 4 } ∧
    (∃ shown, moved.configure (Disk.ofFiles [])
        (pair ("MAZEWIRE_API_URL", "http://old.test/") ("MAZEWIRE_CONNECT_TIMEOUT", "0"))
      = .error (.invalid shown)) ∧
    moved.configure (Disk.ofFiles []) (pair ("MAZEWIRE_API_URL", "ftp://old.test/") ("HOME", "/"))
      = .error (.invalid (.otherScheme "ftp://old.test/")) := by
  have hbottom : moved.bottom (Disk.ofFiles []) = .ok {} := rfl
  refine ⟨hbottom, ?_, ?_, ?_⟩
  · exact ((effective_decides hbottom).2 (by decide)).1 (.inr (by decide))
  · exact (effective_decides hbottom).1 .zeroTimeout (by decide)
  · exact (((effective_decides hbottom).2 (by decide)).2 _ (by decide)).2

/-- So a valid configuration in effect is not enough: a value that is replaced can make the run
fail. -/
theorem stopped_by_overridden :
    ¬ ∀ (i : Invocation) (disk : Disk) (env : Environment) (c : Config),
      i.bottom disk = .ok c → (i.effective env c).check = .ok () →
        i.configure disk env = .ok (i.effective env c) := by
  intro h
  have hrefused : moved.configure (fun _ => .error .missing)
      (pair ("MAZEWIRE_API_URL", "ftp://old.test/") ("HOME", "/"))
      = .error (.invalid (.otherScheme "ftp://old.test/")) := by decide
  rw [h moved _ _ {} rfl (by decide)] at hrefused
  cases hrefused

end Invocation

end Courier
