import TrustRegistry.Didcomm.DidDocument
import TrustRegistry.Domain

/-!
# The configuration of DIDComm

What the registry reads from its environment about its transports and its
identity.  Without DIDComm no identity is loaded: the configuration has the empty
text as its DID.

## Main definitions

* `ProcessEnv` — the environment.
* `TransportFlags.fromEnv`, `DidcommConfig.load` — what is loaded from it.

## Main results

* `DidcommConfig.loadEnabled_ok` — what a registry that serves DIDComm is loaded with.
* `DidcommConfig.load_disabled` — the identity of a registry without DIDComm.
* `DidcommConfig.load_publicUrl` — the URLs that are let through.
-/

namespace TrustRegistry

variable {κ μ ρ : Type}

/-- The environment of the process: its variables, whether TSP is built in, the
profiles that a key service and a secret store offer, what a configuration URI
holds, how a profile is read and how a document is written. -/
structure ProcessEnv (κ μ ρ : Type) where
  var : String → Option String
  tspBuilt : Bool
  profileFromVta : Except String (Option String)
  profileFromSecretStore : Except String (Option String)
  loadUri : String → Except String String
  parseProfile : String → Except String (ProfileConfig κ μ ρ)
  jsonText : Json → String

namespace ProcessEnv

variable (env : ProcessEnv κ μ ρ)

/-- A flag; one that is unset or empty has its default. -/
def envFlag (name : String) (default : Bool) : Except String Bool :=
  match env.var name with
  | none => .ok default
  | some raw =>
    let flag := toLowercase (Trim.trim raw)
    if flag = "" then .ok default
    else if flag = "true" then .ok true
    else if flag = "false" then .ok false
    else .error (name ++ " must be 'true' or 'false' (got '" ++ flag ++ "')")

/-- A variable that must be set. -/
def requiredEnv (name : String) : Except String String :=
  match env.var name with
  | some value => .ok value
  | none => .error ("Required environment variable '" ++ name ++ "' is not set")

/-- The profile: of the key service, else of the secret store, else of the
configured URI. -/
def profileText : Except String String := do
  match ← env.profileFromVta with
  | some bundle => return bundle
  | none =>
    match ← env.profileFromSecretStore with
    | some bundle => return bundle
    | none => env.loadUri (← env.requiredEnv "PROFILE_CONFIG")

/-- The URL to advertise. -/
def publicUrl : Option String := ((env.var "TR_PUBLIC_URL").map Trim.trim).filter (· ≠ "")

end ProcessEnv

namespace TransportFlags

/-- The combinations that can be served. -/
def validate (env : ProcessEnv κ μ ρ) (flags : TransportFlags) : Except String Unit :=
  if !flags.rest && !flags.didcomm && !flags.tsp then
    .error ("at least one transport must be enabled: set ENABLE_REST, ENABLE_DIDCOMM or " ++
      "ENABLE_TSP to 'true' (a registry with no transport can serve nobody)")
  else if flags.tsp && !flags.didcomm then
    .error ("ENABLE_TSP=true requires ENABLE_DIDCOMM=true: TSP frames are multiplexed on the " ++
      "DIDComm mediator socket and cannot be received without it")
  else if flags.tsp && !env.tspBuilt then
    .error ("ENABLE_TSP=true requires a binary built with \x60--features tsp\x60; this build " ++
      "cannot serve TSP and must not advertise it")
  else .ok ()

/-- The flags of the environment. -/
def fromEnv (env : ProcessEnv κ μ ρ) : Except String TransportFlags := do
  let rest ← env.envFlag "ENABLE_REST" true
  let didcomm ← env.envFlag "ENABLE_DIDCOMM" true
  let tsp ← env.envFlag "ENABLE_TSP" false
  let flags : TransportFlags := { rest, didcomm, tsp }
  flags.validate env
  return flags

end TransportFlags

/-- Two steps succeed when the first does, and the second on its value. -/
theorem bind_eq_ok {ε α β : Type} {x : Except ε α} {f : α → Except ε β} {b : β} :
    (x >>= f) = .ok b ↔ ∃ a, x = .ok a ∧ f a = .ok b := by
  cases x with
  | error e => simp [bind, Except.bind]
  | ok a => simp [bind, Except.bind]

/-- The configuration. -/
structure DidcommConfig (κ μ ρ : Type) where
  isEnabled : Bool := false
  transportFlags : TransportFlags
  profileConfig : ProfileConfig κ μ ρ := {}
  mediatorDid : String := ""
  didDocument : String := ""
  deriving DecidableEq

namespace DidcommConfig

/-- The text of the DID document: a configured one, else the one that is built. -/
def didDocumentText (env : ProcessEnv κ μ ρ) (transportFlags : TransportFlags)
    (profileConfig : ProfileConfig κ μ ρ) (mediatorDid : String) : Except String String :=
  match env.var "DID_DOCUMENT" with
  | some uri => env.loadUri uri
  | none =>
    .ok (env.jsonText (buildDidDocument profileConfig mediatorDid env.publicUrl transportFlags))

/-- The configuration of a registry that serves DIDComm. -/
def loadEnabled (env : ProcessEnv κ μ ρ) (transportFlags : TransportFlags) :
    Except String (DidcommConfig κ μ ρ) := do
  let mediatorDid ← env.requiredEnv "MEDIATOR_DID"
  let profileText ← env.profileText
  let profileConfig ← env.parseProfile profileText
  env.publicUrl.forM validatePublicUrl
  let didDocument ← didDocumentText env transportFlags profileConfig mediatorDid
  return { isEnabled := true, transportFlags, profileConfig, mediatorDid, didDocument }

/-- Load the configuration; without DIDComm no identity is loaded. -/
def load (env : ProcessEnv κ μ ρ) : Except String (DidcommConfig κ μ ρ) :=
  match TransportFlags.fromEnv env with
  | .error e => .error e
  | .ok transportFlags =>
    if transportFlags.didcomm then loadEnabled env transportFlags else .ok { transportFlags }

/-- What a registry that serves DIDComm is loaded with. -/
theorem loadEnabled_ok {env : ProcessEnv κ μ ρ} {flags : TransportFlags}
    {config : DidcommConfig κ μ ρ}
    (h : loadEnabled env flags = .ok config) :
    ∃ mediatorDid text profile didDocument, env.requiredEnv "MEDIATOR_DID" = .ok mediatorDid ∧
      env.profileText = .ok text ∧ env.parseProfile text = .ok profile ∧
      env.publicUrl.forM validatePublicUrl = .ok () ∧
      didDocumentText env flags profile mediatorDid = .ok didDocument ∧
      config = ⟨true, flags, profile, mediatorDid, didDocument⟩ := by
  unfold loadEnabled at h
  obtain ⟨mediatorDid, hmediator, h⟩ := bind_eq_ok.mp h
  obtain ⟨text, htext, h⟩ := bind_eq_ok.mp h
  obtain ⟨profile, hprofile, h⟩ := bind_eq_ok.mp h
  obtain ⟨_, hurl, h⟩ := bind_eq_ok.mp h
  obtain ⟨didDocument, hdocument, h⟩ := bind_eq_ok.mp h
  exact ⟨mediatorDid, text, profile, didDocument, hmediator, htext, hprofile, hurl, hdocument,
    (Except.ok.inj h).symm⟩

/-- **A registry without DIDComm has the empty text as its DID.** -/
theorem load_disabled {env : ProcessEnv κ μ ρ} {config : DidcommConfig κ μ ρ}
    (h : load env = .ok config) (hdisabled : config.isEnabled = false) :
    config.profileConfig.did = "" := by
  unfold load at h
  split at h
  · cases h
  · split at h
    · obtain ⟨_, _, _, _, _, _, _, _, _, rfl⟩ := loadEnabled_ok h
      cases hdisabled
    · obtain rfl := Except.ok.inj h
      rfl

/-- **A URL that is let through is trimmed, not empty, and may be advertised.** -/
theorem load_publicUrl {env : ProcessEnv κ μ ρ} {config : DidcommConfig κ μ ρ}
    (h : load env = .ok config) (henabled : config.isEnabled = true) {url : String}
    (hurl : env.publicUrl = some url) :
    Trim.trim url = url ∧ url ≠ "" ∧ validatePublicUrl url = .ok () := by
  have hshape : Trim.trim url = url ∧ url ≠ "" := by
    unfold ProcessEnv.publicUrl at hurl
    obtain ⟨hmap, hne⟩ := Option.filter_eq_some_iff.mp hurl
    obtain ⟨raw, _, rfl⟩ := Option.map_eq_some_iff.mp hmap
    exact ⟨Trim.trim_trim raw, of_decide_eq_true hne⟩
  refine ⟨hshape.1, hshape.2, ?_⟩
  unfold load at h
  split at h
  · cases h
  · split at h
    · obtain ⟨_, _, _, _, _, _, _, hvalid, _, _⟩ := loadEnabled_ok h
      rwa [hurl] at hvalid
    · obtain rfl := Except.ok.inj h
      cases henabled

end DidcommConfig

end TrustRegistry
