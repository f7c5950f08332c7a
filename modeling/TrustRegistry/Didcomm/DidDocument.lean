import TrustRegistry.Lib.Json
import TrustRegistry.Lib.Trim

/-!
# The DID document of the registry

The document that the registry publishes: a verification method for each of its
secrets, numbered by position, and a service for each transport it advertises.
The document is a JSON value here; the program keeps its text.

## Main definitions

* `Secret`, `ProfileConfig` — the keys that are held.
* `buildVerificationMethods`, `buildServices`, `buildDidDocument` — the document.
* `TransportFlags` — the transports that are served.
* `validatePublicUrl` — the URLs that may be advertised.
-/

namespace TrustRegistry

/-! ### Keys -/

-- What keys of other types hold, what other material holds, and the members of a
-- secret that the document is not built from.
variable {κ μ ρ : Type}

/-- The parameters of a key, by its type, with the private part. -/
inductive JwkParams (κ : Type)
  | ec (curve x y : String) (d : Option String)
  | okp (curve x : String) (d : Option String)
  | other (params : κ)
  deriving DecidableEq

/-- A key as a JSON Web Key. -/
structure Jwk (κ : Type) where
  keyId : Option String := none
  params : JwkParams κ
  deriving DecidableEq

/-- What a secret is made of. -/
inductive SecretMaterial (κ μ : Type)
  | jwk (jwk : Jwk κ)
  | other (material : μ)
  deriving DecidableEq

/-- A secret, with the id it goes by. -/
structure Secret (κ μ ρ : Type) where
  id : String
  secretMaterial : SecretMaterial κ μ
  rest : ρ
  deriving DecidableEq

/-- The identity of the registry. -/
structure ProfileConfig (κ μ ρ : Type) where
  did : String := ""
  «alias» : String := ""
  secrets : List (Secret κ μ ρ) := []
  deriving DecidableEq

/-- The public part of a key; keys of other types have none. -/
def buildPublicJwk (jwk : Jwk κ) : Json :=
  let kid := jwk.keyId.toList.map fun kid => ("kid", Json.str kid)
  match jwk.params with
  | .ec curve x y _ =>
    .obj ([("kty", .str "EC"), ("crv", .str curve), ("x", .str x), ("y", .str y)] ++ kid)
  | .okp curve x _ => .obj ([("kty", .str "OKP"), ("crv", .str curve), ("x", .str x)] ++ kid)
  | .other _ => .obj []

/-- The public part of what a secret is made of. -/
def SecretMaterial.publicJwk : SecretMaterial κ μ → Json
  | .jwk key => buildPublicJwk key
  | .other _ => .obj []

/-- Is there a public part to publish? -/
def SecretMaterial.isPublishable : SecretMaterial κ μ → Bool
  | .jwk key =>
    match key.params with
    | .ec .. | .okp .. => true
    | .other _ => false
  | .other _ => false

/-- The public part of a secret. -/
def Secret.publicJwk (s : Secret κ μ ρ) : Json := s.secretMaterial.publicJwk

/-- Does a secret have one? -/
def Secret.isPublishable (s : Secret κ μ ρ) : Bool := s.secretMaterial.isPublishable

namespace ProfileConfig

/-- The id of the key at a position. -/
def keyRef (p : ProfileConfig κ μ ρ) (index : ℕ) : String := p.did ++ "#key-" ++ toString index

/-- The verification methods, numbered by the position of their secret. -/
def buildVerificationMethods (p : ProfileConfig κ μ ρ) : List Json :=
  p.secrets.mapIdx fun index secret =>
    .obj [("id", .str (p.keyRef index)), ("type", .str "JsonWebKey2020"),
      ("controller", .str p.did), ("publicKeyJwk", secret.publicJwk)]

end ProfileConfig

/-! ### Services -/

/-- The type of the REST service. -/
def restServiceType : String := "TRQPRest"

/-- The type of the DIDComm service. -/
def didcommServiceType : String := "DIDCommMessaging"

/-- The type of the TSP service. -/
def tspServiceType : String := "TSPTransport"

/-- The transports that are served, and advertised. -/
structure TransportFlags where
  rest : Bool := true
  didcomm : Bool := true
  tsp : Bool := false
  deriving DecidableEq

/-- Does a text start with another? -/
def startsWith (s pre : String) : Bool := pre.toList.isPrefixOf s.toList

/-- The text without the slashes at its end. -/
def trimEndSlashes (s : String) : String := String.ofList (s.toList.rdropWhile (· = '/'))

/-- May a URL be advertised?  One in clear text may not, unless it stays on the
machine. -/
def validatePublicUrl (url : String) : Except String Unit :=
  if startsWith url "https://" then .ok ()
  else
    let rest := String.ofList (url.toList.drop 7)
    let host := String.ofList (rest.toList.takeWhile fun c => c ≠ '/' ∧ c ≠ ':' ∧ c ≠ '?')
    if startsWith url "http://" &&
        (host = "localhost" || host = "127.0.0.1" || startsWith rest "[::1]") then .ok ()
    else .error ("TR_PUBLIC_URL must be https:// (got '" ++ url ++ "'); cleartext TRQP is " ++
      "spoofable by an on-path attacker. http:// is allowed only to loopback for local dev.")

/-- The services of the transports that are served; REST is advertised when there
is a URL to advertise. -/
def buildServices (did mediatorDid : String) (publicUrl : Option String) (flags : TransportFlags) :
    List Json :=
  (if flags.didcomm then
    [.obj [("id", .str (did ++ "#didcomm")), ("type", .str didcommServiceType),
      ("serviceEndpoint", .obj [("uri", .str mediatorDid), ("accept", .arr [.str "didcomm/v2"]),
        ("routingKeys", .arr [])])]]
    else [])
  ++ (match (publicUrl.map Trim.trim).filter (· ≠ "") with
    | some url =>
      if flags.rest then
        [.obj [("id", .str (did ++ "#rest")), ("type", .str restServiceType),
          ("serviceEndpoint", .str (trimEndSlashes url))]]
      else []
    | none => [])
  ++ (if flags.tsp then
    [.obj [("id", .str (did ++ "#tsp")), ("type", .str tspServiceType),
      ("serviceEndpoint", .str mediatorDid)]]
    else [])

/-! ### The document -/

/-- The document of a profile. -/
def buildDidDocument (p : ProfileConfig κ μ ρ) (mediatorDid : String) (publicUrl : Option String)
    (flags : TransportFlags) : Json :=
  let keyRefs := Json.arr ((List.range p.secrets.length).map fun index => .str (p.keyRef index))
  .obj [("@context", .arr [.str "https://www.w3.org/ns/did/v1",
      .str "https://w3id.org/security/suites/jws-2020/v1"]),
    ("id", .str p.did), ("verificationMethod", .arr p.buildVerificationMethods),
    ("authentication", keyRefs), ("assertionMethod", keyRefs), ("keyAgreement", keyRefs),
    ("service", .arr (buildServices p.did mediatorDid publicUrl flags))]

end TrustRegistry
