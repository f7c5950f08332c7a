import TrustRegistry.Client.TrqlClient
import TrustRegistry.Configs.DidcommConfig

/-!
# Discovery

The client reads the transports of a registry, with their endpoints, from the
services in its DID document, and picks the most preferred one that it has too.

## Main definitions

* `endpointUri`, `ServiceCapabilities.fromDocument` — what is read.
* `ServiceCapabilities.select` — what is picked.
* `offered` — what a registry says that it serves.
* `LetThrough` — the URLs that a registry may be started with.
* `MostPreferred` — a transport that both sides have, none of those before it.

## Main results

* `endpoint_fromDocument` — what is read is what is offered.
* `select_eq_ok_iff`, `select_eq_error_iff` — what is picked.
* `discovered_eq_offered` — both together.
* `served_rest_not_discovered` — REST is served without being offered.
-/

namespace TrustRegistry

/-! ### Reading a document -/

mutual

/-- The URI of an endpoint: a text, an object with one, or the first in an array. -/
def endpointUri : Json → Option String
  | .str s => some s
  | .obj members => (Json.member "uri" members).bind Json.asStr
  | .arr items => firstEndpointUri items
  | .null | .bool _ | .num _ _ => none

/-- The first URI in an array. -/
def firstEndpointUri : List Json → Option String
  | [] => none
  | endpoint :: items =>
    match endpointUri endpoint with
    | some uri => some uri
    | none => firstEndpointUri items

end

/-- Is a service of a type?  It may have several. -/
def serviceHasType (svc : Json) (type : String) : Bool :=
  match svc.get "type" with
  | some (.str s) => s = type
  | some (.arr items) => items.any fun t => t.asStr = some type
  | _ => false

/-- The type of a service for a transport. -/
def TransportKind.serviceType : TransportKind → String
  | tsp => "TSPTransport"
  | didcomm => "DIDCommMessaging"
  | https => "TRQPRest"

/-- The types of services over REST. -/
def restServiceTypes : List String := [TransportKind.https.serviceType, "VTARest"]

/-- The transports, the most preferred one first. -/
def preferenceOrder : List TransportKind := [.tsp, .didcomm, .https]

/-- The transports of a registry, with their endpoints. -/
structure ServiceCapabilities where
  tsp : Option String := none
  didcomm : Option String := none
  https : Option String := none
  deriving DecidableEq

/-- A transport, and where to send. -/
structure TransportChoice where
  kind : TransportKind
  endpoint : String
  deriving DecidableEq

namespace ServiceCapabilities

/-- Read a service.  One without an endpoint is skipped, and the first of each
transport is kept. -/
def addService (caps : ServiceCapabilities) (svc : Json) : ServiceCapabilities :=
  match (svc.get "serviceEndpoint").bind endpointUri with
  | none => caps
  | some uri =>
    if uri = "" then caps
    else if serviceHasType svc TransportKind.tsp.serviceType then
      { caps with tsp := some (caps.tsp.getD uri) }
    else if serviceHasType svc TransportKind.didcomm.serviceType then
      { caps with didcomm := some (caps.didcomm.getD uri) }
    else if restServiceTypes.any (serviceHasType svc) then
      { caps with https := some (caps.https.getD uri) }
    else caps

/-- Read a document. -/
def fromDocument (doc : Json) : ServiceCapabilities :=
  match doc.get "service" with
  | some (.arr services) => services.foldl addService {}
  | _ => {}

/-- The endpoint of a transport. -/
def endpoint (caps : ServiceCapabilities) : TransportKind → Option String
  | .tsp => caps.tsp
  | .didcomm => caps.didcomm
  | .https => caps.https

/-- The transports there are. -/
def advertised (caps : ServiceCapabilities) : List TransportKind :=
  preferenceOrder.filter fun kind => (caps.endpoint kind).isSome

/-- A transport, if we have it too. -/
def choice (caps : ServiceCapabilities) (ours : List TransportKind) (kind : TransportKind) :
    Option TransportChoice :=
  if ours.contains kind then (caps.endpoint kind).map fun endpoint => ⟨kind, endpoint⟩ else none

/-- Pick the most preferred transport that we have too. -/
def select (caps : ServiceCapabilities) (ours : List TransportKind) :
    Except TrqlError TransportChoice :=
  match preferenceOrder.findSome? (caps.choice ours) with
  | some choice => .ok choice
  | none => .error (.noMatchingTransport ours caps.advertised)

end ServiceCapabilities

/-! ### What is offered -/

/-- What a registry says that it serves: over the mediator what it serves, and
REST where there is a URL. -/
def offered (mediatorDid : String) (publicUrl : Option String) (flags : TransportFlags) :
    TransportKind → Option String
  | .tsp => if flags.tsp then some mediatorDid else none
  | .didcomm => if flags.didcomm then some mediatorDid else none
  | .https => if flags.rest then publicUrl.map trimEndSlashes else none

/-- A URL that a registry may be started with: none, or one that is trimmed, not
empty, and may be advertised. -/
def LetThrough (publicUrl : Option String) : Prop :=
  ∀ url ∈ publicUrl, Trim.trim url = url ∧ url ≠ "" ∧ validatePublicUrl url = .ok ()

/-- The URL of a registry that was started. -/
theorem letThrough_of_load {κ μ ρ : Type} {env : ProcessEnv κ μ ρ}
    {config : DidcommConfig κ μ ρ} (h : DidcommConfig.load env = .ok config)
    (henabled : config.isEnabled = true) : LetThrough env.publicUrl :=
  fun _ hurl => DidcommConfig.load_publicUrl h henabled hurl

/-- The position in the order of preference. -/
def TransportKind.rank : TransportKind → ℕ
  | tsp => 0
  | didcomm => 1
  | https => 2

/-- A choice that we have and that is offered, where nothing that comes before it is
both. -/
structure MostPreferred (offers : TransportKind → Option String) (ours : List TransportKind)
    (choice : TransportChoice) : Prop where
  mem : choice.kind ∈ ours
  endpoint : offers choice.kind = some choice.endpoint
  first : ∀ kind ∈ ours, kind.rank < choice.kind.rank → offers kind = none

/-! ### What is read is what is offered -/

namespace ServiceCapabilities

section

variable {mediatorDid : String} {publicUrl : Option String} {flags : TransportFlags}
  (caps : ServiceCapabilities) (id : String)

theorem addService_didcomm (hmediator : mediatorDid ≠ "") :
    caps.addService (.obj [("id", .str id), ("type", .str didcommServiceType),
      ("serviceEndpoint", .obj [("uri", .str mediatorDid), ("accept", .arr [.str "didcomm/v2"]),
        ("routingKeys", .arr [])])])
      = { caps with didcomm := some (caps.didcomm.getD mediatorDid) } := by
  simp [addService, Json.get, Json.member_cons, endpointUri, Json.asStr, serviceHasType,
    TransportKind.serviceType, didcommServiceType, hmediator]

theorem addService_tsp (hmediator : mediatorDid ≠ "") :
    caps.addService (.obj [("id", .str id), ("type", .str tspServiceType),
      ("serviceEndpoint", .str mediatorDid)])
      = { caps with tsp := some (caps.tsp.getD mediatorDid) } := by
  simp [addService, Json.get, Json.member_cons, endpointUri, serviceHasType,
    TransportKind.serviceType, tspServiceType, hmediator]

theorem addService_rest {url : String} (hurl : url ≠ "") :
    caps.addService (.obj [("id", .str id), ("type", .str restServiceType),
      ("serviceEndpoint", .str url)])
      = { caps with https := some (caps.https.getD url) } := by
  simp [addService, Json.get, Json.member_cons, endpointUri, serviceHasType, restServiceTypes,
    TransportKind.serviceType, restServiceType, hurl]

/-- A service that is there or not. -/
theorem foldl_addService_ite (b : Bool) (svc : Json) :
    (if b then [svc] else []).foldl addService caps = if b then caps.addService svc else caps := by
  cases b <;> rfl

end

end ServiceCapabilities

/-- A URL that may be advertised is more than slashes. -/
theorem mem_toList_of_validatePublicUrl {url : String} (h : validatePublicUrl url = .ok ()) :
    'h' ∈ url.toList := by
  have hmem : ∀ scheme, 'h' ∈ scheme.toList → startsWith url scheme = true → 'h' ∈ url.toList := by
    intro scheme hscheme hstarts
    exact (List.isPrefixOf_iff_prefix.mp hstarts).subset hscheme
  unfold validatePublicUrl at h
  split at h
  · next hstarts => exact hmem "https://" (by decide) hstarts
  · dsimp only at h
    split at h
    · next hlocal =>
      rw [Bool.and_eq_true] at hlocal
      exact hmem "http://" (by decide) hlocal.1
    · cases h

theorem trimEndSlashes_ne_empty {url : String} (h : validatePublicUrl url = .ok ()) :
    trimEndSlashes url ≠ "" := by
  intro hempty
  have hnil : url.toList.rdropWhile (fun c => decide (c = '/')) = [] := by
    have hlist := congrArg String.toList hempty
    simpa [trimEndSlashes] using hlist
  have hslash := List.rdropWhile_eq_nil_iff.mp hnil 'h' (mem_toList_of_validatePublicUrl h)
  exact absurd hslash (by decide)

theorem filter_publicUrl {publicUrl : Option String} (h : LetThrough publicUrl) :
    (publicUrl.map Trim.trim).filter (· ≠ "") = publicUrl := by
  cases publicUrl with
  | none => rfl
  | some url =>
    obtain ⟨htrim, hne, _⟩ := h url rfl
    simp [htrim, hne]

theorem fromDocument_buildDidDocument {κ μ ρ : Type} (p : ProfileConfig κ μ ρ) (mediatorDid : String)
    (publicUrl : Option String) (flags : TransportFlags) :
    ServiceCapabilities.fromDocument (buildDidDocument p mediatorDid publicUrl flags)
      = (buildServices p.did mediatorDid publicUrl flags).foldl .addService {} := by
  simp [ServiceCapabilities.fromDocument, buildDidDocument, Json.get, Json.member_cons]

/-- **What the client reads is what the registry offers.** -/
theorem endpoint_fromDocument {κ μ ρ : Type} (p : ProfileConfig κ μ ρ) {mediatorDid : String}
    {publicUrl : Option String} (flags : TransportFlags) (hmediator : mediatorDid ≠ "")
    (hurl : LetThrough publicUrl) (kind : TransportKind) :
    (ServiceCapabilities.fromDocument
      (buildDidDocument p mediatorDid publicUrl flags)).endpoint kind
      = offered mediatorDid publicUrl flags kind := by
  rw [fromDocument_buildDidDocument, buildServices, filter_publicUrl hurl, List.foldl_append,
    List.foldl_append, ServiceCapabilities.foldl_addService_ite,
    ServiceCapabilities.foldl_addService_ite, ServiceCapabilities.addService_didcomm _ _ hmediator,
    ServiceCapabilities.addService_tsp _ _ hmediator]
  cases publicUrl with
  | none =>
    dsimp only [List.foldl_nil]
    obtain ⟨rest, didcomm, tsp⟩ := flags
    cases kind <;> cases didcomm <;> cases tsp <;> cases rest <;> rfl
  | some url =>
    obtain ⟨_, _, hvalid⟩ := hurl url rfl
    dsimp only
    rw [ServiceCapabilities.foldl_addService_ite,
      ServiceCapabilities.addService_rest _ _ (trimEndSlashes_ne_empty hvalid)]
    obtain ⟨rest, didcomm, tsp⟩ := flags
    cases kind <;> cases didcomm <;> cases tsp <;> cases rest <;> rfl

/-! ### What is picked -/

theorem mem_preferenceOrder (kind : TransportKind) : kind ∈ preferenceOrder := by
  cases kind <;> decide

theorem preferenceOrder_sorted : preferenceOrder.Pairwise fun k k' => k.rank < k'.rank := by
  decide

namespace ServiceCapabilities

variable {caps : ServiceCapabilities} {ours : List TransportKind}

theorem choice_eq_some_iff {kind : TransportKind} {c : TransportChoice} :
    caps.choice ours kind = some c ↔
      c.kind = kind ∧ kind ∈ ours ∧ caps.endpoint kind = some c.endpoint := by
  unfold choice
  split
  · next hmem =>
    rw [List.contains_iff_mem] at hmem
    constructor
    · intro h
      obtain ⟨endpoint, hendpoint, rfl⟩ := Option.map_eq_some_iff.mp h
      exact ⟨rfl, hmem, hendpoint⟩
    · rintro ⟨rfl, _, hendpoint⟩
      rw [hendpoint]
      rfl
  · next hmem =>
    rw [List.contains_iff_mem] at hmem
    exact ⟨nofun, fun h => absurd h.2.1 hmem⟩

theorem choice_eq_none_iff {kind : TransportKind} :
    caps.choice ours kind = none ↔ (kind ∈ ours → caps.endpoint kind = none) := by
  unfold choice
  split
  · next hmem =>
    rw [List.contains_iff_mem] at hmem
    rw [Option.map_eq_none_iff]
    exact ⟨fun h _ => h, fun h => h hmem⟩
  · next hmem =>
    rw [List.contains_iff_mem] at hmem
    exact ⟨fun _ h => absurd h hmem, fun _ => rfl⟩

/-- **The choice is the most preferred one that both sides have.** -/
theorem select_eq_ok_iff {c : TransportChoice} :
    caps.select ours = .ok c ↔ MostPreferred caps.endpoint ours c := by
  have hselect : caps.select ours = .ok c
      ↔ preferenceOrder.findSome? (caps.choice ours) = some c := by
    unfold select
    split
    · next c' hc' => rw [hc', Except.ok.injEq, Option.some.injEq]
    · next hnone => simp [hnone]
  rw [hselect, List.findSome?_eq_some_iff]
  constructor
  · rintro ⟨before, kind, after, horder, hchoice, hbefore⟩
    obtain ⟨rfl, hmem, hendpoint⟩ := choice_eq_some_iff.mp hchoice
    refine ⟨hmem, hendpoint, fun k hk hrank => ?_⟩
    -- what is preferred stands before it
    have hsorted := preferenceOrder_sorted
    rw [horder, List.pairwise_append, List.pairwise_cons] at hsorted
    have hkind := mem_preferenceOrder k
    rw [horder, List.mem_append, List.mem_cons] at hkind
    rcases hkind with hin | rfl | hin
    · exact choice_eq_none_iff.mp (hbefore k hin) hk
    · omega
    · have hlater := hsorted.2.1.1 k hin
      omega
  · rintro ⟨hmem, hendpoint, hfirst⟩
    obtain ⟨before, after, horder⟩ := List.append_of_mem (mem_preferenceOrder c.kind)
    refine ⟨before, c.kind, after, horder, choice_eq_some_iff.mpr ⟨rfl, hmem, hendpoint⟩, ?_⟩
    intro k hk
    have hsorted := preferenceOrder_sorted
    rw [horder, List.pairwise_append] at hsorted
    have hrank := hsorted.2.2 k hk c.kind List.mem_cons_self
    exact choice_eq_none_iff.mpr fun hours => hfirst k hours hrank

/-- **There is no choice exactly when no transport is shared.** -/
theorem select_eq_error_iff {e : TrqlError} :
    caps.select ours = .error e ↔ e = .noMatchingTransport ours caps.advertised ∧
      ∀ kind ∈ ours, caps.endpoint kind = none := by
  have hselect : caps.select ours = .error e ↔ e = .noMatchingTransport ours caps.advertised ∧
      preferenceOrder.findSome? (caps.choice ours) = none := by
    unfold select
    split
    · next c hc => simp [hc]
    · next hnone => simp [hnone, eq_comm]
  rw [hselect, List.findSome?_eq_none_iff]
  refine and_congr_right fun _ => ⟨fun h kind hkind => ?_, fun h kind _ => ?_⟩
  · exact choice_eq_none_iff.mp (h kind (mem_preferenceOrder kind)) hkind
  · exact choice_eq_none_iff.mpr (h kind)

end ServiceCapabilities

/-! ### Both together -/

/-- **What is discovered is what is offered.**  The client reads each transport with
the endpoint that the registry offers for it; it picks the most preferred one that
is offered and that it has, and fails, with the transports of both sides, exactly
when there is none. -/
theorem discovered_eq_offered {κ μ ρ : Type} (p : ProfileConfig κ μ ρ) {mediatorDid : String}
    {publicUrl : Option String} (flags : TransportFlags) (hmediator : mediatorDid ≠ "")
    (hurl : LetThrough publicUrl) :
    let caps := ServiceCapabilities.fromDocument
      (buildDidDocument p mediatorDid publicUrl flags)
    let offers := offered mediatorDid publicUrl flags
    (∀ kind, caps.endpoint kind = offers kind) ∧
      ∀ ours, (∀ c, caps.select ours = .ok c ↔ MostPreferred offers ours c) ∧
        ∀ e, caps.select ours = .error e ↔
          e = .noMatchingTransport ours (preferenceOrder.filter fun kind => (offers kind).isSome) ∧
            ∀ kind ∈ ours, offers kind = none := by
  intro caps offers
  have hendpoint : ∀ kind, caps.endpoint kind = offers kind :=
    endpoint_fromDocument p flags hmediator hurl
  have hoffers : caps.endpoint = offers := funext hendpoint
  have hadvertised : caps.advertised = preferenceOrder.filter fun kind => (offers kind).isSome := by
    rw [ServiceCapabilities.advertised, hoffers]
  refine ⟨hendpoint, fun ours => ⟨fun c => ?_, fun e => ?_⟩⟩
  · rw [ServiceCapabilities.select_eq_ok_iff, hoffers]
  · rw [ServiceCapabilities.select_eq_error_iff, hoffers, hadvertised]

/-- A profile with a key. -/
def keyedProfile : ProfileConfig Unit Unit Unit where
  did := "did:web:registry"
  secrets := [⟨"did:web:registry#key-0", .jwk ⟨none, .ec "P-256" "x" "y" (some "d")⟩, ()⟩]

/-- A registry with every transport is asked over TSP, and over HTTPS by a client
that has nothing else. -/
theorem registry_with_all_offered :
    let caps := ServiceCapabilities.fromDocument (buildDidDocument keyedProfile
      "did:web:mediator" (some "https://registry.example/") ⟨true, true, true⟩)
    caps.select [.https, .didcomm, .tsp] = .ok ⟨.tsp, "did:web:mediator"⟩ ∧
      caps.select [.https] = .ok ⟨.https, "https://registry.example"⟩ := by
  intro caps
  have hurl : LetThrough (some "https://registry.example/") := by
    intro url hmem
    obtain rfl := Option.some.inj hmem
    exact ⟨rfl, by decide, rfl⟩
  have hmediator : "did:web:mediator" ≠ "" := by decide
  have hselect := (discovered_eq_offered keyedProfile ⟨true, true, true⟩ hmediator
    hurl).2
  refine ⟨((hselect _).1 _).mpr ⟨by decide, rfl, ?_⟩, ((hselect _).1 _).mpr ⟨by decide, rfl, ?_⟩⟩
  · intro kind _ hrank
    exact absurd hrank (Nat.not_lt_zero _)
  · intro kind hmem hrank
    obtain rfl := List.mem_singleton.mp hmem
    exact absurd hrank (Nat.lt_irrefl _)

/-- **REST is served without being offered** when there is no URL: a client that has
only HTTPS picks nothing, though the registry has REST enabled. -/
theorem served_rest_not_discovered :
    let flags : TransportFlags := ⟨true, true, false⟩
    let caps := ServiceCapabilities.fromDocument
      (buildDidDocument keyedProfile "did:web:mediator" none flags)
    flags.rest = true ∧ LetThrough none ∧
      caps.select [.https] = .error (.noMatchingTransport [.https] [.didcomm]) :=
  ⟨rfl, nofun, rfl⟩

end TrustRegistry
