import TrustRegistry.Client.Discovery
import TrustRegistry.Lib.FirstRead

/-!
# What a document advertises

A document advertises a transport by its first service of a type for it that has a
URI.  `ServiceCapabilities.fromDocument` passes over some of these services: those
that are also of a type for a more preferred transport, and those where an empty text
stands before the URI.

## Main definitions

* `advertisedFor` — the URI that a document advertises for a transport.
* `passedOver` — a service that is not read for a transport.

## Main results

* `endpoint_fromDocument_eq` — the endpoint is that of the first service that is read.
* `endpoint_eq_advertisedFor_iff` — exactly when the endpoint is what the document
  advertises.
-/

namespace TrustRegistry

/-! ### What is advertised -/

mutual

/-- The first URI of an endpoint that is not empty. -/
def nonEmptyUri : Json → Option String
  | .str s => if s = "" then none else some s
  | .obj members => ((Json.member "uri" members).bind Json.asStr).filter (· ≠ "")
  | .arr items => firstNonEmptyUri items
  | .null | .bool _ | .num _ _ => none

/-- The first URI in an array that is not empty. -/
def firstNonEmptyUri : List Json → Option String
  | [] => none
  | endpoint :: items =>
    match nonEmptyUri endpoint with
    | some uri => some uri
    | none => firstNonEmptyUri items

end

/-- The types of services for a transport. -/
def TransportKind.serviceTypes : TransportKind → List String
  | tsp => [TransportKind.tsp.serviceType]
  | didcomm => [TransportKind.didcomm.serviceType]
  | https => restServiceTypes

/-- Is the service of a type for the transport? -/
def isServiceFor (kind : TransportKind) (svc : Json) : Bool :=
  kind.serviceTypes.any (serviceHasType svc)

/-- The URI that a service offers for a transport. -/
def offeredBy (kind : TransportKind) (svc : Json) : Option String :=
  if isServiceFor kind svc then (svc.get "serviceEndpoint").bind nonEmptyUri else none

/-- The services of a document. -/
def documentServices (doc : Json) : List Json :=
  match doc.get "service" with
  | some (.arr services) => services
  | _ => []

/-- The URI that a document advertises for a transport. -/
def advertisedFor (doc : Json) (kind : TransportKind) : Option String :=
  (documentServices doc).findSome? (offeredBy kind)

/-! ### What is read -/

/-- A service that is not read for the transport: an empty text stands first in its
endpoint, or it is also of a type for a more preferred transport. -/
def passedOver (kind : TransportKind) (svc : Json) : Bool :=
  decide ((svc.get "serviceEndpoint").bind endpointUri = some "") ||
    preferenceOrder.any fun k => decide (k.rank < kind.rank) && isServiceFor k svc

mutual

/-- Without a URI there is none that is not empty. -/
theorem nonEmptyUri_of_none :
    ∀ {endpoint : Json}, endpointUri endpoint = none → nonEmptyUri endpoint = none
  | .str _, h => nomatch h
  | .obj _, h => by
    rw [endpointUri] at h
    rw [nonEmptyUri, h, Option.filter_none]
  | .arr _, h => by
    rw [endpointUri] at h
    rw [nonEmptyUri]
    exact firstNonEmptyUri_of_none h
  | .null, _ | .bool _, _ | .num _ _, _ => by rw [nonEmptyUri]

theorem firstNonEmptyUri_of_none :
    ∀ {items : List Json}, firstEndpointUri items = none → firstNonEmptyUri items = none
  | [], _ => rfl
  | endpoint :: items, h => by
    rw [firstEndpointUri] at h
    cases hendpoint : endpointUri endpoint with
    | some uri => rw [hendpoint] at h; cases h
    | none =>
      rw [hendpoint] at h
      rw [firstNonEmptyUri, nonEmptyUri_of_none hendpoint]
      exact firstNonEmptyUri_of_none h

end

mutual

/-- A first URI that is not empty is the first of those. -/
theorem nonEmptyUri_of_some {uri : String} (hne : uri ≠ "") :
    ∀ {endpoint : Json}, endpointUri endpoint = some uri → nonEmptyUri endpoint = some uri
  | .str _, h => by
    obtain rfl := Option.some.inj h
    rw [nonEmptyUri, if_neg hne]
  | .obj _, h => by
    rw [endpointUri] at h
    rw [nonEmptyUri, h]
    exact Option.filter_some_pos (decide_eq_true hne)
  | .arr _, h => by
    rw [endpointUri] at h
    rw [nonEmptyUri]
    exact firstNonEmptyUri_of_some hne h
  | .null, h | .bool _, h | .num _ _, h => by rw [endpointUri] at h; cases h

theorem firstNonEmptyUri_of_some {uri : String} (hne : uri ≠ "") :
    ∀ {items : List Json}, firstEndpointUri items = some uri → firstNonEmptyUri items = some uri
  | [], h => nomatch h
  | endpoint :: items, h => by
    rw [firstEndpointUri] at h
    cases hendpoint : endpointUri endpoint with
    | some uri' =>
      rw [hendpoint] at h
      obtain rfl := Option.some.inj h
      rw [firstNonEmptyUri, nonEmptyUri_of_some hne hendpoint]
    | none =>
      rw [hendpoint] at h
      rw [firstNonEmptyUri, nonEmptyUri_of_none hendpoint]
      exact firstNonEmptyUri_of_some hne h

end

theorem isServiceFor_tsp (svc : Json) :
    isServiceFor .tsp svc = serviceHasType svc TransportKind.tsp.serviceType := by
  simp [isServiceFor, TransportKind.serviceTypes]

theorem isServiceFor_didcomm (svc : Json) :
    isServiceFor .didcomm svc = serviceHasType svc TransportKind.didcomm.serviceType := by
  simp [isServiceFor, TransportKind.serviceTypes]

theorem isServiceFor_https (svc : Json) :
    isServiceFor .https svc = restServiceTypes.any (serviceHasType svc) := rfl

/-- What comes before a transport decides whether its service is passed over. -/
theorem preferred_any (kind : TransportKind) (svc : Json) :
    (preferenceOrder.any fun k => decide (k.rank < kind.rank) && isServiceFor k svc) =
      match kind with
      | .tsp => false
      | .didcomm => isServiceFor .tsp svc
      | .https => isServiceFor .tsp svc || isServiceFor .didcomm svc := by
  cases kind <;> simp [preferenceOrder, TransportKind.rank]

/-- Reading a service with a URI: the transport it is read for gets it. -/
theorem endpoint_addService_of_uri (caps : ServiceCapabilities) (kind : TransportKind) {svc : Json}
    {uri : String} (huri : (svc.get "serviceEndpoint").bind endpointUri = some uri)
    (hne : uri ≠ "") :
    (caps.addService svc).endpoint kind = (caps.endpoint kind).or
      (if (preferenceOrder.any fun k => decide (k.rank < kind.rank) && isServiceFor k svc) then none
        else if isServiceFor kind svc then some uri else none) := by
  unfold ServiceCapabilities.addService
  rw [huri]
  dsimp only
  rw [if_neg hne, preferred_any, ← isServiceFor_tsp, ← isServiceFor_didcomm, ← isServiceFor_https]
  obtain ⟨tsp, didcomm, https⟩ := caps
  cases htsp : isServiceFor .tsp svc <;> cases hdidcomm : isServiceFor .didcomm svc <;>
    cases hhttps : isServiceFor .https svc <;> cases kind <;>
      simp [ServiceCapabilities.endpoint, htsp, hdidcomm, hhttps]

/-- **Reading a service**: a transport without an endpoint gets what the service
offers, unless it is passed over. -/
theorem endpoint_addService (caps : ServiceCapabilities) (kind : TransportKind) (svc : Json) :
    (caps.addService svc).endpoint kind =
      (caps.endpoint kind).or (if passedOver kind svc then none else offeredBy kind svc) := by
  unfold passedOver offeredBy
  cases huri : (svc.get "serviceEndpoint").bind endpointUri with
  | none =>
    have hnone : (svc.get "serviceEndpoint").bind nonEmptyUri = none := by
      cases hendpoint : svc.get "serviceEndpoint" with
      | none => rfl
      | some endpoint =>
        rw [hendpoint] at huri
        exact nonEmptyUri_of_none huri
    rw [hnone, ite_self, ite_self, Option.or_none, ServiceCapabilities.addService, huri]
  | some uri =>
    by_cases hne : uri = ""
    · subst hne
      rw [ServiceCapabilities.addService, huri]
      simp
    · have hsome : (svc.get "serviceEndpoint").bind nonEmptyUri = some uri := by
        obtain ⟨endpoint, hendpoint, huri⟩ := Option.bind_eq_some_iff.mp huri
        rw [hendpoint]
        exact nonEmptyUri_of_some hne huri
      rw [endpoint_addService_of_uri caps kind huri hne, hsome,
        decide_eq_false (fun h => hne (Option.some.inj h)), Bool.false_or]

/-- Reading services one after the other: the first that is read counts. -/
theorem endpoint_foldl_addService (kind : TransportKind) (services : List Json) :
    ∀ caps : ServiceCapabilities, (services.foldl .addService caps).endpoint kind =
      (caps.endpoint kind).or
        (services.findSome? fun svc =>
          if passedOver kind svc then none else offeredBy kind svc) := by
  induction services with
  | nil => simp
  | cons svc services ih =>
    intro caps
    rw [List.foldl_cons, ih, endpoint_addService, Option.or_assoc, List.findSome?_cons]
    congr 1
    cases (if passedOver kind svc then none else offeredBy kind svc) <;> rfl

/-- **The endpoint of a transport** is what the first service that is not passed over
offers for it. -/
theorem endpoint_fromDocument_eq (doc : Json) (kind : TransportKind) :
    (ServiceCapabilities.fromDocument doc).endpoint kind =
      (documentServices doc).findSome? fun svc =>
        if passedOver kind svc then none else offeredBy kind svc := by
  have hfold : ServiceCapabilities.fromDocument doc =
      (documentServices doc).foldl .addService {} := by
    unfold ServiceCapabilities.fromDocument documentServices
    cases doc.get "service" with
    | none => rfl
    | some services => cases services <;> rfl
  rw [hfold, endpoint_foldl_addService]
  cases kind <;> rfl

/-! ### When the two agree -/

/-- **The endpoint is what the document advertises** exactly when the first service that
offers the transport is not passed over, or the next one that is not passed over and
offers it has the same URI. -/
theorem endpoint_eq_advertisedFor_iff (doc : Json) (kind : TransportKind) :
    (ServiceCapabilities.fromDocument doc).endpoint kind = advertisedFor doc kind ↔
      FirstReadAgrees (offeredBy kind) (passedOver kind) (documentServices doc) := by
  rw [endpoint_fromDocument_eq, advertisedFor]
  exact findSome?_skipped_eq_iff (documentServices doc)

/-- A mediator that serves both transports in one service is found for one of them,
and one whose URI stands after an empty text is not found. -/
theorem mediator_not_found :
    let both : Json := .obj [("service", .arr [.obj [("id", .str "#mediator"),
      ("type", .arr [.str "TSPTransport", .str "DIDCommMessaging"]),
      ("serviceEndpoint", .str "did:web:mediator")]])]
    let second : Json := .obj [("service", .arr [.obj [("id", .str "#didcomm"),
      ("type", .str "DIDCommMessaging"),
      ("serviceEndpoint", .arr [.str "", .obj [("uri", .str "did:web:mediator")]])]])]
    (advertisedFor both .didcomm = some "did:web:mediator" ∧
        (ServiceCapabilities.fromDocument both).endpoint .didcomm = none) ∧
      advertisedFor second .didcomm = some "did:web:mediator" ∧
        (ServiceCapabilities.fromDocument second).endpoint .didcomm = none := by
  refine ⟨⟨?_, ?_⟩, ?_, ?_⟩ <;> decide

end TrustRegistry
