import TrustRegistry.Lib.AssocMap
import TrustRegistry.TrustTasks.Payloads

/-!
# Trust Task documents

The documents the registry exchanges and the part of the Trust Task framework it
calls.  The framework is a library of its own whose code is not part of the
registry: its documents are records of the members the registry reads, what it
computes from them is a parameter.

A typed handler receives the document with its payload decoded.  Here the
document keeps the payload as it came, and the decoded one is handed over next to
it.

## Main definitions

* `TrustTask`, `ErrorResponse`, `TaskOutcome` — requests, rejections, answers.
* `RejectReason` — why a request is rejected.
* `Framework` — the framework's own functions.
* `Dispatcher` — handlers by the type of the documents they serve.

## Main results

* `Dispatcher.All.on` — what holds of all registrations holds after one more.
-/

namespace TrustRegistry

/-! ### Documents -/

/-- The type of a document: `https://trusttasks.org/spec/<slug>/<version>`, with
`#response` on an answer. -/
structure TypeUri where
  slug : String
  version : String
  isResponse : Bool := false
  deriving DecidableEq

/-- The text of a type. -/
def TypeUri.display (u : TypeUri) : String :=
  s!"https://trusttasks.org/spec/{u.slug}/{u.version}" ++ if u.isResponse then "#response" else ""

/-- A document.  Times are nanoseconds since the epoch. -/
structure TrustTask where
  id : String
  threadId : Option String := none
  typeUri : TypeUri
  issuer : Option String := none
  recipient : Option String := none
  issuedAt : Option ℤ := none
  expiresAt : Option ℤ := none
  payload : Json
  proof : Option Json := none
  deriving DecidableEq

/-- Why a request is rejected.  The last kind stands for the reasons only the
framework itself gives: parties that do not fit, documents that are stale. -/
inductive RejectReason
  | malformedRequest (reason : String)
  | unsupportedType (typeUri : String)
  | proofRequired
  | proofInvalid (reason : String)
  | permissionDenied (reason : String)
  | taskFailed (reason : String) (details : Option Json)
  | internalError (reason : String)
  | framework (code reason : String)
  deriving DecidableEq

/-- The payload of a rejection. -/
structure ErrorPayload where
  reason : RejectReason
  /-- May the same document be sent again? -/
  retryable : Bool
  deriving DecidableEq

/-- The payload with the flag set as given. -/
def ErrorPayload.withRetryable (p : ErrorPayload) (retryable : Bool) : ErrorPayload :=
  { p with retryable }

/-- A rejection. -/
structure ErrorResponse where
  id : String
  threadId : Option String
  issuer : Option String
  recipient : Option String
  payload : ErrorPayload
  deriving DecidableEq

/-- What a handler answers: a document or a rejection. -/
abbrev TaskOutcome := Except ErrorResponse TrustTask

instance : DecidableEq TaskOutcome
  | .ok a, .ok b => decidable_of_iff (a = b) (by simp)
  | .error a, .error b => decidable_of_iff (a = b) (by simp)
  | .ok _, .error _ => isFalse (by simp)
  | .error _, .ok _ => isFalse (by simp)

/-! ### The framework -/

/-- The transport a document came in by. -/
inductive Transport
  | didcomm
  | tsp
  | https
  deriving DecidableEq

/-- The functions of the framework that the registry calls. -/
structure Framework where
  /-- The answer to a document, with an id and a payload. -/
  respondWith : TrustTask → String → Json → TrustTask
  /-- The rejection of a document, with an id. -/
  rejectWith : TrustTask → String → RejectReason → ErrorResponse
  /-- The same with the recipient stated. -/
  rejectWithRecipient : TrustTask → String → RejectReason → Option String → ErrorResponse
  /-- Do the parties a document names fit the local one and the sender that the
  transport knows? -/
  resolveParties : Transport → (localVid sender : Option String) → TrustTask →
    Except RejectReason Unit
  /-- Is the document fresh and addressed to us? -/
  validateBasic : TrustTask → ℤ → String → Except RejectReason Unit
  /-- The document an envelope body stands for. -/
  parse : Json → Except String TrustTask
  /-- The document that the bytes of a request stand for. -/
  parseSlice : List UInt8 → Except String TrustTask
  /-- The JSON form of a document. -/
  documentJson : TrustTask → Json
  /-- The JSON form of a rejection. -/
  errorJson : ErrorResponse → Json
  /-- The HTTP status of a rejection. -/
  statusForCode : RejectReason → ℕ
  /-- The payload types. -/
  specs : Specs

namespace Framework

/-- A rejection that goes back to a given recipient, retryable for the transient
reasons only. -/
def sampleReject (doc : TrustTask) (newId : String) (reason : RejectReason)
    (recipient : Option String) : ErrorResponse where
  id := newId
  threadId := some (doc.threadId.getD doc.id)
  issuer := doc.recipient
  recipient
  payload :=
    { reason
      retryable := match reason with
        | .internalError _ => true
        | _ => false }

/-- The members of an object with strings as values. -/
def sampleStrings (names : List String) (j : Json) : Except String (List String) :=
  names.mapM fun name =>
    match (j.get name).bind Json.asStr with
    | some s => .ok s
    | none => .error s!"missing field {name}"

/-- Payload types that read the members they need from an object. -/
def sampleSpecs : Specs :=
  let tuple j :=
    match sampleStrings ["entity_id", "authority_id", "action", "resource"] j with
    | .ok [e, a, c, r] => .ok ⟨e, a, c, r, none⟩
    | _ => .error "missing field"
  let member j := match sampleStrings ["subject", "resource"] j with
    | .ok [s, r] => .ok ⟨s, r⟩
    | _ => .error "missing field"
  let capability j := match sampleStrings ["capability"] j with
    | .ok [c] => .ok c
    | _ => .error "missing field"
  let record j := (Json.get "record" j).elim (.error "missing field") .ok
  let verdict name (v : Verdict) := .ok (.obj [(name, .bool v.granted)])
  let ok b := .ok (.obj [("ok", .bool b)])
  { recognition := tuple
    authorization := tuple
    recordCreate := record
    recordUpdate := record
    recordDelete := tuple
    recordRead := tuple
    recordList := fun _ => .ok ()
    capabilityEnable := fun j => (capability j).map fun c => ⟨c, "0.1", [], none⟩
    capabilityDisable := capability
    capabilityList := fun _ => .ok none
    gitTrustGrant := member
    gitTrustRevoke := member
    recognitionResponse := verdict "recognized"
    authorizationResponse := verdict "authorized"
    recordCreateResponse := ok
    recordUpdateResponse := ok
    recordDeleteResponse := ok
    recordReadResponse := .ok
    recordListResponse := .ok
    dateTime := fun t => .num t 0
    serdeError := fun _ => "invalid record" }

/-- A framework that reads the one document `doc`, from `body` or from the bytes
`slice`, for runs of the functions on fixed input. -/
def sample (body : Json) (slice : List UInt8) (doc : TrustTask) : Framework where
  respondWith doc newId payload :=
    { id := newId
      threadId := some (doc.threadId.getD doc.id)
      typeUri := { doc.typeUri with isResponse := true }
      issuer := doc.recipient
      recipient := doc.issuer
      payload }
  rejectWith doc newId reason := sampleReject doc newId reason doc.issuer
  rejectWithRecipient := sampleReject
  resolveParties _ localVid sender doc :=
    if doc.issuer.any (fun i => sender.any (· != i)) then
      .error (.framework "identityMismatch" "issuer is not the sender")
    else if doc.recipient.any (fun r => localVid.any (· != r)) then
      .error (.framework "identityMismatch" "recipient is not the local party")
    else .ok ()
  validateBasic doc now ourVid :=
    if doc.expiresAt.any (· ≤ now) then .error (.framework "expired" "document has expired")
    else if doc.recipient.any (· != ourVid) then
      .error (.framework "wrongRecipient" "document is not addressed to us")
    else .ok ()
  parse j := if j = body then .ok doc else .error "missing field"
  parseSlice b := if b = slice then .ok doc else .error "expected value"
  documentJson doc := .obj [("id", .str doc.id), ("payload", doc.payload)]
  errorJson e := .obj [("id", .str e.id)]
  statusForCode reason := match reason with
    | .permissionDenied _ => 403
    | .internalError _ => 500
    | _ => 400
  specs := sampleSpecs

theorem sample_parseSlice (body : Json) (slice : List UInt8) (doc : TrustTask) :
    (sample body slice doc).parseSlice slice = .ok doc := by
  simp [sample]

end Framework

/-! ### Dispatchers -/

/-- Handlers by the type of the documents they serve. -/
abbrev Dispatcher (H : Type*) := AssocMap TypeUri H

namespace Dispatcher

variable {H : Type*}

/-- No handler. -/
def new : Dispatcher H := AssocMap.empty

/-- Register a handler for a type. -/
def on (d : Dispatcher H) (u : TypeUri) (h : H) : Dispatcher H := d.insert u h

theorem get?_on (d : Dispatcher H) (u : TypeUri) (h : H) (v : TypeUri) :
    (d.on u h).get? v = if v = u then some h else d.get? v := AssocMap.get?_insert d u h v

/-- Every registration satisfies `p`. -/
def All (p : TypeUri → H → Prop) (d : Dispatcher H) : Prop := ∀ u h, d.get? u = some h → p u h

theorem All.new {p : TypeUri → H → Prop} : All p (new : Dispatcher H) := fun _ _ h => by
  simp [Dispatcher.new] at h

theorem All.on {p : TypeUri → H → Prop} {d : Dispatcher H} (hd : d.All p) {u : TypeUri} {h : H}
    (hu : p u h) : (d.on u h).All p := by
  intro v g hg
  rw [get?_on] at hg
  split at hg
  · next hv =>
    obtain rfl := Option.some.inj hg
    rw [hv]
    exact hu
  · exact hd v g hg

/-- The handler of a document, or its rejection. -/
def dispatchOrReject (F : Framework) (d : Dispatcher H) (doc : TrustTask) (newId : String) :
    Except ErrorResponse H :=
  match d.get? doc.typeUri with
  | some h => .ok h
  | none => .error (F.rejectWith doc newId (.unsupportedType doc.typeUri.display))

end Dispatcher

end TrustRegistry
