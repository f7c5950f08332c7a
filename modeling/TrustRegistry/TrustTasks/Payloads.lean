import Mathlib.Algebra.Ring.Int.Defs
import Mathlib.Algebra.Ring.Nat
import TrustRegistry.Storage.Repository

/-!
# Payloads of the Trust Tasks

The payloads the handlers read and the answers they give.  Their types are
generated from published specifications that are not part of the registry: what
the registry reads from a payload is a record here, and how a payload decodes and
an answer is written is a parameter.

## Main definitions

* `QueryPayload`, `EnablePayload`, `GitTrustPayload`, … — what is read.
* `Verdict` — what a query answers.
* `Specs` — decoding and writing.
* `DidRotateRequest` — the one payload the registry defines itself.
-/

namespace TrustRegistry

/-! ### What is read -/

/-- The tuple of a query, with the time the caller states. -/
structure QueryPayload where
  entityId : String
  authorityId : String
  action : String
  resource : String
  time : Option Json := none
  deriving DecidableEq

/-- The repository's form of the tuple. -/
def queryOf (p : QueryPayload) : TrustRecordQuery :=
  ⟨⟨p.entityId⟩, ⟨p.authorityId⟩, ⟨p.action⟩, ⟨p.resource⟩⟩

/-- A request to enable a capability. -/
structure EnablePayload where
  capability : String
  version : String
  config : List (String × Json)
  delegate : Option String
  deriving DecidableEq

/-- A request to grant or revoke signing authority. -/
structure GitTrustPayload where
  subject : String
  resource : String
  deriving DecidableEq

/-- The answer to a query. -/
structure Verdict where
  query : QueryPayload
  granted : Bool
  timeEvaluated : ℤ
  timeRequested : Option Json
  message : Option String
  deriving DecidableEq

/-! ### Decoding and writing -/

/-- The generated payload types: how each decodes and how answers are written. -/
structure Specs where
  recognition : Json → Except String QueryPayload
  authorization : Json → Except String QueryPayload
  /-- The record that a creation or an update carries, written out again. -/
  recordCreate : Json → Except String Json
  recordUpdate : Json → Except String Json
  recordDelete : Json → Except String QueryPayload
  recordRead : Json → Except String QueryPayload
  recordList : Json → Except String Unit
  capabilityEnable : Json → Except String EnablePayload
  capabilityDisable : Json → Except String String
  /-- The status a listing asks for, in lower case. -/
  capabilityList : Json → Except String (Option String)
  gitTrustGrant : Json → Except String GitTrustPayload
  gitTrustRevoke : Json → Except String GitTrustPayload
  recognitionResponse : Verdict → Except String Json
  authorizationResponse : Verdict → Except String Json
  recordCreateResponse : Bool → Except String Json
  recordUpdateResponse : Bool → Except String Json
  recordDeleteResponse : Bool → Except String Json
  /-- A record read into its published form and written out again. -/
  recordReadResponse : Json → Except String Json
  recordListResponse : Json → Except String Json
  /-- How a time is written. -/
  dateTime : ℤ → Json
  /-- Why a document does not decode. -/
  serdeError : Json → String

/-- The record a document stands for. -/
def Specs.record (P : Specs) (j : Json) : Except String TrustRecord :=
  (TrustRecord.ofJson j).elim (.error (P.serdeError j)) .ok

/-! ### Rotation of the registry's own keys -/

/-- A request to rotate the keys of the registry's DID. -/
structure DidRotateRequest where
  preRotationCount : Option ℕ
  label : Option String
  deriving DecidableEq

/-- The answer to it. -/
structure DidRotateResponse where
  did : String
  newScid : String
  newVersionId : String
  deriving DecidableEq

/-- The number a document is, if it is one of 32 bits. -/
def asU32 : Json → Option ℕ
  | .num m 0 => if 0 ≤ m ∧ m < 2 ^ 32 then some m.toNat else none
  | _ => none

/-- Read a request from its JSON form; both fields may be left out. -/
def DidRotateRequest.ofJson (j : Json) : Option DidRotateRequest := do
  let m ← j.fieldsFrom 0 ["pre_rotation_count", "label"]
  let preRotationCount ← Json.optional asU32 (Json.member "pre_rotation_count" m)
  let label ← Json.optional Json.asStr (Json.member "label" m)
  return { preRotationCount, label }

/-- The JSON form of the answer. -/
def DidRotateResponse.toJson (r : DidRotateResponse) : Json :=
  .obj [("did", .str r.did), ("new_scid", .str r.newScid), ("new_version_id", .str r.newVersionId)]

end TrustRegistry
