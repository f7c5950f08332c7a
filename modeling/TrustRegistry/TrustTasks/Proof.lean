import TrustRegistry.TrustTasks.Framework

/-!
# The gate on writes

What a mediator binding asks of a document before it is dispatched: documents of
one of the writing types must carry a proof, come from an administrator and have
their proof verified.  Any other document passes.

## Main definitions

* `isWriteSlug` — the writing types.
* `authorizeWrite`, `verifyWriteProof` — the two checks.

## Main results

* `authorizeWrite_eq_ok_iff`, `verifyWriteProof_eq_ok_iff` — what passes.
-/

namespace TrustRegistry

/-- The slugs of the types that change the registry. -/
def writeSlugs : List String :=
  ["registry/record/create", "registry/record/update", "registry/record/delete",
    "registry/did/rotate", "governance/capability/enable", "governance/capability/disable",
    "git-trust/grant", "git-trust/revoke"]

/-- Does a document of this slug change the registry? -/
def isWriteSlug (slug : String) : Bool := slug ∈ writeSlugs

/-- A write must carry a proof and come from an administrator. -/
def authorizeWrite (doc : TrustTask) (senderDid : String) (adminDids : List String) :
    Except RejectReason Unit :=
  if !isWriteSlug doc.typeUri.slug then .ok ()
  else if doc.proof.isNone then .error .proofRequired
  else if !adminDids.any (· == senderDid) then
    .error (.permissionDenied s!"DID {senderDid} is not authorised to modify the registry")
  else .ok ()

/-- The proof of a write must be accepted.  A write without one passes here: its
presence is `authorizeWrite`'s to ask. -/
def verifyWriteProof (verifyJson : TrustTask → Except String Unit) (doc : TrustTask) :
    Except RejectReason Unit :=
  if !isWriteSlug doc.typeUri.slug || doc.proof.isNone then .ok ()
  else (verifyJson doc).mapError .proofInvalid

theorem authorizeWrite_eq_ok_iff {doc : TrustTask} {senderDid : String} {adminDids : List String} :
    authorizeWrite doc senderDid adminDids = .ok () ↔
      (isWriteSlug doc.typeUri.slug = true → doc.proof.isSome = true ∧ senderDid ∈ adminDids) := by
  unfold authorizeWrite
  cases isWriteSlug doc.typeUri.slug with
  | false => simp
  | true =>
    cases doc.proof with
    | none => simp
    | some p => by_cases h : senderDid ∈ adminDids <;> simp [h]

theorem verifyWriteProof_eq_ok_iff {verifyJson : TrustTask → Except String Unit} {doc : TrustTask} :
    verifyWriteProof verifyJson doc = .ok () ↔
      (isWriteSlug doc.typeUri.slug = true → doc.proof.isSome = true →
        verifyJson doc = .ok ()) := by
  unfold verifyWriteProof
  cases isWriteSlug doc.typeUri.slug with
  | false => simp
  | true =>
    cases doc.proof with
    | none => simp
    | some p => cases verifyJson doc <;> simp [Except.mapError]

end TrustRegistry
