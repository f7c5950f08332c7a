import TrustRegistry.Capabilities.CapabilitySet
import TrustRegistry.Domain.Key
import TrustRegistry.TrustTasks.Router

/-!
# The `git-trust` capability

Granting a member the authority to sign commits stores an authorization record;
revoking it replaces the record by one that is not authorized.  The authority the
records are kept under comes from the configuration the capability is enabled
with.

## Main definitions

* `GitTrust.definition` — the capability.
* `GitTrust.authorityOf` — the authority of an enabled state.
* `GitTrust.handleGrant`, `GitTrust.handleRevoke` — the handlers.

## Main results

* `GitTrust.handleGrant_snd`, `GitTrust.handleRevoke_snd` — what they leave.
-/

namespace TrustRegistry

namespace GitTrust

/-- The action every record is kept under. -/
def action : String := "git.commit.sign"

/-- The name of the capability. -/
def slug : String := "git-trust"

/-- Does a text start like a DID? -/
def isDid (s : String) : Bool := "did:".toList.isPrefixOf s.toList

/-- The authority of an enabled state, if its configuration has one. -/
def authorityOf (state : CapabilityState) : Option String :=
  ((state.config.bind (Json.get "authority")).bind Json.asStr).filter isDid

/-- The check of a configuration. -/
def validateConfig (config : Json) : Except String Unit :=
  match config.get "authority" with
  | some (.str did) =>
    if isDid did then .ok () else .error "\x60authority\x60 must be a DID string"
  | some _ => .error "\x60authority\x60 must be a DID string"
  | none =>
    .error "git-trust config requires \x60authority\x60 (the community's authority DID)"

/-- The manifest. -/
def manifest : CapabilityManifest where
  capability := slug
  document := .obj [
    ("capability", .str slug),
    ("version", .str "0.1"),
    ("title", .str "Git Commit Trust"),
    ("description", .str ("Grant and revoke members' commit-signing authority; CI verifies each " ++
      "PR commit's signer DID against this community's registry.")),
    ("specs", .arr [.str "git-trust/*"]),
    ("vocabulary", .obj [("actions", .arr [.str action]),
      ("resourcePattern", .str "<org>[/<repo>]")]),
    ("roles", .obj [("grant", .arr [.str "operator"]), ("view", .arr [.str "member"])]),
    ("externalAdapters", .arr [.obj [("kind", .str "github-action"),
      ("ref", .str "OpenVTC/openvtc/.github/actions/verify-trust")]])]

/-- The registrations in a given state. -/
def register (dispatcher : Dispatcher TaskHandler) (state : CapabilityState) :
    Dispatcher TaskHandler :=
  (dispatcher.on .gitTrustGrant (.gitTrustGrant (authorityOf state))).on
    .gitTrustRevoke (.gitTrustRevoke (authorityOf state))

/-- The capability. -/
def definition : CapabilityDefinition TaskHandler := ⟨manifest, register, some validateConfig⟩

/-! ### The handlers -/

/-- The tuple of a grant. -/
def tuple (authority : String) (p : GitTrustPayload) : TrustRecordQuery :=
  ⟨⟨p.subject⟩, ⟨authority⟩, ⟨action⟩, ⟨p.resource⟩⟩

/-- The record of a grant. -/
def grantRecord (authority : String) (p : GitTrustPayload) : TrustRecord where
  entityId := ⟨p.subject⟩
  authorityId := ⟨authority⟩
  action := ⟨action⟩
  resource := ⟨p.resource⟩
  recognized := some true
  authorized := some true
  context := Context.empty
  recordType := .authorization

/-- The record that a revocation leaves of an existing one. -/
def revokedRecord (authority : String) (p : GitTrustPayload) (existing : TrustRecord) :
    TrustRecord :=
  { grantRecord authority p with
    recognized := some existing.isRecognized
    authorized := some false
    context := existing.context }

section

variable {σ : Type*} (F : Framework) (R : TrustRecordAdminRepository σ) (newId : String)

/-- Run with the authority, if there is one. -/
def requireAuthority (authority : Option String) (doc : TrustTask) (s : σ)
    (run : String → TaskOutcome × σ) : TaskOutcome × σ :=
  match authority with
  | some a => run a
  | none =>
    (reject F newId doc
      (.internalError "git-trust is enabled without an authority DID in its config"), s)

/-- The answer to a change that has been made. -/
def changed (doc : TrustTask) (p : GitTrustPayload) (done : String) : TaskOutcome :=
  .ok (F.respondWith doc newId
    (.obj [("subject", .str p.subject), ("resource", .str p.resource), (done, .bool true)]))

/-- Store the record of a grant. -/
def handleGrant (authority : Option String) (doc : TrustTask) (p : GitTrustPayload) (s : σ) :
    TaskOutcome × σ :=
  requireAuthority F newId authority doc s fun authority =>
    match R.create s (grantRecord authority p) with
    | (.ok (), s) => (changed F newId doc p "granted", s)
    | (.error (.recordAlreadyExists _), s) =>
      (reject F newId doc (.taskFailed
        "already_granted: an active grant exists for this subject and resource" none), s)
    | (.error e, s) => (reject F newId doc (.internalError e.display), s)

/-- Replace the record of a grant by one that is not authorized. -/
def handleRevoke (authority : Option String) (doc : TrustTask) (p : GitTrustPayload) (s : σ) :
    TaskOutcome × σ :=
  requireAuthority F newId authority doc s fun authority =>
    match R.read s (tuple authority p) with
    | .error (.recordNotFound _) =>
      (reject F newId doc (.taskFailed
        "not_granted: no active grant exists for this subject and resource" none), s)
    | .error e => (reject F newId doc (.internalError e.display), s)
    | .ok existing =>
      match R.update s (revokedRecord authority p existing) with
      | (.ok (), s) => (changed F newId doc p "revoked", s)
      | (.error e, s) => (reject F newId doc (.internalError e.display), s)

/-- The answer to a change that has been made is no rejection. -/
theorem changed_ne_error {doc : TrustTask} {p : GitTrustPayload} {done : String}
    {e : ErrorResponse} : changed F newId doc p done ≠ .error e := by
  intro h
  cases h

/-- A grant leaves what the creation of its record leaves. -/
theorem handleGrant_snd (authority : Option String) (doc : TrustTask) (p : GitTrustPayload)
    (s : σ) :
    (handleGrant F R newId authority doc p s).2 =
      authority.elim s fun a => (R.create s (grantRecord a p)).2 := by
  cases authority with
  | none => rfl
  | some a =>
    simp only [handleGrant, requireAuthority, Option.elim_some]
    rcases R.create s (grantRecord a p) with ⟨e | _, _⟩
    · cases e <;> rfl
    · rfl

/-- A revocation leaves what the update of the record it finds leaves. -/
theorem handleRevoke_snd (authority : Option String) (doc : TrustTask) (p : GitTrustPayload)
    (s : σ) : (handleRevoke F R newId authority doc p s).2 =
      authority.elim s fun a =>
        match R.read s (tuple a p) with
        | .ok existing => (R.update s (revokedRecord a p existing)).2
        | .error _ => s := by
  cases authority with
  | none => rfl
  | some a =>
    simp only [handleRevoke, requireAuthority, Option.elim_some]
    rcases R.read s (tuple a p) with e | existing
    · cases e <;> rfl
    · simp only
      rcases R.update s (revokedRecord a p existing) with ⟨_ | _, _⟩ <;> rfl

end

end GitTrust

end TrustRegistry
