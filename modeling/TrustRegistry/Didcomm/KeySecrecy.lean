import Mathlib.Data.List.Forall2
import TrustRegistry.Configs.DidcommConfig

/-!
# Private keys and the published document

The registry holds its keys with their private parts, and builds the document that
it serves to everyone from the same records.  The document is compared over two
identities that may differ in all that is private: the private parts, the keys of
other types, the material that is not a key in JSON form and the other members.

## Main definitions

* `SamePublic` — two secrets with one public part.
* `handleWellknownDidJson` — what is served.

## Main results

* `publicJwk_eq_iff` — the public part is all of a secret that is published.
* `buildDidDocument_eq_iff` — the document is the DID and the public parts.
* `buildDidDocument_eq_of_samePublic` — nothing private is in the text.
* `handleWellknownDidJson_eq_of_samePublic` — nor in what is served.
-/

namespace TrustRegistry

variable {κ μ ρ : Type}

/-- What is served, to everyone: the text of the configuration as `parse` reads it, or
an empty object. -/
def handleWellknownDidJson (parse : String → Option Json) (config : DidcommConfig κ μ ρ) :
    ℕ × Json :=
  (200, (parse config.didDocument).getD (.obj []))

/-! ### Public parts -/

/-- Two materials of one kind, with one key id and the same public parameters.  The
private parts may be any, and so may all that is not an EC or OKP key. -/
inductive SamePublic : SecretMaterial κ μ → SecretMaterial κ μ → Prop
  | ec (keyId : Option String) (curve x y : String) (d d' : Option String) :
    SamePublic (.jwk ⟨keyId, .ec curve x y d⟩) (.jwk ⟨keyId, .ec curve x y d'⟩)
  | okp (keyId : Option String) (curve x : String) (d d' : Option String) :
    SamePublic (.jwk ⟨keyId, .okp curve x d⟩) (.jwk ⟨keyId, .okp curve x d'⟩)
  | other {a b : SecretMaterial κ μ} (ha : a.isPublishable = false)
    (hb : b.isPublishable = false) : SamePublic a b

/-- The member of the key id is there when the key has one, and holds it. -/
theorem kid_inj {k k' : Option String} :
    (k.toList.map fun kid => ("kid", Json.str kid)) =
      (k'.toList.map fun kid => ("kid", Json.str kid)) ↔ k = k' := by
  cases k with
  | none => cases k' <;> simp
  | some k => cases k' <;> simp

/-- The public part is empty for what is not an EC or OKP key, and only for it. -/
theorem publicJwk_eq_empty_iff {a : SecretMaterial κ μ} :
    a.publicJwk = .obj [] ↔ a.isPublishable = false := by
  match a with
  | .jwk ⟨_, .ec ..⟩ =>
    simp [SecretMaterial.publicJwk, buildPublicJwk, SecretMaterial.isPublishable]
  | .jwk ⟨_, .okp ..⟩ =>
    simp [SecretMaterial.publicJwk, buildPublicJwk, SecretMaterial.isPublishable]
  | .jwk ⟨_, .other _⟩ =>
    simp [SecretMaterial.publicJwk, buildPublicJwk, SecretMaterial.isPublishable]
  | .other _ => simp [SecretMaterial.publicJwk, SecretMaterial.isPublishable]

/-- **The public part is all of a secret that is published.** -/
theorem publicJwk_eq_iff {a b : SecretMaterial κ μ} :
    a.publicJwk = b.publicJwk ↔ SamePublic a b := by
  constructor
  · intro h
    cases ha : a.isPublishable with
    | false =>
      have hb : b.isPublishable = false :=
        publicJwk_eq_empty_iff.mp (h.symm.trans (publicJwk_eq_empty_iff.mpr ha))
      exact .other ha hb
    | true =>
      have hb : b.isPublishable = true := by
        cases hb : b.isPublishable with
        | true => rfl
        | false =>
          have ha' := publicJwk_eq_empty_iff.mp (h.trans (publicJwk_eq_empty_iff.mpr hb))
          rw [ha] at ha'
          cases ha'
      match a, b, ha, hb with
      | .jwk ⟨k, .ec c x y d⟩, .jwk ⟨k', .ec c' x' y' d'⟩, _, _ =>
        simp only [SecretMaterial.publicJwk, buildPublicJwk, List.cons_append, List.nil_append,
          Json.obj.injEq, List.cons.injEq, Prod.mk.injEq, Json.str.injEq, true_and, kid_inj] at h
        obtain ⟨rfl, rfl, rfl, rfl⟩ := h
        exact .ec k c x y d d'
      | .jwk ⟨k, .okp c x d⟩, .jwk ⟨k', .okp c' x' d'⟩, _, _ =>
        simp only [SecretMaterial.publicJwk, buildPublicJwk, List.cons_append, List.nil_append,
          Json.obj.injEq, List.cons.injEq, Prod.mk.injEq, Json.str.injEq, true_and, kid_inj] at h
        obtain ⟨rfl, rfl, rfl⟩ := h
        exact .okp k c x d d'
      | .jwk ⟨_, .ec ..⟩, .jwk ⟨_, .okp ..⟩, _, _ =>
        simp [SecretMaterial.publicJwk, buildPublicJwk] at h
      | .jwk ⟨_, .okp ..⟩, .jwk ⟨_, .ec ..⟩, _, _ =>
        simp [SecretMaterial.publicJwk, buildPublicJwk] at h
  · intro h
    cases h with
    | ec => rfl
    | okp => rfl
    | other ha hb => rw [publicJwk_eq_empty_iff.mpr ha, publicJwk_eq_empty_iff.mpr hb]

/-! ### The document -/

variable {p q : ProfileConfig κ μ ρ}

/-- The verification methods of two identities with one DID agree exactly when the
public parts of their secrets do, position by position. -/
theorem buildVerificationMethods_eq_iff (hdid : p.did = q.did) :
    p.buildVerificationMethods = q.buildVerificationMethods ↔
      List.Forall₂ (fun s t => SamePublic s.secretMaterial t.secretMaterial)
        p.secrets q.secrets := by
  rw [List.ext_getElem_iff, List.forall₂_iff_get]
  simp [ProfileConfig.buildVerificationMethods, ProfileConfig.keyRef, hdid, Secret.publicJwk,
    publicJwk_eq_iff]

/-- **The document is the DID and the public parts.** -/
theorem buildDidDocument_eq_iff (mediatorDid : String) (publicUrl : Option String)
    (flags : TransportFlags) :
    buildDidDocument p mediatorDid publicUrl flags = buildDidDocument q mediatorDid publicUrl flags ↔
      p.did = q.did ∧ List.Forall₂ (fun s t => SamePublic s.secretMaterial t.secretMaterial)
        p.secrets q.secrets := by
  constructor
  · intro h
    simp only [buildDidDocument, Json.obj.injEq, List.cons.injEq, Prod.mk.injEq, Json.str.injEq,
      Json.arr.injEq, true_and] at h
    obtain ⟨hdid, hmethods, -⟩ := h
    exact ⟨hdid, (buildVerificationMethods_eq_iff hdid).mp hmethods⟩
  · rintro ⟨hdid, hsecrets⟩
    have hmethods := (buildVerificationMethods_eq_iff hdid).mpr hsecrets
    have hrefs : p.keyRef = q.keyRef := by
      funext index
      rw [ProfileConfig.keyRef, ProfileConfig.keyRef, hdid]
    unfold buildDidDocument
    rw [hmethods, hrefs, hdid, hsecrets.length_eq]

/-- **Nothing private is in the text that is published**: two identities with one DID
and the same public parts have one text, whatever else they hold. -/
theorem buildDidDocument_eq_of_samePublic (text : Json → String) (hdid : p.did = q.did)
    (hsecrets : List.Forall₂ (fun s t => SamePublic s.secretMaterial t.secretMaterial)
      p.secrets q.secrets)
    (mediatorDid : String) (publicUrl : Option String) (flags : TransportFlags) :
    text (buildDidDocument p mediatorDid publicUrl flags) =
      text (buildDidDocument q mediatorDid publicUrl flags) := by
  have hdocument := (buildDidDocument_eq_iff mediatorDid publicUrl flags).mpr ⟨hdid, hsecrets⟩
  exact congrArg text hdocument

/-- An identity with keys of every kind, and one text wherever a private one stands. -/
def identityWith (hidden : String) : ProfileConfig String String String where
  did := "did:web:registry.example"
  «alias» := hidden
  secrets :=
    [{ id := "did:web:registry.example#key-0", rest := hidden,
       secretMaterial := .jwk ⟨none, .ec "P-256" "DEts" "LQs6" (some hidden)⟩ },
     { id := "did:web:registry.example#key-1", rest := hidden,
       secretMaterial := .jwk ⟨some "key-1", .okp "Ed25519" "DfRi" (some hidden)⟩ },
     { id := hidden, rest := hidden, secretMaterial := .jwk ⟨some hidden, .other hidden⟩ },
     { id := hidden, rest := hidden, secretMaterial := .other hidden }]

/-- The identity has the same public parts, whatever is private. -/
theorem samePublic_identityWith (hidden hidden' : String) :
    List.Forall₂ (fun s t => SamePublic s.secretMaterial t.secretMaterial)
      (identityWith hidden).secrets (identityWith hidden').secrets :=
  .cons (.ec ..) (.cons (.okp ..) (.cons (.other rfl rfl) (.cons (.other rfl rfl) .nil)))

/-- Two identities that differ in everything that is private. -/
theorem buildDidDocument_identityWith :
    identityWith "ctKLNB9c" ≠ identityWith "rJcdID8W" ∧ ∀ text : Json → String,
      text (buildDidDocument (identityWith "ctKLNB9c") "did:web:mediator.example"
          (some "https://registry.example") { tsp := true }) =
        text (buildDidDocument (identityWith "rJcdID8W") "did:web:mediator.example"
          (some "https://registry.example") { tsp := true }) := by
  constructor
  · intro h
    simpa [identityWith] using congrArg ProfileConfig.alias h
  · intro text
    exact buildDidDocument_eq_of_samePublic text rfl (samePublic_identityWith _ _) _ _ _

/-! ### What is served -/

/-- The text that the configuration keeps is the same for two identities with one DID
and the same public parts, whether it is built or configured. -/
theorem didDocumentText_eq_of_samePublic (env : ProcessEnv κ μ ρ) (hdid : p.did = q.did)
    (hsecrets : List.Forall₂ (fun s t => SamePublic s.secretMaterial t.secretMaterial)
      p.secrets q.secrets)
    (mediatorDid : String) (flags : TransportFlags) :
    DidcommConfig.didDocumentText env flags p mediatorDid =
      DidcommConfig.didDocumentText env flags q mediatorDid := by
  have hdocument :=
    (buildDidDocument_eq_iff mediatorDid env.publicUrl flags).mpr ⟨hdid, hsecrets⟩
  unfold DidcommConfig.didDocumentText
  rw [hdocument]

/-- **What is served to everyone is independent of the private keys**: two registries
whose environments differ in the identity that they load, but not in its DID or its
public parts, serve the same. -/
theorem handleWellknownDidJson_eq_of_samePublic {env : ProcessEnv κ μ ρ}
    {parseProfile' : String → Except String (ProfileConfig κ μ ρ)} {profile : String}
    (hprofile : env.profileText = .ok profile)
    (hp : env.parseProfile profile = .ok p) (hq : parseProfile' profile = .ok q)
    (hdid : p.did = q.did)
    (hsecrets : List.Forall₂ (fun s t => SamePublic s.secretMaterial t.secretMaterial)
      p.secrets q.secrets)
    {flags : TransportFlags} {config config' : DidcommConfig κ μ ρ}
    (h : DidcommConfig.loadEnabled env flags = .ok config)
    (h' : DidcommConfig.loadEnabled { env with parseProfile := parseProfile' } flags = .ok config')
    (parse : String → Option Json) :
    handleWellknownDidJson parse config = handleWellknownDidJson parse config' := by
  obtain ⟨mediatorDid, text, P, document, hmediator, htext, hP, -, hdocument, rfl⟩ :=
    DidcommConfig.loadEnabled_ok h
  obtain ⟨mediatorDid', text', Q, document', hmediator', htext', hQ, -, hdocument', rfl⟩ :=
    DidcommConfig.loadEnabled_ok h'
  obtain rfl : mediatorDid = mediatorDid' := Except.ok.inj (hmediator.symm.trans hmediator')
  obtain rfl : profile = text := Except.ok.inj (hprofile.symm.trans htext)
  obtain rfl : profile = text' := Except.ok.inj (hprofile.symm.trans htext')
  obtain rfl : p = P := Except.ok.inj (hp.symm.trans hP)
  obtain rfl : q = Q := Except.ok.inj (hq.symm.trans hQ)
  have hsame := didDocumentText_eq_of_samePublic env hdid hsecrets mediatorDid flags
  have hdocuments : document = document' :=
    Except.ok.inj (hdocument.symm.trans (hsame.trans hdocument'))
  simp only [handleWellknownDidJson, hdocuments]

end TrustRegistry
