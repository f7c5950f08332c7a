import TrustRegistry.Server.Bindings
import TrustRegistry.Storage.LocalStorage
import TrustRegistry.Storage.StringKeyed

/-!
# The gate of the mediator bindings

Which types are writes is a list; which handlers change something is decided
where the dispatchers are put together.  The two agree, whatever is enabled, so
that the checks made of the listed types guard every change.

## Main definitions

* `MayWrite`, `RejectedAtGate` — what the gate asks, and a document it does not
  let pass.

## Main results

* `dispatcher_all` — the mediator surface serves what changes something under a
  writing type only.
* `mediator_write_gate` — what changes the records or the capabilities has passed
  the gate, and what has not passed it changes nothing.
-/

namespace TrustRegistry

open Transition

/-- **A handler on the mediator surface only reads, or is registered under a
writing type**, whatever is enabled. -/
theorem dispatcher_all (state : CapabilityStates) :
    (compose serveHost serveHost.base state true).All fun u h =>
      h.readOnly = true ∨ isWriteSlug u.slug = true := by
  refine compose_all ?_ (.inl rfl) (fun _ => ⟨.inr rfl, .inr rfl⟩) ?_
  · -- the two queries, the three changes of records, and the two readings
    exact .on (.on (.on (.on (.on (.on (.on .new (.inl rfl)) (.inl rfl)) (.inr rfl)) (.inr rfl))
      (.inr rfl)) (.inl rfl)) (.inl rfl)
  · intro d hd entry dispatcher _ h
    obtain rfl := List.mem_singleton.mp hd
    exact (h.on (.inr rfl)).on (.inr rfl)

variable {σ : Type*} {F : Framework} {env : Env σ}

/-- What the gate asks of a write. -/
structure MayWrite (F : Framework) (env : Env σ) (transport : Transport) (sender : String)
    (doc : TrustTask) : Prop where
  admin : sender ∈ env.adminDids
  proof : doc.proof.isSome = true
  verified : env.verifyJson doc = .ok ()
  parties : F.resolveParties transport (some env.ourDid) (some sender) doc = .ok ()
  valid : F.validateBasic doc env.now env.ourDid = .ok ()

/-- A document that one of the checks rejects. -/
def RejectedAtGate (F : Framework) (env : Env σ) (transport : Transport) (sender : String)
    (doc : TrustTask) : Prop :=
  F.resolveParties transport (some env.ourDid) (some sender) doc ≠ .ok () ∨
    F.validateBasic doc env.now env.ourDid ≠ .ok () ∨
    authorizeWrite doc sender env.adminDids ≠ .ok () ∨
    verifyWriteProof env.verifyJson doc ≠ .ok ()

/-- A write that the checks let pass meets what the gate asks. -/
theorem mayWrite_of_admission {transport : Transport} {sender : String} {doc : TrustTask}
    (h : admission F env transport sender doc = .ok ())
    (hwrite : isWriteSlug doc.typeUri.slug = true) : MayWrite F env transport sender doc := by
  obtain ⟨hparties, hvalid, hauthorize, hverify⟩ := admission_eq_ok_iff.mp h
  obtain ⟨hproof, hadmin⟩ := authorizeWrite_eq_ok_iff.mp hauthorize hwrite
  exact ⟨hadmin, hproof, verifyWriteProof_eq_ok_iff.mp hverify hwrite hproof, hparties, hvalid⟩

/-- What one of the checks rejects is answered with a rejection. -/
theorem RejectedAtGate.admission {transport : Transport} {sender : String} {doc : TrustTask}
    (h : RejectedAtGate F env transport sender doc) :
    ∃ e, admission F env transport sender doc = .error e := by
  cases hadmission : TrustRegistry.admission F env transport sender doc with
  | error e => exact ⟨e, rfl⟩
  | ok u =>
    obtain ⟨h₁, h₂, h₃, h₄⟩ := admission_eq_ok_iff.mp hadmission
    rcases h with h | h | h | h
    · exact absurd h₁ h
    · exact absurd h₂ h
    · exact absurd h₃ h
    · exact absurd h₄ h

/-- A document of a type that is not a writing one leaves the records and the
capabilities as they are. -/
theorem dispatchThrough_of_not_write {s : Server σ} (hs : s.IsComposed) {doc : TrustTask}
    (hwrite : isWriteSlug doc.typeUri.slug = false) :
    (dispatchThrough F env s.capabilities.dispatcher s doc).2.records = s.records ∧
      (dispatchThrough F env s.capabilities.dispatcher s doc).2.capabilities = s.capabilities := by
  have hhandle : (handleDocument F env s.capabilities.dispatcher s doc).2 = s := by
    cases hget : s.capabilities.dispatcher.get? doc.typeUri with
    | none => exact handleDocument_of_none hget s
    | some h =>
      -- what is served under such a type only reads
      obtain ⟨state, hdispatcher, _⟩ := hs
      have hall : h.readOnly = true ∨ isWriteSlug doc.typeUri.slug = true :=
        dispatcher_all state doc.typeUri h (by rw [← hdispatcher, hget])
      rw [hwrite] at hall
      rw [handleDocument_of_get? hget]
      exact h.run_of_readOnly (by simpa using hall) doc s
  rcases dispatchThrough_snd (F := F) s.capabilities.dispatcher s doc with h | h
  · exact h
  · rwa [hhandle] at h

/-- What changes the records or the capabilities is a write. -/
theorem isWriteSlug_of_changed {s : Server σ} (hs : s.IsComposed) {doc : TrustTask}
    (h : (dispatchThrough F env s.capabilities.dispatcher s doc).2.records ≠ s.records ∨
      (dispatchThrough F env s.capabilities.dispatcher s doc).2.capabilities ≠ s.capabilities) :
    isWriteSlug doc.typeUri.slug = true := by
  rw [← Bool.not_eq_false]
  intro hwrite
  have hsame : (dispatchThrough F env s.capabilities.dispatcher s doc).2.records = s.records ∧
      (dispatchThrough F env s.capabilities.dispatcher s doc).2.capabilities = s.capabilities :=
    dispatchThrough_of_not_write hs hwrite
  rcases h with h | h
  · exact h hsame.1
  · exact h hsame.2

/-- **What changes the records or the capabilities has passed the gate, and what
the gate rejects changes nothing**, message ids included: on both mediator
bindings, for every sender and message, in every state the server can reach. -/
theorem mediator_write_gate {records : σ} {stored : CapabilityStates} {as : List (ServerAction σ)}
    {s : Server σ} (hrun : Run (Server.step F) anyAction (Server.started records stored) as s)
    (env : Env σ) (sender : String) :
    (∀ body, (TrustTasksHandler.handle F env sender body s).2.records ≠ s.records ∨
        (TrustTasksHandler.handle F env sender body s).2.capabilities ≠ s.capabilities →
      ∃ doc, F.parse body = .ok doc ∧ MayWrite F env .didcomm sender doc) ∧
    (∀ body doc, F.parse body = .ok doc → RejectedAtGate F env .didcomm sender doc →
      (TrustTasksHandler.handle F env sender body s).2 = s) ∧
    (∀ doc, (handleInbound F env sender doc s).2.records ≠ s.records ∨
        (handleInbound F env sender doc s).2.capabilities ≠ s.capabilities →
      MayWrite F env .tsp sender doc) ∧
    ∀ doc, RejectedAtGate F env .tsp sender doc → (handleInbound F env sender doc s).2 = s := by
  have hs := Server.reachable_composed hrun
  refine ⟨fun body h => ?_, fun body doc hparse hrejected => ?_, fun doc h => ?_,
    fun doc hrejected => ?_⟩
  · unfold TrustTasksHandler.handle at h
    cases hparse : F.parse body with
    | error e => simp [hparse] at h
    | ok doc =>
      simp only [hparse] at h
      refine ⟨doc, rfl, ?_⟩
      cases hadmission : admission F env .didcomm sender doc with
      | error e => simp [hadmission] at h
      | ok u =>
        simp only [hadmission] at h
        split at h
        · -- a rotation touches neither
          rw [(handleDidRotate_snd s doc).1, (handleDidRotate_snd s doc).2] at h
          simp at h
        · exact mayWrite_of_admission hadmission (isWriteSlug_of_changed hs h)
  · -- the answer is sent before anything is dispatched or claimed
    obtain ⟨e, he⟩ := hrejected.admission
    unfold TrustTasksHandler.handle
    simp only [hparse, he]
  · unfold handleInbound at h
    cases hadmission : admission F env .tsp sender doc with
    | error e => simp [hadmission] at h
    | ok u =>
      simp only [hadmission] at h
      exact mayWrite_of_admission hadmission (isWriteSlug_of_changed hs h)
  · obtain ⟨e, he⟩ := hrejected.admission
    unfold handleInbound
    simp only [he]

/-- A server over the in-memory backend with one administrator, where proofs are
accepted. -/
def sampleEnv : Env LocalStorage where
  repository := LocalStorage.repository
  ourDid := "did:web:registry"
  adminDids := ["did:web:admin"]
  newId := "reply-1"
  now := 0
  completedAt := 0
  save := .ok ()
  verifyJson _ := .ok ()
  rotateDid := none

/-- A record to create. -/
def newRecord : TrustRecord :=
  StringKeyed.sampleRecord ⟨⟨"did:web:authority"⟩, ⟨"issue"⟩, ⟨"vc"⟩, ⟨"did:web:entity"⟩⟩

/-- Its creation, signed by the administrator. -/
def sampleCreate : TrustTask where
  id := "msg-1"
  typeUri := .recordCreate
  issuer := some "did:web:admin"
  payload := .obj [("record", newRecord.toJson)]
  proof := some (.obj [("type", .str "DataIntegrityProof")])

/-- Its JSON form. -/
def sampleCreateBody : Json := .obj
  [("id", .str "msg-1"), ("type", .str "https://trusttasks.org/spec/registry/record/create/0.1"),
    ("issuer", .str "did:web:admin"), ("payload", .obj [("record", newRecord.toJson)]),
    ("proof", .obj [("type", .str "DataIntegrityProof")])]

/-- The framework as it reads this document. -/
def createFramework : Framework := .sample sampleCreateBody [] sampleCreate

/-- A creation that goes through has passed the gate. -/
theorem created_through_gate :
    (TrustTasksHandler.handle createFramework sampleEnv "did:web:admin" sampleCreateBody
      (Server.started .new .empty)).2.records ≠ .new ∧
    ∃ doc, createFramework.parse sampleCreateBody = .ok doc ∧
      MayWrite createFramework sampleEnv .didcomm "did:web:admin" doc := by
  have hchanged : (TrustTasksHandler.handle createFramework sampleEnv "did:web:admin"
      sampleCreateBody (Server.started .new .empty)).2.records ≠ .new := by
    decide
  exact ⟨hchanged, (mediator_write_gate (.nil _) sampleEnv "did:web:admin").1 sampleCreateBody
    (.inl hchanged)⟩

end TrustRegistry
