import TrustRegistry.Capabilities.GitTrust
import TrustRegistry.Capabilities.Governance
import TrustRegistry.Dedup.Dispatch

/-!
# The server

The records, the capabilities and the message ids, with the handlers of the Trust
Tasks at work on them.  What a request meets on its way, the backend and its
failures among it, is given with the request.

## Main definitions

* `Server`, `Env` — the state, and what a request meets.
* `serveHost` — what the server is built with.
* `TaskHandler.run`, `handleDocument` — a handler, and a document, at work.

## Main results

* `TaskHandler.run_of_readOnly` — the handlers that only read.
* `TaskHandler.run_dedup`, `TaskHandler.run_composed` — what no handler touches.
-/

namespace TrustRegistry

/-- The state of the server. -/
structure Server (σ : Type*) where
  records : σ
  capabilities : CapabilitySet TaskHandler
  dedup : MemoryMessageIdStore
  /-- the rotations of our own keys that have been asked for -/
  rotations : List DidRotateRequest

/-- What a request meets: the backend, the configuration, fresh ids, the clock,
whether the capability state can be saved, the verdict of the proof verifier, and
the rotation of keys, if it is built in. -/
structure Env (σ : Type*) where
  repository : TrustRecordAdminRepository σ
  ourDid : String
  adminDids : List String
  newId : String
  now : ℤ
  completedAt : ℤ
  save : Except String Unit
  verifyJson : TrustTask → Except String Unit
  rotateDid : Option (DidRotateRequest → Except String DidRotateResponse)

/-- What the server is built with. -/
def serveHost : CapabilityHost TaskHandler where
  available := [GitTrust.definition]
  base := buildDispatcher
  baseQuery := buildQueryDispatcher
  listUri := .capabilityList
  listHandler := .capabilityList
  enableUri := .capabilityEnable
  enableHandler := .capabilityEnable
  disableUri := .capabilityDisable
  disableHandler := .capabilityDisable

variable {σ : Type*} (F : Framework) (env : Env σ)

namespace Server

/-- The server as it starts over stored records and capabilities. -/
def started (records : σ) (stored : CapabilityStates) : Server σ :=
  ⟨records, .new serveHost stored, .default, []⟩

/-- The server after a handler has worked on the records. -/
def onRecords (s : Server σ) (r : TaskOutcome × σ) : TaskOutcome × Server σ :=
  (r.1, { s with records := r.2 })

/-- The server after a handler has worked on the capabilities. -/
def onCapabilities (s : Server σ) (r : TaskOutcome × CapabilitySet TaskHandler) :
    TaskOutcome × Server σ :=
  (r.1, { s with capabilities := r.2 })

end Server

/-! ### Handlers at work -/

/-- Run a handler on a payload that decodes. -/
def withPayload {α : Type*} (doc : TrustTask) (s : Server σ) (payload : Except String α)
    (run : α → TaskOutcome × Server σ) : TaskOutcome × Server σ :=
  match payload with
  | .ok p => run p
  | .error reason => (reject F env.newId doc (.malformedRequest reason), s)

/-- Run a handler on a document. -/
def TaskHandler.run (h : TaskHandler) (doc : TrustTask) (s : Server σ) : TaskOutcome × Server σ :=
  let R := env.repository
  match h with
  | recognition =>
    withPayload F env doc s (F.specs.recognition doc.payload) fun p =>
      (handleRecognition F R env.newId env.now doc p s.records, s)
  | authorization =>
    withPayload F env doc s (F.specs.authorization doc.payload) fun p =>
      (handleAuthorization F R env.newId env.now doc p s.records, s)
  | recordCreate =>
    withPayload F env doc s (F.specs.recordCreate doc.payload) fun p =>
      s.onRecords (handleCreate F R env.newId doc p s.records)
  | recordUpdate =>
    withPayload F env doc s (F.specs.recordUpdate doc.payload) fun p =>
      s.onRecords (handleUpdate F R env.newId doc p s.records)
  | recordDelete =>
    withPayload F env doc s (F.specs.recordDelete doc.payload) fun p =>
      s.onRecords (handleDelete F R env.newId doc p s.records)
  | recordRead =>
    withPayload F env doc s (F.specs.recordRead doc.payload) fun p =>
      (handleRead F R env.newId doc p s.records, s)
  | recordList =>
    withPayload F env doc s (F.specs.recordList doc.payload) fun _ =>
      (handleList F R env.newId doc s.records, s)
  | capabilityList =>
    withPayload F env doc s (F.specs.capabilityList doc.payload) fun status =>
      (handleCapabilityList serveHost F env.newId doc status s.capabilities, s)
  | capabilityEnable =>
    withPayload F env doc s (F.specs.capabilityEnable doc.payload) fun p =>
      s.onCapabilities
        (handleCapabilityEnable serveHost F env.newId env.now env.save doc p s.capabilities)
  | capabilityDisable =>
    withPayload F env doc s (F.specs.capabilityDisable doc.payload) fun capability =>
      s.onCapabilities
        (handleCapabilityDisable serveHost F env.newId env.save doc capability s.capabilities)
  | gitTrustGrant authority =>
    withPayload F env doc s (F.specs.gitTrustGrant doc.payload) fun p =>
      s.onRecords (GitTrust.handleGrant F R env.newId authority doc p s.records)
  | gitTrustRevoke authority =>
    withPayload F env doc s (F.specs.gitTrustRevoke doc.payload) fun p =>
      s.onRecords (GitTrust.handleRevoke F R env.newId authority doc p s.records)

/-- Route a document and run its handler. -/
def handleDocument (dispatcher : Dispatcher TaskHandler) (s : Server σ) (doc : TrustTask) :
    TaskOutcome × Server σ :=
  match dispatcher.dispatchOrReject F doc env.newId with
  | .ok h => h.run F env doc s
  | .error e => (.error e, s)

/-! ### What handlers leave alone -/

/-- The handlers that only read. -/
def TaskHandler.readOnly : TaskHandler → Bool
  | recognition | authorization | recordRead | recordList | capabilityList => true
  | _ => false

variable {F env}

/-- What holds of the server, and of what a handler leaves of it, holds when the
payload does not decode too. -/
theorem withPayload_snd {α : Type*} {doc : TrustTask} {s : Server σ} {payload : Except String α}
    {run : α → TaskOutcome × Server σ} {p : Server σ → Prop} (hs : p s)
    (hrun : ∀ a, payload = .ok a → p (run a).2) : p (withPayload F env doc s payload run).2 := by
  cases payload with
  | ok a => exact hrun a rfl
  | error e => exact hs

/-- A handler that only reads leaves the server as it is. -/
theorem TaskHandler.run_of_readOnly {h : TaskHandler} (hh : h.readOnly = true) (doc : TrustTask)
    (s : Server σ) : (h.run F env doc s).2 = s := by
  cases h with
  | recognition | authorization | recordRead | recordList | capabilityList =>
    exact withPayload_snd (p := fun s' => s' = s) rfl fun _ _ => rfl
  | _ => cases hh

/-- No handler touches the message ids or asks for a rotation. -/
theorem TaskHandler.run_dedup (h : TaskHandler) (doc : TrustTask) (s : Server σ) :
    (h.run F env doc s).2.dedup = s.dedup ∧ (h.run F env doc s).2.rotations = s.rotations := by
  cases h <;>
    exact withPayload_snd (p := fun s' => s'.dedup = s.dedup ∧ s'.rotations = s.rotations)
      ⟨rfl, rfl⟩ fun _ _ => ⟨rfl, rfl⟩

/-- The dispatchers stay composed from one state. -/
theorem TaskHandler.run_composed (h : TaskHandler) (doc : TrustTask) {s : Server σ}
    (hs : ∃ state, s.capabilities.Composed serveHost state) :
    ∃ state, (h.run F env doc s).2.capabilities.Composed serveHost state := by
  obtain ⟨state, hstate⟩ := hs
  cases h with
  | capabilityEnable =>
    refine withPayload_snd (p := fun s' => ∃ state, s'.capabilities.Composed serveHost state)
      ⟨state, hstate⟩ fun p _ => ?_
    have hset := CapabilitySet.enable_composed hstate env.now env.save p.capability p.version
      p.configDocument p.delegate
    rwa [← handleCapabilityEnable_snd serveHost F env.newId env.now env.save doc p] at hset
  | capabilityDisable =>
    refine withPayload_snd (p := fun s' => ∃ state, s'.capabilities.Composed serveHost state)
      ⟨state, hstate⟩ fun capability _ => ?_
    have hset := CapabilitySet.disable_composed hstate env.save capability
    rwa [← handleCapabilityDisable_snd serveHost F env.newId env.save doc capability] at hset
  | _ =>
    exact withPayload_snd (p := fun s' => ∃ state, s'.capabilities.Composed serveHost state)
      ⟨state, hstate⟩ fun _ _ => ⟨state, hstate⟩

theorem handleDocument_composed (dispatcher : Dispatcher TaskHandler) (doc : TrustTask)
    {s : Server σ} (hs : ∃ state, s.capabilities.Composed serveHost state) :
    ∃ state, (handleDocument F env dispatcher s doc).2.capabilities.Composed serveHost state := by
  unfold handleDocument
  split
  · next h _ => exact h.run_composed doc hs
  · exact hs

/-- What a document of a registered type leaves is what its handler leaves. -/
theorem handleDocument_of_get? {dispatcher : Dispatcher TaskHandler} {doc : TrustTask}
    {h : TaskHandler} (hget : dispatcher.get? doc.typeUri = some h) (s : Server σ) :
    handleDocument F env dispatcher s doc = h.run F env doc s := by
  rw [handleDocument, Dispatcher.dispatchOrReject, hget]

theorem handleDocument_of_none {dispatcher : Dispatcher TaskHandler} {doc : TrustTask}
    (hget : dispatcher.get? doc.typeUri = none) (s : Server σ) :
    (handleDocument F env dispatcher s doc).2 = s := by
  rw [handleDocument, Dispatcher.dispatchOrReject, hget]

end TrustRegistry
