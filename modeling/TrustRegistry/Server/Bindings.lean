import TrustRegistry.Lib.Transition
import TrustRegistry.Server.Server

/-!
# The bindings

The three ways a Trust Task comes in.  The mediator bindings, DIDComm and TSP,
know the sender; they check the parties, the freshness, and for a write the
sender, the proof and its signature, and dispatch through the store of message
ids.  The HTTP binding knows no sender; it checks parties and freshness and
dispatches to the read-only surface.

## Main definitions

* `admission` — the checks of the mediator bindings.
* `TrustTasksHandler.handle`, `handleInbound`, `handleTrustTask` — the bindings.
* `Server.step` — the server as a system: requests, direct changes of the
  capabilities, restarts, and whatever else changes the records.

## Main results

* `admission_eq_ok_iff` — what the checks let pass.
* `Server.reachable_composed` — in every state reached both dispatchers are
  composed from one state.
-/

namespace TrustRegistry

open Transition

variable {σ : Type*} (F : Framework) (env : Env σ)

/-! ### The mediator bindings -/

/-- What comes of a message: nothing is sent, or an answer, or the task dies. -/
inductive Handled
  | dropped
  | replied (outcome : TaskOutcome)
  | panicked
  deriving DecidableEq

/-- The checks before a document is dispatched, in order: parties, freshness, the
sender of a write, and its proof. -/
def admission (transport : Transport) (sender : String) (doc : TrustTask) :
    Except ErrorResponse Unit :=
  match F.resolveParties transport (some env.ourDid) (some sender) doc with
  | .error reason => .error (F.rejectWithRecipient doc env.newId reason (some sender))
  | .ok () =>
    match F.validateBasic doc env.now env.ourDid with
    | .error reason => .error (F.rejectWith doc env.newId reason)
    | .ok () =>
      match authorizeWrite doc sender env.adminDids with
      | .error reason => .error (F.rejectWith doc env.newId reason)
      | .ok () =>
        match verifyWriteProof env.verifyJson doc with
        | .error reason => .error (F.rejectWith doc env.newId reason)
        | .ok () => .ok ()

/-- Dispatch through the store of message ids. -/
def dispatchThrough (dispatcher : Dispatcher TaskHandler) (s : Server σ) (doc : TrustTask) :
    Handled × Server σ :=
  let (outcome, dedup, s') := dispatchIdempotent F MemoryMessageIdStore.store
    (handleDocument F env dispatcher) env.newId env.now env.completedAt s.dedup s doc
  (outcome.elim .panicked .replied, { s' with dedup })

namespace TrustTasksHandler

/-- Rotate the keys of our own DID. -/
def handleDidRotate (s : Server σ) (doc : TrustTask) : TaskOutcome × Server σ :=
  match env.rotateDid with
  | none =>
    (reject F env.newId doc (.taskFailed ("DID rotation is unavailable: the Trust Registry was " ++
      "built without the \x60vta\x60 feature") none), s)
  | some rotate =>
    match DidRotateRequest.ofJson doc.payload with
    | none => (reject F env.newId doc (.malformedRequest (F.specs.serdeError doc.payload)), s)
    | some request =>
      let s := { s with rotations := s.rotations ++ [request] }
      match rotate request with
      | .ok response => (.ok (F.respondWith doc env.newId response.toJson), s)
      | .error reason => (reject F env.newId doc (.taskFailed reason none), s)

/-- A DIDComm message with a Trust Task in its body. -/
def handle (sender : String) (body : Json) (s : Server σ) : Handled × Server σ :=
  match F.parse body with
  | .error _ => (.dropped, s)
  | .ok doc =>
    match admission F env .didcomm sender doc with
    | .error e => (.replied (.error e), s)
    | .ok () =>
      if doc.typeUri.slug = "registry/did/rotate" then
        let rotated := handleDidRotate F env s doc
        (.replied rotated.1, rotated.2)
      else dispatchThrough F env s.capabilities.dispatcher s doc

end TrustTasksHandler

/-- A TSP message that holds a document. -/
def handleInbound (sender : String) (doc : TrustTask) (s : Server σ) : Handled × Server σ :=
  match admission F env .tsp sender doc with
  | .error e => (.replied (.error e), s)
  | .ok () => dispatchThrough F env s.capabilities.dispatcher s doc

/-! ### The HTTP binding -/

/-- The answer to a request. -/
structure HttpResponse where
  status : ℕ
  body : Json
  deriving DecidableEq

/-- A rejection as an answer; a status that is none becomes 400. -/
def errorResponse (e : ErrorResponse) : HttpResponse :=
  let status := F.statusForCode e.payload.reason
  ⟨if 100 ≤ status ∧ status ≤ 999 then status else 400, F.errorJson e⟩

/-- An outcome as an answer. -/
def httpAnswer : TaskOutcome → HttpResponse
  | .ok response => ⟨200, F.documentJson response⟩
  | .error e => errorResponse F e

/-- A document posted by an anonymous caller. -/
def handleTrustTask (body : List UInt8) (s : Server σ) : HttpResponse × Server σ :=
  match F.parseSlice body with
  | .error e =>
    (⟨400, .obj [("code", .str "malformedRequest"),
      ("message", .str s!"invalid Trust Task document: {e}")]⟩, s)
  | .ok doc =>
    match F.resolveParties .https (some env.ourDid) none doc with
    | .error reason => (errorResponse F (F.rejectWith doc env.newId reason), s)
    | .ok () =>
      match F.validateBasic doc env.now env.ourDid with
      | .error reason => (errorResponse F (F.rejectWith doc env.newId reason), s)
      | .ok () =>
        let (outcome, s) := handleDocument F env s.capabilities.queryDispatcher s doc
        (httpAnswer F outcome, s)

/-! ### What the checks let pass -/

variable {F env}

theorem admission_eq_ok_iff {transport : Transport} {sender : String} {doc : TrustTask} :
    admission F env transport sender doc = .ok () ↔
      F.resolveParties transport (some env.ourDid) (some sender) doc = .ok () ∧
      F.validateBasic doc env.now env.ourDid = .ok () ∧
      authorizeWrite doc sender env.adminDids = .ok () ∧
      verifyWriteProof env.verifyJson doc = .ok () := by
  unfold admission
  cases F.resolveParties transport (some env.ourDid) (some sender) doc with
  | error reason => simp
  | ok _ =>
    cases F.validateBasic doc env.now env.ourDid with
    | error reason => simp
    | ok _ =>
      cases authorizeWrite doc sender env.adminDids with
      | error reason => simp
      | ok _ => cases verifyWriteProof env.verifyJson doc <;> simp

/-- What dispatching leaves, the message ids apart, is what there was or what the
handler leaves. -/
theorem dispatchThrough_snd (dispatcher : Dispatcher TaskHandler) (s : Server σ) (doc : TrustTask) :
    ((dispatchThrough F env dispatcher s doc).2.records = s.records ∧
        (dispatchThrough F env dispatcher s doc).2.capabilities = s.capabilities) ∨
      ((dispatchThrough F env dispatcher s doc).2.records
          = (handleDocument F env dispatcher s doc).2.records ∧
        (dispatchThrough F env dispatcher s doc).2.capabilities
          = (handleDocument F env dispatcher s doc).2.capabilities) := by
  have h := dispatchIdempotent_snd_snd F MemoryMessageIdStore.store
    (handleDocument F env dispatcher) env.newId env.now env.completedAt s.dedup s doc
  rcases h with h | h
  · have hrecords := congrArg Server.records h
    have hcapabilities := congrArg Server.capabilities h
    exact .inl ⟨hrecords, hcapabilities⟩
  · have hrecords := congrArg Server.records h
    have hcapabilities := congrArg Server.capabilities h
    exact .inr ⟨hrecords, hcapabilities⟩

/-- A rotation touches neither the records nor the capabilities. -/
theorem handleDidRotate_snd (s : Server σ) (doc : TrustTask) :
    (TrustTasksHandler.handleDidRotate F env s doc).2.records = s.records ∧
      (TrustTasksHandler.handleDidRotate F env s doc).2.capabilities = s.capabilities := by
  unfold TrustTasksHandler.handleDidRotate
  split
  · exact ⟨rfl, rfl⟩
  · split
    · exact ⟨rfl, rfl⟩
    · dsimp only
      split <;> exact ⟨rfl, rfl⟩

/-! ### The server as a system -/

/-- What can happen to the server. -/
inductive ServerAction (σ : Type*)
  | http (env : Env σ) (body : List UInt8)
  | didcomm (env : Env σ) (sender : String) (body : Json)
  | tsp (env : Env σ) (sender : String) (doc : TrustTask)
  | enable (env : Env σ) (capability version : String) (config : Option Json)
      (delegate : Option String)
  | disable (env : Env σ) (capability : String)
  | restart (records : σ)
  | records (records : σ)

namespace Server

variable (F) in
/-- One step: a request, a direct change of the capabilities, a restart over the
stored ones, or any change of the records from outside. -/
def step (s : Server σ) : ServerAction σ → Option (Server σ)
  | .http env body => some (handleTrustTask F env body s).2
  | .didcomm env sender body => some (TrustTasksHandler.handle F env sender body s).2
  | .tsp env sender doc => some (handleInbound F env sender doc s).2
  | .enable env capability version config delegate =>
    some { s with
      capabilities :=
        (s.capabilities.enable serveHost env.now env.save capability version config delegate).2 }
  | .disable env capability =>
    some { s with capabilities := (s.capabilities.disable serveHost env.save capability).2 }
  | .restart records => some (started records s.capabilities.stored)
  | .records records => some { s with records }

/-- Both dispatchers are composed from one state. -/
def IsComposed (s : Server σ) : Prop := ∃ state, s.capabilities.Composed serveHost state

theorem dispatchThrough_composed (dispatcher : Dispatcher TaskHandler) (doc : TrustTask)
    {s : Server σ} (hs : s.IsComposed) : (dispatchThrough F env dispatcher s doc).2.IsComposed := by
  unfold IsComposed
  rcases dispatchThrough_snd (F := F) dispatcher s doc with ⟨_, h⟩ | ⟨_, h⟩
  · rw [h]
    exact hs
  · rw [h]
    exact handleDocument_composed dispatcher doc hs

theorem composed_step {s s' : Server σ} {a : ServerAction σ} (hs : s.IsComposed)
    (h : s.step F a = some s') : s'.IsComposed := by
  cases a with
  | http env body =>
    obtain rfl := Option.some.inj h
    unfold handleTrustTask
    split
    · exact hs
    · split
      · exact hs
      · split
        · exact hs
        · exact handleDocument_composed s.capabilities.queryDispatcher _ hs
  | didcomm env sender body =>
    obtain rfl := Option.some.inj h
    unfold TrustTasksHandler.handle
    split
    · exact hs
    · split
      · exact hs
      · split
        · -- a rotation leaves the capabilities alone
          unfold IsComposed
          rw [(handleDidRotate_snd s _).2]
          exact hs
        · exact dispatchThrough_composed _ _ hs
  | tsp env sender doc =>
    obtain rfl := Option.some.inj h
    unfold handleInbound
    split
    · exact hs
    · exact dispatchThrough_composed _ doc hs
  | enable env capability version config delegate =>
    obtain rfl := Option.some.inj h
    obtain ⟨state, hstate⟩ := hs
    exact CapabilitySet.enable_composed hstate env.now env.save capability version config delegate
  | disable env capability =>
    obtain rfl := Option.some.inj h
    obtain ⟨state, hstate⟩ := hs
    exact CapabilitySet.disable_composed hstate env.save capability
  | restart records =>
    obtain rfl := Option.some.inj h
    exact ⟨s.capabilities.stored, CapabilitySet.new_composed _⟩
  | records records =>
    obtain rfl := Option.some.inj h
    exact hs

/-- **In every state reached both dispatchers are composed from one state.** -/
theorem reachable_composed {records : σ} {stored : CapabilityStates} {as : List (ServerAction σ)}
    {s : Server σ} (hrun : Run (step F) anyAction (started records stored) as s) : s.IsComposed :=
  Run.invariant (I := IsComposed) (fun _ _ _ hs _ hstep => composed_step hs hstep) hrun
    ⟨stored, CapabilitySet.new_composed stored⟩

end Server

end TrustRegistry
