import TrustRegistry.Server.Redelivery

/-!
# DIDComm and TSP

The two mediator bindings are written out one beside the other: the same checks in
the same order, then the dispatch through the store of message ids.  The DIDComm
one has a branch of its own before the dispatch, the rotation of our own keys,
which the dispatcher does not know.

## Main definitions

* `ReplyKind` — what a reply is, but for ids, times and texts.
* `BindingsAgree` — the two bindings do the same in one state.

## Main results

* `rotate_not_served` — no state of the capabilities serves a rotation.
* `bindings_agree_iff` — the bindings agree in every state exactly on the documents
  that the checks reject, or that are not a rotation.
* `rotation_diverges` — a rotation carried out on one binding and refused on the
  other.
-/

namespace TrustRegistry

open MemoryMessageIdStore

/-- The code of a rejection. -/
inductive RejectCode
  | malformedRequest
  | unsupportedType
  | proofRequired
  | proofInvalid
  | permissionDenied
  | taskFailed
  | internalError
  | framework (code : String)
  deriving DecidableEq

/-- The code that goes with a reason. -/
def RejectReason.code : RejectReason → RejectCode
  | .malformedRequest _ => .malformedRequest
  | .unsupportedType _ => .unsupportedType
  | .proofRequired => .proofRequired
  | .proofInvalid _ => .proofInvalid
  | .permissionDenied _ => .permissionDenied
  | .taskFailed _ _ => .taskFailed
  | .internalError _ => .internalError
  | .framework code _ => .framework code

/-- What a reply is, but for ids, times and texts. -/
inductive ReplyKind
  | none
  | success (typeUri : TypeUri) (payload : Json)
  | failure (code : RejectCode)
  deriving DecidableEq

/-- The kind of an outcome. -/
def outcomeKind : TaskOutcome → ReplyKind
  | .ok response => .success response.typeUri response.payload
  | .error e => .failure e.payload.reason.code

/-- The kind of what is sent. -/
def Handled.kind : Handled → ReplyKind
  | .dropped | .panicked => .none
  | .replied outcome => outcomeKind outcome

variable {σ : Type*}

/-- The two bindings leave the same state and reply alike, when the document comes
in by one or by the other. -/
structure BindingsAgree (F : Framework) (env : Env σ) (sender : String) (body : Json)
    (doc : TrustTask) (s : Server σ) : Prop where
  records : (TrustTasksHandler.handle F env sender body s).2.records
    = (handleInbound F env sender doc s).2.records
  capabilities : (TrustTasksHandler.handle F env sender body s).2.capabilities
    = (handleInbound F env sender doc s).2.capabilities
  dedup : (TrustTasksHandler.handle F env sender body s).2.dedup
    = (handleInbound F env sender doc s).2.dedup
  kind : (TrustTasksHandler.handle F env sender body s).1.kind
    = (handleInbound F env sender doc s).1.kind

/-- What the framework promises of a rejection: it keeps the reason. -/
def Framework.KeepsReason (F : Framework) : Prop :=
  ∀ doc newId reason, (F.rejectWith doc newId reason).payload.reason = reason

variable {F : Framework} {env : Env σ}

/-! ### Where they agree -/

/-- The checks are the same where the parties are resolved alike. -/
theorem admission_congr {sender : String} {doc : TrustTask} {transport transport' : Transport}
    (h : F.resolveParties transport (some env.ourDid) (some sender) doc
      = F.resolveParties transport' (some env.ourDid) (some sender) doc) :
    admission F env transport sender doc = admission F env transport' sender doc := by
  unfold admission
  rw [h]

/-- A document that is rejected, or is not a rotation, is handled alike. -/
theorem handle_eq_handleInbound {sender : String} {body : Json} {doc : TrustTask}
    (hparse : F.parse body = .ok doc)
    (hparties : F.resolveParties .didcomm (some env.ourDid) (some sender) doc
      = F.resolveParties .tsp (some env.ourDid) (some sender) doc)
    (h : (∃ e, admission F env .didcomm sender doc = .error e) ∨
      doc.typeUri.slug ≠ "registry/did/rotate") (s : Server σ) :
    TrustTasksHandler.handle F env sender body s = handleInbound F env sender doc s := by
  have hadmission := admission_congr hparties
  unfold TrustTasksHandler.handle handleInbound
  cases hadmitted : admission F env .didcomm sender doc with
  | error e =>
    rw [hadmitted] at hadmission
    simp only [hparse, hadmitted, ← hadmission]
  | ok u =>
    rw [hadmitted] at hadmission h
    have hslug : doc.typeUri.slug ≠ "registry/did/rotate" := by
      rcases h with ⟨e, he⟩ | h
      · cases he
      · exact h
    simp only [hparse, hadmitted, ← hadmission, if_neg hslug]

/-! ### Where they do not -/

/-- **No state of the capabilities serves a rotation.** -/
theorem rotate_not_served (state : CapabilityStates) {u : TypeUri}
    (hu : u.slug = "registry/did/rotate") :
    (compose serveHost serveHost.base state true).get? u = none := by
  have hall : (compose serveHost serveHost.base state true).All fun u _ =>
      u.slug ≠ "registry/did/rotate" := by
    refine compose_all ?_ (by decide) (fun _ => ⟨by decide, by decide⟩) ?_
    · exact .on (.on (.on (.on (.on (.on (.on .new (by decide)) (by decide)) (by decide))
        (by decide)) (by decide)) (by decide)) (by decide)
    · intro d hd entry dispatcher _ h
      obtain rfl := List.mem_singleton.mp hd
      exact (h.on (by decide)).on (by decide)
  cases hget : (compose serveHost serveHost.base state true).get? u with
  | none => rfl
  | some h => exact absurd hu (hall u h hget)

/-- A document whose key is free is answered by its handler, if at all. -/
theorem dispatchIdempotent_fst_of_free {ρ : Type*} {handle : ρ → TrustTask → TaskOutcome × ρ}
    {newId : String} {now completedAt : ℤ} {s : MemoryMessageIdStore} {r : ρ} {doc : TrustTask}
    (hfree : s.live now (messageKey doc) = none) :
    (dispatchIdempotent F store handle newId now completedAt s r doc).1 = some (handle r doc).1 ∨
      (dispatchIdempotent F store handle newId now completedAt s r doc).1 = none := by
  cases hwrite : isWriteSlug doc.typeUri.slug with
  | false =>
    left
    simp only [dispatchIdempotent, hwrite, Bool.not_false, if_true]
  | true =>
    rw [dispatchIdempotent_of_free hwrite hfree]
    split
    · split
      · exact .inl rfl
      · exact .inr rfl
    · exact .inl rfl

/-- A rotation is never answered as a type that is not served. -/
theorem kind_handleDidRotate (hF : F.KeepsReason) (s : Server σ) (doc : TrustTask) :
    outcomeKind (TrustTasksHandler.handleDidRotate F env s doc).1 ≠ .failure .unsupportedType ∧
      outcomeKind (TrustTasksHandler.handleDidRotate F env s doc).1 ≠ .none := by
  have hreject : ∀ reason, RejectReason.code reason ≠ .unsupportedType →
      outcomeKind (reject F env.newId doc reason) ≠ .failure .unsupportedType ∧
        outcomeKind (reject F env.newId doc reason) ≠ .none := by
    intro reason hreason
    refine ⟨?_, nofun⟩
    rw [reject, outcomeKind, hF]
    exact fun h => hreason (ReplyKind.failure.inj h)
  unfold TrustTasksHandler.handleDidRotate
  split
  · exact hreject _ nofun
  · split
    · exact hreject _ nofun
    · dsimp only
      split
      · exact ⟨nofun, nofun⟩
      · exact hreject _ nofun

/-- A rotation that reaches the dispatcher of a server that has just started is
answered as a type that is not served, if at all. -/
theorem kind_dispatchThrough_rotate (hF : F.KeepsReason) (records : σ) {doc : TrustTask}
    (hrotate : doc.typeUri.slug = "registry/did/rotate") :
    let s : Server σ := Server.started records .empty
    (dispatchThrough F env s.capabilities.dispatcher s doc).1.kind = .failure .unsupportedType ∨
      (dispatchThrough F env s.capabilities.dispatcher s doc).1.kind = .none := by
  intro s
  have hnone : s.capabilities.dispatcher.get? doc.typeUri = none := rotate_not_served _ hrotate
  have hhandle : (handleDocument F env s.capabilities.dispatcher s doc).1
      = .error (F.rejectWith doc env.newId (.unsupportedType doc.typeUri.display)) := by
    rw [handleDocument, Dispatcher.dispatchOrReject, hnone]
  rw [dispatchThrough_eq]
  dsimp only
  have hfree : s.dedup.live env.now (messageKey doc) = none := rfl
  have hout :
      (dispatchIdempotent F store (handleDocument F env s.capabilities.dispatcher) env.newId
          env.now env.completedAt s.dedup s doc).1
        = some (handleDocument F env s.capabilities.dispatcher s doc).1 ∨
      (dispatchIdempotent F store (handleDocument F env s.capabilities.dispatcher) env.newId
          env.now env.completedAt s.dedup s doc).1 = none := dispatchIdempotent_fst_of_free hfree
  rcases hout with h | h
  · left
    rw [h, hhandle]
    show ReplyKind.failure (F.rejectWith _ _ _).payload.reason.code = _
    rw [hF]
    rfl
  · right
    rw [h]
    rfl

/-- **The bindings agree in every state exactly on the documents that the checks
reject or that are not a rotation**, where the framework resolves the parties
alike on both. -/
theorem bindings_agree_iff (hF : F.KeepsReason) (records : σ) {sender : String} {body : Json}
    {doc : TrustTask} (hparse : F.parse body = .ok doc)
    (hparties : F.resolveParties .didcomm (some env.ourDid) (some sender) doc
      = F.resolveParties .tsp (some env.ourDid) (some sender) doc) :
    (∀ s : Server σ, BindingsAgree F env sender body doc s) ↔
      (∃ e, admission F env .didcomm sender doc = .error e) ∨
        doc.typeUri.slug ≠ "registry/did/rotate" := by
  constructor
  · intro h
    cases hadmitted : admission F env .didcomm sender doc with
    | error e => exact .inl ⟨e, rfl⟩
    | ok u =>
      right
      intro hrotate
      -- on a server that has just started the replies differ
      have hkind := (h (Server.started records .empty)).kind
      rw [handle_of_admitted hparse hadmitted, if_pos hrotate] at hkind
      rw [admission_congr hparties] at hadmitted
      unfold handleInbound at hkind
      simp only [hadmitted] at hkind
      obtain ⟨hne, hnone⟩ : outcomeKind (TrustTasksHandler.handleDidRotate F env
            (Server.started records .empty) doc).1 ≠ .failure .unsupportedType ∧
          outcomeKind (TrustTasksHandler.handleDidRotate F env
            (Server.started records .empty) doc).1 ≠ .none := kind_handleDidRotate hF _ doc
      rcases kind_dispatchThrough_rotate hF records hrotate with hd | hd
      · exact hne (hkind.trans hd)
      · exact hnone (hkind.trans hd)
  · intro h s
    have hsame := handle_eq_handleInbound hparse hparties h s
    exact ⟨by rw [hsame], by rw [hsame], by rw [hsame], by rw [hsame]⟩

/-- The bindings agree in every state on a creation, which both make when the record is not
there. -/
theorem bindings_agree_on_create :
    (handleInbound createFramework sampleEnv "did:web:admin" sampleCreate
      (Server.started .new .empty)).2.records ≠ .new ∧
    ∀ s : Server LocalStorage,
      BindingsAgree createFramework sampleEnv "did:web:admin" sampleCreateBody sampleCreate s :=
  ⟨by decide, (bindings_agree_iff (fun _ _ _ => rfl) .new (by decide) rfl).mpr
    (.inr (by decide))⟩

/-- **A rotation is carried out on one binding and refused on the other**, which
remembers the refusal. -/
theorem rotation_diverges :
    let s : Server LocalStorage := Server.started .new .empty
    let didcomm := TrustTasksHandler.handle rotateFramework (rotateEnv "reply-1") "did:web:admin"
      .null s
    let tsp := handleInbound rotateFramework (rotateEnv "reply-1") "did:web:admin" sampleRotate s
    ¬ BindingsAgree rotateFramework (rotateEnv "reply-1") "did:web:admin" .null sampleRotate s ∧
      didcomm.2.rotations.length = 1 ∧ tsp.2.rotations.length = 0 ∧
      didcomm.1.kind ≠ tsp.1.kind ∧ tsp.1.kind = .failure .unsupportedType ∧
      didcomm.2.dedup.entries.contains (messageKey sampleRotate) = false ∧
      tsp.2.dedup.entries.contains (messageKey sampleRotate) = true := by
  refine ⟨?_, by decide, by decide, by decide, by decide, by decide, by decide⟩
  intro h
  have hkind := h.kind
  revert hkind
  decide

end TrustRegistry
