import TrustRegistry.Server.WriteGate

/-!
# A write that is delivered again

A mediator delivers again what it has not seen acknowledged.  A write that has
been carried out is then answered with the response of its first delivery, as
long as the store of message ids remembers it.  The rotation of our own keys,
which the DIDComm handler carries out itself, does not go through the store.

## Main definitions

* `AnsweredOnce` — a delivery that gets a given answer and changes nothing.
* `Before` — what may happen while an outcome is remembered.

## Main results

* `get?_dispatchIdempotent` — a dispatch leaves the entries of other keys, and of
  its own one while that is within its lifetime.
* `redelivery_iff` — exactly the writes other than a rotation that pass the checks
  again are answered with the first response.
* `rotated_twice` — a rotation that is delivered twice is carried out twice.
-/

namespace TrustRegistry

open Transition MemoryMessageIdStore

/-! ### What a dispatch leaves of the store -/

section

variable {ρ : Type*} {F : Framework} {handle : ρ → TrustTask → TaskOutcome × ρ} {newId : String}
  {now completedAt : ℤ} {s : MemoryMessageIdStore} {r : ρ} {doc : TrustTask}

/-- **A dispatch leaves an entry that is within its lifetime**, of its own key or
another. -/
theorem get?_dispatchIdempotent {k : String} {e : Entry} (hlive : s.live now k = some e) :
    (dispatchIdempotent F store handle newId now completedAt s r doc).2.1.entries.get? k
      = some e := by
  cases hwrite : isWriteSlug doc.typeUri.slug with
  | false =>
    simp only [dispatchIdempotent, hwrite, Bool.not_false, if_true]
    exact (live_eq_some.mp hlive).1
  | true =>
    have hget : (s.claim now (messageKey doc)).2.entries.get? k = some e :=
      ClaimState.get?_claim_of_live hlive
    cases hkey : s.live now (messageKey doc) with
    | some e' =>
      rw [dispatchIdempotent_of_live hwrite hkey]
      exact hget
    | none =>
      -- the claim acquired is of another key, and so is its resolution
      have hk : k ≠ messageKey doc := by
        rintro rfl
        rw [hlive] at hkey
        cases hkey
      rw [dispatchIdempotent_of_free hwrite hkey]
      split
      · split
        · next s' hcomplete =>
          rw [get?_complete hcomplete, if_neg hk]
          exact hget
        · exact hget
      · rw [get?_release, if_neg hk]
        exact hget

/-- A write whose key is free and whose outcome may be remembered is remembered. -/
theorem get?_dispatchIdempotent_self (hwrite : isWriteSlug doc.typeUri.slug = true)
    (hfree : s.live now (messageKey doc) = none) {o : TaskOutcome}
    (h : (dispatchIdempotent F store handle newId now completedAt s r doc).1 = some o)
    (hc : isCacheable o = true) :
    (dispatchIdempotent F store handle newId now completedAt s r doc).2.1.entries.get?
        (messageKey doc)
      = some (.done (.fromOutcome o) (completedAt + lifetime s.ttl)) := by
  rw [dispatchIdempotent_of_free hwrite hfree] at h ⊢
  cases hcache : isCacheable (handle r doc).1 with
  | false =>
    -- an outcome that is not remembered is not this one
    simp only [hcache, Bool.false_eq_true, if_false, Option.some.injEq] at h
    rw [h, hc] at hcache
    cases hcache
  | true =>
    rw [hcache] at h
    simp only [if_true] at h ⊢
    cases hcomplete : (s.claim now (messageKey doc)).2.complete completedAt (messageKey doc)
      (.fromOutcome (handle r doc).1) with
    | none => simp [hcomplete] at h
    | some s' =>
      simp only [hcomplete, Option.some.injEq] at h ⊢
      rw [get?_complete hcomplete, if_pos rfl, h, claim_ttl]

/-- A write whose outcome is remembered gets it, and is not handled. -/
theorem dispatchIdempotent_of_done (hwrite : isWriteSlug doc.typeUri.slug = true) {o : TaskOutcome}
    {expiresAt : ℤ}
    (hlive : s.live now (messageKey doc) = some (.done (.fromOutcome o) expiresAt)) :
    (dispatchIdempotent F store handle newId now completedAt s r doc).1 = some o ∧
      (dispatchIdempotent F store handle newId now completedAt s r doc).2.2 = r := by
  rw [dispatchIdempotent_of_live hwrite hlive]
  exact ⟨congrArg some (StoredOutcome.intoOutcome_fromOutcome o), rfl⟩

end

/-! ### While an outcome is remembered -/

variable {σ : Type*} {F : Framework} {env : Env σ}

/-- What may happen while an outcome is remembered: anything but a restart, at
times before it expires. -/
def Before (expiresAt : ℤ) (_ : Server σ) : ServerAction σ → Prop
  | .didcomm env _ _ | .tsp env _ _ => env.now < expiresAt
  | .restart _ => False
  | _ => True

/-- The store has this outcome under the key. -/
def Server.Remembers (s : Server σ) (key : String) (o : TaskOutcome) (expiresAt : ℤ) : Prop :=
  s.dedup.entries.get? key = some (.done (.fromOutcome o) expiresAt)

theorem Server.Remembers.live {s : Server σ} {key : String} {o : TaskOutcome} {expiresAt now : ℤ}
    (h : s.Remembers key o expiresAt) (hnow : now < expiresAt) :
    s.dedup.live now key = some (.done (.fromOutcome o) expiresAt) :=
  live_eq_some.mpr ⟨h, by simpa [retains] using hnow⟩

/-- A dispatch through the store, in terms of the answer, the store and the rest. -/
theorem dispatchThrough_eq (dispatcher : Dispatcher TaskHandler) (s : Server σ) (doc : TrustTask) :
    dispatchThrough F env dispatcher s doc =
      let out := dispatchIdempotent F store (handleDocument F env dispatcher) env.newId env.now
        env.completedAt s.dedup s doc
      (out.1.elim .panicked .replied, { out.2.2 with dedup := out.2.1 }) := rfl

theorem remembers_dispatchThrough {s : Server σ} {key : String} {o : TaskOutcome} {expiresAt : ℤ}
    (h : s.Remembers key o expiresAt) (hnow : env.now < expiresAt)
    (dispatcher : Dispatcher TaskHandler) (doc : TrustTask) :
    (dispatchThrough F env dispatcher s doc).2.Remembers key o expiresAt := by
  rw [dispatchThrough_eq]
  exact get?_dispatchIdempotent (h.live hnow)

theorem handleDidRotate_dedup (s : Server σ) (doc : TrustTask) :
    (TrustTasksHandler.handleDidRotate F env s doc).2.dedup = s.dedup := by
  unfold TrustTasksHandler.handleDidRotate
  split
  · rfl
  · split
    · rfl
    · dsimp only
      split <;> rfl

theorem handleDocument_dedup (dispatcher : Dispatcher TaskHandler) (s : Server σ)
    (doc : TrustTask) : (handleDocument F env dispatcher s doc).2.dedup = s.dedup := by
  unfold handleDocument
  split
  · next h _ => exact (h.run_dedup doc s).1
  · rfl

/-- **An outcome is remembered until it expires**, whatever else is requested of the
server. -/
theorem remembers_step {s s' : Server σ} {a : ServerAction σ} {key : String} {o : TaskOutcome}
    {expiresAt : ℤ} (hs : s.Remembers key o expiresAt) (hok : Before expiresAt s a)
    (h : s.step F a = some s') : s'.Remembers key o expiresAt := by
  cases a with
  | http env body =>
    obtain rfl := Option.some.inj h
    unfold handleTrustTask
    split
    · exact hs
    · split
      · exact hs
      · split
        · exact hs
        · unfold Server.Remembers
          rw [handleDocument_dedup]
          exact hs
  | didcomm env sender body =>
    obtain rfl := Option.some.inj h
    unfold TrustTasksHandler.handle
    split
    · exact hs
    · split
      · exact hs
      · split
        · unfold Server.Remembers
          rw [handleDidRotate_dedup]
          exact hs
        · exact remembers_dispatchThrough hs hok _ _
  | tsp env sender doc =>
    obtain rfl := Option.some.inj h
    unfold handleInbound
    split
    · exact hs
    · exact remembers_dispatchThrough hs hok _ _
  | restart records => exact hok.elim
  | _ =>
    obtain rfl := Option.some.inj h
    exact hs

/-! ### Delivered again -/

/-- The id of what is answered. -/
def outcomeId : TaskOutcome → String
  | .ok response => response.id
  | .error e => e.id

/-- What the framework promises of the id that an answer is given. -/
structure Framework.CarriesId (F : Framework) : Prop where
  respondWith : ∀ doc newId payload, (F.respondWith doc newId payload).id = newId
  rejectWith : ∀ doc newId reason, (F.rejectWith doc newId reason).id = newId
  rejectWithRecipient : ∀ doc newId reason recipient,
    (F.rejectWithRecipient doc newId reason recipient).id = newId

/-- The delivery gets this answer, and nothing is done on its account. -/
structure AnsweredOnce (F : Framework) (env : Env σ) (sender : String) (body : Json) (s : Server σ)
    (o : TaskOutcome) : Prop where
  reply : (TrustTasksHandler.handle F env sender body s).1 = .replied o
  records : (TrustTasksHandler.handle F env sender body s).2.records = s.records
  capabilities : (TrustTasksHandler.handle F env sender body s).2.capabilities = s.capabilities
  rotations : (TrustTasksHandler.handle F env sender body s).2.rotations = s.rotations

/-- A rejection of the checks has the id it is given. -/
theorem admission_error_id (hF : F.CarriesId) {transport : Transport} {sender : String}
    {doc : TrustTask} {e : ErrorResponse} (h : admission F env transport sender doc = .error e) :
    e.id = env.newId := by
  unfold admission at h
  split at h
  · rw [← Except.error.inj h, hF.rejectWithRecipient]
  · split at h
    · rw [← Except.error.inj h, hF.rejectWith]
    · split at h
      · rw [← Except.error.inj h, hF.rejectWith]
      · split at h
        · rw [← Except.error.inj h, hF.rejectWith]
        · cases h

/-- The answer to a rotation has the id it is given. -/
theorem handleDidRotate_id (hF : F.CarriesId) (s : Server σ) (doc : TrustTask) :
    outcomeId (TrustTasksHandler.handleDidRotate F env s doc).1 = env.newId := by
  unfold TrustTasksHandler.handleDidRotate
  split
  · exact hF.rejectWith _ _ _
  · split
    · exact hF.rejectWith _ _ _
    · dsimp only
      split
      · exact hF.respondWith _ _ _
      · exact hF.rejectWith _ _ _

/-- What is answered is the outcome of the dispatch. -/
theorem eq_some_of_elim {out : Option TaskOutcome} {o : TaskOutcome}
    (h : out.elim Handled.panicked Handled.replied = .replied o) : out = some o := by
  cases out with
  | none => cases h
  | some o' => rw [Handled.replied.inj h]

/-- What a document that passes the checks comes to. -/
theorem handle_of_admitted {sender : String} {body : Json} {doc : TrustTask} {s : Server σ}
    (hparse : F.parse body = .ok doc) (hadmitted : admission F env .didcomm sender doc = .ok ()) :
    TrustTasksHandler.handle F env sender body s =
      if doc.typeUri.slug = "registry/did/rotate" then
        (.replied (TrustTasksHandler.handleDidRotate F env s doc).1,
          (TrustTasksHandler.handleDidRotate F env s doc).2)
      else dispatchThrough F env s.capabilities.dispatcher s doc := by
  unfold TrustTasksHandler.handle
  simp only [hparse, hadmitted]

/-- **Exactly the writes other than a rotation that pass the checks again are
answered with the first response**, and nothing is done a second time.

The first delivery in environment `env₀` passes the checks and finds its key free,
and its outcome may be remembered; then anything but a restart happens before the
outcome expires, and the same message is delivered again. -/
theorem redelivery_iff (hF : F.CarriesId) {env₀ : Env σ} {sender : String} {body : Json}
    {doc : TrustTask} {s₀ s : Server σ} {o : TaskOutcome} {as : List (ServerAction σ)}
    (hparse : F.parse body = .ok doc) (hwrite : isWriteSlug doc.typeUri.slug = true)
    (hadmitted : admission F env₀ .didcomm sender doc = .ok ())
    (hfree : s₀.dedup.live env₀.now (messageKey doc) = none)
    (hfirst : (TrustTasksHandler.handle F env₀ sender body s₀).1 = .replied o)
    (hcacheable : isCacheable o = true)
    (hrun : Run (Server.step F) (Before (env₀.completedAt + lifetime s₀.dedup.ttl))
      (TrustTasksHandler.handle F env₀ sender body s₀).2 as s)
    (hnow : env.now < env₀.completedAt + lifetime s₀.dedup.ttl) (hid : outcomeId o ≠ env.newId) :
    AnsweredOnce F env sender body s o ↔
      admission F env .didcomm sender doc = .ok () ∧ doc.typeUri.slug ≠ "registry/did/rotate" := by
  constructor
  · intro h
    -- a rejection, or the answer to a rotation, would have an id of its own
    cases hagain : admission F env .didcomm sender doc with
    | error e =>
      have hreply := h.reply
      unfold TrustTasksHandler.handle at hreply
      simp only [hparse, hagain, Handled.replied.injEq] at hreply
      rw [← hreply] at hid
      exact absurd (admission_error_id hF hagain) hid
    | ok u =>
      refine ⟨rfl, fun hrotate => ?_⟩
      have hreply := h.reply
      rw [handle_of_admitted hparse hagain, if_pos hrotate] at hreply
      rw [← Handled.replied.inj hreply] at hid
      exact hid (handleDidRotate_id hF s doc)
  · rintro ⟨hagain, hrotate⟩
    rw [handle_of_admitted hparse hadmitted, if_neg hrotate] at hfirst hrun
    have hout : (dispatchIdempotent F store (handleDocument F env₀ s₀.capabilities.dispatcher)
        env₀.newId env₀.now env₀.completedAt s₀.dedup s₀ doc).1 = some o := by
      rw [dispatchThrough_eq] at hfirst
      exact eq_some_of_elim hfirst
    -- the first delivery is remembered, until the second
    have hremembers :
        s.Remembers (messageKey doc) o (env₀.completedAt + lifetime s₀.dedup.ttl) := by
      refine Run.invariant (I := fun s => s.Remembers (messageKey doc) o
        (env₀.completedAt + lifetime s₀.dedup.ttl))
        (fun _ _ _ hs hok hstep => remembers_step hs hok hstep) hrun ?_
      rw [dispatchThrough_eq]
      exact get?_dispatchIdempotent_self hwrite hfree hout hcacheable
    obtain ⟨hreply, hserver⟩ :
        (dispatchIdempotent F store (handleDocument F env s.capabilities.dispatcher) env.newId
          env.now env.completedAt s.dedup s doc).1 = some o ∧
        (dispatchIdempotent F store (handleDocument F env s.capabilities.dispatcher) env.newId
          env.now env.completedAt s.dedup s doc).2.2 = s :=
      dispatchIdempotent_of_done hwrite (hremembers.live hnow)
    have hhandle := handle_of_admitted (s := s) hparse hagain
    rw [if_neg hrotate, dispatchThrough_eq] at hhandle
    simp only [hreply, hserver, Option.elim_some] at hhandle
    exact ⟨by rw [hhandle], by rw [hhandle], by rw [hhandle], by rw [hhandle]⟩

theorem createFramework_carriesId : createFramework.CarriesId :=
  ⟨fun _ _ _ => rfl, fun _ _ _ => rfl, fun _ _ _ _ => rfl⟩

/-- The creation of another record, under an id of its own. -/
def otherCreate : TrustTask :=
  { sampleCreate with
    id := "msg-2"
    payload := .obj [("record", { newRecord with resource := ⟨"pid"⟩ }.toJson)] }

/-- The creation of a record, delivered again after another one was created, gets the first
response, and neither record is touched. -/
theorem recreated_answered_once :
    let first := TrustTasksHandler.handle createFramework sampleEnv "did:web:admin" sampleCreateBody
      (Server.started .new .empty)
    let second := handleInbound createFramework sampleEnv "did:web:admin" otherCreate first.2
    ∃ o, first.1 = .replied o ∧ first.2.records ≠ .new ∧ second.2.records ≠ first.2.records ∧
      AnsweredOnce createFramework { sampleEnv with newId := "reply-2" } "did:web:admin"
        sampleCreateBody second.2 o := by
  intro first second
  refine ⟨.ok (createFramework.respondWith sampleCreate "reply-1" (.obj [("ok", .bool true)])),
    by decide, by decide, by decide, ?_⟩
  have hadmitted : admission createFramework sampleEnv .didcomm "did:web:admin" sampleCreate
      = .ok () := by decide
  have hrun : Run (Server.step createFramework)
      (Before (sampleEnv.completedAt + lifetime (Server.started LocalStorage.new .empty).dedup.ttl))
      first.2 [.tsp sampleEnv "did:web:admin" otherCreate] second.2 := by
    have hbefore : sampleEnv.now < sampleEnv.completedAt
        + lifetime (Server.started LocalStorage.new .empty).dedup.ttl := by decide
    exact .single hbefore rfl
  exact (redelivery_iff createFramework_carriesId (by decide) (by decide) hadmitted rfl (by decide)
    (by decide) hrun (by decide) (by decide)).mpr ⟨by decide, by decide⟩

/-- A rotation of our own keys, signed by the administrator. -/
def sampleRotate : TrustTask where
  id := "msg-1"
  typeUri := ⟨"registry/did/rotate", "0.1", false⟩
  issuer := some "did:web:admin"
  payload := .obj []
  proof := some (.obj [("type", .str "DataIntegrityProof")])

/-- The framework as it reads this document. -/
def rotateFramework : Framework := .sample .null [] sampleRotate

/-- A server built with the rotation of keys. -/
def rotateEnv (newId : String) : Env LocalStorage :=
  { sampleEnv with
    newId
    rotateDid := some fun _ => .ok ⟨"did:webvh:registry", "scid-2", "2-version"⟩ }

/-- **A rotation that is delivered twice is carried out twice**, and answered
anew. -/
theorem rotated_twice :
    let first := TrustTasksHandler.handle rotateFramework (rotateEnv "reply-1") "did:web:admin"
      .null (Server.started .new .empty)
    let second := TrustTasksHandler.handle rotateFramework (rotateEnv "reply-2") "did:web:admin"
      .null first.2
    isWriteSlug sampleRotate.typeUri.slug = true ∧
      (∃ o, first.1 = .replied o ∧ isCacheable o = true ∧
        ¬ AnsweredOnce rotateFramework (rotateEnv "reply-2") "did:web:admin" .null first.2 o) ∧
      first.2.rotations.length = 1 ∧ second.2.rotations.length = 2 ∧ second.1 ≠ first.1 := by
  refine ⟨by decide, ?_, by decide, by decide, by decide⟩
  refine ⟨.ok (rotateFramework.respondWith sampleRotate "reply-1"
    (DidRotateResponse.toJson ⟨"did:webvh:registry", "scid-2", "2-version"⟩)), by decide, rfl, ?_⟩
  intro h
  have hrotations := h.rotations
  revert hrotations
  decide

end TrustRegistry
