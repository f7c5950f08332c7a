import TrustRegistry.Dedup.Claims
import TrustRegistry.TrustTasks.Proof

/-!
# Dispatching a write once

A write claims its message id, is handled, and resolves the claim: with the
outcome, which later deliveries of the write get, or, when the outcome says that
the same document may be sent again, by giving the claim up.  Deliveries run
concurrently; the claim, the handler and the resolution are separate steps, and
nothing is assumed of what the handler answers.

## Main definitions

* `messageKey`, `isCacheable`, `dispatchIdempotent` — the functions.
* `DispatchState`, `DispatchState.step` — concurrent deliveries.
* `DispatchState.ExactlyOnce` — what deliveries of one write come to.

## Main results

* `DispatchState.exactly_once` — where both lifetimes can be expressed, timely
  deliveries apply a write once.
* `DispatchState.endless_claim_runs_twice` — a time in flight that cannot be
  expressed lets two deliveries run at once.
* `DispatchState.run_dispatchIdempotent` — a call is its steps taken in a row.
* `DispatchState.run_claims` — a timely run of deliveries is one of claims.
-/

namespace TrustRegistry

open Transition MemoryMessageIdStore

/-- The key of a document in the store. -/
def messageKey (doc : TrustTask) : String :=
  "MID#" ++ doc.issuer.getD "anonymous" ++ "#" ++ doc.id

/-- May an outcome be remembered?  A transient failure may not. -/
def isCacheable : TaskOutcome → Bool
  | .ok _ => true
  | .error error => !error.payload.retryable

/-- The rejection of a document whose first copy is still at work. -/
def duplicateRejection (F : Framework) (doc : TrustTask) (newId : String) : ErrorResponse :=
  let rejection := F.rejectWith doc newId
    (.taskFailed "an identical document is currently being processed" none)
  { rejection with payload := rejection.payload.withRetryable true }

/-- Dispatch a document, a write at most once.  `handle` is the dispatcher at
work on the rest of the server; the clock is read at the claim and again at the
completion.  No outcome is the panic of a completion. -/
def dispatchIdempotent {τ ρ : Type*} (F : Framework) (M : MessageIdStore τ)
    (handle : ρ → TrustTask → TaskOutcome × ρ) (newId : String) (claimedAt completedAt : ℤ)
    (store : τ) (r : ρ) (doc : TrustTask) : Option TaskOutcome × τ × ρ :=
  if !isWriteSlug doc.typeUri.slug then
    let (outcome, r) := handle r doc
    (some outcome, store, r)
  else
    match M.claim store claimedAt (messageKey doc) with
    | (.ok (.replay stored), store) => (some stored.intoOutcome, store, r)
    | (.ok .inFlight, store) => (some (.error (duplicateRejection F doc newId)), store, r)
    | (.ok .acquired, store) =>
      let (outcome, r) := handle r doc
      if isCacheable outcome then
        match M.complete store completedAt (messageKey doc) (.fromOutcome outcome) with
        | some (_, store) => (some outcome, store, r)
        | none => (none, store, r)
      else (some outcome, (M.release store (messageKey doc)).2, r)
    -- a store that is not there does not stop writes
    | (.error _, store) =>
      let (outcome, r) := handle r doc
      (some outcome, store, r)

/-- What is left of the rest of the server is what there was, or what the handler
leaves. -/
theorem dispatchIdempotent_snd_snd {τ ρ : Type*} (F : Framework) (M : MessageIdStore τ)
    (handle : ρ → TrustTask → TaskOutcome × ρ) (newId : String) (claimedAt completedAt : ℤ)
    (store : τ) (r : ρ) (doc : TrustTask) :
    (dispatchIdempotent F M handle newId claimedAt completedAt store r doc).2.2 = r ∨
      (dispatchIdempotent F M handle newId claimedAt completedAt store r doc).2.2
        = (handle r doc).2 := by
  unfold dispatchIdempotent
  rcases handle r doc with ⟨outcome, r'⟩
  split
  · exact .inr rfl
  · split
    · exact .inl rfl
    · exact .inl rfl
    · dsimp only
      split
      · split <;> exact .inr rfl
      · exact .inr rfl
    · exact .inr rfl

section

variable {ρ : Type*} {F : Framework} {handle : ρ → TrustTask → TaskOutcome × ρ} {newId : String}
  {now completedAt : ℤ} {s : MemoryMessageIdStore} {r : ρ} {doc : TrustTask}

/-- What an entry has a document answered with. -/
def entryOutcome (F : Framework) (doc : TrustTask) (newId : String) : Entry → TaskOutcome
  | .inFlight _ => .error (duplicateRejection F doc newId)
  | .done stored _ => stored.intoOutcome

/-- **A write whose key has an entry is answered from the entry**, and is not
handled. -/
theorem dispatchIdempotent_of_live {e : Entry} (hwrite : isWriteSlug doc.typeUri.slug = true)
    (hlive : s.live now (messageKey doc) = some e) :
    dispatchIdempotent F store handle newId now completedAt s r doc =
      (some (entryOutcome F doc newId e), (s.claim now (messageKey doc)).2, r) := by
  have hfst := s.claim_fst now (messageKey doc)
  rw [hlive] at hfst
  cases e <;> simp [dispatchIdempotent, entryOutcome, hwrite, store, hfst, answer]

/-- **A write whose key is free is handled**, and its claim is completed or
released. -/
theorem dispatchIdempotent_of_free (hwrite : isWriteSlug doc.typeUri.slug = true)
    (hfree : s.live now (messageKey doc) = none) :
    dispatchIdempotent F store handle newId now completedAt s r doc =
      if isCacheable (handle r doc).1 then
        match (s.claim now (messageKey doc)).2.complete completedAt (messageKey doc)
          (.fromOutcome (handle r doc).1) with
        | some s' => (some (handle r doc).1, s', (handle r doc).2)
        | none => (none, (s.claim now (messageKey doc)).2, (handle r doc).2)
      else
        (some (handle r doc).1, (s.claim now (messageKey doc)).2.release (messageKey doc),
          (handle r doc).2) := by
  have hfst := s.claim_fst now (messageKey doc)
  rw [hfree] at hfst
  simp only [dispatchIdempotent, hwrite, store, hfst, answer, Bool.not_true, Bool.false_eq_true,
    if_false]
  split
  · cases (s.claim now (messageKey doc)).2.complete completedAt (messageKey doc)
      (.fromOutcome (handle r doc).1) <;> rfl
  · rfl

end

/-! ### Concurrent deliveries -/

/-- How far a delivery has come. -/
inductive DeliveryPhase
  | idle
  | running (doc : TrustTask)
  | ran (doc : TrustTask) (outcome : TaskOutcome)
  | returned (doc : TrustTask) (outcome : TaskOutcome)
  deriving DecidableEq

/-- The key a delivery has claimed and not resolved. -/
def DeliveryPhase.key? : DeliveryPhase → Option String
  | running doc | ran doc _ => some (messageKey doc)
  | idle | returned _ _ => none

/-- The store with the deliveries in progress. -/
structure DispatchState where
  claims : ClaimState
  phases : ℕ → DeliveryPhase

/-- The steps of the deliveries, and the passing of time. -/
inductive DispatchAction
  | tick (d : ℕ)
  | deliver (id : ℕ) (doc : TrustTask) (newId : String)
  | finish (id : ℕ) (outcome : TaskOutcome)
  | resolve (id : ℕ)

/-- Does the action deliver a write of this key? -/
def DispatchAction.Delivers (key : String) : DispatchAction → Prop
  | deliver _ doc _ => messageKey doc = key
  | _ => False

namespace DispatchState

/-- No delivery, over a store with nothing in it. -/
def opened (ttl inFlightTtl : ℕ) (now : ℤ) : DispatchState :=
  ⟨.opened ttl inFlightTtl now, fun _ => .idle⟩

variable (F : Framework)

/-- How a delivery goes on after the answer to its claim. -/
def afterClaim (doc : TrustTask) (newId : String) : Claim → DeliveryPhase
  | .acquired => .running doc
  | .replay stored => .returned doc stored.intoOutcome
  | .inFlight => .returned doc (.error (duplicateRejection F doc newId))

/-- The call that resolves a claim. -/
def resolution (id : ℕ) (outcome : TaskOutcome) : ClaimAction :=
  if isCacheable outcome then .complete id (.fromOutcome outcome) else .release id

/-- One step.  Only writes are claimed; a delivery whose completion panics does
not return. -/
def step (s : DispatchState) : DispatchAction → Option DispatchState
  | .tick d => (s.claims.step (.tick d)).map fun claims => { s with claims }
  | .deliver id doc newId =>
    match s.phases id with
    | .idle =>
      if isWriteSlug doc.typeUri.slug then
        (s.claims.step (.claim id (messageKey doc))).map fun claims =>
          { claims
            phases := Function.update s.phases id
              (afterClaim F doc newId (s.claims.store.claim s.claims.now (messageKey doc)).1) }
      else none
    | _ => none
  | .finish id outcome =>
    match s.phases id with
    | .running doc => some { s with phases := Function.update s.phases id (.ran doc outcome) }
    | _ => none
  | .resolve id =>
    match s.phases id with
    | .ran doc outcome =>
      (s.claims.step (resolution id outcome)).map fun claims =>
        { claims, phases := Function.update s.phases id (.returned doc outcome) }
    | _ => none

/-- Every way a step can go. -/
inductive Stepped (s : DispatchState) : DispatchAction → DispatchState → Prop
  | ticked {d : ℕ} {claims : ClaimState} (hclaims : s.claims.step (.tick d) = some claims) :
      Stepped s (.tick d) { s with claims }
  | delivered {id : ℕ} {doc : TrustTask} {newId : String} {claims : ClaimState}
      (hid : s.phases id = .idle) (hwrite : isWriteSlug doc.typeUri.slug = true)
      (hclaims : s.claims.step (.claim id (messageKey doc)) = some claims) :
      Stepped s (.deliver id doc newId)
        ⟨claims, Function.update s.phases id
          (afterClaim F doc newId (s.claims.store.claim s.claims.now (messageKey doc)).1)⟩
  | finished {id : ℕ} {doc : TrustTask} {outcome : TaskOutcome} (hid : s.phases id = .running doc) :
      Stepped s (.finish id outcome)
        { s with phases := Function.update s.phases id (.ran doc outcome) }
  | resolved {id : ℕ} {doc : TrustTask} {outcome : TaskOutcome} {claims : ClaimState}
      (hid : s.phases id = .ran doc outcome)
      (hclaims : s.claims.step (resolution id outcome) = some claims) :
      Stepped s (.resolve id) ⟨claims, Function.update s.phases id (.returned doc outcome)⟩

variable {F}

theorem stepped_of_step {s s' : DispatchState} {a : DispatchAction} (h : s.step F a = some s') :
    Stepped F s a s' := by
  cases a with
  | tick d =>
    rw [step] at h
    obtain ⟨claims, hclaims, rfl⟩ := Option.map_eq_some_iff.mp h
    exact .ticked hclaims
  | deliver id doc newId =>
    rw [step] at h
    split at h
    · next hid =>
      split at h
      · next hwrite =>
        obtain ⟨claims, hclaims, rfl⟩ := Option.map_eq_some_iff.mp h
        exact .delivered hid hwrite hclaims
      · cases h
    · cases h
  | finish id outcome =>
    rw [step] at h
    split at h
    · next doc hid =>
      obtain rfl := Option.some.inj h
      exact .finished hid
    · cases h
  | resolve id =>
    rw [step] at h
    split at h
    · next doc outcome hid =>
      obtain ⟨claims, hclaims, rfl⟩ := Option.map_eq_some_iff.mp h
      exact .resolved hid hclaims
    · cases h

/-- Each step of the deliveries is a call on the store, or none. -/
theorem claims_step {s s' : DispatchState} {a : DispatchAction} (h : s.step F a = some s') :
    s'.claims = s.claims ∨ ∃ b, s.claims.step b = some s'.claims := by
  cases stepped_of_step h with
  | ticked hclaims => exact .inr ⟨_, hclaims⟩
  | delivered hid hwrite hclaims => exact .inr ⟨_, hclaims⟩
  | finished hid => exact .inl rfl
  | resolved hid hclaims => exact .inr ⟨_, hclaims⟩

/-- What a resolution does. -/
theorem claims_resolution {s claims : ClaimState} {id : ℕ} {outcome : TaskOutcome}
    (h : s.step (resolution id outcome) = some claims) : ∃ key since store,
      s.holds id = some (key, since) ∧ claims = s.resolved id store ∧
      (if isCacheable outcome then s.store.complete s.now key (.fromOutcome outcome) = some store
        else store = s.store.release key) := by
  unfold resolution at h
  split at h
  · next hc =>
    cases ClaimState.stepped_of_step h with
    | completed hid hstore => exact ⟨_, _, _, hid, rfl, by rw [if_pos hc, hstore]⟩
  · next hc =>
    cases ClaimState.stepped_of_step h with
    | released hid => exact ⟨_, _, _, hid, rfl, by rw [if_neg hc]⟩

theorem step_finish {s : DispatchState} {id : ℕ} {doc : TrustTask}
    (hid : s.phases id = .running doc) (o : TaskOutcome) : s.step F (.finish id o)
      = some { s with phases := Function.update s.phases id (.ran doc o) } := by
  rw [step, hid]

theorem step_resolve {s : DispatchState} {id : ℕ} {doc : TrustTask} {o : TaskOutcome}
    {claims : ClaimState} (hid : s.phases id = .ran doc o)
    (hclaims : s.claims.step (resolution id o) = some claims) : s.step F (.resolve id)
      = some ⟨claims, Function.update s.phases id (.returned doc o)⟩ := by
  rw [step, hid]
  simp only [hclaims, Option.map_some]

theorem step_deliver {s : DispatchState} {id : ℕ} {doc : TrustTask} {claims : ClaimState}
    (newId : String) (hid : s.phases id = .idle)
    (hwrite : isWriteSlug doc.typeUri.slug = true)
    (hclaims : s.claims.step (.claim id (messageKey doc)) = some claims) :
    s.step F (.deliver id doc newId) = some ⟨claims, Function.update s.phases id
      (afterClaim F doc newId (s.claims.store.claim s.claims.now (messageKey doc)).1)⟩ := by
  rw [step, hid]
  simp only [hwrite, if_true, hclaims, Option.map_some]

/-- A delivery whose claim is acquired runs on: the handler finishes, time passes,
and the claim is resolved. -/
theorem run_acquired {s : DispatchState} {id d : ℕ} {doc : TrustTask} {newId : String}
    {o : TaskOutcome} {store₁ store₂ : MemoryMessageIdStore}
    (hdeliver : s.step F (.deliver id doc newId) = some
      ⟨s.claims.acquired id (messageKey doc) store₁, Function.update s.phases id (.running doc)⟩)
    (hresolve : if isCacheable o then
        store₁.complete (s.claims.now + d) (messageKey doc) (.fromOutcome o) = some store₂
      else store₂ = store₁.release (messageKey doc)) :
    ∃ as t, Run (step F) anyAction s (.deliver id doc newId :: as) t ∧
      t.phases id = .returned doc o ∧ t.claims.store = store₂ := by
  -- the claim is still held when it is resolved
  have hclaims : ClaimState.step { s.claims.acquired id (messageKey doc) store₁ with
        now := s.claims.now + d } (resolution id o)
      = some (ClaimState.resolved { s.claims.acquired id (messageKey doc) store₁ with
          now := s.claims.now + d } id store₂) := by
    unfold resolution
    split at hresolve
    · next hc =>
      simp only [hc, if_true, ClaimState.step, ClaimState.acquired, Function.update_self, hresolve,
        Option.map_some]
    · next hc =>
      simp only [hc, if_false, ClaimState.step, ClaimState.acquired, Function.update_self, hresolve,
        Bool.false_eq_true]
  exact ⟨[.finish id o, .tick d, .resolve id], _, .cons trivial hdeliver
    (.cons trivial (step_finish (Function.update_self _ _ _) o) (.cons trivial rfl
      (.cons trivial (step_resolve (Function.update_self _ _ _) hclaims) (.nil _)))),
    Function.update_self _ _ _, rfl⟩

/-- **A call is its steps taken in a row**: the delivery, and where its claim is
acquired the handler, the time it takes, and the resolution. -/
theorem run_dispatchIdempotent {ρ : Type*} {handle : ρ → TrustTask → TaskOutcome × ρ} {r r' : ρ}
    {s : DispatchState} {id d : ℕ} {doc : TrustTask} {newId : String} {o : TaskOutcome}
    {store' : MemoryMessageIdStore} (hid : s.phases id = .idle)
    (hheld : s.claims.holds id = none) (hwrite : isWriteSlug doc.typeUri.slug = true)
    (h : dispatchIdempotent F store handle newId s.claims.now (s.claims.now + d) s.claims.store r
      doc = (some o, store', r')) :
    ∃ as t, Run (step F) anyAction s (.deliver id doc newId :: as) t ∧
      t.phases id = .returned doc o ∧ t.claims.store = store' := by
  have hfst := s.claims.store.claim_fst s.claims.now (messageKey doc)
  cases hlive : s.claims.store.live s.claims.now (messageKey doc) with
  | some e =>
    rw [dispatchIdempotent_of_live hwrite hlive] at h
    simp only [Prod.mk.injEq, Option.some.injEq] at h
    obtain ⟨rfl, rfl, _⟩ := h
    rw [hlive] at hfst
    have hdeliver := step_deliver (F := F) newId hid hwrite
      (ClaimState.step_claim_of_live hheld hlive)
    refine ⟨[], _, .single trivial hdeliver, ?_, rfl⟩
    show Function.update s.phases id _ id = _
    rw [Function.update_self, hfst]
    cases e <;> rfl
  | none =>
    rw [dispatchIdempotent_of_free hwrite hlive] at h
    rw [hlive] at hfst
    have hdeliver := step_deliver (F := F) newId hid hwrite
      (ClaimState.step_claim_of_free hheld hlive)
    rw [hfst] at hdeliver
    cases hc : isCacheable (handle r doc).1 with
    | true =>
      simp only [hc, if_true] at h
      cases hcomplete : (s.claims.store.claim s.claims.now (messageKey doc)).2.complete
        (s.claims.now + d) (messageKey doc) (.fromOutcome (handle r doc).1) with
      | none => simp [hcomplete] at h
      | some store₂ =>
        simp only [hcomplete, Prod.mk.injEq, Option.some.injEq] at h
        obtain ⟨rfl, rfl, _⟩ := h
        exact run_acquired hdeliver (by rw [if_pos hc]; exact hcomplete)
    | false =>
      simp only [hc, Bool.false_eq_true, if_false, Prod.mk.injEq, Option.some.injEq] at h
      obtain ⟨rfl, rfl, _⟩ := h
      exact run_acquired (d := d) hdeliver (by rw [hc]; rfl)

/-! ### What holds in timely runs -/

/-- Every claim is resolved before it is as old as the configured time in
flight. -/
def TimelyClaims (s : DispatchState) (_ : DispatchAction) : Prop := s.claims.Timely

/-- **The deliveries use the store as its callers do**: what they do to it in a
timely run is a timely run of claims and resolutions. -/
theorem run_claims {s t : DispatchState} {as : List DispatchAction}
    (hrun : Run (step F) TimelyClaims s as t) :
    ∃ bs, Run ClaimState.step (fun c _ => c.Timely) s.claims bs t.claims := by
  refine Run.simulate DispatchState.claims (fun s a s' hok hstep => ?_) hrun
  rcases claims_step hstep with h | ⟨b, hb⟩
  · exact .inl h
  · exact .inr ⟨b, hok, hb⟩

/-- The lifetimes are what they are configured to be, no key has two holders, and
the deliveries hold the keys they are at work on. -/
structure Sound (s : DispatchState) : Prop where
  ttl : lifetime s.claims.store.ttl = s.claims.store.ttl
  inFlightTtl : lifetime s.claims.store.inFlightTtl = s.claims.store.inFlightTtl
  exclusive : s.claims.Exclusive
  linked : ∀ id, (s.claims.holds id).map Prod.fst = (s.phases id).key?

theorem Sound.holds_of_key {s : DispatchState} (h : s.Sound) {id : ℕ} {key : String}
    (hkey : (s.phases id).key? = some key) : ∃ since, s.claims.holds id = some (key, since) := by
  have hlinked := h.linked id
  rw [hkey] at hlinked
  obtain ⟨⟨k, since⟩, hheld, rfl⟩ := Option.map_eq_some_iff.mp hlinked
  exact ⟨since, hheld⟩

/-- A delivery at work has its key in flight in the store. -/
theorem Sound.get?_of_key {s : DispatchState} (h : s.Sound) {id : ℕ} {key : String}
    (hkey : (s.phases id).key? = some key) :
    ∃ since, s.claims.store.entries.get? key = some (.inFlight since) := by
  obtain ⟨since, hheld⟩ := h.holds_of_key hkey
  exact ⟨since, (h.exclusive id key since hheld).2⟩

theorem opened_sound {ttl inFlightTtl : ℕ} (httl : (Chrono.fromStd ttl).isSome = true)
    (hinFlight : (Chrono.fromStd inFlightTtl).isSome = true) (now : ℤ) :
    (opened ttl inFlightTtl now).Sound where
  ttl := lifetime_eq httl
  inFlightTtl := lifetime_eq hinFlight
  exclusive := ClaimState.opened_exclusive ttl inFlightTtl now
  linked _ := rfl

/-- Deliveries and claims stay linked. -/
theorem linked_step {s s' : DispatchState} {a : DispatchAction}
    (hs : ∀ id, (s.claims.holds id).map Prod.fst = (s.phases id).key?)
    (hstep : s.step F a = some s') (id : ℕ) :
    (s'.claims.holds id).map Prod.fst = (s'.phases id).key? := by
  cases stepped_of_step hstep with
  | ticked hclaims =>
    obtain rfl := Option.some.inj hclaims
    exact hs id
  | @delivered id' doc newId claims hid hwrite hclaims =>
    -- the delivery runs exactly when the store gave it the key
    have hfst := s.claims.store.claim_fst s.claims.now (messageKey doc)
    have hlinked := hs id
    simp only [Function.update_apply]
    cases ClaimState.stepped_of_step hclaims with
    | acquired hheld hlive =>
      rw [hfst, hlive]
      simp only [ClaimState.acquired, Function.update_apply]
      split
      · rfl
      · exact hlinked
    | @refused _ _ e hheld hlive =>
      rw [hfst, hlive]
      split
      · next h =>
        rw [h, hheld]
        cases e <;> rfl
      · exact hlinked
  | @finished id' doc outcome hid =>
    have hlinked := hs id
    simp only [Function.update_apply]
    split
    · next h =>
      rw [h, hid] at hlinked
      rw [h]
      exact hlinked
    · exact hlinked
  | @resolved id' doc outcome claims hid hclaims =>
    obtain ⟨key, since, store, _, rfl, _⟩ := claims_resolution hclaims
    simp only [ClaimState.resolved, Function.update_apply]
    split
    · rfl
    · exact hs id

theorem sound_step {s s' : DispatchState} {a : DispatchAction} (hs : s.Sound)
    (hok : TimelyClaims s a) (hstep : s.step F a = some s') : s'.Sound := by
  have hlinked := linked_step hs.linked hstep
  rcases claims_step hstep with h | ⟨b, hb⟩
  · obtain ⟨h₁, h₂, h₃, _⟩ := hs
    rw [← h] at h₁ h₂ h₃
    exact ⟨h₁, h₂, h₃, hlinked⟩
  · obtain ⟨httl, hin⟩ := ClaimState.store_ttl_of_step hb
    refine ⟨?_, ?_, ClaimState.exclusive_step hs.exclusive hok hs.inFlightTtl hb, hlinked⟩
    · rw [httl]
      exact hs.ttl
    · rw [hin]
      exact hs.inFlightTtl

/-- An idle delivery of a write gets the answer of its claim. -/
theorem Sound.deliver {s : DispatchState} (h : s.Sound) {id : ℕ} {doc : TrustTask}
    (hid : s.phases id = .idle) (hwrite : isWriteSlug doc.typeUri.slug = true) (newId : String) :
    ∃ s', s.step F (.deliver id doc newId) = some s' ∧ s'.phases id =
      afterClaim F doc newId (s.claims.store.claim s.claims.now (messageKey doc)).1 := by
  have hlinked := h.linked id
  rw [hid] at hlinked
  have hheld : s.claims.holds id = none := Option.map_eq_none_iff.mp hlinked
  have hsome : ∃ claims, s.claims.step (.claim id (messageKey doc)) = some claims := by
    rw [ClaimState.step, hheld]
    rcases s.claims.store.claim s.claims.now (messageKey doc) with ⟨_ | _ | _, _⟩ <;>
      exact ⟨_, rfl⟩
  obtain ⟨claims, hclaims⟩ := hsome
  refine ⟨⟨claims, Function.update s.phases id _⟩, ?_, Function.update_self id _ s.phases⟩
  rw [step, hid, hclaims]
  simp only [hwrite, if_true, Option.map_some]

/-! ### Applied once -/

/-- The key of the write that an action is a step of. -/
def keyOf (s : DispatchState) : DispatchAction → Option String
  | .deliver _ doc _ => some (messageKey doc)
  | .finish id _ | .resolve id => (s.phases id).key?
  | .tick _ => none

variable (F) in
/-- What the deliveries of one write come to. -/
structure ExactlyOnce (t : DispatchState) : Prop where
  /-- At most one delivery of a key is at work. -/
  unique : ∀ i j key, (t.phases i).key? = some key → (t.phases j).key? = some key → i = j
  /-- An outcome that has been stored is what every delivery gets until the time
  to live is over; no delivery is at work on the key. -/
  replayed : ∀ id doc o t₁, t.phases id = .ran doc o → isCacheable o = true →
    t.claims.Timely → t.step F (.resolve id) = some t₁ →
    ∀ bs u, Run (step F) TimelyClaims t₁ bs u →
      u.claims.now < t.claims.now + t.claims.store.ttl →
      (∀ j, (u.phases j).key? ≠ some (messageKey doc)) ∧
      ∀ j doc' newId, messageKey doc' = messageKey doc → isWriteSlug doc'.typeUri.slug = true →
        u.phases j = .idle →
        ∃ u', u.step F (.deliver j doc' newId) = some u' ∧ u'.phases j = .returned doc' o
  /-- After an outcome that may be retried the next delivery is at work again. -/
  reclaimable : ∀ id doc o, t.phases id = .ran doc o → isCacheable o = false → t.claims.Timely →
    ∃ t₁, t.step F (.resolve id) = some t₁ ∧
      ∀ bs u, Run (step F) (fun s a => TimelyClaims s a ∧ ¬ a.Delivers (messageKey doc)) t₁ bs u →
        ∀ j doc' newId, messageKey doc' = messageKey doc → isWriteSlug doc'.typeUri.slug = true →
          u.phases j = .idle →
          ∃ u', u.step F (.deliver j doc' newId) = some u' ∧ u'.phases j = .running doc'
  /-- A step for one key changes no delivery of another, and no answer that
  another gets, then or later. -/
  others : ∀ a t₁ key, t.step F a = some t₁ → t.keyOf a = some key → ∀ k, k ≠ key →
    (∀ j, (t.phases j).key? = some k → t₁.phases j = t.phases j) ∧
    ∀ now, t.claims.now ≤ now → (t₁.claims.store.claim now k).1 = (t.claims.store.claim now k).1

theorem Sound.unique {t : DispatchState} (h : t.Sound) {i j : ℕ} {key : String}
    (hi : (t.phases i).key? = some key) (hj : (t.phases j).key? = some key) : i = j := by
  obtain ⟨since, hheldi⟩ := h.holds_of_key hi
  obtain ⟨since', hheldj⟩ := h.holds_of_key hj
  exact h.exclusive.unique hheldi hheldj

/-- What a delivery holds is what the resolution finds. -/
theorem Sound.resolution {t : DispatchState} {t₁ : ClaimState} (h : t.Sound) {id : ℕ}
    {doc : TrustTask} {o : TaskOutcome} (hid : t.phases id = .ran doc o)
    (hclaims : t.claims.step (resolution id o) = some t₁) : ∃ store,
      t₁ = t.claims.resolved id store ∧
      (if isCacheable o
        then t.claims.store.complete t.claims.now (messageKey doc) (.fromOutcome o) = some store
        else store = t.claims.store.release (messageKey doc)) := by
  obtain ⟨key, since, store, hheld, heq, hstore⟩ := claims_resolution hclaims
  have hkey : (t.phases id).key? = some (messageKey doc) := by rw [hid]; rfl
  obtain ⟨since', hheld'⟩ := h.holds_of_key hkey
  rw [hheld] at hheld'
  obtain ⟨rfl, _⟩ := Prod.mk.inj (Option.some.inj hheld')
  exact ⟨store, heq, hstore⟩

theorem Sound.replayed {t t₁ u : DispatchState} (h : t.Sound) (htimely : t.claims.Timely) {id : ℕ}
    {doc : TrustTask} {o : TaskOutcome} (hid : t.phases id = .ran doc o)
    (hc : isCacheable o = true) (hstep : t.step F (.resolve id) = some t₁)
    {bs : List DispatchAction} (hrun : Run (step F) TimelyClaims t₁ bs u)
    (hlt : u.claims.now < t.claims.now + t.claims.store.ttl) :
    u.Sound ∧ u.claims.store.live u.claims.now (messageKey doc)
      = some (.done (.fromOutcome o) (t.claims.now + t.claims.store.ttl)) := by
  have hstored : t₁.claims.store.entries.get? (messageKey doc)
      = some (.done (.fromOutcome o) (t.claims.now + t.claims.store.ttl)) := by
    cases stepped_of_step hstep with
    | resolved hid' hclaims =>
      rw [hid] at hid'
      cases hid'
      obtain ⟨store, rfl, hstore⟩ := h.resolution hid hclaims
      rw [if_pos hc] at hstore
      rw [ClaimState.resolved, get?_complete hstore, if_pos rfl, h.ttl]
  -- timely resolutions undo nothing, so the outcome stays until it expires
  obtain ⟨hsound, hdone⟩ : u.Sound ∧ (u.claims.now < t.claims.now + t.claims.store.ttl →
      u.claims.store.entries.get? (messageKey doc)
        = some (.done (.fromOutcome o) (t.claims.now + t.claims.store.ttl))) := by
    refine Run.invariant (I := fun s => s.Sound ∧
      (s.claims.now < t.claims.now + t.claims.store.ttl →
      s.claims.store.entries.get? (messageKey doc)
        = some (.done (.fromOutcome o) (t.claims.now + t.claims.store.ttl)))) ?_ hrun
      ⟨sound_step h htimely hstep, fun _ => hstored⟩
    rintro s a s' ⟨hsound, hdone⟩ hok hstep
    refine ⟨sound_step hsound hok hstep, ?_⟩
    rcases claims_step hstep with heq | ⟨b, hb⟩
    · rw [heq]
      exact hdone
    · exact ClaimState.done_step hdone
        (hsound.exclusive.standingResolution hok hsound.inFlightTtl b) hb
  exact ⟨hsound, live_eq_some.mpr ⟨hdone hlt, by simpa [retains] using hlt⟩⟩

/-- A key that nobody holds and the store does not have stays so until it is
delivered. -/
theorem Sound.absent_step {s s' : DispatchState} {a : DispatchAction} {key : String} (h : s.Sound)
    (hs : s.claims.store.entries.get? key = none) (hok : ¬ a.Delivers key)
    (hstep : s.step F a = some s') : s'.claims.store.entries.get? key = none := by
  cases stepped_of_step hstep with
  | ticked hclaims =>
    obtain rfl := Option.some.inj hclaims
    exact hs
  | @delivered id doc newId claims hid hwrite hclaims =>
    -- another key is claimed
    have hkey : key ≠ messageKey doc := fun heq => hok heq.symm
    have hget : (s.claims.store.claim s.claims.now (messageKey doc)).2.entries.get? key = none := by
      rw [get?_claim, if_neg hkey, live, hs, Option.filter_none]
    cases ClaimState.stepped_of_step hclaims with
    | acquired hheld hlive => exact hget
    | refused hheld hlive => exact hget
  | finished hid => exact hs
  | @resolved id doc outcome claims hid hclaims =>
    -- a delivery at work has its entry, so it is at work on another key
    have hkey : key ≠ messageKey doc := by
      rintro rfl
      have hkey : (s.phases id).key? = some (messageKey doc) := by rw [hid]; rfl
      obtain ⟨since, hget⟩ := h.get?_of_key hkey
      rw [hs] at hget
      cases hget
    obtain ⟨store, rfl, hstore⟩ := h.resolution hid hclaims
    split at hstore
    · rw [ClaimState.resolved, get?_complete hstore, if_neg hkey]
      exact hs
    · rw [ClaimState.resolved, hstore, get?_release, if_neg hkey]
      exact hs

theorem Sound.reclaimable {t : DispatchState} (h : t.Sound) (htimely : t.claims.Timely) {id : ℕ}
    {doc : TrustTask} {o : TaskOutcome} (hid : t.phases id = .ran doc o)
    (hc : isCacheable o = false) : ∃ t₁, t.step F (.resolve id) = some t₁ ∧
      ∀ bs u, Run (step F) (fun s a => TimelyClaims s a ∧ ¬ a.Delivers (messageKey doc)) t₁ bs u →
        u.Sound ∧ u.claims.store.entries.get? (messageKey doc) = none := by
  have hkey : (t.phases id).key? = some (messageKey doc) := by rw [hid]; rfl
  obtain ⟨since, hheld⟩ := h.holds_of_key hkey
  have hstep : t.step F (.resolve id) = some
      ⟨t.claims.resolved id (t.claims.store.release (messageKey doc)),
        Function.update t.phases id (.returned doc o)⟩ := by
    refine step_resolve hid ?_
    simp only [DispatchState.resolution, hc, Bool.false_eq_true, if_false, ClaimState.step, hheld]
  refine ⟨_, hstep, fun bs u hrun => ?_⟩
  -- the key is absent after the release, and stays so until it is delivered again
  refine Run.invariant (I := fun s => s.Sound ∧
    s.claims.store.entries.get? (messageKey doc) = none) ?_ hrun
    ⟨sound_step h htimely hstep, AssocMap.get?_erase_self _ _⟩
  rintro s a s' ⟨hsound, hnone⟩ ⟨hok, hdeliver⟩ hstep
  exact ⟨sound_step hsound hok hstep, hsound.absent_step hnone hdeliver hstep⟩

/-- What another key answers depends on its entry alone. -/
theorem claim_fst_congr {s s' : MemoryMessageIdStore} {now : ℤ} {k : String}
    (h : s'.live now k = s.live now k) : (s'.claim now k).1 = (s.claim now k).1 := by
  rw [claim_fst, claim_fst, h]

theorem Sound.others {t t₁ : DispatchState} (h : t.Sound) {a : DispatchAction} {key : String}
    (hstep : t.step F a = some t₁) (ha : t.keyOf a = some key) {k : String} (hk : k ≠ key) :
    (∀ j, (t.phases j).key? = some k → t₁.phases j = t.phases j) ∧
    ∀ now, t.claims.now ≤ now →
      (t₁.claims.store.claim now k).1 = (t.claims.store.claim now k).1 := by
  -- the delivery that moves on is not one of key `k`
  have hphase : ∀ id phase, (t.phases id).key? ≠ some k → ∀ j, (t.phases j).key? = some k →
      Function.update t.phases id phase j = t.phases j := by
    intro id phase hid j hj
    refine Function.update_of_ne ?_ phase t.phases
    rintro rfl
    exact hid hj
  cases stepped_of_step hstep with
  | ticked hclaims => cases ha
  | @delivered id doc newId claims hid hwrite hclaims =>
    obtain rfl := Option.some.inj ha
    refine ⟨hphase id _ (by rw [hid]; exact nofun), fun now hle => claim_fst_congr ?_⟩
    cases ClaimState.stepped_of_step hclaims with
    | acquired hheld hlive => exact live_claim_of_ne _ hle hk
    | refused hheld hlive => exact live_claim_of_ne _ hle hk
  | @finished id doc outcome hid =>
    have hne : (t.phases id).key? ≠ some k := by
      rw [show (t.phases id).key? = some key from ha]
      exact fun heq => hk (Option.some.inj heq).symm
    exact ⟨hphase id _ hne, fun now _ => rfl⟩
  | @resolved id doc outcome claims hid hclaims =>
    have hkey : (t.phases id).key? = some (messageKey doc) := by rw [hid]; rfl
    have hkey' : k ≠ messageKey doc := by
      rw [show (t.phases id).key? = some key from ha] at hkey
      rw [← Option.some.inj hkey]
      exact hk
    have hne : (t.phases id).key? ≠ some k := by
      rw [hkey]
      exact fun heq => hkey' (Option.some.inj heq).symm
    obtain ⟨store, rfl, hstore⟩ := h.resolution hid hclaims
    refine ⟨hphase id _ hne, fun now _ => claim_fst_congr ?_⟩
    split at hstore
    · obtain rfl := complete_eq_some hstore
      rw [live, live, ClaimState.resolved, AssocMap.get?_insert_of_ne _ _ hkey']
    · rw [live, live, ClaimState.resolved, hstore, get?_release, if_neg hkey']
      rfl

/-- **Where both lifetimes can be expressed, timely deliveries apply a write
once**: at most one is at work on a key, a stored outcome is what every delivery
gets until its time to live is over, an outcome that may be retried opens the
key, and other keys are not touched. -/
theorem exactly_once {ttl inFlightTtl : ℕ} (httl : (Chrono.fromStd ttl).isSome = true)
    (hinFlight : (Chrono.fromStd inFlightTtl).isSome = true) {now : ℤ} {as : List DispatchAction}
    {t : DispatchState} (hrun : Run (step F) TimelyClaims (opened ttl inFlightTtl now) as t) :
    t.ExactlyOnce F := by
  have hsound : t.Sound := Run.invariant (I := Sound) (fun _ _ _ => sound_step) hrun
    (opened_sound httl hinFlight now)
  refine ⟨fun i j key => hsound.unique, ?_, ?_, fun a t₁ key hstep ha k hk =>
    hsound.others hstep ha hk⟩
  · intro id doc o t₁ hid hc htimely hstep bs u hrun' hlt
    obtain ⟨husound, hlive⟩ := hsound.replayed htimely hid hc hstep hrun' hlt
    refine ⟨fun j hj => ?_, fun j doc' newId hkey hwrite hidle => ?_⟩
    · -- a delivery at work would have the key in flight, and it is done
      obtain ⟨since, hget⟩ := husound.get?_of_key hj
      rw [(live_eq_some.mp hlive).1] at hget
      cases hget
    · obtain ⟨u', hu', hphase⟩ := husound.deliver (F := F) hidle hwrite newId
      rw [claim_fst, hkey, hlive] at hphase
      refine ⟨u', hu', ?_⟩
      rw [hphase, answer, afterClaim, StoredOutcome.intoOutcome_fromOutcome]
  · intro id doc o hid hc htimely
    obtain ⟨t₁, hstep, hafter⟩ := hsound.reclaimable htimely hid hc
    refine ⟨t₁, hstep, fun bs u hrun' j doc' newId hkey hwrite hidle => ?_⟩
    obtain ⟨husound, hnone⟩ := hafter bs u hrun'
    obtain ⟨u', hu', hphase⟩ := husound.deliver (F := F) hidle hwrite newId
    rw [claim_fst, hkey, live, hnone] at hphase
    exact ⟨u', hu', hphase⟩

/-- The framework of the runs below. -/
def sampleFramework : Framework := .sample .null [] ClaimState.sampleWrite

/-- A write is delivered, delivered again while the first delivery is at work, and
once more an hour after that has returned. -/
def redelivered : List DispatchAction :=
  [.deliver 0 ClaimState.sampleWrite "reply-1", .deliver 1 ClaimState.sampleWrite "reply-2",
    .finish 0 (.ok ClaimState.sampleWrite), .resolve 0, .tick 3600000000000,
    .deliver 2 ClaimState.sampleWrite "reply-3"]

/-- The deliveries are timely, and only the first is worked on. -/
theorem run_redelivered : ∃ t, Run (step sampleFramework) TimelyClaims
      (opened defaultTtl defaultInFlightTtl 0) redelivered t ∧
    t.phases 0 = .returned ClaimState.sampleWrite (.ok ClaimState.sampleWrite) ∧
    t.phases 1 = .returned ClaimState.sampleWrite
      (.error (duplicateRejection sampleFramework ClaimState.sampleWrite "reply-2")) ∧
    t.phases 2 = .returned ClaimState.sampleWrite (.ok ClaimState.sampleWrite) := by
  have hnone : ∀ s : ClaimState, (∀ id, s.holds id = none) → s.Timely := by
    intro s h id key since hid
    rw [h] at hid
    cases hid
  have hresolved : ∀ (e : Option (String × ℤ)) (id : ℕ),
      Function.update (Function.update (fun _ : ℕ => none) 0 e) 0 none id = none := by simp
  -- while the first delivery is at work its claim is the only one
  exact ⟨_, .cons (ClaimState.opened_timely _ _ _) rfl
    (.cons (ClaimState.timely_of_single (by decide) rfl) rfl
    (.cons (ClaimState.timely_of_single (by decide) rfl) rfl
    (.cons (ClaimState.timely_of_single (by decide) rfl) rfl
    (.cons (hnone _ (hresolved _)) rfl (.cons (hnone _ (hresolved _)) rfl (.nil _)))))),
    rfl, rfl, rfl⟩

/-- A write that is delivered three times is applied once: the delivery that
overlaps the first is refused, and the later one gets the first one's answer. -/
theorem redelivered_applied_once : ∃ t, Run (step sampleFramework) TimelyClaims
      (opened defaultTtl defaultInFlightTtl 0) redelivered t ∧
    t.phases 0 = .returned ClaimState.sampleWrite (.ok ClaimState.sampleWrite) ∧
    t.phases 1 = .returned ClaimState.sampleWrite
      (.error (duplicateRejection sampleFramework ClaimState.sampleWrite "reply-2")) ∧
    t.phases 2 = .returned ClaimState.sampleWrite (.ok ClaimState.sampleWrite) ∧
    t.ExactlyOnce sampleFramework := by
  obtain ⟨t, hrun, hfirst, hsecond, hthird⟩ := run_redelivered
  exact ⟨t, hrun, hfirst, hsecond, hthird, exactly_once (by decide) (by decide) hrun⟩

/-- The longest duration the program can be configured with. -/
def durationMax : ℕ := (2 ^ 64 - 1) * 1000000000 + 999999999

/-- **A time in flight that cannot be expressed lets two deliveries run at
once**: the claim of the first is past its lifetime at once. -/
theorem endless_claim_runs_twice : ∃ t, Run (step sampleFramework) TimelyClaims
      (opened defaultTtl durationMax 0)
      [.deliver 0 ClaimState.sampleWrite "reply-1", .deliver 1 ClaimState.sampleWrite "reply-2"] t ∧
    t.phases 0 = .running ClaimState.sampleWrite ∧
    t.phases 1 = .running ClaimState.sampleWrite := by
  refine ⟨_, .cons (ClaimState.opened_timely _ _ _) rfl (.cons ?_ rfl (.nil _)), rfl, rfl⟩
  exact ClaimState.timely_of_single (by decide) rfl

end DispatchState

end TrustRegistry
