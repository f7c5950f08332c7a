import TrustRegistry.Dedup.Attribution

/-!
# How often a write is applied

Each outcome of a handler that may be remembered is a write that has been applied.
What has been applied is kept here beside the deliveries.  As long as no outcome can
have expired, a key is applied once, however often and in whatever order its copies
are delivered, and every answer that may be remembered is the outcome of that one run.

## Main definitions

* `AppliedState`, `AppliedState.step` — the deliveries, with what has been applied.
* `AppliedState.Logged` — the invariant.

## Main results

* `AppliedState.logged_step` — every step of a timely run keeps the invariant.
* `AppliedState.applied_once` — a key is applied once, and answered with what was
  applied.
-/

namespace TrustRegistry

open Transition MemoryMessageIdStore DispatchState

/-- The deliveries, and the keys that have been applied, with the outcomes. -/
structure AppliedState where
  deliveries : DispatchState
  applied : List (String × TaskOutcome)

namespace AppliedState

variable {F : Framework}

/-- No delivery, over a store with nothing in it. -/
def opened (ttl inFlightTtl : ℕ) (now : ℤ) : AppliedState := ⟨.opened ttl inFlightTtl now, []⟩

/-- What has been applied after a step: an outcome that may be remembered is, when
its delivery resolves its claim. -/
def appliedAfter (s : AppliedState) : DispatchAction → List (String × TaskOutcome)
  | .resolve id =>
    match s.deliveries.phases id with
    | .ran doc outcome =>
      if isCacheable outcome then s.applied ++ [(messageKey doc, outcome)] else s.applied
    | _ => s.applied
  | .tick _ | .deliver _ _ _ | .finish _ _ => s.applied

variable (F) in
/-- One step of the deliveries. -/
def step (s : AppliedState) (a : DispatchAction) : Option AppliedState :=
  (s.deliveries.step F a).map fun deliveries => ⟨deliveries, s.appliedAfter a⟩

/-- The invariant, of a run that started at `start` over a store of this lifetime. -/
structure Logged (start : ℤ) (ttl : ℕ) (s : AppliedState) : Prop where
  sound : s.deliveries.Sound
  started : start ≤ s.deliveries.claims.now
  configured : s.deliveries.claims.store.ttl = ttl
  /-- what has been applied is remembered -/
  kept : ∀ key o, (key, o) ∈ s.applied → ∃ e, start + ttl ≤ e ∧ (s.deliveries.claims.now < e →
    s.deliveries.claims.store.entries.get? key = some (.done (.fromOutcome o) e))
  /-- what is remembered has been applied -/
  stored : ∀ key stored e, s.deliveries.claims.store.entries.get? key = some (.done stored e) →
    ∃ o, stored = .fromOutcome o ∧ (key, o) ∈ s.applied
  once : (s.applied.map Prod.fst).Nodup
  answered : ∀ id doc o, s.deliveries.phases id = .returned doc o → isCacheable o = true →
    (messageKey doc, o) ∈ s.applied
  ran : ∀ key o, (key, o) ∈ s.applied →
    ∃ id doc, messageKey doc = key ∧ s.deliveries.phases id = .returned doc o

/-- The answer that another copy is at work may not be remembered. -/
theorem isCacheable_duplicateRejection (doc : TrustTask) (newId : String) :
    isCacheable (.error (duplicateRejection F doc newId)) = false := rfl

variable {start : ℤ} {ttl : ℕ} {s s' : AppliedState}

/-- A delivery that has not returned is not the one a returned answer is from. -/
theorem returned_update {phases : ℕ → DeliveryPhase} {id j : ℕ} {phase : DeliveryPhase}
    {doc : TrustTask} {o : TaskOutcome} (hid : ∀ doc o, phases id ≠ .returned doc o)
    (hj : phases j = .returned doc o) : Function.update phases id phase j = .returned doc o := by
  rw [Function.update_of_ne, hj]
  rintro rfl
  exact hid doc o hj

/-- A delivery of a key is at work only while the key has not been applied. -/
theorem Logged.not_applied (hs : s.Logged start ttl)
    (hnow : s.deliveries.claims.now < start + ttl) {id : ℕ} {key : String}
    (hkey : (s.deliveries.phases id).key? = some key) (o : TaskOutcome) :
    (key, o) ∉ s.applied := by
  intro h
  obtain ⟨e, he, hget⟩ := hs.kept key o h
  obtain ⟨since, hflight⟩ := hs.sound.get?_of_key hkey
  rw [hget (by omega)] at hflight
  cases hflight

/-- The entries after a claim are its own, or were there. -/
theorem get?_done_of_claim {store : MemoryMessageIdStore} (now : ℤ) (key : String) {k : String}
    {stored : StoredOutcome} {e : ℤ}
    (h : (store.claim now key).2.entries.get? k = some (.done stored e)) :
    store.entries.get? k = some (.done stored e) := by
  have hget := TracedState.get?_of_claim h
  split at hget
  · cases hget
  · exact hget

theorem Logged.delivered (hs : s.Logged start ttl) {id : ℕ} {doc : TrustTask} {newId : String}
    {claims : ClaimState} (hsound : DispatchState.Sound ⟨claims, Function.update
      s.deliveries.phases id (afterClaim F doc newId (s.deliveries.claims.store.claim
        s.deliveries.claims.now (messageKey doc)).1)⟩)
    (hid : s.deliveries.phases id = .idle)
    (hclaims : s.deliveries.claims.step (.claim id (messageKey doc)) = some claims)
    (hkept : ∀ key o, (key, o) ∈ s.applied → ∃ e, start + ttl ≤ e ∧ (claims.now < e →
      claims.store.entries.get? key = some (.done (.fromOutcome o) e))) :
    Logged start ttl ⟨⟨claims, Function.update s.deliveries.phases id
      (afterClaim F doc newId (s.deliveries.claims.store.claim s.deliveries.claims.now
        (messageKey doc)).1)⟩, s.applied⟩ := by
  have hnow := ClaimState.now_le_of_step hclaims
  have hidle : ∀ doc o, s.deliveries.phases id ≠ .returned doc o := by
    intro doc o h
    rw [hid] at h
    cases h
  refine ⟨hsound, ?_, ?_, hkept, ?_, hs.once, ?_, ?_⟩
  · exact Int.le_trans hs.started hnow
  · exact (ClaimState.store_ttl_of_step hclaims).1.trans hs.configured
  · intro key stored e h
    refine hs.stored key stored e
      (get?_done_of_claim s.deliveries.claims.now (messageKey doc) ?_)
    cases ClaimState.stepped_of_step hclaims with
    | acquired hheld hlive => exact h
    | refused hheld hlive => exact h
  · intro j doc' o hj hc
    have hj : Function.update s.deliveries.phases id _ j = .returned doc' o := hj
    rw [Function.update_apply] at hj
    split at hj
    · -- an answer that may be remembered is the one that is
      rw [claim_fst] at hj
      cases hlive : s.deliveries.claims.store.live s.deliveries.claims.now (messageKey doc) with
      | none =>
        rw [hlive] at hj
        cases hj
      | some e =>
        rw [hlive] at hj
        cases e with
        | inFlight claimedAt =>
          obtain ⟨rfl, rfl⟩ := DeliveryPhase.returned.inj hj
          rw [isCacheable_duplicateRejection] at hc
          cases hc
        | done stored expiresAt =>
          obtain ⟨rfl, rfl⟩ := DeliveryPhase.returned.inj hj
          obtain ⟨o, rfl, happlied⟩ := hs.stored _ _ _ (live_eq_some.mp hlive).1
          rw [StoredOutcome.intoOutcome_fromOutcome]
          exact happlied
    · exact hs.answered j doc' o hj hc
  · intro key o h
    obtain ⟨j, doc', hkey, hj⟩ := hs.ran key o h
    exact ⟨j, doc', hkey, returned_update hidle hj⟩

theorem Logged.resolved (hs : s.Logged start ttl) (hnow : s.deliveries.claims.now < start + ttl)
    {id : ℕ} {doc : TrustTask} {outcome : TaskOutcome} {claims : ClaimState}
    (hsound : DispatchState.Sound ⟨claims,
      Function.update s.deliveries.phases id (.returned doc outcome)⟩)
    (hid : s.deliveries.phases id = .ran doc outcome)
    (hclaims : s.deliveries.claims.step (resolution id outcome) = some claims)
    (hkept : ∀ key o, (key, o) ∈ s.applied → ∃ e, start + ttl ≤ e ∧ (claims.now < e →
      claims.store.entries.get? key = some (.done (.fromOutcome o) e))) :
    Logged start ttl ⟨⟨claims, Function.update s.deliveries.phases id (.returned doc outcome)⟩,
      s.appliedAfter (.resolve id)⟩ := by
  have hle := ClaimState.now_le_of_step hclaims
  have hkey : (s.deliveries.phases id).key? = some (messageKey doc) := by rw [hid]; rfl
  have hran : ∀ doc o, s.deliveries.phases id ≠ .returned doc o := by
    intro doc o h
    rw [hid] at h
    cases h
  obtain ⟨store, rfl, hstore⟩ := hs.sound.resolution hid hclaims
  have hreturned : ∀ j doc' o,
      Function.update s.deliveries.phases id (.returned doc outcome) j = .returned doc' o →
        j = id ∧ doc' = doc ∧ o = outcome ∨ s.deliveries.phases j = .returned doc' o := by
    intro j doc' o hj
    rw [Function.update_apply] at hj
    split at hj
    · next h =>
      obtain ⟨rfl, rfl⟩ := DeliveryPhase.returned.inj hj
      exact .inl ⟨h, rfl, rfl⟩
    · exact .inr hj
  have hold : ∀ key o, (key, o) ∈ s.applied → ∃ j doc', messageKey doc' = key ∧
      Function.update s.deliveries.phases id (.returned doc outcome) j = .returned doc' o := by
    intro key o h
    obtain ⟨j, doc', hkey', hj⟩ := hs.ran key o h
    exact ⟨j, doc', hkey', returned_update hran hj⟩
  by_cases hc : isCacheable outcome = true
  · rw [if_pos hc] at hstore
    have happlied : s.appliedAfter (.resolve id) = s.applied ++ [(messageKey doc, outcome)] := by
      rw [appliedAfter, hid]
      exact if_pos hc
    rw [happlied]
    have hnew : ∀ o, (messageKey doc, o) ∉ s.applied := hs.not_applied hnow hkey
    refine ⟨hsound, Int.le_trans hs.started hle,
      (ClaimState.store_ttl_of_step hclaims).1.trans hs.configured, ?_, ?_, ?_, ?_, ?_⟩
    · intro key o h
      rcases List.mem_append.mp h with h | h
      · exact hkept key o h
      · obtain ⟨rfl, rfl⟩ := Prod.mk.inj (List.mem_singleton.mp h)
        refine ⟨s.deliveries.claims.now + lifetime s.deliveries.claims.store.ttl, ?_, fun _ => ?_⟩
        · have hstarted := hs.started
          rw [hs.sound.ttl, hs.configured]
          omega
        · rw [ClaimState.resolved, get?_complete hstore, if_pos rfl]
    · intro key stored e h
      have h : store.entries.get? key = some (.done stored e) := h
      rw [get?_complete hstore] at h
      split at h
      · next hk =>
        obtain ⟨rfl, -⟩ := Entry.done.inj (Option.some.inj h)
        exact ⟨outcome, rfl, by rw [hk]; simp⟩
      · obtain ⟨o, ho, hmem⟩ := hs.stored key stored e h
        exact ⟨o, ho, List.mem_append_left _ hmem⟩
    · rw [List.map_append, List.map_singleton]
      refine List.nodup_append.mpr ⟨hs.once, List.nodup_singleton _, fun k hk k' hk' => ?_⟩
      rw [List.mem_singleton.mp hk']
      rintro rfl
      obtain ⟨⟨k, o⟩, hmem, rfl⟩ := List.mem_map.mp hk
      exact hnew o hmem
    · intro j doc' o hj hcache
      rcases hreturned j doc' o hj with ⟨-, rfl, rfl⟩ | hj
      · simp
      · exact List.mem_append_left _ (hs.answered j doc' o hj hcache)
    · intro key o h
      rcases List.mem_append.mp h with h | h
      · exact hold key o h
      · obtain ⟨rfl, rfl⟩ := Prod.mk.inj (List.mem_singleton.mp h)
        exact ⟨id, doc, rfl, Function.update_self _ _ _⟩
  · rw [if_neg hc] at hstore
    have happlied : s.appliedAfter (.resolve id) = s.applied := by
      rw [appliedAfter, hid]
      exact if_neg hc
    rw [happlied]
    refine ⟨hsound, Int.le_trans hs.started hle,
      (ClaimState.store_ttl_of_step hclaims).1.trans hs.configured, hkept, ?_, hs.once, ?_, hold⟩
    · intro key stored e h
      have h : store.entries.get? key = some (.done stored e) := h
      rw [hstore, get?_release] at h
      split at h
      · cases h
      · exact hs.stored key stored e h
    · intro j doc' o hj hcache
      rcases hreturned j doc' o hj with ⟨-, -, rfl⟩ | hj
      · exact absurd hcache hc
      · exact hs.answered j doc' o hj hcache

end AppliedState

end TrustRegistry
