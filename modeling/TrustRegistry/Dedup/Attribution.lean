import TrustRegistry.Dedup.Dispatch

/-!
# Whose outcome a document gets

A write that is not dispatched is answered from the entry of its key.  The key
holds the issuer and the id of a document, and nothing of its type or payload; so
the entry may be that of another document.  Which delivery an entry comes from is
kept here beside the system, and nothing is assumed about time.

## Main definitions

* `TracedState`, `TracedState.step` — the deliveries, with the owner of each
  entry.
* `TracedState.NoIdReused` — one issuer's documents, no two of one id.
* `TracedState.AnsweredAs` — how a document that is not dispatched is answered.

## Main results

* `TracedState.attributed_step` — every entry is its owner's claim or outcome.
* `TracedState.refused_for_identical` — where no id is used for two documents, a
  document is answered only with its own outcome.
* `revoke_answered_with_grant` — a revocation answered with the outcome of a
  grant.
-/

namespace TrustRegistry

open Transition MemoryMessageIdStore DispatchState

/-- The document of a delivery that has started. -/
def DeliveryPhase.document? : DeliveryPhase → Option TrustTask
  | idle => none
  | running doc | ran doc _ | returned doc _ => some doc

/-- The entry is the claim of a delivery at work on the document, or its
outcome. -/
def DeliveryPhase.Stands (doc : TrustTask) : Entry → DeliveryPhase → Prop
  | .inFlight _, phase => phase = .running doc ∨ ∃ o, phase = .ran doc o
  | .done stored _, phase => ∃ o, phase = .returned doc o ∧ stored = .fromOutcome o

theorem DeliveryPhase.Stands.document {doc : TrustTask} {e : Entry} {phase : DeliveryPhase}
    (h : phase.Stands doc e) : phase.document? = some doc := by
  cases e with
  | inFlight claimedAt =>
    rcases h with rfl | ⟨o, rfl⟩
    · rfl
    · rfl
  | done stored expiresAt =>
    obtain ⟨o, rfl, _⟩ := h
    rfl

/-- The deliveries, and for each key the delivery whose claim or outcome its entry
is. -/
structure TracedState where
  deliveries : DispatchState
  owner : String → Option ℕ

namespace TracedState

variable {F : Framework}

/-- No delivery, over a store with nothing in it. -/
def opened (ttl inFlightTtl : ℕ) (now : ℤ) : TracedState :=
  ⟨.opened ttl inFlightTtl now, fun _ => none⟩

/-- The answer to the claim of a document. -/
def claimAnswer (s : TracedState) (doc : TrustTask) : Claim :=
  (s.deliveries.claims.store.claim s.deliveries.claims.now (messageKey doc)).1

/-- A claim that is acquired, and an outcome that is stored, change the owner. -/
def ownerAfter (s : TracedState) : DispatchAction → String → Option ℕ
  | .deliver id doc _ =>
    if s.claimAnswer doc = .acquired then Function.update s.owner (messageKey doc) (some id)
    else s.owner
  | .resolve id =>
    match s.deliveries.phases id with
    | .ran doc outcome =>
      if isCacheable outcome then Function.update s.owner (messageKey doc) (some id) else s.owner
    | _ => s.owner
  | .tick _ | .finish _ _ => s.owner

variable (F) in
/-- One step of the deliveries. -/
def step (s : TracedState) (a : DispatchAction) : Option TracedState :=
  (s.deliveries.step F a).map fun deliveries => ⟨deliveries, s.ownerAfter a⟩

/-! ### Every entry has an owner -/

/-- Every entry is its owner's claim or outcome. -/
structure Attributed (s : TracedState) : Prop where
  linked : ∀ id, (s.deliveries.claims.holds id).map Prod.fst = (s.deliveries.phases id).key?
  entries : ∀ key e, s.deliveries.claims.store.entries.get? key = some e →
    ∃ id doc, s.owner key = some id ∧ messageKey doc = key ∧ (s.deliveries.phases id).Stands doc e

theorem opened_attributed (ttl inFlightTtl : ℕ) (now : ℤ) :
    (opened ttl inFlightTtl now).Attributed :=
  ⟨fun _ => rfl, fun _ _ h => by simp [opened, DispatchState.opened, ClaimState.opened, new] at h⟩

/-- An entry stands when another delivery moves on. -/
theorem stands_update {phases : ℕ → DeliveryPhase} {id j : ℕ} {phase : DeliveryPhase}
    {doc : TrustTask} {e : Entry} (hj : (phases j).Stands doc e) (hne : j ≠ id) :
    (Function.update phases id phase j).Stands doc e := by
  rwa [Function.update_of_ne hne]

/-- A delivery that has not started owns nothing. -/
theorem ne_of_idle {phases : ℕ → DeliveryPhase} {id j : ℕ} {doc : TrustTask} {e : Entry}
    (hid : phases id = .idle) (hj : (phases j).Stands doc e) : j ≠ id := by
  rintro rfl
  have hdoc := hj.document
  rw [hid] at hdoc
  cases hdoc

/-- An entry after a claim is the claim, where that is acquired, or was there
before. -/
theorem get?_of_claim {s : MemoryMessageIdStore} {now : ℤ} {key k : String} {e : Entry}
    (h : (s.claim now key).2.entries.get? k = some e) :
    if k = key ∧ s.live now key = none then e = .inFlight now else s.entries.get? k = some e := by
  rw [get?_claim] at h
  by_cases hk : k = key
  · subst hk
    rw [if_pos rfl] at h
    cases hlive : s.live now k with
    | none =>
      rw [hlive, Option.getD_none] at h
      rw [if_pos ⟨rfl, rfl⟩]
      exact (Option.some.inj h).symm
    | some e' =>
      rw [hlive, Option.getD_some] at h
      obtain rfl := Option.some.inj h
      rw [if_neg (fun h => Option.some_ne_none _ h.2)]
      exact (live_eq_some.mp hlive).1
  · rw [if_neg hk] at h
    rw [if_neg fun h => hk h.1]
    exact (live_eq_some.mp h).1

/-- A delivery brings in no entry but its claim. -/
theorem Attributed.delivered {s : TracedState} (hs : s.Attributed) {id : ℕ} {doc : TrustTask}
    {newId : String} {claims : ClaimState} (hid : s.deliveries.phases id = .idle)
    (hclaims : s.deliveries.claims.step (.claim id (messageKey doc)) = some claims) {k : String}
    {e : Entry} (he : claims.store.entries.get? k = some e) :
    ∃ j doc', s.ownerAfter (.deliver id doc newId) k = some j ∧ messageKey doc' = k ∧
      (Function.update s.deliveries.phases id (afterClaim F doc newId (s.claimAnswer doc))
        j).Stands doc' e := by
  have hfst := s.deliveries.claims.store.claim_fst s.deliveries.claims.now (messageKey doc)
  -- what was there before keeps its owner
  have hkept : ∀ e, s.deliveries.claims.store.entries.get? k = some e →
      ∃ j doc', s.owner k = some j ∧ messageKey doc' = k ∧
        (Function.update s.deliveries.phases id (afterClaim F doc newId (s.claimAnswer doc))
          j).Stands doc' e := by
    intro e he
    obtain ⟨j, doc', howner, hkey, hstands⟩ := hs.entries k e he
    exact ⟨j, doc', howner, hkey, stands_update hstands (ne_of_idle hid hstands)⟩
  cases ClaimState.stepped_of_step hclaims with
  | acquired hheld hlive =>
    have hacquired : s.claimAnswer doc = .acquired := by rw [claimAnswer, hfst, hlive, answer]
    have hget := get?_of_claim he
    rw [ownerAfter, if_pos hacquired]
    by_cases hk : k = messageKey doc
    · rw [if_pos ⟨hk, hlive⟩] at hget
      refine ⟨id, doc, by rw [hk, Function.update_self], hk.symm, ?_⟩
      rw [Function.update_self, hacquired, hget]
      exact .inl rfl
    · rw [if_neg fun h => hk h.1] at hget
      rw [Function.update_of_ne hk]
      exact hkept e hget
  | @refused _ _ e' hheld hlive =>
    have hrefused : s.claimAnswer doc ≠ .acquired := by
      rw [claimAnswer, hfst, hlive]
      cases e' <;> simp [answer]
    have hget := get?_of_claim he
    rw [if_neg fun h => by simp [hlive] at h] at hget
    rw [ownerAfter, if_neg hrefused]
    exact hkept e hget

/-- A resolution brings in no entry but its outcome. -/
theorem Attributed.resolved {s : TracedState} (hs : s.Attributed) {id : ℕ} {doc : TrustTask}
    {outcome : TaskOutcome} {claims : ClaimState} (hid : s.deliveries.phases id = .ran doc outcome)
    (hclaims : s.deliveries.claims.step (resolution id outcome) = some claims) {k : String}
    {e : Entry} (he : claims.store.entries.get? k = some e) :
    ∃ j doc', s.ownerAfter (.resolve id) k = some j ∧ messageKey doc' = k ∧
      (Function.update s.deliveries.phases id (.returned doc outcome) j).Stands doc' e := by
  obtain ⟨key, since, store, hheld, rfl, hstore⟩ := claims_resolution hclaims
  have hlinked := hs.linked id
  rw [hheld, hid] at hlinked
  obtain rfl : key = messageKey doc := Option.some.inj hlinked
  -- the entries of other keys have other owners
  have hother : k ≠ messageKey doc → s.deliveries.claims.store.entries.get? k = some e →
      ∃ j doc', s.owner k = some j ∧ messageKey doc' = k ∧
        (Function.update s.deliveries.phases id (.returned doc outcome) j).Stands doc' e := by
    intro hk he
    obtain ⟨j, doc', howner, hkey, hstands⟩ := hs.entries k e he
    refine ⟨j, doc', howner, hkey, stands_update hstands ?_⟩
    rintro rfl
    have hdoc := hstands.document
    rw [hid] at hdoc
    exact hk (by rw [← hkey, ← Option.some.inj hdoc])
  have hget : store.entries.get? k = some e := he
  simp only [ownerAfter, hid]
  by_cases hc : isCacheable outcome = true
  · rw [if_pos hc] at hstore ⊢
    rw [get?_complete hstore] at hget
    by_cases hk : k = messageKey doc
    · rw [if_pos hk] at hget
      obtain rfl := Option.some.inj hget
      refine ⟨id, doc, by rw [hk, Function.update_self], hk.symm, outcome, ?_, rfl⟩
      exact Function.update_self id _ _
    · rw [if_neg hk] at hget
      rw [Function.update_of_ne hk]
      exact hother hk hget
  · rw [if_neg hc] at hstore ⊢
    rw [hstore, get?_release] at hget
    by_cases hk : k = messageKey doc
    · rw [if_pos hk] at hget
      cases hget
    · rw [if_neg hk] at hget
      exact hother hk hget

/-- **Every entry stays its owner's claim or outcome**, whatever is done and
however late. -/
theorem attributed_step {s s' : TracedState} {a : DispatchAction} (hs : s.Attributed)
    (h : s.step F a = some s') : s'.Attributed := by
  obtain ⟨deliveries, hstep, rfl⟩ := Option.map_eq_some_iff.mp h
  refine ⟨linked_step hs.linked hstep, ?_⟩
  intro k e he
  cases stepped_of_step hstep with
  | ticked hclaims =>
    obtain rfl := Option.some.inj hclaims
    exact hs.entries k e he
  | delivered hid hwrite hclaims => exact hs.delivered hid hclaims he
  | @finished id doc outcome hid =>
    obtain ⟨j, doc', howner, hkey, hstands⟩ := hs.entries k e he
    refine ⟨j, doc', howner, hkey, ?_⟩
    by_cases hj : j = id
    · -- the claim of this delivery stands while it finishes
      subst hj
      rw [hid] at hstands
      show (Function.update s.deliveries.phases j (.ran doc outcome) j).Stands doc' e
      rw [Function.update_self]
      cases e with
      | inFlight claimedAt =>
        rcases hstands with h | ⟨o, h⟩
        · exact .inr ⟨outcome, by rw [DeliveryPhase.running.inj h]⟩
        · cases h
      | done stored expiresAt =>
        obtain ⟨o, h, _⟩ := hstands
        cases h
    · exact stands_update hstands hj
  | resolved hid hclaims => exact hs.resolved hid hclaims he

/-! ### What a document is answered with -/

variable (F) in
/-- The document is answered on account of delivery `j` of the same document: that
is at work, or has returned the same outcome. -/
def AnsweredAs (s : TracedState) (j : ℕ) (doc : TrustTask) (newId : String)
    (o : TaskOutcome) : Prop :=
  ((s.deliveries.phases j = .running doc ∨ ∃ o', s.deliveries.phases j = .ran doc o') ∧
      o = .error (duplicateRejection F doc newId)) ∨
    s.deliveries.phases j = .returned doc o

/-- **A document that is not dispatched is answered by the owner of its key's
entry**, with the owner's document. -/
theorem Attributed.answered {s s' : TracedState} (hs : s.Attributed) {id : ℕ} {doc : TrustTask}
    {newId : String} (h : s.step F (.deliver id doc newId) = some s') :
    s'.deliveries.phases id = .running doc ∨ ∃ j doc' o, s.owner (messageKey doc) = some j ∧
      messageKey doc' = messageKey doc ∧ (s.deliveries.phases j).document? = some doc' ∧
      s'.deliveries.phases id = .returned doc o ∧ (doc' = doc → s.AnsweredAs F j doc newId o) := by
  obtain ⟨deliveries, hstep, rfl⟩ := Option.map_eq_some_iff.mp h
  have hphase : deliveries.phases id = afterClaim F doc newId (s.claimAnswer doc) := by
    cases stepped_of_step hstep with
    | delivered hid hwrite hclaims => exact Function.update_self id _ _
  have hfst := s.deliveries.claims.store.claim_fst s.deliveries.claims.now (messageKey doc)
  cases hlive : s.deliveries.claims.store.live s.deliveries.claims.now (messageKey doc) with
  | none =>
    rw [claimAnswer, hfst, hlive, answer] at hphase
    exact .inl hphase
  | some e =>
    rw [claimAnswer, hfst, hlive] at hphase
    obtain ⟨j, doc', howner, hkey, hstands⟩ := hs.entries _ _ (live_eq_some.mp hlive).1
    have hdoc := hstands.document
    cases e with
    | inFlight claimedAt =>
      refine .inr ⟨j, doc', _, howner, hkey, hdoc, hphase, ?_⟩
      rintro rfl
      exact .inl ⟨hstands, rfl⟩
    | done stored expiresAt =>
      obtain ⟨o, hreturned, rfl⟩ := hstands
      rw [answer, afterClaim, StoredOutcome.intoOutcome_fromOutcome] at hphase
      refine .inr ⟨j, doc', o, howner, hkey, hdoc, hphase, ?_⟩
      rintro rfl
      exact .inr hreturned

/-- One issuer's documents, and no id is used for two of them. -/
def NoIdReused (issuer : Option String) (s : TracedState) : DispatchAction → Prop
  | .deliver _ doc _ => doc.issuer = issuer ∧
      ∀ j doc', (s.deliveries.phases j).document? = some doc' → doc'.id = doc.id → doc' = doc
  | _ => True

/-- Every delivery that has started is one of the issuer's. -/
def OfIssuer (issuer : Option String) (s : TracedState) : Prop :=
  ∀ j doc, (s.deliveries.phases j).document? = some doc → doc.issuer = issuer

theorem ofIssuer_step {issuer : Option String} {s s' : TracedState} {a : DispatchAction}
    (hs : s.OfIssuer issuer) (hok : s.NoIdReused issuer a) (h : s.step F a = some s') :
    s'.OfIssuer issuer := by
  obtain ⟨deliveries, hstep, rfl⟩ := Option.map_eq_some_iff.mp h
  -- the delivery that moves on has a document of the issuer
  have hupdate : ∀ id phase, (∀ doc, phase.document? = some doc → doc.issuer = issuer) →
      ∀ j doc, (Function.update s.deliveries.phases id phase j).document? = some doc →
        doc.issuer = issuer := by
    intro id phase hphase j doc hdoc
    rw [Function.update_apply] at hdoc
    split at hdoc
    · exact hphase doc hdoc
    · exact hs j doc hdoc
  cases stepped_of_step hstep with
  | ticked hclaims => exact hs
  | @delivered id doc newId claims hid hwrite hclaims =>
    refine hupdate id _ fun doc' hdoc => ?_
    cases hanswer : (s.deliveries.claims.store.claim s.deliveries.claims.now (messageKey doc)).1 <;>
      rw [hanswer] at hdoc <;> rw [← Option.some.inj hdoc] <;> exact hok.1
  | @finished id doc outcome hid =>
    refine hupdate id _ fun doc' hdoc => ?_
    rw [← Option.some.inj hdoc]
    exact hs id doc (by rw [hid]; rfl)
  | @resolved id doc outcome claims hid hclaims =>
    refine hupdate id _ fun doc' hdoc => ?_
    rw [← Option.some.inj hdoc]
    exact hs id doc (by rw [hid]; rfl)

/-- The key of one issuer's document is its id. -/
theorem id_eq_of_messageKey {doc doc' : TrustTask} (hissuer : doc.issuer = doc'.issuer)
    (hkey : messageKey doc = messageKey doc') : doc.id = doc'.id := by
  rw [messageKey, messageKey, hissuer, ← String.toList_inj] at hkey
  simp only [String.toList_append] at hkey
  exact String.toList_inj.mp (List.append_cancel_left hkey)

/-- **Where no id is used for two documents, a document is answered only with its
own outcome**, or because it is itself at work: for the documents of any issuer,
in any order, in flight or completed. -/
theorem refused_for_identical {issuer : Option String} {ttl inFlightTtl : ℕ} {now : ℤ}
    {as : List DispatchAction} {t t' : TracedState}
    (hrun : Run (step F) (NoIdReused issuer) (opened ttl inFlightTtl now) as t) {id : ℕ}
    {doc : TrustTask} {newId : String} (hok : t.NoIdReused issuer (.deliver id doc newId))
    (h : t.step F (.deliver id doc newId) = some t') :
    t'.deliveries.phases id = .running doc ∨ ∃ j o, t.owner (messageKey doc) = some j ∧
      t'.deliveries.phases id = .returned doc o ∧ t.AnsweredAs F j doc newId o := by
  obtain ⟨hattributed, hissuer⟩ : t.Attributed ∧ t.OfIssuer issuer := by
    refine Run.invariant (I := fun s => s.Attributed ∧ s.OfIssuer issuer) ?_ hrun
      ⟨opened_attributed _ _ _, fun _ _ h => by simp [opened, DispatchState.opened,
        DeliveryPhase.document?] at h⟩
    rintro s a s' ⟨hattributed, hissuer⟩ hok hstep
    exact ⟨attributed_step hattributed hstep, ofIssuer_step hissuer hok hstep⟩
  rcases hattributed.answered h with hrunning | ⟨j, doc', o, howner, hkey, hdoc, hphase, hanswer⟩
  · exact .inl hrunning
  · -- the owner's document has the same id, and is the same one
    have hsame : doc'.issuer = doc.issuer := by rw [hissuer j doc' hdoc, hok.1]
    have heq : doc' = doc := hok.2 j doc' hdoc (id_eq_of_messageKey hsame hkey)
    exact .inr ⟨j, o, howner, hphase, hanswer heq⟩

/-- A delivery that is made while only one other has started, with the same
document, uses no id twice. -/
theorem noIdReused_of_single {s : TracedState} {doc : TrustTask} {id : ℕ} {newId : String}
    (h : ∀ j, (s.deliveries.phases j).document? = none ∨
      (s.deliveries.phases j).document? = some doc) :
    s.NoIdReused doc.issuer (.deliver id doc newId) := by
  refine ⟨rfl, fun j doc' hdoc _ => ?_⟩
  rcases h j with hnone | hsome
  · rw [hnone] at hdoc
    cases hdoc
  · rw [hsome] at hdoc
    exact (Option.some.inj hdoc).symm

/-- One delivery from start to end. -/
def oneDelivery : List DispatchAction :=
  [.deliver 0 ClaimState.sampleWrite "reply-1", .finish 0 (.ok ClaimState.sampleWrite), .resolve 0]

/-- A write that is sent again after it has been applied gets its own outcome. -/
theorem resent_write_answered : ∃ t t',
    Run (step sampleFramework) (NoIdReused ClaimState.sampleWrite.issuer)
      (opened defaultTtl defaultInFlightTtl 0) oneDelivery t ∧
    t.step sampleFramework (.deliver 1 ClaimState.sampleWrite "reply-2") = some t' ∧
    t'.deliveries.phases 1 = .returned ClaimState.sampleWrite (.ok ClaimState.sampleWrite) ∧
    ∃ j, t.owner (messageKey ClaimState.sampleWrite) = some j ∧
      t.AnsweredAs sampleFramework j ClaimState.sampleWrite "reply-2"
        (.ok ClaimState.sampleWrite) := by
  have hrun : ∃ t, Run (step sampleFramework) (NoIdReused ClaimState.sampleWrite.issuer)
      (opened defaultTtl defaultInFlightTtl 0) oneDelivery t ∧
      (∀ j, (t.deliveries.phases j).document? = none ∨
        (t.deliveries.phases j).document? = some ClaimState.sampleWrite) ∧
      ∃ t', t.step sampleFramework (.deliver 1 ClaimState.sampleWrite "reply-2") = some t' ∧
        t'.deliveries.phases 1
          = .returned ClaimState.sampleWrite (.ok ClaimState.sampleWrite) := by
    refine ⟨_, .cons (noIdReused_of_single fun _ => .inl rfl) rfl
      (.cons trivial rfl (.cons trivial rfl (.nil _))), fun j => ?_, _, rfl, rfl⟩
    dsimp only [DispatchState.opened]
    by_cases hj : j = 0
    · subst hj
      exact .inr rfl
    · rw [Function.update_of_ne hj, Function.update_of_ne hj, Function.update_of_ne hj]
      exact .inl rfl
  obtain ⟨t, hrun, hdoc, t', ht', hphase⟩ := hrun
  refine ⟨t, t', hrun, ht', hphase, ?_⟩
  rcases refused_for_identical hrun (noIdReused_of_single hdoc) ht' with
    hrunning | ⟨j, o, howner, hreturned, hanswer⟩
  · rw [hphase] at hrunning
    cases hrunning
  · obtain ⟨-, rfl⟩ := DeliveryPhase.returned.inj (hphase.symm.trans hreturned)
    exact ⟨j, howner, hanswer⟩

end TracedState

/-- A grant, and a revocation that the same issuer sends under the same id. -/
def sampleGrant : TrustTask :=
  { ClaimState.sampleWrite with typeUri := ⟨"git-trust/grant", "0.1", false⟩ }

def sampleRevoke : TrustTask :=
  { ClaimState.sampleWrite with typeUri := ⟨"git-trust/revoke", "0.1", false⟩ }

/-- **A revocation is answered with the outcome of a grant** of the same issuer and
id, and not dispatched.  The handler here counts what it is given. -/
theorem revoke_answered_with_grant :
    let handle : ℕ → TrustTask → TaskOutcome × ℕ := fun n doc =>
      (.ok (sampleFramework.respondWith doc "reply-1" .null), n + 1)
    let granted := dispatchIdempotent sampleFramework MemoryMessageIdStore.store handle "reply-1"
      0 0 MemoryMessageIdStore.default 0 sampleGrant
    let revoked := dispatchIdempotent sampleFramework MemoryMessageIdStore.store handle "reply-2"
      1 1 granted.2.1 granted.2.2 sampleRevoke
    sampleGrant.issuer = sampleRevoke.issuer ∧ sampleGrant ≠ sampleRevoke ∧
      isWriteSlug sampleGrant.typeUri.slug = true ∧ isWriteSlug sampleRevoke.typeUri.slug = true ∧
      granted.1 = some (.ok (sampleFramework.respondWith sampleGrant "reply-1" .null)) ∧
      revoked.1 = granted.1 ∧ granted.2.2 = 1 ∧ revoked.2.2 = 1 := by
  decide

end TrustRegistry
