import TrustRegistry.Lib.Delimited
import TrustRegistry.Server.WriteGate

/-!
# Senders and message ids

The store of message ids is shared by all senders.  The key of a document joins
the issuer it states and its id; the sender that the transport knows does not
enter, and neither does anything escape the `#` between the two.  A document
need not state its issuer, so two senders can have documents of one key.

## Main definitions

* `SenderIsolated` — two documents that do not get in each other's way.
* `Collide` — the documents that do.

## Main results

* `messageKey_eq_iff` — when two documents have one key.
* `sender_isolated_iff` — writes of two senders are kept apart exactly when they
  do not collide.
* `isolated_of_stated` — writes that state issuers free of `#` are kept apart.
* `unstated_issuers_collide` — the write of one administrator answered with the
  outcome of another's.
-/

namespace TrustRegistry

open MemoryMessageIdStore

/-- The issuer as the key has it. -/
def keyIssuer (doc : TrustTask) : String := doc.issuer.getD "anonymous"

/-- A document that is keyed under the name that stands for no issuer. -/
def Anonymous (doc : TrustTask) : Prop := doc.issuer = none ∨ doc.issuer = some "anonymous"

/-- The issuer of `a` goes on, behind a `#`, into its id, and so becomes the issuer
of `b`. -/
def TradesIssuer (a b : TrustTask) : Prop :=
  ∃ w, keyIssuer b = keyIssuer a ++ "#" ++ w ∧ a.id = w ++ "#" ++ b.id

/-- Two documents of one id that state no issuer, or whose issuers and ids divide
one text at different places. -/
def Collide (a b : TrustTask) : Prop :=
  (Anonymous a ∧ Anonymous b ∧ a.id = b.id) ∨ TradesIssuer a b ∨ TradesIssuer b a

/-! ### Keys -/

theorem anonymous_iff {doc : TrustTask} : Anonymous doc ↔ keyIssuer doc = "anonymous" := by
  unfold Anonymous keyIssuer
  cases doc.issuer <;> simp

theorem tradesIssuer_iff {a b : TrustTask} : TradesIssuer a b ↔
    Delimited.Trades '#' (keyIssuer a).toList a.id.toList (keyIssuer b).toList b.id.toList := by
  constructor
  · rintro ⟨w, hissuer, hid⟩
    exact ⟨w.toList, by simp [hissuer, String.toList_append], by simp [hid, String.toList_append]⟩
  · rintro ⟨w, hissuer, hid⟩
    refine ⟨String.ofList w, String.toList_inj.mp ?_, String.toList_inj.mp ?_⟩
    · simp [hissuer, String.toList_append]
    · simp [hid, String.toList_append]

/-- **Two documents have one key** when issuer and id agree, or one's issuer is the
other's with a part of the id. -/
theorem messageKey_eq_iff {a b : TrustTask} : messageKey a = messageKey b ↔
    (keyIssuer a = keyIssuer b ∧ a.id = b.id) ∨ TradesIssuer a b ∨ TradesIssuer b a := by
  have htext : messageKey a = messageKey b ↔
      (keyIssuer a).toList ++ '#' :: a.id.toList = (keyIssuer b).toList ++ '#' :: b.id.toList := by
    rw [← String.toList_inj]
    simp [messageKey, keyIssuer, String.toList_append, List.append_assoc]
  rw [htext, Delimited.append_cons_inj_iff, tradesIssuer_iff, tradesIssuer_iff, String.toList_inj,
    String.toList_inj]

/-! ### What other keys are answered -/

/-- The store after one operation of the protocol on a key. -/
inductive MemoryMessageIdStore.Touched (s : MemoryMessageIdStore) (now : ℤ) (key : String) :
    MemoryMessageIdStore → Prop
  | claimed : Touched s now key (s.claim now key).2
  | completed {outcome : StoredOutcome} {s' : MemoryMessageIdStore}
      (h : s.complete now key outcome = some s') : Touched s now key s'
  | released : Touched s now key (s.release key)

/-- An operation on one key does not change what another is answered, then or
later. -/
theorem MemoryMessageIdStore.Touched.claim_fst {s s' : MemoryMessageIdStore} {now now' : ℤ}
    {key k : String} (h : Touched s now key s') (hle : now ≤ now') (hk : k ≠ key) :
    (s'.claim now' k).1 = (s.claim now' k).1 := by
  refine DispatchState.claim_fst_congr ?_
  cases h with
  | claimed => exact live_claim_of_ne s hle hk
  | completed h =>
    obtain rfl := complete_eq_some h
    rw [live, live, AssocMap.get?_insert_of_ne _ _ hk]
  | released =>
    rw [live, live, get?_release, if_neg hk]
    rfl

/-- Neither document is answered with the outcome of the other or held up by its
claim: their keys differ, and whatever is done under the key of one, a claim of
the other is answered as if it had not been done. -/
structure SenderIsolated (a b : TrustTask) : Prop where
  keys : messageKey a ≠ messageKey b
  left : ∀ s s' now now', Touched s now (messageKey b) s' → now ≤ now' →
    (s'.claim now' (messageKey a)).1 = (s.claim now' (messageKey a)).1
  right : ∀ s s' now now', Touched s now (messageKey a) s' → now ≤ now' →
    (s'.claim now' (messageKey b)).1 = (s.claim now' (messageKey b)).1

theorem senderIsolated_iff {a b : TrustTask} :
    SenderIsolated a b ↔ messageKey a ≠ messageKey b := by
  constructor
  · exact SenderIsolated.keys
  · intro h
    exact ⟨h, fun _ _ _ _ ht hle => ht.claim_fst hle h,
      fun _ _ _ _ ht hle => ht.claim_fst hle h.symm⟩

/-! ### Two senders -/

/-- What the framework promises of an issuer that is stated: it is the sender. -/
def Framework.StatedIssuerIsSender (F : Framework) : Prop :=
  ∀ transport localVid sender doc, F.resolveParties transport localVid (some sender) doc = .ok () →
    ∀ issuer, doc.issuer = some issuer → issuer = sender

variable {σ : Type*}

/-- A write that the checks of a mediator binding let pass. -/
structure AcceptedWrite (F : Framework) (env : Env σ) (transport : Transport) (sender : String)
    (doc : TrustTask) : Prop where
  write : isWriteSlug doc.typeUri.slug = true
  admitted : admission F env transport sender doc = .ok ()

variable {F : Framework} {env env' : Env σ} {transport transport' : Transport}
  {sender sender' : String} {doc doc' : TrustTask}

theorem AcceptedWrite.issuer (hF : F.StatedIssuerIsSender)
    (h : AcceptedWrite F env transport sender doc) {issuer : String}
    (hissuer : doc.issuer = some issuer) : issuer = sender :=
  hF _ _ _ _ (admission_eq_ok_iff.mp h.admitted).1 issuer hissuer

/-- The issuers of two senders' writes agree as the keys have them when neither is
stated. -/
theorem keyIssuer_eq_iff (hF : F.StatedIssuerIsSender)
    (h : AcceptedWrite F env transport sender doc)
    (h' : AcceptedWrite F env' transport' sender' doc') (hne : sender ≠ sender') :
    keyIssuer doc = keyIssuer doc' ↔ Anonymous doc ∧ Anonymous doc' := by
  rw [anonymous_iff, anonymous_iff]
  constructor
  · intro heq
    cases hi : doc.issuer with
    | none =>
      have hkey : keyIssuer doc = "anonymous" := by rw [keyIssuer, hi, Option.getD_none]
      exact ⟨hkey, heq ▸ hkey⟩
    | some issuer =>
      cases hi' : doc'.issuer with
      | none =>
        have hkey' : keyIssuer doc' = "anonymous" := by rw [keyIssuer, hi', Option.getD_none]
        exact ⟨heq.trans hkey', hkey'⟩
      | some issuer' =>
        -- both state their issuer, and so their sender
        rw [keyIssuer, keyIssuer, hi, hi', Option.getD_some, Option.getD_some, h.issuer hF hi,
          h'.issuer hF hi'] at heq
        exact absurd heq hne
  · rintro ⟨hkey, hkey'⟩
    rw [hkey, hkey']

/-- **Writes of two senders are kept apart exactly when they do not collide**: at
least one of them states its issuer, or their ids differ, and no `#` can be traded
between the issuer and the id. -/
theorem sender_isolated_iff (hF : F.StatedIssuerIsSender)
    (h : AcceptedWrite F env transport sender doc)
    (h' : AcceptedWrite F env' transport' sender' doc') (hne : sender ≠ sender') :
    SenderIsolated doc doc' ↔ ¬ Collide doc doc' := by
  rw [senderIsolated_iff, Ne, messageKey_eq_iff, keyIssuer_eq_iff hF h h' hne, Collide, and_assoc]

/-- The server of the runs below has two administrators. -/
def twoAdmins : Env LocalStorage :=
  { sampleEnv with adminDids := ["did:web:admin", "did:web:second"] }

theorem createFramework_statedIssuer : createFramework.StatedIssuerIsSender := by
  intro transport localVid sender doc h issuer hissuer
  by_contra hne
  simp [createFramework, Framework.sample, hissuer, Ne.symm hne] at h

/-- The creation by the first administrator, who does not state an issuer. -/
def unstatedCreate : TrustTask := { sampleCreate with issuer := none }

/-- A creation by the second administrator, of another record under the same id. -/
def secondCreate (issuer : Option String) : TrustTask :=
  { sampleCreate with
    issuer
    payload := .obj [("record", { newRecord with resource := ⟨"pid"⟩ }.toJson)] }

theorem unstatedCreate_accepted :
    AcceptedWrite createFramework twoAdmins .tsp "did:web:admin" unstatedCreate :=
  ⟨by decide, by decide⟩

theorem secondCreate_accepted {issuer : Option String}
    (hissuer : issuer ∈ [none, some "did:web:second"]) :
    AcceptedWrite createFramework twoAdmins .tsp "did:web:second" (secondCreate issuer) := by
  rcases List.mem_pair.mp hissuer with rfl | rfl <;> exact ⟨by decide, by decide⟩

/-- The two are kept apart when the second administrator is stated, though their ids are
one. -/
theorem stated_second_isolated :
    unstatedCreate.id = (secondCreate (some "did:web:second")).id ∧
      SenderIsolated unstatedCreate (secondCreate (some "did:web:second")) := by
  have hapart : ¬ Collide unstatedCreate (secondCreate (some "did:web:second")) := by
    rintro (⟨-, hanonymous, -⟩ | ⟨w, hissuer, -⟩ | ⟨w, hissuer, -⟩)
    · exact absurd (anonymous_iff.mp hanonymous) (by decide)
    · -- `anonymous#…` is not a DID
      have hletter := congrArg (fun s => s.toList.head?) hissuer
      simp [keyIssuer, secondCreate, unstatedCreate, String.toList_append] at hletter
    · have hletter := congrArg (fun s => s.toList.head?) hissuer
      simp [keyIssuer, secondCreate, unstatedCreate, String.toList_append] at hletter
  exact ⟨rfl, (sender_isolated_iff createFramework_statedIssuer unstatedCreate_accepted
    (secondCreate_accepted (by decide)) (by decide)).mpr hapart⟩

/-- **Two administrators who do not state their issuers share an id space**: the
creation of the second is answered with the outcome of the first's and not
made. -/
theorem unstated_issuers_collide :
    AcceptedWrite createFramework twoAdmins .tsp "did:web:admin" unstatedCreate ∧
    AcceptedWrite createFramework twoAdmins .tsp "did:web:second" (secondCreate none) ∧
    "did:web:admin" ≠ "did:web:second" ∧ ¬ SenderIsolated unstatedCreate (secondCreate none) ∧
    let first := handleInbound createFramework twoAdmins "did:web:admin" unstatedCreate
      (Server.started .new .empty)
    let second := handleInbound createFramework twoAdmins "did:web:second" (secondCreate none)
      first.2
    second.1 = first.1 ∧ second.2.records = first.2.records ∧
      second.2.records.findByQuery { newRecord with resource := ⟨"pid"⟩ }.query = .ok none := by
  refine ⟨unstatedCreate_accepted, secondCreate_accepted (by decide), by decide, ?_, ?_⟩
  · exact fun h => h.keys (by decide)
  · exact ⟨by decide, by decide, by decide⟩

/-- Writes that state issuers free of `#` are kept apart. -/
theorem isolated_of_stated (hF : F.StatedIssuerIsSender)
    (h : AcceptedWrite F env transport sender doc)
    (h' : AcceptedWrite F env' transport' sender' doc') (hne : sender ≠ sender')
    (hstated : doc.issuer.isSome = true) (hstated' : doc'.issuer.isSome = true)
    (hfree : '#' ∉ sender.toList) (hfree' : '#' ∉ sender'.toList) : SenderIsolated doc doc' := by
  obtain ⟨issuer, hi⟩ := Option.isSome_iff_exists.mp hstated
  obtain ⟨issuer', hi'⟩ := Option.isSome_iff_exists.mp hstated'
  have hkey : keyIssuer doc = sender := by rw [keyIssuer, hi, Option.getD_some, h.issuer hF hi]
  have hkey' : keyIssuer doc' = sender' := by
    rw [keyIssuer, hi', Option.getD_some, h'.issuer hF hi']
  rw [senderIsolated_iff, Ne, messageKey_eq_iff, hkey, hkey']
  rintro (⟨heq, _⟩ | ⟨w, heq, _⟩ | ⟨w, heq, _⟩)
  · exact hne heq
  · -- the one issuer would hold the `#` behind the other
    rw [hkey, hkey'] at heq
    exact hfree' (by simp [heq, String.toList_append])
  · rw [hkey, hkey'] at heq
    exact hfree (by simp [heq, String.toList_append])

end TrustRegistry
