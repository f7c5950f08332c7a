import Mathlib.Data.List.Chain
import TrustRegistry.Capabilities.GitTrust
import TrustRegistry.Lib.Transition
import TrustRegistry.Storage.MapRefinement

/-!
# Grants over their life

A grant is a record that is authorized; revoking keeps the record and takes the
authorization back.  A grant is refused when there is a record at all, and a
revocation is made when there is one: whether a grant is active is judged by the
existence of its record, and the two part once it has been revoked.

## Main definitions

* `authorizedIn` — the answer to the authorization query of a tuple.
* `GrantLaw`, `RevokeLaw` — granting and revoking go by that answer.
* `NotRetired` — the tuple has no record that is not authorized.
* `lifecycleStep` — grants and revocations of one pair, with those that succeed.
* `RevokesActive` — no revocation is asked for while the record is retired.

## Main results

* `handleGrant_of_none`, `handleGrant_of_some`, `handleRevoke_of_none`,
  `handleRevoke_of_some` — the handlers over a table of records.
* `lifecycle_iff` — the laws hold exactly where no record is retired, and while
  they do grants and revocations alternate.
* `revoked_not_granted_again` — a member that is revoked stays so.
-/

namespace TrustRegistry

open KeyedTable Transition

/-- The answer to the authorization query of a tuple; one that has no record gets
no. -/
def authorizedIn {σ : Type*} (R : TrustRecordAdminRepository σ) (s : σ) (q : TrustRecordQuery) :
    Bool :=
  match R.findByQuery s q with
  | .ok record => (record.map TrustRecord.isAuthorized).getD false
  | .error _ => false

/-- It is what the authorization task answers. -/
theorem handleAuthorization_granted {σ : Type*} {F : Framework} {R : TrustRecordAdminRepository σ}
    {newId : String} {now : ℤ} {doc : TrustTask} {p : QueryPayload} {s : σ}
    {record : Option TrustRecord} (h : R.findByQuery s (queryOf p) = .ok record) :
    ∃ v : Verdict, v.granted = authorizedIn R s (queryOf p) ∧
      handleAuthorization F R newId now doc p s
        = respond F newId doc (F.specs.authorizationResponse v) := by
  refine ⟨_, ?_, by rw [handleAuthorization, handleQuery, h]⟩
  rw [authorizedIn, h]

namespace GitTrust

section

variable {σ : Type*} (F : Framework) (R : TrustRecordAdminRepository σ) (newId : String)

/-- The rejection of a grant that is there already. -/
def alreadyGranted (doc : TrustTask) : TaskOutcome :=
  reject F newId doc (.taskFailed
    "already_granted: an active grant exists for this subject and resource" none)

/-- The rejection of a revocation of nothing. -/
def notGranted (doc : TrustTask) : TaskOutcome :=
  reject F newId doc (.taskFailed
    "not_granted: no active grant exists for this subject and resource" none)

/-- A grant is refused as one that is there exactly when the query says yes, and
otherwise makes it say yes. -/
structure GrantLaw (authority : String) (doc : TrustTask) (p : GitTrustPayload) (s : σ) : Prop where
  already : (handleGrant F R newId (some authority) doc p s).1 = alreadyGranted F newId doc ↔
    authorizedIn R s (tuple authority p) = true
  granted : authorizedIn R s (tuple authority p) = false →
    (handleGrant F R newId (some authority) doc p s).1 = changed F newId doc p "granted" ∧
      authorizedIn R (handleGrant F R newId (some authority) doc p s).2 (tuple authority p) = true

/-- A revocation is refused as one of nothing exactly when the query says no, and
otherwise makes it say no. -/
structure RevokeLaw (authority : String) (doc : TrustTask) (p : GitTrustPayload) (s : σ) :
    Prop where
  missing : (handleRevoke F R newId (some authority) doc p s).1 = notGranted F newId doc ↔
    authorizedIn R s (tuple authority p) = false
  revoked : authorizedIn R s (tuple authority p) = true →
    (handleRevoke F R newId (some authority) doc p s).1 = changed F newId doc p "revoked" ∧
      authorizedIn R (handleRevoke F R newId (some authority) doc p s).2 (tuple authority p) = false

/-- The tuple has no record, or one that is authorized. -/
def NotRetired (s : σ) (q : TrustRecordQuery) : Prop :=
  ∀ r, R.findByQuery s q = .ok (some r) → r.isAuthorized = true

end

/-! ### The handlers over a table -/

section

variable {σ K : Type*} [DecidableEq K] {F : Framework} {R : TrustRecordAdminRepository σ}
  {newId : String} {key : TrustRecordKey → K} {lookup : σ → K → Option TrustRecord}
  {Inv : σ → Prop} {authority : String} {doc : TrustTask} {p : GitTrustPayload} {s : σ}

theorem authorizedIn_eq (hR : MapBacked R key lookup Inv) (hs : Inv s) (q : TrustRecordQuery) :
    authorizedIn R s q
      = ((lookup s (key (.fromQuery q))).map TrustRecord.isAuthorized).getD false := by
  rw [authorizedIn, hR.find s q hs]

/-- A grant where there is no record stores it. -/
theorem handleGrant_of_none (hR : MapBacked R key lookup Inv) (hs : Inv s)
    (h : lookup s (key (.fromQuery (tuple authority p))) = none) :
    handleGrant F R newId (some authority) doc p s
      = (changed F newId doc p "granted", (R.create s (grantRecord authority p)).2) := by
  have hcreate : (R.create s (grantRecord authority p)).1 = .ok () :=
    (hR.answers hs).create _ |>.mpr h
  simp only [handleGrant, requireAuthority]
  rcases hcall : R.create s (grantRecord authority p) with ⟨e | u, s'⟩
  · rw [hcall] at hcreate
    cases hcreate
  · rfl

/-- A grant where there is a record is refused. -/
theorem handleGrant_of_some (hR : MapBacked R key lookup Inv) (hs : Inv s) {r : TrustRecord}
    (h : lookup s (key (.fromQuery (tuple authority p))) = some r) :
    handleGrant F R newId (some authority) doc p s
      = (alreadyGranted F newId doc, (R.create s (grantRecord authority p)).2) := by
  obtain ⟨e, hcreate⟩ : ∃ e, (R.create s (grantRecord authority p)).1
      = .error (.recordAlreadyExists e) :=
    ((hR.answers hs).create_exists _).mpr fun hnone => by
      rw [show lookup s (key (.fromQuery (tuple authority p))) = none from hnone] at h
      cases h
  simp only [handleGrant, requireAuthority]
  rcases hcall : R.create s (grantRecord authority p) with ⟨e' | u, s'⟩
  · rw [hcall] at hcreate
    obtain rfl : e' = .recordAlreadyExists e := Except.error.inj hcreate
    rfl
  · rw [hcall] at hcreate
    cases hcreate

/-- A revocation where there is no record is refused. -/
theorem handleRevoke_of_none (hR : MapBacked R key lookup Inv) (hs : Inv s)
    (h : lookup s (key (.fromQuery (tuple authority p))) = none) :
    handleRevoke F R newId (some authority) doc p s = (notGranted F newId doc, s) := by
  obtain ⟨e, hread⟩ := hR.read_missing s (tuple authority p) hs h
  simp only [handleRevoke, requireAuthority, hread]
  rfl

/-- A revocation where there is a record replaces it, authorized or not. -/
theorem handleRevoke_of_some (hR : MapBacked R key lookup Inv) (hs : Inv s) {r : TrustRecord}
    (h : lookup s (key (.fromQuery (tuple authority p))) = some r) :
    handleRevoke F R newId (some authority) doc p s
      = (changed F newId doc p "revoked", (R.update s (revokedRecord authority p r)).2) := by
  have hread := hR.read_ok s (tuple authority p) r hs h
  have hupdate : (R.update s (revokedRecord authority p r)).1 = .ok () :=
    ((hR.answers hs).update _).mpr fun hnone => by
      rw [show lookup s (key (.fromQuery (tuple authority p))) = none from hnone] at h
      cases h
  simp only [handleRevoke, requireAuthority, hread]
  rcases hcall : R.update s (revokedRecord authority p r) with ⟨e | u, s'⟩
  · rw [hcall] at hupdate
    cases hupdate
  · rfl

/-- What the table has at the key of a change that fits. -/
theorem lookup_call_key (hR : MapBacked R key lookup Inv) (hs : Inv s) {c : RecordChange}
    (hfits : (c.change key).fits (lookup s) = true) :
    lookup (R.call s c).2 (c.change key).key = (c.change key).result := by
  rw [hR.lookup_call s c hs]
  exact Change.apply_key hfits

theorem authorizedIn_granted (hR : MapBacked R key lookup Inv) (hs : Inv s)
    (h : lookup s (key (.fromQuery (tuple authority p))) = none) :
    authorizedIn R (R.create s (grantRecord authority p)).2 (tuple authority p) = true := by
  have hfits : ((RecordChange.create (grantRecord authority p)).change key).fits (lookup s)
      = true := Option.isNone_iff_eq_none.mpr h
  have hrecord : lookup (R.create s (grantRecord authority p)).2
      (key (.fromQuery (tuple authority p))) = some (grantRecord authority p) :=
    lookup_call_key hR hs hfits
  have hinv : Inv (R.create s (grantRecord authority p)).2 := hR.inv s (.create _) hs
  rw [authorizedIn_eq hR hinv, hrecord]
  rfl

theorem authorizedIn_revoked (hR : MapBacked R key lookup Inv) (hs : Inv s) {r : TrustRecord}
    (h : lookup s (key (.fromQuery (tuple authority p))) = some r) :
    authorizedIn R (R.update s (revokedRecord authority p r)).2 (tuple authority p) = false := by
  have hfits : ((RecordChange.update (revokedRecord authority p r)).change key).fits (lookup s)
      = true := Option.isSome_iff_exists.mpr ⟨r, h⟩
  have hrecord : lookup (R.update s (revokedRecord authority p r)).2
      (key (.fromQuery (tuple authority p))) = some (revokedRecord authority p r) :=
    lookup_call_key hR hs hfits
  have hinv : Inv (R.update s (revokedRecord authority p r)).2 := hR.inv s (.update _) hs
  rw [authorizedIn_eq hR hinv, hrecord]
  rfl

/-- A refused grant leaves the answers as they are. -/
theorem authorizedIn_refused (hR : MapBacked R key lookup Inv) (hs : Inv s) {r : TrustRecord}
    (h : lookup s (key (.fromQuery (tuple authority p))) = some r) (q : TrustRecordQuery) :
    authorizedIn R (R.create s (grantRecord authority p)).2 q = authorizedIn R s q := by
  have hfits : ((RecordChange.create (grantRecord authority p)).change key).fits (lookup s)
      = false := Option.isNone_eq_false_iff.mpr (Option.isSome_iff_exists.mpr ⟨r, h⟩)
  have hlookup : lookup (R.create s (grantRecord authority p)).2 = lookup s :=
    (hR.lookup_call s (.create _) hs).trans (Change.apply_of_not_fits hfits)
  have hinv : Inv (R.create s (grantRecord authority p)).2 := hR.inv s (.create _) hs
  rw [authorizedIn_eq hR hinv, authorizedIn_eq hR hs, hlookup]

/-! ### The laws -/

/-- Both laws hold where there is no record, and where there is one that is
authorized. -/
theorem laws_of_notRetired (hR : MapBacked R key lookup Inv) (hs : Inv s)
    (h : NotRetired R s (tuple authority p)) :
    GrantLaw F R newId authority doc p s ∧ RevokeLaw F R newId authority doc p s := by
  cases hr : lookup s (key (.fromQuery (tuple authority p))) with
  | none =>
    have hno : authorizedIn R s (tuple authority p) = false := by
      rw [authorizedIn_eq hR hs, hr]
      rfl
    have hgrant : handleGrant F R newId (some authority) doc p s = _ := handleGrant_of_none hR hs hr
    have hrevoke : handleRevoke F R newId (some authority) doc p s = _ :=
      handleRevoke_of_none hR hs hr
    refine ⟨⟨?_, fun _ => ?_⟩, ⟨?_, fun hyes => ?_⟩⟩
    · rw [hgrant, hno]
      exact iff_of_false (changed_ne_error F newId) Bool.false_ne_true
    · rw [hgrant]
      exact ⟨rfl, authorizedIn_granted hR hs hr⟩
    · rw [hrevoke, hno]
      exact iff_of_true rfl rfl
    · rw [hno] at hyes
      cases hyes
  | some r =>
    have hactive : r.isAuthorized = true := h r (by rw [hR.find s _ hs, hr])
    have hyes : authorizedIn R s (tuple authority p) = true := by
      rw [authorizedIn_eq hR hs, hr]
      exact hactive
    have hgrant : handleGrant F R newId (some authority) doc p s = _ := handleGrant_of_some hR hs hr
    have hrevoke : handleRevoke F R newId (some authority) doc p s = _ :=
      handleRevoke_of_some hR hs hr
    refine ⟨⟨?_, fun hno => ?_⟩, ⟨?_, fun _ => ?_⟩⟩
    · rw [hgrant, hyes]
      exact iff_of_true rfl rfl
    · rw [hyes] at hno
      cases hno
    · rw [hrevoke, hyes]
      exact iff_of_false (changed_ne_error F newId) (Ne.symm Bool.false_ne_true)
    · rw [hrevoke]
      exact ⟨rfl, authorizedIn_revoked hR hs hr⟩

/-- A record that is retired is enough for a grant to break its law. -/
theorem notRetired_of_grantLaw (hR : MapBacked R key lookup Inv) (hs : Inv s)
    (h : GrantLaw F R newId authority doc p s) : NotRetired R s (tuple authority p) := by
  intro r hr
  rw [hR.find s _ hs] at hr
  have hsome := Except.ok.inj hr
  have hgrant : handleGrant F R newId (some authority) doc p s = _ := handleGrant_of_some hR hs hsome
  -- the grant is refused, so the law has the query say yes
  have hyes : authorizedIn R s (tuple authority p) = true := h.already.mp (by rw [hgrant])
  rw [authorizedIn_eq hR hs, hsome] at hyes
  exact hyes

/-! ### Runs -/

end

/-- The two changes of a grant. -/
inductive GitTrustTask
  | grant
  | revoke
  deriving DecidableEq

/-- A request to make one of them. -/
structure LifecycleCall where
  task : GitTrustTask
  doc : TrustTask
  newId : String

section

variable {σ : Type*} (F : Framework) (R : TrustRecordAdminRepository σ)

/-- Make the change for one pair, and note it if it succeeds. -/
def lifecycleStep (authority : String) (p : GitTrustPayload) (s : σ × List GitTrustTask)
    (a : LifecycleCall) : Option (σ × List GitTrustTask) :=
  let r := match a.task with
    | .grant => handleGrant F R a.newId (some authority) a.doc p s.1
    | .revoke => handleRevoke F R a.newId (some authority) a.doc p s.1
  some (r.2, match r.1 with
    | .ok _ => s.2 ++ [a.task]
    | .error _ => s.2)

variable {F R} {K : Type*} [DecidableEq K] {key : TrustRecordKey → K}
  {lookup : σ → K → Option TrustRecord} {Inv : σ → Prop} {authority : String}
  {p : GitTrustPayload}

/-- A revocation is only asked for where the pair has no record, or one that is
authorized; a grant may be asked for at any time. -/
def RevokesActive (R : TrustRecordAdminRepository σ) (q : TrustRecordQuery)
    (s : σ × List GitTrustTask) (a : LifecycleCall) : Prop :=
  a.task = .revoke → NotRetired R s.1 q

/-- What succeeded alternates, and the query says what succeeded last. -/
structure Alternating (R : TrustRecordAdminRepository σ) (Inv : σ → Prop) (q : TrustRecordQuery)
    (s : σ × List GitTrustTask) : Prop where
  inv : Inv s.1
  alternates : s.2.IsChain (· ≠ ·)
  last : ∀ task, s.2.getLast? = some task → (authorizedIn R s.1 q = true ↔ task = .grant)

/-- One more success goes on with the alternation, when the query said the
opposite before. -/
theorem Alternating.append {q : TrustRecordQuery} {s : σ × List GitTrustTask}
    (h : Alternating R Inv q s) {t : σ} {task : GitTrustTask} (ht : Inv t)
    (hbefore : authorizedIn R s.1 q = true ↔ task ≠ .grant)
    (hafter : authorizedIn R t q = true ↔ task = .grant) :
    Alternating R Inv q (t, s.2 ++ [task]) where
  inv := ht
  alternates := by
    refine List.isChain_append.mpr ⟨h.alternates, List.isChain_singleton task, ?_⟩
    intro last hlast task' htask'
    obtain rfl : task = task' := by simpa using htask'
    have hquery := h.last last hlast
    rintro rfl
    rw [hbefore] at hquery
    by_cases hgrant : last = .grant <;> simp [hgrant] at hquery
  last task' htask' := by
    obtain rfl : task = task' := by simpa using htask'
    exact hafter

theorem alternating_step (hR : MapBacked R key lookup Inv) {s t : σ × List GitTrustTask}
    {a : LifecycleCall} (hs : Alternating R Inv (tuple authority p) s)
    (hactive : RevokesActive R (tuple authority p) s a)
    (hstep : lifecycleStep F R authority p s a = some t) :
    Alternating R Inv (tuple authority p) t := by
  obtain ⟨task, doc, newId⟩ := a
  have hno : lookup s.1 (key (.fromQuery (tuple authority p))) = none →
      authorizedIn R s.1 (tuple authority p) = false := by
    intro hr
    rw [authorizedIn_eq hR hs.inv, hr]
    rfl
  obtain rfl := Option.some.inj hstep
  cases task with
  | grant =>
    cases hr : lookup s.1 (key (.fromQuery (tuple authority p))) with
    | none =>
      simp only [handleGrant_of_none hR hs.inv hr]
      exact hs.append (hR.inv s.1 (.create _) hs.inv) (by simp [hno hr])
        (by simp [authorizedIn_granted hR hs.inv hr])
    | some r =>
      simp only [handleGrant_of_some hR hs.inv hr]
      refine ⟨hR.inv s.1 (.create _) hs.inv, hs.alternates, fun task htask => ?_⟩
      rw [authorizedIn_refused hR hs.inv hr]
      exact hs.last task htask
  | revoke =>
    cases hr : lookup s.1 (key (.fromQuery (tuple authority p))) with
    | none =>
      simp only [handleRevoke_of_none hR hs.inv hr]
      exact hs
    | some r =>
      have hyes : authorizedIn R s.1 (tuple authority p) = true := by
        rw [authorizedIn_eq hR hs.inv, hr]
        exact hactive rfl r (by rw [hR.find s.1 _ hs.inv, hr])
      simp only [handleRevoke_of_some hR hs.inv hr]
      exact hs.append (hR.inv s.1 (.update _) hs.inv) (by simp [hyes])
        (by simp [authorizedIn_revoked hR hs.inv hr])

/-- **Grants and revocations go by the authorization query exactly while the pair
has no record that is not authorized**, over any backend that keeps a table and in
any of its states; and along any sequence of them whose revocations all meet this
those that succeed alternate. -/
theorem lifecycle_iff (hR : MapBacked R key lookup Inv) {s : σ} (hs : Inv s) (newId : String)
    (doc : TrustTask) :
    (GrantLaw F R newId authority doc p s ∧ RevokeLaw F R newId authority doc p s ↔
      NotRetired R s (tuple authority p)) ∧
    ∀ as t, Run (lifecycleStep F R authority p) (RevokesActive R (tuple authority p)) (s, []) as t →
      t.2.IsChain (· ≠ ·) := by
  refine ⟨⟨fun h => notRetired_of_grantLaw hR hs h.1, laws_of_notRetired hR hs⟩, ?_⟩
  intro as t hrun
  have hstart : Alternating R Inv (tuple authority p) (s, []) :=
    ⟨hs, List.IsChain.nil, fun task htask => by cases htask⟩
  have hend : Alternating R Inv (tuple authority p) t :=
    hrun.invariant (I := fun s => Alternating R Inv (tuple authority p) s)
      (fun _ _ _ hs hactive hstep => alternating_step hR hs hactive hstep) hstart
  exact hend.alternates

end

/-- A member of a community, with a repository to sign for. -/
def member : GitTrustPayload := ⟨"did:web:member", "org/repo"⟩

/-- A request about the member. -/
def memberTask : TrustTask := { id := "task", typeUri := .gitTrustGrant, payload := .null }

/-- What is asked about the member: a grant, a revocation, and a grant once more. -/
def memberCalls : List LifecycleCall :=
  [⟨.grant, memberTask, "1"⟩, ⟨.revoke, memberTask, "2"⟩, ⟨.grant, memberTask, "3"⟩]

/-- The laws hold over an empty registry and once the member is granted; the grant and its
revocation succeed in turn, and the second grant is refused. -/
theorem new_member_lawful :
    let F := Framework.sample .null [] memberTask
    let R := LocalStorage.repository
    let community := "did:web:community"
    let granted := handleGrant F R "1" (some community) memberTask member LocalStorage.new
    let revoked := handleRevoke F R "2" (some community) memberTask member granted.2
    let again := handleGrant F R "3" (some community) memberTask member revoked.2
    authorizedIn R granted.2 (tuple community member) = true ∧
      (∀ s ∈ [LocalStorage.new, granted.2], GrantLaw F R "reply" community memberTask member s ∧
        RevokeLaw F R "reply" community memberTask member s) ∧
      Run (lifecycleStep F R community member) (RevokesActive R (tuple community member))
        (LocalStorage.new, []) memberCalls (again.2, [.grant, .revoke]) ∧
      authorizedIn R again.2 (tuple community member) = false ∧
      [GitTrustTask.grant, .revoke].IsChain (· ≠ ·) := by
  intro F R community granted revoked again
  have hnone : NotRetired R LocalStorage.new (tuple community member) := fun _ hr => by cases hr
  have hactive : NotRetired R granted.2 (tuple community member) := by
    intro r hr
    obtain rfl := Option.some.inj (Except.ok.inj hr)
    rfl
  have hinv : RecordTable.Keyed granted.2.records.map :=
    LocalStorage.mapBacked.inv LocalStorage.new (.create (grantRecord community member))
      RecordTable.keyed_empty
  refine ⟨by decide, fun s hs => ?_, ?_⟩
  · rcases List.mem_pair.mp hs with rfl | rfl
    · exact (lifecycle_iff LocalStorage.mapBacked RecordTable.keyed_empty "reply" memberTask).1.mpr
        hnone
    · exact (lifecycle_iff LocalStorage.mapBacked hinv "reply" memberTask).1.mpr hactive
  · -- the second grant is refused, and leaves the answers as they are
    have hrun : Run (lifecycleStep F R community member)
        (RevokesActive R (tuple community member)) (LocalStorage.new, []) memberCalls
        (again.2, [.grant, .revoke]) :=
      .cons nofun rfl (.cons (fun _ => hactive) rfl (.cons nofun rfl (.nil _)))
    exact ⟨hrun, by decide, (lifecycle_iff LocalStorage.mapBacked RecordTable.keyed_empty "reply"
      memberTask).2 _ _ hrun⟩

/-- **A member that is revoked is not granted again**, and is revoked again
instead: the query says no, a grant is refused as one that is active, and a
revocation succeeds. -/
theorem revoked_not_granted_again :
    let F := Framework.sample .null [] memberTask
    let R := LocalStorage.repository
    let community := "did:web:community"
    let granted := handleGrant F R "1" (some community) memberTask member LocalStorage.new
    let revoked := handleRevoke F R "2" (some community) memberTask member granted.2
    granted.1 = changed F "1" memberTask member "granted" ∧
      revoked.1 = changed F "2" memberTask member "revoked" ∧
      authorizedIn R revoked.2 (tuple community member) = false ∧
      (handleGrant F R "3" (some community) memberTask member revoked.2).1
        = alreadyGranted F "3" memberTask ∧
      (handleRevoke F R "3" (some community) memberTask member revoked.2).1
        = changed F "3" memberTask member "revoked" ∧
      ¬ GrantLaw F R "3" community memberTask member revoked.2 ∧
      ¬ RevokeLaw F R "3" community memberTask member revoked.2 := by
  refine ⟨by decide, by decide, by decide, by decide, by decide, fun h => ?_, fun h => ?_⟩
  · have hquery := h.already.mp (by decide)
    revert hquery
    decide
  · have hmissing := h.missing.mpr (by decide)
    revert hmissing
    decide

end GitTrust

end TrustRegistry
