import TrustRegistry.Capabilities.Convergence
import TrustRegistry.Capabilities.StateStore

/-!
# The authority that commit signing acts under

The configuration of commit signing is read twice: when it is enabled, to see
whether it is accepted, and when the handlers are registered, to see which
authority they act under.  In between it is kept as a document, saved, and loaded
by a server that starts again.

Here saving does not fail, and neither does loading.

## Main definitions

* `GitTrust.hostOver` — a set over commit signing, with any base registrations.
* `Deployment`, `Deployment.step` — calls and restarts, with the configuration of
  the latest enabling that succeeded.
* `GitTrust.UnderAccepted` — what is registered acts under that configuration.

## Main results

* `GitTrust.check_iff_authorityOf` — the two readings agree.
* `GitTrust.authorityOf_of_alike` — they agree after a restart.
* `GitTrust.runs_under_accepted` — along every run the handlers act under the
  authority that was accepted last.
-/

namespace TrustRegistry

open Transition

namespace GitTrust

/-! ### The two readings -/

/-- A configuration names an authority: it has a member `authority` that is a text
and starts like a DID. -/
def Names (config : Json) (did : String) : Prop :=
  config.get "authority" = some (.str did) ∧ isDid did = true

theorem validateConfig_ok_iff {config : Json} :
    validateConfig config = .ok () ↔ ∃ did, Names config did := by
  unfold validateConfig Names
  constructor
  · intro h
    split at h
    · next did hdid =>
      split at h
      · next hprefix => exact ⟨did, hdid, hprefix⟩
      · cases h
    · cases h
    · cases h
  · rintro ⟨did, hdid, hprefix⟩
    simp only [hdid, hprefix, if_true]

theorem authorityOf_eq_some_iff {state : CapabilityState} {did : String} :
    authorityOf state = some did ↔ ∃ config, state.config = some config ∧ Names config did := by
  unfold authorityOf Names
  rw [Option.filter_eq_some_iff]
  constructor
  · rintro ⟨h, hprefix⟩
    obtain ⟨j, hj, hstr⟩ := Option.bind_eq_some_iff.mp h
    obtain ⟨config, hconfig, hget⟩ := Option.bind_eq_some_iff.mp hj
    cases j with
    | str s =>
      obtain rfl : s = did := Option.some.inj hstr
      exact ⟨config, hconfig, hget, hprefix⟩
    | _ => cases hstr
  · rintro ⟨config, hconfig, hget, hprefix⟩
    exact ⟨by rw [hconfig, Option.bind_some, hget]; rfl, hprefix⟩

/-- **The two readings agree**: a configuration, or the lack of one, is accepted
exactly when the state that keeps it has an authority. -/
theorem check_iff_authorityOf {state : CapabilityState} :
    CapabilitySet.checkConfig definition state.config = .ok () ↔
      ∃ did, authorityOf state = some did := by
  have hcheck : CapabilitySet.checkConfig definition state.config = .ok () ↔
      validateConfig (state.config.getD (.obj [])) = .ok () := by
    show (validateConfig (state.config.getD (.obj []))).mapError _ = .ok () ↔ _
    cases validateConfig (state.config.getD (.obj [])) <;> simp [Except.mapError]
  rw [hcheck, validateConfig_ok_iff]
  simp only [authorityOf_eq_some_iff]
  cases hconfig : state.config with
  | none => simp [Names, Json.get]
  | some config => simp

/-- **They agree after a restart**: numbers may be rounded, and `null` is no
configuration, but the authority is the same. -/
theorem authorityOf_of_alike {s s' : CapabilityState} (h : s.Alike s') :
    authorityOf s' = authorityOf s := by
  have hgetD : ∀ config : Option Json,
      config.bind (Json.get "authority") = (config.getD .null).get "authority" := by
    intro config
    cases config <;> rfl
  rw [authorityOf, authorityOf, hgetD, hgetD, Json.asStr_get_of_shape_eq h.config]

/-- A set over the definition of commit signing, with any base registrations. -/
def hostOver (base baseQuery : Dispatcher TaskHandler) : CapabilityHost TaskHandler :=
  { serveHost with base, baseQuery }

theorem definition_hostOver {base baseQuery : Dispatcher TaskHandler} {k : String}
    {d : CapabilityDefinition TaskHandler} (h : (hostOver base baseQuery).definition k = some d) :
    d = definition ∧ k = slug := by
  have hmem : d ∈ [definition] := List.mem_of_find?_eq_some h
  obtain rfl := List.mem_singleton.mp hmem
  have hname := List.find?_some h
  exact ⟨rfl, (of_decide_eq_true hname).symm⟩

end GitTrust

/-! ### Calls and restarts -/

/-- A server and its store, with the configuration of the latest enabling of commit
signing that succeeded. -/
structure Deployment where
  set : CapabilitySet TaskHandler
  saved : Option CapabilityStates
  accepted : Option Json

/-- What can be asked for, directly or over the wire, and a restart. -/
inductive DeploymentAction
  | call (now : ℤ) (c : CapabilityCall)
  | wireEnable (now : ℤ) (newId : String) (doc : TrustTask) (p : EnablePayload)
  | wireDisable (newId : String) (doc : TrustTask) (capability : String)
  | restart

namespace Deployment

variable (host : CapabilityHost TaskHandler) (F : Framework) (store : CapabilityStore)

/-- A server over a store in which nothing has been saved. -/
def fresh : Deployment := ⟨.new host AssocMap.empty, none, none⟩

/-- The configuration that is accepted when a call succeeds. -/
def acceptedBy (before : Option Json) : CapabilityCall → Option Json
  | .enable capability _ config _ => if capability = GitTrust.slug then config else before
  | .disable _ => before

/-- What an answered call leaves; one that succeeds has saved the state. -/
def answered (d : Deployment) (c : CapabilityCall) (ok : Bool) (set : CapabilitySet TaskHandler) :
    Deployment :=
  if ok then ⟨set, some set.stored, acceptedBy d.accepted c⟩ else { d with set }

/-- One call or restart. -/
def step (d : Deployment) : DeploymentAction → Option Deployment
  | .call now c =>
    let r := d.set.call host now (.ok ()) c
    some (d.answered c r.1.isOk r.2)
  | .wireEnable now newId doc p =>
    let r := handleCapabilityEnable host F newId now (.ok ()) doc p d.set
    some (d.answered (.enable p.capability p.version p.configDocument p.delegate) r.1.isOk r.2)
  | .wireDisable newId doc capability =>
    let r := handleCapabilityDisable host F newId (.ok ()) doc capability d.set
    some (d.answered (.disable capability) r.1.isOk r.2)
  | .restart =>
    match store.load (store.surviving d.saved) with
    | .ok states => some ⟨.new host states, store.surviving d.saved, d.accepted⟩
    | .error _ => none

variable {host F store}

/-- **A call over the wire is the call it carries.** -/
theorem step_wire (d : Deployment) (now : ℤ) (newId : String) (doc : TrustTask) :
    (∀ p, d.step host F store (.wireEnable now newId doc p) = d.step host F store
      (.call now (.enable p.capability p.version p.configDocument p.delegate))) ∧
    (∀ k, d.step host F store (.wireDisable newId doc k)
      = d.step host F store (.call now (.disable k))) := by
  constructor
  · intro p
    simp only [step, handleCapabilityEnable, CapabilitySet.call]
    rcases d.set.enable host now (.ok ()) p.capability p.version p.configDocument p.delegate with
      ⟨e | entry, set⟩ <;> rfl
  · intro k
    simp only [step, handleCapabilityDisable, CapabilitySet.call]
    rcases d.set.disable host (.ok ()) k with ⟨e | u, set⟩ <;> rfl

/-- A call changes nothing, or it passes its checks and its entry is in memory, in
the store and on the dispatchers. -/
theorem step_call {d d' : Deployment} {now : ℤ} {c : CapabilityCall}
    (h : d.step host F store (.call now c) = some d') :
    d' = d ∨ ∃ entry, c.accept host now d.set.state = .ok entry ∧
      d' = ⟨.new host (d.set.state.insert c.capability entry),
        some (d.set.state.insert c.capability entry), acceptedBy d.accepted c⟩ := by
  obtain rfl := Option.some.inj h
  rw [CapabilitySet.call_eq]
  cases haccept : c.accept host now d.set.state with
  | error e => exact .inl rfl
  | ok entry => exact .inr ⟨entry, rfl, rfl⟩

end Deployment

/-! ### What is registered -/

namespace GitTrust

/-- The rejection by a handler that has no authority. -/
def missingAuthority : RejectReason :=
  .internalError "git-trust is enabled without an authority DID in its config"

/-- Whatever the handler rejects, and over whatever backend, it is for another
reason. -/
def NeverMissing (F : Framework) (h : TaskHandler) : Prop :=
  ∀ {σ : Type} (env : Env σ) (doc : TrustTask) (s : Server σ) (e : ErrorResponse),
    (h.run F env doc s).1 = .error e →
      ∃ reason, reason ≠ missingAuthority ∧ e = F.rejectWith doc env.newId reason

theorem head?_append (text m : String) {c : Char} (h : text.toList.head? = some c) :
    (text ++ m).toList.head? = some c := by
  rw [String.toList_append, List.head?_append, h, Option.some_or]

/-- The text of a repository error starts with a capital letter. -/
theorem head?_display (e : RepositoryError) :
    ∃ c, e.display.toList.head? = some c ∧ c.isUpper = true := by
  cases e with
  | connectionFailed m => exact ⟨'C', head?_append "Connection failed: " m rfl, rfl⟩
  | queryFailed m => exact ⟨'Q', head?_append "Query failed: " m rfl, rfl⟩
  | serializationFailed m => exact ⟨'S', head?_append "Serialization failed: " m rfl, rfl⟩
  | recordNotFound m => exact ⟨'R', head?_append "Record not found: " m rfl, rfl⟩
  | recordAlreadyExists m => exact ⟨'R', head?_append "Record already exists: " m rfl, rfl⟩
  | validationError m => exact ⟨'V', head?_append "Validation error: " m rfl, rfl⟩
  | lockPoisoned => exact ⟨'L', rfl, rfl⟩

theorem display_ne_missing (e : RepositoryError) :
    RejectReason.internalError e.display ≠ missingAuthority := by
  intro h
  obtain ⟨c, hc, hupper⟩ := head?_display e
  have hg : e.display.toList.head? = some 'g' := by
    rw [RejectReason.internalError.inj h]
    rfl
  obtain rfl : c = 'g' := Option.some.inj (hc.symm.trans hg)
  exact absurd hupper (by decide)

/-- What is registered for commit signing acts under the accepted configuration:
while it is not enabled nothing is registered beside the base and the governance
tasks, and while it is both handlers are, bound to the authority that the
configuration names, and nothing else. -/
structure UnderAccepted (F : Framework) (host : CapabilityHost TaskHandler) (d : Deployment) :
    Prop where
  disabled : enabledEntry d.set.state slug = none →
    d.set.dispatcher = governanceSurface host host.base true
  enabled : (enabledEntry d.set.state slug).isSome = true → ∃ config did,
    d.accepted = some config ∧ Names config did ∧
      d.set.dispatcher.get? .gitTrustGrant = some (.gitTrustGrant (some did)) ∧
      d.set.dispatcher.get? .gitTrustRevoke = some (.gitTrustRevoke (some did)) ∧
      (∀ u, u ≠ .gitTrustGrant → u ≠ .gitTrustRevoke →
        d.set.dispatcher.get? u = (governanceSurface host host.base true).get? u) ∧
      NeverMissing F (.gitTrustGrant (some did)) ∧ NeverMissing F (.gitTrustRevoke (some did))

variable {F : Framework} {newId : String} {did : String}

theorem withPayload_error {σ α : Type} {env : Env σ} {doc : TrustTask} {s : Server σ}
    {payload : Except String α} {run : α → TaskOutcome × Server σ} {e : ErrorResponse}
    (h : (withPayload F env doc s payload run).1 = .error e) :
    (∃ reason, e = F.rejectWith doc env.newId (.malformedRequest reason)) ∨
      ∃ p, (run p).1 = .error e := by
  cases payload with
  | error reason => exact .inl ⟨reason, (Except.error.inj h).symm⟩
  | ok p => exact .inr ⟨p, h⟩

/-- A grant under an authority is rejected for other reasons. -/
theorem handleGrant_error {σ : Type} {R : TrustRecordAdminRepository σ} {doc : TrustTask}
    {p : GitTrustPayload} {s : σ} {e : ErrorResponse}
    (h : (handleGrant F R newId (some did) doc p s).1 = .error e) :
    ∃ reason, reason ≠ missingAuthority ∧ e = F.rejectWith doc newId reason := by
  simp only [handleGrant, requireAuthority] at h
  split at h
  · cases h
  · exact ⟨_, by simp [missingAuthority], (Except.error.inj h).symm⟩
  · exact ⟨_, display_ne_missing _, (Except.error.inj h).symm⟩

/-- So is a revocation. -/
theorem handleRevoke_error {σ : Type} {R : TrustRecordAdminRepository σ} {doc : TrustTask}
    {p : GitTrustPayload} {s : σ} {e : ErrorResponse}
    (h : (handleRevoke F R newId (some did) doc p s).1 = .error e) :
    ∃ reason, reason ≠ missingAuthority ∧ e = F.rejectWith doc newId reason := by
  simp only [handleRevoke, requireAuthority] at h
  split at h
  · exact ⟨_, by simp [missingAuthority], (Except.error.inj h).symm⟩
  · exact ⟨_, display_ne_missing _, (Except.error.inj h).symm⟩
  · split at h
    · cases h
    · exact ⟨_, display_ne_missing _, (Except.error.inj h).symm⟩

theorem neverMissing_grant : NeverMissing F (.gitTrustGrant (some did)) := by
  intro σ env doc s e h
  rcases withPayload_error h with ⟨reason, rfl⟩ | ⟨p, hp⟩
  · exact ⟨_, by simp [missingAuthority], rfl⟩
  · have hrun :
        (handleGrant F env.repository env.newId (some did) doc p s.records).1 = .error e := hp
    exact handleGrant_error hrun

theorem neverMissing_revoke : NeverMissing F (.gitTrustRevoke (some did)) := by
  intro σ env doc s e h
  rcases withPayload_error h with ⟨reason, rfl⟩ | ⟨p, hp⟩
  · exact ⟨_, by simp [missingAuthority], rfl⟩
  · have hrun :
        (handleRevoke F env.repository env.newId (some did) doc p s.records).1 = .error e := hp
    exact handleRevoke_error hrun

/-! ### The invariant -/

/-- The enabled entry has the authority that the accepted configuration names. -/
def Sound (accepted : Option Json) (states : CapabilityStates) : Prop :=
  ∀ entry, enabledEntry states slug = some entry →
    ∃ config did, accepted = some config ∧ Names config did ∧ authorityOf entry = some did

/-- What holds after every call and every restart. -/
structure Accounted (host : CapabilityHost TaskHandler) (d : Deployment) : Prop where
  composed : d.set.Composed host d.set.state
  memory : Sound d.accepted d.set.state
  saved : ∀ states, d.saved = some states → Sound d.accepted states

variable {base baseQuery : Dispatcher TaskHandler} {store : CapabilityStore}

theorem sound_empty (accepted : Option Json) : Sound accepted AssocMap.empty := by
  intro entry h
  cases h

/-- An entry that a call writes is sound for the configuration it carries. -/
theorem sound_insert {accepted : Option Json} {states : CapabilityStates} {now : ℤ}
    {c : CapabilityCall} {entry : CapabilityState} (hs : Sound accepted states)
    (h : c.accept (hostOver base baseQuery) now states = .ok entry) :
    Sound (Deployment.acceptedBy accepted c) (states.insert c.capability entry) := by
  intro e he
  obtain ⟨hget, henabled⟩ := enabledEntry_eq_some.mp he
  cases c with
  | enable capability version config delegate =>
    simp only [CapabilityCall.accept] at h
    split at h
    · cases h
    · next d hd =>
      obtain ⟨rfl, rfl⟩ := definition_hostOver hd
      split at h
      · cases h
      · next hcheck =>
        split at h
        · cases h
        · obtain rfl := Except.ok.inj h
          obtain rfl : _ = e := Option.some.inj ((AssocMap.get?_insert_self _ _ _).symm.trans hget)
          -- the configuration that was checked is the one that is kept
          have hkept : CapabilitySet.checkConfig definition
            (CapabilityState.config ⟨version, true, config, now, delegate⟩) = .ok () := hcheck
          obtain ⟨did, hdid⟩ := check_iff_authorityOf.mp hkept
          obtain ⟨config', hconfig', hnames⟩ := authorityOf_eq_some_iff.mp hdid
          exact ⟨config', did, by rw [← hconfig']; rfl, hnames, hdid⟩
  | disable capability =>
    simp only [CapabilityCall.accept] at h
    split at h
    · cases h
    · next old hold =>
      obtain rfl := Except.ok.inj h
      rw [AssocMap.get?_insert] at hget
      split at hget
      · obtain rfl := Option.some.inj hget
        cases henabled
      · exact hs e (enabledEntry_eq_some.mpr ⟨hget, henabled⟩)

/-- What is loaded is sound when what was saved is. -/
theorem sound_load (hstore : store.Faithful) {accepted : Option Json}
    {saved : Option CapabilityStates} {loaded : CapabilityStates}
    (hs : ∀ states, saved = some states → Sound accepted states)
    (h : store.load saved = .ok loaded) : Sound accepted loaded := by
  intro entry he
  obtain ⟨hget, henabled⟩ := enabledEntry_eq_some.mp he
  obtain ⟨states, old, hsaved, hold, halike⟩ := CapabilityStore.get?_load hstore h hget
  have hentry : enabledEntry states slug = some old :=
    enabledEntry_eq_some.mpr ⟨hold, halike.enabled ▸ henabled⟩
  rw [authorityOf_of_alike halike]
  exact hs states hsaved old hentry

theorem saved_of_surviving {saved : Option CapabilityStates} {states : CapabilityStates}
    (h : store.surviving saved = some states) : saved = some states := by
  cases store with
  | memory => cases h
  | file path form => exact h

theorem accounted_fresh : Accounted (hostOver base baseQuery) (.fresh (hostOver base baseQuery)) :=
  ⟨CapabilitySet.new_composed _, sound_empty none, fun _ h => by cases h⟩

theorem accounted_call {d d' : Deployment} {now : ℤ} {c : CapabilityCall}
    (hd : Accounted (hostOver base baseQuery) d)
    (h : d.step (hostOver base baseQuery) F store (.call now c) = some d') :
    Accounted (hostOver base baseQuery) d' := by
  rcases Deployment.step_call h with rfl | ⟨entry, haccept, rfl⟩
  · exact hd
  · have hsound := sound_insert hd.memory haccept
    exact ⟨CapabilitySet.new_composed _, hsound, fun states hs => Option.some.inj hs ▸ hsound⟩

theorem accounted_step (hstore : store.Faithful) {d d' : Deployment} {a : DeploymentAction}
    (hd : Accounted (hostOver base baseQuery) d)
    (h : d.step (hostOver base baseQuery) F store a = some d') :
    Accounted (hostOver base baseQuery) d' := by
  cases a with
  | call now c => exact accounted_call hd h
  | wireEnable now newId doc p =>
    rw [(Deployment.step_wire d now newId doc).1] at h
    exact accounted_call hd h
  | wireDisable newId doc capability =>
    rw [(Deployment.step_wire d 0 newId doc).2] at h
    exact accounted_call hd h
  | restart =>
    simp only [Deployment.step] at h
    split at h
    · next states hload =>
      obtain rfl := Option.some.inj h
      have hsaved : ∀ states, store.surviving d.saved = some states → Sound d.accepted states :=
        fun states hs => hd.saved states (saved_of_surviving hs)
      exact ⟨CapabilitySet.new_composed _, sound_load hstore hsaved hload, hsaved⟩
    · cases h

theorem underAccepted_of_accounted {d : Deployment} (hd : Accounted (hostOver base baseQuery) d) :
    UnderAccepted F (hostOver base baseQuery) d := by
  have hdispatcher : d.set.dispatcher = registerEnabled d.set.state
      (governanceSurface (hostOver base baseQuery) base true) definition := hd.composed.1
  have hslug : definition.manifest.capability = slug := rfl
  rw [registerEnabled, hslug] at hdispatcher
  constructor
  · intro hnone
    rw [hdispatcher, hnone]
    rfl
  · intro hsome
    obtain ⟨entry, hentry⟩ := Option.isSome_iff_exists.mp hsome
    obtain ⟨config, did, haccepted, hnames, hauthority⟩ := hd.memory entry hentry
    rw [hentry] at hdispatcher
    have hregister : d.set.dispatcher = register
        (governanceSurface (hostOver base baseQuery) base true) entry := hdispatcher
    refine ⟨config, did, haccepted, hnames, ?_, ?_, fun u hgrant hrevoke => ?_,
      neverMissing_grant, neverMissing_revoke⟩
    · rw [hregister, register, hauthority, Dispatcher.get?_on, if_neg (by decide),
        Dispatcher.get?_on, if_pos rfl]
    · rw [hregister, register, hauthority, Dispatcher.get?_on, if_pos rfl]
    · rw [hregister, register, Dispatcher.get?_on, if_neg hrevoke, Dispatcher.get?_on,
        if_neg hgrant]
      rfl

/-- **Commit signing acts under the authority that was accepted last**: along every
run of calls and restarts over an empty store, with any base registrations, any
configurations and delegates, and either store. -/
theorem runs_under_accepted (hstore : store.Faithful) {as : List DeploymentAction} {t : Deployment}
    (hrun : Run (Deployment.step (hostOver base baseQuery) F store) anyAction
      (.fresh (hostOver base baseQuery)) as t) :
    UnderAccepted F (hostOver base baseQuery) t := by
  have hend : Accounted (hostOver base baseQuery) t :=
    hrun.invariant (I := Accounted (hostOver base baseQuery))
      (fun _ _ _ hd _ hstep => accounted_step hstore hd hstep) accounted_fresh
  exact underAccepted_of_accounted hend

/-- Commit signing is enabled under one authority, disabled, and enabled over the
wire under another; the server starts again, and acts under the second. -/
theorem reenabled_under_accepted :
    let host := hostOver buildDispatcher buildQueryDispatcher
    let doc : TrustTask := { id := "task", typeUri := .capabilityEnable, payload := .null }
    let F := Framework.sample .null [] doc
    let first := Json.obj [("authority", .str "did:web:first")]
    let step := Deployment.step host F (.file "capabilities.json" CapabilityStore.plain)
    ∃ t, Run step anyAction (.fresh host)
        [.call 0 (.enable slug "0.1" (some first) none), .call 1 (.disable slug),
          .wireEnable 2 "reply" doc ⟨slug, "0.1", [("authority", .str "did:web:second")], none⟩,
          .restart] t ∧
      UnderAccepted F host t ∧ (enabledEntry t.set.state slug).isSome = true ∧
      t.set.dispatcher.get? .gitTrustGrant = some (.gitTrustGrant (some "did:web:second")) := by
  intro host doc F first step
  have hstore := CapabilityStore.exact_plain.faithful "capabilities.json"
  obtain ⟨t, hrun, henabled, hgrant⟩ : ∃ t, Run step anyAction (.fresh host)
      [.call 0 (.enable slug "0.1" (some first) none), .call 1 (.disable slug),
        .wireEnable 2 "reply" doc ⟨slug, "0.1", [("authority", .str "did:web:second")], none⟩,
        .restart] t ∧ (enabledEntry t.set.state slug).isSome = true ∧
      t.set.dispatcher.get? .gitTrustGrant = some (.gitTrustGrant (some "did:web:second")) :=
    ⟨_, run_of_exec (fun _ _ _ => trivial) rfl, by decide, by decide⟩
  exact ⟨t, hrun, runs_under_accepted hstore hrun, henabled, hgrant⟩

end GitTrust

end TrustRegistry
