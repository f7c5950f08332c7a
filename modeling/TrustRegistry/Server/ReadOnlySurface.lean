import TrustRegistry.Server.WriteGate

/-!
# The read-only surface

What an anonymous caller can do by posting a document.  The read-only dispatcher
is composed from the two queries, the listing of capabilities, and whatever the
enabled capabilities register; `git-trust` registers its grant and its revocation
there as well, and neither asks who is calling.

## Main definitions

* `acceptedPost` — the document that a request has dispatched.
* `HarmlessPost`, `HarmlessLocalPost` — the documents that change nothing.

## Main results

* `queryDispatcher_all` — what the read-only surface serves.
* `anonymous_post_changes_nothing_iff` — when a request changes nothing.
* `anonymous_grant_is_stored` — an anonymous grant changes the records.
-/

namespace TrustRegistry

open Transition

/-! ### What is served -/

/-- The registrations of `git-trust` in a state where it is enabled. -/
inductive ServedGitTrust (state : CapabilityStates) : TypeUri → TaskHandler → Prop
  | grant {entry : CapabilityState} (h : enabledEntry state GitTrust.slug = some entry) :
    ServedGitTrust state .gitTrustGrant (.gitTrustGrant (GitTrust.authorityOf entry))
  | revoke {entry : CapabilityState} (h : enabledEntry state GitTrust.slug = some entry) :
    ServedGitTrust state .gitTrustRevoke (.gitTrustRevoke (GitTrust.authorityOf entry))

theorem ServedGitTrust.handler {state : CapabilityStates} {u : TypeUri} {h : TaskHandler}
    (hs : ServedGitTrust state u h) : ∃ a, h = .gitTrustGrant a ∨ h = .gitTrustRevoke a := by
  cases hs with
  | grant hentry => exact ⟨_, .inl rfl⟩
  | revoke hentry => exact ⟨_, .inr rfl⟩

/-- **A handler on the read-only surface only reads, or is `git-trust`'s** where
that is enabled. -/
theorem queryDispatcher_all (state : CapabilityStates) :
    (compose serveHost serveHost.baseQuery state false).All fun u h =>
      h.readOnly = true ∨ ServedGitTrust state u h := by
  refine compose_all ?_ (.inl rfl) nofun ?_
  · exact .on (.on .new (.inl rfl)) (.inl rfl)
  · intro d hd entry dispatcher hentry h
    obtain rfl := List.mem_singleton.mp hd
    exact (h.on (.inr (.grant hentry))).on (.inr (.revoke hentry))

/-! ### What a request changes -/

section

variable {σ : Type} {F : Framework} {env : Env σ}

/-- The document that a request has dispatched: one that parses, whose parties
fit, and which is fresh. -/
def acceptedPost (F : Framework) (env : Env σ) (body : List UInt8) : Option TrustTask :=
  (F.parseSlice body).toOption.filter fun doc =>
    (F.resolveParties .https (some env.ourDid) none doc).isOk &&
      (F.validateBasic doc env.now env.ourDid).isOk

theorem handleTrustTask_snd (body : List UInt8) (s : Server σ) :
    (handleTrustTask F env body s).2 =
      (acceptedPost F env body).elim s fun doc =>
        (handleDocument F env s.capabilities.queryDispatcher s doc).2 := by
  unfold handleTrustTask acceptedPost
  cases F.parseSlice body with
  | error e => rfl
  | ok doc =>
    rw [Except.toOption]
    cases hparties : F.resolveParties .https (some env.ourDid) none doc with
    | error reason => simp [hparties, Except.isOk, Except.toBool, Option.filter]
    | ok _ =>
      cases hvalid : F.validateBasic doc env.now env.ourDid with
      | error reason => simp [hparties, hvalid, Except.isOk, Except.toBool, Option.filter]
      | ok _ => simp [hparties, hvalid, Except.isOk, Except.toBool, Option.filter]

/-- A grant at work on the records. -/
theorem run_gitTrustGrant (authority : Option String) (doc : TrustTask) (s : Server σ) :
    (TaskHandler.run F env (.gitTrustGrant authority) doc s).2 =
      match F.specs.gitTrustGrant doc.payload, authority with
      | .ok p, some a =>
        { s with records := (env.repository.create s.records (GitTrust.grantRecord a p)).2 }
      | _, _ => s := by
  unfold TaskHandler.run
  cases F.specs.gitTrustGrant doc.payload with
  | error e => rfl
  | ok p =>
    simp only [withPayload, Server.onRecords, GitTrust.handleGrant_snd]
    cases authority <;> rfl

/-- A revocation at work on the records. -/
theorem run_gitTrustRevoke (authority : Option String) (doc : TrustTask) (s : Server σ) :
    (TaskHandler.run F env (.gitTrustRevoke authority) doc s).2 =
      match F.specs.gitTrustRevoke doc.payload, authority with
      | .ok p, some a =>
        match env.repository.read s.records (GitTrust.tuple a p) with
        | .ok existing =>
          { s with
            records := (env.repository.update s.records (GitTrust.revokedRecord a p existing)).2 }
        | .error _ => s
      | _, _ => s := by
  unfold TaskHandler.run
  cases F.specs.gitTrustRevoke doc.payload with
  | error e => rfl
  | ok p =>
    simp only [withPayload, Server.onRecords, GitTrust.handleRevoke_snd]
    cases authority with
    | none => rfl
    | some a =>
      simp only [Option.elim_some]
      cases env.repository.read s.records (GitTrust.tuple a p) <;> rfl

/-- The read-only surface serves a grant under an authority. -/
def ServesGrant (s : Server σ) (doc : TrustTask) (authority : String) : Prop :=
  s.capabilities.queryDispatcher.get? doc.typeUri = some (.gitTrustGrant (some authority))

/-- The read-only surface serves a revocation under an authority. -/
def ServesRevoke (s : Server σ) (doc : TrustTask) (authority : String) : Prop :=
  s.capabilities.queryDispatcher.get? doc.typeUri = some (.gitTrustRevoke (some authority))

/-- A request that is not accepted, or not served as a grant or a revocation, or
whose grant or revocation leaves the records as they are. -/
def HarmlessPost (F : Framework) (env : Env σ) (s : Server σ) (body : List UInt8) : Prop :=
  ∀ doc authority p, acceptedPost F env body = some doc →
    (ServesGrant s doc authority → F.specs.gitTrustGrant doc.payload = .ok p →
      (env.repository.create s.records (GitTrust.grantRecord authority p)).2 = s.records) ∧
    (ServesRevoke s doc authority → F.specs.gitTrustRevoke doc.payload = .ok p →
      ∀ existing, env.repository.read s.records (GitTrust.tuple authority p) = .ok existing →
        (env.repository.update s.records
          (GitTrust.revokedRecord authority p existing)).2 = s.records)

/-- What is accepted changes the records exactly when it is served as a grant or
a revocation that does, and never the capabilities. -/
theorem handleDocument_unchanged_iff {s : Server σ} (hs : s.IsComposed) (doc : TrustTask) :
    ((handleDocument F env s.capabilities.queryDispatcher s doc).2.records = s.records ∧
      (handleDocument F env s.capabilities.queryDispatcher s doc).2.capabilities
        = s.capabilities) ↔
    ∀ authority p,
      (ServesGrant s doc authority → F.specs.gitTrustGrant doc.payload = .ok p →
        (env.repository.create s.records (GitTrust.grantRecord authority p)).2 = s.records) ∧
      (ServesRevoke s doc authority → F.specs.gitTrustRevoke doc.payload = .ok p →
        ∀ existing, env.repository.read s.records (GitTrust.tuple authority p) = .ok existing →
          (env.repository.update s.records
            (GitTrust.revokedRecord authority p existing)).2 = s.records) := by
  unfold ServesGrant ServesRevoke
  cases hget : s.capabilities.queryDispatcher.get? doc.typeUri with
  | none => simp [handleDocument_of_none hget]
  | some h =>
    obtain ⟨state, _, hquery⟩ := hs
    have hall : h.readOnly = true ∨ ServedGitTrust state doc.typeUri h :=
      queryDispatcher_all state doc.typeUri h (by rw [← hquery, hget])
    rw [handleDocument_of_get? hget]
    rcases hall with hread | hserved
    · -- neither a grant nor a revocation
      rw [h.run_of_readOnly hread]
      cases h <;> simp_all [TaskHandler.readOnly]
    · obtain ⟨authority, rfl | rfl⟩ := hserved.handler
      · rw [run_gitTrustGrant]
        cases F.specs.gitTrustGrant doc.payload with
        | error e => simp
        | ok p => cases authority <;> simp
      · rw [run_gitTrustRevoke]
        cases F.specs.gitTrustRevoke doc.payload with
        | error e => simp
        | ok p =>
          cases authority with
          | none => simp
          | some a =>
            cases hread : env.repository.read s.records (GitTrust.tuple a p) <;> simp [hread]

theorem handleTrustTask_unchanged_iff {s : Server σ} (hs : s.IsComposed) (body : List UInt8) :
    ((handleTrustTask F env body s).2.records = s.records ∧
      (handleTrustTask F env body s).2.capabilities = s.capabilities) ↔
      HarmlessPost F env s body := by
  rw [handleTrustTask_snd, HarmlessPost]
  cases acceptedPost F env body with
  | none => simp
  | some doc =>
    -- the document is the only one the condition speaks of
    rw [Option.elim_some, handleDocument_unchanged_iff hs doc]
    constructor
    · rintro h doc' authority p hdoc
      obtain rfl := Option.some.inj hdoc
      exact h authority p
    · intro h authority p
      exact h doc authority p rfl

end

/-! ### The in-memory backend -/

/-- A request that is not accepted, or not served as a grant or a revocation, or
a grant of a tuple that has a record, or a revocation of one that has none or is
revoked already. -/
def HarmlessLocalPost (F : Framework) (env : Env LocalStorage) (s : Server LocalStorage)
    (body : List UInt8) : Prop :=
  ∀ doc authority p, acceptedPost F env body = some doc →
    (ServesGrant s doc authority → F.specs.gitTrustGrant doc.payload = .ok p →
      s.records.records.find (GitTrust.tuple authority p) ≠ none) ∧
    (ServesRevoke s doc authority → F.specs.gitTrustRevoke doc.payload = .ok p →
      ∀ existing, s.records.records.find (GitTrust.tuple authority p) = some existing →
        existing = GitTrust.revokedRecord authority p existing)

/-- A revocation of a tuple in memory. -/
theorem localRevoke_unchanged_iff (s : LocalStorage) (authority : String) (p : GitTrustPayload) :
    (∀ existing, LocalStorage.repository.read s (GitTrust.tuple authority p) = .ok existing →
      (LocalStorage.repository.update s
        (GitTrust.revokedRecord authority p existing)).2 = s) ↔
    ∀ existing, s.records.find (GitTrust.tuple authority p) = some existing →
      existing = GitTrust.revokedRecord authority p existing := by
  have hread : ∀ existing,
      LocalStorage.repository.read s (GitTrust.tuple authority p) = .ok existing ↔
        s.records.find (GitTrust.tuple authority p) = some existing := by
    intro existing
    show LocalStorage.read s (GitTrust.tuple authority p) = .ok existing ↔ _
    rw [LocalStorage.read]
    cases s.records.find (GitTrust.tuple authority p) <;> simp
  refine forall_congr' fun existing => ?_
  rw [hread]
  refine forall_congr' fun hfind => ?_
  -- the record is revoked under its own key
  have hget : s.records.get? (.fromRecord (GitTrust.revokedRecord authority p existing))
      = some existing := by
    rw [← hfind, RecordMap.find_eq_get?]
    rfl
  rw [LocalStorage.repository, LocalStorage.update_snd_eq_iff, hget]
  simp

theorem harmlessPost_iff_local {F : Framework} {env : Env LocalStorage}
    (henv : env.repository = LocalStorage.repository) (s : Server LocalStorage)
    (body : List UInt8) : HarmlessPost F env s body ↔ HarmlessLocalPost F env s body := by
  have hcreate : ∀ authority p,
      (LocalStorage.repository.create s.records (GitTrust.grantRecord authority p)).2 = s.records ↔
        s.records.records.find (GitTrust.tuple authority p) ≠ none := by
    intro authority p
    rw [LocalStorage.repository, LocalStorage.create_snd_eq_iff, RecordMap.find_eq_get?]
    rfl
  simp only [HarmlessPost, HarmlessLocalPost, henv, hcreate, localRevoke_unchanged_iff]

/-- **When an anonymous request changes nothing**, in every state the server can
reach: over any backend, exactly when it is not served as a grant or a revocation
that changes the records; over the in-memory one, exactly when a grant it is
served as finds a record, and a revocation none that is not revoked already. -/
theorem anonymous_post_changes_nothing_iff (F : Framework) (body : List UInt8) :
    (∀ {σ : Type} {records : σ} {stored : CapabilityStates} {as : List (ServerAction σ)}
      {s : Server σ}, Run (Server.step F) anyAction (Server.started records stored) as s →
      ∀ env : Env σ,
        ((handleTrustTask F env body s).2.records = s.records ∧
          (handleTrustTask F env body s).2.capabilities = s.capabilities) ↔
        HarmlessPost F env s body) ∧
    ∀ {records : LocalStorage} {stored : CapabilityStates} {as : List (ServerAction LocalStorage)}
      {s : Server LocalStorage},
      Run (Server.step F) anyAction (Server.started records stored) as s →
      ∀ env : Env LocalStorage, env.repository = LocalStorage.repository →
        ((handleTrustTask F env body s).2.records = s.records ∧
          (handleTrustTask F env body s).2.capabilities = s.capabilities ↔
        HarmlessLocalPost F env s body) := by
  refine ⟨fun hrun env => handleTrustTask_unchanged_iff (Server.reachable_composed hrun) body,
    fun hrun env henv => ?_⟩
  rw [← harmlessPost_iff_local henv]
  exact handleTrustTask_unchanged_iff (Server.reachable_composed hrun) body

/-! ### An anonymous grant -/

/-- A grant, from nobody. -/
def anonymousGrant : TrustTask where
  id := "anon-1"
  typeUri := .gitTrustGrant
  payload := .obj [("subject", .str "did:web:stranger"), ("resource", .str "org/repo")]

/-- The bytes it is posted as. -/
def anonymousGrantSlice : List UInt8 :=
  ("\x7b\"id\":\"anon-1\",\"type\":\"https://trusttasks.org/spec/git-trust/grant/0.1\"," ++
    "\"payload\":\x7b\"subject\":\"did:web:stranger\",\"resource\":\"org/repo\"\x7d\x7d").toList.map
      fun c => c.toNat.toUInt8

/-- The framework as it reads this document. -/
def grantFramework : Framework := .sample .null anonymousGrantSlice anonymousGrant

/-- A server where nothing is enabled. -/
def plainServer : Server LocalStorage := .started .new .empty

/-- `git-trust` is enabled under an authority. -/
def enableGitTrust : ServerAction LocalStorage :=
  .enable sampleEnv "git-trust" "0.1" (some (.obj [("authority", .str "did:web:authority")])) none

/-- The server after that. -/
def enabledServer : Server LocalStorage :=
  { plainServer with
    capabilities := (plainServer.capabilities.enable serveHost 0 (.ok ()) "git-trust" "0.1"
      (some (.obj [("authority", .str "did:web:authority")])) none).2 }

theorem enabledServer_reachable :
    Run (Server.step grantFramework) anyAction plainServer [enableGitTrust] enabledServer :=
  .single trivial rfl

theorem acceptedPost_anonymousGrant :
    acceptedPost grantFramework sampleEnv anonymousGrantSlice = some anonymousGrant := by
  rw [acceptedPost, grantFramework, Framework.sample_parseSlice]
  rfl

/-- The server after the grant has been posted. -/
def grantedServer : Server LocalStorage :=
  (handleDocument grantFramework sampleEnv enabledServer.capabilities.queryDispatcher enabledServer
    anonymousGrant).2

theorem handleTrustTask_anonymousGrant :
    (handleTrustTask grantFramework sampleEnv anonymousGrantSlice enabledServer).2
      = grantedServer := by
  rw [handleTrustTask_snd, acceptedPost_anonymousGrant]
  rfl

/-- Where nothing is enabled a grant that is posted changes nothing, and neither
does one that has been posted before. -/
theorem repeated_grant_changes_nothing :
    ((handleTrustTask grantFramework sampleEnv anonymousGrantSlice plainServer).2.records
        = plainServer.records ∧
      (handleTrustTask grantFramework sampleEnv anonymousGrantSlice plainServer).2.capabilities
        = plainServer.capabilities) ∧
    ((handleTrustTask grantFramework sampleEnv anonymousGrantSlice grantedServer).2.records
        = grantedServer.records ∧
      (handleTrustTask grantFramework sampleEnv anonymousGrantSlice grantedServer).2.capabilities
        = grantedServer.capabilities) := by
  have hposted : Run (Server.step grantFramework) anyAction plainServer
      [enableGitTrust, .http sampleEnv anonymousGrantSlice] grantedServer :=
    enabledServer_reachable.trans
      (.single trivial (congrArg some handleTrustTask_anonymousGrant))
  have hiff := anonymous_post_changes_nothing_iff grantFramework anonymousGrantSlice
  refine ⟨(hiff.1 (.nil plainServer) sampleEnv).mpr ?_, (hiff.2 hposted sampleEnv rfl).mpr ?_⟩
  · intro doc authority p hdoc
    rw [acceptedPost_anonymousGrant] at hdoc
    obtain rfl := Option.some.inj hdoc
    have hnone : plainServer.capabilities.queryDispatcher.get? .gitTrustGrant = none := by decide
    refine ⟨fun hserves => ?_, fun hserves => ?_⟩
    · rw [ServesGrant, anonymousGrant, hnone] at hserves
      cases hserves
    · rw [ServesRevoke, anonymousGrant, hnone] at hserves
      cases hserves
  · intro doc authority p hdoc
    rw [acceptedPost_anonymousGrant] at hdoc
    obtain rfl := Option.some.inj hdoc
    have hget : grantedServer.capabilities.queryDispatcher.get? .gitTrustGrant
        = some (.gitTrustGrant (some "did:web:authority")) := by decide
    refine ⟨fun hserves hpayload => ?_, fun hserves => ?_⟩
    · rw [ServesGrant, anonymousGrant, hget] at hserves
      obtain rfl : "did:web:authority" = authority := by simpa using hserves
      obtain rfl : GitTrustPayload.mk "did:web:stranger" "org/repo" = p := Except.ok.inj hpayload
      decide
    · rw [ServesRevoke, anonymousGrant, hget] at hserves
      simp at hserves

/-- **An anonymous grant is stored** where `git-trust` is enabled. -/
theorem anonymous_grant_is_stored :
    Run (Server.step grantFramework) anyAction (Server.started .new .empty) [enableGitTrust]
      enabledServer ∧
    (handleTrustTask grantFramework sampleEnv anonymousGrantSlice enabledServer).2.records
      ≠ enabledServer.records ∧
    (handleTrustTask grantFramework sampleEnv anonymousGrantSlice
        enabledServer).2.records.records.find
          ⟨⟨"did:web:stranger"⟩, ⟨"did:web:authority"⟩, ⟨"git.commit.sign"⟩, ⟨"org/repo"⟩⟩
      = some (GitTrust.grantRecord "did:web:authority" ⟨"did:web:stranger", "org/repo"⟩) := by
  rw [handleTrustTask_anonymousGrant]
  exact ⟨enabledServer_reachable, by decide, by decide⟩

end TrustRegistry
