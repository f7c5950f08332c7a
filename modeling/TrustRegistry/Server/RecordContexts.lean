import TrustRegistry.Didcomm.BaseHandler
import TrustRegistry.TrustTasks.SpecRecords

/-!
# The contexts of stored records

Records are stored by administrative messages, by Trust Tasks, by the git-trust
capability, and by loading a file.  A Trust Task carries a published record, whose
context is an object, and git-trust writes an empty one or the one that it finds.
An administrative message and a row of the file carry any document, and a record
that is stored with another context makes every listing fail.

## Main definitions

* `RegistryAction`, `Server.serve` — whatever can write records.
* `ObjectWrites` — a step stores no record whose context is not an object.

## Main results

* `objects_serve` — such a step keeps the contexts objects.
* `one_record_hides_none` — every record is listed and read exactly while all
  contexts are objects, which they are as long as only such steps are taken.
* `numeric_context_hides_all` — one message is enough to make every listing fail.
-/

namespace TrustRegistry

open KeyedTable Transition

/-! ### The registry as a system -/

/-- What can write records: a message to the DIDComm entry point, a Trust Task over
TSP or HTTP, the loading of records, and a start over stored ones. -/
inductive RegistryAction (σ : Type*)
  | didcomm (env : DidcommEnv σ) (message : Message) (metadata : UnpackMetadata)
  | tsp (env : Env σ) (sender : String) (doc : TrustTask)
  | http (env : Env σ) (body : List UInt8)
  | load (records : σ)
  | start (records : σ) (stored : CapabilityStates)

section

variable {σ K : Type*} [DecidableEq K] (F : Framework) (R : TrustRecordAdminRepository σ)
  (key : TrustRecordKey → K) (lookup : σ → K → Option TrustRecord) (Inv : σ → Prop)

/-- One step, at a server over the backend `R`. -/
def Server.serve (s : Server σ) : RegistryAction σ → Option (Server σ)
  | .didcomm env message metadata =>
    some (BaseHandler.build.handle F { env with repository := R } message metadata s).2
  | .tsp env sender doc => some (handleInbound F { env with repository := R } sender doc s).2
  | .http env body => some (handleTrustTask F { env with repository := R } body s).2
  | .load records => some { s with records }
  | .start records stored => some (.started records stored)

/-- The records of a state, and that each has an object as its context. -/
def Objects (records : σ) : Prop :=
  Inv records ∧ ∀ k r, lookup records k = some r → r.context.value.isObject = true

/-- A step stores no record whose context is not an object: an administrator's
message to create or update a record carries none, and no loaded record is one. -/
def ObjectWrites (_ : Server σ) : RegistryAction σ → Prop
  | .didcomm env message _ => message.sender ∈ env.adminDids →
    ∀ c ∈ requestedChange message, ∀ r ∈ c.result, r.context.value.isObject = true
  | .tsp _ _ _ | .http _ _ => True
  | .load records | .start records _ => Objects lookup Inv records

variable {F R key lookup Inv}

/-- A change that stores an object keeps the contexts objects. -/
theorem Objects.call (hmap : MapBacked R key lookup Inv) {s : σ} (hs : Objects lookup Inv s)
    {c : RecordChange} (hc : ∀ r ∈ c.result, r.context.value.isObject = true) :
    Objects lookup Inv (R.call s c).2 := by
  obtain ⟨hinv, hobjects⟩ := hs
  refine ⟨hmap.inv s c hinv, fun k r hr => ?_⟩
  rw [hmap.lookup_call s c hinv] at hr
  by_cases hk : k = (c.change key).key
  · subst hk
    cases hfits : (c.change key).fits (lookup s) with
    | false =>
      rw [Change.apply_of_not_fits hfits] at hr
      exact hobjects _ r hr
    | true =>
      rw [Change.apply_key hfits] at hr
      cases c with
      | create r' | update r' => exact hc r hr
      | delete q => cases hr
  · rw [Change.apply_of_ne hk] at hr
    exact hobjects k r hr

theorem Objects.callIfAny (hmap : MapBacked R key lookup Inv) {s : σ} (hs : Objects lookup Inv s)
    {change : Option RecordChange}
    (hc : ∀ c ∈ change, ∀ r ∈ c.result, r.context.value.isObject = true) :
    Objects lookup Inv (R.callIfAny s change) := by
  cases change with
  | none => exact hs
  | some c => exact hs.call hmap (hc c rfl)

/-! ### Trust Tasks -/

/-- A published record that is stored has an object as its context. -/
theorem objects_handleRecord (hmap : MapBacked R key lookup Inv) {s : σ}
    (hs : Objects lookup Inv s) (change : TrustRecord → RecordChange)
    (hresult : ∀ r, (change r).result = some r) (newId : String)
    (write : Bool → Except String Json) (doc : TrustTask) (r : SpecTrustRecord) :
    Objects lookup Inv
      (handleRecord F newId (fun s r => R.call s (change r)) write doc r.toJson s).2 := by
  have hrecord : F.specs.record r.toJson = .ok r.domain := by
    rw [Specs.record, SpecTrustRecord.ofJson_toJson_domain]
    rfl
  have hsnd : (handleRecord F newId (fun s r => R.call s (change r)) write doc r.toJson s).2
      = (R.call s (change r.domain)).2 := by
    unfold handleRecord answerChange
    rw [hrecord]
    dsimp only
    split <;> simp_all
  rw [hsnd]
  refine hs.call hmap fun r' hr' => ?_
  rw [hresult] at hr'
  obtain rfl := Option.some.inj hr'
  rfl

/-- A grant stores an empty context. -/
theorem objects_handleGrant (hmap : MapBacked R key lookup Inv) {s : σ}
    (hs : Objects lookup Inv s) (newId : String) (authority : Option String) (doc : TrustTask)
    (p : GitTrustPayload) :
    Objects lookup Inv (GitTrust.handleGrant F R newId authority doc p s).2 := by
  rw [GitTrust.handleGrant_snd]
  cases authority with
  | none => exact hs
  | some a =>
    refine hs.call hmap (c := .create (GitTrust.grantRecord a p)) fun r hr => ?_
    obtain rfl := Option.some.inj hr
    rfl

/-- A revocation stores the context that it finds. -/
theorem objects_handleRevoke (hmap : MapBacked R key lookup Inv) {s : σ}
    (hs : Objects lookup Inv s) (newId : String) (authority : Option String) (doc : TrustTask)
    (p : GitTrustPayload) :
    Objects lookup Inv (GitTrust.handleRevoke F R newId authority doc p s).2 := by
  rw [GitTrust.handleRevoke_snd]
  cases authority with
  | none => exact hs
  | some a =>
    rw [Option.elim_some]
    cases hread : R.read s (GitTrust.tuple a p) with
    | error e => exact hs
    | ok existing =>
      have hfound := ((hmap.answers hs.1).read _ existing).mp hread
      refine hs.call hmap (c := .update (GitTrust.revokedRecord a p existing)) fun r hr => ?_
      obtain rfl := Option.some.inj hr
      exact hs.2 _ existing hfound

/-- **No handler of a Trust Task stores another context.** -/
theorem objects_run (hF : F.HasSpecRecords) (hmap : MapBacked R key lookup Inv) {env : Env σ}
    (hR : env.repository = R) (h : TaskHandler) (doc : TrustTask) {s : Server σ}
    (hs : Objects lookup Inv s.records) : Objects lookup Inv (h.run F env doc s).2.records := by
  subst hR
  cases h with
  | recognition | authorization | recordRead | recordList | capabilityList =>
    rw [TaskHandler.run_of_readOnly rfl]
    exact hs
  | recordCreate =>
    refine withPayload_snd (p := fun s' => Objects lookup Inv s'.records) hs fun spec hspec => ?_
    obtain ⟨r, rfl⟩ := hF.create _ _ hspec
    exact objects_handleRecord hmap hs .create (fun _ => rfl) env.newId _ doc r
  | recordUpdate =>
    refine withPayload_snd (p := fun s' => Objects lookup Inv s'.records) hs fun spec hspec => ?_
    obtain ⟨r, rfl⟩ := hF.update _ _ hspec
    exact objects_handleRecord hmap hs .update (fun _ => rfl) env.newId _ doc r
  | recordDelete =>
    refine withPayload_snd (p := fun s' => Objects lookup Inv s'.records) hs fun q _ => ?_
    have hdelete := hs.call hmap (c := .delete (queryOf q)) fun r hr => by cases hr
    unfold Server.onRecords handleDelete answerChange
    dsimp only
    split <;> simp_all [TrustRecordAdminRepository.call]
  | capabilityEnable | capabilityDisable =>
    exact withPayload_snd (p := fun s' => Objects lookup Inv s'.records) hs fun _ _ => hs
  | gitTrustGrant authority =>
    exact withPayload_snd (p := fun s' => Objects lookup Inv s'.records) hs fun p _ =>
      objects_handleGrant hmap hs env.newId authority doc p
  | gitTrustRevoke authority =>
    exact withPayload_snd (p := fun s' => Objects lookup Inv s'.records) hs fun p _ =>
      objects_handleRevoke hmap hs env.newId authority doc p

theorem objects_handleDocument (hF : F.HasSpecRecords) (hmap : MapBacked R key lookup Inv)
    {env : Env σ} (hR : env.repository = R) (dispatcher : Dispatcher TaskHandler) (doc : TrustTask)
    {s : Server σ} (hs : Objects lookup Inv s.records) :
    Objects lookup Inv (handleDocument F env dispatcher s doc).2.records := by
  unfold handleDocument
  split
  · next h _ => exact objects_run hF hmap hR h doc hs
  · exact hs

theorem objects_dispatchThrough (hF : F.HasSpecRecords) (hmap : MapBacked R key lookup Inv)
    {env : Env σ} (hR : env.repository = R) (dispatcher : Dispatcher TaskHandler) (doc : TrustTask)
    {s : Server σ} (hs : Objects lookup Inv s.records) :
    Objects lookup Inv (dispatchThrough F env dispatcher s doc).2.records := by
  rcases dispatchThrough_snd (F := F) dispatcher s doc with ⟨h, _⟩ | ⟨h, _⟩
  · rw [h]
    exact hs
  · rw [h]
    exact objects_handleDocument hF hmap hR dispatcher doc hs

/-! ### Steps and runs -/

/-- A DIDComm message that stores no other context keeps the contexts objects. -/
theorem objects_didcomm (hF : F.HasSpecRecords) (hmap : MapBacked R key lookup Inv)
    {env : DidcommEnv σ} (hR : env.repository = R) {message : Message} (metadata : UnpackMetadata)
    {s : Server σ} (hs : Objects lookup Inv s.records)
    (hmessage : message.sender ∈ env.adminDids →
      ∀ c ∈ requestedChange message, ∀ r ∈ c.result, r.context.value.isObject = true) :
    Objects lookup Inv (BaseHandler.build.handle F env message metadata s).2.records := by
  unfold BaseHandler.handle
  dsimp only
  split
  · next ph _ =>
    cases ph with
    | trqp | problemReport => exact hs
    | tradmin =>
      show Objects lookup Inv (AdminMessagesHandler.handle env _ message metadata s.records).2
      rw [AdminMessagesHandler.handle_snd]
      split
      · next hsender =>
        subst hR
        exact hs.callIfAny hmap (hmessage hsender)
      · exact hs
    | trustTasks =>
      show Objects lookup Inv (TrustTasksHandler.handle F env.toEnv message.sender message.body
        s).2.records
      unfold TrustTasksHandler.handle
      split
      · exact hs
      · split
        · exact hs
        · split
          · -- a rotation leaves the records alone
            rw [(handleDidRotate_snd s _).1]
            exact hs
          · exact objects_dispatchThrough hF hmap hR _ _ hs
  · exact hs

/-- **A step that stores no other context keeps the contexts objects.** -/
theorem objects_serve (hF : F.HasSpecRecords) (hmap : MapBacked R key lookup Inv)
    {s s' : Server σ} {a : RegistryAction σ} (hs : Objects lookup Inv s.records)
    (ha : ObjectWrites lookup Inv s a) (h : s.serve F R a = some s') :
    Objects lookup Inv s'.records := by
  cases a with
  | didcomm env message metadata =>
    obtain rfl := Option.some.inj h
    have hR : ({ env with repository := R } : DidcommEnv σ).repository = R := rfl
    exact objects_didcomm hF hmap hR metadata hs ha
  | tsp env sender doc =>
    obtain rfl := Option.some.inj h
    have hR : ({ env with repository := R } : Env σ).repository = R := rfl
    unfold handleInbound
    split
    · exact hs
    · exact objects_dispatchThrough hF hmap hR _ doc hs
  | http env body =>
    obtain rfl := Option.some.inj h
    have hR : ({ env with repository := R } : Env σ).repository = R := rfl
    unfold handleTrustTask
    split
    · exact hs
    · split
      · exact hs
      · split
        · exact hs
        · exact objects_handleDocument hF hmap hR _ _ hs
  | load records =>
    obtain rfl := Option.some.inj h
    exact ha
  | start records stored =>
    obtain rfl := Option.some.inj h
    exact ha

/-- What a file loads has objects as contexts when each of its rows has one. -/
theorem objects_loaded {csv : CsvCrate} {codec : ContextCodec} {contents : String}
    {t : RecordTable} (h : FileTable.parseCsv csv codec contents = .ok t)
    (hrows : ∀ row r, .ok row ∈ csv.deserialize contents →
      TrustRecordCsvRow.intoRecord codec row = .ok r → r.context.value.isObject = true) :
    ∀ k r, t.get? k = some r → r.context.value.isObject = true := by
  have hfold : ∀ (rows : List (Except String TrustRecordCsvRow)) (t₀ : RecordTable),
      (∀ row r, .ok row ∈ rows → TrustRecordCsvRow.intoRecord codec row = .ok r →
        r.context.value.isObject = true) →
      (∀ k r, t₀.get? k = some r → r.context.value.isObject = true) →
      rows.foldlM (fun (t : RecordTable) row => do
        let row ← row
        let record ← TrustRecordCsvRow.intoRecord codec row
        return t.insert (.fromRecord record) record) t₀ = .ok t →
      ∀ k r, t.get? k = some r → r.context.value.isObject = true := by
    intro rows
    induction rows with
    | nil =>
      intro t₀ _ ht₀ hrun
      obtain rfl := Except.ok.inj hrun
      exact ht₀
    | cons row rows ih =>
      intro t₀ hrows ht₀ hrun
      rw [List.foldlM_cons] at hrun
      cases row with
      | error e => cases hrun
      | ok row =>
        cases hrecord : TrustRecordCsvRow.intoRecord codec row with
        | error e =>
          simp only [bind, Except.bind, hrecord] at hrun
          cases hrun
        | ok record =>
          simp only [bind, Except.bind, pure, Except.pure, hrecord] at hrun
          refine ih (t₀.insert (.fromRecord record) record)
            (fun row' r hr => hrows row' r (List.mem_cons_of_mem _ hr)) ?_ hrun
          intro k r hr
          rw [AssocMap.get?_insert] at hr
          split at hr
          · obtain rfl := Option.some.inj hr
            exact hrows row record List.mem_cons_self hrecord
          · exact ht₀ k r hr
  exact hfold _ AssocMap.empty hrows (fun k r hr => by simp at hr) h

/-- **One record never hides the others while all contexts are objects.**  In every
state, every record is listed and read exactly when the context of each is an
object; after any run whose steps store no other context they are; and what a file
loads is such a step when each of its rows has an object as its context. -/
theorem one_record_hides_none (hF : F.HasSpecRecords) (hmap : MapBacked R key lookup Inv) :
    (∀ s : Server σ, Inv s.records → (HidesNothing F R s.records ↔
      ∀ k r, lookup s.records k = some r → r.context.value.isObject = true)) ∧
    (∀ (s s' : Server σ) as, Objects lookup Inv s.records →
      Run (Server.serve F R) (ObjectWrites lookup Inv) s as s' → HidesNothing F R s'.records) ∧
    ∀ csv codec path (file : CsvFile) lastSeen (t : RecordTable) modified,
      FileTable.loadIfModified csv codec path (some file) lastSeen = .ok (some (t, modified)) →
      (∀ row r, .ok row ∈ csv.deserialize (Trim.trim file.text) →
        TrustRecordCsvRow.intoRecord codec row = .ok r → r.context.value.isObject = true) →
      Objects (fun t : RecordTable => t.get?) RecordTable.Keyed t := by
  refine ⟨fun s hs => hidesNothing_iff hF hmap hs, ?_, ?_⟩
  · intro s s' as hs hrun
    have hs' : Objects lookup Inv s'.records := hrun.invariant
      (I := fun s => Objects lookup Inv s.records)
      (fun _ _ _ hs ha hstep => objects_serve hF hmap hs ha hstep) hs
    exact (hidesNothing_iff hF hmap hs'.1).mpr hs'.2
  · intro csv codec path file lastSeen t modified hload hrows
    refine ⟨FileTable.keyed_loaded hload, ?_⟩
    unfold FileTable.loadIfModified at hload
    dsimp only at hload
    split at hload
    · cases hload
    · cases hparse : FileTable.parseCsv csv codec (Trim.trim file.text) with
      | error e =>
        rw [hparse] at hload
        cases hload
      | ok t' =>
        rw [hparse] at hload
        obtain ⟨rfl, -⟩ := Prod.mk.inj (Option.some.inj (Except.ok.inj hload))
        exact objects_loaded hparse hrows

end

/-! ### A record that hides the others -/

/-- A framework with the published record types. -/
def specFramework : Framework :=
  let carried (j : Json) : Except String Json :=
    ((j.get "record").bind SpecTrustRecord.ofJson).elim (.error "missing field") fun r => .ok r.toJson
  { createFramework with
    specs :=
      { Framework.sampleSpecs with
        recordCreate := carried
        recordUpdate := carried
        recordReadResponse := fun j =>
          (SpecTrustRecord.ofJson j).elim (.error "invalid record") fun r => .ok r.toJson
        recordListResponse := fun j =>
          match j.get "records" with
          | some (.arr l) =>
            (l.mapM SpecTrustRecord.ofJson).elim (.error "invalid record") fun rs =>
              .ok (.obj [("records", .arr (rs.map SpecTrustRecord.toJson))])
          | _ => .error "missing field" } }

theorem specFramework_hasSpecRecords : specFramework.HasSpecRecords where
  payload _ _ _ := rfl
  read j r h := by simp [specFramework, h]
  read_error j h := by simp [specFramework, h]
  list l rs h := by simp [specFramework, Json.get, Json.member_cons, h]
  list_error l h := by simp [specFramework, Json.get, Json.member_cons, h]
  create j j' h := by
    cases hr : (j.get "record").bind SpecTrustRecord.ofJson with
    | none => simp [specFramework, hr] at h
    | some r =>
      simp only [specFramework, hr, Option.elim_some] at h
      exact ⟨r, (Except.ok.inj h).symm⟩
  update j j' h := by
    cases hr : (j.get "record").bind SpecTrustRecord.ofJson with
    | none => simp [specFramework, hr] at h
    | some r =>
      simp only [specFramework, hr, Option.elim_some] at h
      exact ⟨r, (Except.ok.inj h).symm⟩

/-- The creation of another record, with the context that is supplied. -/
def createWithContext (context : Json) : Message where
  id := "m-2"
  typ := AuditOperation.messageType .create
  body := .obj [("entity_id", .str "did:web:other"), ("authority_id", .str "did:web:authority"),
    ("action", .str "issue"), ("resource", .str "vc"), ("recognized", .bool true),
    ("authorized", .bool true), ("context", context), ("record_type", .str "authorization")]
  fromDid := some "did:web:admin"

/-- A creation whose context is a number. -/
def numericContextCreate : Message := createWithContext (.num 5 0)

/-- A creation whose context is an object. -/
def objectContextCreate : Message := createWithContext (.obj [("level", .str "high")])

/-- The registry after messages. -/
def afterMessages (messages : List Message) : Option (Server LocalStorage) :=
  exec (Server.serve specFramework LocalStorage.repository) emptyServer
    (messages.map fun m => .didcomm sampleDidcommEnv m plaintext)

theorem objects_emptyServer :
    Objects (fun s : LocalStorage => s.records.map.get?) (fun s => RecordTable.Keyed s.records.map)
      emptyServer.records :=
  ⟨RecordMap.keyed _, fun k r h => by simp [emptyServer, Server.started, LocalStorage.new,
    RecordMap.empty] at h⟩

/-- Two records, of which one is created without a context and one with an object,
are both listed, and each is read. -/
theorem object_context_hides_none :
    ∃ s, afterMessages [claimedAdminCreate, objectContextCreate] = some s ∧
      (∃ l, LocalStorage.repository.list s.records = .ok l ∧
        l.map (fun r => r.context.value) = [.obj [], .obj [("level", .str "high")]]) ∧
      HidesNothing specFramework LocalStorage.repository s.records := by
  refine ⟨_, rfl, ⟨_, rfl, rfl⟩,
    (one_record_hides_none specFramework_hasSpecRecords LocalStorage.mapBacked).2.1
      emptyServer _ [.didcomm sampleDidcommEnv claimedAdminCreate plaintext,
        .didcomm sampleDidcommEnv objectContextCreate plaintext] objects_emptyServer
      (.cons ?_ rfl (.single ?_ rfl))⟩
  · intro _ c hc r hr
    obtain rfl : _ = c := Option.some.inj hc
    obtain rfl : _ = r := Option.some.inj hr
    rfl
  · intro _ c hc r hr
    obtain rfl : _ = c := Option.some.inj hc
    obtain rfl : _ = r := Option.some.inj hr
    rfl

/-- **One record with a number as its context hides all others.**  After two
messages of an administrator two records are stored; every listing is rejected,
and the second record cannot be read. -/
theorem numeric_context_hides_all :
    ∃ s, afterMessages [claimedAdminCreate, numericContextCreate] = some s ∧
      (∃ l, LocalStorage.repository.list s.records = .ok l ∧ l.length = 2) ∧
      (∀ newId doc, ∃ e, handleList specFramework LocalStorage.repository newId doc s.records
        = reject specFramework newId doc (.internalError e)) ∧
      ∀ newId doc, ∃ e, handleRead specFramework LocalStorage.repository newId doc
        ⟨"did:web:other", "did:web:authority", "issue", "vc", none⟩ s.records
        = reject specFramework newId doc (.internalError e) :=
  ⟨_, rfl, ⟨_, rfl, rfl⟩, fun _ _ => ⟨"invalid record", rfl⟩, fun _ _ => ⟨"invalid record", rfl⟩⟩

end TrustRegistry
