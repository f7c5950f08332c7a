import TrustRegistry.Didcomm.BaseHandler
import TrustRegistry.Storage.MapBacked

/-!
# Moving records through the administration protocol

Records are exported by listing or reading them, and imported by sending what was
answered as the body of a request to create a record.  The answers lack a field that
the request must have, the type of the record.

## Main definitions

* `importRecords` — bodies sent to create records, one after the other.
* `SameRecord` — the records of a tuple, with all that is to be kept.
* `Lossless` — everything that is exported can be imported, and is kept.
* `NothingStored` — a registry with nothing to export.

## Main results

* `perform_create_recordJson` — no exported record can be imported.
* `build_completedJson` — its type is all that it lacks.
* `lossless_iff` — only a registry with nothing to export is moved without loss.
-/

namespace TrustRegistry

/-! ### Exporting and importing -/

section

variable {σ τ : Type*}

/-- Send bodies to create records, one after the other. -/
def importRecords (env : DidcommEnv τ) : List Json → τ → List (Except String Json) × τ
  | [], t => ([], t)
  | body :: bodies, t =>
    let (answer, t) := AdminMessagesHandler.perform env .create body t
    let (answers, t) := importRecords env bodies t
    (answer :: answers, t)

/-- Two records of one tuple, with the same answers, context and type. -/
structure SameRecord (r r' : TrustRecord) : Prop where
  query : r'.query = r.query
  isRecognized : r'.isRecognized = r.isRecognized
  isAuthorized : r'.isAuthorized = r.isAuthorized
  context : r'.context = r.context
  recordType : r'.recordType = r.recordType

/-- The records of a registry are moved without loss: what is listed, or read, is sent
to create records; all of it succeeds, and the record of each tuple is then the same. -/
structure Lossless (env : DidcommEnv σ) (s : σ) (target : DidcommEnv τ) (t : τ) : Prop where
  list : ∀ request body, (AdminMessagesHandler.perform env .list request s).1 = .ok body →
    (∀ answer ∈ (importRecords target (body.items "records") t).1, ∃ named, answer = .ok named) ∧
      ∀ records, env.repository.list s = .ok records → ∀ r ∈ records, ∃ r',
        target.repository.read (importRecords target (body.items "records") t).2 r.query = .ok r' ∧
          SameRecord r r'
  read : ∀ request body, (AdminMessagesHandler.perform env .read request s).1 = .ok body →
    (∃ named, (AdminMessagesHandler.perform target .create body t).1 = .ok named) ∧
      ∀ q r, (TupleRequest.ofJson request).map TupleRequest.query = some q →
        env.repository.read s q = .ok r → ∃ r',
          target.repository.read (AdminMessagesHandler.perform target .create body t).2 r.query
            = .ok r' ∧ SameRecord r r'

/-- A registry with nothing to export: no record is listed, and none can be read. -/
structure NothingStored (R : TrustRecordAdminRepository σ) (s : σ) : Prop where
  list : ∀ records, R.list s = .ok records → records = []
  read : ∀ q r, R.read s q ≠ .ok r

end

/-! ### What an exported record lacks -/

/-- The type of a record is not in what is exported of it. -/
theorem recordJson_recordType (r : TrustRecord) (t : RecordType) :
    recordJson { r with recordType := t } = recordJson r := rfl

/-- What is exported of a record does not decode as a request to create one. -/
theorem ofJson_recordJson (r : TrustRecord) : RecordRequest.ofJson (recordJson r) = none := by
  cases hcontext : Json.optional some (some r.context.value) <;>
    simp [RecordRequest.ofJson, recordJson, Json.member_cons, Json.asStr, Json.asBool, hcontext]

/-- What is exported of a record, with the type put back. -/
def completedJson (r : TrustRecord) : Json :=
  .obj [("entity_id", .str r.entityId.asStr), ("authority_id", .str r.authorityId.asStr),
    ("action", .str r.action.asStr), ("resource", .str r.resource.asStr),
    ("recognized", .bool r.isRecognized), ("authorized", .bool r.isAuthorized),
    ("context", r.context.value), ("record_type", .str r.recordType.display)]

/-- **The type of the record is all that is missing**: with it the request carries the
same record, unless the context is `null`, which counts as none. -/
theorem build_completedJson (r : TrustRecord) (hcontext : r.context.value ≠ .null) :
    ∃ request r', RecordRequest.ofJson (completedJson r) = some request ∧
      request.build = .ok r' ∧ SameRecord r r' := by
  have hoptional : Json.optional some (some r.context.value) = some (some r.context.value) := by
    cases hvalue : r.context.value with
    | null => exact absurd hvalue hcontext
    | _ => rfl
  refine ⟨⟨r.entityId.asStr, r.authorityId.asStr, r.action.asStr, r.resource.asStr,
    r.isRecognized, r.isAuthorized, some r.context.value, r.recordType.display⟩,
    { r with recognized := some r.isRecognized, authorized := some r.isAuthorized }, ?_, ?_, ?_⟩
  · simp [RecordRequest.ofJson, completedJson, Json.member_cons, Json.asStr, Json.asBool, hoptional]
  · rw [RecordRequest.build, RecordType.fromStr_display]
    rfl
  · exact ⟨rfl, rfl, rfl, rfl, rfl⟩

section

variable {σ τ : Type*} {env : DidcommEnv σ} {target : DidcommEnv τ} {s : σ} {t : τ}

/-- **No exported record can be imported.** -/
theorem perform_create_recordJson (target : DidcommEnv τ) (r : TrustRecord) (t : τ) :
    AdminMessagesHandler.perform target .create (recordJson r) t =
      (.error (target.decodeError "CreateRecordRequest" (recordJson r)), t) := by
  show handleRecordRequest target "CreateRecordRequest" target.repository.create (recordJson r) t
    = _
  unfold handleRecordRequest
  rw [ofJson_recordJson]

/-- What is listed is the records, as they are exported. -/
theorem items_of_list {request body : Json}
    (h : (AdminMessagesHandler.perform env .list request s).1 = .ok body) :
    ∃ records, env.repository.list s = .ok records ∧
      body.items "records" = records.map recordJson := by
  replace h : handleListRecords env s = .ok body := h
  unfold handleListRecords at h
  cases hlist : env.repository.list s with
  | error e =>
    rw [hlist] at h
    cases h
  | ok records =>
    rw [hlist] at h
    obtain rfl := Except.ok.inj h
    exact ⟨records, rfl, rfl⟩

/-- What is listed can be exported. -/
theorem perform_list_of_ok (env : DidcommEnv σ) {records : List TrustRecord}
    (h : env.repository.list s = .ok records) :
    ∃ body, (AdminMessagesHandler.perform env .list .null s).1 = .ok body ∧
      body.items "records" = records.map recordJson := by
  refine ⟨.obj [("records", .arr (records.map recordJson)), ("count", .num records.length 0)], ?_,
    rfl⟩
  show handleListRecords env s = _
  rw [handleListRecords, h]
  rfl

/-- A tuple, as a request names it. -/
theorem ofJson_tupleJson (q : TrustRecordQuery) :
    (TupleRequest.ofJson (tupleJson q.entityId.asStr q.authorityId.asStr q.action.asStr
      q.resource.asStr)).map TupleRequest.query = some q := by
  simp [TupleRequest.ofJson, tupleJson, Json.member_cons, Json.asStr, TupleRequest.query]

/-- What is read can be exported. -/
theorem perform_read_of_ok {request : Json} {q : TrustRecordQuery} {r : TrustRecord}
    (hrequest : (TupleRequest.ofJson request).map TupleRequest.query = some q)
    (h : env.repository.read s q = .ok r) :
    (AdminMessagesHandler.perform env .read request s).1 = .ok (recordJson r) := by
  obtain ⟨named, hnamed, rfl⟩ := Option.map_eq_some_iff.mp hrequest
  show handleReadRecord env request s = _
  rw [handleReadRecord, hnamed]
  dsimp only
  rw [h]
  rfl

/-- A body that answers a request to read is of a record that can be read. -/
theorem read_of_perform_ok {request body : Json}
    (h : (AdminMessagesHandler.perform env .read request s).1 = .ok body) :
    ∃ q r, env.repository.read s q = .ok r := by
  replace h : handleReadRecord env request s = .ok body := h
  unfold handleReadRecord at h
  cases hrequest : TupleRequest.ofJson request with
  | none =>
    rw [hrequest] at h
    cases h
  | some named =>
    rw [hrequest] at h
    dsimp only at h
    cases hread : env.repository.read s named.query with
    | error e =>
      rw [hread] at h
      cases h
    | ok r => exact ⟨named.query, r, hread⟩

/-- **Only a registry with nothing to export is moved without loss**, to any other, an
empty one included. -/
theorem lossless_iff (env : DidcommEnv σ) (s : σ) (target : DidcommEnv τ) (t : τ) :
    Lossless env s target t ↔ NothingStored env.repository s := by
  constructor
  · intro h
    refine ⟨fun records hlist => ?_, fun q r hread => ?_⟩
    · obtain ⟨body, hbody, hitems⟩ := perform_list_of_ok env hlist
      obtain ⟨hanswers, -⟩ := h.list .null body hbody
      cases records with
      | nil => rfl
      | cons r records =>
        -- the first record is sent first, and refused
        rw [hitems, List.map_cons, importRecords, perform_create_recordJson] at hanswers
        obtain ⟨named, hnamed⟩ := hanswers _ List.mem_cons_self
        cases hnamed
    · have hbody := perform_read_of_ok (ofJson_tupleJson q) hread
      obtain ⟨⟨named, hnamed⟩, -⟩ := h.read _ _ hbody
      rw [perform_create_recordJson] at hnamed
      cases hnamed
  · intro h
    constructor
    · intro request body hbody
      obtain ⟨records, hlist, hitems⟩ := items_of_list hbody
      obtain rfl := h.list records hlist
      rw [hitems]
      refine ⟨fun answer hanswer => absurd hanswer List.not_mem_nil, fun records hlist' r hr => ?_⟩
      obtain rfl := h.list records hlist'
      exact absurd hr List.not_mem_nil
    · intro request body hbody
      obtain ⟨q, r, hread⟩ := read_of_perform_ok hbody
      exact absurd hread (h.read q r)

end

/-- A backend that keeps a table has nothing to export exactly when no tuple has a record
in it. -/
theorem nothingStored_iff {σ K : Type*} [DecidableEq K] {R : TrustRecordAdminRepository σ}
    {key : TrustRecordKey → K} {m : K → Option TrustRecord} {s : σ} (h : MapAnswers R key m s) :
    NothingStored R s ↔ ∀ k, m k = none := by
  obtain ⟨records, hlist, entries, _, hentries, hperm⟩ := h.list
  constructor
  · intro hnothing k
    obtain rfl := hnothing.list records hlist
    have hnil : entries = [] := List.map_eq_nil_iff.mp hperm.nil_eq.symm
    rw [Option.eq_none_iff_forall_ne_some]
    intro r hr
    have hmem := (hentries k r).mpr hr
    rw [hnil] at hmem
    cases hmem
  · intro hempty
    refine ⟨fun records' hlist' => ?_, fun q r hread => ?_⟩
    · rw [hlist] at hlist'
      obtain rfl := Except.ok.inj hlist'
      have hnil : entries = [] := by
        rw [List.eq_nil_iff_forall_not_mem]
        rintro ⟨k, r⟩ hmem
        have hr := (hentries k r).mp hmem
        rw [hempty k] at hr
        cases hr
      rw [hnil] at hperm
      exact hperm.eq_nil
    · have hr := (h.read q r).mp hread
      rw [hempty] at hr
      cases hr

/-- A registry that holds one record. -/
def registryToExport : LocalStorage := (LocalStorage.repository.create .new newRecord).2

/-- **An exported record is refused**: it is listed, and the body in which it is listed
does not decode as a request to create it in an empty registry. -/
theorem exported_record_refused :
    LocalStorage.repository.list registryToExport = .ok [newRecord] ∧
      (AdminMessagesHandler.perform sampleDidcommEnv .list .null registryToExport).1 =
        .ok (.obj [("records", .arr [recordJson newRecord]), ("count", .num 1 0)]) ∧
      (AdminMessagesHandler.perform sampleDidcommEnv .create (recordJson newRecord) .new).1 =
        .error "CreateRecordRequest" ∧
      ¬ Lossless sampleDidcommEnv registryToExport sampleDidcommEnv LocalStorage.new := by
  have hlist : LocalStorage.repository.list registryToExport = .ok [newRecord] := by decide
  refine ⟨hlist, ?_, ?_, fun h => ?_⟩
  · show handleListRecords sampleDidcommEnv registryToExport = _
    rw [handleListRecords, show sampleDidcommEnv.repository.list registryToExport = _ from hlist]
    rfl
  · rw [perform_create_recordJson]
    rfl
  · obtain ⟨body, hbody, hitems⟩ := perform_list_of_ok sampleDidcommEnv hlist
    obtain ⟨hanswers, -⟩ := h.list .null body hbody
    rw [hitems, List.map_cons, importRecords, perform_create_recordJson] at hanswers
    obtain ⟨named, hnamed⟩ := hanswers _ List.mem_cons_self
    cases hnamed

end TrustRegistry
