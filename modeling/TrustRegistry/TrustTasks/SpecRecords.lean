import TrustRegistry.Storage.MapRefinement
import TrustRegistry.TrustTasks.Router

/-!
# Records in their published form

The answers to the reading tasks go through the generated record type of the
published specification: a record is written, read as the published one, and
written again.  The published type has the identifiers and the flags of ours, but
its context is an object, left out when it is empty, where ours is any document.

A listing is read and written as a whole.

## Main definitions

* `SpecTrustRecord` — the published records, and their JSON form.
* `Framework.HasSpecRecords` — the framework's record types are these.
* `HidesNothing` — every stored record is listed and read.

## Main results

* `SpecTrustRecord.exists_ofJson_iff` — which of our records can be read as
  published ones.
* `hidesNothing_iff` — every record is listed and read exactly when the context of
  each is an object.
-/

namespace TrustRegistry

/-! ### Published records -/

/-- A record of the published specification. -/
structure SpecTrustRecord where
  entityId : String
  authorityId : String
  action : String
  resource : String
  recognized : Option Bool
  authorized : Option Bool
  context : List (String × Json)
  recordType : RecordType
  deriving DecidableEq

namespace SpecTrustRecord

/-- The context in the members of a record: an object, empty when it is absent. -/
def contextOf : Option Json → Option (List (String × Json))
  | none => some []
  | some (.obj c) => some c
  | some _ => none

/-- Read a record from its JSON form. -/
def ofJson (j : Json) : Option SpecTrustRecord := do
  let m ← j.fields TrustRecord.fieldNames
  let entityId ← (Json.member "entity_id" m).bind Json.asStr
  let authorityId ← (Json.member "authority_id" m).bind Json.asStr
  let action ← (Json.member "action" m).bind Json.asStr
  let resource ← (Json.member "resource" m).bind Json.asStr
  let recognized ← Json.optional Json.asBool (Json.member "recognized" m)
  let authorized ← Json.optional Json.asBool (Json.member "authorized" m)
  let context ← contextOf (Json.member "context" m)
  let name ← (Json.member "record_type" m).bind Json.asStr
  let recordType ← [RecordType.authorization, .recognition].find? (·.display = name)
  return { entityId, authorityId, action, resource, recognized, authorized, context, recordType }

/-- The JSON form of a record.  An answer that is absent and a context that is
empty are left out. -/
def toJson (r : SpecTrustRecord) : Json :=
  .obj ([("entity_id", .str r.entityId), ("authority_id", .str r.authorityId),
      ("action", .str r.action), ("resource", .str r.resource)]
    ++ r.recognized.toList.map (fun b => ("recognized", .bool b))
    ++ r.authorized.toList.map (fun b => ("authorized", .bool b))
    ++ (if r.context.isEmpty then [] else [("context", .obj r.context)])
    ++ [("record_type", .str r.recordType.display)])

/-- The record as ours. -/
def domain (r : SpecTrustRecord) : TrustRecord where
  entityId := ⟨r.entityId⟩
  authorityId := ⟨r.authorityId⟩
  action := ⟨r.action⟩
  resource := ⟨r.resource⟩
  recognized := r.recognized
  authorized := r.authorized
  context := ⟨.obj r.context⟩
  recordType := r.recordType

/-- A published record is read as ours. -/
@[simp] theorem ofJson_toJson_domain (r : SpecTrustRecord) :
    TrustRecord.ofJson r.toJson = some r.domain := by
  obtain ⟨e, a, ac, re, recognized, authorized, context, t⟩ := r
  -- the answers and the context may be left out, which moves the later members
  rcases recognized with _ | b <;> rcases authorized with _ | b' <;>
    rcases context with _ | ⟨c, cs⟩ <;>
    simp [toJson, TrustRecord.ofJson, Json.member_cons, Json.asStr]
  all_goals rfl

/-- A record of ours that has an object as its context is read as a published one. -/
theorem ofJson_toJson_of_obj {r : TrustRecord} {c : List (String × Json)}
    (hc : r.context.value = .obj c) :
    ∃ r' : SpecTrustRecord, ofJson r.toJson = some r' ∧ r'.domain = r := by
  obtain ⟨⟨e⟩, ⟨a⟩, ⟨ac⟩, ⟨re⟩, recognized, authorized, ⟨v⟩, t⟩ := r
  obtain rfl : v = .obj c := hc
  refine ⟨⟨e, a, ac, re, recognized, authorized, c, t⟩, ?_, rfl⟩
  rcases recognized with _ | b <;> rcases authorized with _ | b' <;> cases t <;> rfl

/-- One that has anything else is not. -/
theorem ofJson_toJson_of_not_obj {r : TrustRecord} (hr : r.context.value.isObject = false) :
    ofJson r.toJson = none := by
  obtain ⟨⟨e⟩, ⟨a⟩, ⟨ac⟩, ⟨re⟩, recognized, authorized, ⟨v⟩, t⟩ := r
  cases v with
  | obj c => cases hr
  | null | bool b | num m x | str s | arr l =>
    rcases recognized with _ | b <;> rcases authorized with _ | b' <;> rfl

/-- **Which of our records can be read as published ones**: those with an object as
their context. -/
theorem exists_ofJson_iff {r : TrustRecord} :
    (∃ r' : SpecTrustRecord, ofJson r.toJson = some r') ↔ r.context.value.isObject = true := by
  cases h : r.context.value with
  | obj c =>
    obtain ⟨r', hr', _⟩ := ofJson_toJson_of_obj h
    simp [hr', Json.isObject]
  | null | bool b | num m x | str s | arr l =>
    simp [ofJson_toJson_of_not_obj (r := r) (by rw [h]; rfl), Json.isObject]

/-- Read the records of a listing. -/
theorem mapM_ofJson_of_objects {l : List TrustRecord}
    (hl : ∀ r ∈ l, r.context.value.isObject = true) :
    ∃ rs : List SpecTrustRecord,
      (l.map TrustRecord.toJson).mapM ofJson = some rs ∧ rs.map domain = l := by
  induction l with
  | nil => exact ⟨[], rfl, rfl⟩
  | cons r l ih =>
    obtain ⟨rs, hrs, hdomain⟩ := ih fun r' hr' => hl r' (List.mem_cons_of_mem r hr')
    obtain ⟨c, hc⟩ : ∃ c, r.context.value = .obj c := by
      have hobject := hl r List.mem_cons_self
      cases h : r.context.value with
      | obj c => exact ⟨c, rfl⟩
      | null | bool b | num m x | str s | arr l => simp [h, Json.isObject] at hobject
    obtain ⟨r', hr', hr⟩ := ofJson_toJson_of_obj hc
    refine ⟨r' :: rs, ?_, by rw [List.map_cons, hr, hdomain]⟩
    rw [List.map_cons, List.mapM_cons, hr', hrs]
    rfl

/-- One record that cannot be read is enough for none to be. -/
theorem mapM_ofJson_of_not_object {l : List TrustRecord} {r : TrustRecord} (hr : r ∈ l)
    (hobject : r.context.value.isObject = false) :
    (l.map TrustRecord.toJson).mapM ofJson = none := by
  induction l with
  | nil => simp at hr
  | cons r' l ih =>
    rw [List.map_cons, List.mapM_cons]
    rcases List.mem_cons.mp hr with rfl | hr
    · rw [ofJson_toJson_of_not_obj hobject]
      rfl
    · rw [ih hr]
      cases ofJson r'.toJson <;> rfl

end SpecTrustRecord

/-- The record types of the framework are the published ones: a record read and
written again, a list of them likewise, and the record that a creation or an update
carries.  An answer carries its payload. -/
structure Framework.HasSpecRecords (F : Framework) : Prop where
  payload : ∀ doc id j, (F.respondWith doc id j).payload = j
  read : ∀ j r, SpecTrustRecord.ofJson j = some r → F.specs.recordReadResponse j = .ok r.toJson
  read_error : ∀ j, SpecTrustRecord.ofJson j = none → ∃ e, F.specs.recordReadResponse j = .error e
  list : ∀ l rs, l.mapM SpecTrustRecord.ofJson = some rs →
    F.specs.recordListResponse (.obj [("records", .arr l)])
      = .ok (.obj [("records", .arr (rs.map SpecTrustRecord.toJson))])
  list_error : ∀ l, l.mapM SpecTrustRecord.ofJson = none →
    ∃ e, F.specs.recordListResponse (.obj [("records", .arr l)]) = .error e
  create : ∀ j j', F.specs.recordCreate j = .ok j' → ∃ r : SpecTrustRecord, j' = r.toJson
  update : ∀ j j', F.specs.recordUpdate j = .ok j' → ∃ r : SpecTrustRecord, j' = r.toJson

/-! ### Reading and listing -/

section

variable {σ : Type*} (F : Framework) (R : TrustRecordAdminRepository σ)

/-- The records of a listing, as ours. -/
def listedRecords (j : Json) : Option (List TrustRecord) :=
  match j.get "records" with
  | some (.arr items) => items.mapM TrustRecord.ofJson
  | _ => none

/-- Listing succeeds with every stored record, and reading with the record of each
tuple that has one. -/
structure HidesNothing (s : σ) : Prop where
  list : ∀ newId doc, ∃ l out, R.list s = .ok l ∧ handleList F R newId doc s = .ok out ∧
    listedRecords out.payload = some l
  read : ∀ newId doc p r, R.findByQuery s (queryOf p) = .ok (some r) →
    ∃ out, handleRead F R newId doc p s = .ok out ∧ TrustRecord.ofJson out.payload = some r

variable {F R}

/-- Records with objects as contexts are listed. -/
theorem handleList_of_objects (hF : F.HasSpecRecords) {s : σ} {l : List TrustRecord}
    (hlist : R.list s = .ok l) (hl : ∀ r ∈ l, r.context.value.isObject = true) (newId : String)
    (doc : TrustTask) :
    ∃ out, handleList F R newId doc s = .ok out ∧ listedRecords out.payload = some l := by
  obtain ⟨rs, hrs, hdomain⟩ := SpecTrustRecord.mapM_ofJson_of_objects hl
  have hform := hF.list _ rs hrs
  refine ⟨F.respondWith doc newId (.obj [("records", .arr (rs.map SpecTrustRecord.toJson))]),
    ?_, ?_⟩
  · rw [handleList, hlist]
    simp only [Except.map, answerForm, hform]
  · rw [hF.payload]
    have hread : ∀ rs : List SpecTrustRecord,
        (rs.map SpecTrustRecord.toJson).mapM TrustRecord.ofJson
          = some (rs.map SpecTrustRecord.domain) := by
      intro rs
      induction rs with
      | nil => rfl
      | cons r rs ih =>
        rw [List.map_cons, List.mapM_cons, SpecTrustRecord.ofJson_toJson_domain, ih]
        rfl
    exact (hread rs).trans (congrArg some hdomain)

/-- One record with another context is enough for the listing to fail. -/
theorem handleList_of_not_object (hF : F.HasSpecRecords) {s : σ} {l : List TrustRecord}
    (hlist : R.list s = .ok l) {r : TrustRecord} (hr : r ∈ l)
    (hobject : r.context.value.isObject = false) (newId : String) (doc : TrustTask) :
    ∃ e, handleList F R newId doc s = reject F newId doc (.internalError e) := by
  obtain ⟨e, he⟩ := hF.list_error _ (SpecTrustRecord.mapM_ofJson_of_not_object hr hobject)
  refine ⟨e, ?_⟩
  rw [handleList, hlist]
  simp only [Except.map, answerForm, he]

/-- A record with an object as its context is read. -/
theorem handleRead_of_object (hF : F.HasSpecRecords) {s : σ} {p : QueryPayload} {r : TrustRecord}
    (hread : R.read s (queryOf p) = .ok r) (hobject : r.context.value.isObject = true)
    (newId : String) (doc : TrustTask) :
    ∃ out, handleRead F R newId doc p s = .ok out ∧ TrustRecord.ofJson out.payload = some r := by
  obtain ⟨r', hr'⟩ := SpecTrustRecord.exists_ofJson_iff.mpr hobject
  obtain ⟨rs, hrs, hdomain⟩ := SpecTrustRecord.mapM_ofJson_of_objects (l := [r])
    fun x hx => (List.mem_singleton.mp hx) ▸ hobject
  rw [List.map_singleton, List.mapM_cons, hr'] at hrs
  obtain rfl : [r'] = rs := Option.some.inj hrs
  have hform := hF.read _ r' hr'
  refine ⟨F.respondWith doc newId r'.toJson, ?_, ?_⟩
  · rw [handleRead, hread]
    simp only [Except.map, answerForm, hform]
  · rw [hF.payload, SpecTrustRecord.ofJson_toJson_domain, List.singleton_inj.mp hdomain]

/-- **Every record is listed and read exactly when the context of each is an
object.** -/
theorem hidesNothing_iff (hF : F.HasSpecRecords) {K : Type*} [DecidableEq K]
    {key : TrustRecordKey → K} {lookup : σ → K → Option TrustRecord} {Inv : σ → Prop}
    (hmap : MapBacked R key lookup Inv) {s : σ} (hs : Inv s) :
    HidesNothing F R s ↔ ∀ k r, lookup s k = some r → r.context.value.isObject = true := by
  obtain ⟨l, hlist, entries, _, hentries, hperm⟩ := hmap.list s hs
  have hmem : ∀ r, r ∈ l ↔ ∃ k, lookup s k = some r := by
    intro r
    rw [hperm.mem_iff, List.mem_map]
    constructor
    · rintro ⟨⟨k, r'⟩, he, rfl⟩
      exact ⟨k, (hentries k r').mp he⟩
    · rintro ⟨k, hk⟩
      exact ⟨(k, r), (hentries k r).mpr hk, rfl⟩
  constructor
  · intro h k r hk
    by_contra hobject
    obtain ⟨e, he⟩ := handleList_of_not_object hF hlist ((hmem r).mpr ⟨k, hk⟩)
      (Bool.eq_false_iff.mpr hobject) "" { id := "", typeUri := .recordList, payload := .null }
    obtain ⟨_, out, _, hout, _⟩ := h.list "" { id := "", typeUri := .recordList, payload := .null }
    rw [he] at hout
    cases hout
  · intro hobjects
    refine ⟨fun newId doc => ?_, fun newId doc p r hfound => ?_⟩
    · obtain ⟨out, hout, hl⟩ := handleList_of_objects hF hlist
        (fun r hr => (hmem r).mp hr |>.elim fun k hk => hobjects k r hk) newId doc
      exact ⟨l, out, hlist, hout, hl⟩
    · have hlookup : lookup s (key (.fromQuery (queryOf p))) = some r :=
        Except.ok.inj ((hmap.find s (queryOf p) hs).symm.trans hfound)
      exact handleRead_of_object hF (hmap.read_ok s _ r hs hlookup) (hobjects _ r hlookup) newId doc

end

end TrustRegistry
