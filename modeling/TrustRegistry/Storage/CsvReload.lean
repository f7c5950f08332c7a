import TrustRegistry.Storage.CsvFileStorage
import TrustRegistry.Storage.CsvText

/-!
# Reloading the CSV file

What the records mean after a restart.  The reader trims what the writer wrote as
it stood, and the writer drops the contexts that are neither objects nor arrays;
everything else comes back.

## Main definitions

* `SameMeaning` — two records that give the same answers.
* `Persistable` — nothing of the record is lost in the file.

## Main results

* `reload_sameMeaning_iff` — the file holds the records' meaning exactly when
  every record is persistable.
* `padded_record_is_lost` — a record whose entity ends in a blank is gone after a
  restart, and one whose context is a string has an empty one.
-/

namespace TrustRegistry

open Trim TrustRecordCsvRow

/-- Two records that give the same answers. -/
structure SameMeaning (r r' : TrustRecord) : Prop where
  recognized : r'.isRecognized = r.isRecognized
  authorized : r'.isAuthorized = r.isAuthorized
  context : r'.context = r.context
  recordType : r'.recordType = r.recordType

theorem SameMeaning.refl (r : TrustRecord) : SameMeaning r r := ⟨rfl, rfl, rfl, rfl⟩

theorem SameMeaning.symm {r r' : TrustRecord} (h : SameMeaning r r') : SameMeaning r' r :=
  ⟨h.recognized.symm, h.authorized.symm, h.context.symm, h.recordType.symm⟩

theorem SameMeaning.trans {r r' r'' : TrustRecord} (h : SameMeaning r r')
    (h' : SameMeaning r' r'') : SameMeaning r r'' :=
  ⟨h'.recognized.trans h.recognized, h'.authorized.trans h.authorized, h'.context.trans h.context,
    h'.recordType.trans h.recordType⟩

/-- Two answers to a lookup that mean the same. -/
abbrev SameAnswer : Option TrustRecord → Option TrustRecord → Prop := Option.Rel SameMeaning

theorem SameAnswer.refl : ∀ o : Option TrustRecord, SameAnswer o o
  | none => .none
  | some r => .some (.refl r)

theorem SameAnswer.symm {o o' : Option TrustRecord} (h : SameAnswer o o') : SameAnswer o' o := by
  cases h with
  | none => exact .none
  | some h => exact .some h.symm

theorem SameAnswer.trans {o o' o'' : Option TrustRecord} (h : SameAnswer o o')
    (h' : SameAnswer o' o'') : SameAnswer o o'' := by
  cases h with
  | none => exact h'
  | some h =>
    cases h' with
    | some h' => exact .some (h.trans h')

/-- The same keys, and records of the same meaning at each. -/
def RecordMap.SameMeaning (m m' : RecordMap) : Prop := ∀ k, SameAnswer (m.get? k) (m'.get? k)

theorem RecordMap.SameMeaning.refl (m : RecordMap) : m.SameMeaning m := fun _ => .refl _

theorem RecordMap.SameMeaning.symm {m m' : RecordMap} (h : m.SameMeaning m') : m'.SameMeaning m :=
  fun k => (h k).symm

theorem RecordMap.SameMeaning.trans {m m' m'' : RecordMap} (h : m.SameMeaning m')
    (h' : m'.SameMeaning m'') : m.SameMeaning m'' := fun k => (h k).trans (h' k)

/-- A record of one map stands for a record of the same key in the other. -/
theorem RecordMap.SameMeaning.exists_of_mem {m m' : RecordMap} (h : m.SameMeaning m')
    {r' : TrustRecord} (hr' : r' ∈ m'.values) : ∃ r ∈ m.values, TrustRegistry.SameMeaning r r' := by
  have hk := h (.fromRecord r')
  rw [RecordMap.mem_values_iff.mp hr'] at hk
  cases hget : m.get? (.fromRecord r') with
  | none =>
    rw [hget] at hk
    cases hk
  | some r =>
    rw [hget] at hk
    cases hk with
    | some hsame =>
      exact ⟨r, RecordMap.mem_values_iff.mpr (by rw [m.keyed _ _ hget, hget]), hsame⟩

/-- No part of the tuple has white space around it. -/
def Trimmed (r : TrustRecord) : Prop :=
  trim r.entityId.asStr = r.entityId.asStr ∧ trim r.authorityId.asStr = r.authorityId.asStr ∧
    trim r.action.asStr = r.action.asStr ∧ trim r.resource.asStr = r.resource.asStr

/-- Nothing of the record is lost in the file. -/
def Persistable (r : TrustRecord) : Prop := Trimmed r ∧ keepsContext r.context.value = true

/-! ### Reloading one record -/

theorem fromRecord_reload_iff {r : TrustRecord} :
    TrustRecordKey.fromRecord (reload r) = .fromRecord r ↔ Trimmed r := by
  obtain ⟨⟨e⟩, ⟨a⟩, ⟨ac⟩, ⟨re⟩, _, _, _, _⟩ := r
  simp only [TrustRecordKey.fromRecord, reload, Trimmed, TrustRecordKey.mk.injEq,
    AuthorityId.mk.injEq, Action.mk.injEq, Resource.mk.injEq, EntityId.mk.injEq]
  -- the key lists the same four parts in another order
  constructor
  · rintro ⟨hauthority, haction, hresource, hentity⟩
    exact ⟨hentity, hauthority, haction, hresource⟩
  · rintro ⟨hentity, hauthority, haction, hresource⟩
    exact ⟨hauthority, haction, hresource, hentity⟩

/-- The key of a reloaded record has no white space around its parts. -/
theorem trimmed_reload (r : TrustRecord) : Trimmed (reload r) := by
  simp [Trimmed, reload]

/-- Whether a record is trimmed depends on its key alone. -/
theorem Trimmed.congr {r r' : TrustRecord}
    (h : TrustRecordKey.fromRecord r = .fromRecord r') : Trimmed r ↔ Trimmed r' := by
  simp only [TrustRecordKey.fromRecord, TrustRecordKey.mk.injEq] at h
  obtain ⟨h₁, h₂, h₃, h₄⟩ := h
  simp only [Trimmed, h₁, h₂, h₃, h₄]

/-- A context that is not kept comes back as the empty object, which would have
been kept. -/
theorem reload_context_iff {r : TrustRecord} :
    (reload r).context = r.context ↔ keepsContext r.context.value = true := by
  cases hk : keepsContext r.context.value with
  | true => simp [reload, hk]
  | false =>
    simp only [reload, hk, Bool.false_eq_true, if_false, iff_false]
    intro h
    rw [← h] at hk
    simp [Context.empty, keepsContext, Json.isObject] at hk

theorem sameMeaning_reload {r : TrustRecord} (h : keepsContext r.context.value = true) :
    SameMeaning r (reload r) where
  recognized := rfl
  authorized := rfl
  context := reload_context_iff.mpr h
  recordType := rfl

/-! ### Reloading all records -/

/-- Reloading keeps the records' meaning exactly when every record is persistable. -/
theorem ofRecords_reload_sameMeaning_iff (m : RecordMap) :
    m.SameMeaning (RecordMap.ofRecords (m.values.map reload)) ↔ ∀ r ∈ m.values, Persistable r := by
  constructor
  · intro hsame
    -- what stands at a key after reloading was reloaded, so the key is trimmed
    have htrim : ∀ r ∈ m.values, Trimmed r := by
      intro r hr
      have hr' := hsame (.fromRecord r)
      rw [RecordMap.mem_values_iff.mp hr] at hr'
      cases hget : (RecordMap.ofRecords (m.values.map reload)).get? (.fromRecord r) with
      | none =>
        rw [hget] at hr'
        cases hr'
      | some r' =>
        obtain ⟨r₀, _, rfl⟩ := List.mem_map.mp (RecordMap.mem_of_get?_ofRecords hget)
        have hkey := (RecordMap.ofRecords (m.values.map reload)).keyed _ _ hget
        exact (Trimmed.congr hkey).mp (trimmed_reload r₀)
    intro r hr
    refine ⟨htrim r hr, ?_⟩
    have hr' := hsame (.fromRecord r)
    rw [RecordMap.get?_ofRecords_map fun r hr => fromRecord_reload_iff.mpr (htrim r hr),
      RecordMap.mem_values_iff.mp hr] at hr'
    cases hr' with
    | some h => exact reload_context_iff.mp h.context
  · intro hper k
    rw [RecordMap.get?_ofRecords_map fun r hr => fromRecord_reload_iff.mpr (hper r hr).1]
    cases hk : m.get? k with
    | none => exact .none
    | some r =>
      have hr : r ∈ m.values := RecordMap.mem_values_iff.mpr (by rw [m.keyed k r hk, hk])
      exact .some (sameMeaning_reload (hper r hr).2)

/-- A file that was written loads as the reloaded records. -/
theorem loadIfModified_writeToFile {csv : CsvCrate} {codec : ContextCodec} (hcsv : csv.Lossless)
    {s : FileStorage} (hcodec : ∀ r ∈ s.records.values, keepsContext r.context.value = true →
      codec.LosslessAt r.context.value) (t : ℕ) (path : String) :
    loadIfModified csv codec path (writeToFile csv codec (.up t) s).2.file none
      = .ok (some (RecordMap.ofRecords (s.records.values.map reload), t)) := by
  obtain ⟨text, hwrite, hparse⟩ := parseCsv_serialize hcsv hcodec
  have hfile : (writeToFile csv codec (.up t) s).2.file = some ⟨text, t⟩ := by
    simp [writeToFile, hwrite, FileIo.up]
  rw [hfile]
  simp [loadIfModified, hparse, Except.map]

/-- **The file holds the records' meaning exactly when every record is
persistable**: its tuple has no white space around its parts, and its context is
an object or an array. -/
theorem reload_sameMeaning_iff {csv : CsvCrate} {codec : ContextCodec} (hcsv : csv.Lossless)
    {s : FileStorage} (hcodec : ∀ r ∈ s.records.values, keepsContext r.context.value = true →
      codec.LosslessAt r.context.value) (t : ℕ) (path : String) :
    (∃ m, loadIfModified csv codec path (writeToFile csv codec (.up t) s).2.file none
        = .ok (some (m, t)) ∧ s.records.SameMeaning m) ↔
      ∀ r ∈ s.records.values, Persistable r := by
  rw [loadIfModified_writeToFile hcsv hcodec, ← ofRecords_reload_sameMeaning_iff]
  constructor
  · rintro ⟨m, hm, hsame⟩
    obtain rfl : RecordMap.ofRecords (s.records.values.map reload) = m := by simpa using hm
    exact hsame
  · intro hsame
    exact ⟨_, rfl, hsame⟩

/-- A record whose resource has a comma and quotes in it, with an object as its context. -/
def quotedRecord : TrustRecord :=
  { CsvText.plainRecord with
    resource := ⟨"vc, \"gold\""⟩
    context := ⟨.obj [("role", .str "lead")]⟩ }

/-- The context codec at the empty object and at this one. -/
def roleCodec : ContextCodec where
  encode v := if v = .obj [] then "e30=" else "eyJyb2xlIjoibGVhZCJ9"
  decode s :=
    if s = "e30=" then some (.obj [])
    else if s = "eyJyb2xlIjoibGVhZCJ9" then some (.obj [("role", .str "lead")])
    else none

/-- A plain record and one that needs quotes are there after a restart. -/
theorem quoted_record_reloads :
    let s : FileStorage := ⟨RecordMap.ofRecords [CsvText.plainRecord, quotedRecord], none, none⟩
    let file := (writeToFile CsvText.crate roleCodec (.up 1) s).2.file
    file = some ⟨"entity_id,authority_id,action,resource,recognized,authorized,context," ++
        "record_type\ndid:web:e,did:web:a,issue,vc,true,true,e30=,authorization\n" ++
        "did:web:e,did:web:a,issue,\"vc, \"\"gold\"\"\",true,true,eyJyb2xlIjoibGVhZCJ9," ++
        "authorization\n", 1⟩ ∧
      ∃ m, loadIfModified CsvText.crate roleCodec "records.csv" file none = .ok (some (m, 1)) ∧
        s.records.SameMeaning m := by
  intro s file
  have hvalues : s.records.values = [CsvText.plainRecord, quotedRecord] := by decide
  have hcodec : ∀ r ∈ s.records.values, keepsContext r.context.value = true →
      roleCodec.LosslessAt r.context.value := by
    intro r hr _
    rw [hvalues] at hr
    rcases List.mem_pair.mp hr with rfl | rfl
    · exact ⟨trim_eq_self_iff_all.mpr (by decide), by decide, rfl⟩
    · exact ⟨trim_eq_self_iff_all.mpr (by decide), by decide, rfl⟩
  have hpersistable : ∀ r ∈ s.records.values, Persistable r := by
    intro r hr
    rw [hvalues] at hr
    rcases List.mem_pair.mp hr with rfl | rfl
    · refine ⟨⟨?_, ?_, ?_, ?_⟩, rfl⟩ <;> exact trim_eq_self_iff_all.mpr (by decide)
    · refine ⟨⟨?_, ?_, ?_, ?_⟩, rfl⟩ <;> exact trim_eq_self_iff_all.mpr (by decide)
  exact ⟨by decide +kernel,
    (reload_sameMeaning_iff CsvText.crate_lossless hcodec 1 "records.csv").mpr hpersistable⟩

/-- A record whose entity ends in a blank. -/
def paddedRecord : TrustRecord := { CsvText.plainRecord with entityId := ⟨"did:web:e "⟩ }

/-- A record whose context is a string. -/
def textRecord : TrustRecord := { CsvText.plainRecord with context := ⟨.str "staff"⟩ }

/-- **Two records that do not survive a restart**: the first is found under
another tuple only, the second has lost its context. -/
theorem padded_record_is_lost :
    let s : FileStorage := ⟨RecordMap.ofRecords [paddedRecord, textRecord], none, none⟩
    let file := (writeToFile CsvText.crate CsvText.emptyObjectCodec (.up 1) s).2.file
    ∃ m, loadIfModified CsvText.crate CsvText.emptyObjectCodec "records.csv" file none
        = .ok (some (m, 1)) ∧ ¬ s.records.SameMeaning m ∧
      s.records.find paddedRecord.query = some paddedRecord ∧ m.find paddedRecord.query = none ∧
      (m.find textRecord.query).map TrustRecord.context = some Context.empty := by
  have hcodec : ∀ r ∈ (RecordMap.ofRecords [paddedRecord, textRecord]).values,
      keepsContext r.context.value = true →
        CsvText.emptyObjectCodec.LosslessAt r.context.value := by
    intro r hr hkeep
    have hvalues : (RecordMap.ofRecords [paddedRecord, textRecord]).values
        = [paddedRecord, textRecord] := by decide
    rw [hvalues] at hr
    rcases List.mem_pair.mp hr with rfl | rfl
    · exact CsvText.emptyObjectCodec_losslessAt
    · exact absurd hkeep (by decide)
  refine ⟨RecordMap.ofRecords [reload paddedRecord, reload textRecord],
    loadIfModified_writeToFile CsvText.crate_lossless hcodec 1 "records.csv", ?_, by decide,
    by decide, by decide⟩
  intro hsame
  have h := hsame (.fromRecord paddedRecord)
  have hnone : (RecordMap.ofRecords [reload paddedRecord, reload textRecord]).get?
      (.fromRecord paddedRecord) = none := by decide
  have hsome : (RecordMap.ofRecords [paddedRecord, textRecord]).get? (.fromRecord paddedRecord)
      = some paddedRecord := by decide
  rw [hnone, hsome] at h
  cases h

end TrustRegistry
