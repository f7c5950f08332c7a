import TrustRegistry.Lib.Trim
import TrustRegistry.Storage.RecordMap

/-!
# Rows of the CSV file

How a record is written to a row and read back from one.  The reader trims every
field; the writer keeps a context only when it is an object or an array, and an
answer that is absent is written as `false`.

## Main definitions

* `TrustRecordCsvRow`, with `fromRecord` and `intoRecord`.
* `ContextCodec`, `CsvCrate` — what the encoding and CSV libraries provide, and
  `ContextCodec.LosslessAt`, `CsvCrate.Lossless` — what is asked of them.
* `reload` — what a record becomes by being written and read.

## Main results

* `intoRecord_trimmed` — a row written for a record and trimmed by the reader
  gives the reloaded record.
* `parseCsv_serialize` — a file written for records loads the reloaded ones.
-/

namespace TrustRegistry

open Trim

/-- A row of the file. -/
structure TrustRecordCsvRow where
  entityId : String
  authorityId : String
  action : String
  resource : String
  recognized : Bool
  authorized : Bool
  context : Option String
  recordType : String
  deriving DecidableEq

/-- Base64 over JSON texts: how a context is put into a field, and how a field
is taken for a context, if it is one. -/
structure ContextCodec where
  encode : Json → String
  decode : String → Option Json

/-- What is asked of the encoding at a document: a field with no white space
around it from which the document is read back. -/
structure ContextCodec.LosslessAt (codec : ContextCodec) (v : Json) : Prop where
  trim_encode : trim (codec.encode v) = codec.encode v
  encode_ne : codec.encode v ≠ ""
  decode_encode : codec.decode (codec.encode v) = some v

/-- The CSV writer, and the reader with headers that trims every field. -/
structure CsvCrate where
  serialize : List TrustRecordCsvRow → Except String String
  deserialize : String → List (Except String TrustRecordCsvRow)

namespace TrustRecordCsvRow

/-- Is the context kept in the file? -/
def keepsContext (v : Json) : Bool := v.isObject || v.isArray

/-- The row of a record. -/
def fromRecord (codec : ContextCodec) (r : TrustRecord) : TrustRecordCsvRow where
  entityId := r.entityId.asStr
  authorityId := r.authorityId.asStr
  action := r.action.asStr
  resource := r.resource.asStr
  recognized := r.isRecognized
  authorized := r.isAuthorized
  context := if keepsContext r.context.value then some (codec.encode r.context.value) else none
  recordType := r.recordType.display

/-- The context of a row; what cannot be decoded counts as none. -/
def parseContext (codec : ContextCodec) (ctx : Option String) : Option Json := ctx.bind codec.decode

/-- The record of a row. -/
def intoRecord (codec : ContextCodec) (row : TrustRecordCsvRow) : Except String TrustRecord := do
  let recordType ← (RecordType.fromStr row.recordType).mapError TrustRecordError.display
  let builder : TrustRecordBuilder := {
    entityId := some ⟨row.entityId⟩
    authorityId := some ⟨row.authorityId⟩
    action := some ⟨row.action⟩
    resource := some ⟨row.resource⟩
    recognized := some row.recognized
    authorized := some row.authorized
    context := (parseContext codec row.context).elim Context.empty Context.mk
    recordType := some recordType }
  builder.build.mapError fun e => s!"invalid trust record: {e.display}"

/-- The row as the reader sees it: every field trimmed, and an empty context
field for none. -/
def trimmed (row : TrustRecordCsvRow) : TrustRecordCsvRow where
  entityId := trim row.entityId
  authorityId := trim row.authorityId
  action := trim row.action
  resource := trim row.resource
  recognized := row.recognized
  authorized := row.authorized
  context := (row.context.map trim).filter (· ≠ "")
  recordType := trim row.recordType

end TrustRecordCsvRow

/-- What is asked of the CSV library: rows with the name of a record type are
read back up to trimming, also when the text as a whole was trimmed. -/
def CsvCrate.Lossless (csv : CsvCrate) : Prop :=
  ∀ rows : List TrustRecordCsvRow, (∀ row ∈ rows, ∃ t : RecordType, row.recordType = t.display) →
    ∃ text, csv.serialize rows = .ok text ∧
      csv.deserialize (trim text) = rows.map fun row => .ok row.trimmed

open TrustRecordCsvRow

/-! ### Reloading one record -/

/-- What a record becomes by being written and read. -/
def reload (r : TrustRecord) : TrustRecord where
  entityId := ⟨trim r.entityId.asStr⟩
  authorityId := ⟨trim r.authorityId.asStr⟩
  action := ⟨trim r.action.asStr⟩
  resource := ⟨trim r.resource.asStr⟩
  recognized := some r.isRecognized
  authorized := some r.isAuthorized
  context := if keepsContext r.context.value then r.context else Context.empty
  recordType := r.recordType

@[simp] theorem trim_display (t : RecordType) : trim t.display = t.display := by
  cases t <;> exact trim_eq_self_iff_all.mpr (by decide)

/-- **A row written for a record and trimmed by the reader gives the reloaded
record.** -/
theorem intoRecord_trimmed {codec : ContextCodec} {r : TrustRecord}
    (hcodec : keepsContext r.context.value = true → codec.LosslessAt r.context.value) :
    intoRecord codec (trimmed (fromRecord codec r)) = .ok (reload r) := by
  -- the context is the one field that is encoded, and the one that may be left out
  have hctx : (parseContext codec (trimmed (fromRecord codec r)).context).elim Context.empty
      Context.mk = (reload r).context := by
    cases hkeep : keepsContext r.context.value with
    | true =>
      have h := hcodec hkeep
      have hfield : (trimmed (fromRecord codec r)).context
          = some (codec.encode r.context.value) := by
        simp [trimmed, fromRecord, hkeep, h.trim_encode, Option.filter, h.encode_ne]
      rw [hfield]
      simp [parseContext, reload, hkeep, h.decode_encode]
    | false => simp [trimmed, fromRecord, reload, parseContext, hkeep]
  unfold intoRecord
  rw [hctx]
  simp [trimmed, fromRecord, reload, TrustRecordBuilder.build, Except.mapError]
  rfl

/-! ### Reloading a file -/

/-- The records of a text, later rows replacing earlier ones of the same key.
A row that cannot be read fails the whole text. -/
def parseCsv (csv : CsvCrate) (codec : ContextCodec) (contents : String) :
    Except String RecordMap :=
  (csv.deserialize contents).foldlM (fun m row => do
    let row ← row
    let record ← intoRecord codec row
    return m.insert record) RecordMap.empty

/-- Rows that can all be read are inserted one after another. -/
theorem foldlM_intoRecord {codec : ContextCodec} : ∀ (rs : List TrustRecord) (m : RecordMap),
    (∀ r ∈ rs, keepsContext r.context.value = true → codec.LosslessAt r.context.value) →
    (rs.map fun r => (Except.ok (trimmed (fromRecord codec r)) : Except String _)).foldlM
      (fun m row => do
        let row ← row
        let record ← intoRecord codec row
        return m.insert record) m = .ok ((rs.map reload).foldl RecordMap.insert m)
  | [], _, _ => rfl
  | r :: rs, m, h => by
    have ih := foldlM_intoRecord rs (m.insert (reload r)) fun r' hr' =>
      h r' (List.mem_cons_of_mem _ hr')
    rw [List.map_cons, List.foldlM_cons]
    simp only [bind, Except.bind, intoRecord_trimmed (h r List.mem_cons_self), pure, Except.pure]
    exact ih

/-- **A file written for records loads the reloaded ones.** -/
theorem parseCsv_serialize {csv : CsvCrate} {codec : ContextCodec} (hcsv : csv.Lossless)
    {rs : List TrustRecord}
    (hcodec : ∀ r ∈ rs, keepsContext r.context.value = true → codec.LosslessAt r.context.value) :
    ∃ text, csv.serialize (rs.map (fromRecord codec)) = .ok text ∧
      parseCsv csv codec (trim text) = .ok (RecordMap.ofRecords (rs.map reload)) := by
  obtain ⟨text, hwrite, hread⟩ := hcsv (rs.map (fromRecord codec)) (by
    intro row hrow
    obtain ⟨r, _, rfl⟩ := List.mem_map.mp hrow
    exact ⟨r.recordType, rfl⟩)
  refine ⟨text, hwrite, ?_⟩
  rw [parseCsv, hread, List.map_map]
  exact foldlM_intoRecord rs RecordMap.empty hcodec

end TrustRegistry
