import TrustRegistry.Lib.Transition
import TrustRegistry.Storage.CsvAtomicity
import TrustRegistry.Storage.RecordTable

/-!
# The in-memory backends as tables

The local backend and the CSV backend over the hash maps as they are.  A map is
filled from a list, by the calls, and for the CSV backend by loading the file,
which anyone may change, and by the task that loads it again; the writing of the
file may fail at each step.  In every state that is reached every record stands
under its own key, so that the scan of the values and the lookup by key agree.

## Main definitions

* `LocalTable`, with `LocalTable.step` — the local backend, and everything that
  can happen to it.
* `FileTable`, with `FileTable.step` — the CSV backend likewise.
* `RecordTable.Refines` — the map is a table of records by tuple.

## Main results

* `LocalTable.keyed_step`, `FileTable.keyed_step` — every operation keeps the
  records under their own keys.
* `in_memory_refines` — in every reachable state the backends answer from the
  table.
* `LocalStorage.mapBacked`, `FileStorage.mapBacked` — the same for the records
  that carry the invariant.
-/

namespace TrustRegistry

open KeyedTable Transition Trim TrustRecordCsvRow

/-! ### The local backend -/

/-- Something that happens to the local backend. -/
inductive LocalAction
  | save (r : TrustRecord)
  | clear
  | call (c : RepositoryCall)

namespace LocalTable

/-- The texts of its errors. -/
def texts : ErrorTexts where
  alreadyExists r := s!"Record already exists: {(TrustRecordKey.fromRecord r).hashed}"
  updateMissing r := s!"Record not found: {(TrustRecordKey.fromRecord r).hashed}"
  deleteMissing q := s!"Record not found: {(TrustRecordKey.fromQuery q).hashed}"
  readMissing q := s!"Record not found: {(TrustRecordKey.fromQuery q).hashed}"

/-- The operations. -/
def repository : TrustRecordAdminRepository RecordTable := RecordTable.repository texts

/-- No record. -/
def new : RecordTable := AssocMap.empty

/-- Store a record under a tuple that has none. -/
def save (t : RecordTable) (r : TrustRecord) : Except RepositoryError Unit × RecordTable :=
  let key := TrustRecordKey.fromRecord r
  if t.contains key then (.error (.recordAlreadyExists key.sk), t)
  else (.ok (), t.insert key r)

/-- The records of a list, later ones replacing earlier ones. -/
def withRecords (records : List TrustRecord) : RecordTable :=
  records.foldl (fun t r => t.insert (.fromRecord r) r) new

/-- Remove every record. -/
def clear (_ : RecordTable) : RecordTable := AssocMap.empty

/-- One step. -/
def step (t : RecordTable) : LocalAction → Option RecordTable
  | .save r => some (save t r).2
  | .clear => some (clear t)
  | .call c => some (repository.next t c)

theorem keyed_foldl_insert (records : List TrustRecord) : ∀ t : RecordTable, t.Keyed →
    RecordTable.Keyed (records.foldl (fun t r => t.insert (.fromRecord r) r) t) := by
  induction records with
  | nil => exact fun _ ht => ht
  | cons r records ih => exact fun t ht => ih _ (ht.insert r)

theorem keyed_withRecords (records : List TrustRecord) :
    RecordTable.Keyed (withRecords records) :=
  keyed_foldl_insert records new RecordTable.keyed_empty

/-- **Every operation keeps the records under their own keys.** -/
theorem keyed_step {t t' : RecordTable} {a : LocalAction} (ht : t.Keyed)
    (h : step t a = some t') : t'.Keyed := by
  cases a with
  | save r =>
    obtain rfl : (save t r).2 = t' := Option.some.inj h
    unfold save
    dsimp only
    split
    · exact ht
    · exact ht.insert r
  | clear =>
    obtain rfl : clear t = t' := Option.some.inj h
    exact RecordTable.keyed_empty
  | call c =>
    obtain rfl : repository.next t c = t' := Option.some.inj h
    exact RecordTable.mapBacked.refinement.inv t c ht

end LocalTable

/-! ### The CSV backend -/

/-- The CSV backend over a map as it is. -/
structure FileTable where
  records : RecordTable
  lastModified : Option ℕ
  file : Option CsvFile

/-- Something that happens to the CSV backend: anyone changes the file, the task
looks at it, a call is made. -/
inductive FileAction
  | edit (file : Option CsvFile)
  | sync
  | call (io : FileIo) (c : RepositoryCall)

namespace FileTable

/-- The texts of its errors. -/
def texts : ErrorTexts where
  alreadyExists r := s!"Record already exists: {r.display}"
  updateMissing r := s!"Record not found: {r.display}"
  deleteMissing q := s!"Record not found: {(TrustRecordKey.fromQuery q).sk}"
  readMissing q := s!"Record not found: {q.entityId.asStr}|{q.authorityId.asStr}|{
    q.action.asStr}|{q.resource.asStr}"

/-- The operations on the records in memory. -/
def memory : TrustRecordAdminRepository RecordTable := RecordTable.repository texts

section

variable (csv : CsvCrate) (codec : ContextCodec) (path : String)

/-- The records of a text. -/
def parseCsv (contents : String) : Except String RecordTable :=
  (csv.deserialize contents).foldlM (fun t row => do
    let row ← row
    let record ← intoRecord codec row
    return t.insert (.fromRecord record) record) AssocMap.empty

/-- Load the file unless it is no newer than what was last seen. -/
def loadIfModified (file : Option CsvFile) (lastSeen : Option ℕ) :
    Except String (Option (RecordTable × ℕ)) :=
  match file with
  | none => .error s!"file_path: \"{path}\", error: No such file or directory (os error 2)"
  | some f =>
    if lastSeen.any (f.modified ≤ ·) then .ok none
    else (parseCsv csv codec (trim f.text)).map fun t => some (t, f.modified)

/-- Open a file. -/
def tryNew (file : Option CsvFile) : Except String FileTable :=
  match loadIfModified csv codec path file none with
  | .error e => .error e
  | .ok none => .error s!"unable to load trust records from {path}"
  | .ok (some (records, modified)) => .ok ⟨records, some modified, file⟩

/-- One round of the task: load the file if it is newer; what cannot be loaded
changes nothing. -/
def sync (t : FileTable) : FileTable :=
  match loadIfModified csv codec path t.file t.lastModified with
  | .ok (some (records, modified)) => { t with records, lastModified := some modified }
  | .ok none => t
  | .error _ => t

variable (io : FileIo)

/-- Write all records to the file, then note the file's modification time. -/
def writeToFile (t : FileTable) : Except RepositoryError Unit × FileTable :=
  match csv.serialize (t.records.values.map (fromRecord codec)) with
  | .error e => (.error (.serializationFailed e), t)
  | .ok text =>
    match io.write with
    | some (e, left) =>
      (.error (.queryFailed s!"Failed to write CSV file: {e}"), { t with file := left })
    | none =>
      let written := { t with file := some ⟨text, io.now⟩ }
      match io.metadata, io.modified with
      | some e, _ => (.error (.queryFailed s!"Failed to get file metadata: {e}"), written)
      | none, some e => (.error (.queryFailed s!"Failed to get modified time: {e}"), written)
      | none, none => (.ok (), { written with lastModified := some io.now })

/-- Make a change to the records in memory; write them all if it was accepted. -/
def mutate (t : FileTable) (c : RecordChange) : Except RepositoryError Unit × FileTable :=
  match memory.call t.records c with
  | (.error e, _) => (.error e, t)
  | (.ok (), records) => writeToFile csv codec io { t with records }

/-- The operations. -/
def repository : TrustRecordAdminRepository FileTable where
  findByQuery t q := memory.findByQuery t.records q
  create t r := mutate csv codec io t (.create r)
  update t r := mutate csv codec io t (.update r)
  delete t q := mutate csv codec io t (.delete q)
  list t := memory.list t.records
  read t q := memory.read t.records q

/-- One step. -/
def step (t : FileTable) : FileAction → Option FileTable
  | .edit file => some { t with file }
  | .sync => some (sync csv codec path t)
  | .call io c => some ((repository csv codec io).next t c)

end

variable {csv : CsvCrate} {codec : ContextCodec} {path : String} {io : FileIo}

theorem memory_mapBacked : MapBacked memory id (fun t => t.get?) RecordTable.Keyed :=
  RecordTable.mapBacked

/-! ### What is loaded -/

theorem parseCsv_eq (contents : String) :
    parseCsv csv codec contents = (TrustRegistry.parseCsv csv codec contents).map RecordMap.map := by
  have hfold : ∀ (rows : List (Except String TrustRecordCsvRow)) (m : RecordMap),
      rows.foldlM (fun (t : RecordTable) row => do
        let row ← row
        let record ← intoRecord codec row
        return t.insert (.fromRecord record) record) m.map =
      (rows.foldlM (fun (m : RecordMap) row => do
        let row ← row
        let record ← intoRecord codec row
        return m.insert record) m).map RecordMap.map := by
    intro rows
    induction rows with
    | nil => exact fun _ => rfl
    | cons row rows ih =>
      intro m
      rw [List.foldlM_cons, List.foldlM_cons]
      cases row with
      | error e => rfl
      | ok row =>
        cases hrow : intoRecord codec row with
        | error e =>
          simp only [bind, Except.bind, hrow]
          rfl
        | ok record =>
          simp only [bind, Except.bind, pure, Except.pure, hrow]
          exact ih (m.insert record)
  exact hfold (csv.deserialize contents) RecordMap.empty

/-- What is loaded stands under its own keys. -/
theorem keyed_loaded {file : Option CsvFile} {lastSeen : Option ℕ} {records : RecordTable}
    {modified : ℕ}
    (h : loadIfModified csv codec path file lastSeen = .ok (some (records, modified))) :
    records.Keyed := by
  cases file with
  | none => cases h
  | some f =>
    simp only [loadIfModified, parseCsv_eq] at h
    split at h
    · cases h
    · cases hparse : TrustRegistry.parseCsv csv codec (trim f.text) with
      | error e =>
        rw [hparse] at h
        cases h
      | ok m =>
        rw [hparse] at h
        obtain ⟨rfl, rfl⟩ := Prod.mk.inj (Option.some.inj (Except.ok.inj h))
        exact m.keyed

theorem keyed_tryNew {file : Option CsvFile} {t : FileTable}
    (h : tryNew csv codec path file = .ok t) : t.records.Keyed := by
  unfold tryNew at h
  split at h
  · cases h
  · cases h
  · next hload =>
    obtain rfl := Except.ok.inj h
    exact keyed_loaded hload

theorem keyed_sync {t : FileTable} (ht : t.records.Keyed) :
    (sync csv codec path t).records.Keyed := by
  unfold sync
  split
  · next hload => exact keyed_loaded hload
  · exact ht
  · exact ht

/-! ### What is written -/

/-- Writing never touches the records in memory. -/
theorem writeToFile_records (t : FileTable) : (writeToFile csv codec io t).2.records = t.records := by
  unfold writeToFile
  split
  · rfl
  · split
    · rfl
    · dsimp only
      split <;> rfl

/-- What a writing fails with is not that a record exists or does not. -/
theorem writeToFile_ne_refusal (t : FileTable) (c : RecordChange) (e : String) :
    (writeToFile csv codec io t).1 ≠ .error (c.refusal e) := by
  unfold writeToFile
  split
  · cases c <;> simp [RecordChange.refusal]
  · split
    · cases c <;> simp [RecordChange.refusal]
    · dsimp only
      split <;> cases c <;> simp [RecordChange.refusal]

theorem call_eq_mutate (t : FileTable) (c : RecordChange) :
    (repository csv codec io).call t c = mutate csv codec io t c := by
  cases c <;> rfl

/-- A change that does not fit is refused. -/
theorem call_of_not_fits {t : FileTable} {c : RecordChange}
    (h : (c.change id).fits t.records.get? = false) :
    (repository csv codec io).call t c = (.error (c.refusal (texts.refusal c)), t) := by
  have hmemory : memory.call t.records c = (.error (c.refusal (texts.refusal c)), t.records) := by
    rw [memory, RecordTable.call_eq, h]
    rfl
  rw [call_eq_mutate, mutate, hmemory]

/-- One that fits is made, and then written. -/
theorem call_of_fits {t : FileTable} {c : RecordChange}
    (h : (c.change id).fits t.records.get? = true) :
    (repository csv codec io).call t c =
      writeToFile csv codec io { t with records := RecordTable.made t.records c } := by
  have hmemory : memory.call t.records c = (.ok (), RecordTable.made t.records c) := by
    rw [memory, RecordTable.call_eq, if_pos h]
  rw [call_eq_mutate, mutate, hmemory]

/-- **What a call leaves in memory**, however the writing goes. -/
theorem call_records (t : FileTable) (c : RecordChange) :
    ((repository csv codec io).call t c).2.records = (memory.call t.records c).2 := by
  cases h : (c.change id).fits t.records.get? with
  | true => rw [call_of_fits h, writeToFile_records, memory, RecordTable.call_eq, if_pos h]
  | false =>
    rw [call_of_not_fits h, memory, RecordTable.call_eq, h]
    rfl

/-- **Every operation keeps the records under their own keys.** -/
theorem keyed_step {t t' : FileTable} {a : FileAction} (ht : t.records.Keyed)
    (h : step csv codec path t a = some t') : t'.records.Keyed := by
  cases a with
  | edit file =>
    obtain rfl : { t with file } = t' := Option.some.inj h
    exact ht
  | sync =>
    obtain rfl : sync csv codec path t = t' := Option.some.inj h
    exact keyed_sync ht
  | call io c =>
    obtain rfl : (repository csv codec io).next t c = t' := Option.some.inj h
    cases c with
    | change c =>
      show RecordTable.Keyed ((repository csv codec io).call t c).2.records
      rw [call_records]
      exact memory_mapBacked.inv t.records c ht
    | findByQuery q => exact ht
    | read q => exact ht
    | list => exact ht

/-- Every step of writing the records succeeds. -/
def WritingSucceeds (csv : CsvCrate) (codec : ContextCodec) (io : FileIo) (t : RecordTable) : Prop :=
  (∃ text, csv.serialize (t.values.map (fromRecord codec)) = .ok text) ∧
    io.write = none ∧ io.metadata = none ∧ io.modified = none

theorem writeToFile_of_succeeds {t : FileTable} (h : WritingSucceeds csv codec io t.records) :
    (writeToFile csv codec io t).1 = .ok () := by
  obtain ⟨⟨text, htext⟩, hwrite, hmetadata, hmodified⟩ := h
  simp [writeToFile, htext, hwrite, hmetadata, hmodified]

/-- **While the file can be written the backend is a table by key.** -/
theorem mapBacked (hio : ∀ t, WritingSucceeds csv codec io t) :
    MapBacked (repository csv codec io) id (fun t => t.records.get?) (fun t => t.records.Keyed) where
  inv t c ht := by
    rw [call_records]
    exact memory_mapBacked.inv t.records c ht
  lookup_call t c ht := by
    rw [call_records]
    exact memory_mapBacked.lookup_call t.records c ht
  accepted t c ht hfits := by
    rw [call_of_fits hfits]
    exact writeToFile_of_succeeds (hio _)
  refused t c ht hfits := by
    rw [call_of_not_fits hfits]
    exact ⟨_, rfl⟩
  find t q ht := memory_mapBacked.find t.records q ht
  read_ok t q r ht hr := memory_mapBacked.read_ok t.records q r ht hr
  read_missing t q ht hr := memory_mapBacked.read_missing t.records q ht hr
  list t ht := memory_mapBacked.list t.records ht

end FileTable

/-! ### The reachable states -/

/-- The map is a table of records by tuple: every record stands under its own key,
a scan in any order finds the one under the key of its tuple, no other matches, and
no record is there twice. -/
structure RecordTable.Refines (t : RecordTable) : Prop where
  keyed : t.Keyed
  scan : ∀ (values : List TrustRecord) q, values.Perm t.values →
    RecordTable.scan values q = t.get? (.fromQuery q)
  one : ∀ q, (t.values.filter fun r => TrustRecordKey.matchesQuery r q).length ≤ 1
  once : t.values.Nodup

theorem RecordTable.Keyed.refines {t : RecordTable} (ht : t.Keyed) : t.Refines where
  keyed := ht
  scan _ q hvalues := RecordTable.scan_eq_get? ht hvalues q
  one q := by
    have hnodup := ht.nodup_values.filter fun r => TrustRecordKey.matchesQuery r q
    cases h : t.values.filter fun r => TrustRecordKey.matchesQuery r q with
    | nil => exact Nat.zero_le 1
    | cons r l =>
      cases l with
      | nil => exact Nat.le_refl 1
      | cons r' l =>
        -- two that match are the same record, which is there once
        rw [h] at hnodup
        have hr : r ∈ t.values.filter fun r => TrustRecordKey.matchesQuery r q := by simp [h]
        have hr' : r' ∈ t.values.filter fun r => TrustRecordKey.matchesQuery r q := by simp [h]
        obtain ⟨hmem, hmatch⟩ := List.mem_filter.mp hr
        obtain ⟨hmem', hmatch'⟩ := List.mem_filter.mp hr'
        have heq : r = r' := ht.unique hmem hmem' hmatch hmatch'
        exact absurd heq ((List.pairwise_cons.mp hnodup).1 r' List.mem_cons_self)
  once := ht.nodup_values

/-- The CSV backend answers from the records in memory.  A change that fits is made
there whether or not it can be written, and is answered as made when it can. -/
structure FileTable.Answers (csv : CsvCrate) (codec : ContextCodec) (t : FileTable) : Prop where
  memory : MapAnswers FileTable.memory id t.records.get? t.records
  written : ∀ io, (∀ records, WritingSucceeds csv codec io records) →
    MapAnswers (repository csv codec io) id t.records.get? t
  refused : ∀ io c, (∃ e, ((repository csv codec io).call t c).1 = .error (c.refusal e)) ↔
    (c.change id).fits t.records.get? = false
  left : ∀ io c, ((repository csv codec io).call t c).2.records.get?
    = (c.change id).apply t.records.get?
  reads : ∀ io q, (repository csv codec io).findByQuery t q = .ok (t.records.get? (.fromQuery q)) ∧
    (repository csv codec io).read t q = FileTable.memory.read t.records q ∧
    (repository csv codec io).list t = FileTable.memory.list t.records

theorem FileTable.answers_of_keyed {csv : CsvCrate} {codec : ContextCodec} {t : FileTable}
    (ht : t.records.Keyed) : t.Answers csv codec where
  memory := memory_mapBacked.answers ht
  written _ hio := (mapBacked hio).answers ht
  refused io c := by
    cases h : (c.change id).fits t.records.get? with
    | true =>
      rw [call_of_fits h]
      refine iff_of_false ?_ (by simp)
      rintro ⟨e, he⟩
      exact writeToFile_ne_refusal _ c e he
    | false =>
      rw [call_of_not_fits h]
      exact iff_of_true ⟨_, rfl⟩ rfl
  left io c := by
    rw [call_records]
    exact memory_mapBacked.lookup_call t.records c ht
  reads _ q := ⟨memory_mapBacked.find t.records q ht, rfl, rfl⟩

/-- **The in-memory backends are tables of records by tuple** in every state that
they reach, and change as the abstract map does: the local one from any list of records
by any calls, the CSV one from any file by any calls, any changes of the file and any
reloads, with the writing failing as it may. -/
theorem in_memory_refines :
    (∀ records as t, Run LocalTable.step anyAction (LocalTable.withRecords records) as t →
      t.Refines ∧ MapAnswers LocalTable.repository id t.get? t ∧
        ∀ c, (LocalTable.repository.call t c).2.get? = (c.change id).apply t.get?) ∧
    (∀ csv codec path file opened as t, FileTable.tryNew csv codec path file = .ok opened →
      Run (FileTable.step csv codec path) anyAction opened as t →
      t.records.Refines ∧ t.Answers csv codec) := by
  constructor
  · intro records as t hrun
    have ht : t.Keyed := hrun.invariant (I := fun t => t.Keyed)
      (fun _ _ _ hs _ hstep => LocalTable.keyed_step hs hstep)
      (LocalTable.keyed_withRecords records)
    exact ⟨ht.refines, RecordTable.mapBacked.answers ht,
      fun c => RecordTable.mapBacked.lookup_call t c ht⟩
  · intro csv codec path file opened as t hopen hrun
    have ht : t.records.Keyed := hrun.invariant (I := fun t => t.records.Keyed)
      (fun _ _ _ hs _ hstep => FileTable.keyed_step hs hstep) (FileTable.keyed_tryNew hopen)
    exact ⟨ht.refines, FileTable.answers_of_keyed ht⟩

/-- A record that could not be written is in memory, once and under its own key. -/
theorem failed_create_refines :
    let t : FileTable := ⟨AssocMap.empty.insert (.fromRecord CsvText.plainRecord)
      CsvText.plainRecord, some 0, some ⟨"", 0⟩⟩
    t.records.Refines ∧ t.Answers CsvText.crate CsvText.emptyObjectCodec ∧
      (FileTable.step CsvText.crate CsvText.emptyObjectCodec "registry.csv"
        ⟨AssocMap.empty, some 0, some ⟨"", 0⟩⟩
        (.call FileStorage.diskFull (.change (.create CsvText.plainRecord)))) = some t := by
  have hopen : FileTable.tryNew CsvText.crate CsvText.emptyObjectCodec "registry.csv"
      (some ⟨"", 0⟩) = .ok ⟨AssocMap.empty, some 0, some ⟨"", 0⟩⟩ := by rfl
  have hstep : FileTable.step CsvText.crate CsvText.emptyObjectCodec "registry.csv"
      ⟨AssocMap.empty, some 0, some ⟨"", 0⟩⟩
      (.call FileStorage.diskFull (.change (.create CsvText.plainRecord))) =
        some ⟨AssocMap.empty.insert (.fromRecord CsvText.plainRecord)
          CsvText.plainRecord, some 0, some ⟨"", 0⟩⟩ := by rfl
  obtain ⟨hrefines, hanswers⟩ := in_memory_refines.2 _ _ _ _ _ _ _ hopen (.single trivial hstep)
  exact ⟨hrefines, hanswers, hstep⟩

/-! ### The records that carry the invariant -/

/-- The local backend over records that carry the invariant is the one over a map
as it is. -/
theorem LocalStorage.embeds :
    Embeds LocalTable.repository LocalStorage.repository (fun s => s.records.map) where
  call s c := by
    cases c with
    | create r =>
      show RecordTable.create LocalTable.texts s.records.map r
        = ((s.create r).1, (s.create r).2.records.map)
      unfold LocalStorage.create RecordTable.create RecordMap.containsKey
      cases h : s.records.map.contains (.fromRecord r) <;> simp [h] <;> rfl
    | update r =>
      show RecordTable.update LocalTable.texts s.records.map r
        = ((s.update r).1, (s.update r).2.records.map)
      unfold LocalStorage.update RecordTable.update RecordMap.containsKey
      cases h : s.records.map.contains (.fromRecord r) <;> simp [h] <;> rfl
    | delete q =>
      show RecordTable.delete LocalTable.texts s.records.map q
        = ((s.delete q).1, (s.delete q).2.records.map)
      unfold LocalStorage.delete RecordTable.delete RecordMap.containsKey AssocMap.contains
      cases h : s.records.map.get? (.fromQuery q) <;> simp [h] <;> rfl
  find s q := rfl
  read s q := rfl
  list s := rfl

/-- So it keeps a table of records by tuple. -/
theorem LocalStorage.mapBacked :
    MapBacked LocalStorage.repository id (fun s => s.records.map.get?)
      (fun s => RecordTable.Keyed s.records.map) :=
  RecordTable.mapBacked.comap LocalStorage.embeds

/-- The CSV backend with its records as they are. -/
def FileStorage.table (s : FileStorage) : FileTable := ⟨s.records.map, s.lastModified, s.file⟩

theorem RecordChange.memory_call (m : RecordMap) (c : RecordChange) :
    FileTable.memory.call m.map c =
      match c.apply m with
      | .error e => (.error e, m.map)
      | .ok m' => (.ok (), m'.map) := by
  cases c with
  | create r =>
    show RecordTable.create FileTable.texts m.map r = _
    unfold RecordTable.create RecordChange.apply RecordMap.containsKey
    cases h : m.map.contains (.fromRecord r) <;> simp [h] <;> rfl
  | update r =>
    show RecordTable.update FileTable.texts m.map r = _
    unfold RecordTable.update RecordChange.apply RecordMap.containsKey
    cases h : m.map.contains (.fromRecord r) <;> simp [h] <;> rfl
  | delete q =>
    show RecordTable.delete FileTable.texts m.map q = _
    unfold RecordTable.delete RecordChange.apply RecordMap.containsKey AssocMap.contains
    cases h : m.map.get? (.fromQuery q) <;> simp [h] <;> rfl

theorem FileStorage.writeToFile_table {csv : CsvCrate} {codec : ContextCodec} {io : FileIo}
    (s : FileStorage) : FileTable.writeToFile csv codec io s.table =
      ((writeToFile csv codec io s).1, (writeToFile csv codec io s).2.table) := by
  unfold FileTable.writeToFile writeToFile
  show (match csv.serialize (s.records.values.map (fromRecord codec)) with
    | .error e => _
    | .ok text => _) = _
  cases csv.serialize (s.records.values.map (fromRecord codec)) with
  | error e => rfl
  | ok text =>
    cases io.write with
    | some w => rfl
    | none => cases io.metadata <;> cases io.modified <;> rfl

/-- The CSV backend over records that carry the invariant is the one over a map as
it is. -/
theorem FileStorage.embeds {csv : CsvCrate} {codec : ContextCodec} {io : FileIo} :
    Embeds (FileTable.repository csv codec io) (FileStorage.repository csv codec io)
      FileStorage.table where
  call s c := by
    rw [FileTable.call_eq_mutate, FileTable.mutate]
    show (match FileTable.memory.call s.records.map c with
      | (.error e, _) => _
      | (.ok (), records) => _) = ((call csv codec io s c).1, (call csv codec io s c).2.table)
    rw [call_eq_mutate, mutate, RecordChange.memory_call]
    cases c.apply s.records with
    | error e => rfl
    | ok m => exact writeToFile_table { s with records := m }
  find s q := rfl
  read s q := rfl
  list s := rfl

/-- So it keeps a table of records by tuple while the file can be written. -/
theorem FileStorage.mapBacked {csv : CsvCrate} {codec : ContextCodec} {io : FileIo}
    (hio : ∀ t, FileTable.WritingSucceeds csv codec io t) :
    MapBacked (FileStorage.repository csv codec io) id (fun s => s.table.records.get?)
      (fun s => s.table.records.Keyed) :=
  (FileTable.mapBacked hio).comap FileStorage.embeds

end TrustRegistry
