import TrustRegistry.Storage.CsvRow

/-!
# The CSV backend

Records in memory and in a file.  A change is made to the records in memory
first; then all of them are written to the file, and each step of the writing
can fail.  The file is loaded when its modification time is newer than the last
one seen.

## Main definitions

* `RecordChange.apply` — what the three changes do to
  the records in memory.
* `FileStorage`, with `writeToFile`, `loadIfModified` and `FileStorage.repository`.

## Main results

* `RecordChange.apply_find_iff` — an accepted change that no lookup notices is an
  update by the record already there.
* `FileStorage.mutate_records` — what a call leaves in memory, however the
  writing goes.
-/

namespace TrustRegistry

open Trim TrustRecordCsvRow

/-! ### Changes of the records in memory -/

namespace RecordChange

/-- The change as it is made under the lock of the records. -/
def apply (m : RecordMap) : RecordChange → Except RepositoryError RecordMap
  | create r =>
    if m.containsKey (.fromRecord r) then
      .error (.recordAlreadyExists s!"Record already exists: {r.display}")
    else .ok (m.insert r)
  | update r =>
    if m.containsKey (.fromRecord r) then .ok (m.insert r)
    else .error (.recordNotFound s!"Record not found: {r.display}")
  | delete q =>
    if m.containsKey (.fromQuery q) then .ok (m.remove (.fromQuery q))
    else .error (.recordNotFound s!"Record not found: {(TrustRecordKey.fromQuery q).sk}")

theorem apply_error_iff {m : RecordMap} {c : RecordChange} :
    (∃ e, c.apply m = .error e) ↔ c.Refused m := by
  cases c <;> simp only [apply, Refused] <;> split <;> simp_all

/-- An accepted change sets its key, and no other. -/
theorem get?_of_apply {m m' : RecordMap} {c : RecordChange} (h : c.apply m = .ok m')
    (k : TrustRecordKey) : m'.get? k = if k = c.key then c.result else m.get? k := by
  cases c with
  | create r =>
    simp only [apply] at h
    split at h
    · cases h
    · obtain rfl := Except.ok.inj h
      exact RecordMap.get?_insert m r k
  | update r =>
    simp only [apply] at h
    split at h
    · obtain rfl := Except.ok.inj h
      exact RecordMap.get?_insert m r k
    · cases h
  | delete q =>
    simp only [apply] at h
    split at h
    · obtain rfl := Except.ok.inj h
      exact RecordMap.get?_remove m _ k
    · cases h

/-- A record there is after an accepted change was brought in by it or was there
before. -/
theorem mem_values_of_apply {m m' : RecordMap} {c : RecordChange} (h : c.apply m = .ok m')
    {r : TrustRecord} (hr : r ∈ m'.values) : c.result = some r ∨ r ∈ m.values := by
  have hget := RecordMap.mem_values_iff.mp hr
  rw [get?_of_apply h] at hget
  by_cases hkey : TrustRecordKey.fromRecord r = c.key
  · rw [if_pos hkey] at hget
    exact .inl hget
  · rw [if_neg hkey] at hget
    exact .inr (RecordMap.mem_values_iff.mpr hget)

/-- What an accepted change found at its key. -/
theorem get?_key_of_apply {m m' : RecordMap} {c : RecordChange} (h : c.apply m = .ok m') :
    (∃ r, c = .create r ∧ m.get? c.key = none) ∨ (∃ r r', c = .update r ∧ m.get? c.key = some r')
      ∨ ∃ q r', c = .delete q ∧ m.get? c.key = some r' := by
  cases c with
  | create r =>
    simp only [apply] at h
    split at h
    · cases h
    · next hk => exact .inl ⟨r, rfl, RecordMap.containsKey_eq_false.mp (eq_false_of_ne_true hk)⟩
  | update r =>
    simp only [apply] at h
    split at h
    · next hk =>
      obtain ⟨r', hr'⟩ := RecordMap.containsKey_eq_true.mp hk
      exact .inr (.inl ⟨r, r', rfl, hr'⟩)
    · cases h
  | delete q =>
    simp only [apply] at h
    split at h
    · next hk =>
      obtain ⟨r', hr'⟩ := RecordMap.containsKey_eq_true.mp hk
      exact .inr (.inr ⟨q, r', rfl, hr'⟩)
    · cases h

/-- A repeated record leaves the records exactly as they were. -/
theorem apply_eq_self_of_repeats {m : RecordMap} {c : RecordChange} (h : c.Repeats m) :
    c.apply m = .ok m := by
  cases c with
  | create r => exact h.elim
  | delete q => exact h.elim
  | update r =>
    have hk : m.containsKey (.fromRecord r) = true := RecordMap.containsKey_eq_true.mpr ⟨r, h⟩
    simp only [apply, hk, if_true]
    rw [RecordMap.insert_eq_self_iff.mpr h]

/-- **No lookup notices an accepted change exactly when it repeats a record.** -/
theorem apply_find_iff {m m' : RecordMap} {c : RecordChange} (h : c.apply m = .ok m') :
    (∀ q, m'.find q = m.find q) ↔ c.Repeats m := by
  constructor
  · intro hfind
    -- the lookup of the changed tuple itself decides
    have hkey : c.result = m.get? c.key := by
      have := hfind c.key.query
      rw [RecordMap.find_eq_get?, RecordMap.find_eq_get?, TrustRecordKey.fromQuery_query,
        get?_of_apply h, if_pos rfl] at this
      exact this
    rcases get?_key_of_apply h with ⟨r, rfl, hr⟩ | ⟨r, r', rfl, hr⟩ | ⟨q, r', rfl, hr⟩
    · rw [hr] at hkey
      cases hkey
    · exact hkey.symm
    · rw [hr] at hkey
      cases hkey
  · intro hrep q
    rw [apply_eq_self_of_repeats hrep] at h
    rw [Except.ok.inj h]

end RecordChange

/-! ### The file -/

/-- The file: its text and its modification time. -/
structure CsvFile where
  text : String
  modified : ℕ
  deriving DecidableEq

/-- The backend: the records in memory, the modification time last seen, and the
file, if there is one. -/
structure FileStorage where
  records : RecordMap
  lastModified : Option ℕ
  file : Option CsvFile
  deriving DecidableEq

/-- What the file system contributes to a writing: whether it fails, and what it
then leaves of the file, the time of the writing, and whether reading that time
back fails. -/
structure FileIo where
  write : Option (String × Option CsvFile)
  now : ℕ
  metadata : Option String
  modified : Option String

/-- Nothing fails at time `t`. -/
def FileIo.up (t : ℕ) : FileIo := ⟨none, t, none, none⟩

section

variable (csv : CsvCrate) (codec : ContextCodec)

/-- Write all records to the file, then note the file's modification time. -/
def writeToFile (io : FileIo) (s : FileStorage) : Except RepositoryError Unit × FileStorage :=
  match csv.serialize (s.records.values.map (fromRecord codec)) with
  | .error e => (.error (.serializationFailed e), s)
  | .ok text =>
    match io.write with
    | some (e, left) =>
      (.error (.queryFailed s!"Failed to write CSV file: {e}"), { s with file := left })
    | none =>
      let written := { s with file := some ⟨text, io.now⟩ }
      match io.metadata, io.modified with
      | some e, _ => (.error (.queryFailed s!"Failed to get file metadata: {e}"), written)
      | none, some e => (.error (.queryFailed s!"Failed to get modified time: {e}"), written)
      | none, none => (.ok (), { written with lastModified := some io.now })

/-- Load the file unless it is no newer than what was last seen; trim its text
and read its rows.  A file that is not there is shown by its path. -/
def loadIfModified (path : String) (file : Option CsvFile) (lastSeen : Option ℕ) :
    Except String (Option (RecordMap × ℕ)) :=
  match file with
  | none => .error s!"file_path: \"{path}\", error: No such file or directory (os error 2)"
  | some f =>
    if lastSeen.any (f.modified ≤ ·) then .ok none
    else (parseCsv csv codec (trim f.text)).map fun m => some (m, f.modified)

namespace FileStorage

variable (io : FileIo)

/-- Make a change to the records in memory; write them all if it was accepted. -/
def mutate (s : FileStorage) (c : RecordChange) : Except RepositoryError Unit × FileStorage :=
  match c.apply s.records with
  | .error e => (.error e, s)
  | .ok m => writeToFile csv codec io { s with records := m }

def create (s : FileStorage) (r : TrustRecord) : Except RepositoryError Unit × FileStorage :=
  mutate csv codec io s (.create r)

def update (s : FileStorage) (r : TrustRecord) : Except RepositoryError Unit × FileStorage :=
  mutate csv codec io s (.update r)

def delete (s : FileStorage) (q : TrustRecordQuery) : Except RepositoryError Unit × FileStorage :=
  mutate csv codec io s (.delete q)

def findByQuery (s : FileStorage) (q : TrustRecordQuery) :
    Except RepositoryError (Option TrustRecord) := .ok (s.records.find q)

def list (s : FileStorage) : Except RepositoryError (List TrustRecord) := .ok s.records.values

def read (s : FileStorage) (q : TrustRecordQuery) : Except RepositoryError TrustRecord :=
  match s.records.find q with
  | some r => .ok r
  | none =>
    .error (.recordNotFound s!"Record not found: {q.entityId.asStr}|{q.authorityId.asStr}|{
      q.action.asStr}|{q.resource.asStr}")

/-- The backend. -/
def repository : TrustRecordAdminRepository FileStorage where
  findByQuery := findByQuery
  create := create csv codec io
  update := update csv codec io
  delete := delete csv codec io
  list := list
  read := read

/-- The call of the interface that makes a change. -/
def call (s : FileStorage) (c : RecordChange) : Except RepositoryError Unit × FileStorage :=
  (repository csv codec io).call s c

variable {csv codec io}

theorem call_eq_mutate (s : FileStorage) (c : RecordChange) :
    call csv codec io s c = mutate csv codec io s c := by
  cases c <;> rfl

/-- Writing never touches the records in memory. -/
@[simp] theorem writeToFile_records (s : FileStorage) :
    (writeToFile csv codec io s).2.records = s.records := by
  unfold writeToFile
  split
  · rfl
  · split
    · rfl
    · simp only
      split <;> rfl

/-- **What a call leaves in memory**: the changed records, however the writing
goes, or the records as they were if the change is refused. -/
theorem mutate_records (s : FileStorage) (c : RecordChange) :
    (mutate csv codec io s c).2.records = (c.apply s.records).toOption.getD s.records := by
  unfold mutate
  cases c.apply s.records with
  | error e => rfl
  | ok m => exact writeToFile_records _

/-- The answers depend on the records in memory alone. -/
theorem sameAnswers_of_records {s s' : FileStorage} (h : s'.records = s.records) :
    (repository csv codec io).SameAnswers s s' := by
  refine ⟨fun q => ?_, fun q => ?_, ?_⟩
  · simp only [repository, findByQuery, h]
  · simp only [repository, read, h]
  · simp only [repository, list, h]

end FileStorage

end

end TrustRegistry
