import TrustRegistry.Storage.LocalStorage

/-!
# The in-memory backend behind its lock

The records are behind a lock, which a writer that panics leaves poisoned.  From
then on every operation fails, and no operation of the backend repairs the lock.

## Main definitions

* `LockedStorage` — the records with their lock, and `LockedStorage.repository` —
  the operations.
* `LockedStorage.AgreeOff` — two states that differ in one tuple at most.

## Main results

* `LockedStorage.create_ok`, `LockedStorage.update_ok` — a change that succeeds has
  put its record.
* `LockedStorage.call_error` — one that fails has changed nothing.
* `LockedStorage.put_agreeOff` — putting a record leaves every other tuple alone.
-/

namespace TrustRegistry

/-- The records, and whether their lock is poisoned. -/
structure LockedStorage where
  storage : LocalStorage
  poisoned : Bool
  deriving DecidableEq

namespace LockedStorage

/-- A store whose lock is sound. -/
def unlocked (storage : LocalStorage) : LockedStorage := ⟨storage, false⟩

/-- Look at the records under the lock. -/
def reading {α : Type*} (look : LocalStorage → Except RepositoryError α) (s : LockedStorage) :
    Except RepositoryError α :=
  if s.poisoned then .error .lockPoisoned else look s.storage

/-- Change the records under the lock. -/
def writing (change : LocalStorage → Except RepositoryError Unit × LocalStorage)
    (s : LockedStorage) : Except RepositoryError Unit × LockedStorage :=
  if s.poisoned then (.error .lockPoisoned, s)
  else ((change s.storage).1, { s with storage := (change s.storage).2 })

/-- The backend. -/
def repository : TrustRecordAdminRepository LockedStorage where
  findByQuery s q := s.reading fun storage => storage.findByQuery q
  create s r := s.writing fun storage => storage.create r
  update s r := s.writing fun storage => storage.update r
  delete s q := s.writing fun storage => storage.delete q
  list s := s.reading LocalStorage.list
  read s q := s.reading fun storage => storage.read q

/-- The state with a record put under its key. -/
def put (s : LockedStorage) (r : TrustRecord) : LockedStorage :=
  { s with storage := ⟨s.storage.records.insert r⟩ }

/-! ### Changes -/

/-- A change that succeeds has found the lock sound. -/
theorem writing_ok {c : LocalStorage → Except RepositoryError Unit × LocalStorage}
    {s s' : LockedStorage} (h : s.writing c = (.ok (), s')) :
    s.poisoned = false ∧
      ∃ storage, c s.storage = (.ok (), storage) ∧ s' = { s with storage } := by
  unfold writing at h
  split at h
  · cases h
  · next hlock =>
    obtain ⟨hanswer, hstate⟩ := Prod.mk.inj h
    exact ⟨Bool.eq_false_iff.mpr hlock, (c s.storage).2, Prod.ext hanswer rfl, hstate.symm⟩

/-- A change is the one of the records, under the lock. -/
theorem call_eq_writing (s : LockedStorage) (c : RecordChange) :
    repository.call s c = s.writing fun storage => LocalStorage.repository.call storage c := by
  cases c <;> rfl

/-- **A change that fails changes nothing**, whether the lock or the records refuse
it. -/
theorem call_error {s s' : LockedStorage} {c : RecordChange} {e : RepositoryError}
    (h : repository.call s c = (.error e, s')) : s' = s := by
  rw [call_eq_writing, writing] at h
  split at h
  · exact (congrArg Prod.snd h).symm
  · obtain ⟨hanswer, hstate⟩ := Prod.mk.inj h
    have hsame : (LocalStorage.repository.call s.storage c).2 = s.storage :=
      LocalStorage.call_error (Prod.ext hanswer rfl)
    rw [hsame] at hstate
    exact hstate.symm

/-- A record that has been created was put where there was none. -/
theorem create_ok {s s' : LockedStorage} {r : TrustRecord}
    (h : repository.create s r = (.ok (), s')) :
    s.poisoned = false ∧ s.storage.records.find r.query = none ∧ s' = s.put r := by
  obtain ⟨hlock, storage, hcreate, hstate⟩ := writing_ok (c := fun storage => storage.create r) h
  unfold LocalStorage.create at hcreate
  split at hcreate
  · cases hcreate
  · next hkey =>
    obtain rfl := congrArg Prod.snd hcreate
    refine ⟨hlock, ?_, hstate⟩
    rw [RecordMap.find_eq_get?]
    exact RecordMap.containsKey_eq_false.mp (Bool.eq_false_iff.mpr hkey)

/-- A record that has been updated was put. -/
theorem update_ok {s s' : LockedStorage} {r : TrustRecord}
    (h : repository.update s r = (.ok (), s')) : s' = s.put r := by
  obtain ⟨_, storage, hupdate, hstate⟩ := writing_ok (c := fun storage => storage.update r) h
  unfold LocalStorage.update at hupdate
  split at hupdate
  · obtain rfl := congrArg Prod.snd hupdate
    exact hstate
  · cases hupdate

/-! ### Reads -/

/-- A record that is read is the one that is stored. -/
theorem read_ok {s : LockedStorage} {q : TrustRecordQuery} {r : TrustRecord}
    (h : repository.read s q = .ok r) :
    s.poisoned = false ∧ s.storage.records.find q = some r := by
  simp only [repository, reading, LocalStorage.read] at h
  cases hlock : s.poisoned with
  | true => simp [hlock] at h
  | false =>
    cases hfind : s.storage.records.find q with
    | none => simp [hlock, hfind] at h
    | some r' =>
      obtain rfl : r' = r := by simpa [hlock, hfind] using h
      exact ⟨rfl, rfl⟩

theorem read_of_find {s : LockedStorage} {q : TrustRecordQuery} {r : TrustRecord}
    (hlock : s.poisoned = false) (h : s.storage.records.find q = some r) :
    repository.read s q = .ok r := by
  simp [repository, reading, LocalStorage.read, hlock, h]

theorem findByQuery_of_find {s : LockedStorage} {q : TrustRecordQuery} {r : Option TrustRecord}
    (hlock : s.poisoned = false) (h : s.storage.records.find q = r) :
    repository.findByQuery s q = .ok r := by
  simp [repository, reading, LocalStorage.findByQuery, hlock, h]

/-! ### What a change leaves alone -/

/-- Two states that differ in the record of one tuple at most. -/
structure AgreeOff (q : TrustRecordQuery) (s s' : LockedStorage) : Prop where
  found : ∀ q', q' ≠ q → repository.findByQuery s' q' = repository.findByQuery s q'
  read : ∀ q', q' ≠ q → repository.read s' q' = repository.read s q'
  values : ∀ r : TrustRecord, r.query ≠ q →
    (r ∈ s'.storage.records.values ↔ r ∈ s.storage.records.values)

theorem fromQuery_inj {q q' : TrustRecordQuery} :
    TrustRecordKey.fromQuery q = .fromQuery q' ↔ q = q' := by
  constructor
  · intro h
    exact congrArg TrustRecordKey.query h
  · rintro rfl
    rfl

/-- A record that is put is found. -/
theorem find_put_self (s : LockedStorage) (r : TrustRecord) :
    (s.put r).storage.records.find r.query = some r := by
  rw [put, RecordMap.find_insert, TrustRecordKey.fromQuery_recordQuery, if_pos rfl]

theorem find_put_of_ne {s : LockedStorage} {r : TrustRecord} {q : TrustRecordQuery}
    (h : q ≠ r.query) : (s.put r).storage.records.find q = s.storage.records.find q := by
  have hkey : TrustRecordKey.fromQuery q ≠ .fromRecord r := fun hk => h (fromQuery_inj.mp hk)
  rw [put, RecordMap.find_insert, if_neg hkey]

theorem mem_values_iff {s : LockedStorage} {r : TrustRecord} :
    r ∈ s.storage.records.values ↔ s.storage.records.find r.query = some r := by
  rw [RecordMap.mem_values_iff, RecordMap.find_eq_get?, TrustRecordKey.fromQuery_recordQuery]

/-- **Putting a record leaves every other tuple alone.** -/
theorem put_agreeOff (s : LockedStorage) (r : TrustRecord) : AgreeOff r.query s (s.put r) where
  found q hq := by
    have hfind := find_put_of_ne (s := s) hq
    simp only [repository, reading, LocalStorage.findByQuery, hfind]
    rfl
  read q hq := by
    have hfind := find_put_of_ne (s := s) hq
    simp only [repository, reading, LocalStorage.read, hfind]
    rfl
  values r' hr' := by rw [mem_values_iff, mem_values_iff, find_put_of_ne hr']

end LockedStorage

end TrustRegistry
