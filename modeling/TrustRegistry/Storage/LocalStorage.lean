import TrustRegistry.Storage.RecordMap

/-!
# The in-memory backend

## Main definitions

* `LocalStorage` — the records, and `LocalStorage.repository` — the operations.

## Main results

* `LocalStorage.call_error` — a change that fails changes nothing.
* `LocalStorage.create_snd_eq_iff`, `LocalStorage.update_snd_eq_iff`,
  `LocalStorage.delete_snd_eq_iff` — when a change leaves the records as they
  are: exactly when it is refused, or replaces a record by itself.
-/

namespace TrustRegistry

/-- The records of the in-memory backend. -/
structure LocalStorage where
  records : RecordMap
  deriving DecidableEq

namespace LocalStorage

/-- No record. -/
def new : LocalStorage := ⟨RecordMap.empty⟩

/-- The records of a list, later ones replacing earlier ones. -/
def withRecords (l : List TrustRecord) : LocalStorage := ⟨RecordMap.ofRecords l⟩

/-- The record of a tuple, if there is one. -/
def findByQuery (s : LocalStorage) (q : TrustRecordQuery) :
    Except RepositoryError (Option TrustRecord) := .ok (s.records.find q)

/-- Store a record under a tuple that has none. -/
def create (s : LocalStorage) (r : TrustRecord) : Except RepositoryError Unit × LocalStorage :=
  if s.records.containsKey (.fromRecord r) then
    (.error (.recordAlreadyExists
      s!"Record already exists: {(TrustRecordKey.fromRecord r).hashed}"), s)
  else (.ok (), ⟨s.records.insert r⟩)

/-- Replace the record of a tuple. -/
def update (s : LocalStorage) (r : TrustRecord) : Except RepositoryError Unit × LocalStorage :=
  if s.records.containsKey (.fromRecord r) then (.ok (), ⟨s.records.insert r⟩)
  else
    (.error (.recordNotFound
      s!"Record not found: {(TrustRecordKey.fromRecord r).hashed}"), s)

/-- Remove the record of a tuple. -/
def delete (s : LocalStorage) (q : TrustRecordQuery) :
    Except RepositoryError Unit × LocalStorage :=
  if s.records.containsKey (.fromQuery q) then (.ok (), ⟨s.records.remove (.fromQuery q)⟩)
  else
    (.error (.recordNotFound
      s!"Record not found: {(TrustRecordKey.fromQuery q).hashed}"), s)

/-- Every record. -/
def list (s : LocalStorage) : Except RepositoryError (List TrustRecord) := .ok s.records.values

/-- The record of a tuple, which must be there. -/
def read (s : LocalStorage) (q : TrustRecordQuery) : Except RepositoryError TrustRecord :=
  match s.records.find q with
  | some r => .ok r
  | none =>
    .error (.recordNotFound s!"Record not found: {(TrustRecordKey.fromQuery q).hashed}")

/-- The backend. -/
def repository : TrustRecordAdminRepository LocalStorage :=
  { findByQuery, create, update, delete, list, read }

/-- A change that fails leaves the records as they are. -/
theorem call_error {s s' : LocalStorage} {c : RecordChange} {e : RepositoryError}
    (h : repository.call s c = (.error e, s')) : s' = s := by
  cases c with
  | create r =>
    have hcreate : s.create r = (.error e, s') := h
    unfold create at hcreate
    split at hcreate
    · exact (congrArg Prod.snd hcreate).symm
    · cases hcreate
  | update r =>
    have hupdate : s.update r = (.error e, s') := h
    unfold update at hupdate
    split at hupdate
    · cases hupdate
    · exact (congrArg Prod.snd hupdate).symm
  | delete q =>
    have hdelete : s.delete q = (.error e, s') := h
    unfold delete at hdelete
    split at hdelete
    · cases hdelete
    · exact (congrArg Prod.snd hdelete).symm

/-! ### When a change leaves the records as they are -/

theorem create_snd_eq_iff {s : LocalStorage} {r : TrustRecord} :
    (s.create r).2 = s ↔ s.records.get? (.fromRecord r) ≠ none := by
  unfold create
  cases h : s.records.containsKey (.fromRecord r) with
  | true =>
    obtain ⟨r', hr'⟩ := RecordMap.containsKey_eq_true.mp h
    simp [hr']
  | false =>
    have hnone := RecordMap.containsKey_eq_false.mp h
    have hne : s.records.insert r ≠ s.records := by
      rw [Ne, RecordMap.insert_eq_self_iff, hnone]
      simp
    simp only [Bool.false_eq_true, if_false, hnone, ne_eq, not_true_eq_false, iff_false]
    exact fun h => hne (congrArg LocalStorage.records h)

theorem update_snd_eq_iff {s : LocalStorage} {r : TrustRecord} :
    (s.update r).2 = s ↔
      s.records.get? (.fromRecord r) = none ∨ s.records.get? (.fromRecord r) = some r := by
  unfold update
  cases h : s.records.containsKey (.fromRecord r) with
  | true =>
    obtain ⟨r', hr'⟩ := RecordMap.containsKey_eq_true.mp h
    rw [if_pos rfl, ← RecordMap.insert_eq_self_iff]
    constructor
    · intro h
      exact .inr (congrArg LocalStorage.records h)
    · rintro (h | h)
      · simp [hr'] at h
      · exact congrArg LocalStorage.mk h
  | false => simp [RecordMap.containsKey_eq_false.mp h]

theorem delete_snd_eq_iff {s : LocalStorage} {q : TrustRecordQuery} :
    (s.delete q).2 = s ↔ s.records.get? (.fromQuery q) = none := by
  unfold delete
  cases h : s.records.containsKey (.fromQuery q) with
  | true =>
    rw [if_pos rfl, ← RecordMap.remove_eq_self_iff]
    exact ⟨congrArg LocalStorage.records, congrArg LocalStorage.mk⟩
  | false => simp [RecordMap.containsKey_eq_false.mp h]

/-- **A change leaves the records as they are** when it is refused or replaces a
record by itself, and in no other case. -/
theorem call_snd_eq_iff {s : LocalStorage} (c : RecordChange) :
    (repository.call s c).2 = s ↔ c.Refused s.records ∨ c.Repeats s.records := by
  cases c with
  | create r =>
    show (s.create r).2 = s ↔ s.records.containsKey _ = true ∨ False
    rw [create_snd_eq_iff, or_false, RecordMap.containsKey_eq_true, Option.ne_none_iff_exists']
  | update r =>
    show (s.update r).2 = s ↔ s.records.containsKey _ = false ∨ s.records.get? _ = some r
    rw [update_snd_eq_iff, RecordMap.containsKey_eq_false]
  | delete q =>
    show (s.delete q).2 = s ↔ s.records.containsKey _ = false ∨ False
    rw [delete_snd_eq_iff, or_false, RecordMap.containsKey_eq_false]

end LocalStorage

end TrustRegistry
