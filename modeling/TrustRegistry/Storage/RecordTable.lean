import TrustRegistry.Storage.CsvFileStorage
import TrustRegistry.Storage.LocalStorage
import TrustRegistry.Storage.MapBacked

/-!
# The hash maps of the in-memory backends

The in-memory backends keep a hash map.  A change computes a key from its record
or its tuple and stores, replaces or removes under that key; a lookup goes through
the values and compares the four parts.  Nothing in the map itself ties a key to
the record under it.  Here the map is as it is, with any record under any key;
that every record stands under its own key is what the operations keep.

## Main definitions

* `RecordTable`, `RecordTable.scan` — the maps, and the lookup through the values.
* `RecordTable.Keyed` — every record stands under its own key.
* `RecordTable.repository` — the operations, up to the texts of the errors.

## Main results

* `RecordTable.scan_eq_get?` — the scan, in any order, finds what stands under the
  key of the tuple.
* `RecordTable.mapBacked` — the operations are those of a table by key.
-/

namespace TrustRegistry

open KeyedTable Trim TrustRecordCsvRow

/-- The hash map of the in-memory backends: any record under any key. -/
abbrev RecordTable := AssocMap TrustRecordKey TrustRecord

/-- The texts of the errors of a backend. -/
structure ErrorTexts where
  alreadyExists : TrustRecord → String
  updateMissing : TrustRecord → String
  deleteMissing : TrustRecordQuery → String
  readMissing : TrustRecordQuery → String

/-- The text of the error of a change. -/
def ErrorTexts.refusal (texts : ErrorTexts) : RecordChange → String
  | .create r => texts.alreadyExists r
  | .update r => texts.updateMissing r
  | .delete q => texts.deleteMissing q

namespace RecordTable

/-- The first record that matches a tuple, in the order of an iteration. -/
def scan (values : List TrustRecord) (q : TrustRecordQuery) : Option TrustRecord :=
  values.find? fun r => TrustRecordKey.matchesQuery r q

/-- Every record stands under its own key. -/
def Keyed (t : RecordTable) : Prop :=
  ∀ k r, t.get? k = some r → TrustRecordKey.fromRecord r = k

section

variable (texts : ErrorTexts)

def create (t : RecordTable) (r : TrustRecord) : Except RepositoryError Unit × RecordTable :=
  let key := TrustRecordKey.fromRecord r
  if t.contains key then (.error (.recordAlreadyExists (texts.alreadyExists r)), t)
  else (.ok (), t.insert key r)

def update (t : RecordTable) (r : TrustRecord) : Except RepositoryError Unit × RecordTable :=
  let key := TrustRecordKey.fromRecord r
  if t.contains key then (.ok (), t.insert key r)
  else (.error (.recordNotFound (texts.updateMissing r)), t)

/-- The removal says whether there was a record. -/
def delete (t : RecordTable) (q : TrustRecordQuery) : Except RepositoryError Unit × RecordTable :=
  let key := TrustRecordKey.fromQuery q
  match t.get? key with
  | none => (.error (.recordNotFound (texts.deleteMissing q)), t)
  | some _ => (.ok (), t.erase key)

def read (t : RecordTable) (q : TrustRecordQuery) : Except RepositoryError TrustRecord :=
  match scan t.values q with
  | some r => .ok r
  | none => .error (.recordNotFound (texts.readMissing q))

/-- The operations on the map. -/
def repository : TrustRecordAdminRepository RecordTable where
  findByQuery t q := .ok (scan t.values q)
  create := create texts
  update := update texts
  delete := delete texts
  list t := .ok t.values
  read := read texts

end

/-! ### The invariant -/

theorem keyed_empty : Keyed AssocMap.empty := RecordMap.empty.keyed

theorem Keyed.insert {t : RecordTable} (ht : Keyed t) (r : TrustRecord) :
    Keyed (t.insert (.fromRecord r) r) := (RecordMap.insert ⟨t, ht⟩ r).keyed

theorem Keyed.erase {t : RecordTable} (ht : Keyed t) (k : TrustRecordKey) : Keyed (t.erase k) :=
  (RecordMap.remove ⟨t, ht⟩ k).keyed

/-- Two values that match a tuple are the same record. -/
theorem Keyed.unique {t : RecordTable} (ht : Keyed t) {q : TrustRecordQuery} {r r' : TrustRecord}
    (hr : r ∈ t.values) (hr' : r' ∈ t.values) (h : TrustRecordKey.matchesQuery r q = true)
    (h' : TrustRecordKey.matchesQuery r' q = true) : r = r' := by
  obtain ⟨k, hk⟩ := AssocMap.mem_values_iff.mp hr
  obtain ⟨k', hk'⟩ := AssocMap.mem_values_iff.mp hr'
  have hkq : k = .fromQuery q := by rw [← ht k r hk, TrustRecordKey.matchesQuery_iff.mp h]
  have hkq' : k' = .fromQuery q := by rw [← ht k' r' hk', TrustRecordKey.matchesQuery_iff.mp h']
  rw [hkq] at hk
  rw [hkq', hk] at hk'
  exact Option.some.inj hk'

/-- No record is there twice. -/
theorem Keyed.nodup_values {t : RecordTable} (ht : Keyed t) : t.values.Nodup :=
  (enumerates_values t).nodup fun k k' r hk hk' => by rw [← ht k r hk, ht k' r hk']

/-- **The scan finds what stands under the key of the tuple**, in whatever order it
goes through the values. -/
theorem scan_eq_get? {t : RecordTable} (ht : Keyed t) {values : List TrustRecord}
    (hvalues : values.Perm t.values) (q : TrustRecordQuery) :
    scan values q = t.get? (.fromQuery q) := by
  have hfind : scan t.values q = t.get? (.fromQuery q) := RecordMap.find_eq_get? ⟨t, ht⟩ q
  rw [← hfind]
  unfold scan
  cases h : t.values.find? fun r => TrustRecordKey.matchesQuery r q with
  | none =>
    refine List.find?_eq_none.mpr fun r hr => ?_
    exact List.find?_eq_none.mp h r (hvalues.mem_iff.mp hr)
  | some r =>
    have hr : r ∈ t.values := List.mem_of_find?_eq_some h
    have hmatch : TrustRecordKey.matchesQuery r q = true := by simpa using List.find?_some h
    cases h' : values.find? fun r => TrustRecordKey.matchesQuery r q with
    | none => exact absurd hmatch (List.find?_eq_none.mp h' r (hvalues.mem_iff.mpr hr))
    | some r' =>
      have hr' : r' ∈ t.values := hvalues.mem_iff.mp (List.mem_of_find?_eq_some h')
      have hmatch' : TrustRecordKey.matchesQuery r' q = true := by
        simpa using List.find?_some h'
      rw [ht.unique hr' hr hmatch' hmatch]

/-! ### The operations -/

/-- The map after a change has been made. -/
def made (t : RecordTable) : RecordChange → RecordTable
  | .create r | .update r => t.insert (.fromRecord r) r
  | .delete q => t.erase (.fromQuery q)

theorem Keyed.made {t : RecordTable} (ht : Keyed t) (c : RecordChange) : Keyed (made t c) := by
  cases c with
  | create r => exact ht.insert r
  | update r => exact ht.insert r
  | delete q => exact ht.erase (.fromQuery q)

theorem get?_made (t : RecordTable) (c : RecordChange) :
    (made t c).get? = Function.update t.get? (c.change id).key (c.change id).result := by
  funext k
  rw [Function.update_apply]
  cases c with
  | create r => exact AssocMap.get?_insert t _ r k
  | update r => exact AssocMap.get?_insert t _ r k
  | delete q => exact AssocMap.get?_erase t _ k

variable {texts : ErrorTexts}

/-- **A change is made if it fits**, and refused otherwise. -/
theorem call_eq (t : RecordTable) (c : RecordChange) :
    (repository texts).call t c =
      if (c.change id).fits t.get? then (.ok (), made t c)
      else (.error (c.refusal (texts.refusal c)), t) := by
  cases c with
  | create r =>
    show create texts t r = if (t.get? (.fromRecord r)).isNone then _ else _
    unfold create
    cases h : t.get? (.fromRecord r) <;>
      simp [AssocMap.contains, h, made, RecordChange.refusal, ErrorTexts.refusal]
  | update r =>
    show update texts t r = if (t.get? (.fromRecord r)).isSome then _ else _
    unfold update
    cases h : t.get? (.fromRecord r) <;>
      simp [AssocMap.contains, h, made, RecordChange.refusal, ErrorTexts.refusal]
  | delete q =>
    show delete texts t q = if (t.get? (.fromQuery q)).isSome then _ else _
    unfold delete
    cases h : t.get? (.fromQuery q) <;> simp [h, made, RecordChange.refusal, ErrorTexts.refusal]

/-- **The operations are those of a table by key**, while every record stands under
its own. -/
theorem mapBacked : MapBacked (repository texts) id (fun t => t.get?) Keyed := by
  refine .of_made (fun t c _ => call_eq t c) (fun t c ht => ht.made c) get?_made ?_ ?_ ?_
    (fun t _ => ⟨t.values, rfl, enumerates_values t⟩)
  · intro t q ht
    show Except.ok (scan t.values q) = _
    rw [scan_eq_get? ht (List.Perm.refl _) q]
    rfl
  · intro t q r ht hr
    show read texts t q = _
    rw [read, scan_eq_get? ht (List.Perm.refl _) q, show t.get? (.fromQuery q) = some r from hr]
  · intro t q ht hr
    refine ⟨texts.readMissing q, ?_⟩
    show read texts t q = _
    rw [read, scan_eq_get? ht (List.Perm.refl _) q, show t.get? (.fromQuery q) = none from hr]

end RecordTable

end TrustRegistry
