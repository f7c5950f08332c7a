import TrustRegistry.Lib.AssocMap
import TrustRegistry.Domain.Key

/-!
# Records in memory

The map the in-memory backends keep: records under their own keys.  Lookups scan
the values for a record that matches the tuple; since every record is stored
under its own key this finds the record at the tuple's key.

## Main definitions

* `RecordMap` — the maps, with the invariant that every record is at its key.
* `RecordMap.find` — the scan.

## Main results

* `RecordMap.find_eq_get?` — the scan finds what is stored at the tuple's key.
* `RecordMap.find_insert`, `RecordMap.find_remove` — what a lookup sees after a
  change.
-/

namespace TrustRegistry

/-- Records stored under their own keys. -/
@[ext] structure RecordMap where
  map : AssocMap TrustRecordKey TrustRecord
  keyed : ∀ k r, map.get? k = some r → TrustRecordKey.fromRecord r = k

namespace RecordMap

instance : DecidableEq RecordMap := fun m m' =>
  decidable_of_iff (m.map = m'.map) RecordMap.ext_iff.symm

/-- No record. -/
def empty : RecordMap := ⟨AssocMap.empty, fun k r h => by simp at h⟩

instance : Inhabited RecordMap := ⟨empty⟩

/-- The record at a key. -/
def get? (m : RecordMap) (k : TrustRecordKey) : Option TrustRecord := m.map.get? k

/-- Is there a record at the key? -/
def containsKey (m : RecordMap) (k : TrustRecordKey) : Bool := m.map.contains k

/-- Store a record under its key. -/
def insert (m : RecordMap) (r : TrustRecord) : RecordMap where
  map := m.map.insert (.fromRecord r) r
  keyed := by
    intro k r' h
    rw [AssocMap.get?_insert] at h
    split at h
    · next hk =>
      obtain rfl := Option.some.inj h
      exact hk.symm
    · exact m.keyed k r' h

/-- Remove the record at a key. -/
def remove (m : RecordMap) (k : TrustRecordKey) : RecordMap where
  map := m.map.erase k
  keyed := by
    intro j r h
    rw [AssocMap.get?_erase] at h
    split at h
    · simp at h
    · exact m.keyed j r h

/-- Every record, in no promised order. -/
def values (m : RecordMap) : List TrustRecord := m.map.values

/-- The first record that matches a tuple. -/
def find (m : RecordMap) (q : TrustRecordQuery) : Option TrustRecord :=
  m.values.find? fun r => TrustRecordKey.matchesQuery r q

/-- Store records one after another, later ones replacing earlier ones. -/
def ofRecords (l : List TrustRecord) : RecordMap := l.foldl insert empty

/-! ### Lookups -/

@[simp] theorem get?_empty (k : TrustRecordKey) : empty.get? k = none := rfl

theorem get?_insert (m : RecordMap) (r : TrustRecord) (k : TrustRecordKey) :
    (m.insert r).get? k = if k = .fromRecord r then some r else m.get? k :=
  AssocMap.get?_insert m.map _ r k

theorem get?_remove (m : RecordMap) (k j : TrustRecordKey) :
    (m.remove k).get? j = if j = k then none else m.get? j :=
  AssocMap.get?_erase m.map k j

theorem containsKey_eq_true {m : RecordMap} {k : TrustRecordKey} :
    m.containsKey k = true ↔ ∃ r, m.get? k = some r := AssocMap.contains_eq_true

theorem containsKey_eq_false {m : RecordMap} {k : TrustRecordKey} :
    m.containsKey k = false ↔ m.get? k = none := AssocMap.contains_eq_false

theorem mem_values_iff {m : RecordMap} {r : TrustRecord} :
    r ∈ m.values ↔ m.get? (.fromRecord r) = some r := by
  rw [values, AssocMap.mem_values_iff]
  constructor
  · rintro ⟨k, hk⟩
    rwa [m.keyed k r hk]
  · intro h
    exact ⟨_, h⟩

theorem get?_of_find {m : RecordMap} {q : TrustRecordQuery} {r : TrustRecord}
    (h : m.find q = some r) : m.get? (.fromQuery q) = some r := by
  unfold find at h
  have hm := List.find?_some h
  rw [← TrustRecordKey.matchesQuery_iff.mp hm]
  exact mem_values_iff.mp (List.mem_of_find?_eq_some h)

/-- **The scan finds what is stored at the tuple's key.** -/
theorem find_eq_get? (m : RecordMap) (q : TrustRecordQuery) :
    m.find q = m.get? (.fromQuery q) := by
  cases h : m.find q with
  | some r => exact (get?_of_find h).symm
  | none =>
    cases hg : m.get? (.fromQuery q) with
    | none => rfl
    | some r =>
      -- the record at the tuple's key is a value that matches
      have hkey : TrustRecordKey.fromRecord r = .fromQuery q := m.keyed _ _ hg
      have hr : r ∈ m.values := mem_values_iff.mpr (by rw [hkey, hg])
      exact absurd (TrustRecordKey.matchesQuery_iff.mpr hkey) (List.find?_eq_none.mp h r hr)

theorem find_insert (m : RecordMap) (r : TrustRecord) (q : TrustRecordQuery) :
    (m.insert r).find q =
      if .fromQuery q = TrustRecordKey.fromRecord r then some r else m.find q := by
  rw [find_eq_get?, get?_insert, find_eq_get?]

theorem find_remove (m : RecordMap) (k : TrustRecordKey) (q : TrustRecordQuery) :
    (m.remove k).find q = if .fromQuery q = k then none else m.find q := by
  rw [find_eq_get?, get?_remove, find_eq_get?]

/-! ### Maps built from lists -/

theorem map_foldl_insert (rs : List TrustRecord) (m : RecordMap) :
    (rs.foldl insert m).map
      = (rs.map fun r => (TrustRecordKey.fromRecord r, r)).foldl (fun m e => m.insert e.1 e.2)
        m.map := by
  induction rs generalizing m with
  | nil => rfl
  | cons r rs ih => exact ih (m.insert r)

/-- A lookup in a map built from a list finds the last record of the key. -/
theorem get?_ofRecords (rs : List TrustRecord) (k : TrustRecordKey) :
    (ofRecords rs).get? k
      = AssocMap.find k (rs.map fun r => (TrustRecordKey.fromRecord r, r)).reverse := by
  rw [← AssocMap.get?_ofList, get?, ofRecords, map_foldl_insert]
  rfl

theorem mem_of_get?_ofRecords {rs : List TrustRecord} {k : TrustRecordKey} {r : TrustRecord}
    (h : (ofRecords rs).get? k = some r) : r ∈ rs := by
  rw [get?_ofRecords] at h
  have hm := List.mem_reverse.mp (AssocMap.mem_of_find h)
  obtain ⟨r', hr', he⟩ := List.mem_map.mp hm
  obtain rfl : r' = r := congrArg Prod.snd he
  exact hr'

/-- Changing every record but its key, and building the map anew, changes the
record at each key. -/
theorem get?_ofRecords_map {m : RecordMap} {f : TrustRecord → TrustRecord}
    (hf : ∀ r ∈ m.values, TrustRecordKey.fromRecord (f r) = .fromRecord r) (k : TrustRecordKey) :
    (ofRecords (m.values.map f)).get? k = (m.get? k).map f := by
  -- the keys stay the same, so the entries of the new map are those of the old
  have hentries : (m.values.map f).map (fun r => (TrustRecordKey.fromRecord r, r))
      = m.map.entries.map fun e => (e.1, f e.2) := by
    simp only [values, AssocMap.values, List.map_map]
    refine List.map_congr_left fun e he => ?_
    have hget : m.get? e.1 = some e.2 := AssocMap.mem_entries_iff.mp he
    have hkey := m.keyed _ _ hget
    have hmem : e.2 ∈ m.values := mem_values_iff.mpr (by rw [hkey, hget])
    simp [hf e.2 hmem, hkey]
  have hnodup : ((m.map.entries.map fun e => (e.1, f e.2)).reverse.map Prod.fst).Nodup := by
    rw [List.map_reverse, List.nodup_reverse, List.map_map]
    exact m.map.nodup
  rw [get?_ofRecords, hentries]
  cases h : m.get? k with
  | none =>
    refine AssocMap.find_eq_none_iff.mpr fun hk => ?_
    rw [List.map_reverse, List.mem_reverse, List.map_map] at hk
    exact AssocMap.find_eq_none_iff.mp h hk
  | some r =>
    refine AssocMap.find_of_mem hnodup (List.mem_reverse.mpr ?_)
    exact List.mem_map.mpr ⟨(k, r), AssocMap.mem_of_find h, rfl⟩

/-! ### When a change changes nothing -/

theorem insert_eq_self_iff {m : RecordMap} {r : TrustRecord} :
    m.insert r = m ↔ m.get? (.fromRecord r) = some r := by
  rw [RecordMap.ext_iff]
  exact AssocMap.insert_eq_self_iff

theorem remove_eq_self_iff {m : RecordMap} {k : TrustRecordKey} :
    m.remove k = m ↔ m.get? k = none := by
  rw [RecordMap.ext_iff]
  exact AssocMap.erase_eq_self_iff

end RecordMap

/-! ### Changes -/

namespace RecordChange

/-- The key a change is about. -/
def key : RecordChange → TrustRecordKey
  | create r => .fromRecord r
  | update r => .fromRecord r
  | delete q => .fromQuery q

/-- The change does not fit the records: there is a record already, or none. -/
def Refused (m : RecordMap) : RecordChange → Prop
  | create r => m.containsKey (.fromRecord r) = true
  | update r => m.containsKey (.fromRecord r) = false
  | delete q => m.containsKey (.fromQuery q) = false

/-- The change replaces a record by itself. -/
def Repeats (m : RecordMap) : RecordChange → Prop
  | update r => m.get? (.fromRecord r) = some r
  | _ => False

/-- What the key holds once the change is made. -/
def result : RecordChange → Option TrustRecord
  | create r => some r
  | update r => some r
  | delete _ => none

end RecordChange

end TrustRegistry
