import TrustRegistry.Lib.CodedMap
import TrustRegistry.Storage.FjallRefinement

/-!
# Records in a shared store

The backends over a server keep their records in a store that others may use too:
under the prefix of their keys in one, in a partition of their own in the other.
What a change of a record does to such a store is the same in both.

## Main definitions

* `RecordLayout` — a layout for records by the string form of their keys.
* `RecordLayout.made` — the store after a change has been made.

## Main results

* `RecordLayout.lookup_made`, `RecordLayout.coded_made` — it is a change of the
  table, whose values stay encoded.
* `RecordLayout.get?_made_of_foreign` — what others have there stays.
-/

namespace TrustRegistry

open KeyedTable

/-- The string form of a record's key. -/
def recordSk (r : TrustRecord) : String := (TrustRecordKey.fromRecord r).sk

theorem recordSk_eq (r : TrustRecord) : recordSk r = (TrustRecordKey.fromRecord r).sk := rfl

/-- Records by the string form of their keys, each of which has a place. -/
structure RecordLayout (P : Type*) extends CodedMap.Layout P Json String TrustRecord where
  key_eq : ∀ r, key r = (TrustRecordKey.fromRecord r).sk
  owns : ∀ k : TrustRecordKey, toLayout.Owns k.sk

namespace RecordLayout

variable {P : Type*} [DecidableEq P] (L : RecordLayout P)

/-- The store after a change has been made. -/
def made (m : AssocMap P Json) : RecordChange → AssocMap P Json
  | .create r | .update r => m.insert (L.place (TrustRecordKey.fromRecord r).sk) (L.encode r)
  | .delete q => m.erase (L.place (TrustRecordKey.fromQuery q).sk)

variable {L} {m : AssocMap P Json}

theorem coded_insert (hm : L.Coded m) (r : TrustRecord) :
    L.Coded (m.insert (L.place (TrustRecordKey.fromRecord r).sk) (L.encode r)) := by
  rw [← L.key_eq r]
  refine hm.insert ?_
  rw [L.key_eq r]
  exact L.owns _

theorem coded_made (hm : L.Coded m) (c : RecordChange) : L.Coded (L.made m c) := by
  cases c with
  | create r => exact coded_insert hm r
  | update r => exact coded_insert hm r
  | delete q => exact hm.erase _

/-- **A change of the store is one of the table.** -/
theorem lookup_made (c : RecordChange) :
    L.lookup (L.made m c) = Function.update (L.lookup m) (c.change TrustRecordKey.sk).key
      (c.change TrustRecordKey.sk).result := by
  have hinsert : ∀ r : TrustRecord,
      L.lookup (m.insert (L.place (TrustRecordKey.fromRecord r).sk) (L.encode r))
        = Function.update (L.lookup m) (TrustRecordKey.fromRecord r).sk (some r) := by
    intro r
    rw [CodedMap.Layout.lookup_insert (L.owns _), L.decode_encode]
  cases c with
  | create r => exact hinsert r
  | update r => exact hinsert r
  | delete q => exact CodedMap.Layout.lookup_erase (L.owns _)

/-- **What others have in the store stays.** -/
theorem get?_made_of_foreign {p : P} (hp : L.keyAt p = none) (c : RecordChange) :
    (L.made m c).get? p = m.get? p := by
  have hne : ∀ k : TrustRecordKey, p ≠ L.place k.sk := fun k =>
    CodedMap.Layout.place_ne hp (L.owns k)
  cases c with
  | create r => exact AssocMap.get?_insert_of_ne _ _ (hne _)
  | update r => exact AssocMap.get?_insert_of_ne _ _ (hne _)
  | delete q => exact AssocMap.get?_erase_of_ne _ (hne _)

/-- What the table has under the key of a change, as the store has it. -/
theorem contains_place (hm : L.Coded m) (k : TrustRecordKey) :
    m.contains (L.place k.sk) = (L.lookup m k.sk).isSome := hm.contains (L.owns k)

end RecordLayout

/-- A string is a key of records if it has their prefix. -/
def prefixedKey (s : String) : Option String :=
  if trSkPrefix.toList.isPrefixOf s.toList then some s else none

theorem prefixedKey_eq_some {s k : String} :
    prefixedKey s = some k ↔ s = k ∧ trSkPrefix.toList.isPrefixOf s.toList = true := by
  unfold prefixedKey
  split
  · next h => simp [h]
  · next h => simp [h]

theorem prefixedKey_sk (k : TrustRecordKey) : prefixedKey k.sk = some k.sk :=
  prefixedKey_eq_some.mpr ⟨rfl, FjallStorage.isPrefixOf_sk k⟩

end TrustRegistry
