import TrustRegistry.Lib.Delimited
import TrustRegistry.Storage.Repository

/-!
# Record keys

The key a record is stored under: its tuple in another order, and for the
backends that are keyed by a string the four parts joined with `#`.  Nothing
escapes a `#` inside a part.

## Main definitions

* `TrustRecordKey`, `TrustRecordKey.sk` — the key and its string form.
* `TrustRecordKey.HashFree` — no part of the key holds a `#`.

## Main results

* `TrustRecordKey.sk_determines_iff` — the string form stands for one key
  exactly when that key is free of `#`.
-/

namespace TrustRegistry

/-- The partition every record of the table backend is kept in. -/
def trPk : String := "TR"

/-- What every string key starts with. -/
def trSkPrefix : String := "TR#"

/-- The key of a record. -/
structure TrustRecordKey where
  authorityId : AuthorityId
  action : Action
  resource : Resource
  entityId : EntityId
  deriving DecidableEq, Inhabited

namespace TrustRecordKey

/-- The partition key. -/
def pk : String := trPk

/-- The string form of a key. -/
def sk (k : TrustRecordKey) : String :=
  trSkPrefix ++ k.authorityId.asStr ++ "#" ++ k.action.asStr ++ "#" ++ k.resource.asStr
    ++ "#" ++ k.entityId.asStr

/-- The key of a record. -/
def fromRecord (r : TrustRecord) : TrustRecordKey :=
  ⟨r.authorityId, r.action, r.resource, r.entityId⟩

/-- The key of a tuple. -/
def fromQuery (q : TrustRecordQuery) : TrustRecordKey :=
  ⟨q.authorityId, q.action, q.resource, q.entityId⟩

/-- The tuple of a key. -/
def query (k : TrustRecordKey) : TrustRecordQuery :=
  ⟨k.entityId, k.authorityId, k.action, k.resource⟩

@[simp] theorem fromQuery_recordQuery (r : TrustRecord) : fromQuery r.query = fromRecord r := rfl

@[simp] theorem fromQuery_query (k : TrustRecordKey) : fromQuery k.query = k := rfl

/-- The four parts as the error texts of several backends show them. -/
def hashed (k : TrustRecordKey) : String :=
  s!"{k.authorityId.asStr}#{k.action.asStr}#{k.resource.asStr}#{k.entityId.asStr}"

/-- A record matches a tuple when all four parts agree. -/
def matchesQuery (r : TrustRecord) (q : TrustRecordQuery) : Bool :=
  r.entityId = q.entityId && r.authorityId = q.authorityId && r.action = q.action
    && r.resource = q.resource

theorem matchesQuery_iff {r : TrustRecord} {q : TrustRecordQuery} :
    matchesQuery r q = true ↔ fromRecord r = fromQuery q := by
  simp only [matchesQuery, fromRecord, fromQuery, Bool.and_eq_true, decide_eq_true_eq,
    TrustRecordKey.mk.injEq]
  tauto

/-! ### The string form -/

/-- The parts of a key in the order of its string form. -/
def parts (k : TrustRecordKey) : List (List Char) :=
  [k.authorityId.asStr.toList, k.action.asStr.toList, k.resource.asStr.toList,
    k.entityId.asStr.toList]

/-- No part of the key holds a `#`. -/
def HashFree (k : TrustRecordKey) : Prop := Delimited.Free '#' k.parts

instance (k : TrustRecordKey) : Decidable k.HashFree :=
  inferInstanceAs (Decidable (∀ p ∈ k.parts, '#' ∉ p))

theorem parts_inj {k k' : TrustRecordKey} : k.parts = k'.parts ↔ k = k' := by
  obtain ⟨⟨a⟩, ⟨b⟩, ⟨c⟩, ⟨d⟩⟩ := k
  obtain ⟨⟨a'⟩, ⟨b'⟩, ⟨c'⟩, ⟨d'⟩⟩ := k'
  simp [parts, String.toList_inj]

/-- Any four texts are the parts of a key. -/
theorem exists_parts {l : List (List Char)} (hl : l.length = 4) :
    ∃ k : TrustRecordKey, k.parts = l := by
  obtain ⟨a, b, c, d, rfl⟩ := List.length_eq_four.mp hl
  exact ⟨⟨⟨.ofList a⟩, ⟨.ofList b⟩, ⟨.ofList c⟩, ⟨.ofList d⟩⟩, by simp [parts]⟩

theorem sk_eq_iff {k k' : TrustRecordKey} :
    k.sk = k'.sk ↔ ['#'].intercalate k.parts = ['#'].intercalate k'.parts := by
  rw [← String.toList_inj]
  simp [sk, parts, List.intercalate_cons_cons, String.toList_append, List.append_assoc]

/-- **The string form stands for one key exactly when that key is free of `#`.** -/
theorem sk_determines_iff {k : TrustRecordKey} : (∀ k', k'.sk = k.sk → k' = k) ↔ k.HashFree := by
  rw [HashFree, ← Delimited.intercalate_determines_iff (by simp [parts])]
  constructor
  · intro h l hlen hl
    obtain ⟨k', rfl⟩ := exists_parts (hlen.trans rfl)
    rw [h k' (sk_eq_iff.mpr hl)]
  · intro h k' hk'
    exact parts_inj.mp (h k'.parts rfl (sk_eq_iff.mp hk'))

end TrustRecordKey

end TrustRegistry
