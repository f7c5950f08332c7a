import TrustRegistry.Storage.RedisStorage
import TrustRegistry.Storage.FjallStorage
import TrustRegistry.Storage.DdbStorage

/-!
# Aliasing of tuples

The in-memory backends compare tuples part by part; the others compare string
forms, in which a `#` inside a part cannot be told from one between two parts.

## Main results

* `sk_isolates_iff` — on every string-keyed backend a tuple is apart from all
  others exactly when no part of it holds a `#`.
* `sk_alias` — a DID URL with a fragment is enough to lose a record to another
  tuple.
-/

namespace TrustRegistry

open TrustRecordKey

/-- **A tuple stands apart exactly when it is free of `#`**: no other tuple has
its string form, and none of the string-keyed backends lets an operation for
another tuple see or change its record. -/
theorem sk_isolates_iff (k : TrustRecordKey) :
    ((∀ k', k'.sk = k.sk → k' = k) ↔ k.HashFree) ∧
      ((∀ io, (RedisStorage.repository io).Isolates k) ↔ k.HashFree) ∧
      ((∀ io, (FjallStorage.repository io).Isolates k) ↔ k.HashFree) ∧
      ((∀ io, (DynamoDbStorage.repository io).Isolates k) ↔ k.HashFree) := by
  refine ⟨sk_determines_iff, ?_, ?_, ?_⟩
  · exact RedisStorage.isolates_iff
  · exact FjallStorage.isolates_iff
  · exact DynamoDbStorage.isolates_iff

/-- A tuple whose authority is a DID URL with a fragment. -/
def fragmentKey : TrustRecordKey :=
  ⟨⟨"did:web:a#key-1"⟩, ⟨"issue"⟩, ⟨"vc"⟩, ⟨"did:web:e"⟩⟩

/-- Another authority and another action, and the same string form. -/
def shiftedKey : TrustRecordKey :=
  ⟨⟨"did:web:a"⟩, ⟨"key-1#issue"⟩, ⟨"vc"⟩, ⟨"did:web:e"⟩⟩

/-- **Two tuples with one string form.**  The record created for one is returned
to a query for the other, replaced by an update for it and removed by a deletion. -/
theorem sk_alias :
    let stored := (RedisStorage.create .up .new (StringKeyed.sampleRecord fragmentKey)).2
    let updated := (RedisStorage.update .up stored (StringKeyed.sampleRecord shiftedKey)).2
    let deleted := (RedisStorage.delete .up stored shiftedKey.query).2
    fragmentKey ≠ shiftedKey ∧ fragmentKey.sk = shiftedKey.sk ∧
      RedisStorage.findByQuery .up stored shiftedKey.query
        = .ok (some (StringKeyed.sampleRecord fragmentKey)) ∧
      RedisStorage.findByQuery .up updated fragmentKey.query
        = .ok (some (StringKeyed.sampleRecord shiftedKey)) ∧
      RedisStorage.findByQuery .up deleted fragmentKey.query = .ok none := by
  refine ⟨by decide, by decide, rfl, rfl, rfl⟩

end TrustRegistry
