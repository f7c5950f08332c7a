import TrustRegistry.Domain

/-!
# The record repository

The interface every storage backend implements.  A backend is its state and six
operations on it; the reading ones leave the state alone by their type.

## Main definitions

* `TrustRecordQuery` — the tuple a record is looked up by.
* `RecordChange` — the three changes.
* `RepositoryError` — what an operation can fail with.
* `TrustRecordAdminRepository` — the interface.
-/

namespace TrustRegistry

/-- The tuple a record is looked up by. -/
structure TrustRecordQuery where
  entityId : EntityId
  authorityId : AuthorityId
  action : Action
  resource : Resource
  deriving DecidableEq, Inhabited

/-- The tuple of a record. -/
def TrustRecord.query (r : TrustRecord) : TrustRecordQuery :=
  ⟨r.entityId, r.authorityId, r.action, r.resource⟩

/-- A change to the records. -/
inductive RecordChange
  | create (record : TrustRecord)
  | update (record : TrustRecord)
  | delete (query : TrustRecordQuery)
  deriving DecidableEq

/-- What an operation on the records can fail with. -/
inductive RepositoryError
  | connectionFailed (msg : String)
  | queryFailed (msg : String)
  | serializationFailed (msg : String)
  | recordNotFound (msg : String)
  | recordAlreadyExists (msg : String)
  | validationError (msg : String)
  | lockPoisoned
  deriving DecidableEq

/-- The text of an error. -/
def RepositoryError.display : RepositoryError → String
  | connectionFailed m => s!"Connection failed: {m}"
  | queryFailed m => s!"Query failed: {m}"
  | serializationFailed m => s!"Serialization failed: {m}"
  | recordNotFound m => s!"Record not found: {m}"
  | recordAlreadyExists m => s!"Record already exists: {m}"
  | validationError m => s!"Validation error: {m}"
  | lockPoisoned => "Lock poisoned"

/-- A storage backend over states `σ`. -/
structure TrustRecordAdminRepository (σ : Type*) where
  /-- The record of a tuple, if there is one. -/
  findByQuery : σ → TrustRecordQuery → Except RepositoryError (Option TrustRecord)
  /-- Store a record under a tuple that has none. -/
  create : σ → TrustRecord → Except RepositoryError Unit × σ
  /-- Replace the record of a tuple. -/
  update : σ → TrustRecord → Except RepositoryError Unit × σ
  /-- Remove the record of a tuple. -/
  delete : σ → TrustRecordQuery → Except RepositoryError Unit × σ
  /-- Every record. -/
  list : σ → Except RepositoryError (List TrustRecord)
  /-- The record of a tuple, which must be there. -/
  read : σ → TrustRecordQuery → Except RepositoryError TrustRecord

namespace TrustRecordAdminRepository

variable {σ : Type*} (R : TrustRecordAdminRepository σ)

/-- Make a change. -/
def call (s : σ) : RecordChange → Except RepositoryError Unit × σ
  | .create r => R.create s r
  | .update r => R.update s r
  | .delete q => R.delete s q

/-- Two states that every reading operation answers alike. -/
def SameAnswers (s s' : σ) : Prop :=
  (∀ q, R.findByQuery s' q = R.findByQuery s q) ∧
    (∀ q, R.read s' q = R.read s q) ∧ R.list s' = R.list s

end TrustRecordAdminRepository

end TrustRegistry
