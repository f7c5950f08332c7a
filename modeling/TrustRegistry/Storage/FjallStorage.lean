import TrustRegistry.Lib.AssocMap
import TrustRegistry.Storage.StringKeyed

/-!
# The embedded key-value backend

Records as JSON values of one keyspace, under the string form of their key.  An
access to the keyspace can fail, and so can the task the operation runs on.

## Main definitions

* `FjallStorage` — the keyspace, and `FjallStorage.repository` — the operations.

## Main results

* `FjallStorage.stringKeyed` — each operation acts at its tuple's string form.
-/

namespace TrustRegistry

/-- The accesses to the keyspace. -/
inductive KeyspaceAccess
  | get
  | containsKey
  | insert
  | remove
  | iterate
  deriving DecidableEq

/-- What the store, the runtime and the JSON library contribute to an operation:
which accesses fail and how, how the blocking task fails if it does, and the
text of a decoding error. -/
structure FjallIo where
  fails : KeyspaceAccess → Option String
  join : Option String
  serdeError : Json → String

/-- Nothing fails. -/
def FjallIo.up : FjallIo where
  fails _ := none
  join := none
  serdeError _ := ""

/-- The keyspace of the records. -/
structure FjallStorage where
  keyspace : AssocMap String Json

namespace FjallStorage

/-- The empty keyspace. -/
def new : FjallStorage := ⟨AssocMap.empty⟩

/-- The error of a failed access. -/
def queryError (e : String) : RepositoryError := .queryFailed e

/-- The error of a task that did not finish. -/
def joinError (e : String) : RepositoryError := .queryFailed s!"fjall blocking task failed: {e}"

/-- Read a record from its stored form. -/
def deserialize (io : FjallIo) (data : Json) : Except RepositoryError TrustRecord :=
  match TrustRecord.ofJson data with
  | some r => .ok r
  | none => .error (.serializationFailed s!"Failed to deserialize record: {io.serdeError data}")

def findByQuery (io : FjallIo) (s : FjallStorage) (q : TrustRecordQuery) :
    Except RepositoryError (Option TrustRecord) :=
  match io.join, io.fails .get with
  | some e, _ => .error (joinError e)
  | none, some e => .error (queryError e)
  | none, none =>
    match s.keyspace.get? (TrustRecordKey.fromQuery q).sk with
    | some value => (deserialize io value).map some
    | none => .ok none

/-- A task that does not finish is taken to have done nothing. -/
def create (io : FjallIo) (s : FjallStorage) (r : TrustRecord) :
    Except RepositoryError Unit × FjallStorage :=
  let key := (TrustRecordKey.fromRecord r).sk
  match io.join, io.fails .containsKey with
  | some e, _ => (.error (joinError e), s)
  | none, some e => (.error (queryError e), s)
  | none, none =>
    if s.keyspace.contains key then (.error (.recordAlreadyExists key), s)
    else
      match io.fails .insert with
      | some e => (.error (queryError e), s)
      | none => (.ok (), ⟨s.keyspace.insert key r.toJson⟩)

def update (io : FjallIo) (s : FjallStorage) (r : TrustRecord) :
    Except RepositoryError Unit × FjallStorage :=
  let key := (TrustRecordKey.fromRecord r).sk
  match io.join, io.fails .containsKey with
  | some e, _ => (.error (joinError e), s)
  | none, some e => (.error (queryError e), s)
  | none, none =>
    if s.keyspace.contains key then
      match io.fails .insert with
      | some e => (.error (queryError e), s)
      | none => (.ok (), ⟨s.keyspace.insert key r.toJson⟩)
    else (.error (.recordNotFound key), s)

def delete (io : FjallIo) (s : FjallStorage) (q : TrustRecordQuery) :
    Except RepositoryError Unit × FjallStorage :=
  let key := (TrustRecordKey.fromQuery q).sk
  match io.join, io.fails .containsKey with
  | some e, _ => (.error (joinError e), s)
  | none, some e => (.error (queryError e), s)
  | none, none =>
    if s.keyspace.contains key then
      match io.fails .remove with
      | some e => (.error (queryError e), s)
      | none => (.ok (), ⟨s.keyspace.erase key⟩)
    else (.error (.recordNotFound key), s)

def read (io : FjallIo) (s : FjallStorage) (q : TrustRecordQuery) :
    Except RepositoryError TrustRecord :=
  let key := (TrustRecordKey.fromQuery q).sk
  match io.join, io.fails .get with
  | some e, _ => .error (joinError e)
  | none, some e => .error (queryError e)
  | none, none =>
    match s.keyspace.get? key with
    | some value => deserialize io value
    | none => .error (.recordNotFound key)

/-- Every value under the common prefix; one that does not decode is skipped. -/
def list (io : FjallIo) (s : FjallStorage) : Except RepositoryError (List TrustRecord) :=
  match io.join, io.fails .iterate with
  | some e, _ => .error (joinError e)
  | none, some e => .error (queryError e)
  | none, none =>
    .ok ((s.keyspace.entries.filter fun e => trSkPrefix.toList.isPrefixOf e.1.toList).filterMap
      fun e => TrustRecord.ofJson e.2)

/-- The backend. -/
def repository (io : FjallIo) : TrustRecordAdminRepository FjallStorage where
  findByQuery := findByQuery io
  create := create io
  update := update io
  delete := delete io
  list := list io
  read := read io

/-- Each operation acts at its tuple's string form. -/
theorem stringKeyed (io : FjallIo) : StringKeyed (repository io) (fun s => s.keyspace.get?) where
  find_congr s s' q h := by simp only [repository, findByQuery, h]
  find_sk s q q' h := by simp only [repository, findByQuery, h]
  create_frame s r j hj := by
    simp only [repository, create]
    split
    · rfl
    · rfl
    · split
      · rfl
      · split
        · rfl
        · exact AssocMap.get?_insert_of_ne _ _ hj
  update_frame s r j hj := by
    simp only [repository, update]
    split
    · rfl
    · rfl
    · split
      · split
        · rfl
        · exact AssocMap.get?_insert_of_ne _ _ hj
      · rfl
  delete_frame s q j hj := by
    simp only [repository, delete]
    split
    · rfl
    · rfl
    · split
      · split
        · rfl
        · exact AssocMap.get?_erase_of_ne _ hj
      · rfl

/-- **The backend isolates a tuple exactly when it is free of `#`.** -/
theorem isolates_iff {k : TrustRecordKey} : (∀ io, (repository io).Isolates k) ↔ k.HashFree := by
  constructor
  · intro h
    have hempty : ∀ q, (repository .up).findByQuery new q = .ok none := fun q => rfl
    refine (stringKeyed .up).hashFree_of_isolates hempty (fun r => ?_) (h .up)
    simp [repository, create, findByQuery, new, deserialize, FjallIo.up, AssocMap.contains,
      Except.map]
  · intro hk io
    exact (stringKeyed io).isolates_of_hashFree hk

end FjallStorage

end TrustRegistry
