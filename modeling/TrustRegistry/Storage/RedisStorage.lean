import TrustRegistry.Lib.AssocMap
import TrustRegistry.Storage.StringKeyed

/-!
# The Redis backend

Records as JSON texts under the string form of their key.  A command can fail;
what it answers is otherwise what the server holds.

## Main definitions

* `RedisStorage` — the keyspace, and `RedisStorage.repository` — the operations.

## Main results

* `RedisStorage.stringKeyed` — each operation acts at its tuple's string form.
-/

namespace TrustRegistry

/-- The commands the backend sends. -/
inductive RedisCommand
  | get
  | exists
  | set
  | del
  | scan
  deriving DecidableEq

/-- The name of a command in the error texts. -/
def RedisCommand.name : RedisCommand → String
  | get => "GET"
  | «exists» => "EXISTS"
  | set => "SET"
  | del => "DEL"
  | scan => "SCAN"

/-- What the server and the JSON library contribute to an operation: which
commands fail and how, the pages a scan returns, and the text of a decoding
error. -/
structure RedisIo where
  fails : RedisCommand → Option String
  pages : List (List String)
  serdeError : Json → String

/-- No command fails. -/
def RedisIo.up : RedisIo where
  fails _ := none
  pages := []
  serdeError _ := ""

/-- The keyspace; a value is the document its text holds. -/
structure RedisStorage where
  keyspace : AssocMap String Json

namespace RedisStorage

/-- The empty keyspace. -/
def new : RedisStorage := ⟨AssocMap.empty⟩

/-- The error of a failed command. -/
def commandError (c : RedisCommand) (e : String) : RepositoryError :=
  .queryFailed s!"Redis {c.name} failed: {e}"

/-- Read a record from its stored form. -/
def deserializeRecord (io : RedisIo) (data : Json) : Except RepositoryError TrustRecord :=
  match TrustRecord.ofJson data with
  | some r => .ok r
  | none => .error (.serializationFailed s!"Failed to deserialize record: {io.serdeError data}")

def findByQuery (io : RedisIo) (s : RedisStorage) (q : TrustRecordQuery) :
    Except RepositoryError (Option TrustRecord) :=
  match io.fails .get with
  | some e => .error (commandError .get e)
  | none =>
    match s.keyspace.get? (TrustRecordKey.fromQuery q).sk with
    | some data => (deserializeRecord io data).map some
    | none => .ok none

def create (io : RedisIo) (s : RedisStorage) (r : TrustRecord) :
    Except RepositoryError Unit × RedisStorage :=
  match io.fails .exists with
  | some e => (.error (commandError .exists e), s)
  | none =>
    if s.keyspace.contains (TrustRecordKey.fromRecord r).sk then
      (.error (.recordAlreadyExists
        s!"Record already exists: {(TrustRecordKey.fromRecord r).hashed}"), s)
    else
      match io.fails .set with
      | some e => (.error (commandError .set e), s)
      | none => (.ok (), ⟨s.keyspace.insert (TrustRecordKey.fromRecord r).sk r.toJson⟩)

def update (io : RedisIo) (s : RedisStorage) (r : TrustRecord) :
    Except RepositoryError Unit × RedisStorage :=
  match io.fails .exists with
  | some e => (.error (commandError .exists e), s)
  | none =>
    if s.keyspace.contains (TrustRecordKey.fromRecord r).sk then
      match io.fails .set with
      | some e => (.error (commandError .set e), s)
      | none => (.ok (), ⟨s.keyspace.insert (TrustRecordKey.fromRecord r).sk r.toJson⟩)
    else
      (.error (.recordNotFound
        s!"Record not found: {(TrustRecordKey.fromRecord r).hashed}"), s)

/-- `DEL` removes and counts in one command. -/
def delete (io : RedisIo) (s : RedisStorage) (q : TrustRecordQuery) :
    Except RepositoryError Unit × RedisStorage :=
  match io.fails .del with
  | some e => (.error (commandError .del e), s)
  | none =>
    if s.keyspace.contains (TrustRecordKey.fromQuery q).sk then
      (.ok (), ⟨s.keyspace.erase (TrustRecordKey.fromQuery q).sk⟩)
    else
      (.error (.recordNotFound
        s!"Record not found: {(TrustRecordKey.fromQuery q).hashed}"), s)

/-- Every key of every page is looked up; a value that does not decode is skipped. -/
def list (io : RedisIo) (s : RedisStorage) : Except RepositoryError (List TrustRecord) :=
  match io.fails .scan, io.fails .get with
  | some e, _ => .error (commandError .scan e)
  | none, some e => if io.pages.flatten = [] then .ok [] else .error (commandError .get e)
  | none, none =>
    .ok (io.pages.flatten.filterMap fun key => (s.keyspace.get? key).bind TrustRecord.ofJson)

def read (io : RedisIo) (s : RedisStorage) (q : TrustRecordQuery) :
    Except RepositoryError TrustRecord :=
  match io.fails .get with
  | some e => .error (commandError .get e)
  | none =>
    match s.keyspace.get? (TrustRecordKey.fromQuery q).sk with
    | some data => deserializeRecord io data
    | none =>
      .error (.recordNotFound s!"Record not found: {(TrustRecordKey.fromQuery q).hashed}")

/-- The backend. -/
def repository (io : RedisIo) : TrustRecordAdminRepository RedisStorage where
  findByQuery := findByQuery io
  create := create io
  update := update io
  delete := delete io
  list := list io
  read := read io

/-- Each operation acts at its tuple's string form. -/
theorem stringKeyed (io : RedisIo) : StringKeyed (repository io) (fun s => s.keyspace.get?) where
  find_congr s s' q h := by simp only [repository, findByQuery, h]
  find_sk s q q' h := by simp only [repository, findByQuery, h]
  create_frame s r j hj := by
    simp only [repository, create]
    split
    · rfl
    · split
      · rfl
      · split
        · rfl
        · exact AssocMap.get?_insert_of_ne _ _ hj
  update_frame s r j hj := by
    simp only [repository, update]
    split
    · rfl
    · split
      · split
        · rfl
        · exact AssocMap.get?_insert_of_ne _ _ hj
      · rfl
  delete_frame s q j hj := by
    simp only [repository, delete]
    split
    · rfl
    · split
      · exact AssocMap.get?_erase_of_ne _ hj
      · rfl

/-- **The backend isolates a tuple exactly when it is free of `#`.** -/
theorem isolates_iff {k : TrustRecordKey} : (∀ io, (repository io).Isolates k) ↔ k.HashFree := by
  constructor
  · intro h
    have hempty : ∀ q, (repository .up).findByQuery new q = .ok none := fun q => rfl
    refine (stringKeyed .up).hashFree_of_isolates hempty (fun r => ?_) (h .up)
    simp [repository, create, findByQuery, new, deserializeRecord, RedisIo.up, AssocMap.contains,
      Except.map]
  · intro hk io
    exact (stringKeyed io).isolates_of_hashFree hk

end RedisStorage

end TrustRegistry
