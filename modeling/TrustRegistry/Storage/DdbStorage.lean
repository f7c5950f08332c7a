import Mathlib.Data.List.Infix
import TrustRegistry.Lib.AssocMap
import TrustRegistry.Storage.StringKeyed

/-!
# The table backend

Records as items of a DynamoDB table: the members of the record's form together
with the two key attributes.  All items share one partition, and within it an
item is found by the string form of its key.  An item is the JSON value that it stands
for, so records are compared up to the form of their numbers: the service keeps `1.0`
as `1`.

## Main definitions

* `DynamoDbStorage` — the table, and `DynamoDbStorage.repository` — the operations.

## Main results

* `DynamoDbStorage.stringKeyed` — each operation acts at its tuple's string form.
-/

namespace TrustRegistry

/-- The requests the backend sends. -/
inductive DynamoDbRequest
  | getItem
  | putItem
  | deleteItem
  | query
  deriving DecidableEq

/-- What the service and its client contribute to an operation: which requests
fail and with which text, the text of a failed condition, and that of a decoding
error. -/
structure DynamoDbIo where
  fails : DynamoDbRequest → Option String
  conditionFailed : String
  serdeError : Json → String

/-- No request fails, and a failed condition is shown under its own name. -/
def DynamoDbIo.up : DynamoDbIo where
  fails _ := none
  conditionFailed := "ConditionalCheckFailed"
  serdeError _ := ""

/-- The partition key attribute. -/
def pkAttr : String := "PK"

/-- The sort key attribute. -/
def skAttr : String := "SK"

/-- The items of the table by their two key attributes. -/
structure DynamoDbStorage where
  items : AssocMap (String × String) Json

namespace DynamoDbStorage

/-- The empty table. -/
def new : DynamoDbStorage := ⟨AssocMap.empty⟩

/-- The key attributes of a tuple. -/
def buildKey (q : TrustRecordQuery) : String × String :=
  (TrustRecordKey.pk, (TrustRecordKey.fromQuery q).sk)

/-- The key attributes of a record. -/
def buildKeyFromRecord (r : TrustRecord) : String × String :=
  (TrustRecordKey.pk, (TrustRecordKey.fromRecord r).sk)

/-- The item of a record: its form with the two key attributes added. -/
def buildItem (r : TrustRecord) : Json :=
  match r.toJson with
  | .obj m =>
    .obj (m ++ [(pkAttr, .str (buildKeyFromRecord r).1), (skAttr, .str (buildKeyFromRecord r).2)])
  | j => j

/-- The key attributes are no field of a record, so an item reads back as the record. -/
theorem ofJson_buildItem (r : TrustRecord) : TrustRecord.ofJson (buildItem r) = some r := by
  obtain ⟨⟨e⟩, ⟨a⟩, ⟨ac⟩, ⟨re⟩, recognized, authorized, ⟨c⟩, t⟩ := r
  rcases recognized with _ | b <;> rcases authorized with _ | b' <;>
    simp [buildItem, TrustRecord.toJson, TrustRecord.ofJson, Json.member_cons, Json.asStr]
  all_goals rfl

/-- Read a record from an item. -/
def fromItem (io : DynamoDbIo) (item : Json) : Except RepositoryError TrustRecord :=
  match TrustRecord.ofJson item with
  | some r => .ok r
  | none => .error (.serializationFailed (io.serdeError item))

/-- Does an error text name a failed condition? -/
def isConditionalCheckFailed (e : String) : Bool :=
  decide ("ConditionalCheckFailed".toList <:+: e.toList)

/-- The error of a conditional request, by its text: the conflict, if the text
names a failed condition. -/
def writeError (conflict : RepositoryError) (what e : String) : RepositoryError :=
  if isConditionalCheckFailed e then conflict else .queryFailed s!"Failed to {what} record: {e}"

/-- The conflict of a creation. -/
def alreadyExists (k : TrustRecordKey) : RepositoryError :=
  .recordAlreadyExists s!"Record already exists: {k.hashed}"

/-- The conflict of the other requests. -/
def notFound (k : TrustRecordKey) : RepositoryError :=
  .recordNotFound s!"Record not found: {k.hashed}"

def findByQuery (io : DynamoDbIo) (s : DynamoDbStorage) (q : TrustRecordQuery) :
    Except RepositoryError (Option TrustRecord) :=
  match io.fails .getItem with
  | some e => .error (.connectionFailed s!"Failed to fetch item from DynamoDB: {e}")
  | none =>
    match s.items.get? (buildKey q) with
    | some item => (fromItem io item).map some
    | none => .ok none

/-- `put_item` under the condition `attribute_not_exists(SK)`. -/
def create (io : DynamoDbIo) (s : DynamoDbStorage) (r : TrustRecord) :
    Except RepositoryError Unit × DynamoDbStorage :=
  let conflict := alreadyExists (.fromRecord r)
  match io.fails .putItem with
  | some e => (.error (writeError conflict "create" e), s)
  | none =>
    if s.items.contains (buildKeyFromRecord r) then
      (.error (writeError conflict "create" io.conditionFailed), s)
    else (.ok (), ⟨s.items.insert (buildKeyFromRecord r) (buildItem r)⟩)

/-- `put_item` under the condition `attribute_exists(SK)`. -/
def update (io : DynamoDbIo) (s : DynamoDbStorage) (r : TrustRecord) :
    Except RepositoryError Unit × DynamoDbStorage :=
  let conflict := notFound (.fromRecord r)
  match io.fails .putItem with
  | some e => (.error (writeError conflict "update" e), s)
  | none =>
    if s.items.contains (buildKeyFromRecord r) then
      (.ok (), ⟨s.items.insert (buildKeyFromRecord r) (buildItem r)⟩)
    else (.error (writeError conflict "update" io.conditionFailed), s)

/-- `delete_item` under the condition `attribute_exists(SK)`. -/
def delete (io : DynamoDbIo) (s : DynamoDbStorage) (q : TrustRecordQuery) :
    Except RepositoryError Unit × DynamoDbStorage :=
  let conflict := notFound (.fromQuery q)
  match io.fails .deleteItem with
  | some e => (.error (writeError conflict "delete" e), s)
  | none =>
    if s.items.contains (buildKey q) then (.ok (), ⟨s.items.erase (buildKey q)⟩)
    else (.error (writeError conflict "delete" io.conditionFailed), s)

/-- Every item of the partition whose sort key has the common start; one that
does not decode fails the whole listing. -/
def list (io : DynamoDbIo) (s : DynamoDbStorage) : Except RepositoryError (List TrustRecord) :=
  match io.fails .query with
  | some e => .error (.queryFailed s!"Failed to query table: {e}")
  | none =>
    (s.items.entries.filter fun e =>
      e.1.1 = TrustRecordKey.pk && trSkPrefix.toList.isPrefixOf e.1.2.toList).mapM
        fun e => fromItem io e.2

def read (io : DynamoDbIo) (s : DynamoDbStorage) (q : TrustRecordQuery) :
    Except RepositoryError TrustRecord :=
  match io.fails .getItem with
  | some e => .error (.connectionFailed s!"Failed to fetch item from DynamoDB: {e}")
  | none =>
    match s.items.get? (buildKey q) with
    | some item => fromItem io item
    | none => .error (notFound (.fromQuery q))

/-- The backend. -/
def repository (io : DynamoDbIo) : TrustRecordAdminRepository DynamoDbStorage where
  findByQuery := findByQuery io
  create := create io
  update := update io
  delete := delete io
  list := list io
  read := read io

/-- Two places of the one partition differ when their sort keys do. -/
theorem place_ne {j j' : String} (h : j ≠ j') : (TrustRecordKey.pk, j) ≠ (TrustRecordKey.pk, j') :=
  fun he => h (congrArg Prod.snd he)

/-- Each operation acts at its tuple's string form. -/
theorem stringKeyed (io : DynamoDbIo) :
    StringKeyed (repository io) (fun s j => s.items.get? (TrustRecordKey.pk, j)) where
  find_congr s s' q h := by simp only [repository, findByQuery, buildKey, h]
  find_sk s q q' h := by simp only [repository, findByQuery, buildKey, h]
  create_frame s r j hj := by
    simp only [repository, create]
    split
    · rfl
    · split
      · rfl
      · exact AssocMap.get?_insert_of_ne _ _ (place_ne hj)
  update_frame s r j hj := by
    simp only [repository, update]
    split
    · rfl
    · split
      · exact AssocMap.get?_insert_of_ne _ _ (place_ne hj)
      · rfl
  delete_frame s q j hj := by
    simp only [repository, delete]
    split
    · rfl
    · split
      · exact AssocMap.get?_erase_of_ne _ (place_ne hj)
      · rfl

/-- **The backend isolates a tuple exactly when it is free of `#`.** -/
theorem isolates_iff {k : TrustRecordKey} : (∀ io, (repository io).Isolates k) ↔ k.HashFree := by
  constructor
  · intro h
    have hempty : ∀ q, (repository .up).findByQuery new q = .ok none := fun q => rfl
    refine (stringKeyed .up).hashFree_of_isolates hempty (fun r => ?_) (h .up)
    have hkey : buildKey r.query = buildKeyFromRecord r := rfl
    simp [repository, create, findByQuery, new, fromItem, DynamoDbIo.up, AssocMap.contains,
      Except.map, hkey, ofJson_buildItem]
  · intro hk io
    exact (stringKeyed io).isolates_of_hashFree hk

end DynamoDbStorage

end TrustRegistry
