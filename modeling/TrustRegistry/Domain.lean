import TrustRegistry.Lib.Json

/-!
# Trust records

The records of the registry: an authority states about an entity that it may, or
may not, take an action on a resource.  Identifiers are arbitrary strings, the
two answers are optional and read as `false` when they are absent, and the
context is any JSON document.

## Main definitions

* `TrustRecord` — the records, with `TrustRecord.isRecognized` and
  `TrustRecord.isAuthorized`, the two answers a query sees.
* `TrustRecordBuilder` — how records are put together from decoded input.
* `TrustRecord.toJson`, `TrustRecord.ofJson` — their JSON form.

## Main results

* `RecordType.fromStr_display` — record types are read back from their names.
* `TrustRecord.ofJson_toJson` — records are read back from their JSON form.
-/

namespace TrustRegistry

/-! ### Identifiers -/

/-- The entity a record is about. -/
structure EntityId where
  /-- The identifier. -/
  asStr : String
  deriving DecidableEq, Inhabited

/-- The authority that states the record. -/
structure AuthorityId where
  /-- The identifier. -/
  asStr : String
  deriving DecidableEq, Inhabited

/-- The action a record is about. -/
structure Action where
  /-- The name. -/
  asStr : String
  deriving DecidableEq, Inhabited

/-- The resource a record is about. -/
structure Resource where
  /-- The name. -/
  asStr : String
  deriving DecidableEq, Inhabited

/-- The context of a record: any JSON document. -/
structure Context where
  /-- The document. -/
  value : Json
  deriving DecidableEq

/-- The empty context, an object with no member. -/
def Context.empty : Context := ⟨.obj []⟩

instance : Inhabited Context := ⟨Context.empty⟩

/-! ### Record types -/

/-- What putting a record together or reading a record type can fail with. -/
inductive TrustRecordError
  | missingEntityId
  | missingAuthorityId
  | missingAction
  | missingResource
  | missingTimeRequested
  | missingTimeEvaluated
  | missingRecordType
  | invalidRecordType
  deriving DecidableEq

/-- The text of an error. -/
def TrustRecordError.display : TrustRecordError → String
  | missingEntityId => "Entity ID is required"
  | missingAuthorityId => "Authority ID is required"
  | missingAction => "Action is required"
  | missingResource => "Resource is required"
  | missingTimeRequested => "Time requested is required"
  | missingTimeEvaluated => "Time evaluated is required"
  | missingRecordType => "Record type is required"
  | invalidRecordType => "Record type is invalid"

/-- The two kinds of record. -/
inductive RecordType
  | authorization
  | recognition
  deriving DecidableEq

/-- Lower case.  Only the letters of the two type names matter to the comparison
below, and no character outside ASCII has one of them as its lower case. -/
def toLowercase (s : String) : String := String.ofList (s.toList.map Char.toLower)

/-- The name of a record type. -/
def RecordType.display : RecordType → String
  | authorization => "authorization"
  | recognition => "recognition"

/-- The record type with a given name, in any case. -/
def RecordType.fromStr (s : String) : Except TrustRecordError RecordType :=
  if toLowercase s = "authorization" then .ok .authorization
  else if toLowercase s = "recognition" then .ok .recognition
  else .error .invalidRecordType

@[simp] theorem RecordType.fromStr_display (t : RecordType) : fromStr t.display = .ok t := by
  cases t <;> rfl

/-! ### Records -/

/-- A trust record. -/
structure TrustRecord where
  entityId : EntityId
  authorityId : AuthorityId
  action : Action
  resource : Resource
  /-- Is the entity recognized?  Nothing said reads as no. -/
  recognized : Option Bool
  /-- Is the entity authorized?  Nothing said reads as no. -/
  authorized : Option Bool
  context : Context
  recordType : RecordType
  deriving DecidableEq

namespace TrustRecord

/-- The answer to a recognition query. -/
def isRecognized (r : TrustRecord) : Bool := r.recognized.getD false

/-- The answer to an authorization query. -/
def isAuthorized (r : TrustRecord) : Bool := r.authorized.getD false

/-- The record without its answer to authorization queries. -/
def noneAuthorized (r : TrustRecord) : TrustRecord := { r with authorized := none }

/-- The record without its answer to recognition queries. -/
def noneRecognized (r : TrustRecord) : TrustRecord := { r with recognized := none }

/-- The tuple of a record as error texts show it. -/
def display (r : TrustRecord) : String :=
  s!"{r.entityId.asStr}|{r.authorityId.asStr}|{r.action.asStr}|{r.resource.asStr}"

end TrustRecord

/-- A record under construction. -/
structure TrustRecordBuilder where
  entityId : Option EntityId := none
  authorityId : Option AuthorityId := none
  action : Option Action := none
  resource : Option Resource := none
  recognized : Option Bool := none
  context : Context := Context.empty
  authorized : Option Bool := none
  recordType : Option RecordType := none

/-- The record, when every part it needs is there; the parts are asked for in
this order. -/
def TrustRecordBuilder.build (b : TrustRecordBuilder) : Except TrustRecordError TrustRecord := do
  let entityId ← b.entityId.elim (.error .missingEntityId) .ok
  let authorityId ← b.authorityId.elim (.error .missingAuthorityId) .ok
  let action ← b.action.elim (.error .missingAction) .ok
  let resource ← b.resource.elim (.error .missingResource) .ok
  let recordType ← b.recordType.elim (.error .missingRecordType) .ok
  return {
    entityId, authorityId, action, resource
    recognized := b.recognized
    authorized := b.authorized
    context := b.context
    recordType }

/-! ### The JSON form -/

namespace TrustRecord

/-- The field names, in order. -/
def fieldNames : List String :=
  ["entity_id", "authority_id", "action", "resource", "recognized", "authorized", "context",
    "record_type"]

/-- The JSON form of a record.  An answer that is absent is left out. -/
def toJson (r : TrustRecord) : Json :=
  .obj ([("entity_id", .str r.entityId.asStr), ("authority_id", .str r.authorityId.asStr),
      ("action", .str r.action.asStr), ("resource", .str r.resource.asStr)]
    ++ r.recognized.toList.map (fun b => ("recognized", .bool b))
    ++ r.authorized.toList.map (fun b => ("authorized", .bool b))
    ++ [("context", r.context.value), ("record_type", .str r.recordType.display)])

/-- Read a record from its JSON form.  An answer may be absent or `null`, an
absent context is the empty one. -/
def ofJson (j : Json) : Option TrustRecord := do
  let m ← j.fields fieldNames
  let entityId ← (Json.member "entity_id" m).bind Json.asStr
  let authorityId ← (Json.member "authority_id" m).bind Json.asStr
  let action ← (Json.member "action" m).bind Json.asStr
  let resource ← (Json.member "resource" m).bind Json.asStr
  let recognized ← Json.optional Json.asBool (Json.member "recognized" m)
  let authorized ← Json.optional Json.asBool (Json.member "authorized" m)
  let name ← (Json.member "record_type" m).bind Json.asStr
  let recordType ← (RecordType.fromStr name).toOption
  return {
    entityId := ⟨entityId⟩, authorityId := ⟨authorityId⟩
    action := ⟨action⟩, resource := ⟨resource⟩
    recognized, authorized
    context := (Json.member "context" m).elim Context.empty Context.mk
    recordType }

/-- **Records are read back from their JSON form.** -/
@[simp] theorem ofJson_toJson (r : TrustRecord) : ofJson r.toJson = some r := by
  obtain ⟨⟨e⟩, ⟨a⟩, ⟨ac⟩, ⟨re⟩, recognized, authorized, ⟨c⟩, t⟩ := r
  -- the two answers that may be left out are what decides where later members stand
  rcases recognized with _ | b <;> rcases authorized with _ | b' <;>
    simp [toJson, ofJson, Json.member_cons, Json.asStr]
  all_goals rfl

end TrustRecord

end TrustRegistry
