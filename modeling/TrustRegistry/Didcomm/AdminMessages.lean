import TrustRegistry.Didcomm.Messages
import TrustRegistry.Storage.LocalStorage

/-!
# The administration protocol

Records are created, updated, deleted, read and listed by messages of five types.
A request is carried out when the sender is on the list of administrators; it is
answered on its thread and noted in the audit log.

## Main definitions

* `RecordRequest`, `TupleRequest` — the bodies of the requests.
* `AdminMessagesHandler.handle` — the handler.
* `requestedChange` — what a message asks to change, apart from how it is carried
  out.

## Main results

* `AdminMessagesHandler.handle_snd` — the handler applies the change that is
  asked for when the sender is an administrator, and changes nothing otherwise.
-/

namespace TrustRegistry

/-! ### The message types -/

namespace AuditOperation

/-- The type of the message that asks for an operation. -/
def messageType : AuditOperation → String
  | create => "https://affinidi.com/didcomm/protocols/tr-admin/1.0/create-record"
  | update => "https://affinidi.com/didcomm/protocols/tr-admin/1.0/update-record"
  | delete => "https://affinidi.com/didcomm/protocols/tr-admin/1.0/delete-record"
  | read => "https://affinidi.com/didcomm/protocols/tr-admin/1.0/read-record"
  | list => "https://affinidi.com/didcomm/protocols/tr-admin/1.0/list-records"

/-- The type of the message that answers it. -/
def responseMessageType (op : AuditOperation) : String := op.messageType ++ "/response"

/-- The operations. -/
def all : List AuditOperation := [create, update, delete, read, list]

/-- The operation that a message of a given type asks for. -/
def ofMessageType (typ : String) : Option AuditOperation := all.find? (·.messageType = typ)

/-- The operation under which a message is logged. -/
def getOperationFromMessageType (typ : String) : AuditOperation := (ofMessageType typ).getD .create

@[simp] theorem ofMessageType_messageType (op : AuditOperation) :
    ofMessageType op.messageType = some op := by
  cases op <;> decide

end AuditOperation

/-! ### The requests -/

/-- The body of a request that carries a record. -/
structure RecordRequest where
  entityId : String
  authorityId : String
  action : String
  resource : String
  recognized : Bool
  authorized : Bool
  context : Option Json
  recordType : String
  deriving DecidableEq

/-- The body of a request that names a tuple. -/
structure TupleRequest where
  entityId : String
  authorityId : String
  action : String
  resource : String
  deriving DecidableEq

/-- A request to create a record. -/
abbrev CreateRecordRequest := RecordRequest

/-- A request to update a record. -/
abbrev UpdateRecordRequest := RecordRequest

/-- A request to delete a record. -/
abbrev DeleteRecordRequest := TupleRequest

/-- A request to read a record. -/
abbrev ReadRecordRequest := TupleRequest

namespace RecordRequest

/-- Read a request from its JSON form.  Both answers must be there; the context
may be absent or `null`. -/
def ofJson (j : Json) : Option RecordRequest := do
  let m ← j.fields TrustRecord.fieldNames
  let entityId ← (Json.member "entity_id" m).bind Json.asStr
  let authorityId ← (Json.member "authority_id" m).bind Json.asStr
  let action ← (Json.member "action" m).bind Json.asStr
  let resource ← (Json.member "resource" m).bind Json.asStr
  let recognized ← (Json.member "recognized" m).bind Json.asBool
  let authorized ← (Json.member "authorized" m).bind Json.asBool
  let context ← Json.optional some (Json.member "context" m)
  let recordType ← (Json.member "record_type" m).bind Json.asStr
  return { entityId, authorityId, action, resource, recognized, authorized, context, recordType }

/-- The record a request carries. -/
def build (request : RecordRequest) : Except String TrustRecord := do
  let recordType ← (RecordType.fromStr request.recordType).mapError TrustRecordError.display
  let builder : TrustRecordBuilder :=
    { entityId := some ⟨request.entityId⟩, authorityId := some ⟨request.authorityId⟩
      action := some ⟨request.action⟩, resource := some ⟨request.resource⟩
      recognized := some request.recognized, authorized := some request.authorized
      recordType := some recordType }
  let builder := request.context.elim builder fun c => { builder with context := ⟨c⟩ }
  builder.build.mapError TrustRecordError.display

end RecordRequest

namespace TupleRequest

/-- Read a request from its JSON form. -/
def ofJson (j : Json) : Option TupleRequest := do
  let m ← j.fields ["entity_id", "authority_id", "action", "resource"]
  let entityId ← (Json.member "entity_id" m).bind Json.asStr
  let authorityId ← (Json.member "authority_id" m).bind Json.asStr
  let action ← (Json.member "action" m).bind Json.asStr
  let resource ← (Json.member "resource" m).bind Json.asStr
  return { entityId, authorityId, action, resource }

/-- The tuple a request names. -/
def query (request : TupleRequest) : TrustRecordQuery :=
  ⟨⟨request.entityId⟩, ⟨request.authorityId⟩, ⟨request.action⟩, ⟨request.resource⟩⟩

end TupleRequest

/-! ### Carrying them out -/

section

variable {σ : Type*} (env : DidcommEnv σ)

/-- The answer that names a tuple. -/
def tupleJson (entityId authorityId action resource : String) : Json :=
  .obj [("entity_id", .str entityId), ("authority_id", .str authorityId), ("action", .str action),
    ("resource", .str resource)]

/-- The answer that holds a record. -/
def recordJson (r : TrustRecord) : Json :=
  .obj [("entity_id", .str r.entityId.asStr), ("authority_id", .str r.authorityId.asStr),
    ("action", .str r.action.asStr), ("resource", .str r.resource.asStr),
    ("recognized", .bool r.isRecognized), ("authorized", .bool r.isAuthorized),
    ("context", r.context.value)]

/-- What comes of a change, with the answer to give when it succeeds. -/
def changed (answer : Json) (r : Except RepositoryError Unit × σ) : Except String Json × σ :=
  ((r.1.mapError RepositoryError.display).map fun () => answer, r.2)

/-- Carry out a request with a record in it, by an operation of the backend. -/
def handleRecordRequest (name : String) (op : σ → TrustRecord → Except RepositoryError Unit × σ)
    (body : Json) (s : σ) : Except String Json × σ :=
  match RecordRequest.ofJson body with
  | none => (.error (env.decodeError name body), s)
  | some request =>
    match request.build with
    | .error e => (.error e, s)
    | .ok record =>
      changed (tupleJson request.entityId request.authorityId request.action request.resource)
        (op s record)

/-- Create a record. -/
def handleCreateRecord : Json → σ → Except String Json × σ :=
  handleRecordRequest env "CreateRecordRequest" env.repository.create

/-- Update a record. -/
def handleUpdateRecord : Json → σ → Except String Json × σ :=
  handleRecordRequest env "UpdateRecordRequest" env.repository.update

/-- Delete a record. -/
def handleDeleteRecord (body : Json) (s : σ) : Except String Json × σ :=
  match TupleRequest.ofJson body with
  | none => (.error (env.decodeError "DeleteRecordRequest" body), s)
  | some request =>
    changed (tupleJson request.entityId request.authorityId request.action request.resource)
      (env.repository.delete s request.query)

/-- Read a record. -/
def handleReadRecord (body : Json) (s : σ) : Except String Json :=
  match TupleRequest.ofJson body with
  | none => .error (env.decodeError "ReadRecordRequest" body)
  | some request =>
    ((env.repository.read s request.query).mapError RepositoryError.display).map recordJson

/-- List the records. -/
def handleListRecords (s : σ) : Except String Json :=
  ((env.repository.list s).mapError RepositoryError.display).map fun records =>
    .obj [("records", .arr (records.map recordJson)), ("count", .num records.length 0)]

/-! ### The handler -/

namespace AdminMessagesHandler

/-- The identifiers that the body of a message names. -/
def extractAuditResource (message : Message) : AuditResource :=
  let named (name : String) : Option String := (message.body.get name).bind Json.asStr
  ⟨(named "entity_id").map .mk, (named "authority_id").map .mk, (named "action").map .mk,
    (named "resource").map .mk⟩

/-- Is the sender on the list of administrators? -/
def validateAdminDid (senderDid : String) : Except String Unit :=
  if env.adminDids.contains senderDid then .ok ()
  else .error s!"Unauthorized: DID {senderDid} is not in admin list"

/-- Log and answer a request that succeeded. -/
def handleSuccess (ctx : HandlerContext) (responseType : String) (body : Json)
    (operation : AuditOperation) (resource : AuditResource) : Effects where
  audit := [AuditLogBuilder.buildSuccess
    (AuditLogBuilder.entry operation ctx.senderDid resource ctx.thid env.completedAt)]
  sent := [buildResponse env responseType ctx.senderDid body ctx.thid ctx.pthid]

/-- Log and report a request that failed. -/
def handleFailure (ctx : HandlerContext) (error : String) (operation : AuditOperation)
    (resource : AuditResource) : Effects where
  audit := [AuditLogBuilder.buildFailure
    (AuditLogBuilder.entry operation ctx.senderDid resource ctx.thid env.completedAt) error]
  sent := [buildProblemReport env ctx.senderDid (.internalError error) ctx.thid ctx.pthid]

/-- Log and report a request whose sender is no administrator. -/
def handleUnauthorized (ctx : HandlerContext) (authError messageType : String) : Effects where
  audit := [AuditLogBuilder.buildUnauthorized
    (AuditLogBuilder.entry (.getOperationFromMessageType messageType) ctx.senderDid .empty ctx.thid
      env.completedAt) authError]
  sent := [buildProblemReport env ctx.senderDid (.unauthorized authError) ctx.thid ctx.pthid]

/-- Carry out an operation. -/
def perform (operation : AuditOperation) (body : Json) (s : σ) : Except String Json × σ :=
  match operation with
  | .create => handleCreateRecord env body s
  | .update => handleUpdateRecord env body s
  | .delete => handleDeleteRecord env body s
  | .read => (handleReadRecord env body s, s)
  | .list => (handleListRecords env s, s)

/-- Carry out a request of an administrator. -/
def handleRequest (ctx : HandlerContext) (message : Message) (s : σ) : Effects × σ :=
  match AuditOperation.ofMessageType message.typ with
  | none =>
    -- not reached: the handler is given its own types only
    ({ sent := [buildProblemReport env ctx.senderDid
        (.badRequest s!"Unknown message type: {message.typ}") ctx.thid ctx.pthid] }, s)
  | some operation =>
    let resource := extractAuditResource message
    let (result, s') := perform env operation message.body s
    match result with
    | .ok body => (handleSuccess env ctx operation.responseMessageType body operation resource, s')
    | .error e => (handleFailure env ctx e operation resource, s')

/-- The types the handler takes. -/
def supportedTypes : List String := AuditOperation.all.map AuditOperation.messageType

/-- A message of one of these types; what its unpacking said is not looked at. -/
def handle (ctx : HandlerContext) (message : Message) (_metadata : UnpackMetadata) (s : σ) :
    Effects × σ :=
  match validateAdminDid env ctx.senderDid with
  | .error authError => (handleUnauthorized env ctx authError message.typ, s)
  | .ok () => handleRequest env ctx message s

end AdminMessagesHandler

end

/-! ### What a message asks to change -/

/-- The record in a body, if there is one. -/
def recordOf (body : Json) : Option TrustRecord :=
  (RecordRequest.ofJson body).bind fun request => request.build.toOption

/-- The change that an operation makes, if it makes one and the body decodes. -/
def AuditOperation.change (operation : AuditOperation) (body : Json) : Option RecordChange :=
  match operation with
  | .create => (recordOf body).map .create
  | .update => (recordOf body).map .update
  | .delete => (TupleRequest.ofJson body).map fun request => .delete request.query
  | .read | .list => none

/-- The change that a message asks for. -/
def requestedChange (message : Message) : Option RecordChange :=
  (AuditOperation.ofMessageType message.typ).bind fun operation => operation.change message.body

/-- The state after a change, if there is one. -/
def TrustRecordAdminRepository.callIfAny {σ : Type*} (R : TrustRecordAdminRepository σ) (s : σ)
    (change : Option RecordChange) : σ :=
  change.elim s fun c => (R.call s c).2

namespace AdminMessagesHandler

variable {σ : Type*} {env : DidcommEnv σ}

theorem validateAdminDid_eq_ok_iff {senderDid : String} :
    validateAdminDid env senderDid = .ok () ↔ senderDid ∈ env.adminDids := by
  unfold validateAdminDid
  by_cases h : senderDid ∈ env.adminDids <;> simp [h]

/-- A request with a record in it applies its operation to the record. -/
theorem handleRecordRequest_snd (name : String)
    (op : σ → TrustRecord → Except RepositoryError Unit × σ) (body : Json) (s : σ) :
    (handleRecordRequest env name op body s).2 = (recordOf body).elim s fun r => (op s r).2 := by
  unfold handleRecordRequest recordOf
  cases RecordRequest.ofJson body with
  | none => rfl
  | some request =>
    rw [Option.bind_some]
    dsimp only
    cases request.build with
    | error e => rfl
    | ok record => rfl

theorem handleDeleteRecord_snd (body : Json) (s : σ) :
    (handleDeleteRecord env body s).2 = (TupleRequest.ofJson body).elim s fun request =>
      (env.repository.delete s request.query).2 := by
  unfold handleDeleteRecord
  cases TupleRequest.ofJson body with
  | none => rfl
  | some request => rfl

/-- An operation leaves what its change leaves. -/
theorem perform_snd (operation : AuditOperation) (body : Json) (s : σ) :
    (perform env operation body s).2
      = env.repository.callIfAny s (operation.change body) := by
  unfold perform AuditOperation.change TrustRecordAdminRepository.callIfAny
  cases operation with
  | create =>
    rw [Option.elim_map]
    exact handleRecordRequest_snd _ env.repository.create body s
  | update =>
    rw [Option.elim_map]
    exact handleRecordRequest_snd _ env.repository.update body s
  | delete =>
    rw [Option.elim_map]
    exact handleDeleteRecord_snd body s
  | read => rfl
  | list => rfl

theorem handleRequest_snd (ctx : HandlerContext) (message : Message) (s : σ) :
    (handleRequest env ctx message s).2
      = env.repository.callIfAny s (requestedChange message) := by
  unfold handleRequest requestedChange
  cases AuditOperation.ofMessageType message.typ with
  | none => rfl
  | some operation =>
    -- the log and the answer depend on the result, the records do not
    rw [Option.bind_some, ← perform_snd]
    dsimp only
    cases (perform env operation message.body s).1 with
    | error e => rfl
    | ok body => rfl

/-- A sender that is no administrator is refused before the repository is asked. -/
theorem handle_of_not_admin (env : DidcommEnv σ) {ctx : HandlerContext}
    (hsender : ctx.senderDid ∉ env.adminDids) (message : Message) (metadata : UnpackMetadata)
    (s : σ) :
    handle env ctx message metadata s =
      (handleUnauthorized env ctx
        s!"Unauthorized: DID {ctx.senderDid} is not in admin list" message.typ, s) := by
  unfold handle validateAdminDid
  rw [if_neg (by rwa [List.contains_iff_mem])]

/-- **The change that is asked for is applied when the sender is an administrator**,
and nothing changes otherwise. -/
theorem handle_snd (ctx : HandlerContext) (message : Message) (metadata : UnpackMetadata) (s : σ) :
    (handle env ctx message metadata s).2 =
      if ctx.senderDid ∈ env.adminDids then
        env.repository.callIfAny s (requestedChange message)
      else s := by
  by_cases hsender : ctx.senderDid ∈ env.adminDids
  · rw [handle, validateAdminDid_eq_ok_iff.mpr hsender, if_pos hsender]
    exact handleRequest_snd ctx message s
  · rw [handle_of_not_admin env hsender, if_neg hsender]

end AdminMessagesHandler

end TrustRegistry
