import TrustRegistry.Didcomm.AdminMessages
import TrustRegistry.Server.Bindings
import TrustRegistry.Server.WriteGate

/-!
# The DIDComm entry point

Every DIDComm message is given to the first handler that takes its type: trust
queries, administration, problem reports, Trust Tasks.  The sender the handler is
told is the one the message names.  The metadata of the unpacking travel along,
and no handler looks at them.

## Main definitions

* `ProtocolHandler`, `BaseHandler` — the handlers, and the entry point.
* `IsAdminWrite` — the messages that ask to change the records.

## Main results

* `BaseHandler.handle_records` — what an administrative message leaves.
* `unauthenticated_write_changes_nothing_iff` — when one that asks for a change,
  and whose sender is not authenticated, changes nothing.
-/

namespace TrustRegistry

variable {σ : Type*} (F : Framework) (env : DidcommEnv σ)

/-! ### The handlers of trust queries, problem reports and Trust Tasks -/

namespace TRQPMessagesHandler

/-- The type of an authorization query. -/
def queryAuthorizationMessageType : String :=
  "https://affinidi.com/didcomm/protocols/trqp/1.0/query-authorization"

/-- The type of a recognition query. -/
def queryRecognitionMessageType : String :=
  "https://affinidi.com/didcomm/protocols/trqp/1.0/query-recognition"

/-- The types the handler takes. -/
def supportedTypes : List String := [queryAuthorizationMessageType, queryRecognitionMessageType]

/-- The text that goes with an answer. -/
def messageText (isAuthorization : Bool) (r : TrustRecord) : String :=
  if isAuthorization then
    s!"{r.entityId.asStr} authorized to {r.action.asStr}+{r.resource.asStr}" ++
      s!" by {r.authorityId.asStr}"
  else s!"{r.entityId.asStr} recognized by {r.authorityId.asStr}"

/-- The body of the answer: empty when there is no record. -/
def outputBody (isAuthorization : Bool) : Option TrustRecord → Json
  | none => .obj []
  | some r =>
    let r := if isAuthorization then r.noneRecognized else r.noneAuthorized
    match r.toJson with
    | .obj members =>
      .obj (members ++ [("time_requested", .str (env.rfc3339 env.now)),
        ("time_evaluated", .str (env.rfc3339 env.completedAt)),
        ("message", .str (messageText isAuthorization r))])
    | j => j

/-- A query about a tuple. -/
def handle (ctx : HandlerContext) (message : Message) (s : σ) : Effects :=
  match TupleRequest.ofJson message.body with
  | none => { completion := .failed (env.decodeError "TrustRecordQuery" message.body) }
  | some query =>
    match env.repository.findByQuery s query.query with
    | .error e => { completion := .failed e.display }
    | .ok record =>
      let isAuthorization := message.typ = queryAuthorizationMessageType
      { sent := [{ id := env.newId, typ := s!"{message.typ}/response"
                   body := outputBody env isAuthorization record
                   fromDid := some env.ourDid, toDids := [ctx.senderDid] }] }

end TRQPMessagesHandler

/-- The type of a message with a Trust Task in its body. -/
def envelopeType : String := "https://trusttasks.org/binding/didcomm/0.1/envelope"

/-- What the binding of the Trust Tasks sends. -/
def TrustTasksHandler.effects (ctx : HandlerContext) : Handled → Effects
  | .dropped => {}
  | .panicked => { completion := .panicked }
  | .replied outcome =>
    let body := match outcome with
      | .ok doc => F.documentJson doc
      | .error e => F.errorJson e
    { sent := [{ id := env.newId, typ := envelopeType, body, fromDid := some env.ourDid
                 toDids := [ctx.senderDid], thid := (body.get "threadId").bind Json.asStr }] }

/-! ### The entry point -/

/-- The handlers of protocols. -/
inductive ProtocolHandler
  | trqp
  | tradmin
  | problemReport
  | trustTasks
  deriving DecidableEq

namespace ProtocolHandler

/-- The types of message a handler takes. -/
def getSupportedInboundMessageTypes : ProtocolHandler → List String
  | trqp => TRQPMessagesHandler.supportedTypes
  | tradmin => AdminMessagesHandler.supportedTypes
  | problemReport => [ProblemReport.messageType]
  | trustTasks => [envelopeType]

/-- A handler at work.  Problem reports are only noted in the server's log. -/
def handle (ph : ProtocolHandler) (ctx : HandlerContext) (message : Message)
    (metadata : UnpackMetadata) (s : Server σ) : Effects × Server σ :=
  match ph with
  | trqp => (TRQPMessagesHandler.handle env ctx message s.records, s)
  | tradmin =>
    let (effects, records) := AdminMessagesHandler.handle env ctx message metadata s.records
    (effects, { s with records })
  | problemReport => ({}, s)
  | trustTasks =>
    let (handled, s') := TrustTasksHandler.handle F env.toEnv ctx.senderDid message.body s
    (TrustTasksHandler.effects F env ctx handled, s')

end ProtocolHandler

/-- The sender a message names. -/
def Message.sender (message : Message) : String := message.fromDid.getD "anon"

/-- The entry point: the handlers, in the order in which they are asked. -/
structure BaseHandler where
  protocolsHandlers : List ProtocolHandler

namespace BaseHandler

/-- The entry point of the server. -/
def build : BaseHandler := ⟨[.trqp, .tradmin, .problemReport, .trustTasks]⟩

/-- A message comes in. -/
def handle (h : BaseHandler) (message : Message) (metadata : UnpackMetadata) (s : Server σ) :
    Effects × Server σ :=
  -- the sender is the one the message names; the metadata are passed on
  let ctx : HandlerContext :=
    { senderDid := message.sender
      thid := (getThreadId message).or (some message.id)
      pthid := getParentThreadId message }
  match h.protocolsHandlers.find? (·.getSupportedInboundMessageTypes.contains message.typ) with
  | some ph => ph.handle F env ctx message metadata s
  | none => ({}, s)

end BaseHandler

/-! ### Administrative messages -/

variable {F env}

/-- The administrative types go to the administrative handler. -/
theorem BaseHandler.find_adminType (operation : AuditOperation) :
    build.protocolsHandlers.find? (·.getSupportedInboundMessageTypes.contains operation.messageType)
      = some .tradmin := by
  cases operation <;> decide

/-- **What an administrative message leaves** is decided by the sender it names
and by what it asks for; the metadata have no part in it. -/
theorem BaseHandler.handle_records {message : Message} {operation : AuditOperation}
    (htyp : message.typ = operation.messageType) (metadata : UnpackMetadata) (s : Server σ) :
    (build.handle F env message metadata s).2.records =
      if message.sender ∈ env.adminDids then
        env.repository.callIfAny s.records (requestedChange message)
      else s.records := by
  unfold handle
  rw [htyp, find_adminType]
  exact AdminMessagesHandler.handle_snd _ message metadata s.records

/-- A message that asks to create, update or delete a record. -/
def IsAdminWrite (message : Message) : Prop :=
  ∃ operation ∈ [AuditOperation.create, .update, .delete], message.typ = operation.messageType

/-- A message that names no administrator as its sender, or whose body does not
decode, or whose change leaves the records as they are. -/
def HarmlessAdminMessage (env : DidcommEnv σ) (records : σ) (message : Message) : Prop :=
  message.sender ∈ env.adminDids → ∀ change, requestedChange message = some change →
    (env.repository.call records change).2 = records

/-- A message that names no administrator as its sender, or whose body does not
decode, or that creates what exists, updates what does not or what is the same,
or deletes what does not exist. -/
def HarmlessLocalAdminMessage (env : DidcommEnv LocalStorage) (records : LocalStorage)
    (message : Message) : Prop :=
  message.sender ∈ env.adminDids → ∀ change, requestedChange message = some change →
    change.Refused records.records ∨ change.Repeats records.records

theorem adminWrite_unchanged_iff {message : Message} (hwrite : IsAdminWrite message)
    (metadata : UnpackMetadata) (s : Server σ) :
    (BaseHandler.build.handle F env message metadata s).2.records = s.records ↔
      HarmlessAdminMessage env s.records message := by
  obtain ⟨operation, _, htyp⟩ := hwrite
  rw [BaseHandler.handle_records htyp, HarmlessAdminMessage]
  -- the list of administrators is the only check before the change
  by_cases hsender : message.sender ∈ env.adminDids
  · rw [if_pos hsender, TrustRecordAdminRepository.callIfAny]
    cases requestedChange message with
    | none => simp
    | some change => simp [hsender]
  · rw [if_neg hsender]
    exact ⟨fun _ h => absurd h hsender, fun _ => rfl⟩

theorem harmlessAdminMessage_iff_local {env : DidcommEnv LocalStorage}
    (henv : env.repository = LocalStorage.repository) (records : LocalStorage) (message : Message) :
    HarmlessAdminMessage env records message ↔ HarmlessLocalAdminMessage env records message := by
  simp only [HarmlessAdminMessage, HarmlessLocalAdminMessage, henv, LocalStorage.call_snd_eq_iff]

/-- **When an administrative message whose sender is not authenticated changes
nothing**, in every state: over any backend, exactly when it names no
administrator, does not decode or makes a change without effect; over the
in-memory one, exactly when it is refused by the records or repeats one. -/
theorem unauthenticated_write_changes_nothing_iff (F : Framework) {message : Message}
    {metadata : UnpackMetadata} (_hmetadata : metadata.authenticated = false)
    (hwrite : IsAdminWrite message) :
    (∀ {σ : Type} (env : DidcommEnv σ) (s : Server σ),
      (BaseHandler.build.handle F env message metadata s).2.records = s.records ↔
        HarmlessAdminMessage env s.records message) ∧
    ∀ env : DidcommEnv LocalStorage, env.repository = LocalStorage.repository →
      ∀ s : Server LocalStorage,
      (BaseHandler.build.handle F env message metadata s).2.records = s.records ↔
        HarmlessLocalAdminMessage env s.records message := by
  refine ⟨fun env s => adminWrite_unchanged_iff hwrite metadata s, fun env henv s => ?_⟩
  rw [← harmlessAdminMessage_iff_local henv]
  exact adminWrite_unchanged_iff hwrite metadata s

/-! ### A claimed administrator -/

/-- The environment of the messages below. -/
def sampleDidcommEnv : DidcommEnv LocalStorage :=
  { sampleEnv with
    rfc3339 := fun _ => "1970-01-01T00:00:00Z"
    decodeError := fun name _ => name }

/-- A message in plain text that names a sender and asks to create a record. -/
def plaintextCreate (fromDid : Option String) : Message where
  id := "m-1"
  typ := AuditOperation.messageType .create
  body := .obj [("entity_id", .str "did:web:stranger"), ("authority_id", .str "did:web:authority"),
    ("action", .str "issue"), ("resource", .str "vc"), ("recognized", .bool true),
    ("authorized", .bool true), ("record_type", .str "authorization")]
  fromDid := fromDid

/-- It names the administrator. -/
def claimedAdminCreate : Message := plaintextCreate (some "did:web:admin")

/-- The metadata of a message in plain text. -/
def plaintext : UnpackMetadata := ⟨false, false⟩

theorem plaintext_unauthenticated : plaintext.authenticated = false := rfl

theorem plaintextCreate_isAdminWrite (fromDid : Option String) :
    IsAdminWrite (plaintextCreate fromDid) :=
  ⟨.create, by decide, rfl⟩

/-- The server before any message. -/
def emptyServer : Server LocalStorage := .started .new .empty

/-- The server after a message that names the administrator. -/
def claimedServer (F : Framework) : Server LocalStorage :=
  (BaseHandler.build.handle F sampleDidcommEnv claimedAdminCreate plaintext
    emptyServer).2

/-- A message that names nobody changes nothing, and one that names the
administrator changes nothing when it comes a second time. -/
theorem anonymous_message_changes_nothing :
    (BaseHandler.build.handle createFramework sampleDidcommEnv (plaintextCreate none) plaintext
      emptyServer).2.records = emptyServer.records ∧
    (BaseHandler.build.handle createFramework sampleDidcommEnv claimedAdminCreate plaintext
       (claimedServer createFramework)).2.records
        = (claimedServer createFramework).records := by
  refine ⟨((unauthenticated_write_changes_nothing_iff createFramework plaintext_unauthenticated
      (plaintextCreate_isAdminWrite none)).1 sampleDidcommEnv emptyServer).mpr ?_,
    ((unauthenticated_write_changes_nothing_iff createFramework plaintext_unauthenticated
      (plaintextCreate_isAdminWrite _)).2 sampleDidcommEnv rfl
      (claimedServer createFramework)).mpr ?_⟩
  · intro hsender
    exact absurd hsender (by decide)
  · intro _ change hchange
    have hrefused : ∀ c ∈ requestedChange claimedAdminCreate,
        c.Refused (claimedServer createFramework).records.records := by
      intro c hc
      cases hc
      show RecordMap.containsKey _ _ = true
      decide
    exact .inl (hrefused change hchange)

/-- **A message in plain text that names the administrator creates a record.** -/
theorem claimed_admin_creates :
    plaintext.authenticated = false ∧ IsAdminWrite claimedAdminCreate ∧
    (BaseHandler.build.handle createFramework sampleDidcommEnv claimedAdminCreate plaintext
       emptyServer).2.records ≠ emptyServer.records ∧
    (BaseHandler.build.handle createFramework sampleDidcommEnv claimedAdminCreate plaintext
       emptyServer).2.records.findByQuery
        ⟨⟨"did:web:stranger"⟩, ⟨"did:web:authority"⟩, ⟨"issue"⟩, ⟨"vc"⟩⟩
      = .ok (recordOf claimedAdminCreate.body) :=
  ⟨rfl, plaintextCreate_isAdminWrite _, by decide, by rfl⟩

end TrustRegistry
