import TrustRegistry.TrustTasks.Framework

/-!
# The router

The handlers of the `registry/*` tasks over any storage backend, and the two
dispatchers they are registered on: the one of the mediator bindings, and the
read-only one of the HTTP binding.

A registered handler is a closure in the program; here it is one of the data type
`TaskHandler`, which names the closure and holds what it has captured.

## Main definitions

* `handleRecognition`, `handleCreate`, … — the handlers.
* `TaskHandler` — what is registered.
* `buildDispatcher`, `buildQueryDispatcher` — the base registrations.
-/

namespace TrustRegistry

/-- The rejection that a failure of the repository is answered with. -/
def mapRepoErr : RepositoryError → RejectReason
  | .validationError reason => .malformedRequest reason
  | .recordNotFound reason | .recordAlreadyExists reason => .taskFailed reason none
  | .connectionFailed reason | .queryFailed reason | .serializationFailed reason =>
    .internalError reason
  | .lockPoisoned => .internalError "lock poisoned"

section

variable {σ : Type*} (F : Framework) (R : TrustRecordAdminRepository σ) (newId : String)

/-- A rejection as an outcome. -/
def reject (doc : TrustTask) (reason : RejectReason) : TaskOutcome :=
  .error (F.rejectWith doc newId reason)

/-- An answer, if it can be written out. -/
def respond (doc : TrustTask) (payload : Except String Json) : TaskOutcome :=
  match payload with
  | .ok value => .ok (F.respondWith doc newId value)
  | .error e => reject F newId doc (.internalError e)

/-! ### Queries -/

/-- Answer a query from the record of its tuple; a tuple that has none gets
`false`. -/
def handleQuery (answer : TrustRecord → Bool) (message : TrustRecord → String)
    (write : Verdict → Except String Json) (now : ℤ) (doc : TrustTask) (p : QueryPayload) (s : σ) :
    TaskOutcome :=
  match R.findByQuery s (queryOf p) with
  | .error e => reject F newId doc (mapRepoErr e)
  | .ok record =>
    respond F newId doc <| write
      { query := p
        granted := (record.map answer).getD false
        timeEvaluated := now
        timeRequested := p.time
        message := record.map message }

/-- Is the entity recognized? -/
def handleRecognition : ℤ → TrustTask → QueryPayload → σ → TaskOutcome :=
  handleQuery F R newId TrustRecord.isRecognized
    (fun tr => s!"{tr.entityId.asStr} recognized by {tr.authorityId.asStr}")
    F.specs.recognitionResponse

/-- Is the entity authorized? -/
def handleAuthorization : ℤ → TrustTask → QueryPayload → σ → TaskOutcome :=
  handleQuery F R newId TrustRecord.isAuthorized
    (fun tr =>
      s!"{tr.entityId.asStr} authorized to {tr.action.asStr}+{tr.resource.asStr} by {tr.authorityId.asStr}")
    F.specs.authorizationResponse

/-! ### Records -/

/-- Answer a change of the repository. -/
def answerChange (write : Bool → Except String Json) (doc : TrustTask)
    (change : Except RepositoryError Unit × σ) : TaskOutcome × σ :=
  match change with
  | (.ok (), s) => (respond F newId doc (write true), s)
  | (.error e, s) => (reject F newId doc (mapRepoErr e), s)

/-- Store the record that a payload carries, or replace it. -/
def handleRecord (change : σ → TrustRecord → Except RepositoryError Unit × σ)
    (write : Bool → Except String Json) (doc : TrustTask) (spec : Json) (s : σ) : TaskOutcome × σ :=
  match F.specs.record spec with
  | .error reason => (reject F newId doc (.malformedRequest reason), s)
  | .ok record => answerChange F newId write doc (change s record)

def handleCreate : TrustTask → Json → σ → TaskOutcome × σ :=
  handleRecord F newId R.create F.specs.recordCreateResponse

def handleUpdate : TrustTask → Json → σ → TaskOutcome × σ :=
  handleRecord F newId R.update F.specs.recordUpdateResponse

def handleDelete (doc : TrustTask) (p : QueryPayload) (s : σ) : TaskOutcome × σ :=
  answerChange F newId F.specs.recordDeleteResponse doc (R.delete s (queryOf p))

/-- Answer with a published form of something that is there. -/
def answerForm (form : Json → Except String Json) (doc : TrustTask)
    (found : Except RepositoryError Json) : TaskOutcome :=
  match found with
  | .error e => reject F newId doc (mapRepoErr e)
  | .ok value =>
    match form value with
    | .ok response => .ok (F.respondWith doc newId response)
    | .error reason => reject F newId doc (.internalError reason)

def handleRead (doc : TrustTask) (p : QueryPayload) (s : σ) : TaskOutcome :=
  answerForm F newId F.specs.recordReadResponse doc ((R.read s (queryOf p)).map TrustRecord.toJson)

def handleList (doc : TrustTask) (s : σ) : TaskOutcome :=
  answerForm F newId F.specs.recordListResponse doc
    ((R.list s).map fun l => .obj [("records", .arr (l.map TrustRecord.toJson))])

end

/-! ### Registrations -/

/-- The handlers, with what they have captured: the authority a community grants
signing under. -/
inductive TaskHandler
  | recognition
  | authorization
  | recordCreate
  | recordUpdate
  | recordDelete
  | recordRead
  | recordList
  | capabilityList
  | capabilityEnable
  | capabilityDisable
  | gitTrustGrant (authority : Option String)
  | gitTrustRevoke (authority : Option String)
  deriving DecidableEq

namespace TypeUri

def recognition : TypeUri := ⟨"registry/recognition", "0.1", false⟩
def authorization : TypeUri := ⟨"registry/authorization", "0.1", false⟩
def recordCreate : TypeUri := ⟨"registry/record/create", "0.1", false⟩
def recordUpdate : TypeUri := ⟨"registry/record/update", "0.1", false⟩
def recordDelete : TypeUri := ⟨"registry/record/delete", "0.1", false⟩
def recordRead : TypeUri := ⟨"registry/record/read", "0.1", false⟩
def recordList : TypeUri := ⟨"registry/record/list", "0.1", false⟩
def capabilityList : TypeUri := ⟨"governance/capability/list", "0.1", false⟩
def capabilityEnable : TypeUri := ⟨"governance/capability/enable", "0.1", false⟩
def capabilityDisable : TypeUri := ⟨"governance/capability/disable", "0.1", false⟩
def gitTrustGrant : TypeUri := ⟨"git-trust/grant", "0.1", false⟩
def gitTrustRevoke : TypeUri := ⟨"git-trust/revoke", "0.1", false⟩

end TypeUri

/-- Every `registry/*` task over the repository. -/
def buildDispatcher : Dispatcher TaskHandler :=
  Dispatcher.new
    |>.on .recognition .recognition
    |>.on .authorization .authorization
    |>.on .recordCreate .recordCreate
    |>.on .recordUpdate .recordUpdate
    |>.on .recordDelete .recordDelete
    |>.on .recordRead .recordRead
    |>.on .recordList .recordList

/-- The two queries. -/
def buildQueryDispatcher : Dispatcher TaskHandler :=
  Dispatcher.new
    |>.on .recognition .recognition
    |>.on .authorization .authorization

end TrustRegistry
