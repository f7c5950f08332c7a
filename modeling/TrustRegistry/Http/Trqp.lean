import TrustRegistry.Domain.Merge
import TrustRegistry.Server.Bindings

/-!
# The REST queries

`POST /authorization` and `POST /recognition`.  A tuple without a record is
answered with 404.  A record is answered with the record itself, without the
answer to the other query, next to two times and a text; a context that the
caller sends is merged into the one of the record first.

## Main definitions

* `InputDto`, `OutputDto` — the bodies of requests and answers.
* `AppError` — what a request can fail with.
* `handleTrqpAuthorization`, `handleTrqpRecognition` — the handlers.
-/

namespace TrustRegistry

/-! ### Failures -/

/-- What a request can fail with. -/
inductive AppError
  | badRequest (details : Option Json)
  | notFound (details : Option Json)
  | internal (details : Option Json)
  deriving DecidableEq

namespace AppError

/-- Status, title, message and details of a failure. -/
def intoParts : AppError → ℕ × String × String × Option Json
  | badRequest details => (400, "bad_request", "The request missing required fields", details)
  | notFound details =>
    (404, "not_found", "The requested resource could not be found", details)
  | internal details => (500, "internal_error", "An unexpected error occurred", details)

/-- A failure as an answer; message and details are only logged. -/
def intoResponse (e : AppError) : HttpResponse :=
  let (status, title, _, _) := e.intoParts
  ⟨status, .obj [("title", .str title), ("type", .str "about:blank"), ("code", .num status 0)]⟩

end AppError

/-! ### Requests and answers -/

/-- The identifiers of a tuple. -/
structure TrustRecordIds where
  entityId : EntityId
  authorityId : AuthorityId
  action : Action
  resource : Resource
  deriving DecidableEq

/-- The tuple that identifiers name. -/
def TrustRecordQuery.fromIds (ids : TrustRecordIds) : TrustRecordQuery :=
  ⟨ids.entityId, ids.authorityId, ids.action, ids.resource⟩

/-- The body of a request. -/
structure InputDto where
  ids : TrustRecordIds
  context : Option Context
  deriving DecidableEq

/-- Read a request from its JSON form.  Its fields are flattened, so it is an
object; the context may be absent or `null`. -/
def InputDto.ofJson : Json → Option InputDto
  | .obj m => do
    let entityId ← (Json.member "entity_id" m).bind Json.asStr
    let authorityId ← (Json.member "authority_id" m).bind Json.asStr
    let action ← (Json.member "action" m).bind Json.asStr
    let resource ← (Json.member "resource" m).bind Json.asStr
    let context ← Json.optional some (Json.member "context" m)
    return ⟨⟨⟨entityId⟩, ⟨authorityId⟩, ⟨action⟩, ⟨resource⟩⟩, context.map Context.mk⟩
  | _ => none

/-- The request in a body, or what is wrong with the body. -/
def InputDto.extract (decodeError : String → Json → String) (body : Json) :
    Except String InputDto :=
  match ofJson body with
  | some input => .ok input
  | none => .error (decodeError "InputDto" body)

/-- The body of an answer. -/
structure OutputDto where
  trustRecord : TrustRecord
  timeRequested : String
  timeEvaluated : String
  message : String
  deriving DecidableEq

/-- The JSON form of an answer: the members of the record, then the others. -/
def OutputDto.toJson (dto : OutputDto) : Json :=
  match dto.trustRecord.toJson with
  | .obj members =>
    .obj (members ++ [("time_requested", .str dto.timeRequested),
      ("time_evaluated", .str dto.timeEvaluated), ("message", .str dto.message)])
  | j => j

/-! ### The handlers -/

section

variable {σ : Type*} (R : TrustRecordAdminRepository σ) (rfc3339 : ℤ → String)
  (requestedAt evaluatedAt : ℤ)

/-- The record of a tuple, with the caller's context merged in. -/
def handleTrqp (payload : Except String InputDto) (s : σ) : Except AppError TrustRecord :=
  match payload with
  | .error bodyText => .error (.badRequest (some (.arr [.obj [("issue", .str bodyText)]])))
  | .ok input =>
    match R.findByQuery s (.fromIds input.ids) with
    | .error _ => .error (.internal none)
    | .ok none => .error (.notFound none)
    | .ok (some record) =>
      .ok (match input.context with
        | some c => record.mergeContexts c
        | none => record)

/-- Answer with the record that is left by `strip`, and a text about it. -/
def answerTrqp (strip : TrustRecord → TrustRecord) (message : TrustRecord → String)
    (payload : Except String InputDto) (s : σ) : Except AppError OutputDto :=
  (handleTrqp R payload s).map fun record =>
    { trustRecord := strip record
      timeRequested := rfc3339 requestedAt
      timeEvaluated := rfc3339 evaluatedAt
      message := message (strip record) }

/-- Is the entity authorized? -/
def handleTrqpAuthorization : Except String InputDto → σ → Except AppError OutputDto :=
  answerTrqp R rfc3339 requestedAt evaluatedAt TrustRecord.noneRecognized fun r =>
    s!"{r.entityId.asStr} authorized to {r.action.asStr}+{r.resource.asStr}" ++
      s!" by {r.authorityId.asStr}"

/-- Is the entity recognized? -/
def handleTrqpRecognition : Except String InputDto → σ → Except AppError OutputDto :=
  answerTrqp R rfc3339 requestedAt evaluatedAt TrustRecord.noneAuthorized fun r =>
    s!"{r.entityId.asStr} recognized by {r.authorityId.asStr}"

end

/-- What a handler returns, as an answer. -/
def trqpResponse : Except AppError OutputDto → HttpResponse
  | .ok dto => ⟨200, dto.toJson⟩
  | .error e => e.intoResponse

end TrustRegistry
