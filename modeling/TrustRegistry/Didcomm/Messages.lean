import TrustRegistry.Server.Server

/-!
# DIDComm messages

What the DIDComm handlers share: the messages that come in and go out, problem
reports, the audit log, and what a handler does besides changing the state.

The sender a handler sees is what the message says in its own text.  Unpacking a
message also yields metadata that say whether this was authenticated.

## Main definitions

* `Message`, `UnpackMetadata`, `HandlerContext` — an inbound message, and what a
  handler is given with it.
* `ProblemReport`, `buildResponse`, `buildProblemReport` — outbound messages.
* `AuditLog`, `AuditLogBuilder` — the audit log.
* `Effects` — what a handler does.
-/

namespace TrustRegistry

/-! ### Messages -/

/-- A DIDComm message. -/
structure Message where
  id : String
  typ : String
  body : Json
  /-- the sender, as the message itself names it -/
  fromDid : Option String := none
  toDids : List String := []
  thid : Option String := none
  pthid : Option String := none
  deriving DecidableEq

/-- What unpacking says of a message: `authcrypt` is encrypted and authenticated,
`anoncrypt` only encrypted, a plaintext message neither. -/
structure UnpackMetadata where
  encrypted : Bool
  authenticated : Bool
  deriving DecidableEq

/-- The thread of a message, itself if it names none. -/
def getThreadId (msg : Message) : Option String := msg.thid.or (some msg.id)

/-- The parent thread of a message, its thread if it names none. -/
def getParentThreadId (msg : Message) : Option String := msg.pthid.or (getThreadId msg)

/-- What a handler is told about the message. -/
structure HandlerContext where
  senderDid : String
  thid : Option String
  pthid : Option String
  deriving DecidableEq

/-- What the DIDComm handlers meet besides: how a time is written, and why a
document does not decode as the request of a given name. -/
structure DidcommEnv (σ : Type*) extends Env σ where
  rfc3339 : ℤ → String
  decodeError : String → Json → String

/-! ### Problem reports -/

/-- A problem report. -/
structure ProblemReport where
  code : String
  comment : String
  deriving DecidableEq

namespace ProblemReport

/-- The sender may not do this. -/
def unauthorized (comment : String) : ProblemReport := ⟨"e.p.msg.unauthorized", comment⟩

/-- The message is not understood. -/
def badRequest (comment : String) : ProblemReport := ⟨"e.p.msg.bad-request", comment⟩

/-- The request failed. -/
def internalError (comment : String) : ProblemReport := ⟨"e.p.msg.internal-error", comment⟩

/-- The body of the message that carries the report. -/
def toBody (report : ProblemReport) : Json :=
  .obj [("code", .str report.code), ("comment", .str report.comment)]

/-- The type of the message that carries a report. -/
def messageType : String := "https://didcomm.org/report-problem/2.0/problem-report"

end ProblemReport

/-! ### Outbound messages -/

section

variable {σ : Type*} (env : DidcommEnv σ)

/-- An answer to a recipient, on a thread. -/
def buildResponse (typ : String) (recipient : String) (body : Json) (thid pthid : Option String) :
    Message :=
  { id := env.newId, typ, body, fromDid := some env.ourDid, toDids := [recipient]
    thid := some (thid.getD env.newId), pthid }

/-- A problem report to a recipient, on a thread. -/
def buildProblemReport (recipient : String) (report : ProblemReport) (thid pthid : Option String) :
    Message :=
  buildResponse env ProblemReport.messageType recipient report.toBody thid pthid

end

/-! ### The audit log -/

/-- How an administrative request ended. -/
inductive AuditStatus
  | success
  | failure
  | unauthorized
  deriving DecidableEq

/-- What an administrative request asks for. -/
inductive AuditOperation
  | create
  | update
  | delete
  | read
  | list
  deriving DecidableEq

/-- The identifiers an administrative request names. -/
structure AuditResource where
  entityId : Option EntityId
  authorityId : Option AuthorityId
  action : Option Action
  resource : Option Resource
  deriving DecidableEq

/-- No identifier. -/
def AuditResource.empty : AuditResource := ⟨none, none, none, none⟩

/-- An entry of the audit log. -/
structure AuditLog where
  target : String
  operation : AuditOperation
  actor : String
  status : AuditStatus
  resource : AuditResource
  extra : Option String
  threadId : Option String
  timestamp : ℤ
  deriving DecidableEq

namespace AuditLogBuilder

/-- An entry about an actor's request. -/
def entry (operation : AuditOperation) (actor : String) (resource : AuditResource)
    (threadId : Option String) (now : ℤ) : AuditLog :=
  { target := "ADMIN", operation, actor, status := .success, resource, extra := none, threadId
    timestamp := now }

/-- The request succeeded. -/
def buildSuccess (log : AuditLog) : AuditLog := { log with status := .success }

/-- The request failed. -/
def buildFailure (log : AuditLog) (errorMessage : String) : AuditLog :=
  { log with status := .failure, extra := some s!"audit.error={errorMessage}" }

/-- The request was refused. -/
def buildUnauthorized (log : AuditLog) (reason : String) : AuditLog :=
  { log with status := .unauthorized, extra := some s!"audit.reason={reason}" }

end AuditLogBuilder

/-! ### What handlers do -/

/-- How a handler ends. -/
inductive Completion
  | done
  | failed (error : String)
  | panicked
  deriving DecidableEq

/-- What a handler does besides changing the state: the entries it logs and the
messages it hands over for sending, in order, and how it ends.  Whether a message
then reaches its recipient has no influence on the rest. -/
structure Effects where
  audit : List AuditLog := []
  sent : List Message := []
  completion : Completion := .done
  deriving DecidableEq

end TrustRegistry
