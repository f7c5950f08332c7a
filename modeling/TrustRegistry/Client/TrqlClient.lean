import TrustRegistry.Server.Bindings

/-!
# The query client

The client asks a registry over one of three transports: it builds a document,
has the transport exchange it for a reply, and checks that the reply belongs to
the request before it reads the answer.

The payload types are generated, so how they are written and read is a parameter,
as on the side of the registry.

## Main definitions

* `TrqlError`, `TransportKind` — failures, and the transports.
* `TrqpQuery`, `QueryRequest` — what is asked.
* `TrqlClient.sendQuery` — a query, with `TrqlClient.authorization` and
  `TrqlClient.recognition`.
* `HttpsTransport.exchange` — the transport over HTTPS.
-/

namespace TrustRegistry

/-! ### Failures -/

/-- The transports. -/
inductive TransportKind
  | https
  | didcomm
  | tsp
  deriving DecidableEq

/-- What a query can fail with. -/
inductive TrqlError
  | config (detail : String)
  | transport (kind : TransportKind) (detail : String)
  | timeout (kind : TransportKind) (waitedSecs : ℕ)
  | rejected (code : String) (retryable : Bool) (retryAfter : Option ℤ) (message : Option String)
  | contract (detail : String)
  | noMatchingTransport (ours theirs : List TransportKind)
  deriving DecidableEq

/-- May the same query be sent again? -/
def TrqlError.isRetryable : TrqlError → Bool
  | transport _ _ | timeout _ _ => true
  | rejected _ retryable _ _ => retryable
  | config _ | contract _ | noMatchingTransport _ _ => false

/-! ### Queries -/

/-- What is asked: a tuple, a time other than now, and a hint. -/
structure TrqpQuery where
  entityId : String
  authorityId : String
  action : String
  resource : String
  time : Option ℤ := none
  locator : Option String := none
  deriving DecidableEq

/-- Is there anything besides the tuple? -/
def TrqpQuery.hasContext (q : TrqpQuery) : Bool := q.time.isSome || q.locator.isSome

/-- The repository's form of the tuple. -/
def TrqpQuery.query (q : TrqpQuery) : TrustRecordQuery :=
  ⟨⟨q.entityId⟩, ⟨q.authorityId⟩, ⟨q.action⟩, ⟨q.resource⟩⟩

/-- The context of a request. -/
structure QueryContext where
  time : Option ℤ
  locator : Option String
  deriving DecidableEq

/-- The payload of a request. -/
structure QueryRequest where
  entityId : String
  authorityId : String
  action : String
  resource : String
  context : Option QueryContext
  deriving DecidableEq

/-- The payload that a query is sent as. -/
def TrqpQuery.request (q : TrqpQuery) : QueryRequest where
  entityId := q.entityId
  authorityId := q.authorityId
  action := q.action
  resource := q.resource
  context := if q.hasContext then some ⟨q.time, q.locator⟩ else none

/-- The payload of a rejection, as the client reads it. -/
structure ClientErrorPayload where
  code : String
  retryable : Bool
  retryAfter : Option ℤ
  message : Option String
  deriving DecidableEq

/-- The generated payload types of the client: how requests are written, answers
and rejections read. -/
structure ClientSpecs where
  authorizationRequest : QueryRequest → Except String Json
  recognitionRequest : QueryRequest → Except String Json
  authorizationResponse : Json → Except String Verdict
  recognitionResponse : Json → Except String Verdict
  errorPayload : Json → Except String ClientErrorPayload

/-! ### The client -/

/-- The slug of the type of rejections. -/
def errorSlug : String := "trust-task-error"

/-- A client of the registry with a given DID. -/
structure TrqlClient where
  registryDid : String
  clientDid : Option String := none
  deriving DecidableEq

namespace TrqlClient

variable (client : TrqlClient) (specs : ClientSpecs)
  (exchange : TrustTask → Except TrqlError TrustTask) (id : String) (now : ℤ)

/-- The document of a request. -/
def requestDocument (typeUri : TypeUri) (body : Json) : TrustTask where
  id
  typeUri
  issuer := client.clientDid
  recipient := some client.registryDid
  issuedAt := some now
  payload := body

/-- Read the reply to a request. -/
def readReply (typeUri : TypeUri) (read : Json → Except String Verdict) (reply : TrustTask) :
    Except TrqlError Verdict :=
  -- a reply to something else is not ours
  if reply.threadId ≠ some id then
    .error (.contract (s!"uncorrelated reply: threadId {reply.threadId} does not match " ++
      s!"request id {id}"))
  else if reply.typeUri.slug = errorSlug then
    match specs.errorPayload reply.payload with
    | .error e => .error (.contract s!"trust-task-error payload did not parse: {e}")
    | .ok p => .error (.rejected p.code p.retryable p.retryAfter p.message)
  else if reply.typeUri.isResponse && reply.typeUri.slug = typeUri.slug then
    match read reply.payload with
    | .error e => .error (.contract s!"response payload did not parse: {e}")
    | .ok v => .ok v
  else
    .error (.contract (s!"unexpected reply type \x60{reply.typeUri.display}\x60 to a " ++
      s!"\x60{typeUri.slug}\x60 request"))

/-- Send a query and read the reply. -/
def sendQuery (typeUri : TypeUri) (write : QueryRequest → Except String Json)
    (read : Json → Except String Verdict) (payload : QueryRequest) : Except TrqlError Verdict :=
  match write payload with
  | .error e => .error (.contract s!"request payload did not serialize: {e}")
  | .ok body =>
    match exchange (client.requestDocument id now typeUri body) with
    | .error e => .error e
    | .ok reply => readReply specs id typeUri read reply

/-- Is the entity authorized? -/
def authorization (q : TrqpQuery) : Except TrqlError Verdict :=
  client.sendQuery specs exchange id now .authorization specs.authorizationRequest
    specs.authorizationResponse q.request

/-- Is the entity recognized? -/
def recognition (q : TrqpQuery) : Except TrqlError Verdict :=
  client.sendQuery specs exchange id now .recognition specs.recognitionRequest
    specs.recognitionResponse q.request

end TrqlClient

/-! ### HTTPS -/

/-- Exchange a document over HTTPS: `bytes` is how the document is written, `post`
the exchange of bytes, `read` how the document in an answer is read. -/
def HttpsTransport.exchange (bytes : TrustTask → List UInt8)
    (post : List UInt8 → Except TrqlError HttpResponse) (read : Json → Except String TrustTask)
    (request : TrustTask) : Except TrqlError TrustTask :=
  match post (bytes request) with
  | .error e => .error e
  | .ok response =>
    match read response.body with
    | .ok document => .ok document
    | .error e =>
      if 200 ≤ response.status ∧ response.status < 300 then
        .error (.contract s!"HTTP {response.status} body is not a Trust Task document: {e}")
      else .error (.transport .https s!"HTTP {response.status} with non-Trust-Task body")

end TrustRegistry
