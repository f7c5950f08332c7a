import TrustRegistry.Client.TrqlClient
import TrustRegistry.Configs.DidcommConfig
import TrustRegistry.Http.TrqpAgree

/-!
# Client and registry together, over HTTPS

The client addresses each document to the DID of the registry that it was built
with; the registry turns away what is not addressed to the DID in its
configuration.  A registry without DIDComm has the empty text there, while the
client still has to name somebody.

## Main definitions

* `HttpsContract` — what is relied on for the exchange of a document.
* `SpecsAgree` — what is relied on for the payloads.

## Main results

* `query_answered_iff` — a query is answered with the flag of the stored record
  exactly when the registry serves DIDComm or the client names nobody.
* `disabled_registry_rejects` — a registry without DIDComm rejects the query of a
  client that names it.
-/

namespace TrustRegistry

namespace TrqpQueryKind

/-! ### The two queries on either side -/

/-- The type of the request. -/
def typeUri : TrqpQueryKind → TypeUri
  | authorization => .authorization
  | recognition => .recognition

/-- The handler that the registry has for it. -/
def handler : TrqpQueryKind → TaskHandler
  | authorization => .authorization
  | recognition => .recognition

/-- How the registry reads the payload. -/
def readPayload (specs : Specs) : TrqpQueryKind → Json → Except String QueryPayload
  | authorization => specs.authorization
  | recognition => specs.recognition

/-- How the client writes the payload. -/
def writeRequest (specs : ClientSpecs) : TrqpQueryKind → QueryRequest → Except String Json
  | authorization => specs.authorizationRequest
  | recognition => specs.recognitionRequest

/-- How the client reads the answer. -/
def readResponse (specs : ClientSpecs) : TrqpQueryKind → Json → Except String Verdict
  | authorization => specs.authorizationResponse
  | recognition => specs.recognitionResponse

/-- Ask. -/
def ask (client : TrqlClient) (specs : ClientSpecs)
    (exchange : TrustTask → Except TrqlError TrustTask) (id : String) (now : ℤ) :
    TrqpQueryKind → TrqpQuery → Except TrqlError Verdict
  | authorization => client.authorization specs exchange id now
  | recognition => client.recognition specs exchange id now

theorem ask_eq (client : TrqlClient) (specs : ClientSpecs)
    (exchange : TrustTask → Except TrqlError TrustTask) (id : String) (now : ℤ)
    (k : TrqpQueryKind) (q : TrqpQuery) :
    k.ask client specs exchange id now q
      = client.sendQuery specs exchange id now k.typeUri (k.writeRequest specs)
        (k.readResponse specs) q.request := by
  cases k <;> rfl

end TrqpQueryKind

/-! ### What is relied on -/

/-- What is relied on for a document that the client posts: it is read back from
its bytes, so are the answers to it, and what a rejection is read as is one.  The
registry takes a document that is addressed to it and no other.  An answer is on
the thread of the document and of the answering type. -/
structure HttpsContract (F : Framework) (bytes : TrustTask → List UInt8) (doc : TrustTask) :
    Prop where
  request : F.parseSlice (bytes doc) = .ok doc
  reply : ∀ id j, F.parse (F.documentJson (F.respondWith doc id j)) = .ok (F.respondWith doc id j)
  rejection : ∀ id reason reply, F.parse (F.errorJson (F.rejectWith doc id reason)) = .ok reply →
    reply.typeUri.slug = errorSlug
  accepts : ∀ now vid, doc.recipient = some vid →
    F.resolveParties .https (some vid) none doc = .ok () ∧ F.validateBasic doc now vid = .ok ()
  rejects : ∀ now vid, doc.recipient ≠ some vid →
    (∃ e, F.resolveParties .https (some vid) none doc = .error e) ∨
      ∃ e, F.validateBasic doc now vid = .error e
  threadId : ∀ id j, (F.respondWith doc id j).threadId = some doc.id
  typeUri : ∀ id j, (F.respondWith doc id j).typeUri = { doc.typeUri with isResponse := true }
  payload : ∀ id j, (F.respondWith doc id j).payload = j

/-- What is relied on for the payloads: the registry reads the tuple that the client
has written, and the client the verdict that the registry has. -/
structure SpecsAgree (F : Framework) (specs : ClientSpecs) (k : TrqpQueryKind) : Prop where
  request : ∀ q : TrqpQuery, ∃ j p, k.writeRequest specs q.request = .ok j ∧
    k.readPayload F.specs j = .ok p ∧ queryOf p = q.query
  response : ∀ v : Verdict, ∃ j v', k.writeVerdict F.specs v = .ok j ∧
    k.readResponse specs j = .ok v' ∧ v'.granted = v.granted

/-! ### The registry's side -/

/-- **The queries are served whatever is enabled.** -/
theorem get?_queryDispatcher (state : CapabilityStates) (k : TrqpQueryKind) :
    (compose serveHost serveHost.baseQuery state false).get? k.typeUri = some k.handler := by
  show ([GitTrust.definition].foldl (registerEnabled state) _).get? k.typeUri = _
  rw [List.foldl_cons, List.foldl_nil, registerEnabled]
  have hbase : (serveHost.baseQuery.on serveHost.listUri serveHost.listHandler).get? k.typeUri
      = some k.handler := by
    cases k <;> decide
  split
  · next entry _ =>
    have hgrant : k.typeUri ≠ .gitTrustGrant := by cases k <;> decide
    have hrevoke : k.typeUri ≠ .gitTrustRevoke := by cases k <;> decide
    show ((Dispatcher.on _ .gitTrustGrant _).on .gitTrustRevoke _).get? k.typeUri = _
    rw [Dispatcher.get?_on, if_neg hrevoke, Dispatcher.get?_on, if_neg hgrant]
    exact hbase
  · exact hbase

section

variable {σ : Type*} {F : Framework} {specs : ClientSpecs} {bytes : TrustTask → List UInt8}
  {k : TrqpQueryKind} {env : Env σ} {s : Server σ} {doc : TrustTask}

/-- A request that is addressed to the registry is answered with the flag of the
record of its tuple. -/
theorem handleTrustTask_query (hdoc : HttpsContract F bytes doc) (hspecs : SpecsAgree F specs k)
    (hs : s.IsComposed) (htype : doc.typeUri = k.typeUri)
    (hrecipient : doc.recipient = some env.ourDid) {p : QueryPayload}
    (hpayload : k.readPayload F.specs doc.payload = .ok p) {found : Option TrustRecord}
    (hfound : env.repository.findByQuery s.records (queryOf p) = .ok found) :
    ∃ j v, (handleTrustTask F env (bytes doc) s).1
        = ⟨200, F.documentJson (F.respondWith doc env.newId j)⟩ ∧
      k.readResponse specs j = .ok v ∧ v.granted = found.any k.answer := by
  obtain ⟨hparties, hvalid⟩ := hdoc.accepts env.now env.ourDid hrecipient
  obtain ⟨state, _, hquery⟩ := hs
  obtain ⟨v, hgranted, _, htask⟩ := k.task_respond F env.newId env.now doc hfound
  obtain ⟨j, v', hj, hread, hv'⟩ := hspecs.response v
  refine ⟨j, v', ?_, hread, hv'.trans hgranted⟩
  have hget : s.capabilities.queryDispatcher.get? doc.typeUri = some k.handler := by
    rw [hquery, htype, get?_queryDispatcher]
  have hrun : (k.handler.run F env doc s).1 = .ok (F.respondWith doc env.newId j) := by
    have hout : k.task F env.repository env.newId env.now doc p s.records
        = .ok (F.respondWith doc env.newId j) := by
      rw [htask, hj]
      rfl
    rw [← hout]
    cases k with
    | authorization =>
      show (withPayload F env doc s (F.specs.authorization doc.payload) _).1 = _
      rw [show F.specs.authorization doc.payload = .ok p from hpayload]
      rfl
    | recognition =>
      show (withPayload F env doc s (F.specs.recognition doc.payload) _).1 = _
      rw [show F.specs.recognition doc.payload = .ok p from hpayload]
      rfl
  unfold handleTrustTask
  simp only [hdoc.request, hparties, hvalid, handleDocument_of_get? hget, hrun]
  rfl

/-- One that is addressed to somebody else is rejected. -/
theorem handleTrustTask_rejects (hdoc : HttpsContract F bytes doc)
    (hrecipient : doc.recipient ≠ some env.ourDid) :
    ∃ reason, (handleTrustTask F env (bytes doc) s).1
      = errorResponse F (F.rejectWith doc env.newId reason) := by
  unfold handleTrustTask
  simp only [hdoc.request]
  cases hparties : F.resolveParties .https (some env.ourDid) none doc with
  | error reason => exact ⟨reason, rfl⟩
  | ok _ =>
    rcases hdoc.rejects env.now env.ourDid hrecipient with ⟨e, he⟩ | ⟨e, he⟩
    · rw [hparties] at he
      cases he
    · exact ⟨e, by simp only [he]⟩

/-! ### Both sides -/

variable (F env s) in
/-- The exchange with the registry in a state. -/
def httpsExchange (bytes : TrustTask → List UInt8) : TrustTask → Except TrqlError TrustTask :=
  HttpsTransport.exchange bytes (fun body => .ok (handleTrustTask F env body s).1) F.parse

/-- The client reads the answer to its own request. -/
theorem readReply_respondWith (client : TrqlClient) {id : String} {now : ℤ} {body j : Json}
    (hdoc : HttpsContract F bytes (client.requestDocument id now k.typeUri body)) (newId : String)
    {v : Verdict} (hread : k.readResponse specs j = .ok v) :
    TrqlClient.readReply specs id k.typeUri (k.readResponse specs)
      (F.respondWith (client.requestDocument id now k.typeUri body) newId j) = .ok v := by
  have hslug : k.typeUri.slug ≠ errorSlug := by cases k <;> decide
  unfold TrqlClient.readReply
  rw [hdoc.threadId, hdoc.typeUri, hdoc.payload, hread]
  simp [TrqlClient.requestDocument, hslug]

/-- A rejection is never an answer. -/
theorem readReply_of_errorSlug {id : String} {typeUri : TypeUri}
    {read : Json → Except String Verdict} {reply : TrustTask}
    (hslug : reply.typeUri.slug = errorSlug) (v : Verdict) :
    TrqlClient.readReply specs id typeUri read reply ≠ .ok v := by
  unfold TrqlClient.readReply
  intro h
  by_cases hthread : reply.threadId = some id
  · rw [if_neg (not_not_intro hthread), if_pos hslug] at h
    cases hpayload : specs.errorPayload reply.payload with
    | error e =>
      rw [hpayload] at h
      cases h
    | ok p =>
      rw [hpayload] at h
      cases h
  · rw [if_pos hthread] at h
    cases h

/-- What an exchange that failed comes to, and what one that came back. -/
theorem ask_of_exchange {client : TrqlClient} {exchange : TrustTask → Except TrqlError TrustTask}
    {id : String} {now : ℤ} {q : TrqpQuery} {body : Json}
    (hwrite : k.writeRequest specs q.request = .ok body) :
    k.ask client specs exchange id now q
      = (exchange (client.requestDocument id now k.typeUri body)).bind
        (TrqlClient.readReply specs id k.typeUri (k.readResponse specs)) := by
  rw [TrqpQueryKind.ask_eq, TrqlClient.sendQuery, hwrite]
  dsimp only
  cases exchange (client.requestDocument id now k.typeUri body) with
  | error e => rfl
  | ok reply => rfl

/-- An answer with no document in it is a failure, whatever its status. -/
theorem httpsExchange_of_unread {response : HttpResponse} {e : String}
    (hresponse : (handleTrustTask F env (bytes doc) s).1 = response)
    (hread : F.parse response.body = .error e) :
    ∃ e', httpsExchange F env s bytes doc = .error e' := by
  unfold httpsExchange HttpsTransport.exchange
  simp only [hresponse, hread]
  split
  · exact ⟨_, rfl⟩
  · exact ⟨_, rfl⟩

/-- A registry that the client does not name answers with no flag. -/
theorem ask_of_not_addressed {client : TrqlClient} {id : String} {now : ℤ} {q : TrqpQuery}
    {body : Json} (hwrite : k.writeRequest specs q.request = .ok body)
    (hdoc : HttpsContract F bytes (client.requestDocument id now k.typeUri body))
    (hnamed : client.registryDid ≠ env.ourDid) (v : Verdict) :
    k.ask client specs (httpsExchange F env s bytes) id now q ≠ .ok v := by
  intro hv
  rw [ask_of_exchange hwrite] at hv
  have hrecipient : (client.requestDocument id now k.typeUri body).recipient ≠ some env.ourDid :=
    fun h => hnamed (Option.some.inj h)
  obtain ⟨reason, hreason⟩ := handleTrustTask_rejects (s := s) hdoc hrecipient
  cases hparse : F.parse (F.errorJson (F.rejectWith
    (client.requestDocument id now k.typeUri body) env.newId reason)) with
  | error e =>
    obtain ⟨e', he'⟩ := httpsExchange_of_unread hreason hparse
    rw [he'] at hv
    cases hv
  | ok reply =>
    unfold httpsExchange HttpsTransport.exchange at hv
    simp only [hreason, errorResponse, hparse] at hv
    exact readReply_of_errorSlug (hdoc.rejection _ _ _ hparse) v hv

/-- One that it names answers with the flag of the record of the tuple. -/
theorem ask_of_addressed (hspecs : SpecsAgree F specs k) (hs : s.IsComposed) {client : TrqlClient}
    {id : String} {now : ℤ} {q : TrqpQuery} {found : Option TrustRecord}
    (hfound : env.repository.findByQuery s.records q.query = .ok found)
    (hcontract : ∀ body, k.writeRequest specs q.request = .ok body →
      HttpsContract F bytes (client.requestDocument id now k.typeUri body))
    (hnamed : client.registryDid = env.ourDid) :
    ∃ v, k.ask client specs (httpsExchange F env s bytes) id now q = .ok v ∧
      v.granted = found.any k.answer := by
  obtain ⟨body, p, hwrite, hpayload, hp⟩ := hspecs.request q
  have hdoc := hcontract body hwrite
  obtain ⟨j, v, hresponse, hread, hgranted⟩ := handleTrustTask_query hdoc hspecs hs rfl
    (congrArg some hnamed) hpayload (hp.symm ▸ hfound)
  refine ⟨v, ?_, hgranted⟩
  rw [ask_of_exchange hwrite]
  unfold httpsExchange HttpsTransport.exchange
  simp only [hresponse, hdoc.reply]
  exact readReply_respondWith client hdoc env.newId hread

/-- **When a query is answered with the flag of the stored record.**  Over a
configuration that loads, a query of a client that was built with the DID of the
registry, where it has one, is answered, and with that flag, exactly when the
registry serves DIDComm under a DID or the client names nobody. -/
theorem query_answered_iff (hspecs : SpecsAgree F specs k) {κ μ ρ : Type}
    {process : ProcessEnv κ μ ρ} {config : DidcommConfig κ μ ρ}
    (hload : DidcommConfig.load process = .ok config)
    (hdid : env.ourDid = config.profileConfig.did) (hs : s.IsComposed) {client : TrqlClient}
    (hclient : config.profileConfig.did ≠ "" → client.registryDid = config.profileConfig.did)
    {q : TrqpQuery} {found : Option TrustRecord}
    (hfound : env.repository.findByQuery s.records q.query = .ok found) {id : String} {now : ℤ}
    (hcontract : ∀ body, k.writeRequest specs q.request = .ok body →
      HttpsContract F bytes (client.requestDocument id now k.typeUri body)) :
    (∃ v, k.ask client specs (httpsExchange F env s bytes) id now q = .ok v ∧
      v.granted = found.any k.answer) ↔
      (config.isEnabled = true ∧ config.profileConfig.did ≠ "") ∨ client.registryDid = "" := by
  constructor
  · rintro ⟨v, hv, _⟩
    obtain ⟨body, _, hwrite, _⟩ := hspecs.request q
    have hnamed : client.registryDid = env.ourDid := by
      by_contra hother
      exact ask_of_not_addressed hwrite (hcontract body hwrite) hother v hv
    cases henabled : config.isEnabled with
    | false => exact .inr (hnamed.trans (hdid.trans (DidcommConfig.load_disabled hload henabled)))
    | true =>
      by_cases hempty : config.profileConfig.did = ""
      · exact .inr (hnamed.trans (hdid.trans hempty))
      · exact .inl ⟨rfl, hempty⟩
  · intro hcase
    refine ask_of_addressed hspecs hs hfound hcontract ?_
    by_cases hempty : config.profileConfig.did = ""
    · have hnobody : client.registryDid = "" := hcase.resolve_left fun h => h.2 hempty
      rw [hnobody, hdid, hempty]
    · rw [hclient hempty, hdid]

end

/-! ### A registry and its client -/

/-- The payload types of the client, with the members that the registry reads. -/
def sampleClientSpecs : ClientSpecs :=
  let write (q : QueryRequest) : Except String Json :=
    .ok (.obj [("entity_id", .str q.entityId), ("authority_id", .str q.authorityId),
      ("action", .str q.action), ("resource", .str q.resource)])
  let verdict name (j : Json) : Except String Verdict :=
    match (j.get name).bind Json.asBool with
    | some granted => .ok ⟨⟨"", "", "", "", none⟩, granted, 0, none, none⟩
    | none => .error "missing field"
  { authorizationRequest := write
    recognitionRequest := write
    authorizationResponse := verdict "authorized"
    recognitionResponse := verdict "recognized"
    errorPayload := fun _ => .ok ⟨"identityMismatch", false, none, none⟩ }

/-- The query for the tuple of the sample record. -/
def sampleTrqpQuery : TrqpQuery :=
  let q := CsvText.plainRecord.query
  { entityId := q.entityId.asStr, authorityId := q.authorityId.asStr, action := q.action.asStr,
    resource := q.resource.asStr }

/-- The body it is sent with. -/
def sampleQueryBody : Json := .obj
  [("entity_id", .str sampleTrqpQuery.entityId), ("authority_id", .str sampleTrqpQuery.authorityId),
    ("action", .str sampleTrqpQuery.action), ("resource", .str sampleTrqpQuery.resource)]

/-- The document it is sent in. -/
def sampleQueryDocument : TrustTask :=
  TrqlClient.requestDocument ⟨"did:web:registry", none⟩ "query-1" 0 .authorization sampleQueryBody

/-- The bytes it is posted as. -/
def sampleQueryBytes : List UInt8 :=
  ("\x7b\"id\":\"query-1\",\"type\":\"https://trusttasks.org/spec/registry/authorization/0.1\"," ++
    "\"recipient\":\"did:web:registry\",\"issuedAt\":\"1970-01-01T00:00:00Z\",\"payload\":" ++
    "\x7b\"entity_id\":\"did:web:e\",\"authority_id\":\"did:web:a\",\"action\":\"issue\"," ++
    "\"resource\":\"vc\"\x7d\x7d").toList.flatMap String.utf8EncodeChar

/-- How the client writes it. -/
def sampleBytes (doc : TrustTask) : List UInt8 :=
  if doc = sampleQueryDocument then sampleQueryBytes else []

/-- A framework that writes the members of a document that a query needs, and reads
them. -/
def queryFramework : Framework :=
  let text (name : String) (j : Json) : Option String := (j.get name).bind Json.asStr
  let optional : Option String → Json := fun o => o.elim .null .str
  { Framework.sample .null sampleQueryBytes sampleQueryDocument with
    documentJson := fun d => .obj
      [("id", .str d.id), ("threadId", optional d.threadId), ("slug", .str d.typeUri.slug),
        ("version", .str d.typeUri.version), ("isResponse", .bool d.typeUri.isResponse),
        ("issuer", optional d.issuer), ("recipient", optional d.recipient),
        ("issuedAt", d.issuedAt.elim .null fun t => .num t 0), ("payload", d.payload)]
    errorJson := fun e => .obj
      [("id", .str e.id), ("threadId", optional e.threadId), ("slug", .str errorSlug),
        ("version", .str "0.1"), ("isResponse", .bool false), ("payload", .null)]
    parse := fun j =>
      match text "id" j, text "slug" j, text "version" j, (j.get "isResponse").bind Json.asBool,
        j.get "payload" with
      | some id, some slug, some version, some isResponse, some payload =>
        .ok { id, typeUri := { slug, version, isResponse }, payload
              threadId := text "threadId" j
              issuer := text "issuer" j
              recipient := text "recipient" j
              issuedAt := match j.get "issuedAt" with
                | some (.num t _) => some t
                | _ => none }
      | _, _, _, _, _ => .error "missing field" }

theorem queryFramework_parse {d : TrustTask} (hexpires : d.expiresAt = none)
    (hproof : d.proof = none) : queryFramework.parse (queryFramework.documentJson d) = .ok d := by
  obtain ⟨id, threadId, ⟨slug, version, isResponse⟩, issuer, recipient, issuedAt, expiresAt, payload,
    proof⟩ := d
  obtain rfl : expiresAt = none := hexpires
  obtain rfl : proof = none := hproof
  cases threadId <;> cases issuer <;> cases recipient <;> cases issuedAt <;> rfl

/-- What it reads of a rejection has the type of one. -/
theorem queryFramework_rejection {e : ErrorResponse} {reply : TrustTask}
    (h : queryFramework.parse (queryFramework.errorJson e) = .ok reply) :
    reply.typeUri.slug = errorSlug := by
  cases hthread : e.threadId <;>
    simp only [queryFramework, hthread, Option.elim] at h <;>
    rw [← Except.ok.inj h]

theorem queryFramework_specsAgree (k : TrqpQueryKind) :
    SpecsAgree queryFramework sampleClientSpecs k where
  request q := by cases k <;> exact ⟨_, ⟨q.entityId, q.authorityId, q.action, q.resource, none⟩,
    rfl, rfl, rfl⟩
  response v := by cases k <;> exact ⟨_, ⟨⟨"", "", "", "", none⟩, v.granted, 0, none, none⟩,
    rfl, rfl, rfl⟩

/-- What is relied on holds for the document. -/
theorem queryFramework_httpsContract :
    HttpsContract queryFramework sampleBytes sampleQueryDocument where
  request := by
    have hread : queryFramework.parseSlice
        = (Framework.sample .null sampleQueryBytes sampleQueryDocument).parseSlice := rfl
    rw [sampleBytes, if_pos rfl, hread, Framework.sample_parseSlice]
  reply _ _ := queryFramework_parse rfl rfl
  rejection _ _ _ h := queryFramework_rejection h
  accepts _ vid h := by
    obtain rfl := Option.some.inj h
    exact ⟨rfl, rfl⟩
  rejects _ vid h := by
    have hne : "did:web:registry" ≠ vid := fun heq => h (congrArg some heq)
    refine .inl ⟨.framework "identityMismatch" "recipient is not the local party", ?_⟩
    simp [queryFramework, Framework.sample, sampleQueryDocument, TrqlClient.requestDocument,
      Ne.symm hne]
  threadId _ _ := rfl
  typeUri _ _ := rfl
  payload _ _ := rfl

/-- A process with the given variables, whose profile is that of one DID. -/
def plainProcess (vars : List (String × String)) : ProcessEnv Unit Unit Unit where
  var name := vars.lookup name
  tspBuilt := false
  profileFromVta := .ok none
  profileFromSecretStore := .ok (some "profile")
  loadUri _ := .error "unsupported"
  parseProfile _ := .ok ⟨"did:web:registry", "Trust Registry", []⟩
  jsonText _ := "document"

/-- A server that has the record. -/
def sampleRegistry : Server LocalStorage :=
  .started (.withRecords [{ CsvText.plainRecord with authorized := some true }]) .empty

/-- The answer that the client has from it, over the given DID. -/
def sampleAnswer (ourDid : String) : Except TrqlError Verdict :=
  TrqpQueryKind.ask ⟨"did:web:registry", none⟩ sampleClientSpecs
    (httpsExchange queryFramework { sampleEnv with ourDid } sampleRegistry sampleBytes)
    "query-1" 0 .authorization sampleTrqpQuery

theorem sampleAnswer_eq (ourDid : String) : sampleAnswer ourDid
    = (httpsExchange queryFramework { sampleEnv with ourDid } sampleRegistry sampleBytes
        sampleQueryDocument).bind (TrqlClient.readReply sampleClientSpecs "query-1" .authorization
          sampleClientSpecs.authorizationResponse) :=
  by
  have hwrite : TrqpQueryKind.authorization.writeRequest sampleClientSpecs sampleTrqpQuery.request
      = .ok sampleQueryBody := rfl
  exact ask_of_exchange hwrite

/-- What a registry that serves DIDComm is loaded with. -/
def servingConfig : DidcommConfig Unit Unit Unit where
  isEnabled := true
  transportFlags := {}
  profileConfig := ⟨"did:web:registry", "Trust Registry", []⟩
  mediatorDid := "did:web:mediator"
  didDocument := "document"

/-- A registry that serves DIDComm answers. -/
theorem serving_registry_answers :
    DidcommConfig.load (plainProcess [("MEDIATOR_DID", "did:web:mediator")]) = .ok servingConfig ∧
      ∃ v, sampleAnswer servingConfig.profileConfig.did = .ok v ∧ v.granted = true := by
  have hload : DidcommConfig.load (plainProcess [("MEDIATOR_DID", "did:web:mediator")])
      = .ok servingConfig := rfl
  have hfound : sampleEnv.repository.findByQuery sampleRegistry.records sampleTrqpQuery.query
      = .ok (some { CsvText.plainRecord with authorized := some true }) := rfl
  have hcontract : ∀ body,
      TrqpQueryKind.authorization.writeRequest sampleClientSpecs sampleTrqpQuery.request
        = .ok body → HttpsContract queryFramework sampleBytes
          (TrqlClient.requestDocument ⟨"did:web:registry", none⟩ "query-1" 0
            (TrqpQueryKind.typeUri .authorization) body) := by
    intro body hbody
    obtain rfl := Except.ok.inj hbody
    exact queryFramework_httpsContract
  have hanswer := (query_answered_iff (queryFramework_specsAgree .authorization) hload rfl
    ⟨_, CapabilitySet.new_composed _⟩ (fun _ => rfl) hfound hcontract).mpr (.inl ⟨rfl, by decide⟩)
  exact ⟨hload, hanswer⟩

/-- **A registry without DIDComm rejects the query of a client that names it.** -/
theorem disabled_registry_rejects :
    HttpsContract queryFramework sampleBytes sampleQueryDocument ∧
    (∀ k, SpecsAgree queryFramework sampleClientSpecs k) ∧
    ∃ config, DidcommConfig.load (plainProcess [("ENABLE_DIDCOMM", "false")]) = .ok config ∧
      config.transportFlags.rest = true ∧ config.profileConfig.did = "" ∧
      sampleAnswer config.profileConfig.did
        = .error (.rejected "identityMismatch" false none none) := by
  refine ⟨queryFramework_httpsContract, queryFramework_specsAgree, ?_⟩
  refine ⟨{ transportFlags := ⟨true, false, false⟩ }, rfl, rfl, rfl, ?_⟩
  -- what is posted is read as the document, which is addressed to somebody else
  have hpost : (handleTrustTask queryFramework { sampleEnv with ourDid := "" }
      (sampleBytes sampleQueryDocument) sampleRegistry).1
        = errorResponse queryFramework (queryFramework.rejectWith sampleQueryDocument
            sampleEnv.newId (.framework "identityMismatch" "recipient is not the local party")) := by
    unfold handleTrustTask
    rw [queryFramework_httpsContract.request]
    rfl
  have hexchange : httpsExchange queryFramework { sampleEnv with ourDid := "" } sampleRegistry
      sampleBytes sampleQueryDocument = .ok { id := "reply-1", threadId := some "query-1"
                                              typeUri := ⟨errorSlug, "0.1", false⟩
                                              payload := .null } := by
    unfold httpsExchange HttpsTransport.exchange
    simp only [hpost]
    rfl
  show sampleAnswer "" = _
  rw [sampleAnswer_eq, hexchange]
  rfl

end TrustRegistry
