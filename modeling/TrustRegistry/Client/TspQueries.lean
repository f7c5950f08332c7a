import TrustRegistry.Client.MediatorQueries
import TrustRegistry.Tsp.Envelope

/-!
# Queries over TSP

The client puts each request in an envelope and takes the replies out of theirs; the
registry handles the frames that it can unpack.  A verdict that comes back this way is
that of the stored record, at a time between the question and the answer.

## Main definitions

* `tspBinding` — the TSP binding of client and registry.
* `QueryContract` — what is relied on for the documents of queries.
* `TspWire.CarriesQueries` — what is relied on for their envelopes.

## Main results

* `handleInbound_answers` — the registry's answer to a query.
* `tsp_verdict_was_stored` — a verdict that a query returns over TSP.
* `forged_verdict_returned` — the client takes a verdict from anybody who knows the id.
-/

namespace TrustRegistry

open Transition

/-- The TSP binding.  A frame meets the results of the attempts to unpack it; one that
succeeds gives what was sealed and who has sealed it. -/
def tspBinding {β : Type} (σ : Type*) (F : Framework) (W : TspWire β) :
    MediatorBinding σ β (ℕ → Except AtmError Unit) where
  wrap document := buildEnvelope W (F.documentJson document)
  serve attempts env sender payload s :=
    processTspFrame F W env (fun i => (attempts i).map fun _ => (payload, sender)) s
  read payload := (parseEnvelope F W payload).toOption

/-- What is relied on for the documents of queries: requests and the answers to them are
read back as they were written, and a rejection as one; an answer has the thread of its
request, and its payload. -/
structure QueryContract (F : Framework) (client : TrqlClient) (specs : ClientSpecs) : Prop where
  request : ∀ a : AskedQuery, a.Written specs →
    F.parse (F.documentJson (a.request client)) = .ok (a.request client)
  reply : ∀ a : AskedQuery, a.Written specs → ∀ id j,
    F.parse (F.documentJson (F.respondWith (a.request client) id j))
      = .ok (F.respondWith (a.request client) id j)
  rejection : ∀ e reply, F.parse (F.errorJson e) = .ok reply → reply.typeUri.slug = errorSlug
  threadId : ∀ (a : AskedQuery) id j, (F.respondWith (a.request client) id j).threadId = some a.id
  payload : ∀ (a : AskedQuery) id j, (F.respondWith (a.request client) id j).payload = j

/-- What is relied on for the envelopes: the requests, and whatever a registry answers to
them, are read back as they were written. -/
structure TspWire.CarriesQueries {β : Type} (W : TspWire β) (σ : Type*) (F : Framework)
    (client : TrqlClient) (specs : ClientSpecs) : Prop where
  request : ∀ a : AskedQuery, a.Written specs → W.LosslessAt (F.documentJson (a.request client))
  answer : ∀ a : AskedQuery, a.Written specs → ∀ (env : Env σ) sender (s : Server σ) reply,
    replyJson F (handleInbound F env sender (a.request client) s).1 = some reply →
      W.LosslessAt reply

/-! ### The registry's answer -/

/-- The two queries are served whatever is enabled, by the full dispatcher too. -/
theorem get?_dispatcher (state : CapabilityStates) (k : TrqpQueryKind) :
    (compose serveHost serveHost.base state true).get? k.typeUri = some k.handler := by
  show ([GitTrust.definition].foldl (registerEnabled state) _).get? k.typeUri = _
  rw [List.foldl_cons, List.foldl_nil, registerEnabled]
  have hbase : (((serveHost.base.on serveHost.listUri serveHost.listHandler).on serveHost.enableUri
      serveHost.enableHandler).on serveHost.disableUri serveHost.disableHandler).get? k.typeUri
        = some k.handler := by
    cases k <;> decide
  split
  · next entry _ =>
    have hgrant : k.typeUri ≠ .gitTrustGrant := by cases k <;> decide
    have hrevoke : k.typeUri ≠ .gitTrustRevoke := by cases k <;> decide
    show ((Dispatcher.on _ .gitTrustGrant _).on .gitTrustRevoke _).get? k.typeUri = _
    rw [Dispatcher.get?_on, if_neg hrevoke, Dispatcher.get?_on, if_neg hgrant]
    exact hbase
  · exact hbase

section

variable {β : Type} {σ : Type*} {F : Framework} {W : TspWire β} {client : TrqlClient}
  {specs : ClientSpecs} {env : Env σ} {s : Server σ} {a : AskedQuery}

/-- The handler of a query at work on a payload that decodes. -/
theorem TrqpQueryKind.run_handler {k : TrqpQueryKind} {doc : TrustTask} {p : QueryPayload}
    (hpayload : k.readPayload F.specs doc.payload = .ok p) :
    k.handler.run F env doc s = (k.task F env.repository env.newId env.now doc p s.records, s) := by
  cases k with
  | authorization =>
    show withPayload F env doc s (F.specs.authorization doc.payload) _ = _
    rw [show F.specs.authorization doc.payload = .ok p from hpayload]
    rfl
  | recognition =>
    show withPayload F env doc s (F.specs.recognition doc.payload) _ = _
    rw [show F.specs.recognition doc.payload = .ok p from hpayload]
    rfl

/-- A query passes the store of message ids by. -/
theorem dispatchThrough_query {doc : TrustTask} (hwrite : isWriteSlug doc.typeUri.slug = false)
    (dispatcher : Dispatcher TaskHandler) :
    (dispatchThrough F env dispatcher s doc).1
      = .replied (handleDocument F env dispatcher s doc).1 := by
  unfold dispatchThrough dispatchIdempotent
  rw [hwrite]
  rfl

/-- **The registry answers a query with the verdict on the stored record**, if it does
not reject it. -/
theorem handleInbound_answers (hF : QueryContract F client specs)
    (hspecs : ∀ k, SpecsAgree F specs k) (ha : a.Written specs) (hs : s.IsComposed)
    {sender : String} {response : TrustTask}
    (h : (handleInbound F env sender (a.request client) s).1 = .replied (.ok response)) :
    (∃ id j, response = F.respondWith (a.request client) id j) ∧
      a.Answered specs env.repository s.records response := by
  obtain ⟨state, hdispatcher, -⟩ := hs
  obtain ⟨j, p, hwrite, hread, hp⟩ := (hspecs a.kind).request a.query
  obtain rfl := Except.ok.inj (hwrite.symm.trans ha)
  have hget : s.capabilities.dispatcher.get? (a.request client).typeUri = some a.kind.handler := by
    rw [hdispatcher]
    exact get?_dispatcher state a.kind
  have hquery : isWriteSlug (a.request client).typeUri.slug = false := by
    show isWriteSlug a.kind.typeUri.slug = false
    cases a.kind <;> decide
  have hrun : a.kind.handler.run F env (a.request client) s = (a.kind.task F env.repository env.newId
      env.now (a.request client) p s.records, s) := TrqpQueryKind.run_handler hread
  unfold handleInbound at h
  split at h
  · cases h
  · rw [dispatchThrough_query hquery, handleDocument_of_get? hget, hrun] at h
    have h := Handled.replied.inj h
    cases hfound : env.repository.findByQuery s.records (queryOf p) with
    | error e =>
      -- a lookup that fails is a rejection
      exfalso
      cases hk : a.kind <;> rw [hk] at h <;>
        simp [TrqpQueryKind.task, handleAuthorization, handleRecognition, handleQuery, hfound,
          reject] at h
    | ok found =>
      obtain ⟨v, hgranted, -, htask⟩ :=
        a.kind.task_respond F env.newId env.now (a.request client) hfound
      obtain ⟨j, v', hj, hread', hv'⟩ := (hspecs a.kind).response v
      rw [htask, hj, respond] at h
      obtain rfl := Except.ok.inj h
      refine ⟨⟨env.newId, j, rfl⟩, v', found, hp ▸ hfound, ?_, hv'.trans hgranted⟩
      rw [hF.payload]
      exact hread'

/-! ### The binding -/

/-- A frame that is unpacked is what was sealed. -/
theorem unpackFrame_eq {α : Type} {op : ℕ → Except AtmError α} {result : α}
    (h : (unpackFrame op).ending = .returned (.ok result)) : ∃ i, op i = .ok result := by
  have hpolicy := unpackFrame_policy op
  rw [hpolicy.returned] at h
  exact ⟨_, RetryEnd.returned.inj h⟩

/-- The client reads the document in an envelope. -/
theorem tspBinding_read {payload : β} {document : TrustTask} :
    (tspBinding σ F W).read payload = some document ↔
      parseEnvelope F W payload = .ok document := by
  show (parseEnvelope F W payload).toOption = some document ↔ _
  cases parseEnvelope F W payload with
  | error e => simp [Except.toOption]
  | ok document' => simp [Except.toOption]

/-- What the registry does with a frame is what it does with the document in it. -/
theorem tspBinding_serve (F : Framework) (W : TspWire β) (env : Env σ) (s : Server σ)
    (attempts : ℕ → Except AtmError Unit) (sender : String) (payload : β) :
    (∃ doc, parseEnvelope F W payload = .ok doc ∧
      (tspBinding σ F W).serve attempts env sender payload s =
        ((replyJson F (handleInbound F env sender doc s).1).map fun reply =>
          (sender, buildEnvelope W reply), (handleInbound F env sender doc s).2)) ∨
    (tspBinding σ F W).serve attempts env sender payload s = (none, s) := by
  rcases processTspFrame_eq F W env (fun i => (attempts i).map fun _ => (payload, sender)) s with
    ⟨payload', sender', doc, hend, hparse, h⟩ | h
  · obtain ⟨i, hi⟩ := unpackFrame_eq hend
    cases hattempt : attempts i with
    | error e =>
      rw [hattempt] at hi
      cases hi
    | ok _ =>
      rw [hattempt] at hi
      obtain ⟨rfl, rfl⟩ := Prod.mk.inj (Except.ok.inj hi)
      exact .inl ⟨doc, hparse, h⟩
  · exact .inr h

/-- **What is shown of the TSP binding.** -/
theorem tspBinding_answers (hW : W.CarriesQueries σ F client specs)
    (hF : QueryContract F client specs) (hspecs : ∀ k, SpecsAgree F specs k)
    {R : TrustRecordAdminRepository σ} (clientVid : String) :
    (tspBinding σ F W).Answers R client specs clientVid where
  composed attempts env sender payload s hs := by
    rcases tspBinding_serve F W env s attempts sender payload with ⟨doc, -, h⟩ | h
    · rw [h]
      exact Server.composed_step hs (a := .tsp env sender doc) rfl
    · rw [h]
      exact hs
  addressed attempts env sender payload s reply h := by
    rcases tspBinding_serve F W env s attempts sender payload with ⟨doc, -, heq⟩ | heq
    · rw [heq] at h
      obtain ⟨j, -, rfl⟩ := Option.map_eq_some_iff.mp h
      rfl
    · rw [heq] at h
      cases h
  answers a attempts env s reply document ha henv _ hs h hread := by
    rcases tspBinding_serve F W env s attempts clientVid
      (buildEnvelope W (F.documentJson (a.request client))) with ⟨doc, hdoc, heq⟩ | heq
    · -- the document in the frame is the request
      rw [parseEnvelope_buildEnvelope (hW.request a ha), hF.request a ha] at hdoc
      obtain rfl := Except.ok.inj hdoc
      have h := (congrArg Prod.fst heq).symm.trans h
      obtain ⟨j, hj, rfl⟩ := Option.map_eq_some_iff.mp h
      have hparse : F.parse j = .ok document :=
        (parseEnvelope_buildEnvelope (hW.answer a ha env _ s j hj)).mp (tspBinding_read.mp hread)
      cases hhandled : (handleInbound F env clientVid (a.request client) s).1 with
      | dropped =>
        rw [hhandled] at hj
        cases hj
      | panicked =>
        rw [hhandled] at hj
        cases hj
      | replied outcome =>
        rw [hhandled] at hj
        cases outcome with
        | error e =>
          obtain rfl := Option.some.inj hj
          exact .inl (hF.rejection e document hparse)
        | ok response =>
          obtain rfl := Option.some.inj hj
          obtain ⟨⟨id, j, rfl⟩, hanswered⟩ := handleInbound_answers hF hspecs ha hs hhandled
          rw [hF.reply a ha] at hparse
          obtain rfl := Except.ok.inj hparse
          exact .inr ⟨hF.threadId a id j, henv ▸ hanswered⟩
    · have h := (congrArg Prod.fst heq).symm.trans h
      cases h

/-- **A verdict that a query returns over TSP was that of the stored record** at some time
between the question and the answer, whatever else happened meanwhile, unless somebody
other than the registry has sent the document that it was read from. -/
theorem tsp_verdict_was_stored (hW : W.CarriesQueries σ F client specs)
    (hF : QueryContract F client specs)
    (hspecs : ∀ k, SpecsAgree F specs k) {R : TrustRecordAdminRepository σ} {clientVid : String}
    {server : Server σ} (hserver : server.IsComposed)
    {as : List (QueryAction σ β (ℕ → Except AtmError Unit))} {s s' : Querying σ β}
    (hrun : Run (Querying.step F (tspBinding σ F W) client specs clientVid)
      (Querying.Permitted client R) (.opened server) as s) {n : ℕ} (ha : s.asked n = some a)
    (hreturn : s.step F (tspBinding σ F W) client specs clientVid (.exchange (.own n .receive))
      = some s') {e : Exchange} (hn : s'.client.exchanges n = some e) {document : TrustTask}
    (hphase : e.phase = .returned (.document document)) {v : Verdict}
    (hv : a.outcome client specs document = .ok v) :
    (∃ u, Passed (Querying.step F (tspBinding σ F W) client specs clientVid)
          (Querying.Permitted client R) (.opened server) as s u ∧
        u.asked n = some a ∧ ∃ found, R.findByQuery u.server.records a.query.query = .ok found ∧
          v.granted = found.any a.kind.answer) ∨
      ∃ m ∈ s.toClient, m.1 ≠ client.registryDid ∧
        parseEnvelope F W m.2 = .ok document := by
  rcases Querying.verdict_of_return (tspBinding_answers hW hF hspecs clientVid) hserver hrun ha
    hreturn hn hphase hv with h | ⟨m, hm, hsender, hread⟩
  · exact .inl h
  · exact .inr ⟨m, hm, hsender, tspBinding_read.mp hread⟩

end

/-! ### A registry and its client -/

/-- The steps in which the registry takes no part. -/
def QueryAction.isClients {σ P C : Type*} : QueryAction σ P C → Bool
  | .serve _ _ _ | .server _ => false
  | .ask _ _ _ _ _ | .post _ | .exchange _ | .take _ _ | .outsideToServer _
  | .outsideToClient _ => true

theorem Querying.server_of_run {σ P C : Type*} {F : Framework} {B : MediatorBinding σ P C}
    {client : TrqlClient} {specs : ClientSpecs} {clientVid : String}
    {ok : Querying σ P → QueryAction σ P C → Prop} {s t : Querying σ P}
    {as : List (QueryAction σ P C)} (hrun : Run (step F B client specs clientVid) ok s as t) :
    (∀ a ∈ as, a.isClients = true) → t.server = s.server := by
  induction hrun with
  | nil s => exact fun _ => rfl
  | @cons s s' t a as hok hstep hrun ih =>
    intro has
    rw [ih fun b hb => has b (List.mem_cons_of_mem _ hb)]
    have ha := has a List.mem_cons_self
    cases a with
    | serve c env i => cases ha
    | server a => cases ha
    | ask n kind query id now =>
      rw [step] at hstep
      split at hstep
      · obtain ⟨c, -, rfl⟩ := Option.map_eq_some_iff.mp hstep
        rfl
      · cases hstep
    | post n =>
      rw [step] at hstep
      split at hstep
      · split at hstep
        · rw [← Option.some.inj hstep]
        · cases hstep
      · cases hstep
    | exchange a =>
      cases a with
      | register n id => cases hstep
      | take frame document => cases hstep
      | own n b | stopped n | abandon n | send n =>
        obtain ⟨c, -, rfl⟩ := Option.map_eq_some_iff.mp hstep
        rfl
    | take frame i =>
      rw [step] at hstep
      split at hstep
      · split at hstep
        · obtain ⟨c, -, rfl⟩ := Option.map_eq_some_iff.mp hstep
          rfl
        · rw [← Option.some.inj hstep]
      · cases hstep
    | outsideToServer m | outsideToClient m =>
      rw [step] at hstep
      split at hstep
      · rw [← Option.some.inj hstep]
      · cases hstep

theorem queryFramework_contract (client : TrqlClient) :
    QueryContract queryFramework client sampleClientSpecs where
  request _ _ := queryFramework_parse rfl rfl
  reply _ _ _ _ := queryFramework_parse rfl rfl
  rejection _ _ h := queryFramework_rejection h
  threadId _ _ _ := rfl
  payload _ _ _ := rfl

/-- Envelopes that are values already. -/
def valueWire : TspWire Json := ⟨"tsp-envelope", id, .ok, fun _ => ""⟩

theorem valueWire_losslessAt (document : Json) : valueWire.LosslessAt document := rfl

/-- The registry takes a frame that unpacks at once. -/
theorem step_serve {β : Type} {σ : Type*} {F : Framework} {W : TspWire β} {client : TrqlClient}
    {specs : ClientSpecs} {clientVid : String} {s : Querying σ β} {i : ℕ} {m : String × β}
    (hm : s.toServer[i]? = some m) {doc : TrustTask} (hparse : parseEnvelope F W m.2 = .ok doc)
    (env : Env σ) :
    s.step F (tspBinding σ F W) client specs clientVid (.serve (fun _ => .ok ()) env i) = some
      { s with
        server := (handleInbound F env m.1 doc s.server).2
        toClient := s.toClient ++ Querying.delivered clientVid env.ourDid
          ((replyJson F (handleInbound F env m.1 doc s.server).1).map fun reply =>
            (m.1, buildEnvelope W reply)) } := by
  have hunpack : (unpackFrame fun _ : ℕ => (Except.ok () : Except AtmError Unit).map
      fun _ => (m.2, m.1)).ending = .returned (.ok (m.2, m.1)) := by
    rw [unpackFrame, retryTransient, retryLoop_of_last (.inl rfl)]
    rfl
  have hserve : (tspBinding σ F W).serve (fun _ => .ok ()) env m.1 m.2 s.server
      = ((replyJson F (handleInbound F env m.1 doc s.server).1).map fun reply =>
          (m.1, buildEnvelope W reply), (handleInbound F env m.1 doc s.server).2) := by
    show processTspFrame F W env _ s.server = _
    rw [processTspFrame, hunpack]
    simp only [hparse]
  rw [Querying.step, hm]
  simp only [hserve]

/-- The client of the registry. -/
def registryClient : TrqlClient := ⟨"did:web:registry", none⟩

/-- Its query, as it is asked. -/
def askedQuery : AskedQuery := ⟨.authorization, sampleTrqpQuery, "query-1", 0, sampleQueryBody⟩

/-- The answer that says that the entity is authorized. -/
def grantedReply : TrustTask :=
  queryFramework.respondWith (askedQuery.request registryClient) "reply-1"
    (.obj [("authorized", .bool true)])

/-- The deletion of the record of this tuple, signed by the administrator. -/
def sampleDelete : TrustTask where
  id := "msg-3"
  typeUri := .recordDelete
  issuer := some "did:web:admin"
  payload := sampleQueryBody
  proof := some (.obj [("type", .str "DataIntegrityProof")])

/-- The query is asked and sent, handled and answered; then the record is deleted, and the
answer comes in. -/
def answeredByRegistry : List (QueryAction LocalStorage Json (ℕ → Except AtmError Unit)) :=
  [.ask 0 .authorization sampleTrqpQuery "query-1" 0, .post 0, .exchange (.own 0 .sent),
    .serve (fun _ => .ok ()) sampleEnv 0, .server (.tsp sampleEnv "did:web:admin" sampleDelete),
    .take "frame-1" 0, .exchange (.send 0)]

/-- The query is asked, and answered by somebody else. -/
def answeredByOther : List (QueryAction LocalStorage Json (ℕ → Except AtmError Unit)) :=
  [.ask 0 .authorization sampleTrqpQuery "query-1" 0, .exchange (.own 0 .sent),
    .outsideToClient ("did:web:other", buildEnvelope valueWire
      (queryFramework.documentJson grantedReply)), .take "frame-1" 0, .exchange (.send 0)]

/-- A run after which the query returns the answer that the entity is authorized. -/
def ReturnsGranted (server : Server LocalStorage)
    (as : List (QueryAction LocalStorage Json (ℕ → Except AtmError Unit)))
    (s s' : Querying LocalStorage Json) : Prop :=
  Run (Querying.step queryFramework (tspBinding LocalStorage queryFramework valueWire)
      registryClient sampleClientSpecs "did:web:client")
    (Querying.Permitted registryClient LocalStorage.repository) (.opened server) as s ∧
  s.asked 0 = some askedQuery ∧
  s.step queryFramework (tspBinding LocalStorage queryFramework valueWire) registryClient
    sampleClientSpecs "did:web:client" (.exchange (.own 0 .receive)) = some s' ∧
  (s'.client.exchanges 0).map Exchange.phase = some (.returned (.document grantedReply))

theorem returns_answeredByRegistry : ∃ s s', ReturnsGranted sampleRegistry answeredByRegistry s s' ∧
    s.toClient.map Prod.fst = ["did:web:registry"] ∧
    LocalStorage.repository.findByQuery s.server.records sampleTrqpQuery.query = .ok none := by
  have hparse : parseEnvelope queryFramework valueWire (buildEnvelope valueWire
      (queryFramework.documentJson (askedQuery.request registryClient)))
        = .ok (askedQuery.request registryClient) :=
    (parseEnvelope_buildEnvelope (valueWire_losslessAt _)).mpr (queryFramework_parse rfl rfl)
  refine ⟨_, _, ⟨.cons nofun rfl (.cons trivial rfl (.cons trivial rfl (.cons ⟨rfl, rfl⟩
    (step_serve rfl hparse sampleEnv) (.cons trivial rfl (.cons trivial rfl (.cons trivial rfl
      (.nil _))))))), rfl, rfl, rfl⟩, rfl, rfl⟩

theorem returns_answeredByOther :
    ∃ s s', ReturnsGranted (.started .new .empty) answeredByOther s s' :=
  ⟨_, _, .cons nofun rfl (.cons trivial rfl (.cons trivial rfl (.cons trivial rfl
    (.cons trivial rfl (.nil _))))), rfl, rfl, rfl⟩

/-- What is read from the answer. -/
theorem outcome_grantedReply : ∃ v, askedQuery.outcome registryClient sampleClientSpecs grantedReply
    = .ok v ∧ v.granted = true := ⟨_, rfl, rfl⟩

/-- The registry's answer is the verdict on the record that it had, though the record is no
longer there when the query returns. -/
theorem granted_verdict_was_stored : ∃ s s',
    ReturnsGranted sampleRegistry answeredByRegistry s s' ∧
    LocalStorage.repository.findByQuery s.server.records sampleTrqpQuery.query = .ok none ∧
    ∃ u, Passed (Querying.step queryFramework (tspBinding LocalStorage queryFramework valueWire)
          registryClient sampleClientSpecs "did:web:client")
          (Querying.Permitted registryClient LocalStorage.repository) (.opened sampleRegistry)
          answeredByRegistry s u ∧
        u.asked 0 = some askedQuery ∧ ∃ found, LocalStorage.repository.findByQuery u.server.records
          askedQuery.query.query = .ok found ∧ true = found.any askedQuery.kind.answer := by
  obtain ⟨s, s', h, hsenders, hdeleted⟩ := returns_answeredByRegistry
  have ⟨hrun, hasked, hreturn, hphase⟩ := h
  obtain ⟨e, hn, hphase⟩ := Option.map_eq_some_iff.mp hphase
  obtain ⟨v, hv, hgranted⟩ := outcome_grantedReply
  refine ⟨s, s', h, hdeleted, ?_⟩
  rw [← hgranted]
  rcases tsp_verdict_was_stored ⟨fun _ _ => valueWire_losslessAt _,
      fun _ _ _ _ _ _ _ => valueWire_losslessAt _⟩ (queryFramework_contract registryClient)
    queryFramework_specsAgree ⟨_, CapabilitySet.new_composed _⟩ hrun hasked hreturn hn hphase hv
    with hstored | ⟨m, hm, hother, -⟩
  · exact hstored
  · -- nobody else has sent anything
    have hsender := List.mem_map_of_mem (f := Prod.fst) hm
    rw [hsenders] at hsender
    exact absurd (List.mem_singleton.mp hsender) hother

/-- **A verdict from anybody who knows the id of the request.**  The query returns that
the entity is authorized, over a registry that has no record at any time. -/
theorem forged_verdict_returned : ∃ s s',
    ReturnsGranted (.started .new .empty) answeredByOther s s' ∧
    ∀ u, Passed (Querying.step queryFramework (tspBinding LocalStorage queryFramework valueWire)
          registryClient sampleClientSpecs "did:web:client")
        (Querying.Permitted registryClient LocalStorage.repository)
        (.opened (.started .new .empty)) answeredByOther s u →
      LocalStorage.repository.findByQuery u.server.records askedQuery.query.query = .ok none := by
  obtain ⟨s, s', h⟩ := returns_answeredByOther
  refine ⟨s, s', h, ?_⟩
  rintro u ⟨as₁, as₂, has, hrun, -⟩
  have hclients : ∀ a ∈ as₁, a.isClients = true := by
    intro a ha
    have hall : ∀ a ∈ answeredByOther, a.isClients = true := by
      simp [answeredByOther, QueryAction.isClients]
    exact hall a (has ▸ List.mem_append_left _ ha)
  rw [Querying.server_of_run hrun hclients]
  rfl

end TrustRegistry
