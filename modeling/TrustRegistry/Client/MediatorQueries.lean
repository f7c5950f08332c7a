import TrustRegistry.Client.Demux
import TrustRegistry.Client.HttpsAgree
import TrustRegistry.Lib.Past

/-!
# Queries over a mediator

Any number of queries are under way while the registry goes on working: its records
change, capabilities are turned on and off, it is restarted.  What is sent stays on
the way and may arrive late, out of order, more than once or never.  Messages are
sealed, so that a sender is who it is said to be; but anybody may send to either side,
and the client takes a reply by its thread without a look at who sent it.

## Main definitions

* `MediatorBinding` — how requests travel, what the registry does with a message, and
  how the client reads one.
* `MediatorBinding.Answers` — what is shown of each binding.
* `Querying`, `Querying.step` — the client, the registry, and what is on the way.

## Main results

* `Querying.verdict_of_return` — a verdict that a query returns was that of the stored
  record at some time after it was asked, unless somebody else has sent a document on
  its thread.
-/

namespace TrustRegistry

open Transition

/-- A binding over a mediator, where a message has what it carries in `P`, and `C` is
what its arrival meets.  The registry's answer comes with the DID it goes to. -/
structure MediatorBinding (σ P C : Type*) where
  wrap : TrustTask → P
  serve : C → Env σ → String → P → Server σ → Option (String × P) × Server σ
  read : P → Option TrustTask

/-! ### Queries -/

/-- A query that has been asked, and the body it is sent with. -/
structure AskedQuery where
  kind : TrqpQueryKind
  query : TrqpQuery
  id : String
  now : ℤ
  body : Json

namespace AskedQuery

variable (client : TrqlClient) (specs : ClientSpecs) (a : AskedQuery)

/-- The document that is sent. -/
def request : TrustTask := client.requestDocument a.id a.now a.kind.typeUri a.body

/-- What the query comes to when its exchange returns a document. -/
def outcome (document : TrustTask) : Except TrqlError Verdict :=
  a.kind.ask client specs (fun _ => .ok document) a.id a.now a.query

/-- The body is what the query is written as. -/
def Written : Prop := a.kind.writeRequest specs a.query.request = .ok a.body

/-- The document holds the verdict on the stored record. -/
def Answered {σ : Type*} (R : TrustRecordAdminRepository σ) (records : σ) (document : TrustTask) :
    Prop :=
  ∃ v found, R.findByQuery records a.query.query = .ok found ∧
    a.kind.readResponse specs document.payload = .ok v ∧ v.granted = found.any a.kind.answer

variable {client specs a}

theorem outcome_eq (ha : a.Written specs) (document : TrustTask) :
    a.outcome client specs document = TrqlClient.readReply specs a.id a.kind.typeUri
      (a.kind.readResponse specs) document := by
  rw [outcome, ask_of_exchange ha]
  rfl

/-- A verdict is read from a document that is on the thread and no rejection. -/
theorem of_outcome (ha : a.Written specs) {document : TrustTask} {v : Verdict}
    (h : a.outcome client specs document = .ok v) :
    document.typeUri.slug ≠ errorSlug ∧ a.kind.readResponse specs document.payload = .ok v := by
  rw [outcome_eq ha] at h
  refine ⟨fun hslug => readReply_of_errorSlug hslug v h, ?_⟩
  unfold TrqlClient.readReply at h
  split at h
  · cases h
  · split at h
    · cases hpayload : specs.errorPayload document.payload with
      | error e =>
        rw [hpayload] at h
        cases h
      | ok p =>
        rw [hpayload] at h
        cases h
    · split at h
      · cases hread : a.kind.readResponse specs document.payload with
        | error e =>
          rw [hread] at h
          cases h
        | ok v' =>
          rw [hread] at h
          exact congrArg Except.ok (Except.ok.inj h)
      · cases h

end AskedQuery

/-- What is shown of a binding: what it does to the registry keeps the dispatchers
composed, and what the registry answers to a query is read by the client as a
rejection, or as the verdict on the record that is stored, on the thread of the query. -/
structure MediatorBinding.Answers {σ P C : Type*} (B : MediatorBinding σ P C)
    (R : TrustRecordAdminRepository σ) (client : TrqlClient) (specs : ClientSpecs)
    (clientVid : String) : Prop where
  composed : ∀ c env sender p s, s.IsComposed → (B.serve c env sender p s).2.IsComposed
  addressed : ∀ c env sender p s reply, (B.serve c env sender p s).1 = some reply →
    reply.1 = sender
  answers : ∀ (a : AskedQuery) c env s reply document, a.Written specs → env.repository = R →
    env.ourDid = client.registryDid → s.IsComposed →
    (B.serve c env clientVid (B.wrap (a.request client)) s).1 = some reply →
    B.read reply.2 = some document →
    document.typeUri.slug = errorSlug ∨
      document.threadId = some a.id ∧ a.Answered specs R s.records document

/-! ### The system -/

/-- The client with the queries it has asked, the registry, and what has been sent to
either side, with the senders. -/
structure Querying (σ P : Type*) where
  client : MediatorClient
  asked : ℕ → Option AskedQuery
  server : Server σ
  toServer : List (String × P)
  toClient : List (String × P)

/-- What happens next. -/
inductive QueryAction (σ P C : Type*)
  | ask (n : ℕ) (kind : TrqpQueryKind) (query : TrqpQuery) (id : String) (now : ℤ)
  /-- the request of an exchange is sent -/
  | post (n : ℕ)
  /-- a step of the exchanges -/
  | exchange (a : ExchangeAction)
  /-- the client takes a message, by its position -/
  | take (frame : String) (i : ℕ)
  /-- the registry takes one -/
  | serve (c : C) (env : Env σ) (i : ℕ)
  /-- the registry does anything else -/
  | server (a : ServerAction σ)
  /-- somebody else sends a message -/
  | outsideToServer (m : String × P)
  | outsideToClient (m : String × P)

namespace Querying

variable {σ P C : Type*}

/-- Nothing has been asked or sent. -/
def opened (server : Server σ) : Querying σ P := ⟨.new, fun _ => none, server, [], []⟩

section

variable (F : Framework) (B : MediatorBinding σ P C) (client : TrqlClient) (specs : ClientSpecs)
  (clientVid : String)

/-- What the client is sent when the registry answers. -/
def delivered (ourDid : String) : Option (String × P) → List (String × P)
  | some (receiver, payload) => if receiver = clientVid then [(ourDid, payload)] else []
  | none => []

/-- One step. -/
def step (s : Querying σ P) : QueryAction σ P C → Option (Querying σ P)
  | .ask n kind query id now =>
    match kind.writeRequest specs query.request with
    | .ok body =>
      (s.client.step (.register n id)).map fun client =>
        { s with client, asked := Function.update s.asked n (some ⟨kind, query, id, now, body⟩) }
    | .error _ => none
  | .post n =>
    match s.asked n with
    | some a =>
      if (s.client.exchanges n).map Exchange.phase = some .sending then
        some { s with toServer := s.toServer ++ [(clientVid, B.wrap (a.request client))] }
      else none
    | none => none
  | .exchange a =>
    match a with
    | .register _ _ | .take _ _ => none
    | .own _ _ | .stopped _ | .abandon _ | .send _ =>
      (s.client.step a).map fun client => { s with client }
  | .take frame i =>
    match s.toClient[i]? with
    | some m =>
      match B.read m.2 with
      | some document =>
        (s.client.step (.take frame document)).map fun client => { s with client }
      | none => some s
    | none => none
  | .serve c env i =>
    match s.toServer[i]? with
    | some m =>
      let (reply, server) := B.serve c env m.1 m.2 s.server
      some { s with server, toClient := s.toClient ++ delivered clientVid env.ourDid reply }
    | none => none
  | .server a => (s.server.step F a).map fun server => { s with server }
  | .outsideToServer m =>
    if m.1 ≠ clientVid then some { s with toServer := s.toServer ++ [m] } else none
  | .outsideToClient m =>
    if m.1 ≠ client.registryDid then some { s with toClient := s.toClient ++ [m] } else none

/-- No id is used twice, and the registry has its backend and its DID. -/
def Permitted (R : TrustRecordAdminRepository σ) (s : Querying σ P) : QueryAction σ P C → Prop
  | .ask _ _ _ id _ => ∀ n a, s.asked n = some a → a.id ≠ id
  | .serve _ env _ => env.repository = R ∧ env.ourDid = client.registryDid
  | _ => True

end

end Querying

/-! ### The steps of the exchanges -/

/-- What a step does that registers no exchange: it sets no id, adds no entry, and a
document gets into a channel from the call that holds it, and there from the entry of
its thread. -/
structure MediatorClient.Follows (s : MediatorClient) (a : ExchangeAction) (s' : MediatorClient) :
    Prop where
  ids : ∀ n, (s'.exchanges n).map Exchange.requestId = (s.exchanges n).map Exchange.requestId
  pending : ∀ id n, s'.pending.inner.get? id = some n → s.pending.inner.get? id = some n
  held : ∀ n call, s'.held n = some call → s.held n = some call ∨
    ∃ id, a = .take call.frame call.document ∧ call.document.threadId = some id ∧
      s.pending.inner.get? id = some n
  value : ∀ n e d, s'.exchanges n = some e → e.channel.value = some d →
    (∃ e', s.exchanges n = some e' ∧ e'.channel.value = some d) ∨
      ∃ call, s.held n = some call ∧ call.document = d

namespace MediatorClient

variable {s s' : MediatorClient}

/-- An exchange changes, with its own id; what is in its channel was there, or is what
is held for it. -/
theorem follows_setExchange {n : ℕ} {e : Exchange} (e' : Exchange) {a : ExchangeAction}
    (hn : s.exchanges n = some e) (hid : e'.requestId = e.requestId)
    (hvalue : ∀ d, e'.channel.value = some d → e.channel.value = some d ∨
      ∃ call, s.held n = some call ∧ call.document = d)
    {pending : PendingReplies} (hpending : ∀ id m, pending.inner.get? id = some m →
      s.pending.inner.get? id = some m)
    {held : ℕ → Option RouteCall} (hheld : ∀ m call, held m = some call → s.held m = some call)
    (returns : List RouteReturn) :
    s.Follows a { s.setExchange n e' with pending, held, returns } where
  ids m := by
    show ((s.setExchange n e').exchanges m).map Exchange.requestId = _
    by_cases hm : m = n
    · rw [hm, setExchange_self, hn, Option.map_some, Option.map_some, hid]
    · rw [setExchange_of_ne s e' hm]
  pending := hpending
  held m call h := .inl (hheld m call h)
  value m f d hf hd := by
    have hf : (s.setExchange n e').exchanges m = some f := hf
    by_cases hm : m = n
    · rw [hm, setExchange_self] at hf
      obtain rfl := Option.some.inj hf
      subst hm
      exact (hvalue d hd).imp_left fun h => ⟨e, hn, h⟩
    · rw [setExchange_of_ne s e' hm] at hf
      exact .inl ⟨f, hf, hd⟩

/-- What is in the channel after a step of its own was there before. -/
theorem value_of_advance {e e' : Exchange} {a : OwnStep} (h : e.advance a = some e')
    {d : TrustTask} (hd : e'.channel.value = some d) : e.channel.value = some d := by
  rcases Exchange.advance_cases h with ⟨_, _, rfl⟩ | ⟨_, _, rfl⟩ | ⟨_, _, _, _, rfl⟩ |
    ⟨_, _, rfl⟩ | ⟨_, _, rfl⟩ | ⟨_, _, rfl⟩
  · exact hd
  · exact hd
  · cases hd
  · exact hd
  · cases hd
  · cases hd

theorem get?_erase_some {p : PendingReplies} {id id' : String} {m : ℕ}
    (h : (p.inner.erase id).get? id' = some m) : p.inner.get? id' = some m := by
  rw [AssocMap.get?_erase] at h
  split at h
  · cases h
  · exact h

theorem follows_of_step {a : ExchangeAction} (hregister : ∀ n id, a ≠ .register n id)
    (h : s.step a = some s') : s.Follows a s' := by
  cases a with
  | register n id => exact absurd rfl (hregister n id)
  | own n a =>
    simp only [step, Option.bind_eq_bind, Option.bind_eq_some_iff] at h
    obtain ⟨e, hn, e', hadvance, h⟩ := h
    obtain rfl := Option.some.inj h
    exact follows_setExchange e' hn (Exchange.advance_frame hadvance).1
      (fun d hd => .inl (value_of_advance hadvance hd)) (fun _ _ h => h) (fun _ _ h => h) _
  | stopped n =>
    simp only [step, Option.bind_eq_bind, Option.bind_eq_some_iff] at h
    obtain ⟨e, hn, e', hstopped, h⟩ := h
    have he' : e'.requestId = e.requestId ∧ e'.channel.value = none := by
      unfold Exchange.stopped at hstopped
      split at hstopped
      · obtain rfl := Option.some.inj hstopped
        exact ⟨rfl, rfl⟩
      · cases hstopped
    split at h
    · cases h
    · obtain rfl := Option.some.inj h
      refine follows_setExchange e' hn he'.1 (fun d hd => ?_) (fun _ _ h => h) (fun _ _ h => h) _
      rw [he'.2] at hd
      cases hd
  | abandon n =>
    simp only [step, Option.bind_eq_bind, Option.bind_eq_some_iff] at h
    obtain ⟨e, hn, e', habandoned, h⟩ := h
    obtain rfl := Option.some.inj h
    obtain ⟨_, phase, _, rfl⟩ := Exchange.abandoned_cases habandoned
    exact follows_setExchange { e with phase } hn rfl (fun d hd => .inl hd)
      (fun _ _ h => get?_erase_some h) (fun _ _ h => h) _
  | send n =>
    simp only [step, Option.bind_eq_bind, Option.bind_eq_some_iff] at h
    obtain ⟨call, hcall, e, hn, h⟩ := h
    obtain rfl := Option.some.inj h
    refine follows_setExchange { e with channel := (e.channel.send call.document).2 } hn rfl
      (fun d hd => ?_) (fun _ _ h => h) (fun m c h => ?_) _
    · have hd : (e.channel.send call.document).2.value = some d := hd
      unfold Oneshot.send at hd
      split at hd
      · exact .inr ⟨call, hcall, Option.some.inj hd⟩
      · exact .inl hd
    · rw [Function.update_apply] at h
      split at h
      · cases h
      · exact h
  | take frame document =>
    have hnoted : ∀ n e d, (s.exchanges n).map (Exchange.note document) = some e →
        e.channel.value = some d → ∃ e', s.exchanges n = some e' ∧ e'.channel.value = some d := by
      intro n e d he hd
      obtain ⟨e', he', rfl⟩ := Option.map_eq_some_iff.mp he
      refine ⟨e', he', ?_⟩
      unfold Exchange.note at hd
      split at hd <;> exact hd
    have hids : ∀ n, ((s.exchanges n).map (Exchange.note document)).map Exchange.requestId
        = (s.exchanges n).map Exchange.requestId := by
      intro n
      cases s.exchanges n with
      | none => rfl
      | some e => exact congrArg some (Exchange.note_requestId document e)
    rcases take_cases h with ⟨_, pending, hpending, rfl⟩ | ⟨id, n, hthread, hget, rfl⟩
    · refine ⟨hids, fun id m hm => ?_, fun _ _ h => .inl h, fun n e d he hd =>
        .inl (hnoted n e d he hd)⟩
      rw [← hpending]
      exact hm
    · refine ⟨hids, fun _ _ h => get?_erase_some h, fun m call hm => ?_, fun m e d he hd =>
        .inl (hnoted m e d he hd)⟩
      have hm : Function.update s.held n (some ⟨frame, document⟩) m = some call := hm
      rw [Function.update_apply] at hm
      split at hm
      · next hmn =>
        obtain rfl := Option.some.inj hm
        rw [hmn]
        exact .inr ⟨id, rfl, hthread, hget⟩
      · exact .inl hm

end MediatorClient

/-! ### Where a document comes from -/

namespace Querying

variable {σ P C : Type*} {F : Framework} {B : MediatorBinding σ P C} {client : TrqlClient}
  {specs : ClientSpecs} {clientVid : String} {R : TrustRecordAdminRepository σ}
  {past : Querying σ P → Prop} {s s' : Querying σ P}

variable (specs R) in
/-- The document holds the verdict on the record that was stored at some time after the
query was asked. -/
def FromRegistry (past : Querying σ P → Prop) (n : ℕ) (a : AskedQuery) (document : TrustTask) :
    Prop :=
  ∃ u, past u ∧ u.asked n = some a ∧ a.Answered specs R u.server.records document

variable (B client) in
/-- Somebody else has sent the document. -/
def Foreign (s : Querying σ P) (document : TrustTask) : Prop :=
  ∃ m ∈ s.toClient, m.1 ≠ client.registryDid ∧ B.read m.2 = some document

variable (B client specs R) in
/-- A document of a query is on its thread, and a rejection, or the registry's verdict, or
somebody else's. -/
def Origin (past : Querying σ P → Prop) (s : Querying σ P) (n : ℕ) (document : TrustTask) : Prop :=
  ∃ a, s.asked n = some a ∧ document.threadId = some a.id ∧
    (document.typeUri.slug = errorSlug ∨ FromRegistry specs R past n a document ∨
      Foreign B client s document)

variable (B client specs clientVid R) in
/-- The invariant. -/
structure Sound (past : Querying σ P → Prop) (s : Querying σ P) : Prop where
  composed : s.server.IsComposed
  asked : ∀ n a, s.asked n = some a → a.Written specs ∧
    ∃ e, s.client.exchanges n = some e ∧ e.requestId = a.id
  exchanges : ∀ n e, s.client.exchanges n = some e → ∃ a, s.asked n = some a ∧ a.id = e.requestId
  distinct : ∀ n m a b, s.asked n = some a → s.asked m = some b → a.id = b.id → n = m
  requests : ∀ m ∈ s.toServer, m.1 = clientVid →
    ∃ n a, s.asked n = some a ∧ m.2 = B.wrap (a.request client)
  replies : ∀ m ∈ s.toClient, m.1 = client.registryDid → ∀ document, B.read m.2 = some document →
    document.typeUri.slug = errorSlug ∨ ∃ n a, s.asked n = some a ∧
      document.threadId = some a.id ∧ FromRegistry specs R past n a document
  known : ∀ id n, s.client.pending.inner.get? id = some n →
    ∃ e, s.client.exchanges n = some e ∧ e.requestId = id
  held : ∀ n call, s.client.held n = some call → Origin B client specs R past s n call.document
  value : ∀ n e document, s.client.exchanges n = some e → e.channel.value = some document →
    Origin B client specs R past s n document

/-- What has been asked and sent stays. -/
structure Grows (s s' : Querying σ P) : Prop where
  asked : ∀ n a, s.asked n = some a → s'.asked n = some a
  toClient : ∀ m ∈ s.toClient, m ∈ s'.toClient

theorem Origin.mono {q : Querying σ P → Prop} (hpast : ∀ u, past u → q u) (hgrows : Grows s s')
    {n : ℕ} {document : TrustTask} (h : Origin B client specs R past s n document) :
    Origin B client specs R q s' n document := by
  obtain ⟨a, ha, hthread, hfrom⟩ := h
  refine ⟨a, hgrows.asked n a ha, hthread, ?_⟩
  rcases hfrom with h | ⟨u, hu, hasked, hanswered⟩ | ⟨m, hm, hsender, hread⟩
  · exact .inl h
  · exact .inr (.inl ⟨u, hpast u hu, hasked, hanswered⟩)
  · exact .inr (.inr ⟨m, hgrows.toClient m hm, hsender, hread⟩)

theorem Sound.mono {q : Querying σ P → Prop} (hpast : ∀ u, past u → q u)
    (hs : Sound B client specs clientVid R past s) : Sound B client specs clientVid R q s where
  composed := hs.composed
  asked := hs.asked
  exchanges := hs.exchanges
  distinct := hs.distinct
  requests := hs.requests
  replies m hm hsender document hread := by
    refine (hs.replies m hm hsender document hread).imp_right ?_
    rintro ⟨n, a, ha, hthread, u, hu, h⟩
    exact ⟨n, a, ha, hthread, u, hpast u hu, h⟩
  known := hs.known
  held n call h := (hs.held n call h).mono hpast ⟨fun _ _ h => h, fun _ h => h⟩
  value n e document hn h := (hs.value n e document hn h).mono hpast ⟨fun _ _ h => h, fun _ h => h⟩

/-- A step of the exchanges keeps the invariant, if it takes documents from where they
should come. -/
theorem Sound.follows (hs : Sound B client specs clientVid R past s) {a : ExchangeAction}
    {c : MediatorClient} (hc : s.client.Follows a c)
    (htake : ∀ frame document, a = .take frame document → ∀ id n,
      document.threadId = some id → s.client.pending.inner.get? id = some n →
      Origin B client specs R past s n document) :
    Sound B client specs clientVid R past { s with client := c } := by
  -- the exchanges are those that there were, with their ids
  have hids : ∀ n e, s.client.exchanges n = some e →
      ∃ e', c.exchanges n = some e' ∧ e'.requestId = e.requestId := by
    intro n e he
    have h := hc.ids n
    rw [he, Option.map_some] at h
    exact Option.map_eq_some_iff.mp h
  have hids' : ∀ n e, c.exchanges n = some e →
      ∃ e', s.client.exchanges n = some e' ∧ e'.requestId = e.requestId := by
    intro n e he
    have h := hc.ids n
    rw [he, Option.map_some] at h
    exact Option.map_eq_some_iff.mp h.symm
  refine ⟨hs.composed, fun n b hb => ?_, fun n e he => ?_, hs.distinct, hs.requests, hs.replies,
    fun id n h => ?_, fun n call h => ?_, fun n e document he h => ?_⟩
  · obtain ⟨hwritten, e, he, hid⟩ := hs.asked n b hb
    obtain ⟨e', he', hid'⟩ := hids n e he
    exact ⟨hwritten, e', he', hid'.trans hid⟩
  · obtain ⟨e', he', hid⟩ := hids' n e he
    obtain ⟨b, hb, hbid⟩ := hs.exchanges n e' he'
    exact ⟨b, hb, hbid.trans hid⟩
  · obtain ⟨e, he, hid⟩ := hs.known id n (hc.pending id n h)
    obtain ⟨e', he', hid'⟩ := hids n e he
    exact ⟨e', he', hid'.trans hid⟩
  · rcases hc.held n call h with h | ⟨id, ha, hthread, hget⟩
    · exact hs.held n call h
    · exact htake call.frame call.document ha id n hthread hget
  · rcases hc.value n e document he h with ⟨e', he', h⟩ | ⟨call, hcall, rfl⟩
    · exact hs.value n e' document he' h
    · exact hs.held n call hcall

/-- What is under way grows; nothing else changes but the registry. -/
theorem Sound.grows (hs : Sound B client specs clientVid R past s) (hgrows : Grows s s')
    (hclient : s'.client = s.client) (hasked : s'.asked = s.asked)
    (hcomposed : s'.server.IsComposed)
    (hrequests : ∀ m ∈ s'.toServer, m ∈ s.toServer ∨ (m.1 = clientVid →
      ∃ n a, s.asked n = some a ∧ m.2 = B.wrap (a.request client)))
    (hreplies : ∀ m ∈ s'.toClient, m ∈ s.toClient ∨ (m.1 = client.registryDid →
      ∀ document, B.read m.2 = some document → document.typeUri.slug = errorSlug ∨
        ∃ n a, s.asked n = some a ∧ document.threadId = some a.id ∧
          FromRegistry specs R past n a document)) :
    Sound B client specs clientVid R past s' where
  composed := hcomposed
  asked := by
    rw [hclient, hasked]
    exact hs.asked
  exchanges := by
    rw [hclient, hasked]
    exact hs.exchanges
  distinct := by
    rw [hasked]
    exact hs.distinct
  requests m hm := by
    rw [hasked]
    exact (hrequests m hm).elim (hs.requests m) id
  replies m hm := by
    rw [hasked]
    exact (hreplies m hm).elim (hs.replies m) id
  known := by
    rw [hclient]
    exact hs.known
  held n call h := by
    rw [hclient] at h
    exact (hs.held n call h).mono (fun _ h => h) hgrows
  value n e document hn h := by
    rw [hclient] at hn
    exact (hs.value n e document hn h).mono (fun _ h => h) hgrows

/-! ### The steps -/

/-- A query is asked. -/
theorem Sound.asks (hs : Sound B client specs clientVid R past s) {n : ℕ} {a : AskedQuery}
    (hwritten : a.Written specs) (hfresh : ∀ m b, s.asked m = some b → b.id ≠ a.id)
    {c : MediatorClient} (hstep : s.client.step (.register n a.id) = some c) :
    Sound B client specs clientVid R past
      { s with client := c, asked := Function.update s.asked n (some a) } := by
  rw [MediatorClient.step] at hstep
  cases hn : s.client.exchanges n with
  | some e =>
    rw [hn] at hstep
    cases hstep
  | none =>
    rw [hn] at hstep
    obtain rfl := Option.some.inj hstep
    have hnone : ∀ m b, s.asked m = some b → m ≠ n := by
      rintro m b hb rfl
      obtain ⟨-, e, he, -⟩ := hs.asked m b hb
      rw [hn] at he
      cases he
    have hasked : ∀ m b, s.asked m = some b → Function.update s.asked n (some a) m = some b := by
      intro m b hb
      rw [Function.update_of_ne (hnone m b hb), hb]
    have hcases : ∀ m b, Function.update s.asked n (some a) m = some b →
        m = n ∧ b = a ∨ s.asked m = some b := by
      intro m b hb
      rw [Function.update_apply] at hb
      split at hb
      · next h => exact .inl ⟨h, (Option.some.inj hb).symm⟩
      · exact .inr hb
    have hgrows : Grows s { s with
        client := { s.client.setExchange n { requestId := a.id } with
          pending := s.client.pending.register a.id n }
        asked := Function.update s.asked n (some a) } := ⟨hasked, fun _ h => h⟩
    refine ⟨hs.composed, fun m b hb => ?_, fun m e he => ?_, fun m k b d hb hd hid => ?_,
      fun msg hm hsender => ?_, fun msg hm hsender document hread => ?_, fun id m h => ?_,
      fun m call h => (hs.held m call h).mono (fun _ h => h) hgrows, fun m e document he h => ?_⟩
    · rcases hcases m b hb with ⟨rfl, rfl⟩ | hb
      · exact ⟨hwritten, _, Function.update_self _ _ _, rfl⟩
      · obtain ⟨hw, e, he, hid⟩ := hs.asked m b hb
        exact ⟨hw, e, (MediatorClient.setExchange_of_ne _ _ (hnone m b hb)).trans he, hid⟩
    · by_cases hmn : m = n
      · subst hmn
        obtain rfl := Option.some.inj ((MediatorClient.setExchange_self _ _ _).symm.trans he)
        exact ⟨a, Function.update_self _ _ _, rfl⟩
      · have he : s.client.exchanges m = some e :=
          (MediatorClient.setExchange_of_ne s.client { requestId := a.id } hmn).symm.trans he
        obtain ⟨b, hb, hid⟩ := hs.exchanges m e he
        exact ⟨b, hasked m b hb, hid⟩
    · rcases hcases m b hb with ⟨hm, hba⟩ | hold
      · rcases hcases k d hd with ⟨hk, -⟩ | hold'
        · rw [hm, hk]
        · exact absurd (hid.symm.trans (congrArg AskedQuery.id hba)) (hfresh k d hold')
      · rcases hcases k d hd with ⟨-, hda⟩ | hold'
        · exact absurd (hid.trans (congrArg AskedQuery.id hda)) (hfresh m b hold)
        · exact hs.distinct m k b d hold hold' hid
    · obtain ⟨m, b, hb, hp⟩ := hs.requests msg hm hsender
      exact ⟨m, b, hasked m b hb, hp⟩
    · refine (hs.replies msg hm hsender document hread).imp_right ?_
      rintro ⟨m, b, hb, h⟩
      exact ⟨m, b, hasked m b hb, h⟩
    · have h : (s.client.pending.inner.insert a.id n).get? id = some m := h
      rw [AssocMap.get?_insert] at h
      split at h
      · next hid =>
        obtain rfl := Option.some.inj h
        exact ⟨_, MediatorClient.setExchange_self _ _ _, hid.symm⟩
      · obtain ⟨e, he, hid⟩ := hs.known id m h
        refine ⟨e, (MediatorClient.setExchange_of_ne _ _ ?_).trans he, hid⟩
        rintro rfl
        rw [hn] at he
        cases he
    · by_cases hmn : m = n
      · subst hmn
        obtain rfl := Option.some.inj ((MediatorClient.setExchange_self _ _ _).symm.trans he)
        cases h
      · have he : s.client.exchanges m = some e :=
          (MediatorClient.setExchange_of_ne s.client { requestId := a.id } hmn).symm.trans he
        exact (hs.value m e document he h).mono (fun _ h => h) hgrows

/-- The client takes a message. -/
theorem Sound.takes (hs : Sound B client specs clientVid R past s) {m : String × P}
    (hm : m ∈ s.toClient) {document : TrustTask} (hread : B.read m.2 = some document)
    {frame : String} {c : MediatorClient} (hstep : s.client.step (.take frame document) = some c) :
    Sound B client specs clientVid R past { s with client := c } := by
  refine hs.follows (MediatorClient.follows_of_step (fun _ _ h => by cases h) hstep) ?_
  rintro _ _ ⟨⟩ id n hthread hget
  -- the exchange that is registered on the thread is that of a query
  obtain ⟨e, he, hid⟩ := hs.known id n hget
  obtain ⟨a, ha, haid⟩ := hs.exchanges n e he
  refine ⟨a, ha, by rw [hthread, haid, hid], ?_⟩
  by_cases hsender : m.1 = client.registryDid
  · rcases hs.replies m hm hsender document hread with h | ⟨k, b, hb, hbthread, h⟩
    · exact .inl h
    · have hkn : k = n := by
        refine hs.distinct k n b a hb ha ?_
        rw [hthread] at hbthread
        rw [haid, hid]
        exact (Option.some.inj hbthread).symm
      subst hkn
      obtain rfl := Option.some.inj (hb.symm.trans ha)
      exact .inr (.inl h)
  · exact .inr (.inr ⟨m, hm, hsender, hread⟩)

/-- The registry takes a message. -/
theorem Sound.serves (hB : B.Answers R client specs clientVid)
    (hs : Sound B client specs clientVid R past s) (hpast : past s) {c : C} {env : Env σ}
    (henv : env.repository = R ∧ env.ourDid = client.registryDid) {m : String × P}
    (hm : m ∈ s.toServer) :
    Sound B client specs clientVid R past { s with
      server := (B.serve c env m.1 m.2 s.server).2
      toClient := s.toClient ++
        delivered clientVid env.ourDid (B.serve c env m.1 m.2 s.server).1 } := by
  refine hs.grows ⟨fun _ _ h => h, fun _ h => List.mem_append_left _ h⟩ rfl rfl
    (hB.composed c env m.1 m.2 s.server hs.composed) (fun _ h => .inl h) fun m' hm' => ?_
  rcases List.mem_append.mp hm' with hm' | hm'
  · exact .inl hm'
  · right
    intro _ document hread
    cases hreply : (B.serve c env m.1 m.2 s.server).1 with
    | none =>
      rw [hreply] at hm'
      cases hm'
    | some reply =>
      have hreceiver := hB.addressed c env m.1 m.2 s.server reply hreply
      rw [hreply, delivered] at hm'
      split at hm'
      · next hclient =>
        -- the message is one of the client's requests
        obtain rfl := List.mem_singleton.mp hm'
        obtain ⟨n, a, ha, hp⟩ := hs.requests m hm (hreceiver.symm.trans hclient)
        rw [hp, ← hreceiver, hclient] at hreply
        refine (hB.answers a c env s.server reply document (hs.asked n a ha).1 henv.1 henv.2
          hs.composed hreply hread).imp_right ?_
        rintro ⟨hthread, hanswered⟩
        exact ⟨n, a, ha, hthread, s, hpast, ha, hanswered⟩
      · cases hm'

theorem sound_step (hB : B.Answers R client specs clientVid)
    (hs : Sound B client specs clientVid R past s) (hpast : past s) {a : QueryAction σ P C}
    (hok : Permitted client R s a) (h : s.step F B client specs clientVid a = some s') :
    Sound B client specs clientVid R past s' := by
  cases a with
  | ask n kind query id now =>
    rw [step] at h
    split at h
    · next body hbody =>
      obtain ⟨c, hc, rfl⟩ := Option.map_eq_some_iff.mp h
      exact hs.asks (a := ⟨kind, query, id, now, body⟩) hbody hok hc
    · cases h
  | post n =>
    rw [step] at h
    split at h
    · next a ha =>
      split at h
      · obtain rfl := Option.some.inj h
        refine hs.grows ⟨fun _ _ h => h, fun _ h => h⟩ rfl rfl hs.composed (fun m hm => ?_)
          fun _ h => .inl h
        rcases List.mem_append.mp hm with hm | hm
        · exact .inl hm
        · obtain rfl := List.mem_singleton.mp hm
          exact .inr fun _ => ⟨n, a, ha, rfl⟩
      · cases h
    · cases h
  | exchange a =>
    cases a with
    | register n id => cases h
    | take frame document => cases h
    | own n b | stopped n | abandon n | send n =>
      obtain ⟨c, hc, rfl⟩ := Option.map_eq_some_iff.mp h
      exact hs.follows (MediatorClient.follows_of_step (fun _ _ h => by cases h) hc)
        fun _ _ h => by cases h
  | take frame i =>
    rw [step] at h
    split at h
    · next m hm =>
      split at h
      · next document hread =>
        obtain ⟨c, hc, rfl⟩ := Option.map_eq_some_iff.mp h
        exact hs.takes (List.mem_of_getElem? hm) hread hc
      · obtain rfl := Option.some.inj h
        exact hs
    · cases h
  | serve c env i =>
    rw [step] at h
    split at h
    · next m hm =>
      obtain rfl := Option.some.inj h
      exact hs.serves hB hpast hok (List.mem_of_getElem? hm)
    · cases h
  | server a =>
    obtain ⟨server, hserver, rfl⟩ := Option.map_eq_some_iff.mp h
    exact hs.grows ⟨fun _ _ h => h, fun _ h => h⟩ rfl rfl
      (Server.composed_step hs.composed hserver) (fun _ h => .inl h) fun _ h => .inl h
  | outsideToServer m =>
    rw [step] at h
    split at h
    · next hsender =>
      obtain rfl := Option.some.inj h
      refine hs.grows ⟨fun _ _ h => h, fun _ h => h⟩ rfl rfl hs.composed (fun m' hm' => ?_)
        fun _ h => .inl h
      rcases List.mem_append.mp hm' with hm' | hm'
      · exact .inl hm'
      · obtain rfl := List.mem_singleton.mp hm'
        exact .inr fun h => absurd h hsender
    · cases h
  | outsideToClient m =>
    rw [step] at h
    split at h
    · next hsender =>
      obtain rfl := Option.some.inj h
      refine hs.grows ⟨fun _ _ h => h, fun _ h => List.mem_append_left _ h⟩ rfl rfl hs.composed
        (fun _ h => .inl h) fun m' hm' => ?_
      rcases List.mem_append.mp hm' with hm' | hm'
      · exact .inl hm'
      · obtain rfl := List.mem_singleton.mp hm'
        exact .inr fun h => absurd h hsender
    · cases h

theorem opened_sound {server : Server σ} (hserver : server.IsComposed) :
    Sound B client specs clientVid R past (opened server) where
  composed := hserver
  asked _ _ h := by cases h
  exchanges _ _ h := by cases h
  distinct _ _ _ _ h := by cases h
  requests _ h := by cases h
  replies _ h := by cases h
  known _ _ h := by cases h
  held _ _ h := by cases h
  value _ _ _ h := by cases h

/-- **What a query returns.**  When an exchange returns a document from which its query
reads a verdict, then this was the verdict on the stored record at some time after the
query was asked, or somebody other than the registry has sent that document. -/
theorem verdict_of_return (hB : B.Answers R client specs clientVid) {server : Server σ}
    (hserver : server.IsComposed) {as : List (QueryAction σ P C)}
    (hrun : Run (step F B client specs clientVid) (Permitted client R) (opened server) as s)
    {n : ℕ} {a : AskedQuery} (ha : s.asked n = some a)
    (hreturn : s.step F B client specs clientVid (.exchange (.own n .receive)) = some s')
    {e : Exchange} (hn : s'.client.exchanges n = some e) {document : TrustTask}
    (hphase : e.phase = .returned (.document document)) {v : Verdict}
    (hv : a.outcome client specs document = .ok v) :
    (∃ u, Passed (step F B client specs clientVid) (Permitted client R) (opened server) as s u ∧
        u.asked n = some a ∧ ∃ found, R.findByQuery u.server.records a.query.query = .ok found ∧
          v.granted = found.any a.kind.answer) ∨
      Foreign B client s document := by
  have hs := hrun.past_invariant (I := fun past s => Sound B client specs clientVid R past s)
    (fun hpast h => h.mono hpast)
    (fun _ _ _ _ hs hpast hok hstep => sound_step hB hs hpast hok hstep) (opened_sound hserver)
  -- the document was in the channel
  have hvalue : ∃ e', s.client.exchanges n = some e' ∧ e'.channel.value = some document := by
    obtain ⟨c, hc, rfl⟩ := Option.map_eq_some_iff.mp hreturn
    simp only [MediatorClient.step, Option.bind_eq_bind, Option.bind_eq_some_iff] at hc
    obtain ⟨e', he', e'', hadvance, hc⟩ := hc
    obtain rfl := Option.some.inj hc
    obtain rfl := Option.some.inj ((MediatorClient.setExchange_self _ _ _).symm.trans hn)
    refine ⟨e', he', ?_⟩
    unfold Exchange.advance at hadvance
    dsimp only at hadvance
    split at hadvance
    · next document' _ hvalue =>
      obtain rfl := Option.some.inj hadvance
      rw [hvalue]
      exact congrArg some (Outcome.document.inj (ExchangePhase.returned.inj hphase))
    · cases hadvance
  obtain ⟨e', he', hvalue⟩ := hvalue
  obtain ⟨b, hb, -, hfrom⟩ := hs.value n e' document he' hvalue
  obtain rfl := Option.some.inj (hb.symm.trans ha)
  obtain ⟨hslug, hread⟩ := AskedQuery.of_outcome (hs.asked n b hb).1 hv
  rcases hfrom with h | ⟨u, hu, hasked, v', found, hfound, hread', hgranted⟩ | h
  · exact absurd h hslug
  · obtain rfl := Except.ok.inj (hread.symm.trans hread')
    exact .inl ⟨u, hu, hasked, found, hfound, hgranted⟩
  · exact .inr h

end Querying

end TrustRegistry
