import TrustRegistry.Didcomm.BaseHandler
import TrustRegistry.Http.Trqp
import TrustRegistry.Storage.Aliasing
import TrustRegistry.Storage.BackendsAgree

/-!
# The surfaces of the trust queries agree

A trust query comes in over REST, as a DIDComm message, or as a Trust Task.  The
first two answer with the record, the last with a verdict, and each has its own
way to say that there is none.  They all look the record up by its storage key, so
they are as right about the tuple as that key tells it from others.

## Main definitions

* `TrqpQueryKind` — the two queries, and what each surface answers.
* `TrqpQueryKind.restVerdict`, … — the verdict that a caller reads from an answer.
* `TrqpAgreement` — every surface gives a verdict.
* `TrqpFrame` — what a caller's context has no part in.
* `Unaliased` — no other tuple's yes is stored under the key of the tuple.

## Main results

* `trqp_surfaces_agree` — the surfaces give one verdict, and it is that of the
  tuple's own record exactly when the tuple is not aliased.
* `alias_answers_yes` — a grant of one tuple is every surface's answer about another.
-/

namespace TrustRegistry

/-- A trust query. -/
inductive TrqpQueryKind
  | authorization
  | recognition
  deriving DecidableEq

/-- The four identifiers in a document. -/
def identifiers (j : Json) : List (Option Json) :=
  ["entity_id", "authority_id", "action", "resource"].map j.get

/-- The identifiers of a tuple, as a document has them. -/
def TrustRecordQuery.identifiers (q : TrustRecordQuery) : List (Option Json) :=
  [some (.str q.entityId.asStr), some (.str q.authorityId.asStr), some (.str q.action.asStr),
    some (.str q.resource.asStr)]

/-- What the generated payload types write of a verdict, and that an answer
carries its payload. -/
structure Framework.WritesVerdicts (F : Framework) : Prop where
  payload : ∀ doc id j, (F.respondWith doc id j).payload = j
  recognition : ∀ v, ∃ j, F.specs.recognitionResponse v = .ok j ∧
    j.get "recognized" = some (.bool v.granted) ∧ identifiers j = (queryOf v.query).identifiers
  authorization : ∀ v, ∃ j, F.specs.authorizationResponse v = .ok j ∧
    j.get "authorized" = some (.bool v.granted) ∧ identifiers j = (queryOf v.query).identifiers

namespace TrqpQueryKind

/-! ### The surfaces -/

/-- The flag that answers the query. -/
def answer : TrqpQueryKind → TrustRecord → Bool
  | authorization => TrustRecord.isAuthorized
  | recognition => TrustRecord.isRecognized

/-- The name of the flag. -/
def flag : TrqpQueryKind → String
  | authorization => "authorized"
  | recognition => "recognized"

/-- The other query. -/
def other : TrqpQueryKind → TrqpQueryKind
  | authorization => recognition
  | recognition => authorization

/-- The record without the answer to the other query. -/
def strip : TrqpQueryKind → TrustRecord → TrustRecord
  | authorization => TrustRecord.noneRecognized
  | recognition => TrustRecord.noneAuthorized

/-- The type of the DIDComm message that asks. -/
def messageType : TrqpQueryKind → String
  | authorization => TRQPMessagesHandler.queryAuthorizationMessageType
  | recognition => TRQPMessagesHandler.queryRecognitionMessageType

section

variable {σ : Type*} (F : Framework) (env : DidcommEnv σ) (k : TrqpQueryKind)

/-- The REST answer to a body. -/
def rest (body : Json) (s : σ) : HttpResponse :=
  let payload := InputDto.extract env.decodeError body
  trqpResponse <| match k with
    | authorization =>
      handleTrqpAuthorization env.repository env.rfc3339 env.now env.completedAt payload s
    | recognition =>
      handleTrqpRecognition env.repository env.rfc3339 env.now env.completedAt payload s

/-- The answer to a Trust Task. -/
def task (R : TrustRecordAdminRepository σ) (newId : String) (now : ℤ) (doc : TrustTask)
    (p : QueryPayload) (s : σ) : TaskOutcome :=
  match k with
  | authorization => handleAuthorization F R newId now doc p s
  | recognition => handleRecognition F R newId now doc p s

/-- The verdict in a document; a missing one reads as no. -/
def bodyVerdict (j : Json) : Bool := ((j.get k.flag).bind Json.asBool).getD false

/-- The verdict in a REST answer; 404 reads as no. -/
def restVerdict (response : HttpResponse) : Bool :=
  if response.status = 404 then false else k.bodyVerdict response.body

/-- The body of the message that is sent. -/
def sentBody (effects : Effects) : Json := effects.sent.head?.elim .null Message.body

/-- The verdict in a DIDComm answer. -/
def didcommVerdict (effects : Effects) : Bool := k.bodyVerdict (sentBody effects)

/-- The document of an answer. -/
def taskPayload : TaskOutcome → Json
  | .ok doc => doc.payload
  | .error _ => .null

/-- The verdict in the answer to a Trust Task. -/
def taskVerdict (outcome : TaskOutcome) : Bool := k.bodyVerdict (taskPayload outcome)

end

/-! ### The record in an answer -/

/-- The members of an answer with a record. -/
def answerMembers (k : TrqpQueryKind) (r : TrustRecord) (requested evaluated message : String) :
    Json :=
  OutputDto.toJson ⟨k.strip r, requested, evaluated, message⟩

section

variable (k : TrqpQueryKind) (r : TrustRecord) (requested evaluated message : String)

theorem bodyVerdict_answerMembers :
    k.bodyVerdict (k.answerMembers r requested evaluated message) = k.answer r := by
  obtain ⟨e, a, ac, re, recognized, authorized, c, t⟩ := r
  cases k with
  | authorization =>
    cases authorized with
    | none => rfl
    | some b => rfl
  | recognition =>
    cases recognized with
    | none => rfl
    | some b => rfl

theorem identifiers_answerMembers :
    identifiers (k.answerMembers r requested evaluated message) = r.query.identifiers := by
  cases k <;> rfl

/-- The answer to the other query is not there. -/
theorem get_other_answerMembers :
    (k.answerMembers r requested evaluated message).get k.other.flag = none := by
  obtain ⟨e, a, ac, re, recognized, authorized, c, t⟩ := r
  cases k with
  | authorization =>
    cases authorized with
    | none => rfl
    | some b => rfl
  | recognition =>
    cases recognized with
    | none => rfl
    | some b => rfl

/-- Where the context of the record stands. -/
theorem answerMembers_context : ∃ before after, ∀ c : Context,
    k.answerMembers { r with context := c } requested evaluated message =
      .obj (before ++ ("context", c.value) :: after) := by
  refine ⟨[("entity_id", .str r.entityId.asStr), ("authority_id", .str r.authorityId.asStr),
      ("action", .str r.action.asStr), ("resource", .str r.resource.asStr)]
      ++ (k.strip r).recognized.toList.map (fun b => ("recognized", .bool b))
      ++ (k.strip r).authorized.toList.map (fun b => ("authorized", .bool b)),
    [("record_type", .str r.recordType.display), ("time_requested", .str requested),
      ("time_evaluated", .str evaluated), ("message", .str message)], fun c => ?_⟩
  rw [answerMembers, OutputDto.toJson]
  cases k <;> simp [TrustRecord.toJson, strip, TrustRecord.noneRecognized,
    TrustRecord.noneAuthorized]

/-- The context of the record is in the member of that name and in no other. -/
theorem get_answerMembers_context {name : String} (hname : name ≠ "context") (c c' : Context) :
    (k.answerMembers { r with context := c } requested evaluated message).get name =
      (k.answerMembers { r with context := c' } requested evaluated message).get name := by
  obtain ⟨before, after, h⟩ := answerMembers_context k r requested evaluated message
  rw [h, h, Json.get, Json.get, member_append_cons_of_ne (Ne.symm hname),
    member_append_cons_of_ne (Ne.symm hname)]

end

/-! ### What each surface answers -/

section

variable (k : TrqpQueryKind) {σ : Type*} {F : Framework} {env : DidcommEnv σ} {s : σ}
  {q : TrustRecordQuery} {found : Option TrustRecord}

/-- The text of an answer about a record. -/
def messageText : TrqpQueryKind → TrustRecord → String
  | authorization => TRQPMessagesHandler.messageText true
  | recognition => TRQPMessagesHandler.messageText false

/-- What REST answers. -/
theorem rest_eq (hfound : env.repository.findByQuery s q = .ok found) {body : Json}
    {input : InputDto} (hbody : InputDto.ofJson body = some input)
    (hinput : .fromIds input.ids = q) :
    k.rest env body s = found.elim (AppError.notFound none).intoResponse fun r =>
      ⟨200, k.answerMembers
        { r with context := input.context.elim r.context r.context.merge }
        (env.rfc3339 env.now) (env.rfc3339 env.completedAt) (k.messageText r)⟩ := by
  have hextract : InputDto.extract env.decodeError body = .ok input := by
    rw [InputDto.extract, hbody]
  unfold rest handleTrqpAuthorization handleTrqpRecognition answerTrqp handleTrqp
  rw [hextract]
  simp only [hinput, hfound]
  cases found with
  | none => cases k <;> rfl
  | some r => cases input.context <;> cases k <;> rfl

/-- What DIDComm answers. -/
theorem didcomm_eq (hfound : env.repository.findByQuery s q = .ok found) {ctx : HandlerContext}
    {msg : Message} {request : TupleRequest} (htyp : msg.typ = k.messageType)
    (hbody : TupleRequest.ofJson msg.body = some request) (hrequest : request.query = q) :
    sentBody (TRQPMessagesHandler.handle env ctx msg s) = found.elim (.obj []) fun r =>
      k.answerMembers r (env.rfc3339 env.now) (env.rfc3339 env.completedAt) (k.messageText r) := by
  unfold TRQPMessagesHandler.handle
  rw [hbody]
  simp only [hrequest, hfound, htyp]
  cases found with
  | none => rfl
  | some r => cases k <;> rfl

/-- How the answer to a Trust Task is written. -/
def writeVerdict (specs : Specs) : TrqpQueryKind → Verdict → Except String Json
  | authorization => specs.authorizationResponse
  | recognition => specs.recognitionResponse

/-- A Trust Task is answered with a verdict about its tuple. -/
theorem task_respond (F : Framework) {R : TrustRecordAdminRepository σ} (newId : String) (now : ℤ)
    (doc : TrustTask) {p : QueryPayload} (hfound : R.findByQuery s (queryOf p) = .ok found) :
    ∃ v : Verdict, v.granted = found.any k.answer ∧ v.query = p ∧
      k.task F R newId now doc p s = respond F newId doc (k.writeVerdict F.specs v) := by
  cases k with
  | authorization =>
    refine ⟨_, ?_, rfl, by rw [task, handleAuthorization, handleQuery, hfound]; rfl⟩
    cases found <;> rfl
  | recognition =>
    refine ⟨_, ?_, rfl, by rw [task, handleRecognition, handleQuery, hfound]; rfl⟩
    cases found <;> rfl

theorem writeVerdict_eq (hF : F.WritesVerdicts) (v : Verdict) :
    ∃ j, k.writeVerdict F.specs v = .ok j ∧ j.get k.flag = some (.bool v.granted) ∧
      identifiers j = (queryOf v.query).identifiers := by
  cases k with
  | authorization => exact hF.authorization v
  | recognition => exact hF.recognition v

/-- What a Trust Task is answered with. -/
theorem task_eq (hF : F.WritesVerdicts) (hfound : env.repository.findByQuery s q = .ok found)
    (newId : String) (now : ℤ) (doc : TrustTask) {p : QueryPayload} (hp : queryOf p = q) :
    k.taskVerdict (k.task F env.repository newId now doc p s) = found.any k.answer ∧
      identifiers (taskPayload (k.task F env.repository newId now doc p s)) = q.identifiers := by
  subst hp
  obtain ⟨v, hgranted, hquery, htask⟩ := k.task_respond F newId now doc hfound
  obtain ⟨j, hj, hflag, hids⟩ := k.writeVerdict_eq hF v
  rw [htask, hj, respond, taskVerdict, taskPayload, hF.payload, bodyVerdict, hflag, hids, hquery,
    ← hgranted]
  exact ⟨rfl, rfl⟩

end

end TrqpQueryKind

/-! ### Agreement -/

section

variable {σ : Type*} (F : Framework) (env : DidcommEnv σ) (s : σ) (q : TrustRecordQuery)
  (k : TrqpQueryKind)

open TrqpQueryKind

/-- Every surface answers a query about the tuple with the verdict, whatever else
the request holds. -/
structure TrqpAgreement (verdict : Bool) : Prop where
  rest : ∀ body input, InputDto.ofJson body = some input → .fromIds input.ids = q →
    k.restVerdict (k.rest env body s) = verdict
  didcomm : ∀ ctx message request, message.typ = k.messageType →
    TupleRequest.ofJson message.body = some request → request.query = q →
    k.didcommVerdict (TRQPMessagesHandler.handle env ctx message s) = verdict
  task : ∀ newId now doc p, queryOf p = q →
    k.taskVerdict (k.task F env.repository newId now doc p s) = verdict

/-- What the rest of a request has no part in.  Over REST two requests about the
tuple get the same status and the same members, the context apart; over DIDComm
they get the same body.  The identifiers are those of the record that was found,
or the tuple itself in a Trust Task, and the flag that answers the other query is
in no answer. -/
structure TrqpFrame (found : Option TrustRecord) : Prop where
  restContext : ∀ body body' input input', InputDto.ofJson body = some input →
    InputDto.ofJson body' = some input' → .fromIds input.ids = q → .fromIds input'.ids = q →
    (k.rest env body s).status = (k.rest env body' s).status ∧
      ∀ name, name ≠ "context" →
        (k.rest env body s).body.get name = (k.rest env body' s).body.get name
  restIdentifiers : ∀ body input, InputDto.ofJson body = some input → .fromIds input.ids = q →
    ∀ r, found = some r → identifiers (k.rest env body s).body = r.query.identifiers
  restOther : ∀ body input, InputDto.ofJson body = some input → .fromIds input.ids = q →
    (k.rest env body s).body.get k.other.flag = none
  didcommContext : ∀ ctx ctx' message message' request request', message.typ = k.messageType →
    message'.typ = k.messageType → TupleRequest.ofJson message.body = some request →
    TupleRequest.ofJson message'.body = some request' → request.query = q → request'.query = q →
    sentBody (TRQPMessagesHandler.handle env ctx message s)
      = sentBody (TRQPMessagesHandler.handle env ctx' message' s)
  didcommIdentifiers : ∀ ctx message request, message.typ = k.messageType →
    TupleRequest.ofJson message.body = some request → request.query = q → ∀ r, found = some r →
    identifiers (sentBody (TRQPMessagesHandler.handle env ctx message s)) = r.query.identifiers
  didcommOther : ∀ ctx message request, message.typ = k.messageType →
    TupleRequest.ofJson message.body = some request → request.query = q →
    (sentBody (TRQPMessagesHandler.handle env ctx message s)).get k.other.flag = none
  taskIdentifiers : ∀ newId now doc p, queryOf p = q →
    identifiers (taskPayload (k.task F env.repository newId now doc p s)) = q.identifiers

variable {F env s q}

theorem trqpAgreement_of_found (hF : F.WritesVerdicts) {found : Option TrustRecord}
    (hfound : env.repository.findByQuery s q = .ok found) :
    TrqpAgreement F env s q k (found.any k.answer) where
  rest body input hbody hinput := by
    rw [k.rest_eq hfound hbody hinput]
    cases found with
    | none => rfl
    | some r =>
      show (if (200 : ℕ) = 404 then false else k.bodyVerdict (k.answerMembers _ _ _ _)) = _
      rw [if_neg (by decide), bodyVerdict_answerMembers]
      cases k <;> rfl
  didcomm ctx message request htyp hbody hrequest := by
    rw [didcommVerdict, k.didcomm_eq hfound htyp hbody hrequest]
    cases found with
    | none => cases k <;> rfl
    | some r => rw [Option.elim_some, bodyVerdict_answerMembers, Option.any_some]
  task newId now doc p hp := (k.task_eq hF hfound newId now doc hp).1

theorem trqpFrame_of_found (hF : F.WritesVerdicts) {found : Option TrustRecord}
    (hfound : env.repository.findByQuery s q = .ok found) : TrqpFrame F env s q k found where
  restContext body body' input input' hbody hbody' hinput hinput' := by
    rw [k.rest_eq hfound hbody hinput, k.rest_eq hfound hbody' hinput']
    cases found with
    | none => exact ⟨rfl, fun _ _ => rfl⟩
    | some r => exact ⟨rfl, fun name hname => get_answerMembers_context k r _ _ _ hname _ _⟩
  restIdentifiers body input hbody hinput r hr := by
    rw [k.rest_eq hfound hbody hinput, hr]
    exact identifiers_answerMembers k _ _ _ _
  restOther body input hbody hinput := by
    rw [k.rest_eq hfound hbody hinput]
    cases found with
    | none => cases k <;> rfl
    | some r => exact get_other_answerMembers k _ _ _ _
  didcommContext ctx ctx' message message' request request' htyp htyp' hbody hbody' hq hq' := by
    rw [k.didcomm_eq hfound htyp hbody hq, k.didcomm_eq hfound htyp' hbody' hq']
  didcommIdentifiers ctx message request htyp hbody hrequest r hr := by
    rw [k.didcomm_eq hfound htyp hbody hrequest, hr]
    exact identifiers_answerMembers k r _ _ _
  didcommOther ctx message request htyp hbody hrequest := by
    rw [k.didcomm_eq hfound htyp hbody hrequest]
    cases found with
    | none => rfl
    | some r => exact get_other_answerMembers k r _ _ _
  taskIdentifiers newId now doc p hp := (k.task_eq hF hfound newId now doc hp).2

/-- Some request about the tuple can be made, so the verdict is one. -/
theorem TrqpAgreement.unique {k : TrqpQueryKind} {v w : Bool} (hv : TrqpAgreement F env s q k v)
    (hw : TrqpAgreement F env s q k w) : v = w := by
  let p : QueryPayload :=
    ⟨q.entityId.asStr, q.authorityId.asStr, q.action.asStr, q.resource.asStr, none⟩
  rw [← hv.task "" 0 sampleCreate p rfl, hw.task "" 0 sampleCreate p rfl]

section

variable {ε K : Type} [DecidableEq K] {view : RepositoryError → ε}
  {R : TrustRecordAdminRepository σ} {key : TrustRecordKey → K}
  {lookup : σ → K → Option TrustRecord} {Inv : σ → Prop}

/-- In a backend that keeps a table under its own keys, a record is listed when it is
what its key has. -/
theorem TableBacked.mem_list_iff (h : TableBacked view R key lookup Inv) (hs : Inv s)
    (hkeyed : ∀ j r, lookup s j = some r → key (.fromRecord r) = j) :
    ∃ l, R.list s = .ok l ∧ ∀ r, r ∈ l ↔ lookup s (key (.fromRecord r)) = some r := by
  obtain ⟨l, hl, henum⟩ := h.listed s hs
  refine ⟨l, hl, fun r => ?_⟩
  rw [henum.mem_iff]
  constructor
  · rintro ⟨j, hj⟩
    rwa [hkeyed j r hj]
  · exact fun hr => ⟨_, hr⟩

/-- A listed record with a property, under the key of the tuple, is one that the lookup
finds. -/
theorem TableBacked.find_any_iff (h : TableBacked view R key lookup Inv) (hs : Inv s)
    (hkeyed : ∀ j r, lookup s j = some r → key (.fromRecord r) = j)
    {found : Option TrustRecord} (hfound : R.findByQuery s q = .ok found) {l : List TrustRecord}
    (hmem : ∀ r, r ∈ l ↔ lookup s (key (.fromRecord r)) = some r) (p : TrustRecord → Bool) :
    found.any p = true ↔ ∃ r ∈ l, key (.fromRecord r) = key (.fromQuery q) ∧ p r = true := by
  have hlookup : found = lookup s (key (.fromQuery q)) :=
    Except.ok.inj (hfound.symm.trans (h.found s q hs))
  rw [hlookup, Option.any_eq_true]
  constructor
  · rintro ⟨r, hr, hp⟩
    have hkey := hkeyed _ r hr
    exact ⟨r, (hmem r).mpr (hkey.symm ▸ hr), hkey, hp⟩
  · rintro ⟨r, hr, hkey, hp⟩
    exact ⟨r, hkey ▸ (hmem r).mp hr, hp⟩

end

/-- **Nobody else's yes**: a record that is stored under the key of the tuple, with the
flag of the query set, is a record of the tuple. -/
def Unaliased {K : Type} (key : TrustRecordKey → K) (l : List TrustRecord) (q : TrustRecordQuery)
    (k : TrqpQueryKind) : Prop :=
  ∀ r ∈ l, key (.fromRecord r) = key (.fromQuery q) → k.answer r = true →
    TrustRecordKey.fromRecord r = .fromQuery q

/-- A record of the tuple is stored with the flag of the query set. -/
def Answered (l : List TrustRecord) (q : TrustRecordQuery) (k : TrqpQueryKind) : Prop :=
  ∃ r ∈ l, TrustRecordKey.fromRecord r = .fromQuery q ∧ k.answer r = true

/-- A tuple free of `#` is not aliased in a string-keyed backend, whatever it stores. -/
theorem unaliased_of_hashFree {l : List TrustRecord} (hq : (TrustRecordKey.fromQuery q).HashFree) :
    Unaliased TrustRecordKey.sk l q k :=
  fun _ _ hkey _ => TrustRecordKey.sk_determines_iff.mpr hq _ hkey

/-- **The surfaces of the trust queries agree.**  Where the lookup of a tuple does
not fail, REST, DIDComm and Trust Tasks give one verdict, the flag of the record
that was found, and the context of the caller has a part neither in it nor in the
identifiers.  Over a backend that keeps a table the verdict is yes exactly when a
record is stored under the tuple's key with the flag set; that is a record of the
tuple itself exactly when the tuple is not aliased. -/
theorem trqp_surfaces_agree (hF : F.WritesVerdicts) {found : Option TrustRecord}
    (hfound : env.repository.findByQuery s q = .ok found) :
    TrqpAgreement F env s q k (found.any k.answer) ∧ TrqpFrame F env s q k found ∧
      ∀ (ε K : Type) (_ : DecidableEq K) (view : RepositoryError → ε) (key : TrustRecordKey → K)
        (lookup : σ → K → Option TrustRecord) (Inv : σ → Prop),
        TableBacked view env.repository key lookup Inv → Inv s →
        (∀ j r, lookup s j = some r → key (.fromRecord r) = j) →
        ∃ l, env.repository.list s = .ok l ∧
          (found.any k.answer = true ↔
            ∃ r ∈ l, key (.fromRecord r) = key (.fromQuery q) ∧ k.answer r = true) ∧
          ((∃ verdict, TrqpAgreement F env s q k verdict ∧ (verdict = true ↔ Answered l q k)) ↔
            Unaliased key l q k) := by
  have hagree := trqpAgreement_of_found k hF hfound
  refine ⟨hagree, trqpFrame_of_found k hF hfound, ?_⟩
  intro ε K _ view key lookup Inv hmap hs hkeyed
  obtain ⟨l, hl, hmem⟩ := hmap.mem_list_iff hs hkeyed
  have hany := hmap.find_any_iff hs hkeyed hfound hmem k.answer
  refine ⟨l, hl, hany, ?_, fun hunaliased => ⟨_, hagree, hany.trans ⟨?_, ?_⟩⟩⟩
  · rintro ⟨verdict, hverdict, hiff⟩ r hr hkey hyes
    obtain rfl := hverdict.unique hagree
    obtain ⟨r', hr', hown, -⟩ := hiff.mp (hany.mpr ⟨r, hr, hkey, hyes⟩)
    -- one key has one record
    have hsame : some r = some r' := by
      rw [← (hmem r).mp hr, ← (hmem r').mp hr', hkey, hown]
    rwa [Option.some.inj hsame]
  · rintro ⟨r, hr, hkey, hyes⟩
    exact ⟨r, hr, hunaliased r hr hkey hyes, hyes⟩
  · rintro ⟨r, hr, hown, hyes⟩
    exact ⟨r, hr, congrArg key hown, hyes⟩

end

/-- Payload types that write the tuple next to the verdict. -/
def tupleFramework : Framework :=
  let write name (v : Verdict) : Except String Json :=
    .ok (.obj [("entity_id", .str v.query.entityId), ("authority_id", .str v.query.authorityId),
      ("action", .str v.query.action), ("resource", .str v.query.resource),
      (name, .bool v.granted)])
  { createFramework with
    specs :=
      { Framework.sampleSpecs with
        recognitionResponse := write "recognized"
        authorizationResponse := write "authorized" } }

theorem tupleFramework_writesVerdicts : tupleFramework.WritesVerdicts where
  payload _ _ _ := rfl
  recognition _ := ⟨_, rfl, rfl, rfl⟩
  authorization _ := ⟨_, rfl, rfl, rfl⟩

/-- The environment of a registry over the embedded backend. -/
def fjallEnv : DidcommEnv FjallStorage where
  repository := FjallStorage.repository (.working fun _ => "")
  ourDid := sampleDidcommEnv.ourDid
  adminDids := sampleDidcommEnv.adminDids
  newId := sampleDidcommEnv.newId
  now := sampleDidcommEnv.now
  completedAt := sampleDidcommEnv.completedAt
  save := sampleDidcommEnv.save
  verifyJson := sampleDidcommEnv.verifyJson
  rotateDid := none
  rfc3339 := sampleDidcommEnv.rfc3339
  decodeError := sampleDidcommEnv.decodeError

/-- A record that says nothing about recognition. -/
def authorizedRecord : TrustRecord :=
  { CsvText.plainRecord with recognized := none, authorized := some true }

/-- The creation of that record beside one of an aliased tuple. -/
def createBoth : List RepositoryCall :=
  [.change (.create authorizedRecord), .change (.create (StringKeyed.sampleRecord fragmentKey))]

/-- A record that says nothing about recognition gets no there, and yes to the
other query, on every surface, whatever else is stored. -/
theorem authorized_record_surfaces_agree :
    let s := fjallEnv.repository.after .new createBoth
    let stored := [authorizedRecord, StringKeyed.sampleRecord fragmentKey]
    fjallEnv.repository.list s = .ok stored ∧
      TrqpAgreement tupleFramework fjallEnv s authorizedRecord.query .authorization true ∧
      Answered stored authorizedRecord.query .authorization ∧
      TrqpAgreement tupleFramework fjallEnv s authorizedRecord.query .recognition false ∧
      ¬ Answered stored authorizedRecord.query .recognition := by
  intro s stored
  have hF := tupleFramework_writesVerdicts
  have hmap := (@FjallStorage.mapBacked fun _ => "").tableBacked
  have hs : s.Coded := (FjallStorage.mapBacked.run FjallStorage.coded_new createBoth).1
  have hfound : fjallEnv.repository.findByQuery s authorizedRecord.query
      = .ok (some authorizedRecord) := by decide
  obtain ⟨-, -, hauthorized⟩ := trqp_surfaces_agree .authorization hF hfound
  obtain ⟨-, -, hrecognized⟩ := trqp_surfaces_agree .recognition hF hfound
  obtain ⟨l, hl, -, hverdict⟩ := hauthorized _ _ _ _ _ _ _ hmap hs fun _ _ => hs.keyed
  obtain ⟨l', hl', -, hverdict'⟩ := hrecognized _ _ _ _ _ _ _ hmap hs fun _ _ => hs.keyed
  have hfree : (TrustRecordKey.fromQuery authorizedRecord.query).HashFree := by decide
  obtain ⟨v, hv, hiff⟩ := hverdict.mpr (unaliased_of_hashFree _ hfree)
  obtain ⟨w, hw, hiff'⟩ := hverdict'.mpr (unaliased_of_hashFree _ hfree)
  have hlist : fjallEnv.repository.list s = .ok stored := rfl
  obtain rfl := Except.ok.inj (hl.symm.trans hlist)
  obtain rfl := Except.ok.inj (hl'.symm.trans hlist)
  obtain rfl := hv.unique (trqpAgreement_of_found .authorization hF hfound)
  obtain rfl := hw.unique (trqpAgreement_of_found .recognition hF hfound)
  exact ⟨rfl, hv, hiff.mp rfl, hw, fun h => Bool.false_ne_true (hiff'.mpr h)⟩

/-- **A grant of one tuple answers for another.**  The record of a tuple with a `#` is
all there is, and every surface says yes to both queries about the tuple that has the
same string form. -/
theorem alias_answers_yes :
    let s := fjallEnv.repository.after .new
      [.change (.create (StringKeyed.sampleRecord fragmentKey))]
    fjallEnv.repository.list s = .ok [StringKeyed.sampleRecord fragmentKey] ∧
      fragmentKey ≠ shiftedKey ∧
      ∀ k, TrqpAgreement tupleFramework fjallEnv s shiftedKey.query k true ∧
        ¬ Answered [StringKeyed.sampleRecord fragmentKey] shiftedKey.query k := by
  intro s
  have hfound : fjallEnv.repository.findByQuery s shiftedKey.query
      = .ok (some (StringKeyed.sampleRecord fragmentKey)) := rfl
  refine ⟨rfl, by decide, fun k => ⟨?_, ?_⟩⟩
  · have hagree := trqpAgreement_of_found k tupleFramework_writesVerdicts hfound
    cases k <;> exact hagree
  · rintro ⟨r, hr, hown, -⟩
    obtain rfl := List.mem_singleton.mp hr
    exact absurd hown (by decide)

end TrustRegistry
