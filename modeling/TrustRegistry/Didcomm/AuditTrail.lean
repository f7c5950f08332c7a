import TrustRegistry.Didcomm.BaseHandler
import Mathlib.Data.List.Forall2

/-!
# The audit trail of the administration protocol

Messages of the five types are handled one after the other.  Each leaves one entry in
the audit log before its answer is handed over, and sending the answer may fail.

## Main definitions

* `AdminMessage` — a message of one of the five types, as the handler is given it.
* `AdminMessage.run` — the events of handling messages, one after the other.
* `CarriedOut` — the body decodes and the repository does what it asks for.
* `Audited` — an entry that says of a message what there is to say.

## Main results

* `perform_eq_ok_iff` — an operation gives an answer exactly when it is carried out.
* `audited_handled` — one message.
* `audit_trail_complete` — every run.
-/

namespace TrustRegistry

/-! ### What an operation needs -/

/-- The request of an administrator is carried out: its body decodes, what it says is a
record where there must be one, and the repository returns no error. -/
def CarriedOut {σ : Type*} (R : TrustRecordAdminRepository σ) (body : Json) (s : σ) :
    AuditOperation → Prop
  | .create => ∃ request record, RecordRequest.ofJson body = some request ∧
      request.build = .ok record ∧ (R.create s record).1 = .ok ()
  | .update => ∃ request record, RecordRequest.ofJson body = some request ∧
      request.build = .ok record ∧ (R.update s record).1 = .ok ()
  | .delete => ∃ request, TupleRequest.ofJson body = some request ∧
      (R.delete s request.query).1 = .ok ()
  | .read => ∃ request record, TupleRequest.ofJson body = some request ∧
      R.read s request.query = .ok record
  | .list => ∃ records, R.list s = .ok records

namespace AdminMessagesHandler

variable {σ : Type*} {env : DidcommEnv σ}

theorem changed_eq_ok_iff {answer : Json} {r : Except RepositoryError Unit × σ} :
    (∃ body, (changed answer r).1 = .ok body) ↔ r.1 = .ok () := by
  obtain ⟨result, s⟩ := r
  unfold changed
  cases result with
  | ok _ => exact ⟨fun _ => rfl, fun _ => ⟨answer, rfl⟩⟩
  | error e => exact ⟨nofun, nofun⟩

/-- A request with a record in it succeeds when the record can be read and its
operation succeeds. -/
theorem handleRecordRequest_eq_ok_iff (name : String)
    (op : σ → TrustRecord → Except RepositoryError Unit × σ) (body : Json) (s : σ) :
    (∃ answer, (handleRecordRequest env name op body s).1 = .ok answer) ↔
      ∃ request record, RecordRequest.ofJson body = some request ∧
        request.build = .ok record ∧ (op s record).1 = .ok () := by
  unfold handleRecordRequest
  cases hrequest : RecordRequest.ofJson body with
  | none => exact ⟨nofun, nofun⟩
  | some request =>
    dsimp only
    cases hbuild : request.build with
    | error e =>
      refine ⟨nofun, ?_⟩
      rintro ⟨request', record, heq, hbuild', _⟩
      obtain rfl := Option.some.inj heq
      rw [hbuild] at hbuild'
      cases hbuild'
    | ok record =>
      dsimp only
      rw [changed_eq_ok_iff]
      constructor
      · intro hop
        exact ⟨request, record, rfl, hbuild, hop⟩
      · rintro ⟨request', record', heq, hbuild', hop⟩
        obtain rfl := Option.some.inj heq
        rw [hbuild] at hbuild'
        obtain rfl := Except.ok.inj hbuild'
        exact hop

theorem handleDeleteRecord_eq_ok_iff (body : Json) (s : σ) :
    (∃ answer, (handleDeleteRecord env body s).1 = .ok answer) ↔
      ∃ request, TupleRequest.ofJson body = some request ∧
        (env.repository.delete s request.query).1 = .ok () := by
  unfold handleDeleteRecord
  cases TupleRequest.ofJson body with
  | none => exact ⟨nofun, nofun⟩
  | some request =>
    dsimp only
    rw [changed_eq_ok_iff]
    simp

/-- What is read is answered, an error is not. -/
theorem map_mapError_eq_ok_iff {α : Type*} (f : α → Json) (r : Except RepositoryError α) :
    (∃ answer, (r.mapError RepositoryError.display).map f = .ok answer) ↔ ∃ a, r = .ok a := by
  cases r with
  | ok a => exact ⟨fun _ => ⟨a, rfl⟩, fun _ => ⟨f a, rfl⟩⟩
  | error e => exact ⟨nofun, nofun⟩

theorem handleReadRecord_eq_ok_iff (body : Json) (s : σ) :
    (∃ answer, handleReadRecord env body s = .ok answer) ↔
      ∃ request record, TupleRequest.ofJson body = some request ∧
        env.repository.read s request.query = .ok record := by
  unfold handleReadRecord
  cases TupleRequest.ofJson body with
  | none => exact ⟨nofun, nofun⟩
  | some request =>
    dsimp only
    rw [map_mapError_eq_ok_iff]
    simp

variable (env)

/-- **An operation gives an answer exactly when it is carried out.** -/
theorem perform_eq_ok_iff (operation : AuditOperation) (body : Json) (s : σ) :
    (∃ answer, (perform env operation body s).1 = .ok answer) ↔
      CarriedOut env.repository body s operation := by
  cases operation with
  | create => exact handleRecordRequest_eq_ok_iff _ env.repository.create body s
  | update => exact handleRecordRequest_eq_ok_iff _ env.repository.update body s
  | delete => exact handleDeleteRecord_eq_ok_iff body s
  | read => exact handleReadRecord_eq_ok_iff body s
  | list => exact map_mapError_eq_ok_iff _ (env.repository.list s)

/-- The request of an administrator is carried out, noted and answered. -/
theorem handle_of_admin {ctx : HandlerContext} (hsender : ctx.senderDid ∈ env.adminDids)
    {message : Message} {operation : AuditOperation} (htyp : message.typ = operation.messageType)
    (metadata : UnpackMetadata) (s : σ) :
    (handle env ctx message metadata s).1 =
      match (perform env operation message.body s).1 with
      | .ok body => handleSuccess env ctx operation.responseMessageType body operation
          (extractAuditResource message)
      | .error e => handleFailure env ctx e operation (extractAuditResource message) := by
  unfold handle
  rw [validateAdminDid_eq_ok_iff.mpr hsender]
  dsimp only
  unfold handleRequest
  rw [htyp, AuditOperation.ofMessageType_messageType]
  dsimp only
  cases (perform env operation message.body s).1 with
  | ok body => rfl
  | error e => rfl

end AdminMessagesHandler

/-! ### Runs -/

/-- A message of one of the five types with what else the handler meets: the
circumstances, what it is told about the message, and whether its answer can be sent. -/
structure AdminMessage (σ : Type*) where
  env : DidcommEnv σ
  ctx : HandlerContext
  message : Message
  metadata : UnpackMetadata
  delivered : Bool
  supported : message.typ ∈ AdminMessagesHandler.supportedTypes

/-- What happens outside: an entry is logged, or an answer is sent or fails to be. -/
inductive AdminEvent
  | logged (log : AuditLog)
  | sent (message : Message) (delivered : Bool)

/-- The entry that an event logs, if it logs one. -/
def AdminEvent.log : AdminEvent → Option AuditLog
  | logged log => some log
  | sent _ _ => none

/-- The entries that events log. -/
def auditEntries (events : List AdminEvent) : List AuditLog := events.filterMap AdminEvent.log

/-- The events of what a handler does: the entries come first, and that a message cannot
be sent is noted nowhere else. -/
def Effects.events (effects : Effects) (delivered : Bool) : List AdminEvent :=
  effects.audit.map .logged ++ effects.sent.map fun message => .sent message delivered

@[simp] theorem auditEntries_events (effects : Effects) (delivered : Bool) :
    auditEntries (effects.events delivered) = effects.audit := by
  have hlogged : (effects.audit.map AdminEvent.logged).filterMap AdminEvent.log =
      effects.audit := by
    rw [List.filterMap_map]
    exact List.filterMap_some
  have hsent : (effects.sent.map fun message => AdminEvent.sent message delivered).filterMap
      AdminEvent.log = [] := by
    rw [List.filterMap_map]
    exact List.filterMap_eq_nil_iff.mpr fun _ _ => rfl
  rw [auditEntries, Effects.events, List.filterMap_append, hlogged, hsent, List.append_nil]

namespace AdminMessage

variable {σ : Type*} (R : TrustRecordAdminRepository σ) (adminDids : List String)

/-- The handler, over a repository and with a list of administrators, is given the
message. -/
def handled (m : AdminMessage σ) (s : σ) : Effects × σ :=
  AdminMessagesHandler.handle { m.env with repository := R, adminDids } m.ctx m.message m.metadata s

/-- The events of handling messages, one after the other. -/
def run : σ → List (AdminMessage σ) → List AdminEvent
  | _, [] => []
  | s, m :: messages =>
    (m.handled R adminDids s).1.events m.delivered ++
      run (m.handled R adminDids s).2 messages

/-- The messages, each with the state of the repository that it meets. -/
def met : σ → List (AdminMessage σ) → List (σ × AdminMessage σ)
  | _, [] => []
  | s, m :: messages => (s, m) :: met (m.handled R adminDids s).2 messages

end AdminMessage

/-! ### The entries -/

/-- An entry that says of a message, handled in a state, what there is to say: who sent
it, what it asks for, on which thread, and how it ended. -/
structure Audited {σ : Type*} (R : TrustRecordAdminRepository σ) (adminDids : List String) (s : σ)
    (m : AdminMessage σ) (log : AuditLog) : Prop where
  actor : log.actor = m.ctx.senderDid
  operation : m.message.typ = log.operation.messageType
  threadId : log.threadId = m.ctx.thid
  /-- the sender is no administrator -/
  unauthorized : log.status = .unauthorized ↔ m.ctx.senderDid ∉ adminDids
  /-- then the repository has no part in it: with any other one the same happens, and
  the records stay as they are -/
  not_called : m.ctx.senderDid ∉ adminDids →
    (∀ R', m.handled R' adminDids s = m.handled R adminDids s) ∧ (m.handled R adminDids s).2 = s
  /-- otherwise the records that are left are those of the change that is asked for -/
  left : m.ctx.senderDid ∈ adminDids →
    (m.handled R adminDids s).2 = R.callIfAny s (requestedChange m.message)
  /-- and the request is carried out -/
  success : m.ctx.senderDid ∈ adminDids →
    (log.status = .success ↔ CarriedOut R m.message.body s log.operation)
  /-- or it is not -/
  failure : m.ctx.senderDid ∈ adminDids →
    (log.status = .failure ↔ ¬ CarriedOut R m.message.body s log.operation)

namespace AdminMessage

variable {σ : Type*} (R : TrustRecordAdminRepository σ) (adminDids : List String)

/-- A message of one of the five types asks for an operation. -/
theorem exists_operation (m : AdminMessage σ) :
    ∃ operation : AuditOperation, m.message.typ = operation.messageType := by
  obtain ⟨operation, _, htyp⟩ := List.mem_map.mp m.supported
  exact ⟨operation, htyp.symm⟩

/-- A refused message leaves the entry of its refusal. -/
theorem audited_of_not_admin {m : AdminMessage σ} (hsender : m.ctx.senderDid ∉ adminDids) (s : σ) :
    ∃ log, (m.handled R adminDids s).1.audit = [log] ∧ Audited R adminDids s m log := by
  obtain ⟨operation, htyp⟩ := m.exists_operation
  have hhandled : ∀ R', m.handled R' adminDids s = _ := fun R' =>
    AdminMessagesHandler.handle_of_not_admin { m.env with repository := R', adminDids } hsender
      m.message m.metadata s
  refine ⟨_, by rw [hhandled R]; rfl, ?_⟩
  exact
    { actor := rfl
      operation := by
        rw [htyp]
        show operation.messageType = (AuditOperation.getOperationFromMessageType _).messageType
        rw [AuditOperation.getOperationFromMessageType, AuditOperation.ofMessageType_messageType]
        rfl
      threadId := rfl
      unauthorized := ⟨fun _ => hsender, fun _ => rfl⟩
      not_called := fun _ => ⟨fun R' => by rw [hhandled R', hhandled R]; rfl, by rw [hhandled R]⟩
      left := fun hadmin => absurd hadmin hsender
      success := fun hadmin => absurd hadmin hsender
      failure := fun hadmin => absurd hadmin hsender }

/-- The message of an administrator leaves the entry of what came of it. -/
theorem audited_of_admin {m : AdminMessage σ} (hsender : m.ctx.senderDid ∈ adminDids) (s : σ) :
    ∃ log, (m.handled R adminDids s).1.audit = [log] ∧ Audited R adminDids s m log := by
  obtain ⟨operation, htyp⟩ := m.exists_operation
  have hhandled : (m.handled R adminDids s).1 = _ :=
    AdminMessagesHandler.handle_of_admin { m.env with repository := R, adminDids } hsender htyp
      m.metadata s
  have hleft : (m.handled R adminDids s).2 = R.callIfAny s (requestedChange m.message) := by
    have hsnd : (m.handled R adminDids s).2 = _ :=
      AdminMessagesHandler.handle_snd m.ctx m.message m.metadata s
    rwa [if_pos hsender] at hsnd
  have hcarried := AdminMessagesHandler.perform_eq_ok_iff
    { m.env with repository := R, adminDids } operation m.message.body s
  cases hresult : (AdminMessagesHandler.perform { m.env with repository := R, adminDids }
      operation m.message.body s).1 with
  | ok body =>
    rw [hresult] at hhandled hcarried
    refine ⟨_, by rw [hhandled]; rfl, ?_⟩
    have hdone : CarriedOut R m.message.body s operation := hcarried.mp ⟨body, rfl⟩
    exact
      { actor := rfl
        operation := htyp
        threadId := rfl
        unauthorized := ⟨nofun, fun hnot => absurd hsender hnot⟩
        not_called := fun hnot => absurd hsender hnot
        left := fun _ => hleft
        success := fun _ => ⟨fun _ => hdone, fun _ => rfl⟩
        failure := fun _ => ⟨nofun, fun hnot => absurd hdone hnot⟩ }
  | error e =>
    rw [hresult] at hhandled hcarried
    refine ⟨_, by rw [hhandled]; rfl, ?_⟩
    have hnot : ¬ CarriedOut R m.message.body s operation := by
      intro hdone
      obtain ⟨body, hbody⟩ := hcarried.mpr hdone
      cases hbody
    exact
      { actor := rfl
        operation := htyp
        threadId := rfl
        unauthorized := ⟨nofun, fun hno => absurd hsender hno⟩
        not_called := fun hno => absurd hsender hno
        left := fun _ => hleft
        success := fun _ => ⟨nofun, fun hdone => absurd hdone hnot⟩
        failure := fun _ => ⟨fun _ => hnot, fun _ => rfl⟩ }

/-- **Every message leaves exactly one entry**, that of its sender and its request. -/
theorem audited_handled (m : AdminMessage σ) (s : σ) :
    ∃ log, (m.handled R adminDids s).1.audit = [log] ∧ Audited R adminDids s m log := by
  by_cases hsender : m.ctx.senderDid ∈ adminDids
  · exact audited_of_admin R adminDids hsender s
  · exact audited_of_not_admin R adminDids hsender s

/-- **The audit trail is complete**: over any run, whether or not the answers can be sent,
the entries that are logged are those of the messages, one for each and in their order. -/
theorem audit_trail_complete (messages : List (AdminMessage σ)) :
    ∀ s, List.Forall₂ (fun met log => Audited R adminDids met.1 met.2 log)
      (met R adminDids s messages) (auditEntries (run R adminDids s messages)) := by
  induction messages with
  | nil => exact fun _ => .nil
  | cons m messages ih =>
    intro s
    obtain ⟨log, hlog, haudited⟩ := audited_handled R adminDids m s
    have hentries : auditEntries (run R adminDids s (m :: messages)) =
        log :: auditEntries (run R adminDids (m.handled R adminDids s).2 messages) := by
      rw [run, auditEntries, List.filterMap_append, ← auditEntries, auditEntries_events, hlog,
        List.singleton_append, ← auditEntries]
    rw [hentries]
    exact .cons haudited (ih _)

/-- A message of a sender that asks to create the record of a stranger. -/
def create (sender : String) (delivered : Bool) : AdminMessage LocalStorage where
  env := sampleDidcommEnv
  ctx := ⟨sender, some "m-1", none⟩
  message := plaintextCreate (some sender)
  metadata := plaintext
  delivered
  supported := List.mem_map_of_mem (a := AuditOperation.create) (by decide)

/-- The entries of a run in which the record is refused to a stranger, created, and refused
as one that exists with an answer that cannot be sent. -/
theorem creations_audited :
    let messages := [create "did:web:stranger" true, create "did:web:admin" true,
      create "did:web:admin" false]
    let entries := auditEntries (run LocalStorage.repository ["did:web:admin"] .new messages)
    entries.map AuditLog.status = [.unauthorized, .success, .failure] ∧
      List.Forall₂ (fun met log => Audited LocalStorage.repository ["did:web:admin"] met.1 met.2 log)
        (met LocalStorage.repository ["did:web:admin"] .new messages) entries :=
  ⟨by decide, audit_trail_complete _ _ _ _⟩

end AdminMessage

end TrustRegistry
