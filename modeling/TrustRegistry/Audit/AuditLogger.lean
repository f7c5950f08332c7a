import TrustRegistry.Didcomm.AdminMessages
import TrustRegistry.Domain.MergeLaws
import TrustRegistry.Lib.Delimited
import Mathlib.Data.List.TakeWhile

/-!
# The JSON audit log

An entry of the audit log is written as one JSON object.  What an entry says of a
failure or a refusal is a single text, the name of a member and its value with an equals
sign between them; it is split at every equals sign, and the first two pieces are
written.

## Main definitions

* `EmitInput`, `emitJson` — the writer; it has no result where it panics.
* `AuditLog.written` — what is written of an entry.
* `Holds` — an object has the fields of an entry.
* `KeepsReason` — what is written has the fields and, under a name, a whole text.

## Main results

* `written_eq` — every entry about a failure or a refusal is written, with its fields,
  and its text up to the first equals sign.
* `keeps_reasons_iff` — exactly when the text is written whole.
-/

namespace TrustRegistry

/-! ### The writer -/

/-- The role under which entries are written. -/
def auditRoleAdmin : String := "ADMIN"

/-- What is written for a value that is not there. -/
def notAvailable : String := "N/A"

/-- The text of a status. -/
def AuditStatus.display : AuditStatus → String
  | success => "SUCCESS"
  | failure => "FAILURE"
  | unauthorized => "UNAUTHORIZED"

/-- The text of an operation, which is also its JSON form. -/
def AuditOperation.display : AuditOperation → String
  | create => "CREATE"
  | update => "UPDATE"
  | delete => "DELETE"
  | read => "READ"
  | list => "LIST"

/-- What the writer is given. -/
structure EmitInput where
  target : String
  operation : AuditOperation
  actor : String
  status : String
  resource : AuditResource
  extra : Option String
  threadId : Option String
  timestamp : ℤ
  deriving DecidableEq

/-- The writer is given an entry with the text of its status. -/
def AuditLog.emitInput (log : AuditLog) : EmitInput where
  target := log.target
  operation := log.operation
  actor := log.actor
  status := log.status.display
  resource := log.resource
  extra := log.extra
  threadId := log.threadId
  timestamp := log.timestamp

/-- The identifiers of an entry as they are written. -/
def resourceJsonValue (resource : AuditResource) : Json :=
  .obj [("entity_id", .str ((resource.entityId.map EntityId.asStr).getD notAvailable)),
    ("authority_id", .str ((resource.authorityId.map AuthorityId.asStr).getD notAvailable)),
    ("action", .str ((resource.action.map Action.asStr).getD notAvailable)),
    ("resource", .str ((resource.resource.map Resource.asStr).getD notAvailable))]

/-- The first two pieces of a text between its equals signs.  A text without one is out
of range. -/
def splitExtra (extra : String) : Option (String × String) :=
  match extra.toList.splitOn '=' with
  | key :: value :: _ => some (String.ofList key, String.ofList value)
  | _ => none

/-- The members that are written first. -/
def EmitInput.commonMembers (input : EmitInput) : List (String × Json) :=
  let map := insertMember "role" (.str auditRoleAdmin) []
  let map := insertMember "actor" (.str input.actor) map
  let map := insertMember "operation" (.str input.operation.display) map
  let map := insertMember "status" (.str input.status) map
  insertMember "resource" (resourceJsonValue input.resource) map

/-- Write an entry. -/
def emitJson (rfc3339 : ℤ → String) (input : EmitInput) : Option Json := do
  let map := input.commonMembers
  let map ← match input.extra with
    | none => some map
    | some extra => (splitExtra extra).map fun ex => insertMember ex.1 (.str ex.2) map
  let map := insertMember "timestamp" (.str (rfc3339 input.timestamp)) map
  let map := insertMember "thread_id" (.str (input.threadId.getD notAvailable)) map
  return .obj map

/-- What is written of an entry. -/
def AuditLog.written (rfc3339 : ℤ → String) (log : AuditLog) : Option Json :=
  emitJson rfc3339 log.emitInput

/-! ### What is to be written -/

/-- The object has the fields of the entry. -/
structure Holds (rfc3339 : ℤ → String) (log : AuditLog) (j : Json) : Prop where
  role : j.get "role" = some (.str auditRoleAdmin)
  actor : j.get "actor" = some (.str log.actor)
  operation : j.get "operation" = some (.str log.operation.display)
  status : j.get "status" = some (.str log.status.display)
  resource : j.get "resource" = some (resourceJsonValue log.resource)
  timestamp : j.get "timestamp" = some (.str (rfc3339 log.timestamp))
  threadId : j.get "thread_id" = some (.str (log.threadId.getD notAvailable))

/-- The entry is written, with its fields and with a whole text under a name. -/
def KeepsReason (rfc3339 : ℤ → String) (log : AuditLog) (name text : String) : Prop :=
  ∃ j, log.written rfc3339 = some j ∧ Holds rfc3339 log j ∧ j.get name = some (.str text)

/-! ### What is written -/

/-- The text up to its first equals sign. -/
def beforeEquals (text : String) : String := String.ofList (text.toList.takeWhile (· ≠ '='))

theorem beforeEquals_eq_iff {text : String} : beforeEquals text = text ↔ '=' ∉ text.toList := by
  have hlist : beforeEquals text = text ↔
      text.toList.takeWhile (fun c => decide (c ≠ '=')) = text.toList := by
    constructor
    · intro h
      simpa [beforeEquals] using congrArg String.toList h
    · intro h
      rw [beforeEquals, h, String.ofList_toList]
  rw [hlist, List.takeWhile_eq_self_iff]
  exact ⟨fun h hmem => of_decide_eq_true (h '=' hmem) rfl,
    fun h c hc => decide_eq_true fun heq => h (heq ▸ hc)⟩

/-- A name and a text behind it come back as the name and what stands before the next
equals sign. -/
theorem splitExtra_eq {name : String} (hname : '=' ∉ name.toList) (text : String) :
    splitExtra (name ++ "=" ++ text) = some (name, beforeEquals text) := by
  have hlist : (name ++ "=" ++ text).toList = name.toList ++ '=' :: text.toList := by simp
  obtain ⟨rest, hrest⟩ := Delimited.splitOn_eq_cons '=' text.toList
  unfold splitExtra
  rw [hlist, List.splitOn_append_cons_self_of_not_mem hname, hrest]
  dsimp only
  rw [String.ofList_toList]
  rfl

/-- The names of the fields that every entry is written with. -/
def fieldNames : List String :=
  ["role", "actor", "operation", "status", "resource", "timestamp", "thread_id"]

/-- **An entry with a text is always written**: with its fields, and with the text up to
its first equals sign. -/
theorem written_eq (rfc3339 : ℤ → String) {log : AuditLog} {name text : String}
    (hextra : log.extra = some (name ++ "=" ++ text)) (hname : '=' ∉ name.toList)
    (hfree : name ∉ fieldNames) :
    ∃ j, log.written rfc3339 = some j ∧ Holds rfc3339 log j ∧
      j.get name = some (.str (beforeEquals text)) := by
  have hsplit := splitExtra_eq hname text
  simp only [fieldNames, List.mem_cons, not_or] at hfree
  obtain ⟨hrole, hactor, hoperation, hstatus, hresource, htimestamp, hthread, _⟩ := hfree
  refine ⟨.obj (insertMember "thread_id" (.str (log.threadId.getD notAvailable))
    (insertMember "timestamp" (.str (rfc3339 log.timestamp))
      (insertMember name (.str (beforeEquals text)) log.emitInput.commonMembers))), ?_, ?_, ?_⟩
  · have hinput : log.emitInput.extra = some (name ++ "=" ++ text) := hextra
    unfold AuditLog.written emitJson
    rw [hinput]
    dsimp only
    rw [hsplit]
    rfl
  · constructor <;>
      simp [Json.get, EmitInput.commonMembers, member_insertMember_self, member_insertMember_of_ne,
        Ne.symm hrole, Ne.symm hactor, Ne.symm hoperation, Ne.symm hstatus, Ne.symm hresource,
        AuditLog.emitInput]
  · rw [Json.get, member_insertMember_of_ne hthread, member_insertMember_of_ne htimestamp,
      member_insertMember_self]

/-- The text is written whole exactly when there is no equals sign in it. -/
theorem keepsReason_iff (rfc3339 : ℤ → String) {log : AuditLog} {name text : String}
    (hextra : log.extra = some (name ++ "=" ++ text)) (hname : '=' ∉ name.toList)
    (hfree : name ∉ fieldNames) :
    KeepsReason rfc3339 log name text ↔ '=' ∉ text.toList := by
  obtain ⟨j, hj, hholds, htext⟩ := written_eq rfc3339 hextra hname hfree
  rw [← beforeEquals_eq_iff]
  constructor
  · rintro ⟨j', hj', -, htext'⟩
    rw [hj] at hj'
    obtain rfl := Option.some.inj hj'
    rw [htext] at htext'
    exact Json.str.inj (Option.some.inj htext')
  · intro hwhole
    rw [hwhole] at htext
    exact ⟨j, hj, hholds, htext⟩

theorem extra_buildFailure (log : AuditLog) (text : String) :
    (AuditLogBuilder.buildFailure log text).extra = some ("audit.error" ++ "=" ++ text) := by
  have hname : "audit.error" ++ "=" = "audit.error=" := by decide
  rw [hname]
  rfl

theorem extra_buildUnauthorized (log : AuditLog) (text : String) :
    (AuditLogBuilder.buildUnauthorized log text).extra = some ("audit.reason" ++ "=" ++ text) := by
  have hname : "audit.reason" ++ "=" = "audit.reason=" := by decide
  rw [hname]
  rfl

theorem errorName_free : '=' ∉ "audit.error".toList ∧ "audit.error" ∉ fieldNames := by decide

theorem reasonName_free : '=' ∉ "audit.reason".toList ∧ "audit.reason" ∉ fieldNames := by decide

/-- **The log keeps the whole reason** of a failure, and of a refusal, exactly when there
is no equals sign in it. -/
theorem keeps_reasons_iff (rfc3339 : ℤ → String) (log : AuditLog) (text : String) :
    (KeepsReason rfc3339 (AuditLogBuilder.buildFailure log text) "audit.error" text ↔
        '=' ∉ text.toList) ∧
      (KeepsReason rfc3339 (AuditLogBuilder.buildUnauthorized log text) "audit.reason" text ↔
        '=' ∉ text.toList) := by
  constructor
  · exact keepsReason_iff rfc3339 (extra_buildFailure log text) errorName_free.1 errorName_free.2
  · exact keepsReason_iff rfc3339 (extra_buildUnauthorized log text) reasonName_free.1
      reasonName_free.2

/-- **A reason is cut at its equals sign**: a body that does not decode because of a text
with one, and a sender that has one. -/
theorem reason_cut :
    let rfc3339 : ℤ → String := fun _ => "1970-01-01T00:00:00+00:00"
    let log := AuditLogBuilder.entry .create "did:web:user" .empty (some "thread-1") 0
    let error := "invalid type: string \"a=b\", expected a boolean"
    let reason := "Unauthorized: DID did:web:user?service=a is not in admin list"
    (¬ KeepsReason rfc3339 (AuditLogBuilder.buildFailure log error) "audit.error" error) ∧
      ¬ KeepsReason rfc3339 (AuditLogBuilder.buildUnauthorized log reason) "audit.reason" reason ∧
      ((AuditLogBuilder.buildFailure log error).written rfc3339).bind (·.get "audit.error") =
        some (.str "invalid type: string \"a") ∧
      ((AuditLogBuilder.buildUnauthorized log reason).written rfc3339).bind
        (·.get "audit.reason") = some (.str "Unauthorized: DID did:web:user?service") := by
  intro rfc3339 log error reason
  obtain ⟨j, hj, -, herror⟩ := written_eq rfc3339 (extra_buildFailure log error)
    errorName_free.1 errorName_free.2
  obtain ⟨j', hj', -, hreason⟩ := written_eq rfc3339 (extra_buildUnauthorized log reason)
    reasonName_free.1 reasonName_free.2
  refine ⟨fun h => ?_, fun h => ?_, ?_, ?_⟩
  · exact (keepsReason_iff rfc3339 (extra_buildFailure log error) errorName_free.1
      errorName_free.2).mp h (by decide)
  · exact (keepsReason_iff rfc3339 (extra_buildUnauthorized log reason) reasonName_free.1
      reasonName_free.2).mp h (by decide)
  · rw [hj, Option.bind_some, herror]
    decide
  · rw [hj', Option.bind_some, hreason]
    decide

end TrustRegistry
