import TrustRegistry.Storage.DdbStorage
import TrustRegistry.Storage.MapRefinement
import TrustRegistry.TrustTasks.Router

/-!
# Conflicts of the table backend

A creation of a record that exists, and an update or a deletion of one that does
not, is refused by the condition of the request.  The backend tells this apart from
the other failures by the text of the client's error, in which it looks for the
name of the exception; but the text of an error of the client has its category and
nothing else.

## Main definitions

* `SdkError`, `SdkCategory` — the errors of the client.
* `DynamoDbClient` — a client, as what it contributes to the operations.
* `DynamoDbStorage.Classifies` — conflicts are answered as in the in-memory backend,
  and nothing else is.

## Main results

* `DynamoDbStorage.call_eq` — every failure is a failed query.
* `DynamoDbStorage.classifies_iff` — the answers are right where there is no conflict,
  and only there.
-/

namespace TrustRegistry

/-! ### The errors of the client -/

/-- The categories of the client's errors. -/
inductive SdkCategory
  | constructionFailure
  | timeoutError
  | dispatchFailure
  | responseError
  | serviceError
  deriving DecidableEq

/-- An error of the client; one of the service has the kind of the exception. -/
inductive SdkError
  | constructionFailure
  | timeoutError
  | dispatchFailure
  | responseError
  | serviceError (exception : String)
  deriving DecidableEq

/-- The category of an error. -/
def SdkError.category : SdkError → SdkCategory
  | constructionFailure => .constructionFailure
  | timeoutError => .timeoutError
  | dispatchFailure => .dispatchFailure
  | responseError => .responseError
  | serviceError _ => .serviceError

/-- The error of a request whose condition does not hold. -/
def SdkError.conditionalCheckFailed : SdkError := .serviceError "ConditionalCheckFailedException"

/-- A client: the requests that fail though their condition holds or is not looked
at, how a category is shown, and the text of a decoding error. -/
structure DynamoDbClient where
  fails : DynamoDbRequest → Option SdkError
  text : SdkCategory → String
  serdeError : Json → String

/-- The name of a category is that of no exception. -/
def NamesNoException (text : SdkCategory → String) : Prop :=
  ∀ category, DynamoDbStorage.isConditionalCheckFailed (text category) = false

namespace DynamoDbClient

/-- The text of an error. -/
def display (client : DynamoDbClient) (e : SdkError) : String := client.text e.category

/-- What the client contributes to an operation. -/
def io (client : DynamoDbClient) : DynamoDbIo where
  fails request := (client.fails request).map client.display
  conditionFailed := client.display .conditionalCheckFailed
  serdeError := client.serdeError

end DynamoDbClient

/-! ### Conflicts -/

/-- The request of a change. -/
def RecordChange.request : RecordChange → DynamoDbRequest
  | create _ | update _ => .putItem
  | delete _ => .deleteItem

/-- What the texts of its errors call a change. -/
def RecordChange.verb : RecordChange → String
  | create _ => "create"
  | update _ => "update"
  | delete _ => "delete"

/-- The tuple of a change. -/
def RecordChange.recordKey : RecordChange → TrustRecordKey
  | create r | update r => .fromRecord r
  | delete q => .fromQuery q

/-- A task that is not to be tried again: the repository's answer is mapped to a
failure of the task. -/
def IsTaskFailure (answer : Except RepositoryError Unit) : Prop :=
  ∃ e reason details, answer = .error e ∧ mapRepoErr e = .taskFailed reason details

theorem isTaskFailure_iff {answer : Except RepositoryError Unit} :
    IsTaskFailure answer ↔ (∃ m, answer = .error (.recordAlreadyExists m)) ∨
      ∃ m, answer = .error (.recordNotFound m) := by
  constructor
  · rintro ⟨e, reason, details, rfl, he⟩
    cases e with
    | recordAlreadyExists m => exact .inl ⟨m, rfl⟩
    | recordNotFound m => exact .inr ⟨m, rfl⟩
    | connectionFailed m | queryFailed m | serializationFailed m | validationError m => cases he
    | lockPoisoned => cases he
  · rintro (⟨m, rfl⟩ | ⟨m, rfl⟩)
    · exact ⟨_, m, none, rfl, rfl⟩
    · exact ⟨_, m, none, rfl, rfl⟩

namespace DynamoDbStorage

/-- Is the record of a creation there, or that of another change not? -/
def conflicts (s : DynamoDbStorage) : RecordChange → Bool
  | .create r => s.items.contains (buildKeyFromRecord r)
  | .update r => !s.items.contains (buildKeyFromRecord r)
  | .delete q => !s.items.contains (buildKey q)

/-- The table after a change that is made. -/
def made (s : DynamoDbStorage) : RecordChange → DynamoDbStorage
  | .create r | .update r => ⟨s.items.insert (buildKeyFromRecord r) (buildItem r)⟩
  | .delete q => ⟨s.items.erase (buildKey q)⟩

/-- A change is answered by a conflict exactly when it is one: where its condition is
looked at, a conflict is answered as one; no other failure is; and the task fails
for good exactly when it does over an in-memory backend that has the record of the
tuple when the table has. -/
structure Classifies (client : DynamoDbClient) (s : DynamoDbStorage) (c : RecordChange) :
    Prop where
  conflict : client.fails c.request = none → s.conflicts c = true →
    ∃ m, ((repository client.io).call s c).1 = .error (c.refusal m)
  only : ∀ m, ((repository client.io).call s c).1 = .error (.recordAlreadyExists m) ∨
    ((repository client.io).call s c).1 = .error (.recordNotFound m) →
    client.fails c.request = none ∧ s.conflicts c = true
  like_local : client.fails c.request = none → ∀ l : LocalStorage,
    l.records.containsKey c.recordKey = s.items.contains (TrustRecordKey.pk, c.recordKey.sk) →
    (IsTaskFailure ((repository client.io).call s c).1 ↔
      IsTaskFailure (LocalStorage.repository.call l c).1)

variable {client : DynamoDbClient} {s : DynamoDbStorage} {c : RecordChange}

/-- An error whose text names no failed condition is a failed query. -/
theorem writeError_of_unnamed {conflict : RepositoryError} {what e : String}
    (h : isConditionalCheckFailed e = false) :
    writeError conflict what e = .queryFailed s!"Failed to {what} record: {e}" := by
  rw [writeError, h, if_neg Bool.false_ne_true]

/-- The error that a conflict is to be answered with. -/
def conflictError : RecordChange → RepositoryError
  | .create r => alreadyExists (.fromRecord r)
  | .update r => notFound (.fromRecord r)
  | .delete q => notFound (.fromQuery q)

/-- A change is made, unless its request fails or its condition does not hold. -/
theorem call_eq_of_io (io : DynamoDbIo) (s : DynamoDbStorage) (c : RecordChange) :
    (repository io).call s c =
      match io.fails c.request with
      | some e => (.error (writeError (conflictError c) c.verb e), s)
      | none =>
        if s.conflicts c then (.error (writeError (conflictError c) c.verb io.conditionFailed), s)
        else (.ok (), s.made c) := by
  cases c with
  | create r => rfl
  | update r =>
    -- the backend asks whether the item is there, `conflicts` whether it is not
    simp only [TrustRecordAdminRepository.call, repository, update, RecordChange.request, conflicts]
    by_cases hkey : s.items.contains (buildKeyFromRecord r) = true
    · simp only [hkey]
      rfl
    · simp only [eq_false_of_ne_true hkey]
      rfl
  | delete q =>
    simp only [TrustRecordAdminRepository.call, repository, delete, RecordChange.request, conflicts]
    by_cases hkey : s.items.contains (buildKey q) = true
    · simp only [hkey]
      rfl
    · simp only [eq_false_of_ne_true hkey]
      rfl

/-- **Every failure is a failed query**, a conflict as well. -/
theorem call_eq (htext : NamesNoException client.text) :
    (repository client.io).call s c =
      match client.fails c.request with
      | some e =>
        (.error (.queryFailed s!"Failed to {c.verb} record: {client.text e.category}"), s)
      | none =>
        if s.conflicts c then
          (.error (.queryFailed s!"Failed to {c.verb} record: {client.text .serviceError}"), s)
        else (.ok (), s.made c) := by
  have hcondition : client.io.conditionFailed = client.text .serviceError := rfl
  rw [call_eq_of_io, hcondition, writeError_of_unnamed (htext .serviceError)]
  cases hfails : client.fails c.request with
  | some e =>
    have hio : client.io.fails c.request = some (client.text e.category) :=
      congrArg (Option.map _) hfails
    rw [hio]
    dsimp only
    rw [writeError_of_unnamed (htext e.category)]
  | none =>
    have hio : client.io.fails c.request = none := congrArg (Option.map _) hfails
    rw [hio]

/-- So no change is answered as a failure of the task. -/
theorem not_isTaskFailure_call (htext : NamesNoException client.text) :
    ¬ IsTaskFailure ((repository client.io).call s c).1 := by
  rw [call_eq htext, isTaskFailure_iff]
  cases client.fails c.request with
  | some e => rintro (⟨m, h⟩ | ⟨m, h⟩) <;> cases h
  | none =>
    dsimp only
    split
    · rintro (⟨m, h⟩ | ⟨m, h⟩) <;> cases h
    · rintro (⟨m, h⟩ | ⟨m, h⟩) <;> cases h

end DynamoDbStorage

/-- Over the in-memory backend a change fails for good when it does not fit. -/
theorem LocalStorage.isTaskFailure_call_iff {l : LocalStorage} {c : RecordChange} :
    IsTaskFailure (LocalStorage.repository.call l c).1 ↔
      (c.change id).fits l.records.map.get? = false := by
  have hcall := LocalStorage.mapBacked.call_iff l.records.keyed c
  rw [isTaskFailure_iff]
  cases hfits : (c.change id).fits l.records.map.get? with
  | true =>
    rw [hcall.1.mpr hfits]
    refine iff_of_false ?_ (Ne.symm Bool.false_ne_true)
    rintro (⟨m, h⟩ | ⟨m, h⟩) <;> cases h
  | false =>
    obtain ⟨m, hm⟩ := hcall.2.mpr hfits
    refine iff_of_true ?_ rfl
    rw [hm]
    cases c with
    | create r => exact .inl ⟨m, rfl⟩
    | update r | delete q => exact .inr ⟨m, rfl⟩

namespace DynamoDbStorage

variable {client : DynamoDbClient} {s : DynamoDbStorage} {c : RecordChange}

/-- It does not fit exactly when it is a conflict, where both have the record of the
tuple or neither has. -/
theorem fits_eq_not_conflicts {l : LocalStorage}
    (h : l.records.containsKey c.recordKey
      = s.items.contains (TrustRecordKey.pk, c.recordKey.sk)) :
    (c.change id).fits l.records.map.get? = !s.conflicts c := by
  cases c with
  | create r =>
    show (l.records.map.get? (.fromRecord r)).isNone = !s.items.contains (buildKeyFromRecord r)
    rw [show s.items.contains (buildKeyFromRecord r) = _ from h.symm]
    exact (Option.not_isSome _).symm
  | update r =>
    show (l.records.map.get? (.fromRecord r)).isSome = !!s.items.contains (buildKeyFromRecord r)
    rw [show s.items.contains (buildKeyFromRecord r) = _ from h.symm, Bool.not_not]
    rfl
  | delete q =>
    show (l.records.map.get? (.fromQuery q)).isSome = !!s.items.contains (buildKey q)
    rw [show s.items.contains (buildKey q) = _ from h.symm, Bool.not_not]
    rfl

/-- **When conflicts are told apart**: when there is none, or the request has failed
before. -/
theorem classifies_iff (htext : NamesNoException client.text) :
    Classifies client s c ↔ ¬ (client.fails c.request = none ∧ s.conflicts c = true) := by
  have hnone := not_isTaskFailure_call (s := s) (c := c) htext
  constructor
  · rintro h ⟨hreached, hconflict⟩
    obtain ⟨m, hm⟩ := h.conflict hreached hconflict
    refine hnone (isTaskFailure_iff.mpr ?_)
    rw [hm]
    cases c with
    | create r => exact .inl ⟨m, rfl⟩
    | update r | delete q => exact .inr ⟨m, rfl⟩
  · intro h
    refine ⟨fun hreached hconflict => absurd ⟨hreached, hconflict⟩ h, fun m hm => ?_,
      fun hreached l hl => ?_⟩
    · exact absurd (isTaskFailure_iff.mpr (hm.imp (fun h => ⟨m, h⟩) fun h => ⟨m, h⟩)) hnone
    · have hno : s.conflicts c = false := by
        cases hconflict : s.conflicts c with
        | false => rfl
        | true => exact absurd ⟨hreached, hconflict⟩ h
      rw [LocalStorage.isTaskFailure_call_iff, fits_eq_not_conflicts hl, hno]
      exact iff_of_false hnone (Ne.symm Bool.false_ne_true)

/-! ### A conflict that is retried -/

/-- A client of a service that answers every request. -/
def answeringClient : DynamoDbClient where
  fails _ := none
  text
    | .constructionFailure => "failed to construct request"
    | .timeoutError => "request has timed out"
    | .dispatchFailure => "dispatch failure"
    | .responseError => "response error"
    | .serviceError => "service error"
  serdeError _ := "missing field"

/-- A record. -/
def memberRecord : TrustRecord where
  entityId := ⟨"did:web:member"⟩
  authorityId := ⟨"did:web:community"⟩
  action := ⟨"join"⟩
  resource := ⟨"club"⟩
  recognized := some true
  authorized := some true
  context := Context.empty
  recordType := .authorization

theorem answeringClient_text : NamesNoException answeringClient.text := by
  intro category
  cases category <;> decide

/-- A second creation of a record: the in-memory backend says that it exists, which
fails the task for good; the table backend reports a failed query, which is to be
tried again. -/
theorem second_create_retried :
    let created := (create answeringClient.io new memberRecord).2
    (repository answeringClient.io).call created (.create memberRecord)
        = (.error (.queryFailed "Failed to create record: service error"), created) ∧
      mapRepoErr (.queryFailed "Failed to create record: service error")
        = .internalError "Failed to create record: service error" ∧
      IsTaskFailure (LocalStorage.repository.call (LocalStorage.withRecords [memberRecord])
        (.create memberRecord)).1 ∧
      ¬ Classifies answeringClient created (.create memberRecord) := by
  refine ⟨rfl, rfl, ⟨_, _, none, rfl, rfl⟩, fun h => ?_⟩
  obtain ⟨m, hm⟩ := h.conflict rfl (by decide)
  revert hm
  exact nofun

/-- The first one is answered as over the in-memory backend. -/
theorem first_create_classified : Classifies answeringClient new (.create memberRecord) :=
  (classifies_iff answeringClient_text).mpr (by decide)

end DynamoDbStorage

end TrustRegistry
