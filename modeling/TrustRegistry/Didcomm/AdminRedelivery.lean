import TrustRegistry.Didcomm.BaseHandler
import TrustRegistry.Lib.Redelivery
import TrustRegistry.Storage.MapRefinement

/-!
# Redelivery of administrative messages

The mediator delivers at least once, and a batch is handed to the handlers before
it is acknowledged.  Trust Tasks that write go through the store of message ids;
administrative messages of the older protocol do not, so that each copy is carried
out on the records as it finds them.

## Main definitions

* `deliver` — a copy of a message at the entry point.
* `RecordChange.Harmless`, `HarmlessCopy` — a copy that finds its change made or
  refused.

## Main results

* `redelivery_exact_iff` — the records are at every point those of delivering each
  message once exactly when every copy is harmless where it comes.
* `redelivered_update_undoes` — a copy of an older update undoes a later one, and a
  copy of a creation undoes a deletion.
-/

namespace TrustRegistry

open KeyedTable Redelivery

/-! ### What a copy does -/

section

variable {K : Type*} [DecidableEq K] (key : TrustRecordKey → K)

/-- The change finds that it is refused, or that it stores what is stored. -/
def RecordChange.Harmless (m : K → Option TrustRecord) : RecordChange → Prop
  | create r => m (key (.fromRecord r)) ≠ none
  | update r => m (key (.fromRecord r)) = none ∨ m (key (.fromRecord r)) = some r
  | delete q => m (key (.fromQuery q)) = none

theorem RecordChange.harmless_iff {m : K → Option TrustRecord} {c : RecordChange} :
    c.Harmless key m ↔ (c.change key).apply m = m := by
  rw [Change.apply_eq_self_iff]
  cases c with
  | create r =>
    show m (key (.fromRecord r)) ≠ none ↔
      (m (key (.fromRecord r))).isNone = false ∨ m (key (.fromRecord r)) = some r
    cases m (key (.fromRecord r)) <;> simp
  | update r =>
    show m (key (.fromRecord r)) = none ∨ m (key (.fromRecord r)) = some r ↔
      (m (key (.fromRecord r))).isSome = false ∨ m (key (.fromRecord r)) = some r
    cases m (key (.fromRecord r)) <;> simp
  | delete q =>
    show m (key (.fromQuery q)) = none ↔
      (m (key (.fromQuery q))).isSome = false ∨ m (key (.fromQuery q)) = none
    cases m (key (.fromQuery q)) <;> simp

end

/-- What a copy of a message meets besides the records. -/
structure Circumstances (σ : Type*) where
  env : DidcommEnv σ
  metadata : UnpackMetadata

section

variable {σ K : Type*} [DecidableEq K] (F : Framework) (R : TrustRecordAdminRepository σ)
  (adminDids : List String) (key : TrustRecordKey → K) (lookup : σ → K → Option TrustRecord)

/-- A copy of a message comes in, at a server over the backend `R`. -/
def deliver (s : Server σ) (c : Circumstances σ) (message : Message) : Server σ :=
  (BaseHandler.build.handle F { c.env with repository := R, adminDids } message c.metadata s).2

/-- What a message asks to change, if an administrator sends it. -/
def adminChange (message : Message) : Option RecordChange :=
  if message.sender ∈ adminDids then requestedChange message else none

/-- The table after a message. -/
def afterMessage (m : K → Option TrustRecord) (message : Message) : K → Option TrustRecord :=
  (adminChange adminDids message).elim m fun c => (c.change key).apply m

/-- The message names no administrator, or does not decode, or its change finds
that it is refused or made. -/
def HarmlessCopy (m : K → Option TrustRecord) (message : Message) : Prop :=
  message.sender ∈ adminDids → ∀ c, requestedChange message = some c → c.Harmless key m

variable {F R adminDids key lookup}

theorem harmlessCopy_iff {m : K → Option TrustRecord} {message : Message} :
    HarmlessCopy adminDids key m message ↔ afterMessage adminDids key m message = m := by
  unfold HarmlessCopy afterMessage adminChange
  by_cases hsender : message.sender ∈ adminDids
  · rw [if_pos hsender]
    cases requestedChange message with
    | none => simp
    | some c => simp [hsender, RecordChange.harmless_iff]
  · simp [hsender]

/-- A delivered message changes the records as the table is changed, whatever it
meets. -/
theorem observed_deliver {Inv : σ → Prop} (hmap : MapBacked R key lookup Inv) :
    Observed (deliver F R adminDids) (fun s => lookup s.records) (afterMessage adminDids key)
      (fun s => Inv s.records) IsAdminWrite where
  inv s c message hs hwrite := by
    obtain ⟨operation, _, htyp⟩ := hwrite
    unfold deliver
    rw [BaseHandler.handle_records htyp]
    split
    · unfold TrustRecordAdminRepository.callIfAny
      cases requestedChange message with
      | none => exact hs
      | some change => exact hmap.inv s.records change hs
    · exact hs
  obs s c message hs hwrite := by
    obtain ⟨operation, _, htyp⟩ := hwrite
    unfold deliver afterMessage adminChange
    rw [BaseHandler.handle_records htyp]
    split
    · unfold TrustRecordAdminRepository.callIfAny
      cases requestedChange message with
      | none => rfl
      | some change => exact hmap.lookup_call s.records change hs
    · rfl

/-- **When redelivery is harmless.**  In a delivery of administrative messages the
records are at every point those of delivering each message once, exactly when
each copy, where it comes, is of a creation that finds a record of its tuple, of an
update that finds none or the one it carries, of a deletion that finds none, or
asks for nothing. -/
theorem redelivery_exact_iff (F : Framework) (adminDids : List String) {Inv : σ → Prop}
    (hmap : MapBacked R key lookup Inv) {s : Server σ} (hs : Inv s.records)
    {d : List (Arrival (Circumstances σ) Message)} (hd : ∀ x ∈ d, IsAdminWrite x.message) :
    (∀ before, before <+: d →
      lookup (run (deliver F R adminDids) s before).records =
        lookup (run (deliver F R adminDids) s (firsts before)).records) ↔
      ∀ before c message, before ++ [.again c message] <+: d →
        HarmlessCopy adminDids key (lookup (run (deliver F R adminDids) s before).records)
          message := by
  simp only [harmlessCopy_iff]
  exact (observed_deliver hmap).exact_iff hs hd

end

/-! ### Copies that undo -/

/-- A message of an administrator. -/
def adminMessage (id : String) (operation : AuditOperation) (members : List (String × Json)) :
    Message where
  id
  typ := operation.messageType
  body := .obj ([("entity_id", .str "did:web:e"), ("authority_id", .str "did:web:a"),
    ("action", .str "issue"), ("resource", .str "vc")] ++ members)
  fromDid := some "did:web:admin"

/-- One with a record in it. -/
def recordMessage (id : String) (operation : AuditOperation) (authorized : Bool) : Message :=
  adminMessage id operation [("recognized", .bool true), ("authorized", .bool authorized),
    ("record_type", .str "authorization")]

/-- A creation. -/
def createMessage : Message := recordMessage "m-1" .create true

/-- An update that takes the authorization away. -/
def revokeMessage : Message := recordMessage "m-2" .update false

/-- An update that gives it back. -/
def restoreMessage : Message := recordMessage "m-3" .update true

/-- A deletion. -/
def deleteMessage : Message := adminMessage "m-4" .delete []

/-- What every copy meets. -/
def sampleCircumstances : Circumstances LocalStorage := ⟨sampleDidcommEnv, plaintext⟩

/-- What messages lead to, at a server without records. -/
def delivered (d : List (Arrival (Circumstances LocalStorage) Message)) : Server LocalStorage :=
  run (deliver createFramework LocalStorage.repository ["did:web:admin"]) emptyServer d

/-- The messages one after another. -/
def inOrder (messages : List Message) : List (Arrival (Circumstances LocalStorage) Message) :=
  messages.map (.first sampleCircumstances)

/-- The messages, then a copy of one of them. -/
def withCopy (messages : List Message) (copy : Message) :
    List (Arrival (Circumstances LocalStorage) Message) :=
  inOrder messages ++ [.again sampleCircumstances copy]

theorem atLeastOnce_inOrder (messages : List Message) : AtLeastOnce (inOrder messages) := by
  induction messages using List.reverseRecOn with
  | nil => exact .nil
  | append_singleton messages m ih =>
    rw [inOrder, List.map_append]
    exact ih.first _ m

theorem atLeastOnce_withCopy {messages : List Message} {copy : Message} (h : copy ∈ messages) :
    AtLeastOnce (withCopy messages copy) := by
  refine (atLeastOnce_inOrder messages).again _ ?_
  rwa [inOrder, map_message_firsts]

theorem isAdminWrite_recordMessage (id : String) (authorized : Bool) :
    IsAdminWrite (recordMessage id .create authorized) ∧
      IsAdminWrite (recordMessage id .update authorized) :=
  ⟨⟨.create, by decide, rfl⟩, ⟨.update, by decide, rfl⟩⟩

/-- A creation that comes twice leaves what it leaves once. -/
theorem repeated_create_exact :
    let d := withCopy [createMessage] createMessage
    (delivered d).records.records.map.get?
      = (delivered (firsts d)).records.records.map.get? := by
  intro d
  have hwrite := (isAdminWrite_recordMessage "m-1" true).1
  refine (redelivery_exact_iff createFramework ["did:web:admin"] LocalStorage.mapBacked
    (RecordMap.keyed _ : RecordTable.Keyed emptyServer.records.records.map) ?_).mpr ?_ d
    (List.prefix_refl d)
  · intro x hx
    have hmessage : x.message = createMessage := by
      simp only [d, withCopy, inOrder, List.map_cons, List.map_nil, List.mem_append,
        List.mem_singleton] at hx
      rcases hx with rfl | rfl <;> rfl
    rw [hmessage]
    exact hwrite
  · intro before c message hb
    rcases List.prefix_concat_iff.mp hb with h | h
    · obtain ⟨rfl, hlast⟩ := List.append_inj' h rfl
      obtain ⟨-, rfl⟩ := Arrival.again.inj (List.singleton_inj.mp hlast)
      intro _ change hchange
      obtain rfl := Option.some.inj hchange
      show AssocMap.get? _ _ ≠ none
      decide
    · -- before the copy there is none
      have hfirst :
          before ++ [.again c message] <+: [] ++ [.first sampleCircumstances createMessage] := h
      rcases List.prefix_concat_iff.mp hfirst with h | h
      · have hlast := List.append_inj' h rfl
        simp at hlast
      · simp at h

/-- **A copy of an older message undoes a later one.**  An update that gives an
authorization, one that takes it away, and a copy of the first leave the
authorization; a creation, a deletion and a copy of the creation leave the record. -/
theorem redelivered_update_undoes :
    let updates := withCopy [createMessage, restoreMessage, revokeMessage] restoreMessage
    let creations := withCopy [createMessage, deleteMessage] createMessage
    (AtLeastOnce updates ∧ (∀ x ∈ updates, IsAdminWrite x.message ∧
        x.message.sender ∈ ["did:web:admin"]) ∧
      (delivered updates).records.findByQuery ⟨⟨"did:web:e"⟩, ⟨"did:web:a"⟩, ⟨"issue"⟩, ⟨"vc"⟩⟩
        = .ok (recordOf restoreMessage.body) ∧
      (delivered (firsts updates)).records.findByQuery
          ⟨⟨"did:web:e"⟩, ⟨"did:web:a"⟩, ⟨"issue"⟩, ⟨"vc"⟩⟩
        = .ok (recordOf revokeMessage.body) ∧
      recordOf restoreMessage.body ≠ recordOf revokeMessage.body) ∧
    (AtLeastOnce creations ∧ (∀ x ∈ creations, IsAdminWrite x.message ∧
        x.message.sender ∈ ["did:web:admin"]) ∧
      (delivered creations).records.findByQuery ⟨⟨"did:web:e"⟩, ⟨"did:web:a"⟩, ⟨"issue"⟩, ⟨"vc"⟩⟩
        = .ok (recordOf createMessage.body) ∧
      (delivered (firsts creations)).records.findByQuery
          ⟨⟨"did:web:e"⟩, ⟨"did:web:a"⟩, ⟨"issue"⟩, ⟨"vc"⟩⟩ = .ok none) := by
  have hcreate := (isAdminWrite_recordMessage "m-1" true).1
  have hrestore := (isAdminWrite_recordMessage "m-3" true).2
  have hrevoke := (isAdminWrite_recordMessage "m-2" false).2
  have hdelete : IsAdminWrite deleteMessage := ⟨.delete, by decide, rfl⟩
  refine ⟨⟨atLeastOnce_withCopy (by simp), ?_, by rfl, by rfl, by decide⟩,
    ⟨atLeastOnce_withCopy (by simp), ?_, by rfl, by rfl⟩⟩
  · intro x hx
    simp only [withCopy, inOrder, List.map_cons, List.map_nil, List.mem_append, List.mem_cons,
      List.not_mem_nil, or_false] at hx
    rcases hx with (rfl | rfl | rfl) | rfl
    · exact ⟨hcreate, by decide⟩
    · exact ⟨hrestore, by decide⟩
    · exact ⟨hrevoke, by decide⟩
    · exact ⟨hrestore, by decide⟩
  · intro x hx
    simp only [withCopy, inOrder, List.map_cons, List.map_nil, List.mem_append, List.mem_cons,
      List.not_mem_nil, or_false] at hx
    rcases hx with (rfl | rfl) | rfl
    · exact ⟨hcreate, by decide⟩
    · exact ⟨hdelete, by decide⟩
    · exact ⟨hcreate, by decide⟩

end TrustRegistry
