import TrustRegistry.Configs.DidcommConfig
import TrustRegistry.Didcomm.BaseHandler

/-!
# The list of administrators

The administrators are a variable of the environment, with commas between them.
Every piece is trimmed and kept, the empty one as well, which is what an unset
variable has; a sender is let through when it is on the list.  The sender is what a
message names, and that may be the empty text.

## Main definitions

* `ProcessEnv.adminDids` — the list.
* `ProcessEnv.Names` — what the operator has written.
* `AdmitsNamed` — the checks let through whom the operator has named, and no other.

## Main results

* `ProcessEnv.mem_adminDids_iff` — what is on the list.
* `admitsNamed_iff` — when the checks let through nobody else.
-/

namespace TrustRegistry

/-- The pieces of a text between its commas. -/
def splitCommas (s : String) : List String := (s.toList.splitOn ',').map String.ofList

variable {κ μ ρ : Type}

namespace ProcessEnv

variable (env : ProcessEnv κ μ ρ)

/-- The text of the list; it is empty when the variable is unset. -/
def adminDidsStr : String := (env.var "ADMIN_DIDS").getD ""

/-- The list of administrators. -/
def adminDids : List String := (splitCommas env.adminDidsStr).map Trim.trim

/-- The operator has named a sender: the variable is set, and one of its entries,
trimmed, is the sender and not empty. -/
def Names (sender : String) : Prop :=
  sender ≠ "" ∧ ∃ value, env.var "ADMIN_DIDS" = some value ∧
    ∃ entry ∈ splitCommas value, Trim.trim entry = sender

/-- An entry is blank: there is nothing but white space between two commas. -/
def HasBlankEntry : Prop :=
  ∃ entry ∈ splitCommas env.adminDidsStr, ∀ c ∈ entry.toList, Trim.isWhitespace c = true

variable {env} {sender : String}

/-- **What is on the list**: whom the operator has named, and the empty text when an
entry is blank. -/
theorem mem_adminDids_iff :
    sender ∈ env.adminDids ↔ env.Names sender ∨ sender = "" ∧ env.HasBlankEntry := by
  have hmem : sender ∈ env.adminDids ↔
      ∃ entry ∈ splitCommas env.adminDidsStr, Trim.trim entry = sender := List.mem_map
  rw [hmem]
  constructor
  · rintro ⟨entry, hentry, rfl⟩
    by_cases hempty : Trim.trim entry = ""
    · exact .inr ⟨hempty, entry, hentry, Trim.trim_eq_empty_iff.mp hempty⟩
    · refine .inl ⟨hempty, ?_⟩
      cases hvar : env.var "ADMIN_DIDS" with
      | some value => exact ⟨value, rfl, entry, by rwa [adminDidsStr, hvar] at hentry, rfl⟩
      | none =>
        -- the one entry of an unset variable is empty
        rw [adminDidsStr, hvar] at hentry
        obtain rfl := List.mem_singleton.mp (show entry ∈ [""] from hentry)
        exact absurd rfl hempty
  · rintro (⟨-, value, hvar, entry, hentry, htrim⟩ | ⟨rfl, entry, hentry, hblank⟩)
    · exact ⟨entry, by rwa [adminDidsStr, hvar], htrim⟩
    · exact ⟨entry, hentry, Trim.trim_eq_empty_iff.mpr hblank⟩

end ProcessEnv

/-- The three checks let a sender through when the operator has named it, and only
then: the one of the administration protocol, and the one that each of the mediator
bindings makes of a write that carries a proof. -/
structure AdmitsNamed {σ : Type*} (process : ProcessEnv κ μ ρ) (env : DidcommEnv σ)
    (sender : String) : Prop where
  admin : AdminMessagesHandler.validateAdminDid { env with adminDids := process.adminDids } sender
    = .ok () ↔ process.Names sender
  write : ∀ doc : TrustTask, isWriteSlug doc.typeUri.slug = true → doc.proof.isSome = true →
    (authorizeWrite doc sender process.adminDids = .ok () ↔ process.Names sender)

/-- **When nobody else is let through**: when the sender is not empty, or no entry of
the list is blank. -/
theorem admitsNamed_iff {σ : Type*} (process : ProcessEnv κ μ ρ) (env : DidcommEnv σ)
    (sender : String) : AdmitsNamed process env sender ↔ ¬ (sender = "" ∧ process.HasBlankEntry) := by
  constructor
  · rintro h ⟨hempty, hblank⟩
    have hmem : sender ∈ process.adminDids :=
      ProcessEnv.mem_adminDids_iff.mpr (.inr ⟨hempty, hblank⟩)
    exact (h.admin.mp (AdminMessagesHandler.validateAdminDid_eq_ok_iff.mpr hmem)).1 hempty
  · intro h
    have hmem : sender ∈ process.adminDids ↔ process.Names sender :=
      ProcessEnv.mem_adminDids_iff.trans (or_iff_left h)
    refine ⟨AdminMessagesHandler.validateAdminDid_eq_ok_iff.trans hmem, fun doc hwrite hproof => ?_⟩
    rw [authorizeWrite_eq_ok_iff, ← hmem]
    exact ⟨fun h => (h hwrite).2, fun h _ => ⟨hproof, h⟩⟩

/-! ### An unset list -/

/-- An environment that has no variables. -/
def unsetProcess : ProcessEnv Unit Unit Unit where
  var _ := none
  tspBuilt := false
  profileFromVta := .ok none
  profileFromSecretStore := .ok none
  loadUri _ := .error "unsupported"
  parseProfile _ := .error "unsupported"
  jsonText _ := ""

/-- **With no list a message from the empty text creates a record**: it is let through
though the operator has named nobody. -/
theorem unset_list_admits :
    let env := { sampleDidcommEnv with adminDids := unsetProcess.adminDids }
    let message := plaintextCreate (some "")
    (¬ ∃ sender, unsetProcess.Names sender) ∧ message.sender = "" ∧
      AdminMessagesHandler.validateAdminDid env message.sender = .ok () ∧
      isWriteSlug sampleCreate.typeUri.slug = true ∧ sampleCreate.proof.isSome = true ∧
      authorizeWrite sampleCreate message.sender unsetProcess.adminDids = .ok () ∧
      (BaseHandler.build.handle createFramework env message plaintext emptyServer).2.records
        ≠ emptyServer.records ∧
      ¬ AdmitsNamed unsetProcess sampleDidcommEnv message.sender := by
  have hnobody : ¬ ∃ sender, unsetProcess.Names sender := by
    rintro ⟨sender, -, value, hvar, -⟩
    cases hvar
  exact ⟨hnobody, rfl, rfl, by decide, rfl, rfl, by decide, fun h => hnobody ⟨"", h.admin.mp rfl⟩⟩

end TrustRegistry
