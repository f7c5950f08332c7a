import TrustRegistry.Capabilities.CapabilitySet
import TrustRegistry.TrustTasks.Router

/-!
# The governance tasks

Enabling, disabling and listing capabilities over the wire.

## Main definitions

* `rejectOf` — the rejection of a failed operation.
* `handleCapabilityEnable`, `handleCapabilityDisable`, `handleCapabilityList` —
  the handlers.
-/

namespace TrustRegistry

/-- The rejection that a failure of the set is answered with. -/
def rejectOf : CapabilityError → RejectReason
  | .unknownCapability =>
    .taskFailed "unknown_capability: not built into this host and no manifest supplied" none
  | .alreadyEnabled =>
    .taskFailed "already_enabled: the capability is already enabled for this community" none
  | .notEnabled => .taskFailed "not_enabled: the capability is not currently enabled" none
  | .configInvalid detail => .malformedRequest s!"config_invalid: {detail}"
  | .storage detail => .internalError detail

section

variable {H : Type*} (host : CapabilityHost H) (F : Framework) (newId : String)

/-- The configuration a payload carries; one with no member counts as none. -/
def EnablePayload.configDocument (p : EnablePayload) : Option Json :=
  if p.config.isEmpty then none else some (.obj p.config)

/-- Enable the capability that a payload names. -/
def handleCapabilityEnable (now : ℤ) (save : Except String Unit) (doc : TrustTask)
    (p : EnablePayload) (set : CapabilitySet H) : TaskOutcome × CapabilitySet H :=
  match set.enable host now save p.capability p.version p.configDocument p.delegate with
  | (.ok entry, set) =>
    (respond F newId doc (.ok (.obj
      [("capability", .str p.capability), ("version", .str entry.version), ("enabled", .bool true),
        ("enabledAt", F.specs.dateTime entry.enabledAt)])), set)
  | (.error e, set) => (reject F newId doc (rejectOf e), set)

/-- Disable the capability that a payload names. -/
def handleCapabilityDisable (save : Except String Unit) (doc : TrustTask) (capability : String)
    (set : CapabilitySet H) : TaskOutcome × CapabilitySet H :=
  match set.disable host save capability with
  | (.ok (), set) =>
    (respond F newId doc
      (.ok (.obj [("capability", .str capability), ("enabled", .bool false)])), set)
  | (.error e, set) => (reject F newId doc (rejectOf e), set)

/-- One line of a listing. -/
def listEntry (manifest : CapabilityManifest) (state : Option CapabilityState) : Json :=
  let enabled := state.any (·.enabled)
  .obj ([("manifest", manifest.document), ("enabled", .bool enabled)]
    ++ (state.toList.filter (·.enabled)).map (fun s => ("enabledAt", F.specs.dateTime s.enabledAt))
    ++ (state.bind (·.delegate)).toList.map (fun d => ("delegate", .str d)))

/-- List the capabilities.  No status asks for the enabled ones. -/
def handleCapabilityList (doc : TrustTask) (status : Option String) (set : CapabilitySet H) :
    TaskOutcome :=
  let status := status.getD "enabled"
  let entries := (set.list host (status ≠ "enabled")).filter fun e =>
    if status = "available" then !e.2.any (·.enabled) else true
  respond F newId doc
    (.ok (.obj [("capabilities", .arr (entries.map fun e => listEntry F e.1 e.2))]))

/-- What is left is what the operation on the set leaves. -/
theorem handleCapabilityEnable_snd (now : ℤ) (save : Except String Unit) (doc : TrustTask)
    (p : EnablePayload) (set : CapabilitySet H) :
    (handleCapabilityEnable host F newId now save doc p set).2 =
      (set.enable host now save p.capability p.version p.configDocument p.delegate).2 := by
  unfold handleCapabilityEnable
  rcases set.enable host now save p.capability p.version p.configDocument p.delegate with
    ⟨_ | _, _⟩ <;> rfl

theorem handleCapabilityDisable_snd (save : Except String Unit) (doc : TrustTask)
    (capability : String) (set : CapabilitySet H) :
    (handleCapabilityDisable host F newId save doc capability set).2 =
      (set.disable host save capability).2 := by
  unfold handleCapabilityDisable
  rcases set.disable host save capability with ⟨_ | _, _⟩ <;> rfl

end

end TrustRegistry
