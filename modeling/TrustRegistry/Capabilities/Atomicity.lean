import TrustRegistry.Server.Server

/-!
# Failed changes of the capabilities

Enabling and disabling check the call, change the state in memory, save it, and
only then compose the dispatchers anew.  A call that the checks refuse changes
nothing.  A state that cannot be saved stays in memory, next to the stored one and
the dispatchers that go with it.

## Main definitions

* `CapabilityCall`, `CapabilitySet.call` — the two changes as data.
* `CapabilityCall.accept` — the checks of a call, and the entry that it writes.
* `ErrorAtomic` — a failed call has changed nothing and may be made again.

## Main results

* `CapabilitySet.call_eq` — a call is its checks, then the saving of one entry.
* `error_atomic_iff` — failed calls change nothing exactly when the call is refused
  by its checks or the state is saved.
* `failed_disable_keeps_serving` — a capability that goes on serving while the set
  has it as disabled.
-/

namespace TrustRegistry

/-- A change that is asked of the set. -/
inductive CapabilityCall
  | enable (capability version : String) (config : Option Json) (delegate : Option String)
  | disable (capability : String)
  deriving DecidableEq

namespace CapabilityCall

/-- The capability that a call names. -/
def capability : CapabilityCall → String
  | enable capability .. | disable capability => capability

section

variable {H : Type*} (host : CapabilityHost H)

/-- The checks of a call; one that passes them writes the entry. -/
def accept (now : ℤ) (state : CapabilityStates) :
    CapabilityCall → Except CapabilityError CapabilityState
  | enable capability version config delegate =>
    match host.definition capability with
    | none => .error .unknownCapability
    | some d =>
      match CapabilitySet.checkConfig d config with
      | .error e => .error e
      | .ok () =>
        if (enabledEntry state capability).isSome then .error .alreadyEnabled
        else .ok ⟨version, true, config, now, delegate⟩
  | disable capability =>
    match enabledEntry state capability with
    | none => .error .notEnabled
    | some entry => .ok { entry with enabled := false }

/-- The call does not pass its checks: the capability is unknown, its configuration
is not accepted, or it is enabled already; or it is not enabled. -/
def Refused (state : CapabilityStates) : CapabilityCall → Prop
  | enable capability _ config _ =>
    (∀ d, host.definition capability = some d → CapabilitySet.checkConfig d config ≠ .ok ()) ∨
      (enabledEntry state capability).isSome = true
  | disable capability => enabledEntry state capability = none

variable {host}

/-- The checks fail exactly for the calls that are refused. -/
theorem accept_error_iff {now : ℤ} {state : CapabilityStates} {c : CapabilityCall} :
    (∃ e, c.accept host now state = .error e) ↔ c.Refused host state := by
  cases c with
  | enable capability version config delegate =>
    unfold accept Refused
    cases hd : host.definition capability with
    | none => simp [hd]
    | some d =>
      cases hcheck : CapabilitySet.checkConfig d config with
      | error e => simp [hd, hcheck]
      | ok u =>
        by_cases henabled : (enabledEntry state capability).isSome = true
        · simp [hd, hcheck, henabled]
        · simp [hd, hcheck, henabled]
  | disable capability =>
    unfold accept Refused
    cases henabled : enabledEntry state capability <;> simp [henabled]

/-- **What a call writes that passes its checks**: an entry of its own for a
capability that is there and not enabled, or the enabled entry turned off. -/
theorem accept_ok {now : ℤ} {state : CapabilityStates} {c : CapabilityCall}
    {entry : CapabilityState} (h : c.accept host now state = .ok entry) :
    (∃ capability version config delegate, c = enable capability version config delegate ∧
      (host.definition capability).isSome = true ∧ enabledEntry state capability = none ∧
      entry = ⟨version, true, config, now, delegate⟩) ∨
    (∃ capability old, c = disable capability ∧ enabledEntry state capability = some old ∧
      entry = { old with enabled := false }) := by
  cases c with
  | enable capability version config delegate =>
    simp only [accept] at h
    split at h
    · cases h
    · next d hd =>
      split at h
      · cases h
      · split at h
        · cases h
        · next henabled =>
          obtain rfl := Except.ok.inj h
          have hnone : enabledEntry state capability = none := by
            simpa using henabled
          exact .inl ⟨capability, version, config, delegate, rfl, by rw [hd]; rfl, hnone, rfl⟩
  | disable capability =>
    simp only [accept] at h
    split at h
    · cases h
    · next old hold =>
      obtain rfl := Except.ok.inj h
      exact .inr ⟨capability, old, rfl, hold, rfl⟩

/-- An entry that a call writes says the opposite of what there was. -/
theorem enabled_of_accept {now : ℤ} {state : CapabilityStates} {c : CapabilityCall}
    {entry : CapabilityState} (h : c.accept host now state = .ok entry) :
    entry.enabled = !(enabledEntry state c.capability).isSome := by
  rcases accept_ok h with ⟨k, version, config, delegate, rfl, _, hnone, rfl⟩ |
    ⟨k, old, rfl, hold, rfl⟩
  · show true = !(enabledEntry state k).isSome
    rw [hnone, Option.isSome_none, Bool.not_false]
  · show false = !(enabledEntry state k).isSome
    rw [hold, Option.isSome_some, Bool.not_true]

/-- So it is not the entry that there was. -/
theorem insert_ne_of_accept {now : ℤ} {state : CapabilityStates} {c : CapabilityCall}
    {entry : CapabilityState} (h : c.accept host now state = .ok entry) :
    state.insert c.capability entry ≠ state := by
  intro heq
  have hget := AssocMap.insert_eq_self_iff.mp heq
  have henabled := enabled_of_accept h
  rw [enabledEntry, hget, Option.filter_some] at henabled
  cases hentry : entry.enabled <;> simp [hentry] at henabled

/-- The checks do not fail for want of storage. -/
theorem accept_ne_storage {now : ℤ} {state : CapabilityStates} {c : CapabilityCall}
    {detail : String} : c.accept host now state ≠ .error (.storage detail) := by
  intro h
  cases c with
  | enable capability version config delegate =>
    simp only [accept] at h
    split at h
    · cases h
    · next d hd =>
      split at h
      · next e hcheck =>
        -- a configuration fails as an invalid one
        rw [Except.error.inj h] at hcheck
        unfold CapabilitySet.checkConfig at hcheck
        split at hcheck
        · cases hcheck
        · next validate _ =>
          cases hv : validate (config.getD (.obj [])) <;> simp [hv, Except.mapError] at hcheck
      · split at h <;> cases h
  | disable capability =>
    simp only [accept] at h
    split at h <;> cases h

end

end CapabilityCall

/-! ### Calls -/

variable {H : Type*} (host : CapabilityHost H)

/-- Make a change. -/
def CapabilitySet.call (set : CapabilitySet H) (now : ℤ) (save : Except String Unit) :
    CapabilityCall → Except CapabilityError Unit × CapabilitySet H
  | .enable capability version config delegate =>
    let enabled := set.enable host now save capability version config delegate
    (enabled.1.map fun _ => (), enabled.2)
  | .disable capability => set.disable host save capability

variable {host}

/-- **A call is its checks, then the saving of the one entry it writes.** -/
theorem CapabilitySet.call_eq (set : CapabilitySet H) (now : ℤ) (save : Except String Unit)
    (c : CapabilityCall) : set.call host now save c =
      match c.accept host now set.state with
      | .error e => (.error e, set)
      | .ok entry => persist host set (set.state.insert c.capability entry) save := by
  cases c with
  | enable capability version config delegate =>
    simp only [call, enable, CapabilityCall.accept]
    cases host.definition capability with
    | none => rfl
    | some d =>
      cases hcheck : checkConfig d config with
      | error e => simp [hcheck, Except.map]
      | ok u =>
        simp only [hcheck]
        split
        · rfl
        · cases save <;> rfl
  | disable capability =>
    simp only [call, disable, CapabilityCall.accept]
    cases enabledEntry set.state capability <;> rfl

/-- A failed call has changed nothing; and after a failure of the store the same
call is not told that it has been made. -/
structure ErrorAtomic (host : CapabilityHost H) (set : CapabilitySet H) (now : ℤ)
    (save : Except String Unit) (c : CapabilityCall) : Prop where
  state : ∀ e, (set.call host now save c).1 = .error e →
    (set.call host now save c).2.state = set.state
  stored : ∀ e, (set.call host now save c).1 = .error e →
    (set.call host now save c).2.stored = set.stored
  dispatcher : ∀ e, (set.call host now save c).1 = .error e →
    (set.call host now save c).2.dispatcher = set.dispatcher
  queryDispatcher : ∀ e, (set.call host now save c).1 = .error e →
    (set.call host now save c).2.queryDispatcher = set.queryDispatcher
  retried : ∀ detail, (set.call host now save c).1 = .error (.storage detail) →
    ∀ now' save', ((set.call host now save c).2.call host now' save' c).1 ≠ .error .alreadyEnabled ∧
      ((set.call host now save c).2.call host now' save' c).1 ≠ .error .notEnabled

/-- **Failed calls change nothing exactly when the call is refused by its checks or
the state is saved**: for every state of the set, whatever the dispatchers. -/
theorem error_atomic_iff {set : CapabilitySet H} {now : ℤ} {save : Except String Unit}
    {c : CapabilityCall} :
    ErrorAtomic host set now save c ↔ c.Refused host set.state ∨ save = .ok () := by
  have hrefused : c.Refused host set.state ↔ ∃ e, c.accept host now set.state = .error e :=
    CapabilityCall.accept_error_iff.symm
  rw [hrefused]
  constructor
  · intro h
    by_contra hneither
    -- the call passes its checks, and the state it leaves in memory is not saved
    cases haccept : c.accept host now set.state with
    | error e => exact hneither (.inl ⟨e, haccept⟩)
    | ok entry =>
      cases save with
      | ok u => exact hneither (.inr rfl)
      | error detail =>
        have hstate := h.state (.storage detail)
        rw [CapabilitySet.call_eq, haccept] at hstate
        exact CapabilityCall.insert_ne_of_accept haccept (hstate rfl)
  · intro h
    -- a call that fails has been refused
    have hrefused : ∀ e, (set.call host now save c).1 = .error e →
        c.accept host now set.state = .error e ∧ (set.call host now save c).2 = set := by
      intro e he
      rw [CapabilitySet.call_eq] at he ⊢
      cases haccept : c.accept host now set.state with
      | error e' =>
        rw [haccept] at he
        obtain rfl : e' = e := Except.error.inj he
        exact ⟨rfl, rfl⟩
      | ok entry =>
        rw [haccept] at he
        rcases h with ⟨e', he'⟩ | rfl
        · rw [haccept] at he'
          cases he'
        · cases he
    refine ⟨fun e he => by rw [(hrefused e he).2], fun e he => by rw [(hrefused e he).2],
      fun e he => by rw [(hrefused e he).2], fun e he => by rw [(hrefused e he).2], ?_⟩
    intro detail hdetail
    exact absurd (hrefused _ hdetail).1 CapabilityCall.accept_ne_storage

/-- The stored state of a server that serves commit signing. -/
def gitTrustStates : CapabilityStates :=
  AssocMap.empty.insert GitTrust.slug
    ⟨"0.1", true, some (.obj [("authority", .str "did:web:community")]), 0, none⟩

/-- **A capability goes on serving while the set has it as disabled.**  The state
could not be saved; it is disabled in memory, enabled in the store and on the
dispatcher, and a second call to disable it is refused. -/
theorem failed_disable_keeps_serving :
    let set := CapabilitySet.new serveHost gitTrustStates
    let failed := set.call serveHost 0 (.error "disk full") (.disable GitTrust.slug)
    let again := failed.2.call serveHost 1 (.ok ()) (.disable GitTrust.slug)
    ¬ ErrorAtomic serveHost set 0 (.error "disk full") (.disable GitTrust.slug) ∧
      failed.1 = .error (.storage "disk full") ∧
      (failed.2.list serveHost false).length = 0 ∧
      (enabledEntry failed.2.stored GitTrust.slug).isSome = true ∧
      (failed.2.dispatcher.get? .gitTrustGrant).isSome = true ∧
      again.1 = .error .notEnabled ∧ (again.2.dispatcher.get? .gitTrustGrant).isSome = true := by
  refine ⟨fun h => ?_, by decide, by decide, by decide, by decide, by decide, by decide⟩
  have hretried := (h.retried "disk full" (by decide) 1 (.ok ())).2
  revert hretried
  decide

end TrustRegistry
