import TrustRegistry.TrustTasks.Framework

/-!
# Capabilities

A capability is a bundle of handlers with a manifest.  The set keeps which
capabilities are enabled, in memory and in a store, and the two dispatchers the
transports read through: enabling or disabling one changes the state, saves it,
and composes both dispatchers anew from the base registrations, the governance
tasks and the enabled capabilities.

## Main definitions

* `CapabilityDefinition`, `CapabilityHost` — what is compiled in.
* `CapabilitySet` — the state in memory, the stored state, the dispatchers.
* `compose` — the registrations of a state.
* `CapabilitySet.new`, `CapabilitySet.enable`, `CapabilitySet.disable`,
  `CapabilitySet.list` — the operations.

## Main results

* `compose_all` — what holds of every registration.
* `CapabilitySet.Composed` — both dispatchers are composed from one state, kept
  by every operation.
-/

namespace TrustRegistry

/-! ### What is compiled in -/

/-- The description of a capability. -/
structure CapabilityManifest where
  capability : String
  document : Json
  deriving DecidableEq

/-- The state of one capability. -/
structure CapabilityState where
  version : String
  enabled : Bool
  config : Option Json
  enabledAt : ℤ
  delegate : Option String
  deriving DecidableEq

/-- The states by capability. -/
abbrev CapabilityStates := AssocMap String CapabilityState

/-- A capability: its manifest, the registrations it adds in a given state, and
the check of its configuration. -/
structure CapabilityDefinition (H : Type*) where
  manifest : CapabilityManifest
  register : Dispatcher H → CapabilityState → Dispatcher H
  validateConfig : Option (Json → Except String Unit)

/-- What the server is built with: the capabilities, in the order of their names,
the base registrations, and the governance handlers. -/
structure CapabilityHost (H : Type*) where
  available : List (CapabilityDefinition H)
  base : Dispatcher H
  baseQuery : Dispatcher H
  listUri : TypeUri
  listHandler : H
  enableUri : TypeUri
  enableHandler : H
  disableUri : TypeUri
  disableHandler : H

/-- What enabling and disabling can fail with. -/
inductive CapabilityError
  | unknownCapability
  | alreadyEnabled
  | notEnabled
  | configInvalid (detail : String)
  | storage (detail : String)
  deriving DecidableEq

section

variable {H : Type*} (host : CapabilityHost H)

/-- The definition of a capability. -/
def CapabilityHost.definition (capability : String) : Option (CapabilityDefinition H) :=
  host.available.find? fun d => d.manifest.capability = capability

/-- The entry of a capability, if it is enabled. -/
def enabledEntry (state : CapabilityStates) (capability : String) : Option CapabilityState :=
  (state.get? capability).filter (·.enabled)

/-- Add the registrations of a definition, if it is enabled. -/
def registerEnabled (state : CapabilityStates) (dispatcher : Dispatcher H)
    (d : CapabilityDefinition H) : Dispatcher H :=
  match enabledEntry state d.manifest.capability with
  | some entry => d.register dispatcher entry
  | none => dispatcher

/-- The registrations of a state: the base ones, the governance tasks, of which
the read-only surface has only the listing, and every enabled capability's. -/
def compose (base : Dispatcher H) (state : CapabilityStates) (admin : Bool) : Dispatcher H :=
  let dispatcher := base.on host.listUri host.listHandler
  let dispatcher :=
    if admin then
      (dispatcher.on host.enableUri host.enableHandler).on host.disableUri host.disableHandler
    else dispatcher
  host.available.foldl (registerEnabled state) dispatcher

variable {host}

theorem registerEnabled_all {p : TypeUri → H → Prop} {state : CapabilityStates}
    (l : List (CapabilityDefinition H))
    (hreg : ∀ d ∈ l, ∀ entry dispatcher, enabledEntry state d.manifest.capability = some entry →
      Dispatcher.All p dispatcher → Dispatcher.All p (d.register dispatcher entry)) :
    ∀ dispatcher : Dispatcher H, dispatcher.All p →
      Dispatcher.All p (l.foldl (registerEnabled state) dispatcher) := by
  induction l with
  | nil => exact fun _ h => h
  | cons d l ih =>
    intro dispatcher h
    refine ih (fun d' hd' => hreg d' (List.mem_cons_of_mem _ hd')) _ ?_
    unfold registerEnabled
    split
    · next entry he => exact hreg d List.mem_cons_self entry dispatcher he h
    · exact h

/-- **What holds of the base, the governance tasks and what enabled capabilities
register holds of every registration.** -/
theorem compose_all {p : TypeUri → H → Prop} {base : Dispatcher H} {state : CapabilityStates}
    {admin : Bool} (hbase : base.All p) (hlist : p host.listUri host.listHandler)
    (hadmin : admin = true →
      p host.enableUri host.enableHandler ∧ p host.disableUri host.disableHandler)
    (hreg : ∀ d ∈ host.available, ∀ entry dispatcher,
      enabledEntry state d.manifest.capability = some entry →
      Dispatcher.All p dispatcher → Dispatcher.All p (d.register dispatcher entry)) :
    (compose host base state admin).All p := by
  refine registerEnabled_all host.available hreg _ ?_
  cases admin with
  | true => exact ((hbase.on hlist).on (hadmin rfl).1).on (hadmin rfl).2
  | false => exact hbase.on hlist

variable (host)

/-- The state in memory, the stored state, and the live dispatchers. -/
structure CapabilitySet (H : Type*) where
  state : CapabilityStates
  stored : CapabilityStates
  dispatcher : Dispatcher H
  queryDispatcher : Dispatcher H

namespace CapabilitySet

/-- Compose both dispatchers anew. -/
def rebuild (set : CapabilitySet H) : CapabilitySet H :=
  { set with
    dispatcher := compose host host.base set.state true
    queryDispatcher := compose host host.baseQuery set.state false }

/-- The set over a store: the stored state, with its dispatchers. -/
def new (stored : CapabilityStates) : CapabilitySet H :=
  ⟨stored, stored, compose host host.base stored true, compose host host.baseQuery stored false⟩

/-- Go over to a state, save it and compose the dispatchers; a state that cannot
be saved stays in memory. -/
def persist (set : CapabilitySet H) (state : CapabilityStates) (save : Except String Unit) :
    Except CapabilityError Unit × CapabilitySet H :=
  match save with
  | .error detail => (.error (.storage detail), { set with state })
  | .ok () => (.ok (), rebuild host { set with state, stored := state })

/-- The check of a configuration; a missing one is checked as the empty
object. -/
def checkConfig (d : CapabilityDefinition H) (config : Option Json) : Except CapabilityError Unit :=
  match d.validateConfig with
  | none => .ok ()
  | some validate => (validate (config.getD (.obj []))).mapError .configInvalid

/-- Enable a capability. -/
def enable (set : CapabilitySet H) (now : ℤ) (save : Except String Unit)
    (capability version : String) (config : Option Json) (delegate : Option String) :
    Except CapabilityError CapabilityState × CapabilitySet H :=
  match host.definition capability with
  | none => (.error .unknownCapability, set)
  | some d =>
    match checkConfig d config with
    | .error e => (.error e, set)
    | .ok () =>
      if (enabledEntry set.state capability).isSome then (.error .alreadyEnabled, set)
      else
        let entry : CapabilityState := ⟨version, true, config, now, delegate⟩
        let saved := persist host set (set.state.insert capability entry) save
        (saved.1.map fun _ => entry, saved.2)

/-- Disable a capability; its state is kept. -/
def disable (set : CapabilitySet H) (save : Except String Unit) (capability : String) :
    Except CapabilityError Unit × CapabilitySet H :=
  match enabledEntry set.state capability with
  | none => (.error .notEnabled, set)
  | some entry =>
    persist host set (set.state.insert capability { entry with enabled := false }) save

/-- The capabilities with their states, enabled ones only unless all are asked
for. -/
def list (set : CapabilitySet H) (includeAvailable : Bool) :
    List (CapabilityManifest × Option CapabilityState) :=
  host.available.filterMap fun d =>
    let s := set.state.get? d.manifest.capability
    if s.any (·.enabled) || includeAvailable then some (d.manifest, s) else none

/-! ### What the dispatchers are composed from -/

/-- Both dispatchers are composed from this state. -/
def Composed (set : CapabilitySet H) (state : CapabilityStates) : Prop :=
  set.dispatcher = compose host host.base state true ∧
    set.queryDispatcher = compose host host.baseQuery state false

variable {host}

theorem new_composed (stored : CapabilityStates) : (new host stored).Composed host stored :=
  ⟨rfl, rfl⟩

theorem persist_composed {set : CapabilitySet H} {state : CapabilityStates}
    (h : set.Composed host state) (after : CapabilityStates) (save : Except String Unit) :
    ∃ state', (persist host set after save).2.Composed host state' := by
  cases save with
  | error detail => exact ⟨state, h⟩
  | ok u => exact ⟨after, rfl, rfl⟩

theorem enable_composed {set : CapabilitySet H} {state : CapabilityStates}
    (h : set.Composed host state) (now : ℤ) (save : Except String Unit)
    (capability version : String) (config : Option Json) (delegate : Option String) :
    ∃ state', (set.enable host now save capability version config delegate).2.Composed host
      state' := by
  unfold enable
  split
  · exact ⟨state, h⟩
  · split
    · exact ⟨state, h⟩
    · split
      · exact ⟨state, h⟩
      · exact persist_composed h _ save

theorem disable_composed {set : CapabilitySet H} {state : CapabilityStates}
    (h : set.Composed host state) (save : Except String Unit) (capability : String) :
    ∃ state', (set.disable host save capability).2.Composed host state' := by
  unfold disable
  split
  · exact ⟨state, h⟩
  · exact persist_composed h _ save

end CapabilitySet

end

end TrustRegistry
