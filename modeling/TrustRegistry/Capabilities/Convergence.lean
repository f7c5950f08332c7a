import Mathlib.Data.String.Basic
import TrustRegistry.Capabilities.Atomicity
import TrustRegistry.Lib.ByKey
import TrustRegistry.Lib.Transition

/-!
# Capabilities over calls and restarts

A call changes the state in memory, saves it, and swaps the one dispatcher and then
the other, all under the lock of the state; the process can die between any two of
these steps, and comes back with what is stored.

Here saving does not fail and is atomic.

## Main definitions

* `CapabilityHost.over` — a host over a list of definitions.
* `applied` — the definitions whose registrations a state adds.
* `CapabilityRuntime`, `CapabilityRuntime.step` — calls and crashes, step by step.
* `Converged` — memory, store and dispatchers say the same.

## Main results

* `compose_eq_applied`, `mem_applied_iff`, `served_iff` — a state serves exactly
  the tasks of the available capabilities that it enables, `GitTrust.served_iff`
  commit signing's among them.
* `run_call` — a call is its steps taken in a row.
* `runs_converge` — after every call and every restart the set has converged,
  calls that have returned are reflected, and entries of unknown capabilities are
  kept.
* `disabled_unknown_entry` — a call that disables a capability which is not there.
-/

namespace TrustRegistry

open Transition

variable {H : Type*}

/-! ### The host -/

/-- The host over a list of definitions, collected by name. -/
def CapabilityHost.over (host : CapabilityHost H) (definitions : List (CapabilityDefinition H)) :
    CapabilityHost H :=
  { host with
    available := ByKey.collect (fun d : CapabilityDefinition H => d.manifest.capability)
      definitions }

/-- A definition is available when it is the last of its name. -/
theorem mem_over_iff {host : CapabilityHost H} {definitions : List (CapabilityDefinition H)}
    {d : CapabilityDefinition H} : d ∈ (host.over definitions).available ↔
      definitions.reverse.find? (fun d' => d'.manifest.capability = d.manifest.capability)
        = some d := by
  show d ∈ ByKey.collect (fun d : CapabilityDefinition H => d.manifest.capability) definitions ↔ _
  exact ByKey.mem_collect_iff

/-- A capability that no definition is of is unknown. -/
theorem definition_over_eq_none {host : CapabilityHost H}
    {definitions : List (CapabilityDefinition H)} {k : String}
    (hk : ∀ d ∈ definitions, d.manifest.capability ≠ k) :
    (host.over definitions).definition k = none := by
  show (ByKey.collect (fun d : CapabilityDefinition H => d.manifest.capability) definitions).find?
    (fun d => d.manifest.capability = k) = none
  rw [ByKey.find?_collect]
  refine List.find?_eq_none.mpr fun d hd => ?_
  simpa using hk d (List.mem_reverse.mp hd)

/-! ### What a state serves -/

variable (host : CapabilityHost H)

/-- The base registrations with the governance tasks. -/
def governanceSurface (base : Dispatcher H) (admin : Bool) : Dispatcher H :=
  let dispatcher := base.on host.listUri host.listHandler
  if admin then
    (dispatcher.on host.enableUri host.enableHandler).on host.disableUri host.disableHandler
  else dispatcher

/-- The definitions whose registrations a state adds, with their entries. -/
def applied (state : CapabilityStates) : List (CapabilityDefinition H × CapabilityState) :=
  host.available.filterMap fun d => (enabledEntry state d.manifest.capability).map (d, ·)

variable {host}

theorem enabledEntry_eq_some {state : CapabilityStates} {k : String} {e : CapabilityState} :
    enabledEntry state k = some e ↔ state.get? k = some e ∧ e.enabled = true := by
  rw [enabledEntry, Option.filter_eq_some_iff]

/-- **What is applied is what is available and enabled.** -/
theorem mem_applied_iff {state : CapabilityStates} {d : CapabilityDefinition H}
    {e : CapabilityState} : (d, e) ∈ applied host state ↔
      d ∈ host.available ∧ state.get? d.manifest.capability = some e ∧ e.enabled = true := by
  rw [applied, List.mem_filterMap]
  constructor
  · rintro ⟨d', hd', h⟩
    obtain ⟨e', he', heq⟩ := Option.map_eq_some_iff.mp h
    obtain ⟨rfl, rfl⟩ := Prod.mk.inj heq
    exact ⟨hd', enabledEntry_eq_some.mp he'⟩
  · rintro ⟨hd, he⟩
    exact ⟨d, hd, by rw [enabledEntry_eq_some.mpr he, Option.map_some]⟩

theorem foldl_registerEnabled (state : CapabilityStates) (l : List (CapabilityDefinition H)) :
    ∀ dispatcher : Dispatcher H, l.foldl (registerEnabled state) dispatcher =
      (l.filterMap fun d => (enabledEntry state d.manifest.capability).map (d, ·)).foldl
        (fun dispatcher p => p.1.register dispatcher p.2) dispatcher := by
  induction l with
  | nil => exact fun _ => rfl
  | cons d l ih =>
    intro dispatcher
    rw [List.foldl_cons, ih, registerEnabled]
    cases h : enabledEntry state d.manifest.capability with
    | none => simp [h]
    | some e => simp [h]

/-- **A dispatcher is the governance surface with the registrations of what is
applied**, and no others. -/
theorem compose_eq_applied (base : Dispatcher H) (state : CapabilityStates) (admin : Bool) :
    compose host base state admin =
      (applied host state).foldl (fun dispatcher p => p.1.register dispatcher p.2)
        (governanceSurface host base admin) := by
  exact foldl_registerEnabled state host.available (governanceSurface host base admin)

/-- A task of a definition alone: it registers the task whenever it is enabled,
other capabilities leave the task as it is, and the governance surface does not
have it. -/
structure OwnTask (host : CapabilityHost H) (d : CapabilityDefinition H) (u : TypeUri) : Prop where
  own : ∀ dispatcher entry, ((d.register dispatcher entry).get? u).isSome = true
  others : ∀ d' ∈ host.available, d'.manifest.capability ≠ d.manifest.capability →
    ∀ dispatcher entry, (d'.register dispatcher entry).get? u = dispatcher.get? u
  base : (governanceSurface host host.base true).get? u = none

theorem isSome_foldl_register {u : TypeUri} {k : String}
    (l : List (CapabilityDefinition H × CapabilityState))
    (hown : ∀ p ∈ l, p.1.manifest.capability = k →
      ∀ dispatcher, ((p.1.register dispatcher p.2).get? u).isSome = true)
    (hothers : ∀ p ∈ l, p.1.manifest.capability ≠ k →
      ∀ dispatcher, (p.1.register dispatcher p.2).get? u = dispatcher.get? u) :
    ∀ dispatcher : Dispatcher H,
      ((l.foldl (fun dispatcher p => p.1.register dispatcher p.2) dispatcher).get? u).isSome = true ↔
        (dispatcher.get? u).isSome = true ∨ ∃ p ∈ l, p.1.manifest.capability = k := by
  induction l with
  | nil => simp
  | cons p l ih =>
    intro dispatcher
    rw [List.foldl_cons, ih (fun q hq => hown q (List.mem_cons_of_mem _ hq))
      (fun q hq => hothers q (List.mem_cons_of_mem _ hq))]
    by_cases hp : p.1.manifest.capability = k
    · simp [hown p List.mem_cons_self hp, hp]
    · rw [hothers p List.mem_cons_self hp]
      simp [hp]

/-- **A capability's own task is served exactly when its entry is enabled.** -/
theorem served_iff {state : CapabilityStates} {d : CapabilityDefinition H} {u : TypeUri}
    (hd : d ∈ host.available) (hu : OwnTask host d u)
    (hunique : ∀ d' ∈ host.available, d'.manifest.capability = d.manifest.capability → d' = d) :
    ((compose host host.base state true).get? u).isSome = true ↔
      (enabledEntry state d.manifest.capability).isSome = true := by
  have happlied : ∀ p ∈ applied host state, p.1 ∈ host.available := fun p hp =>
    (mem_applied_iff.mp hp).1
  rw [compose_eq_applied, isSome_foldl_register (k := d.manifest.capability) (applied host state)
    (fun p hp hk dispatcher => by rw [hunique p.1 (happlied p hp) hk]; exact hu.own dispatcher p.2)
    (fun p hp hk dispatcher => hu.others p.1 (happlied p hp) hk dispatcher p.2), hu.base]
  constructor
  · rintro (h | ⟨⟨d', e⟩, hp, hk⟩)
    · cases h
    · obtain ⟨_, hget⟩ := mem_applied_iff.mp hp
      rw [show d'.manifest.capability = d.manifest.capability from hk] at hget
      rw [enabledEntry_eq_some.mpr hget, Option.isSome_some]
  · intro h
    obtain ⟨e, he⟩ := Option.isSome_iff_exists.mp h
    exact .inr ⟨(d, e), mem_applied_iff.mpr ⟨hd, enabledEntry_eq_some.mp he⟩, rfl⟩

/-- The tasks of commit signing are its own. -/
theorem GitTrust.ownTask {u : TypeUri} (hu : u = .gitTrustGrant ∨ u = .gitTrustRevoke) :
    OwnTask serveHost GitTrust.definition u where
  own dispatcher entry := by
    show ((GitTrust.register dispatcher entry).get? u).isSome = true
    rw [GitTrust.register, Dispatcher.get?_on, Dispatcher.get?_on]
    rcases hu with rfl | rfl
    · rw [if_neg (by decide), if_pos rfl, Option.isSome_some]
    · rw [if_pos rfl, Option.isSome_some]
  others d hd hne := by
    obtain rfl : d = GitTrust.definition := List.mem_singleton.mp hd
    exact absurd rfl hne
  base := by rcases hu with rfl | rfl <;> decide

/-- **Grants and revocations are served exactly while commit signing is enabled.** -/
theorem GitTrust.served_iff (state : CapabilityStates) {u : TypeUri}
    (hu : u = .gitTrustGrant ∨ u = .gitTrustRevoke) :
    ((compose serveHost serveHost.base state true).get? u).isSome = true ↔
      (enabledEntry state GitTrust.slug).isSome = true := by
  have hd : GitTrust.definition ∈ serveHost.available := List.mem_singleton_self _
  exact TrustRegistry.served_iff hd (GitTrust.ownTask hu) fun d hd' _ => List.mem_singleton.mp hd'

/-! ### Calls and crashes, step by step -/

/-- How far a call has come, with the entry it writes. -/
inductive ChangePhase
  | idle
  | changed (capability : String) (entry : CapabilityState)
  | saved (capability : String) (entry : CapabilityState)
  | swapped (capability : String) (entry : CapabilityState)

/-- The set, and the call that holds the lock. -/
structure CapabilityRuntime (H : Type*) where
  set : CapabilitySet H
  phase : ChangePhase

/-- The steps of a call, and the death of the process with a start over the
store. -/
inductive RuntimeAction
  | begin (now : ℤ) (c : CapabilityCall)
  | save
  | swapAdmin
  | swapQuery
  | crash

namespace CapabilityRuntime

variable (host) in
/-- The set as it starts over a store. -/
def started (stored : CapabilityStates) : CapabilityRuntime H := ⟨.new host stored, .idle⟩

variable (host) in
/-- One step.  A call that its checks refuse returns at once. -/
def step (s : CapabilityRuntime H) : RuntimeAction → Option (CapabilityRuntime H)
  | .begin now c =>
    match s.phase with
    | .idle =>
      match c.accept host now s.set.state with
      | .error _ => some s
      | .ok entry =>
        some ⟨{ s.set with state := s.set.state.insert c.capability entry },
          .changed c.capability entry⟩
    | _ => none
  | .save =>
    match s.phase with
    | .changed k entry => some ⟨{ s.set with stored := s.set.state }, .saved k entry⟩
    | _ => none
  | .swapAdmin =>
    match s.phase with
    | .saved k entry =>
      some ⟨{ s.set with dispatcher := compose host host.base s.set.state true }, .swapped k entry⟩
    | _ => none
  | .swapQuery =>
    match s.phase with
    | .swapped _ _ =>
      some ⟨{ s.set with queryDispatcher := compose host host.baseQuery s.set.state false }, .idle⟩
    | _ => none
  | .crash => some (started host s.set.stored)

variable (host) in
/-- Every way a step can go. -/
inductive Stepped (s : CapabilityRuntime H) : RuntimeAction → CapabilityRuntime H → Prop
  | refused {now : ℤ} {c : CapabilityCall} {e : CapabilityError} (hphase : s.phase = .idle)
      (haccept : c.accept host now s.set.state = .error e) : Stepped s (.begin now c) s
  | began {now : ℤ} {c : CapabilityCall} {entry : CapabilityState} (hphase : s.phase = .idle)
      (haccept : c.accept host now s.set.state = .ok entry) :
      Stepped s (.begin now c) ⟨{ s.set with state := s.set.state.insert c.capability entry },
        .changed c.capability entry⟩
  | saved {k : String} {entry : CapabilityState} (hphase : s.phase = .changed k entry) :
      Stepped s .save ⟨{ s.set with stored := s.set.state }, .saved k entry⟩
  | swappedAdmin {k : String} {entry : CapabilityState} (hphase : s.phase = .saved k entry) :
      Stepped s .swapAdmin
        ⟨{ s.set with dispatcher := compose host host.base s.set.state true }, .swapped k entry⟩
  | swappedQuery {k : String} {entry : CapabilityState} (hphase : s.phase = .swapped k entry) :
      Stepped s .swapQuery
        ⟨{ s.set with queryDispatcher := compose host host.baseQuery s.set.state false }, .idle⟩
  | crashed : Stepped s .crash (started host s.set.stored)

theorem stepped_of_step {s s' : CapabilityRuntime H} {a : RuntimeAction}
    (h : s.step host a = some s') : Stepped host s a s' := by
  cases a with
  | begin now c =>
    simp only [step] at h
    split at h
    · next hphase =>
      split at h
      · next e haccept =>
        obtain rfl := Option.some.inj h
        exact .refused hphase haccept
      · next entry haccept =>
        obtain rfl := Option.some.inj h
        exact .began hphase haccept
    · cases h
  | crash =>
    obtain rfl := Option.some.inj h
    exact .crashed
  | save =>
    simp only [step] at h
    split at h
    · next k entry hphase =>
      obtain rfl := Option.some.inj h
      exact .saved hphase
    · cases h
  | swapAdmin =>
    simp only [step] at h
    split at h
    · next k entry hphase =>
      obtain rfl := Option.some.inj h
      exact .swappedAdmin hphase
    · cases h
  | swapQuery =>
    simp only [step] at h
    split at h
    · next k entry hphase =>
      obtain rfl := Option.some.inj h
      exact .swappedQuery hphase
    · cases h

/-- **A call is its steps taken in a row**: one that is accepted is saved and
composes both dispatchers. -/
theorem run_call (set : CapabilitySet H) (now : ℤ) (c : CapabilityCall) :
    ∃ as, exec (step host) ⟨set, .idle⟩ (.begin now c :: as)
      = some ⟨(set.call host now (.ok ()) c).2, .idle⟩ := by
  rw [CapabilitySet.call_eq]
  cases haccept : c.accept host now set.state with
  | error e => exact ⟨[], by simp [exec, step, haccept]⟩
  | ok entry =>
    exact ⟨[.save, .swapAdmin, .swapQuery], by
      simp [exec, step, haccept, CapabilitySet.persist, CapabilitySet.rebuild]⟩

/-- **A call over the wire is the same call.** -/
theorem wire_call {F : Framework} {newId : String} {doc : TrustTask} (set : CapabilitySet H)
    (now : ℤ) (save : Except String Unit) :
    (∀ p, (handleCapabilityEnable host F newId now save doc p set).2 =
      (set.call host now save
        (.enable p.capability p.version p.configDocument p.delegate)).2) ∧
    (∀ k, (handleCapabilityDisable host F newId save doc k set).2 =
      (set.call host now save (.disable k)).2) :=
  ⟨fun p => handleCapabilityEnable_snd host F newId now save doc p set,
    fun k => handleCapabilityDisable_snd host F newId save doc k set⟩

/-! ### The invariant -/

variable (host) in
/-- What holds at each point of a call: before the saving both dispatchers go with
what is stored, after it memory does, and the dispatchers follow one by one. -/
def Sound (s : CapabilityRuntime H) : Prop :=
  match s.phase with
  | .idle => s.set.state = s.set.stored ∧ s.set.Composed host s.set.stored
  | .changed k entry =>
    s.set.state = s.set.stored.insert k entry ∧ s.set.Composed host s.set.stored
  | .saved k entry => s.set.state = s.set.stored ∧ s.set.stored.get? k = some entry
  | .swapped k entry =>
    s.set.state = s.set.stored ∧ s.set.stored.get? k = some entry ∧
      s.set.dispatcher = compose host host.base s.set.stored true

theorem started_sound (stored : CapabilityStates) : (started host stored).Sound host :=
  ⟨rfl, CapabilitySet.new_composed stored⟩

theorem sound_step {s s' : CapabilityRuntime H} {a : RuntimeAction} (hs : s.Sound host)
    (h : s.step host a = some s') : s'.Sound host := by
  cases stepped_of_step h with
  | refused hphase haccept => exact hs
  | began hphase haccept =>
    rw [Sound, hphase] at hs
    obtain ⟨hstate, hcomposed⟩ := hs
    exact ⟨by rw [hstate], hcomposed⟩
  | saved hphase =>
    rw [Sound, hphase] at hs
    exact ⟨rfl, by rw [hs.1]; exact AssocMap.get?_insert_self _ _ _⟩
  | swappedAdmin hphase =>
    rw [Sound, hphase] at hs
    exact ⟨hs.1, hs.2, by rw [hs.1]⟩
  | swappedQuery hphase =>
    rw [Sound, hphase] at hs
    obtain ⟨hstate, hget, hdispatcher⟩ := hs
    exact ⟨hstate, hdispatcher, by rw [hstate]⟩
  | crashed => exact started_sound s.set.stored

/-- What is stored changes by the saving of the one entry that a call writes. -/
theorem stored_step {s s' : CapabilityRuntime H} {a : RuntimeAction} (hs : s.Sound host)
    (h : s.step host a = some s') : s'.set.stored = s.set.stored ∨
      ∃ k entry, s.phase = .changed k entry ∧ s'.set.stored = s.set.stored.insert k entry := by
  cases stepped_of_step h with
  | saved hphase =>
    rw [Sound, hphase] at hs
    exact .inr ⟨_, _, hphase, hs.1⟩
  | _ => exact .inl rfl

/-- A call that is about to save its entry was so before, or begins and passes its
checks; nothing has been stored yet. -/
theorem changed_of_step {s s' : CapabilityRuntime H} {a : RuntimeAction} {k : String}
    {entry : CapabilityState} (h : s.step host a = some s') (hphase : s'.phase = .changed k entry) :
    s'.set.stored = s.set.stored ∧ (s.phase = .changed k entry ∨
      ∃ now c, a = .begin now c ∧ c.capability = k ∧ s.phase = .idle ∧
        c.accept host now s.set.state = .ok entry) := by
  cases stepped_of_step h with
  | refused hidle haccept => exact ⟨rfl, .inl hphase⟩
  | @began now c entry' hidle haccept =>
    obtain ⟨hk, rfl⟩ := ChangePhase.changed.inj hphase
    exact ⟨rfl, .inr ⟨now, c, rfl, hk, hidle, haccept⟩⟩
  | saved _ => cases hphase
  | swappedAdmin _ => cases hphase
  | swappedQuery _ => cases hphase
  | crashed => cases hphase

/-! ### What runs keep -/

variable (host) in
/-- No call on a capability passes its checks. -/
def Leaves (k : String) (s : CapabilityRuntime H) (a : RuntimeAction) : Prop :=
  ∀ now c, a = .begin now c → c.capability = k → c.Refused host s.set.state

/-- The stored entry of a capability stays while no call on it is accepted. -/
theorem get?_of_leaves {k : String} {s t : CapabilityRuntime H} {as : List RuntimeAction}
    (hrun : Run (step host) (Leaves host k) s as t) (hs : s.Sound host)
    (hphase : ∀ e, s.phase ≠ .changed k e) :
    t.set.stored.get? k = s.set.stored.get? k := by
  suffices h : t.Sound host ∧ (∀ e, t.phase ≠ .changed k e) ∧
      t.set.stored.get? k = s.set.stored.get? k from h.2.2
  refine Run.invariant (I := fun u => u.Sound host ∧ (∀ e, u.phase ≠ .changed k e) ∧
    u.set.stored.get? k = s.set.stored.get? k) ?_ hrun ⟨hs, hphase, rfl⟩
  rintro u a u' ⟨hu, hphase, hget⟩ hleaves hstep
  refine ⟨sound_step hu hstep, fun e he => ?_, ?_⟩
  · -- only a call on the capability would be about to save its entry
    rcases changed_of_step hstep he with ⟨_, h | ⟨now, c, rfl, hk, _, haccept⟩⟩
    · exact hphase e h
    · obtain ⟨error, herror⟩ := CapabilityCall.accept_error_iff.mpr (hleaves now c rfl hk)
      rw [haccept] at herror
      cases herror
  · rcases stored_step hu hstep with h | ⟨k', entry, hk', h⟩
    · rw [h, hget]
    · have hne : k ≠ k' := by
        rintro rfl
        exact hphase entry hk'
      rw [h, AssocMap.get?_insert_of_ne _ _ hne, hget]

/-- An entry that was enabled has been turned off, and is the same otherwise. -/
def TurnedOff (before after : Option CapabilityState) : Prop :=
  ∃ e, before = some e ∧ e.enabled = true ∧ after = some { e with enabled := false }

/-- An entry is turned off once. -/
theorem not_turnedOff_of_turnedOff {o o' o'' : Option CapabilityState} (h : TurnedOff o o') :
    ¬ TurnedOff o' o'' := by
  rintro ⟨e', he', henabled, _⟩
  obtain ⟨e, _, _, he⟩ := h
  rw [he] at he'
  obtain rfl := Option.some.inj he'
  cases henabled

/-- The call that is accepted on a capability that is not there turns it off. -/
theorem turnedOff_of_accept {now : ℤ} {state : CapabilityStates} {c : CapabilityCall}
    {entry : CapabilityState} (hk : host.definition c.capability = none)
    (h : c.accept host now state = .ok entry) :
    TurnedOff (state.get? c.capability) (some entry) := by
  rcases CapabilityCall.accept_ok h with ⟨k, version, config, delegate, rfl, hdefinition, _⟩ |
    ⟨k, old, rfl, hold, rfl⟩
  · rw [show host.definition k = none from hk] at hdefinition
    cases hdefinition
  · obtain ⟨hget, henabled⟩ := enabledEntry_eq_some.mp hold
    exact ⟨old, hget, henabled, rfl⟩

/-- The entry of a capability that is not there stays, or is turned off. -/
theorem get?_of_unknown {k : String} (hk : host.definition k = none)
    {s t : CapabilityRuntime H} {as : List RuntimeAction}
    (hrun : Run (step host) anyAction s as t) (hs : s.Sound host)
    (hphase : ∀ e, s.phase ≠ .changed k e) :
    t.set.stored.get? k = s.set.stored.get? k ∨
      TurnedOff (s.set.stored.get? k) (t.set.stored.get? k) := by
  suffices h : t.Sound host ∧
      (∀ e, t.phase = .changed k e → TurnedOff (t.set.stored.get? k) (some e)) ∧
      (t.set.stored.get? k = s.set.stored.get? k ∨
        TurnedOff (s.set.stored.get? k) (t.set.stored.get? k)) from h.2.2
  refine Run.invariant (I := fun u => u.Sound host ∧
    (∀ e, u.phase = .changed k e → TurnedOff (u.set.stored.get? k) (some e)) ∧
    (u.set.stored.get? k = s.set.stored.get? k ∨
      TurnedOff (s.set.stored.get? k) (u.set.stored.get? k))) ?_ hrun
    ⟨hs, fun e he => absurd he (hphase e), .inl rfl⟩
  rintro u a u' ⟨hu, hpending, hget⟩ _ hstep
  refine ⟨sound_step hu hstep, fun e he => ?_, ?_⟩
  · obtain ⟨hstored, hchanged⟩ := changed_of_step hstep he
    rw [hstored]
    rcases hchanged with h | ⟨now, c, rfl, rfl, hidle, haccept⟩
    · exact hpending e h
    · rw [Sound, hidle] at hu
      rw [hu.1] at haccept
      exact turnedOff_of_accept hk haccept
  · rcases stored_step hu hstep with h | ⟨k', entry, hk', h⟩
    · rwa [h]
    · rw [h]
      by_cases hkk : k = k'
      · subst hkk
        have hoff := hpending entry hk'
        rw [AssocMap.get?_insert_self]
        rcases hget with hget | hget
        · exact .inr (hget ▸ hoff)
        · exact absurd hoff (not_turnedOff_of_turnedOff hget)
      · rwa [AssocMap.get?_insert_of_ne _ _ hkk]

end CapabilityRuntime

/-! ### Convergence -/

/-- Memory, the store and the dispatchers say the same: the dispatchers are the
base and the governance tasks with the registrations of the available capabilities
that the stored state enables. -/
structure Converged (host : CapabilityHost H) (set : CapabilitySet H) : Prop where
  memory : set.state = set.stored
  admin : set.dispatcher =
    (applied host set.stored).foldl (fun dispatcher p => p.1.register dispatcher p.2)
      (governanceSurface host host.base true)
  query : set.queryDispatcher =
    (applied host set.stored).foldl (fun dispatcher p => p.1.register dispatcher p.2)
      (governanceSurface host host.baseQuery false)
  served : ∀ d ∈ host.available, ∀ u, OwnTask host d u →
    ((set.dispatcher.get? u).isSome = true ↔
      (enabledEntry set.stored d.manifest.capability).isSome = true)
  listed : ∀ k, k ∈ (set.list host false).map (fun p => p.1.capability) ↔
    (host.definition k).isSome = true ∧ (enabledEntry set.stored k).isSome = true

/-- The enabled capabilities are listed with their entries. -/
theorem list_eq_applied (set : CapabilitySet H) :
    set.list host false = (applied host set.state).map fun p => (p.1.manifest, some p.2) := by
  rw [CapabilitySet.list, applied, List.map_filterMap]
  refine List.filterMap_congr fun d _ => ?_
  cases h : set.state.get? d.manifest.capability with
  | none => simp [enabledEntry, h]
  | some e => cases he : e.enabled <;> simp [enabledEntry, h, he, Option.filter]

/-- A listed name is the name of a definition that is applied. -/
theorem mem_list_iff {set : CapabilitySet H} {k : String} :
    k ∈ (set.list host false).map (fun p => p.1.capability) ↔
      (host.definition k).isSome = true ∧ (enabledEntry set.state k).isSome = true := by
  rw [list_eq_applied, List.map_map, List.mem_map, CapabilityHost.definition, List.find?_isSome,
    Option.isSome_iff_exists]
  constructor
  · rintro ⟨⟨d, e⟩, hp, rfl⟩
    obtain ⟨hd, he⟩ := mem_applied_iff.mp hp
    exact ⟨⟨d, hd, by simp⟩, e, enabledEntry_eq_some.mpr he⟩
  · rintro ⟨⟨d, hd, hk⟩, e, he⟩
    obtain rfl : d.manifest.capability = k := by simpa using hk
    exact ⟨(d, e), mem_applied_iff.mpr ⟨hd, enabledEntry_eq_some.mp he⟩, rfl⟩

/-- Between two calls a sound set has converged. -/
theorem converged_of_sound {definitions : List (CapabilityDefinition H)}
    {s : CapabilityRuntime H} (hs : s.Sound (host.over definitions)) (hphase : s.phase = .idle) :
    Converged (host.over definitions) s.set := by
  rw [CapabilityRuntime.Sound, hphase] at hs
  obtain ⟨hstate, hadmin, hquery⟩ := hs
  refine ⟨hstate, by rw [hadmin, compose_eq_applied], by rw [hquery, compose_eq_applied], ?_, ?_⟩
  · intro d hd u hu
    rw [hadmin]
    refine served_iff hd hu fun d' hd' hk => ?_
    -- definitions of one name give way to the last one
    have hlast := mem_over_iff.mp hd'
    rw [hk, mem_over_iff.mp hd] at hlast
    exact (Option.some.inj hlast).symm
  · intro k
    rw [mem_list_iff, hstate]

/-- **Memory, the store and the dispatchers converge** after every call and every
restart, whatever the definitions, the stored state and the calls, and wherever
the process dies.  The entry of a call that has returned stays until another call
on the capability is accepted; the entry of a capability that is not there stays,
but for a call that disables it. -/
theorem runs_converge {definitions : List (CapabilityDefinition H)} {stored : CapabilityStates}
    {as : List RuntimeAction} {t : CapabilityRuntime H}
    (hrun : Run (CapabilityRuntime.step (host.over definitions)) anyAction
      (CapabilityRuntime.started (host.over definitions) stored) as t) :
    (t.phase = .idle → Converged (host.over definitions) t.set) ∧
    (∀ k e t', t.phase = .swapped k e →
      t.step (host.over definitions) .swapQuery = some t' →
      ∀ bs u, Run (CapabilityRuntime.step (host.over definitions))
        (CapabilityRuntime.Leaves (host.over definitions) k) t' bs u →
      u.set.stored.get? k = some e) ∧
    (∀ k, (∀ d ∈ definitions, d.manifest.capability ≠ k) →
      t.set.stored.get? k = stored.get? k ∨
        CapabilityRuntime.TurnedOff (stored.get? k) (t.set.stored.get? k) ∧
          ∃ now, .begin now (.disable k) ∈ as) := by
  have hstart : (CapabilityRuntime.started (host.over definitions) stored).Sound
      (host.over definitions) := CapabilityRuntime.started_sound stored
  have hsound : t.Sound (host.over definitions) :=
    Run.invariant (I := fun s => s.Sound (host.over definitions))
      (fun _ _ _ hs _ hstep => CapabilityRuntime.sound_step hs hstep) hrun hstart
  refine ⟨converged_of_sound hsound, ?_, ?_⟩
  · intro k e t' hphase hstep bs u hafter
    have ht' := CapabilityRuntime.sound_step hsound hstep
    cases CapabilityRuntime.stepped_of_step hstep with
    | @swappedQuery k' e' hphase' =>
      obtain ⟨rfl, rfl⟩ := ChangePhase.swapped.inj (hphase.symm.trans hphase')
      rw [CapabilityRuntime.Sound, hphase] at hsound
      rw [CapabilityRuntime.get?_of_leaves hafter ht' (fun _ h => by cases h)]
      exact hsound.2.1
  · intro k hk
    have hnone : (host.over definitions).definition k = none := definition_over_eq_none hk
    by_cases hdisable : ∃ now, RuntimeAction.begin now (.disable k) ∈ as
    · exact (CapabilityRuntime.get?_of_unknown hnone hrun hstart fun _ h => by cases h).imp_right
        fun hoff => ⟨hoff, hdisable⟩
    · -- the calls on it are to enable it, and are refused
      left
      have hleaves : Run (CapabilityRuntime.step (host.over definitions))
          (CapabilityRuntime.Leaves (host.over definitions) k)
          (CapabilityRuntime.started (host.over definitions) stored) as t := by
        refine hrun.restrict fun a ha s now c hac hck => ?_
        subst hac
        cases c with
        | enable k' version config delegate =>
          obtain rfl : k' = k := hck
          exact .inl fun d hd => by rw [hnone] at hd; cases hd
        | disable k' =>
          obtain rfl : k' = k := hck
          exact absurd ⟨now, ha⟩ hdisable
      exact CapabilityRuntime.get?_of_leaves hleaves hstart fun _ h => by cases h

/-- A call that disables commit signing dies between the two dispatchers; the
server starts again over what it has stored, and has converged. -/
theorem disable_crashed_converges :
    let served := serveHost.over [GitTrust.definition]
    let t := CapabilityRuntime.started served (gitTrustStates.insert GitTrust.slug
      ⟨"0.1", false, some (.obj [("authority", .str "did:web:community")]), 0, none⟩)
    Converged served t.set ∧ (t.set.dispatcher.get? .gitTrustGrant).isSome = false := by
  have hrun : Run (CapabilityRuntime.step (serveHost.over [GitTrust.definition])) anyAction
      (CapabilityRuntime.started (serveHost.over [GitTrust.definition]) gitTrustStates)
      [.begin 0 (.disable GitTrust.slug), .save, .swapAdmin, .crash]
      (CapabilityRuntime.started (serveHost.over [GitTrust.definition])
        (gitTrustStates.insert GitTrust.slug
          ⟨"0.1", false, some (.obj [("authority", .str "did:web:community")]), 0, none⟩)) :=
    run_of_exec (fun _ _ _ => trivial) rfl
  exact ⟨(runs_converge hrun).1 rfl, by decide⟩

/-- **A call disables a capability which is not there**: an entry that an earlier
version of the server has left is not kept as it is. -/
theorem disabled_unknown_entry :
    let served := serveHost.over []
    let stored : CapabilityStates :=
      AssocMap.empty.insert "legacy-trust" ⟨"0.1", true, none, 0, none⟩
    served.definition "legacy-trust" = none ∧
      ∃ t, Run (CapabilityRuntime.step served) anyAction (CapabilityRuntime.started served stored)
          [.begin 0 (.disable "legacy-trust"), .save, .swapAdmin, .swapQuery] t ∧
        t.phase = .idle ∧ t.set.stored.get? "legacy-trust" ≠ stored.get? "legacy-trust" := by
  refine ⟨rfl, _, run_of_exec (fun _ _ _ => trivial) rfl, rfl, by decide⟩

end TrustRegistry
