import TrustRegistry.Capabilities.CapabilitySet
import TrustRegistry.Lib.JsonShape

/-!
# The stores of the capability state

The enablement of the capabilities is kept in memory, or in a file as a JSON text.
A restart reads the file: what comes back is what was written, but for the rounding
of numbers, and a configuration that is `null` comes back as none.

## Main definitions

* `StateForm` — how states are written to a text and read back.
* `CapabilityState.toJson`, `CapabilityState.ofJson` — the form of one state.
* `CapabilityStore` — the two stores, with `CapabilityStore.load`.
* `CapabilityStore.Faithful` — texts are read back up to their numbers.

## Main results

* `get?_load` — an entry that is loaded is one that was saved, enabled or not as it
  was, with a configuration of the same shape.
* `load_saved` — a store that keeps texts and times gives back what was saved.
-/

namespace TrustRegistry

/-- How states are written and read back: the form of times, what comes of a
document that is written as text and parsed again, and what a document that does
not fit is told. -/
structure StateForm where
  dateTime : ℤ → Json
  readDateTime : Json → Option ℤ
  readBack : Json → Except String Json
  mismatch : Json → String

namespace CapabilityState

variable (form : StateForm)

/-- The names of the members, in order. -/
def fieldNames : List String := ["version", "enabled", "config", "enabledAt", "delegate"]

/-- The JSON form of a state.  No configuration is `null`, no delegate is left
out. -/
def toJson (s : CapabilityState) : Json :=
  .obj ([("version", .str s.version), ("enabled", .bool s.enabled),
      ("config", s.config.getD .null), ("enabledAt", form.dateTime s.enabledAt)]
    ++ s.delegate.toList.map (fun d => ("delegate", .str d)))

/-- The members a state is read from; an array may leave out the last. -/
def members : Json → Option (List (String × Json))
  | .obj l => some l
  | .arr l => if l.length = 4 ∨ l.length = 5 then some (fieldNames.zip l) else none
  | _ => none

/-- Read a state from its JSON form.  A configuration and a delegate may be absent
or `null`. -/
def ofJson (j : Json) : Option CapabilityState := do
  let m ← members j
  let version ← (Json.member "version" m).bind Json.asStr
  let enabled ← (Json.member "enabled" m).bind Json.asBool
  let config ← Json.optional some (Json.member "config" m)
  let enabledAt ← (Json.member "enabledAt" m).bind form.readDateTime
  let delegate ← Json.optional Json.asStr (Json.member "delegate" m)
  return ⟨version, enabled, config, enabledAt, delegate⟩

/-- The form of all states. -/
def statesToJson (states : CapabilityStates) : Json :=
  .obj (states.entries.map fun e => (e.1, toJson form e.2))

/-- Read all states; of two members with one name the later counts. -/
def statesOfJson : Json → Option CapabilityStates
  | .obj l => (l.mapM fun m => (ofJson form m.2).map (m.1, ·)).map AssocMap.ofList
  | _ => none

end CapabilityState

/-! ### The stores -/

/-- Where the state is kept. -/
inductive CapabilityStore
  | memory
  | file (path : String) (form : StateForm)

namespace CapabilityStore

/-- What is loaded from a store in which a state has been saved, or none so far. -/
def load : CapabilityStore → Option CapabilityStates → Except String CapabilityStates
  | _, none => .ok AssocMap.empty
  | memory, some states => .ok states
  | file path form, some states =>
    let corrupt e := .error s!"capability state {path} is corrupt: {e}"
    match form.readBack (CapabilityState.statesToJson form states) with
    | .error e => corrupt e
    | .ok j =>
      match CapabilityState.statesOfJson form j with
      | some loaded => .ok loaded
      | none => corrupt (form.mismatch j)

/-- What is still saved when the process has ended. -/
def surviving : CapabilityStore → Option CapabilityStates → Option CapabilityStates
  | memory, _ => none
  | file _ _, saved => saved

/-- A document is read back from its text up to its numbers. -/
def Faithful : CapabilityStore → Prop
  | memory => True
  | file _ form => ∀ j j', form.readBack j = .ok j' → j'.shape = j.shape

end CapabilityStore

/-! ### What comes back -/

namespace CapabilityState

/-- A state that differs from another in its time, and in the numbers of its
configuration, at most. -/
structure Alike (s s' : CapabilityState) : Prop where
  version : s'.version = s.version
  enabled : s'.enabled = s.enabled
  config : (s'.config.getD .null).shape = (s.config.getD .null).shape
  delegate : s'.delegate = s.delegate

theorem Alike.refl (s : CapabilityState) : s.Alike s := ⟨rfl, rfl, rfl, rfl⟩

variable {form : StateForm}

/-- What the members are that a state is read from. -/
theorem ofJson_eq_some {j : Json} {s : CapabilityState} (h : ofJson form j = some s) :
    ∃ m, members j = some m ∧ (Json.member "version" m).bind Json.asStr = some s.version ∧
      (Json.member "enabled" m).bind Json.asBool = some s.enabled ∧
      Json.optional some (Json.member "config" m) = some s.config ∧
      Json.optional Json.asStr (Json.member "delegate" m) = some s.delegate := by
  unfold ofJson at h
  simp only [bind, Option.bind_eq_some_iff, pure] at h
  obtain ⟨m, hm, version, hversion, enabled, henabled, config, hconfig, enabledAt, -, delegate,
    hdelegate, hs⟩ := h
  obtain rfl := Option.some.inj hs
  exact ⟨m, hm, Option.bind_eq_some_iff.mpr hversion, Option.bind_eq_some_iff.mpr henabled,
    hconfig, hdelegate⟩

/-- A document of the shape of an object is an object. -/
theorem eq_obj_of_shape {j : Json} {l : List (String × Json)} (h : j.shape = .obj l) :
    ∃ l', j = .obj l' ∧ Json.shapeMembers l' = l := by
  cases j with
  | obj l' => exact ⟨l', rfl, Json.obj.inj h⟩
  | _ => simp [Json.shape] at h

/-- A configuration is the document it is read from, where none is `null`. -/
theorem getD_of_optional {j : Json} {config : Option Json}
    (h : Json.optional some (some j) = some config) : config.getD .null = j := by
  cases j with
  | null =>
    obtain rfl : none = config := by simpa [Json.optional] using h
    rfl
  | _ =>
    obtain rfl := Option.some.inj h
    rfl

theorem delegate_of_optional {o : Option Json} {delegate delegate' : Option String}
    (h : Json.optional Json.asStr o = some delegate')
    (hshape : o.map Json.shape = delegate.map Json.str) : delegate' = delegate := by
  cases o with
  | none =>
    obtain rfl := Option.some.inj h
    cases delegate with
    | none => rfl
    | some d => cases hshape
  | some j =>
    cases delegate with
    | none => cases hshape
    | some d =>
      cases j with
      | str d' =>
        obtain rfl : d' = d := by simpa [Json.shape] using hshape
        exact (Option.some.inj h).symm
      | _ => simp [Json.shape] at hshape

/-- **A state that is read from a document of its own shape is alike.** -/
theorem alike_of_ofJson {s s' : CapabilityState} {j : Json}
    (hshape : j.shape = (toJson form s).shape) (h : ofJson form j = some s') : s.Alike s' := by
  obtain ⟨m, hm, hversion, henabled, hconfig, hdelegate⟩ := ofJson_eq_some h
  obtain ⟨l, rfl, hl⟩ := eq_obj_of_shape hshape
  obtain rfl : l = m := Option.some.inj hm
  have hmember := Json.member_of_shape_eq hl
  refine ⟨?_, ?_, ?_, ?_⟩
  · rw [Json.bind_member_of_shape_eq hl "version" Json.asStr_shape] at hversion
    exact (Option.some.inj hversion).symm
  · rw [Json.bind_member_of_shape_eq hl "enabled" Json.asBool_shape] at henabled
    exact (Option.some.inj henabled).symm
  · have hc := hmember "config"
    cases hj : Json.member "config" l with
    | none => simp [hj, Json.member_cons] at hc
    | some c =>
      rw [hj] at hc hconfig
      rw [getD_of_optional hconfig]
      simpa [Json.member_cons] using hc
  · refine delegate_of_optional hdelegate ?_
    rw [hmember "delegate"]
    cases s.delegate <;> simp [Json.member_cons, Json.shape]

end CapabilityState

/-- What comes out of a list was made of one of its items. -/
theorem exists_of_mem_mapM {α β : Type*} {f : α → Option β} {l : List α} :
    ∀ {l' : List β}, l.mapM f = some l' → ∀ y ∈ l', ∃ x ∈ l, f x = some y := by
  induction l with
  | nil =>
    intro l' h y hy
    obtain rfl := Option.some.inj h
    cases hy
  | cons x l ih =>
    intro l' h y hy
    rw [List.mapM_cons] at h
    obtain ⟨z, hz, h⟩ := Option.bind_eq_some_iff.mp h
    obtain ⟨rest, hrest, h⟩ := Option.bind_eq_some_iff.mp h
    obtain rfl := Option.some.inj h
    rcases List.mem_cons.mp hy with rfl | hy
    · exact ⟨x, List.mem_cons_self, hz⟩
    · obtain ⟨x', hx', hf⟩ := ih hrest y hy
      exact ⟨x', List.mem_cons_of_mem _ hx', hf⟩

namespace CapabilityStore

/-- The entries that are read from the text of some states are alike. -/
theorem get?_statesOfJson {form : StateForm} {states loaded : CapabilityStates} {j : Json}
    (hshape : j.shape = (CapabilityState.statesToJson form states).shape)
    (h : CapabilityState.statesOfJson form j = some loaded) {k : String} {s' : CapabilityState}
    (hget : loaded.get? k = some s') : ∃ s, states.get? k = some s ∧ s.Alike s' := by
  obtain ⟨l, rfl, hl⟩ := CapabilityState.eq_obj_of_shape hshape
  obtain ⟨read, hread, rfl⟩ := Option.map_eq_some_iff.mp h
  rw [AssocMap.get?_ofList] at hget
  have hmem : (k, s') ∈ read := List.mem_reverse.mp (AssocMap.mem_of_find hget)
  obtain ⟨⟨name, v⟩, hv, hf⟩ := exists_of_mem_mapM hread _ hmem
  obtain ⟨s'', hs'', heq⟩ := Option.map_eq_some_iff.mp hf
  obtain ⟨rfl, rfl⟩ := Prod.mk.inj heq
  -- the member has the shape of one that was written
  have hwritten : (name, v.shape) ∈ Json.shapeMembers l := by
    rw [Json.shapeMembers_eq_map]
    exact List.mem_map_of_mem (f := fun m => (m.1, m.2.shape)) hv
  rw [hl, Json.shapeMembers_eq_map, List.map_map] at hwritten
  obtain ⟨⟨k, s⟩, hs, heq⟩ := List.mem_map.mp hwritten
  obtain ⟨rfl, hvs⟩ := Prod.mk.inj heq
  exact ⟨s, AssocMap.mem_entries_iff.mp hs, CapabilityState.alike_of_ofJson hvs.symm hs''⟩

/-- **An entry that is loaded is alike to one that was saved.** -/
theorem get?_load {store : CapabilityStore} (hstore : store.Faithful)
    {saved : Option CapabilityStates} {loaded : CapabilityStates}
    (h : store.load saved = .ok loaded) {k : String} {s' : CapabilityState}
    (hget : loaded.get? k = some s') :
    ∃ states s, saved = some states ∧ states.get? k = some s ∧ s.Alike s' := by
  cases saved with
  | none =>
    obtain rfl : AssocMap.empty = loaded := by cases store <;> exact Except.ok.inj h
    cases hget
  | some states =>
    cases store with
    | memory =>
      obtain rfl := Except.ok.inj h
      exact ⟨states, s', rfl, hget, .refl s'⟩
    | file path form =>
      simp only [load] at h
      split at h
      · cases h
      · next j hj =>
        split at h
        · next loaded' hloaded =>
          obtain rfl := Except.ok.inj h
          obtain ⟨s, hs, halike⟩ := get?_statesOfJson (hstore _ _ hj) hloaded hget
          exact ⟨states, s, rfl, hs, halike⟩
        · cases h

/-! ### A store that keeps everything -/

/-- Texts are read back as they are, and so are times. -/
structure Exact (form : StateForm) : Prop where
  readBack : ∀ j, form.readBack j = .ok j
  dateTime : ∀ t, form.readDateTime (form.dateTime t) = some t

/-- Times as numbers, and texts that stand for their documents. -/
def plain : StateForm where
  dateTime t := .num t 0
  readDateTime
    | .num t _ => some t
    | _ => none
  readBack j := .ok j
  mismatch _ := "invalid type"

theorem exact_plain : Exact plain := ⟨fun _ => rfl, fun _ => rfl⟩

theorem Exact.faithful {form : StateForm} (h : Exact form) (path : String) :
    (file path form).Faithful := by
  intro j j' hread
  rw [h.readBack j] at hread
  rw [Except.ok.inj hread]

/-- A state as it comes back: with no configuration for one that is `null`. -/
def asLoaded (s : CapabilityState) : CapabilityState :=
  { s with config := s.config.filter fun c => c ≠ .null }

theorem optional_getD (config : Option Json) :
    Json.optional some (some (config.getD .null)) = some (config.filter fun c => c ≠ .null) := by
  cases config with
  | none => rfl
  | some c =>
    rw [Option.filter_some]
    cases c <;> simp [Json.optional]

/-- A state is read back from its JSON form, but for a configuration that is
`null`. -/
theorem ofJson_toJson {form : StateForm} (h : Exact form) (s : CapabilityState) :
    CapabilityState.ofJson form (s.toJson form) = some (asLoaded s) := by
  obtain ⟨version, enabled, config, enabledAt, delegate⟩ := s
  have hconfig := optional_getD config
  have hdelegate : ∀ d, Json.optional Json.asStr (some (.str d)) = some (some d) := fun _ => rfl
  cases delegate with
  | none =>
    simp [CapabilityState.toJson, CapabilityState.ofJson, CapabilityState.members,
      Json.member_cons, Json.asStr, Json.asBool, hconfig, h.dateTime, asLoaded]
  | some d =>
    simp [CapabilityState.toJson, CapabilityState.ofJson, CapabilityState.members,
      Json.member_cons, Json.asStr, Json.asBool, hconfig, hdelegate, h.dateTime, asLoaded]

/-- **A store that keeps everything gives back what was saved**, with no
configuration for one that is `null`. -/
theorem load_saved {form : StateForm} (h : Exact form) (path : String) (states : CapabilityStates) :
    ∃ loaded, (file path form).load (some states) = .ok loaded ∧
      ∀ k, loaded.get? k = (states.get? k).map asLoaded := by
  let kept : String × CapabilityState → String × CapabilityState := fun e => (e.1, asLoaded e.2)
  have hread : ∀ l : List (String × CapabilityState),
      (l.map fun e => (e.1, e.2.toJson form)).mapM
        (fun m => (CapabilityState.ofJson form m.2).map (m.1, ·)) = some (l.map kept) := by
    intro l
    induction l with
    | nil => rfl
    | cons e l ih =>
      rw [List.map_cons, List.mapM_cons, ofJson_toJson h, ih]
      rfl
  refine ⟨AssocMap.ofList (states.entries.map kept), ?_, fun k => ?_⟩
  · simp only [load, h.readBack, CapabilityState.statesOfJson, CapabilityState.statesToJson, hread,
      Option.map_some]
  · have hkeys : ((states.entries.map kept).reverse.map Prod.fst).Nodup := by
      rw [List.map_reverse, List.nodup_reverse, List.map_map]
      exact states.nodup
    rw [AssocMap.get?_ofList]
    cases hget : states.get? k with
    | none =>
      refine AssocMap.find_eq_none_iff.mpr fun hk => ?_
      rw [List.map_reverse, List.mem_reverse, List.map_map] at hk
      exact AssocMap.find_eq_none_iff.mp hget hk
    | some s =>
      refine AssocMap.find_of_mem hkeys (List.mem_reverse.mpr ?_)
      exact List.mem_map.mpr ⟨(k, s), AssocMap.mem_of_find hget, rfl⟩

end CapabilityStore

end TrustRegistry
