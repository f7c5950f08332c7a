import Mathlib.Data.List.Perm.Subperm
import Mathlib.Logic.Function.Basic
import TrustRegistry.Lib.AssocMap

/-!
# Tables by key

What a table of values by key is for, without its representation: a value can be
created under a key that has none, and updated or deleted under one that has; any
other change is refused and does nothing.  A system refines the table when each of
its steps is a change of the table it stands for, or no change of it.

## Main definitions

* `Change`, with `Change.fits` and `Change.apply` — the changes.
* `contents` — what a list of changes leaves.
* `accepted`, `lastWritten` — the changes that fit, and what a key got last.
* `Enumerates` — a list has the value of each key once.
* `Refinement` — the steps of a system are changes of its table.

## Main results

* `Change.apply_of_ne` — the other keys keep their values.
* `contents_eq_lastWritten` — a key has what was written to it last.
* `Enumerates.mem_iff`, `Enumerates.nodup` — a listing has what the keys have, and
  nothing twice.
* `enumerates_filterMap_iff` — when looking up keys one by one lists the table.
* `Refinement.run` — a run of the system is the list of its changes.
-/

namespace KeyedTable

/-- A change of a table. -/
inductive Change (K V : Type*)
  | create (k : K) (v : V)
  | update (k : K) (v : V)
  | delete (k : K)

variable {K V : Type*} [DecidableEq K]

namespace Change

/-- The key that a change is about. -/
def key : Change K V → K
  | create k _ | update k _ | delete k => k

/-- What the key has afterwards. -/
def result : Change K V → Option V
  | create _ v | update _ v => some v
  | delete _ => none

/-- Does the table have what the change asks for? -/
def fits (m : K → Option V) : Change K V → Bool
  | create k _ => (m k).isNone
  | update k _ | delete k => (m k).isSome

/-- Make a change, if it fits. -/
def apply (m : K → Option V) (c : Change K V) : K → Option V :=
  if c.fits m then Function.update m c.key c.result else m

theorem apply_of_fits {m : K → Option V} {c : Change K V} (h : c.fits m = true) :
    c.apply m = Function.update m c.key c.result := if_pos h

theorem apply_of_not_fits {m : K → Option V} {c : Change K V} (h : c.fits m = false) :
    c.apply m = m := by
  rw [apply, h]
  rfl

theorem apply_key {m : K → Option V} {c : Change K V} (h : c.fits m = true) :
    c.apply m c.key = c.result := by
  rw [apply_of_fits h]
  exact Function.update_self _ _ _

/-- A change does nothing when it does not fit, or leaves its key what it has. -/
theorem apply_eq_self_iff {m : K → Option V} {c : Change K V} :
    c.apply m = m ↔ c.fits m = false ∨ m c.key = c.result := by
  cases hfits : c.fits m with
  | false => simp [apply_of_not_fits hfits]
  | true =>
    rw [apply_of_fits hfits, Function.update_eq_self_iff]
    simp [eq_comm]

/-- A change leaves the other keys as they are. -/
theorem apply_of_ne {m : K → Option V} {c : Change K V} {k : K} (h : k ≠ c.key) :
    c.apply m k = m k := by
  cases hfits : c.fits m with
  | true => rw [apply_of_fits hfits, Function.update_of_ne h]
  | false => rw [apply_of_not_fits hfits]

end Change

/-! ### Lists of changes -/

/-- What a list of changes leaves of a table. -/
def contents (m : K → Option V) (cs : List (Change K V)) : K → Option V :=
  cs.foldl (fun m c => c.apply m) m

theorem contents_append (m : K → Option V) (cs ds : List (Change K V)) :
    contents m (cs ++ ds) = contents (contents m cs) ds := List.foldl_append

/-- The changes of a list that fit when their turn comes. -/
def accepted (m : K → Option V) : List (Change K V) → List (Change K V)
  | [] => []
  | c :: cs => if c.fits m then c :: accepted (c.apply m) cs else accepted m cs

/-- What was written to a key last, from the value `v` that it had. -/
def lastWritten (k : K) (v : Option V) (cs : List (Change K V)) : Option V :=
  cs.foldl (fun v c => if c.key = k then c.result else v) v

/-- **A key has what was written to it last.** -/
theorem contents_eq_lastWritten (k : K) (cs : List (Change K V)) : ∀ m : K → Option V,
    contents m cs k = lastWritten k (m k) (accepted m cs) := by
  induction cs with
  | nil => exact fun _ => rfl
  | cons c cs ih =>
    intro m
    have hstep : contents m (c :: cs) k = lastWritten k (c.apply m k) (accepted (c.apply m) cs) :=
      ih (c.apply m)
    rw [hstep, accepted]
    cases hfits : c.fits m with
    | false => rw [Change.apply_of_not_fits hfits, if_neg Bool.false_ne_true]
    | true =>
      have hval : c.apply m k = if c.key = k then c.result else m k := by
        by_cases hk : c.key = k
        · rw [if_pos hk, ← hk, Change.apply_key hfits]
        · rw [if_neg hk, Change.apply_of_ne (Ne.symm hk)]
      rw [if_pos rfl, hval]
      rfl

/-! ### Listings -/

/-- The list has, in some order, the value of each key that has one, and has it
once. -/
def Enumerates (m : K → Option V) (l : List V) : Prop :=
  ∃ entries : List (K × V), (entries.map Prod.fst).Nodup ∧
    (∀ k v, (k, v) ∈ entries ↔ m k = some v) ∧ l.Perm (entries.map Prod.snd)

/-- An association list enumerates the table it is. -/
theorem enumerates_values (m : AssocMap K V) : Enumerates m.get? m.values :=
  ⟨m.entries, m.nodup, fun _ _ => AssocMap.mem_entries_iff, List.Perm.refl _⟩

omit [DecidableEq K] in
/-- What is listed is what some key has. -/
theorem Enumerates.mem_iff {m : K → Option V} {l : List V} (h : Enumerates m l) {v : V} :
    v ∈ l ↔ ∃ k, m k = some v := by
  obtain ⟨entries, -, hmem, hperm⟩ := h
  rw [hperm.mem_iff, List.mem_map]
  constructor
  · rintro ⟨⟨k, v'⟩, he, rfl⟩
    exact ⟨k, (hmem k v').mp he⟩
  · rintro ⟨k, hk⟩
    exact ⟨(k, v), (hmem k v).mpr hk, rfl⟩

omit [DecidableEq K] in
/-- When a value stands under one key alone, no value is listed twice. -/
theorem Enumerates.nodup {m : K → Option V} {l : List V} (h : Enumerates m l)
    (hinj : ∀ k k' v, m k = some v → m k' = some v → k = k') : l.Nodup := by
  obtain ⟨entries, hnodup, hmem, hperm⟩ := h
  refine hperm.nodup_iff.mpr ((List.nodup_map_iff_inj_on (List.Nodup.of_map _ hnodup)).mpr ?_)
  rintro ⟨k, v⟩ he ⟨k', v'⟩ he' rfl
  have hk : k = k' := hinj k k' v ((hmem k v).mp he) ((hmem k' v).mp he')
  rw [hk]

omit [DecidableEq K] in
/-- The keys of a list that have a value. -/
theorem map_fst_filterMap (m : K → Option V) (l : List K) :
    (l.filterMap fun k => (m k).map (k, ·)).map Prod.fst = l.filter fun k => (m k).isSome := by
  rw [List.map_filterMap, ← List.filterMap_eq_filter]
  refine List.filterMap_congr fun k _ => ?_
  cases h : m k <;> simp [Option.guard, h]

omit [DecidableEq K] in
/-- **Looking up keys one by one lists the table** exactly when, of all the keys that
have a value, none is looked up twice. -/
theorem enumerates_filterMap_iff {m : K → Option V} {l : List K}
    (hall : ∀ k v, m k = some v → k ∈ l) :
    Enumerates m (l.filterMap m) ↔ (l.filter fun k => (m k).isSome).Nodup := by
  constructor
  · rintro ⟨entries, hnodup, hmem, hperm⟩
    have hsub : entries.map Prod.fst ⊆ l.filter fun k => (m k).isSome := by
      intro k hk
      obtain ⟨⟨j, v⟩, he, rfl⟩ := List.mem_map.mp hk
      have hv := (hmem j v).mp he
      exact List.mem_filter.mpr ⟨hall j v hv, by simp [hv]⟩
    have hlength : (l.filter fun k => (m k).isSome).length ≤ (entries.map Prod.fst).length := by
      have h := hperm.length_eq
      rw [List.length_filterMap_eq_countP, List.countP_eq_length_filter, List.length_map] at h
      rw [List.length_map]
      exact Nat.le_of_eq h
    exact ((List.subperm_of_subset hnodup hsub).perm_of_length_le hlength).nodup hnodup
  · intro h
    refine ⟨l.filterMap fun k => (m k).map (k, ·), ?_, fun k v => ?_, ?_⟩
    · rwa [map_fst_filterMap]
    · rw [List.mem_filterMap]
      constructor
      · rintro ⟨j, -, hj⟩
        obtain ⟨v', hv', heq⟩ := Option.map_eq_some_iff.mp hj
        obtain ⟨rfl, rfl⟩ := Prod.mk.inj heq
        exact hv'
      · intro hv
        exact ⟨k, hall k v hv, by simp [hv]⟩
    · simp [List.map_filterMap, Function.comp_def]

/-! ### Systems that keep a table -/

/-- Every step of the system changes the table it stands for by one change, or not
at all. -/
structure Refinement {σ C : Type*} (step : σ → C → σ) (change : C → Option (Change K V))
    (lookup : σ → K → Option V) (Inv : σ → Prop) : Prop where
  inv : ∀ s c, Inv s → Inv (step s c)
  lookup : ∀ s c, Inv s → lookup (step s c) = contents (lookup s) (change c).toList

/-- **A run of the system is the list of its changes.** -/
theorem Refinement.run {σ C : Type*} {step : σ → C → σ} {change : C → Option (Change K V)}
    {lookup : σ → K → Option V} {Inv : σ → Prop} (h : Refinement step change lookup Inv)
    (cs : List C) : ∀ s, Inv s → Inv (cs.foldl step s) ∧
      lookup (cs.foldl step s) = contents (lookup s) (cs.filterMap change) := by
  induction cs with
  | nil => exact fun s hs => ⟨hs, rfl⟩
  | cons c cs ih =>
    intro s hs
    obtain ⟨hinv, hlookup⟩ := ih (step s c) (h.inv s c hs)
    refine ⟨hinv, ?_⟩
    have hchanges : (c :: cs).filterMap change = (change c).toList ++ cs.filterMap change := by
      cases hc : change c with
      | none => rw [List.filterMap_cons_none hc, Option.toList_none, List.nil_append]
      | some d => rw [List.filterMap_cons_some hc, Option.toList_some, List.singleton_append]
    rw [List.foldl_cons, hlookup, h.lookup s c hs, hchanges, contents_append]

end KeyedTable
