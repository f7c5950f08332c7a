import Mathlib.Data.List.Forall2
import Mathlib.Data.Option.Defs
import TrustRegistry.Lib.AssocMap
import TrustRegistry.Lib.Transition

/-!
# A map that is saved as a whole

A process keeps a map in memory and now and then saves all of it.  What was put and
not saved is lost when the process ends, and the next one starts from what was saved;
but a put that was not saved at once is saved with the next one that is.  What is saved
may come back changed in ways that do not matter, up to a preorder on the values.

## Main definitions

* `AssocMap.Rel r m m'` — the maps have the same keys, with related values.
* `SavedMap`, `SavedMap.step` — the map in memory and the saved one.
* `SavedMap.SavesRelated` — a map that is saved comes back as a related one.
* `SavedMap.survivors` — the puts that a save has followed in time.
* `SavedMap.unsaved` — the puts that no save has followed yet.

## Main results

* `SavedMap.run_saved` — after every run, what is saved is what was there at first with
  the survivors put into it, and what is in memory has the unsaved ones as well.
-/

namespace AssocMap

variable {K V : Type*} [DecidableEq K]

/-- The maps have the same keys, with related values. -/
def Rel (r : V → V → Prop) (m m' : AssocMap K V) : Prop := ∀ k, (m.get? k).Rel r (m'.get? k)

variable {r : V → V → Prop} {m m' m'' : AssocMap K V}

theorem Rel.refl (hr : ∀ v, r v v) (m : AssocMap K V) : m.Rel r m := by
  intro k
  cases m.get? k with
  | none => exact .none
  | some v => exact .some (hr v)

theorem Rel.trans (hr : ∀ u v w, r u v → r v w → r u w) (h : m.Rel r m') (h' : m'.Rel r m'') :
    m.Rel r m'' := by
  intro k
  have hk := h k
  have hk' := h' k
  generalize m.get? k = o at hk
  generalize m'.get? k = o' at hk hk'
  generalize m''.get? k = o'' at hk'
  cases hk with
  | none =>
    cases hk'
    exact .none
  | some huv =>
    cases hk' with
    | some hvw => exact .some (hr _ _ _ huv hvw)

/-- Related maps stay so when one value is put into both. -/
theorem Rel.insert (hr : ∀ v, r v v) (h : m.Rel r m') (k : K) (v : V) :
    (m.insert k v).Rel r (m'.insert k v) := by
  intro j
  rw [get?_insert, get?_insert]
  split
  · exact .some (hr v)
  · exact h j

/-- Lists that are related entry by entry have related entries for each key. -/
theorem rel_find {l l' : List (K × V)}
    (h : List.Forall₂ (fun e e' => e.1 = e'.1 ∧ r e.2 e'.2) l l') (k : K) :
    (find k l).Rel r (find k l') := by
  induction h with
  | nil => exact .none
  | @cons e e' l l' he _ ih =>
    rw [find, find, he.1]
    split
    · exact .some he.2
    · exact ih

/-- The list put into the map, entry by entry. -/
def putAll (m : AssocMap K V) (l : List (K × V)) : AssocMap K V :=
  l.foldl (fun m e => m.insert e.1 e.2) m

@[simp] theorem putAll_nil (m : AssocMap K V) : m.putAll [] = m := rfl

@[simp] theorem putAll_append (m : AssocMap K V) (l l' : List (K × V)) :
    m.putAll (l ++ l') = (m.putAll l).putAll l' := List.foldl_append

end AssocMap

/-- The saved map, and the one in memory while a process runs. -/
structure SavedMap (K V : Type*) [DecidableEq K] where
  saved : AssocMap K V
  memory : Option (AssocMap K V)

namespace SavedMap

open Transition

variable {K V : Type*} [DecidableEq K]

/-- What happens to the map. -/
inductive Event (K V : Type*)
  | put (k : K) (v : V)
  | save
  | stop
  | start

/-- One event; `reread` is how a map comes back that is saved. -/
def step (reread : AssocMap K V → AssocMap K V) (s : SavedMap K V) :
    Event K V → Option (SavedMap K V)
  | .put k v => s.memory.map fun m => { s with memory := some (m.insert k v) }
  | .save => s.memory.map fun m => { s with saved := reread m }
  | .stop => some { s with memory := none }
  | .start =>
    match s.memory with
    | none => some { s with memory := some s.saved }
    | some _ => none

/-- The puts that are saved before the process ends, where some are still to be saved
from before. -/
def survivors : List (K × V) → List (Event K V) → List (K × V)
  | _, [] => []
  | pending, .put k v :: es => survivors (pending ++ [(k, v)]) es
  | pending, .save :: es => pending ++ survivors [] es
  | _, .stop :: es => survivors [] es
  | _, .start :: es => survivors [] es

/-- The puts that are in memory only at the end. -/
def unsaved : List (K × V) → List (Event K V) → List (K × V)
  | pending, [] => pending
  | pending, .put k v :: es => unsaved (pending ++ [(k, v)]) es
  | _, .save :: es => unsaved [] es
  | _, .stop :: es => unsaved [] es
  | _, .start :: es => unsaved [] es

/-- A map that is saved comes back as a related one. -/
def SavesRelated (r : V → V → Prop) (reread : AssocMap K V → AssocMap K V) (s : SavedMap K V)
    (e : Event K V) : Prop :=
  e = .save → ∀ m, s.memory = some m → m.Rel r (reread m)

/-- **What is saved is what was there at first with the survivors put into it**, and
memory has what is not saved yet as well. -/
theorem run_saved {reread : AssocMap K V → AssocMap K V} {r : V → V → Prop} (hrefl : ∀ v, r v v)
    (htrans : ∀ u v w, r u v → r v w → r u w) {s t : SavedMap K V} {es : List (Event K V)}
    (hrun : Run (step reread) (SavesRelated r reread) s es t) :
    ∀ (base : AssocMap K V) (pending : List (K × V)), base.Rel r s.saved →
      (∀ m, s.memory = some m → (base.putAll pending).Rel r m) →
      (base.putAll (survivors pending es)).Rel r t.saved ∧
        ∀ m, t.memory = some m →
          (base.putAll (survivors pending es ++ unsaved pending es)).Rel r m := by
  induction hrun with
  | nil s => exact fun base pending hsaved hmemory => ⟨hsaved, hmemory⟩
  | @cons s s' t e es hok hstep _ ih =>
    intro base pending hsaved hmemory
    cases e with
    | put k v =>
      obtain ⟨m, hm, rfl⟩ := Option.map_eq_some_iff.mp hstep
      refine ih base _ hsaved fun m' hm' => ?_
      obtain rfl := Option.some.inj hm'
      rw [AssocMap.putAll_append]
      exact (hmemory m hm).insert hrefl k v
    | save =>
      obtain ⟨m, hm, rfl⟩ := Option.map_eq_some_iff.mp hstep
      -- from here on all that was pending counts as there at first
      have hkept := hmemory m hm
      have hrest := ih (base.putAll pending) []
        (hkept.trans htrans (hok rfl m hm)) fun m' hm' => by
          obtain rfl := Option.some.inj (hm.symm.trans hm')
          exact hkept
      simpa only [survivors, unsaved, List.append_assoc, AssocMap.putAll_append] using hrest
    | stop =>
      obtain rfl := Option.some.inj hstep
      exact ih base [] hsaved fun m hm => by cases hm
    | start =>
      cases hm : s.memory with
      | some m => simp [step, hm] at hstep
      | none =>
        rw [step, hm] at hstep
        obtain rfl := Option.some.inj hstep
        exact ih base [] hsaved fun m hm' => Option.some.inj hm' ▸ hsaved

end SavedMap
