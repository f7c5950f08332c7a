import Mathlib.Data.List.Basic

/-!
# The first value of a list, with items skipped

A search for the first value in a list that skips some of the items finds another one
than a search that does not, unless what is skipped does not come first.

## Main definitions

* `FirstReadAgrees` — the first value, or the one read in its place, is the same.

## Main results

* `findSome?_skipped_eq_iff` — exactly when the two searches find the same.
-/

/-- The first item with a value is the one that is read: it is not skipped, or the next
with a value that is not skipped has the same. -/
def FirstReadAgrees {α β : Type*} (value : α → Option β) (skipped : α → Bool) (l : List α) : Prop :=
  ∀ before x after y, l = before ++ x :: after → (∀ z ∈ before, value z = none) →
    value x = some y → skipped x = true →
      ∃ between x' rest, after = between ++ x' :: rest ∧
        (∀ z ∈ between, skipped z = true ∨ value z = none) ∧ skipped x' = false ∧ value x' = some y

section

variable {α β : Type*} {value : α → Option β} {skipped : α → Bool}

theorem firstReadAgrees_nil : FirstReadAgrees value skipped [] :=
  fun before _ _ _ h _ _ _ =>
    absurd h.symm (List.append_ne_nil_of_right_ne_nil before (List.cons_ne_nil _ _))

theorem firstReadAgrees_cons_of_none {x : α} (hx : value x = none) (l : List α) :
    FirstReadAgrees value skipped (x :: l) ↔ FirstReadAgrees value skipped l := by
  constructor
  · intro h before x' after y hl hbefore
    refine h (x :: before) x' after y (by rw [hl, List.cons_append]) ?_
    intro z hz
    rcases List.mem_cons.mp hz with rfl | hz
    · exact hx
    · exact hbefore z hz
  · intro h before x' after y hl hbefore hx'
    cases before with
    | nil =>
      obtain ⟨rfl, rfl⟩ := List.cons.inj hl
      rw [hx] at hx'
      cases hx'
    | cons z before =>
      obtain ⟨rfl, rfl⟩ := List.cons.inj hl
      exact h before x' after y rfl (fun z hz => hbefore z (List.mem_cons_of_mem _ hz)) hx'

theorem firstReadAgrees_cons_of_some {x : α} {y : β} (hx : value x = some y) (l : List α) :
    FirstReadAgrees value skipped (x :: l) ↔ (skipped x = true →
      (l.findSome? fun z => if skipped z then none else value z) = some y) := by
  have hread : ∀ z, (if skipped z then none else value z) = none ↔
      skipped z = true ∨ value z = none := by
    intro z
    cases skipped z <;> simp
  have hvalue : ∀ z, (if skipped z then none else value z) = some y ↔
      skipped z = false ∧ value z = some y := by
    intro z
    cases skipped z <;> simp
  rw [List.findSome?_eq_some_iff]
  constructor
  · intro h hskipped
    obtain ⟨between, x', rest, rfl, hbetween, hx'⟩ :=
      h [] x l y rfl (fun z hz => absurd hz List.not_mem_nil) hx hskipped
    exact ⟨between, x', rest, rfl, (hvalue x').mpr hx', fun z hz => (hread z).mpr (hbetween z hz)⟩
  · intro h before x' after y' hl hbefore hx' hskipped
    cases before with
    | nil =>
      obtain ⟨rfl, rfl⟩ := List.cons.inj hl
      obtain rfl := Option.some.inj (hx.symm.trans hx')
      obtain ⟨between, x', rest, rfl, hread', hbetween⟩ := h hskipped
      exact ⟨between, x', rest, rfl, fun z hz => (hread z).mp (hbetween z hz),
        (hvalue x').mp hread'⟩
    | cons z before =>
      obtain ⟨rfl, _⟩ := List.cons.inj hl
      have hnone := hbefore x List.mem_cons_self
      rw [hx] at hnone
      cases hnone

/-- **When the first value that is read is the first there is.** -/
theorem findSome?_skipped_eq_iff (l : List α) :
    (l.findSome? fun x => if skipped x then none else value x) = l.findSome? value ↔
      FirstReadAgrees value skipped l := by
  induction l with
  | nil => exact ⟨fun _ => firstReadAgrees_nil, fun _ => rfl⟩
  | cons x l ih =>
    rw [List.findSome?_cons, List.findSome?_cons]
    cases hx : value x with
    | none =>
      rw [firstReadAgrees_cons_of_none hx, ite_self]
      exact ih
    | some y =>
      rw [firstReadAgrees_cons_of_some hx]
      cases skipped x <;> simp

end
