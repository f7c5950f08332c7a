import TrustRegistry.Lib.Transition

/-!
# What a run has passed

Some facts about the end of a run are about a state before it: a value that is read
late was there at some time.  An invariant that speaks of the states passed is kept by
each step on its own, as long as it stays true when more states have been passed.

## Main definitions

* `Transition.Passed step ok s as t u` — a run from `s` to `t` passes `u`.
* `Transition.Held`, `Transition.Filled` — a table had a value at some moment, and was
  never without one.

## Main results

* `Transition.Run.passed_invariant`, `Transition.Run.past_invariant` — an invariant that
  speaks of the states passed holds at the end of a run.
-/

namespace Transition

variable {σ α : Type*}

/-- The run from `s` to `t` passes `u`, at its ends or between them. -/
def Passed (step : σ → α → Option σ) (ok : σ → α → Prop) (s : σ) (as : List α) (t u : σ) : Prop :=
  ∃ as₁ as₂, as = as₁ ++ as₂ ∧ Run step ok s as₁ u ∧ Run step ok u as₂ t

variable {step : σ → α → Option σ} {ok : σ → α → Prop} {s s' t u : σ} {a : α} {as : List α}

/-- A run passes its start. -/
theorem Passed.start (hrun : Run step ok s as t) : Passed step ok s as t s :=
  ⟨[], as, rfl, .nil s, hrun⟩

/-- What the rest of a run passes, the run passes. -/
theorem Passed.cons (hok : ok s a) (hstep : step s a = some s') (h : Passed step ok s' as t u) :
    Passed step ok s (a :: as) t u := by
  obtain ⟨as₁, as₂, rfl, h₁, h₂⟩ := h
  exact ⟨a :: as₁, as₂, rfl, .cons hok hstep h₁, h₂⟩

/-- **The invariant rule, with the states passed.**  What is said of the states that have
been passed, and stays true when there are more of them, is true of the whole run if each
step keeps it, the state that it leads to being passed too. -/
theorem Run.passed_invariant {I : (σ → Prop) → σ → Prop}
    (hmono : ∀ {p q : σ → Prop} {s}, (∀ u, p u → q u) → I p s → I q s)
    (hpres : ∀ past s a s', I past s → past s → ok s a → step s a = some s' →
      I (fun u => past u ∨ u = s') s')
    (hrun : Run step ok s as t) (hs : I (· = s) s) : I (Passed step ok s as t) t := by
  -- the states passed before the run are kept apart from those that it passes
  have hwith : ∀ past : σ → Prop, past s → I past s →
      I (fun u => past u ∨ Passed step ok s as t u) t := by
    clear hs
    induction hrun with
    | nil s => exact fun past _ h => hmono (fun u hu => .inl hu) h
    | @cons s s' t a as hok hstep hrun ih =>
      intro past hpast h
      have hnext := hpres past s a s' h hpast hok hstep
      refine hmono (fun u hu => ?_) (ih (fun u => past u ∨ u = s') (.inr rfl) hnext)
      rcases hu with (hu | rfl) | hu
      · exact .inl hu
      · exact .inr (.cons hok hstep (.start hrun))
      · exact .inr (.cons hok hstep hu)
  refine hmono (fun u hu => ?_) (hwith (· = s) rfl hs)
  rcases hu with rfl | hu
  · exact .start hrun
  · exact hu

/-- The rule for what each step keeps without the state that it leads to. -/
theorem Run.past_invariant {I : (σ → Prop) → σ → Prop}
    (hmono : ∀ {p q : σ → Prop} {s}, (∀ u, p u → q u) → I p s → I q s)
    (hpres : ∀ past s a s', I past s → past s → ok s a → step s a = some s' → I past s')
    (hrun : Run step ok s as t) (hs : I (· = s) s) : I (Passed step ok s as t) t :=
  hrun.passed_invariant hmono (fun past s a s' h hpast hok hstep =>
    hmono (fun _ => .inl) (hpres past s a s' h hpast hok hstep)) hs

/-! ### Tables that change -/

variable {K V : Type*} {p q : σ → Prop} {table : σ → K → Option V} {k : K} {v : V}

/-- At one of the moments `p` the table had the value under the key. -/
def Held (p : σ → Prop) (table : σ → K → Option V) (k : K) (v : V) : Prop :=
  ∃ u, p u ∧ table u k = some v

/-- At all the moments `p` the table had some value under the key. -/
def Filled (p : σ → Prop) (table : σ → K → Option V) (k : K) : Prop :=
  ∀ u, p u → ∃ v, table u k = some v

theorem Held.mono (hpq : ∀ u, p u → q u) (h : Held p table k v) : Held q table k v :=
  h.imp fun u hu => ⟨hpq u hu.1, hu.2⟩

theorem Filled.anti (hpq : ∀ u, p u → q u) (h : Filled q table k) : Filled p table k :=
  fun u hu => h u (hpq u hu)

end Transition
