import Mathlib.Logic.Relation

/-!
# Runs of a transition function

A system is a partial step function on states and actions; a run is a sequence
of actions each of which is enabled and *permitted* in the state it is taken
from.  The permission is how a claim about "every run in which …" is stated: a
run under a stronger permission is a run under a weaker one, and an invariant
need only be preserved by the permitted steps.

## Main definitions

* `Transition.Run step ok s as t` — the actions `as` lead from `s` to `t`, each
  permitted by `ok`.
* `Transition.exec step s as` — the same sequence as a computation.
* `Transition.trace step obs s as` — what is observed of the steps, in order.

## Main results

* `Transition.Run.invariant` — an invariant of the permitted steps holds at the
  end of a run.
* `Transition.Run.history` — so does one that speaks of what has been done.
* `Transition.Run.trans`, `Transition.Run.mono` — runs compose, and permissions
  may be weakened; `Transition.Run.mono_of_invariant` does it under an invariant.
* `Transition.Run.simulate` — a run of one system is a run of another that
  follows its steps; with `Transition.Run.simulate_trace` a run of what is observed.
* `Transition.run_of_exec` — a computed sequence is a run.
-/

namespace Transition

variable {σ α : Type*}

/-- The actions `as` lead from one state to another, each step permitted. -/
inductive Run (step : σ → α → Option σ) (ok : σ → α → Prop) : σ → List α → σ → Prop
  /-- No action. -/
  | nil (s : σ) : Run step ok s [] s
  /-- A permitted step, then the rest. -/
  | cons {s s' t : σ} {a : α} {as : List α} (hok : ok s a) (hstep : step s a = some s')
      (hrun : Run step ok s' as t) : Run step ok s (a :: as) t

/-- Any enabled action is permitted. -/
def anyAction : σ → α → Prop := fun _ _ => True

variable {step : σ → α → Option σ} {ok ok' : σ → α → Prop}

/-- **The invariant rule.**  What permitted steps preserve holds after a run. -/
theorem Run.invariant {I : σ → Prop}
    (hpres : ∀ s a s', I s → ok s a → step s a = some s' → I s')
    {s t : σ} {as : List α} (hrun : Run step ok s as t) (hs : I s) : I t := by
  induction hrun with
  | nil _ => exact hs
  | cons hok hstep _ ih => exact ih (hpres _ _ _ hs hok hstep)

/-- **The invariant rule, with what has been done.** -/
theorem Run.history {I : List α → σ → Prop}
    (hpres : ∀ as s a s', I as s → ok s a → step s a = some s' → I (as ++ [a]) s')
    {s t : σ} {as : List α} (hrun : Run step ok s as t) (hs : I [] s) : I as t := by
  suffices h : ∀ done, I done s → I (done ++ as) t from h [] hs
  clear hs
  induction hrun with
  | nil s => exact fun done h => by rwa [List.append_nil]
  | @cons s s' t a as hok hstep _ ih =>
    intro done h
    have hrest := ih (done ++ [a]) (hpres done s a s' h hok hstep)
    rwa [List.append_assoc] at hrest

theorem Run.single {s s' : σ} {a : α} (hok : ok s a) (hstep : step s a = some s') :
    Run step ok s [a] s' := .cons hok hstep (.nil _)

theorem Run.trans {s t u : σ} {as bs : List α} (h₁ : Run step ok s as t)
    (h₂ : Run step ok t bs u) : Run step ok s (as ++ bs) u := by
  induction h₁ with
  | nil _ => exact h₂
  | cons hok hstep _ ih => exact .cons hok hstep (ih h₂)

/-- A run under a permission is a run under any weaker one. -/
theorem Run.mono (hle : ∀ s a, ok s a → ok' s a) {s t : σ} {as : List α}
    (hrun : Run step ok s as t) : Run step ok' s as t := by
  induction hrun with
  | nil _ => exact .nil _
  | cons hok hstep _ ih => exact .cons (hle _ _ hok) hstep ih

/-- A run is one under any permission that an invariant of its steps gives. -/
theorem Run.mono_of_invariant {I : σ → Prop}
    (hpres : ∀ s a s', I s → ok s a → step s a = some s' → I s')
    (hle : ∀ s a, I s → ok s a → ok' s a) {s t : σ} {as : List α}
    (hrun : Run step ok s as t) (hs : I s) : Run step ok' s as t := by
  induction hrun with
  | nil s => exact .nil s
  | cons hok hstep _ ih => exact .cons (hle _ _ hs hok) hstep (ih (hpres _ _ _ hs hok hstep))

/-- A run of actions that are permitted in any state is one under that
permission. -/
theorem Run.restrict {s t : σ} {as : List α} (hrun : Run step ok s as t) :
    (∀ a ∈ as, ∀ s, ok' s a) → Run step ok' s as t := by
  induction hrun with
  | nil _ => exact fun _ => .nil _
  | @cons s _ _ a _ _ hstep _ ih =>
    intro h
    exact .cons (h a List.mem_cons_self s) hstep (ih fun b hb => h b (List.mem_cons_of_mem _ hb))

/-- **Simulation.**  When each permitted step of one system is a permitted step of
another under a map of the states, or nothing there, so is each run. -/
theorem Run.simulate {τ β : Type*} {step₂ : τ → β → Option τ} {ok₂ : τ → β → Prop} (f : σ → τ)
    (hsim : ∀ s a s', ok s a → step s a = some s' →
      f s' = f s ∨ ∃ b, ok₂ (f s) b ∧ step₂ (f s) b = some (f s'))
    {s t : σ} {as : List α} (hrun : Run step ok s as t) :
    ∃ bs, Run step₂ ok₂ (f s) bs (f t) := by
  induction hrun with
  | nil s => exact ⟨[], .nil _⟩
  | cons hok hstep _ ih =>
    obtain ⟨bs, hbs⟩ := ih
    rcases hsim _ _ _ hok hstep with h | ⟨b, hokb, hstepb⟩
    · exact ⟨bs, h ▸ hbs⟩
    · exact ⟨b :: bs, .cons hokb hstepb hbs⟩

/-- What is observed of the steps, one after another. -/
def trace {β : Type*} (step : σ → α → Option σ) (obs : σ → α → List β) : σ → List α → List β
  | _, [] => []
  | s, a :: as =>
    obs s a ++ match step s a with
      | some s' => trace step obs s' as
      | none => []

theorem trace_cons {β : Type*} {obs : σ → α → List β} {s s' : σ} {a : α} (as : List α)
    (hstep : step s a = some s') :
    trace step obs s (a :: as) = obs s a ++ trace step obs s' as := by
  rw [trace, hstep]

/-- **Simulation by what is observed.**  When each permitted step of one system is the
run of another over what is observed of it, so is each run. -/
theorem Run.simulate_trace {τ β : Type*} {step₂ : τ → β → Option τ} {ok₂ : τ → β → Prop}
    {obs : σ → α → List β} {I : σ → Prop} {f : σ → τ}
    (hsim : ∀ s a s', I s → ok s a → step s a = some s' →
      I s' ∧ Run step₂ ok₂ (f s) (obs s a) (f s'))
    {s t : σ} {as : List α} (hrun : Run step ok s as t) (hs : I s) :
    I t ∧ Run step₂ ok₂ (f s) (trace step obs s as) (f t) := by
  induction hrun with
  | nil s => exact ⟨hs, .nil _⟩
  | @cons s s' t a as hok hstep _ ih =>
    obtain ⟨hs', hfirst⟩ := hsim _ _ _ hs hok hstep
    obtain ⟨ht, hrest⟩ := ih hs'
    exact ⟨ht, trace_cons as hstep ▸ hfirst.trans hrest⟩

/-- Take the actions one after another; `none` if one is not enabled. -/
def exec (step : σ → α → Option σ) : σ → List α → Option σ
  | s, [] => some s
  | s, a :: as => (step s a).bind fun s' => exec step s' as

/-- A run is what is computed. -/
theorem Run.exec_eq {s t : σ} {as : List α} (hrun : Run step ok s as t) :
    exec step s as = some t := by
  induction hrun with
  | nil _ => rfl
  | cons _ hstep _ ih => rw [exec, hstep, Option.bind_some, ih]

/-- A computed sequence of actions that are always permitted is a run. -/
theorem run_of_exec : ∀ {as : List α} {s t : σ}, (∀ a ∈ as, ∀ s, ok s a) →
    exec step s as = some t → Run step ok s as t := by
  intro as
  induction as with
  | nil =>
    intro s t _ h
    obtain rfl := Option.some.inj h
    exact .nil _
  | cons a as ih =>
    intro s t hok h
    obtain ⟨s', hs', ht⟩ := Option.bind_eq_some_iff.mp h
    have hrest : ∀ b ∈ as, ∀ s, ok s b := fun b hb => hok b (List.mem_cons_of_mem _ hb)
    exact .cons (hok a List.mem_cons_self s) hs' (ih hrest ht)

end Transition
