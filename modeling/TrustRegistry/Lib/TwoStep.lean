import Mathlib.Data.Nat.Notation
import Mathlib.Logic.Function.Basic
import TrustRegistry.Lib.Transition

/-!
# Operations of two accesses

An operation that looks at a store, and then either answers at once or goes on and
changes it in a second access, by what it saw in the first.  Each access is atomic,
the two together are not.  Run by several callers, such operations are
linearizable as long as no second access is made on a store where the first would
have seen something else.

## Main definitions

* `Object` — the two accesses, and `Object.perform` — both in a row.
* `System`, `System.step` — any number of calls, access by access.
* `System.Linearizable` — the calls that have returned, and the store, are those of
  some order of the calls.
* `System.StillSeen` — a second access finds what the first one saw.

## Main results

* `System.linearizable_of_stillSeen` — runs of which every second access finds what
  the first one saw are linearizable.
-/

namespace TwoStep

open Transition

/-- The two accesses of an operation: the first answers, or says what it has seen;
the second goes by that. -/
structure Object (σ C M ρ : Type*) where
  first : σ → C → ρ ⊕ M
  second : σ → C → M → ρ × σ

/-- A call that has returned, with the times of its first and its last access. -/
structure Completed (C ρ : Type*) where
  id : ℕ
  call : C
  reply : ρ
  started : ℕ
  ended : ℕ
  deriving DecidableEq

/-- How far a call has come. -/
inductive Phase (C M ρ : Type*)
  | idle
  | waiting (call : C) (seen : M) (started : ℕ)
  | returned (done : Completed C ρ)

/-- A store with any number of calls, and a clock that counts the accesses. -/
structure System (σ C M ρ : Type*) where
  store : σ
  calls : ℕ → Phase C M ρ
  clock : ℕ

/-- The first access of a new call, or the second of one that waits. -/
inductive Action (C : Type*)
  | start (id : ℕ) (call : C)
  | finish (id : ℕ)

variable {σ C M ρ : Type*} (obj : Object σ C M ρ)

/-- Both accesses in a row. -/
def Object.perform (s : σ) (c : C) : ρ × σ :=
  match obj.first s c with
  | .inl r => (r, s)
  | .inr m => obj.second s c m

/-- Calls made one after another, with their replies, lead from one store to
another. -/
def Object.Sequential : σ → List (Completed C ρ) → σ → Prop
  | s, [], t => t = s
  | s, e :: es, t =>
    (obj.perform s e.call).1 = e.reply ∧ Object.Sequential (obj.perform s e.call).2 es t

variable {obj} in
theorem Object.Sequential.append {es : List (Completed C ρ)} {e : Completed C ρ} {t u : σ} :
    ∀ {s : σ}, obj.Sequential s es t → obj.perform t e.call = (e.reply, u) →
      obj.Sequential s (es ++ [e]) u := by
  induction es with
  | nil =>
    rintro s rfl h
    exact ⟨by rw [h], by rw [h]; rfl⟩
  | cons e' es ih =>
    rintro s ⟨hreply, hrest⟩ h
    exact ⟨hreply, ih hrest h⟩

namespace System

/-- A store that no call has been made on. -/
def opened (s : σ) : System σ C M ρ := ⟨s, fun _ => .idle, 0⟩

/-- A call returns. -/
def answer (s : System σ C M ρ) (e : Completed C ρ) (store : σ) : System σ C M ρ :=
  ⟨store, Function.update s.calls e.id (.returned e), s.clock + 1⟩

/-- One access. -/
def step (s : System σ C M ρ) : Action C → Option (System σ C M ρ)
  | .start id call =>
    match s.calls id with
    | .idle =>
      match obj.first s.store call with
      | .inl reply => some (s.answer ⟨id, call, reply, s.clock, s.clock⟩ s.store)
      | .inr seen =>
        some ⟨s.store, Function.update s.calls id (.waiting call seen s.clock), s.clock + 1⟩
    | _ => none
  | .finish id =>
    match s.calls id with
    | .waiting call seen started =>
      some (s.answer ⟨id, call, (obj.second s.store call seen).1, started, s.clock⟩
        (obj.second s.store call seen).2)
    | _ => none

/-- A second access finds what the first one saw. -/
def StillSeen (s : System σ C M ρ) (a : Action C) : Prop :=
  ∀ id call seen started, a = .finish id → s.calls id = .waiting call seen started →
    obj.first s.store call = .inr seen

/-- The calls that have returned, in some order in which none comes after one that
was only started when it had ended, give their replies and lead to the store. -/
def Linearizable (s₀ : σ) (s : System σ C M ρ) : Prop :=
  ∃ order : List (Completed C ρ), order.Nodup ∧ (∀ e, e ∈ order ↔ s.calls e.id = .returned e) ∧
    order.Pairwise (fun e e' => ¬ e'.ended < e.started) ∧ obj.Sequential s₀ order s.store

variable {obj}

/-- **What a permitted access does**: a call waits, or returns with the reply that
it has when both its accesses are made now. -/
theorem step_cases {s s' : System σ C M ρ} {a : Action C} (hseen : StillSeen obj s a)
    (h : s.step obj a = some s') :
    (∃ id call seen, s.calls id = .idle ∧
      s' = ⟨s.store, Function.update s.calls id (.waiting call seen s.clock), s.clock + 1⟩) ∨
    (∃ e store, s' = s.answer e store ∧ obj.perform s.store e.call = (e.reply, store) ∧
      e.ended = s.clock ∧ (e.started = s.clock ∧ s.calls e.id = .idle ∨
        ∃ seen, s.calls e.id = .waiting e.call seen e.started)) := by
  cases a with
  | start id call =>
    simp only [step] at h
    split at h
    · next hidle =>
      split at h
      · next reply hfirst =>
        obtain rfl := Option.some.inj h
        refine .inr ⟨_, s.store, rfl, ?_, rfl, .inl ⟨rfl, hidle⟩⟩
        rw [Object.perform, hfirst]
      · next seen hfirst =>
        obtain rfl := Option.some.inj h
        exact .inl ⟨id, call, seen, hidle, rfl⟩
    · cases h
  | finish id =>
    simp only [step] at h
    split at h
    · next call seen started hwaiting =>
      obtain rfl := Option.some.inj h
      have hfirst : obj.first s.store call = .inr seen := hseen id call seen started rfl hwaiting
      refine .inr ⟨_, (obj.second s.store call seen).2, rfl, ?_, rfl, .inr ⟨seen, hwaiting⟩⟩
      rw [Object.perform, hfirst]
    · cases h

/-- The invariant: in the order of their last accesses the calls that have returned
lead to the store, and no time is ahead of the clock. -/
structure Ordered (obj : Object σ C M ρ) (s₀ : σ) (s : System σ C M ρ) : Prop where
  order : ∃ order : List (Completed C ρ), (∀ e, e ∈ order ↔ s.calls e.id = .returned e) ∧
    order.Pairwise (fun e e' => e.ended < e'.ended) ∧ obj.Sequential s₀ order s.store
  ids : ∀ id e, s.calls id = .returned e → e.id = id
  times : ∀ id e, s.calls id = .returned e → e.started ≤ e.ended ∧ e.ended < s.clock
  waiting : ∀ id call seen started, s.calls id = .waiting call seen started → started < s.clock

/-- What a call is after one has changed. -/
theorem calls_update {calls : ℕ → Phase C M ρ} {id j : ℕ} {phase x : Phase C M ρ}
    (h : Function.update calls id phase j = x) : j = id ∧ phase = x ∨ j ≠ id ∧ calls j = x := by
  by_cases hj : j = id
  · subst hj
    rw [Function.update_self] at h
    exact .inl ⟨rfl, h⟩
  · rw [Function.update_of_ne hj] at h
    exact .inr ⟨hj, h⟩

theorem opened_ordered (s₀ : σ) : (opened s₀).Ordered obj s₀ where
  order := ⟨[], fun e => by simp [opened], List.Pairwise.nil, rfl⟩
  ids _ _ h := by cases h
  times _ _ h := by cases h
  waiting _ _ _ _ h := by cases h

theorem Ordered.wait {s₀ : σ} {s : System σ C M ρ} (hs : s.Ordered obj s₀) {id : ℕ} {call : C}
    {seen : M} (hidle : s.calls id = .idle) :
    Ordered obj s₀ ⟨s.store, Function.update s.calls id (.waiting call seen s.clock),
      s.clock + 1⟩ := by
  -- the calls that have returned are the same
  have hreturned : ∀ j e, Function.update s.calls id (.waiting call seen s.clock) j = .returned e ↔
      s.calls j = .returned e := by
    intro j e
    by_cases hj : j = id
    · subst hj
      simp [hidle]
    · rw [Function.update_of_ne hj]
  obtain ⟨order, hmem, hsorted, hsequential⟩ := hs.order
  refine ⟨⟨order, fun e => (hmem e).trans (hreturned e.id e).symm, hsorted, hsequential⟩,
    fun j e h => hs.ids j e ((hreturned j e).mp h), fun j e h => ?_,
    fun j call' seen' started h => ?_⟩
  · have htimes := hs.times j e ((hreturned j e).mp h)
    exact ⟨htimes.1, by show e.ended < s.clock + 1; omega⟩
  · show started < s.clock + 1
    rcases calls_update h with ⟨_, hnew⟩ | ⟨_, hold⟩
    · obtain ⟨_, _, rfl⟩ := Phase.waiting.inj hnew
      omega
    · have hlt := hs.waiting j call' seen' started hold
      omega

theorem Ordered.answer {s₀ : σ} {s : System σ C M ρ} (hs : s.Ordered obj s₀) {e : Completed C ρ}
    {store : σ} (hperform : obj.perform s.store e.call = (e.reply, store))
    (hended : e.ended = s.clock) (hstarted : e.started ≤ s.clock)
    (hnew : ∀ e', s.calls e.id ≠ .returned e') : (s.answer e store).Ordered obj s₀ := by
  have hself : (s.answer e store).calls e.id = .returned e := Function.update_self _ _ _
  have hother : ∀ j, j ≠ e.id → (s.answer e store).calls j = s.calls j := fun j hj =>
    Function.update_of_ne hj _ _
  obtain ⟨order, hmem, hsorted, hsequential⟩ := hs.order
  refine ⟨⟨order ++ [e], fun e' => ?_, ?_, hsequential.append hperform⟩, fun j e' h => ?_,
    fun j e' h => ?_, fun j call seen started h => ?_⟩
  · rw [List.mem_append, List.mem_singleton]
    by_cases hid : e'.id = e.id
    · rw [hid, hself]
      constructor
      · rintro (he' | rfl)
        · exact absurd (hid ▸ (hmem e').mp he') (hnew e')
        · rfl
      · intro h
        exact .inr (Phase.returned.inj h).symm
    · rw [hother e'.id hid, ← hmem e']
      constructor
      · rintro (he' | rfl)
        · exact he'
        · exact absurd rfl hid
      · exact .inl
  · -- the new call ends last
    refine List.pairwise_append.mpr ⟨hsorted, List.pairwise_singleton _ _, fun a ha b hb => ?_⟩
    obtain rfl := List.mem_singleton.mp hb
    have htimes := hs.times a.id a ((hmem a).mp ha)
    omega
  · rcases calls_update h with ⟨rfl, hnew⟩ | ⟨_, hold⟩
    · rw [Phase.returned.inj hnew]
    · exact hs.ids j e' hold
  · show e'.started ≤ e'.ended ∧ e'.ended < s.clock + 1
    rcases calls_update h with ⟨_, hnew⟩ | ⟨_, hold⟩
    · obtain rfl := Phase.returned.inj hnew
      omega
    · have htimes := hs.times j e' hold
      omega
  · show started < s.clock + 1
    rcases calls_update h with ⟨_, hnew⟩ | ⟨_, hold⟩
    · cases hnew
    · have hlt := hs.waiting j call seen started hold
      omega

theorem ordered_step {s₀ : σ} {s s' : System σ C M ρ} {a : Action C} (hs : s.Ordered obj s₀)
    (hseen : StillSeen obj s a) (h : s.step obj a = some s') : s'.Ordered obj s₀ := by
  rcases step_cases hseen h with ⟨id, call, seen, hidle, rfl⟩ |
    ⟨e, store, rfl, hperform, hended, hphase⟩
  · exact hs.wait hidle
  · rcases hphase with ⟨hstarted, hidle⟩ | ⟨seen, hwaiting⟩
    · refine hs.answer hperform hended (by omega) fun e' he' => ?_
      rw [hidle] at he'
      cases he'
    · have hlt := hs.waiting e.id e.call seen e.started hwaiting
      refine hs.answer hperform hended (by omega) fun e' he' => ?_
      rw [hwaiting] at he'
      cases he'

/-- **Runs of which every second access finds what the first one saw are
linearizable.** -/
theorem linearizable_of_stillSeen {s₀ : σ} {as : List (Action C)} {t : System σ C M ρ}
    (hrun : Run (step obj) (StillSeen obj) (opened s₀) as t) : t.Linearizable obj s₀ := by
  have ht : t.Ordered obj s₀ := hrun.invariant (I := fun s => s.Ordered obj s₀)
    (fun _ _ _ hs hseen hstep => ordered_step hs hseen hstep) (opened_ordered s₀)
  obtain ⟨order, hmem, hsorted, hsequential⟩ := ht.order
  refine ⟨order, hsorted.imp fun {a b} hab hne => ?_, hmem, ?_, hsequential⟩
  · rw [hne] at hab
    exact absurd hab (Nat.lt_irrefl _)
  · refine hsorted.imp_of_mem fun {a b} ha hb hab hlt => ?_
    have htimes := ht.times a.id a ((hmem a).mp ha)
    omega

end System

end TwoStep
