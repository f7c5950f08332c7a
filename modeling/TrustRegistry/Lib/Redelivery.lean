import Mathlib.Data.List.Basic
import Mathlib.Data.List.Infix

/-!
# At-least-once delivery

Messages reach a system in the order in which they are sent, and any of them may
come again at any later time.  The system ends where it would end had each come
once, at every point of the delivery, exactly when no copy changes anything where
it comes.

## Main definitions

* `Arrival` — a message that comes for the first time, or again.
* `run`, `firsts` — what a delivery leads to, and the delivery of each message once.
* `AtLeastOnce` — only what has come can come again.
* `Observed` — what is observed of the system changes by the message alone.

## Main results

* `Observed.exact_iff` — redelivery is harmless exactly when each copy is.
-/

namespace Redelivery

/-- A message comes for the first time, or again, under given circumstances. -/
inductive Arrival (A M : Type*)
  | first (circumstances : A) (message : M)
  | again (circumstances : A) (message : M)

namespace Arrival

variable {A M : Type*}

/-- What it meets. -/
def circumstances : Arrival A M → A
  | first a _ | again a _ => a

/-- The message. -/
def message : Arrival A M → M
  | first _ m | again _ m => m

/-- Does the message come for the first time? -/
def isFirst : Arrival A M → Bool
  | first _ _ => true
  | again _ _ => false

end Arrival

variable {S T A M : Type*} (step : S → A → M → S)

/-- What a delivery leads to. -/
def run (s : S) (d : List (Arrival A M)) : S :=
  d.foldl (fun s x => step s x.circumstances x.message) s

/-- Each message once. -/
def firsts (d : List (Arrival A M)) : List (Arrival A M) := d.filter Arrival.isFirst

/-- Only what has come can come again. -/
def AtLeastOnce (d : List (Arrival A M)) : Prop :=
  ∀ before a m, before ++ [.again a m] <+: d → m ∈ (firsts before).map Arrival.message

theorem run_snoc (s : S) (d : List (Arrival A M)) (x : Arrival A M) :
    run step s (d ++ [x]) = step (run step s d) x.circumstances x.message := by
  rw [run, List.foldl_append]
  rfl

theorem firsts_snoc_first (d : List (Arrival A M)) (a : A) (m : M) :
    firsts (d ++ [.first a m]) = firsts d ++ [.first a m] := by
  simp [firsts, Arrival.isFirst]

theorem firsts_snoc_again (d : List (Arrival A M)) (a : A) (m : M) :
    firsts (d ++ [.again a m]) = firsts d := by
  simp [firsts, Arrival.isFirst]

/-- Messages that come for the first time come once. -/
theorem map_message_firsts (a : A) (ms : List M) :
    (firsts (ms.map (.first a))).map Arrival.message = ms := by
  induction ms with
  | nil => rfl
  | cons m ms ih =>
    have hm : firsts ((m :: ms).map (.first a)) = .first a m :: firsts (ms.map (.first a)) := rfl
    rw [hm, List.map_cons, ih]
    rfl

namespace AtLeastOnce

theorem nil : AtLeastOnce ([] : List (Arrival A M)) := by
  intro before a m h
  simp at h

/-- A message that comes for the first time may come at any time. -/
theorem first {d : List (Arrival A M)} (hd : AtLeastOnce d) (a : A) (m : M) :
    AtLeastOnce (d ++ [.first a m]) := by
  intro before b n h
  rcases List.prefix_concat_iff.mp h with h | h
  · simp at h
  · exact hd before b n h

/-- One that has come may come again. -/
theorem again {d : List (Arrival A M)} (hd : AtLeastOnce d) (a : A) {m : M}
    (hm : m ∈ (firsts d).map Arrival.message) : AtLeastOnce (d ++ [.again a m]) := by
  intro before b n h
  rcases List.prefix_concat_iff.mp h with h | h
  · obtain ⟨rfl, hlast⟩ := List.append_inj' h rfl
    obtain ⟨rfl, rfl⟩ := Arrival.again.inj (List.singleton_inj.mp hlast)
    exact hm
  · exact hd before b n h

end AtLeastOnce

/-- While the system satisfies `Inv`, a message `P` permits changes what is observed
by `f`, whatever it meets. -/
structure Observed (obs : S → T) (f : T → M → T) (Inv : S → Prop) (P : M → Prop) : Prop where
  inv : ∀ s a m, Inv s → P m → Inv (step s a m)
  obs : ∀ s a m, Inv s → P m → obs (step s a m) = f (obs s) m

namespace Observed

variable {step} {obs : S → T} {f : T → M → T} {Inv : S → Prop} {P : M → Prop}

theorem inv_run (h : Observed step obs f Inv P) (d : List (Arrival A M)) : ∀ s, Inv s →
    (∀ x ∈ d, P x.message) → Inv (run step s d) := by
  induction d with
  | nil => exact fun _ hs _ => hs
  | cons x d ih =>
    intro s hs hd
    have hx := h.inv s x.circumstances x.message hs (hd x List.mem_cons_self)
    exact ih _ hx fun y hy => hd y (List.mem_cons_of_mem x hy)

theorem obs_run_snoc (h : Observed step obs f Inv P) {s : S} (hs : Inv s)
    {d : List (Arrival A M)} {x : Arrival A M} (hd : ∀ y ∈ d ++ [x], P y.message) :
    obs (run step s (d ++ [x])) = f (obs (run step s d)) x.message := by
  have hbefore := h.inv_run d s hs fun y hy => hd y (List.mem_append_left _ hy)
  rw [run_snoc]
  exact h.obs _ _ _ hbefore (hd x (by simp))

/-- **Redelivery is harmless exactly when each copy is**: at every point of a
delivery the system is observed as if each message had come once, exactly when
every copy leaves what is observed as it finds it. -/
theorem exact_iff (h : Observed step obs f Inv P) {s : S} (hs : Inv s)
    {d : List (Arrival A M)} (hd : ∀ x ∈ d, P x.message) :
    (∀ before, before <+: d → obs (run step s before) = obs (run step s (firsts before))) ↔
      ∀ before a m, before ++ [.again a m] <+: d →
        f (obs (run step s before)) m = obs (run step s before) := by
  have hpermitted : ∀ before, before <+: d → ∀ x ∈ before, P x.message :=
    fun before hb x hx => hd x (hb.subset hx)
  constructor
  · intro hexact before a m hb
    have hshort : before <+: d := (List.prefix_append before _).trans hb
    have hcopy := hexact _ hb
    rw [h.obs_run_snoc hs (hpermitted _ hb), firsts_snoc_again] at hcopy
    exact hcopy.trans (hexact before hshort).symm
  · -- the delivery grows at its end, where a first copy steps both runs alike
    intro hcopies before
    induction before using List.reverseRecOn with
    | nil => exact fun _ => rfl
    | append_singleton before x ih =>
      intro hb
      have hbefore := ih ((List.prefix_append before _).trans hb)
      rw [h.obs_run_snoc hs (hpermitted _ hb)]
      cases x with
      | first a m =>
        have hfirsts : ∀ y ∈ firsts before ++ [.first a m], P y.message := by
          intro y hy
          rw [← firsts_snoc_first] at hy
          exact hpermitted _ hb y (List.mem_filter.mp hy).1
        rw [firsts_snoc_first, h.obs_run_snoc hs hfirsts, hbefore]
      | again a m =>
        rw [firsts_snoc_again, ← hbefore]
        exact hcopies before a m hb

end Observed

end Redelivery
