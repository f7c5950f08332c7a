import TrustRegistry.Dedup.Dispatch

/-!
# Lifetimes of the store of message ids

How long a claim and an outcome stay in the in-memory store, for any two lifetimes it
is made with and any time, whatever it is called with in the meantime.

A lifetime that the time library cannot hold is read as zero.  So the longest
lifetimes are over at once, and those that end past the last time there is panic.

## Main definitions

* `StoreCall`, `MemoryMessageIdStore.run` — what a store is called with.
* `MemoryMessageIdStore.Honours` — claims and outcomes stay as long as they should.

## Main results

* `MemoryMessageIdStore.get?_run` — an entry outlives all calls within its lifetime.
* `MemoryMessageIdStore.honours_iff` — the lifetimes that are honoured.
* `MemoryMessageIdStore.reclaimed_at_once`, `MemoryMessageIdStore.forgotten_at_once`,
  `MemoryMessageIdStore.complete_eq_none` — what becomes of the ones that are too long.
-/

namespace TrustRegistry

/-- A call of the store. -/
inductive StoreCall
  | claim (key : String)
  | complete (key : String) (outcome : StoredOutcome)
  | release (key : String)
  deriving DecidableEq

/-- Does a call resolve the claim of a key? -/
def StoreCall.Resolves (key : String) : StoreCall → Prop
  | .claim _ => False
  | .complete k _ => k = key
  | .release k => k = key

namespace MemoryMessageIdStore

/-! ### Calls -/

/-- The store after a call.  One that panics leaves it as it was: the time is added
before the lock is taken. -/
def after (s : MemoryMessageIdStore) (now : ℤ) : StoreCall → MemoryMessageIdStore
  | .claim key => (s.claim now key).2
  | .complete key outcome => (s.complete now key outcome).getD s
  | .release key => s.release key

/-- The store after calls, each with the time that it reads. -/
def run (s : MemoryMessageIdStore) : List (ℤ × StoreCall) → MemoryMessageIdStore
  | [] => s
  | (now, call) :: calls => (s.after now call).run calls

/-- No call is past a time, and none resolves the claim of the key. -/
def UnresolvedUntil (t : ℤ) (key : String) (calls : List (ℤ × StoreCall)) : Prop :=
  ∀ c ∈ calls, c.1 ≤ t ∧ ¬ c.2.Resolves key

theorem unresolvedUntil_nil {t : ℤ} {key : String} : UnresolvedUntil t key [] :=
  List.forall_mem_nil _

theorem unresolvedUntil_cons {t now : ℤ} {key : String} {call : StoreCall}
    {calls : List (ℤ × StoreCall)} :
    UnresolvedUntil t key ((now, call) :: calls) ↔
      (now ≤ t ∧ ¬ call.Resolves key) ∧ UnresolvedUntil t key calls :=
  List.forall_mem_cons

@[simp] theorem after_inFlightTtl (s : MemoryMessageIdStore) (now : ℤ) (call : StoreCall) :
    (s.after now call).inFlightTtl = s.inFlightTtl := by
  cases call with
  | claim key => exact claim_inFlightTtl s now key
  | complete key outcome =>
    rw [after]
    cases h : s.complete now key outcome with
    | none => rfl
    | some s' =>
      rw [Option.getD_some, complete_eq_some h]
  | release key => rfl

@[simp] theorem run_inFlightTtl (s : MemoryMessageIdStore) (calls : List (ℤ × StoreCall)) :
    (s.run calls).inFlightTtl = s.inFlightTtl := by
  induction calls generalizing s with
  | nil => rfl
  | cons c calls ih => rw [run, ih, after_inFlightTtl]

/-- An entry outlives a call within its lifetime that does not resolve its key. -/
theorem get?_after {s : MemoryMessageIdStore} {now t : ℤ} (hle : now ≤ t) {key : String}
    {e : Entry} (hget : s.entries.get? key = some e)
    (hlive : retains t (lifetime s.inFlightTtl) e = true) {call : StoreCall}
    (hcall : ¬ call.Resolves key) : (s.after now call).entries.get? key = some e := by
  cases call with
  | claim k =>
    have hnow : s.live now key = some e := live_eq_some.mpr ⟨hget, retains_mono hle hlive⟩
    exact ClaimState.get?_claim_of_live hnow
  | complete k outcome =>
    rw [after]
    cases h : s.complete now k outcome with
    | none => exact hget
    | some s' =>
      rw [Option.getD_some, get?_complete h, if_neg fun hk => hcall hk.symm]
      exact hget
  | release k =>
    rw [after, get?_release, if_neg fun hk => hcall hk.symm]
    exact hget

/-- **An entry outlives all calls within its lifetime** that do not resolve its key, in
whatever order they read the clock. -/
theorem get?_run {s : MemoryMessageIdStore} {t : ℤ} {key : String} {e : Entry}
    (hget : s.entries.get? key = some e)
    (hlive : retains t (lifetime s.inFlightTtl) e = true) {calls : List (ℤ × StoreCall)}
    (hcalls : UnresolvedUntil t key calls) : (s.run calls).entries.get? key = some e := by
  induction calls generalizing s with
  | nil => exact hget
  | cons c calls ih =>
    obtain ⟨now, call⟩ := c
    obtain ⟨⟨hle, hcall⟩, hrest⟩ := unresolvedUntil_cons.mp hcalls
    have hafter := get?_after hle hget hlive hcall
    exact ih hafter (by rwa [after_inFlightTtl]) hrest

/-- What a claim is answered after such calls. -/
theorem claim_run_fst {s : MemoryMessageIdStore} {t : ℤ} {key : String} {e : Entry}
    (hget : s.entries.get? key = some e)
    (hlive : retains t (lifetime s.inFlightTtl) e = true) {calls : List (ℤ × StoreCall)}
    (hcalls : UnresolvedUntil t key calls) :
    ((s.run calls).claim t key).1 = answer (some e) := by
  have hentry : (s.run calls).live t key = some e :=
    live_eq_some.mpr ⟨get?_run hget hlive hcalls, by rwa [run_inFlightTtl]⟩
  rw [claim_fst, hentry]

/-- A claim that is acquired leaves the key in flight since then. -/
theorem get?_of_acquired {s : MemoryMessageIdStore} {now : ℤ} {key : String}
    (h : (s.claim now key).1 = .acquired) :
    (s.claim now key).2.entries.get? key = some (.inFlight now) := by
  rw [claim_fst] at h
  rw [get?_claim, if_pos rfl]
  rcases hlive : s.live now key with _ | ⟨_ | _⟩
  · rfl
  all_goals simp [hlive, answer] at h

/-! ### The lifetimes -/

/-- **Both lifetimes are honoured by a store at a time**: a claim taken then is in
flight, completing then does not panic, and an outcome stored then is replayed, until
the lifetime is over or the key is resolved. -/
structure Honours (s : MemoryMessageIdStore) (t : ℤ) : Prop where
  inFlight : ∀ (key : String) (calls : List (ℤ × StoreCall)) (t' : ℤ),
    (s.claim t key).1 = .acquired → UnresolvedUntil t' key calls → t ≤ t' →
    t' < t + s.inFlightTtl → (((s.claim t key).2.run calls).claim t' key).1 = .inFlight
  completes : ∀ (key : String) (outcome : StoredOutcome), (s.complete t key outcome).isSome
  replayed : ∀ (key : String) (outcome : StoredOutcome) (s' : MemoryMessageIdStore)
    (calls : List (ℤ × StoreCall)) (t' : ℤ), s.complete t key outcome = some s' →
    UnresolvedUntil t' key calls → t ≤ t' → t' < t + s.ttl →
    ((s'.run calls).claim t' key).1 = .replay outcome

theorem lifetime_of_le {d : ℕ} (h : d ≤ Chrono.maxDuration) : lifetime d = d := by
  rw [lifetime, Chrono.fromStd, if_pos h, Option.getD_some]

theorem lifetime_of_lt {d : ℕ} (h : Chrono.maxDuration < d) : lifetime d = 0 := by
  rw [lifetime, Chrono.fromStd, if_neg (by omega), Option.getD_none]

/-- A store whose lifetimes can be expressed, that of outcomes before the last time
there is, honours them. -/
theorem Honours.of_expressible {s : MemoryMessageIdStore} {t : ℤ}
    (hinFlight : s.inFlightTtl ≤ Chrono.maxDuration) (httl : s.ttl ≤ Chrono.maxDuration)
    (hlast : t + s.ttl ≤ Chrono.maxUtc) : s.Honours t := by
  constructor
  · intro key calls t' hacquired hcalls hle hlt
    refine claim_run_fst (get?_of_acquired hacquired) ?_ hcalls
    rw [claim_inFlightTtl, lifetime_of_le hinFlight, retains, decide_eq_true_eq]
    omega
  · intro key outcome
    simp [complete, Chrono.checkedAdd, lifetime_of_le httl, hlast]
  · intro key outcome s' calls t' hcomplete hcalls hle hlt
    have hget : s'.entries.get? key = some (.done outcome (t + s.ttl)) := by
      rw [get?_complete hcomplete, if_pos rfl, lifetime_of_le httl]
    refine claim_run_fst hget ?_ hcalls
    rw [retains, decide_eq_true_eq]
    omega

/-- A claim takes an entry that is past its lifetime. -/
theorem claim_fst_of_expired {s : MemoryMessageIdStore} {now : ℤ} {key : String} {e : Entry}
    (hget : s.entries.get? key = some e)
    (hexpired : retains now (lifetime s.inFlightTtl) e = false) :
    (s.claim now key).1 = .acquired := by
  have hgone : s.live now key = none := by
    rw [live, hget, Option.filter_some, hexpired]
    rfl
  rw [claim_fst, hgone, answer]

/-- **A claim that is in flight for longer than can be expressed is taken by the next
one**, at whatever time. -/
theorem reclaimed_at_once {s : MemoryMessageIdStore} (h : Chrono.maxDuration < s.inFlightTtl)
    {t t' : ℤ} (hle : t ≤ t') {key : String} (hacquired : (s.claim t key).1 = .acquired) :
    ((s.claim t key).2.claim t' key).1 = .acquired := by
  refine claim_fst_of_expired (get?_of_acquired hacquired) ?_
  rw [claim_inFlightTtl, lifetime_of_lt h, retains, decide_eq_false_iff_not]
  omega

/-- **An outcome to be replayed for longer than can be expressed is never replayed.** -/
theorem forgotten_at_once {s s' : MemoryMessageIdStore} (h : Chrono.maxDuration < s.ttl)
    {t t' : ℤ} (hle : t ≤ t') {key : String} {outcome : StoredOutcome}
    (hcomplete : s.complete t key outcome = some s') : (s'.claim t' key).1 = .acquired := by
  have hget : s'.entries.get? key = some (.done outcome t) := by
    rw [get?_complete hcomplete, if_pos rfl, lifetime_of_lt h, Int.add_zero]
  refine claim_fst_of_expired hget ?_
  rw [retains, decide_eq_false_iff_not]
  omega

/-- **An outcome to be replayed past the last time there is panics.** -/
theorem complete_eq_none {s : MemoryMessageIdStore} {t : ℤ} (httl : s.ttl ≤ Chrono.maxDuration)
    (h : Chrono.maxUtc < t + s.ttl) (key : String) (outcome : StoredOutcome) :
    s.complete t key outcome = none := by
  rw [complete, Chrono.checkedAdd, lifetime_of_le httl, if_neg (by omega), Option.map_none]

/-- **The lifetimes that are honoured** are those that can be expressed, the one of
outcomes up to the last time there is. -/
theorem honours_iff (ttl inFlightTtl : ℕ) (t : ℤ) :
    (∀ s : MemoryMessageIdStore, s.ttl = ttl → s.inFlightTtl = inFlightTtl → s.Honours t) ↔
      inFlightTtl ≤ Chrono.maxDuration ∧ ttl ≤ Chrono.maxDuration ∧ t + ttl ≤ Chrono.maxUtc := by
  constructor
  · intro h
    have hnew := h (new ttl inFlightTtl) rfl rfl
    have hinFlight : inFlightTtl ≤ Chrono.maxDuration := by
      by_contra hlong
      have hlong' : Chrono.maxDuration < inFlightTtl := by omega
      have hacquired : ((new ttl inFlightTtl).claim t "").1 = .acquired := rfl
      have hkept := hnew.inFlight "" [] t hacquired unresolvedUntil_nil (Int.le_refl t)
        (by simp only [new]; omega)
      have hretaken := reclaimed_at_once hlong' (Int.le_refl t) hacquired
      rw [run, hretaken] at hkept
      cases hkept
    let outcome : StoredOutcome := .completed ClaimState.sampleWrite
    have hcompletes := hnew.completes "" outcome
    have httl : ttl ≤ Chrono.maxDuration := by
      by_contra hlong
      have hlong' : Chrono.maxDuration < ttl := by omega
      obtain ⟨s', hs'⟩ := Option.isSome_iff_exists.mp hcompletes
      have hkept := hnew.replayed "" outcome s' [] t hs' unresolvedUntil_nil (Int.le_refl t)
        (by simp only [new]; omega)
      have hforgotten := forgotten_at_once hlong' (Int.le_refl t) hs'
      rw [run, hforgotten] at hkept
      cases hkept
    refine ⟨hinFlight, httl, ?_⟩
    by_contra hpast
    rw [complete_eq_none httl (by simpa [new] using hpast) "" outcome] at hcompletes
    cases hcompletes
  · rintro ⟨hinFlight, httl, hlast⟩ s rfl rfl
    exact .of_expressible hinFlight httl hlast

/-- The longest lifetimes there are: a claim is taken again one nanosecond later, and an
outcome is forgotten; the longest one that can be expressed panics. -/
theorem endless_lifetimes_not_honoured :
    let s := new DispatchState.durationMax DispatchState.durationMax
    let outcome : StoredOutcome := .completed ClaimState.sampleWrite
    ¬ s.Honours 0 ∧ (s.claim 0 "MID#did:example:admin#msg-1").1 = .acquired ∧
      ((s.claim 0 "MID#did:example:admin#msg-1").2.claim 1 "MID#did:example:admin#msg-1").1 =
        .acquired ∧
      (∃ s', s.complete 0 "MID#did:example:admin#msg-1" outcome = some s' ∧
        (s'.claim 1 "MID#did:example:admin#msg-1").1 = .acquired) ∧
      (new Chrono.maxDuration defaultInFlightTtl).complete 0 "MID#did:example:admin#msg-1"
        outcome = none := by
  intro s outcome
  have hlong : Chrono.maxDuration < DispatchState.durationMax := by decide
  have hacquired : (s.claim 0 "MID#did:example:admin#msg-1").1 = .acquired := rfl
  have hretaken :
      ((s.claim 0 "MID#did:example:admin#msg-1").2.claim 1 "MID#did:example:admin#msg-1").1 =
        .acquired :=
    reclaimed_at_once hlong (by decide) hacquired
  obtain ⟨s', hs'⟩ : ∃ s', s.complete 0 "MID#did:example:admin#msg-1" outcome = some s' := ⟨_, rfl⟩
  have hforgotten : (s'.claim 1 "MID#did:example:admin#msg-1").1 = .acquired :=
    forgotten_at_once hlong (by decide) hs'
  refine ⟨fun h => ?_, hacquired, hretaken, ⟨s', hs', hforgotten⟩,
    complete_eq_none (by decide) (by decide) _ _⟩
  have hkept := h.inFlight _ [] 1 hacquired unresolvedUntil_nil (by decide) (by decide)
  rw [run, hretaken] at hkept
  cases hkept

/-- The default store honours its lifetimes until the last day there is. -/
theorem default_honours {t : ℤ} (hlast : t + defaultTtl ≤ Chrono.maxUtc) : default.Honours t :=
  .of_expressible (by decide) (by decide) hlast

end MemoryMessageIdStore
end TrustRegistry
