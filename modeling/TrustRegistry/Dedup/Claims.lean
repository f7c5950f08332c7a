import TrustRegistry.Dedup.MessageIdStore
import TrustRegistry.Lib.Transition

/-!
# Claims over the in-memory store

Any number of callers over one store: each claims a key, holds it once the claim
is acquired, and resolves what it holds by completing or releasing it.  Time
passes in between, with no bound on how long a key is held.  The store keeps no
record of who holds a key, so a claim that is past its lifetime is given to the
next caller, and the earlier holder still resolves it.

Which caller acquired a key last is kept here beside the store.

## Main definitions

* `ClaimState`, `ClaimAction`, `ClaimState.step` — the system.
* `ClaimState.StandingResolution` — a resolution that undoes nothing of another
  caller's.
* `ClaimState.Timely` — no claim is older than the configured time in flight.
* `ClaimState.Exclusive` — the invariant of timely runs: what a caller holds is
  what the store has.

## Main results

* `ClaimState.standing_resolutions_keep` — while resolutions undo nothing, a
  stored outcome is replayed until it expires, and the latest claim stands.
* `ClaimState.late_release_reopens` — the release of an earlier holder opens a
  key that has been completed.
* `ClaimState.exclusive_step`, `ClaimState.Exclusive.standingResolution` — in
  timely runs no key has two holders, and resolutions undo nothing.
-/

namespace TrustRegistry

open Transition MemoryMessageIdStore

/-- A store and its callers. -/
structure ClaimState where
  store : MemoryMessageIdStore
  now : ℤ
  /-- what a caller has acquired and not resolved, and when it acquired it -/
  holds : ℕ → Option (String × ℤ)
  /-- the caller that acquired a key last -/
  latest : String → Option ℕ

/-- The calls, and the passing of time. -/
inductive ClaimAction
  | tick (d : ℕ)
  | claim (id : ℕ) (key : String)
  | complete (id : ℕ) (outcome : StoredOutcome)
  | release (id : ℕ)

namespace ClaimState

/-- The callers that hold nothing, over a store with nothing in it. -/
def opened (ttl inFlightTtl : ℕ) (now : ℤ) : ClaimState :=
  ⟨.new ttl inFlightTtl, now, fun _ => none, fun _ => none⟩

/-- A caller resolves what it holds. -/
def resolved (s : ClaimState) (id : ℕ) (store : MemoryMessageIdStore) : ClaimState :=
  { s with store, holds := Function.update s.holds id none }

/-- A caller acquires a key. -/
def acquired (s : ClaimState) (id : ℕ) (key : String) (store : MemoryMessageIdStore) : ClaimState :=
  { s with
    store
    holds := Function.update s.holds id (some (key, s.now))
    latest := Function.update s.latest key (some id) }

/-- One step.  A caller whose completion panics never gets to resolve its
claim. -/
def step (s : ClaimState) : ClaimAction → Option ClaimState
  | .tick d => some { s with now := s.now + d }
  | .claim id key =>
    match s.holds id, s.store.claim s.now key with
    | some _, _ => none
    | none, (.acquired, store) => some (s.acquired id key store)
    | none, (_, store) => some { s with store }
  | .complete id outcome =>
    match s.holds id with
    | some (key, _) => (s.store.complete s.now key outcome).map (s.resolved id)
    | none => none
  | .release id =>
    match s.holds id with
    | some (key, _) => some (s.resolved id (s.store.release key))
    | none => none

/-- Every way a step can go. -/
inductive Stepped (s : ClaimState) : ClaimAction → ClaimState → Prop
  | ticked {d : ℕ} : Stepped s (.tick d) { s with now := s.now + d }
  | acquired {id : ℕ} {key : String} (hid : s.holds id = none)
      (hlive : s.store.live s.now key = none) :
      Stepped s (.claim id key) (s.acquired id key (s.store.claim s.now key).2)
  | refused {id : ℕ} {key : String} {e : Entry} (hid : s.holds id = none)
      (hlive : s.store.live s.now key = some e) :
      Stepped s (.claim id key) { s with store := (s.store.claim s.now key).2 }
  | completed {id : ℕ} {key : String} {since : ℤ} {outcome : StoredOutcome}
      {store : MemoryMessageIdStore} (hid : s.holds id = some (key, since))
      (hstore : s.store.complete s.now key outcome = some store) :
      Stepped s (.complete id outcome) (s.resolved id store)
  | released {id : ℕ} {key : String} {since : ℤ} (hid : s.holds id = some (key, since)) :
      Stepped s (.release id) (s.resolved id (s.store.release key))

theorem step_claim_of_free {s : ClaimState} {id : ℕ} {key : String} (hid : s.holds id = none)
    (hfree : s.store.live s.now key = none) :
    s.step (.claim id key) = some (s.acquired id key (s.store.claim s.now key).2) := by
  have hfst := s.store.claim_fst s.now key
  rw [hfree] at hfst
  have hclaim : s.store.claim s.now key = (.acquired, (s.store.claim s.now key).2) :=
    Prod.ext hfst rfl
  rw [step, hid, hclaim]

theorem step_claim_of_live {s : ClaimState} {id : ℕ} {key : String} {e : Entry}
    (hid : s.holds id = none) (hlive : s.store.live s.now key = some e) :
    s.step (.claim id key) = some { s with store := (s.store.claim s.now key).2 } := by
  have hfst := s.store.claim_fst s.now key
  rw [hlive] at hfst
  have hclaim : s.store.claim s.now key = (answer (some e), (s.store.claim s.now key).2) :=
    Prod.ext hfst rfl
  rw [step, hid, hclaim]
  cases e <;> rfl

theorem stepped_of_step {s s' : ClaimState} {a : ClaimAction} (h : s.step a = some s') :
    Stepped s a s' := by
  cases a with
  | tick d =>
    obtain rfl := Option.some.inj h
    exact .ticked
  | claim id key =>
    cases hid : s.holds id with
    | some p => simp [step, hid] at h
    | none =>
      cases hlive : s.store.live s.now key with
      | none =>
        rw [step_claim_of_free hid hlive] at h
        obtain rfl := Option.some.inj h
        exact .acquired hid hlive
      | some e =>
        rw [step_claim_of_live hid hlive] at h
        obtain rfl := Option.some.inj h
        exact .refused hid hlive
  | complete id outcome =>
    rw [step] at h
    cases hid : s.holds id with
    | none => simp [hid] at h
    | some p =>
      rw [hid] at h
      obtain ⟨store, hstore, rfl⟩ := Option.map_eq_some_iff.mp h
      exact .completed hid hstore
  | release id =>
    rw [step] at h
    cases hid : s.holds id with
    | none => simp [hid] at h
    | some p =>
      rw [hid] at h
      obtain rfl := Option.some.inj h
      exact .released hid

/-! ### Resolutions that undo nothing -/

/-- Whatever stands under the key is the claim of this caller. -/
def OwnsEntry (s : ClaimState) (id : ℕ) (key : String) : Prop :=
  ∀ e, s.store.live s.now key = some e →
    (∃ claimedAt, e = .inFlight claimedAt) ∧ s.latest key = some id

/-- A caller resolves its claim while that still stands, or nothing does. -/
def StandingResolution (s : ClaimState) : ClaimAction → Prop
  | .complete id _ | .release id => ∀ key since, s.holds id = some (key, since) → s.OwnsEntry id key
  | .tick _ | .claim _ _ => True

theorem store_ttl_of_step {s s' : ClaimState} {a : ClaimAction} (h : s.step a = some s') :
    s'.store.ttl = s.store.ttl ∧ s'.store.inFlightTtl = s.store.inFlightTtl := by
  cases stepped_of_step h with
  | ticked => exact ⟨rfl, rfl⟩
  | acquired hid hlive => exact ⟨claim_ttl _ _ _, claim_inFlightTtl _ _ _⟩
  | refused hid hlive => exact ⟨claim_ttl _ _ _, claim_inFlightTtl _ _ _⟩
  | completed hid hstore =>
    obtain rfl := complete_eq_some hstore
    exact ⟨rfl, rfl⟩
  | released hid => exact ⟨rfl, rfl⟩

theorem now_le_of_step {s s' : ClaimState} {a : ClaimAction} (h : s.step a = some s') :
    s.now ≤ s'.now := by
  cases stepped_of_step h with
  | @ticked d =>
    show s.now ≤ s.now + d
    omega
  | _ => exact Int.le_refl _

/-- An entry within its lifetime outlives a claim, of its own key or another. -/
theorem get?_claim_of_live {s : MemoryMessageIdStore} {now : ℤ} {key k : String} {e : Entry}
    (h : s.live now k = some e) : (s.claim now key).2.entries.get? k = some e := by
  rw [get?_claim]
  split
  · next hk => rw [← hk, h, Option.getD_some]
  · exact h

/-- A stored outcome stays, until it expires, through every step that undoes
nothing. -/
theorem done_step {s s' : ClaimState} {a : ClaimAction} {key : String} {o : StoredOutcome} {e : ℤ}
    (hs : s.now < e → s.store.entries.get? key = some (.done o e)) (hok : StandingResolution s a)
    (hstep : s.step a = some s') : s'.now < e → s'.store.entries.get? key = some (.done o e) := by
  intro hlt
  have hle := now_le_of_step hstep
  have hnow : s.now < e := by omega
  have hget := hs hnow
  have hlive : s.store.live s.now key = some (.done o e) :=
    live_eq_some.mpr ⟨hget, by simpa [retains] using hnow⟩
  -- a resolution of this very key would undo the outcome
  have hne : ∀ id k since, s.holds id = some (k, since) →
      (∀ k' since', s.holds id = some (k', since') → s.OwnsEntry id k') → key ≠ k := by
    rintro id k since hid hown rfl
    obtain ⟨⟨_, habs⟩, _⟩ := hown _ _ hid _ hlive
    cases habs
  cases stepped_of_step hstep with
  | ticked => exact hget
  | acquired hid hnone => exact get?_claim_of_live hlive
  | refused hid hsome => exact get?_claim_of_live hlive
  | completed hid hstore =>
    rw [resolved, get?_complete hstore, if_neg (hne _ _ _ hid hok)]
    exact hget
  | released hid =>
    rw [resolved, get?_release, if_neg (hne _ _ _ hid hok)]
    exact hget

/-- The claim that was acquired last, while it is unresolved and within its
lifetime, is what the store has. -/
def LatestStands (s : ClaimState) : Prop :=
  ∀ id key since, s.holds id = some (key, since) → s.latest key = some id →
    s.now - since < lifetime s.store.inFlightTtl →
    s.store.entries.get? key = some (.inFlight since)

theorem LatestStands.live {s : ClaimState} (h : s.LatestStands) {id : ℕ} {key : String} {since : ℤ}
    (hid : s.holds id = some (key, since)) (hlatest : s.latest key = some id)
    (hage : s.now - since < lifetime s.store.inFlightTtl) :
    s.store.live s.now key = some (.inFlight since) :=
  live_eq_some.mpr ⟨h id key since hid hlatest hage, by simpa [retains] using hage⟩

theorem latestStands_step {s s' : ClaimState} {a : ClaimAction} (hs : s.LatestStands)
    (hok : StandingResolution s a) (hstep : s.step a = some s') : s'.LatestStands := by
  have httl := (store_ttl_of_step hstep).2
  -- a resolution by one caller is not of a key where the claim of another stands
  have hother : ∀ id' k since', s.holds id' = some (k, since') →
      (∀ k' since', s.holds id' = some (k', since') → s.OwnsEntry id' k') →
      ∀ id key since, id ≠ id' → s.holds id = some (key, since) → s.latest key = some id →
        s.now - since < lifetime s.store.inFlightTtl → key ≠ k := by
    rintro id' k since' hid' hown id key since hne hid hlatest hage rfl
    obtain ⟨_, h⟩ := hown _ _ hid' _ (hs.live hid hlatest hage)
    rw [hlatest] at h
    exact hne (Option.some.inj h)
  cases stepped_of_step hstep with
  | @ticked d =>
    intro id key since hid hlatest hage
    have hage' : s.now + d - since < lifetime s.store.inFlightTtl := hage
    exact hs id key since hid hlatest (by omega)
  | @acquired id' key' hid' hlive =>
    intro id key since hid hlatest hage
    rw [httl] at hage
    simp only [acquired, Function.update_apply] at hid hlatest ⊢
    by_cases hkey : key = key'
    · subst hkey
      rw [if_pos rfl] at hlatest
      obtain rfl := Option.some.inj hlatest
      rw [if_pos rfl] at hid
      obtain ⟨_, rfl⟩ := Prod.mk.inj (Option.some.inj hid)
      rw [get?_claim, if_pos rfl, hlive, Option.getD_none]
    · rw [if_neg hkey] at hlatest
      have hne : id ≠ id' := by
        rintro rfl
        rw [if_pos rfl] at hid
        exact hkey (Prod.mk.inj (Option.some.inj hid)).1.symm
      rw [if_neg hne] at hid
      exact get?_claim_of_live (hs.live hid hlatest hage)
  | @refused id' key' e hid' hlive =>
    intro id key since hid hlatest hage
    rw [httl] at hage
    exact get?_claim_of_live (hs.live hid hlatest hage)
  | @completed id' key' since' outcome store hid' hstore =>
    intro id key since hid hlatest hage
    rw [httl] at hage
    simp only [resolved, Function.update_apply] at hid ⊢
    by_cases hne : id = id'
    · simp [hne] at hid
    · rw [if_neg hne] at hid
      rw [get?_complete hstore, if_neg (hother _ _ _ hid' hok _ _ _ hne hid hlatest hage)]
      exact hs id key since hid hlatest hage
  | @released id' key' since' hid' =>
    intro id key since hid hlatest hage
    simp only [resolved, Function.update_apply] at hid ⊢
    by_cases hne : id = id'
    · simp [hne] at hid
    · rw [if_neg hne] at hid
      rw [get?_release, if_neg (hother _ _ _ hid' hok _ _ _ hne hid hlatest hage)]
      exact hs id key since hid hlatest hage

theorem opened_latestStands (ttl inFlightTtl : ℕ) (now : ℤ) :
    (opened ttl inFlightTtl now).LatestStands := fun _ _ _ hid => by simp [opened] at hid

/-- A stored outcome is replayed until it expires. -/
theorem replays_until {t u : ClaimState} {bs : List ClaimAction} {key : String} {o : StoredOutcome}
    {e : ℤ} (hget : t.store.entries.get? key = some (.done o e))
    (hrun : Run step StandingResolution t bs u) (hlt : u.now < e) :
    (u.store.claim u.now key).1 = .replay o := by
  have hdone : u.now < e → u.store.entries.get? key = some (.done o e) :=
    Run.invariant (I := fun s => s.now < e → s.store.entries.get? key = some (.done o e))
      (fun _ _ _ hs hok hstep => done_step hs hok hstep) hrun fun _ => hget
  rw [claim_fst, live_eq_some.mpr ⟨hdone hlt, by simpa [retains] using hlt⟩]
  rfl

/-- **While resolutions undo nothing, a stored outcome is replayed until it
expires**, whatever else is done, **and the latest claim stands** as long as it
is unresolved and within its lifetime. -/
theorem standing_resolutions_keep {ttl inFlightTtl : ℕ} {now : ℤ} {as : List ClaimAction}
    {t : ClaimState} (hrun : Run step StandingResolution (opened ttl inFlightTtl now) as t) :
    (∀ key o e, t.store.entries.get? key = some (.done o e) →
      ∀ bs u, Run step StandingResolution t bs u → u.now < e →
        (u.store.claim u.now key).1 = .replay o) ∧
    ∀ id key since, t.holds id = some (key, since) → t.latest key = some id →
      t.now - since < lifetime t.store.inFlightTtl →
      t.store.live t.now key = some (.inFlight since) := by
  refine ⟨fun key o e hget bs u hrun' hlt => replays_until hget hrun' hlt, ?_⟩
  have hstands : t.LatestStands :=
    Run.invariant (I := LatestStands) (fun _ _ _ => latestStands_step) hrun
      (opened_latestStands ttl inFlightTtl now)
  exact fun id key since hid hlatest hage => hstands.live hid hlatest hage

/-- A creation as an administrator sends it. -/
def sampleWrite : TrustTask where
  id := "msg-1"
  typeUri := ⟨"registry/record/create", "0.1", false⟩
  issuer := some "did:example:admin"
  payload := .obj []

/-- A caller claims a key and is still at work when its claim has passed its
lifetime; another claims the key and completes it. -/
def overtaken : List ClaimAction :=
  [.claim 0 "MID#did:example:admin#msg-1", .tick defaultInFlightTtl,
    .claim 1 "MID#did:example:admin#msg-1", .complete 1 (.completed sampleWrite)]

/-- The earlier holder lets go a day later, when the outcome has expired, and a
third caller claims the key. -/
def reclaimed : List ClaimAction :=
  [.tick defaultTtl, .release 0, .claim 2 "MID#did:example:admin#msg-1"]

/-- The second holder completes its own claim. -/
theorem run_overtaken : ∃ t, Run step StandingResolution (opened defaultTtl defaultInFlightTtl 0)
      overtaken t ∧ t.now = defaultInFlightTtl ∧
    t.store.entries.get? "MID#did:example:admin#msg-1"
      = some (.done (.completed sampleWrite) (t.now + defaultTtl)) ∧
    ∃ u, Run step StandingResolution t reclaimed u ∧
      u.holds 2 = some ("MID#did:example:admin#msg-1", u.now) ∧
      u.latest "MID#did:example:admin#msg-1" = some 2 ∧
      u.store.inFlightTtl = defaultInFlightTtl := by
  refine ⟨_, .cons trivial rfl (.cons trivial rfl (.cons trivial rfl (.cons ?_ rfl (.nil _)))),
    rfl, rfl, _, .cons trivial rfl (.cons ?_ rfl (.cons trivial rfl (.nil _))), rfl, rfl, rfl⟩
  · intro key since hid e hlive
    obtain ⟨rfl, rfl⟩ := Prod.mk.inj (Option.some.inj hid)
    obtain rfl := Option.some.inj hlive
    exact ⟨⟨_, rfl⟩, rfl⟩
  · -- nothing of the key is left when the first holder releases it
    intro key since hid e hlive
    obtain ⟨rfl, rfl⟩ := Prod.mk.inj (Option.some.inj hid)
    cases hlive

/-- The outcome of the second holder is replayed for a day, whatever is done that
undoes nothing; the first holder's late release undoes nothing, and the claim
after it stands. -/
theorem second_holder_kept : ∃ t u, Run step StandingResolution
      (opened defaultTtl defaultInFlightTtl 0) overtaken t ∧
    Run step StandingResolution t reclaimed u ∧
    (∀ bs v, Run step StandingResolution t bs v → v.now < t.now + defaultTtl →
      (v.store.claim v.now "MID#did:example:admin#msg-1").1 = .replay (.completed sampleWrite)) ∧
    u.store.live u.now "MID#did:example:admin#msg-1" = some (.inFlight u.now) := by
  obtain ⟨t, ht, _, hdone, u, hu, hholds, hlatest, httl⟩ := run_overtaken
  refine ⟨t, u, ht, hu, (standing_resolutions_keep ht).1 _ _ _ hdone,
    (standing_resolutions_keep (ht.trans hu)).2 2 _ _ hholds hlatest ?_⟩
  rw [httl, Int.sub_self]
  decide

/-- **The release of an earlier holder opens a key that has been completed**: the
outcome is stored for a day, and the next claim is acquired. -/
theorem late_release_reopens : ∃ t u,
    Run step anyAction (opened defaultTtl defaultInFlightTtl 0) overtaken t ∧
    t.store.entries.get? "MID#did:example:admin#msg-1"
      = some (.done (.completed sampleWrite) (t.now + defaultTtl)) ∧
    Run step anyAction t [.release 0] u ∧ u.now < t.now + defaultTtl ∧
    (u.store.claim u.now "MID#did:example:admin#msg-1").1 = .acquired := by
  have hany : ∀ as : List ClaimAction, ∀ a ∈ as, ∀ s : ClaimState, anyAction s a :=
    fun _ _ _ _ => trivial
  exact ⟨_, _, run_of_exec (hany _) rfl, rfl, run_of_exec (hany _) rfl, by decide, rfl⟩

/-! ### Timely runs -/

/-- Every claim is resolved before it is as old as the configured time in
flight. -/
def Timely (s : ClaimState) : Prop :=
  ∀ id key since, s.holds id = some (key, since) → s.now - since < s.store.inFlightTtl

theorem opened_timely (ttl inFlightTtl : ℕ) (now : ℤ) : (opened ttl inFlightTtl now).Timely :=
  fun _ _ _ hid => by simp [opened] at hid

/-- A claim is in time when it is the only one and has just been acquired. -/
theorem timely_of_single {s : ClaimState} {id : ℕ} {key : String} (hpos : 0 < s.store.inFlightTtl)
    (hholds : s.holds = Function.update (fun _ => none) id (some (key, s.now))) : s.Timely := by
  intro j k since hid
  rw [hholds, Function.update_apply] at hid
  split at hid
  · obtain ⟨_, rfl⟩ := Prod.mk.inj (Option.some.inj hid)
    omega
  · cases hid

/-- What a caller holds it acquired last, and the store has it as in flight. -/
def Exclusive (s : ClaimState) : Prop :=
  ∀ id key since, s.holds id = some (key, since) →
    s.latest key = some id ∧ s.store.entries.get? key = some (.inFlight since)

theorem opened_exclusive (ttl inFlightTtl : ℕ) (now : ℤ) :
    (opened ttl inFlightTtl now).Exclusive := fun _ _ _ hid => by simp [opened] at hid

/-- Two callers never hold one key. -/
theorem Exclusive.unique {s : ClaimState} (h : s.Exclusive) {i j : ℕ} {key : String}
    {since since' : ℤ} (hi : s.holds i = some (key, since))
    (hj : s.holds j = some (key, since')) : i = j := by
  have hlatest := (h i key since hi).1
  rw [(h j key since' hj).1] at hlatest
  exact (Option.some.inj hlatest).symm

/-- Where claims are in time and the time in flight is what it is configured to
be, what a caller holds stands in the store. -/
theorem Exclusive.live {s : ClaimState} (h : s.Exclusive) (htimely : s.Timely)
    (hconv : lifetime s.store.inFlightTtl = s.store.inFlightTtl) {id : ℕ} {key : String} {since : ℤ}
    (hid : s.holds id = some (key, since)) : s.store.live s.now key = some (.inFlight since) := by
  have hage := htimely id key since hid
  rw [← hconv] at hage
  exact live_eq_some.mpr ⟨(h id key since hid).2, by simpa [retains] using hage⟩

/-- Then resolutions undo nothing. -/
theorem Exclusive.standingResolution {s : ClaimState} (h : s.Exclusive) (htimely : s.Timely)
    (hconv : lifetime s.store.inFlightTtl = s.store.inFlightTtl) (a : ClaimAction) :
    StandingResolution s a := by
  have howns : ∀ id key since, s.holds id = some (key, since) → s.OwnsEntry id key := by
    intro id key since hid e hlive
    rw [h.live htimely hconv hid] at hlive
    exact ⟨⟨since, (Option.some.inj hlive).symm⟩, (h id key since hid).1⟩
  cases a with
  | complete id outcome => exact howns id
  | release id => exact howns id
  | _ => trivial

theorem exclusive_step {s s' : ClaimState} {a : ClaimAction} (hs : s.Exclusive) (htimely : s.Timely)
    (hconv : lifetime s.store.inFlightTtl = s.store.inFlightTtl) (hstep : s.step a = some s') :
    s'.Exclusive := by
  -- resolving one key leaves what the others hold
  have hother : ∀ id' k since' id key since, s.holds id' = some (k, since') → id ≠ id' →
      s.holds id = some (key, since) → key ≠ k := by
    rintro id' k since' id key since hid' hne hid rfl
    exact hne (hs.unique hid hid')
  cases stepped_of_step hstep with
  | ticked => exact hs
  | @acquired id' key' hid' hlive =>
    intro id key since hid
    simp only [acquired, Function.update_apply] at hid ⊢
    by_cases hne : id = id'
    · rw [if_pos hne] at hid
      obtain ⟨rfl, rfl⟩ := Prod.mk.inj (Option.some.inj hid)
      rw [if_pos rfl, get?_claim, if_pos rfl, hlive, hne]
      exact ⟨rfl, rfl⟩
    · rw [if_neg hne] at hid
      have hstands := hs.live htimely hconv hid
      have hkey : key ≠ key' := by
        rintro rfl
        rw [hlive] at hstands
        cases hstands
      rw [if_neg hkey]
      exact ⟨(hs id key since hid).1, get?_claim_of_live hstands⟩
  | @refused id' key' e hid' hlive =>
    intro id key since hid
    exact ⟨(hs id key since hid).1, get?_claim_of_live (hs.live htimely hconv hid)⟩
  | @completed id' key' since' outcome store hid' hstore =>
    intro id key since hid
    simp only [resolved, Function.update_apply] at hid ⊢
    by_cases hne : id = id'
    · simp [hne] at hid
    · rw [if_neg hne] at hid
      rw [get?_complete hstore, if_neg (hother _ _ _ _ _ _ hid' hne hid)]
      exact hs id key since hid
  | @released id' key' since' hid' =>
    intro id key since hid
    simp only [resolved, Function.update_apply] at hid ⊢
    by_cases hne : id = id'
    · simp [hne] at hid
    · rw [if_neg hne] at hid
      rw [get?_release, if_neg (hother _ _ _ _ _ _ hid' hne hid)]
      exact hs id key since hid

end ClaimState

end TrustRegistry
