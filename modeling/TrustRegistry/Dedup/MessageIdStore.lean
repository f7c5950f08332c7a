import TrustRegistry.TrustTasks.Framework

/-!
# The store of message ids

A delivery of a write claims its message id before the write is made and
resolves the claim afterwards, either with the outcome, which later deliveries
get instead of a second write, or by giving the claim up.  The in-memory store
drops what is past its lifetime on every claim.

Durations are nanoseconds, as are times since the epoch.  The time library holds
a duration of at most `i64::MAX` milliseconds; the store reads any longer one as
zero.

## Main definitions

* `MessageIdStore` — what a store does.
* `MemoryMessageIdStore` — the in-memory store, with `claim`, `complete` and
  `release`.
* `MemoryMessageIdStore.live` — the entry of a key, unless it is past its
  lifetime.

## Main results

* `MemoryMessageIdStore.claim_fst`, `MemoryMessageIdStore.get?_claim`,
  `MemoryMessageIdStore.get?_complete`, `MemoryMessageIdStore.get?_release` —
  what each operation answers and leaves.
* `MemoryMessageIdStore.live_claim_of_ne` — a claim does not touch what other keys
  answer.
-/

namespace TrustRegistry

/-! ### Durations and times -/

namespace Chrono

/-- The longest duration: `i64::MAX` milliseconds. -/
def maxDuration : ℕ := 9223372036854775807 * 1000000

/-- The duration of so many nanoseconds. -/
def fromStd (d : ℕ) : Option ℤ := if d ≤ maxDuration then some d else none

/-- The last time there is: the end of the year 262142. -/
def maxUtc : ℤ := 8210266876799999999999

/-- A time so much later, if there is one. -/
def checkedAdd (t d : ℤ) : Option ℤ := if t + d ≤ maxUtc then some (t + d) else none

end Chrono

/-! ### Stores -/

/-- A completed outcome. -/
inductive StoredOutcome
  | completed (response : TrustTask)
  | rejected (error : ErrorResponse)
  deriving DecidableEq

namespace StoredOutcome

/-- The form an outcome is stored in. -/
def fromOutcome : TaskOutcome → StoredOutcome
  | .ok response => .completed response
  | .error error => .rejected error

/-- The outcome that is stored. -/
def intoOutcome : StoredOutcome → TaskOutcome
  | .completed response => .ok response
  | .rejected error => .error error

@[simp] theorem intoOutcome_fromOutcome (o : TaskOutcome) : (fromOutcome o).intoOutcome = o := by
  cases o <;> rfl

end StoredOutcome

/-- The answer to a claim. -/
inductive Claim
  | acquired
  | replay (outcome : StoredOutcome)
  | inFlight
  deriving DecidableEq

/-- What a store can fail with. -/
inductive DedupError
  | unavailable (msg : String)
  deriving DecidableEq

/-- A store over states `τ`.  The operations are given the time at which they
read the clock; completing may panic. -/
structure MessageIdStore (τ : Type*) where
  claim : τ → ℤ → String → Except DedupError Claim × τ
  complete : τ → ℤ → String → StoredOutcome → Option (Except DedupError Unit × τ)
  release : τ → String → Except DedupError Unit × τ

/-! ### The in-memory store -/

/-- The state of one message id. -/
inductive Entry
  | inFlight (claimedAt : ℤ)
  | done (outcome : StoredOutcome) (expiresAt : ℤ)
  deriving DecidableEq

/-- The in-memory store. -/
structure MemoryMessageIdStore where
  ttl : ℕ
  inFlightTtl : ℕ
  entries : AssocMap String Entry

namespace MemoryMessageIdStore

/-- A store with nothing in it. -/
def new (ttl inFlightTtl : ℕ) : MemoryMessageIdStore := ⟨ttl, inFlightTtl, AssocMap.empty⟩

/-- One day. -/
def defaultTtl : ℕ := 24 * 60 * 60 * 1000000000

/-- Five minutes. -/
def defaultInFlightTtl : ℕ := 5 * 60 * 1000000000

/-- The store the server starts with. -/
def default : MemoryMessageIdStore := new defaultTtl defaultInFlightTtl

/-- How long a configured duration is in effect: zero where it cannot be
expressed. -/
def lifetime (d : ℕ) : ℤ := (Chrono.fromStd d).getD 0

theorem lifetime_eq {d : ℕ} (h : (Chrono.fromStd d).isSome = true) : lifetime d = d := by
  unfold lifetime Chrono.fromStd at *
  split at h
  · next hd => rw [if_pos hd, Option.getD_some]
  · simp at h

/-- Is an entry within its lifetime? -/
def retains (now inFlight : ℤ) : Entry → Bool
  | .done _ expiresAt => expiresAt > now
  | .inFlight claimedAt => now - claimedAt < inFlight

/-- Drop the entries past their lifetime. -/
def evictExpired (entries : AssocMap String Entry) (now : ℤ) (inFlight : ℕ) :
    AssocMap String Entry :=
  entries.retain fun _ e => retains now (lifetime inFlight) e

/-- Claim a key, or say why it cannot be claimed. -/
def claim (s : MemoryMessageIdStore) (now : ℤ) (key : String) : Claim × MemoryMessageIdStore :=
  let entries := evictExpired s.entries now s.inFlightTtl
  match entries.get? key with
  | some (.done outcome _) => (.replay outcome, { s with entries })
  | some (.inFlight _) => (.inFlight, { s with entries })
  | none => (.acquired, { s with entries := entries.insert key (.inFlight now) })

/-- Resolve a claim with its outcome.  `none` is the panic of a time past the
last one. -/
def complete (s : MemoryMessageIdStore) (now : ℤ) (key : String) (outcome : StoredOutcome) :
    Option MemoryMessageIdStore :=
  (Chrono.checkedAdd now (lifetime s.ttl)).map fun expiresAt =>
    { s with entries := s.entries.insert key (.done outcome expiresAt) }

/-- Give a claim up. -/
def release (s : MemoryMessageIdStore) (key : String) : MemoryMessageIdStore :=
  { s with entries := s.entries.erase key }

/-- The in-memory store never fails. -/
def store : MessageIdStore MemoryMessageIdStore where
  claim s now key := ((s.claim now key).1 |> .ok, (s.claim now key).2)
  complete s now key outcome := (s.complete now key outcome).map fun s' => (.ok (), s')
  release s key := (.ok (), s.release key)

/-! ### What the operations answer and leave -/

/-- The entry of a key, unless it is past its lifetime. -/
def live (s : MemoryMessageIdStore) (now : ℤ) (key : String) : Option Entry :=
  (s.entries.get? key).filter (retains now (lifetime s.inFlightTtl))

/-- The answer to a claim that finds an entry, or none. -/
def answer : Option Entry → Claim
  | some (.done outcome _) => .replay outcome
  | some (.inFlight _) => .inFlight
  | none => .acquired

theorem get?_evictExpired (s : MemoryMessageIdStore) (now : ℤ) (key : String) :
    (evictExpired s.entries now s.inFlightTtl).get? key = s.live now key :=
  AssocMap.get?_retain s.entries _ key

/-- **A claim is answered by the entry that is within its lifetime.** -/
theorem claim_fst (s : MemoryMessageIdStore) (now : ℤ) (key : String) :
    (s.claim now key).1 = answer (s.live now key) := by
  dsimp only [claim]
  rw [get?_evictExpired]
  rcases s.live now key with _ | ⟨_ | _⟩ <;> rfl

/-- A claim leaves what is within its lifetime, and an entry at its key. -/
theorem get?_claim (s : MemoryMessageIdStore) (now : ℤ) (key k : String) :
    (s.claim now key).2.entries.get? k =
      if k = key then some ((s.live now key).getD (.inFlight now)) else s.live now k := by
  dsimp only [claim]
  rw [get?_evictExpired]
  by_cases hk : k = key
  · subst hk
    rcases h : s.live now k with _ | ⟨_ | _⟩
    · simp
    all_goals simp [get?_evictExpired, h]
  · rcases s.live now key with _ | ⟨_ | _⟩ <;>
      simp [AssocMap.get?_insert, hk, get?_evictExpired]

@[simp] theorem claim_ttl (s : MemoryMessageIdStore) (now : ℤ) (key : String) :
    (s.claim now key).2.ttl = s.ttl := by
  dsimp only [claim]
  split <;> rfl

@[simp] theorem claim_inFlightTtl (s : MemoryMessageIdStore) (now : ℤ) (key : String) :
    (s.claim now key).2.inFlightTtl = s.inFlightTtl := by
  dsimp only [claim]
  split <;> rfl

/-- Completing stores the outcome until its time to live is over. -/
theorem complete_eq_some {s s' : MemoryMessageIdStore} {now : ℤ} {key : String}
    {outcome : StoredOutcome} (h : s.complete now key outcome = some s') :
    s' = { s with entries := s.entries.insert key (.done outcome (now + lifetime s.ttl)) } := by
  unfold complete at h
  obtain ⟨expiresAt, hadd, rfl⟩ := Option.map_eq_some_iff.mp h
  unfold Chrono.checkedAdd at hadd
  split at hadd
  · rw [← Option.some.inj hadd]
  · simp at hadd

theorem get?_complete {s s' : MemoryMessageIdStore} {now : ℤ} {key : String}
    {outcome : StoredOutcome} (h : s.complete now key outcome = some s') (k : String) :
    s'.entries.get? k =
      if k = key then some (.done outcome (now + lifetime s.ttl)) else s.entries.get? k := by
  rw [complete_eq_some h]
  exact AssocMap.get?_insert s.entries key _ k

theorem get?_release (s : MemoryMessageIdStore) (key k : String) :
    (s.release key).entries.get? k = if k = key then none else s.entries.get? k :=
  AssocMap.get?_erase s.entries key k

/-! ### Lifetimes -/

theorem retains_mono {now now' inFlight : ℤ} (hle : now ≤ now') {e : Entry}
    (h : retains now' inFlight e = true) : retains now inFlight e = true := by
  cases e <;> simp only [retains, decide_eq_true_eq] at * <;> omega

/-- An entry that is within its lifetime is what it was before. -/
theorem live_eq_some {s : MemoryMessageIdStore} {now : ℤ} {key : String} {e : Entry} :
    s.live now key = some e ↔
      s.entries.get? key = some e ∧ retains now (lifetime s.inFlightTtl) e = true := by
  rw [live, Option.filter_eq_some_iff]

/-- An entry that a claim of another key drops is past its lifetime later too. -/
theorem live_filter {s : MemoryMessageIdStore} {now now' : ℤ} (hle : now ≤ now') (key : String) :
    (s.live now key).filter (retains now' (lifetime s.inFlightTtl)) = s.live now' key := by
  unfold live
  rw [Option.filter_filter]
  congr 1
  funext e
  cases h : retains now' (lifetime s.inFlightTtl) e with
  | true => simp [retains_mono hle h]
  | false => simp

/-- **A claim does not touch what other keys answer**, at that time or later. -/
theorem live_claim_of_ne (s : MemoryMessageIdStore) {now now' : ℤ} (hle : now ≤ now')
    {key k : String} (hk : k ≠ key) : (s.claim now key).2.live now' k = s.live now' k := by
  rw [live, get?_claim, if_neg hk, claim_inFlightTtl, live_filter hle]

end MemoryMessageIdStore

end TrustRegistry
