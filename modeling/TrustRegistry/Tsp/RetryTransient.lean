import Mathlib.Algebra.Group.Nat.Defs
import Mathlib.Data.List.Basic

/-!
# Unpacking a TSP frame

A frame is deleted before it is unpacked, so that a failure that may pass is retried,
with a wait that doubles up to a limit.  A duration that is doubled past the longest
one panics.

## Main definitions

* `StdDuration` — durations.
* `AtmError.isTransientUnpackError` — the failures that are retried.
* `retryTransient` — the loop, over the results of the operation.
* `lastCall`, `StdDuration.wait` — the last call that should be made, and the waits.
* `RetryPolicy` — what a run should be.

## Main results

* `retryLoop_eq`, `retryLoop_panicked` — every run of the loop.
* `retryPolicy_iff` — the runs that are what they should be.
* `unpackFrame_policy` — those of the registry.
-/

namespace TrustRegistry

/-! ### Durations -/

/-- The nanoseconds of the longest duration. -/
def StdDuration.maxNanos : ℕ := (2 ^ 64 - 1) * 1000000000 + 999999999

/-- A duration. -/
@[ext] structure StdDuration where
  nanos : ℕ
  fits : nanos ≤ StdDuration.maxNanos
  deriving DecidableEq

namespace StdDuration

/-- A multiple of a duration.  `none` is the panic of one that is too long. -/
def mul (d : StdDuration) (rhs : ℕ) : Option StdDuration :=
  if h : d.nanos * rhs ≤ maxNanos then some ⟨d.nanos * rhs, h⟩ else none

/-- The shorter one of two durations. -/
instance : Min StdDuration := ⟨fun d d' => if d.nanos ≤ d'.nanos then d else d'⟩

/-- The longest duration. -/
def maxValue : StdDuration := ⟨maxNanos, Nat.le_refl _⟩

theorem nanos_min (d d' : StdDuration) : (min d d').nanos = min d.nanos d'.nanos := by
  change (if d.nanos ≤ d'.nanos then d else d').nanos = min d.nanos d'.nanos
  split
  · omega
  · omega

theorem nanos_min_le (d d' : StdDuration) : (min d d').nanos ≤ d'.nanos := by
  rw [nanos_min]
  exact Nat.min_le_right _ _

theorem mul_eq_some {d d' : StdDuration} {rhs : ℕ} :
    d.mul rhs = some d' ↔ d'.nanos = d.nanos * rhs := by
  unfold mul
  constructor
  · intro h
    split at h
    · rw [← Option.some.inj h]
    · cases h
  · intro h
    have hfits := d'.fits
    rw [h] at hfits
    rw [dif_pos hfits, Option.some.injEq, StdDuration.ext_iff, h]

theorem mul_eq_none {d : StdDuration} {rhs : ℕ} : d.mul rhs = none ↔ maxNanos < d.nanos * rhs := by
  unfold mul
  split
  · next h => simpa using h
  · next h => simpa using h

/-! ### The waits -/

/-- The wait after so many calls more than one: it doubles up to the limit. -/
def wait (initialBackoff maxBackoff : StdDuration) (i : ℕ) : StdDuration :=
  ⟨min (initialBackoff.nanos * 2 ^ i) maxBackoff.nanos,
    Nat.le_trans (Nat.min_le_right _ _) maxBackoff.fits⟩

/-- The first wait is the initial one. -/
theorem wait_zero {b m : StdDuration} (h : b.nanos ≤ m.nanos) : wait b m 0 = b := by
  ext
  simp [wait, h]

/-- The waits from the doubled one on. -/
theorem wait_doubled {b d : StdDuration} (hd : b.mul 2 = some d) (m : StdDuration) (i : ℕ) :
    wait (min d m) m i = wait b m (i + 1) := by
  have hpow : b.nanos * 2 ^ (i + 1) = b.nanos * 2 * 2 ^ i := by
    rw [Nat.pow_succ, Nat.mul_comm (2 ^ i), Nat.mul_assoc]
  have hlimit : m.nanos ≤ m.nanos * 2 ^ i := Nat.le_mul_of_pos_right _ (Nat.two_pow_pos i)
  have hmul : min (b.nanos * 2) m.nanos * 2 ^ i = min (b.nanos * 2 * 2 ^ i) (m.nanos * 2 ^ i) :=
    (Nat.mul_min_mul_right _ _ _).symm
  ext
  simp only [wait, nanos_min, mul_eq_some.mp hd, hpow, hmul]
  omega

/-- A later wait is not shorter. -/
theorem wait_mono (b m : StdDuration) {i j : ℕ} (hij : i ≤ j) :
    (wait b m i).nanos ≤ (wait b m j).nanos := by
  have hpow : b.nanos * 2 ^ i ≤ b.nanos * 2 ^ j :=
    Nat.mul_le_mul_left _ (Nat.pow_le_pow_right (by omega) hij)
  simp only [wait]
  omega

end StdDuration

/-! ### The loop -/

/-- What unpacking fails with. -/
inductive AtmError
  | didError (msg : String)
  | transportError (msg : String)
  | disconnected (msg : String)
  | tdkError (msg : String)
  | msgReceiveError (msg : String)
  | secretsError (msg : String)
  | other (msg : String)
  deriving DecidableEq

/-- May the failure pass? -/
def AtmError.isTransientUnpackError : AtmError → Bool
  | .didError _ | .transportError _ | .disconnected _ | .tdkError _ => true
  | .msgReceiveError _ | .secretsError _ | .other _ => false

/-- How a run of the loop ends. -/
inductive RetryEnd (α : Type)
  | returned (result : Except AtmError α)
  | panicked

/-- A run of the loop: the calls it makes, the durations it sleeps for and its end. -/
structure RetryRun (α : Type) where
  calls : ℕ
  waits : List StdDuration
  ending : RetryEnd α

variable {α : Type}

/-- The run that made one more call before, and slept. -/
def RetryRun.after (backoff : StdDuration) (r : RetryRun α) : RetryRun α :=
  { r with calls := r.calls + 1, waits := backoff :: r.waits }

/-- The loop.  The results are those of the calls that are still to be made; an attempt
is counted up to the attempts that there are, so that the count does not overflow. -/
def retryLoop (attempts : ℕ) (maxBackoff : StdDuration) (op : ℕ → Except AtmError α)
    (backoff : StdDuration) (attempt : ℕ) : RetryRun α :=
  match op 0 with
  | .ok value => ⟨1, [], .returned (.ok value)⟩
  | .error err =>
    if attempts ≤ attempt ∨ ¬ err.isTransientUnpackError then
      ⟨1, [], .returned (.error err)⟩
    else
      match backoff.mul 2 with
      | none => ⟨1, [backoff], .panicked⟩
      | some doubled =>
        (retryLoop attempts maxBackoff (fun k => op (k + 1)) (min doubled maxBackoff)
          (attempt + 1)).after backoff
termination_by attempts - attempt

/-- Call the operation until it succeeds, fails for good or is out of attempts. -/
def retryTransient (attempts : ℕ) (initialBackoff maxBackoff : StdDuration)
    (op : ℕ → Except AtmError α) : RetryRun α :=
  retryLoop attempts maxBackoff op initialBackoff 1

/-! ### What a run should be -/

/-- Is a result one that is not retried? -/
def isFinal : Except AtmError α → Bool
  | .ok _ => true
  | .error err => !err.isTransientUnpackError

/-- The position of the first result that is not retried, or the last attempt. -/
def lastCall (attempts : ℕ) (op : ℕ → Except AtmError α) : ℕ :=
  ((List.range attempts).find? fun i => isFinal (op i)).elim attempts (· + 1)

variable {attempts attempt : ℕ} {initialBackoff maxBackoff backoff : StdDuration}
  {op : ℕ → Except AtmError α}

theorem lastCall_of_final (hattempts : 0 < attempts) (h : isFinal (op 0) = true) :
    lastCall attempts op = 1 := by
  obtain ⟨n, rfl⟩ := Nat.exists_eq_add_one.mpr hattempts
  simp [lastCall, List.range_succ_eq_map, List.find?_cons_of_pos, h]

theorem lastCall_succ (h : isFinal (op 0) = false) (n : ℕ) :
    lastCall (n + 1) op = lastCall n (fun k => op (k + 1)) + 1 := by
  unfold lastCall
  rw [List.range_succ_eq_map, List.find?_cons_of_neg (by simp [h]), List.find?_map]
  have hshift : ((fun i => isFinal (op i)) ∘ Nat.succ) = fun i => isFinal (op (i + 1)) := rfl
  rw [hshift]
  cases (List.range n).find? fun i => isFinal (op (i + 1)) with
  | none => rfl
  | some i => rfl

/-- The last call is one of the attempts. -/
theorem lastCall_le (attempts : ℕ) (op : ℕ → Except AtmError α) :
    lastCall attempts op ≤ attempts := by
  induction attempts generalizing op with
  | zero => simp [lastCall]
  | succ n ih =>
    cases h : isFinal (op 0) with
    | true => simp [lastCall_of_final (Nat.succ_pos n) h]
    | false =>
      rw [lastCall_succ h]
      exact Nat.succ_le_succ (ih _)

theorem lastCall_pos (hattempts : 0 < attempts) : 0 < lastCall attempts op := by
  obtain ⟨n, rfl⟩ := Nat.exists_eq_add_one.mpr hattempts
  cases h : isFinal (op 0) with
  | true => simp [lastCall_of_final (Nat.succ_pos n) h]
  | false => simp [lastCall_succ h]

/-- Every result before the last call is retried. -/
theorem isFinal_of_lt_lastCall {i : ℕ} (h : i + 1 < lastCall attempts op) :
    isFinal (op i) = false := by
  induction attempts generalizing op i with
  | zero => simp [lastCall] at h
  | succ n ih =>
    cases hop : isFinal (op 0) with
    | true =>
      rw [lastCall_of_final (Nat.succ_pos n) hop] at h
      omega
    | false =>
      rw [lastCall_succ hop] at h
      cases i with
      | zero => exact hop
      | succ i =>
        have hi : i + 1 < lastCall n fun k => op (k + 1) := by omega
        exact @ih (fun k => op (k + 1)) i hi

/-- The last call before the attempts are spent is not retried. -/
theorem isFinal_lastCall (hattempts : 0 < attempts) (h : lastCall attempts op < attempts) :
    isFinal (op (lastCall attempts op - 1)) = true := by
  induction attempts generalizing op with
  | zero => omega
  | succ n ih =>
    cases hop : isFinal (op 0) with
    | true => rwa [lastCall_of_final (Nat.succ_pos n) hop]
    | false =>
      rw [lastCall_succ hop] at h ⊢
      have hn : 0 < n := by omega
      have hpos : 0 < lastCall n fun k => op (k + 1) := lastCall_pos hn
      have hrest : lastCall n (fun k => op (k + 1)) < n := by omega
      have hlast := ih hn hrest
      rwa [Nat.sub_add_cancel hpos] at hlast

/-- **The runs that are what they should be**: the calls up to the last one, its result,
and the waits before each but the first.  So no failure for good is retried, and no
failure that may pass is returned before the attempts are spent. -/
structure RetryPolicy (attempts : ℕ) (initialBackoff maxBackoff : StdDuration)
    (op : ℕ → Except AtmError α) (r : RetryRun α) : Prop where
  calls : r.calls = lastCall attempts op
  returned : r.ending = .returned (op (lastCall attempts op - 1))
  waits : r.waits = (List.range (lastCall attempts op - 1)).map (.wait initialBackoff maxBackoff)
  retried : ∀ i, i + 1 < r.calls → ∃ err, op i = .error err ∧ err.isTransientUnpackError = true
  spent : ∀ err, r.ending = .returned (.error err) → err.isTransientUnpackError = true →
    r.calls = attempts

/-! ### One attempt -/

/-- A result that is not retried, or that of the last attempt, is returned. -/
theorem retryLoop_of_last (h : isFinal (op 0) = true ∨ attempts ≤ attempt) :
    retryLoop attempts maxBackoff op backoff attempt = ⟨1, [], .returned (op 0)⟩ := by
  rw [retryLoop]
  cases hop : op 0 with
  | ok value => rfl
  | error err =>
    have hstop : attempts ≤ attempt ∨ ¬ err.isTransientUnpackError := by
      simpa [isFinal, hop, or_comm] using h
    exact if_pos hstop

/-- Any other is retried, when the duration can be doubled. -/
theorem retryLoop_of_retried (hop : isFinal (op 0) = false) (hlt : attempt < attempts) :
    retryLoop attempts maxBackoff op backoff attempt =
      match backoff.mul 2 with
      | none => ⟨1, [backoff], .panicked⟩
      | some doubled =>
        (retryLoop attempts maxBackoff (fun k => op (k + 1)) (min doubled maxBackoff)
          (attempt + 1)).after backoff := by
  rw [retryLoop]
  cases herr : op 0 with
  | ok value => simp [isFinal, herr] at hop
  | error err =>
    have hagain : ¬ (attempts ≤ attempt ∨ ¬ err.isTransientUnpackError) := by
      simpa [isFinal, herr, hlt] using hop
    exact if_neg hagain

/-! ### Runs -/

/-- **A run whose waits can all be doubled** makes the calls, with their waits, and
returns the last result.  The induction is on the attempts that are left. -/
theorem retryLoop_eq (hle : attempt ≤ attempts) (hbackoff : backoff.nanos ≤ maxBackoff.nanos)
    (hfits : ∀ i, i + 1 < lastCall (attempts - attempt + 1) op →
      (backoff.wait maxBackoff i).nanos * 2 ≤ StdDuration.maxNanos) :
    retryLoop attempts maxBackoff op backoff attempt =
      ⟨lastCall (attempts - attempt + 1) op,
        (List.range (lastCall (attempts - attempt + 1) op - 1)).map (backoff.wait maxBackoff),
        .returned (op (lastCall (attempts - attempt + 1) op - 1))⟩ := by
  induction hleft : attempts - attempt generalizing op backoff attempt with
  | zero =>
    have hlast : lastCall 1 op = 1 := Nat.le_antisymm (lastCall_le 1 op) (lastCall_pos Nat.one_pos)
    rw [retryLoop_of_last (.inr (by omega)), Nat.zero_add, hlast]
    rfl
  | succ n ih =>
    rw [hleft] at hfits
    cases hop : isFinal (op 0) with
    | true =>
      rw [retryLoop_of_last (.inl hop), lastCall_of_final (Nat.succ_pos _) hop]
      rfl
    | false =>
      rw [lastCall_succ hop] at hfits ⊢
      have hpos : 0 < lastCall (n + 1) fun k => op (k + 1) := lastCall_pos (Nat.succ_pos n)
      have hdouble : backoff.nanos * 2 ≤ StdDuration.maxNanos := by
        have hfirst := hfits 0 (by omega)
        rwa [StdDuration.wait_zero hbackoff] at hfirst
      obtain ⟨doubled, hd⟩ : ∃ doubled, backoff.mul 2 = some doubled :=
        ⟨⟨backoff.nanos * 2, hdouble⟩, StdDuration.mul_eq_some.mpr rfl⟩
      have hnext := StdDuration.nanos_min_le doubled maxBackoff
      have hrest : ∀ i, i + 1 < lastCall (attempts - (attempt + 1) + 1) (fun k => op (k + 1)) →
          ((min doubled maxBackoff).wait maxBackoff i).nanos * 2 ≤ StdDuration.maxNanos := by
        intro i hi
        have hn : attempts - (attempt + 1) = n := by omega
        rw [hn] at hi
        rw [StdDuration.wait_doubled hd]
        exact hfits (i + 1) (by omega)
      rw [retryLoop_of_retried hop (by omega), hd]
      dsimp only
      rw [ih (by omega) hnext hrest (by omega)]
      obtain ⟨k, hk⟩ := Nat.exists_eq_add_one.mpr hpos
      have hwaits : (backoff.wait maxBackoff) ∘ Nat.succ =
          (min doubled maxBackoff).wait maxBackoff :=
        funext fun i => (StdDuration.wait_doubled hd maxBackoff i).symm
      simp only [RetryRun.after, hk, Nat.add_sub_cancel, List.range_succ_eq_map, List.map_cons,
        List.map_map, StdDuration.wait_zero hbackoff, hwaits]

/-- **A run with a wait that cannot be doubled panics after it.** -/
theorem retryLoop_panicked (hle : attempt ≤ attempts)
    (hbackoff : backoff.nanos ≤ maxBackoff.nanos) {i : ℕ}
    (hi : i + 1 < lastCall (attempts - attempt + 1) op)
    (hlong : StdDuration.maxNanos < (backoff.wait maxBackoff i).nanos * 2) :
    (retryLoop attempts maxBackoff op backoff attempt).ending = .panicked := by
  induction hleft : attempts - attempt generalizing op backoff attempt i with
  | zero =>
    have hlast := lastCall_le (attempts - attempt + 1) op
    omega
  | succ n ih =>
    rw [hleft] at hi
    have hfirst : 0 + 1 < lastCall (n + 1 + 1) op := by omega
    have hop := isFinal_of_lt_lastCall hfirst
    rw [lastCall_succ hop] at hi
    rw [retryLoop_of_retried hop (by omega)]
    cases hd : backoff.mul 2 with
    | none => rfl
    | some doubled =>
      -- the first wait can be doubled, so it is a later one that cannot
      cases i with
      | zero =>
        rw [StdDuration.wait_zero hbackoff] at hlong
        rw [StdDuration.mul_eq_none.mpr hlong] at hd
        cases hd
      | succ i =>
        have hnext := StdDuration.nanos_min_le doubled maxBackoff
        have hn : attempts - (attempt + 1) = n := by omega
        rw [← StdDuration.wait_doubled hd] at hlong
        exact ih (by omega) hnext (by rw [hn]; omega) hlong hn

/-! ### The policy -/

variable (op) in
/-- A run whose waits can all be doubled is what it should be. -/
theorem retryPolicy_of_fits (hattempts : 1 ≤ attempts)
    (hbackoff : initialBackoff.nanos ≤ maxBackoff.nanos)
    (hfits : ∀ i, i + 1 < lastCall attempts op →
      (initialBackoff.wait maxBackoff i).nanos * 2 ≤ StdDuration.maxNanos) :
    RetryPolicy attempts initialBackoff maxBackoff op
      (retryTransient attempts initialBackoff maxBackoff op) := by
  have hsub : attempts - 1 + 1 = attempts := by omega
  rw [← hsub] at hfits
  have hrun := retryLoop_eq hattempts hbackoff hfits
  rw [hsub] at hrun
  have hlast := lastCall_le attempts op
  rw [retryTransient, hrun]
  constructor
  · rfl
  · rfl
  · rfl
  · intro i hi
    have hretried := isFinal_of_lt_lastCall hi
    cases hop : op i with
    | ok value => simp [isFinal, hop] at hretried
    | error err => exact ⟨err, rfl, by simpa [isFinal, hop] using hretried⟩
  · intro err hend htransient
    have hresult : op (lastCall attempts op - 1) = .error err := by simpa using hend
    by_contra hspent
    have hbefore : lastCall attempts op < attempts := Nat.lt_of_le_of_ne hlast hspent
    have hfinal := isFinal_lastCall hattempts hbefore
    simp [isFinal, hresult, htransient] at hfinal

/-- **The runs that are what they should be** are those where no wait is made, or the
last one can be doubled. -/
theorem retryPolicy_iff (hattempts : 1 ≤ attempts)
    (hbackoff : initialBackoff.nanos ≤ maxBackoff.nanos) :
    RetryPolicy attempts initialBackoff maxBackoff op
        (retryTransient attempts initialBackoff maxBackoff op) ↔
      (2 ≤ lastCall attempts op →
        (initialBackoff.wait maxBackoff (lastCall attempts op - 2)).nanos * 2 ≤
          StdDuration.maxNanos) := by
  constructor
  · intro h hwaits
    by_contra hlong
    have hsub : attempts - 1 + 1 = attempts := by omega
    have hlast : lastCall attempts op - 2 + 1 < lastCall (attempts - 1 + 1) op := by
      rw [hsub]
      omega
    have hpanic := retryLoop_panicked hattempts hbackoff hlast (by omega)
    have hreturned := h.returned
    rw [retryTransient, hpanic] at hreturned
    cases hreturned
  · intro h
    refine retryPolicy_of_fits op hattempts hbackoff fun i hi => ?_
    have hlater := StdDuration.wait_mono initialBackoff maxBackoff
      (show i ≤ lastCall attempts op - 2 by omega)
    have hfits := h (by omega)
    omega

/-- Two attempts with the longest duration: the run panics after the first failure. -/
theorem retryTransient_longest :
    let op : ℕ → Except AtmError ℕ := fun _ => .error (.didError "resolver down")
    let r := retryTransient 2 .maxValue .maxValue op
    r.calls = 1 ∧ r.ending = .panicked ∧ lastCall 2 op = 2 ∧
      ¬ RetryPolicy 2 .maxValue .maxValue op r := by
  intro op r
  have hlong : StdDuration.maxValue.mul 2 = none := by decide
  have hrun : r = ⟨1, [.maxValue], .panicked⟩ := by
    have hstep : r = _ := retryLoop_of_retried rfl Nat.one_lt_two
    rw [hlong] at hstep
    exact hstep
  refine ⟨by rw [hrun], by rw [hrun], rfl, fun h => ?_⟩
  have hreturned := h.returned
  rw [hrun] at hreturned
  cases hreturned

/-! ### The frames of the registry -/

/-- The attempts at a frame. -/
def unpackMaxAttempts : ℕ := 3

/-- 200 milliseconds. -/
def unpackInitialBackoff : StdDuration := ⟨200 * 1000000, by decide⟩

/-- One second. -/
def unpackMaxBackoff : StdDuration := ⟨1000 * 1000000, by decide⟩

/-- Unpack a frame, with the results of the attempts. -/
def unpackFrame (op : ℕ → Except AtmError α) : RetryRun α :=
  retryTransient unpackMaxAttempts unpackInitialBackoff unpackMaxBackoff op

/-- Two attempts with the durations of the registry: a resolver that recovers. -/
theorem retryTransient_recovers :
    let op : ℕ → Except AtmError ℕ :=
      fun i => if i = 0 then .error (.didError "resolver down") else .ok 7
    RetryPolicy 3 unpackInitialBackoff unpackMaxBackoff op
      (retryTransient 3 unpackInitialBackoff unpackMaxBackoff op) := by
  intro op
  exact (retryPolicy_iff (by decide) (by decide)).mpr fun _ => by decide

/-- **Every run of the registry is what it should be.** -/
theorem unpackFrame_policy (op : ℕ → Except AtmError α) :
    RetryPolicy unpackMaxAttempts unpackInitialBackoff unpackMaxBackoff op (unpackFrame op) := by
  refine retryPolicy_of_fits op (by decide) (by decide) fun i _ => ?_
  have hlimit : (unpackInitialBackoff.wait unpackMaxBackoff i).nanos ≤ unpackMaxBackoff.nanos :=
    Nat.min_le_right _ _
  have hfits : unpackMaxBackoff.nanos * 2 ≤ StdDuration.maxNanos := by decide
  omega

/-- **A frame is lost to a failure that may pass only when all attempts fail so.** -/
theorem unpackFrame_lost_iff {err : AtmError} :
    (unpackFrame op).ending = .returned (.error err) ∧ err.isTransientUnpackError = true ↔
      (∀ i < unpackMaxAttempts, isFinal (op i) = false) ∧
        op (unpackMaxAttempts - 1) = .error err := by
  have hpolicy := unpackFrame_policy op
  constructor
  · rintro ⟨hend, htransient⟩
    have hcalls := hpolicy.spent err hend htransient
    rw [hpolicy.calls] at hcalls
    have hresult : op (unpackMaxAttempts - 1) = .error err := by
      rw [hpolicy.returned, hcalls] at hend
      simpa using hend
    refine ⟨fun i hi => ?_, hresult⟩
    by_cases hlast : i = unpackMaxAttempts - 1
    · rw [hlast, hresult]
      simp [isFinal, htransient]
    · have hbefore : i + 1 < lastCall unpackMaxAttempts op := by
        rw [hcalls]
        omega
      exact isFinal_of_lt_lastCall hbefore
  · rintro ⟨hretried, hresult⟩
    have hcalls : lastCall unpackMaxAttempts op = unpackMaxAttempts := by
      by_contra hspent
      have hpos : 0 < unpackMaxAttempts := by decide
      have hbefore := Nat.lt_of_le_of_ne (lastCall_le unpackMaxAttempts op) hspent
      have hfinal := isFinal_lastCall hpos hbefore
      rw [hretried _ (by omega)] at hfinal
      cases hfinal
    have hlast := hretried (unpackMaxAttempts - 1) (by decide)
    rw [hpolicy.returned, hcalls, hresult]
    exact ⟨rfl, by simpa [isFinal, hresult] using hlast⟩

end TrustRegistry
