import Mathlib.Data.List.Nodup
import TrustRegistry.Didcomm.Messages
import TrustRegistry.Lib.Transition

/-!
# The listener and its mailbox

Messages wait at the mediator.  The listener takes them in two ways that run side by
side.  One pulls a message at a time, which the mediator deletes as it hands it over.
The other fetches up to a hundred that are stored, starts a task for each, and
acknowledges them afterwards, so that the mediator deletes them; an acknowledgement
can fail.  A task is started for a message whose frame has a handler, and nothing
waits for it to end.  A restart ends all tasks and forgets what was in hand.

## Main definitions

* `InboundFrame`, `ListenerBuild` — what a message can unpack to, and which of it a
  listener has a handler for.
* `Pickup`, `Pickup.step` — the mailbox and the listener.
* `Pickup.Handed` — a task has been started for a message, or none is.

## Main results

* `Pickup.nothing_lost` — without a restart every message is still stored, in hand,
  or handed to a task.
* `Pickup.lost_by_restart_iff` — what a restart loses.
* `Pickup.started_once` — when no message is handed to two tasks.
-/

namespace TrustRegistry

open Transition

/-! ### Frames -/

/-- What a message from the mailbox unpacks to. -/
inductive InboundFrame
  | didComm (message : Message) (metadata : UnpackMetadata)
  | tsp (packed : String)
  | other

/-- How a listener is built: with the feature `tsp`, and then with TSP configured. -/
structure ListenerBuild where
  tspBuilt : Bool
  tspConfigured : Bool

namespace ListenerBuild

/-- Is a task started for the frame?  One that does not unpack has none. -/
def spawns (b : ListenerBuild) : Option InboundFrame → Bool
  | some (.didComm _ _) => true
  | some (.tsp _) => b.tspBuilt && b.tspConfigured
  | some .other | none => false

/-- Is a fetched message acknowledged?  Without the feature only DIDComm messages are
fetched, so that the others are not acknowledged. -/
def acknowledges (b : ListenerBuild) : Option InboundFrame → Bool
  | some (.didComm _ _) => true
  | some (.tsp _) | some .other | none => b.tspBuilt

/-- What a task is started for is acknowledged. -/
theorem acknowledges_of_spawns {b : ListenerBuild} {frame : Option InboundFrame}
    (h : b.spawns frame = true) : b.acknowledges frame = true := by
  cases frame with
  | none => cases h
  | some frame =>
    cases frame with
    | didComm message metadata => rfl
    | tsp packed => exact (Bool.and_eq_true_iff.mp h).1
    | other => cases h

end ListenerBuild

/-! ### The mailbox and the listener -/

/-- The mailbox and the listener.  Messages go by the id the mediator gives them; a
task goes by a number of its own. -/
structure Pickup where
  /-- every message the mediator has accepted -/
  accepted : List ℕ
  /-- the messages it stores -/
  queue : List ℕ
  /-- the message that was pulled, and deleted, and has not been handed on -/
  inHand : Option ℕ
  /-- the messages that were fetched and are yet to be acknowledged -/
  unacked : Option (List ℕ)
  nextTask : ℕ
  running : List (ℕ × ℕ)
  finished : List (ℕ × ℕ)
  /-- the messages that no task was started for -/
  discarded : List ℕ

/-- What happens next. -/
inductive PickupAction
  | arrive (i : ℕ)
  | pull (i : ℕ)
  | handOver
  | fetch (ids : List ℕ)
  | acknowledge (deleted : Bool)
  | finish (n i : ℕ)
  | restart

namespace Pickup

/-- The most messages that are fetched at once. -/
def messagesLimit : ℕ := 100

/-- An empty mailbox. -/
def opened : Pickup := ⟨[], [], none, none, 0, [], [], []⟩

section

variable (b : ListenerBuild) (content : ℕ → Option InboundFrame)

/-- Start a task for a message, if its frame has a handler. -/
def handOn (s : Pickup) (i : ℕ) : Pickup :=
  if b.spawns (content i) then
    { s with running := s.running ++ [(s.nextTask, i)], nextTask := s.nextTask + 1 }
  else { s with discarded := s.discarded ++ [i] }

/-- The listener after a restart. -/
def restarted (s : Pickup) : Pickup := { s with inHand := none, unacked := none, running := [] }

/-- One step.  A pull that fails, or finds nothing, takes nothing from the mailbox. -/
def step (s : Pickup) : PickupAction → Option Pickup
  | .arrive i =>
    if i ∈ s.accepted then none
    else some { s with accepted := i :: s.accepted, queue := s.queue ++ [i] }
  | .pull i =>
    if s.inHand = none ∧ i ∈ s.queue then
      some { s with inHand := some i, queue := s.queue.filter fun j => decide (j ≠ i) }
    else none
  | .handOver =>
    match s.inHand with
    | some i => some (handOn b content { s with inHand := none } i)
    | none => none
  | .fetch ids =>
    if s.unacked = none ∧ ids.Nodup ∧ ids ⊆ s.queue ∧ ids.length ≤ messagesLimit then
      some (ids.foldl (handOn b content)
        { s with unacked := some (ids.filter fun i => b.acknowledges (content i)) })
    else none
  | .acknowledge deleted =>
    match s.unacked with
    | some ids =>
      some { s with
        unacked := none
        queue := if deleted then s.queue.filter fun j => decide (j ∉ ids) else s.queue }
    | none => none
  | .finish n i =>
    if (n, i) ∈ s.running then
      some { s with
        running := s.running.filter fun e => decide (e ≠ (n, i))
        finished := s.finished ++ [(n, i)] }
    else none
  | .restart => some s.restarted

end

/-- A task has been started for the message, or it has been seen that there is none
to start. -/
def Handed (s : Pickup) (i : ℕ) : Prop :=
  (∃ n, (n, i) ∈ s.running) ∨ (∃ n, (n, i) ∈ s.finished) ∨ i ∈ s.discarded

/-- A task for the message has run to its end. -/
def Finished (s : Pickup) (i : ℕ) : Prop := ∃ n, (n, i) ∈ s.finished

variable {b : ListenerBuild} {content : ℕ → Option InboundFrame}

/-! ### Handing messages on -/

/-- What handing on leaves alone. -/
structure SameMailbox (s s' : Pickup) : Prop where
  accepted : s'.accepted = s.accepted
  queue : s'.queue = s.queue
  inHand : s'.inHand = s.inHand
  unacked : s'.unacked = s.unacked
  finished : s'.finished = s.finished

variable (b content) in
theorem handOn_sameMailbox (s : Pickup) (i : ℕ) : SameMailbox s (handOn b content s i) := by
  unfold handOn
  split <;> exact ⟨rfl, rfl, rfl, rfl, rfl⟩

variable (b content) in
theorem foldl_handOn_sameMailbox (ids : List ℕ) : ∀ s : Pickup,
    SameMailbox s (ids.foldl (handOn b content) s) := by
  induction ids with
  | nil => exact fun s => ⟨rfl, rfl, rfl, rfl, rfl⟩
  | cons i ids ih =>
    intro s
    have hi := handOn_sameMailbox b content s i
    have hrest := ih (handOn b content s i)
    exact ⟨hrest.accepted.trans hi.accepted, hrest.queue.trans hi.queue,
      hrest.inHand.trans hi.inHand, hrest.unacked.trans hi.unacked,
      hrest.finished.trans hi.finished⟩

theorem handed_handOn_iff {s : Pickup} {i j : ℕ} :
    (handOn b content s i).Handed j ↔ s.Handed j ∨ j = i := by
  unfold handOn Handed
  split
  · simp only [List.mem_append, List.mem_singleton, Prod.mk.injEq]
    constructor
    · rintro (⟨n, hn | ⟨-, rfl⟩⟩ | h)
      · exact .inl (.inl ⟨n, hn⟩)
      · exact .inr rfl
      · exact .inl (.inr h)
    · rintro ((⟨n, hn⟩ | h) | rfl)
      · exact .inl ⟨n, .inl hn⟩
      · exact .inr h
      · exact .inl ⟨_, .inr ⟨rfl, rfl⟩⟩
  · simp only [List.mem_append, List.mem_singleton]
    tauto

theorem handed_foldl_handOn_iff (ids : List ℕ) {j : ℕ} : ∀ {s : Pickup},
    (ids.foldl (handOn b content) s).Handed j ↔ s.Handed j ∨ j ∈ ids := by
  induction ids with
  | nil => simp
  | cons i ids ih =>
    intro s
    rw [List.foldl_cons, ih, handed_handOn_iff, List.mem_cons, or_assoc]

/-- What no task is started for has no handler. -/
theorem discarded_handOn {s : Pickup} {i j : ℕ} (h : j ∈ (handOn b content s i).discarded) :
    j ∈ s.discarded ∨ b.spawns (content j) = false := by
  unfold handOn at h
  split at h
  · exact .inl h
  · next hspawns =>
    rcases List.mem_append.mp h with h | h
    · exact .inl h
    · rw [List.mem_singleton.mp h]
      exact .inr (eq_false_of_ne_true hspawns)

theorem discarded_foldl_handOn (ids : List ℕ) {j : ℕ} : ∀ {s : Pickup},
    j ∈ (ids.foldl (handOn b content) s).discarded →
    j ∈ s.discarded ∨ b.spawns (content j) = false := by
  induction ids with
  | nil => exact fun h => .inl h
  | cons i ids ih =>
    intro s h
    rcases ih h with h | h
    · exact discarded_handOn h
    · exact .inr h

/-! ### Steps -/

/-- Every way a step can go. -/
inductive Stepped (b : ListenerBuild) (content : ℕ → Option InboundFrame) (s : Pickup) :
    PickupAction → Pickup → Prop
  | arrived {i : ℕ} (hnew : i ∉ s.accepted) :
      Stepped b content s (.arrive i)
        { s with accepted := i :: s.accepted, queue := s.queue ++ [i] }
  | pulled {i : ℕ} (hhand : s.inHand = none) (hi : i ∈ s.queue) :
      Stepped b content s (.pull i)
        { s with inHand := some i, queue := s.queue.filter fun j => decide (j ≠ i) }
  | handedOver {i : ℕ} (hhand : s.inHand = some i) :
      Stepped b content s .handOver (handOn b content { s with inHand := none } i)
  | fetched {ids : List ℕ} (hunacked : s.unacked = none) (hnodup : ids.Nodup)
      (hids : ids ⊆ s.queue) :
      Stepped b content s (.fetch ids) (ids.foldl (handOn b content)
        { s with unacked := some (ids.filter fun i => b.acknowledges (content i)) })
  | acknowledged {ids : List ℕ} {deleted : Bool} (hunacked : s.unacked = some ids) :
      Stepped b content s (.acknowledge deleted) { s with
        unacked := none
        queue := if deleted then s.queue.filter fun j => decide (j ∉ ids) else s.queue }
  | ended {n i : ℕ} (hrunning : (n, i) ∈ s.running) :
      Stepped b content s (.finish n i) { s with
        running := s.running.filter fun e => decide (e ≠ (n, i))
        finished := s.finished ++ [(n, i)] }
  | restarted : Stepped b content s .restart s.restarted

theorem stepped_of_step {s s' : Pickup} {a : PickupAction} (h : s.step b content a = some s') :
    Stepped b content s a s' := by
  cases a with
  | arrive i =>
    rw [step] at h
    split at h
    · cases h
    · next hnew =>
      obtain rfl := Option.some.inj h
      exact .arrived hnew
  | pull i =>
    rw [step] at h
    split at h
    · next hi =>
      obtain rfl := Option.some.inj h
      exact .pulled hi.1 hi.2
    · cases h
  | handOver =>
    rw [step] at h
    split at h
    · next i hhand =>
      obtain rfl := Option.some.inj h
      exact .handedOver hhand
    · cases h
  | fetch ids =>
    rw [step] at h
    split at h
    · next hids =>
      obtain rfl := Option.some.inj h
      exact .fetched hids.1 hids.2.1 hids.2.2.1
    · cases h
  | acknowledge deleted =>
    rw [step] at h
    split at h
    · next ids hunacked =>
      obtain rfl := Option.some.inj h
      exact .acknowledged hunacked
    · cases h
  | finish n i =>
    rw [step] at h
    split at h
    · next hrunning =>
      obtain rfl := Option.some.inj h
      exact .ended hrunning
    · cases h
  | restart =>
    obtain rfl := Option.some.inj h
    exact .restarted

/-- A task that ends stays known. -/
theorem handed_ended {s : Pickup} {n i j : ℕ} :
    Handed { s with running := s.running.filter fun e => decide (e ≠ (n, i))
                    finished := s.finished ++ [(n, i)] } j ↔
      s.Handed j ∨ j = i := by
  simp only [Handed, List.mem_filter, decide_eq_true_eq, List.mem_append, List.mem_singleton,
    Prod.mk.injEq]
  constructor
  · rintro (⟨m, hm, -⟩ | ⟨m, hm | ⟨-, rfl⟩⟩ | h)
    · exact .inl (.inl ⟨m, hm⟩)
    · exact .inl (.inr (.inl ⟨m, hm⟩))
    · exact .inr rfl
    · exact .inl (.inr (.inr h))
  · rintro ((⟨m, hm⟩ | ⟨m, hm⟩ | h) | rfl)
    · by_cases heq : (m, j) = (n, i)
      · exact .inr (.inl ⟨m, .inr (Prod.mk.inj heq)⟩)
      · exact .inl ⟨m, hm, heq⟩
    · exact .inr (.inl ⟨m, .inl hm⟩)
    · exact .inr (.inr h)
    · exact .inr (.inl ⟨n, .inr ⟨rfl, rfl⟩⟩)

/-! ### Nothing is lost while the listener runs -/

/-- The listener is not restarted. -/
def Uninterrupted (_ : Pickup) (a : PickupAction) : Prop := a ≠ .restart

/-- Every message is stored, in hand, or handed to a task; what is acknowledged has
been handed on. -/
structure Accounted (s : Pickup) : Prop where
  messages : ∀ i ∈ s.accepted, i ∈ s.queue ∨ s.inHand = some i ∨ s.Handed i
  unacked : ∀ ids, s.unacked = some ids → ∀ i ∈ ids, s.Handed i

theorem opened_accounted : opened.Accounted := by
  constructor
  · intro i hi
    cases hi
  · intro ids h
    cases h

theorem accounted_step {s s' : Pickup} {a : PickupAction} (hs : s.Accounted)
    (hok : Uninterrupted s a) (h : s.step b content a = some s') : s'.Accounted := by
  cases stepped_of_step h with
  | @arrived i hnew =>
    refine ⟨fun j hj => ?_, hs.unacked⟩
    rcases List.mem_cons.mp hj with rfl | hj
    · exact .inl (List.mem_append_right _ (List.mem_singleton_self _))
    · exact (hs.messages j hj).imp_left (List.mem_append_left _)
  | @pulled i hhand hi =>
    refine ⟨fun j hj => ?_, hs.unacked⟩
    by_cases hij : j = i
    · exact .inr (.inl (congrArg some hij.symm))
    · rcases hs.messages j hj with hj | hj | hj
      · exact .inl (List.mem_filter.mpr ⟨hj, decide_eq_true hij⟩)
      · rw [hhand] at hj
        cases hj
      · exact .inr (.inr hj)
  | @handedOver i hhand =>
    have hsame := handOn_sameMailbox b content { s with inHand := none } i
    constructor
    · intro j hj
      rw [hsame.accepted] at hj
      rw [hsame.queue]
      rcases hs.messages j hj with hj | hj | hj
      · exact .inl hj
      · rw [hhand] at hj
        exact .inr (.inr (handed_handOn_iff.mpr (.inr (Option.some.inj hj).symm)))
      · exact .inr (.inr (handed_handOn_iff.mpr (.inl hj)))
    · intro ids hids j hj
      rw [hsame.unacked] at hids
      exact handed_handOn_iff.mpr (.inl (hs.unacked ids hids j hj))
  | @fetched ids hunacked hnodup hids =>
    have hsame := foldl_handOn_sameMailbox b content ids
      { s with unacked := some (ids.filter fun i => b.acknowledges (content i)) }
    constructor
    · intro j hj
      rw [hsame.accepted] at hj
      rw [hsame.queue, hsame.inHand]
      exact (hs.messages j hj).imp_right fun h =>
        h.imp_right fun h => (handed_foldl_handOn_iff ids).mpr (.inl h)
    · intro acked hacked j hj
      rw [hsame.unacked] at hacked
      obtain rfl := Option.some.inj hacked
      exact (handed_foldl_handOn_iff ids).mpr (.inr (List.mem_filter.mp hj).1)
  | @acknowledged ids deleted hunacked =>
    refine ⟨fun j hj => ?_, fun ids h => by cases h⟩
    rcases hs.messages j hj with hqueue | hj | hj
    · -- a message that is deleted has been handed on
      by_cases hids : j ∈ ids
      · exact .inr (.inr (hs.unacked ids hunacked j hids))
      · left
        dsimp only
        split
        · exact List.mem_filter.mpr ⟨hqueue, decide_eq_true hids⟩
        · exact hqueue
    · exact .inr (.inl hj)
    · exact .inr (.inr hj)
  | @ended n i hrunning =>
    constructor
    · intro j hj
      exact (hs.messages j hj).imp_right fun h => h.imp_right fun h => handed_ended.mpr (.inl h)
    · intro ids hids j hj
      exact handed_ended.mpr (.inl (hs.unacked ids hids j hj))
  | restarted => exact absurd rfl hok

/-- No task is started only for what has no handler. -/
theorem discarded_step {s s' : Pickup} {a : PickupAction}
    (hs : ∀ i ∈ s.discarded, b.spawns (content i) = false) (h : s.step b content a = some s') :
    ∀ i ∈ s'.discarded, b.spawns (content i) = false := by
  intro j hj
  cases stepped_of_step h with
  | arrived hnew => exact hs j hj
  | pulled hhand hi => exact hs j hj
  | handedOver hhand => exact (discarded_handOn hj).elim (hs j) id
  | fetched hunacked hnodup hids => exact (discarded_foldl_handOn _ hj).elim (hs j) id
  | acknowledged hunacked => exact hs j hj
  | ended hrunning => exact hs j hj
  | restarted => exact hs j hj

/-- **Nothing is lost while the listener runs**: whatever the two ways of taking
messages do to each other, and whatever acknowledgements fail, a message that the
mediator has accepted is stored there, or in hand, or it has no handler, or a task
has been started for it. -/
theorem nothing_lost {as : List PickupAction} {t : Pickup}
    (hrun : Run (step b content) Uninterrupted opened as t) :
    ∀ i ∈ t.accepted, i ∈ t.queue ∨ t.inHand = some i ∨ b.spawns (content i) = false ∨
      (∃ n, (n, i) ∈ t.running) ∨ t.Finished i := by
  have ht : t.Accounted ∧ ∀ i ∈ t.discarded, b.spawns (content i) = false :=
    hrun.invariant (I := fun s => s.Accounted ∧ ∀ i ∈ s.discarded, b.spawns (content i) = false)
      (fun s a s' hs hok hstep => ⟨accounted_step hs.1 hok hstep, discarded_step hs.2 hstep⟩)
      ⟨opened_accounted, fun i hi => by cases hi⟩
  intro i hi
  rcases ht.1.messages i hi with h | h | h | h | h
  · exact .inl h
  · exact .inr (.inl h)
  · exact .inr (.inr (.inr (.inl h)))
  · exact .inr (.inr (.inr (.inr h)))
  · exact .inr (.inr (.inl (ht.2 i h)))

/-! ### What a restart loses -/

/-- The message is neither stored, nor in hand, nor worked on, nor done. -/
structure Gone (s : Pickup) (i : ℕ) : Prop where
  accepted : i ∈ s.accepted
  queue : i ∉ s.queue
  inHand : s.inHand ≠ some i
  running : ∀ n, (n, i) ∉ s.running
  finished : ¬ s.Finished i

/-- Handing on another message starts no task for this one. -/
theorem running_handOn {s : Pickup} {i j n : ℕ} (hij : j ≠ i)
    (h : (n, j) ∈ (handOn b content s i).running) : (n, j) ∈ s.running := by
  unfold handOn at h
  split at h
  · rcases List.mem_append.mp h with h | h
    · exact h
    · exact absurd (Prod.mk.inj (List.mem_singleton.mp h)).2 hij
  · exact h

theorem running_foldl_handOn (ids : List ℕ) {j n : ℕ} : ∀ {s : Pickup}, j ∉ ids →
    (n, j) ∈ (ids.foldl (handOn b content) s).running → (n, j) ∈ s.running := by
  induction ids with
  | nil => exact fun _ h => h
  | cons i ids ih =>
    intro s hj h
    rw [List.mem_cons, not_or] at hj
    exact running_handOn hj.1 (ih hj.2 h)

/-- After a restart what is not stored and was not done is gone. -/
theorem gone_restarted {s : Pickup} {i : ℕ} (hi : i ∈ s.accepted) (hqueue : i ∉ s.queue)
    (hfinished : ¬ s.Finished i) : s.restarted.Gone i := by
  refine ⟨hi, hqueue, nofun, fun n h => ?_, hfinished⟩
  cases h

/-- What is gone does not come back: the mediator has accepted it already. -/
theorem gone_step {s s' : Pickup} {a : PickupAction} {i : ℕ} (hs : s.Gone i)
    (h : s.step b content a = some s') : s'.Gone i := by
  obtain ⟨haccepted, hqueue, hhand, hrunning, hfinished⟩ := hs
  cases stepped_of_step h with
  | @arrived j hnew =>
    refine ⟨List.mem_cons_of_mem _ haccepted, fun h => ?_, hhand, hrunning, hfinished⟩
    rcases List.mem_append.mp h with h | h
    · exact hqueue h
    · rw [List.mem_singleton.mp h] at haccepted
      exact hnew haccepted
  | @pulled j hnone hj =>
    refine ⟨haccepted, fun h => hqueue (List.mem_filter.mp h).1, fun h => ?_, hrunning, hfinished⟩
    rw [Option.some.inj h] at hj
    exact hqueue hj
  | @handedOver j hj =>
    have hsame := handOn_sameMailbox b content { s with inHand := none } j
    have hij : i ≠ j := by
      rintro rfl
      exact hhand hj
    have hold : ∀ n, (n, i) ∈ (handOn b content { s with inHand := none } j).running →
        (n, i) ∈ s.running := fun n hn => running_handOn (s := { s with inHand := none }) hij hn
    refine ⟨by rw [hsame.accepted]; exact haccepted, by rw [hsame.queue]; exact hqueue,
      by rw [hsame.inHand]; exact nofun, fun n hn => hrunning n (hold n hn), ?_⟩
    unfold Finished
    rw [hsame.finished]
    exact hfinished
  | @fetched ids hunacked hnodup hids =>
    have hsame := foldl_handOn_sameMailbox b content ids
      { s with unacked := some (ids.filter fun i => b.acknowledges (content i)) }
    have hold := fun n => @running_foldl_handOn b content ids i n
      { s with unacked := some (ids.filter fun i => b.acknowledges (content i)) }
      fun h => hqueue (hids h)
    refine ⟨by rw [hsame.accepted]; exact haccepted, by rw [hsame.queue]; exact hqueue,
      by rw [hsame.inHand]; exact hhand, fun n hn => hrunning n (hold n hn), ?_⟩
    unfold Finished
    rw [hsame.finished]
    exact hfinished
  | @acknowledged ids deleted hunacked =>
    refine ⟨haccepted, fun h => hqueue ?_, hhand, hrunning, hfinished⟩
    dsimp only at h
    split at h
    · exact (List.mem_filter.mp h).1
    · exact h
  | @ended n j hj =>
    refine ⟨haccepted, hqueue, hhand, fun m hm => hrunning m (List.mem_filter.mp hm).1, ?_⟩
    rintro ⟨m, hm⟩
    rcases List.mem_append.mp hm with hm | hm
    · exact hfinished ⟨m, hm⟩
    · obtain ⟨rfl, rfl⟩ := Prod.mk.inj (List.mem_singleton.mp hm)
      exact hrunning m hj
  | restarted => exact gone_restarted haccepted hqueue hfinished

/-- A stored message that has a handler can be pulled, handed on and worked on. -/
theorem exists_run_finished {s : Pickup} {i : ℕ} (hspawns : b.spawns (content i) = true)
    (hhand : s.inHand = none) (hi : i ∈ s.queue) :
    ∃ as t, Run (step b content) anyAction s as t ∧ t.Finished i := by
  have hpull : s.step b content (.pull i) = some
      { s with inHand := some i, queue := s.queue.filter fun j => decide (j ≠ i) } :=
    if_pos ⟨hhand, hi⟩
  have hhandOn : ∀ u : Pickup, handOn b content u i =
      { u with running := u.running ++ [(u.nextTask, i)], nextTask := u.nextTask + 1 } :=
    fun u => if_pos hspawns
  let started : Pickup := handOn b content
    { s with inHand := none, queue := s.queue.filter fun j => decide (j ≠ i) } i
  let done : Pickup := { started with
    running := started.running.filter fun e => decide (e ≠ (s.nextTask, i))
    finished := started.finished ++ [(s.nextTask, i)] }
  have hfinish : started.step b content (.finish s.nextTask i) = some done := by
    refine if_pos ?_
    show _ ∈ (handOn b content _ i).running
    rw [hhandOn]
    exact List.mem_append_right _ (List.mem_singleton_self _)
  exact ⟨[.pull i, .handOver, .finish s.nextTask i], done,
    .cons trivial hpull (.cons trivial rfl (.cons trivial hfinish (.nil _))),
    ⟨s.nextTask, List.mem_append_right _ (List.mem_singleton_self _)⟩⟩

/-- After a restart a message is worked on to its end in some run exactly when it is
still stored, or was done before. -/
theorem finished_after_restart_iff {s : Pickup} {i : ℕ} (hi : i ∈ s.accepted)
    (hspawns : b.spawns (content i) = true) :
    (∃ as t, Run (step b content) anyAction s.restarted as t ∧ t.Finished i) ↔
      s.Finished i ∨ i ∈ s.queue := by
  constructor
  · rintro ⟨as, t, hrun, hfinished⟩
    by_contra hnot
    rw [not_or] at hnot
    have hgone : t.Gone i := hrun.invariant (I := fun s => s.Gone i)
      (fun _ _ _ hs _ hstep => gone_step hs hstep) (gone_restarted hi hnot.2 hnot.1)
    exact hgone.finished hfinished
  · rintro (hfinished | hqueue)
    · exact ⟨[], s.restarted, .nil _, hfinished⟩
    · exact exists_run_finished hspawns rfl hqueue

/-- **What a restart loses**, of the messages that have a handler: those that are no
longer stored, and are in hand, or worked on and never done.  That is, those that were
pulled, or fetched and acknowledged, and whose task has not ended. -/
theorem lost_by_restart_iff {as : List PickupAction} {s : Pickup}
    (hrun : Run (step b content) Uninterrupted opened as s) {i : ℕ} (hi : i ∈ s.accepted)
    (hspawns : b.spawns (content i) = true) :
    (∀ bs t, Run (step b content) anyAction s.restarted bs t → ¬ t.Finished i) ↔
      i ∉ s.queue ∧ ¬ s.Finished i ∧ (s.inHand = some i ∨ ∃ n, (n, i) ∈ s.running) := by
  have hiff := @finished_after_restart_iff b content s i hi hspawns
  constructor
  · intro hlost
    have hnot : ¬ (s.Finished i ∨ i ∈ s.queue) := fun h => by
      obtain ⟨bs, t, hrun', hfinished⟩ := hiff.mpr h
      exact hlost bs t hrun' hfinished
    rw [not_or] at hnot
    refine ⟨hnot.2, hnot.1, ?_⟩
    rcases nothing_lost hrun i hi with h | h | h | h | h
    · exact absurd h hnot.2
    · exact .inl h
    · rw [hspawns] at h
      cases h
    · exact .inr h
    · exact absurd h hnot.1
  · rintro ⟨hqueue, hfinished, -⟩ bs t hrun' hdone
    exact (hiff.mp ⟨bs, t, hrun', hdone⟩).elim hfinished hqueue

/-- A listener with TSP, all of whose mail is TSP. -/
def tspMail : ℕ → Option InboundFrame := fun _ => some (.tsp "frame")

/-- A message that was pulled is lost in a restart before its task is started, and one
that is still stored is not. -/
theorem lost_in_hand :
    let s : Pickup := ⟨[1, 0], [1], some 0, none, 0, [], [], []⟩
    (¬ ∃ bs t, Run (step ⟨true, true⟩ tspMail) anyAction s.restarted bs t ∧ t.Finished 0) ∧
      ¬ ∀ bs t, Run (step ⟨true, true⟩ tspMail) anyAction s.restarted bs t → ¬ t.Finished 1 := by
  intro s
  have hrun : Run (step ⟨true, true⟩ tspMail) Uninterrupted opened
      [.arrive 0, .arrive 1, .pull 0] s :=
    .cons nofun rfl (.cons nofun rfl (.cons nofun rfl (.nil _)))
  constructor
  · rintro ⟨bs, t, hrun', hfinished⟩
    refine (lost_by_restart_iff hrun (i := 0) (by decide) rfl).mpr ?_ bs t hrun' hfinished
    exact ⟨by decide, nofun, .inl rfl⟩
  · rw [lost_by_restart_iff hrun (by decide) rfl]
    exact fun h => h.1 (List.mem_singleton_self 1)

/-! ### When no message is handed to two tasks -/

/-- A task for the message has been started, and it has this number. -/
def TaskOf (s : Pickup) (n i : ℕ) : Prop := (n, i) ∈ s.running ∨ (n, i) ∈ s.finished

/-- No restart; every acknowledgement arrives; and no message is pulled that has been
fetched and is yet to be acknowledged. -/
structure Orderly (s : Pickup) (a : PickupAction) : Prop where
  uninterrupted : a ≠ .restart
  deleted : a ≠ .acknowledge false
  apart : ∀ i ids, a = .pull i → s.unacked = some ids → i ∉ ids

theorem taskOf_handOn {s : Pickup} {i j n : ℕ} :
    (handOn b content s i).TaskOf n j ↔
      s.TaskOf n j ∨ b.spawns (content i) = true ∧ n = s.nextTask ∧ j = i := by
  unfold handOn TaskOf
  split
  · next h =>
    simp only [h, List.mem_append, List.mem_singleton, Prod.mk.injEq, true_and]
    tauto
  · next h => simp [h]

theorem taskOf_foldl_handOn (ids : List ℕ) {j n : ℕ} : ∀ {s : Pickup},
    (ids.foldl (handOn b content) s).TaskOf n j →
      s.TaskOf n j ∨ j ∈ ids ∧ b.spawns (content j) = true := by
  induction ids with
  | nil => exact fun h => .inl h
  | cons i ids ih =>
    intro s h
    rcases ih h with h | ⟨hj, hspawns⟩
    · rcases taskOf_handOn.mp h with h | ⟨hspawns, -, rfl⟩
      · exact .inl h
      · exact .inr ⟨List.mem_cons_self, hspawns⟩
    · exact .inr ⟨List.mem_cons_of_mem _ hj, hspawns⟩

/-- Each message has one task at most. -/
def Single (s : Pickup) : Prop := ∀ m n i, s.TaskOf m i → s.TaskOf n i → m = n

theorem Single.handOn {s : Pickup} (hs : s.Single) {i : ℕ} (hi : ∀ n, ¬ s.TaskOf n i) :
    (handOn b content s i).Single := by
  intro m n j hm hn
  rcases taskOf_handOn.mp hm with hm' | ⟨-, hm', hj⟩
  · rcases taskOf_handOn.mp hn with hn' | ⟨-, -, hj⟩
    · exact hs m n j hm' hn'
    · rw [hj] at hm'
      exact absurd hm' (hi m)
  · rcases taskOf_handOn.mp hn with hn' | ⟨-, hn', -⟩
    · rw [hj] at hn'
      exact absurd hn' (hi n)
    · rw [hm', hn']

theorem Single.foldl_handOn (ids : List ℕ) : ∀ {s : Pickup}, s.Single → ids.Nodup →
    (∀ i ∈ ids, ∀ n, ¬ s.TaskOf n i) → (ids.foldl (Pickup.handOn b content) s).Single := by
  induction ids with
  | nil => exact fun hs _ _ => hs
  | cons i ids ih =>
    intro s hs hnodup hnew
    obtain ⟨hi, hnodup⟩ := List.nodup_cons.mp hnodup
    refine ih (hs.handOn (hnew i List.mem_cons_self)) hnodup fun j hj n hn => ?_
    rcases taskOf_handOn.mp hn with hn | ⟨-, -, rfl⟩
    · exact hnew j (List.mem_cons_of_mem _ hj) n hn
    · exact hi hj

/-- The invariant: a message with a task is stored only while its acknowledgement is
outstanding, and what is in hand has none. -/
structure OncePerMessage (s : Pickup) : Prop where
  single : s.Single
  queue : s.queue ⊆ s.accepted
  tasks : ∀ n i, s.TaskOf n i → i ∈ s.accepted ∧
    (i ∈ s.queue → ∃ ids, s.unacked = some ids ∧ i ∈ ids)
  inHand : ∀ i, s.inHand = some i → i ∈ s.accepted ∧ i ∉ s.queue ∧ ∀ n, ¬ s.TaskOf n i

theorem opened_oncePerMessage : opened.OncePerMessage where
  single := by
    rintro m n i (h | h) <;> cases h
  queue := List.Subset.refl _
  tasks := by
    rintro n i (h | h) <;> cases h
  inHand i h := by cases h

/-- A task that ends is the same task. -/
theorem taskOf_ended {s : Pickup} {n i m j : ℕ} (hi : (n, i) ∈ s.running) :
    TaskOf { s with running := s.running.filter fun e => decide (e ≠ (n, i))
                    finished := s.finished ++ [(n, i)] } m j ↔ s.TaskOf m j := by
  simp only [TaskOf, List.mem_filter, decide_eq_true_eq, List.mem_append, List.mem_singleton]
  constructor
  · rintro (⟨h, -⟩ | h | h)
    · exact .inl h
    · exact .inr h
    · rw [h]
      exact .inl hi
  · rintro (h | h)
    · by_cases heq : (m, j) = (n, i)
      · exact .inr (.inr heq)
      · exact .inl ⟨h, heq⟩
    · exact .inr (.inl h)

theorem oncePerMessage_step {s s' : Pickup} {a : PickupAction} (hs : s.OncePerMessage)
    (hok : Orderly s a) (h : s.step b content a = some s') : s'.OncePerMessage := by
  cases stepped_of_step h with
  | @arrived i hnew =>
    refine ⟨hs.single, ?_, fun n j hj => ?_, fun j hj => ?_⟩
    · intro j hj
      rcases List.mem_append.mp hj with hj | hj
      · exact List.mem_cons_of_mem _ (hs.queue hj)
      · rw [List.mem_singleton.mp hj]
        exact List.mem_cons_self
    · obtain ⟨haccepted, hstored⟩ := hs.tasks n j hj
      refine ⟨List.mem_cons_of_mem _ haccepted, fun hqueue => ?_⟩
      rcases List.mem_append.mp hqueue with hqueue | hqueue
      · exact hstored hqueue
      · rw [List.mem_singleton.mp hqueue] at haccepted
        exact absurd haccepted hnew
    · obtain ⟨haccepted, hqueue, htask⟩ := hs.inHand j hj
      refine ⟨List.mem_cons_of_mem _ haccepted, fun h => ?_, htask⟩
      rcases List.mem_append.mp h with h | h
      · exact hqueue h
      · rw [List.mem_singleton.mp h] at haccepted
        exact hnew haccepted
  | @pulled i hnone hi =>
    refine ⟨hs.single, fun j hj => hs.queue (List.mem_filter.mp hj).1, fun n j hj => ?_,
      fun j hj => ?_⟩
    · obtain ⟨haccepted, hstored⟩ := hs.tasks n j hj
      exact ⟨haccepted, fun hqueue => hstored (List.mem_filter.mp hqueue).1⟩
    · obtain rfl := Option.some.inj hj
      refine ⟨hs.queue hi, fun h => ?_, fun n hn => ?_⟩
      · exact of_decide_eq_true (List.mem_filter.mp h).2 rfl
      · -- it would be one that is yet to be acknowledged
        obtain ⟨ids, hids, hmem⟩ := (hs.tasks n i hn).2 hi
        exact hok.apart i ids rfl hids hmem
  | @handedOver i hi =>
    have hsame := handOn_sameMailbox b content { s with inHand := none } i
    obtain ⟨haccepted, hqueue, htask⟩ := hs.inHand i hi
    have hsingle : Single { s with inHand := none } := hs.single
    refine ⟨hsingle.handOn htask, ?_, fun n j hj => ?_, fun j hj => ?_⟩
    · rw [hsame.queue, hsame.accepted]
      exact hs.queue
    · rw [hsame.accepted, hsame.queue, hsame.unacked]
      rcases taskOf_handOn.mp hj with hj | ⟨-, -, rfl⟩
      · exact hs.tasks n j hj
      · exact ⟨haccepted, fun h => absurd h hqueue⟩
    · rw [hsame.inHand] at hj
      cases hj
  | @fetched ids hunacked hnodup hids =>
    have hsame := foldl_handOn_sameMailbox b content ids
      { s with unacked := some (ids.filter fun i => b.acknowledges (content i)) }
    have hnew : ∀ i ∈ ids, ∀ n, ¬ s.TaskOf n i := by
      intro i hi n hn
      obtain ⟨acked, hacked, -⟩ := (hs.tasks n i hn).2 (hids hi)
      rw [hunacked] at hacked
      cases hacked
    refine ⟨Single.foldl_handOn ids hs.single hnodup hnew, ?_, fun n j hj => ?_, fun j hj => ?_⟩
    · rw [hsame.queue, hsame.accepted]
      exact hs.queue
    · rw [hsame.accepted, hsame.queue, hsame.unacked]
      rcases taskOf_foldl_handOn ids hj with hj | ⟨hj, hspawns⟩
      · obtain ⟨haccepted, hstored⟩ := hs.tasks n j hj
        refine ⟨haccepted, fun hqueue => ?_⟩
        obtain ⟨acked, hacked, -⟩ := hstored hqueue
        rw [hunacked] at hacked
        cases hacked
      · exact ⟨hs.queue (hids hj), fun _ => ⟨_, rfl, List.mem_filter.mpr
          ⟨hj, ListenerBuild.acknowledges_of_spawns hspawns⟩⟩⟩
    · rw [hsame.inHand] at hj
      rw [hsame.accepted, hsame.queue]
      obtain ⟨haccepted, hqueue, htask⟩ := hs.inHand j hj
      refine ⟨haccepted, hqueue, fun n hn => ?_⟩
      rcases taskOf_foldl_handOn ids hn with hn | ⟨hn, -⟩
      · exact htask n hn
      · exact hqueue (hids hn)
  | @acknowledged ids deleted hunacked =>
    have hdeleted : deleted = true := by
      cases deleted with
      | true => rfl
      | false => exact absurd rfl hok.deleted
    subst hdeleted
    refine ⟨hs.single, fun j hj => hs.queue (List.mem_filter.mp hj).1, fun n j hj => ?_,
      fun j hj => ?_⟩
    · obtain ⟨haccepted, hstored⟩ := hs.tasks n j hj
      refine ⟨haccepted, fun hqueue => ?_⟩
      obtain ⟨hqueue, hnot⟩ := List.mem_filter.mp hqueue
      obtain ⟨acked, hacked, hmem⟩ := hstored hqueue
      rw [hunacked] at hacked
      obtain rfl := Option.some.inj hacked
      exact absurd hmem (of_decide_eq_true hnot)
    · obtain ⟨haccepted, hqueue, htask⟩ := hs.inHand j hj
      exact ⟨haccepted, fun h => hqueue (List.mem_filter.mp h).1, htask⟩
  | @ended n i hi =>
    refine ⟨fun m m' j hm hm' => hs.single m m' j ((taskOf_ended hi).mp hm)
      ((taskOf_ended hi).mp hm'), hs.queue, fun m j hj => hs.tasks m j ((taskOf_ended hi).mp hj),
      fun j hj => ?_⟩
    obtain ⟨haccepted, hqueue, htask⟩ := hs.inHand j hj
    exact ⟨haccepted, hqueue, fun m hm => htask m ((taskOf_ended hi).mp hm)⟩
  | restarted => exact absurd rfl hok.uninterrupted

/-- **No message is handed to two tasks** in a run without a restart in which every
acknowledgement arrives and no message is pulled between its fetch and its
acknowledgement; so that each is worked on once, when the mailbox is empty and
nothing is under way. -/
theorem started_once {as : List PickupAction} {t : Pickup}
    (hrun : Run (step b content) Orderly opened as t) :
    t.Single ∧ (t.queue = [] → t.inHand = none → t.running = [] →
      ∀ i ∈ t.accepted, b.spawns (content i) = true → ∃! n, (n, i) ∈ t.finished) := by
  have hsingle : t.Single := (hrun.invariant (I := OncePerMessage)
    (fun _ _ _ hs hok hstep => oncePerMessage_step hs hok hstep) opened_oncePerMessage).single
  refine ⟨hsingle, fun hqueue hhand hrunning i hi hspawns => ?_⟩
  have huninterrupted : Run (step b content) Uninterrupted opened as t :=
    hrun.mono fun _ _ hok => hok.uninterrupted
  rcases nothing_lost huninterrupted i hi with h | h | h | ⟨n, h⟩ | ⟨n, h⟩
  · rw [hqueue] at h
    cases h
  · rw [hhand] at h
    cases h
  · rw [hspawns] at h
    cases h
  · rw [hrunning] at h
    cases h
  · exact ⟨n, h, fun m hm => hsingle m n i (.inr hm) (.inr h)⟩

/-- One message that is fetched and one that is pulled meanwhile. -/
theorem started_both_ways :
    let t : Pickup := ⟨[1, 0], [], none, none, 2, [], [(0, 0), (1, 1)], []⟩
    Run (step ⟨true, true⟩ tspMail) Orderly opened [.arrive 0, .fetch [0], .arrive 1, .pull 1,
        .handOver, .acknowledge true, .finish 0 0, .finish 1 1] t ∧
      ∃! n, (n, 1) ∈ t.finished := by
  intro t
  have hrun : Run (step ⟨true, true⟩ tspMail) Orderly opened [.arrive 0, .fetch [0], .arrive 1,
      .pull 1, .handOver, .acknowledge true, .finish 0 0, .finish 1 1] t := by
    have hpull : ∀ i ids, PickupAction.pull 1 = .pull i → some [0] = some ids → i ∉ ids := by
      rintro i ids ⟨⟩ ⟨⟩
      decide
    refine .cons ⟨nofun, nofun, nofun⟩ rfl (.cons ⟨nofun, nofun, nofun⟩ rfl
      (.cons ⟨nofun, nofun, nofun⟩ rfl (.cons ⟨nofun, nofun, hpull⟩ rfl ?_)))
    exact .cons ⟨nofun, nofun, nofun⟩ rfl (.cons ⟨nofun, nofun, nofun⟩ rfl
      (.cons ⟨nofun, nofun, nofun⟩ rfl (.cons ⟨nofun, nofun, nofun⟩ rfl (.nil _))))
  exact ⟨hrun, (started_once hrun).2 rfl rfl rfl 1 (by decide) rfl⟩

end Pickup

end TrustRegistry
