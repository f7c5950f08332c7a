import TrustRegistry.Lib.TwoStep
import TrustRegistry.Storage.FjallRefinement

/-!
# Concurrent calls of the embedded backend

A change asks whether its key is there and then, in an access of its own, inserts
or removes.  Nothing holds the two together: calls that overlap can both be told
that a key is free, or that it is taken, and both go on.

## Main definitions

* `FjallStorage.check`, `FjallStorage.write` — the two accesses of a change.
* `FjallStorage.accesses` — the calls, access by access.
* `FjallStorage.Replays` — calls made one after another, with their replies.
* `FjallStorage.Linearizable` — what the calls have answered and left is what they
  answer and leave in some order.

## Main results

* `FjallStorage.perform_eq` — both accesses in a row are the operation.
* `FjallStorage.overlapping_calls_linearizable` — runs in which every write finds its
  key as the check found it are linearizable.
* `FjallStorage.racing_creates_both_succeed` — two creations of one tuple that both
  succeed.
-/

namespace TrustRegistry

open Transition

/-- The operations that may overlap. -/
inductive FjallOperation
  | change (c : RecordChange)
  | read (q : TrustRecordQuery)

/-- A call, with what the store contributes to it. -/
structure FjallCall where
  io : FjallIo
  operation : FjallOperation

/-- What a call answers. -/
inductive FjallReply
  | changed (r : Except RepositoryError Unit)
  | read (r : Except RepositoryError TrustRecord)
  deriving DecidableEq

namespace FjallStorage

/-- The first access of a change: is its key there?  One that does not find what it
needs answers at once. -/
def check (io : FjallIo) (s : FjallStorage) (c : RecordChange) : Option RepositoryError :=
  match io.join, io.fails .containsKey with
  | some e, _ => some (joinError e)
  | none, some e => some (queryError e)
  | none, none =>
    match c with
    | .create r =>
      let key := (TrustRecordKey.fromRecord r).sk
      if s.keyspace.contains key then some (.recordAlreadyExists key) else none
    | .update r =>
      let key := (TrustRecordKey.fromRecord r).sk
      if s.keyspace.contains key then none else some (.recordNotFound key)
    | .delete q =>
      let key := (TrustRecordKey.fromQuery q).sk
      if s.keyspace.contains key then none else some (.recordNotFound key)

/-- The second access, whatever is there by then. -/
def write (io : FjallIo) (s : FjallStorage) : RecordChange → Except RepositoryError Unit × FjallStorage
  | .create r | .update r =>
    match io.fails .insert with
    | some e => (.error (queryError e), s)
    | none => (.ok (), ⟨s.keyspace.insert (TrustRecordKey.fromRecord r).sk r.toJson⟩)
  | .delete q =>
    match io.fails .remove with
    | some e => (.error (queryError e), s)
    | none => (.ok (), ⟨s.keyspace.erase (TrustRecordKey.fromQuery q).sk⟩)

/-- The calls, access by access.  A reading is one access. -/
def accesses : TwoStep.Object FjallStorage FjallCall Unit FjallReply where
  first s call :=
    match call.operation with
    | .read q => .inl (.read (read call.io s q))
    | .change c =>
      match check call.io s c with
      | some e => .inl (.changed (.error e))
      | none => .inr ()
  second s call _ :=
    match call.operation with
    | .read q => (.read (read call.io s q), s)
    | .change c => (.changed (write call.io s c).1, (write call.io s c).2)

/-- The operation of a call. -/
def answer (s : FjallStorage) (call : FjallCall) : FjallReply × FjallStorage :=
  match call.operation with
  | .change c => (.changed ((repository call.io).call s c).1, ((repository call.io).call s c).2)
  | .read q => (.read ((repository call.io).read s q), s)

/-- Calls made one after another, with their replies, lead from one store to
another. -/
def Replays : FjallStorage → List (TwoStep.Completed FjallCall FjallReply) → FjallStorage → Prop
  | s, [], t => t = s
  | s, e :: es, t => (answer s e.call).1 = e.reply ∧ Replays (answer s e.call).2 es t

/-- The calls that have returned, made one after another in some order that keeps
those apart that did not overlap, answer what they have answered and leave the
store as it is. -/
def Linearizable (s₀ : FjallStorage)
    (s : TwoStep.System FjallStorage FjallCall Unit FjallReply) : Prop :=
  ∃ order : List (TwoStep.Completed FjallCall FjallReply), order.Nodup ∧
    (∀ e, e ∈ order ↔ s.calls e.id = .returned e) ∧
    order.Pairwise (fun e e' => ¬ e'.ended < e.started) ∧ Replays s₀ order s.store

/-- **A change is its check and its write**, when nothing comes between. -/
theorem call_eq_check_write (io : FjallIo) (s : FjallStorage) (c : RecordChange) :
    (repository io).call s c =
      match check io s c with
      | some e => (.error e, s)
      | none => write io s c := by
  unfold check
  cases hjoin : io.join with
  | some e => cases c <;> simp [TrustRecordAdminRepository.call, repository, create, update, delete,
      hjoin]
  | none =>
    cases hcheck : io.fails .containsKey with
    | some e => cases c <;> simp [TrustRecordAdminRepository.call, repository, create, update,
        delete, hjoin, hcheck]
    | none =>
      cases c with
      | create r =>
        show create io s r = _
        cases h : s.keyspace.contains (TrustRecordKey.fromRecord r).sk with
        | true => simp [create, hjoin, hcheck, h]
        | false => cases hwrite : io.fails .insert <;> simp [create, write, hjoin, hcheck, h, hwrite]
      | update r =>
        show update io s r = _
        cases h : s.keyspace.contains (TrustRecordKey.fromRecord r).sk with
        | false => simp [update, hjoin, hcheck, h]
        | true => cases hwrite : io.fails .insert <;> simp [update, write, hjoin, hcheck, h, hwrite]
      | delete q =>
        show delete io s q = _
        cases h : s.keyspace.contains (TrustRecordKey.fromQuery q).sk with
        | false => simp [delete, hjoin, hcheck, h]
        | true => cases hwrite : io.fails .remove <;> simp [delete, write, hjoin, hcheck, h, hwrite]

/-- **Both accesses in a row are the operation.** -/
theorem perform_eq (s : FjallStorage) (call : FjallCall) :
    accesses.perform s call = answer s call := by
  obtain ⟨io, operation⟩ := call
  cases operation with
  | read q => rfl
  | change c =>
    simp only [TwoStep.Object.perform, accesses, answer, call_eq_check_write]
    cases check io s c <;> rfl

theorem replays_of_sequential {order : List (TwoStep.Completed FjallCall FjallReply)}
    {t : FjallStorage} : ∀ {s : FjallStorage}, accesses.Sequential s order t →
      Replays s order t := by
  induction order with
  | nil => exact fun h => h
  | cons e order ih =>
    rintro s ⟨hreply, hrest⟩
    rw [perform_eq] at hreply hrest
    exact ⟨hreply, ih hrest⟩

/-- **Calls that overlap are linearizable while every write finds its key as the
check found it**: in every run of any number of calls, from any store and with the
store failing as it may, in which each second access is made on a store where the
check of the call would still pass. -/
theorem overlapping_calls_linearizable {s₀ : FjallStorage} {as : List (TwoStep.Action FjallCall)}
    {t : TwoStep.System FjallStorage FjallCall Unit FjallReply}
    (hrun : Run (TwoStep.System.step accesses) (TwoStep.System.StillSeen accesses)
      (.opened s₀) as t) : Linearizable s₀ t := by
  obtain ⟨order, hnodup, hmem, htimes, hsequential⟩ :=
    TwoStep.System.linearizable_of_stillSeen hrun
  exact ⟨order, hnodup, hmem, htimes, replays_of_sequential hsequential⟩

/-- A key with a record that says yes or no. -/
def sampleGrant (entity : String) (authorized : Bool) : TrustRecord where
  entityId := ⟨entity⟩
  authorityId := ⟨"did:web:community"⟩
  action := ⟨"git.commit.sign"⟩
  resource := ⟨"org/repo"⟩
  recognized := some true
  authorized := some authorized
  context := Context.empty
  recordType := .authorization

/-- A creation, by a store that does not fail. -/
def createCall (entity : String) (authorized : Bool) : FjallCall :=
  ⟨.up, .change (.create (sampleGrant entity authorized))⟩

/-- Two creations that overlap, of different tuples. -/
theorem overlapping_creates_linearizable :
    ∃ t, Run (TwoStep.System.step accesses) (TwoStep.System.StillSeen accesses) (.opened new)
        [.start 0 (createCall "did:web:e" true), .start 1 (createCall "did:web:f" true),
          .finish 0, .finish 1] t ∧ Linearizable new t := by
  have hstart : ∀ (s : TwoStep.System FjallStorage FjallCall Unit FjallReply) (id : ℕ) call,
      TwoStep.System.StillSeen accesses s (.start id call) := by
    intro s id call id' call' seen started h
    cases h
  -- the keys differ, so neither write finds anything but what its check found
  have hrun : ∃ t, Run (TwoStep.System.step accesses) (TwoStep.System.StillSeen accesses)
      (.opened new) [.start 0 (createCall "did:web:e" true),
        .start 1 (createCall "did:web:f" true), .finish 0, .finish 1] t := by
    refine ⟨_, .cons (hstart _ _ _) rfl (.cons (hstart _ _ _) rfl (.cons ?_ rfl
      (.cons ?_ rfl (.nil _))))⟩
    · intro id call seen started h hwaiting
      obtain rfl := TwoStep.Action.finish.inj h
      obtain ⟨rfl, _⟩ := TwoStep.Phase.waiting.inj hwaiting
      rfl
    · intro id call seen started h hwaiting
      obtain rfl := TwoStep.Action.finish.inj h
      obtain ⟨rfl, _⟩ := TwoStep.Phase.waiting.inj hwaiting
      rfl
  obtain ⟨t, hrun⟩ := hrun
  exact ⟨t, hrun, overlapping_calls_linearizable hrun⟩

/-- A creation that succeeds found its key free, and leaves the record there. -/
theorem create_ok {io : FjallIo} {s : FjallStorage} {r : TrustRecord}
    (h : (create io s r).1 = .ok ()) :
    s.keyspace.contains (TrustRecordKey.fromRecord r).sk = false ∧
      (create io s r).2 = ⟨s.keyspace.insert (TrustRecordKey.fromRecord r).sk r.toJson⟩ := by
  cases hjoin : io.join with
  | some e => simp [create, hjoin] at h
  | none =>
    cases hcheck : io.fails .containsKey with
    | some e => simp [create, hjoin, hcheck] at h
    | none =>
      cases hfree : s.keyspace.contains (TrustRecordKey.fromRecord r).sk with
      | true => simp [create, hjoin, hcheck, hfree] at h
      | false =>
        cases hinsert : io.fails .insert with
        | some e => simp [create, hjoin, hcheck, hfree, hinsert] at h
        | none => simp [create, hjoin, hcheck, hfree, hinsert]

/-- So no other creation of the tuple succeeds right after it. -/
theorem create_refused_after {io io' : FjallIo} {s : FjallStorage} {r r' : TrustRecord}
    (hkey : TrustRecordKey.fromRecord r' = TrustRecordKey.fromRecord r)
    (h : (create io s r).1 = .ok ()) : (create io' (create io s r).2 r').1 ≠ .ok () := by
  intro h'
  have htaken := (create_ok h').1
  rw [(create_ok h).2, hkey, AssocMap.contains, AssocMap.get?_insert_self] at htaken
  cases htaken

/-- **Two creations of one tuple both succeed** when both checks come before both
writes.  The second record replaces the first, and in no order of the two calls do
both succeed. -/
theorem racing_creates_both_succeed :
    ∃ t, Run (TwoStep.System.step accesses) anyAction (.opened new)
        [.start 0 (createCall "did:web:e" true), .start 1 (createCall "did:web:e" false),
          .finish 0, .finish 1] t ∧
      t.calls 0 = .returned ⟨0, createCall "did:web:e" true, .changed (.ok ()), 0, 2⟩ ∧
      t.calls 1 = .returned ⟨1, createCall "did:web:e" false, .changed (.ok ()), 1, 3⟩ ∧
      read .up t.store (sampleGrant "did:web:e" true).query
        = .ok (sampleGrant "did:web:e" false) ∧
      ¬ Linearizable new t := by
  refine ⟨_, run_of_exec (fun _ _ _ => trivial) rfl, rfl, rfl, by decide, ?_⟩
  rintro ⟨order, hnodup, hmem, _, hreplays⟩
  -- the calls that have returned are two creations of one tuple, both accepted
  have hcreate : ∀ e ∈ order, ∃ authorized, e.call = createCall "did:web:e" authorized ∧
      e.reply = .changed (.ok ()) := by
    rintro ⟨id, call, reply, started, ended⟩ he
    have hreturned := (hmem _).mp he
    match id with
    | 0 =>
      obtain ⟨_, rfl, rfl, _⟩ := TwoStep.Completed.mk.inj (TwoStep.Phase.returned.inj hreturned)
      exact ⟨true, rfl, rfl⟩
    | 1 =>
      obtain ⟨_, rfl, rfl, _⟩ := TwoStep.Completed.mk.inj (TwoStep.Phase.returned.inj hreturned)
      exact ⟨false, rfl, rfl⟩
    | id + 2 => cases hreturned
  have hfirst := (hmem ⟨0, createCall "did:web:e" true, .changed (.ok ()), 0, 2⟩).mpr rfl
  have hsecond := (hmem ⟨1, createCall "did:web:e" false, .changed (.ok ()), 1, 3⟩).mpr rfl
  match order, hfirst, hsecond, hcreate, hreplays with
  | [], hfirst, _, _, _ => cases hfirst
  | [e], hfirst, hsecond, _, _ =>
    have hids := (List.mem_singleton.mp hfirst).trans (List.mem_singleton.mp hsecond).symm
    cases congrArg TwoStep.Completed.id hids
  | e :: e' :: order, _, _, hcreate, ⟨hreply, hreply', _⟩ =>
    obtain ⟨authorized, hcall, hok⟩ := hcreate e List.mem_cons_self
    obtain ⟨authorized', hcall', hok'⟩ := hcreate e' (List.mem_cons_of_mem _ List.mem_cons_self)
    rw [hcall, hok] at hreply
    rw [hcall, hcall', hok'] at hreply'
    have hcreated : (create .up new (sampleGrant "did:web:e" authorized)).1 = .ok () :=
      FjallReply.changed.inj hreply
    have hkey : TrustRecordKey.fromRecord (sampleGrant "did:web:e" authorized')
        = TrustRecordKey.fromRecord (sampleGrant "did:web:e" authorized) := rfl
    have hagain : (create .up (create .up new (sampleGrant "did:web:e" authorized)).2
        (sampleGrant "did:web:e" authorized')).1 = .ok () := FjallReply.changed.inj hreply'
    exact create_refused_after hkey hcreated hagain

end FjallStorage

end TrustRegistry
