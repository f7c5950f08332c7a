import TrustRegistry.Storage.CsvConcurrency

/-!
# What the interleavings of the CSV backend keep

The file writings of concurrent calls are not ordered by their snapshots, and a
pass of the sync task may replace the records by what it read before they were
changed.  Both defects have the same remedy, stated here as a condition on runs:
nothing older replaces anything newer.

## Main definitions

* `CsvState.Pending` — the newest change is in the file, or a call will write it.
* `CsvState.expected` — what a tuple holds by the changes made so far.

## Main results

* `run_call` — the steps of one call, taken in a row, are what the backend's call does.
* `quiescent_file_means` — when no writing goes back, the file means the records
  once every call has returned.
* `acknowledged_change_visible` — when no replacement loses anything, the last
  change of a tuple is what a lookup finds.
* `stale_write_wins`, `stale_replacement_wins` — two runs that break the
  conditions, and lose a record.
-/

namespace TrustRegistry

open TrustRecordCsvRow Transition

namespace CsvState

variable {csv : CsvCrate} {codec : ContextCodec}

/-! ### One call alone -/

/-- The steps of one call. -/
def callActions (id now : ℕ) (c : RecordChange) : List CsvAction :=
  [.change id c, .snapshot id, .write id now, .stat id, .store id]

/-- **A call that runs alone** does what the backend's call does, and writes
nothing older than what it finds. -/
theorem run_call {s : CsvState} (id now : ℕ) {c : RecordChange} {m : RecordMap}
    (hcsv : csv.Lossless) (hid : s.calls id = .idle) (hc : LosslessChange codec c)
    (hpers : ∀ r ∈ c.result, Persistable r) (hs : s.Sound csv codec)
    (happly : c.apply s.records = .ok m) :
    ∃ t, Run (step csv codec) (OrderedWrites codec) s (callActions id now c) t ∧
      t.storage = (FileStorage.call csv codec (.up now) s.storage c).2 ∧
      t.calls = Function.update s.calls id (.returned (.ok ())) ∧ t.sync = s.sync ∧
      t.changes = s.changes ++ [(id, c)] := by
  have hm : LosslessOn codec m.values := (hs.change id hc happly).lossless
  obtain ⟨text, hserialize, _⟩ := parseCsv_serialize hcsv hm
  -- the states the call goes through
  let s₁ : CsvState :=
    { s.setCall id .changed with records := m, changes := s.changes ++ [(id, c)] }
  let s₂ := s₁.setCall id (.snapshot m.values s₁.version)
  let s₃ : CsvState :=
    { s₂.setCall id .written with file := ⟨text, now⟩, fileVersion := s₁.version }
  let s₄ := s₃.setCall id (.statted now)
  let s₅ : CsvState := { s₄.setCall id (.returned (.ok ())) with lastModified := some now }
  have h₁ : s.step csv codec (.change id c) = some s₁ := by simp only [step, hid, happly, s₁]
  have h₂ : s₁.step csv codec (.snapshot id) = some s₂ := by
    have : s₁.calls id = .changed := calls_setCall_self s id _
    simp only [step, this, s₂]
    rfl
  have h₃ : s₂.step csv codec (.write id now) = some s₃ := by
    simp only [step, s₂, calls_setCall_self, hserialize, s₃]
  have h₄ : s₃.step csv codec (.stat id) = some s₄ := by
    have : s₃.calls id = .written := calls_setCall_self s₂ id _
    simp only [step, this, s₄]
    rfl
  have h₅ : s₄.step csv codec (.store id) = some s₅ := by
    simp only [step, s₄, calls_setCall_self, s₅]
  have hwrite : OrderedWrites codec s₂ (.write id now) := by
    intro rows version h
    simp only [s₂, calls_setCall_self, CallPhase.snapshot.injEq] at h
    obtain ⟨_, rfl⟩ := h
    have hle := hs.file_le
    simp only [s₁, s₂, setCall, version, List.length_append, List.length_singleton] at hle ⊢
    omega
  refine ⟨s₅, .cons ⟨hc, hpers⟩ h₁ (.cons trivial h₂ (.cons hwrite h₃ (.cons trivial h₄
    (.cons trivial h₅ (.nil _))))), ?_, ?_, rfl, rfl⟩
  · rw [FileStorage.call_eq_mutate]
    simp only [FileStorage.mutate, storage, happly, writeToFile, hserialize, FileIo.up]
    rfl
  · simp [s₁, s₂, s₃, s₄, s₅, setCall]

/-! ### A backend over an empty file -/

/-- The backend that has loaded an empty file. -/
def openedEmpty : CsvState where
  records := .empty
  lastModified := some 0
  file := ⟨"", 0⟩
  calls _ := .idle
  sync := .idle
  changes := []
  fileVersion := 0

theorem openedEmpty_opened : openedEmpty.Opened CsvText.crate CsvText.emptyObjectCodec where
  calls _ := rfl
  sync := rfl
  changes := rfl
  fileVersion := rfl
  lossless _ hr := absurd hr List.not_mem_nil
  file := rfl
  lastModified := rfl

/-- A record of another tuple. -/
def otherRecord : TrustRecord := { CsvText.plainRecord with entityId := ⟨"did:web:f"⟩ }

theorem plainRecord_persistable : Persistable CsvText.plainRecord := by
  refine ⟨⟨?_, ?_, ?_, ?_⟩, rfl⟩ <;> exact Trim.trim_eq_self_iff_all.mpr (by decide)

theorem lossless_create_plain :
    LosslessChange CsvText.emptyObjectCodec (.create CsvText.plainRecord) := by
  intro r hr _
  obtain rfl : r = CsvText.plainRecord := List.mem_singleton.mp hr
  exact CsvText.emptyObjectCodec_losslessAt

theorem lossless_create_other :
    LosslessChange CsvText.emptyObjectCodec (.create otherRecord) := by
  intro r hr _
  obtain rfl : r = otherRecord := List.mem_singleton.mp hr
  exact CsvText.emptyObjectCodec_losslessAt

theorem otherRecord_persistable : Persistable otherRecord := by
  refine ⟨⟨?_, ?_, ?_, ?_⟩, rfl⟩ <;> exact Trim.trim_eq_self_iff_all.mpr (by decide)

/-- The rows of both records. -/
def bothRows : List TrustRecord := [CsvText.plainRecord, otherRecord]

theorem bothRows_persistable : ∀ r ∈ bothRows, Persistable r := by
  intro r hr
  rcases List.mem_pair.mp hr with rfl | rfl
  exacts [plainRecord_persistable, otherRecord_persistable]

theorem lossless_bothRows : LosslessOn CsvText.emptyObjectCodec bothRows := by
  intro r hr _
  rcases List.mem_pair.mp hr with rfl | rfl <;> exact CsvText.emptyObjectCodec_losslessAt

theorem parse_bothRows : parseCsv CsvText.crate CsvText.emptyObjectCodec
    (Trim.trim (CsvText.text (bothRows.map (fromRecord CsvText.emptyObjectCodec))))
      = .ok (.ofRecords (bothRows.map reload)) :=
  parseCsv_of_serialize CsvText.crate_lossless lossless_bothRows rfl

/-! ### The newest change reaches the file -/

/-- The newest change is in the file, or a call is on its way to write it. -/
def Pending (s : CsvState) : Prop :=
  s.fileVersion = s.version ∨
    ∃ id, s.calls id = .changed ∨ ∃ rows, s.calls id = .snapshot rows s.version

/-- Moving on a call that was not about to write keeps the newest change pending. -/
theorem Pending.setCall {s : CsvState} (hs : s.Pending) {id : ℕ} {p : CallPhase}
    (hchanged : s.calls id ≠ .changed)
    (hsnapshot : ∀ rows version, s.calls id ≠ .snapshot rows version) :
    (s.setCall id p).Pending := by
  refine hs.imp_right ?_
  rintro ⟨id', h⟩
  have hne : id' ≠ id := by
    rintro rfl
    rcases h with h | ⟨rows, h⟩
    exacts [hchanged h, hsnapshot rows _ h]
  have hcalls : (s.setCall id p).calls id' = s.calls id' := by simp [CsvState.setCall, hne]
  refine ⟨id', ?_⟩
  rw [hcalls]
  exact h

theorem pending_step (hcsv : csv.Lossless) {s s' : CsvState} {a : CsvAction}
    (hsound : s.Sound csv codec) (hs : s.Pending) (hok : OrderedWrites codec s a)
    (hstep : s.step csv codec a = some s') : s'.Pending := by
  cases stepped_of_step hstep with
  | refused hid happly => exact hs.setCall (by simp [hid]) (by simp [hid])
  | @changed id c m hid happly => exact .inr ⟨id, .inl (calls_setCall_self s id _)⟩
  | @snapshot id hid => exact .inr ⟨id, .inr ⟨_, calls_setCall_self s id _⟩⟩
  | @unwritten id now version rows e hid hserialize =>
    -- the library writes all rows it is given
    obtain ⟨text, htext, _⟩ := parseCsv_serialize hcsv (hsound.snapshot id rows version hid).2.1
    rw [hserialize] at htext
    cases htext
  | @written id now version rows text hid hserialize =>
    by_cases hversion : version = s.version
    · exact .inl hversion
    · -- an older snapshot was written, so another call still holds the newest change
      have hle : s.fileVersion ≤ version := hok rows version hid
      have hlt := (hsound.snapshot id rows version hid).1
      rcases hs with hfile | ⟨id', h⟩
      · omega
      · have hne : id' ≠ id := by
          rintro rfl
          rw [hid] at h
          rcases h with h | ⟨rows', h⟩
          · cases h
          · exact hversion (CallPhase.snapshot.inj h).2
        refine .inr ⟨id', ?_⟩
        simp only [setCall, Function.update_of_ne hne]
        exact h
  | statted hid => exact hs.setCall (by simp [hid]) (by simp [hid])
  | @stored id modified hid =>
    have hpending : (s.setCall id (.returned (.ok ()))).Pending :=
      hs.setCall (by simp [hid]) (by simp [hid])
    exact hpending
  | sawLast hsync => exact hok.elim
  | syncUnmodified hsync => exact hok.elim
  | syncStatted hsync => exact hok.elim
  | syncUnread hsync hparse => exact hok.elim
  | syncLoaded hsync hparse => exact hok.elim
  | syncReplaced hsync => exact hok.elim
  | syncStored hsync => exact hok.elim

/-- Without the sync task only changes bring records in. -/
theorem persistable_step {s s' : CsvState} {a : CsvAction}
    (hs : ∀ r ∈ s.records.values, Persistable r) (hok : OrderedWrites codec s a)
    (hstep : s.step csv codec a = some s') : ∀ r ∈ s'.records.values, Persistable r := by
  cases stepped_of_step hstep with
  | @changed id c m hid happly =>
    intro r hr
    rcases RecordChange.mem_values_of_apply happly hr with hnew | hold
    · exact hok.2 r hnew
    · exact hs r hold
  | syncReplaced hsync => exact hok.elim
  | _ => exact hs

/-- **When no writing goes back, the file means the records** once every call has
returned. -/
theorem quiescent_file_means (hcsv : csv.Lossless) {s t : CsvState} {as : List CsvAction}
    (hs : s.Opened csv codec) (hpers : ∀ r ∈ s.records.values, Persistable r)
    (hrun : Run (step csv codec) (OrderedWrites codec) s as t) (hq : t.Quiescent) :
    ∃ m, parseCsv csv codec (Trim.trim t.file.text) = .ok m ∧ t.records.SameMeaning m := by
  have hinit : s.Pending := .inl (by simp [hs.fileVersion, version, hs.changes])
  -- the three invariants need each other's step lemmas, so they go together
  obtain ⟨hsound, hpending, hpers⟩ : t.Sound csv codec ∧ t.Pending ∧
      ∀ r ∈ t.records.values, Persistable r := by
    refine Run.invariant (I := fun s => s.Sound csv codec ∧ s.Pending ∧
      ∀ r ∈ s.records.values, Persistable r) ?_ hrun ⟨hs.sound, hinit, hpers⟩
    rintro s a s' ⟨hsound, hpending, hpers⟩ hok hstep
    exact ⟨sound_step hcsv hsound (.of_orderedWrites hok) hstep,
      pending_step hcsv hsound hpending hok hstep, persistable_step hpers hok hstep⟩
  have hfile : t.fileVersion = t.version := by
    rcases hpending with h | ⟨id, h⟩
    · exact h
    · -- no call is about to write
      rcases hq.calls id with hid | ⟨result, hid⟩ <;> rw [hid] at h <;>
        rcases h with h | ⟨rows, h⟩ <;> cases h
  obtain ⟨m, hm, hpresents⟩ := hsound.file hfile
  exact ⟨m, hm, hpresents hpers⟩

/-- Two creations at once, both with their snapshots taken before either has
written, which write in the order of the snapshots. -/
def writtenInOrder : List CsvAction :=
  [.change 0 (.create CsvText.plainRecord), .snapshot 0, .change 1 (.create otherRecord),
    .snapshot 1] ++ [.write 0 1] ++ [.write 1 2] ++ [.stat 0, .stat 1, .store 0, .store 1]

/-- The two creations have returned, and both records are in the file. -/
theorem both_creations_in_file : ∃ t, Run (step CsvText.crate CsvText.emptyObjectCodec)
      (OrderedWrites CsvText.emptyObjectCodec) openedEmpty writtenInOrder t ∧
    (∀ id < 2, t.calls id = .returned (.ok ())) ∧ t.records.values = bothRows ∧
    ∃ m, parseCsv CsvText.crate CsvText.emptyObjectCodec (Trim.trim t.file.text) = .ok m ∧
      t.records.SameMeaning m := by
  have hchange : ∀ a ∈ [.change 0 (.create CsvText.plainRecord), .snapshot 0,
      .change 1 (.create otherRecord), CsvAction.snapshot 1], ∀ s,
      OrderedWrites CsvText.emptyObjectCodec s a := by
    intro a ha s
    simp only [List.mem_cons, List.not_mem_nil, or_false] at ha
    rcases ha with rfl | rfl | rfl | rfl
    · exact ⟨lossless_create_plain, by rintro _ ⟨⟩; exact plainRecord_persistable⟩
    · trivial
    · exact ⟨lossless_create_other, by rintro _ ⟨⟩; exact otherRecord_persistable⟩
    · trivial
  have hreturn : ∀ a ∈ [.stat 0, .stat 1, .store 0, CsvAction.store 1], ∀ s,
      OrderedWrites CsvText.emptyObjectCodec s a := by
    simp [OrderedWrites]
  -- each snapshot is no older than what the file holds when it is written
  have hrun : Run (step CsvText.crate CsvText.emptyObjectCodec)
      (OrderedWrites CsvText.emptyObjectCodec) openedEmpty writtenInOrder _ :=
    (((run_of_exec hchange rfl).trans (.single (by rintro _ _ ⟨⟩; decide) rfl)).trans
      (.single (by rintro _ _ ⟨⟩; decide) rfl)).trans (run_of_exec hreturn rfl)
  refine ⟨_, hrun, fun id hid => ?_, rfl, quiescent_file_means CsvText.crate_lossless
    openedEmpty_opened (fun r hr => absurd hr List.not_mem_nil) hrun ⟨fun id => ?_, rfl⟩⟩
  · match id, hid with
    | 0, _ | 1, _ => rfl
  · match id with
    | 0 | 1 => exact .inr ⟨_, rfl⟩
    | n + 2 => exact .inl rfl

/-- Two creations, of which the first takes its snapshot before the second makes
its change, and writes it after the second has written. -/
def staleWrite : List CsvAction :=
  [.change 0 (.create CsvText.plainRecord), .snapshot 0, .change 1 (.create otherRecord),
    .snapshot 1, .write 1 1, .write 0 2, .stat 0, .stat 1, .store 0, .store 1]

/-- **A stale writing wins**: both creations have returned, and the second record
is in memory and not in the file. -/
theorem stale_write_wins : ∃ t, Run (step CsvText.crate CsvText.emptyObjectCodec) CallsOnly
      openedEmpty staleWrite t ∧
    t.Quiescent ∧ (∀ id < 2, t.calls id = .returned (.ok ())) ∧
    t.records.find otherRecord.query = some otherRecord ∧
    ∃ m, parseCsv CsvText.crate CsvText.emptyObjectCodec (Trim.trim t.file.text) = .ok m ∧
      m.find otherRecord.query = none := by
  have hcalls : ∀ a ∈ staleWrite, ∀ s, CallsOnly s a := by simp [staleWrite, CallsOnly]
  have hfile : CsvText.crate.serialize
      ([CsvText.plainRecord].map (fromRecord CsvText.emptyObjectCodec)) = .ok _ := rfl
  refine ⟨_, run_of_exec hcalls rfl, ⟨fun id => ?_, rfl⟩, fun id hid => ?_, by decide, _,
    parseCsv_of_serialize CsvText.crate_lossless ?_ hfile, by decide⟩
  · match id with
    | 0 | 1 => exact .inr ⟨_, rfl⟩
    | n + 2 => exact .inl rfl
  · match id, hid with
    | 0, _ | 1, _ => rfl
  · exact lossless_create_plain

/-! ### The last change is what a lookup finds -/

/-- What a tuple holds by the changes made so far. -/
def expected (records : RecordMap) (changes : List (ℕ × RecordChange)) (k : TrustRecordKey) :
    Option TrustRecord :=
  changes.foldl (fun o e => if k = e.2.key then e.2.result else o) (records.get? k)

theorem expected_append (records : RecordMap) (changes : List (ℕ × RecordChange))
    (e : ℕ × RecordChange) (k : TrustRecordKey) : expected records (changes ++ [e]) k
      = if k = e.2.key then e.2.result else expected records changes k := by
  simp [expected]

/-- Later changes of other tuples do not matter. -/
theorem expected_of_last (records : RecordMap) (pre : List (ℕ × RecordChange))
    (e : ℕ × RecordChange) : ∀ post : List (ℕ × RecordChange), (∀ e' ∈ post, e'.2.key ≠ e.2.key) →
      expected records (pre ++ e :: post) e.2.key = e.2.result := by
  intro post
  induction post using List.reverseRecOn with
  | nil =>
    intro _
    rw [expected_append, if_pos rfl]
  | append_singleton post e' ih =>
    intro h
    rw [← List.cons_append, ← List.append_assoc, expected_append,
      if_neg (h e' (by simp)).symm]
    exact ih fun e'' he'' => h e'' (by simp [he''])

theorem expected_step {s s' : CsvState} {a : CsvAction} {records : RecordMap}
    (hsound : s.Sound csv codec)
    (hs : ∀ k, SameAnswer (expected records s.changes k) (s.records.get? k))
    (hok : FreshReplacement codec s a) (hstep : s.step csv codec a = some s') :
    ∀ k, SameAnswer (expected records s'.changes k) (s'.records.get? k) := by
  cases stepped_of_step hstep with
  | @changed id c m hid happly =>
    intro k
    simp only [expected_append, RecordChange.get?_of_apply happly]
    split
    · exact .refl _
    · exact hs k
  | syncReplaced hsync =>
    -- the records that come in mean what they replace
    intro k
    exact (hs k).trans (hsound.replacement hsync hok k)
  | _ => exact hs

/-- **When no replacement loses anything, the last change of a tuple is what a
lookup finds**, at any time. -/
theorem acknowledged_change_visible (hcsv : csv.Lossless) {s t : CsvState} {as : List CsvAction}
    (hs : s.Opened csv codec) (hrun : Run (step csv codec) (FreshReplacement codec) s as t)
    {pre post : List (ℕ × RecordChange)} {id : ℕ} {c : RecordChange} {r : TrustRecord}
    (hchanges : t.changes = pre ++ (id, c) :: post) (hc : c.result = some r)
    (hlast : ∀ e ∈ post, e.2.key ≠ c.key) :
    ∃ r', FileStorage.findByQuery t.storage c.key.query = .ok (some r') ∧ SameMeaning r r' := by
  obtain ⟨_, hexpected⟩ : t.Sound csv codec ∧
      ∀ k, SameAnswer (expected s.records t.changes k) (t.records.get? k) := by
    refine Run.invariant (I := fun s' => s'.Sound csv codec ∧
      ∀ k, SameAnswer (expected s.records s'.changes k) (s'.records.get? k)) ?_ hrun
      ⟨hs.sound, fun k => ?_⟩
    · rintro s' a s'' ⟨hsound, hexpected⟩ hok hstep
      exact ⟨sound_step hcsv hsound hok hstep, expected_step hsound hexpected hok hstep⟩
    · rw [hs.changes]
      exact .refl _
  -- what the changes make of the key is what the last of them brings
  have hanswer := hexpected c.key
  rw [hchanges, expected_of_last s.records pre (id, c) post hlast, hc] at hanswer
  cases hget : t.records.get? c.key with
  | none =>
    rw [hget] at hanswer
    cases hanswer
  | some r' =>
    rw [hget] at hanswer
    cases hanswer with
    | some hsame =>
      refine ⟨r', ?_, hsame⟩
      rw [FileStorage.findByQuery, storage, RecordMap.find_eq_get?,
        TrustRecordKey.fromQuery_query, hget]

/-- A pass that finds rows it can read goes on with them. -/
theorem step_syncRead {s : CsvState} {modified : ℕ} {m : RecordMap}
    (hsync : s.sync = .statted modified)
    (hparse : parseCsv csv codec (Trim.trim s.file.text) = .ok m) :
    s.step csv codec .syncRead = some { s with sync := .loaded m modified s.fileVersion } := by
  simp only [step, hsync, hparse]

/-- Two creations and a pass of the sync task, which sees the file between the
two writings and reads it after them. -/
def passUntilRead : List CsvAction :=
  [.change 0 (.create CsvText.plainRecord), .snapshot 0, .write 0 1, .syncReadLast,
    .change 1 (.create otherRecord), .syncStat, .snapshot 1, .write 1 2]

/-- The pass puts what it read in place of the records while both creations have
yet to return. -/
def passReplaces : List CsvAction :=
  [.stat 0] ++ [.syncReplace] ++ [.syncStore, .stat 1, .store 1, .store 0]

/-- Both creations have been written, and the pass is about to read them. -/
def beforeFreshRead : CsvState where
  records := .ofRecords bothRows
  lastModified := some 0
  file := ⟨CsvText.text (bothRows.map (fromRecord CsvText.emptyObjectCodec)), 2⟩
  calls := Function.update (Function.update (Function.update (Function.update (Function.update
    (Function.update (fun _ => .idle) 0 .changed) 0 (.snapshot [CsvText.plainRecord] 1))
    0 .written) 1 .changed) 1 (.snapshot bothRows 2)) 1 .written
  sync := .statted 1
  changes := [(0, .create CsvText.plainRecord), (1, .create otherRecord)]
  fileVersion := 2

/-- What the pass puts in place is what the two creations made: both are found
when they have returned. -/
theorem found_after_replacement : ∃ t, Run (step CsvText.crate CsvText.emptyObjectCodec)
      (FreshReplacement CsvText.emptyObjectCodec) openedEmpty
      (passUntilRead ++ [.syncRead] ++ passReplaces) t ∧
    (∀ id < 2, t.calls id = .returned (.ok ())) ∧ t.records.values = bothRows.map reload ∧
    ∀ r ∈ bothRows, ∃ r', FileStorage.findByQuery t.storage r.query = .ok (some r') ∧
      SameMeaning r r' := by
  have huntil : ∀ a ∈ passUntilRead, ∀ s, FreshReplacement CsvText.emptyObjectCodec s a := by
    intro a ha s
    simp only [passUntilRead, List.mem_cons, List.not_mem_nil, or_false] at ha
    rcases ha with rfl | rfl | rfl | rfl | rfl | rfl | rfl | rfl
    exacts [lossless_create_plain, trivial, trivial, trivial, lossless_create_other, trivial,
      trivial, trivial]
  have h₁ : Run (step CsvText.crate CsvText.emptyObjectCodec)
      (FreshReplacement CsvText.emptyObjectCodec) openedEmpty passUntilRead beforeFreshRead :=
    run_of_exec huntil rfl
  have hreturn : ∀ a ∈ [.syncStore, .stat 1, .store 1, CsvAction.store 0], ∀ s,
      FreshReplacement CsvText.emptyObjectCodec s a := by
    simp [FreshReplacement]
  -- nothing was changed since the snapshot in the text that was read
  have h₂ : Run (step CsvText.crate CsvText.emptyObjectCodec)
      (FreshReplacement CsvText.emptyObjectCodec)
      { beforeFreshRead with sync := .loaded (.ofRecords (bothRows.map reload)) 1 2 }
      passReplaces _ :=
    ((Run.single trivial rfl).trans (.single ⟨by rintro _ _ _ ⟨⟩; rfl, bothRows_persistable⟩
      rfl)).trans (run_of_exec hreturn rfl)
  have hread : Run (step CsvText.crate CsvText.emptyObjectCodec)
      (FreshReplacement CsvText.emptyObjectCodec) beforeFreshRead [.syncRead] _ :=
    .single trivial (step_syncRead rfl parse_bothRows)
  have hrun := (h₁.trans hread).trans h₂
  refine ⟨_, hrun, fun id hid => ?_, rfl, fun r hr => ?_⟩
  · match id, hid with
    | 0, _ | 1, _ => rfl
  · rcases List.mem_pair.mp hr with rfl | rfl
    · -- the later creation is of another tuple
      have hchanges : beforeFreshRead.changes
          = [] ++ (0, .create CsvText.plainRecord) :: [(1, .create otherRecord)] := rfl
      exact acknowledged_change_visible CsvText.crate_lossless openedEmpty_opened hrun hchanges
        rfl (by decide)
    · have hchanges : beforeFreshRead.changes
          = [(0, .create CsvText.plainRecord)] ++ (1, .create otherRecord) :: [] := rfl
      exact acknowledged_change_visible CsvText.crate_lossless openedEmpty_opened hrun hchanges
        rfl (fun _ he => absurd he List.not_mem_nil)

/-- The first creation has written its snapshot, and the sync task has seen that
the file is newer than what was last seen. -/
def beforeRead : CsvState where
  records := .ofRecords [CsvText.plainRecord]
  lastModified := some 0
  file := ⟨CsvText.text ([CsvText.plainRecord].map (fromRecord CsvText.emptyObjectCodec)), 1⟩
  calls := Function.update (Function.update (Function.update (fun _ => .idle) 0 .changed) 0
    (.snapshot [CsvText.plainRecord] 1)) 0 .written
  sync := .statted 1
  changes := [(0, .create CsvText.plainRecord)]
  fileVersion := 1

/-- What comes before the sync task reads the file: a creation up to its writing,
and the start of a pass. -/
def untilRead : List CsvAction :=
  [.change 0 (.create CsvText.plainRecord), .snapshot 0, .write 0 1, .syncReadLast, .syncStat]

/-- What comes after it: another creation from start to end, the rest of the
pass, and the end of the first creation. -/
def afterRead : List CsvAction :=
  [.change 1 (.create otherRecord), .snapshot 1, .write 1 2, .stat 1, .store 1, .syncReplace,
    .syncStore, .stat 0, .store 0]

theorem beforeRead_parse :
    parseCsv CsvText.crate CsvText.emptyObjectCodec (Trim.trim beforeRead.file.text)
      = .ok (.ofRecords ([CsvText.plainRecord].map reload)) :=
  parseCsv_of_serialize CsvText.crate_lossless lossless_create_plain rfl

/-- **A stale replacement wins**: both creations have returned, and the second
record is not found, nor will it be while the file stays as it is. -/
theorem stale_replacement_wins : ∃ t, Run (step CsvText.crate CsvText.emptyObjectCodec) anyAction
      openedEmpty (untilRead ++ [.syncRead] ++ afterRead) t ∧
    t.Quiescent ∧ (∀ id < 2, t.calls id = .returned (.ok ())) ∧
    t.changes = [(0, .create CsvText.plainRecord), (1, .create otherRecord)] ∧
    FileStorage.findByQuery t.storage otherRecord.query = .ok none ∧
    t.lastModified = some t.file.modified := by
  have hany : ∀ as : List CsvAction, ∀ a ∈ as, ∀ s : CsvState, anyAction s a :=
    fun _ _ _ _ => trivial
  have h₁ : Run (step CsvText.crate CsvText.emptyObjectCodec) anyAction openedEmpty untilRead
      beforeRead := run_of_exec (hany _) rfl
  refine ⟨_, (h₁.trans (.single trivial (step_syncRead rfl beforeRead_parse))).trans
      (run_of_exec (hany _) rfl),
    ⟨fun id => ?_, rfl⟩, fun id hid => ?_, rfl, rfl, rfl⟩
  · match id with
    | 0 | 1 => exact .inr ⟨_, rfl⟩
    | n + 2 => exact .inl rfl
  · match id, hid with
    | 0, _ | 1, _ => rfl

end CsvState

end TrustRegistry
