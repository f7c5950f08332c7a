import TrustRegistry.Lib.Transition
import TrustRegistry.Storage.CsvReload

/-!
# The CSV backend under concurrency

Any number of calls and the background sync task over one backend.  A call takes
the lock for its change, then for a snapshot of the records, and holds none while
it writes the file and reads the file's time back; a pass of the sync task reads
the file without a lock and then replaces all records.  Each of these is a step,
and the steps of different calls and of the sync task interleave freely.

Two counts that the program does not keep say how old things are: the number of
changes made to the records so far, and the number that had been made when the
snapshot in the file was taken.

## Main definitions

* `CsvState`, `CsvAction`, `CsvState.step` — the system.
* `CsvState.Opened` — the states the backend starts in.
* `FreshReplacement`, `OrderedWrites` — the conditions under which it behaves.
* `CsvState.Sound` — the invariant: what carries the newest count means the
  records.

## Main results

* `CsvState.sound_step` — the invariant is kept by every step that replaces the
  records by nothing older than they are.
-/

namespace TrustRegistry

open TrustRecordCsvRow Transition

/-! ### The system -/

/-- How far a call has come.  The version of a snapshot is the number of changes
it contains. -/
inductive CallPhase
  | idle
  | changed
  | snapshot (rows : List TrustRecord) (version : ℕ)
  | written
  | statted (modified : ℕ)
  | returned (result : Except RepositoryError Unit)

/-- How far the pass of the sync task has come. -/
inductive SyncPhase
  | idle
  | sawLast (previous : Option ℕ)
  | statted (modified : ℕ)
  | loaded (records : RecordMap) (modified version : ℕ)
  | replaced (modified : ℕ)

/-- The backend with the calls and the sync task in progress. -/
structure CsvState where
  records : RecordMap
  lastModified : Option ℕ
  file : CsvFile
  calls : ℕ → CallPhase
  sync : SyncPhase
  /-- the changes made so far, each with its call -/
  changes : List (ℕ × RecordChange)
  /-- the number of changes in the snapshot that the file holds -/
  fileVersion : ℕ

/-- The steps of the calls and of the sync task. -/
inductive CsvAction
  | change (id : ℕ) (c : RecordChange)
  | snapshot (id : ℕ)
  | write (id now : ℕ)
  | stat (id : ℕ)
  | store (id : ℕ)
  | syncReadLast
  | syncStat
  | syncRead
  | syncReplace
  | syncStore

namespace CsvState

/-- The number of changes made so far. -/
def version (s : CsvState) : ℕ := s.changes.length

/-- Call `id` goes on to `p`. -/
def setCall (s : CsvState) (id : ℕ) (p : CallPhase) : CsvState :=
  { s with calls := Function.update s.calls id p }

@[simp] theorem calls_setCall_self (s : CsvState) (id : ℕ) (p : CallPhase) :
    (s.setCall id p).calls id = p := by
  simp [setCall]

section

variable (csv : CsvCrate) (codec : ContextCodec)

/-- One step.  `none` is a step that is not there to be taken. -/
def step (s : CsvState) : CsvAction → Option CsvState
  | .change id c =>
    match s.calls id with
    | .idle =>
      match c.apply s.records with
      | .error e => some (s.setCall id (.returned (.error e)))
      | .ok m =>
        some { s.setCall id .changed with records := m, changes := s.changes ++ [(id, c)] }
    | _ => none
  | .snapshot id =>
    match s.calls id with
    | .changed => some (s.setCall id (.snapshot s.records.values s.version))
    | _ => none
  | .write id now =>
    match s.calls id with
    | .snapshot rows version =>
      match csv.serialize (rows.map (fromRecord codec)) with
      | .error e => some (s.setCall id (.returned (.error (.serializationFailed e))))
      | .ok text =>
        some { s.setCall id .written with file := ⟨text, now⟩, fileVersion := version }
    | _ => none
  | .stat id =>
    match s.calls id with
    | .written => some (s.setCall id (.statted s.file.modified))
    | _ => none
  | .store id =>
    match s.calls id with
    | .statted modified =>
      some { s.setCall id (.returned (.ok ())) with lastModified := some modified }
    | _ => none
  | .syncReadLast =>
    match s.sync with
    | .idle => some { s with sync := .sawLast s.lastModified }
    | _ => none
  | .syncStat =>
    match s.sync with
    | .sawLast previous =>
      if previous.any (s.file.modified ≤ ·) then some { s with sync := .idle }
      else some { s with sync := .statted s.file.modified }
    | _ => none
  | .syncRead =>
    match s.sync with
    | .statted modified =>
      match parseCsv csv codec (Trim.trim s.file.text) with
      | .error _ => some { s with sync := .idle }
      | .ok m => some { s with sync := .loaded m modified s.fileVersion }
    | _ => none
  | .syncReplace =>
    match s.sync with
    | .loaded m modified _ => some { s with records := m, sync := .replaced modified }
    | _ => none
  | .syncStore =>
    match s.sync with
    | .replaced modified => some { s with lastModified := some modified, sync := .idle }
    | _ => none

/-- Every way a step can go. -/
inductive Stepped (s : CsvState) : CsvAction → CsvState → Prop
  | refused {id : ℕ} {c : RecordChange} {e : RepositoryError} (hid : s.calls id = .idle)
      (happly : c.apply s.records = .error e) :
      Stepped s (.change id c) (s.setCall id (.returned (.error e)))
  | changed {id : ℕ} {c : RecordChange} {m : RecordMap} (hid : s.calls id = .idle)
      (happly : c.apply s.records = .ok m) :
      Stepped s (.change id c)
        { s.setCall id .changed with records := m, changes := s.changes ++ [(id, c)] }
  | snapshot {id : ℕ} (hid : s.calls id = .changed) :
      Stepped s (.snapshot id) (s.setCall id (.snapshot s.records.values s.version))
  | unwritten {id now version : ℕ} {rows : List TrustRecord} {e : String}
      (hid : s.calls id = .snapshot rows version)
      (hserialize : csv.serialize (rows.map (fromRecord codec)) = .error e) :
      Stepped s (.write id now) (s.setCall id (.returned (.error (.serializationFailed e))))
  | written {id now version : ℕ} {rows : List TrustRecord} {text : String}
      (hid : s.calls id = .snapshot rows version)
      (hserialize : csv.serialize (rows.map (fromRecord codec)) = .ok text) :
      Stepped s (.write id now)
        { s.setCall id .written with file := ⟨text, now⟩, fileVersion := version }
  | statted {id : ℕ} (hid : s.calls id = .written) :
      Stepped s (.stat id) (s.setCall id (.statted s.file.modified))
  | stored {id modified : ℕ} (hid : s.calls id = .statted modified) :
      Stepped s (.store id)
        { s.setCall id (.returned (.ok ())) with lastModified := some modified }
  | sawLast (hsync : s.sync = .idle) :
      Stepped s .syncReadLast { s with sync := .sawLast s.lastModified }
  | syncUnmodified {previous : Option ℕ} (hsync : s.sync = .sawLast previous) :
      Stepped s .syncStat { s with sync := .idle }
  | syncStatted {previous : Option ℕ} (hsync : s.sync = .sawLast previous) :
      Stepped s .syncStat { s with sync := .statted s.file.modified }
  | syncUnread {modified : ℕ} {e : String} (hsync : s.sync = .statted modified)
      (hparse : parseCsv csv codec (Trim.trim s.file.text) = .error e) :
      Stepped s .syncRead { s with sync := .idle }
  | syncLoaded {modified : ℕ} {m : RecordMap} (hsync : s.sync = .statted modified)
      (hparse : parseCsv csv codec (Trim.trim s.file.text) = .ok m) :
      Stepped s .syncRead { s with sync := .loaded m modified s.fileVersion }
  | syncReplaced {m : RecordMap} {modified version : ℕ}
      (hsync : s.sync = .loaded m modified version) :
      Stepped s .syncReplace { s with records := m, sync := .replaced modified }
  | syncStored {modified : ℕ} (hsync : s.sync = .replaced modified) :
      Stepped s .syncStore { s with lastModified := some modified, sync := .idle }

end

variable {csv : CsvCrate} {codec : ContextCodec}

/-- A step goes one of these ways. -/
theorem stepped_of_step {s s' : CsvState} {a : CsvAction} (h : s.step csv codec a = some s') :
    Stepped csv codec s a s' := by
  cases a with
  | change id c =>
    simp only [step] at h
    split at h
    · next hid =>
      split at h
      · next happly =>
        obtain rfl := Option.some.inj h
        exact .refused hid happly
      · next happly =>
        obtain rfl := Option.some.inj h
        exact .changed hid happly
    · cases h
  | snapshot id =>
    simp only [step] at h
    split at h
    · next hid =>
      obtain rfl := Option.some.inj h
      exact .snapshot hid
    · cases h
  | write id now =>
    simp only [step] at h
    split at h
    · next hid =>
      split at h
      · next hserialize =>
        obtain rfl := Option.some.inj h
        exact .unwritten hid hserialize
      · next hserialize =>
        obtain rfl := Option.some.inj h
        exact .written hid hserialize
    · cases h
  | stat id =>
    simp only [step] at h
    split at h
    · next hid =>
      obtain rfl := Option.some.inj h
      exact .statted hid
    · cases h
  | store id =>
    simp only [step] at h
    split at h
    · next hid =>
      obtain rfl := Option.some.inj h
      exact .stored hid
    · cases h
  | syncReadLast =>
    simp only [step] at h
    split at h
    · next hsync =>
      obtain rfl := Option.some.inj h
      exact .sawLast hsync
    · cases h
  | syncStat =>
    simp only [step] at h
    split at h
    · next hsync =>
      split at h
      · obtain rfl := Option.some.inj h
        exact .syncUnmodified hsync
      · obtain rfl := Option.some.inj h
        exact .syncStatted hsync
    · cases h
  | syncRead =>
    simp only [step] at h
    split at h
    · next hsync =>
      split at h
      · next hparse =>
        obtain rfl := Option.some.inj h
        exact .syncUnread hsync hparse
      · next hparse =>
        obtain rfl := Option.some.inj h
        exact .syncLoaded hsync hparse
    · cases h
  | syncReplace =>
    simp only [step] at h
    split at h
    · next hsync =>
      obtain rfl := Option.some.inj h
      exact .syncReplaced hsync
    · cases h
  | syncStore =>
    simp only [step] at h
    split at h
    · next hsync =>
      obtain rfl := Option.some.inj h
      exact .syncStored hsync
    · cases h

/-- The backend as the next call finds it. -/
def storage (s : CsvState) : FileStorage := ⟨s.records, s.lastModified, some s.file⟩

/-! ### The starting states and the conditions on steps -/

/-- The encoding loses no context among the records. -/
def LosslessOn (codec : ContextCodec) (rs : List TrustRecord) : Prop :=
  ∀ r ∈ rs, keepsContext r.context.value = true → codec.LosslessAt r.context.value

/-- The file has just been loaded, and nothing is in progress. -/
structure Opened (csv : CsvCrate) (codec : ContextCodec) (s : CsvState) : Prop where
  calls : ∀ id, s.calls id = .idle
  sync : s.sync = .idle
  changes : s.changes = []
  fileVersion : s.fileVersion = 0
  lossless : LosslessOn codec s.records.values
  file : parseCsv csv codec (Trim.trim s.file.text) = .ok s.records
  lastModified : s.lastModified = some s.file.modified

/-- Nothing is in progress. -/
structure Quiescent (s : CsvState) : Prop where
  calls : ∀ id, s.calls id = .idle ∨ ∃ result, s.calls id = .returned result
  sync : s.sync = .idle

/-- The encoding loses no context that the change brings in. -/
def LosslessChange (codec : ContextCodec) (c : RecordChange) : Prop :=
  LosslessOn codec c.result.toList

/-- **No replacement loses anything**: when the sync task replaces the records,
no change was made to them since the snapshot in the text it read, and all of
them can be kept in the file. -/
def FreshReplacement (codec : ContextCodec) (s : CsvState) : CsvAction → Prop
  | .change _ c => LosslessChange codec c
  | .syncReplace => (∀ m modified version, s.sync = .loaded m modified version →
      version = s.version) ∧ ∀ r ∈ s.records.values, Persistable r
  | _ => True

/-- **No writing goes back**: a snapshot is written only over one that is no
newer.  The sync task does not run, and the records changed can be kept in the
file. -/
def OrderedWrites (codec : ContextCodec) (s : CsvState) : CsvAction → Prop
  | .change _ c => LosslessChange codec c ∧ ∀ r ∈ c.result, Persistable r
  | .write id _ => ∀ rows version, s.calls id = .snapshot rows version → s.fileVersion ≤ version
  | .syncReadLast | .syncStat | .syncRead | .syncReplace | .syncStore => False
  | _ => True

/-- Only calls take steps. -/
def CallsOnly (_ : CsvState) : CsvAction → Prop
  | .syncReadLast | .syncStat | .syncRead | .syncReplace | .syncStore => False
  | _ => True

theorem FreshReplacement.of_orderedWrites {s : CsvState} {a : CsvAction}
    (h : OrderedWrites codec s a) : FreshReplacement codec s a := by
  cases a with
  | change id c => exact h.1
  | syncReplace => exact h.elim
  | _ => trivial

/-! ### The invariant -/

/-- Loaded records mean the records in memory, if these can be kept in a file. -/
def Presents (m loaded : RecordMap) : Prop :=
  (∀ r ∈ m.values, Persistable r) → m.SameMeaning loaded

/-- **What carries the newest count means the records**: the snapshot in the
file, those the calls are about to write, and what the sync task has loaded. -/
structure Sound (csv : CsvCrate) (codec : ContextCodec) (s : CsvState) : Prop where
  lossless : LosslessOn codec s.records.values
  file_le : s.fileVersion ≤ s.version
  file : s.fileVersion = s.version →
    ∃ m, parseCsv csv codec (Trim.trim s.file.text) = .ok m ∧ Presents s.records m
  snapshot : ∀ id rows version, s.calls id = .snapshot rows version →
    version ≤ s.version ∧ LosslessOn codec rows ∧
      (version = s.version → Presents s.records (RecordMap.ofRecords (rows.map reload)))
  loaded : ∀ m modified version, s.sync = .loaded m modified version →
    version ≤ s.version ∧ (version = s.version → Presents s.records m)

theorem Opened.sound {s : CsvState} (h : s.Opened csv codec) : s.Sound csv codec where
  lossless := h.lossless
  file_le := by simp [h.fileVersion]
  file _ := ⟨s.records, h.file, fun _ => .refl _⟩
  snapshot id rows version hid := by
    rw [h.calls id] at hid
    cases hid
  loaded m modified version hsync := by
    rw [h.sync] at hsync
    cases hsync

/-- Moving a call on, other than to a snapshot, adds no snapshot. -/
theorem calls_of_setCall {s : CsvState} {id : ℕ} {p : CallPhase}
    (hp : ∀ rows version, p ≠ .snapshot rows version) {id' : ℕ} {rows : List TrustRecord}
    {version : ℕ} (h : (s.setCall id p).calls id' = .snapshot rows version) :
    id' ≠ id ∧ s.calls id' = .snapshot rows version := by
  simp only [setCall, Function.update_apply] at h
  split at h
  · exact absurd h (hp rows version)
  · next hne => exact ⟨hne, h⟩

theorem Sound.setCall {s : CsvState} (hs : s.Sound csv codec) {id : ℕ} {p : CallPhase}
    (hp : ∀ rows version, p ≠ .snapshot rows version) : (s.setCall id p).Sound csv codec where
  lossless := hs.lossless
  file_le := hs.file_le
  file := hs.file
  snapshot id' rows version h := hs.snapshot id' rows version (calls_of_setCall hp h).2
  loaded := hs.loaded

theorem Sound.setSync {s : CsvState} (hs : s.Sound csv codec) {p : SyncPhase}
    (hp : ∀ m modified version, p ≠ .loaded m modified version) :
    ({ s with sync := p } : CsvState).Sound csv codec where
  lossless := hs.lossless
  file_le := hs.file_le
  file := hs.file
  snapshot := hs.snapshot
  loaded m modified version h := absurd h (hp m modified version)

/-- The modification time last seen says nothing about the records. -/
theorem Sound.setLastModified {s : CsvState} (hs : s.Sound csv codec) (t : Option ℕ) :
    ({ s with lastModified := t } : CsvState).Sound csv codec :=
  ⟨hs.lossless, hs.file_le, hs.file, hs.snapshot, hs.loaded⟩

/-- A change makes everything that was counted old. -/
theorem Sound.change {s : CsvState} (hs : s.Sound csv codec) (id : ℕ) {c : RecordChange}
    {m : RecordMap} (hc : LosslessChange codec c) (happly : c.apply s.records = .ok m) :
    ({ s.setCall id .changed with records := m, changes := s.changes ++ [(id, c)] } :
      CsvState).Sound csv codec := by
  have hversion : ({ s.setCall id .changed with records := m, changes := s.changes ++ [(id, c)] } :
      CsvState).version = s.version + 1 := by simp [version]
  constructor
  · intro r hr
    rcases RecordChange.mem_values_of_apply happly hr with hnew | hold
    · exact hc r (by simp [hnew])
    · exact hs.lossless r hold
  · rw [hversion]
    exact Nat.le_succ_of_le hs.file_le
  · -- the counts of what was written before are behind by one
    intro heq
    rw [hversion] at heq
    have := hs.file_le
    simp only [CsvState.setCall] at heq
    omega
  · intro id' rows version h
    obtain ⟨hle, hrows, _⟩ := hs.snapshot id' rows version
      (calls_of_setCall (fun _ _ => CallPhase.noConfusion) h).2
    rw [hversion]
    exact ⟨by omega, hrows, fun heq => by omega⟩
  · intro m' modified version h
    obtain ⟨hle, _⟩ := hs.loaded m' modified version h
    rw [hversion]
    exact ⟨by omega, fun heq => by omega⟩

/-- What is written from rows loads as the reloaded rows. -/
theorem parseCsv_of_serialize (hcsv : csv.Lossless) {rows : List TrustRecord}
    (hrows : LosslessOn codec rows) {text : String}
    (hserialize : csv.serialize (rows.map (fromRecord codec)) = .ok text) :
    parseCsv csv codec (Trim.trim text) = .ok (RecordMap.ofRecords (rows.map reload)) := by
  obtain ⟨text', hserialize', hparse⟩ := parseCsv_serialize hcsv hrows
  rw [hserialize] at hserialize'
  obtain rfl := Except.ok.inj hserialize'
  exact hparse

/-- What a permitted replacement brings in means the records it replaces. -/
theorem Sound.replacement {s : CsvState} (hs : s.Sound csv codec) {m : RecordMap}
    {modified version : ℕ} (hsync : s.sync = .loaded m modified version)
    (hok : FreshReplacement codec s .syncReplace) : s.records.SameMeaning m :=
  (hs.loaded m modified version hsync).2 (hok.1 m modified version hsync) hok.2

/-- **The invariant is kept by every step that replaces the records by nothing
older than they are.** -/
theorem sound_step (hcsv : csv.Lossless) {s s' : CsvState} {a : CsvAction}
    (hs : s.Sound csv codec) (hok : FreshReplacement codec s a)
    (hstep : s.step csv codec a = some s') : s'.Sound csv codec := by
  cases stepped_of_step hstep with
  | refused hid happly => exact hs.setCall fun _ _ => CallPhase.noConfusion
  | changed hid happly => exact hs.change _ hok happly
  | @snapshot id hid =>
    refine ⟨hs.lossless, hs.file_le, hs.file, fun id' rows version h => ?_, hs.loaded⟩
    simp only [setCall, Function.update_apply] at h
    split at h
    · -- the snapshot just taken
      obtain ⟨rfl, rfl⟩ := CallPhase.snapshot.inj h
      exact ⟨le_rfl, hs.lossless, fun _ => (ofRecords_reload_sameMeaning_iff s.records).mpr⟩
    · exact hs.snapshot id' rows version h
  | unwritten hid hserialize => exact hs.setCall fun _ _ => CallPhase.noConfusion
  | @written id now version rows text hid hserialize =>
    obtain ⟨hle, hrows, hpresents⟩ := hs.snapshot id rows version hid
    refine ⟨hs.lossless, hle, fun heq => ?_, fun id' rows' version' h => ?_, hs.loaded⟩
    · -- the file takes over the count of the snapshot, and what it says of it
      exact ⟨_, parseCsv_of_serialize hcsv hrows hserialize, hpresents heq⟩
    · exact hs.snapshot id' rows' version' (calls_of_setCall (fun _ _ => CallPhase.noConfusion) h).2
  | statted hid => exact hs.setCall fun _ _ => CallPhase.noConfusion
  | stored hid => exact (hs.setCall fun _ _ => CallPhase.noConfusion).setLastModified _
  | sawLast hsync => exact hs.setSync fun _ _ _ => SyncPhase.noConfusion
  | syncUnmodified hsync => exact hs.setSync fun _ _ _ => SyncPhase.noConfusion
  | syncStatted hsync => exact hs.setSync fun _ _ _ => SyncPhase.noConfusion
  | syncUnread hsync hparse => exact hs.setSync fun _ _ _ => SyncPhase.noConfusion
  | @syncLoaded modified m hsync hparse =>
    refine ⟨hs.lossless, hs.file_le, hs.file, hs.snapshot, fun m' modified' version h => ?_⟩
    -- what is loaded is what the file holds
    obtain ⟨rfl, rfl, rfl⟩ := SyncPhase.loaded.inj h
    refine ⟨hs.file_le, fun heq => ?_⟩
    obtain ⟨m₀, hm₀, hpresents⟩ := hs.file heq
    rw [hparse] at hm₀
    rwa [Except.ok.inj hm₀]
  | @syncReplaced m modified version hsync =>
    -- what was loaded means the records it replaces, so all that meant them means it
    have hsame := hs.replacement hsync hok
    have hpresents : ∀ m', Presents s.records m' → Presents m m' := fun m' h _ =>
      hsame.symm.trans (h hok.2)
    refine ⟨fun r hr => ?_, hs.file_le, fun heq => ?_, fun id' rows version h => ?_,
      fun m' modified version h => SyncPhase.noConfusion h⟩
    · obtain ⟨r₀, hr₀, hr⟩ := hsame.exists_of_mem hr
      rw [hr.context]
      exact hs.lossless r₀ hr₀
    · obtain ⟨m₀, hm₀, h⟩ := hs.file heq
      exact ⟨m₀, hm₀, hpresents m₀ h⟩
    · obtain ⟨hle, hrows, h'⟩ := hs.snapshot id' rows version h
      exact ⟨hle, hrows, fun heq => hpresents _ (h' heq)⟩
  | @syncStored modified hsync =>
    have hidle : ({ s with sync := .idle } : CsvState).Sound csv codec :=
      hs.setSync fun _ _ _ => SyncPhase.noConfusion
    exact hidle.setLastModified (some modified)

end CsvState

end TrustRegistry
