import Mathlib.Data.List.Infix
import TrustRegistry.Lib.Past
import TrustRegistry.Storage.RedisScan

/-!
# Listing a Redis keyspace that others write to

The lock of the connection keeps the calls of one process apart, but another process on
the same database does not wait for it.  A listing sends a command for each page and one
for each key, and between any two of them the keyspace may change.  Of a scan the server
then promises only the keys that are there from its beginning to its end.

## Main definitions

* `KeyspaceWrite` — a command by which another client changes the keyspace.
* `RedisListing`, `RedisListing.step` — a listing command by command, and the changes
  between the commands.
* `RedisListing.Promised` — what the server promises of the pages.

## Main results

* `RedisStorage.call_writes` — a call of the backend changes the keyspace by such a
  command.
* `RedisListing.run_scanLoop` — when nobody writes, a listing is the loop over the pages.
* `RedisListing.listed_stood` — what is listed was there at some moment, and what was
  there all the time is listed.
* `RedisListing.moved_record` — a listing with two records that were never there together.
-/

namespace TrustRegistry

open Transition

/-- A command by which another client changes the keyspace. -/
inductive KeyspaceWrite
  | set (key : String) (data : Json)
  | del (key : String)

/-- The keyspace after the command. -/
def KeyspaceWrite.apply (keyspace : AssocMap String Json) : KeyspaceWrite → AssocMap String Json
  | set key data => keyspace.insert key data
  | del key => keyspace.erase key

/-- A call of the backend changes the keyspace by one such command, if at all. -/
theorem RedisStorage.call_writes (io : RedisIo) (s : RedisStorage) (c : RecordChange) :
    ((repository io).call s c).2 = s ∨
      ∃ w : KeyspaceWrite, ((repository io).call s c).2 = ⟨w.apply s.keyspace⟩ := by
  cases c with
  | create r =>
    show (create io s r).2 = s ∨ ∃ w : KeyspaceWrite, (create io s r).2 = ⟨w.apply s.keyspace⟩
    unfold create
    split
    · exact .inl rfl
    · split
      · exact .inl rfl
      · split
        · exact .inl rfl
        · exact .inr ⟨.set _ _, rfl⟩
  | update r =>
    show (update io s r).2 = s ∨ ∃ w : KeyspaceWrite, (update io s r).2 = ⟨w.apply s.keyspace⟩
    unfold update
    split
    · exact .inl rfl
    · split
      · split
        · exact .inl rfl
        · exact .inr ⟨.set _ _, rfl⟩
      · exact .inl rfl
  | delete q =>
    show (delete io s q).2 = s ∨ ∃ w : KeyspaceWrite, (delete io s q).2 = ⟨w.apply s.keyspace⟩
    unfold delete
    split
    · exact .inl rfl
    · split
      · exact .inr ⟨.del _, rfl⟩
      · exact .inl rfl

/-- How far a listing has come: it is about to ask for a page, or to look up a key of
one, or it has returned. -/
inductive ListPhase
  | scanning (cursor : ℕ) (records : List TrustRecord)
  | looking (cursor : ℕ) (key : String) (keys : List String) (records : List TrustRecord)
  | returned (result : Except RepositoryError (List TrustRecord))

namespace ListPhase

/-- Go on with the keys of a page; after the last of them with the next page, and from
the cursor zero not at all. -/
def goOn (cursor : ℕ) (records : List TrustRecord) : List String → ListPhase
  | [] => if cursor = 0 then .returned (.ok records) else .scanning cursor records
  | key :: keys => .looking cursor key keys records

/-- The keys that are still to be looked up, and the records that have been read, unless
the listing has failed. -/
def progress : ListPhase → Option (List String × List TrustRecord)
  | scanning _ records => some ([], records)
  | looking _ key keys records => some (key :: keys, records)
  | returned (.ok records) => some ([], records)
  | returned (.error _) => none

/-- There is no further page. -/
def lastPage : ListPhase → Prop
  | scanning .. => False
  | looking cursor .. => cursor = 0
  | returned result => ∃ records, result = .ok records

theorem progress_goOn (cursor : ℕ) (records : List TrustRecord) (keys : List String) :
    (goOn cursor records keys).progress = some (keys, records) := by
  cases keys with
  | nil =>
    by_cases h : cursor = 0
    · simp [goOn, progress, h]
    · simp [goOn, progress, h]
  | cons key keys => rfl

theorem lastPage_goOn (cursor : ℕ) (records : List TrustRecord) (keys : List String) :
    (goOn cursor records keys).lastPage ↔ cursor = 0 := by
  cases keys with
  | nil =>
    by_cases h : cursor = 0
    · simp [goOn, lastPage, h]
    · simp [goOn, lastPage, h]
  | cons key keys => rfl

end ListPhase

/-- A database, a listing of it, and the keys that the server owes the listing: those
that have been there since it began, and in no page yet. -/
structure RedisListing where
  database : RedisStorage
  phase : ListPhase
  owed : List String

/-- Another client writes, or the listing gets the reply to its next command. -/
inductive ListingAction
  | write (w : KeyspaceWrite)
  | scan (reply : Except String ScanReply)
  | get (failure : Option String)

namespace RedisListing

/-- A listing that has sent no command. -/
def begun (database : RedisStorage) : RedisListing where
  database := database
  phase := .scanning 0 []
  owed := (database.keyspace.entries.map Prod.fst).filter fun key =>
    trSkPrefix.toList.isPrefixOf key.toList

/-- A key that is gone and a value that does not decode are passed over. -/
def collect (database : RedisStorage) (key : String) (records : List TrustRecord) :
    List TrustRecord :=
  match database.keyspace.get? key with
  | none => records
  | some data =>
    match TrustRecord.ofJson data with
    | some record => records ++ [record]
    | none => records

/-- The listing goes on. -/
def withPhase (s : RedisListing) (phase : ListPhase) : RedisListing := { s with phase }

/-- One command. -/
def step (s : RedisListing) : ListingAction → Option RedisListing
  | .write w =>
    let owed := match w with
      | .set .. => s.owed
      | .del key => s.owed.filter (· ≠ key)
    some { s with database := ⟨w.apply s.database.keyspace⟩, owed }
  | .scan reply =>
    match s.phase, reply with
    | .scanning .., .error e =>
      some (s.withPhase (.returned (.error (RedisStorage.commandError .scan e))))
    | .scanning _ records, .ok page =>
      some { s with
        phase := .goOn page.cursor records page.keys
        owed := s.owed.filter (· ∉ page.keys) }
    | _, _ => none
  | .get failure =>
    match s.phase, failure with
    | .looking .., some e =>
      some (s.withPhase (.returned (.error (RedisStorage.commandError .get e))))
    | .looking cursor key keys records, none =>
      some (s.withPhase (.goOn cursor (collect s.database key records) keys))
    | _, _ => none

/-- A page has keys of the prefix; the last one has all that are owed. -/
def Promised (s : RedisListing) : ListingAction → Prop
  | .scan (.ok page) =>
    (∀ key ∈ page.keys, trSkPrefix.toList.isPrefixOf key.toList = true) ∧
      (page.cursor = 0 → ∀ key ∈ s.owed, key ∈ page.keys)
  | _ => True

/-- The records that can be read. -/
def table (s : RedisListing) : String → Option TrustRecord := s.database.readable

/-! ### What a listing has gathered -/

/-- With some keys owed and some to be looked up: what has been read was there at one of
the moments, and of a key that was there at all of them a record has been read, if it is
none of these. -/
structure Gathered (past : RedisListing → Prop) (owed keys : List String)
    (records : List TrustRecord) : Prop where
  matching : ∀ key ∈ keys, trSkPrefix.toList.isPrefixOf key.toList = true
  listed : ∀ r ∈ records, ∃ key, Held past table key r
  covered : ∀ key, Filled past table key →
    key ∈ owed ∨ key ∈ keys ∨ ∃ r ∈ records, Held past table key r

namespace Gathered

variable {past past' : RedisListing → Prop} {owed keys : List String} {records : List TrustRecord}

theorem mono (hpast : ∀ u, past u → past' u) (h : Gathered past owed keys records) :
    Gathered past' owed keys records where
  matching := h.matching
  listed r hr := (h.listed r hr).imp fun _ hkey => hkey.mono hpast
  covered key hkey := by
    rcases h.covered key (hkey.anti hpast) with howed | hkeys | ⟨r, hr, hheld⟩
    · exact .inl howed
    · exact .inr (.inl hkeys)
    · exact .inr (.inr ⟨r, hr, hheld.mono hpast⟩)

/-- A key is looked up. -/
theorem look {s : RedisListing} {key : String} (h : Gathered past owed (key :: keys) records)
    (hs : past s) : Gathered past owed keys (collect s.database key records) := by
  have hprefix := h.matching key List.mem_cons_self
  have hcollect : collect s.database key records = records ++ (s.table key).toList := by
    rw [table, RedisStorage.readable, if_pos hprefix, collect]
    cases s.database.keyspace.get? key with
    | none => exact (List.append_nil _).symm
    | some data =>
      show (match TrustRecord.ofJson data with | some r => records ++ [r] | none => records)
        = records ++ (TrustRecord.ofJson data).toList
      cases TrustRecord.ofJson data with
      | none => exact (List.append_nil _).symm
      | some r => rfl
  rw [hcollect]
  refine ⟨fun k hk => h.matching k (List.mem_cons_of_mem _ hk), fun r hr => ?_, fun k hk => ?_⟩
  · rcases List.mem_append.mp hr with hr | hr
    · exact h.listed r hr
    · exact ⟨key, s, hs, Option.mem_toList.mp hr⟩
  · rcases h.covered k hk with howed | hkeys | ⟨r, hr, hheld⟩
    · exact .inl howed
    · rcases List.mem_cons.mp hkeys with rfl | hkeys
      · -- it is there now
        obtain ⟨r, hr⟩ := hk s hs
        exact .inr (.inr ⟨r, List.mem_append_right _ (Option.mem_toList.mpr hr), s, hs, hr⟩)
      · exact .inr (.inl hkeys)
    · exact .inr (.inr ⟨r, List.mem_append_left _ hr, hheld⟩)

/-- A page comes. -/
theorem page {page : List String} (h : Gathered past owed [] records)
    (hpage : ∀ key ∈ page, trSkPrefix.toList.isPrefixOf key.toList = true) :
    Gathered past (owed.filter (· ∉ page)) page records where
  matching := hpage
  listed := h.listed
  covered key hkey := by
    rcases h.covered key hkey with howed | hkeys | hread
    · by_cases hmem : key ∈ page
      · exact .inr (.inl hmem)
      · exact .inl (List.mem_filter.mpr ⟨howed, decide_eq_true hmem⟩)
    · cases hkeys
    · exact .inr (.inr hread)

/-- A key that is without a record at some moment need not be owed. -/
theorem disown {s : RedisListing} {key : String} (h : Gathered past owed keys records)
    (hs : past s) (hkey : s.table key = none) :
    Gathered past (owed.filter (· ≠ key)) keys records where
  matching := h.matching
  listed := h.listed
  covered k hk := by
    rcases h.covered k hk with howed | hread
    · refine .inl (List.mem_filter.mpr ⟨howed, decide_eq_true ?_⟩)
      rintro rfl
      obtain ⟨r, hr⟩ := hk s hs
      rw [hkey] at hr
      cases hr
    · exact .inr hread

end Gathered

/-- The invariant: as long as it has not failed a listing has gathered its records, and
after the last page nothing is owed. -/
structure Tracks (past : RedisListing → Prop) (s : RedisListing) : Prop where
  gathered : ∀ keys records, s.phase.progress = some (keys, records) →
    Gathered past s.owed keys records
  ended : s.phase.lastPage → s.owed = []

theorem begun_tracks (database : RedisStorage) : Tracks (· = begun database) (begun database) where
  gathered keys records h := by
    obtain ⟨rfl, rfl⟩ := Prod.mk.inj (Option.some.inj h)
    refine ⟨fun key hkey => (List.not_mem_nil hkey).elim, fun r hr => (List.not_mem_nil hr).elim,
      fun key hkey => .inl ?_⟩
    obtain ⟨r, hr⟩ := hkey _ rfl
    unfold table RedisStorage.readable at hr
    split at hr
    · next hprefix =>
      obtain ⟨data, hdata, -⟩ := Option.bind_eq_some_iff.mp hr
      refine List.mem_filter.mpr ⟨?_, hprefix⟩
      exact List.mem_map_of_mem (f := Prod.fst) (AssocMap.mem_entries_iff.mpr hdata)
    · cases hr
  ended h := h.elim

theorem Tracks.mono {past past' : RedisListing → Prop} {s : RedisListing}
    (hpast : ∀ u, past u → past' u) (h : Tracks past s) : Tracks past' s where
  gathered keys records hprogress := (h.gathered keys records hprogress).mono hpast
  ended := h.ended

/-- A deleted key is without a record. -/
theorem table_del (s : RedisListing) (key : String) (owed : List String) :
    table { s with database := ⟨s.database.keyspace.erase key⟩, owed } key = none := by
  unfold table RedisStorage.readable
  split
  · rw [AssocMap.get?_erase_self, Option.bind_none]
  · rfl

/-- A listing that goes on. -/
theorem tracks_goOn {past : RedisListing → Prop} {database : RedisStorage} {cursor : ℕ}
    {records : List TrustRecord} {owed keys : List String}
    (h : Gathered past owed keys records) (hended : cursor = 0 → owed = []) :
    Tracks past ⟨database, .goOn cursor records keys, owed⟩ where
  gathered keys' records' hprogress := by
    obtain ⟨rfl, rfl⟩ := Prod.mk.inj (Option.some.inj
      ((ListPhase.progress_goOn cursor records keys).symm.trans hprogress))
    exact h
  ended hlast := hended ((ListPhase.lastPage_goOn cursor records keys).mp hlast)

/-- A listing that has failed. -/
theorem tracks_failed {past : RedisListing → Prop} {database : RedisStorage}
    {e : RepositoryError} {owed : List String} :
    Tracks past ⟨database, .returned (.error e), owed⟩ where
  gathered _ _ h := by cases h
  ended h := by
    obtain ⟨_, h⟩ := h
    cases h

/-- **Every command keeps track.** -/
theorem tracks_step {past : RedisListing → Prop} {s s' : RedisListing} {a : ListingAction}
    (h : Tracks past s) (hpast : past s) (hok : Promised s a) (hstep : step s a = some s') :
    Tracks (fun u => past u ∨ u = s') s' := by
  have hmore : Tracks (fun u => past u ∨ u = s') s := h.mono fun _ => .inl
  cases a with
  | write w =>
    obtain rfl := Option.some.inj hstep
    cases w with
    | set key data => exact ⟨hmore.gathered, hmore.ended⟩
    | del key =>
      refine ⟨fun keys records hprogress => ?_, fun hlast => ?_⟩
      · exact (hmore.gathered keys records hprogress).disown (.inr rfl) (table_del s key _)
      · show s.owed.filter _ = []
        rw [h.ended hlast, List.filter_nil]
  | scan reply =>
    simp only [step] at hstep
    split at hstep
    · obtain rfl := Option.some.inj hstep
      exact tracks_failed
    · next cursor records page hphase =>
      obtain rfl := Option.some.inj hstep
      have hgathered := hmore.gathered [] records (by rw [hphase]; rfl)
      refine tracks_goOn (hgathered.page hok.1) fun hcursor => ?_
      exact List.filter_eq_nil_iff.mpr fun key hkey => by simpa using hok.2 hcursor key hkey
    · cases hstep
  | get failure =>
    simp only [step] at hstep
    split at hstep
    · obtain rfl := Option.some.inj hstep
      exact tracks_failed
    · next cursor key keys records hphase =>
      obtain rfl := Option.some.inj hstep
      have hgathered := hmore.gathered (key :: keys) records (by rw [hphase]; rfl)
      refine tracks_goOn (hgathered.look (.inl hpast)) fun hcursor => ?_
      exact h.ended (by rw [hphase]; exact hcursor)
    · cases hstep

/-! ### A keyspace that nobody writes to -/

/-- The keys of a page are looked up one after another. -/
theorem run_collectPage {database : RedisStorage} (cursor : ℕ) (owed : List String)
    {keys : List String} : ∀ {records l : List TrustRecord},
      RedisStorage.collectPage .up database keys records = .ok l →
      ∃ as, Run step Promised ⟨database, .goOn cursor records keys, owed⟩ as
        ⟨database, .goOn cursor l [], owed⟩ := by
  induction keys with
  | nil =>
    intro records l h
    obtain rfl := Except.ok.inj h
    exact ⟨[], .nil _⟩
  | cons key keys ih =>
    intro records l h
    have hpage : RedisStorage.collectPage .up database (key :: keys) records
        = RedisStorage.collectPage .up database keys (collect database key records) := by
      simp only [RedisStorage.collectPage, RedisIo.up, collect, RedisStorage.deserializeRecord]
      cases database.keyspace.get? key with
      | none => rfl
      | some data => cases hdata : TrustRecord.ofJson data <;> simp [hdata]
    obtain ⟨as, hrun⟩ := ih (hpage.symm.trans h)
    exact ⟨.get none :: as, .cons trivial rfl hrun⟩

/-- A page comes, and its keys are looked up. -/
theorem run_page {database : RedisStorage} {cursor : ℕ} {records l : List TrustRecord}
    {owed : List String} {page : ScanReply}
    (hok : Promised ⟨database, .scanning cursor records, owed⟩ (.scan (.ok page)))
    (h : RedisStorage.collectPage .up database page.keys records = .ok l) :
    ∃ as, Run step Promised ⟨database, .scanning cursor records, owed⟩ as
      ⟨database, .goOn page.cursor l [], owed.filter (· ∉ page.keys)⟩ := by
  obtain ⟨as, hrun⟩ := run_collectPage page.cursor (owed.filter (· ∉ page.keys)) h
  exact ⟨.scan (.ok page) :: as, .cons hok rfl hrun⟩

/-- The loop over the pages, with the keys owed in pages to come. -/
theorem run_scanLoop_from {database : RedisStorage} {last : ScanReply} (hlast : last.cursor = 0)
    {l : List TrustRecord} {before : List ScanReply} :
    ∀ (cursor : ℕ) (records : List TrustRecord) (owed : List String),
      (∀ r ∈ before, r.cursor ≠ 0) →
      (∀ r ∈ before ++ [last], ∀ key ∈ r.keys, trSkPrefix.toList.isPrefixOf key.toList = true) →
      (∀ key ∈ owed, ∃ r ∈ before ++ [last], key ∈ r.keys) →
      RedisStorage.scanLoop .up database (before ++ [last]) records = some (.ok l) →
      ∃ as t, Run step Promised ⟨database, .scanning cursor records, owed⟩ as t ∧
        t.database = database ∧ t.phase = .returned (.ok l) := by
  induction before with
  | nil =>
    intro cursor records owed _ hmatching howed h
    simp only [List.nil_append, RedisStorage.scanLoop] at h
    split at h
    · cases h
    · split at h
      · cases h
      · next hread =>
        rw [if_pos hlast] at h
        obtain rfl := Except.ok.inj (Option.some.inj h)
        have hok : Promised ⟨database, .scanning cursor records, owed⟩ (.scan (.ok last)) :=
          ⟨hmatching last (by simp), fun _ key hkey => by simpa using howed key hkey⟩
        obtain ⟨as, hrun⟩ := run_page hok hread
        exact ⟨as, _, hrun, rfl, if_pos hlast⟩
  | cons page before ih =>
    intro cursor records owed hbefore hmatching howed h
    have hpage : page.cursor ≠ 0 := hbefore page List.mem_cons_self
    simp only [List.cons_append, RedisStorage.scanLoop] at h
    split at h
    · cases h
    · split at h
      · cases h
      · next read hread =>
        rw [if_neg hpage] at h
        have hok : Promised ⟨database, .scanning cursor records, owed⟩ (.scan (.ok page)) :=
          ⟨hmatching page List.mem_cons_self, fun hzero => absurd hzero hpage⟩
        -- a key that is still owed is in a later page
        have hlater : ∀ key ∈ owed.filter (· ∉ page.keys),
            ∃ r ∈ before ++ [last], key ∈ r.keys := by
          intro key hkey
          obtain ⟨howe, hnot⟩ := List.mem_filter.mp hkey
          obtain ⟨r, hr, hin⟩ := howed key howe
          rcases List.mem_cons.mp hr with rfl | hr
          · exact absurd hin (of_decide_eq_true hnot)
          · exact ⟨r, hr, hin⟩
        obtain ⟨as, hrun⟩ := run_page hok hread
        obtain ⟨bs, t, hrest, ht⟩ := ih page.cursor read _
          (fun r hr => hbefore r (List.mem_cons_of_mem _ hr))
          (fun r hr => hmatching r (List.mem_cons_of_mem _ hr)) hlater h
        have hgo : ListPhase.goOn page.cursor read [] = .scanning page.cursor read := if_neg hpage
        rw [hgo] at hrun
        exact ⟨as ++ bs, t, hrun.trans hrest, ht⟩

/-- **When nobody writes, a listing is the loop over the pages.** -/
theorem run_scanLoop {database : RedisStorage} {replies : List ScanReply}
    (h : database.ScanContract replies) {l : List TrustRecord}
    (hl : RedisStorage.scanLoop .up database replies [] = some (.ok l)) :
    ∃ as t, Run step Promised (begun database) as t ∧ t.database = database ∧
      t.phase = .returned (.ok l) := by
  obtain ⟨before, last, rfl, hlast, hbefore⟩ := h.ends
  refine run_scanLoop_from hlast 0 [] _ hbefore h.matching (fun key hkey => ?_) hl
  obtain ⟨hkey, hprefix⟩ := List.mem_filter.mp hkey
  obtain ⟨e, he, rfl⟩ := List.mem_map.mp hkey
  refine h.complete e.1 ?_ hprefix
  exact AssocMap.contains_eq_true.mpr ⟨e.2, AssocMap.mem_entries_iff.mp he⟩

/-- **What is listed was there at some moment, and what was there all the time is
listed**, with a content that it had; however others write in between. -/
theorem listed_stood {database : RedisStorage} {as : List ListingAction} {t : RedisListing}
    (hrun : Run step Promised (begun database) as t) {l : List TrustRecord}
    (hreturned : t.phase = .returned (.ok l)) :
    (∀ r ∈ l, ∃ key, Held (Passed step Promised (begun database) as t) table key r) ∧
    ∀ key, Filled (Passed step Promised (begun database) as t) table key →
      ∃ r ∈ l, Held (Passed step Promised (begun database) as t) table key r := by
  have ht := hrun.passed_invariant (I := Tracks) Tracks.mono
    (fun _ _ _ _ h hpast hok hstep => tracks_step h hpast hok hstep) (begun_tracks database)
  have hgathered := ht.gathered [] l (by rw [hreturned]; rfl)
  have howed := ht.ended (by rw [hreturned]; exact ⟨l, rfl⟩)
  refine ⟨hgathered.listed, fun key hkey => ?_⟩
  rcases hgathered.covered key hkey with hmem | hmem | hread
  · rw [howed] at hmem
    cases hmem
  · cases hmem
  · exact hread

/-! ### A record that moves -/

/-- The record of another entity. -/
def recordFor (entityId : String) : TrustRecord :=
  { RedisStorage.issuerRecord with entityId := ⟨entityId⟩ }

/-- Its key. -/
def keyFor (entityId : String) : String := "TR#did:web:a#issue#vc#" ++ entityId

/-- A database with the records of two entities. -/
def pairKeyspace : RedisStorage :=
  ⟨(AssocMap.empty.insert (keyFor "did:web:e") (recordFor "did:web:e").toJson).insert
    (keyFor "did:web:g") (recordFor "did:web:g").toJson⟩

/-- After the first page another client deletes the record in it and writes that of a third
entity, which the second page has. -/
def moving : List ListingAction :=
  [.scan (.ok ⟨7, [keyFor "did:web:e"]⟩), .get none, .write (.del (keyFor "did:web:e")),
    .write (.set (keyFor "did:web:f") (recordFor "did:web:f").toJson),
    .scan (.ok ⟨0, [keyFor "did:web:f", keyFor "did:web:g"]⟩), .get none, .get none]

theorem run_moving : ∃ t, Run step Promised (begun pairKeyspace) moving t ∧
    t.phase = .returned (.ok [recordFor "did:web:e", recordFor "did:web:f",
      recordFor "did:web:g"]) := by
  refine ⟨_, .cons ⟨by decide, by decide⟩ rfl <| .cons trivial rfl <| .cons trivial rfl <|
    .cons trivial rfl <| .cons ⟨by decide, by decide⟩ rfl <| .cons trivial rfl <|
    .cons trivial rfl <| .nil _, rfl⟩

/-- The listing has all three records, each of which was there; the first and the second
never together, and the third, which nobody has touched, at all moments. -/
theorem moved_record : ∃ t l, Run step Promised (begun pairKeyspace) moving t ∧
    t.phase = .returned (.ok l) ∧
    l = [recordFor "did:web:e", recordFor "did:web:f", recordFor "did:web:g"] ∧
    (∀ r ∈ l, ∃ key, Held (Passed step Promised (begun pairKeyspace) moving t) table key r) ∧
    (∀ u, Passed step Promised (begun pairKeyspace) moving t u →
      u.table (keyFor "did:web:e") = none ∨ u.table (keyFor "did:web:f") = none) ∧
    ∃ r ∈ l, Held (Passed step Promised (begun pairKeyspace) moving t) table
      (keyFor "did:web:g") r := by
  obtain ⟨t, hrun, hreturned⟩ := run_moving
  have hmoments : ∀ p ∈ moving.inits, ∀ u ∈ exec step (begun pairKeyspace) p,
      (u.table (keyFor "did:web:e") = none ∨ u.table (keyFor "did:web:f") = none) ∧
        (u.table (keyFor "did:web:g")).isSome = true := by decide
  have hpassed : ∀ u, Passed step Promised (begun pairKeyspace) moving t u →
      (u.table (keyFor "did:web:e") = none ∨ u.table (keyFor "did:web:f") = none) ∧
        (u.table (keyFor "did:web:g")).isSome = true := by
    rintro u ⟨as₁, as₂, has, hfirst, -⟩
    exact hmoments as₁ ((List.mem_inits _ _).mpr ⟨as₂, has.symm⟩) u hfirst.exec_eq
  obtain ⟨hlisted, hcovered⟩ := listed_stood hrun hreturned
  exact ⟨t, _, hrun, hreturned, rfl, hlisted, fun u hu => (hpassed u hu).1,
    hcovered _ fun u hu => Option.isSome_iff_exists.mp (hpassed u hu).2⟩

end RedisListing

end TrustRegistry
