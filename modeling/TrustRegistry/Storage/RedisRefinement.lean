import TrustRegistry.Storage.RecordLayout
import TrustRegistry.Storage.RedisScan

/-!
# The Redis backend as a table

Run by one caller at a time, over a server whose commands do not fail, the Redis
backend is a table of records by the string form of their keys.  The database may
have other keys: none of them is touched or listed, as long as they do not have the
prefix of the records.

## Main definitions

* `RedisStorage.layout` — where the records are.
* `RedisStorage.serving` — the backend over a server that answers a scan.
* `RedisStorage.Serves` — what is relied on of the answers to a scan.

## Main results

* `RedisStorage.mapBacked` — the operations are those of a table by string.
* `RedisStorage.answers_after_calls` — after any calls the backend answers from what was
  last written, and the other keys have what they had.
-/

namespace TrustRegistry

open KeyedTable

namespace RedisStorage

/-- A record is under the string form of its key, and every key with the prefix is
that of a record. -/
def layout : RecordLayout String where
  place k := k
  keyAt := prefixedKey
  key := recordSk
  encode := TrustRecord.toJson
  decode := TrustRecord.ofJson
  place_of_keyAt h := (prefixedKey_eq_some.mp h).1.symm
  decode_encode := TrustRecord.ofJson_toJson
  key_eq := recordSk_eq
  owns := prefixedKey_sk

/-- The records of the database are those that can be read. -/
theorem readable_eq_lookup (s : RedisStorage) : s.readable = layout.lookup s.keyspace := by
  funext k
  have howns : layout.Owns k ↔ trSkPrefix.toList.isPrefixOf k.toList = true := by
    show prefixedKey k = some k ↔ _
    simp [prefixedKey_eq_some]
  unfold readable CodedMap.Layout.lookup
  split
  · next h => exact (if_pos (howns.mpr h)).symm
  · next h => exact (if_neg fun hk => h (howns.mp hk)).symm

/-- Under the prefix there are records, each under its own string. -/
def Coded (s : RedisStorage) : Prop := layout.Coded s.keyspace

/-- The answers to a scan of a database in a state: what is promised of a scan, and
no key twice, as while the keyspace is not being resized. -/
structure Serves (scan : RedisStorage → List ScanReply) : Prop where
  contract : ∀ s, ScanContract s (scan s)
  once : ∀ s, (scannedKeys (scan s)).Nodup

/-- A server that does not fail, and answers a scan of the given state. -/
def servingIo (scan : RedisStorage → List ScanReply) (serdeError : Json → String)
    (s : RedisStorage) : RedisIo :=
  { RedisIo.up with pages := (scan s).map ScanReply.keys, serdeError }

/-- The backend over such a server. -/
def serving (scan : RedisStorage → List ScanReply) (serdeError : Json → String) :
    TrustRecordAdminRepository RedisStorage where
  findByQuery s := findByQuery (servingIo scan serdeError s) s
  create s := create (servingIo scan serdeError s) s
  update s := update (servingIo scan serdeError s) s
  delete s := delete (servingIo scan serdeError s) s
  list s := list (servingIo scan serdeError s) s
  read s := read (servingIo scan serdeError s) s

variable {scan : RedisStorage → List ScanReply} {serdeError : Json → String}

/-- What a command that looks at a key sees. -/
theorem Coded.get? {s : RedisStorage} (hs : s.Coded) (k : TrustRecordKey) :
    s.keyspace.get? k.sk = (s.readable k.sk).map TrustRecord.toJson := by
  rw [readable_eq_lookup]
  exact CodedMap.Layout.Coded.get? hs (layout.owns k)

theorem Coded.contains {s : RedisStorage} (hs : s.Coded) (k : TrustRecordKey) :
    s.keyspace.contains k.sk = (s.readable k.sk).isSome := by
  rw [readable_eq_lookup]
  exact RecordLayout.contains_place hs k

/-- The text that a change is refused with. -/
def refusalText : RecordChange → String
  | .create r => s!"Record already exists: {(TrustRecordKey.fromRecord r).hashed}"
  | .update r => s!"Record not found: {(TrustRecordKey.fromRecord r).hashed}"
  | .delete q => s!"Record not found: {(TrustRecordKey.fromQuery q).hashed}"

/-- **A change is made if it fits**, and refused with its tuple otherwise. -/
theorem call_eq {s : RedisStorage} (hs : s.Coded) (c : RecordChange) :
    (serving scan serdeError).call s c =
      if (c.change TrustRecordKey.sk).fits s.readable then
        (.ok (), ⟨layout.made s.keyspace c⟩)
      else (.error (c.refusal (refusalText c)), s) := by
  cases c with
  | create r =>
    show create (servingIo scan serdeError s) s r
      = if (s.readable (TrustRecordKey.fromRecord r).sk).isNone then _ else _
    simp only [create, servingIo, RedisIo.up, hs.contains]
    cases s.readable (TrustRecordKey.fromRecord r).sk <;> rfl
  | update r =>
    show update (servingIo scan serdeError s) s r
      = if (s.readable (TrustRecordKey.fromRecord r).sk).isSome then _ else _
    simp only [update, servingIo, RedisIo.up, hs.contains]
    cases s.readable (TrustRecordKey.fromRecord r).sk <;> rfl
  | delete q =>
    show delete (servingIo scan serdeError s) s q
      = if (s.readable (TrustRecordKey.fromQuery q).sk).isSome then _ else _
    simp only [delete, servingIo, RedisIo.up, hs.contains]
    cases s.readable (TrustRecordKey.fromQuery q).sk <;> rfl

/-- A listing has every record once. -/
theorem enumerates_list (hscan : Serves scan) (s : RedisStorage) :
    ∃ l, (serving scan serdeError).list s = .ok l ∧ Enumerates s.readable l := by
  have hiff := scan_enumerates_iff { RedisIo.up with serdeError } (hscan.contract s)
  obtain ⟨l, hl⟩ := hiff.1 rfl rfl
  refine ⟨l, ?_, (hiff.2 l hl).mpr ((hscan.once s).filter _)⟩
  have hup : ({ RedisIo.up with serdeError } : RedisIo).fails = fun _ => none := rfl
  exact list_of_scanLoop (congrFun hup .scan) (congrFun hup .get) (hscan.contract s) hl

/-- **The operations are those of a table by string.** -/
theorem mapBacked (hscan : Serves scan) :
    MapBacked (serving scan serdeError) TrustRecordKey.sk readable Coded := by
  refine .of_made (fun s c hs => call_eq hs c)
    (fun s c hs => RecordLayout.coded_made (L := layout) hs c) ?_ ?_ ?_ ?_
    (fun s _ => enumerates_list hscan s)
  · intro s c
    rw [readable_eq_lookup, readable_eq_lookup]
    exact RecordLayout.lookup_made c
  · intro s q hs
    show findByQuery (servingIo scan serdeError s) s q = _
    simp only [findByQuery, servingIo, RedisIo.up, hs.get?]
    cases s.readable (TrustRecordKey.fromQuery q).sk with
    | none => rfl
    | some r => simp [deserializeRecord, Except.map]
  · intro s q r hs hr
    show read (servingIo scan serdeError s) s q = _
    simp [read, servingIo, RedisIo.up, hs.get?, hr, deserializeRecord]
  · intro s q hs hr
    refine ⟨s!"Record not found: {(TrustRecordKey.fromQuery q).hashed}", ?_⟩
    show read (servingIo scan serdeError s) s q = _
    simp [read, servingIo, RedisIo.up, hs.get?, hr]

/-- A key without the prefix has after any calls what it had. -/
theorem get?_after_of_foreign {p : String} (hp : prefixedKey p = none)
    (calls : List RepositoryCall) : ∀ {s : RedisStorage}, s.Coded →
      ((serving scan serdeError).after s calls).keyspace.get? p = s.keyspace.get? p := by
  induction calls with
  | nil => exact fun _ => rfl
  | cons call calls ih =>
    intro s hs
    cases call with
    | change c =>
      have hcall := @call_eq scan serdeError s hs c
      have hnext : ((serving scan serdeError).next s (.change c)).Coded ∧
          ((serving scan serdeError).next s (.change c)).keyspace.get? p = s.keyspace.get? p := by
        show Coded ((serving scan serdeError).call s c).2 ∧
          ((serving scan serdeError).call s c).2.keyspace.get? p = _
        rw [hcall]
        split
        · exact ⟨RecordLayout.coded_made (L := layout) hs c,
            RecordLayout.get?_made_of_foreign (L := layout) hp c⟩
        · exact ⟨hs, rfl⟩
      exact (ih hnext.1).trans hnext.2
    | findByQuery q => exact ih hs
    | read q => exact ih hs
    | list => exact ih hs

/-- **After any calls the backend answers from what was last written** under the
string form of a key, over the records that were there, and every key without their
prefix has what it had. -/
theorem answers_after_calls (hscan : Serves scan) (serdeError : Json → String) {s : RedisStorage}
    (hs : s.Coded) (calls : List RepositoryCall) :
    MapAnswers (serving scan serdeError) TrustRecordKey.sk
      (fun k => lastWritten k (s.readable k)
        (accepted s.readable (recordChanges TrustRecordKey.sk calls)))
      ((serving scan serdeError).after s calls) ∧
    ∀ p, trSkPrefix.toList.isPrefixOf p.toList = false →
      ((serving scan serdeError).after s calls).keyspace.get? p = s.keyspace.get? p := by
  constructor
  · have hwritten : contents s.readable (recordChanges TrustRecordKey.sk calls) = fun k =>
        lastWritten k (s.readable k)
          (accepted s.readable (recordChanges TrustRecordKey.sk calls)) := by
      funext k
      exact contents_eq_lastWritten k _ _
    rw [← hwritten]
    exact ((mapBacked hscan).run hs calls).2
  · intro p hp
    refine get?_after_of_foreign ?_ calls hs
    rw [prefixedKey, hp, if_neg Bool.false_ne_true]

/-! ### A server that answers a scan with one page -/

/-- All keys with the prefix, in one page. -/
def onePage (s : RedisStorage) : List ScanReply :=
  [⟨0, (s.keyspace.entries.map Prod.fst).filter fun k =>
    trSkPrefix.toList.isPrefixOf k.toList⟩]

theorem serves_onePage : Serves onePage where
  contract s :=
    { ends := ⟨[], _, rfl, rfl, fun r hr => by cases hr⟩
      matching := by
        intro r hr key hkey
        obtain rfl := List.mem_singleton.mp hr
        exact (List.mem_filter.mp hkey).2
      complete := by
        intro key hkey hprefix
        obtain ⟨v, hv⟩ := AssocMap.contains_eq_true.mp hkey
        refine ⟨_, List.mem_singleton_self _, List.mem_filter.mpr ⟨?_, hprefix⟩⟩
        exact List.mem_map_of_mem (f := Prod.fst) (AssocMap.mem_entries_iff.mpr hv) }
  once s := by
    rw [scannedKeys, onePage, List.flatMap_cons, List.flatMap_nil, List.append_nil]
    exact s.keyspace.nodup.filter _

/-- A database that another program uses too, and a record that is created, read and
deleted in it. -/
theorem shared_database :
    let s : RedisStorage := ⟨AssocMap.empty.insert "session:7" .null⟩
    let calls : List RepositoryCall := [.change (.create issuerRecord), .read issuerRecord.query,
      .change (.delete issuerRecord.query)]
    MapAnswers (serving onePage fun _ => "") TrustRecordKey.sk
        (fun k => lastWritten k (s.readable k)
          (accepted s.readable (recordChanges TrustRecordKey.sk calls)))
        ((serving onePage fun _ => "").after s calls) ∧
      ((serving onePage fun _ => "").after s calls).keyspace.get? "session:7" = some .null := by
  intro s calls
  have hs : s.Coded := by
    refine CodedMap.Layout.coded_of_none fun p k hp => ?_
    have hne : p ≠ "session:7" := by
      rintro rfl
      revert hp
      exact nofun
    exact AssocMap.get?_insert_of_ne _ _ hne
  obtain ⟨hanswers, hforeign⟩ := answers_after_calls serves_onePage (fun _ => "") hs calls
  exact ⟨hanswers, (hforeign "session:7" (by decide)).trans rfl⟩

end RedisStorage

end TrustRegistry
