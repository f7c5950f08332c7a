import TrustRegistry.Lib.KeyedTable
import TrustRegistry.Storage.RedisStorage

/-!
# Listing a Redis keyspace

A listing goes through the keyspace by `SCAN`: each reply has a cursor to go on
from, zero at the end, and a page of keys, which are looked up one after another.
The server promises that a key which is there all the time is in some page; it may
be in several, while the table of the keyspace is being resized.  Nothing in the
loop remembers the keys it has looked up.

## Main definitions

* `ScanReply`, `RedisStorage.scanLoop` — the replies, and the loop over them.
* `RedisStorage.ScanContract` — the replies a server may give.
* `RedisStorage.readable` — the records that are stored under the prefix.

## Main results

* `RedisStorage.scanLoop_ok` — the loop looks up the keys of all pages.
* `RedisStorage.scan_enumerates_iff` — when each record is listed once.
-/

namespace TrustRegistry

open KeyedTable

/-- A reply to `SCAN`: the cursor to go on from, and a page of keys. -/
structure ScanReply where
  cursor : ℕ
  keys : List String
  deriving DecidableEq

namespace RedisStorage

section

variable (io : RedisIo) (s : RedisStorage)

/-- Look up the keys of a page; a key that is gone and a value that does not decode
are passed over. -/
def collectPage : List String → List TrustRecord → Except RepositoryError (List TrustRecord)
  | [], records => .ok records
  | key :: keys, records =>
    match io.fails .get with
    | some e => .error (commandError .get e)
    | none =>
      match s.keyspace.get? key with
      | none => collectPage keys records
      | some data =>
        match deserializeRecord io data with
        | .ok record => collectPage keys (records ++ [record])
        | .error _ => collectPage keys records

/-- The loop of a listing; as long as the cursor is not zero it waits for another
reply. -/
def scanLoop : List ScanReply → List TrustRecord →
    Option (Except RepositoryError (List TrustRecord))
  | [], _ => none
  | reply :: replies, records =>
    match io.fails .scan with
    | some e => some (.error (commandError .scan e))
    | none =>
      match collectPage io s reply.keys records with
      | .error e => some (.error e)
      | .ok records => if reply.cursor = 0 then some (.ok records) else scanLoop replies records

/-- The record under a key of the prefix, if there is one that decodes. -/
def readable (key : String) : Option TrustRecord :=
  if trSkPrefix.toList.isPrefixOf key.toList then (s.keyspace.get? key).bind TrustRecord.ofJson
  else none

/-- The replies to a whole iteration over a keyspace that stays as it is: the cursor
is zero at the end and only there, the pages have keys of the prefix, and a key of
the keyspace is in one of them. -/
structure ScanContract (replies : List ScanReply) : Prop where
  ends : ∃ before last, replies = before ++ [last] ∧ last.cursor = 0 ∧ ∀ r ∈ before, r.cursor ≠ 0
  matching : ∀ r ∈ replies, ∀ key ∈ r.keys, trSkPrefix.toList.isPrefixOf key.toList = true
  complete : ∀ key, s.keyspace.contains key = true →
    trSkPrefix.toList.isPrefixOf key.toList = true → ∃ r ∈ replies, key ∈ r.keys

/-- The keys of all pages. -/
def scannedKeys (replies : List ScanReply) : List String := replies.flatMap ScanReply.keys

end

variable {io : RedisIo} {s : RedisStorage}

/-! ### What the loop collects -/

/-- A page adds the records of its keys, in their order. -/
theorem collectPage_ok {keys : List String} : ∀ {records l : List TrustRecord},
    collectPage io s keys records = .ok l → l = records ++
      keys.filterMap fun key => (s.keyspace.get? key).bind TrustRecord.ofJson := by
  induction keys with
  | nil =>
    intro records l h
    rw [List.filterMap_nil, List.append_nil]
    exact (Except.ok.inj h).symm
  | cons key keys ih =>
    intro records l h
    rw [collectPage] at h
    split at h
    · cases h
    · cases hkey : s.keyspace.get? key with
      | none =>
        rw [hkey] at h
        rw [List.filterMap_cons_none (by simp [hkey])]
        exact ih h
      | some data =>
        rw [hkey] at h
        dsimp only at h
        cases hdata : TrustRecord.ofJson data with
        | none =>
          rw [deserializeRecord, hdata] at h
          rw [List.filterMap_cons_none (by simp [hkey, hdata])]
          exact ih h
        | some record =>
          rw [deserializeRecord, hdata] at h
          rw [List.filterMap_cons_some (b := record) (by simp [hkey, hdata])]
          rw [ih h, List.append_assoc, List.singleton_append]

/-- A page is gone through when no look-up fails. -/
theorem exists_collectPage (hget : io.fails .get = none) (keys : List String) :
    ∀ records, ∃ l, collectPage io s keys records = .ok l := by
  induction keys with
  | nil => exact fun records => ⟨records, rfl⟩
  | cons key keys ih =>
    intro records
    rw [collectPage, hget]
    cases s.keyspace.get? key with
    | none => exact ih records
    | some data =>
      dsimp only
      cases deserializeRecord io data with
      | error e => exact ih records
      | ok record => exact ih (records ++ [record])

/-- **The loop looks up the keys of all pages**, up to the cursor zero. -/
theorem scanLoop_ok {last : ScanReply} (hlast : last.cursor = 0) {before : List ScanReply} :
    ∀ {records l : List TrustRecord}, (∀ r ∈ before, r.cursor ≠ 0) →
      scanLoop io s (before ++ [last]) records = some (.ok l) →
      l = records ++ (scannedKeys (before ++ [last])).filterMap fun key =>
        (s.keyspace.get? key).bind TrustRecord.ofJson := by
  induction before with
  | nil =>
    intro records l _ h
    rw [List.nil_append, scanLoop] at h
    split at h
    · cases h
    · split at h
      · cases h
      · next hpage =>
        rw [if_pos hlast] at h
        obtain rfl := Except.ok.inj (Option.some.inj h)
        rw [collectPage_ok hpage]
        simp [scannedKeys]
  | cons reply before ih =>
    intro records l hbefore h
    rw [List.cons_append, scanLoop] at h
    split at h
    · cases h
    · split at h
      · cases h
      · next hpage =>
        rw [if_neg (hbefore reply List.mem_cons_self)] at h
        rw [ih (fun r hr => hbefore r (List.mem_cons_of_mem _ hr)) h, collectPage_ok hpage]
        simp [scannedKeys, List.append_assoc]

/-- The loop ends when no command fails. -/
theorem exists_scanLoop (hscan : io.fails .scan = none) (hget : io.fails .get = none)
    {last : ScanReply} (hlast : last.cursor = 0) (before : List ScanReply) :
    ∀ records, ∃ l, scanLoop io s (before ++ [last]) records = some (.ok l) := by
  induction before with
  | nil =>
    intro records
    obtain ⟨l, hl⟩ := exists_collectPage (s := s) hget last.keys records
    exact ⟨l, by simp [scanLoop, hscan, hl, hlast]⟩
  | cons reply before ih =>
    intro records
    obtain ⟨l, hl⟩ := exists_collectPage (s := s) hget reply.keys records
    rw [List.cons_append, scanLoop, hscan]
    dsimp only
    rw [hl]
    dsimp only
    split
    · exact ⟨l, rfl⟩
    · exact ih l

/-- What is listed are the records of the keys of all pages. -/
theorem scanLoop_readable {replies : List ScanReply} (h : ScanContract s replies)
    {l : List TrustRecord} (hl : scanLoop io s replies [] = some (.ok l)) :
    l = (scannedKeys replies).filterMap s.readable := by
  obtain ⟨before, last, rfl, hlast, hbefore⟩ := h.ends
  rw [scanLoop_ok hlast hbefore hl, List.nil_append]
  refine List.filterMap_congr fun key hkey => ?_
  obtain ⟨r, hr, hkey⟩ := List.mem_flatMap.mp hkey
  rw [readable, if_pos (h.matching r hr key hkey)]

/-- It is what the operation of the backend answers. -/
theorem list_of_scanLoop (hscan : io.fails .scan = none) (hget : io.fails .get = none)
    {replies : List ScanReply} (h : ScanContract s replies) {l : List TrustRecord}
    (hl : scanLoop io s replies [] = some (.ok l)) :
    list { io with pages := replies.map ScanReply.keys } s = .ok l := by
  obtain ⟨before, last, rfl, hlast, hbefore⟩ := h.ends
  rw [scanLoop_ok hlast hbefore hl, List.nil_append, scannedKeys, List.flatMap_def]
  simp only [list, hscan, hget]

/-- **When a listing has each record once**: when no key that has a record is in the
pages twice. -/
theorem scan_enumerates_iff (io : RedisIo) {replies : List ScanReply} (h : ScanContract s replies) :
    (io.fails .scan = none → io.fails .get = none →
      ∃ l, scanLoop io s replies [] = some (.ok l)) ∧
    ∀ l, scanLoop io s replies [] = some (.ok l) →
      (Enumerates s.readable l ↔
        ((scannedKeys replies).filter fun key => (s.readable key).isSome).Nodup) := by
  constructor
  · intro hscan hget
    obtain ⟨before, last, rfl, hlast, -⟩ := h.ends
    exact exists_scanLoop hscan hget hlast before []
  · intro l hl
    rw [scanLoop_readable h hl]
    refine enumerates_filterMap_iff fun key record hkey => ?_
    unfold readable at hkey
    split at hkey
    · next hprefix =>
      obtain ⟨data, hdata, -⟩ := Option.bind_eq_some_iff.mp hkey
      obtain ⟨r, hr, hin⟩ := h.complete key (by simp [AssocMap.contains, hdata]) hprefix
      exact List.mem_flatMap.mpr ⟨r, hr, hin⟩
    · cases hkey

/-! ### A keyspace of one record -/

/-- A record. -/
def issuerRecord : TrustRecord where
  entityId := ⟨"did:web:e"⟩
  authorityId := ⟨"did:web:a"⟩
  action := ⟨"issue"⟩
  resource := ⟨"vc"⟩
  recognized := some true
  authorized := some true
  context := ⟨.obj []⟩
  recordType := .authorization

/-- Its key. -/
def issuerKey : String := "TR#did:web:a#issue#vc#did:web:e"

/-- A keyspace that has only this record. -/
def issuerKeyspace : RedisStorage := ⟨AssocMap.empty.insert issuerKey issuerRecord.toJson⟩

theorem readable_issuerKeyspace (key : String) :
    issuerKeyspace.readable key = if key = issuerKey then some issuerRecord else none := by
  unfold readable
  by_cases h : key = issuerKey
  · subst h
    rfl
  · simp [issuerKeyspace, AssocMap.get?_insert, h]

/-- Any pages that have the key keep the contract. -/
theorem issuer_contract {before : List ScanReply} {last : ScanReply} (hlast : last.cursor = 0)
    (hbefore : ∀ r ∈ before, r.cursor ≠ 0) (hkeys : ∀ key ∈ scannedKeys (before ++ [last]),
      key = issuerKey) (hmem : issuerKey ∈ scannedKeys (before ++ [last])) :
    issuerKeyspace.ScanContract (before ++ [last]) where
  ends := ⟨before, last, rfl, hlast, hbefore⟩
  matching r hr key hkey := by
    rw [hkeys key (List.mem_flatMap.mpr ⟨r, hr, hkey⟩)]
    decide
  complete key hkey _ := by
    have hissuer : key = issuerKey := by
      by_contra hne
      simp [issuerKeyspace, AssocMap.contains, AssocMap.get?_insert, hne] at hkey
    rw [hissuer]
    exact List.mem_flatMap.mp hmem

/-- The key is in two pages: the record is listed twice. -/
theorem listed_twice :
    let replies : List ScanReply := [⟨7, [issuerKey]⟩, ⟨0, [issuerKey]⟩]
    issuerKeyspace.ScanContract replies ∧
      scanLoop .up issuerKeyspace replies [] = some (.ok [issuerRecord, issuerRecord]) ∧
      ¬ Enumerates issuerKeyspace.readable [issuerRecord, issuerRecord] := by
  have hcontract : issuerKeyspace.ScanContract ([⟨7, [issuerKey]⟩] ++ [⟨0, [issuerKey]⟩]) :=
    issuer_contract rfl (by decide) (by decide) (by decide)
  refine ⟨hcontract, rfl, fun h => ?_⟩
  have hnodup := h.nodup fun k k' r hk hk' => by
    rw [readable_issuerKeyspace] at hk hk'
    split at hk
    · next heq =>
      split at hk'
      · next heq' => rw [heq, heq']
      · cases hk'
    · cases hk
  revert hnodup
  decide

/-- The key is in one page, between two empty ones: the record is listed once. -/
theorem listed_once :
    let replies : List ScanReply := [⟨7, []⟩, ⟨3, [issuerKey]⟩, ⟨0, []⟩]
    ∃ l, scanLoop .up issuerKeyspace replies [] = some (.ok l) ∧
      Enumerates issuerKeyspace.readable l := by
  intro replies
  have hcontract : issuerKeyspace.ScanContract ([⟨7, []⟩, ⟨3, [issuerKey]⟩] ++ [⟨0, []⟩]) :=
    issuer_contract rfl (by decide) (by decide) (by decide)
  have hscan := scan_enumerates_iff .up hcontract
  obtain ⟨l, hl⟩ := hscan.1 rfl rfl
  refine ⟨l, hl, (hscan.2 l hl).mpr ?_⟩
  simp [scannedKeys, readable_issuerKeyspace]

end RedisStorage

end TrustRegistry
