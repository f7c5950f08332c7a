import TrustRegistry.Storage.FjallStorage
import TrustRegistry.Storage.MapBacked

/-!
# The embedded backend as a table

Run by one caller at a time and without failures of the store, the embedded backend
is a table of records by the string form of their keys: what is written under a
string decodes again, to the record that was written, and every string that can be
written under has the prefix that a listing goes by.

## Main definitions

* `FjallIo.working` — a store that does not fail.
* `FjallStorage.Coded` — every value is the JSON form of a record, under its own
  string.
* `FjallStorage.written` — the record that calls have last written under a string.

## Main results

* `FjallStorage.enumerates_list` — a listing has every record once.
* `FjallStorage.mapBacked` — the operations are those of a table by string.
* `FjallStorage.refines_map` — after any calls the backend answers from what was
  last written.
-/

namespace TrustRegistry

open KeyedTable

/-- A store that does not fail. -/
def FjallIo.working (serdeError : Json → String) : FjallIo := { FjallIo.up with serdeError }

namespace FjallStorage

/-- Every value is the JSON form of a record, under the string form of its key. -/
def Coded (s : FjallStorage) : Prop :=
  ∀ k v, s.keyspace.get? k = some v →
    ∃ r : TrustRecord, v = r.toJson ∧ (TrustRecordKey.fromRecord r).sk = k

/-- The record under a string. -/
def decoded (s : FjallStorage) (k : String) : Option TrustRecord :=
  (s.keyspace.get? k).bind TrustRecord.ofJson

theorem coded_new : Coded new := by
  intro k v h
  cases h

theorem decoded_new : decoded new = fun _ => none := rfl

/-- The value under a string, by the record that it decodes to. -/
theorem Coded.get? {s : FjallStorage} (hs : s.Coded) (k : String) :
    s.keyspace.get? k = (s.decoded k).map TrustRecord.toJson := by
  unfold decoded
  cases h : s.keyspace.get? k with
  | none => rfl
  | some v =>
    obtain ⟨r, rfl, _⟩ := hs k v h
    simp

/-- A record stands under the string form of its own key. -/
theorem Coded.keyed {s : FjallStorage} (hs : s.Coded) {k : String} {r : TrustRecord}
    (h : s.decoded k = some r) : (TrustRecordKey.fromRecord r).sk = k := by
  rw [decoded] at h
  obtain ⟨v, hv, hr⟩ := Option.bind_eq_some_iff.mp h
  obtain ⟨r', rfl, hkey⟩ := hs k v hv
  rw [TrustRecord.ofJson_toJson] at hr
  obtain rfl := Option.some.inj hr
  exact hkey

/-- The keyspace after a change has been made. -/
def made (s : FjallStorage) : RecordChange → FjallStorage
  | .create r | .update r => ⟨s.keyspace.insert (TrustRecordKey.fromRecord r).sk r.toJson⟩
  | .delete q => ⟨s.keyspace.erase (TrustRecordKey.fromQuery q).sk⟩

theorem Coded.insert {s : FjallStorage} (hs : s.Coded) (r : TrustRecord) :
    Coded ⟨s.keyspace.insert (TrustRecordKey.fromRecord r).sk r.toJson⟩ := by
  intro k v h
  rw [AssocMap.get?_insert] at h
  split at h
  · next hk =>
    obtain rfl := Option.some.inj h
    exact ⟨r, rfl, hk.symm⟩
  · exact hs k v h

theorem Coded.erase {s : FjallStorage} (hs : s.Coded) (j : String) :
    Coded ⟨s.keyspace.erase j⟩ := by
  intro k v h
  rw [AssocMap.get?_erase] at h
  split at h
  · cases h
  · exact hs k v h

theorem Coded.made {s : FjallStorage} (hs : s.Coded) (c : RecordChange) : (s.made c).Coded := by
  cases c with
  | create r => exact hs.insert r
  | update r => exact hs.insert r
  | delete q => exact hs.erase _

theorem decoded_made (s : FjallStorage) (c : RecordChange) :
    (s.made c).decoded = Function.update s.decoded (c.change TrustRecordKey.sk).key
      (c.change TrustRecordKey.sk).result := by
  have hinsert : ∀ (r : TrustRecord) k,
      decoded ⟨s.keyspace.insert (TrustRecordKey.fromRecord r).sk r.toJson⟩ k =
        if k = (TrustRecordKey.fromRecord r).sk then some r else s.decoded k := by
    intro r k
    unfold decoded
    rw [AssocMap.get?_insert]
    split
    · exact TrustRecord.ofJson_toJson r
    · rfl
  funext k
  rw [Function.update_apply]
  cases c with
  | create r => exact hinsert r k
  | update r => exact hinsert r k
  | delete q =>
    show decoded ⟨s.keyspace.erase (TrustRecordKey.fromQuery q).sk⟩ k =
      if k = (TrustRecordKey.fromQuery q).sk then none else s.decoded k
    unfold decoded
    rw [AssocMap.get?_erase]
    split <;> rfl

variable {serdeError : Json → String}

/-- **A change is made if it fits**, and refused with its string otherwise. -/
theorem call_eq {s : FjallStorage} (hs : s.Coded) (c : RecordChange) :
    (repository (.working serdeError)).call s c =
      if (c.change TrustRecordKey.sk).fits s.decoded then (.ok (), s.made c)
      else (.error (c.refusal (c.change TrustRecordKey.sk).key), s) := by
  cases c with
  | create r =>
    show create (.working serdeError) s r
      = if (s.decoded (TrustRecordKey.fromRecord r).sk).isNone then _ else _
    simp only [create, FjallIo.working, FjallIo.up, AssocMap.contains, hs.get?]
    cases s.decoded (TrustRecordKey.fromRecord r).sk <;> rfl
  | update r =>
    show update (.working serdeError) s r
      = if (s.decoded (TrustRecordKey.fromRecord r).sk).isSome then _ else _
    simp only [update, FjallIo.working, FjallIo.up, AssocMap.contains, hs.get?]
    cases s.decoded (TrustRecordKey.fromRecord r).sk <;> rfl
  | delete q =>
    show delete (.working serdeError) s q
      = if (s.decoded (TrustRecordKey.fromQuery q).sk).isSome then _ else _
    simp only [delete, FjallIo.working, FjallIo.up, AssocMap.contains, hs.get?]
    cases s.decoded (TrustRecordKey.fromQuery q).sk <;> rfl

/-! ### Listings -/

/-- Every string form has the prefix that a listing goes by. -/
theorem isPrefixOf_sk (k : TrustRecordKey) : trSkPrefix.toList.isPrefixOf k.sk.toList = true := by
  rw [List.isPrefixOf_iff_prefix, TrustRecordKey.sk]
  simp only [String.toList_append, List.append_assoc]
  exact List.prefix_append _ _

/-- **A listing has every record once**, and skips none. -/
theorem enumerates_list (serdeError : Json → String) {s : FjallStorage} (hs : s.Coded) :
    ∃ l, list (.working serdeError) s = .ok l ∧ Enumerates s.decoded l := by
  have hcoded : ∀ e ∈ s.keyspace.entries, ∃ r : TrustRecord,
      e.2 = r.toJson ∧ (TrustRecordKey.fromRecord r).sk = e.1 := fun e he =>
    hs e.1 e.2 (AssocMap.mem_entries_iff.mp he)
  have hlisted : (s.keyspace.entries.filter fun e => trSkPrefix.toList.isPrefixOf e.1.toList)
      = s.keyspace.entries := by
    refine List.filter_eq_self.mpr fun e he => ?_
    obtain ⟨r, _, hk⟩ := hcoded e he
    rw [← hk]
    exact isPrefixOf_sk _
  refine ⟨s.keyspace.entries.filterMap fun e => TrustRecord.ofJson e.2, ?_, ?_⟩
  · show Except.ok ((s.keyspace.entries.filter fun e =>
      trSkPrefix.toList.isPrefixOf e.1.toList).filterMap fun e => TrustRecord.ofJson e.2) = _
    rw [hlisted]
  · refine ⟨s.keyspace.entries.filterMap fun e => (TrustRecord.ofJson e.2).map (e.1, ·), ?_, ?_, ?_⟩
    · -- no entry is skipped, so the strings are the keys of the keyspace
      have hkeys : (s.keyspace.entries.filterMap fun e =>
          (TrustRecord.ofJson e.2).map (e.1, ·)).map Prod.fst = s.keyspace.entries.map Prod.fst := by
        rw [List.map_filterMap, ← List.filterMap_eq_map]
        refine List.filterMap_congr fun e he => ?_
        obtain ⟨r, hr, _⟩ := hcoded e he
        simp [hr]
      rw [hkeys]
      exact s.keyspace.nodup
    · intro k r
      rw [List.mem_filterMap, decoded]
      constructor
      · rintro ⟨⟨j, v⟩, he, hr⟩
        obtain ⟨r', hr', heq⟩ := Option.map_eq_some_iff.mp hr
        obtain ⟨rfl, rfl⟩ := Prod.mk.inj heq
        rw [AssocMap.mem_entries_iff.mp he]
        exact hr'
      · intro h
        obtain ⟨v, hv, hr⟩ := Option.bind_eq_some_iff.mp h
        exact ⟨(k, v), AssocMap.mem_entries_iff.mpr hv, by simp [hr]⟩
    · simp [List.map_filterMap, Function.comp_def]

/-! ### The table -/

/-- **The operations are those of a table by string.** -/
theorem mapBacked :
    MapBacked (repository (.working serdeError)) TrustRecordKey.sk decoded Coded := by
  refine .of_made (fun s c hs => call_eq hs c) (fun s c hs => hs.made c) decoded_made ?_ ?_ ?_
    (fun s hs => enumerates_list serdeError hs)
  · intro s q hs
    show findByQuery (.working serdeError) s q = _
    simp only [findByQuery, FjallIo.working, FjallIo.up, hs.get?]
    cases s.decoded (TrustRecordKey.fromQuery q).sk with
    | none => rfl
    | some r => simp [deserialize, Except.map]
  · intro s q r hs hr
    show read (.working serdeError) s q = _
    simp [read, FjallIo.working, FjallIo.up, hs.get?, hr, deserialize]
  · intro s q hs hr
    refine ⟨(TrustRecordKey.fromQuery q).sk, ?_⟩
    show read (.working serdeError) s q = _
    simp [read, FjallIo.working, FjallIo.up, hs.get?, hr]

/-- The record that calls have last written under a string. -/
def written (calls : List RepositoryCall) (k : String) : Option TrustRecord :=
  lastWritten k none (accepted (fun _ => none) (recordChanges TrustRecordKey.sk calls))

/-- **After any calls the backend answers from what was last written** under the
string form of a key: a creation is refused exactly when there is a record, an
update, a deletion and a reading exactly when there is none, what is found and read
is the record itself, and a listing has each record once. -/
theorem refines_map (serdeError : Json → String) (calls : List RepositoryCall) :
    MapAnswers (repository (.working serdeError)) TrustRecordKey.sk (written calls)
      ((repository (.working serdeError)).after new calls) := by
  have hwritten : contents (fun _ => none) (recordChanges TrustRecordKey.sk calls)
      = written calls := by
    funext k
    exact contents_eq_lastWritten k _ _
  have hrun : MapAnswers (repository (.working serdeError)) TrustRecordKey.sk
      (contents (decoded new) (recordChanges TrustRecordKey.sk calls))
      ((repository (.working serdeError)).after new calls) := (mapBacked.run coded_new calls).2
  rwa [decoded_new, hwritten] at hrun

end FjallStorage

end TrustRegistry
