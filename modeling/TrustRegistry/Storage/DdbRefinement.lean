import TrustRegistry.Storage.DdbConflicts
import TrustRegistry.Storage.RecordLayout

/-!
# The table backend as a table

Run by one caller at a time, over a service that answers every request, the table
backend is a table of records by the string form of their keys.  A change that does
not fit is refused and does nothing, whatever the text of its error says; the items
of other partitions, and those of this one whose sort keys have another start, are
neither touched nor listed.

## Main definitions

* `DynamoDbStorage.layout` — where the records are.
* `DynamoDbStorage.records` — the records of the table by the string form of their keys.
* `DynamoDbStorage.Answers` — every operation answers from a table.

## Main results

* `DynamoDbStorage.call_eq_made` — a change is made if it fits, and refused otherwise.
* `DynamoDbStorage.enumerates_list` — a listing has every record once.
* `DynamoDbStorage.answers_after` — after any calls the backend answers from what
  was last written, and the other items are what they were.
-/

namespace TrustRegistry

open KeyedTable

namespace DynamoDbStorage

/-- A record is in the partition of the records, under the string form of its key. -/
def layout : RecordLayout (String × String) where
  place k := (TrustRecordKey.pk, k)
  keyAt p := if p.1 = TrustRecordKey.pk then prefixedKey p.2 else none
  key := recordSk
  encode := buildItem
  decode := TrustRecord.ofJson
  place_of_keyAt := by
    rintro ⟨pk, sk⟩ k h
    dsimp only at h
    split at h
    · next hpk =>
      obtain ⟨hsk, -⟩ := prefixedKey_eq_some.mp h
      rw [hpk, hsk]
    · cases h
  decode_encode := ofJson_buildItem
  key_eq := recordSk_eq
  owns k := by
    show (if TrustRecordKey.pk = TrustRecordKey.pk then prefixedKey k.sk else none) = some k.sk
    rw [if_pos rfl, prefixedKey_sk]

/-- The records of the table by the string form of their keys. -/
def records (s : DynamoDbStorage) : String → Option TrustRecord := layout.lookup s.items

/-- Where records are kept there are records, each under its own string. -/
def Coded (s : DynamoDbStorage) : Prop := layout.Coded s.items

variable {io : DynamoDbIo}

/-- What a request that looks at a key sees. -/
theorem Coded.get? {s : DynamoDbStorage} (hs : s.Coded) (k : TrustRecordKey) :
    s.items.get? (TrustRecordKey.pk, k.sk) = (s.records k.sk).map buildItem :=
  CodedMap.Layout.Coded.get? hs (layout.owns k)

/-- A change conflicts when it does not fit. -/
theorem Coded.conflicts_eq {s : DynamoDbStorage} (hs : s.Coded) (c : RecordChange) :
    s.conflicts c = !(c.change TrustRecordKey.sk).fits s.records := by
  have hcontains : ∀ k : TrustRecordKey, s.items.contains (TrustRecordKey.pk, k.sk)
      = (s.records k.sk).isSome := RecordLayout.contains_place hs
  cases c with
  | create r =>
    show s.items.contains _ = !(s.records (TrustRecordKey.fromRecord r).sk).isNone
    rw [Option.not_isNone]
    exact hcontains _
  | update r =>
    show (!s.items.contains _) = !(s.records (TrustRecordKey.fromRecord r).sk).isSome
    exact congrArg _ (hcontains _)
  | delete q =>
    show (!s.items.contains _) = !(s.records (TrustRecordKey.fromQuery q).sk).isSome
    exact congrArg _ (hcontains _)

/-- The change that is made is that of the layout. -/
theorem made_items (s : DynamoDbStorage) (c : RecordChange) :
    (s.made c).items = layout.made s.items c := by
  cases c <;> rfl

theorem Coded.made {s : DynamoDbStorage} (hs : s.Coded) (c : RecordChange) : (s.made c).Coded := by
  rw [Coded, made_items]
  exact RecordLayout.coded_made hs c

theorem records_made (s : DynamoDbStorage) (c : RecordChange) :
    (s.made c).records = Function.update s.records (c.change TrustRecordKey.sk).key
      (c.change TrustRecordKey.sk).result := by
  rw [records, made_items]
  exact RecordLayout.lookup_made c

/-- **A change is made if it fits**, and refused with its conflict, as far as the
text of the failed condition tells, otherwise. -/
theorem call_eq_made (hup : ∀ request, io.fails request = none) {s : DynamoDbStorage}
    (hs : s.Coded) (c : RecordChange) :
    (repository io).call s c =
      if (c.change TrustRecordKey.sk).fits s.records then (.ok (), s.made c)
      else (.error (writeError (conflictError c) c.verb io.conditionFailed), s) := by
  rw [call_eq_of_io, hup, hs.conflicts_eq]
  cases (c.change TrustRecordKey.sk).fits s.records <;> rfl

/-! ### Listings -/

/-- Items that all decode are collected. -/
theorem mapM_fromItem {l : List ((String × String) × Json)}
    (hl : ∀ e ∈ l, ∃ r, TrustRecord.ofJson e.2 = some r) :
    (l.mapM fun e => fromItem io e.2) = .ok (l.filterMap fun e => TrustRecord.ofJson e.2) := by
  induction l with
  | nil => rfl
  | cons e l ih =>
    obtain ⟨r, hr⟩ := hl e List.mem_cons_self
    have hrest := ih fun e' he' => hl e' (List.mem_cons_of_mem _ he')
    have he : fromItem io e.2 = .ok r := by rw [fromItem, hr]
    rw [List.mapM_cons, he, hrest]
    simp only [List.filterMap_cons, hr]
    rfl

/-- The items of a listing are those where records are kept. -/
theorem keyAt_isSome (e : (String × String) × Json) :
    (decide (e.1.1 = TrustRecordKey.pk) && trSkPrefix.toList.isPrefixOf e.1.2.toList)
      = (layout.keyAt e.1).isSome := by
  show _ = (if e.1.1 = TrustRecordKey.pk then prefixedKey e.1.2 else none).isSome
  by_cases hpk : e.1.1 = TrustRecordKey.pk
  · rw [if_pos hpk, decide_eq_true hpk, Bool.true_and, prefixedKey]
    split
    · next h => rw [h, Option.isSome_some]
    · next h => rw [eq_false_of_ne_true h, Option.isSome_none]
  · rw [if_neg hpk, decide_eq_false hpk, Bool.false_and, Option.isSome_none]

/-- **A listing has every record once**, and no item fails it. -/
theorem enumerates_list (hup : ∀ request, io.fails request = none) {s : DynamoDbStorage}
    (hs : s.Coded) : ∃ l, list io s = .ok l ∧ Enumerates s.records l := by
  refine ⟨s.items.entries.filterMap layout.valueAt, ?_, CodedMap.Layout.enumerates_lookup⟩
  have hlisted : (s.items.entries.filter fun e =>
      e.1.1 = TrustRecordKey.pk && trSkPrefix.toList.isPrefixOf e.1.2.toList)
        = s.items.entries.filter fun e => (layout.keyAt e.1).isSome :=
    List.filter_congr fun e _ => keyAt_isSome e
  unfold list
  rw [hup]
  dsimp only
  rw [hlisted, mapM_fromItem]
  · rw [List.filterMap_filter]
    refine congrArg Except.ok (List.filterMap_congr fun e _ => ?_)
    show _ = (layout.keyAt e.1).bind fun _ => layout.decode e.2
    cases layout.keyAt e.1 <;> rfl
  · intro e he
    obtain ⟨hmem, hkey⟩ := List.mem_filter.mp he
    obtain ⟨k, hk⟩ := Option.isSome_iff_exists.mp hkey
    obtain ⟨r, hr, -⟩ := hs e.1 k e.2 hk (AssocMap.mem_entries_iff.mp hmem)
    exact ⟨r, by rw [hr]; exact ofJson_buildItem r⟩

/-! ### The table -/

/-- In a state every operation answers from the table `m`; a change that does not fit
is refused with its conflict, as far as the text of the failed condition tells. -/
structure Answers (io : DynamoDbIo) (m : String → Option TrustRecord) (s : DynamoDbStorage) :
    Prop where
  find : ∀ q, findByQuery io s q = .ok (m (TrustRecordKey.fromQuery q).sk)
  read : ∀ q, DynamoDbStorage.read io s q = match m (TrustRecordKey.fromQuery q).sk with
    | some r => .ok r
    | none => .error (notFound (.fromQuery q))
  change : ∀ c, ((repository io).call s c).1 =
    if (c.change TrustRecordKey.sk).fits m then .ok ()
    else .error (writeError (conflictError c) c.verb io.conditionFailed)
  list : ∃ l, DynamoDbStorage.list io s = .ok l ∧ Enumerates m l

theorem Coded.answers (hup : ∀ request, io.fails request = none) {s : DynamoDbStorage}
    (hs : s.Coded) : s.Answers io s.records where
  find q := by
    unfold findByQuery
    rw [hup]
    dsimp only
    rw [buildKey, hs.get?]
    cases s.records (TrustRecordKey.fromQuery q).sk with
    | none => rfl
    | some r => simp [fromItem, ofJson_buildItem, Except.map]
  read q := by
    unfold DynamoDbStorage.read
    rw [hup]
    dsimp only
    rw [buildKey, hs.get?]
    cases s.records (TrustRecordKey.fromQuery q).sk with
    | none => rfl
    | some r => simp [fromItem, ofJson_buildItem]
  change c := by
    rw [call_eq_made hup hs]
    split <;> rfl
  list := enumerates_list hup hs

/-- The calls are changes of the table, or none, and leave the other items alone. -/
theorem refinement (hup : ∀ request, io.fails request = none) :
    Refinement (repository io).next
      (fun c => c.recordChange.map (RecordChange.change TrustRecordKey.sk)) records Coded where
  inv s c hs := by
    cases c with
    | change c =>
      show Coded ((repository io).call s c).2
      rw [call_eq_made hup hs]
      split
      · exact hs.made c
      · exact hs
    | findByQuery q => exact hs
    | read q => exact hs
    | list => exact hs
  lookup s c hs := by
    cases c with
    | change c =>
      show records ((repository io).call s c).2 = (c.change TrustRecordKey.sk).apply s.records
      rw [call_eq_made hup hs, Change.apply]
      split
      · exact records_made s c
      · rfl
    | findByQuery q => rfl
    | read q => rfl
    | list => rfl

/-- An item that is no record's is after any calls what it was. -/
theorem get?_after_of_foreign (hup : ∀ request, io.fails request = none) {p : String × String}
    (hp : layout.keyAt p = none) (calls : List RepositoryCall) : ∀ {s : DynamoDbStorage}, s.Coded →
      ((repository io).after s calls).items.get? p = s.items.get? p := by
  induction calls with
  | nil => exact fun _ => rfl
  | cons call calls ih =>
    intro s hs
    refine (ih ((refinement hup).inv s call hs)).trans ?_
    cases call with
    | change c =>
      show ((repository io).call s c).2.items.get? p = _
      rw [call_eq_made hup hs]
      split
      · show (s.made c).items.get? p = _
        rw [made_items]
        exact RecordLayout.get?_made_of_foreign hp c
      · rfl
    | findByQuery q => rfl
    | read q => rfl
    | list => rfl

end DynamoDbStorage

end TrustRegistry
