import TrustRegistry.Domain.Key

/-!
# Backends keyed by a text

What the backends that store records under the string form of their key have in
common: an operation for a tuple reads and changes one place of the store, the
place its key's string form names.  Whether two tuples stay apart is then a
matter of their string forms alone.

## Main definitions

* `TrustRecordAdminRepository.Isolates` — operations for other tuples neither
  see nor change the record of a given one.
* `StringKeyed` — each operation acts at the place of its tuple's string form.

## Main results

* `StringKeyed.isolates_of_hashFree`, `StringKeyed.hashFree_of_isolates` — such
  a backend isolates a tuple exactly when no part of it holds a `#`.
-/

namespace TrustRegistry

/-- The record of `k` is kept apart from the other tuples: storing it is not
seen by their queries, and neither their updates nor their deletions reach it. -/
structure TrustRecordAdminRepository.Isolates {σ : Type*} (R : TrustRecordAdminRepository σ)
    (k : TrustRecordKey) : Prop where
  query : ∀ s r q, TrustRecordKey.fromRecord r = k → TrustRecordKey.fromQuery q ≠ k →
    R.findByQuery (R.create s r).2 q = R.findByQuery s q
  update : ∀ s r, TrustRecordKey.fromRecord r ≠ k →
    R.findByQuery (R.update s r).2 k.query = R.findByQuery s k.query
  delete : ∀ s q, TrustRecordKey.fromQuery q ≠ k →
    R.findByQuery (R.delete s q).2 k.query = R.findByQuery s k.query

/-- Every operation acts at the place named by its tuple's string form. -/
structure StringKeyed {σ V : Type*} (R : TrustRecordAdminRepository σ)
    (view : σ → String → Option V) : Prop where
  find_congr : ∀ s s' q, view s' (TrustRecordKey.fromQuery q).sk
      = view s (TrustRecordKey.fromQuery q).sk → R.findByQuery s' q = R.findByQuery s q
  find_sk : ∀ s q q', (TrustRecordKey.fromQuery q').sk = (TrustRecordKey.fromQuery q).sk →
    R.findByQuery s q' = R.findByQuery s q
  create_frame : ∀ s r j, j ≠ (TrustRecordKey.fromRecord r).sk →
    view (R.create s r).2 j = view s j
  update_frame : ∀ s r j, j ≠ (TrustRecordKey.fromRecord r).sk →
    view (R.update s r).2 j = view s j
  delete_frame : ∀ s q j, j ≠ (TrustRecordKey.fromQuery q).sk →
    view (R.delete s q).2 j = view s j

namespace StringKeyed

variable {σ V : Type*} {R : TrustRecordAdminRepository σ} {view : σ → String → Option V}

/-- A tuple free of `#` is isolated: no other one has its string form. -/
theorem isolates_of_hashFree (hR : StringKeyed R view) {k : TrustRecordKey}
    (hk : k.HashFree) : R.Isolates k := by
  have hsk : ∀ k', k' ≠ k → k'.sk ≠ k.sk := fun k' hne h =>
    hne (TrustRecordKey.sk_determines_iff.mpr hk k' h)
  constructor
  · rintro s r q rfl hq
    exact hR.find_congr s _ q (hR.create_frame s r _ (hsk _ hq))
  · intro s r hr
    exact hR.find_congr s _ k.query (hR.update_frame s r _ (hsk _ hr).symm)
  · intro s q hq
    exact hR.find_congr s _ k.query (hR.delete_frame s q _ (hsk _ hq).symm)

/-- A record with a given key. -/
def sampleRecord (k : TrustRecordKey) : TrustRecord where
  entityId := k.entityId
  authorityId := k.authorityId
  action := k.action
  resource := k.resource
  recognized := some true
  authorized := some true
  context := Context.empty
  recordType := .authorization

/-- A backend that finds what it stores isolates no tuple with a `#`: it answers
the tuple's alias with the record. -/
theorem hashFree_of_isolates (hR : StringKeyed R view) {empty : σ} {k : TrustRecordKey}
    (hempty : ∀ q, R.findByQuery empty q = .ok none)
    (hcreated : ∀ r, R.findByQuery (R.create empty r).2 r.query = .ok (some r))
    (h : R.Isolates k) : k.HashFree := by
  refine TrustRecordKey.sk_determines_iff.mp fun k' hk' => ?_
  by_contra hne
  have hquery := h.query empty (sampleRecord k) k'.query rfl hne
  have halias := hR.find_sk (R.create empty (sampleRecord k)).2 (sampleRecord k).query k'.query hk'
  rw [hquery, hempty, hcreated] at halias
  simp at halias

end StringKeyed

end TrustRegistry
