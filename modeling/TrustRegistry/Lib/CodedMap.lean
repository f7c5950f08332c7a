import TrustRegistry.Lib.KeyedTable

/-!
# Tables in part of a store

A store that a table shares with others: the table keeps its values, encoded, at
places of its own, each the place of one key, and what the store has at the other
places is none of its business.

## Main definitions

* `Layout` — where a table keeps its values, and how.
* `Layout.lookup` — the table that a store holds.
* `Layout.Coded` — at the places of the table there are encoded values only, each
  under its own key.

## Main results

* `Layout.lookup_insert`, `Layout.lookup_erase` — what a change of the store does to
  the table.
* `Layout.Coded.get?` — a place of the table has what its key has, encoded.
* `Layout.enumerates_lookup` — going through the store lists the table.
-/

namespace CodedMap

open KeyedTable

/-- Where a table keeps the value of a key, which key a place is of, if it is one of
the table, and how values are encoded. -/
structure Layout (P B K V : Type*) where
  place : K → P
  keyAt : P → Option K
  key : V → K
  encode : V → B
  decode : B → Option V
  place_of_keyAt : ∀ {p k}, keyAt p = some k → place k = p
  decode_encode : ∀ v, decode (encode v) = some v

namespace Layout

variable {P B K V : Type*} [DecidableEq P] [DecidableEq K] (L : Layout P B K V)

/-- The place of the key is one of the table. -/
def Owns (k : K) : Prop := L.keyAt (L.place k) = some k

instance (k : K) : Decidable (L.Owns k) := inferInstanceAs (Decidable (_ = _))

/-- What the table has under a key. -/
def lookup (m : AssocMap P B) (k : K) : Option V :=
  if L.Owns k then (m.get? (L.place k)).bind L.decode else none

/-- What is at the places of the table is encoded, and under its own key. -/
def Coded (m : AssocMap P B) : Prop :=
  ∀ p k b, L.keyAt p = some k → m.get? p = some b → ∃ v, b = L.encode v ∧ L.key v = k

variable {L} {m : AssocMap P B} {k : K}

omit [DecidableEq P] [DecidableEq K] in
theorem owns_of_keyAt {p : P} (h : L.keyAt p = some k) : L.Owns k := by
  rw [Owns, L.place_of_keyAt h, h]

theorem lookup_of_owns (hk : L.Owns k) : L.lookup m k = (m.get? (L.place k)).bind L.decode :=
  if_pos hk

omit [DecidableEq P] [DecidableEq K] in
/-- Keys of the table have places of their own. -/
theorem place_inj {j : K} (hk : L.Owns k) (hj : L.Owns j) : L.place j = L.place k ↔ j = k := by
  refine ⟨fun h => ?_, fun h => by rw [h]⟩
  have heq : some j = some k := by
    rw [← hj, ← hk, h]
  exact Option.some.inj heq

omit [DecidableEq P] [DecidableEq K] in
/-- A place that is not the table's is no place of its keys. -/
theorem place_ne {p : P} (hp : L.keyAt p = none) (hk : L.Owns k) : p ≠ L.place k := by
  rintro rfl
  rw [hk] at hp
  cases hp

/-- A table in which one key has another value. -/
theorem lookup_eq_update {m' : AssocMap P B} {b : Option B} (hk : L.Owns k)
    (hself : m'.get? (L.place k) = b) (hother : ∀ p, p ≠ L.place k → m'.get? p = m.get? p) :
    L.lookup m' = Function.update (L.lookup m) k (b.bind L.decode) := by
  funext j
  rw [Function.update_apply]
  split
  · next hj =>
    subst hj
    rw [lookup_of_owns hk, hself]
  · next hj =>
    unfold lookup
    split
    · next howns => rw [hother _ fun h => hj ((place_inj hk howns).mp h)]
    · rfl

theorem lookup_insert (hk : L.Owns k) (b : B) :
    L.lookup (m.insert (L.place k) b) = Function.update (L.lookup m) k (L.decode b) :=
  lookup_eq_update (b := some b) hk (AssocMap.get?_insert_self _ _ _)
    fun _ h => AssocMap.get?_insert_of_ne _ _ h

theorem lookup_erase (hk : L.Owns k) :
    L.lookup (m.erase (L.place k)) = Function.update (L.lookup m) k none :=
  lookup_eq_update (b := none) hk (AssocMap.get?_erase_self _ _)
    fun _ h => AssocMap.get?_erase_of_ne _ h

/-! ### Encoded values -/

omit [DecidableEq K] in
/-- A store with nothing at the places of the table. -/
theorem coded_of_none (h : ∀ p k, L.keyAt p = some k → m.get? p = none) : L.Coded m := by
  intro p k b hp hb
  rw [h p k hp] at hb
  cases hb

theorem lookup_of_none (h : ∀ p k, L.keyAt p = some k → m.get? p = none) :
    L.lookup m = fun _ => none := by
  funext k
  unfold lookup
  split
  · next hk => rw [h _ k hk, Option.bind_none]
  · rfl

/-- **A place of the table has what its key has, encoded.** -/
theorem Coded.get? (hm : L.Coded m) (hk : L.Owns k) :
    m.get? (L.place k) = (L.lookup m k).map L.encode := by
  rw [lookup_of_owns hk]
  cases h : m.get? (L.place k) with
  | none => rfl
  | some b =>
    obtain ⟨v, rfl, -⟩ := hm _ k b hk h
    rw [Option.bind_some, L.decode_encode, Option.map_some]

theorem Coded.contains (hm : L.Coded m) (hk : L.Owns k) :
    m.contains (L.place k) = (L.lookup m k).isSome := by
  rw [AssocMap.contains, hm.get? hk, Option.isSome_map]

/-- Every value stands under its own key. -/
theorem Coded.key_eq (hm : L.Coded m) {v : V} (h : L.lookup m k = some v) : L.key v = k := by
  unfold lookup at h
  split at h
  · next hk =>
    obtain ⟨b, hb, hv⟩ := Option.bind_eq_some_iff.mp h
    obtain ⟨w, rfl, hw⟩ := hm _ k b hk hb
    rw [L.decode_encode] at hv
    rwa [← Option.some.inj hv]
  · cases h

omit [DecidableEq K] in
theorem Coded.insert (hm : L.Coded m) {v : V} (hv : L.Owns (L.key v)) :
    L.Coded (m.insert (L.place (L.key v)) (L.encode v)) := by
  intro p k b hp hb
  rw [AssocMap.get?_insert] at hb
  split at hb
  · next heq =>
    subst heq
    rw [hv] at hp
    exact ⟨v, (Option.some.inj hb).symm, Option.some.inj hp⟩
  · exact hm p k b hp hb

omit [DecidableEq K] in
theorem Coded.erase (hm : L.Coded m) (p : P) : L.Coded (m.erase p) := by
  intro q k b hq hb
  rw [AssocMap.get?_erase] at hb
  split at hb
  · cases hb
  · exact hm q k b hq hb

/-! ### Listings -/

variable (L) in
/-- Key and value of an entry of the store, if its place is one of the table and it
decodes. -/
def decodedEntry (e : P × B) : Option (K × V) :=
  (L.keyAt e.1).bind fun k => (L.decode e.2).map (k, ·)

variable (L) in
/-- The value of an entry. -/
def valueAt (e : P × B) : Option V := (L.keyAt e.1).bind fun _ => L.decode e.2

omit [DecidableEq P] [DecidableEq K] in
theorem decodedEntry_eq_some {e : P × B} {v : V} :
    L.decodedEntry e = some (k, v) ↔ L.keyAt e.1 = some k ∧ L.decode e.2 = some v := by
  rw [decodedEntry, Option.bind_eq_some_iff]
  constructor
  · rintro ⟨k', hp, hv⟩
    obtain ⟨v', hb, heq⟩ := Option.map_eq_some_iff.mp hv
    obtain ⟨rfl, rfl⟩ := Prod.mk.inj heq
    exact ⟨hp, hb⟩
  · rintro ⟨hp, hb⟩
    exact ⟨k, hp, by rw [hb, Option.map_some]⟩

/-- The entries of the table in a store. -/
theorem mem_entries_iff {v : V} :
    (k, v) ∈ m.entries.filterMap L.decodedEntry ↔ L.lookup m k = some v := by
  rw [List.mem_filterMap]
  constructor
  · rintro ⟨⟨p, b⟩, he, hkv⟩
    obtain ⟨hp, hb⟩ := decodedEntry_eq_some.mp hkv
    rw [lookup_of_owns (owns_of_keyAt hp), L.place_of_keyAt hp, AssocMap.mem_entries_iff.mp he]
    exact hb
  · intro h
    unfold lookup at h
    split at h
    · next hk =>
      obtain ⟨b, hb, hv⟩ := Option.bind_eq_some_iff.mp h
      exact ⟨(L.place k, b), AssocMap.mem_entries_iff.mpr hb, decodedEntry_eq_some.mpr ⟨hk, hv⟩⟩
    · cases h

omit [DecidableEq P] [DecidableEq K] in
/-- Different entries of a store are of different keys. -/
theorem nodup_keys {l : List (P × B)} (hl : (l.map Prod.fst).Nodup) :
    ((l.filterMap L.decodedEntry).map Prod.fst).Nodup := by
  induction l with
  | nil => exact List.nodup_nil
  | cons e l ih =>
    rw [List.map_cons, List.nodup_cons] at hl
    cases he : L.decodedEntry e with
    | none =>
      rw [List.filterMap_cons_none he]
      exact ih hl.2
    | some kv =>
      rw [List.filterMap_cons_some he, List.map_cons, List.nodup_cons]
      refine ⟨fun hmem => hl.1 ?_, ih hl.2⟩
      -- a later entry of the same key would be at the same place
      obtain ⟨⟨k, v⟩, hmem', rfl⟩ := List.mem_map.mp hmem
      obtain ⟨e', he', hkv'⟩ := List.mem_filterMap.mp hmem'
      have hplace := L.place_of_keyAt (decodedEntry_eq_some.mp he).1
      have hplace' := L.place_of_keyAt (decodedEntry_eq_some.mp hkv').1
      rw [← hplace, hplace']
      exact List.mem_map_of_mem he'

/-- **Going through the store lists the table.** -/
theorem enumerates_lookup : Enumerates (L.lookup m) (m.entries.filterMap L.valueAt) := by
  refine ⟨_, nodup_keys (L := L) m.nodup, fun k v => mem_entries_iff, ?_⟩
  rw [List.map_filterMap]
  refine List.Perm.of_eq (List.filterMap_congr fun e _ => ?_)
  rw [valueAt, decodedEntry, Option.map_bind]
  cases L.keyAt e.1 with
  | none => rfl
  | some k =>
    show L.decode e.2 = ((L.decode e.2).map (k, ·)).map Prod.snd
    rw [Option.map_map]
    exact Option.map_id'.symm

end Layout

end CodedMap
