import Mathlib.Data.List.Nodup

/-!
# Finite maps as association lists

A finite map with the entries in the order in which their keys first came in.
Overwriting a key keeps its place, so that a map that is written back with the
values it already has is the same map; removing a key and putting it in again
moves it to the end.  The keys are distinct by construction.

## Main definitions

* `AssocMap K V` — the maps.
* `AssocMap.get?`, `AssocMap.insert`, `AssocMap.erase`, `AssocMap.retain` — the
  operations.
* `AssocMap.ofList` — insert a list of entries, later ones overwriting.

## Main results

* `AssocMap.get?_insert`, `AssocMap.get?_erase`, `AssocMap.get?_retain` — what
  a lookup sees after each operation.
* `AssocMap.insert_eq_self_iff`, `AssocMap.erase_eq_self_iff` — when an
  operation changes nothing at all.
-/

/-- A finite map: entries with distinct keys. -/
@[ext] structure AssocMap (K V : Type*) where
  /-- The entries, oldest key first. -/
  entries : List (K × V)
  /-- No key occurs twice. -/
  nodup : (entries.map Prod.fst).Nodup

namespace AssocMap

variable {K V : Type*} [DecidableEq K]

instance [DecidableEq V] : DecidableEq (AssocMap K V) := fun m m' =>
  decidable_of_iff (m.entries = m'.entries) AssocMap.ext_iff.symm

/-! ### The operations on entry lists -/

/-- Overwrite the entry of `k` in its place, or add one at the end. -/
def put (k : K) (v : V) : List (K × V) → List (K × V)
  | [] => [(k, v)]
  | e :: l => if e.1 = k then (k, v) :: l else e :: put k v l

/-- The value at `k`. -/
def find (k : K) : List (K × V) → Option V
  | [] => none
  | e :: l => if e.1 = k then some e.2 else find k l

theorem mem_keys_put {k j : K} {v : V} {l : List (K × V)} :
    j ∈ (put k v l).map Prod.fst ↔ j = k ∨ j ∈ l.map Prod.fst := by
  induction l with
  | nil => simp [put]
  | cons e l ih =>
    unfold put
    split
    · next h => subst h; simp
    · next h =>
      simp only [List.map_cons, List.mem_cons, ih]
      tauto

theorem nodup_put {k : K} {v : V} {l : List (K × V)} (h : (l.map Prod.fst).Nodup) :
    ((put k v l).map Prod.fst).Nodup := by
  induction l with
  | nil => simp [put]
  | cons e l ih =>
    rw [List.map_cons, List.nodup_cons] at h
    unfold put
    split
    · next he => subst he; simpa using h
    · next he =>
      rw [List.map_cons, List.nodup_cons, mem_keys_put]
      exact ⟨by rintro (h' | h'); exacts [he h', h.1 h'], ih h.2⟩

theorem find_put (k : K) (v : V) (j : K) (l : List (K × V)) :
    find j (put k v l) = if j = k then some v else find j l := by
  induction l with
  | nil => simp [put, find, eq_comm]
  | cons e l ih =>
    unfold put
    split
    · next h =>
      subst h
      by_cases hj : j = e.1
      · subst hj; simp [find]
      · simp [find, hj, Ne.symm hj]
    · next h =>
      rw [find, ih, find]
      by_cases hj : e.1 = j
      · subst hj; simp [h]
      · simp [hj]

theorem find_eq_none_iff {k : K} {l : List (K × V)} :
    find k l = none ↔ k ∉ l.map Prod.fst := by
  induction l with
  | nil => simp [find]
  | cons e l ih =>
    rw [find]
    split
    · next h => simp [h]
    · next h => simp only [ih, List.map_cons, List.mem_cons, not_or]; tauto

theorem mem_of_find {k : K} {v : V} {l : List (K × V)} (h : find k l = some v) : (k, v) ∈ l := by
  induction l with
  | nil => simp [find] at h
  | cons e l ih =>
    rw [find] at h
    split at h
    · next he =>
      obtain rfl := Option.some.inj h
      rw [← he]
      exact List.mem_cons_self
    · exact List.mem_cons_of_mem _ (ih h)

theorem find_of_mem {k : K} {v : V} {l : List (K × V)} (hl : (l.map Prod.fst).Nodup)
    (h : (k, v) ∈ l) : find k l = some v := by
  induction l with
  | nil => simp at h
  | cons e l ih =>
    rw [List.map_cons, List.nodup_cons] at hl
    rcases List.mem_cons.mp h with rfl | h
    · simp [find]
    · have hne : e.1 ≠ k := fun he =>
        hl.1 (he ▸ List.mem_map_of_mem (f := Prod.fst) h)
      rw [find, if_neg hne]
      exact ih hl.2 h

/-- Overwriting a key with the value it has changes no entry. -/
theorem put_eq_self_iff {k : K} {v : V} {l : List (K × V)} :
    put k v l = l ↔ find k l = some v := by
  induction l with
  | nil => simp [put, find]
  | cons e l ih =>
    unfold put find
    split
    · next h =>
      obtain ⟨a, b⟩ := e
      obtain rfl : a = k := h
      simp [eq_comm]
    · simp [ih]

/-! ### The maps -/

/-- The map with no entry. -/
def empty : AssocMap K V := ⟨[], by simp⟩

instance : Inhabited (AssocMap K V) := ⟨empty⟩

/-- The value at `k`, if there is one. -/
def get? (m : AssocMap K V) (k : K) : Option V := find k m.entries

/-- Is there a value at `k`? -/
def contains (m : AssocMap K V) (k : K) : Bool := (m.get? k).isSome

/-- Set the value at `k`. -/
def insert (m : AssocMap K V) (k : K) (v : V) : AssocMap K V :=
  ⟨put k v m.entries, nodup_put m.nodup⟩

/-- Keep the entries that satisfy `p`. -/
def retain (m : AssocMap K V) (p : K → V → Bool) : AssocMap K V :=
  ⟨m.entries.filter fun e => p e.1 e.2,
    m.nodup.sublist (List.filter_sublist.map Prod.fst)⟩

/-- Remove the entry of `k`. -/
def erase (m : AssocMap K V) (k : K) : AssocMap K V := m.retain fun j _ => decide (j ≠ k)

/-- The values, oldest key first. -/
def values (m : AssocMap K V) : List V := m.entries.map Prod.snd

/-- Insert a list of entries from left to right. -/
def ofList (l : List (K × V)) : AssocMap K V := l.foldl (fun m e => m.insert e.1 e.2) empty

@[simp] theorem get?_empty (k : K) : (empty : AssocMap K V).get? k = none := rfl

theorem get?_insert (m : AssocMap K V) (k : K) (v : V) (j : K) :
    (m.insert k v).get? j = if j = k then some v else m.get? j := find_put k v j m.entries

@[simp] theorem get?_insert_self (m : AssocMap K V) (k : K) (v : V) :
    (m.insert k v).get? k = some v := by simp [get?_insert]

theorem get?_insert_of_ne (m : AssocMap K V) {k j : K} (v : V) (h : j ≠ k) :
    (m.insert k v).get? j = m.get? j := by simp [get?_insert, h]

theorem mem_entries_iff {m : AssocMap K V} {k : K} {v : V} :
    (k, v) ∈ m.entries ↔ m.get? k = some v :=
  ⟨find_of_mem m.nodup, mem_of_find⟩

theorem mem_values_iff {m : AssocMap K V} {v : V} : v ∈ m.values ↔ ∃ k, m.get? k = some v := by
  unfold values
  rw [List.mem_map]
  constructor
  · rintro ⟨⟨k, w⟩, hm, rfl⟩
    exact ⟨k, mem_entries_iff.mp hm⟩
  · rintro ⟨k, hk⟩
    exact ⟨(k, v), mem_entries_iff.mpr hk, rfl⟩

theorem get?_retain (m : AssocMap K V) (p : K → V → Bool) (k : K) :
    (m.retain p).get? k = (m.get? k).filter (p k) := by
  cases h : m.get? k with
  | none =>
    -- what is kept was there before
    rw [Option.filter_none]
    refine find_eq_none_iff.mpr fun hk => ?_
    obtain ⟨e, he, rfl⟩ := List.mem_map.mp hk
    have := mem_entries_iff.mp (List.mem_of_mem_filter he)
    rw [h] at this
    simp at this
  | some v =>
    have hv : (k, v) ∈ m.entries := mem_entries_iff.mpr h
    cases hp : p k v with
    | true =>
      rw [Option.filter_some_pos hp]
      exact mem_entries_iff.mp (List.mem_filter.mpr ⟨hv, hp⟩)
    | false =>
      -- an entry of `k` that is kept would be the one that is not
      rw [Option.filter_some_neg (by simp [hp])]
      refine find_eq_none_iff.mpr fun hk => ?_
      obtain ⟨⟨j, w⟩, he, rfl⟩ := List.mem_map.mp hk
      obtain ⟨hm, hpw⟩ := List.mem_filter.mp he
      have hw : m.get? j = some w := mem_entries_iff.mp hm
      simp only at h hp hpw
      rw [h] at hw
      obtain rfl := Option.some.inj hw
      simp [hp] at hpw

theorem get?_erase (m : AssocMap K V) (k j : K) :
    (m.erase k).get? j = if j = k then none else m.get? j := by
  rw [erase, get?_retain]
  by_cases h : j = k <;> cases m.get? j <;> simp [h]

@[simp] theorem get?_erase_self (m : AssocMap K V) (k : K) : (m.erase k).get? k = none := by
  simp [get?_erase]

theorem get?_erase_of_ne (m : AssocMap K V) {k j : K} (h : j ≠ k) :
    (m.erase k).get? j = m.get? j := by simp [get?_erase, h]

theorem contains_eq_true {m : AssocMap K V} {k : K} :
    m.contains k = true ↔ ∃ v, m.get? k = some v :=
  Option.isSome_iff_exists

theorem contains_eq_false {m : AssocMap K V} {k : K} : m.contains k = false ↔ m.get? k = none := by
  simp [contains]

/-- Setting a key changes the map exactly when it gives the key another value. -/
theorem insert_eq_self_iff {m : AssocMap K V} {k : K} {v : V} :
    m.insert k v = m ↔ m.get? k = some v := by
  rw [AssocMap.ext_iff]
  exact put_eq_self_iff

/-- Removing a key changes the map exactly when the key is there. -/
theorem erase_eq_self_iff {m : AssocMap K V} {k : K} : m.erase k = m ↔ m.get? k = none := by
  constructor
  · intro h
    rw [← h]
    exact get?_erase_self m k
  · intro h
    have hk := find_eq_none_iff.mp h
    rw [AssocMap.ext_iff]
    refine List.filter_eq_self.mpr fun e he => ?_
    simp only [decide_eq_true_eq]
    rintro rfl
    exact hk (List.mem_map_of_mem he)

/-- A lookup in a map built from a list finds the last entry of the key. -/
theorem get?_foldl_insert (l : List (K × V)) (m : AssocMap K V) (k : K) :
    (l.foldl (fun m e => m.insert e.1 e.2) m).get? k
      = (find k l.reverse).or (m.get? k) := by
  induction l generalizing m with
  | nil => rfl
  | cons e l ih =>
    rw [List.foldl_cons, ih, get?_insert, List.reverse_cons]
    -- the first entry is the last to count
    have happ : ∀ l' : List (K × V), find k (l' ++ [e]) =
        (find k l').or (if e.1 = k then some e.2 else none) := by
      intro l'
      induction l' with
      | nil => rfl
      | cons a l' ih' =>
        rw [List.cons_append, find, find, ih']
        split <;> rfl
    rw [happ, Option.or_assoc]
    by_cases h : e.1 = k
    · simp [h]
    · simp [h, Ne.symm h]

theorem get?_ofList (l : List (K × V)) (k : K) : (ofList l).get? k = find k l.reverse := by
  rw [ofList, get?_foldl_insert]
  simp

/-- In a map the order of the entries does not matter. -/
theorem find_perm (m : AssocMap K V) {l : List (K × V)} (hl : l.Perm m.entries) (k : K) :
    find k l = m.get? k := by
  have hkeys : (l.map Prod.fst).Nodup := (hl.map Prod.fst).nodup_iff.mpr m.nodup
  cases hget : m.get? k with
  | none =>
    refine find_eq_none_iff.mpr fun hk => ?_
    exact find_eq_none_iff.mp hget ((hl.map Prod.fst).mem_iff.mp hk)
  | some v => exact find_of_mem hkeys (hl.mem_iff.mpr (mem_of_find hget))

theorem find_reverse (m : AssocMap K V) (k : K) : find k m.entries.reverse = m.get? k :=
  m.find_perm (List.reverse_perm _) k

end AssocMap
