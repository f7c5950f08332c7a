import Mathlib.Data.List.Basic
import Mathlib.Order.Lattice

/-!
# Lists ordered by a key

What collecting a list into an ordered map leaves of it: the elements in the order
of their keys, and of several with one key the last.

## Main definitions

* `ByKey.insert`, `ByKey.collect` — an element, and a list, put in order.

## Main results

* `ByKey.find?_collect` — the element of a key is the last one of the list.
* `ByKey.mem_collect_iff` — the elements are those that are the last of their key.
-/

namespace ByKey

variable {α κ : Type*} [LinearOrder κ] (key : α → κ)

/-- Put an element in its place; one of the same key gives way. -/
def insert (a : α) : List α → List α
  | [] => [a]
  | b :: l =>
    if key a < key b then a :: b :: l
    else if key a = key b then a :: l
    else b :: insert a l

/-- The elements in the order of their keys, later ones in the place of earlier. -/
def collect (l : List α) : List α := l.foldl (fun m a => insert key a m) []

variable {key}

/-- The element of a key after an insertion is the one inserted, if it is its
key. -/
theorem find?_insert (a : α) (k : κ) (l : List α) :
    (insert key a l).find? (fun b => decide (key b = k)) =
      if key a = k then some a else l.find? fun b => decide (key b = k) := by
  induction l with
  | nil => by_cases h : key a = k <;> simp [insert, h]
  | cons b l ih =>
    unfold insert
    split
    · by_cases h : key a = k <;> simp [h]
    · split
      · next heq =>
        by_cases h : key a = k
        · simp [h]
        · have hb : key b ≠ k := heq ▸ h
          simp [h, hb]
      · next hne =>
        by_cases h : key a = k
        · have hb : key b ≠ k := fun hb => hne (h.trans hb.symm)
          rw [List.find?_cons_of_neg (by simp [hb]), ih, if_pos h, if_pos h]
        · by_cases hb : key b = k
          · simp [h, hb]
          · rw [List.find?_cons_of_neg (by simp [hb]), ih, List.find?_cons_of_neg (by simp [hb])]

theorem mem_of_mem_insert {a b : α} {l : List α} (h : b ∈ insert key a l) : b = a ∨ b ∈ l := by
  induction l with
  | nil => exact .inl (List.mem_singleton.mp h)
  | cons c l ih =>
    unfold insert at h
    split at h
    · exact List.mem_cons.mp h
    · split at h
      · rcases List.mem_cons.mp h with h | h
        · exact .inl h
        · exact .inr (List.mem_cons_of_mem _ h)
      · rcases List.mem_cons.mp h with rfl | h
        · exact .inr List.mem_cons_self
        · rcases ih h with h | h
          · exact .inl h
          · exact .inr (List.mem_cons_of_mem _ h)

/-- An insertion keeps the order. -/
theorem pairwise_insert {l : List α} (hl : l.Pairwise (key · < key ·)) (a : α) :
    (insert key a l).Pairwise (key · < key ·) := by
  induction l with
  | nil => simp [insert]
  | cons b l ih =>
    obtain ⟨hb, hl'⟩ := List.pairwise_cons.mp hl
    unfold insert
    split
    · next hlt =>
      refine List.pairwise_cons.mpr ⟨fun c hc => ?_, hl⟩
      rcases List.mem_cons.mp hc with rfl | hc
      · exact hlt
      · exact lt_trans hlt (hb c hc)
    · next hnlt =>
      split
      · next heq => exact List.pairwise_cons.mpr ⟨fun c hc => heq ▸ hb c hc, hl'⟩
      · next hne =>
        refine List.pairwise_cons.mpr ⟨fun c hc => ?_, ih hl'⟩
        rcases mem_of_mem_insert hc with rfl | hc
        · exact lt_of_le_of_ne (not_lt.mp hnlt) (Ne.symm hne)
        · exact hb c hc

theorem pairwise_foldl (l : List α) : ∀ m : List α, m.Pairwise (key · < key ·) →
    (l.foldl (fun m a => insert key a m) m).Pairwise (key · < key ·) := by
  induction l with
  | nil => exact fun _ hm => hm
  | cons a l ih => exact fun m hm => ih _ (pairwise_insert hm a)

theorem pairwise_collect (l : List α) : (collect key l).Pairwise (key · < key ·) :=
  pairwise_foldl l [] List.Pairwise.nil

theorem find?_foldl (k : κ) (l : List α) : ∀ m : List α,
    (l.foldl (fun m a => insert key a m) m).find? (fun b => decide (key b = k)) =
      (l.reverse.find? fun b => decide (key b = k)).or (m.find? fun b => decide (key b = k)) := by
  induction l with
  | nil => exact fun _ => by simp
  | cons a l ih =>
    intro m
    rw [List.foldl_cons, ih, find?_insert, List.reverse_cons, List.find?_append, Option.or_assoc]
    by_cases h : key a = k <;> simp [h]

/-- **The element of a key is the last one of the list.** -/
theorem find?_collect (k : κ) (l : List α) :
    (collect key l).find? (fun b => decide (key b = k))
      = l.reverse.find? fun b => decide (key b = k) := by
  rw [collect, find?_foldl, List.find?_nil, Option.or_none]

/-- In an ordered list an element is the one of its key. -/
theorem find?_of_mem {l : List α} (hl : l.Pairwise (key · < key ·)) {a : α} (ha : a ∈ l) :
    l.find? (fun b => decide (key b = key a)) = some a := by
  induction l with
  | nil => cases ha
  | cons b l ih =>
    obtain ⟨hb, hl'⟩ := List.pairwise_cons.mp hl
    rcases List.mem_cons.mp ha with rfl | ha
    · simp
    · have hne : key b ≠ key a := ne_of_lt (hb a ha)
      rw [List.find?_cons_of_neg (by simp [hne])]
      exact ih hl' ha

/-- **The elements are those that are the last of their key.** -/
theorem mem_collect_iff {l : List α} {a : α} :
    a ∈ collect key l ↔ l.reverse.find? (fun b => decide (key b = key a)) = some a := by
  rw [← find?_collect]
  constructor
  · exact find?_of_mem (pairwise_collect l)
  · exact List.mem_of_find?_eq_some

end ByKey
