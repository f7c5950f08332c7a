import Mathlib.Algebra.GroupWithZero.Nat
import Mathlib.Data.List.Basic

/-!
# Joining with a delimiter

Pieces joined with a delimiter between them (`List.intercalate`), and no
escaping.  The number of pieces being known, the text determines the pieces
exactly when no piece holds the delimiter: a delimiter inside a piece can always
be traded for one between two pieces.

## Main results

* `Delimited.intercalate_inj_of_free` — delimiter-free pieces are determined by
  the text and their number.
* `Delimited.exists_ne_of_not_free` — otherwise other pieces, as many, give the
  same text.
* `Delimited.intercalate_determines_iff` — the two together.
* `Delimited.splitOn_eq_cons` — the first piece of a text ends at its first delimiter.
* `Delimited.append_cons_inj_iff` — when two texts split at a delimiter into two
  pieces are one: the pieces agree, or a delimiter has been traded.
-/

namespace Delimited

variable {α : Type*}

/-- No piece holds the delimiter. -/
def Free (d : α) (l : List (List α)) : Prop := ∀ p ∈ l, d ∉ p

/-- A piece that goes on, behind a delimiter, into the next one. -/
def Trades (d : α) (a b a' b' : List α) : Prop := ∃ w, a' = a ++ d :: w ∧ b = w ++ d :: b'

/-- **Two pieces joined give one text** when they agree, or when a delimiter inside
one of them has been traded for the one between them. -/
theorem append_cons_inj_iff {d : α} {a b a' b' : List α} :
    a ++ d :: b = a' ++ d :: b' ↔ (a = a' ∧ b = b') ∨ Trades d a b a' b' ∨ Trades d a' b' a b := by
  constructor
  · intro h
    rcases List.append_eq_append_iff.mp h with ⟨c, ha, hb⟩ | ⟨c, ha, hb⟩
    · cases c with
      | nil => exact .inl ⟨by simpa using ha.symm, by simpa using hb⟩
      | cons e w =>
        obtain ⟨rfl, hw⟩ := List.cons_eq_cons.mp hb
        exact .inr (.inl ⟨w, ha, hw⟩)
    · cases c with
      | nil => exact .inl ⟨by simpa using ha, by simpa using hb.symm⟩
      | cons e w =>
        obtain ⟨rfl, hw⟩ := List.cons_eq_cons.mp hb
        exact .inr (.inr ⟨w, ha, hw⟩)
  · rintro (⟨rfl, rfl⟩ | ⟨w, rfl, rfl⟩ | ⟨w, rfl, rfl⟩)
    · rfl
    all_goals simp

theorem intercalate_cons {d : α} (p q : List α) (l : List (List α)) :
    [d].intercalate (p :: q :: l) = p ++ d :: [d].intercalate (q :: l) := by
  simp [List.intercalate_cons_cons]

/-! ### Free pieces are determined -/

variable [DecidableEq α]

/-- Each gap adds one delimiter to those inside the pieces. -/
theorem count_intercalate (d : α) : ∀ l : List (List α), l ≠ [] →
    ([d].intercalate l).count d + 1 = (l.map (List.count d)).sum + l.length
  | [], h => absurd rfl h
  | [p], _ => by simp
  | p :: q :: l, _ => by
    have ih := count_intercalate d (q :: l) (List.cons_ne_nil _ _)
    rw [intercalate_cons]
    simp only [List.count_append, List.count_cons_self, List.map_cons,
      List.sum_cons, List.length_cons] at ih ⊢
    omega

/-- Being free is having no delimiter beyond those of the gaps. -/
theorem free_iff_count {d : α} {l : List (List α)} (hl : l ≠ []) :
    Free d l ↔ ([d].intercalate l).count d + 1 = l.length := by
  have hsum : (l.map (List.count d)).sum = 0 ↔ Free d l := by
    simp [Free, List.sum_eq_zero_iff_forall_eq_nat, List.count_eq_zero]
  rw [count_intercalate d l hl, ← hsum]
  omega

/-- **Delimiter-free pieces are determined** by the text and their number,
whatever the other pieces hold. -/
theorem intercalate_inj_of_free {d : α} {l l' : List (List α)} (hlen : l.length = l'.length)
    (hl : Free d l) (h : [d].intercalate l = [d].intercalate l') : l = l' := by
  rcases eq_or_ne l [] with rfl | hne
  · exact (List.length_eq_zero_iff.mp hlen.symm).symm
  · have hne' : l' ≠ [] := by
      rintro rfl
      exact hne (List.length_eq_zero_iff.mp hlen)
    -- as many delimiters in the text, hence none inside the other pieces either
    have hl' : Free d l' := by
      rw [free_iff_count hne', ← h, ← hlen]
      exact (free_iff_count hne).mp hl
    rw [← List.splitOn_intercalate d hl hne, h, List.splitOn_intercalate d hl' hne']

omit [DecidableEq α] in
/-- **A delimiter inside a piece can be traded** for one between two pieces. -/
theorem exists_ne_of_not_free {d : α} : ∀ {l : List (List α)}, 2 ≤ l.length → ¬ Free d l →
    ∃ l', l'.length = l.length ∧ l' ≠ l ∧ [d].intercalate l' = [d].intercalate l
  | [], h, _ => absurd h (by simp)
  | [_], h, _ => absurd h (by simp)
  | p :: q :: l, _, hfree => by
    by_cases hp : d ∈ p
    · -- what `p` holds after the delimiter moves into the next piece
      obtain ⟨x, y, rfl⟩ := List.append_of_mem hp
      refine ⟨x :: (y ++ d :: q) :: l, rfl, ?_, ?_⟩
      · intro h
        simpa using congrArg List.length (List.head_eq_of_cons_eq h)
      · cases l <;> simp [List.intercalate_cons_cons]
    · by_cases hq : d ∈ q
      · -- what `q` holds before the delimiter moves into the piece before
        obtain ⟨x, y, rfl⟩ := List.append_of_mem hq
        refine ⟨(p ++ d :: x) :: y :: l, rfl, ?_, ?_⟩
        · intro h
          simpa using congrArg List.length (List.head_eq_of_cons_eq h)
        · cases l <;> simp [List.intercalate_cons_cons]
      · -- the first two pieces are free, so the delimiter is further on
        have hfree' : ¬ Free d (q :: l) := by
          intro h
          refine hfree fun r hr => ?_
          rcases List.mem_cons.mp hr with rfl | hr
          exacts [hp, h r hr]
        have hlen : 2 ≤ (q :: l).length := by
          rcases l with _ | ⟨r, l⟩
          · exact absurd (fun r hr => by obtain rfl := List.mem_singleton.mp hr; exact hq) hfree'
          · simp
        obtain ⟨l', hlen', hne, hjoin⟩ := exists_ne_of_not_free hlen hfree'
        refine ⟨p :: l', by simp [hlen'], fun h => hne (List.tail_eq_of_cons_eq h), ?_⟩
        rcases l' with _ | ⟨r, l'⟩
        · simp at hlen'
        · rw [intercalate_cons, intercalate_cons, hjoin]

/-- **The text determines the pieces exactly when none holds the delimiter.** -/
theorem intercalate_determines_iff {d : α} {l : List (List α)} (hl : 2 ≤ l.length) :
    (∀ l', l'.length = l.length → [d].intercalate l' = [d].intercalate l → l' = l)
      ↔ Free d l := by
  constructor
  · intro h
    by_contra hfree
    obtain ⟨l', hlen, hne, hjoin⟩ := exists_ne_of_not_free hl hfree
    exact hne (h l' hlen hjoin)
  · intro hfree l' hlen hjoin
    exact (intercalate_inj_of_free hlen.symm hfree hjoin.symm).symm

/-- **The first piece of a text** ends at its first delimiter. -/
theorem splitOn_eq_cons (d : α) (l : List α) :
    ∃ rest, l.splitOn d = l.takeWhile (fun c => decide (c ≠ d)) :: rest := by
  induction l with
  | nil => exact ⟨[], List.splitOn_nil d⟩
  | cons c l ih =>
    obtain ⟨rest, hrest⟩ := ih
    rw [List.splitOn_cons_eq_if_modifyHead]
    by_cases hc : c = d
    · subst hc
      rw [if_pos (beq_self_eq_true c), List.takeWhile_cons_of_neg (by simp)]
      exact ⟨_, rfl⟩
    · rw [if_neg (by simpa using hc), List.takeWhile_cons_of_pos (by simpa using hc), hrest,
        List.modifyHead_cons]
      exact ⟨rest, rfl⟩

end Delimited
