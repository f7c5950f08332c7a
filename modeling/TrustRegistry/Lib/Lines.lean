import Mathlib.Data.List.Basic

/-!
# The lines of a text

A line ends before a newline; the last one may lack it, and there is none after the last
newline.  A carriage return right before a newline belongs to it.  A text is a list of
characters, or of bytes, of which one is the newline and one the carriage return.

## Main definitions

* `Lines.lines` — the lines of a text.

## Main results

* `Lines.newline_not_mem` — a line holds no newline.
* `Lines.lines_flatMap` — lines that are written one after another are read one after
  another.
-/

namespace Lines

variable {α : Type*} [DecidableEq α] (newline ret : α)

/-- Take off the carriage return that a reversed line starts with. -/
def stripReturn (l : List α) : List α := if l.head? = some ret then l.tail else l

/-- The lines of a text, where the first has begun with these characters, reversed. -/
def linesFrom : List α → List α → List (List α)
  | [], [] => []
  | c :: begun, [] => [(c :: begun).reverse]
  | begun, c :: l =>
    if c = newline then (stripReturn ret begun).reverse :: linesFrom [] l
    else linesFrom (c :: begun) l

/-- The lines of a text. -/
def lines (l : List α) : List (List α) := linesFrom newline ret [] l

variable {newline ret}

theorem linesFrom_cons (begun l : List α) (c : α) : linesFrom newline ret begun (c :: l)
    = if c = newline then (stripReturn ret begun).reverse :: linesFrom newline ret [] l
      else linesFrom newline ret (c :: begun) l := by
  cases begun <;> rw [linesFrom]

theorem stripReturn_subset (l : List α) : stripReturn ret l ⊆ l := by
  unfold stripReturn
  split
  · exact fun _ => List.mem_of_mem_tail
  · exact List.Subset.refl _

theorem stripReturn_eq_self {l : List α} (h : l.head? ≠ some ret) : stripReturn ret l = l :=
  if_neg h

theorem newline_not_mem_linesFrom {l : List α} : ∀ {begun : List α}, newline ∉ begun →
    ∀ line ∈ linesFrom newline ret begun l, newline ∉ line := by
  induction l with
  | nil =>
    intro begun hbegun line hline
    cases begun with
    | nil => cases hline
    | cons c begun =>
      rw [linesFrom, List.mem_singleton] at hline
      rwa [hline, List.mem_reverse]
  | cons c l ih =>
    intro begun hbegun line hline
    rw [linesFrom_cons] at hline
    split at hline
    · rcases List.mem_cons.mp hline with rfl | hline
      · exact fun h => hbegun (stripReturn_subset begun (List.mem_reverse.mp h))
      · exact ih List.not_mem_nil line hline
    · next hc =>
      refine ih (fun h => ?_) line hline
      rcases List.mem_cons.mp h with h | h
      · exact hc h.symm
      · exact hbegun h

/-- **A line holds no newline.** -/
theorem newline_not_mem {l line : List α} (h : line ∈ lines newline ret l) : newline ∉ line :=
  newline_not_mem_linesFrom List.not_mem_nil line h

/-- A line that is written is read at the next newline. -/
theorem linesFrom_append {line : List α} (hline : newline ∉ line) (rest : List α) :
    ∀ begun : List α, linesFrom newline ret begun (line ++ newline :: rest)
      = (stripReturn ret (line.reverse ++ begun)).reverse :: linesFrom newline ret [] rest := by
  induction line with
  | nil =>
    intro begun
    rw [List.nil_append, linesFrom_cons, if_pos rfl, List.reverse_nil, List.nil_append]
  | cons c line ih =>
    intro begun
    have hc : c ≠ newline := fun h => hline (h ▸ List.mem_cons_self)
    rw [List.cons_append, linesFrom_cons, if_neg hc,
      ih (fun h => hline (List.mem_cons_of_mem _ h)), List.reverse_cons, List.append_assoc,
      List.singleton_append]

/-- **Lines that are written one after another are read one after another**, where none
holds a newline or ends with a carriage return. -/
theorem lines_flatMap {ls : List (List α)}
    (h : ∀ line ∈ ls, newline ∉ line ∧ line.getLast? ≠ some ret) :
    lines newline ret (ls.flatMap (· ++ [newline])) = ls := by
  induction ls with
  | nil => rfl
  | cons line ls ih =>
    obtain ⟨hnewline, hreturn⟩ := h line List.mem_cons_self
    have hhead : (line.reverse ++ []).head? ≠ some ret := by
      rwa [List.append_nil, List.head?_reverse]
    rw [List.flatMap_cons, List.append_assoc, List.singleton_append, lines,
      linesFrom_append hnewline, stripReturn_eq_self hhead, List.append_nil, List.reverse_reverse]
    congr 1
    exact ih fun l hl => h l (List.mem_cons_of_mem _ hl)

end Lines
