import Mathlib.Data.List.Basic

/-!
# Comma-separated values

A writer that quotes the fields that need it, and the reader that undoes it: a
machine over the characters with the field and the row read so far.

## Main definitions

* `Csv.write` — rows as a text, each ended by a line break.
* `Csv.scan`, `Csv.read` — the machine and the rows of a text.

## Main results

* `Csv.scan_writeField` — the machine reads a written field back.
* `Csv.read_append` — rows are read back from what is written for them, also when
  the last line break is missing.
-/

namespace Csv

/-! ### Writing -/

/-- The characters that make a field need quotes. -/
def isSpecial (c : Char) : Bool := c = ',' || c = '"' || c = '\n' || c = '\r'

/-- A quote inside a quoted field is written twice. -/
def escape (c : Char) : List Char := if c = '"' then ['"', '"'] else [c]

/-- A field, in quotes if it needs them. -/
def writeField (f : List Char) : List Char :=
  if f.any isSpecial then '"' :: f.flatMap escape ++ ['"'] else f

/-- The fields of a row with commas between them. -/
def writeFields : List (List Char) → List Char
  | [] => []
  | [f] => writeField f
  | f :: g :: fs => writeField f ++ ',' :: writeFields (g :: fs)

/-- The rows, each on a line of its own. -/
def write (rows : List (List (List Char))) : List Char :=
  rows.flatMap fun row => writeFields row ++ ['\n']

/-! ### Reading -/

/-- Where in a field the machine is. -/
inductive Mode
  /-- before its first character -/
  | start
  /-- in a field without quotes -/
  | bare
  /-- inside the quotes -/
  | quoted
  /-- after a quote that ends the field, unless another one follows -/
  | closing
  deriving DecidableEq

/-- Does the character end a line? -/
def isBreak (c : Char) : Bool := c = '\n' || c = '\r'

/-- The rows of a text, from the field and the row read so far.  A line with
nothing on it is no row. -/
def scan : Mode → List Char → List (List Char) → List Char → List (List (List Char))
  | .start, _, [], [] => []
  | _, field, row, [] => [row ++ [field]]
  | .start, _, row, c :: cs =>
    if c = '"' then scan .quoted [] row cs
    else if c = ',' then scan .start [] (row ++ [[]]) cs
    else if isBreak c then
      if row = [] then scan .start [] [] cs else (row ++ [[]]) :: scan .start [] [] cs
    else scan .bare [c] row cs
  | .bare, field, row, c :: cs =>
    if c = ',' then scan .start [] (row ++ [field]) cs
    else if isBreak c then (row ++ [field]) :: scan .start [] [] cs
    else scan .bare (field ++ [c]) row cs
  | .quoted, field, row, c :: cs =>
    if c = '"' then scan .closing field row cs else scan .quoted (field ++ [c]) row cs
  | .closing, field, row, c :: cs =>
    if c = '"' then scan .quoted (field ++ ['"']) row cs
    else if c = ',' then scan .start [] (row ++ [field]) cs
    else if isBreak c then (row ++ [field]) :: scan .start [] [] cs
    else scan .bare (field ++ [c]) row cs

/-- The rows of a text. -/
def read (text : List Char) : List (List (List Char)) := scan .start [] [] text

/-! ### A field is read back -/

/-- What follows a row: nothing, or a line break and further lines. -/
def afterRow : List Char → List (List (List Char))
  | [] => []
  | _ :: cs => scan .start [] [] cs

/-- The end of the text or of a line. -/
def AtEnd (t : List Char) : Prop := t = [] ∨ ∃ rest, t = '\n' :: rest

theorem scan_bare {f : List Char} (hf : f.any isSpecial = false) (field : List Char)
    (row : List (List Char)) (t : List Char) :
    scan .bare field row (f ++ t) = scan .bare (field ++ f) row t := by
  induction f generalizing field with
  | nil => simp
  | cons c f ih =>
    simp only [List.any_cons, Bool.or_eq_false_iff] at hf
    obtain ⟨hc, hf⟩ := hf
    simp only [isSpecial, Bool.or_eq_false_iff, decide_eq_false_iff_not] at hc
    obtain ⟨⟨⟨h₁, h₂⟩, h₃⟩, h₄⟩ := hc
    rw [List.cons_append, scan, if_neg h₁, if_neg (by simp [isBreak, h₃, h₄]), ih hf]
    simp

theorem scan_quoted (f field : List Char) (row : List (List Char)) (t : List Char) :
    scan .quoted field row (f.flatMap escape ++ '"' :: t) = scan .closing (field ++ f) row t := by
  induction f generalizing field with
  | nil => simp [scan]
  | cons c f ih =>
    rw [List.flatMap_cons, List.append_assoc]
    by_cases hc : c = '"'
    · subst hc
      simp [escape, scan, ih]
    · simp [escape, scan, hc, ih]

/-- Where in the field the machine is when it has read what is written for it. -/
def modeAfter (f : List Char) : Mode :=
  if f.any isSpecial then .closing else if f = [] then .start else .bare

/-- **The machine reads a written field back.** -/
theorem scan_writeField (f : List Char) (row : List (List Char)) (t : List Char) :
    scan .start [] row (writeField f ++ t) = scan (modeAfter f) f row t := by
  unfold writeField modeAfter
  cases hf : f.any isSpecial with
  | true =>
    have hquoted : ('"' :: f.flatMap escape ++ ['"']) ++ t
        = '"' :: (f.flatMap escape ++ '"' :: t) := by
      simp
    rw [if_pos rfl, if_pos rfl, hquoted, scan, if_pos rfl, scan_quoted, List.nil_append]
  | false =>
    -- nothing is special, the first character included, so the field stands bare
    cases f with
    | nil => rfl
    | cons c f =>
      rw [List.any_cons, Bool.or_eq_false_iff] at hf
      obtain ⟨hc, hf⟩ := hf
      simp only [isSpecial, Bool.or_eq_false_iff, decide_eq_false_iff_not] at hc
      obtain ⟨⟨⟨h₁, h₂⟩, h₃⟩, h₄⟩ := hc
      simp only [Bool.false_eq_true, if_false, reduceCtorEq, List.cons_append]
      rw [scan, if_neg h₂, if_neg h₁, if_neg (by simp [isBreak, h₃, h₄]), scan_bare hf,
        List.singleton_append]

theorem modeAfter_cases (f : List Char) :
    modeAfter f = .closing ∨ modeAfter f = .start ∧ f = [] ∨ modeAfter f = .bare := by
  unfold modeAfter
  split
  · exact .inl rfl
  · split
    · next h => exact .inr (.inl ⟨rfl, h⟩)
    · exact .inr (.inr rfl)

theorem scan_modeAfter_comma (f : List Char) (row : List (List Char)) (t : List Char) :
    scan (modeAfter f) f row (',' :: t) = scan .start [] (row ++ [f]) t := by
  rcases modeAfter_cases f with h | ⟨h, rfl⟩ | h <;> rw [h] <;> simp [scan]

theorem scan_modeAfter_end (f : List Char) {row : List (List Char)} (hrow : row ≠ [])
    {t : List Char} (ht : AtEnd t) :
    scan (modeAfter f) f row t = (row ++ [f]) :: afterRow t := by
  rcases ht with rfl | ⟨rest, rfl⟩ <;> rcases modeAfter_cases f with h | ⟨h, rfl⟩ | h <;> rw [h] <;>
    simp [scan, afterRow, isBreak, hrow]

/-! ### A text is read back -/

theorem scan_writeFields : ∀ {fs : List (List Char)} {row : List (List Char)}, fs ≠ [] →
    2 ≤ row.length + fs.length → ∀ {t : List Char}, AtEnd t →
    scan .start [] row (writeFields fs ++ t) = (row ++ fs) :: afterRow t
  | [], _, h, _, _, _ => absurd rfl h
  | [f], row, _, hlen, t, ht => by
    have hrow : row ≠ [] := by
      rintro rfl
      simp at hlen
    rw [writeFields, scan_writeField, scan_modeAfter_end f hrow ht]
  | f :: g :: fs, row, _, hlen, t, ht => by
    rw [writeFields, List.append_assoc, List.cons_append, scan_writeField, scan_modeAfter_comma,
      scan_writeFields (List.cons_ne_nil _ _) (by simp; omega) ht]
    simp

/-- The last line break may be missing. -/
theorem read_append {rows : List (List (List Char))} (hrows : ∀ row ∈ rows, 2 ≤ row.length)
    {last : List (List Char)} (hlast : 2 ≤ last.length) {t : List Char} (ht : t = [] ∨ t = ['\n']) :
    read (write rows ++ writeFields last ++ t) = rows ++ [last] := by
  have hend : AtEnd t := ht.imp_right fun h => ⟨[], h⟩
  have hafter : afterRow t = [] := by rcases ht with rfl | rfl <;> simp [afterRow, scan]
  have hne : ∀ {row : List (List Char)}, 2 ≤ row.length → row ≠ [] := by
    rintro row h rfl
    simp at h
  unfold read
  induction rows with
  | nil =>
    rw [write, List.flatMap_nil, List.nil_append,
      scan_writeFields (hne hlast) (by simpa using hlast) hend, hafter]
    rfl
  | cons row rows ih =>
    have hrow := hrows row List.mem_cons_self
    have hsplit : write (row :: rows) ++ writeFields last ++ t
        = writeFields row ++ '\n' :: (write rows ++ writeFields last ++ t) := by
      simp [write]
    rw [hsplit, scan_writeFields (hne hrow) (by simpa using hrow) (.inr ⟨_, rfl⟩)]
    simp only [List.nil_append, afterRow, List.cons_append]
    rw [ih fun r hr => hrows r (List.mem_cons_of_mem _ hr)]

end Csv
