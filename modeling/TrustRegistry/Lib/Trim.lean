import Mathlib.Data.List.DropRight

/-!
# Trimming

Removing the white space around a text, white space being the Unicode property
of that name.

## Main definitions

* `Trim.isWhitespace` — the property.
* `Trim.trim` — the text without the white space around it.

## Main results

* `Trim.trim_trim` — trimming twice is trimming once.
* `Trim.trim_eq_self_iff` — what trimming leaves alone.
* `Trim.trim_eq_empty_iff` — what it leaves nothing of.
-/

namespace Trim

/-- The Unicode property `White_Space`. -/
def isWhitespace (c : Char) : Bool :=
  let n := c.toNat
  (9 ≤ n && n ≤ 13) || n = 32 || n = 0x85 || n = 0xA0 || n = 0x1680
    || (0x2000 ≤ n && n ≤ 0x200A) || n = 0x2028 || n = 0x2029 || n = 0x202F || n = 0x205F
    || n = 0x3000

/-- The characters without the white space around them. -/
def trimChars (l : List Char) : List Char := (l.dropWhile isWhitespace).rdropWhile isWhitespace

/-- The text without the white space around it. -/
def trim (s : String) : String := String.ofList (trimChars s.toList)

@[simp] theorem toList_trim (s : String) : (trim s).toList = trimChars s.toList := by simp [trim]

/-- Trimming leaves alone what neither starts nor ends with white space. -/
theorem trimChars_eq_self_iff {l : List Char} : trimChars l = l ↔
    (∀ c ∈ l.head?, isWhitespace c = false) ∧ ∀ c ∈ l.getLast?, isWhitespace c = false := by
  have hdrop : l.dropWhile isWhitespace = l ↔ ∀ c ∈ l.head?, isWhitespace c = false := by
    cases l with
    | nil => simp
    | cons a l => simp [List.dropWhile_eq_self_iff]
  have hrdrop : l.rdropWhile isWhitespace = l ↔ ∀ c ∈ l.getLast?, isWhitespace c = false := by
    rw [List.rdropWhile_eq_self_iff]
    rcases List.eq_nil_or_concat l with rfl | ⟨l', a, rfl⟩ <;> simp
  rw [← hdrop, ← hrdrop]
  constructor
  · intro h
    -- each of the two steps only shortens
    have h₁ : (trimChars l).length ≤ (l.dropWhile isWhitespace).length :=
      (List.rdropWhile_prefix isWhitespace _).length_le
    have hd : l.dropWhile isWhitespace = l :=
      (List.dropWhile_suffix isWhitespace).eq_of_length_le (by rwa [h] at h₁)
    refine ⟨hd, ?_⟩
    rwa [trimChars, hd] at h
  · rintro ⟨hd, hr⟩
    rw [trimChars, hd, hr]

theorem trimChars_trimChars (l : List Char) : trimChars (trimChars l) = trimChars l := by
  rw [trimChars_eq_self_iff]
  constructor
  · intro c hc
    -- the first character left is the first that was not dropped
    have hpre : trimChars l <+: l.dropWhile isWhitespace := List.rdropWhile_prefix isWhitespace _
    have hhead : (l.dropWhile isWhitespace).head? = some c := by
      obtain ⟨x, hx⟩ := hpre
      rw [← hx, List.head?_append, Option.mem_def.mp hc]
      rfl
    have hnot := List.head?_dropWhile_not isWhitespace l
    rw [hhead] at hnot
    simpa using hnot
  · intro c hc
    have hne : trimChars l ≠ [] := by
      rintro h
      simp [h] at hc
    have hlast := List.rdropWhile_last_not isWhitespace (l.dropWhile isWhitespace) hne
    rw [List.getLast?_eq_some_getLast hne] at hc
    obtain rfl := Option.some.inj hc
    exact eq_false_of_ne_true hlast

/-- Trimming twice is trimming once. -/
@[simp] theorem trim_trim (s : String) : trim (trim s) = trim s := by
  rw [← String.toList_inj]
  simp [trimChars_trimChars]

/-- Trimming leaves alone what neither starts nor ends with white space. -/
theorem trim_eq_self_iff {s : String} : trim s = s ↔
    (∀ c ∈ s.toList.head?, isWhitespace c = false) ∧
      ∀ c ∈ s.toList.getLast?, isWhitespace c = false := by
  rw [← trimChars_eq_self_iff, ← String.toList_inj, toList_trim]

/-- The same, as a test of the two outer characters. -/
theorem trim_eq_self_iff_all {s : String} : trim s = s ↔
    (s.toList.head?.all fun c => !isWhitespace c) = true ∧
      (s.toList.getLast?.all fun c => !isWhitespace c) = true := by
  simp only [trim_eq_self_iff, Option.all_eq_true, Bool.not_eq_true', Option.mem_def]

/-- Nothing is left when there is only white space. -/
theorem trim_eq_empty_iff {s : String} :
    trim s = "" ↔ ∀ c ∈ s.toList, isWhitespace c = true := by
  rw [← String.toList_inj, toList_trim, trimChars]
  constructor
  · intro h
    have hdrop : ∀ c ∈ s.toList.dropWhile isWhitespace, isWhitespace c = true :=
      List.rdropWhile_eq_nil_iff.mp h
    rw [← List.takeWhile_append_dropWhile (p := isWhitespace) (l := s.toList)]
    intro c hc
    rcases List.mem_append.mp hc with hc | hc
    · exact List.mem_takeWhile_imp hc
    · exact hdrop c hc
  · intro h
    rw [List.dropWhile_eq_nil_iff.mpr h]
    rfl

end Trim
