import Mathlib.Data.List.DropRight

/-!
# The authority of a URI

What stands behind the `//` of a URI, up to its path, query or fragment, taken
apart as RFC 3986 has it: `userinfo@host:port`, where the user information ends at
the last `@`, and a host in brackets may have colons.

## Main definitions

* `Uri.authority`, `Uri.hostPort`, `Uri.host` — the parts.
* `Uri.Endable` — a tail that a host may be followed by.
* `Uri.IsHost` — a name, or a literal in brackets.

## Main results

* `Uri.authority_append` — where an authority ends.
* `Uri.host_eq_iff` — a host is followed by nothing or by a port.
-/

namespace Uri

/-- May a character stand in an authority? -/
def inAuthority (c : Char) : Bool := c ≠ '/' ∧ c ≠ '?' ∧ c ≠ '#'

/-- The authority at the front of what follows the `//`. -/
def authority (rest : List Char) : List Char := rest.takeWhile inAuthority

/-- An authority without its user information. -/
def hostPort (a : List Char) : List Char := a.rtakeWhile (· ≠ '@')

/-- The host in front of a port. -/
def host : List Char → List Char
  | '[' :: l =>
    '[' :: (l.takeWhile (· ≠ ']') ++ (l.dropWhile (· ≠ ']')).takeWhile (· ≠ ':'))
  | l => l.takeWhile (· ≠ ':')

/-- Nothing, or a port. -/
def Endable (tail : List Char) : Prop := ∀ c ∈ tail.head?, c = ':'

instance (tail : List Char) : Decidable (Endable tail) :=
  inferInstanceAs (Decidable (∀ c ∈ tail.head?, c = ':'))

/-- A name, or a literal in brackets. -/
inductive IsHost : List Char → Prop
  | name {n : List Char} (hcolon : ':' ∉ n) (hbracket : '[' ∉ n.head?) : IsHost n
  | literal {n : List Char} (hbracket : ']' ∉ n) : IsHost ('[' :: (n ++ [']']))

/-! ### Where the parts end -/

/-- What stands in front of a character that does not belong is taken. -/
theorem takeWhile_eq_iff {p : Char → Bool} {l n : List Char} :
    l.takeWhile p = n ↔
      (∀ c ∈ n, p c = true) ∧ ∃ tail, l = n ++ tail ∧ ∀ c ∈ tail.head?, p c = false := by
  constructor
  · rintro rfl
    refine ⟨fun c hc => List.mem_takeWhile_imp hc, l.dropWhile p,
      (List.takeWhile_append_dropWhile).symm, fun c hc => ?_⟩
    have hne : l.dropWhile p ≠ [] := by
      rintro hnil
      simp [hnil] at hc
    have hhead := List.head_dropWhile_not p hne
    rw [List.head?_eq_some_head hne] at hc
    obtain rfl := Option.some.inj hc
    exact hhead
  · rintro ⟨hall, tail, rfl, htail⟩
    rw [List.takeWhile_append_of_pos hall]
    cases tail with
    | nil => simp
    | cons c tail => simp [htail c rfl]

/-- An authority goes on as long as nothing ends it. -/
theorem authority_append {n : List Char} (h : ∀ c ∈ n, inAuthority c = true) (rest : List Char) :
    authority (n ++ rest) = n ++ authority rest := List.takeWhile_append_of_pos h

/-- Without an `@` there is no user information. -/
theorem hostPort_eq_self {a : List Char} (h : '@' ∉ a) : hostPort a = a := by
  refine List.rtakeWhile_eq_self_iff.mpr fun c hc => ?_
  exact decide_eq_true fun he => h (he ▸ hc)

theorem host_of_not_bracket {l : List Char} (h : '[' ∉ l.head?) :
    host l = l.takeWhile (· ≠ ':') := by
  unfold host
  split
  · exact absurd rfl h
  · rfl

theorem takeWhile_eq_nil_iff_endable {tail : List Char} :
    tail.takeWhile (· ≠ ':') = [] ↔ Endable tail := by
  cases tail with
  | nil => simp [Endable]
  | cons c tail => simp [Endable]

/-- A literal ends at its first `]`. -/
theorem takeWhile_literal_iff (l : List Char) : ∀ {n : List Char}, ']' ∉ n →
    (l.takeWhile (· ≠ ']') ++ (l.dropWhile (· ≠ ']')).takeWhile (· ≠ ':') = n ++ [']'] ↔
      ∃ tail, l = n ++ ']' :: tail ∧ Endable tail) := by
  induction l with
  | nil => simp
  | cons c l ih =>
    intro n hn
    by_cases hc : c = ']'
    · subst hc
      cases n with
      | nil =>
        have htail : l.takeWhile (· ≠ ':') = [] ↔ Endable l := takeWhile_eq_nil_iff_endable
        rw [List.takeWhile_cons_of_neg (by simp), List.dropWhile_cons_of_neg (by simp),
          List.takeWhile_cons_of_pos (by decide)]
        simpa using htail
      | cons d n =>
        have hd : ']' ≠ d := fun h => hn (h ▸ List.mem_cons_self)
        simp [hd]
    · cases n with
      | nil => simp [hc]
      | cons d n =>
        have hrest : ']' ∉ n := fun h => hn (List.mem_cons_of_mem _ h)
        have hl := ih hrest
        by_cases hd : c = d
        · subst hd
          simpa [hc] using hl
        · simp [hc, hd]

/-- **A host is followed by nothing or by a port.** -/
theorem host_eq_iff {n l : List Char} (hn : IsHost n) :
    host l = n ↔ ∃ tail, l = n ++ tail ∧ Endable tail := by
  by_cases hl : '[' ∈ l.head?
  · obtain ⟨l, rfl⟩ : ∃ l', l = '[' :: l' := by
      cases l with
      | nil => cases hl
      | cons c l => exact ⟨l, by rw [Option.some.inj hl]⟩
    cases hn with
    | name hcolon hbracket =>
      cases n with
      | nil => simp [host, Endable]
      | cons c n =>
        have hc : '[' ≠ c := fun h => hbracket (h ▸ rfl)
        simp [host, hc]
    | @literal n hbracket =>
      rw [host, List.cons.injEq, eq_self_iff_true, true_and, takeWhile_literal_iff l hbracket]
      simp
  · rw [host_of_not_bracket hl]
    cases hn with
    | name hcolon hbracket =>
      rw [takeWhile_eq_iff]
      constructor
      · rintro ⟨-, tail, rfl, htail⟩
        exact ⟨tail, rfl, fun c hc => by simpa using htail c hc⟩
      · rintro ⟨tail, rfl, htail⟩
        refine ⟨fun c hc => decide_eq_true fun he => hcolon (he ▸ hc), tail, rfl, fun c hc => ?_⟩
        simp [htail c hc]
    | @literal n hbracket =>
      refine iff_of_false (fun h => ?_) ?_
      · have hmem : '[' ∈ (l.takeWhile (· ≠ ':')).head? := by rw [h]; rfl
        cases l with
        | nil => cases hmem
        | cons c l =>
          by_cases hc : c = ':' <;> simp [hc] at hmem hl
          exact hl hmem
      · rintro ⟨tail, rfl, -⟩
        exact hl rfl

end Uri
