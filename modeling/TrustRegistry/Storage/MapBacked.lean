import TrustRegistry.Domain.Key
import TrustRegistry.Lib.KeyedTable

/-!
# Backends as tables

What a repository is for: a table of records by key.  A backend decides what a key
is, the tuple of a record or its string form.

## Main definitions

* `RecordChange.change` — the change of the table that a change of the records is.
* `MapBacked` — a backend that keeps a table.
* `MapAnswers` — every operation answers from the table.
* `Embeds` — a backend is another one, seen through a map of the states.
* `RepositoryCall`, `TrustRecordAdminRepository.after` — calls of the interface,
  and the state they lead to.

## Main results

* `MapBacked.of_made` — a backend that makes what fits keeps a table.
* `MapBacked.answers` — a backend that keeps a table answers from it.
* `MapBacked.run` — what the table holds after any calls.
* `MapBacked.comap` — what is seen through a table keeps it.
-/

namespace TrustRegistry

open KeyedTable

/-! ### Changes of the table -/

namespace RecordChange

variable {K : Type*} (key : TrustRecordKey → K)

/-- The change of the table that a change of the records is. -/
def change : RecordChange → Change K TrustRecord
  | create r => .create (key (.fromRecord r)) r
  | update r => .update (key (.fromRecord r)) r
  | delete q => .delete (key (.fromQuery q))

/-- The error of a change that does not fit. -/
def refusal : RecordChange → String → RepositoryError
  | create _ => .recordAlreadyExists
  | update _ | delete _ => .recordNotFound

end RecordChange

/-! ### Backends that keep a table -/

section

variable {σ K : Type*} [DecidableEq K] (R : TrustRecordAdminRepository σ)
  (key : TrustRecordKey → K)

/-- A backend keeps the table `lookup` while its states satisfy `Inv`: it looks
records up in it and makes the changes that fit. -/
structure MapBacked (lookup : σ → K → Option TrustRecord) (Inv : σ → Prop) : Prop where
  inv : ∀ s c, Inv s → Inv (R.call s c).2
  lookup_call : ∀ s c, Inv s → lookup (R.call s c).2 = (c.change key).apply (lookup s)
  accepted : ∀ s c, Inv s → (c.change key).fits (lookup s) = true → (R.call s c).1 = .ok ()
  refused : ∀ s c, Inv s → (c.change key).fits (lookup s) = false →
    ∃ e, (R.call s c).1 = .error (c.refusal e)
  find : ∀ s q, Inv s → R.findByQuery s q = .ok (lookup s (key (.fromQuery q)))
  read_ok : ∀ s q r, Inv s → lookup s (key (.fromQuery q)) = some r → R.read s q = .ok r
  read_missing : ∀ s q, Inv s → lookup s (key (.fromQuery q)) = none →
    ∃ e, R.read s q = .error (.recordNotFound e)
  list : ∀ s, Inv s → ∃ l, R.list s = .ok l ∧ Enumerates (lookup s) l

/-- In a state every operation answers from the table `m`: what is there is found,
read and listed, and a change is refused, as one of a record that exists or of one
that does not, exactly when it does not fit. -/
structure MapAnswers (m : K → Option TrustRecord) (s : σ) : Prop where
  find : ∀ q, R.findByQuery s q = .ok (m (key (.fromQuery q)))
  read : ∀ q r, R.read s q = .ok r ↔ m (key (.fromQuery q)) = some r
  read_missing : ∀ q, (∃ e, R.read s q = .error (.recordNotFound e)) ↔ m (key (.fromQuery q)) = none
  create : ∀ r, (R.create s r).1 = .ok () ↔ m (key (.fromRecord r)) = none
  create_exists : ∀ r, (∃ e, (R.create s r).1 = .error (.recordAlreadyExists e)) ↔
    m (key (.fromRecord r)) ≠ none
  update : ∀ r, (R.update s r).1 = .ok () ↔ m (key (.fromRecord r)) ≠ none
  update_missing : ∀ r, (∃ e, (R.update s r).1 = .error (.recordNotFound e)) ↔
    m (key (.fromRecord r)) = none
  delete : ∀ q, (R.delete s q).1 = .ok () ↔ m (key (.fromQuery q)) ≠ none
  delete_missing : ∀ q, (∃ e, (R.delete s q).1 = .error (.recordNotFound e)) ↔
    m (key (.fromQuery q)) = none
  list : ∃ l, R.list s = .ok l ∧ Enumerates m l

/-- A call of the interface. -/
inductive RepositoryCall
  | change (c : RecordChange)
  | findByQuery (q : TrustRecordQuery)
  | read (q : TrustRecordQuery)
  | list

/-- The change that a call makes, if it makes one. -/
def RepositoryCall.recordChange : RepositoryCall → Option RecordChange
  | change c => some c
  | findByQuery _ | read _ | list => none

/-- The state that a call leads to. -/
def TrustRecordAdminRepository.next (s : σ) (c : RepositoryCall) : σ :=
  match c with
  | .change c => (R.call s c).2
  | .findByQuery _ | .read _ | .list => s

/-- The state that calls lead to. -/
def TrustRecordAdminRepository.after (s : σ) (cs : List RepositoryCall) : σ := cs.foldl R.next s

/-- The changes of a table that calls make. -/
def recordChanges (cs : List RepositoryCall) : List (Change K TrustRecord) :=
  cs.filterMap fun c => c.recordChange.map (RecordChange.change key)

namespace MapBacked

variable {R key} {lookup : σ → K → Option TrustRecord} {Inv : σ → Prop}

/-- A change is accepted or refused, by what the table has at its key. -/
theorem call_iff (h : MapBacked R key lookup Inv) {s : σ} (hs : Inv s) (c : RecordChange) :
    ((R.call s c).1 = .ok () ↔ (c.change key).fits (lookup s) = true) ∧
      ((∃ e, (R.call s c).1 = .error (c.refusal e)) ↔ (c.change key).fits (lookup s) = false) := by
  cases hfits : (c.change key).fits (lookup s) with
  | true =>
    have hok := h.accepted s c hs hfits
    simp [hok]
  | false =>
    obtain ⟨e, he⟩ := h.refused s c hs hfits
    simp [he]

/-- **A backend that keeps a table answers from it.** -/
theorem answers (h : MapBacked R key lookup Inv) {s : σ} (hs : Inv s) :
    MapAnswers R key (lookup s) s where
  find q := h.find s q hs
  read q r := by
    cases hm : lookup s (key (.fromQuery q)) with
    | none =>
      obtain ⟨e, he⟩ := h.read_missing s q hs hm
      simp [he]
    | some r' => simp [h.read_ok s q r' hs hm]
  read_missing q := by
    cases hm : lookup s (key (.fromQuery q)) with
    | none =>
      have he := h.read_missing s q hs hm
      simp [he]
    | some r' => simp [h.read_ok s q r' hs hm]
  create r := (h.call_iff hs (.create r)).1.trans Option.isNone_iff_eq_none
  create_exists r := (h.call_iff hs (.create r)).2.trans
    (Option.isNone_eq_false_iff.trans Option.ne_none_iff_isSome.symm)
  update r := (h.call_iff hs (.update r)).1.trans Option.ne_none_iff_isSome.symm
  update_missing r := (h.call_iff hs (.update r)).2.trans
    (Option.isSome_eq_false_iff.trans Option.isNone_iff_eq_none)
  delete q := (h.call_iff hs (.delete q)).1.trans Option.ne_none_iff_isSome.symm
  delete_missing q := (h.call_iff hs (.delete q)).2.trans
    (Option.isSome_eq_false_iff.trans Option.isNone_iff_eq_none)
  list := h.list s hs

/-- A backend keeps a table when it makes the changes that fit, and refuses the
others. -/
theorem of_made {made : σ → RecordChange → σ} {text : RecordChange → String}
    (hcall : ∀ s c, Inv s → R.call s c =
      if (c.change key).fits (lookup s) then (.ok (), made s c)
      else (.error (c.refusal (text c)), s))
    (hinv : ∀ s c, Inv s → Inv (made s c))
    (hmade : ∀ s c, lookup (made s c)
      = Function.update (lookup s) (c.change key).key (c.change key).result)
    (find : ∀ s q, Inv s → R.findByQuery s q = .ok (lookup s (key (.fromQuery q))))
    (read_ok : ∀ s q r, Inv s → lookup s (key (.fromQuery q)) = some r → R.read s q = .ok r)
    (read_missing : ∀ s q, Inv s → lookup s (key (.fromQuery q)) = none →
      ∃ e, R.read s q = .error (.recordNotFound e))
    (list : ∀ s, Inv s → ∃ l, R.list s = .ok l ∧ Enumerates (lookup s) l) :
    MapBacked R key lookup Inv where
  inv s c hs := by
    rw [hcall s c hs]
    split
    · exact hinv s c hs
    · exact hs
  lookup_call s c hs := by
    rw [hcall s c hs, Change.apply]
    split
    · exact hmade s c
    · rfl
  accepted s c hs hfits := by rw [hcall s c hs, if_pos hfits]
  refused s c hs hfits := by
    rw [hcall s c hs, hfits]
    exact ⟨text c, rfl⟩
  find := find
  read_ok := read_ok
  read_missing := read_missing
  list := list

/-- The calls are changes of the table, or none. -/
theorem refinement (h : MapBacked R key lookup Inv) :
    Refinement R.next (fun c => c.recordChange.map (RecordChange.change key)) lookup Inv where
  inv s c hs := by
    cases c with
    | change c => exact h.inv s c hs
    | findByQuery q => exact hs
    | read q => exact hs
    | list => exact hs
  lookup s c hs := by
    cases c with
    | change c => exact h.lookup_call s c hs
    | findByQuery q => rfl
    | read q => rfl
    | list => rfl

/-- **What the table holds after any calls**: what their changes leave, and the
operations answer from it. -/
theorem run (h : MapBacked R key lookup Inv) {s : σ} (hs : Inv s) (cs : List RepositoryCall) :
    Inv (R.after s cs) ∧
      MapAnswers R key (contents (lookup s) (recordChanges key cs)) (R.after s cs) := by
  obtain ⟨hinv, hlookup⟩ := h.refinement.run cs s hs
  exact ⟨hinv, hlookup ▸ h.answers hinv⟩

end MapBacked

/-! ### Backends that are seen through another -/

/-- Every operation of the one backend is the other's on the states that `f` shows
it. -/
structure Embeds {τ : Type*} (R' : TrustRecordAdminRepository τ) (f : τ → σ) : Prop where
  call : ∀ s c, R.call (f s) c = ((R'.call s c).1, f (R'.call s c).2)
  find : ∀ s q, R.findByQuery (f s) q = R'.findByQuery s q
  read : ∀ s q, R.read (f s) q = R'.read s q
  list : ∀ s, R.list (f s) = R'.list s

variable {R key} in
/-- A backend that is seen through one that keeps a table keeps it too. -/
theorem MapBacked.comap {τ : Type*} {R' : TrustRecordAdminRepository τ} {f : τ → σ}
    {lookup : σ → K → Option TrustRecord} {Inv : σ → Prop} (h : MapBacked R key lookup Inv)
    (hf : Embeds R R' f) :
    MapBacked R' key (fun s => lookup (f s)) (fun s => Inv (f s)) where
  inv s c hs := by
    have hinv := h.inv (f s) c hs
    rwa [hf.call] at hinv
  lookup_call s c hs := by
    have hlookup := h.lookup_call (f s) c hs
    rwa [hf.call] at hlookup
  accepted s c hs hfits := by
    have hok := h.accepted (f s) c hs hfits
    rwa [hf.call] at hok
  refused s c hs hfits := by
    have herror := h.refused (f s) c hs hfits
    rwa [hf.call] at herror
  find s q hs := by rw [← hf.find, h.find (f s) q hs]
  read_ok s q r hs hr := by rw [← hf.read, h.read_ok (f s) q r hs hr]
  read_missing s q hs hr := by rw [← hf.read]; exact h.read_missing (f s) q hs hr
  list s hs := by rw [← hf.list]; exact h.list (f s) hs

end

end TrustRegistry
