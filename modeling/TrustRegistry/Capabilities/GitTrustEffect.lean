import TrustRegistry.Capabilities.GitTrust
import TrustRegistry.Storage.LockedStorage

/-!
# What a grant and a revocation change

A grant stores a record that is recognized and authorized; a revocation replaces
the record it finds by one that is put together from parts of it.  Here both are
traced through the in-memory backend and back out through the two query tasks, for
every state of it, a poisoned lock among them.

## Main definitions

* `GitTrust.Answers` — a query task answers a tuple with a given verdict.
* `GitTrust.GrantEffect`, `GitTrust.RevokeEffect` — what the two handlers change,
  and what they leave.

## Main results

* `GitTrust.grant_ok_iff`, `GitTrust.revoke_ok_iff` — when a handler succeeds.
* `GitTrust.effect_and_frame` — the handlers change the tuple they are about, and
  nothing when they fail.
-/

namespace TrustRegistry

open LockedStorage

namespace GitTrust

section

variable (F : Framework)

/-- Whoever asks about the tuple, and whenever, gets this verdict. -/
def Answers (ask : String → ℤ → TrustTask → QueryPayload → LockedStorage → TaskOutcome)
    (write : Verdict → Except String Json) (s : LockedStorage) (q : TrustRecordQuery)
    (granted : Bool) : Prop :=
  ∀ newId now doc p, queryOf p = q → ∃ v : Verdict, v.query = p ∧ v.granted = granted ∧
    ask newId now doc p s = respond F newId doc (write v)

/-- The answer to the recognition query of a tuple. -/
def RecognitionAnswer : LockedStorage → TrustRecordQuery → Bool → Prop :=
  Answers F (handleRecognition F repository) F.specs.recognitionResponse

/-- The answer to its authorization query. -/
def AuthorizationAnswer : LockedStorage → TrustRecordQuery → Bool → Prop :=
  Answers F (handleAuthorization F repository) F.specs.authorizationResponse

variable (newId : String) (authority : Option String) (doc : TrustTask) (p : GitTrustPayload)
  (s : LockedStorage)

/-- What a grant changes: a success makes both queries of its tuple say yes, and
leaves every other tuple alone; a failure leaves the state as it is. -/
structure GrantEffect : Prop where
  granted : ∀ response s', handleGrant F repository newId authority doc p s = (.ok response, s') →
    ∃ a, authority = some a ∧ AuthorizationAnswer F s' (tuple a p) true ∧
      RecognitionAnswer F s' (tuple a p) true ∧ AgreeOff (tuple a p) s s'
  failed : ∀ e s', handleGrant F repository newId authority doc p s = (.error e, s') → s' = s

/-- What a revocation changes: a success makes the authorization query of its tuple
say no, keeps the record with its context and its answer to the recognition query,
and leaves every other tuple alone; a failure leaves the state as it is. -/
structure RevokeEffect : Prop where
  revoked : ∀ response s', handleRevoke F repository newId authority doc p s = (.ok response, s') →
    ∃ a r r', authority = some a ∧ AuthorizationAnswer F s' (tuple a p) false ∧
      repository.read s (tuple a p) = .ok r ∧ repository.read s' (tuple a p) = .ok r' ∧
      r'.context = r.context ∧ r'.isRecognized = r.isRecognized ∧
      RecognitionAnswer F s (tuple a p) r.isRecognized ∧
      RecognitionAnswer F s' (tuple a p) r.isRecognized ∧ AgreeOff (tuple a p) s s'
  failed : ∀ e s', handleRevoke F repository newId authority doc p s = (.error e, s') → s' = s

end

variable {F : Framework} {newId : String} {authority : Option String} {doc : TrustTask}
  {p : GitTrustPayload} {s s' : LockedStorage} {o : TaskOutcome}

/-! ### The queries of a tuple that has a record -/

theorem answers_of_find {answer : TrustRecord → Bool} {message : TrustRecord → String}
    {write : Verdict → Except String Json} {q : TrustRecordQuery} {r : TrustRecord}
    (hlock : s.poisoned = false) (h : s.storage.records.find q = some r) :
    Answers F (fun newId => handleQuery F repository newId answer message write) write s q
      (answer r) := by
  intro newId now doc p hp
  have hfound : repository.findByQuery s (queryOf p) = .ok (some r) :=
    findByQuery_of_find hlock (by rw [hp, h])
  refine ⟨⟨p, answer r, now, p.time, some (message r)⟩, rfl, rfl, ?_⟩
  simp only [handleQuery, hfound, Option.map_some, Option.getD_some]

theorem recognitionAnswer_of_find {q : TrustRecordQuery} {r : TrustRecord}
    (hlock : s.poisoned = false) (h : s.storage.records.find q = some r) :
    RecognitionAnswer F s q r.isRecognized := answers_of_find hlock h

theorem authorizationAnswer_of_find {q : TrustRecordQuery} {r : TrustRecord}
    (hlock : s.poisoned = false) (h : s.storage.records.find q = some r) :
    AuthorizationAnswer F s q r.isAuthorized := answers_of_find hlock h

/-! ### How the handlers end -/

/-- A grant ends with its record put where there was none, or in a failure that
changes nothing. -/
theorem handleGrant_cases (h : handleGrant F repository newId authority doc p s = (o, s')) :
    (∃ a, authority = some a ∧ s.poisoned = false ∧
      s.storage.records.find (tuple a p) = none ∧ o = changed F newId doc p "granted" ∧
      s' = s.put (grantRecord a p)) ∨
    ((∃ e, o = .error e) ∧ s' = s) := by
  cases authority with
  | none =>
    obtain ⟨rfl, rfl⟩ := Prod.mk.inj h
    exact .inr ⟨⟨_, rfl⟩, rfl⟩
  | some a =>
    simp only [handleGrant, requireAuthority] at h
    rcases hcreate : repository.create s (grantRecord a p) with ⟨e | u, t⟩
    · rw [hcreate] at h
      have hsame := call_error (c := .create (grantRecord a p)) hcreate
      subst hsame
      right
      cases e <;> (obtain ⟨rfl, rfl⟩ := Prod.mk.inj h; exact ⟨⟨_, rfl⟩, rfl⟩)
    · rw [hcreate] at h
      obtain ⟨rfl, rfl⟩ := Prod.mk.inj h
      obtain ⟨hlock, hnone, hput⟩ := create_ok hcreate
      exact .inl ⟨a, rfl, hlock, hnone, rfl, hput⟩

/-- A revocation ends with the record it has found replaced, or in a failure that
changes nothing. -/
theorem handleRevoke_cases (h : handleRevoke F repository newId authority doc p s = (o, s')) :
    (∃ a r, authority = some a ∧ s.poisoned = false ∧
      s.storage.records.find (tuple a p) = some r ∧ o = changed F newId doc p "revoked" ∧
      s' = s.put (revokedRecord a p r)) ∨
    ((∃ e, o = .error e) ∧ s' = s) := by
  cases authority with
  | none =>
    obtain ⟨rfl, rfl⟩ := Prod.mk.inj h
    exact .inr ⟨⟨_, rfl⟩, rfl⟩
  | some a =>
    simp only [handleRevoke, requireAuthority] at h
    rcases hread : repository.read s (tuple a p) with e | r
    · rw [hread] at h
      right
      cases e <;> (obtain ⟨rfl, rfl⟩ := Prod.mk.inj h; exact ⟨⟨_, rfl⟩, rfl⟩)
    · rw [hread] at h
      obtain ⟨hlock, hfind⟩ := read_ok hread
      rcases hupdate : repository.update s (revokedRecord a p r) with ⟨e | u, t⟩
      · simp only [hupdate] at h
        obtain ⟨rfl, rfl⟩ := Prod.mk.inj h
        exact .inr ⟨⟨_, rfl⟩, call_error (c := .update (revokedRecord a p r)) hupdate⟩
      · simp only [hupdate] at h
        obtain ⟨rfl, rfl⟩ := Prod.mk.inj h
        exact .inl ⟨a, r, rfl, hlock, hfind, rfl, update_ok hupdate⟩

/-- A grant succeeds exactly when there is an authority, the lock is sound and the
tuple has no record. -/
theorem grant_ok_iff :
    (∃ response s', handleGrant F repository newId authority doc p s = (.ok response, s')) ↔
    ∃ a, authority = some a ∧ s.poisoned = false ∧ s.storage.records.find (tuple a p) = none := by
  constructor
  · rintro ⟨response, s', hok⟩
    rcases handleGrant_cases hok with ⟨a, ha, hlock, hnone, -⟩ | ⟨⟨e, he⟩, -⟩
    · exact ⟨a, ha, hlock, hnone⟩
    · cases he
  · rintro ⟨a, rfl, hlock, hnone⟩
    have hkey : s.storage.records.containsKey (.fromRecord (grantRecord a p)) = false := by
      rw [RecordMap.containsKey_eq_false, ← hnone, RecordMap.find_eq_get?]
      rfl
    refine ⟨F.respondWith doc newId (.obj [("subject", .str p.subject),
      ("resource", .str p.resource), ("granted", .bool true)]), s.put (grantRecord a p), ?_⟩
    simp only [handleGrant, requireAuthority, repository, writing, LocalStorage.create, hlock, hkey,
      Bool.false_eq_true, if_false, put]
    rfl

/-- A revocation succeeds exactly when there is an authority, the lock is sound and
the tuple has a record, of whatever type and with whatever answers. -/
theorem revoke_ok_iff :
    (∃ response s', handleRevoke F repository newId authority doc p s = (.ok response, s')) ↔
    ∃ a r, authority = some a ∧ s.poisoned = false ∧
      s.storage.records.find (tuple a p) = some r := by
  constructor
  · rintro ⟨response, s', hok⟩
    rcases handleRevoke_cases hok with ⟨a, r, ha, hlock, hfind, -⟩ | ⟨⟨e, he⟩, -⟩
    · exact ⟨a, r, ha, hlock, hfind⟩
    · cases he
  · rintro ⟨a, r, rfl, hlock, hfind⟩
    have hread := read_of_find hlock hfind
    have hkey : s.storage.records.containsKey (.fromRecord (revokedRecord a p r)) = true := by
      rw [RecordMap.containsKey_eq_true]
      exact ⟨r, by rw [← hfind, RecordMap.find_eq_get?]; rfl⟩
    refine ⟨F.respondWith doc newId (.obj [("subject", .str p.subject),
      ("resource", .str p.resource), ("revoked", .bool true)]), s.put (revokedRecord a p r), ?_⟩
    simp only [handleRevoke, requireAuthority, hread]
    simp only [repository, writing, LocalStorage.update, hlock, hkey, Bool.false_eq_true, if_false,
      if_true, put]
    rfl

/-! ### The effects -/

theorem grantEffect : GrantEffect F newId authority doc p s where
  granted response s' h := by
    rcases handleGrant_cases h with ⟨a, ha, hlock, -, -, rfl⟩ | ⟨⟨e, he⟩, -⟩
    · have hsound : (s.put (grantRecord a p)).poisoned = false := hlock
      have hput := find_put_self s (grantRecord a p)
      exact ⟨a, ha, authorizationAnswer_of_find hsound hput, recognitionAnswer_of_find hsound hput,
        put_agreeOff s (grantRecord a p)⟩
    · cases he
  failed e s' h := by
    rcases handleGrant_cases h with ⟨a, -, -, -, hchanged, -⟩ | ⟨-, hsame⟩
    · exact absurd hchanged.symm (changed_ne_error F newId)
    · exact hsame

theorem revokeEffect : RevokeEffect F newId authority doc p s where
  revoked response s' h := by
    rcases handleRevoke_cases h with ⟨a, r, ha, hlock, hfind, -, rfl⟩ | ⟨⟨e, he⟩, -⟩
    · have hsound : (s.put (revokedRecord a p r)).poisoned = false := hlock
      have hput := find_put_self s (revokedRecord a p r)
      -- the new record is recognized as the old one was
      have hrecognition : RecognitionAnswer F (s.put (revokedRecord a p r)) (tuple a p)
          (revokedRecord a p r).isRecognized := recognitionAnswer_of_find hsound hput
      exact ⟨a, r, revokedRecord a p r, ha, authorizationAnswer_of_find hsound hput,
        read_of_find hlock hfind, read_of_find hsound hput, rfl, rfl,
        recognitionAnswer_of_find hlock hfind, hrecognition,
        put_agreeOff s (revokedRecord a p r)⟩
    · cases he
  failed e s' h := by
    rcases handleRevoke_cases h with ⟨a, r, -, -, -, hchanged, -⟩ | ⟨-, hsame⟩
    · exact absurd hchanged.symm (changed_ne_error F newId)
    · exact hsame

/-- **Grants and revocations change the tuple they are about, and nothing when they
fail**: for every state of the in-memory backend, whatever record the tuple has and
whatever the lock, and with or without an authority. -/
theorem effect_and_frame (F : Framework) (newId : String) (authority : Option String)
    (doc : TrustTask) (p : GitTrustPayload) (s : LockedStorage) :
    GrantEffect F newId authority doc p s ∧ RevokeEffect F newId authority doc p s :=
  ⟨grantEffect, revokeEffect⟩

/-- A member that is recognized alone, by a record that says nothing about
authorization, keeps the recognition through a revocation. -/
example :
    let recognition : TrustRecord :=
      { grantRecord "did:web:community" ⟨"did:web:member", "org/repo"⟩ with
        authorized := none
        recordType := .recognition }
    let q := recognition.query
    let s := unlocked (LocalStorage.withRecords [recognition])
    let doc : TrustTask := { id := "task", typeUri := .gitTrustRevoke, payload := .null }
    let t := (handleRevoke (Framework.sample .null [] doc) repository "1"
      (some "did:web:community") doc ⟨"did:web:member", "org/repo"⟩ s).2
    t.storage.records.find q
      = some { recognition with authorized := some false, recordType := .authorization } := by
  decide

end GitTrust

end TrustRegistry
