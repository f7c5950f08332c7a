import TrustRegistry.Capabilities.GitTrustLifecycle
import TrustRegistry.Lib.TwoStep

/-!
# A revocation and an update at once

A revocation reads the record it revokes and writes its replacement in a second
access; the message loop runs every handler on a task of its own, so an update of
the same tuple may come in between.  The replacement is put together from what was
read, and writes the context and the recognition of that record back.

## Main definitions

* `GitTrust.revoking` — the two accesses of a revocation.
* `GitTrust.Race`, `GitTrust.Race.step` — a revocation and an update, access by
  access.
* `GitTrust.Race.Serial` — the record is what one after the other leaves.

## Main results

* `GitTrust.revoking_perform` — both accesses in a row are the handler.
* `GitTrust.Race.serial_iff` — when the record is what one after the other leaves.
-/

namespace TrustRegistry

open KeyedTable Transition

namespace GitTrust

/-! ### The accesses of a revocation -/

/-- A revocation and an update, as they are requested. -/
structure Contenders where
  authority : Option String
  revokeId : String
  revokeDoc : TrustTask
  payload : GitTrustPayload
  updateId : String
  updateDoc : TrustTask
  spec : Json

section

variable {σ : Type*} (F : Framework) (R : TrustRecordAdminRepository σ) (c : Contenders)

/-- Look up the record to revoke; without one the revocation is over. -/
def revokeRead (s : σ) : TaskOutcome ⊕ (String × TrustRecord) :=
  match c.authority with
  | none =>
    .inl (reject F c.revokeId c.revokeDoc
      (.internalError "git-trust is enabled without an authority DID in its config"))
  | some authority =>
    match R.read s (tuple authority c.payload) with
    | .error (.recordNotFound _) =>
      .inl (reject F c.revokeId c.revokeDoc (.taskFailed
        "not_granted: no active grant exists for this subject and resource" none))
    | .error e => .inl (reject F c.revokeId c.revokeDoc (.internalError e.display))
    | .ok existing => .inr (authority, existing)

/-- Write the replacement of the record that was found. -/
def revokeWrite (s : σ) (found : String × TrustRecord) : TaskOutcome × σ :=
  match R.update s (revokedRecord found.1 c.payload found.2) with
  | (.ok (), s) => (changed F c.revokeId c.revokeDoc c.payload "revoked", s)
  | (.error e, s) => (reject F c.revokeId c.revokeDoc (.internalError e.display), s)

/-- The two accesses of a revocation. -/
def revoking : TwoStep.Object σ Unit (String × TrustRecord) TaskOutcome where
  first s _ := revokeRead F R c s
  second s _ found := revokeWrite F R c s found

/-- The handler of the revocation. -/
def Contenders.revoke (s : σ) : TaskOutcome × σ :=
  handleRevoke F R c.revokeId c.authority c.revokeDoc c.payload s

/-- The handler of the update, which makes one access. -/
def Contenders.update (s : σ) : TaskOutcome × σ := handleUpdate F R c.updateId c.updateDoc c.spec s

/-- **Both accesses in a row are the handler.** -/
theorem revoking_perform (s : σ) : (revoking F R c).perform s () = c.revoke F R s := by
  unfold TwoStep.Object.perform Contenders.revoke handleRevoke requireAuthority
  simp only [revoking, revokeRead, revokeWrite]
  cases c.authority with
  | none => rfl
  | some authority =>
    dsimp only
    rcases R.read s (tuple authority c.payload) with e | existing
    · cases e <;> rfl
    · rfl

end

/-! ### The race -/

/-- How far the revocation has come. -/
inductive RevokePhase
  | pending
  | found (authority : String) (existing : TrustRecord)
  | returned (outcome : TaskOutcome)

/-- The records, how far the revocation has come, and what the update has answered
if it has. -/
structure Race (σ : Type*) where
  records : σ
  revoke : RevokePhase
  update : Option TaskOutcome

/-- The accesses to the records. -/
inductive RaceAction
  | read
  | write
  | update
  deriving DecidableEq

namespace Race

section

variable {σ : Type*} (F : Framework) (R : TrustRecordAdminRepository σ) (c : Contenders)

/-- Neither has begun. -/
def start (s : σ) : Race σ := ⟨s, .pending, none⟩

/-- One access. -/
def step (race : Race σ) : RaceAction → Option (Race σ)
  | .read =>
    match race.revoke with
    | .pending =>
      match (revoking F R c).first race.records () with
      | .inl outcome => some { race with revoke := .returned outcome }
      | .inr found => some { race with revoke := .found found.1 found.2 }
    | _ => none
  | .write =>
    match race.revoke with
    | .found authority existing =>
      let (outcome, records) := (revoking F R c).second race.records () (authority, existing)
      some { race with records, revoke := .returned outcome }
    | _ => none
  | .update =>
    match race.update with
    | none =>
      let (outcome, records) := c.update F R race.records
      some { race with records, update := some outcome }
    | some _ => none

/-- What the update leaves after the revocation. -/
def revokedFirst (s : σ) : σ := (c.update F R (c.revoke F R s).2).2

/-- What the revocation leaves after the update. -/
def updatedFirst (s : σ) : σ := (c.revoke F R (c.update F R s).2).2

/-- The record of the tuple is what the two leave one after the other. -/
def Serial (q : TrustRecordQuery) (s t : σ) : Prop :=
  R.findByQuery t q = R.findByQuery (revokedFirst F R c s) q ∨
    R.findByQuery t q = R.findByQuery (updatedFirst F R c s) q

end

/-! ### The orders of the accesses -/

section

variable {σ : Type*} {F : Framework} {R : TrustRecordAdminRepository σ} {c : Contenders}
  {race t : Race σ} {as : List RaceAction}

/-- A revocation that is over after its first access has failed. -/
theorem first_ne_ok {s : σ} {o : TrustTask} : (revoking F R c).first s () ≠ .inl (.ok o) := by
  simp only [revoking, revokeRead]
  cases c.authority with
  | none => exact fun h => nomatch Sum.inl.inj h
  | some authority =>
    dsimp only
    rcases R.read s (tuple authority c.payload) with e | existing
    · cases e <;> exact fun h => nomatch Sum.inl.inj h
    · exact nofun

/-- What the first access finds is the record of the tuple. -/
theorem read_of_first {s : σ} {authority : String} {existing : TrustRecord}
    (h : (revoking F R c).first s () = .inr (authority, existing)) :
    c.authority = some authority ∧ R.read s (tuple authority c.payload) = .ok existing := by
  simp only [revoking, revokeRead] at h
  cases hauthority : c.authority with
  | none => simp [hauthority] at h
  | some a =>
    rw [hauthority] at h
    dsimp only at h
    cases hread : R.read s (tuple a c.payload) with
    | error e => cases e <;> simp [hread] at h
    | ok r =>
      rw [hread] at h
      obtain ⟨rfl, rfl⟩ := Prod.mk.inj (Sum.inr.inj h)
      exact ⟨rfl, hread⟩

/-- When both have returned there is nothing left. -/
theorem exec_returned {o u : TaskOutcome} (hexec : exec (step F R c) race as = some t)
    (hrevoke : race.revoke = .returned o) (hupdate : race.update = some u) :
    as = [] ∧ t = race := by
  cases as with
  | nil => exact ⟨rfl, (Option.some.inj hexec).symm⟩
  | cons a as => cases a <;> simp [exec, step, hrevoke, hupdate] at hexec

/-- When the revocation has returned, the update is left. -/
theorem exec_update_left {o u : TaskOutcome} (hexec : exec (step F R c) race as = some t)
    (hrevoke : race.revoke = .returned o) (hupdate : race.update = none)
    (hdone : t.update = some u) :
    as = [.update] ∧ t.records = (c.update F R race.records).2 ∧ t.revoke = .returned o := by
  cases as with
  | nil =>
    obtain rfl := Option.some.inj hexec
    rw [hupdate] at hdone
    cases hdone
  | cons a as =>
    cases a with
    | read | write => simp [exec, step, hrevoke] at hexec
    | update =>
      simp only [exec, step, hupdate, Option.bind_some] at hexec
      obtain ⟨rfl, rfl⟩ := exec_returned hexec hrevoke rfl
      exact ⟨rfl, rfl, hrevoke⟩

/-- When the update has come after the first access, the second is left. -/
theorem exec_write_left {authority : String} {existing : TrustRecord} {o u : TaskOutcome}
    (hexec : exec (step F R c) race as = some t) (hrevoke : race.revoke = .found authority existing)
    (hupdate : race.update = some u) (hdone : t.revoke = .returned o) :
    as = [.write] ∧ t.records = (revokeWrite F R c race.records (authority, existing)).2 := by
  cases as with
  | nil =>
    obtain rfl := Option.some.inj hexec
    rw [hrevoke] at hdone
    cases hdone
  | cons a as =>
    cases a with
    | read | update => simp [exec, step, hrevoke, hupdate] at hexec
    | write =>
      simp only [exec, step, hrevoke, Option.bind_some] at hexec
      obtain ⟨rfl, rfl⟩ := exec_returned hexec rfl hupdate
      exact ⟨rfl, rfl⟩

/-- What both accesses leave, when the first has found a record. -/
theorem revoke_eq_of_first {s : σ} {found : String × TrustRecord}
    (hfirst : (revoking F R c).first s () = .inr found) :
    c.revoke F R s = revokeWrite F R c s found := by
  rw [← revoking_perform, TwoStep.Object.perform, hfirst]
  rfl

/-- When the update has come first, the revocation is left. -/
theorem exec_revoke_left {o : TrustTask} {u : TaskOutcome}
    (hexec : exec (step F R c) race as = some t) (hrevoke : race.revoke = .pending)
    (hupdate : race.update = some u) (hdone : t.revoke = .returned (.ok o)) :
    as = [.read, .write] ∧ t.records = (c.revoke F R race.records).2 := by
  cases as with
  | nil =>
    obtain rfl := Option.some.inj hexec
    rw [hrevoke] at hdone
    cases hdone
  | cons a as =>
    cases a with
    | write | update => simp [exec, step, hrevoke, hupdate] at hexec
    | read =>
      cases hfirst : (revoking F R c).first race.records () with
      | inl outcome =>
        simp only [exec, step, hrevoke, hfirst, Option.bind_some] at hexec
        obtain ⟨rfl, rfl⟩ := exec_returned hexec rfl hupdate
        obtain rfl := RevokePhase.returned.inj hdone
        exact absurd hfirst first_ne_ok
      | inr found =>
        simp only [exec, step, hrevoke, hfirst, Option.bind_some] at hexec
        obtain ⟨rfl, hrecords⟩ := exec_write_left hexec rfl hupdate hdone
        exact ⟨rfl, by rw [hrecords, revoke_eq_of_first hfirst]⟩

/-- **The orders of the accesses**: the update comes before the revocation, after it,
or in between. -/
theorem exec_cases {s : σ} {o : TrustTask} {u : TaskOutcome}
    (hexec : exec (step F R c) (start s) as = some t) (hrevoked : t.revoke = .returned (.ok o))
    (hupdated : t.update = some u) :
    as = [.update, .read, .write] ∧ t.records = updatedFirst F R c s ∨
    as = [.read, .write, .update] ∧ t.records = revokedFirst F R c s ∨
    as = [.read, .update, .write] ∧ ∃ authority existing,
      (revoking F R c).first s () = .inr (authority, existing) ∧
      t.records = (revokeWrite F R c (c.update F R s).2 (authority, existing)).2 := by
  cases as with
  | nil =>
    obtain rfl := Option.some.inj hexec
    cases hrevoked
  | cons a as =>
    cases a with
    | write => simp [exec, step, start] at hexec
    | update =>
      simp only [exec, step, start, Option.bind_some] at hexec
      obtain ⟨rfl, hrecords⟩ := exec_revoke_left hexec rfl rfl hrevoked
      exact .inl ⟨rfl, hrecords⟩
    | read =>
      cases hfirst : (revoking F R c).first s () with
      | inl outcome =>
        simp only [exec, step, start, hfirst, Option.bind_some] at hexec
        obtain ⟨-, -, hreturned⟩ := exec_update_left hexec rfl rfl hupdated
        rw [hrevoked] at hreturned
        obtain rfl := RevokePhase.returned.inj hreturned
        exact absurd hfirst first_ne_ok
      | inr found =>
        simp only [exec, step, start, hfirst, Option.bind_some] at hexec
        cases as with
        | nil =>
          obtain rfl := Option.some.inj hexec
          cases hrevoked
        | cons a as =>
          cases a with
          | read => simp [exec, step] at hexec
          | write =>
            simp only [exec, step, Option.bind_some] at hexec
            obtain ⟨rfl, hrecords, -⟩ := exec_update_left hexec rfl rfl hupdated
            refine .inr (.inl ⟨rfl, ?_⟩)
            rw [hrecords, revokedFirst, revoke_eq_of_first hfirst]
            rfl
          | update =>
            simp only [exec, step, Option.bind_some] at hexec
            obtain ⟨rfl, hrecords⟩ := exec_write_left hexec rfl rfl hrevoked
            exact .inr (.inr ⟨rfl, found.1, found.2, rfl, hrecords⟩)

end

end Race

/-! ### What each order leaves -/

/-- Two replacements are the same when the records agree on what is kept of them. -/
theorem revokedRecord_eq_iff {authority : String} {p : GitTrustPayload} {r r' : TrustRecord} :
    revokedRecord authority p r = revokedRecord authority p r' ↔
      r.isRecognized = r'.isRecognized ∧ r.context = r'.context := by
  simp [revokedRecord, grantRecord]

section

variable {σ K : Type*} [DecidableEq K] {F : Framework} {R : TrustRecordAdminRepository σ}
  {c : Contenders} {key : TrustRecordKey → K} {lookup : σ → K → Option TrustRecord}
  {Inv : σ → Prop} {authority : String} {record existing : TrustRecord} {s : σ}

/-- An update leaves what the update of the record it carries leaves. -/
theorem Contenders.update_snd (hrecord : F.specs.record c.spec = .ok record) :
    (c.update F R s).2 = (R.update s record).2 := by
  simp only [Contenders.update, TrustRegistry.handleUpdate, handleRecord, hrecord]
  rcases R.update s record with ⟨e | u, s'⟩ <;> rfl

/-- An updated record is under its key, and is found. -/
theorem lookup_updated (hR : MapBacked R key lookup Inv) (hs : Inv s)
    (h : lookup s (key (.fromRecord record)) ≠ none) :
    Inv (R.update s record).2 ∧
      lookup (R.update s record).2 (key (.fromRecord record)) = some record ∧
      R.findByQuery (R.update s record).2 record.query = .ok (some record) := by
  have hfits : ((RecordChange.update record).change key).fits (lookup s) = true :=
    Option.ne_none_iff_isSome.mp h
  have hlookup : lookup (R.update s record).2 (key (.fromRecord record)) = some record :=
    lookup_call_key hR hs hfits
  have hinv : Inv (R.update s record).2 := hR.inv s (.update record) hs
  refine ⟨hinv, hlookup, ?_⟩
  rw [hR.find _ _ hinv, TrustRecordKey.fromQuery_recordQuery, hlookup]

omit [DecidableEq K] in
/-- A replacement of the record of a tuple is under the same key. -/
theorem lookup_revokedRecord (r : TrustRecord)
    (h : lookup s (key (.fromQuery (tuple authority c.payload))) = some existing) :
    lookup s (key (.fromRecord (revokedRecord authority c.payload r))) ≠ none := by
  intro hnone
  rw [show lookup s (key (.fromQuery (tuple authority c.payload))) = none from hnone] at h
  cases h

/-- A revocation leaves the replacement of the record it finds. -/
theorem lookup_revoked (hR : MapBacked R key lookup Inv) (hs : Inv s)
    (hauthority : c.authority = some authority)
    (h : lookup s (key (.fromQuery (tuple authority c.payload))) = some existing) :
    Inv (c.revoke F R s).2 ∧
      lookup (c.revoke F R s).2 (key (.fromQuery (tuple authority c.payload)))
        = some (revokedRecord authority c.payload existing) ∧
      R.findByQuery (c.revoke F R s).2 (tuple authority c.payload)
        = .ok (some (revokedRecord authority c.payload existing)) := by
  have hrevoke : (c.revoke F R s).2
      = (R.update s (revokedRecord authority c.payload existing)).2 := by
    rw [Contenders.revoke, hauthority, handleRevoke_of_some hR hs h]
  rw [hrevoke]
  exact lookup_updated hR hs (lookup_revokedRecord existing h)

/-- An update of the tuple leaves the record it carries. -/
theorem lookup_update (hR : MapBacked R key lookup Inv) (hs : Inv s)
    (hrecord : F.specs.record c.spec = .ok record)
    (hsame : record.query = tuple authority c.payload)
    (h : lookup s (key (.fromQuery (tuple authority c.payload))) = some existing) :
    Inv (c.update F R s).2 ∧
      lookup (c.update F R s).2 (key (.fromQuery (tuple authority c.payload))) = some record ∧
      R.findByQuery (c.update F R s).2 (tuple authority c.payload) = .ok (some record) := by
  have hpresent : lookup s (key (.fromRecord record)) ≠ none := by
    rw [← TrustRecordKey.fromQuery_recordQuery, hsame, h]
    exact Option.some_ne_none _
  rw [Contenders.update_snd hrecord, ← hsame]
  exact lookup_updated hR hs hpresent

namespace Race

/-- What is found when the update has come in between: the replacement of the record
from before. -/
theorem find_overtaken (hR : MapBacked R key lookup Inv) (hs : Inv s)
    (hrecord : F.specs.record c.spec = .ok record)
    (hsame : record.query = tuple authority c.payload)
    (h : lookup s (key (.fromQuery (tuple authority c.payload))) = some existing) :
    R.findByQuery (revokeWrite F R c (c.update F R s).2 (authority, existing)).2
      (tuple authority c.payload) = .ok (some (revokedRecord authority c.payload existing)) := by
  obtain ⟨hinv, hlookup, -⟩ := lookup_update hR hs hrecord hsame h
  have hwrite : (revokeWrite F R c (c.update F R s).2 (authority, existing)).2
      = (R.update (c.update F R s).2 (revokedRecord authority c.payload existing)).2 := by
    rw [revokeWrite]
    rcases R.update (c.update F R s).2 (revokedRecord authority c.payload existing) with
      ⟨e | u, s'⟩ <;> rfl
  rw [hwrite]
  exact (lookup_updated hR hinv (lookup_revokedRecord existing hlookup)).2.2

/-- What one after the other leave: the record of the update, or its replacement. -/
theorem serial_iff_find (hR : MapBacked R key lookup Inv) (hs : Inv s)
    (hauthority : c.authority = some authority) (hrecord : F.specs.record c.spec = .ok record)
    (hsame : record.query = tuple authority c.payload)
    (h : lookup s (key (.fromQuery (tuple authority c.payload))) = some existing) {t : σ} :
    Serial F R c (tuple authority c.payload) s t ↔
      R.findByQuery t (tuple authority c.payload) = .ok (some record) ∨
        R.findByQuery t (tuple authority c.payload)
          = .ok (some (revokedRecord authority c.payload record)) := by
  obtain ⟨hinv, hlookup, -⟩ := lookup_update hR hs hrecord hsame h
  obtain ⟨hinv', hlookup', -⟩ := lookup_revoked hR hs hauthority h
  rw [Serial, revokedFirst, updatedFirst, (lookup_update hR hinv' hrecord hsame hlookup').2.2,
    (lookup_revoked hR hinv hauthority hlookup).2.2]

/-- **When a revocation does not lose an update**: when the update does not come
between its two accesses, or says there what the record said already.  Otherwise
the context and the recognition of the record from before are written back. -/
theorem serial_iff (hR : MapBacked R key lookup Inv) (hs : Inv s)
    (hauthority : c.authority = some authority) (hrecord : F.specs.record c.spec = .ok record)
    (hsame : record.query = tuple authority c.payload) {t : Race σ} {as : List RaceAction}
    {o u : TrustTask} (hexec : exec (step F R c) (start s) as = some t)
    (hrevoked : t.revoke = .returned (.ok o)) (hupdated : t.update = some (.ok u)) :
    Serial F R c (tuple authority c.payload) s t.records ↔
      (as = [.read, .update, .write] → ∀ stored, R.read s (tuple authority c.payload) = .ok stored →
        stored.isRecognized = record.isRecognized ∧ stored.context = record.context) := by
  rcases exec_cases hexec hrevoked hupdated with ⟨rfl, hrecords⟩ | ⟨rfl, hrecords⟩ |
    ⟨rfl, authority', existing, hfirst, hrecords⟩
  · exact iff_of_true (.inr (by rw [hrecords])) nofun
  · exact iff_of_true (.inl (by rw [hrecords])) nofun
  · -- the update comes in between, after the record `existing` was read
    obtain ⟨hauthority', hread⟩ := read_of_first hfirst
    obtain rfl : authority = authority' := Option.some.inj (hauthority.symm.trans hauthority')
    have hexisting : lookup s (key (.fromQuery (tuple authority c.payload))) = some existing :=
      ((hR.answers hs).read _ _).mp hread
    rw [serial_iff_find hR hs hauthority hrecord hsame hexisting, hrecords,
      find_overtaken hR hs hrecord hsame hexisting]
    rw [Except.ok.injEq, Option.some.injEq, Except.ok.injEq, Option.some.injEq,
      revokedRecord_eq_iff]
    constructor
    · rintro (hwritten | hagree) - stored hstored
      · rw [hread] at hstored
        obtain rfl := Except.ok.inj hstored
        rw [← hwritten]
        exact ⟨rfl, rfl⟩
      · rw [hread] at hstored
        obtain rfl := Except.ok.inj hstored
        exact hagree
    · intro h
      exact .inr (h rfl existing hread)

end Race

end

/-! ### An update that is lost -/

/-- The grant of a member, as an update leaves it: no longer recognized, and with a
note. -/
def notedGrant : TrustRecord :=
  { grantRecord "did:web:community" member with
    recognized := some false
    context := ⟨.obj [("note", .str "has left the team")]⟩ }

/-- The grant is revoked while the note is added. -/
def noteContenders : Contenders where
  authority := some "did:web:community"
  revokeId := "1"
  revokeDoc := memberTask
  payload := member
  updateId := "2"
  updateDoc := memberTask
  spec := notedGrant.toJson

namespace Race

/-- The note is added after the revocation has read the record: both report success,
and the record is the one from before with the authorization taken back. -/
theorem note_lost :
    let F := Framework.sample .null [] memberTask
    let R := LocalStorage.repository
    let s := LocalStorage.withRecords [grantRecord "did:web:community" member]
    ∃ t o u, exec (step F R noteContenders) (start s) [.read, .update, .write] = some t ∧
      t.revoke = .returned (.ok o) ∧ t.update = some (.ok u) ∧
      R.findByQuery t.records notedGrant.query
        = .ok (some { grantRecord "did:web:community" member with authorized := some false }) ∧
      ¬ Serial F R noteContenders notedGrant.query s t.records := by
  refine ⟨_, _, _, rfl, rfl, rfl, rfl, ?_⟩
  rintro (h | h)
  -- neither order gives the record without the note
  all_goals
    have hcontext := congrArg (fun r => (Except.toOption r).join.map TrustRecord.context) h
    revert hcontext
    decide

/-- Added before it has, the note is kept. -/
theorem note_kept :
    let F := Framework.sample .null [] memberTask
    let R := LocalStorage.repository
    let s := LocalStorage.withRecords [grantRecord "did:web:community" member]
    ∃ t o u, exec (step F R noteContenders) (start s) [.update, .read, .write] = some t ∧
      t.revoke = .returned (.ok o) ∧ t.update = some (.ok u) ∧
      Serial F R noteContenders (tuple "did:web:community" member) s t.records := by
  intro F R s
  have hexec : exec (step F R noteContenders) (start s) [.update, .read, .write] = some _ := rfl
  exact ⟨_, _, _, hexec, rfl, rfl,
    (serial_iff LocalStorage.mapBacked s.records.keyed rfl rfl rfl hexec rfl rfl).mpr nofun⟩

end Race

end GitTrust

end TrustRegistry
