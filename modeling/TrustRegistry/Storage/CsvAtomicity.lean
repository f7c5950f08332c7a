import TrustRegistry.Storage.CsvFileStorage
import TrustRegistry.Storage.CsvText

/-!
# Failed calls of the CSV backend

A call changes the records in memory before it writes them, and a writing that
fails does not take the change back.  So a call that fails in the writing is
answered as a failure and seen as a success.

## Main results

* `failed_call_sameAnswers_iff` — that a failed call leaves the answers alone
  holds exactly of the calls that are refused before the change, repeat a record,
  or whose writing does not fail.
* `failed_create_is_seen` — a creation whose writing fails is found, and refused
  when it is tried again.
-/

namespace TrustRegistry

namespace FileStorage

variable {csv : CsvCrate} {codec : ContextCodec} {io : FileIo}

/-- Every step of writing the records `m` succeeds. -/
def WritingSucceeds (csv : CsvCrate) (codec : ContextCodec) (io : FileIo) (m : RecordMap) : Prop :=
  (∃ text, csv.serialize (m.values.map (TrustRecordCsvRow.fromRecord codec)) = .ok text) ∧
    io.write = none ∧ io.metadata = none ∧ io.modified = none

theorem writeToFile_error_iff {s : FileStorage} :
    (∃ e, (writeToFile csv codec io s).1 = .error e) ↔
      ¬ WritingSucceeds csv codec io s.records := by
  unfold writeToFile WritingSucceeds
  cases csv.serialize (s.records.values.map (TrustRecordCsvRow.fromRecord codec)) with
  | error e => simp
  | ok text =>
    cases io.write with
    | some w => simp
    | none => cases io.metadata <;> cases io.modified <;> simp

/-- **That a failed call leaves the answers alone** holds exactly of the calls
that are refused, repeat a record, or whose writing does not fail. -/
theorem failed_call_sameAnswers_iff (s : FileStorage) (c : RecordChange) :
    ((∃ e, (call csv codec io s c).1 = .error e) →
        (repository csv codec io).SameAnswers s (call csv codec io s c).2) ↔
      c.Refused s.records ∨ c.Repeats s.records ∨
        ∃ m, c.apply s.records = .ok m ∧ WritingSucceeds csv codec io m := by
  rw [call_eq_mutate]
  have hrecords : (mutate csv codec io s c).2.records
      = (c.apply s.records).toOption.getD s.records := mutate_records s c
  cases hc : c.apply s.records with
  | error e' =>
    -- nothing was changed
    rw [hc] at hrecords
    exact ⟨fun _ => .inl (RecordChange.apply_error_iff.mp ⟨e', hc⟩),
      fun _ _ => sameAnswers_of_records hrecords⟩
  | ok m =>
    -- the change was made; what fails is the writing
    rw [hc] at hrecords
    have hnot : ¬ c.Refused s.records := by
      intro href
      obtain ⟨e', he'⟩ := RecordChange.apply_error_iff.mpr href
      rw [hc] at he'
      cases he'
    have herror : (∃ e, (mutate csv codec io s c).1 = .error e) ↔
        ¬ WritingSucceeds csv codec io m := by
      unfold mutate
      rw [hc]
      exact writeToFile_error_iff
    rw [herror]
    constructor
    · intro h
      by_cases hw : WritingSucceeds csv codec io m
      · exact .inr (.inr ⟨m, rfl, hw⟩)
      · refine .inr (.inl ((RecordChange.apply_find_iff hc).mp fun q => ?_))
        have hq := Except.ok.inj ((h hw).1 q)
        rwa [hrecords] at hq
    · rintro (href | hrep | ⟨m', hm', hw⟩) hfail
      · exact absurd href hnot
      · have hm : m = s.records := by
          rw [RecordChange.apply_eq_self_of_repeats hrep] at hc
          exact (Except.ok.inj hc).symm
        exact sameAnswers_of_records (hrecords.trans hm)
      · obtain rfl := Except.ok.inj hm'
        exact absurd hw hfail

/-- The backend over an empty file. -/
def emptyStorage : FileStorage := ⟨RecordMap.empty, some 0, some ⟨"", 0⟩⟩

/-- The file system when the disk is full. -/
def diskFull : FileIo :=
  ⟨some ("No space left on device (os error 28)", some ⟨"", 0⟩), 1, none, none⟩

/-- **A creation whose writing fails is found afterwards**, and is refused as a
record that exists when it is tried again. -/
theorem failed_create_is_seen :
    let first := call CsvText.crate CsvText.emptyObjectCodec diskFull emptyStorage
      (.create CsvText.plainRecord)
    first.1 = .error (.queryFailed
        "Failed to write CSV file: No space left on device (os error 28)") ∧
      findByQuery emptyStorage CsvText.plainRecord.query = .ok none ∧
      findByQuery first.2 CsvText.plainRecord.query = .ok (some CsvText.plainRecord) ∧
      (call CsvText.crate CsvText.emptyObjectCodec (.up 2) first.2 (.create CsvText.plainRecord)).1
        = .error (.recordAlreadyExists
          "Record already exists: did:web:e|did:web:a|issue|vc") := by
  refine ⟨by decide, rfl, rfl, by decide⟩

end FileStorage

end TrustRegistry
