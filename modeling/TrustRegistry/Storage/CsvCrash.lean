import TrustRegistry.Storage.CsvFileStorage
import TrustRegistry.Storage.CsvText

/-!
# Crashes of the CSV backend

The file is truncated and then written from its first byte on, so a process that
dies on the way leaves some first part of the new bytes.  The next start reads what
is there.

## Main definitions

* `CsvCrate.InOrder` — what is asked of the library about texts that are cut.
* `FileStorage.restart` — a start over bytes.
* `CrashPoint` — what a crash can leave.
* `FileStorage.CrashSafe` — a start after any crash has the records of before or of
  after.
* `LeavesNone` — a change takes the only record away.

## Main results

* `crashSafe_iff` — a change survives every crash exactly when it is refused or
  leaves no record.
* `interrupted_update_loses` — an update that is interrupted loses records, or
  leaves a file that cannot be read.
-/

namespace TrustRegistry

open Trim TrustRecordCsvRow

/-- What is asked of the CSV library about texts that are cut.  Nothing is written for
no row, and nothing is read from nothing; rows are written one after another, the
record type last and as it is; and of a text that is cut within it the same rows are
read, the last one with what is left of it. -/
structure CsvCrate.InOrder (csv : CsvCrate) : Prop where
  serialize_nil : csv.serialize [] = .ok ""
  deserialize_empty : csv.deserialize "" = []
  cut : ∀ (init : List TrustRecordCsvRow) (last : TrustRecordCsvRow) (t : RecordType),
    (∀ row ∈ init, ∃ t : RecordType, row.recordType = t.display) → last.recordType = t.display →
    ∃ body, csv.serialize (init ++ [last]) = .ok (body ++ t.display ++ "\n") ∧
      ∀ short rest, short ++ rest = t.display → short ≠ "" →
        csv.deserialize (trim (body ++ short))
          = init.map (fun row => .ok row.trimmed) ++ [.ok { last.trimmed with recordType := short }]

/-! ### Starting over what is left -/

/-- The text that bytes stand for. -/
def readToString (bytes : ByteArray) : Except String String :=
  match String.fromUTF8? bytes with
  | some text => .ok text
  | none => .error "stream did not contain valid UTF-8"

/-- What a crash in the writing of a text can leave: its first bytes, none of them at
least. -/
def CrashPoint (text : String) (bytes : ByteArray) : Prop := ∃ rest, bytes ++ rest = text.toByteArray

namespace FileStorage

section

variable (csv : CsvCrate) (codec : ContextCodec) (path : String)

/-- Open a file. -/
def tryNew (file : Option CsvFile) : Except String FileStorage :=
  match loadIfModified csv codec path file none with
  | .error e => .error e
  | .ok none => .error s!"unable to load trust records from {path}"
  | .ok (some (records, modified)) => .ok ⟨records, some modified, file⟩

/-- Open a file of given bytes. -/
def restart (bytes : ByteArray) (modified : ℕ) : Except String FileStorage :=
  match readToString bytes with
  | .error e => .error e
  | .ok text => tryNew csv codec path (some ⟨text, modified⟩)

/-- The records that a start over a file would load. -/
def Persisted (file : Option CsvFile) (records : RecordMap) : Prop :=
  ∃ t, tryNew csv codec path file = .ok t ∧ t.records = records

/-- After a crash at any point of the writing that follows an accepted change, a start
has the records of before or of after. -/
def CrashSafe (s : FileStorage) (c : RecordChange) : Prop :=
  ∀ m text bytes modified, c.apply s.records = .ok m →
    csv.serialize (m.values.map (fromRecord codec)) = .ok text → CrashPoint text bytes →
    ∃ t, restart csv codec path bytes modified = .ok t ∧
      (Persisted csv codec path s.file t.records ∨
        Persisted csv codec path (some ⟨text, modified⟩) t.records)

end

end FileStorage

/-- A change that takes the only record away. -/
def LeavesNone (m : RecordMap) : RecordChange → Prop
  | .delete q => ∀ r ∈ m.values, TrustRecordKey.fromRecord r = .fromQuery q
  | _ => False

/-! ### A text that is cut -/

theorem readToString_toByteArray (text : String) : readToString text.toByteArray = .ok text := by
  unfold readToString String.fromUTF8?
  rw [dif_pos text.isValidUTF8]
  rfl

/-- A row whose record type is cut is no record. -/
theorem intoRecord_cut (codec : ContextCodec) (row : TrustRecordCsvRow) (t : RecordType) :
    ∃ short rest e, short ++ rest = t.display ∧ short ≠ "" ∧
      intoRecord codec { row with recordType := short } = .error e := by
  have herror : ∀ short, RecordType.fromStr short = .error .invalidRecordType →
      intoRecord codec { row with recordType := short }
        = .error (TrustRecordError.display .invalidRecordType) := by
    intro short hshort
    simp [intoRecord, hshort, Except.mapError, bind, Except.bind]
  cases t with
  | authorization =>
    exact ⟨"authorizatio", "n", _, by decide, by decide, herror "authorizatio" (by decide)⟩
  | recognition =>
    exact ⟨"recognitio", "n", _, by decide, by decide, herror "recognitio" (by decide)⟩

/-- A text with a row that is no record cannot be read. -/
theorem parseCsv_error {csv : CsvCrate} {codec : ContextCodec} {text : String}
    {rows : List (Except String TrustRecordCsvRow)} {row : TrustRecordCsvRow} {e : String}
    (hread : csv.deserialize text = rows ++ [.ok row]) (hrow : intoRecord codec row = .error e) :
    ∃ e', parseCsv csv codec text = .error e' := by
  simp only [parseCsv, hread, List.foldlM_append, bind, Except.bind]
  split
  · next e' _ => exact ⟨e', rfl⟩
  · exact ⟨e, by simp [hrow, bind, Except.bind]⟩

namespace FileStorage

variable {csv : CsvCrate} {codec : ContextCodec} {path : String}

/-- A file is opened when its text can be read. -/
theorem tryNew_text (text : String) (modified : ℕ) :
    tryNew csv codec path (some ⟨text, modified⟩)
      = (parseCsv csv codec (trim text)).map fun m => ⟨m, some modified, some ⟨text, modified⟩⟩ := by
  unfold tryNew loadIfModified
  simp only [Option.any_none, Bool.false_eq_true, if_false]
  cases parseCsv csv codec (trim text) <;> rfl

theorem restart_text (text : String) (modified : ℕ) :
    restart csv codec path text.toByteArray modified
      = tryNew csv codec path (some ⟨text, modified⟩) := by
  rw [restart, readToString_toByteArray]

/-- When nothing is written, every crash leaves an empty file. -/
theorem crashSafe_of_values_eq_nil (hcsv : csv.InOrder) {s : FileStorage} {c : RecordChange}
    (hnone : ∀ m, c.apply s.records = .ok m → m.values = []) : CrashSafe csv codec path s c := by
  intro m text bytes modified hc htext hcrash
  rw [hnone m hc, List.map_nil, hcsv.serialize_nil] at htext
  obtain rfl := Except.ok.inj htext
  obtain ⟨rest, hrest⟩ := hcrash
  have hempty : bytes = "".toByteArray := by
    have hsize := congrArg ByteArray.size hrest
    rw [ByteArray.size_append] at hsize
    have hzero : bytes.size = 0 := by
      have : "".toByteArray.size = 0 := rfl
      omega
    exact ByteArray.size_eq_zero_iff.mp hzero
  subst hempty
  have hopen : tryNew csv codec path (some ⟨"", modified⟩)
      = .ok ⟨RecordMap.empty, some modified, some ⟨"", modified⟩⟩ := by
    have htrim : trim "" = "" := by decide
    rw [tryNew_text, parseCsv, htrim, hcsv.deserialize_empty]
    rfl
  exact ⟨_, (restart_text "" modified).trans hopen, .inr ⟨_, hopen, rfl⟩⟩

/-- When a row is written, there is a crash that leaves a file nobody can read. -/
theorem not_crashSafe_of_mem_values (hcsv : csv.InOrder) {s : FileStorage} {c : RecordChange}
    {m : RecordMap} (hc : c.apply s.records = .ok m) (hne : m.values ≠ []) :
    ¬ CrashSafe csv codec path s c := by
  intro hsafe
  obtain ⟨init, last, hvalues⟩ := (List.eq_nil_or_concat' m.values).resolve_left hne
  have hrows : ∀ row ∈ init.map (fromRecord codec), ∃ t : RecordType,
      row.recordType = t.display := by
    intro row hrow
    obtain ⟨r, _, rfl⟩ := List.mem_map.mp hrow
    exact ⟨r.recordType, rfl⟩
  obtain ⟨body, htext, hcut⟩ :=
    hcsv.cut (init.map (fromRecord codec)) (fromRecord codec last) last.recordType hrows rfl
  have hserialize : csv.serialize (m.values.map (fromRecord codec))
      = .ok (body ++ last.recordType.display ++ "\n") := by
    rw [hvalues, List.map_append, List.map_singleton, htext]
  obtain ⟨short, rest, e, hshort, hne', hrecord⟩ :=
    intoRecord_cut codec (fromRecord codec last).trimmed last.recordType
  -- the process dies within the record type of the last row
  have hcrash :
      CrashPoint (body ++ last.recordType.display ++ "\n") (body ++ short).toByteArray := by
    refine ⟨(rest ++ "\n").toByteArray, ?_⟩
    rw [← String.toByteArray_append, ← hshort]
    simp only [String.append_assoc]
  obtain ⟨t, hrestart, _⟩ := hsafe m _ _ 0 hc hserialize hcrash
  obtain ⟨e', hparse⟩ := parseCsv_error (hcut short rest hshort hne') hrecord
  rw [restart_text, tryNew_text, hparse] at hrestart
  cases hrestart

end FileStorage

/-- A change leaves no record exactly when it takes the only one away. -/
theorem values_eq_nil_iff_leavesNone {m m' : RecordMap} {c : RecordChange}
    (hc : c.apply m = .ok m') : m'.values = [] ↔ LeavesNone m c := by
  have hnil : m'.values = [] ↔ ∀ k, m'.get? k = none := by
    constructor
    · intro h k
      cases hget : m'.get? k with
      | none => rfl
      | some r =>
        have hmem : r ∈ m'.values := by
          have hkey := m'.keyed _ _ hget
          exact RecordMap.mem_values_iff.mpr (by rw [hkey, hget])
        rw [h] at hmem
        cases hmem
    · intro h
      refine List.eq_nil_iff_forall_not_mem.mpr fun r hr => ?_
      have hget := RecordMap.mem_values_iff.mp hr
      rw [h] at hget
      cases hget
  have hget := RecordChange.get?_of_apply hc
  rw [hnil]
  cases c with
  | create r | update r =>
    refine ⟨fun h => ?_, False.elim⟩
    have hkey := h (.fromRecord r)
    simp only [hget, RecordChange.key, RecordChange.result, if_true] at hkey
    cases hkey
  | delete q =>
    have hself : m'.get? (.fromQuery q) = none := (hget _).trans (if_pos rfl)
    have hother : ∀ k, k ≠ .fromQuery q → m'.get? k = m.get? k :=
      fun k hk => (hget k).trans (if_neg hk)
    constructor
    · intro h r hr
      by_contra hne
      have hkey := h (.fromRecord r)
      rw [hother _ hne, RecordMap.mem_values_iff.mp hr] at hkey
      cases hkey
    · intro h k
      by_cases hk : k = .fromQuery q
      · rw [hk, hself]
      · rw [hother k hk]
        cases hold : m.get? k with
        | none => rfl
        | some r =>
          have hkey := m.keyed _ _ hold
          have hmem : r ∈ m.values := RecordMap.mem_values_iff.mpr (by rw [hkey, hold])
          exact absurd (hkey.symm.trans (h r hmem)) hk

/-- **A change survives every crash exactly when it is refused, so that nothing is
written, or takes the only record away, so that an empty file is.** -/
theorem crashSafe_iff {csv : CsvCrate} (hcsv : csv.InOrder) (codec : ContextCodec) (path : String)
    (s : FileStorage) (c : RecordChange) :
    FileStorage.CrashSafe csv codec path s c ↔ c.Refused s.records ∨ LeavesNone s.records c := by
  constructor
  · intro hsafe
    cases hc : c.apply s.records with
    | error e => exact .inl (RecordChange.apply_error_iff.mp ⟨e, hc⟩)
    | ok m =>
      refine .inr ((values_eq_nil_iff_leavesNone hc).mp ?_)
      by_contra hne
      exact FileStorage.not_crashSafe_of_mem_values hcsv hc hne hsafe
  · rintro (hrefused | hnone)
    · obtain ⟨e, he⟩ := RecordChange.apply_error_iff.mpr hrefused
      intro m text bytes modified hc
      rw [he] at hc
      cases hc
    · exact FileStorage.crashSafe_of_values_eq_nil hcsv fun m hc =>
        (values_eq_nil_iff_leavesNone hc).mpr hnone

/-! ### The library is in order -/

namespace CsvText

/-- A row with its last field apart. -/
theorem writeFields_concat (f : List Char) : ∀ fs : List (List Char),
    Csv.writeFields (fs ++ [f]) = (fs.flatMap fun g => Csv.writeField g ++ [',']) ++ Csv.writeField f
  | [] => rfl
  | [g] => by simp [Csv.writeFields]
  | g :: h :: fs => by
    have ih := writeFields_concat f (h :: fs)
    rw [List.cons_append] at ih
    rw [List.cons_append, List.cons_append, Csv.writeFields, ih, List.flatMap_cons]
    simp

/-- Any part of the name of a record type is written as it is. -/
theorem cut_display {t : RecordType} {short rest : String} (h : short ++ rest = t.display)
    (hne : short ≠ "") : Csv.writeField short.toList = short.toList ∧ trim short = short ∧
      ∃ c, short.toList.getLast? = some c ∧ isWhitespace c = false := by
  have hletters : ∀ c ∈ short.toList, Csv.isSpecial c = false ∧ isWhitespace c = false := by
    intro c hc
    have hmem : c ∈ t.display.toList := by
      rw [← h, String.toList_append]
      exact List.mem_append_left _ hc
    have hall : (t.display.toList.all fun c => !Csv.isSpecial c && !isWhitespace c) = true := by
      cases t <;> rfl
    simpa using List.all_eq_true.mp hall c hmem
  have hlast : ∃ c, short.toList.getLast? = some c := by
    cases hget : short.toList.getLast? with
    | some c => exact ⟨c, rfl⟩
    | none =>
      rw [List.getLast?_eq_none_iff] at hget
      exact absurd (String.toList_inj.mp hget) hne
  obtain ⟨c, hc⟩ := hlast
  refine ⟨?_, ?_, c, hc, (hletters c (List.mem_of_getLast? hc)).2⟩
  · have hspecial : short.toList.any Csv.isSpecial = false := by
      rw [List.any_eq_false]
      intro c hc
      rw [(hletters c hc).1]
      decide
    rw [Csv.writeField, hspecial]
    rfl
  · rw [trim_eq_self_iff]
    exact ⟨fun c hc => (hletters c (List.mem_of_head? hc)).2,
      fun c hc => (hletters c (List.mem_of_getLast? hc)).2⟩

theorem crate_deserialize (text : String) : crate.deserialize text
    = (Csv.read text.toList).tail.map fun row => ofFields (row.map fun f => trim (.ofList f)) := rfl

/-- **What is asked of the library about cut texts holds of it.** -/
theorem crate_inOrder : crate.InOrder where
  serialize_nil := rfl
  deserialize_empty := rfl
  cut init last t hinit hlast := by
    -- the fields of the last row but the record type
    let fields := (chars (toFields last)).dropLast
    have hfields : ∀ short : String, Csv.writeFields (chars (toFields
        { last with recordType := short }))
          = (fields.flatMap fun g => Csv.writeField g ++ [',']) ++ Csv.writeField short.toList :=
      fun short => writeFields_concat short.toList fields
    let lines := Csv.write (chars header :: init.map fun row => chars (toFields row))
    let body := lines ++ fields.flatMap fun g => Csv.writeField g ++ [',']
    have hunended : ∀ short rest : String, short ++ rest = t.display → short ≠ "" →
        unended init { last with recordType := short } = body ++ short.toList := by
      intro short rest h hne
      rw [unended, hfields, (cut_display h hne).1, ← List.append_assoc]
    have hself : { last with recordType := t.display } = last := by rw [← hlast]
    have hwhole := hunended t.display "" (by simp) (by cases t <;> decide)
    rw [hself] at hwhole
    refine ⟨.ofList body, ?_, ?_⟩
    · have hrow : init ++ [last] ≠ [] := by simp
      have htext : Csv.write ((header :: (init ++ [last]).map toFields).map chars)
          = unended init last ++ ['\n'] := by
        simp [unended, Csv.write, List.map_map, List.flatMap_map]
      show Except.ok (text (init ++ [last])) = _
      rw [text, if_neg hrow, htext, hwhole]
      refine congrArg Except.ok (String.toList_inj.mp ?_)
      simp
    · intro short rest h hne
      obtain ⟨hwrite, htrim, c, hc, hspace⟩ := cut_display h hne
      have hlast' : (Csv.writeFields (chars (toFields { last with recordType := short }))).getLast?
          = some c := by
        rw [hfields, hwrite, List.getLast?_append, hc]
        rfl
      obtain ⟨_, hhead, hend⟩ := unended_trimmed init hlast' hspace
      rw [hunended short rest h hne] at hhead hend
      have hstays : trim (String.ofList body ++ short) = String.ofList (body ++ short.toList) := by
        rw [← String.toList_inj, toList_trim]
        simpa using trimChars_eq_self_iff.mpr ⟨hhead, hend⟩
      have hread := read_unended init { last with recordType := short }
      rw [hunended short rest h hne] at hread
      have htrimmed : TrustRecordCsvRow.trimmed { last with recordType := short }
          = { last.trimmed with recordType := short } := by
        simp only [TrustRecordCsvRow.trimmed, htrim]
      rw [crate_deserialize, hstays, String.toList_ofList, hread, List.map_append, List.map_singleton,
        htrimmed]

end CsvText

/-! ### An interrupted update -/

/-- The backend over a file with one record. -/
def oneRecord : FileStorage :=
  (FileStorage.call CsvText.crate CsvText.emptyObjectCodec (.up 1) ⟨.empty, some 0, some ⟨"", 0⟩⟩
    (.create CsvText.plainRecord)).2

/-- The deletion of this record survives every crash. -/
theorem last_deletion_crashSafe :
    FileStorage.CrashSafe CsvText.crate CsvText.emptyObjectCodec "registry.csv" oneRecord
      (.delete CsvText.plainRecord.query) := by
  have hnone : ∀ r ∈ oneRecord.records.values,
      TrustRecordKey.fromRecord r = .fromQuery CsvText.plainRecord.query := by
    decide
  exact (crashSafe_iff CsvText.crate_inOrder _ _ _ _).mpr (.inr hnone)

/-- **An update that is interrupted at once loses the record**: the file is truncated,
and a start over it succeeds with no record; there are crashes after which no start
succeeds. -/
theorem interrupted_update_loses :
    let update := RecordChange.update { CsvText.plainRecord with authorized := some false }
    let start (bytes : ByteArray) :=
      FileStorage.restart CsvText.crate CsvText.emptyObjectCodec "registry.csv" bytes 2
    ¬ FileStorage.CrashSafe CsvText.crate CsvText.emptyObjectCodec "registry.csv" oneRecord update ∧
      (FileStorage.tryNew CsvText.crate CsvText.emptyObjectCodec "registry.csv"
        oneRecord.file).toOption.map (fun t => t.records.values) = some [CsvText.plainRecord] ∧
      (start "".toByteArray).toOption.map (fun t => t.records.values) = some [] := by
  intro update start
  refine ⟨?_, ?_, ?_⟩
  · have happly : update.apply oneRecord.records
        = .ok (oneRecord.records.insert { CsvText.plainRecord with authorized := some false }) := by
      rfl
    exact FileStorage.not_crashSafe_of_mem_values CsvText.crate_inOrder happly (by decide)
  · have hcodec : ∀ r ∈ [CsvText.plainRecord], keepsContext r.context.value = true →
        CsvText.emptyObjectCodec.LosslessAt r.context.value := by
      intro r hr _
      obtain rfl := List.mem_singleton.mp hr
      exact CsvText.emptyObjectCodec_losslessAt
    obtain ⟨text, hwrite, hparse⟩ := parseCsv_serialize CsvText.crate_lossless hcodec
    obtain rfl := Except.ok.inj hwrite
    have hreload : [CsvText.plainRecord].map reload = [CsvText.plainRecord] := by decide
    rw [hreload] at hparse
    have hfile : oneRecord.file = some ⟨CsvText.text
        ([CsvText.plainRecord].map (fromRecord CsvText.emptyObjectCodec)), 1⟩ := rfl
    rw [hfile, FileStorage.tryNew_text, hparse]
    rfl
  · show (FileStorage.restart _ _ _ _ _).toOption.map _ = _
    rw [FileStorage.restart_text]
    decide +kernel

end TrustRegistry
