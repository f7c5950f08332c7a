import TrustRegistry.Lib.Csv
import TrustRegistry.Storage.CsvRow

/-!
# The text of the CSV file

A CSV library for the rows of the file: the header and the rows as a text, with
quotes where a field needs them.  It has the one property that is asked of such
a library, so what is proved from that property is about something.

## Main definitions

* `CsvText.crate` — the library.

## Main results

* `CsvText.crate_lossless` — it loses nothing but the white space around fields.
-/

namespace TrustRegistry

open Trim TrustRecordCsvRow

namespace CsvText

/-- The names of the columns. -/
def header : List String := TrustRecord.fieldNames

/-- The fields of a row. -/
def toFields (row : TrustRecordCsvRow) : List String :=
  [row.entityId, row.authorityId, row.action, row.resource, toString row.recognized,
    toString row.authorized, row.context.getD "", row.recordType]

/-- An answer in a field. -/
def parseBool (s : String) : Except String Bool :=
  if s = "true" then .ok true else if s = "false" then .ok false else .error "invalid boolean"

/-- The row with given fields. -/
def ofFields : List String → Except String TrustRecordCsvRow
  | [entityId, authorityId, action, resource, recognized, authorized, context, recordType] => do
    let recognized ← parseBool recognized
    let authorized ← parseBool authorized
    return {
      entityId, authorityId, action, resource, recognized, authorized
      context := if context = "" then none else some context
      recordType }
  | _ => .error "unequal lengths"

/-- The characters of the fields of a row. -/
def chars (fields : List String) : List (List Char) := fields.map String.toList

/-- The text of rows.  No header is written when there is no row. -/
def text (rows : List TrustRecordCsvRow) : String :=
  if rows = [] then "" else .ofList (Csv.write ((header :: rows.map toFields).map chars))

/-- The library. -/
def crate : CsvCrate where
  serialize rows := .ok (text rows)
  deserialize text :=
    (Csv.read text.toList).tail.map fun row => ofFields (row.map fun f => trim (.ofList f))

@[simp] theorem parseBool_trim_toString (b : Bool) : parseBool (trim (toString b)) = .ok b := by
  have h : trim (toString b) = toString b := by
    cases b <;> exact trim_eq_self_iff_all.mpr (by decide)
  rw [h]
  cases b <;> rfl

/-- The fields of a row, each trimmed, give the trimmed row. -/
theorem ofFields_trim (row : TrustRecordCsvRow) :
    ofFields ((chars (toFields row)).map fun f => trim (.ofList f)) = .ok row.trimmed := by
  obtain ⟨e, a, ac, r, rec, auth, ctx, t⟩ := row
  have hctx : (if trim (ctx.getD "") = "" then none else some (trim (ctx.getD "")))
      = (ctx.map trim).filter (· ≠ "") := by
    rcases ctx with _ | c
    · rfl
    · by_cases h : trim c = "" <;> simp [h, Option.filter]
  simp only [chars, toFields, List.map_cons, List.map_nil, String.ofList_toList, ofFields,
    parseBool_trim_toString, bind, Except.bind, pure, Except.pure, trimmed, hctx]

/-! ### Trimming the whole text -/

/-- Trimming takes the last line break off a text that has no other white space
around it. -/
theorem trimChars_concat_newline {l : List Char} (hne : l ≠ [])
    (hhead : ∀ c ∈ l.head?, isWhitespace c = false)
    (hlast : ∀ c ∈ l.getLast?, isWhitespace c = false) : trimChars (l ++ ['\n']) = l := by
  have hdrop : (l ++ ['\n']).dropWhile isWhitespace = l ++ ['\n'] := by
    cases l with
    | nil => exact absurd rfl hne
    | cons c l => simp [hhead c rfl]
  rw [trimChars, hdrop, List.rdropWhile_concat_pos _ _ _ (by decide), List.rdropWhile_eq_self_iff]
  intro h
  rw [hlast _ (List.getLast?_eq_some_getLast h)]
  simp

/-- A written row ends as the name of its record type does. -/
theorem getLast?_writeFields (row : TrustRecordCsvRow) {t : RecordType}
    (ht : row.recordType = t.display) :
    (Csv.writeFields (chars (toFields row))).getLast? = some 'n' := by
  have hname : Csv.writeField t.display.toList = t.display.toList := by cases t <;> decide
  have hlast : t.display.toList.getLast? = some 'n' := by cases t <;> decide
  simp [chars, toFields, Csv.writeFields, ht, hname, hlast, List.getLast?_append,
    List.getLast?_cons]

theorem head?_write (rows : List (List (List Char))) :
    (Csv.write (chars header :: rows)).head? = some 'e' := by
  have h : Csv.writeFields (chars header) = 'e' :: (Csv.writeFields (chars header)).tail := by
    decide
  rw [Csv.write, List.flatMap_cons, h]
  rfl

/-- The text of rows without its last line break. -/
def unended (init : List TrustRecordCsvRow) (last : TrustRecordCsvRow) : List Char :=
  Csv.write (chars header :: init.map fun row => chars (toFields row))
    ++ Csv.writeFields (chars (toFields last))

/-- It begins with a letter and ends as its last row does, so there is nothing to trim. -/
theorem unended_trimmed (init : List TrustRecordCsvRow) {last : TrustRecordCsvRow} {c : Char}
    (hlast : (Csv.writeFields (chars (toFields last))).getLast? = some c)
    (hc : isWhitespace c = false) : unended init last ≠ [] ∧
      (∀ c ∈ (unended init last).head?, isWhitespace c = false) ∧
      ∀ c ∈ (unended init last).getLast?, isWhitespace c = false := by
  refine ⟨?_, ?_, ?_⟩
  · intro h
    rw [(List.append_eq_nil_iff.mp h).2] at hlast
    simp at hlast
  · intro c' hc'
    rw [unended, List.head?_append, head?_write] at hc'
    obtain rfl := Option.some.inj hc'
    decide
  · intro c' hc'
    rw [unended, List.getLast?_append, hlast] at hc'
    obtain rfl := Option.some.inj hc'
    exact hc

/-- The rows are read from it. -/
theorem read_unended (init : List TrustRecordCsvRow) (last : TrustRecordCsvRow) :
    ((Csv.read (unended init last)).tail.map fun row => ofFields (row.map fun f => trim (.ofList f)))
      = (init ++ [last]).map fun row => .ok row.trimmed := by
  have hlen : ∀ row, 2 ≤ (chars (toFields row)).length := fun row => by simp [chars, toFields]
  have hrows : ∀ row ∈ chars header :: init.map fun row => chars (toFields row),
      2 ≤ row.length := by
    intro row hrow
    rcases List.mem_cons.mp hrow with rfl | hrow
    · decide
    · obtain ⟨row', _, rfl⟩ := List.mem_map.mp hrow
      exact hlen row'
  have hread := Csv.read_append hrows (hlen last) (.inl rfl)
  rw [List.append_nil] at hread
  rw [unended, hread]
  simp [ofFields_trim]

/-- **The library loses nothing but the white space around fields.** -/
theorem crate_lossless : crate.Lossless := by
  intro rows hrows
  refine ⟨_, rfl, ?_⟩
  rcases List.eq_nil_or_concat' rows with rfl | ⟨init, last, rfl⟩
  · decide
  · obtain ⟨t, ht⟩ := hrows last (by simp)
    have htext : Csv.write ((header :: (init ++ [last]).map toFields).map chars)
        = unended init last ++ ['\n'] := by
      simp [unended, Csv.write, List.map_map, List.flatMap_map]
    obtain ⟨hne, hhead, hlast⟩ := unended_trimmed init (getLast?_writeFields last ht) (by decide)
    have hrow : init ++ [last] ≠ [] := by simp
    simp only [crate, text]
    rw [if_neg hrow, htext, toList_trim, String.toList_ofList,
      trimChars_concat_newline hne hhead hlast, read_unended]

/-! ### A plain record -/

/-- The context codec at the empty object. -/
def emptyObjectCodec : ContextCodec where
  encode _ := "e30="
  decode s := if s = "e30=" then some (.obj []) else none

/-- A record of a plain tuple with an empty context. -/
def plainRecord : TrustRecord where
  entityId := ⟨"did:web:e"⟩
  authorityId := ⟨"did:web:a"⟩
  action := ⟨"issue"⟩
  resource := ⟨"vc"⟩
  recognized := some true
  authorized := some true
  context := Context.empty
  recordType := .authorization

theorem emptyObjectCodec_losslessAt : emptyObjectCodec.LosslessAt (.obj []) where
  trim_encode := trim_eq_self_iff_all.mpr (by decide)
  encode_ne := by decide
  decode_encode := rfl

end CsvText

end TrustRegistry
