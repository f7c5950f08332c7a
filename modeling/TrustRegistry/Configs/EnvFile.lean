import TrustRegistry.Lib.AssocMap
import TrustRegistry.Lib.Lines
import TrustRegistry.Lib.Transition
import TrustRegistry.Lib.Trim
import TrustRegistry.Lib.Utf8

/-!
# The environment file

The setup keeps the variables of a server in a file with a line for each.  It reads the
ones that are there, puts the new ones over them, and writes all of them again, in any
order.  A line with no equals sign is dropped.  The file is emptied before it is written,
and any access to it may fail.

## Main definitions

* `envVars` — the variables that a file has, if all its lines are texts.
* `insertEnvVars` — what a setup returns and leaves, with `EnvSetup.step`.
* `EnvSetup.Uncut` — a setup that neither copying nor writing has failed.
* `CleanVars` — variables that are read as they are written.

## Main results

* `clean_of_envVars` — what is read is clean.
* `envVars_writeVars` — clean variables are read as they are written, in any order.
* `env_reads_back_iff` — after any number of setups a file has what was last given for
  each variable exactly when what was given is clean.
* `second_setup_cut` — a profile that is not read back.
-/

namespace TrustRegistry

open Transition Trim

/-! ### Reading -/

/-- The two sides of the first equals sign. -/
def splitOnce (l : List Char) : Option (List Char × List Char) :=
  match l.dropWhile (· ≠ '=') with
  | [] => none
  | _ :: value => some (l.takeWhile (· ≠ '='), value)

/-- The variable of a line. -/
def lineVar (l : List Char) : Option (String × String) :=
  (splitOnce l).map fun p =>
    (String.ofList (trimChars p.1), String.ofList (trimChars p.2))

/-- The lines of a file, if all of them are texts. -/
def envLines (contents : List UInt8) : Option (List String) :=
  (Lines.lines (Utf8.byte '\n') (Utf8.byte '\r') contents).mapM Utf8.decode

/-- The variables of lines; of two lines for one the later counts. -/
def linesVars (lines : List String) : AssocMap String String :=
  AssocMap.ofList (lines.filterMap fun line => lineVar line.toList)

/-- The variables that a file has, if all its lines are texts. -/
def envVars (contents : List UInt8) : Option (AssocMap String String) :=
  (envLines contents).map linesVars

/-! ### Writing -/

/-- The line of a variable. -/
def varLine (e : String × String) : String := String.ofList (e.1.toList ++ '=' :: e.2.toList)

/-- The bytes that are written of variables. -/
def writeVars (l : List (String × String)) : List UInt8 :=
  (l.map fun e => Utf8.encode (varLine e).toList).flatMap (· ++ [Utf8.byte '\n'])

/-- What the file system contributes to a setup: which accesses fail and how, and how much
has been copied or written by then. -/
structure EnvIo where
  copy : Option (String × Option ℕ)
  openRead : Option String
  line : Option String
  openWrite : Option String
  write : Option (String × ℕ)

/-- Nothing fails. -/
def EnvIo.up : EnvIo := ⟨none, none, none, none, none⟩

/-- The file, and an example to start from where there is none. -/
structure EnvFile where
  contents : Option (List UInt8)
  exampleContents : Option (List UInt8)

namespace EnvFile

/-- The variables that a setup starts from, if the file can be read. -/
def existingVars (file : EnvFile) : Option (AssocMap String String) :=
  (file.contents.or file.exampleContents).elim (some .empty) envVars

/-- A variable that a setup starts from. -/
def var (file : EnvFile) (key : String) : Option String :=
  file.existingVars.bind fun vars => vars.get? key

/-- Start from the example where there is no file. -/
def copyExample (io : EnvIo) (file : EnvFile) : Except String Unit × EnvFile :=
  match file.contents, file.exampleContents, io.copy with
  | none, some example', none => (.ok (), { file with contents := some example' })
  | none, some example', some (e, copied) =>
    (.error e, { file with contents := copied.map example'.take })
  | none, none, _ | some _, _, _ => (.ok (), file)

/-- Read the variables that are there. -/
def readVars (io : EnvIo) (file : EnvFile) : Except String (AssocMap String String) :=
  match file.contents, io.openRead, io.line with
  | none, _, _ => .ok .empty
  | some _, some e, _ => .error e
  | some _, none, some e => .error e
  | some contents, none, none =>
    match envVars contents with
    | some vars => .ok vars
    | none => .error "stream did not contain valid UTF-8"

end EnvFile

/-- The variables with the new ones put over them. -/
def putOver (existingVars newVars : AssocMap String String) : AssocMap String String :=
  newVars.entries.foldl (fun m e => m.insert e.1 e.2) existingVars

/-- What a setup returns, and the file that it leaves; `order` is the order in which the
variables happen to be written. -/
def insertEnvVars (io : EnvIo) (order : AssocMap String String → List (String × String))
    (file : EnvFile) (newVars : AssocMap String String) : Except String Unit × EnvFile :=
  match file.copyExample io with
  | (.error e, file) => (.error e, file)
  | (.ok (), file) =>
    match file.readVars io, io.openWrite, io.write with
    | .error e, _, _ => (.error e, file)
    | .ok _, some e, _ => (.error e, file)
    | .ok existingVars, none, some (e, written) =>
      let text := writeVars (order (putOver existingVars newVars))
      (.error e, { file with contents := some (text.take written) })
    | .ok existingVars, none, none =>
      let text := writeVars (order (putOver existingVars newVars))
      (.ok (), { file with contents := some text })

/-- A setup: its new variables, and what else decides what it does.  All the variables are
written, in some order. -/
structure EnvSetup where
  newVars : AssocMap String String
  io : EnvIo
  order : AssocMap String String → List (String × String)
  perm : ∀ vars, (order vars).Perm vars.entries

namespace EnvSetup

/-- What a setup returns, and the file that it leaves. -/
def run (file : EnvFile) (a : EnvSetup) : Except String Unit × EnvFile :=
  insertEnvVars a.io a.order file a.newVars

/-- The file that a setup leaves. -/
def step (file : EnvFile) (a : EnvSetup) : Option EnvFile := some (a.run file).2

/-- The setup succeeds, or something fails that is neither copying nor writing. -/
def Uncut (file : EnvFile) (a : EnvSetup) : Prop :=
  (a.run file).1 = .ok () ∨ (a.io.copy = none ∧ a.io.write = none)

/-- What a setup that fails leaves: the variables that were there, or the first bytes of
what it was copying or writing. -/
def LeftBy (file : EnvFile) (a : EnvSetup) (file' : EnvFile) : Prop :=
  (∀ key, file'.var key = file.var key) ∨
    (∃ text n, file.contents = none ∧ file.exampleContents = some text ∧
      file'.contents = some (text.take n)) ∨
    ∃ vars n, file.existingVars = some vars ∧
      file'.contents = some ((writeVars (a.order (putOver vars a.newVars))).take n)

/-- What a setup has been given, if it succeeds. -/
def given (file : EnvFile) (a : EnvSetup) : List (AssocMap String String) :=
  match (a.run file).1 with
  | .ok () => [a.newVars]
  | .error _ => []

end EnvSetup

/-- A variable that is read as it is written: there is no white space around its two sides,
no equals sign in the first, and no newline in either. -/
structure CleanVar (key value : String) : Prop where
  trimKey : trim key = key
  equals : '=' ∉ key.toList
  keyLine : '\n' ∉ key.toList
  trimValue : trim value = value
  valueLine : '\n' ∉ value.toList

/-- All the variables are clean. -/
def CleanVars (vars : AssocMap String String) : Prop :=
  ∀ key value, vars.get? key = some value → CleanVar key value

/-! ### What is read -/

theorem trimChars_subset (l : List Char) : trimChars l ⊆ l := fun _ hc =>
  (List.dropWhile_suffix isWhitespace).subset ((List.rdropWhile_prefix isWhitespace _).subset hc)

/-- The variable of a line is clean. -/
theorem clean_of_lineVar {l : List Char} {e : String × String} (hl : '\n' ∉ l)
    (h : lineVar l = some e) : CleanVar e.1 e.2 := by
  obtain ⟨⟨key, value⟩, hsplit, rfl⟩ := Option.map_eq_some_iff.mp h
  unfold splitOnce at hsplit
  split at hsplit
  · cases hsplit
  · next c rest hrest =>
    obtain ⟨rfl, rfl⟩ := Prod.mk.inj (Option.some.inj hsplit)
    have hvalue : rest ⊆ l := fun d hd =>
      (List.dropWhile_suffix _).subset (hrest ▸ List.mem_cons_of_mem c hd)
    have hkey : l.takeWhile (· ≠ '=') ⊆ l := (List.takeWhile_prefix _).subset
    have hfree : '=' ∉ l.takeWhile (· ≠ '=') := fun h => by
      simpa using List.mem_takeWhile_imp h
    refine ⟨?_, ?_, ?_, ?_, ?_⟩
    · rw [← String.toList_inj]
      simp [trimChars_trimChars]
    · rw [String.toList_ofList]
      exact fun h => hfree (trimChars_subset _ h)
    · rw [String.toList_ofList]
      exact fun h => hl (hkey (trimChars_subset _ h))
    · rw [← String.toList_inj]
      simp [trimChars_trimChars]
    · rw [String.toList_ofList]
      exact fun h => hl (hvalue (trimChars_subset _ h))

/-- A line holds no newline. -/
theorem newline_not_mem_of_envLines {contents : List UInt8} {lines : List String}
    (h : envLines contents = some lines) {line : String} (hline : line ∈ lines) :
    '\n' ∉ line.toList := by
  rw [← Utf8.mem_encode_iff (by decide)]
  have hbytes : Utf8.encode line.toList
      ∈ Lines.lines (Utf8.byte '\n') (Utf8.byte '\r') contents := by
    rw [Utf8.mapM_decode_eq_some_iff.mp h]
    exact List.mem_map_of_mem hline
  exact Lines.newline_not_mem hbytes

/-- **What is read is clean.** -/
theorem clean_of_envVars {contents : List UInt8} {vars : AssocMap String String}
    (h : envVars contents = some vars) : CleanVars vars := by
  obtain ⟨lines, hlines, rfl⟩ := Option.map_eq_some_iff.mp h
  intro key value hvalue
  rw [linesVars, AssocMap.get?_ofList] at hvalue
  have hmem := List.mem_reverse.mp (AssocMap.mem_of_find hvalue)
  obtain ⟨line, hline, hvar⟩ := List.mem_filterMap.mp hmem
  exact clean_of_lineVar (newline_not_mem_of_envLines hlines hline) hvar

/-! ### What is written -/

/-- The line of a clean variable is read as it is written. -/
theorem lineVar_varLine {e : String × String} (h : CleanVar e.1 e.2) :
    lineVar (varLine e).toList = some e := by
  have hkey : ∀ c ∈ e.1.toList, decide (c ≠ '=') = true := fun c hc => by
    rw [decide_eq_true_eq]
    rintro rfl
    exact h.equals hc
  have hdrop : (varLine e).toList.dropWhile (· ≠ '=') = '=' :: e.2.toList := by
    rw [varLine, String.toList_ofList, List.dropWhile_append_of_pos hkey,
      List.dropWhile_cons_of_neg (by simp)]
  have htake : (varLine e).toList.takeWhile (· ≠ '=') = e.1.toList := by
    rw [varLine, String.toList_ofList, List.takeWhile_append_of_pos hkey,
      List.takeWhile_cons_of_neg (by simp), List.append_nil]
  have hread : ∀ s : String, trim s = s → String.ofList (trimChars s.toList) = s := fun s hs => hs
  rw [lineVar, splitOnce, hdrop]
  simp only [htake, Option.map_some]
  rw [hread e.1 h.trimKey, hread e.2 h.trimValue]

/-- The line of a clean variable holds no newline, and does not end with a carriage
return. -/
theorem varLine_line {e : String × String} (h : CleanVar e.1 e.2) :
    '\n' ∉ (varLine e).toList ∧ (varLine e).toList.getLast? ≠ some '\r' := by
  rw [varLine, String.toList_ofList]
  constructor
  · intro hmem
    rcases List.mem_append.mp hmem with hmem | hmem
    · exact h.keyLine hmem
    · rcases List.mem_cons.mp hmem with hmem | hmem
      · cases hmem
      · exact h.valueLine hmem
  · intro hlast
    rw [List.getLast?_append_cons] at hlast
    have hvalue := (trim_eq_self_iff.mp h.trimValue).2
    cases hv : e.2.toList with
    | nil =>
      rw [hv] at hlast
      cases hlast
    | cons c l =>
      rw [hv, List.getLast?_cons_cons] at hlast
      rw [hv] at hvalue
      -- a carriage return is white space
      have hspace := hvalue '\r' hlast
      revert hspace
      decide

/-- The lines of clean variables are read as they are written. -/
theorem envLines_writeVars {l : List (String × String)} (hl : ∀ e ∈ l, CleanVar e.1 e.2) :
    envLines (writeVars l) = some (l.map varLine) := by
  have hlines : Lines.lines (Utf8.byte '\n') (Utf8.byte '\r') (writeVars l)
      = l.map fun e => Utf8.encode (varLine e).toList := by
    refine Lines.lines_flatMap fun line hline => ?_
    obtain ⟨e, he, rfl⟩ := List.mem_map.mp hline
    obtain ⟨hnewline, hreturn⟩ := varLine_line (hl e he)
    rw [Utf8.mem_encode_iff (by decide)]
    exact ⟨hnewline, fun h => hreturn (Utf8.getLast?_of_encode (by decide) h)⟩
  rw [envLines, hlines, Utf8.mapM_decode_eq_some_iff, List.map_map]
  rfl

/-- **Clean variables are read as they are written**, in any order. -/
theorem envVars_writeVars {l : List (String × String)} {vars : AssocMap String String}
    (hclean : CleanVars vars) (hl : l.Perm vars.entries) :
    ∃ vars', envVars (writeVars l) = some vars' ∧ ∀ key, vars'.get? key = vars.get? key := by
  have hmem : ∀ e ∈ l, CleanVar e.1 e.2 := fun e he =>
    hclean e.1 e.2 (AssocMap.mem_entries_iff.mp (hl.mem_iff.mp he))
  have hread : (l.map varLine).filterMap (fun line => lineVar line.toList) = l := by
    rw [List.filterMap_map]
    refine (List.filterMap_congr fun e he => ?_).trans List.filterMap_some
    exact lineVar_varLine (hmem e he)
  refine ⟨linesVars (l.map varLine), by rw [envVars, envLines_writeVars hmem]; rfl, fun key => ?_⟩
  rw [linesVars, hread, AssocMap.get?_ofList]
  exact vars.find_perm ((List.reverse_perm l).trans hl) key

/-! ### Setups -/

theorem get?_putOver (existingVars newVars : AssocMap String String) (key : String) :
    (putOver existingVars newVars).get? key
      = (newVars.get? key).or (existingVars.get? key) := by
  rw [putOver, AssocMap.get?_foldl_insert, AssocMap.find_reverse]

namespace EnvSetup

/-- Every way a setup can go. -/
inductive Ran (file : EnvFile) (a : EnvSetup) : Except String Unit × EnvFile → Prop
  | written {vars : AssocMap String String} {file' : EnvFile} (hvars : file.existingVars = some vars)
      (hcontents : file'.contents = some (writeVars (a.order (putOver vars a.newVars)))) :
      Ran file a (.ok (), file')
  | untouched {e : String} {file' : EnvFile} (hsame : file'.existingVars = file.existingVars) :
      Ran file a (.error e, file')
  | copyCut {e : String} {text : List UInt8} {n : ℕ} {file' : EnvFile}
      (hcopy : a.io.copy = some (e, some n)) (hnone : file.contents = none)
      (hexample : file.exampleContents = some text)
      (hcontents : file'.contents = some (text.take n)) : Ran file a (.error e, file')
  | writeCut {e : String} {vars : AssocMap String String} {n : ℕ} {file' : EnvFile}
      (hwrite : a.io.write = some (e, n)) (hvars : file.existingVars = some vars)
      (hcontents : file'.contents = some ((writeVars (a.order (putOver vars a.newVars))).take n)) :
      Ran file a (.error e, file')

/-- What is read once the example has been copied is what the setup starts from. -/
theorem readVars_eq {io : EnvIo} {file : EnvFile} {vars : AssocMap String String}
    (h : file.readVars io = .ok vars) (hnone : file.contents = none → file.exampleContents = none) :
    file.existingVars = some vars := by
  unfold EnvFile.readVars at h
  split at h
  · next hcontents =>
    rw [EnvFile.existingVars, hcontents, hnone hcontents]
    exact congrArg some (Except.ok.inj h)
  · cases h
  · cases h
  · next contents hcontents _ _ =>
    split at h
    · next vars' hvars =>
      obtain rfl := Except.ok.inj h
      rw [EnvFile.existingVars, hcontents]
      exact hvars
    · cases h

/-- A setup goes one of these ways. -/
theorem ran_run (file : EnvFile) (a : EnvSetup) : Ran file a (a.run file) := by
  -- the file after the copy, with the same variables
  have hcopied : ∀ file₁ : EnvFile, file₁.existingVars = file.existingVars →
      (file₁.contents = none → file₁.exampleContents = none) →
      file.copyExample a.io = (.ok (), file₁) → Ran file a (a.run file) := by
    intro file₁ hsame hnone hcopy
    rw [run, insertEnvVars, hcopy]
    dsimp only
    cases hread : file₁.readVars a.io with
    | error e => exact .untouched hsame
    | ok vars =>
      have hvars : file.existingVars = some vars := hsame ▸ readVars_eq hread hnone
      cases a.io.openWrite with
      | some e => exact .untouched hsame
      | none =>
        cases hwrite : a.io.write with
        | some p => exact .writeCut hwrite hvars rfl
        | none => exact .written hvars rfl
  cases hcontents : file.contents with
  | some contents =>
    refine hcopied file rfl (fun h => ?_) (by rw [EnvFile.copyExample, hcontents])
    rw [hcontents] at h
    cases h
  | none =>
    cases hexample : file.exampleContents with
    | none =>
      exact hcopied file rfl (fun _ => hexample) (by rw [EnvFile.copyExample, hcontents, hexample])
    | some text =>
      cases hcopy : a.io.copy with
      | none =>
        refine hcopied { file with contents := some text } ?_ (fun h => by cases h)
          (by rw [EnvFile.copyExample, hcontents, hexample, hcopy])
        rw [EnvFile.existingVars, EnvFile.existingVars, hcontents, hexample]
        rfl
      | some p =>
        obtain ⟨e, copied⟩ := p
        rw [run, insertEnvVars, EnvFile.copyExample, hcontents, hexample, hcopy]
        cases copied with
        | none =>
          refine .untouched ?_
          rw [EnvFile.existingVars, EnvFile.existingVars, hcontents, hexample]
          rfl
        | some n => exact .copyCut hcopy hcontents hexample rfl

/-- What a setup was given last for a variable. -/
def lastGiven (news : List (AssocMap String String)) (key : String) : Option String :=
  news.foldl (fun o newVars => (newVars.get? key).or o) none

theorem foldl_or (news : List (AssocMap String String)) (key : String) (o : Option String) :
    news.foldl (fun o newVars => (newVars.get? key).or o) o = (lastGiven news key).or o := by
  induction news using List.reverseRecOn with
  | nil => rfl
  | append_singleton news newVars ih =>
    rw [lastGiven, List.foldl_append, List.foldl_append, ih]
    exact Option.or_assoc.symm

theorem lastGiven_append (news news' : List (AssocMap String String)) (key : String) :
    lastGiven (news ++ news') key = (lastGiven news' key).or (lastGiven news key) := by
  rw [lastGiven, List.foldl_append, foldl_or]
  rfl

/-- **A setup that succeeds is read back exactly when what it was given is clean.** -/
theorem reads_back_iff {file : EnvFile} {a : EnvSetup} (hok : (a.run file).1 = .ok ()) :
    (∀ key, (a.run file).2.var key = (a.newVars.get? key).or (file.var key)) ↔
      CleanVars a.newVars := by
  have hran := ran_run file a
  generalize a.run file = r at hok hran
  cases hran with
  | untouched hsame => cases hok
  | copyCut hcopy hnone hexample hcontents => cases hok
  | writeCut hwrite hvars hcontents => cases hok
  | @written vars file' hvars hcontents =>
    have hvar : ∀ key, file'.var key
        = (envVars (writeVars (a.order (putOver vars a.newVars)))).bind fun m => m.get? key := by
      intro key
      rw [EnvFile.var, EnvFile.existingVars, hcontents]
      rfl
    constructor
    · intro h key value hvalue
      have hread := (h key).symm.trans (hvar key)
      rw [hvalue, Option.some_or] at hread
      obtain ⟨m, hm, hget⟩ := Option.bind_eq_some_iff.mp hread.symm
      exact clean_of_envVars hm key value hget
    · intro hclean key
      have hall : CleanVars (putOver vars a.newVars) := by
        intro key value h
        rw [get?_putOver] at h
        rcases Option.or_eq_some_iff.mp h with h | ⟨_, h⟩
        · exact hclean key value h
        · -- what was there was read, from the file or from the example
          rw [EnvFile.existingVars] at hvars
          cases htext : file.contents.or file.exampleContents with
          | none =>
            rw [htext] at hvars
            obtain rfl := Option.some.inj hvars
            cases h
          | some text =>
            rw [htext] at hvars
            exact clean_of_envVars hvars key value h
      obtain ⟨m, hm, hget⟩ := envVars_writeVars hall (a.perm _)
      rw [hvar, hm, Option.bind_some, hget, get?_putOver, EnvFile.var, hvars, Option.bind_some]

/-- A setup that fails leaves the variables, or the first bytes of a text. -/
theorem leftBy_of_error {file : EnvFile} {a : EnvSetup} {e : String}
    (herror : (a.run file).1 = .error e) : LeftBy file a (a.run file).2 := by
  have hran := ran_run file a
  generalize a.run file = r at herror hran
  cases hran with
  | written hvars hcontents => cases herror
  | untouched hsame => exact .inl fun key => by rw [EnvFile.var, EnvFile.var, hsame]
  | copyCut hcopy hnone hexample hcontents => exact .inr (.inl ⟨_, _, hnone, hexample, hcontents⟩)
  | writeCut hwrite hvars hcontents => exact .inr (.inr ⟨_, _, hvars, hcontents⟩)

/-- A setup that fails elsewhere leaves the variables. -/
theorem var_of_uncut {file : EnvFile} {a : EnvSetup} {e : String} (huncut : Uncut file a)
    (herror : (a.run file).1 = .error e) (key : String) :
    (a.run file).2.var key = file.var key := by
  rcases huncut with hok | ⟨hcopy, hwrite⟩
  · rw [herror] at hok
    cases hok
  · have hran := ran_run file a
    generalize a.run file = r at herror hran
    cases hran with
    | written hvars hcontents => cases herror
    | untouched hsame => rw [EnvFile.var, EnvFile.var, hsame]
    | copyCut hcopy' hnone hexample hcontents =>
      rw [hcopy] at hcopy'
      cases hcopy'
    | writeCut hwrite' hvars hcontents =>
      rw [hwrite] at hwrite'
      cases hwrite'

/-- After clean setups a file has what was last given, and what it had at first. -/
theorem var_of_run {as : List EnvSetup} {file t : EnvFile} (hrun : Run step Uncut file as t) :
    (∀ newVars ∈ trace step given file as, CleanVars newVars) → ∀ key,
      t.var key = (lastGiven (trace step given file as) key).or (file.var key) := by
  induction hrun with
  | nil file => exact fun _ _ => rfl
  | @cons file file' t a as hok hstep _ ih =>
    intro hclean key
    rw [trace_cons as hstep] at hclean ⊢
    have hrest := ih (fun m hm => hclean m (List.mem_append_right _ hm)) key
    obtain rfl := Option.some.inj hstep
    rw [hrest, lastGiven_append, Option.or_assoc]
    congr 1
    unfold given
    cases hresult : (a.run file).1 with
    | ok =>
      have hfirst : CleanVars a.newVars := by
        refine hclean _ (List.mem_append_left _ ?_)
        rw [given, hresult]
        exact List.mem_singleton_self _
      rw [(reads_back_iff hresult).mpr hfirst key]
      show _ = ((a.newVars.get? key).or none).or _
      rw [Option.or_none]
    | error e => exact var_of_uncut hok hresult key

end EnvSetup

open EnvSetup in
/-- **After any number of setups a file has what was last given for each variable**, and
what it had at first for the others, exactly when the last setup that succeeded was given
clean variables, as those before were: whatever the order in which the variables are
written, and whatever failed before anything was copied or written.  A setup that fails
leaves the variables that were there, or cuts off what it was copying or writing. -/
theorem env_reads_back_iff {file s : EnvFile} {as : List EnvSetup}
    (hrun : Run step Uncut file as s)
    (hclean : ∀ newVars ∈ trace step given file as, CleanVars newVars) (a : EnvSetup) :
    ((a.run s).1 = .ok () →
      ((∀ key, (a.run s).2.var key
        = (lastGiven (trace step given file as ++ [a.newVars]) key).or (file.var key)) ↔
          CleanVars a.newVars)) ∧
      ∀ e, (a.run s).1 = .error e → LeftBy s a (a.run s).2 := by
  refine ⟨fun hok => ?_, fun e herror => leftBy_of_error herror⟩
  rw [← reads_back_iff hok]
  refine forall_congr' fun key => ?_
  rw [lastGiven_append, Option.or_assoc, ← var_of_run hrun hclean key]
  show _ = ((a.newVars.get? key).or none).or _ ↔ _
  rw [Option.or_none]

/-- No file, and an example with an empty profile and a comment. -/
def emptyProfile : EnvFile :=
  ⟨none, some (Utf8.encode "PROFILE_CONFIG = '\x7b\x7d'\n# no variable\n".toList)⟩

/-- A setup with two variables, written in another order. -/
def firstSetup : EnvSetup where
  newVars :=
    (AssocMap.empty.insert "ADMIN_DIDS" "did:web:admin").insert "PROFILE_CONFIG" "'\x7b\x7d'"
  io := .up
  order vars := vars.entries.reverse
  perm vars := List.reverse_perm vars.entries

/-- A setup that may not write the file. -/
def deniedSetup : EnvSetup where
  newVars := AssocMap.empty.insert "ADMIN_DIDS" "did:web:other"
  io := { EnvIo.up with openWrite := some "permission denied" }
  order vars := vars.entries
  perm _ := .refl _

/-- A setup with a profile in two lines. -/
def twoLineSetup : EnvSetup where
  newVars := (AssocMap.empty.insert "PROFILE_CONFIG" "'\x7b\n\x7d'").insert "SERVER_PORT" "3232"
  io := .up
  order vars := vars.entries
  perm _ := .refl _

theorem clean_firstSetup : CleanVars firstSetup.newVars := by
  intro key value h
  have hmem : (key, value) ∈ [("ADMIN_DIDS", "did:web:admin"), ("PROFILE_CONFIG", "'\x7b\x7d'")] :=
    AssocMap.mem_of_find h
  rcases List.mem_pair.mp hmem with h | h <;> obtain ⟨rfl, rfl⟩ := Prod.mk.inj h <;>
    exact ⟨by decide, by decide, by decide, by decide, by decide⟩

/-- A first setup is read back; after another one that may not write, a profile in two
lines is not. -/
theorem second_setup_cut : ∃ s t, Run EnvSetup.step EnvSetup.Uncut emptyProfile [firstSetup] s ∧
    (∀ key, s.var key
      = (EnvSetup.lastGiven [firstSetup.newVars] key).or (emptyProfile.var key)) ∧
    Run EnvSetup.step EnvSetup.Uncut s [deniedSetup] t ∧ (twoLineSetup.run t).1 = .ok () ∧
    ¬ ∀ key, (twoLineSetup.run t).2.var key
      = (EnvSetup.lastGiven [firstSetup.newVars, twoLineSetup.newVars] key).or
        (emptyProfile.var key) := by
  have hfirst : (firstSetup.run emptyProfile).1 = .ok () := by decide
  have hdenied : (deniedSetup.run (firstSetup.run emptyProfile).2).1
      = .error "permission denied" := by decide
  have hrun₁ : Run EnvSetup.step EnvSetup.Uncut emptyProfile [firstSetup]
      (firstSetup.run emptyProfile).2 := .single (.inl hfirst) rfl
  have hrun₂ : Run EnvSetup.step EnvSetup.Uncut (firstSetup.run emptyProfile).2 [deniedSetup]
      (deniedSetup.run (firstSetup.run emptyProfile).2).2 := .single (.inr ⟨rfl, rfl⟩) rfl
  -- only the first of the two has been given anything
  have hgiven : trace EnvSetup.step EnvSetup.given emptyProfile ([firstSetup] ++ [deniedSetup])
      = [firstSetup.newVars] := by
    simp only [List.singleton_append, trace, EnvSetup.step, EnvSetup.given, hfirst, hdenied,
      List.append_nil]
  have hfirst' := ((env_reads_back_iff (.nil emptyProfile) (fun _ h => by cases h)
    firstSetup).1 hfirst).mpr clean_firstSetup
  refine ⟨_, _, hrun₁, hfirst', hrun₂, by decide, fun h => ?_⟩
  have hclean := ((env_reads_back_iff (hrun₁.trans hrun₂) ?_ twoLineSetup).1 (by decide)).mp ?_
  · exact (hclean "PROFILE_CONFIG" "'\x7b\n\x7d'" (by decide)).valueLine (by decide)
  · rw [hgiven]
    exact fun newVars hnew => List.mem_singleton.mp hnew ▸ clean_firstSetup
  · rw [hgiven]
    exact h

end TrustRegistry
