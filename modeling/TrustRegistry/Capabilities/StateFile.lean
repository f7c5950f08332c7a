import TrustRegistry.Capabilities.Convergence
import TrustRegistry.Capabilities.StateStore
import TrustRegistry.Lib.SavedMap
import TrustRegistry.Storage.CsvCrash

/-!
# The file of the capability state

A state is written to a temporary file next to the file that is read at a start, and
then takes its place under its name.  Every part of this can fail, and the process can
die within it; a call whose saving fails is told so, but the change stays in memory and
is saved with the next one.

## Main definitions

* `StateText` — how a state is written to a text and read from one.
* `FileCapabilityStore`, `FileCapabilityStore.load` — the file, and a start over it.
* `FileRuntime`, `FileRuntime.step` — calls, failures, crashes and starts, step by step.
* `FileRuntime.events` — what a step does to the map of the entries.
* `Served` — the dispatchers are those of what a start would find.

## Main results

* `tmpName_ne` — the temporary file is another one.
* `FileCapabilityStore.ofText_render` — what has been written in full is read, each entry
  as it was but for the numbers of its configuration.
* `file_survives` — after every run a start is possible, and finds the changes that some
  completed saving has followed in time; what is served is what it would find.
* `failed_enable_survives` — a change that was told to have failed is found.
-/

namespace TrustRegistry

open Transition

/-! ### The text of a state -/

/-- How a state is written and read: the form of times, the text of a document, the
document of a text, and what a document that does not fit is told. -/
structure StateText where
  dateTime : ℤ → String
  readDateTime : String → Option ℤ
  write : Json → String
  parse : String → Except String Json
  mismatch : Json → String

namespace StateText

/-- The same as a form of documents. -/
def form (text : StateText) : StateForm where
  dateTime t := .str (text.dateTime t)
  readDateTime j := j.asStr.bind text.readDateTime
  readBack j := text.parse (text.write j)
  mismatch := text.mismatch

/-- The text of a state. -/
def render (text : StateText) (states : CapabilityStates) : String :=
  text.write (CapabilityState.statesToJson text.form states)

/-- The text of a state is read as the document that it was written from, but for the
rounding of numbers, and the times in it as they were. -/
structure Readable (text : StateText) (states : CapabilityStates) : Prop where
  parse : ∃ j, text.parse (text.render states) = .ok j ∧
    j.shape = (CapabilityState.statesToJson text.form states).shape
  dateTime : ∀ e ∈ states.values, text.readDateTime (text.dateTime e.enabledAt) = some e.enabledAt

end StateText

/-! ### The file -/

/-- The stem of a file name, which is what comes before its last dot; a name with no dot
but a first one is its own stem. -/
def fileStem (name : String) : String :=
  match name.toList.reverse.dropWhile (· ≠ '.') with
  | [] => name
  | [_] => name
  | _ :: before => String.ofList before.reverse

/-- The name of the temporary file. -/
def tmpName (name : String) : String := fileStem name ++ ".json.tmp"

/-- The files of a directory by name. -/
abbrev StateFiles := String → Option ByteArray

/-- The path as it is given, and the last part of it. -/
structure FileCapabilityStore where
  path : String
  name : String

namespace FileCapabilityStore

variable (text : StateText) (store : FileCapabilityStore)

/-- The state that a text stands for. -/
def ofText (t : String) : Except String CapabilityStates :=
  let corrupt e := .error s!"capability state {store.path} is corrupt: {e}"
  match text.parse t with
  | .error e => corrupt e
  | .ok j =>
    match CapabilityState.statesOfJson text.form j with
    | some states => .ok states
    | none => corrupt (text.mismatch j)

/-- Read the state, unless the system cannot read the file; a file that is not there is
an empty state. -/
def load (read : Except String Unit) (files : StateFiles) : Except String CapabilityStates :=
  let unreadable e := .error s!"cannot read capability state {store.path}: {e}"
  match read with
  | .error e => unreadable e
  | .ok () =>
    match files store.name with
    | none => .ok AssocMap.empty
    | some bytes =>
      match readToString bytes with
      | .error e => unreadable e
      | .ok t => store.ofText text t

end FileCapabilityStore

/-! ### Calls, failures and crashes -/

/-- How far a call has come.  In between calls there is the answer to the last one. -/
inductive SavePhase
  | idle (answer : Option (Except CapabilityError Unit))
  | changed
  | inDir
  | writing (rest : ByteArray)
  | saved
  | swapped

/-- The set of a running process: its state, its dispatchers, and the call that holds
the lock. -/
structure FileProcess (H : Type*) where
  state : CapabilityStates
  dispatcher : Dispatcher H
  queryDispatcher : Dispatcher H
  phase : SavePhase

/-- The files, and the process if one is running. -/
structure FileRuntime (H : Type*) where
  files : StateFiles
  process : Option (FileProcess H)

/-- A start, the steps of a call, and the death of the process.  A step that the system
can refuse comes with what it says; a text is written some bytes at a time. -/
inductive SaveAction
  | start (read : Except String Unit)
  | begin (now : ℤ) (c : CapabilityCall)
  | createDir (r : Except String Unit)
  | createTmp (r : Except String Unit)
  | write (n : ℕ)
  | writeFails (detail : String)
  | rename (r : Except String Unit)
  | swapAdmin
  | swapQuery
  | crash

namespace FileProcess

variable {H : Type*}

/-- The call has failed to save, and is told so. -/
def failed (p : FileProcess H) (detail : String) : FileProcess H :=
  { p with phase := .idle (some (.error (.storage detail))) }

end FileProcess

namespace FileRuntime

variable {H : Type*} (host : CapabilityHost H) (text : StateText) (store : FileCapabilityStore)

/-- A process that starts over a state. -/
def started (states : CapabilityStates) : FileProcess H :=
  ⟨states, compose host host.base states true, compose host host.baseQuery states false, .idle none⟩

/-- One step.  A process whose start fails is not running. -/
def step (s : FileRuntime H) (a : SaveAction) : Option (FileRuntime H) :=
  match s.process with
  | none =>
    match a with
    | .start read =>
      match store.load text read s.files with
      | .ok states => some { s with process := some (started host states) }
      | .error _ => some s
    | .crash => some s
    | _ => none
  | some p =>
    let files := s.files
    match p.phase, a with
    | _, .crash => some ⟨files, none⟩
    | .idle _, .begin now c =>
      match c.accept host now p.state with
      | .error e => some ⟨files, some { p with phase := .idle (some (.error e)) }⟩
      | .ok entry =>
        some ⟨files, some { p with
          state := p.state.insert c.capability entry, phase := .changed }⟩
    | .changed, .createDir (.ok ()) => some ⟨files, some { p with phase := .inDir }⟩
    | .changed, .createDir (.error e) => some ⟨files, some (p.failed e)⟩
    | .inDir, .createTmp (.ok ()) =>
      some ⟨Function.update files (tmpName store.name) (some ByteArray.empty),
        some { p with phase := .writing (text.render p.state).toByteArray }⟩
    | .inDir, .createTmp (.error e) => some ⟨files, some (p.failed e)⟩
    | .writing left, .write n =>
      some ⟨Function.update files (tmpName store.name)
          ((files (tmpName store.name)).map (· ++ left.extract 0 n)),
        some { p with phase := .writing (left.extract n left.size) }⟩
    | .writing _, .writeFails e => some ⟨files, some (p.failed e)⟩
    | .writing left, .rename (.ok ()) =>
      if left.size = 0 then
        some ⟨Function.update (Function.update files store.name (files (tmpName store.name)))
            (tmpName store.name) none,
          some { p with phase := .saved }⟩
      else none
    | .writing left, .rename (.error e) =>
      if left.size = 0 then some ⟨files, some (p.failed e)⟩ else none
    | .saved, .swapAdmin =>
      some ⟨files, some { p with
        dispatcher := compose host host.base p.state true, phase := .swapped }⟩
    | .swapped, .swapQuery =>
      some ⟨files, some { p with
        queryDispatcher := compose host host.baseQuery p.state false,
        phase := .idle (some (.ok ())) }⟩
    | _, _ => none

/-- What a step does to the map of the entries. -/
def events (s : FileRuntime H) (a : SaveAction) : List (SavedMap.Event String CapabilityState) :=
  match s.process, a with
  | none, .start (.ok ()) => [.start]
  | none, _ => []
  | some p, .begin now c =>
    match p.phase, c.accept host now p.state with
    | .idle _, .ok entry => [.put c.capability entry]
    | _, _ => []
  | some _, .rename (.ok ()) => [.save]
  | some _, .crash => [.stop]
  | some _, _ => []

end FileRuntime

/-! ### The names of the files -/

/-- The name of a temporary file has a stem with `.json` at its end. -/
theorem fileStem_append (stem : String) : fileStem (stem ++ ".json.tmp") = stem ++ ".json" := by
  have hcut : (stem ++ ".json.tmp").toList.reverse.dropWhile (· ≠ '.')
      = '.' :: ("nosj.".toList ++ stem.toList.reverse) := by
    simp
  have hname : stem ++ ".json" = String.ofList ("nosj.".toList ++ stem.toList.reverse).reverse := by
    rw [← String.toList_inj]
    simp
  rw [hname, fileStem, hcut]
  rfl

/-- **The temporary file is another one.** -/
theorem tmpName_ne (name : String) : tmpName name ≠ name := by
  intro h
  -- the stem of a name that ends so would be longer than it is
  have hstem : fileStem name = fileStem name ++ ".json" := by
    conv_lhs => rw [← h, tmpName, fileStem_append]
  have hlength := congrArg String.length hstem
  rw [String.length_append] at hlength
  have : ".json".length = 5 := rfl
  omega

/-! ### What has been written is read -/

namespace CapabilityState

/-- A state as it comes back: only the numbers of its configuration may differ. -/
structure Kept (s s' : CapabilityState) : Prop where
  alike : s.Alike s'
  enabledAt : s'.enabledAt = s.enabledAt

theorem Kept.refl (s : CapabilityState) : s.Kept s := ⟨.refl s, rfl⟩

theorem Kept.trans {s s' s'' : CapabilityState} (h : s.Kept s') (h' : s'.Kept s'') : s.Kept s'' where
  alike := ⟨h'.alike.version.trans h.alike.version, h'.alike.enabled.trans h.alike.enabled,
    h'.alike.config.trans h.alike.config, h'.alike.delegate.trans h.alike.delegate⟩
  enabledAt := h'.enabledAt.trans h.enabledAt

/-- A delegate is read from a member of the shape of one. -/
theorem optional_asStr_of_shape {o : Option Json} {delegate : Option String}
    (h : o.map Json.shape = delegate.map Json.str) :
    Json.optional Json.asStr o = some delegate := by
  cases o with
  | none =>
    cases delegate with
    | none => rfl
    | some d => cases h
  | some j =>
    cases delegate with
    | none => cases h
    | some d =>
      cases j with
      | str d' =>
        obtain rfl : d' = d := by simpa [Json.shape] using h
        rfl
      | _ => simp [Json.shape] at h

/-- A document of the shape of a state's is read. -/
theorem ofJson_of_shape {text : StateText} {s : CapabilityState} {j : Json}
    (hshape : j.shape = (toJson text.form s).shape)
    (htime : text.readDateTime (text.dateTime s.enabledAt) = some s.enabledAt) :
    ∃ s', ofJson text.form j = some s' ∧ s.Kept s' := by
  obtain ⟨l, rfl, hl⟩ := eq_obj_of_shape hshape
  have hversion := Json.bind_member_of_shape_eq hl "version" Json.asStr_shape
  have henabled := Json.bind_member_of_shape_eq hl "enabled" Json.asBool_shape
  have htimes : ∀ j : Json, text.form.readDateTime j.shape = text.form.readDateTime j := fun j => by
    simp [StateText.form]
  have henabledAt := Json.bind_member_of_shape_eq hl "enabledAt" htimes
  have hdelegate := Json.member_of_shape_eq hl "delegate"
  have hconfig := Json.member_of_shape_eq hl "config"
  obtain ⟨version, enabled, config, enabledAt, delegate⟩ := s
  replace hversion : (Json.member "version" l).bind Json.asStr = some version := hversion
  replace henabled : (Json.member "enabled" l).bind Json.asBool = some enabled := henabled
  replace henabledAt : (Json.member "enabledAt" l).bind text.form.readDateTime = some enabledAt :=
    henabledAt.trans htime
  replace hdelegate : (Json.member "delegate" l).map Json.shape = delegate.map Json.str := by
    rw [hdelegate]
    cases delegate <;> simp [Json.member_cons, Json.shape]
  replace hconfig : (Json.member "config" l).map Json.shape = some (config.getD .null).shape := by
    rw [hconfig]
    simp [Json.member_cons]
  obtain ⟨c, hc, hcshape⟩ := Option.map_eq_some_iff.mp hconfig
  obtain ⟨config', hconfig'⟩ : ∃ config', Json.optional some (some c) = some config' := by
    cases c <;> exact ⟨_, rfl⟩
  refine ⟨⟨version, enabled, config', enabledAt, delegate⟩, ?_, ⟨rfl, rfl, ?_, rfl⟩, rfl⟩
  · simp [ofJson, members, hversion, henabled, henabledAt, hc, hconfig',
      optional_asStr_of_shape hdelegate]
  · show (config'.getD .null).shape = (config.getD .null).shape
    rw [getD_of_optional hconfig', hcshape]

/-- Members of the shape of some states' are read one by one. -/
theorem mapM_of_shape {text : StateText} {entries : List (String × CapabilityState)}
    (htime : ∀ e ∈ entries, text.readDateTime (text.dateTime e.2.enabledAt) = some e.2.enabledAt) :
    ∀ {l : List (String × Json)},
      Json.shapeMembers l = Json.shapeMembers (entries.map fun e => (e.1, e.2.toJson text.form)) →
      ∃ read, l.mapM (fun m => (ofJson text.form m.2).map (m.1, ·)) = some read ∧
        List.Forall₂ (fun e e' => e.1 = e'.1 ∧ e.2.Kept e'.2) entries read := by
  induction entries with
  | nil =>
    intro l hl
    cases l with
    | nil => exact ⟨[], rfl, .nil⟩
    | cons m l => simp [Json.shapeMembers] at hl
  | cons e entries ih =>
    intro l hl
    cases l with
    | nil => simp [Json.shapeMembers] at hl
    | cons m l =>
      rw [List.map_cons, Json.shapeMembers, Json.shapeMembers] at hl
      obtain ⟨hm, hl⟩ := List.cons.inj hl
      obtain ⟨hname, hshape⟩ := Prod.mk.inj hm
      obtain ⟨s', hs', hkept⟩ := ofJson_of_shape hshape (htime e List.mem_cons_self)
      obtain ⟨read, hread, hall⟩ := ih (fun e he => htime e (List.mem_cons_of_mem _ he)) hl
      refine ⟨(m.1, s') :: read, ?_, .cons ⟨hname.symm, hkept⟩ hall⟩
      rw [List.mapM_cons, hs', hread]
      rfl

end CapabilityState

/-- **What has been written in full is read**, each entry as it was but for the numbers
of its configuration. -/
theorem FileCapabilityStore.ofText_render {text : StateText} {store : FileCapabilityStore}
    {states : CapabilityStates} (h : text.Readable states) :
    ∃ loaded, store.ofText text (text.render states) = .ok loaded ∧
      states.Rel CapabilityState.Kept loaded := by
  obtain ⟨j, hj, hshape⟩ := h.parse
  obtain ⟨l, rfl, hl⟩ := CapabilityState.eq_obj_of_shape hshape
  obtain ⟨read, hread, hall⟩ := CapabilityState.mapM_of_shape (fun e he =>
    h.dateTime e.2 (List.mem_map_of_mem (f := Prod.snd) he)) hl
  refine ⟨AssocMap.ofList read, ?_, fun k => ?_⟩
  · simp only [ofText, hj, CapabilityState.statesOfJson, hread, Option.map_some]
  · rw [AssocMap.get?_ofList, ← states.find_reverse]
    exact AssocMap.rel_find (List.rel_reverse hall) k

namespace FileCapabilityStore

variable (text : StateText) (store : FileCapabilityStore)

/-- A state as it comes back that has been written in full. -/
def reread (states : CapabilityStates) : CapabilityStates :=
  (store.ofText text (text.render states)).toOption.getD AssocMap.empty

variable {text store} {files : StateFiles}

theorem reread_of_readable {states : CapabilityStates} (h : text.Readable states) :
    store.ofText text (text.render states) = .ok (store.reread text states) ∧
      states.Rel CapabilityState.Kept (store.reread text states) := by
  obtain ⟨loaded, hloaded, hrel⟩ : ∃ loaded, store.ofText text (text.render states) = .ok loaded ∧
      states.Rel CapabilityState.Kept loaded := ofText_render h
  have hreread : store.reread text states = loaded := by
    rw [reread, hloaded]
    rfl
  rw [hreread]
  exact ⟨hloaded, hrel⟩

/-- A text that is there in full is read. -/
theorem load_text {t : String} (h : files store.name = some t.toByteArray) :
    store.load text (.ok ()) files = store.ofText text t := by
  simp [load, h, readToString_toByteArray]

/-- The temporary file is not read. -/
theorem load_update_tmp (o : Option ByteArray) :
    store.load text (.ok ()) (Function.update files (tmpName store.name) o)
      = store.load text (.ok ()) files := by
  rw [load, load, Function.update_of_ne (tmpName_ne store.name).symm]

end FileCapabilityStore

namespace FileRuntime

variable {H : Type*} (host : CapabilityHost H) (text : StateText) (store : FileCapabilityStore)

/-! ### What steps keep -/

/-- Every way a step can go. -/
inductive Stepped (s : FileRuntime H) : SaveAction → FileRuntime H → Prop
  | notStarted {read : Except String Unit} {e : String} (hdown : s.process = none)
      (hload : store.load text read s.files = .error e) : Stepped s (.start read) s
  | started {read : Except String Unit} {states : CapabilityStates} (hdown : s.process = none)
      (hload : store.load text read s.files = .ok states) :
      Stepped s (.start read) ⟨s.files, some (started host states)⟩
  | down (hdown : s.process = none) : Stepped s .crash s
  | crashed {p : FileProcess H} (hp : s.process = some p) : Stepped s .crash ⟨s.files, none⟩
  | refused {p : FileProcess H} {answer : Option (Except CapabilityError Unit)} {now : ℤ}
      {c : CapabilityCall} {e : CapabilityError} (hp : s.process = some p)
      (hphase : p.phase = .idle answer) (haccept : c.accept host now p.state = .error e) :
      Stepped s (.begin now c) ⟨s.files, some { p with phase := .idle (some (.error e)) }⟩
  | began {p : FileProcess H} {answer : Option (Except CapabilityError Unit)} {now : ℤ}
      {c : CapabilityCall} {entry : CapabilityState} (hp : s.process = some p)
      (hphase : p.phase = .idle answer) (haccept : c.accept host now p.state = .ok entry) :
      Stepped s (.begin now c)
        ⟨s.files, some { p with state := p.state.insert c.capability entry, phase := .changed }⟩
  | madeDir {p : FileProcess H} (hp : s.process = some p) (hphase : p.phase = .changed) :
      Stepped s (.createDir (.ok ())) ⟨s.files, some { p with phase := .inDir }⟩
  | madeTmp {p : FileProcess H} (hp : s.process = some p) (hphase : p.phase = .inDir) :
      Stepped s (.createTmp (.ok ()))
        ⟨Function.update s.files (tmpName store.name) (some ByteArray.empty),
          some { p with phase := .writing (text.render p.state).toByteArray }⟩
  | wrote {p : FileProcess H} {left : ByteArray} {n : ℕ} (hp : s.process = some p)
      (hphase : p.phase = .writing left) :
      Stepped s (.write n)
        ⟨Function.update s.files (tmpName store.name)
            ((s.files (tmpName store.name)).map (· ++ left.extract 0 n)),
          some { p with phase := .writing (left.extract n left.size) }⟩
  | renamed {p : FileProcess H} (hp : s.process = some p)
      (hphase : p.phase = .writing ByteArray.empty) :
      Stepped s (.rename (.ok ()))
        ⟨Function.update
            (Function.update s.files store.name (s.files (tmpName store.name)))
            (tmpName store.name) none,
          some { p with phase := .saved }⟩
  | failed {p : FileProcess H} {a : SaveAction} {detail : String} (hp : s.process = some p)
      (hphase : p.phase = .changed ∨ p.phase = .inDir ∨ ∃ rest, p.phase = .writing rest)
      (ha : a ≠ .rename (.ok ()) ∧ a ≠ .crash ∧ ∀ now c, a ≠ .begin now c) :
      Stepped s a ⟨s.files, some (p.failed detail)⟩
  | swappedAdmin {p : FileProcess H} (hp : s.process = some p) (hphase : p.phase = .saved) :
      Stepped s .swapAdmin ⟨s.files, some { p with
        dispatcher := compose host host.base p.state true, phase := .swapped }⟩
  | swappedQuery {p : FileProcess H} (hp : s.process = some p) (hphase : p.phase = .swapped) :
      Stepped s .swapQuery ⟨s.files, some { p with
        queryDispatcher := compose host host.baseQuery p.state false,
        phase := .idle (some (.ok ())) }⟩

variable {host text store}

theorem stepped_of_step {s s' : FileRuntime H} {a : SaveAction}
    (h : s.step host text store a = some s') : Stepped host text store s a s' := by
  cases hp : s.process with
  | none =>
    simp only [step, hp] at h
    cases a with
    | start read =>
      simp only at h
      split at h
      · next states hload =>
        obtain rfl := Option.some.inj h
        exact .started hp hload
      · next e hload =>
        obtain rfl := Option.some.inj h
        exact .notStarted hp hload
    | crash =>
      obtain rfl := Option.some.inj h
      exact .down hp
    | _ => cases h
  | some p =>
    simp only [step, hp] at h
    split at h
    · obtain rfl := Option.some.inj h
      exact .crashed hp
    · next hphase =>
      split at h
      · next e haccept =>
        obtain rfl := Option.some.inj h
        exact .refused hp hphase haccept
      · next entry haccept =>
        obtain rfl := Option.some.inj h
        exact .began hp hphase haccept
    · next hphase =>
      obtain rfl := Option.some.inj h
      exact .madeDir hp hphase
    · next hphase =>
      obtain rfl := Option.some.inj h
      exact .failed hp (.inl hphase) (by simp)
    · next hphase =>
      obtain rfl := Option.some.inj h
      exact .madeTmp hp hphase
    · next hphase =>
      obtain rfl := Option.some.inj h
      exact .failed hp (.inr (.inl hphase)) (by simp)
    · next left n hphase =>
      obtain rfl := Option.some.inj h
      exact .wrote hp hphase
    · next left e hphase =>
      obtain rfl := Option.some.inj h
      exact .failed hp (.inr (.inr ⟨left, hphase⟩)) (by simp)
    · next left hphase =>
      split at h
      · next hleft =>
        obtain rfl := Option.some.inj h
        exact .renamed hp (ByteArray.size_eq_zero_iff.mp hleft ▸ hphase)
      · cases h
    · next left e hphase =>
      split at h
      · obtain rfl := Option.some.inj h
        exact .failed hp (.inr (.inr ⟨left, hphase⟩)) (by simp)
      · cases h
    · next hphase =>
      obtain rfl := Option.some.inj h
      exact .swappedAdmin hp hphase
    · next hphase =>
      obtain rfl := Option.some.inj h
      exact .swappedQuery hp hphase
    · cases h

variable (host) in
/-- The dispatchers are those of a state that comes back as the stored one. -/
def Served (p : FileProcess H) (stored : CapabilityStates) : Prop :=
  ∃ states : CapabilityStates, states.Rel CapabilityState.Kept stored ∧
    p.dispatcher = compose host host.base states true ∧
    p.queryDispatcher = compose host host.baseQuery states false

variable (host text store) in
/-- What is stored, what is served and what is in the temporary file, at each point of a
call. -/
def PhaseSound (files : StateFiles) (stored : CapabilityStates) (p : FileProcess H) : Prop :=
  match p.phase with
  | .idle answer => Served host p stored ∧
      (answer = some (.ok ()) → p.state.Rel CapabilityState.Kept stored)
  | .changed => Served host p stored
  | .inDir => Served host p stored
  | .writing rest => Served host p stored ∧ ∃ written, files (tmpName store.name) = some written ∧
      written ++ rest = (text.render p.state).toByteArray
  | .saved => p.state.Rel CapabilityState.Kept stored
  | .swapped => p.state.Rel CapabilityState.Kept stored ∧
      p.dispatcher = compose host host.base p.state true

variable (host text store) in
/-- The file can be read, and a process that runs is sound. -/
def Sound (s : FileRuntime H) : Prop :=
  ∃ stored, store.load text (.ok ()) s.files = .ok stored ∧
    ∀ p, s.process = some p → PhaseSound host text store s.files stored p

variable (text) in
/-- What is given its place under the name of the file can be read. -/
def SavesReadable (s : FileRuntime H) (a : SaveAction) : Prop :=
  a = .rename (.ok ()) → ∀ p, s.process = some p → text.Readable p.state

variable (text store) in
/-- The map of the entries: what a start finds, and what the process has. -/
def entries (s : FileRuntime H) : SavedMap String CapabilityState where
  saved := (store.load text (.ok ()) s.files).toOption.getD AssocMap.empty
  memory := s.process.map (·.state)

/-- What a start finds once the text has its name. -/
theorem load_renamed {files : StateFiles} {states : CapabilityStates}
    (hread : text.Readable states)
    (htmp : files (tmpName store.name) = some (text.render states).toByteArray) :
    store.load text (.ok ()) (Function.update
        (Function.update files store.name (files (tmpName store.name))) (tmpName store.name) none)
      = .ok (store.reread text states) := by
  rw [FileCapabilityStore.load_update_tmp,
    FileCapabilityStore.load_text (t := text.render states) (by rw [Function.update_self, htmp]),
    (FileCapabilityStore.reread_of_readable hread).1]

theorem sound_running {files : StateFiles} {stored : CapabilityStates} {p : FileProcess H}
    (hload : store.load text (.ok ()) files = .ok stored)
    (hp : PhaseSound host text store files stored p) : Sound host text store ⟨files, some p⟩ :=
  ⟨stored, hload, fun _ hp' => Option.some.inj hp' ▸ hp⟩

/-- **Every step keeps the file readable and the process sound.** -/
theorem sound_step {s s' : FileRuntime H} {a : SaveAction} (hs : Sound host text store s)
    (hok : SavesReadable text s a) (h : s.step host text store a = some s') :
    Sound host text store s' := by
  obtain ⟨stored, hload, hsound⟩ := hs
  have htmp : ∀ o, store.load text (.ok ()) (Function.update s.files (tmpName store.name) o)
      = .ok stored := fun o => by rw [FileCapabilityStore.load_update_tmp, hload]
  cases stepped_of_step h with
  | notStarted _ _ => exact ⟨stored, hload, hsound⟩
  | @started read states hdown hstates =>
    cases read with
    | error e => simp [FileCapabilityStore.load] at hstates
    | ok u =>
      obtain rfl : stored = states := Except.ok.inj (hload.symm.trans hstates)
      exact sound_running hload ⟨⟨stored, .refl .refl stored, rfl, rfl⟩, fun h => by cases h⟩
  | down _ => exact ⟨stored, hload, hsound⟩
  | crashed _ => exact ⟨stored, hload, fun p hp => by cases hp⟩
  | @refused p answer now c e hp hphase haccept =>
    have hp := hsound p hp
    rw [PhaseSound, hphase] at hp
    exact sound_running hload ⟨hp.1, fun h => by cases h⟩
  | @began p answer now c entry hp hphase haccept =>
    have hp := hsound p hp
    rw [PhaseSound, hphase] at hp
    exact sound_running hload hp.1
  | @madeDir p hp hphase =>
    have hp := hsound p hp
    rw [PhaseSound, hphase] at hp
    exact sound_running hload hp
  | @madeTmp p hp hphase =>
    have hp := hsound p hp
    rw [PhaseSound, hphase] at hp
    exact sound_running (htmp _)
      ⟨hp, ByteArray.empty, Function.update_self .., ByteArray.empty_append⟩
  | @wrote p left n hp hphase =>
    have hp := hsound p hp
    rw [PhaseSound, hphase] at hp
    obtain ⟨hserved, written, hwritten, htext⟩ := hp
    refine sound_running (htmp _) ⟨hserved, written ++ left.extract 0 n, ?_, ?_⟩
    · rw [Function.update_self, hwritten, Option.map_some]
    · rw [ByteArray.append_assoc, ByteArray.extract_append_extract, Nat.zero_min,
        ByteArray.extract_zero_max_size, htext]
  | @renamed p hp hphase =>
    have hread := hok rfl p hp
    have hp := hsound p hp
    rw [PhaseSound, hphase] at hp
    obtain ⟨_, written, hwritten, htext⟩ := hp
    rw [ByteArray.append_empty] at htext
    exact sound_running (load_renamed hread (htext ▸ hwritten))
      (FileCapabilityStore.reread_of_readable hread).2
  | @failed p _ detail hp hphase _ =>
    have hp := hsound p hp
    rw [PhaseSound] at hp
    refine sound_running hload ⟨?_, fun h => by cases h⟩
    rcases hphase with hphase | hphase | ⟨rest, hphase⟩
    · rw [hphase] at hp
      exact hp
    · rw [hphase] at hp
      exact hp
    · rw [hphase] at hp
      exact hp.1
  | @swappedAdmin p hp hphase =>
    have hp := hsound p hp
    rw [PhaseSound, hphase] at hp
    exact sound_running hload ⟨hp, rfl⟩
  | @swappedQuery p hp hphase =>
    have hp := hsound p hp
    rw [PhaseSound, hphase] at hp
    exact sound_running hload ⟨⟨p.state, hp.1, hp.2, rfl⟩, fun _ => hp.1⟩

/-! ### The map of the entries -/

/-- The entries of a process over files that a start reads. -/
theorem entries_of_load {files : StateFiles} {stored : CapabilityStates}
    {process : Option (FileProcess H)} (hload : store.load text (.ok ()) files = .ok stored) :
    entries text store ⟨files, process⟩ = ⟨stored, process.map (·.state)⟩ := by
  rw [entries, hload]
  rfl

/-- **What a step does to the entries is what is observed of it.** -/
theorem run_events {s s' : FileRuntime H} {a : SaveAction} (hs : Sound host text store s)
    (hok : SavesReadable text s a) (h : s.step host text store a = some s') :
    Run (SavedMap.step (store.reread text))
      (SavedMap.SavesRelated CapabilityState.Kept (store.reread text))
      (entries text store s) (events host s a) (entries text store s') := by
  obtain ⟨files, process⟩ := s
  obtain ⟨stored, hload, hsound⟩ := hs
  simp only at hload hsound
  have htmp : ∀ o, store.load text (.ok ()) (Function.update files (tmpName store.name) o)
      = .ok stored := fun o => by rw [FileCapabilityStore.load_update_tmp, hload]
  rw [entries_of_load hload]
  cases stepped_of_step h with
  | @notStarted read e hdown hfailed =>
    obtain rfl : process = none := hdown
    cases read with
    | ok u => cases hload.symm.trans hfailed
    | error e => exact entries_of_load hload ▸ .nil _
  | @started read states hdown hstates =>
    obtain rfl : process = none := hdown
    cases read with
    | error e => simp [FileCapabilityStore.load] at hstates
    | ok u =>
      obtain rfl : stored = states := Except.ok.inj (hload.symm.trans hstates)
      rw [entries_of_load hload]
      exact .single (fun h => by cases h) rfl
  | down hdown =>
    obtain rfl : process = none := hdown
    exact entries_of_load hload ▸ .nil _
  | crashed hp =>
    obtain rfl := hp
    exact entries_of_load hload ▸ .single (fun h => by cases h) rfl
  | refused hp hphase haccept =>
    obtain rfl := hp
    simp only [events, hphase, haccept]
    exact entries_of_load hload ▸ .nil _
  | began hp hphase haccept =>
    obtain rfl := hp
    simp only [events, hphase, haccept]
    rw [entries_of_load hload]
    exact .single (fun h => by cases h) rfl
  | madeDir hp _ =>
    obtain rfl := hp
    exact entries_of_load hload ▸ .nil _
  | madeTmp hp _ =>
    obtain rfl := hp
    exact entries_of_load (htmp _) ▸ .nil _
  | wrote hp _ =>
    obtain rfl := hp
    exact entries_of_load (htmp _) ▸ .nil _
  | @renamed p hp hphase =>
    obtain rfl := hp
    have hread := hok rfl p rfl
    have hp := hsound p rfl
    rw [PhaseSound, hphase] at hp
    obtain ⟨_, written, hwritten, htext⟩ := hp
    rw [ByteArray.append_empty] at htext
    rw [entries_of_load (load_renamed hread (htext ▸ hwritten))]
    refine .single (fun _ m hm => ?_) rfl
    obtain rfl := Option.some.inj hm
    exact (FileCapabilityStore.reread_of_readable hread).2
  | @failed p _ detail hp _ ha =>
    obtain rfl := hp
    obtain ⟨hrename, hcrash, hbegin⟩ := ha
    have hnone : events host ⟨files, some p⟩ a = [] := by
      cases a with
      | begin now c => exact absurd rfl (hbegin now c)
      | crash => exact absurd rfl hcrash
      | rename r =>
        cases r with
        | ok u => exact absurd rfl hrename
        | error e => rfl
      | _ => rfl
    rw [hnone, entries_of_load hload]
    exact .nil _
  | swappedAdmin hp _ =>
    obtain rfl := hp
    exact entries_of_load hload ▸ .nil _
  | swappedQuery hp _ =>
    obtain rfl := hp
    exact entries_of_load hload ▸ .nil _

/-! ### Calls in a row -/

/-- **A call whose saving fails leaves its change in memory alone**, and is told so. -/
theorem run_failed_call {files : StateFiles} {p : FileProcess H}
    {answer : Option (Except CapabilityError Unit)} {now : ℤ} {c : CapabilityCall}
    {entry : CapabilityState} (detail : String) (hphase : p.phase = .idle answer)
    (haccept : c.accept host now p.state = .ok entry) :
    Run (step host text store) (SavesReadable text) ⟨files, some p⟩
      [.begin now c, .createDir (.error detail)]
      ⟨files, some { p with
        state := p.state.insert c.capability entry,
        phase := .idle (some (.error (.storage detail))) }⟩ := by
  have hbegin : step host text store ⟨files, some p⟩ (.begin now c) = some ⟨files, some { p with
      state := p.state.insert c.capability entry, phase := .changed }⟩ := by
    simp [step, hphase, haccept]
  exact .cons (fun h => by cases h) hbegin (.single (fun h => by cases h) rfl)

/-- **A call that is saved has the text of its state in the file**, and both dispatchers
composed anew. -/
theorem run_saved_call {files : StateFiles} {p : FileProcess H}
    {answer : Option (Except CapabilityError Unit)} {now : ℤ} {c : CapabilityCall}
    {entry : CapabilityState} (hphase : p.phase = .idle answer)
    (haccept : c.accept host now p.state = .ok entry)
    (hread : text.Readable (p.state.insert c.capability entry)) :
    ∃ as files', files' store.name
        = some (text.render (p.state.insert c.capability entry)).toByteArray ∧
      Run (step host text store) (SavesReadable text) ⟨files, some p⟩ as
        ⟨files', some ⟨p.state.insert c.capability entry,
          compose host host.base (p.state.insert c.capability entry) true,
          compose host host.baseQuery (p.state.insert c.capability entry) false,
          .idle (some (.ok ()))⟩⟩ := by
  let bytes := (text.render (p.state.insert c.capability entry)).toByteArray
  let running (phase : SavePhase) : FileProcess H :=
    { p with state := p.state.insert c.capability entry, phase }
  let opened := Function.update files (tmpName store.name) (some ByteArray.empty)
  let written := Function.update opened (tmpName store.name)
    ((opened (tmpName store.name)).map (· ++ bytes.extract 0 bytes.size))
  let renamed := Function.update
    (Function.update written store.name (written (tmpName store.name))) (tmpName store.name) none
  have hbegin : step host text store ⟨files, some p⟩ (.begin now c)
      = some ⟨files, some (running .changed)⟩ := by
    simp [step, hphase, haccept, running]
  have hrename : step host text store
      ⟨written, some (running (.writing (bytes.extract bytes.size bytes.size)))⟩
      (.rename (.ok ())) = some ⟨renamed, some (running .saved)⟩ := by
    simp [step, running, renamed]
  refine ⟨_, renamed, ?_, .cons (fun h => by cases h) hbegin <|
    .cons (a := .createDir (.ok ())) (fun h => by cases h) rfl <|
    .cons (a := .createTmp (.ok ())) (fun h => by cases h) rfl <|
    .cons (a := .write bytes.size) (fun h => by cases h) rfl <|
    .cons (fun _ _ hp => Option.some.inj hp ▸ hread) hrename <|
    .cons (a := .swapAdmin) (fun h => by cases h) rfl <|
    .single (a := .swapQuery) (fun h => by cases h) rfl⟩
  simp only [renamed, written, opened]
  rw [Function.update_of_ne (tmpName_ne store.name).symm, Function.update_self,
    Function.update_self, Function.update_self, Option.map_some, ByteArray.empty_append,
    ByteArray.extract_zero_size]

end FileRuntime

/-- **What a start finds after every run**, whatever of the saving fails and wherever the
process dies: the file can be read, and has the changes that a completed saving followed
before the process ended, those among them that were told to have failed included.
Between two calls the dispatchers are those of what a start would find; and when a call
has succeeded, a start would find all that the process has. -/
theorem file_survives {H : Type*} {host : CapabilityHost H} {text : StateText}
    {store : FileCapabilityStore} {files : StateFiles} {initial : CapabilityStates}
    (hload : store.load text (.ok ()) files = .ok initial) {as : List SaveAction}
    {t : FileRuntime H}
    (hrun : Run (FileRuntime.step host text store) (FileRuntime.SavesReadable text)
      ⟨files, none⟩ as t) :
    ∃ stored, store.load text (.ok ()) t.files = .ok stored ∧
      (initial.putAll (SavedMap.survivors []
        (trace (FileRuntime.step host text store) (FileRuntime.events host)
          ⟨files, none⟩ as))).Rel CapabilityState.Kept stored ∧
      ∀ p answer, t.process = some p → p.phase = .idle answer →
        FileRuntime.Served host p stored ∧
          (answer = some (.ok ()) → p.state.Rel CapabilityState.Kept stored) := by
  have hstart : FileRuntime.Sound host text store (⟨files, none⟩ : FileRuntime H) :=
    ⟨initial, hload, fun p hp => by cases hp⟩
  obtain ⟨⟨stored, hstored, hsound⟩, hentries⟩ := hrun.simulate_trace
    (fun s a s' hs hok hstep =>
      ⟨FileRuntime.sound_step hs hok hstep, FileRuntime.run_events hs hok hstep⟩) hstart
  obtain ⟨files', process⟩ := t
  rw [FileRuntime.entries_of_load hload, FileRuntime.entries_of_load hstored] at hentries
  have hsurvive := (SavedMap.run_saved .refl (fun _ _ _ => .trans) hentries initial []
    (.refl .refl initial) fun m hm => by cases hm).1
  refine ⟨stored, hstored, hsurvive, fun p answer hp hphase => ?_⟩
  have hp := hsound p hp
  rw [FileRuntime.PhaseSound, hphase] at hp
  exact hp

/-- A host with a second capability, which needs no configuration. -/
def demoHost : CapabilityHost TaskHandler :=
  serveHost.over [GitTrust.definition, ⟨⟨"demo", .obj []⟩, fun dispatcher _ => dispatcher, none⟩]

/-- The call that enables it, and the one that enables commit signing. -/
def enableDemo : CapabilityCall := .enable "demo" "0.1" none none

@[inherit_doc enableDemo]
def enableSigning : CapabilityCall :=
  .enable GitTrust.slug "0.1" (some (.obj [("authority", .str "did:web:community")])) none

/-- The states after both calls, at the epoch. -/
def demoStates : CapabilityStates :=
  (AssocMap.empty.insert "demo" ⟨"0.1", true, none, 0, none⟩).insert GitTrust.slug
    ⟨"0.1", true, some (.obj [("authority", .str "did:web:community")]), 0, none⟩

/-- Their text. -/
def demoJson : String :=
  "\x7b\n  \"demo\": \x7b\n    \"version\": \"0.1\",\n    \"enabled\": true,\n"
    ++ "    \"config\": null,\n    \"enabledAt\": \"1970-01-01T00:00:00Z\"\n  \x7d,\n"
    ++ "  \"git-trust\": \x7b\n    \"version\": \"0.1\",\n    \"enabled\": true,\n"
    ++ "    \"config\": \x7b\n      \"authority\": \"did:web:community\"\n    \x7d,\n"
    ++ "    \"enabledAt\": \"1970-01-01T00:00:00Z\"\n  \x7d\n\x7d"

/-- The document of this text. -/
def demoDocument : Json :=
  .obj [
    ("demo", .obj [("version", .str "0.1"), ("enabled", .bool true), ("config", .null),
      ("enabledAt", .str "1970-01-01T00:00:00Z")]),
    ("git-trust", .obj [("version", .str "0.1"), ("enabled", .bool true),
      ("config", .obj [("authority", .str "did:web:community")]),
      ("enabledAt", .str "1970-01-01T00:00:00Z")])]

/-- How these states are written and read. -/
def demoText : StateText where
  dateTime _ := "1970-01-01T00:00:00Z"
  readDateTime s := if s = "1970-01-01T00:00:00Z" then some 0 else none
  write _ := demoJson
  parse s :=
    if s = demoJson then .ok demoDocument else .error "expected value at line 1 column 1"
  mismatch _ := "invalid type"

/-- The file of the default path. -/
def demoStore : FileCapabilityStore := ⟨"./.trust-registry/capabilities.json", "capabilities.json"⟩

theorem readable_demoStates : demoText.Readable demoStates where
  parse := by
    refine ⟨demoDocument, by simp only [demoText, StateText.render, if_true], ?_⟩
    simp [demoDocument, demoStates, demoText, GitTrust.slug, CapabilityState.statesToJson,
      CapabilityState.toJson, StateText.form, AssocMap.insert, AssocMap.put, AssocMap.empty]
  dateTime e he := by
    have h : e = ⟨"0.1", true, none, 0, none⟩ ∨
        e = ⟨"0.1", true, some (.obj [("authority", .str "did:web:community")]), 0, none⟩ := by
      simpa [demoStates, GitTrust.slug, AssocMap.values, AssocMap.insert, AssocMap.put,
        AssocMap.empty] using he
    rcases h with rfl | rfl <;> simp [demoText]

/-- The process that could not make the directory when the one was enabled. -/
def failedDemo : FileProcess TaskHandler :=
  { FileRuntime.started demoHost AssocMap.empty with
    state := AssocMap.empty.insert "demo" ⟨"0.1", true, none, 0, none⟩
    phase := .idle (some (.error (.storage "Permission denied (os error 13)"))) }

/-- A change that was told to have failed survives: the directory cannot be made when one
capability is enabled, and can when the other is. -/
theorem failed_enable_survives : ∃ (as bs : List SaveAction) (failed t : FileRuntime TaskHandler)
    (p : FileProcess TaskHandler) (stored : CapabilityStates),
    Run (FileRuntime.step demoHost demoText demoStore) (FileRuntime.SavesReadable demoText)
        ⟨fun _ => none, none⟩ as failed ∧
      failed.process = some p ∧
      p.phase = .idle (some (.error (.storage "Permission denied (os error 13)"))) ∧
      Run (FileRuntime.step demoHost demoText demoStore) (FileRuntime.SavesReadable demoText)
        failed bs t ∧
      demoStore.load demoText (.ok ()) t.files = .ok stored ∧
      (enabledEntry stored "demo").isSome = true := by
  have hstart : Run (FileRuntime.step demoHost demoText demoStore)
      (FileRuntime.SavesReadable demoText) ⟨fun _ => none, none⟩ [.start (.ok ())]
      ⟨fun _ => none, some (FileRuntime.started demoHost AssocMap.empty)⟩ :=
    .single (fun h => by cases h) rfl
  have hfailed : Run (FileRuntime.step demoHost demoText demoStore)
      (FileRuntime.SavesReadable demoText)
      ⟨fun _ => none, some (FileRuntime.started demoHost AssocMap.empty)⟩
      [.begin 0 enableDemo, .createDir (.error "Permission denied (os error 13)")]
      ⟨fun _ => none, some failedDemo⟩ :=
    FileRuntime.run_failed_call "Permission denied (os error 13)" rfl rfl
  have haccept : enableSigning.accept demoHost 0 failedDemo.state
      = .ok ⟨"0.1", true, some (.obj [("authority", .str "did:web:community")]), 0, none⟩ := rfl
  obtain ⟨bs, files, _, hsaved⟩ : ∃ as files', files' demoStore.name
        = some (demoText.render demoStates).toByteArray ∧
      Run (FileRuntime.step demoHost demoText demoStore) (FileRuntime.SavesReadable demoText)
        ⟨fun _ => none, some failedDemo⟩ as ⟨files', some ⟨demoStates,
          compose demoHost demoHost.base demoStates true,
          compose demoHost demoHost.baseQuery demoStates false, .idle (some (.ok ()))⟩⟩ :=
    FileRuntime.run_saved_call rfl haccept readable_demoStates
  have hload : demoStore.load demoText (.ok ()) (fun _ => none) = .ok AssocMap.empty := rfl
  obtain ⟨stored, hstored, _, hserved⟩ := file_survives hload
    ((hstart.trans hfailed).trans hsaved)
  refine ⟨_, bs, _, _, _, stored, hstart.trans hfailed, rfl, rfl, hsaved, hstored, ?_⟩
  -- what the second call has saved is the state of both
  have hrel : (demoStates.get? "demo").Rel CapabilityState.Kept (stored.get? "demo") :=
    (hserved _ _ rfl rfl).2 rfl "demo"
  rw [demoStates, AssocMap.get?_insert_of_ne _ _ (by decide), AssocMap.get?_insert_self] at hrel
  rw [enabledEntry]
  generalize stored.get? "demo" = o at hrel
  cases hrel with
  | some hkept => rw [Option.filter_some, hkept.alike.enabled, if_pos rfl, Option.isSome_some]

end TrustRegistry
