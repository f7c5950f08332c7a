import Mathlib.Algebra.Group.Nat.Defs
import Mathlib.Data.List.Basic
import TrustRegistry.Lib.Json
import TrustRegistry.Lib.Transition

/-!
# The health of a server

A server answers reads over HTTP and takes writes with a listener, each in a task of its
own.  The listener starts by asking for the DID document of the registry, again and again
while it is not there, then connects to the mediator, and then takes messages for ever.
Whoever joins the server waits for both tasks: when the listener ends first, the health
of the server is degraded and reads go on.

## Main definitions

* `WriteState` — what is known of the write path, with `RegistryHealth.toJson`, the answer
  to a probe.
* `didDocumentUrl` — where the DID document of a registry is.
* `ListenerPhase` — the start of the listener, request by request.
* `Supervised`, `Supervised.step` — both tasks, and whoever joins them.

## Main results

* `health_tells` — what a probe is told in every run.
* `failed_listener_is_clean` — a listener that could not start is told to have exited
  cleanly.
* `unreachable_iff` — when a listener gives up on the DID document.
-/

namespace TrustRegistry

open Transition

/-! ### What is known of the write path -/

/-- State of the DIDComm write path. -/
inductive WriteStatus
  | ok
  | disabled
  | unavailable
  deriving DecidableEq

namespace WriteStatus

/-- The value for the `writes` field. -/
def asStr : WriteStatus → String
  | ok => "ok"
  | disabled => "disabled"
  | unavailable => "unavailable"

/-- Whether the state is reported as degraded. -/
def isDegraded : WriteStatus → Bool
  | unavailable => true
  | _ => false

end WriteStatus

/-- The state, and why writes are unavailable when they are. -/
structure WriteState where
  status : WriteStatus
  detail : Option String
  deriving DecidableEq

namespace RegistryHealth

/-- What is known at first. -/
def new (didcommEnabled : Bool) : WriteState :=
  ⟨if didcommEnabled then .ok else .disabled, none⟩

/-- The listener has stopped. -/
def markWritesUnavailable (_ : WriteState) (detail : String) : WriteState :=
  ⟨.unavailable, some detail⟩

/-- The answer to a probe. -/
def toJson (state : WriteState) : Json :=
  .obj ([("status", .str (if state.status.isDegraded then "degraded" else "OK")),
      ("writes", .str state.status.asStr)]
    ++ state.detail.toList.map fun detail => ("detail", .str detail))

end RegistryHealth

/-! ### Where the DID document is -/

/-- What the listener ends with when it fails. -/
inductive DIDCommError
  | atm (e : String)
  | missingMediator
  | elapsedTimeout (e : String)
  | tdk (e : String)
  | missingATM
  | unreachableDidDocument
  | invalidDid
  | httpRequest (e : String)
  deriving DecidableEq

/-- What connecting to the mediator can fail with. -/
inductive BuildError
  | tdk (e : String)
  | missingATM
  | elapsedTimeout (e : String)
  | atm (e : String)

/-- The same as what the listener ends with. -/
def BuildError.toDIDCommError : BuildError → DIDCommError
  | tdk e => .tdk e
  | missingATM => .missingATM
  | elapsedTimeout e => .elapsedTimeout e
  | atm e => .atm e

/-- Where the DID document of a registry is; only registries of the web have theirs
checked.  The host may have its port escaped, the path is taken as it is; `decode` is
what the escapes in a host stand for, if that is a text. -/
def didDocumentUrl (decode : String → Option String) (profileDid : String) :
    Except DIDCommError (Option String) :=
  match "did:web:".toList.isPrefixOf profileDid.toList with
  | false => .ok none
  | true =>
    match ((profileDid.toList.drop 8).splitOn ':').map String.ofList with
    | [] => .error .invalidDid
    | host :: path =>
      match decode host with
      | none => .error .invalidDid
      | some domain =>
        if path = [] then .ok (some s!"https://{domain}/.well-known/did.json")
        else
          let path := "/".intercalate path
          .ok (some s!"https://{domain}/{path}/did.json")

/-- It is not found for an invalid DID only. -/
theorem error_of_didDocumentUrl {decode : String → Option String} {profileDid : String}
    {e : DIDCommError} (h : didDocumentUrl decode profileDid = .error e) : e = .invalidDid := by
  unfold didDocumentUrl at h
  split at h
  · cases h
  · split at h
    · exact (Except.error.inj h).symm
    · split at h
      · exact (Except.error.inj h).symm
      · split at h <;> cases h

/-! ### The listener -/

/-- How often and how long a server waits for its DID document. -/
structure DidDocumentRetryConfig where
  maxAttempts : ℕ
  initialDelaySecs : UInt64
  maxDelaySecs : UInt64

/-- How the task of the listener has ended: it has returned, or panicked. -/
inductive ListenerEnd
  | returned (r : Except DIDCommError Unit)
  | panicked (message : String)

/-- How far the listener has come.  A request and the wait after it go by the number of the
attempt, and by the delay that is due after it. -/
inductive ListenerPhase
  | spawned
  | requesting (url : String) (attempt : ℕ) (currentDelaySecs : UInt64)
  | sleeping (url : String) (attempt : ℕ) (currentDelaySecs : UInt64)
  | building
  | listening
  | ended (e : ListenerEnd)

/-- What happens to the listener: the HTTP client is built or is not, a request is
answered with a status or fails, the wait is over, the listener is built or is not. -/
inductive ListenerAction
  | examine (client : Except String Unit)
  | reply (status : Option ℕ)
  | wake
  | build (r : Except BuildError Unit)
  | panic (message : String)

/-- Is it a success? -/
def isSuccess (status : Option ℕ) : Bool := status.any fun n => 200 ≤ n ∧ n < 300

namespace ListenerPhase

variable (decode : String → Option String) (profileDid : String)
  (retry : DidDocumentRetryConfig)

/-- The error that the listener ends with. -/
def failed (e : DIDCommError) : ListenerPhase := .ended (.returned (.error e))

/-- One step of the listener.  It does not return from taking messages. -/
def step : ListenerPhase → ListenerAction → Option ListenerPhase
  | .ended _, _ => none
  | _, .panic message => some (.ended (.panicked message))
  | .spawned, .examine client =>
    match didDocumentUrl decode profileDid, client with
    | .error e, _ => some (failed e)
    | .ok none, _ => some .building
    | .ok (some _), .error e => some (failed (.httpRequest e))
    | .ok (some url), .ok () =>
      if 1 ≤ retry.maxAttempts then some (.requesting url 1 retry.initialDelaySecs)
      else some (failed .unreachableDidDocument)
  | .requesting url attempt currentDelaySecs, .reply status =>
    if isSuccess status then some .building
    else if attempt < retry.maxAttempts then some (.sleeping url attempt currentDelaySecs)
    else some (failed .unreachableDidDocument)
  | .sleeping url attempt currentDelaySecs, .wake =>
    some (.requesting url (attempt + 1) (min (currentDelaySecs * 2) retry.maxDelaySecs))
  | .building, .build (.ok ()) => some .listening
  | .building, .build (.error e) => some (failed e.toDIDCommError)
  | _, _ => none

end ListenerPhase

/-- Every way a step of the listener can go. -/
inductive ListenerPhase.Stepped (decode : String → Option String) (profileDid : String)
    (retry : DidDocumentRetryConfig) : ListenerPhase → ListenerAction → ListenerPhase → Prop
  | panicked {phase : ListenerPhase} {message : String} (hphase : ∀ e, phase ≠ .ended e) :
      Stepped decode profileDid retry phase (.panic message) (.ended (.panicked message))
  | invalid {client : Except String Unit} {e : DIDCommError}
      (hurl : didDocumentUrl decode profileDid = .error e) :
      Stepped decode profileDid retry .spawned (.examine client) (failed e)
  | notOfWeb {client : Except String Unit} (hurl : didDocumentUrl decode profileDid = .ok none) :
      Stepped decode profileDid retry .spawned (.examine client) .building
  | noClient {e url : String} (hurl : didDocumentUrl decode profileDid = .ok (some url)) :
      Stepped decode profileDid retry .spawned (.examine (.error e)) (failed (.httpRequest e))
  | asks {url : String} (hurl : didDocumentUrl decode profileDid = .ok (some url))
      (hattempts : 1 ≤ retry.maxAttempts) :
      Stepped decode profileDid retry .spawned (.examine (.ok ()))
        (.requesting url 1 retry.initialDelaySecs)
  | noAttempt {url : String} (hurl : didDocumentUrl decode profileDid = .ok (some url))
      (hattempts : retry.maxAttempts = 0) :
      Stepped decode profileDid retry .spawned (.examine (.ok ())) (failed .unreachableDidDocument)
  | reached {url : String} {attempt : ℕ} {currentDelaySecs : UInt64} {status : Option ℕ}
      (hstatus : isSuccess status = true) :
      Stepped decode profileDid retry (.requesting url attempt currentDelaySecs) (.reply status)
        .building
  | waits {url : String} {attempt : ℕ} {currentDelaySecs : UInt64} {status : Option ℕ}
      (hstatus : isSuccess status = false) (hattempt : attempt < retry.maxAttempts) :
      Stepped decode profileDid retry (.requesting url attempt currentDelaySecs) (.reply status)
        (.sleeping url attempt currentDelaySecs)
  | givesUp {url : String} {attempt : ℕ} {currentDelaySecs : UInt64} {status : Option ℕ}
      (hstatus : isSuccess status = false) (hattempt : retry.maxAttempts ≤ attempt) :
      Stepped decode profileDid retry (.requesting url attempt currentDelaySecs) (.reply status)
        (failed .unreachableDidDocument)
  | asksAgain {url : String} {attempt : ℕ} {currentDelaySecs : UInt64} :
      Stepped decode profileDid retry (.sleeping url attempt currentDelaySecs) .wake
        (.requesting url (attempt + 1) (min (currentDelaySecs * 2) retry.maxDelaySecs))
  | built : Stepped decode profileDid retry .building (.build (.ok ())) .listening
  | notBuilt {e : BuildError} :
      Stepped decode profileDid retry .building (.build (.error e)) (failed e.toDIDCommError)

namespace ListenerPhase

variable {decode : String → Option String} {profileDid : String}
  {retry : DidDocumentRetryConfig}

theorem stepped_of_step {phase phase' : ListenerPhase} {a : ListenerAction}
    (h : phase.step decode profileDid retry a = some phase') :
    Stepped decode profileDid retry phase a phase' := by
  unfold step at h
  split at h
  · cases h
  · next hphase =>
    obtain rfl := Option.some.inj h
    exact .panicked hphase
  · split at h
    · next e client hurl =>
      obtain rfl := Option.some.inj h
      exact .invalid hurl
    · next hurl =>
      obtain rfl := Option.some.inj h
      exact .notOfWeb hurl
    · next hurl =>
      obtain rfl := Option.some.inj h
      exact .noClient hurl
    · next url hurl =>
      split at h
      · next hattempts =>
        obtain rfl := Option.some.inj h
        exact .asks hurl hattempts
      · next hattempts =>
        obtain rfl := Option.some.inj h
        exact .noAttempt hurl (by omega)
  · split at h
    · next hstatus =>
      obtain rfl := Option.some.inj h
      exact .reached hstatus
    · next hstatus =>
      have hfalse := eq_false_of_ne_true hstatus
      split at h
      · next hattempt =>
        obtain rfl := Option.some.inj h
        exact .waits hfalse hattempt
      · next hattempt =>
        obtain rfl := Option.some.inj h
        exact .givesUp hfalse (by omega)
  · obtain rfl := Option.some.inj h
    exact .asksAgain
  · obtain rfl := Option.some.inj h
    exact .built
  · obtain rfl := Option.some.inj h
    exact .notBuilt
  · cases h

/-- A listener that has ended makes no step. -/
theorem not_ended_of_step {phase phase' : ListenerPhase} {a : ListenerAction}
    (h : phase.step decode profileDid retry a = some phase') (e : ListenerEnd) :
    phase ≠ .ended e := by
  rintro rfl
  cases h

/-- **The listener does not return but with an error.** -/
theorem error_of_returned {phase : ListenerPhase} {a : ListenerAction}
    {r : Except DIDCommError Unit}
    (h : phase.step decode profileDid retry a = some (.ended (.returned r))) :
    ∃ e, r = .error e := by
  have hstepped := stepped_of_step h
  generalize hend : ListenerPhase.ended (.returned r) = phase' at hstepped
  cases hstepped with
  | panicked _ => cases hend
  | notOfWeb _ => cases hend
  | asks _ _ => cases hend
  | reached _ => cases hend
  | waits _ _ => cases hend
  | asksAgain => cases hend
  | built => cases hend
  | _ =>
    obtain rfl := ListenerEnd.returned.inj (ListenerPhase.ended.inj hend)
    exact ⟨_, rfl⟩

end ListenerPhase

/-! ### Both tasks -/

/-- What a task has ended with; the outer error is a panic. -/
abbrev TaskResult := Except String (Except String Unit)

/-- The listener's end, as the task that waits for it has it. -/
def startDidcommListener : ListenerEnd → Except String (Except DIDCommError Unit)
  | .returned r => .ok r
  | .panicked message => .error message

/-- What that task returns: the outcome of the listener is discarded. -/
def startDidcommServer (e : ListenerEnd) : Except String Unit := do
  let _ ← startDidcommListener e
  return ()

/-- One-line reason a task ended. -/
def describeTaskExit : TaskResult → String
  | .ok (.ok ()) => "didcomm listener exited cleanly"
  | .ok (.error e) => s!"didcomm listener failed: {e}"
  | .error e => s!"didcomm listener panicked: {e}"

/-- What a server is told of its listener, and how its hosts are decoded. -/
structure DidcommServing where
  isEnabled : Bool
  decode : String → Option String
  profileDid : String
  retryConfig : DidDocumentRetryConfig

/-- How far whoever joins the server has come. -/
inductive JoinPhase
  | notJoined
  | onBoth
  | onHttp
  | returned
  deriving DecidableEq

/-- The tasks of a server. -/
structure Supervised where
  listener : Option ListenerPhase
  http : Option TaskResult
  shutdown : Bool
  join : JoinPhase
  health : WriteState

/-- What happens: to the listener, to the HTTP task, to the token, and to whoever joins. -/
inductive SupervisedAction
  | listener (a : ListenerAction)
  | httpEnds (r : TaskResult)
  | cancel
  | join
  | didcommExits
  | httpExits

namespace Supervised

/-- The server as it starts. -/
def serve (config : DidcommServing) : Supervised where
  listener := if config.isEnabled then some .spawned else none
  http := none
  shutdown := false
  join := .notJoined
  health := RegistryHealth.new config.isEnabled

/-- One step.  The HTTP task ends well after a shutdown only. -/
def step (config : DidcommServing) (s : Supervised) : SupervisedAction → Option Supervised
  | .listener a =>
    match s.listener with
    | none => none
    | some phase =>
      (phase.step config.decode config.profileDid config.retryConfig a).map fun phase' =>
        { s with listener := some phase' }
  | .httpEnds r =>
    match s.http, r, s.shutdown with
    | some _, _, _ => none
    | none, .ok (.ok ()), false => none
    | none, _, _ => some { s with http := some r }
  | .cancel => some { s with shutdown := true }
  | .join =>
    match s.join, s.listener with
    | .notJoined, none => some { s with join := .onHttp }
    | .notJoined, some _ => some { s with join := .onBoth }
    | _, _ => none
  | .didcommExits =>
    match s.join, s.listener with
    | .onBoth, some (.ended e) =>
      some { s with
        join := .onHttp
        health := RegistryHealth.markWritesUnavailable s.health
          (describeTaskExit (.ok (startDidcommServer e))) }
    | _, _ => none
  | .httpExits =>
    match s.join, s.http with
    | .onBoth, some _ => some { s with join := .returned }
    | .onHttp, some _ => some { s with join := .returned }
    | _, _ => none

/-! ### What a probe is told -/

/-- The answer to a probe, by what is seen of the end of the listener. -/
def told (config : DidcommServing) : Option ListenerEnd → Json
  | none => .obj [("status", .str "OK"), ("writes", .str (if config.isEnabled then "ok" else
      "disabled"))]
  | some (.returned _) => .obj [("status", .str "degraded"), ("writes", .str "unavailable"),
      ("detail", .str "didcomm listener exited cleanly")]
  | some (.panicked message) => .obj [("status", .str "degraded"), ("writes", .str "unavailable"),
      ("detail", .str s!"didcomm listener failed: {message}")]

/-- The health of a server of whose listener this has been seen. -/
def healthOf (config : DidcommServing) : Option ListenerEnd → WriteState
  | none => RegistryHealth.new config.isEnabled
  | some e => ⟨.unavailable, some (describeTaskExit (.ok (startDidcommServer e)))⟩

theorem toJson_healthOf (config : DidcommServing) (seen : Option ListenerEnd) :
    RegistryHealth.toJson (healthOf config seen) = told config seen := by
  cases seen with
  | none =>
    cases h : config.isEnabled <;>
      simp [healthOf, told, RegistryHealth.toJson, RegistryHealth.new, h, WriteStatus.isDegraded,
        WriteStatus.asStr]
  | some e => cases e <;> rfl

/-- What holds of a server that is supervised, with what has been seen of the end of its
listener. -/
structure Seen (config : DidcommServing) (seen : Option ListenerEnd) (s : Supervised) : Prop where
  enabled : s.listener.isSome = config.isEnabled
  failed : ∀ r, s.listener = some (.ended (.returned r)) → ∃ e, r = .error e
  health : s.health = healthOf config seen
  ended : ∀ e, seen = some e → s.listener = some (.ended e)
  notJoined : s.join = .notJoined → seen = none
  onBoth : s.join = .onBoth → seen = none
  onHttp : s.join = .onHttp → seen = none → s.listener = none
  returned : s.join = .returned → s.http ≠ none

theorem seen_serve (config : DidcommServing) : Seen config none (serve config) where
  enabled := by cases h : config.isEnabled <;> simp [serve, h]
  failed r h := by
    cases he : config.isEnabled <;> simp [serve, he] at h
  health := rfl
  ended e h := by cases h
  notJoined _ := rfl
  onBoth _ := rfl
  onHttp h := by cases h
  returned h := by cases h

variable {config : DidcommServing}

/-- A step of the listener shows nothing of its end. -/
theorem Seen.listener {seen : Option ListenerEnd} {s : Supervised} (hs : Seen config seen s)
    {phase phase' : ListenerPhase} {a : ListenerAction} (hphase : s.listener = some phase)
    (h : phase.step config.decode config.profileDid config.retryConfig a = some phase') :
    Seen config seen { s with listener := some phase' } where
  enabled := by rw [← hs.enabled, hphase]; rfl
  failed r hr := by
    obtain rfl := Option.some.inj hr
    exact ListenerPhase.error_of_returned h
  health := hs.health
  ended e he := by
    have hended := Option.some.inj (hphase.symm.trans (hs.ended e he))
    exact absurd hended (ListenerPhase.not_ended_of_step h e)
  notJoined := hs.notJoined
  onBoth := hs.onBoth
  onHttp hj hseen := by
    have hnone := hs.onHttp hj hseen
    rw [hphase] at hnone
    cases hnone
  returned := hs.returned

/-- **Whoever waits for both tasks sees the listener end.** -/
theorem seen_didcommExits {seen : Option ListenerEnd} {s s' : Supervised}
    (hs : Seen config seen s) (h : s.step config .didcommExits = some s') :
    ∃ e, Seen config (some e) s' := by
  simp only [step] at h
  split at h
  · next e hjoin hlistener =>
    obtain rfl := Option.some.inj h
    refine ⟨e, hs.enabled, hs.failed, rfl, fun e' he => ?_, nofun, nofun, nofun, nofun⟩
    obtain rfl := Option.some.inj he
    exact hlistener
  · cases h

/-- **Every other step keeps what is seen.** -/
theorem seen_step {seen : Option ListenerEnd} {s s' : Supervised} {a : SupervisedAction}
    (hs : Seen config seen s) (ha : a ≠ .didcommExits) (h : s.step config a = some s') :
    Seen config seen s' := by
  cases a with
  | listener a =>
    simp only [step] at h
    split at h
    · cases h
    · next phase hphase =>
      obtain ⟨phase', hstep, rfl⟩ := Option.map_eq_some_iff.mp h
      exact hs.listener hphase hstep
  | httpEnds r =>
    simp only [step] at h
    split at h
    · cases h
    · cases h
    · obtain rfl := Option.some.inj h
      exact ⟨hs.enabled, hs.failed, hs.health, hs.ended, hs.notJoined, hs.onBoth, hs.onHttp,
        fun _ => Option.some_ne_none _⟩
  | cancel =>
    obtain rfl := Option.some.inj h
    exact ⟨hs.enabled, hs.failed, hs.health, hs.ended, hs.notJoined, hs.onBoth, hs.onHttp,
      hs.returned⟩
  | join =>
    simp only [step] at h
    split at h
    · next hjoin hlistener =>
      obtain rfl := Option.some.inj h
      exact ⟨hs.enabled, hs.failed, hs.health, hs.ended, nofun, nofun, fun _ _ => hlistener,
        nofun⟩
    · next hjoin hlistener =>
      obtain rfl := Option.some.inj h
      exact ⟨hs.enabled, hs.failed, hs.health, hs.ended, nofun, fun _ => hs.notJoined hjoin,
        nofun, nofun⟩
    · cases h
  | didcommExits => exact absurd rfl ha
  | httpExits =>
    have hreturned : ∀ r, s.http = some r → Seen config seen { s with join := .returned } :=
      fun r hr => ⟨hs.enabled, hs.failed, hs.health, hs.ended, nofun, nofun, nofun,
        fun _ => hr ▸ Option.some_ne_none r⟩
    simp only [step] at h
    split at h
    · next r hjoin hr =>
      obtain rfl := Option.some.inj h
      exact hreturned r hr
    · next r hjoin hr =>
      obtain rfl := Option.some.inj h
      exact hreturned r hr
    · cases h

/-- What holds at the end of a run: something has been seen exactly if the end of the
listener has been looked at. -/
theorem seen_of_run {as : List SupervisedAction} {t : Supervised}
    (hrun : Run (step config) anyAction (serve config) as t) :
    ∃ seen, Seen config seen t ∧ (seen = none ↔ .didcommExits ∉ as) := by
  refine hrun.history (I := fun as s =>
    ∃ seen, Seen config seen s ∧ (seen = none ↔ .didcommExits ∉ as)) ?_
    ⟨none, seen_serve config, by simp⟩
  rintro as s a s' ⟨seen, hs, hseen⟩ _ hstep
  by_cases ha : a = .didcommExits
  · subst ha
    obtain ⟨e, he⟩ := seen_didcommExits hs hstep
    exact ⟨some e, he, by simp⟩
  · refine ⟨seen, seen_step hs ha hstep, ?_⟩
    rw [hseen, List.mem_append, List.mem_singleton, or_iff_left (Ne.symm ha)]

end Supervised

open Supervised in
/-- **What a probe is told in every run**: nothing but good until whoever joins the server
has seen the listener end, and then that it has.  While a server is joined, and HTTP goes
on, the end of the listener is missed only until it is looked for; a server that nobody
joins never tells.  A listener that returns has failed, and joining ends with the HTTP
task alone. -/
theorem health_tells {config : DidcommServing} {as : List SupervisedAction} {t : Supervised}
    (hrun : Run (Supervised.step config) anyAction (serve config) as t) :
    ∃ seen, RegistryHealth.toJson t.health = told config seen ∧
      (seen = none ↔ .didcommExits ∉ as) ∧
      (∀ e, seen = some e → t.listener = some (.ended e)) ∧
      (∀ r, t.listener = some (.ended (.returned r)) → ∃ e, r = .error e) ∧
      (t.join = .notJoined → seen = none) ∧
      (t.join = .onBoth → seen = none) ∧
      (t.join = .onBoth ∨ t.join = .onHttp → t.step config .didcommExits = none →
        ∀ e, t.listener = some (.ended e) → seen = some e) ∧
      (t.join = .returned → t.http ≠ none) := by
  obtain ⟨seen, hseen, hlooked⟩ := seen_of_run hrun
  refine ⟨seen, by rw [hseen.health, toJson_healthOf], hlooked, hseen.ended, hseen.failed,
    hseen.notJoined, hseen.onBoth, fun hjoined hnone e he => ?_, hseen.returned⟩
  rcases hjoined with hjoin | hjoin
  · simp [Supervised.step, hjoin, he] at hnone
  · cases seen with
    | none =>
      have habsent := hseen.onHttp hjoin rfl
      rw [he] at habsent
      cases habsent
    | some e' =>
      have hended := he.symm.trans (hseen.ended e' rfl)
      rw [ListenerPhase.ended.inj (Option.some.inj hended)]

/-- A registry whose DID document is asked for once. -/
def onceServing : DidcommServing := ⟨true, some, "did:web:registry.example", ⟨1, 2, 20⟩⟩

/-- Its listener gives up while the server is joined. -/
def givesUp : List SupervisedAction :=
  [.join, .listener (.examine (.ok ())), .listener (.reply (some 503))]

/-- A listener that has given up on the DID document is told of when it is looked at, and
to have exited cleanly. -/
theorem failed_listener_is_clean : ∃ t u,
    Run (Supervised.step onceServing) anyAction (Supervised.serve onceServing) givesUp t ∧
      t.listener = some (.ended (.returned (.error .unreachableDidDocument))) ∧
      RegistryHealth.toJson t.health = .obj [("status", .str "OK"), ("writes", .str "ok")] ∧
      Run (Supervised.step onceServing) anyAction (Supervised.serve onceServing)
        (givesUp ++ [.didcommExits]) u ∧
      RegistryHealth.toJson u.health = .obj [("status", .str "degraded"),
        ("writes", .str "unavailable"), ("detail", .str "didcomm listener exited cleanly")] := by
  have hrun : Run (Supervised.step onceServing) anyAction (Supervised.serve onceServing) givesUp
      ⟨some (.ended (.returned (.error .unreachableDidDocument))), none, false, .onBoth,
        RegistryHealth.new true⟩ :=
    run_of_exec (fun _ _ _ => trivial) rfl
  have hlooked := hrun.trans (.single (a := .didcommExits) trivial rfl)
  obtain ⟨seen, htold, _, _, _, _, hwaiting, _⟩ := health_tells hrun
  obtain ⟨seen', htold', _, _, _, _, _, hmissed, _⟩ := health_tells hlooked
  obtain rfl := hwaiting rfl
  obtain rfl := hmissed (.inr rfl) rfl _ rfl
  exact ⟨_, _, hrun, rfl, htold, hlooked, htold'⟩

/-! ### The requests of the listener -/

namespace DidDocumentRetryConfig

/-- The delay that is waited after so many delays. -/
def delayAfter (retry : DidDocumentRetryConfig) : ℕ → UInt64
  | 0 => retry.initialDelaySecs
  | n + 1 => min (retry.delayAfter n * 2) retry.maxDelaySecs

theorem toNat_double {d : UInt64} (h : d.toNat * 2 < 2 ^ 64) : (d * 2).toNat = d.toNat * 2 := by
  rw [UInt64.toNat_mul]
  exact Nat.mod_eq_of_lt h

/-- **The delay doubles up to the limit**, where doubling does not overflow. -/
theorem toNat_delayAfter_succ {retry : DidDocumentRetryConfig} {n : ℕ}
    (h : (retry.delayAfter n).toNat * 2 < 2 ^ 64) : (retry.delayAfter (n + 1)).toNat
      = min ((retry.delayAfter n).toNat * 2) retry.maxDelaySecs.toNat := by
  rw [delayAfter, UInt64.toNat_min, toNat_double h]

end DidDocumentRetryConfig

namespace Supervised

/-- The answers to the requests, in order. -/
def replies (as : List SupervisedAction) : List (Option ℕ) :=
  as.filterMap fun
    | .listener (.reply status) => some status
    | _ => none

@[simp] theorem replies_append (as bs : List SupervisedAction) :
    replies (as ++ bs) = replies as ++ replies bs := List.filterMap_append

/-- Only the listener has its requests answered. -/
theorem replies_of_not_listener {a : SupervisedAction} (ha : ∀ b, a ≠ .listener b) :
    replies [a] = [] := by
  cases a with
  | listener b => exact absurd rfl (ha b)
  | _ => rfl

/-- All of them are failures. -/
def AllFail (statuses : List (Option ℕ)) : Prop := ∀ status ∈ statuses, isSuccess status = false

/-- The DID document was not to be asked for, or the last request has reached it. -/
def Reached (config : DidcommServing) (statuses : List (Option ℕ)) : Prop :=
  (didDocumentUrl config.decode config.profileDid = .ok none ∧ statuses = []) ∨
    ∃ failures status, statuses = failures ++ [status] ∧ AllFail failures ∧
      isSuccess status = true ∧ failures.length < config.retryConfig.maxAttempts

/-- Every request was a failure, and there are no more to be made. -/
def Exhausted (config : DidcommServing) (statuses : List (Option ℕ)) : Prop :=
  (∃ url, didDocumentUrl config.decode config.profileDid = .ok (some url)) ∧ AllFail statuses ∧
    statuses.length = config.retryConfig.maxAttempts

/-- Not more requests than configured, and none after a success. -/
def Allowed (config : DidcommServing) (statuses : List (Option ℕ)) : Prop :=
  statuses.length ≤ config.retryConfig.maxAttempts ∧ AllFail statuses.dropLast

/-- What has been asked and answered by the time that the listener has come so far. -/
def Asked (config : DidcommServing) (statuses : List (Option ℕ)) : ListenerPhase → Prop
  | .spawned => statuses = []
  | .requesting url attempt delay =>
    didDocumentUrl config.decode config.profileDid = .ok (some url) ∧
      AllFail statuses ∧ attempt = statuses.length + 1 ∧
      attempt ≤ config.retryConfig.maxAttempts ∧
      delay = config.retryConfig.delayAfter statuses.length
  | .sleeping url attempt delay => didDocumentUrl config.decode config.profileDid = .ok (some url) ∧
      AllFail statuses ∧ attempt = statuses.length ∧ 1 ≤ attempt ∧
      attempt < config.retryConfig.maxAttempts ∧
      delay = config.retryConfig.delayAfter (attempt - 1)
  | .building => Reached config statuses
  | .listening => Reached config statuses
  | .ended (.panicked _) => Allowed config statuses
  | .ended (.returned r) =>
    (r = .error .unreachableDidDocument ∧ Exhausted config statuses) ∨
      (r ≠ .error .unreachableDidDocument ∧ (statuses = [] ∨ Reached config statuses))

variable {config : DidcommServing} {statuses : List (Option ℕ)}

theorem AllFail.nil : AllFail [] := fun _ h => by cases h

theorem AllFail.append {status : Option ℕ} (h : AllFail statuses)
    (hstatus : isSuccess status = false) : AllFail (statuses ++ [status]) := by
  intro st hst
  rcases List.mem_append.mp hst with hst | hst
  · exact h st hst
  · rw [List.mem_singleton.mp hst, hstatus]

theorem AllFail.allowed (h : AllFail statuses)
    (hlength : statuses.length ≤ config.retryConfig.maxAttempts) : Allowed config statuses :=
  ⟨hlength, fun st hst => h st (List.dropLast_subset _ hst)⟩

theorem Reached.allowed (h : Reached config statuses) : Allowed config statuses := by
  rcases h with ⟨_, rfl⟩ | ⟨failures, status, rfl, hfail, _, hlength⟩
  · exact AllFail.nil.allowed (Nat.zero_le _)
  · rw [Allowed, List.length_append, List.length_singleton, List.dropLast_concat]
    exact ⟨hlength, hfail⟩

/-- In every phase the requests are as allowed. -/
theorem Asked.allowed {phase : ListenerPhase} (h : Asked config statuses phase) :
    Allowed config statuses := by
  have hnil : statuses = [] → Allowed config statuses := by
    rintro rfl
    exact AllFail.nil.allowed (Nat.zero_le _)
  cases phase with
  | spawned => exact hnil h
  | requesting url attempt delay =>
    obtain ⟨_, hfail, rfl, hattempt, _⟩ := h
    exact hfail.allowed (by omega)
  | sleeping url attempt delay =>
    obtain ⟨_, hfail, rfl, _, hattempt, _⟩ := h
    exact hfail.allowed (by omega)
  | building => exact Reached.allowed h
  | listening => exact Reached.allowed h
  | ended e =>
    cases e with
    | panicked message => exact h
    | returned r =>
      rcases h with ⟨_, _, hfail, hlength⟩ | ⟨_, h | h⟩
      · exact hfail.allowed (Nat.le_of_eq hlength)
      · exact hnil h
      · exact h.allowed

/-- The answer that a step of the listener brings. -/
def answer : ListenerAction → List (Option ℕ)
  | .reply status => [status]
  | _ => []

/-- **Every step of the listener asks as it should.** -/
theorem asked_step {phase phase' : ListenerPhase} {a : ListenerAction}
    (hs : Asked config statuses phase)
    (h : phase.step config.decode config.profileDid config.retryConfig a = some phase') :
    Asked config (statuses ++ answer a) phase' := by
  have hnil : statuses ++ [] = statuses := List.append_nil statuses
  cases ListenerPhase.stepped_of_step h with
  | panicked _ =>
    show Allowed config (statuses ++ [])
    rw [hnil]
    exact hs.allowed
  | invalid hurl =>
    obtain rfl : statuses = [] := hs
    refine .inr ⟨fun h => ?_, .inl rfl⟩
    rw [Except.error.inj h] at hurl
    cases error_of_didDocumentUrl hurl
  | notOfWeb hurl =>
    obtain rfl : statuses = [] := hs
    exact .inl ⟨hurl, rfl⟩
  | noClient hurl =>
    obtain rfl : statuses = [] := hs
    exact .inr ⟨by simp, .inl rfl⟩
  | asks hurl hattempts =>
    obtain rfl : statuses = [] := hs
    exact ⟨hurl, .nil, rfl, hattempts, rfl⟩
  | noAttempt hurl hattempts =>
    obtain rfl : statuses = [] := hs
    exact .inl ⟨rfl, ⟨_, hurl⟩, .nil, hattempts.symm⟩
  | reached hstatus =>
    obtain ⟨_, hfail, rfl, hattempt, _⟩ := hs
    exact .inr ⟨statuses, _, rfl, hfail, hstatus, by omega⟩
  | waits hstatus hattempt =>
    obtain ⟨hurl, hfail, rfl, _, hdelay⟩ := hs
    exact ⟨hurl, hfail.append hstatus, by simp [answer], by omega, hattempt, hdelay⟩
  | givesUp hstatus hattempt =>
    obtain ⟨hurl, hfail, rfl, hmax, _⟩ := hs
    exact .inl ⟨rfl, ⟨_, hurl⟩, hfail.append hstatus, by simp [answer]; omega⟩
  | asksAgain =>
    obtain ⟨hurl, hfail, hlength, hone, hattempt, hdelay⟩ := hs
    obtain ⟨n, hn⟩ : ∃ n, statuses.length = n + 1 := ⟨statuses.length - 1, by omega⟩
    show Asked config (statuses ++ []) _
    rw [hnil]
    refine ⟨hurl, hfail, by omega, hattempt, ?_⟩
    rw [hdelay, hlength, hn]
    rfl
  | built =>
    show Reached config (statuses ++ [])
    rw [hnil]
    exact hs
  | @notBuilt e =>
    show Asked config (statuses ++ []) _
    rw [hnil]
    exact .inr ⟨by cases e <;> simp [BuildError.toDIDCommError], .inr hs⟩

/-- The listener makes its own steps only. -/
theorem listener_of_step {s s' : Supervised} {a : SupervisedAction} (ha : ∀ b, a ≠ .listener b)
    (h : s.step config a = some s') : s'.listener = s.listener := by
  cases a with
  | listener b => exact absurd rfl (ha b)
  | cancel =>
    obtain rfl := Option.some.inj h
    rfl
  | _ =>
    simp only [step] at h
    split at h <;> cases h <;> rfl

/-- What has been asked in a run is what the listener has asked, and nothing where there
is none. -/
theorem asked_of_run {as : List SupervisedAction} {t : Supervised}
    (hrun : Run (step config) anyAction (serve config) as t) :
    (t.listener = none → replies as = []) ∧
      ∀ phase, t.listener = some phase → Asked config (replies as) phase := by
  refine hrun.history (I := fun as s => (s.listener = none → replies as = []) ∧
    ∀ phase, s.listener = some phase → Asked config (replies as) phase) ?_ ?_
  · rintro as s a s' ⟨hnone, hs⟩ _ hstep
    rw [replies_append]
    cases a with
    | listener a =>
      simp only [step] at hstep
      split at hstep
      · cases hstep
      · next phase hphase =>
        obtain ⟨phase', hnext, rfl⟩ := Option.map_eq_some_iff.mp hstep
        refine ⟨fun h => (Option.some_ne_none _ h).elim, fun phase'' hphase'' => ?_⟩
        obtain rfl := Option.some.inj hphase''
        have hasked := asked_step (hs phase hphase) hnext
        cases a <;> exact hasked
    | _ =>
      rw [listener_of_step (by simp) hstep, replies_of_not_listener (by simp), List.append_nil]
      exact ⟨hnone, hs⟩
  · refine ⟨fun _ => rfl, fun phase hphase => ?_⟩
    cases he : config.isEnabled with
    | true =>
      rw [serve, he] at hphase
      obtain rfl := Option.some.inj hphase
      rfl
    | false =>
      rw [serve, he] at hphase
      cases hphase

/-- A listener that has made all its requests, each of them a failure, has given up or
panicked. -/
theorem Asked.exhausted {phase : ListenerPhase} (h : Asked config statuses phase)
    (hattempts : 1 ≤ config.retryConfig.maxAttempts) (hexhausted : Exhausted config statuses)
    (hpanic : ∀ message, phase ≠ .ended (.panicked message)) :
    phase = .ended (.returned (.error .unreachableDidDocument)) := by
  obtain ⟨⟨url, hurl⟩, hfail, hlength⟩ := hexhausted
  have hnil : statuses ≠ [] := by
    rintro rfl
    rw [List.length_nil] at hlength
    omega
  have hreached : ¬ Reached config statuses := by
    rintro (⟨_, h⟩ | ⟨failures, status, rfl, _, hstatus, _⟩)
    · exact hnil h
    · rw [hfail status (by simp)] at hstatus
      cases hstatus
  cases phase with
  | spawned => exact absurd h hnil
  | requesting url attempt delay =>
    obtain ⟨_, _, rfl, hattempt, _⟩ := h
    omega
  | sleeping url attempt delay =>
    obtain ⟨_, _, rfl, _, hattempt, _⟩ := h
    omega
  | building => exact absurd h hreached
  | listening => exact absurd h hreached
  | ended e =>
    cases e with
    | panicked message => exact absurd rfl (hpanic message)
    | returned r =>
      rcases h with ⟨rfl, _⟩ | ⟨_, h | h⟩
      · rfl
      · exact absurd h hnil
      · exact absurd h hreached

end Supervised

open Supervised in
/-- **When a listener gives up on the DID document**, in every run: there are not more
requests than configured, and none after a success; messages are taken only after a
success, or where there was nothing to ask for; the listener gives up when it has made as
many requests as configured and each has failed, and on no other occasion; and each time
it waits twice as long as the time before, up to the limit. -/
theorem unreachable_iff {config : DidcommServing} {as : List SupervisedAction} {t : Supervised}
    (hrun : Run (Supervised.step config) anyAction (serve config) as t)
    (hattempts : 1 ≤ config.retryConfig.maxAttempts) :
    Allowed config (replies as) ∧
      (t.listener = some .listening → Reached config (replies as)) ∧
      (t.listener = some (.ended (.returned (.error .unreachableDidDocument))) ↔
        t.listener ≠ none ∧ (∀ message, t.listener ≠ some (.ended (.panicked message))) ∧
          Exhausted config (replies as)) ∧
      (∀ url attempt delay, t.listener = some (.sleeping url attempt delay) →
        attempt = (replies as).length ∧ 1 ≤ attempt ∧
          (attempt = 1 → delay = config.retryConfig.initialDelaySecs) ∧
          delay = config.retryConfig.delayAfter (attempt - 1)) ∧
      ∀ n, (config.retryConfig.delayAfter n).toNat * 2 < 2 ^ 64 →
        (config.retryConfig.delayAfter (n + 1)).toNat
          = min ((config.retryConfig.delayAfter n).toNat * 2)
            config.retryConfig.maxDelaySecs.toNat := by
  obtain ⟨hnone, hasked⟩ := asked_of_run hrun
  refine ⟨?_, fun h => hasked _ h, ⟨fun h => ?_, ?_⟩, fun url attempt delay h => ?_,
    fun _ => DidDocumentRetryConfig.toNat_delayAfter_succ⟩
  · cases hphase : t.listener with
    | none =>
      rw [hnone hphase]
      exact AllFail.nil.allowed (Nat.zero_le _)
    | some phase => exact (hasked phase hphase).allowed
  · refine ⟨by simp [h], by simp [h], ?_⟩
    rcases hasked _ h with ⟨_, hexhausted⟩ | ⟨hne, _⟩
    · exact hexhausted
    · exact absurd rfl hne
  · rintro ⟨hsome, hpanic, hexhausted⟩
    obtain ⟨phase, hphase⟩ := Option.ne_none_iff_exists'.mp hsome
    rw [hphase]
    congr 1
    refine (hasked phase hphase).exhausted hattempts hexhausted fun message hmessage => ?_
    exact hpanic message (hmessage ▸ hphase)
  · obtain ⟨_, _, hlength, hone, _, hdelay⟩ := hasked _ h
    refine ⟨hlength, hone, fun hfirst => ?_, hdelay⟩
    rw [hdelay, hfirst]
    rfl

/-- A registry whose DID document is asked for again and again. -/
def retryServing : DidcommServing := ⟨true, some, "did:web:registry.example", ⟨10, 2, 20⟩⟩

/-- Two requests fail. -/
def failsTwice : List SupervisedAction :=
  [.listener (.examine (.ok ())), .listener (.reply none), .listener .wake,
    .listener (.reply (some 503))]

/-- The third request succeeds. -/
def reachesThird : List SupervisedAction :=
  [.listener .wake, .listener (.reply (some 200)), .listener (.build (.ok ()))]

/-- A registry that is reached with the third request, after a wait of twice the initial
delay. -/
theorem reached_again : ∃ t u,
    Run (Supervised.step retryServing) anyAction (Supervised.serve retryServing) failsTwice t ∧
      (∃ url delay, t.listener = some (.sleeping url 2 delay) ∧ delay.toNat = 4) ∧
    Run (Supervised.step retryServing) anyAction (Supervised.serve retryServing)
        (failsTwice ++ reachesThird) u ∧
      u.listener = some .listening ∧
      Supervised.Reached retryServing (Supervised.replies (failsTwice ++ reachesThird)) ∧
      Supervised.replies (failsTwice ++ reachesThird) = [none, some 503, some 200] := by
  have hfails : Run (Supervised.step retryServing) anyAction (Supervised.serve retryServing)
      failsTwice ⟨some (.sleeping "https://registry.example/.well-known/did.json" 2 4), none, false,
        .notJoined, ⟨.ok, none⟩⟩ :=
    run_of_exec (fun _ _ _ => trivial) rfl
  have hreaches : Run (Supervised.step retryServing) anyAction (Supervised.serve retryServing)
      (failsTwice ++ reachesThird) _ := hfails.trans (run_of_exec (fun _ _ _ => trivial) rfl)
  obtain ⟨_, _, _, hwaits, hdoubles⟩ := unreachable_iff hfails (by decide)
  obtain ⟨_, _, _, hdelay⟩ := hwaits _ _ _ rfl
  refine ⟨_, _, hfails, ⟨_, _, rfl, ?_⟩, hreaches, rfl,
    (unreachable_iff hreaches (by decide)).2.1 rfl, rfl⟩
  rw [hdelay, hdoubles 0 (by decide)]
  rfl

end TrustRegistry
