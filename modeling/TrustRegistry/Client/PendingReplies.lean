import Mathlib.Logic.Function.Basic
import TrustRegistry.Lib.AssocMap
import TrustRegistry.Lib.Transition
import TrustRegistry.TrustTasks.Framework

/-!
# Replies over a mediator

The transports over a mediator share one stream of replies: an exchange registers a
channel under the id of its request, sends the request, and waits; one task reads
the stream and sends each document into the channel that is registered under its
thread.  Every access of the shared map, every send into a channel and every poll of
one is a step of its own here, and the steps of any number of exchanges and of
documents on their way may alternate in any order.

## Main definitions

* `PendingReplies` — the shared map, with `register`, `abandon` and `take`.
* `Oneshot` — a channel for one document.
* `Exchange`, `Exchange.advance` — an exchange, and the steps that are its own.
* `MediatorClient`, `MediatorClient.step` — any number of them, with the documents
  that are on their way.
* `ExactDemux` — every document goes where it belongs, and the result of `route`
  says so.
-/

namespace TrustRegistry

/-! ### The shared map -/

/-- The channels of the exchanges that wait, by the id of the request. -/
structure PendingReplies where
  inner : AssocMap String ℕ
  deriving DecidableEq

namespace PendingReplies

/-- Register a channel, before the request is sent. -/
def register (p : PendingReplies) (requestId : String) (tx : ℕ) : PendingReplies :=
  ⟨p.inner.insert requestId tx⟩

/-- Forget the channel of a request. -/
def abandon (p : PendingReplies) (requestId : String) : PendingReplies := ⟨p.inner.erase requestId⟩

/-- The first half of `route`: take the channel that a document goes to out of the
map.  What is taken is sent to after the lock is released. -/
def take (p : PendingReplies) (document : TrustTask) : Option ℕ × PendingReplies :=
  match document.threadId with
  | none => (none, p)
  | some threadId => (p.inner.get? threadId, ⟨p.inner.erase threadId⟩)

end PendingReplies

/-! ### Channels -/

/-- A channel for one document: what is in it, and whether its receiver is there. -/
structure Oneshot where
  value : Option TrustTask := none
  isOpen : Bool := true
  deriving DecidableEq

/-- Send a document; does it arrive? -/
def Oneshot.send (c : Oneshot) (document : TrustTask) : Bool × Oneshot :=
  if c.isOpen then (true, { c with value := some document }) else (false, c)

/-- The channel after its receiver is gone. -/
def Oneshot.closed : Oneshot := ⟨none, false⟩

/-! ### Exchanges -/

/-- What an exchange comes to. -/
inductive Outcome
  | document (document : TrustTask)
  | sendError
  | timeout
  | stopped
  deriving DecidableEq

/-- How far an exchange has come. -/
inductive ExchangePhase
  /-- the request is being sent -/
  | sending
  /-- sending has failed, and the channel is to be forgotten -/
  | sendFailed
  /-- it is forgotten, and the receiver is to be dropped -/
  | sendAbandoned
  /-- the receiver is polled -/
  | waiting
  /-- the time is over, and the receiver is to be dropped -/
  | elapsed
  /-- it is dropped, and the channel is to be forgotten -/
  | closing (outcome : Outcome)
  | returned (outcome : Outcome)
  deriving DecidableEq

namespace ExchangePhase

/-- It will still look at the channel. -/
def isLive : ExchangePhase → Bool
  | sending | waiting => true
  | _ => false

/-- It will not, and has not yet forgotten the channel. -/
def isGivingUp : ExchangePhase → Bool
  | sendFailed | elapsed | closing _ => true
  | _ => false

end ExchangePhase

/-- An exchange: the id of its request, how far it has come, its channel; then, for
what is said about it, the documents that were routed to its id from its
registration until it was forgotten, and those that it has received. -/
structure Exchange where
  requestId : String
  phase : ExchangePhase := .sending
  channel : Oneshot := {}
  routed : List TrustTask := []
  received : List TrustTask := []
  deriving DecidableEq

/-- The steps of an exchange that touch nothing but its own channel. -/
inductive OwnStep
  | sent
  | sendFailed
  | receive
  | elapse
  | dropReceiver
  deriving DecidableEq

namespace Exchange

/-- A step of its own, where it is next. -/
def advance (e : Exchange) : OwnStep → Option Exchange
  | .sent =>
    match e.phase with
    | .sending => some { e with phase := .waiting }
    | _ => none
  | .sendFailed =>
    match e.phase with
    | .sending => some { e with phase := .sendFailed }
    | _ => none
  | .receive =>
    match e.phase, e.channel.value with
    | .waiting, some document =>
      some { e with phase := .returned (.document document), channel := .closed,
                    received := e.received ++ [document] }
    | _, _ => none
  | .elapse =>
    -- the receiver is polled once more, and has nothing
    match e.phase, e.channel.value with
    | .waiting, none => some { e with phase := .elapsed }
    | _, _ => none
  | .dropReceiver =>
    match e.phase with
    | .elapsed => some { e with phase := .closing .timeout, channel := .closed }
    | .sendAbandoned => some { e with phase := .returned .sendError, channel := .closed }
    | _ => none

/-- The exchange after its channel is forgotten, where this is next. -/
def abandoned (e : Exchange) : Option Exchange :=
  match e.phase with
  | .sendFailed => some { e with phase := .sendAbandoned }
  | .closing outcome => some { e with phase := .returned outcome }
  | _ => none

/-- The exchange after all senders of its channel are gone, where it waits. -/
def stopped (e : Exchange) : Option Exchange :=
  match e.phase, e.channel.value with
  | .waiting, none => some { e with phase := .closing .stopped, channel := .closed }
  | _, _ => none

/-- The registration is not yet undone. -/
def isRegistered (e : Exchange) : Bool := e.phase.isLive || e.phase.isGivingUp

/-- A document is routed to a thread. -/
def note (document : TrustTask) (e : Exchange) : Exchange :=
  if document.threadId = some e.requestId ∧ e.isRegistered then
    { e with routed := e.routed ++ [document] }
  else e

/-- A document is in the channel, or was received. -/
def Has (e : Exchange) (document : TrustTask) : Prop :=
  e.channel.value = some document ∨ document ∈ e.received

end Exchange

/-! ### The client -/

/-- A document on its way into a channel, and the frame that it came in. -/
structure RouteCall where
  frame : String
  document : TrustTask
  deriving DecidableEq

/-- A call of `route` that has returned: the frame, its document, the channel that
was registered for it, and the result. -/
structure RouteReturn where
  frame : String
  document : TrustTask
  target : Option ℕ
  result : Bool
  deriving DecidableEq

/-- The shared map, the exchanges, the documents that have their channel and are
about to be sent into it, and the calls that have returned. -/
structure MediatorClient where
  pending : PendingReplies
  exchanges : ℕ → Option Exchange
  held : ℕ → Option RouteCall
  returns : List RouteReturn

/-- The steps. -/
inductive ExchangeAction
  | register (n : ℕ) (requestId : String)
  | own (n : ℕ) (step : OwnStep)
  | stopped (n : ℕ)
  | abandon (n : ℕ)
  | take (frame : String) (document : TrustTask)
  | send (n : ℕ)

namespace MediatorClient

/-- No exchange yet. -/
def new : MediatorClient := ⟨⟨.empty⟩, fun _ => none, fun _ => none, []⟩

/-- The client with an exchange as given. -/
def setExchange (s : MediatorClient) (n : ℕ) (e : Exchange) : MediatorClient :=
  { s with exchanges := Function.update s.exchanges n (some e) }

@[simp] theorem setExchange_self (s : MediatorClient) (n : ℕ) (e : Exchange) :
    (s.setExchange n e).exchanges n = some e := Function.update_self _ _ _

theorem setExchange_of_ne (s : MediatorClient) {n m : ℕ} (e : Exchange) (h : m ≠ n) :
    (s.setExchange n e).exchanges m = s.exchanges m := Function.update_of_ne h _ _

/-- One step. -/
def step (s : MediatorClient) : ExchangeAction → Option MediatorClient
  | .register n requestId =>
    match s.exchanges n with
    | some _ => none
    | none =>
      some { s.setExchange n { requestId } with pending := s.pending.register requestId n }
  | .own n a => do
    let e ← s.exchanges n
    let e' ← e.advance a
    return s.setExchange n e'
  | .stopped n => do
    let e ← s.exchanges n
    let e' ← e.stopped
    -- the sender is neither in the map nor held
    if n ∈ s.pending.inner.values ∨ (s.held n).isSome then none else return s.setExchange n e'
  | .abandon n => do
    let e ← s.exchanges n
    let e' ← e.abandoned
    return { s.setExchange n e' with pending := s.pending.abandon e.requestId }
  | .take frame document =>
    let noted n := (s.exchanges n).map (Exchange.note document)
    match s.pending.take document with
    | (some n, pending) =>
      some { s with exchanges := noted, pending, held := Function.update s.held n
                                                    (some ⟨frame, document⟩) }
    | (none, pending) =>
      some { s with exchanges := noted, pending, returns := s.returns ++
                                                    [⟨frame, document, none, false⟩] }
  | .send n => do
    let call ← s.held n
    let e ← s.exchanges n
    let (result, channel) := e.channel.send call.document
    return { s.setExchange n { e with channel } with
      held := Function.update s.held n none
      returns := s.returns ++ [⟨call.frame, call.document, some n, result⟩] }

/-- The frames that are acknowledged: those of the calls with the result `true`. -/
def acked (s : MediatorClient) : List String :=
  (s.returns.filter RouteReturn.result).map RouteReturn.frame

end MediatorClient

/-! ### What is exact about it -/

/-- A call found its way: its channel was handed the document, and the exchange has
it. -/
def RouteReturn.Arrived (s : MediatorClient) (r : RouteReturn) : Prop :=
  ∃ n e, r.target = some n ∧ s.exchanges n = some e ∧ e.Has r.document

/-- Every document goes where it belongs. -/
structure ExactDemux (s : MediatorClient) : Prop where
  /-- An exchange receives at most one document. -/
  once : ∀ n e, s.exchanges n = some e → e.received.length ≤ 1
  /-- It is on the thread of the exchange, and the first that was routed to it. -/
  own : ∀ n e d, s.exchanges n = some e → e.Has d →
    d.threadId = some e.requestId ∧ e.routed.head? = some d
  /-- The first document that was routed is on its way or has arrived. -/
  first : ∀ n e d, s.exchanges n = some e → e.routed.head? = some d →
    e.Has d ∨ ∃ call, s.held n = some call ∧ call.document = d
  /-- An exchange that it was routed to returns with it. -/
  returned : ∀ n e d outcome, s.exchanges n = some e → e.routed.head? = some d →
    e.phase = .returned outcome → outcome = .document d ∧ e.received = [d]
  /-- `route` has the result `true` exactly when the document has arrived. -/
  routed : ∀ r ∈ s.returns, r.result = true ↔ r.Arrived s
  /-- What has arrived was routed. -/
  handed : ∀ n e d, s.exchanges n = some e → e.Has d →
    ∃ r ∈ s.returns, r.target = some n ∧ r.document = d ∧ r.result = true
  /-- An acknowledged frame has arrived. -/
  acked : ∀ frame ∈ s.acked, ∃ r ∈ s.returns, r.frame = frame ∧ r.Arrived s
  /-- What is forgotten or served has no entry. -/
  noEntry : ∀ n e, s.exchanges n = some e → e.isRegistered = false ∨ e.received ≠ [] →
    s.pending.inner.get? e.requestId = none

end TrustRegistry
