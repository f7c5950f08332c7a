import TrustRegistry.Client.PendingReplies

/-!
# Every reply goes to its exchange

At any time the sender of a channel is in the map, or held by a call of `route`, or
gone: used up, or dropped from the map.  Which of these it is determines what may
be in the channel.

## Main definitions

* `DistinctIds` — no id is registered twice.
* `GivesUpUnrouted` — nothing is routed to an exchange that gives up.
* `Placed` — where the sender of a channel is.

## Main results

* `exact_demux` — every document goes where it belongs, as long as nothing is routed
  to exchanges that give up.
* `given_up_reply_acknowledged` — what is routed to one that does is lost.
-/

namespace TrustRegistry

open Transition

/-! ### What is permitted -/

/-- The ids of the requests are pairwise distinct. -/
def DistinctIds (s : MediatorClient) : ExchangeAction → Prop
  | .register _ requestId => ∀ n e, s.exchanges n = some e → e.requestId ≠ requestId
  | _ => True

/-- An exchange whose sending fails or whose time is over is one that nothing has been
routed to, and nothing is until its channel is forgotten. -/
def GivesUpUnrouted (s : MediatorClient) : ExchangeAction → Prop
  | .own n .sendFailed | .own n .elapse => ∀ e, s.exchanges n = some e → e.routed = []
  | .take _ document => ∀ n e, s.exchanges n = some e → document.threadId = some e.requestId →
      e.phase.isGivingUp = false
  | _ => True

/-- Both. -/
def ExchangesPermitted (s : MediatorClient) (a : ExchangeAction) : Prop :=
  DistinctIds s a ∧ GivesUpUnrouted s a

/-! ### The steps of an exchange -/

namespace Exchange

variable {e e' : Exchange}

/-- What a step of its own can be. -/
theorem advance_cases {a : OwnStep} (h : e.advance a = some e') :
    (a = .sent ∧ e.phase = .sending ∧ e' = { e with phase := .waiting }) ∨
    (a = .sendFailed ∧ e.phase = .sending ∧ e' = { e with phase := .sendFailed }) ∨
    (∃ d, a = .receive ∧ e.phase = .waiting ∧ e.channel.value = some d ∧
      e' = { e with phase := .returned (.document d), channel := .closed,
                    received := e.received ++ [d] }) ∨
    (a = .elapse ∧ e.phase = .waiting ∧ e' = { e with phase := .elapsed }) ∨
    (a = .dropReceiver ∧ e.phase = .elapsed ∧
      e' = { e with phase := .closing .timeout, channel := .closed }) ∨
    (a = .dropReceiver ∧ e.phase = .sendAbandoned ∧
      e' = { e with phase := .returned .sendError, channel := .closed }) := by
  unfold advance at h
  cases a <;> dsimp only at h <;> split at h <;> try cases h
  · next hphase => exact .inl ⟨rfl, hphase, rfl⟩
  · next hphase => exact .inr (.inl ⟨rfl, hphase, rfl⟩)
  · next d hphase hvalue => exact .inr (.inr (.inl ⟨d, rfl, hphase, hvalue, rfl⟩))
  · next hphase _ => exact .inr (.inr (.inr (.inl ⟨rfl, hphase, rfl⟩)))
  · next hphase => exact .inr (.inr (.inr (.inr (.inl ⟨rfl, hphase, rfl⟩))))
  · next hphase => exact .inr (.inr (.inr (.inr (.inr ⟨rfl, hphase, rfl⟩))))

/-- No step changes the request, or what was routed to it. -/
theorem advance_frame {a : OwnStep} (h : e.advance a = some e') :
    e'.requestId = e.requestId ∧ e'.routed = e.routed := by
  rcases advance_cases h with ⟨_, _, rfl⟩ | ⟨_, _, rfl⟩ | ⟨_, _, _, _, rfl⟩ | ⟨_, _, rfl⟩ |
    ⟨_, _, rfl⟩ | ⟨_, _, rfl⟩ <;> exact ⟨rfl, rfl⟩

/-- What forgetting its channel can be. -/
theorem abandoned_cases (h : e.abandoned = some e') : e.phase.isGivingUp = true ∧
    ∃ phase, (phase = .sendAbandoned ∨ ∃ outcome, e.phase = .closing outcome ∧
      phase = .returned outcome) ∧ e' = { e with phase } := by
  unfold abandoned at h
  split at h
  · next hphase =>
    obtain rfl := Option.some.inj h
    exact ⟨by rw [hphase]; rfl, _, .inl rfl, rfl⟩
  · next outcome hphase =>
    obtain rfl := Option.some.inj h
    exact ⟨by rw [hphase]; rfl, _, .inr ⟨outcome, hphase, rfl⟩, rfl⟩
  · cases h

/-- What being left by all senders can be. -/
theorem stopped_cases (h : e.stopped = some e') :
    e.phase = .waiting ∧ e.channel.value = none := by
  unfold stopped at h
  split at h
  · next hphase hvalue => exact ⟨hphase, hvalue⟩
  · cases h

theorem note_of_registered {d : TrustTask} (hthread : d.threadId = some e.requestId)
    (h : e.isRegistered = true) : e.note d = { e with routed := e.routed ++ [d] } :=
  if_pos ⟨hthread, h⟩

theorem note_of_not_registered {d : TrustTask} (h : e.isRegistered = false) : e.note d = e :=
  if_neg fun h' => by rw [h] at h'; cases h'.2

theorem note_of_other {d : TrustTask} (hthread : d.threadId ≠ some e.requestId) : e.note d = e :=
  if_neg fun h' => hthread h'.1

@[simp] theorem note_requestId (d : TrustTask) (e : Exchange) :
    (e.note d).requestId = e.requestId := by
  unfold note
  split <;> rfl

theorem has_note {d d' : TrustTask} : (e.note d).Has d' ↔ e.Has d' := by
  unfold note
  split <;> rfl

end Exchange

theorem MediatorClient.step_own {s : MediatorClient} {n : ℕ} {e e' : Exchange} {a : OwnStep}
    (hn : s.exchanges n = some e) (h : e.advance a = some e') :
    s.step (.own n a) = some (s.setExchange n e') := by
  simp [MediatorClient.step, hn, h]

theorem MediatorClient.step_send {s : MediatorClient} {n : ℕ} {e : Exchange} {call : RouteCall}
    (hcall : s.held n = some call) (hn : s.exchanges n = some e)
    (hsend : e.channel.send call.document
      = (true, { e.channel with value := some call.document })) :
    s.step (.send n) = some { s.setExchange n
        { e with channel := { e.channel with value := some call.document } } with
      held := Function.update s.held n none
      returns := s.returns ++ [⟨call.frame, call.document, some n, true⟩] } := by
  simp [MediatorClient.step, hcall, hn, hsend]

/-- What taking a channel out of the map can be. -/
theorem MediatorClient.take_cases {s s' : MediatorClient} {frame : String} {document : TrustTask}
    (h : s.step (.take frame document) = some s') :
    ((∀ t, document.threadId = some t → s.pending.inner.get? t = none) ∧
      ∃ pending : PendingReplies, (∀ id, pending.inner.get? id = s.pending.inner.get? id) ∧
        s' = { s with
          exchanges := fun n => (s.exchanges n).map (Exchange.note document)
          pending
          returns := s.returns ++ [⟨frame, document, none, false⟩] }) ∨
    ∃ t n, document.threadId = some t ∧ s.pending.inner.get? t = some n ∧
      s' = { s with
        exchanges := fun n => (s.exchanges n).map (Exchange.note document)
        pending := ⟨s.pending.inner.erase t⟩
        held := Function.update s.held n (some ⟨frame, document⟩) } := by
  unfold MediatorClient.step PendingReplies.take at h
  cases hthread : document.threadId with
  | none =>
    simp only [hthread] at h
    obtain rfl := Option.some.inj h
    exact .inl ⟨nofun, s.pending, fun _ => rfl, rfl⟩
  | some t =>
    cases hget : s.pending.inner.get? t with
    | none =>
      simp only [hthread, hget] at h
      obtain rfl := Option.some.inj h
      refine .inl ⟨fun t' ht' => ?_, ⟨s.pending.inner.erase t⟩, fun id => ?_, rfl⟩
      · obtain rfl := Option.some.inj ht'
        exact hget
      · rw [AssocMap.erase_eq_self_iff.mpr hget]
    | some n =>
      simp only [hthread, hget] at h
      obtain rfl := Option.some.inj h
      exact .inr ⟨t, n, rfl, hget, rfl⟩

/-! ### Where the sender is -/

/-- Where the sender of channel `n` is, by the entry of its id in the map and the call
that holds it, and what this says about the exchange. -/
inductive Placed (n : ℕ) (entry : Option ℕ) (call : Option RouteCall) (e : Exchange) : Prop
  /-- It is in the map, and nothing has been routed. -/
  | registered (hentry : entry = some n) (hcall : call = none) (hregistered : e.isRegistered = true)
      (hopen : e.phase.isLive = true → e.channel.isOpen = true) (hrouted : e.routed = [])
      (hvalue : e.channel.value = none) (hreceived : e.received = [])
  /-- A call holds it, with the first document that was routed. -/
  | taken (c : RouteCall) (hentry : entry = none) (hcall : call = some c)
      (hlive : e.phase.isLive = true) (hopen : e.channel.isOpen = true)
      (hrouted : e.routed.head? = some c.document) (hvalue : e.channel.value = none)
      (hreceived : e.received = [])
  /-- The document is in the channel. -/
  | sent (d : TrustTask) (hentry : entry = none) (hcall : call = none)
      (hlive : e.phase.isLive = true) (hrouted : e.routed.head? = some d)
      (hvalue : e.channel.value = some d) (hreceived : e.received = [])
  /-- It was received. -/
  | served (d : TrustTask) (hentry : entry = none) (hcall : call = none)
      (hphase : e.phase = .returned (.document d)) (hrouted : e.routed.head? = some d)
      (hvalue : e.channel.value = none) (hreceived : e.received = [d])
  /-- The sender was dropped from the map. -/
  | abandoned (hentry : entry = none) (hcall : call = none) (hregistered : e.isRegistered = false)
      (hrouted : e.routed = []) (hvalue : e.channel.value = none) (hreceived : e.received = [])

namespace Placed

variable {n : ℕ} {entry : Option ℕ} {call : Option RouteCall} {e e' : Exchange}

/-- The sender of an exchange that is registered, and has nothing routed to it, is in
the map. -/
theorem registered_of_routed_eq_nil (h : Placed n entry call e) (hregistered : e.isRegistered = true)
    (hnone : e.routed = []) :
    entry = some n ∧ call = none ∧ e.channel.value = none ∧ e.received = [] := by
  cases h with
  | registered hentry hcall _ _ _ hvalue hreceived => exact ⟨hentry, hcall, hvalue, hreceived⟩
  | taken c _ _ _ _ hrouted | sent c _ _ _ hrouted | served c _ _ _ hrouted =>
    rw [hnone] at hrouted
    cases hrouted
  | abandoned _ _ hregistered' =>
    rw [hregistered] at hregistered'
    cases hregistered'

/-- A step of its own leaves the sender where it is. -/
theorem advance (h : Placed n entry call e) {a : OwnStep} (hstep : e.advance a = some e')
    (hok : a = .sendFailed ∨ a = .elapse → e.routed = []) : Placed n entry call e' := by
  rcases Exchange.advance_cases hstep with ⟨rfl, hphase, rfl⟩ | ⟨rfl, hphase, rfl⟩ |
    ⟨d, rfl, hphase, hvalue', rfl⟩ | ⟨rfl, hphase, rfl⟩ | ⟨rfl, hphase, rfl⟩ | ⟨rfl, hphase, rfl⟩
  · -- sent: it goes on to wait
    cases h with
    | registered hentry hcall _ hopen hrouted hvalue hreceived =>
      exact .registered hentry hcall rfl (fun _ => hopen (by rw [hphase]; rfl)) hrouted hvalue
        hreceived
    | taken c hentry hcall _ hopen hrouted hvalue hreceived =>
      exact .taken c hentry hcall rfl hopen hrouted hvalue hreceived
    | sent d hentry hcall _ hrouted hvalue hreceived =>
      exact .sent d hentry hcall rfl hrouted hvalue hreceived
    | served d hentry hcall hphase' => rw [hphase] at hphase'; cases hphase'
    | abandoned hentry hcall hregistered =>
      rw [Exchange.isRegistered, hphase] at hregistered
      cases hregistered
  · -- sending failed: nothing was routed
    have hnone := hok (.inl rfl)
    have hregistered : e.isRegistered = true := by rw [Exchange.isRegistered, hphase]; rfl
    obtain ⟨hentry, hcall, hvalue, hreceived⟩ := h.registered_of_routed_eq_nil hregistered hnone
    exact .registered hentry hcall rfl nofun hnone hvalue hreceived
  · -- received
    cases h with
    | registered _ _ _ _ _ hvalue | taken _ _ _ _ _ _ hvalue | served _ _ _ _ _ hvalue
    | abandoned _ _ _ _ hvalue =>
      rw [hvalue'] at hvalue
      cases hvalue
    | sent d' hentry hcall _ hrouted hvalue hreceived =>
      obtain rfl := Option.some.inj (hvalue'.symm.trans hvalue)
      exact .served d hentry hcall rfl hrouted rfl (by rw [hreceived]; rfl)
  · -- the time is over: nothing was routed
    have hnone := hok (.inr rfl)
    have hregistered : e.isRegistered = true := by rw [Exchange.isRegistered, hphase]; rfl
    obtain ⟨hentry, hcall, hvalue, hreceived⟩ := h.registered_of_routed_eq_nil hregistered hnone
    exact .registered hentry hcall rfl nofun hnone hvalue hreceived
  · -- the receiver is dropped after the time was over
    cases h with
    | registered hentry hcall _ hopen hrouted hvalue hreceived =>
      exact .registered hentry hcall rfl nofun hrouted rfl hreceived
    | taken _ _ _ hlive | sent _ _ _ hlive =>
      rw [hphase] at hlive
      cases hlive
    | served d hentry hcall hphase' => rw [hphase] at hphase'; cases hphase'
    | abandoned hentry hcall hregistered =>
      rw [Exchange.isRegistered, hphase] at hregistered
      cases hregistered
  · -- the receiver is dropped after the channel was forgotten
    cases h with
    | registered _ _ hregistered =>
      rw [Exchange.isRegistered, hphase] at hregistered
      cases hregistered
    | taken _ _ _ hlive | sent _ _ _ hlive =>
      rw [hphase] at hlive
      cases hlive
    | served d hentry hcall hphase' => rw [hphase] at hphase'; cases hphase'
    | abandoned hentry hcall _ hrouted _ hreceived =>
      exact .abandoned hentry hcall rfl hrouted rfl hreceived

/-- There is nothing in a channel that nobody will look at. -/
theorem value_of_not_live (h : Placed n entry call e) (hlive' : e.phase.isLive = false) :
    e.channel.value = none := by
  cases h with
  | registered _ _ _ _ _ hvalue | taken _ _ _ _ _ _ hvalue | served _ _ _ _ _ hvalue
  | abandoned _ _ _ _ hvalue => exact hvalue
  | sent d _ _ hlive =>
    rw [hlive'] at hlive
    cases hlive

/-- What an exchange has, it keeps. -/
theorem has_advance (h : Placed n entry call e) {a : OwnStep} (hstep : e.advance a = some e')
    (d : TrustTask) : e'.Has d ↔ e.Has d := by
  rcases Exchange.advance_cases hstep with ⟨_, _, rfl⟩ | ⟨_, _, rfl⟩ |
    ⟨d', _, _, hvalue, rfl⟩ | ⟨_, _, rfl⟩ | ⟨_, hphase, rfl⟩ | ⟨_, hphase, rfl⟩
  · exact Iff.rfl
  · exact Iff.rfl
  · -- what was in the channel is received
    simp only [Exchange.Has, Oneshot.closed, hvalue, List.mem_append, List.mem_singleton,
      Option.some.injEq, reduceCtorEq, false_or]
    rw [or_comm, eq_comm]
  · exact Iff.rfl
  · have hvalue := h.value_of_not_live (by rw [hphase]; rfl)
    simp only [Exchange.Has, Oneshot.closed, hvalue]
  · have hvalue := h.value_of_not_live (by rw [hphase]; rfl)
    simp only [Exchange.Has, Oneshot.closed, hvalue]

/-- A channel is forgotten. -/
theorem abandon (h : Placed n entry call e) (hstep : e.abandoned = some e') :
    Placed n none call e' := by
  obtain ⟨hgiving, phase, hphase, rfl⟩ := Exchange.abandoned_cases hstep
  have hregistered' : e.isRegistered = true := by rw [Exchange.isRegistered, hgiving, Bool.or_true]
  have hlive' : e.phase.isLive ≠ true := by
    intro hlive
    cases he : e.phase <;> rw [he] at hlive hgiving <;> cases hlive <;> cases hgiving
  cases h with
  | registered _ hcall _ _ hrouted hvalue hreceived =>
    refine .abandoned rfl hcall ?_ hrouted hvalue hreceived
    obtain rfl | ⟨outcome, _, rfl⟩ := hphase <;> rfl
  | taken _ _ _ hlive | sent _ _ _ hlive => exact absurd hlive hlive'
  | served d _ _ hphase' =>
    rw [hphase'] at hgiving
    cases hgiving
  | abandoned _ _ hregistered =>
    rw [hregistered] at hregistered'
    cases hregistered'

/-- Its senders are never all gone while an exchange waits for a document. -/
theorem not_stopped (h : Placed n entry call e) (hstep : e.stopped = some e') :
    entry = some n ∨ call.isSome = true := by
  obtain ⟨hphase, hvalue'⟩ := Exchange.stopped_cases hstep
  cases h with
  | registered hentry => exact .inl hentry
  | taken c _ hcall => exact .inr (by rw [hcall]; rfl)
  | sent d _ _ _ _ hvalue =>
    rw [hvalue'] at hvalue
    cases hvalue
  | served d _ _ hphase' => rw [hphase] at hphase'; cases hphase'
  | abandoned _ _ hregistered =>
    rw [Exchange.isRegistered, hphase] at hregistered
    cases hregistered

/-- A document is routed to an exchange that is registered. -/
theorem note_of_entry (h : Placed n (some n) call e) {frame : String} {d : TrustTask}
    (hthread : d.threadId = some e.requestId) (hok : e.phase.isGivingUp = false) :
    Placed n none (some ⟨frame, d⟩) (e.note d) := by
  cases h with
  | registered _ _ hregistered hopen hrouted hvalue hreceived =>
    have hlive : e.phase.isLive = true := by
      rwa [Exchange.isRegistered, hok, Bool.or_false] at hregistered
    rw [Exchange.note_of_registered hthread hregistered]
    exact .taken ⟨frame, d⟩ rfl rfl hlive (hopen hlive) (by simp [hrouted]) hvalue hreceived
  | taken _ hentry | sent _ hentry | served _ hentry | abandoned hentry => cases hentry

/-- A document is routed to one that is not, or not any more. -/
theorem note_of_none (h : Placed n none call e) (d : TrustTask) : Placed n none call (e.note d) := by
  have hfirst : ∀ d', e.routed.head? = some d' → (e.note d).routed.head? = some d' := by
    intro d' hd'
    unfold Exchange.note
    split
    · simp [List.head?_append, hd']
    · exact hd'
  have hsame : (e.note d).phase = e.phase ∧ (e.note d).channel = e.channel ∧
      (e.note d).received = e.received := by
    unfold Exchange.note
    split <;> exact ⟨rfl, rfl, rfl⟩
  obtain ⟨hphase, hchannel, hreceived'⟩ := hsame
  cases h with
  | registered hentry => cases hentry
  | taken c hentry hcall hlive hopen hrouted hvalue hreceived =>
    exact .taken c hentry hcall (hphase ▸ hlive) (hchannel ▸ hopen) (hfirst _ hrouted)
      (hchannel ▸ hvalue) (hreceived' ▸ hreceived)
  | sent d' hentry hcall hlive hrouted hvalue hreceived =>
    exact .sent d' hentry hcall (hphase ▸ hlive) (hfirst _ hrouted) (hchannel ▸ hvalue)
      (hreceived' ▸ hreceived)
  | served d' hentry hcall hphase' hrouted hvalue hreceived =>
    exact .served d' hentry hcall (hphase ▸ hphase') (hfirst _ hrouted) (hchannel ▸ hvalue)
      (hreceived' ▸ hreceived)
  | abandoned hentry hcall hregistered hrouted hvalue hreceived =>
    rw [Exchange.note_of_not_registered hregistered]
    exact .abandoned hentry hcall hregistered hrouted hvalue hreceived

/-- A document that a call holds is sent: the channel is open, and it arrives. -/
theorem send {c : RouteCall} (h : Placed n entry (some c) e) :
    e.channel.send c.document = (true, { e.channel with value := some c.document }) ∧
      Placed n entry none
        { e with channel := { e.channel with value := some c.document } } := by
  cases h with
  | taken c' hentry hcall hlive hopen hrouted hvalue hreceived =>
    obtain rfl := Option.some.inj hcall
    exact ⟨by rw [Oneshot.send, if_pos hopen],
      .sent c.document hentry rfl hlive hrouted rfl hreceived⟩
  | registered _ hcall | sent _ _ hcall | served _ _ hcall | abandoned _ hcall => cases hcall

end Placed

/-! ### The invariant -/

/-- Every sender is where it belongs, and the results of `route` are right. -/
structure DemuxInv (s : MediatorClient) : Prop where
  placed : ∀ n e, s.exchanges n = some e →
    Placed n (s.pending.inner.get? e.requestId) (s.held n) e
  distinct : ∀ n m e f, s.exchanges n = some e → s.exchanges m = some f →
    e.requestId = f.requestId → n = m
  known : ∀ id n, s.pending.inner.get? id = some n →
    ∃ e, s.exchanges n = some e ∧ e.requestId = id
  heldKnown : ∀ n call, s.held n = some call → ∃ e, s.exchanges n = some e
  thread : ∀ n e d, s.exchanges n = some e → d ∈ e.routed → d.threadId = some e.requestId
  results : ∀ r ∈ s.returns, if r.result then r.Arrived s else r.target = none
  handed : ∀ n e d, s.exchanges n = some e → e.Has d →
    ∃ r ∈ s.returns, r.target = some n ∧ r.document = d ∧ r.result = true

namespace DemuxInv

theorem new : DemuxInv .new where
  placed _ _ h := nomatch h
  distinct _ _ _ _ h := nomatch h
  known _ _ h := nomatch h
  heldKnown _ _ h := nomatch h
  thread _ _ _ h := nomatch h
  results _ h := nomatch h
  handed _ _ _ h := nomatch h

variable {s s' : MediatorClient} {n : ℕ} {e e' : Exchange}

/-- The results of `route` stay right while exchanges keep what they have. -/
theorem results_of_keep (hs : DemuxInv s)
    (hkeep : ∀ m f, s.exchanges m = some f →
      ∃ f', s'.exchanges m = some f' ∧ ∀ d, f.Has d → f'.Has d)
    {r : RouteReturn} (hr : r ∈ s.returns) :
    if r.result then r.Arrived s' else r.target = none := by
  have hr' := hs.results r hr
  split
  · next hresult =>
    rw [if_pos hresult] at hr'
    obtain ⟨m, f, htarget, hf, hhas⟩ := hr'
    obtain ⟨f', hf', hgrows⟩ := hkeep m f hf
    exact ⟨m, f', htarget, hf', hgrows _ hhas⟩
  · next hresult => rwa [if_neg hresult] at hr'

/-- A step that changes one exchange, its entry, and the call that holds its sender. -/
theorem update (hs : DemuxInv s) (hn : s.exchanges n = some e)
    (hexchanges : s'.exchanges = Function.update s.exchanges n (some e'))
    (hid : e'.requestId = e.requestId) (hrouted : e'.routed = e.routed)
    (hinner : ∀ id, s'.pending.inner.get? id = s.pending.inner.get? id ∨
      (id = e.requestId ∧ s'.pending.inner.get? id = none))
    (hheld : ∀ m, m ≠ n → s'.held m = s.held m)
    (hplaced : Placed n (s'.pending.inner.get? e'.requestId) (s'.held n) e')
    (hreturns : ∀ r ∈ s'.returns, r ∈ s.returns ∨
      (r.target = some n ∧ r.result = true ∧ e'.Has r.document))
    (hold : ∀ r ∈ s.returns, r ∈ s'.returns) (hkeep : ∀ d, e.Has d → e'.Has d)
    (hnew : ∀ d, e'.Has d → e.Has d ∨
      ∃ r ∈ s'.returns, r.target = some n ∧ r.document = d ∧ r.result = true) : DemuxInv s' := by
  have hself : s'.exchanges n = some e' := by rw [hexchanges, Function.update_self]
  have hother : ∀ m, m ≠ n → s'.exchanges m = s.exchanges m := by
    intro m hm
    rw [hexchanges, Function.update_of_ne hm]
  -- every exchange was there before, with the same id
  have hback : ∀ m f, s'.exchanges m = some f → ∃ f', s.exchanges m = some f' ∧
      f'.requestId = f.requestId ∧ f'.routed = f.routed := by
    intro m f hf
    by_cases hm : m = n
    · subst hm
      obtain rfl := Option.some.inj (hself.symm.trans hf)
      exact ⟨e, hn, hid.symm, hrouted.symm⟩
    · exact ⟨f, (hother m hm).symm.trans hf, rfl, rfl⟩
  -- and every one is still there, with what it had
  have hforth : ∀ m f, s.exchanges m = some f →
      ∃ f', s'.exchanges m = some f' ∧ f'.requestId = f.requestId ∧ ∀ d, f.Has d → f'.Has d := by
    intro m f hf
    by_cases hm : m = n
    · subst hm
      obtain rfl := Option.some.inj (hn.symm.trans hf)
      exact ⟨e', hself, hid, hkeep⟩
    · exact ⟨f, (hother m hm).trans hf, rfl, fun _ hd => hd⟩
  refine ⟨?_, ?_, ?_, ?_, ?_, ?_, ?_⟩
  · intro m f hf
    by_cases hm : m = n
    · subst hm
      obtain rfl := Option.some.inj (hself.symm.trans hf)
      exact hplaced
    · have hf' : s.exchanges m = some f := (hother m hm).symm.trans hf
      have hplaced' := hs.placed m f hf'
      rw [hheld m hm]
      rcases hinner f.requestId with h | ⟨h, _⟩
      · rwa [h]
      · exact absurd (hs.distinct m n f e hf' hn h) hm
  · intro m k f g hf hg hfg
    obtain ⟨f', hf', hidf, _⟩ := hback m f hf
    obtain ⟨g', hg', hidg, _⟩ := hback k g hg
    exact hs.distinct m k f' g' hf' hg' (hidf.trans (hfg.trans hidg.symm))
  · intro id m hget
    have hget' : s.pending.inner.get? id = some m := by
      rcases hinner id with h | ⟨_, h⟩
      · exact h.symm.trans hget
      · rw [h] at hget
        cases hget
    obtain ⟨f, hf, hfid⟩ := hs.known id m hget'
    obtain ⟨f', hf', hid', _⟩ := hforth m f hf
    exact ⟨f', hf', hid'.trans hfid⟩
  · intro m call hcall
    by_cases hm : m = n
    · subst hm
      exact ⟨e', hself⟩
    · rw [hheld m hm] at hcall
      obtain ⟨f, hf⟩ := hs.heldKnown m call hcall
      obtain ⟨f', hf', _⟩ := hforth m f hf
      exact ⟨f', hf'⟩
  · intro m f d hf hd
    obtain ⟨f', hf', hidf, hroutedf⟩ := hback m f hf
    rw [← hidf]
    exact hs.thread m f' d hf' (hroutedf ▸ hd)
  · intro r hr
    rcases hreturns r hr with hin | ⟨htarget, hresult, hhas⟩
    · refine hs.results_of_keep (fun m f hf => ?_) hin
      obtain ⟨f', hf', _, hgrows⟩ := hforth m f hf
      exact ⟨f', hf', hgrows⟩
    · rw [if_pos hresult]
      exact ⟨n, e', htarget, hself, hhas⟩
  · intro m f d hf hhas
    by_cases hm : m = n
    · subst hm
      obtain rfl := Option.some.inj (hself.symm.trans hf)
      rcases hnew d hhas with h | h
      · obtain ⟨r, hr, hrest⟩ := hs.handed m e d hn h
        exact ⟨r, hold r hr, hrest⟩
      · exact h
    · obtain ⟨r, hr, hrest⟩ := hs.handed m f d ((hother m hm).symm.trans hf) hhas
      exact ⟨r, hold r hr, hrest⟩

/-- A step of an exchange of its own. -/
theorem own (hs : DemuxInv s) (hn : s.exchanges n = some e) {a : OwnStep}
    (hstep : e.advance a = some e') (hok : a = .sendFailed ∨ a = .elapse → e.routed = []) :
    DemuxInv (s.setExchange n e') := by
  obtain ⟨hid, hrouted⟩ := Exchange.advance_frame hstep
  have hplaced := hs.placed n e hn
  refine hs.update hn rfl hid hrouted (fun _ => .inl rfl) (fun _ _ => rfl) ?_
    (fun r hr => .inl hr) (fun r hr => hr) (fun d => (hplaced.has_advance hstep d).mpr)
    (fun d hd => .inl ((hplaced.has_advance hstep d).mp hd))
  rw [hid]
  exact hplaced.advance hstep hok

/-- A channel is forgotten. -/
theorem abandon (hs : DemuxInv s) (hn : s.exchanges n = some e) (hstep : e.abandoned = some e') :
    DemuxInv { s.setExchange n e' with pending := s.pending.abandon e.requestId } := by
  have hplaced := (hs.placed n e hn).abandon hstep
  obtain ⟨_, _, _, rfl⟩ := Exchange.abandoned_cases hstep
  refine hs.update hn rfl rfl rfl (fun id => ?_) (fun _ _ => rfl) ?_ (fun r hr => .inl hr)
    (fun r hr => hr) (fun _ hd => hd) (fun _ hd => .inl hd)
  · by_cases hid : id = e.requestId
    · refine .inr ⟨hid, ?_⟩
      rw [hid]
      exact AssocMap.get?_erase_self _ _
    · exact .inl (AssocMap.get?_erase_of_ne _ hid)
  · rwa [show (s.pending.abandon e.requestId).inner.get? e.requestId = none from
      AssocMap.get?_erase_self _ _]

/-- A document is sent into its channel. -/
theorem send (hs : DemuxInv s) {call : RouteCall} (hcall : s.held n = some call)
    (hn : s.exchanges n = some e) :
    DemuxInv { s.setExchange n
        { e with channel := { e.channel with value := some call.document } } with
      held := Function.update s.held n none
      returns := s.returns ++ [⟨call.frame, call.document, some n, true⟩] } := by
  have hplaced := hs.placed n e hn
  rw [hcall] at hplaced
  obtain ⟨_, hsent⟩ := hplaced.send
  -- a channel with a sender has nothing in it, and nothing was received from it
  have hempty : ∀ d, ¬ e.Has d := by
    intro d
    cases hplaced with
    | taken c _ _ _ _ _ hvalue hreceived => simp [Exchange.Has, hvalue, hreceived]
    | registered _ hcall | sent _ _ hcall | served _ _ hcall | abandoned _ hcall => cases hcall
  refine hs.update hn rfl rfl rfl (fun _ => .inl rfl) (fun m hm => Function.update_of_ne hm _ _)
    ?_ (fun r hr => ?_) (fun r hr => List.mem_append_left _ hr)
    (fun d hd => absurd hd (hempty d)) (fun d hd => ?_)
  · dsimp only
    rwa [Function.update_self]
  · rcases List.mem_append.mp hr with h | h
    · exact .inl h
    · obtain rfl := List.mem_singleton.mp h
      exact .inr ⟨rfl, rfl, .inl rfl⟩
  · refine .inr ⟨_, List.mem_append_right _ (List.mem_singleton_self _), rfl, ?_, rfl⟩
    rcases hd with hvalue | hreceived
    · exact Option.some.inj hvalue
    · exact absurd (.inr hreceived) (hempty d)

/-- An exchange begins. -/
theorem register (hs : DemuxInv s) (hn : s.exchanges n = none) {requestId : String}
    (hdistinct : ∀ m f, s.exchanges m = some f → f.requestId ≠ requestId) :
    DemuxInv { s.setExchange n { requestId } with
      pending := s.pending.register requestId n } := by
  have hback : ∀ m f, (s.setExchange n { requestId }).exchanges m = some f →
      (m = n ∧ f = { requestId }) ∨ (m ≠ n ∧ s.exchanges m = some f) := by
    intro m f hf
    by_cases hm : m = n
    · subst hm
      rw [MediatorClient.setExchange_self] at hf
      exact .inl ⟨rfl, (Option.some.inj hf).symm⟩
    · rw [MediatorClient.setExchange_of_ne _ _ hm] at hf
      exact .inr ⟨hm, hf⟩
  have hkeep : ∀ m f, s.exchanges m = some f →
      (s.setExchange n { requestId }).exchanges m = some f := by
    intro m f hf
    have hm : m ≠ n := by
      rintro rfl
      rw [hn] at hf
      cases hf
    rw [MediatorClient.setExchange_of_ne _ _ hm, hf]
  refine ⟨?_, ?_, ?_, ?_, ?_, ?_, ?_⟩
  · intro m f hf
    rcases hback m f hf with ⟨rfl, rfl⟩ | ⟨_, hf'⟩
    · refine .registered (AssocMap.get?_insert_self _ _ _) ?_ rfl (fun _ => rfl) rfl rfl rfl
      cases hheld : s.held m with
      | none => exact hheld
      | some call =>
        obtain ⟨f, hf⟩ := hs.heldKnown m call hheld
        rw [hn] at hf
        cases hf
    · have hplaced := hs.placed m f hf'
      rwa [← AssocMap.get?_insert_of_ne _ _ (hdistinct m f hf')] at hplaced
  · intro m k f g hf hg hfg
    rcases hback m f hf with ⟨rfl, rfl⟩ | ⟨_, hf'⟩
    · rcases hback k g hg with ⟨rfl, rfl⟩ | ⟨_, hg'⟩
      · rfl
      · exact absurd hfg.symm (hdistinct k g hg')
    · rcases hback k g hg with ⟨rfl, rfl⟩ | ⟨_, hg'⟩
      · exact absurd hfg (hdistinct m f hf')
      · exact hs.distinct m k f g hf' hg' hfg
  · intro id m hget
    change (s.pending.inner.insert requestId n).get? id = some m at hget
    rw [AssocMap.get?_insert] at hget
    split at hget
    · next hid =>
      obtain rfl := Option.some.inj hget
      exact ⟨{ requestId }, MediatorClient.setExchange_self _ _ _, hid.symm⟩
    · obtain ⟨f, hf, hfid⟩ := hs.known id m hget
      exact ⟨f, hkeep m f hf, hfid⟩
  · intro m call hcall
    obtain ⟨f, hf⟩ := hs.heldKnown m call hcall
    exact ⟨f, hkeep m f hf⟩
  · intro m f d hf hd
    rcases hback m f hf with ⟨rfl, rfl⟩ | ⟨_, hf'⟩
    · cases hd
    · exact hs.thread m f d hf' hd
  · intro r hr
    exact hs.results_of_keep (fun m f hf => ⟨f, hkeep m f hf, fun _ hd => hd⟩) hr
  · intro m f d hf hhas
    rcases hback m f hf with ⟨rfl, rfl⟩ | ⟨_, hf'⟩
    · rcases hhas with hvalue | hreceived
      · cases hvalue
      · cases hreceived
    · exact hs.handed m f d hf' hhas

/-- The invariant after a document is routed, by where its channel is. -/
theorem noted (hs : DemuxInv s) {document : TrustTask}
    (hexchanges : ∀ m, s'.exchanges m = (s.exchanges m).map (Exchange.note document))
    (hinner : ∀ id m, s'.pending.inner.get? id = some m → s.pending.inner.get? id = some m)
    (hheld : ∀ m call, s'.held m = some call → ∃ f, s.exchanges m = some f)
    (hplaced : ∀ m f, s.exchanges m = some f →
      Placed m (s'.pending.inner.get? f.requestId) (s'.held m) (f.note document))
    (hreturns : ∀ r ∈ s'.returns, r ∈ s.returns ∨ (r.result = false ∧ r.target = none))
    (hold : ∀ r ∈ s.returns, r ∈ s'.returns) : DemuxInv s' := by
  have hback : ∀ m g, s'.exchanges m = some g →
      ∃ f, s.exchanges m = some f ∧ g = f.note document := by
    intro m g hg
    rw [hexchanges] at hg
    obtain ⟨f, hf, rfl⟩ := Option.map_eq_some_iff.mp hg
    exact ⟨f, hf, rfl⟩
  have hforth : ∀ m f, s.exchanges m = some f → s'.exchanges m = some (f.note document) := by
    intro m f hf
    rw [hexchanges, hf]
    rfl
  refine ⟨?_, ?_, ?_, ?_, ?_, ?_, ?_⟩
  · intro m g hg
    obtain ⟨f, hf, rfl⟩ := hback m g hg
    rw [Exchange.note_requestId]
    exact hplaced m f hf
  · intro m k f g hf hg hfg
    obtain ⟨f', hf', rfl⟩ := hback m f hf
    obtain ⟨g', hg', rfl⟩ := hback k g hg
    rw [Exchange.note_requestId, Exchange.note_requestId] at hfg
    exact hs.distinct m k f' g' hf' hg' hfg
  · intro id m hget
    obtain ⟨f, hf, hfid⟩ := hs.known id m (hinner id m hget)
    exact ⟨f.note document, hforth m f hf, by rw [Exchange.note_requestId, hfid]⟩
  · intro m call hcall
    obtain ⟨f, hf⟩ := hheld m call hcall
    exact ⟨f.note document, hforth m f hf⟩
  · intro m g d hg hd
    obtain ⟨f, hf, rfl⟩ := hback m g hg
    rw [Exchange.note_requestId]
    unfold Exchange.note at hd
    split at hd
    · next hnote =>
      rcases List.mem_append.mp hd with h | h
      · exact hs.thread m f d hf h
      · rw [List.mem_singleton.mp h]
        exact hnote.1
    · exact hs.thread m f d hf hd
  · intro r hr
    rcases hreturns r hr with hin | ⟨hresult, htarget⟩
    · exact hs.results_of_keep
        (fun m f hf => ⟨f.note document, hforth m f hf, fun _ hd => Exchange.has_note.mpr hd⟩) hin
    · rw [if_neg (by rw [hresult]; decide)]
      exact htarget
  · intro m g d hg hhas
    obtain ⟨f, hf, rfl⟩ := hback m g hg
    obtain ⟨r, hr, hrest⟩ := hs.handed m f d hf (Exchange.has_note.mp hhas)
    exact ⟨r, hold r hr, hrest⟩

/-- A document has its channel taken out of the map. -/
theorem take (hs : DemuxInv s) {frame : String} {document : TrustTask}
    (hok : ∀ m f, s.exchanges m = some f → document.threadId = some f.requestId →
      f.phase.isGivingUp = false) (hstep : s.step (.take frame document) = some s') :
    DemuxInv s' := by
  rcases MediatorClient.take_cases hstep with ⟨hnone, pending, hpending, rfl⟩ |
    ⟨t, n, hthread, hget, rfl⟩
  · -- there is no channel for it
    refine hs.noted (fun _ => rfl) (fun id m h => (hpending id).symm.trans h)
      hs.heldKnown (fun m f hf => ?_) (fun r hr => ?_) (fun r hr => List.mem_append_left _ hr)
    · dsimp only
      rw [hpending]
      have hplaced := hs.placed m f hf
      by_cases hthread : document.threadId = some f.requestId
      · rw [hnone _ hthread] at hplaced ⊢
        exact hplaced.note_of_none document
      · rwa [Exchange.note_of_other hthread]
    · rcases List.mem_append.mp hr with h | h
      · exact .inl h
      · obtain rfl := List.mem_singleton.mp h
        exact .inr ⟨rfl, rfl⟩
  · -- there is one, of the exchange of its thread
    obtain ⟨e, hn, hid⟩ := hs.known t n hget
    refine hs.noted (fun _ => rfl) (fun id m h => ?_) (fun m call h => ?_) (fun m f hf => ?_)
      (fun r hr => .inl hr) (fun r hr => hr)
    · change (s.pending.inner.erase t).get? id = some m at h
      rw [AssocMap.get?_erase] at h
      split at h
      · cases h
      · exact h
    · by_cases hm : m = n
      · subst hm
        exact ⟨e, hn⟩
      · dsimp only at h
        rw [Function.update_of_ne hm] at h
        exact hs.heldKnown m call h
    · dsimp only
      have hplaced := hs.placed m f hf
      by_cases hm : m = n
      · subst hm
        obtain rfl := Option.some.inj (hn.symm.trans hf)
        rw [Function.update_self, ← hid, AssocMap.get?_erase_self]
        rw [hid, hget] at hplaced
        rw [← hid] at hthread
        exact hplaced.note_of_entry hthread (hok m e hn hthread)
      · have hne : f.requestId ≠ t := fun h => hm (hs.distinct m n f e hf hn (h.trans hid.symm))
        rw [Function.update_of_ne hm, AssocMap.get?_erase_of_ne _ hne,
          Exchange.note_of_other (by rw [hthread]; exact fun h => hne (Option.some.inj h).symm)]
        exact hplaced

/-- **Every permitted step keeps the invariant.** -/
theorem step (hs : DemuxInv s) {a : ExchangeAction} (hok : ExchangesPermitted s a)
    (hstep : s.step a = some s') : DemuxInv s' := by
  cases a with
  | register n requestId =>
    unfold MediatorClient.step at hstep
    dsimp only at hstep
    split at hstep
    · cases hstep
    · next hn =>
      obtain rfl := Option.some.inj hstep
      exact hs.register hn hok.1
  | own n a =>
    obtain ⟨e, hn, hstep⟩ := Option.bind_eq_some_iff.mp hstep
    obtain ⟨e', hadvance, hstep⟩ := Option.bind_eq_some_iff.mp hstep
    obtain rfl := Option.some.inj hstep
    refine hs.own hn hadvance ?_
    rintro (rfl | rfl)
    · exact hok.2 e hn
    · exact hok.2 e hn
  | stopped n =>
    obtain ⟨e, hn, hstep⟩ := Option.bind_eq_some_iff.mp hstep
    obtain ⟨e', hstopped, hstep⟩ := Option.bind_eq_some_iff.mp hstep
    have hsender : n ∈ s.pending.inner.values ∨ (s.held n).isSome = true :=
      ((hs.placed n e hn).not_stopped hstopped).imp_left
        fun h => AssocMap.mem_values_iff.mpr ⟨_, h⟩
    rw [if_pos hsender] at hstep
    cases hstep
  | abandon n =>
    obtain ⟨e, hn, hstep⟩ := Option.bind_eq_some_iff.mp hstep
    obtain ⟨e', habandoned, hstep⟩ := Option.bind_eq_some_iff.mp hstep
    obtain rfl := Option.some.inj hstep
    exact hs.abandon hn habandoned
  | take frame document => exact hs.take hok.2 hstep
  | send n =>
    have hstep' := hstep
    obtain ⟨call, hcall, hstep⟩ := Option.bind_eq_some_iff.mp hstep
    obtain ⟨e, hn, _⟩ := Option.bind_eq_some_iff.mp hstep
    have hplaced := hs.placed n e hn
    rw [hcall] at hplaced
    rw [MediatorClient.step_send hcall hn hplaced.send.1] at hstep'
    obtain rfl := Option.some.inj hstep'
    exact hs.send hcall hn

end DemuxInv

/-! ### Every document goes where it belongs -/

namespace Placed

variable {n : ℕ} {entry : Option ℕ} {call : Option RouteCall} {e : Exchange}

/-- What an exchange has is the first document that was routed to it. -/
theorem head?_of_has (h : Placed n entry call e) {d : TrustTask} (hd : e.Has d) :
    e.routed.head? = some d := by
  cases h with
  | sent d' _ _ _ hrouted hvalue hreceived =>
    rcases hd with hd | hd
    · rw [hrouted, ← hvalue, hd]
    · rw [hreceived] at hd
      cases hd
  | served d' _ _ _ hrouted hvalue hreceived =>
    rcases hd with hd | hd
    · rw [hvalue] at hd
      cases hd
    · rw [hreceived] at hd
      rw [hrouted, List.mem_singleton.mp hd]
  | registered _ _ _ _ _ hvalue hreceived | taken _ _ _ _ _ _ hvalue hreceived
  | abandoned _ _ _ _ hvalue hreceived =>
    rcases hd with hd | hd
    · rw [hvalue] at hd
      cases hd
    · rw [hreceived] at hd
      cases hd

/-- The first document that was routed is there, or a call holds it. -/
theorem has_of_head? (h : Placed n entry call e) {d : TrustTask} (hd : e.routed.head? = some d) :
    e.Has d ∨ ∃ c, call = some c ∧ c.document = d := by
  cases h with
  | registered _ _ _ _ hrouted | abandoned _ _ _ hrouted =>
    rw [hrouted] at hd
    cases hd
  | taken c _ hcall _ _ hrouted => exact .inr ⟨c, hcall, Option.some.inj (hrouted.symm.trans hd)⟩
  | sent d' _ _ _ hrouted hvalue => exact .inl (.inl (hvalue.trans (hrouted.symm.trans hd)))
  | served d' _ _ _ hrouted _ hreceived =>
    obtain rfl := Option.some.inj (hrouted.symm.trans hd)
    exact .inl (.inr (by rw [hreceived]; exact List.mem_singleton_self _))

/-- An exchange that has returned, and that a document was routed to, received it. -/
theorem served_of_returned (h : Placed n entry call e) {d : TrustTask} {outcome : Outcome}
    (hd : e.routed.head? = some d) (hphase : e.phase = .returned outcome) :
    outcome = .document d ∧ e.received = [d] := by
  cases h with
  | registered _ _ _ _ hrouted | abandoned _ _ _ hrouted =>
    rw [hrouted] at hd
    cases hd
  | taken _ _ _ hlive | sent _ _ _ hlive =>
    rw [hphase] at hlive
    cases hlive
  | served d' _ _ hphase' hrouted _ hreceived =>
    obtain rfl := Option.some.inj (hrouted.symm.trans hd)
    exact ⟨ExchangePhase.returned.inj (hphase.symm.trans hphase'), hreceived⟩

theorem length_received (h : Placed n entry call e) : e.received.length ≤ 1 := by
  cases h with
  | registered _ _ _ _ _ _ hreceived | taken _ _ _ _ _ _ _ hreceived
  | sent _ _ _ _ _ _ hreceived | served _ _ _ _ _ _ hreceived
  | abandoned _ _ _ _ _ hreceived =>
    rw [hreceived]
    simp

/-- What is forgotten or served has no entry. -/
theorem entry_eq_none (h : Placed n entry call e)
    (hdone : e.isRegistered = false ∨ e.received ≠ []) : entry = none := by
  cases h with
  | registered _ _ hregistered _ _ _ hreceived =>
    rcases hdone with hdone | hdone
    · rw [hdone] at hregistered
      cases hregistered
    · exact absurd hreceived hdone
  | taken _ hentry | sent _ hentry | served _ hentry | abandoned hentry => exact hentry

end Placed

namespace DemuxInv

variable {s : MediatorClient}

theorem exactDemux (hs : DemuxInv s) : ExactDemux s where
  once n e hn := (hs.placed n e hn).length_received
  own n e d hn hd := by
    have hfirst := (hs.placed n e hn).head?_of_has hd
    exact ⟨hs.thread n e d hn (List.mem_of_head? hfirst), hfirst⟩
  first n e d hn hd := (hs.placed n e hn).has_of_head? hd
  returned n e d outcome hn hd hphase := (hs.placed n e hn).served_of_returned hd hphase
  routed r hr := by
    have hresult := hs.results r hr
    constructor
    · intro h
      rwa [if_pos h] at hresult
    · rintro ⟨n, e, htarget, _⟩
      by_contra h
      rw [if_neg h, htarget] at hresult
      cases hresult
  handed := hs.handed
  acked frame hframe := by
    obtain ⟨r, hr, rfl⟩ := List.mem_map.mp hframe
    obtain ⟨hr, hresult⟩ := List.mem_filter.mp hr
    have harrived := hs.results r hr
    rw [if_pos hresult] at harrived
    exact ⟨r, hr, rfl, harrived⟩
  noEntry n e hn hdone := (hs.placed n e hn).entry_eq_none hdone

/-- What is in the channel of an exchange that will look at it can be received. -/
theorem receives_of_value {n : ℕ} {e : Exchange} (hn : s.exchanges n = some e)
    (hlive : e.phase.isLive = true) {d : TrustTask} (hvalue : e.channel.value = some d) :
    ∃ bs u e', Run MediatorClient.step ExchangesPermitted s bs u ∧ u.exchanges n = some e' ∧
      e'.phase = .returned (.document d) := by
  have hreceive : ∀ (t : MediatorClient) (f : Exchange), t.exchanges n = some f →
      f.phase = .waiting → f.channel.value = some d →
      ∃ u e', Run MediatorClient.step ExchangesPermitted t [.own n .receive] u ∧
        u.exchanges n = some e' ∧ e'.phase = .returned (.document d) := by
    intro t f hf hphase hvalue
    have hadvance : f.advance .receive = some { f with
        phase := .returned (.document d), channel := .closed, received := f.received ++ [d] } := by
      simp [Exchange.advance, hphase, hvalue]
    have hstep := MediatorClient.step_own hf hadvance
    exact ⟨_, _, .single ⟨trivial, trivial⟩ hstep, MediatorClient.setExchange_self _ _ _, rfl⟩
  cases hphase : e.phase with
  | waiting =>
    obtain ⟨u, e', hrun, hrest⟩ := hreceive s e hn hphase hvalue
    exact ⟨_, u, e', hrun, hrest⟩
  | sending =>
    have hadvance : e.advance .sent = some { e with phase := .waiting } := by
      simp [Exchange.advance, hphase]
    have hsent := MediatorClient.step_own hn hadvance
    obtain ⟨u, e', hrun, hrest⟩ := hreceive (s.setExchange n { e with phase := .waiting })
      { e with phase := .waiting } (MediatorClient.setExchange_self _ _ _) rfl hvalue
    have hok : ExchangesPermitted s (.own n .sent) := ⟨trivial, trivial⟩
    exact ⟨_, u, e', .cons hok hsent hrun, hrest⟩
  | sendFailed | sendAbandoned | elapsed | closing | returned =>
    rw [hphase] at hlive
    cases hlive

/-- The first document that was routed to an exchange can reach it. -/
theorem reaches (hs : DemuxInv s) {n : ℕ} {e : Exchange} (hn : s.exchanges n = some e)
    {d : TrustTask} (hd : e.routed.head? = some d) :
    ∃ bs u e', Run MediatorClient.step ExchangesPermitted s bs u ∧ u.exchanges n = some e' ∧
      e'.phase = .returned (.document d) := by
  have hplaced := hs.placed n e hn
  cases hplaced with
  | registered _ _ _ _ hrouted | abandoned _ _ _ hrouted =>
    rw [hrouted] at hd
    cases hd
  | taken c _ hcall hlive hopen hrouted =>
    obtain rfl := Option.some.inj (hrouted.symm.trans hd)
    have hsend := MediatorClient.step_send hcall hn (if_pos hopen)
    obtain ⟨bs, u, e', hrun, hrest⟩ := receives_of_value (d := c.document)
      (s := { s.setExchange n
          { e with channel := { e.channel with value := some c.document } } with
        held := Function.update s.held n none
        returns := s.returns ++ [⟨c.frame, c.document, some n, true⟩] })
      (MediatorClient.setExchange_self s n _) hlive rfl
    have hok : ExchangesPermitted s (.send n) := ⟨trivial, trivial⟩
    exact ⟨_, u, e', .cons hok hsend hrun, hrest⟩
  | sent d' _ _ hlive hrouted hvalue =>
    obtain rfl := Option.some.inj (hrouted.symm.trans hd)
    exact receives_of_value hn hlive hvalue
  | served d' _ _ hphase hrouted =>
    obtain rfl := Option.some.inj (hrouted.symm.trans hd)
    exact ⟨[], s, e, .nil s, hn, hphase⟩

end DemuxInv

/-- **Every document goes where it belongs**, as long as the ids of the requests are
distinct and nothing is routed to an exchange that gives up; and the first document
that is routed to an exchange can always reach it. -/
theorem exact_demux {as : List ExchangeAction} {t : MediatorClient}
    (hrun : Run MediatorClient.step ExchangesPermitted .new as t) :
    ExactDemux t ∧ ∀ n e d, t.exchanges n = some e → e.routed.head? = some d →
      ∃ bs u e', Run MediatorClient.step ExchangesPermitted t bs u ∧ u.exchanges n = some e' ∧
        e'.phase = .returned (.document d) := by
  have hinv : DemuxInv t :=
    hrun.invariant (I := DemuxInv) (fun _ _ _ hs hok hstep => hs.step hok hstep) .new
  exact ⟨hinv.exactDemux, fun n e d hn hd => hinv.reaches hn hd⟩

/-! ### Two exchanges -/

/-- A reply to a request. -/
def sampleReply : TrustTask where
  id := "reply-1"
  threadId := some "query-1"
  typeUri := ⟨"registry/authorization", "0.1", true⟩
  payload := .null

/-- The client with the exchange of this request. -/
def sampleClient : MediatorClient :=
  { MediatorClient.new.setExchange 0 { requestId := "query-1" } with
    pending := MediatorClient.new.pending.register "query-1" 0 }

theorem step_new_register : MediatorClient.step .new (.register 0 "query-1") = some sampleClient :=
  rfl

theorem distinctIds_new (n : ℕ) (requestId : String) : DistinctIds .new (.register n requestId) :=
  fun _ _ h => nomatch h

/-- What becomes of the exchange, and the calls that have returned. -/
def afterwards (as : List ExchangeAction) : Option (Option Exchange × List RouteReturn) :=
  (exec MediatorClient.step sampleClient as).map fun t => (t.exchanges 0, t.returns)

/-- No exchange gives up. -/
def NoneGivesUp (s : MediatorClient) : Prop :=
  ∀ n e, s.exchanges n = some e → e.phase.isGivingUp = false

/-- A step of an exchange that goes well, or of a call of `route`. -/
def Unhurried (_ : MediatorClient) : ExchangeAction → Prop
  | .own _ .sent | .own _ .receive | .take _ _ | .send _ => True
  | _ => False

theorem NoneGivesUp.setExchange {s : MediatorClient} (hs : NoneGivesUp s) {n : ℕ} {e : Exchange}
    (he : e.phase.isGivingUp = false) : NoneGivesUp (s.setExchange n e) := by
  intro m f hf
  by_cases hm : m = n
  · subst hm
    rw [MediatorClient.setExchange_self] at hf
    obtain rfl := Option.some.inj hf
    exact he
  · rw [MediatorClient.setExchange_of_ne s e hm] at hf
    exact hs m f hf

/-- Nobody gives up in such steps. -/
theorem NoneGivesUp.step {s s' : MediatorClient} {a : ExchangeAction} (hs : NoneGivesUp s)
    (hok : Unhurried s a) (h : s.step a = some s') : NoneGivesUp s' := by
  cases a with
  | register | stopped | abandon => cases hok
  | own n b =>
    obtain ⟨e, hn, h⟩ := Option.bind_eq_some_iff.mp h
    obtain ⟨e', hadvance, h⟩ := Option.bind_eq_some_iff.mp h
    obtain rfl := Option.some.inj h
    refine hs.setExchange ?_
    rcases Exchange.advance_cases hadvance with ⟨-, -, rfl⟩ | ⟨rfl, -, -⟩ | ⟨d, -, -, -, rfl⟩ |
      ⟨rfl, -, -⟩ | ⟨rfl, -, -⟩ | ⟨rfl, -, -⟩
    · rfl
    · cases hok
    · rfl
    · cases hok
    · cases hok
    · cases hok
  | take frame document =>
    have hnoted : ∀ n e, (s.exchanges n).map (Exchange.note document) = some e →
        e.phase.isGivingUp = false := by
      intro n e hn
      obtain ⟨e', hn', rfl⟩ := Option.map_eq_some_iff.mp hn
      unfold Exchange.note
      split <;> exact hs n e' hn'
    rcases MediatorClient.take_cases h with ⟨-, pending, -, rfl⟩ | ⟨t, n, -, -, rfl⟩
    · exact hnoted
    · exact hnoted
  | send n =>
    obtain ⟨call, -, h⟩ := Option.bind_eq_some_iff.mp h
    obtain ⟨e, hn, h⟩ := Option.bind_eq_some_iff.mp h
    obtain rfl := Option.some.inj h
    exact hs.setExchange (e := { e with channel := (e.channel.send call.document).2 }) (hs n e hn)

/-- Such steps are permitted where nobody gives up. -/
theorem run_of_unhurried {s t : MediatorClient} {as : List ExchangeAction} (hs : NoneGivesUp s)
    (has : ∀ a ∈ as, ∀ s, Unhurried s a) (h : exec MediatorClient.step s as = some t) :
    Run MediatorClient.step ExchangesPermitted s as t := by
  refine (run_of_exec has h).mono_of_invariant (fun _ _ _ => NoneGivesUp.step) ?_ hs
  intro s a hs ha
  cases a with
  | register | stopped | abandon => cases ha
  | own n b =>
    cases b with
    | sent | receive => exact ⟨trivial, trivial⟩
    | sendFailed | elapse | dropReceiver => cases ha
  | take frame document => exact ⟨trivial, fun n e hn _ => hs n e hn⟩
  | send n => exact ⟨trivial, trivial⟩

/-- The client with a second exchange. -/
def pairedClient : MediatorClient :=
  { sampleClient.setExchange 1 { requestId := "query-2" } with
    pending := sampleClient.pending.register "query-2" 1 }

/-- The exchanges of both clients are being sent. -/
theorem exchanges_pairedClient {n : ℕ} {e : Exchange} (h : pairedClient.exchanges n = some e) :
    (n = 0 ∧ e = { requestId := "query-1" }) ∨ (n = 1 ∧ e = { requestId := "query-2" }) := by
  by_cases hone : n = 1
  · subst hone
    exact .inr ⟨rfl, (Option.some.inj h).symm⟩
  · have hfirst := (MediatorClient.setExchange_of_ne sampleClient _ hone).symm.trans h
    by_cases hzero : n = 0
    · subst hzero
      exact .inl ⟨rfl, (Option.some.inj hfirst).symm⟩
    · have hnone := (MediatorClient.setExchange_of_ne .new _ hzero).symm.trans hfirst
      cases hnone

/-- The reply to the other request. -/
def secondReply : TrustTask := { sampleReply with id := "reply-2", threadId := some "query-2" }

/-- A document on a thread of nobody's. -/
def strayReply : TrustTask := { sampleReply with id := "reply-3", threadId := some "query-3" }

/-- The first reply comes in while its request is being sent, then a document of nobody's
and the first reply once more, and at last the second reply. -/
def mixedReplies : List ExchangeAction :=
  [.take "frame-1" sampleReply, .send 0, .own 0 .sent, .take "frame-2" strayReply,
    .own 0 .receive, .take "frame-3" sampleReply, .own 1 .sent, .take "frame-4" secondReply,
    .send 1, .own 1 .receive]

/-- Two exchanges receive their replies, once each; what is nobody's, or comes twice, is not
acknowledged. -/
theorem early_reply_received :
    ∃ as t, Run MediatorClient.step ExchangesPermitted .new as t ∧
      (t.exchanges 0).map Exchange.received = some [sampleReply] ∧
      (t.exchanges 1).map Exchange.received = some [secondReply] ∧
      t.returns.map RouteReturn.frame = ["frame-1", "frame-2", "frame-3", "frame-4"] ∧
      t.acked = ["frame-1", "frame-4"] ∧ ExactDemux t := by
  have hafter : (exec MediatorClient.step pairedClient mixedReplies).map
      (fun t => ((t.exchanges 0).map Exchange.received, (t.exchanges 1).map Exchange.received,
        t.returns.map RouteReturn.frame, t.acked))
      = some (some [sampleReply], some [secondReply],
          ["frame-1", "frame-2", "frame-3", "frame-4"], ["frame-1", "frame-4"]) := by
    decide +kernel
  obtain ⟨t, hexec, ht⟩ := Option.map_eq_some_iff.mp hafter
  simp only [Prod.mk.injEq] at ht
  obtain ⟨hfirst, hsecond, hframes, hacked⟩ := ht
  have hunhurried : ∀ a ∈ mixedReplies, ∀ s, Unhurried s a := by
    intro a ha s
    simp only [mixedReplies, List.mem_cons, List.not_mem_nil, or_false] at ha
    rcases ha with rfl | rfl | rfl | rfl | rfl | rfl | rfl | rfl | rfl | rfl <;> trivial
  have hnone : NoneGivesUp pairedClient := by
    intro n e hn
    rcases exchanges_pairedClient hn with ⟨-, rfl⟩ | ⟨-, rfl⟩ <;> rfl
  have hdistinct : DistinctIds sampleClient (.register 1 "query-2") := by
    intro n e hn
    by_cases hzero : n = 0
    · subst hzero
      obtain rfl := Option.some.inj hn
      decide
    · have hnew := (MediatorClient.setExchange_of_ne .new _ hzero).symm.trans hn
      cases hnew
  have hregister : ExchangesPermitted .new (.register 0 "query-1") :=
    ⟨distinctIds_new 0 "query-1", trivial⟩
  have hrun := Run.cons hregister step_new_register
    (.cons ⟨hdistinct, trivial⟩ rfl (run_of_unhurried hnone hunhurried hexec))
  exact ⟨_, t, hrun, hfirst, hsecond, hframes, hacked, (exact_demux hrun).1⟩

/-- The steps of an exchange whose reply comes in before its sending fails. -/
def failedSend : List ExchangeAction :=
  [.take "frame-1" sampleReply, .send 0, .own 0 .sendFailed, .abandon 0, .own 0 .dropReceiver]

/-- The steps of one whose reply comes in after the receiver was polled for the last
time. -/
def lateReply : List ExchangeAction :=
  [.own 0 .sent, .own 0 .elapse, .take "frame-1" sampleReply, .send 0, .own 0 .dropReceiver,
    .abandon 0]

/-- The run that registers one exchange and goes on with these steps ends with the
document routed to the exchange and acknowledged, but not received. -/
def LosesReply (as : List ExchangeAction) : Prop :=
  ∃ t e, Run MediatorClient.step DistinctIds .new (.register 0 "query-1" :: as) t ∧
    t.exchanges 0 = some e ∧ e.routed = [sampleReply] ∧ e.received = [] ∧
    t.acked = ["frame-1"] ∧ ¬ ExactDemux t

theorem losesReply_of_afterwards {as : List ExchangeAction} {outcome : Outcome}
    (hafter : afterwards as = some (some ⟨"query-1", .returned outcome, .closed,
      [sampleReply], []⟩, [⟨"frame-1", sampleReply, some 0, true⟩]))
    (hpermitted : ∀ a ∈ as, ∀ s, DistinctIds s a) : LosesReply as := by
  obtain ⟨t, hexec, ht⟩ := Option.map_eq_some_iff.mp hafter
  obtain ⟨hexchange, hreturns⟩ := Prod.mk.inj ht
  have hrun := Run.cons (distinctIds_new 0 "query-1") step_new_register
    (run_of_exec hpermitted hexec)
  refine ⟨t, _, hrun, hexchange, rfl, rfl, ?_, ?_⟩
  · rw [MediatorClient.acked, hreturns]
    rfl
  · intro hexact
    have hreturned := (hexact.returned 0 _ sampleReply outcome hexchange rfl rfl).2
    cases hreturned

/-- **What is routed to an exchange that gives up is acknowledged, and lost.** -/
theorem given_up_reply_acknowledged : LosesReply failedSend ∧ LosesReply lateReply := by
  have hpermitted : ∀ as ∈ [failedSend, lateReply], ∀ a ∈ as, ∀ s, DistinctIds s a := by
    intro as has a ha s
    simp only [List.mem_cons, List.not_mem_nil, or_false] at has
    obtain rfl | rfl := has
    all_goals
      simp only [failedSend, lateReply, List.mem_cons, List.not_mem_nil, or_false] at ha
      rcases ha with rfl | rfl | rfl | rfl | rfl | rfl <;> trivial
  have hfailed : ∃ outcome, afterwards failedSend = some (some ⟨"query-1", .returned outcome,
      .closed, [sampleReply], []⟩, [⟨"frame-1", sampleReply, some 0, true⟩]) :=
    ⟨.sendError, by decide +kernel⟩
  have hlate : ∃ outcome, afterwards lateReply = some (some ⟨"query-1", .returned outcome,
      .closed, [sampleReply], []⟩, [⟨"frame-1", sampleReply, some 0, true⟩]) :=
    ⟨.timeout, by decide +kernel⟩
  constructor
  · obtain ⟨outcome, hafter⟩ := hfailed
    exact losesReply_of_afterwards hafter (hpermitted _ List.mem_cons_self)
  · obtain ⟨outcome, hafter⟩ := hlate
    exact losesReply_of_afterwards hafter
      (hpermitted _ (List.mem_cons_of_mem _ List.mem_cons_self))

end TrustRegistry
