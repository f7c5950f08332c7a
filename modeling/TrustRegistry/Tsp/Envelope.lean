import TrustRegistry.Server.Bindings
import TrustRegistry.Tsp.RetryTransient

/-!
# The TSP binding

A document travels over TSP in an envelope, an object that names its type and holds
the document.  The registry unpacks a frame, takes the document out of the envelope,
and sends the answer back to the sender in one of its own; what does not unpack, or is
no envelope, is dropped.

## Main definitions

* `TspWire` — what is relied on: the type of envelopes, and how values become bytes.
* `buildEnvelope`, `parseEnvelope` — envelopes.
* `processTspFrame` — a frame at the registry.

## Main results

* `parseEnvelope_eq_ok_iff` — the bytes that a document is read from.
* `parseEnvelope_buildEnvelope` — an envelope is read as its document is.
* `processTspFrame_eq` — what comes of a frame.
-/

namespace TrustRegistry

/-- What is relied on: the type of envelopes, how values are written as bytes, of some
type, and read from them, and how a type that is not that of envelopes is shown. -/
structure TspWire (β : Type) where
  envelopeType : String
  toVec : Json → β
  fromSlice : β → Except String Json
  debug : Option String → String

section

variable {β : Type} (F : Framework) (W : TspWire β)

/-- The envelope of a document. -/
def buildEnvelope (document : Json) : β :=
  W.toVec (.obj [("type", .str W.envelopeType), ("document", document)])

/-- What is written of a document is read back. -/
def TspWire.LosslessAt (document : Json) : Prop :=
  W.fromSlice (buildEnvelope W document)
    = .ok (.obj [("type", .str W.envelopeType), ("document", document)])

/-- The document in an envelope. -/
def parseEnvelope (payload : β) : Except String TrustTask :=
  match W.fromSlice payload with
  | .error e => .error s!"invalid TSP envelope JSON: {e}"
  | .ok envelope =>
    if (envelope.get "type").bind Json.asStr = some W.envelopeType then
      match envelope.get "document" with
      | none => .error "TSP envelope missing \x60document\x60"
      | some document =>
        match F.parse document with
        | .error e => .error s!"invalid Trust Task document: {e}"
        | .ok doc => .ok doc
    else
      let shown := W.debug ((envelope.get "type").bind Json.asStr)
      .error s!"unexpected TSP envelope type: {shown}"

/-- The document that is sent back, if any is. -/
def replyJson : Handled → Option Json
  | .replied (.ok response) => some (F.documentJson response)
  | .replied (.error e) => some (F.errorJson e)
  | .dropped | .panicked => none

variable {σ : Type*} (env : Env σ)

/-- A frame, by the results of the attempts to unpack it: the DID that is answered, with
the envelope, and what is left of the server. -/
def processTspFrame (unpack : ℕ → Except AtmError (β × String)) (s : Server σ) :
    Option (String × β) × Server σ :=
  match (unpackFrame unpack).ending with
  | .panicked => (none, s)
  | .returned (.error _) => (none, s)
  | .returned (.ok (payload, senderDid)) =>
    match parseEnvelope F W payload with
    | .error _ => (none, s)
    | .ok doc =>
      let (handled, s) := handleInbound F env senderDid doc s
      ((replyJson F handled).map fun reply => (senderDid, buildEnvelope W reply), s)

end

variable {β : Type} {F : Framework} {W : TspWire β}

/-! ### Envelopes -/

/-- **A document is read from the envelopes that hold it**, and from nothing else. -/
theorem parseEnvelope_eq_ok_iff {payload : β} {doc : TrustTask} :
    parseEnvelope F W payload = .ok doc ↔
      ∃ envelope document, W.fromSlice payload = .ok envelope ∧
        envelope.get "type" = some (.str W.envelopeType) ∧
        envelope.get "document" = some document ∧ F.parse document = .ok doc := by
  unfold parseEnvelope
  constructor
  · intro h
    cases hslice : W.fromSlice payload with
    | error e =>
      rw [hslice] at h
      cases h
    | ok envelope =>
      rw [hslice] at h
      dsimp only at h
      split at h
      · next htype =>
        obtain ⟨type, hget, hstr⟩ := Option.bind_eq_some_iff.mp htype
        have htype : type = .str W.envelopeType := by
          cases type <;> cases hstr
          rfl
        cases hdocument : envelope.get "document" with
        | none =>
          rw [hdocument] at h
          cases h
        | some document =>
          rw [hdocument] at h
          dsimp only at h
          cases hparse : F.parse document with
          | error e =>
            rw [hparse] at h
            cases h
          | ok doc' =>
            rw [hparse] at h
            obtain rfl := Except.ok.inj h
            exact ⟨envelope, document, rfl, by rw [hget, htype], hdocument, hparse⟩
      · cases h
  · rintro ⟨envelope, document, hslice, htype, hdocument, hparse⟩
    simp [hslice, htype, hdocument, hparse, Json.asStr]

/-- **An envelope is read as its document is.** -/
theorem parseEnvelope_buildEnvelope {document : Json} (hW : W.LosslessAt document)
    {doc : TrustTask} :
    parseEnvelope F W (buildEnvelope W document) = .ok doc ↔ F.parse document = .ok doc := by
  rw [parseEnvelope_eq_ok_iff, hW]
  constructor
  · rintro ⟨envelope, document', henvelope, -, hdocument, hparse⟩
    obtain rfl := Except.ok.inj henvelope
    obtain rfl := Option.some.inj hdocument
    exact hparse
  · intro hparse
    exact ⟨_, document, rfl, rfl, rfl, hparse⟩

/-! ### Frames -/

variable (F W) in
/-- **What comes of a frame** that unpacks to a document: the sender is answered, by what
the binding does with the document.  Of all others nothing does. -/
theorem processTspFrame_eq {σ : Type*} (env : Env σ)
    (unpack : ℕ → Except AtmError (β × String)) (s : Server σ) :
    (∃ payload sender doc, (unpackFrame unpack).ending = .returned (.ok (payload, sender)) ∧
        parseEnvelope F W payload = .ok doc ∧
        processTspFrame F W env unpack s =
          ((replyJson F (handleInbound F env sender doc s).1).map fun reply =>
            (sender, buildEnvelope W reply), (handleInbound F env sender doc s).2)) ∨
      processTspFrame F W env unpack s = (none, s) := by
  unfold processTspFrame
  cases hend : (unpackFrame unpack).ending with
  | panicked => exact .inr rfl
  | returned result =>
    cases result with
    | error e => exact .inr rfl
    | ok unpacked =>
      obtain ⟨payload, sender⟩ := unpacked
      cases hparse : parseEnvelope F W payload with
      | error e => exact .inr (by simp only [hparse])
      | ok doc => exact .inl ⟨payload, sender, doc, rfl, hparse, by simp only [hparse]⟩

end TrustRegistry
