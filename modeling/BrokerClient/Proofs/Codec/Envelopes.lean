import BrokerClient.Proofs.Codec.Truncation
import BrokerClient.Proofs.Message.Envelopes

/-!
# What encoding does to the envelope

Encoding puts another content and the writer's property bag into the envelope of a message. So the pattern, the
destination and the request that is answered stay, whatever the writer does; the ids that tie a reply to its request
are in the bag, and stay exactly when the writer leaves them alone (`envelope_of_encode`). A writer that does not makes
a response to another request of a valid one (`forged_reply`).
-/

namespace BrokerClient.Negotiator

open ByteStream

variable {α β : Type} {n : Negotiator α} {m : Outgoing α} {out : Outgoing Bytes}

/-- The selected writer leaves a part of the properties as it finds it. -/
def Leaves (n : Negotiator α) (m : Outgoing α) (part : Properties → β) : Prop :=
  ∀ program sink p, n.writing? m = some (program, sink) → (program.run sink).1 = .ok p → part p = part m.properties

/-- Only the label is put over what the writer left. -/
theorem ids_label (encoding : ContentEncoding) (p : Properties) :
    (label encoding p).correlationId = p.correlationId ∧ (label encoding p).replyTo = p.replyTo := by
  unfold label
  split <;> exact ⟨rfl, rfl⟩

namespace Encoded

variable {w : Writer α} {encoding : ContentEncoding} {p : Properties} {s : ContentSink n.packing} {s' : BoundedSink}

theorem leaves_iff (h : n.Encoded m out w encoding p s s') (part : Properties → β) :
    n.Leaves m part ↔ part p = part m.properties := by
  constructor
  · intro hkeep
    exact hkeep _ _ p h.writing_eq (congrArg Prod.fst h.run_eq)
  · intro hkept program sink q hq hok
    rw [h.writing_eq] at hq
    obtain ⟨rfl, rfl⟩ := Prod.mk.inj (Option.some.inj hq)
    rw [h.run_eq] at hok
    rwa [← Except.ok.inj hok]

/-- A part that the label does not touch is kept exactly when the writer leaves it alone. -/
theorem kept_iff (h : n.Encoded m out w encoding p s s') (part : Properties → β)
    (hpart : part (label encoding p) = part p) : part out.properties = part m.properties ↔ n.Leaves m part := by
  rw [h.leaves_iff, h.properties_eq, hpart]

/-- The envelope around the content and the properties is the message's own. -/
theorem envelope_eq (h : n.Encoded m out w encoding p s s') : out.pattern = m.pattern ∧
    out.envelope.exchange = m.envelope.exchange ∧ out.envelope.routingKey = m.envelope.routingKey := by
  have hpattern : out.pattern = m.pattern := by
    rw [h.out_eq, Outgoing.withProperties, Outgoing.withContent, Outgoing.pattern_withEnvelope,
      Outgoing.pattern_withEnvelope]
  have henvelope : out.envelope = { m.envelope.withContent s'.content with properties := label encoding p } := by
    rw [h.out_eq, Outgoing.withProperties, Outgoing.withContent, Outgoing.envelope_withEnvelope,
      Outgoing.envelope_withEnvelope]
  rw [henvelope]
  exact ⟨hpattern, rfl, rfl⟩

end Encoded

/-- **What encoding does to the envelope.** Whatever the writer does to the properties, the message keeps its pattern,
its destination and the request that it answers. Its correlation id and its reply-to are kept exactly when the writer
leaves them alone: then a response to a request still has that request's correlation id, and what came out valid is
valid. -/
theorem envelope_of_encode (h : n.encode m = .ok out) :
    (out.pattern = m.pattern ∧ out.envelope.exchange = m.envelope.exchange ∧
      out.envelope.routingKey = m.envelope.routingKey ∧ out.origin? = m.origin?) ∧
    (out.properties.correlationId = m.properties.correlationId ↔ n.Leaves m (·.correlationId)) ∧
    (out.properties.replyTo = m.properties.replyTo ↔ n.Leaves m (·.replyTo)) ∧
    (m.Valid → n.Leaves m (·.correlationId) →
      (∀ origin, out.origin? = some origin → out.properties.correlationId = some origin.correlationId) ∧
      (n.Leaves m (·.replyTo) → out.Valid)) := by
  obtain ⟨w, encoding, p, s, s', henc⟩ := encode_ok h
  obtain ⟨hpattern, hexchange, hkey⟩ := henc.envelope_eq
  obtain ⟨hlabelId, hlabelReply⟩ := ids_label encoding p
  have hid := henc.kept_iff (·.correlationId) hlabelId
  have hreply := henc.kept_iff (·.replyTo) hlabelReply
  have horigin := Outgoing.origin?_eq_of_pattern hpattern
  refine ⟨⟨hpattern, hexchange, hkey, horigin⟩, hid, hreply, ?_⟩
  intro hvalid hleaves
  constructor
  · intro origin ho
    rw [horigin] at ho
    rw [hid.2 hleaves]
    cases m with
    | response e origin' =>
      cases ho
      exact hvalid.2.2
    | cast _ | request _ => cases ho
  · intro hleavesReply
    exact hvalid.congr hpattern hexchange hkey (hreply.2 hleavesReply) (hid.2 hleaves)

/-! ## A writer that forges ids -/

/-- A reply to a request that came under the correlation id c-1. -/
def reply : Outgoing String :=
  .response ⟨defaultExchange, "replies", { correlationId := some "c-1" }, "hi"⟩ ⟨"ex", "rk", "replies", "c-1", none⟩

/-- Writes two bytes, and changes the properties as it pleases. -/
def changing (change : Properties → Properties) : Negotiator String where
  payload := "String"
  writers := [({ pieces := [[0x68, 0x69]], change } : Scripted.WriterScript).toWriter]
  maxSize := 100

/-- A writer that sets the kind leaves the ids alone. -/
theorem envelope_of_encode_reply : ∃ out,
    (changing fun p => { p with kind := some "greeting" }).encode reply = .ok out ∧
      out.properties.kind = some "greeting" ∧ out.properties.correlationId = some "c-1" ∧ out.Valid := by
  have hvalid : reply.Valid := ⟨rfl, rfl, rfl⟩
  obtain ⟨-, hid, hreply, hkeep⟩ :=
    envelope_of_encode (n := changing fun p => { p with kind := some "greeting" }) (m := reply) rfl
  exact ⟨_, rfl, rfl, (hkeep hvalid (hid.1 rfl)).1 _ rfl, (hkeep hvalid (hid.1 rfl)).2 (hreply.1 rfl)⟩

/-- A writer that sets another correlation id turns a valid reply into one to nobody's request. -/
theorem forged_reply : reply.Valid ∧ ∃ out,
    (changing fun p => { p with correlationId := some "c-2" }).encode reply = .ok out ∧
      out.origin?.map (·.correlationId) = some "c-1" ∧ out.properties.correlationId = some "c-2" :=
  ⟨⟨rfl, rfl, rfl⟩, _, rfl, rfl, rfl⟩

end BrokerClient.Negotiator
