import BrokerClient.Codec.Json
import BrokerClient.Codec.Plain
import BrokerClient.Proofs.Codec.Envelopes
import BrokerClient.Proofs.Codec.Selection
import BrokerClient.Proofs.Message.Pinning
import BrokerClient.Proofs.Trace.Carrying
import BrokerClient.Publisher

/-!
# A reply finds its request

The reply-to and the correlation id of a request pass through a builder, a writer, the trace context, the wire form and
`classify` before a reply is made, and the reply goes the same way back. Every hop keeps the `call` of a message, which
is what a reply depends on: `pattern_run` and `valid_build` for the builder, `encode_keeps` for the codecs that come
with the library, `call_inject` for the trace context. `correlated` puts them together.
-/

namespace BrokerClient

open ByteStream

/-! ## What a reply depends on -/

/-- The correlation id, the reply-to and the encodings that the requester accepts. -/
def Properties.call (p : Properties) : Option String × Option String × Option String :=
  (p.correlationId, p.replyTo, p.acceptEncoding)

namespace TraceContext

theorem call_inject {context : TraceContext} (h : context.Spares acceptEncodingHeader) (p : Properties) :
    (inject context p).call = p.call := by
  simp [Properties.call, Properties.acceptEncoding, Properties.headerText?, inject, get?_injectHeaders h]

end TraceContext

/-! ## Writers that come with the library -/

inductive Writer.BuiltIn : {α : Type} → Writer α → Prop where
  | text : BuiltIn TextCodec.writer
  | bytes : BuiltIn BytesCodec.writer
  | json {α : Type} [JsonPayload α] (kind : Option String) (priority : Int) :
    BuiltIn (JsonCodec.writer kind priority : Writer α)

/-- All writers of a negotiator come with the library. -/
def Negotiator.BuiltIn {α : Type} (n : Negotiator α) : Prop := ∀ w ∈ n.writers, w.BuiltIn

/-- What a program that writes some bytes makes of the answer. -/
theorem ByteStream.Writing.run_answer {β σ : Type} [ByteSink σ] (form : Bytes) (f : Except IoError Unit → β) (s : σ) :
    ((do return f (← writeAll form) : Writing β).run s).1 = f ((writeAll form).run s).1 :=
  congrArg Prod.fst (run_bind (writeAll form) (fun answer => .done (f answer)) s)

theorem Writer.BuiltIn.call_eq {α σ : Type} [ByteSink σ] {w : Writer α} (h : w.BuiltIn) {a : α} {p q : Properties}
    {s : σ} (hrun : ((w.write a p).run s).1 = .ok q) : q.call = p.call := by
  cases h with
  | text | bytes | json =>
    have hanswer := (Writing.run_answer _ _ s).symm.trans hrun
    split at hanswer
    · cases hanswer; rfl
    · cases hanswer

namespace Negotiator

variable {α : Type} {n : Negotiator α} {m : Outgoing α} {out : Outgoing Bytes}

theorem mem_of_writerFor {w : Writer α} (h : n.writerFor m = .ok w) : w ∈ n.writers := by
  obtain ⟨before, behind, heq, -⟩ := writerFor_eq_ok.1 h
  simp [heq]

/-- Encoding keeps the address, and what a reply depends on. -/
theorem encode_keeps (hn : n.BuiltIn) (h : n.encode m = .ok out) : out.pattern = m.pattern ∧
    out.envelope.exchange = m.envelope.exchange ∧ out.envelope.routingKey = m.envelope.routingKey ∧
    out.properties.call = m.properties.call := by
  obtain ⟨w, encoding, p, s, s', henc⟩ := encode_ok h
  obtain ⟨hpattern, hexchange, hkey⟩ := henc.envelope_eq
  have hlabel : (label encoding p).call = p.call := by
    unfold label
    split <;> rfl
  have hwriter : p.call = m.properties.call :=
    (hn w (mem_of_writerFor henc.writer_eq)).call_eq (congrArg Prod.fst henc.run_eq)
  exact ⟨hpattern, hexchange, hkey, by rw [henc.properties_eq, hlabel, hwriter]⟩

end Negotiator

/-! ## Builders -/

namespace Builder

variable {α β : Type} {b b' : Builder α}

theorem pattern_build {fresh : String} {m : Outgoing α} (h : b.build fresh = .ok m) : m.pattern = b.pattern := by
  unfold build at h
  split at h
  · cases h
  · split at h
    · rename_i hpattern
      cases h
      exact hpattern.symm
    · rename_i hpattern
      cases h
      exact hpattern.symm
    · rename_i origin hpattern
      unfold Outgoing.ofResponse at h
      split at h
      · split at h
        · cases h
          exact hpattern.symm
        · cases h
      · cases h
        exact hpattern.symm

theorem pattern_apply {part : Step α} (h : b.apply part = .ok b') : b'.pattern = b.pattern := by
  cases part with
  | exchange _ | routingKey _ =>
    simp only [apply] at h
    split at h <;> cases h
    rfl
  | correlationId id =>
    simp only [apply] at h
    split at h
    · split at h <;> cases h
      rfl
    · cases h
      rfl
  | properties _ | contentType _ | contentEncoding _ | header _ _ | acceptEncoding _ | deliveryMode _ | kind _
  | replyTo _ | content _ => cases h; rfl

theorem pattern_rebuild {fresh : String} (h : b.rebuild fresh = .ok b') : b'.pattern = b.pattern := by
  unfold rebuild at h
  cases hbuild : b.build fresh with
  | error e => rw [hbuild] at h; cases h
  | ok m =>
    rw [hbuild] at h
    cases h
    rw [← pattern_build hbuild]
    cases m <;> rfl

theorem pattern_run_move (b : Builder α) (move : Move α β) : (move.run b).pattern = b.pattern := by
  cases move with
  | set part =>
    cases happly : b.apply part with
    | ok b' => simpa [Move.run, happly] using pattern_apply happly
    | error e => simp [Move.run, happly]
  | content value => rfl
  | rebuild fresh =>
    cases hrebuild : b.rebuild fresh with
    | ok b' => simpa [Move.run, hrebuild] using pattern_rebuild hrebuild
    | error e => simp [Move.run, hrebuild]

/-- Whatever is done to a builder, it builds messages of one pattern. -/
theorem pattern_run (b : Builder α) (p : Program α β) : (p.run b).pattern = b.pattern := by
  induction p with
  | done => rfl
  | andThen first rest ih => exact (ih _).trans (pattern_run_move b first)

end Builder

/-! ## On the wire -/

/-- A delivery of what was published, from whichever queue and by whichever way. -/
structure Delivery.Carries (d : Delivery) (p : Publication) : Prop where
  properties_eq : d.properties = p.properties
  data_eq : d.data = p.payload

namespace Incoming

variable {d : Delivery} {p : Properties} {id : String}

theorem classify_request (hp : Properties.ofWire d.properties = .ok p) (hid : p.correlationId = some id)
    {replyTo : String} (hreply : p.replyTo = some replyTo) {queue : String} (hqueue : queue ≠ directReplyTo)
    (fresh : String) : classify fresh d queue = .ok (.request ⟨d.exchange, d.routingKey, p, d.data⟩
      ⟨queue, d.tag, d.redelivered⟩ ⟨d.exchange, d.routingKey, replyTo, id, p.acceptEncoding⟩) := by
  obtain ⟨_, _, _, _, _, _, _⟩ := p
  cases hid
  cases hreply
  simp [classify, hp, hqueue, ofRequest, bind, Except.bind, pure, Except.pure]

theorem classify_response (hp : Properties.ofWire d.properties = .ok p) (hid : p.correlationId = some id)
    (fresh : String) : classify fresh d directReplyTo =
      .ok (.response ⟨d.exchange, d.routingKey, p, d.data⟩ ⟨directReplyTo, d.tag, d.redelivered⟩) := by
  simp [classify, hp, hid, bind, Except.bind, pure, Except.pure]

end Incoming

namespace Builder

variable {α β : Type}

/-- A message that a builder built, and what was published of it: its content was written by writers that come with
the library, and the context went into its headers. -/
structure Sent (b : Builder α) (context : TraceContext) (m : Outgoing α) (p : Publication) : Prop where
  built : ∃ fresh, b.build fresh = .ok m
  published : ∃ (n : Negotiator α) (out : Outgoing Bytes) (messageId : String),
    n.BuiltIn ∧ n.encode m = .ok out ∧ p = .prepare context messageId out

/-- What is published goes where the message goes, under its ids, and reads back with the headers of the context. -/
theorem Sent.keeps {b : Builder α} {context : TraceContext} {m : Outgoing α} {p : Publication}
    (h : b.Sent context m p) : m.Valid ∧ m.pattern = b.pattern ∧ p.exchange = m.envelope.exchange ∧
      p.routingKey = m.envelope.routingKey ∧
      ∃ q, q.call = m.properties.call ∧ Properties.ofWire p.properties = .ok (context.inject q) := by
  obtain ⟨⟨fresh, hbuild⟩, n, out, messageId, hn, hencode, rfl⟩ := h
  obtain ⟨-, hexchange, hkey, hcall⟩ := n.encode_keeps hn hencode
  exact ⟨valid_build hbuild, pattern_build hbuild, hexchange, hkey, out.properties, hcall,
    Properties.ofWire_toWire (context.inject out.properties)⟩

/-- **A reply finds its request.** A request made by any program, written and published with a context that spares the
header for encodings, is taken for a request from any queue but the one for direct replies, with its reply-to, its
correlation id and the encodings that it accepts. Whatever program then makes a reply of it, with whatever content in
its place, what is published goes through the default exchange to the reply-to of the request; and from the queue for
direct replies it is taken for a response under the correlation id of the request. -/
theorem correlated (exchange routingKey : String) (program : Program α β) (context : TraceContext) (m : Outgoing β)
    (p : Publication) (hsent : (program.run (request exchange routingKey)).Sent context m p)
    (hcontext : context.Spares acceptEncodingHeader) (d : Delivery) (hd : d.Carries p) (queue fresh : String)
    (hqueue : queue ≠ directReplyTo) :
    ∃ e receipt origin, Incoming.classify fresh d queue = .ok (.request e receipt origin) ∧
      m.properties.replyTo = some origin.replyTo ∧ m.properties.correlationId = some origin.correlationId ∧
      m.properties.acceptEncoding = origin.acceptEncoding ∧ e.properties.call = m.properties.call ∧
      ∀ {γ δ ε : Type} (content : γ) (start : Builder δ) (answering : Program δ ε) (context' : TraceContext)
        (m' : Outgoing ε) (p' : Publication),
        reply? ((Incoming.request e receipt origin).withContent content) = some start →
        (answering.run start).Sent context' m' p' →
        p'.exchange = defaultExchange ∧ p'.routingKey = origin.replyTo ∧
        ∀ (d' : Delivery) (fresh' : String), d'.Carries p' →
          ∃ e' receipt', Incoming.classify fresh' d' directReplyTo = .ok (.response e' receipt') ∧
            e'.properties.correlationId = m.properties.correlationId := by
  obtain ⟨hvalid, hpattern, -, -, q, hcall, hwire⟩ := hsent.keeps
  rw [pattern_run] at hpattern
  rw [← hd.properties_eq] at hwire
  have hcall := (TraceContext.call_inject hcontext q).trans hcall
  obtain ⟨hid, hids⟩ := Prod.mk.inj hcall
  obtain ⟨hreply, hencodings⟩ := Prod.mk.inj hids
  cases m with
  | cast _ | response _ _ => cases hpattern
  | request e =>
    obtain ⟨⟨replyTo, hreplyTo⟩, id, hcorrelation⟩ :=
      hvalid.imp Option.isSome_iff_exists.mp Option.isSome_iff_exists.mp
    refine ⟨_, _, _, Incoming.classify_request hwire (hid.trans hcorrelation) (hreply.trans hreplyTo) hqueue fresh,
      hreplyTo, hcorrelation, hencodings.symm, hcall, ?_⟩
    intro γ δ ε content start answering context' m' p' hstart hsent'
    cases hstart
    obtain ⟨hvalid', hpattern', hexchange', hkey', q', hcall', hwire'⟩ := hsent'.keeps
    rw [pattern_run] at hpattern'
    cases m' with
    | cast _ | request _ => cases hpattern'
    | response e' origin =>
      cases hpattern'
      obtain ⟨hdefault, hdestination, hcorrelation'⟩ := hvalid'
      refine ⟨hexchange'.trans hdefault, hkey'.trans hdestination, fun d' fresh' hd' => ?_⟩
      rw [← hd'.properties_eq] at hwire'
      have hid' : (context'.inject q').correlationId = some id := (congrArg (·.1) hcall').trans hcorrelation'
      exact ⟨_, _, Incoming.classify_response hwire' hid' fresh', hid'.trans hcorrelation.symm⟩

/-- Texts as they are. -/
def plainTexts : Negotiator String where
  payload := "String"
  writers := [TextCodec.writer]
  maxSize := 64
  compression := false

theorem builtIn_plainTexts : plainTexts.BuiltIn := List.forall_mem_cons.mpr ⟨.text, nofun⟩

/-- A quote is asked for and given, both with a trace context. -/
theorem correlated_quote :
    ∃ (m : Outgoing String) (p : Publication) (e : Envelope Bytes) (receipt : Receipt) (origin : Origin),
      Sent (Program.run (.andThen (.set (.acceptEncoding "gzip")) (.andThen (.content "quote") .done))
        (request "rpc" "quote" : Builder Unit)) [("traceparent", "00-ab")] m p ∧
      Incoming.classify "other" ⟨1, "rpc", "quote", false, p.properties, p.payload⟩ "quotes" =
        .ok (.request e receipt origin) ∧
      origin.replyTo = directReplyTo ∧ origin.correlationId = "c-9" ∧ origin.acceptEncoding = some "gzip" ∧
      ∃ (m' : Outgoing String) (p' : Publication) (e' : Envelope Bytes) (receipt' : Receipt),
        Sent (Program.run (.andThen (.content "12.50") .done) (response origin : Builder Unit))
          [("traceparent", "00-cd")] m' p' ∧
        p'.exchange = defaultExchange ∧ p'.routingKey = directReplyTo ∧
        Incoming.classify "other" ⟨1, "", directReplyTo, false, p'.properties, p'.payload⟩ directReplyTo =
          .ok (.response e' receipt') ∧
        e'.properties.correlationId = some "c-9" := by
  have hsent : Sent (Program.run (.andThen (.set (.acceptEncoding "gzip")) (.andThen (.content "quote") .done))
      (request "rpc" "quote" : Builder Unit)) [("traceparent", "00-ab")] _ _ :=
    ⟨⟨"c-9", rfl⟩, plainTexts, _, "m-1", builtIn_plainTexts, rfl, rfl⟩
  have hcontext : TraceContext.Spares [("traceparent", "00-ab")] acceptEncodingHeader :=
    List.forall_mem_cons.mpr ⟨by decide +kernel, nofun⟩
  obtain ⟨e, receipt, origin, hclassify, hreply, hid, hencoding, -, hanswer⟩ := correlated _ _ _ _ _ _ hsent hcontext
    ⟨1, "rpc", "quote", false, _, _⟩ ⟨rfl, rfl⟩ "quotes" "other" (by decide)
  have hreplyTo : directReplyTo = origin.replyTo := Option.some.inj hreply
  have hcorrelation : "c-9" = origin.correlationId := Option.some.inj hid
  have hencode : plainTexts.encode (.response ⟨defaultExchange, origin.replyTo,
      { correlationId := some origin.correlationId }, "12.50"⟩ origin) =
        .ok (.response ⟨defaultExchange, origin.replyTo,
          { contentType := some TextCodec.contentType, correlationId := some origin.correlationId },
          [0x31, 0x32, 0x2E, 0x35, 0x30]⟩ origin) := by cbv
  have hsent' : Sent (Program.run (.andThen (.content "12.50") .done) (response origin : Builder Unit))
      [("traceparent", "00-cd")] _ _ :=
    ⟨⟨"", (pinned_response.withContent "12.50").build_ok rfl (by rintro id ⟨⟩; rfl) ""⟩, plainTexts, _, "m-2",
      builtIn_plainTexts, hencode, rfl⟩
  obtain ⟨hexchange, hkey, hresponse⟩ := hanswer "quote" _ _ _ _ _ rfl hsent'
  obtain ⟨e', receipt', hclassify', hid'⟩ := hresponse ⟨1, "", directReplyTo, false, _, _⟩ "other" ⟨rfl, rfl⟩
  exact ⟨_, _, e, receipt, origin, hsent, hclassify, hreplyTo.symm, hcorrelation.symm, hencoding.symm, _, _, e',
    receipt', hsent', hexchange, hkey.trans hreplyTo.symm, hclassify', hid'⟩

end Builder
end BrokerClient
