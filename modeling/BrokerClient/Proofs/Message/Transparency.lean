import BrokerClient.Proofs.Message.Correlation
import Mathlib.Data.List.Induction

/-!
# What is delivered of what was published

On its way to a consumer, a message goes through the trace context, the wire form and `classify`. What arrives is what
was sent, except that the headers have the pairs of the context (`get?_injectHeaders_eq`) and that a message to be
replied to has a correlation id. Whether it is a request depends on its reply-to only, and not on the pattern that it
was sent with (`transparent`).
-/

namespace BrokerClient

/-! ## Bags with a context in the headers -/

namespace Properties

/-- One bag is another with a context in its headers. -/
structure Carries (context : TraceContext) (p q : Properties) : Prop where
  header : ∀ key, q.headers.get? key = ((context.value? key).map FieldValue.text).or (p.headers.get? key)
  others : { q with headers := p.headers } = p

theorem carries_inject (context : TraceContext) (p : Properties) : Carries context p (context.inject p) :=
  ⟨context.get?_injectHeaders_eq p.headers, rfl⟩

/-- There is only one bag with a context in the headers. -/
theorem Carries.unique {context : TraceContext} {p q r : Properties} (hq : Carries context p q)
    (hr : Carries context p r) : q = r := by
  have hheaders : q.headers = r.headers := Entries.ext fun key => (hq.header key).trans (hr.header key).symm
  have hothers : { q with headers := p.headers } = { r with headers := p.headers } := hq.others.trans hr.others.symm
  cases q
  cases r
  cases hheaders
  cases hothers
  rfl

/-- A bag as it is taken in: with a correlation id if there is somewhere to reply to. -/
def identified (fresh : String) (p : Properties) : Properties :=
  if p.replyTo.isSome then { p with correlationId := some (p.correlationId.getD fresh) } else p

end Properties

/-! ## From a message to a message -/

/-- A delivery of what was published, where it was published to. -/
structure Delivery.Conveys (d : Delivery) (p : Publication) : Prop extends d.Carries p where
  exchange_eq : d.exchange = p.exchange
  routingKey_eq : d.routingKey = p.routingKey

namespace Incoming

/-- **What arrives is what was sent.** Any message with any context is taken in from any queue but the one for direct
replies, whatever the broker did with the other parts of the delivery. It has the address and the content that it was
sent with, and its bag with the context in the headers and with a correlation id if it has a reply-to. That makes it a
request, whose origin is what its own envelope says; without one it is a cast. -/
theorem transparent (m : Outgoing Bytes) (context : TraceContext) (messageId : String) (d : Delivery)
    (hd : d.Conveys (.prepare context messageId m)) (queue fresh : String) (hqueue : queue ≠ directReplyTo) :
    ∃ i, classify fresh d queue = .ok i ∧
      i.envelope.exchange = m.envelope.exchange ∧ i.envelope.routingKey = m.envelope.routingKey ∧
      i.content = m.content ∧ i.receipt = ⟨queue, d.tag, d.redelivered⟩ ∧
      (m.properties.identified fresh).Carries context i.properties ∧
      (∀ q, (m.properties.identified fresh).Carries context q → i.properties = q) ∧
      (m.properties.replyTo = none → i = .cast i.envelope i.receipt) ∧
      ∀ replyTo, m.properties.replyTo = some replyTo → ∃ id, i.properties.correlationId = some id ∧
        i = .request i.envelope i.receipt
          ⟨i.envelope.exchange, i.envelope.routingKey, replyTo, id, i.properties.acceptEncoding⟩ := by
  have hwire : Properties.ofWire d.properties = .ok (context.inject m.properties) := by
    rw [hd.properties_eq]
    exact Properties.ofWire_toWire (context.inject m.properties)
  have hcarries := Properties.carries_inject context (m.properties.identified fresh)
  have hunique {p : Properties} (hp : p = context.inject (m.properties.identified fresh)) (q : Properties)
      (hq : (m.properties.identified fresh).Carries context q) : p = q := hp.trans (hcarries.unique hq)
  cases hreply : m.properties.replyTo with
  | none =>
    have hsame : m.properties.identified fresh = m.properties := by simp [Properties.identified, hreply]
    have hcast : classify fresh d queue =
        .ok (.cast ⟨d.exchange, d.routingKey, context.inject m.properties, d.data⟩ ⟨queue, d.tag, d.redelivered⟩) := by
      have hnone : (context.inject m.properties).replyTo = none := hreply
      simp [classify, hwire, hqueue, hnone, bind, Except.bind, pure, Except.pure]
    rw [hsame] at hcarries
    refine ⟨_, hcast, hd.exchange_eq, hd.routingKey_eq, hd.data_eq, rfl, ?_, hunique ?_, fun _ => rfl, by simp⟩
    · rw [hsame]
      exact hcarries
    · rw [hsame]
      rfl
  | some replyTo =>
    have hgiven : m.properties.identified fresh =
        { m.properties with correlationId := some (m.properties.correlationId.getD fresh) } := by
      simp [Properties.identified, hreply]
    have hrequest : classify fresh d queue = .ok (ofRequest fresh
        ⟨d.exchange, d.routingKey, context.inject m.properties, d.data⟩ ⟨queue, d.tag, d.redelivered⟩ replyTo) := by
      have hsome : (context.inject m.properties).replyTo = some replyTo := hreply
      simp [classify, hwire, hqueue, hsome, bind, Except.bind, pure, Except.pure]
    refine ⟨_, hrequest, hd.exchange_eq, hd.routingKey_eq, hd.data_eq, rfl, ?_, hunique ?_, by simp, ?_⟩
    · rw [hgiven] at hcarries ⊢
      exact hcarries
    · rw [hgiven]
      rfl
    · rintro _ ⟨⟩
      exact ⟨_, rfl, rfl⟩

/-- A cast with a reply-to arrives as a request, with the later of two values that the context has for one key. -/
theorem transparent_answerable : ∃ (e : Envelope Bytes) (receipt : Receipt) (origin : Origin),
    classify "fresh" ⟨7, "shop", "quote", true,
        (Publication.prepare [("TraceParent", "00-ab"), ("traceparent", "00-cd")] "m-1" (.cast ⟨"shop", "quote",
          { headers := .ofEntries [("accept-encoding", .text "gzip"), ("traceparent", .text "00-00")]
            replyTo := some "answers" }, [0x31]⟩)).properties, [0x31]⟩ "quotes" = .ok (.request e receipt origin) ∧
      e.exchange = "shop" ∧ e.content = [0x31] ∧ receipt = ⟨"quotes", 7, true⟩ ∧
      e.properties.headers.toList = [("accept-encoding", .text "gzip"), ("traceparent", .text "00-cd")] ∧
      e.properties.correlationId = some "fresh" ∧
      origin = ⟨"shop", "quote", "answers", "fresh", e.properties.acceptEncoding⟩ := by
  let bag : Properties :=
    { headers := .ofEntries [("accept-encoding", .text "gzip"), ("traceparent", .text "00-00")]
      replyTo := some "answers" }
  let m : Outgoing Bytes := .cast ⟨"shop", "quote", bag, [0x31]⟩
  let context : TraceContext := [("TraceParent", "00-ab"), ("traceparent", "00-cd")]
  obtain ⟨i, hclassify, hexchange, hkey, hcontent, hreceipt, hcarries, -, -, hrequest⟩ :=
    transparent m context "m-1" ⟨7, "shop", "quote", true, (Publication.prepare context "m-1" m).properties, [0x31]⟩
      ⟨⟨rfl, rfl⟩, rfl, rfl⟩ "quotes" "fresh" (by decide)
  have hcorrelation : i.properties.correlationId = some "fresh" := congrArg (·.correlationId) hcarries.others
  obtain ⟨id, hid, hi⟩ := hrequest "answers" rfl
  have hlower : Text.lowercase "TraceParent" = "traceparent" ∧ Text.lowercase "traceparent" = "traceparent" := by
    decide +kernel
  have hheaders : i.properties.headers =
      .ofEntries [("accept-encoding", .text "gzip"), ("traceparent", .text "00-cd")] := by
    refine Entries.ext fun key => ?_
    rw [hcarries.header key]
    by_cases hparent : "traceparent" = key
    · subst hparent
      simp [context, TraceContext.value?, hlower, Dictionary.ofEntries]
    · simp [context, TraceContext.value?, hlower, hparent, Dictionary.ofEntries, Dictionary.get?_insert_of_ne, m, bag,
        Properties.identified, Outgoing.properties, Outgoing.envelope]
  cases hid.symm.trans hcorrelation
  rw [hexchange, hkey] at hi
  exact ⟨i.envelope, i.receipt, _, hclassify.trans (congrArg Except.ok hi), hexchange, hcontent, hreceipt,
    congrArg Entries.toList hheaders, hcorrelation, rfl⟩

end Incoming
end BrokerClient
