import BrokerClient.Message.Envelope

/-!
# Incoming messages

A message taken from a queue is a cast, a request or a response. `Incoming.classify` decides which: on
the direct reply-to queue it is a response and must carry a correlation id; elsewhere a reply-to property
makes it a request, to which a fresh correlation id is given if it has none, and anything else is a cast.
Replacing the content changes nothing but the content (`envelope_withContent`).
-/

namespace BrokerClient

/-- How a message was delivered (`DeliveryInfo`). -/
structure Receipt where
  queue : String
  tag : Nat
  redelivered : Bool
deriving DecidableEq, Repr

/-- A message that was delivered (`Incoming`). -/
inductive Incoming (α : Type) where
  | cast (envelope : Envelope α) (receipt : Receipt)
  | request (envelope : Envelope α) (receipt : Receipt) (origin : Origin)
  | response (envelope : Envelope α) (receipt : Receipt)

namespace Incoming

variable {α β : Type}

def envelope : Incoming α → Envelope α
  | .cast e _ | .request e _ _ | .response e _ => e

def receipt : Incoming α → Receipt
  | .cast _ r | .request _ r _ | .response _ r => r

/-- What a reply to the message needs to know, if the message is a request. -/
def origin? : Incoming α → Option Origin
  | .request _ _ o => some o
  | .cast _ _ | .response _ _ => none

def properties (m : Incoming α) : Properties := m.envelope.properties

def content (m : Incoming α) : α := m.envelope.content

/-- The same message with another content (`Incoming::with_content`). -/
def withContent : Incoming α → β → Incoming β
  | .cast e r, c => .cast (e.withContent c) r
  | .request e r o, c => .request (e.withContent c) r o
  | .response e r, c => .response (e.withContent c) r

@[simp] theorem envelope_withContent (m : Incoming α) (c : β) :
    (m.withContent c).envelope = m.envelope.withContent c := by cases m <;> rfl

@[simp] theorem receipt_withContent (m : Incoming α) (c : β) : (m.withContent c).receipt = m.receipt := by
  cases m <;> rfl

@[simp] theorem origin?_withContent (m : Incoming α) (c : β) : (m.withContent c).origin? = m.origin? := by
  cases m <;> rfl

/-- The request form of an envelope whose reply-to is known, with its `RequestOrigin`. -/
def ofRequest (fresh : String) (e : Envelope Bytes) (receipt : Receipt) (replyTo : String) :
    Incoming Bytes :=
  let correlationId := e.properties.correlationId.getD fresh
  let properties := { e.properties with correlationId := some correlationId }
  .request { e with properties } receipt {
    exchange := e.exchange
    routingKey := e.routingKey
    replyTo
    correlationId
    acceptEncoding := properties.acceptEncoding }

/-- The message that a delivery from a queue is (`Incoming::from_delivery`). `fresh` is the correlation id for a
request that has none. -/
def classify (fresh : String) (d : Delivery) (queue : String) : Except EnvelopeError (Incoming Bytes) := do
  let properties ← Properties.ofWire d.properties
  let receipt : Receipt := ⟨queue, d.tag, d.redelivered⟩
  let envelope : Envelope Bytes := ⟨d.exchange, d.routingKey, properties, d.data⟩
  if queue = directReplyTo then
    if properties.correlationId.isNone then throw .missingCorrelationId
    return .response envelope receipt
  match properties.replyTo with
  | none => return .cast envelope receipt
  | some replyTo => return ofRequest fresh envelope receipt replyTo

end Incoming
end BrokerClient
