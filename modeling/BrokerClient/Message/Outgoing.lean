import BrokerClient.Message.Incoming

/-!
# Outgoing messages

A message to be published is a cast, a request or a response. A request has a reply-to, by default the
direct reply-to queue, and a correlation id, by default a fresh one. A response never chooses its own
destination: it goes through the default exchange to the reply-to of the request it answers, under that
request's correlation id, and a bag with another correlation id is refused.
-/

namespace BrokerClient

/-- A message to be published (`Outgoing`). -/
inductive Outgoing (α : Type) where
  | cast (envelope : Envelope α)
  | request (envelope : Envelope α)
  | response (envelope : Envelope α) (origin : Origin)

namespace Outgoing

variable {α β : Type}

def envelope : Outgoing α → Envelope α
  | .cast e | .request e | .response e _ => e

def properties (m : Outgoing α) : Properties := m.envelope.properties

def content (m : Outgoing α) : α := m.envelope.content

/-- The request that the message answers. -/
def origin? : Outgoing α → Option Origin
  | .response _ o => some o
  | .cast _ | .request _ => none

/-- The encodings that the requester accepts, if the message is a response (`Outgoing::accept_encoding`). -/
def acceptEncoding (m : Outgoing α) : Option String := m.origin?.bind (·.acceptEncoding)

/-- The same message in another envelope. -/
def withEnvelope : Outgoing α → Envelope β → Outgoing β
  | .cast _, e => .cast e
  | .request _, e => .request e
  | .response _ o, e => .response e o

/-- The same message with another content (`Outgoing::with_content`). -/
def withContent (m : Outgoing α) (content : β) : Outgoing β :=
  m.withEnvelope (m.envelope.withContent content)

/-- The same message with another property bag. -/
def withProperties (m : Outgoing α) (properties : Properties) : Outgoing α :=
  m.withEnvelope { m.envelope with properties }

@[simp] theorem envelope_withEnvelope (m : Outgoing α) (e : Envelope β) :
    (m.withEnvelope e).envelope = e := by cases m <;> rfl

@[simp] theorem origin?_withEnvelope (m : Outgoing α) (e : Envelope β) :
    (m.withEnvelope e).origin? = m.origin? := by cases m <;> rfl

/-! ## Making messages -/

/-- A cast (`Outgoing::cast`). -/
def ofCast (exchange routingKey : String) (properties : Properties) (content : α) : Outgoing α :=
  .cast ⟨exchange, routingKey, properties, content⟩

/-- A request (`Outgoing::request`). `fresh` is its correlation id unless the bag has one. -/
def ofRequest (fresh exchange routingKey : String) (properties : Properties) (content : α) : Outgoing α :=
  .request ⟨exchange, routingKey, { properties with
    replyTo := some (properties.replyTo.getD directReplyTo)
    correlationId := some (properties.correlationId.getD fresh) }, content⟩

/-- A response to the request that `origin` describes (`Outgoing::response`). -/
def ofResponse (origin : Origin) (properties : Properties) (content : α) :
    Except EnvelopeError (Outgoing α) :=
  match properties.correlationId with
  | some id =>
    if id = origin.correlationId then
      .ok (.response ⟨defaultExchange, origin.replyTo, properties, content⟩ origin)
    else .error (.correlationMismatch origin.correlationId id)
  | none =>
    .ok (.response ⟨defaultExchange, origin.replyTo,
      { properties with correlationId := some origin.correlationId }, content⟩ origin)

end Outgoing
end BrokerClient
