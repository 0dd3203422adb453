import BrokerClient.Message.Properties

/-!
# Envelopes

What every message has whatever its pattern: where it goes or came from, its properties, and a content
whose type changes as the message is decoded or encoded. A `Delivery` is a message as the broker hands
it out.
-/

namespace BrokerClient

/-- The nameless exchange, to which every queue is bound under its own name (`DEFAULT_EXCHANGE`). -/
def defaultExchange : String := ""

/-- The queue that stands for the requester itself (`DIRECT_REPLY_TO`). It exists on every broker without being
declared. -/
def directReplyTo : String := "amq.rabbitmq.reply-to"

/-- What a message is whatever its pattern (`Envelope`). -/
structure Envelope (α : Type) where
  exchange : String
  routingKey : String
  properties : Properties
  content : α

/-- The same envelope around another content (`Envelope::with_content`). -/
def Envelope.withContent {α β : Type} (e : Envelope α) (content : β) : Envelope β :=
  ⟨e.exchange, e.routingKey, e.properties, content⟩

/-- What a reply needs to know about the request it answers (`RequestOrigin`). -/
structure Origin where
  exchange : String
  routingKey : String
  replyTo : String
  correlationId : String
  acceptEncoding : Option String
deriving DecidableEq, Repr

/-- A message as handed out by the broker (`BrokerDelivery`). -/
structure Delivery where
  tag : Nat
  exchange : String
  routingKey : String
  redelivered : Bool
  properties : WireProperties
  data : Bytes

end BrokerClient
