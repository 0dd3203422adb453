import BrokerClient.Error

/-!
# Calls to the broker

What a channel can be asked to do, and the failure that each request leads to when the broker answers
with a text. The broker is not modelled further: a call has an outcome, and that is all that is known.
-/

namespace BrokerClient

/-- What an exchange is declared with. A passive declaration makes nothing and only asks whether there is one; without
a wait the broker sends no answer. -/
structure ExchangeDeclareOptions where
  passive : Bool := false
  durable : Bool := false
  autoDelete : Bool := false
  internal : Bool := false
  nowait : Bool := false
deriving DecidableEq, Repr, Inhabited

/-- What a queue is declared with. -/
structure QueueDeclareOptions where
  passive : Bool := false
  durable : Bool := false
  exclusive : Bool := false
  autoDelete : Bool := false
  nowait : Bool := false
deriving DecidableEq, Repr, Inhabited

/-- A request on one channel (`AmqpChannel`). -/
inductive ChannelCall where
  | declareExchange (name : String) (kind : BrokerKind) (options : ExchangeDeclareOptions) (arguments : Table)
  | declareQueue (name : String) (options : QueueDeclareOptions) (arguments : Table)
  | bind (b : Binding)
  | publish (exchange routingKey : String) (payload : Bytes) (properties : WireProperties)
  | qos (prefetch : Nat)
  | consume (queue tag : String) (noAck : Bool)
  | cancel (tag : String)
  | ack (tag : Nat)
  | reject (tag : Nat) (requeue : Bool)
  | close

namespace ChannelCall

/-- The failure of a call that the broker answers with `text`, as `LapinChannel` tells it. -/
def failure (text : String) : ChannelCall → Error
  | .declareExchange name _ _ _ => .declareExchange name
  | .declareQueue name _ _ => .declareQueue name
  | .bind b => .bind b.exchange b.queue
  | .publish .. => .publishing text
  | .qos _ => .qos text
  | .consume queue _ _ => .declareConsumer queue
  | .cancel tag => .cancelConsumer tag
  | .ack _ => .ack
  | .reject .. => .reject
  | .close => .channel text

end ChannelCall

/-- The name of a broker's channel. -/
abbrev ChannelId := Nat

/-- A request to the broker: a new channel, or something on a channel. -/
inductive Call where
  | createChannel
  | on (channel : ChannelId) (call : ChannelCall)

/-- The outcome of a call that answers nothing but success. -/
abbrev Outcome := Except Error Unit

end BrokerClient
