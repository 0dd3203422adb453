import BrokerClient.Codec.Negotiator
import BrokerClient.Pool
import BrokerClient.Trace

/-!
# Publishing

A message to be published is encoded first; then the trace context of the caller goes into its headers,
it gets an identifier of its own, and it is sent through a channel borrowed for it alone. A failure to
encode borrows nothing. A failure to borrow or to send is reported. In the background nobody waits for
the end, and the pool reports a failure. The publisher is a pool whose errands are messages.
-/

namespace BrokerClient

/-- A message as it goes to the broker (`Publication`). -/
structure Publication where
  exchange : String
  routingKey : String
  properties : WireProperties
  payload : Bytes

namespace Publication

/-- Writes the caller's trace context and the message's identifier into an encoded message (`prepare`). -/
def prepare (context : TraceContext) (messageId : String) (m : Outgoing Bytes) : Publication :=
  let e := m.envelope
  ⟨e.exchange, e.routingKey, { (TraceContext.inject context e.properties).toWire with messageId := some messageId },
    e.content⟩

/-- The call that sends it (`send`). -/
def call (p : Publication) : ChannelCall := .publish p.exchange p.routingKey p.payload p.properties

/-- The report about a failure to publish. -/
def failureReport (p : Publication) (e : Error) : LogEntry :=
  .error "error publishing message" [("error", e.message), ("exchange", p.exchange), ("routing_key", p.routingKey),
    ("correlation_id", p.properties.correlationId.getD "")]

end Publication

namespace Publisher

/-- A message on its way. -/
structure Errand where
  id : BorrowId
  background : Bool
  publication : Publication

inductive Event where
  /-- A message is to be published, unless it could not be encoded. -/
  | publish (id : BorrowId) (background : Bool) (message : Except Error Publication)
  /-- Something happens in the pool; the end of an errand's work is the broker's answer. -/
  | pool (e : Pool.Event ChannelId)

inductive Action where
  | log (entry : LogEntry)
  | create (id : BorrowId)
  | closeChannel (closer : Pool.Closer) (c : ChannelId)
  | wake (e : Event)
  | send (id : BorrowId) (c : ChannelId) (call : ChannelCall)
  | finish (id : BorrowId) (result : Outcome)
  | closed (call : Nat)

end Publisher

open Publisher in
/-- The state of a `RabbitMQPublisher`. -/
structure Publisher where
  pool : Pool ChannelId
  errands : List Errand := []

namespace Publisher

/-- A step's new state, and what it does. -/
abbrev Effect := Publisher × List Action

/-- A message encoded for the broker, as `RabbitMQPublisher::publish` begins. -/
def encode {α : Type} (n : Negotiator α) (m : Outgoing α) : Except Error (Outgoing Bytes) :=
  match n.encode m with
  | .ok encoded => .ok encoded
  | .error e => .error (.codec e)

/-- Publishing a message that was encoded, or could not be, in a trace context and under an identifier
(`RabbitMQPublisher::publish_raw`, in the background `RabbitMQPublisher::publish_detached`). -/
def Event.ofMessage (id : BorrowId) (background : Bool) (context : TraceContext) (messageId : String)
    (message : Except Error (Outgoing Bytes)) : Event :=
  .publish id background (message.map (.prepare context messageId))

def find? (p : Publisher) (id : BorrowId) : Option Errand := p.errands.find? (·.id == id)

/-- Ends an errand. Somebody who waits is told, and a failure is reported, which the pool does for errands
in the background. -/
def conclude (p : Publisher) (id : BorrowId) (result : Outcome) : Effect :=
  let report := match p.find? id, result with
    | some x, .error e => if x.background then [] else [.log (x.publication.failureReport e)]
    | _, _ => []
  ({ p with errands := p.errands.filter (·.id != id) }, report ++ [.finish id result])

/-- What an action of the pool is for the publisher. -/
def act (p : Publisher) : Pool.Action ChannelId → Effect
  | .log entry => (p, [.log entry])
  | .create id => (p, [.create id])
  | .closeItem closer c => (p, [.closeChannel closer c])
  | .wake e => (p, [.wake (.pool e)])
  | .lend _ _ => (p, [])
  | .work id c => match p.find? id with
    | some x => (p, [.send id c x.publication.call])
    | none => (p, [])
  | .refuse id e => p.conclude id (.error e)
  | .finish id result => p.conclude id result
  | .closed call => (p, [.closed call])

/-- The actions of the pool, one after the other. -/
def actAll (p : Publisher) : List (Pool.Action ChannelId) → Effect
  | [] => (p, [])
  | a :: rest =>
    let (p, first) := p.act a
    let (p, others) := p.actAll rest
    (p, first ++ others)

def poolStep (p : Publisher) (isOpen : ChannelId → Bool) (e : Pool.Event ChannelId) : Effect :=
  let (pool, actions) := p.pool.step isOpen e
  { p with pool }.actAll actions

def step (p : Publisher) (isOpen : ChannelId → Bool) : Event → Effect
  | .publish id _ (.error e) => (p, [.finish id (.error e)])
  | .publish id background (.ok publication) =>
    let errand : Errand := ⟨id, background, publication⟩
    { p with errands := p.errands ++ [errand] }.poolStep isOpen
      (.borrow id (.errand background))
  | .pool e => p.poolStep isOpen e

end Publisher
end BrokerClient
