import BrokerClient.Message.Outgoing

/-!
# Building messages

A builder collects the parts of an outgoing message in any order; `build` runs the rules for the
message's pattern on what was collected. A builder for a response refuses another destination and another
correlation id at once, and `build` refuses a property bag that brought one in. A message can be taken
apart into a builder again.
-/

namespace BrokerClient

/-- The pattern of a message under construction. -/
inductive Pattern where
  | cast
  | request
  | response (origin : Origin)
deriving DecidableEq, Repr

/-- A message under construction (`OutgoingBuilder`). -/
structure Builder (α : Type) where
  pattern : Pattern
  exchange : String
  routingKey : String
  properties : Properties
  content? : Option α

namespace Builder

variable {α β : Type}

/-! ## Starting -/

/-- A cast without content (`OutgoingBuilder::cast`). -/
def cast (exchange routingKey : String) : Builder α := ⟨.cast, exchange, routingKey, {}, none⟩

/-- A request without content (`OutgoingBuilder::request`). -/
def request (exchange routingKey : String) : Builder α := ⟨.request, exchange, routingKey, {}, none⟩

/-- A reply to a request (`OutgoingBuilder::response`). Its destination and its correlation id are the request's. -/
def response (origin : Origin) : Builder α :=
  ⟨.response origin, defaultExchange, origin.replyTo, { correlationId := some origin.correlationId }, none⟩

/-- A reply to a message, if the message is a request (`IncomingRequest::response_builder`). -/
def reply? (m : Incoming β) : Option (Builder α) := m.origin?.map response

/-- The parts of a finished message (`Outgoing::builder`). -/
def ofMessage (m : Outgoing α) : Builder α :=
  let e := m.envelope
  let pattern : Pattern := match m with
    | .cast _ => .cast
    | .request _ => .request
    | .response _ origin => .response origin
  ⟨pattern, e.exchange, e.routingKey, e.properties, some e.content⟩

/-! ## Steps -/

/-- One part to set, by the setter of that name. -/
inductive Step (α : Type) where
  | exchange (name : String)
  | routingKey (key : String)
  | correlationId (id : String)
  | properties (bag : Properties)
  | contentType (value : String)
  | contentEncoding (value : String)
  | header (key : String) (value : FieldValue)
  | acceptEncoding (encodings : String)
  | deliveryMode (mode : DeliveryMode)
  | kind (value : String)
  | replyTo (value : String)
  | content (value : α)

/-- Changes the property bag. -/
def update (b : Builder α) (f : Properties → Properties) : Builder α :=
  { b with properties := f b.properties }

/-- Sets one part, unless the pattern pins it. Only `OutgoingBuilder::exchange`, `routing_key` and `correlation_id`
can fail. -/
def apply (b : Builder α) : Step α → Except EnvelopeError (Builder α)
  | .exchange name => match b.pattern with
    | .response _ => .error (.destinationPinned "exchange")
    | _ => .ok { b with exchange := name }
  | .routingKey key => match b.pattern with
    | .response _ => .error (.destinationPinned "routing key")
    | _ => .ok { b with routingKey := key }
  | .correlationId id =>
    let set := b.update fun p => { p with correlationId := some id }
    match b.pattern with
    | .response origin =>
      if origin.correlationId = id then .ok set
      else .error (.correlationMismatch origin.correlationId id)
    | _ => .ok set
  | .properties bag => .ok { b with properties := bag }
  | .contentType value => .ok (b.update fun p => { p with contentType := some value })
  | .contentEncoding value => .ok (b.update fun p => { p with contentEncoding := some value })
  | .header key value => .ok (b.update (·.withHeader key value))
  | .acceptEncoding encodings => .ok (b.update (·.withHeader acceptEncodingHeader (.text encodings)))
  | .deliveryMode mode => .ok (b.update fun p => { p with deliveryMode := mode })
  | .kind value => .ok (b.update fun p => { p with kind := some value })
  | .replyTo value => .ok (b.update fun p => { p with replyTo := some value })
  | .content value => .ok { b with content? := some value }

/-! ## Finishing -/

/-- The message (`OutgoingBuilder::build`). `fresh` is the correlation id for a request that has none. -/
def build (fresh : String) (b : Builder α) : Except EnvelopeError (Outgoing α) :=
  match b.content? with
  | none => .error .missingContent
  | some content => match b.pattern with
    | .cast => .ok (Outgoing.ofCast b.exchange b.routingKey b.properties content)
    | .request => .ok (Outgoing.ofRequest fresh b.exchange b.routingKey b.properties content)
    | .response origin => Outgoing.ofResponse origin b.properties content

/-- The message taken apart again, with what its rules filled in. -/
def rebuild (fresh : String) (b : Builder α) : Except EnvelopeError (Builder α) := do
  return ofMessage (← b.build fresh)

end Builder
end BrokerClient
