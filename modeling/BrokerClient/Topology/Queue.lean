import BrokerClient.Field.Describe
import BrokerClient.Field.Equality

/-!
# Queues and bindings

A declaration of a queue, with its limits kept among the arguments that go to the broker as they are,
and a binding of a queue to an exchange under a routing key.
-/

namespace BrokerClient

/-- A queue to be declared (`QueueDefinition`). -/
structure QueueDeclaration where
  name : String
  durable : Bool := false
  autoDelete : Bool := false
  exclusive : Bool := false
  arguments : Table := .nil

namespace QueueDeclaration

/-- Sets an argument (`QueueDefinition::param`). -/
def withArgument (q : QueueDeclaration) (key : String) (value : FieldValue) : QueueDeclaration :=
  { q with arguments := q.arguments.insert key value }

/-- How long a message may stay, in milliseconds (`QueueDefinition::ttl`). -/
def withTtl (q : QueueDeclaration) (ms : Int32) : QueueDeclaration := q.withArgument "x-message-ttl" (.longInt ms)

/-- How many messages may wait (`QueueDefinition::max_length`). -/
def withMaxLength (q : QueueDeclaration) (messages : Int32) : QueueDeclaration :=
  q.withArgument "x-max-length" (.longInt messages)

/-- How many bytes of messages may wait (`QueueDefinition::max_length_bytes`). -/
def withMaxLengthBytes (q : QueueDeclaration) (bytes : Int32) : QueueDeclaration :=
  q.withArgument "x-max-length-bytes" (.longInt bytes)

/-- Where rejected and expired messages go (`QueueDefinition::dead_letter`). -/
def withDeadLetter (q : QueueDeclaration) (exchange routingKey : String) : QueueDeclaration :=
  (q.withArgument "x-dead-letter-exchange" (.text exchange)).withArgument "x-dead-letter-routing-key"
    (.text routingKey)

def same (a b : QueueDeclaration) : Bool :=
  a.name == b.name && a.durable == b.durable && a.autoDelete == b.autoDelete &&
    a.exclusive == b.exclusive && Table.same a.arguments b.arguments

def describe (q : QueueDeclaration) : String :=
  "queue `" ++ q.name ++ "` (durable: " ++ toString q.durable ++ ", auto_delete: " ++
    toString q.autoDelete ++ ", exclusive: " ++ toString q.exclusive ++ ", args: " ++
    Table.describe q.arguments ++ ")"

end QueueDeclaration

/-- A binding of a queue to an exchange (`QueueBinding`). -/
structure Binding where
  queue : String
  exchange : String := ""
  routingKey : String := ""
  arguments : Table := .nil

namespace Binding

/-- Sets an argument (`QueueBinding::param`). -/
def withArgument (b : Binding) (key : String) (value : FieldValue) : Binding :=
  { b with arguments := b.arguments.insert key value }

def same (a b : Binding) : Bool :=
  a.queue == b.queue && a.exchange == b.exchange && a.routingKey == b.routingKey &&
    Table.same a.arguments b.arguments

def describe (b : Binding) : String :=
  "binding `" ++ b.exchange ++ "` -> `" ++ b.queue ++ "` (key `" ++ b.routingKey ++ "`)"

end Binding
end BrokerClient
