import BrokerClient.Field.Describe
import BrokerClient.Field.Equality
import BrokerClient.Message.Envelope

/-!
# Exchanges

A declaration of an exchange: its name, its kind, its flags and its arguments. Declarations are plain
values, compared part by part (`ExchangeDeclaration.same`), so that a repeated declaration can be told
from a conflicting one. The broker's own exchanges may be bound to but never declared.
-/

namespace BrokerClient

/-- The kinds of exchanges that the broker knows, those that a plugin registers by name. -/
inductive BrokerKind where
  | direct
  | fanout
  | topic
  | headers
  | custom (name : String)
deriving DecidableEq, Repr, Inhabited

/-- How an exchange routes: by equal keys, to every queue, by key patterns, by headers, or after a delay
(`ExchangeKind`). -/
inductive ExchangeKind where
  | direct
  | fanout
  | topic
  | headers
  | delayed
deriving DecidableEq, Repr, Inhabited

namespace ExchangeKind

/-- The kind in descriptions. -/
def describe : ExchangeKind → String
  | .direct => "Direct"
  | .fanout => "Fanout"
  | .topic => "Topic"
  | .headers => "Headers"
  | .delayed => "XMessageDelayed"

/-- The kind that the broker is told (the conversion of `ExchangeKind` to the broker's own). -/
def toBroker : ExchangeKind → BrokerKind
  | .direct => .direct
  | .fanout => .fanout
  | .topic => .topic
  | .headers => .headers
  | .delayed => .custom "x-delayed-message"

end ExchangeKind

/-- The exchanges that every broker has from the start (`BUILTIN_EXCHANGES`). -/
def builtinExchanges : List String :=
  [defaultExchange, "amq.direct", "amq.fanout", "amq.topic", "amq.headers", "amq.match",
    "amq.rabbitmq.trace"]

/-- Whether an exchange is the broker's own (`is_builtin_exchange`). -/
def isBuiltinExchange (name : String) : Bool := builtinExchanges.contains name

/-- An exchange to be declared (`ExchangeDefinition`). -/
structure ExchangeDeclaration where
  name : String
  kind : ExchangeKind := .direct
  durable : Bool := false
  autoDelete : Bool := false
  internal : Bool := false
  arguments : Table := .nil

namespace ExchangeDeclaration

/-- The argument that names what a delayed exchange does after the delay. -/
def delayedTypeArgument : String := "x-delayed-type"

/-- Sets an argument (`ExchangeDefinition::param`). -/
def withArgument (e : ExchangeDeclaration) (key : String) (value : FieldValue) : ExchangeDeclaration :=
  { e with arguments := e.arguments.insert key value }

/-- Delays messages, then routes them as an exchange of the `underlying` kind (`ExchangeDefinition::delayed`). -/
def delayed (e : ExchangeDeclaration) (underlying : String) : ExchangeDeclaration :=
  { e with kind := .delayed }.withArgument delayedTypeArgument (.text underlying)

/-- Equality of declarations, by the values of their arguments. -/
def same (a b : ExchangeDeclaration) : Bool :=
  a.name == b.name && a.kind == b.kind && a.durable == b.durable && a.autoDelete == b.autoDelete &&
    a.internal == b.internal && Table.same a.arguments b.arguments

/-- The text of a declaration in reports, as `ExchangeDefinition` is displayed. -/
def describe (e : ExchangeDeclaration) : String :=
  "exchange `" ++ e.name ++ "` (" ++ e.kind.describe ++ ", durable: " ++ toString e.durable ++
    ", auto_delete: " ++ toString e.autoDelete ++ ", internal: " ++ toString e.internal ++ ", args: " ++
    Table.describe e.arguments ++ ")"

end ExchangeDeclaration
end BrokerClient
