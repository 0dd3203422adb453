import BrokerClient.Topology.Exchange
import BrokerClient.Topology.Queue

/-!
# Topologies

Declarations collected from any number of places form a set in each category: adding one that is already
there changes nothing. `violations` checks the whole collection and reports everything that is wrong
with it, exchanges and queues by name, then bindings in the order they were added; a collection without
violations is a topology. `forQueue` cuts out what one queue needs.
-/

namespace BrokerClient

/-- What is wrong with a collection of declarations. -/
inductive Violation where
  | conflictingExchange (name : String) (declared : List ExchangeDeclaration)
  | builtinExchange (name : String)
  | conflictingQueue (name : String) (declared : List QueueDeclaration)
  | reservedQueue (name : String)
  | reservedTarget (binding : Binding)
  | undeclaredQueue (binding : Binding)
  | undeclaredExchange (binding : Binding)

namespace Violation

/-- The text for several declarations under one name (`conflict`). -/
def describeConflict (category name : String) (declared : List String) : String :=
  category ++ " `" ++ name ++ "` is declared " ++ toString declared.length ++
    " times with conflicting settings: " ++ "; ".intercalate declared

/-- The text of a violation, as `TopologyBuilder::build` words it. -/
def describe : Violation → String
  | .conflictingExchange name declared => describeConflict "exchange" name (declared.map (·.describe))
  | .builtinExchange name => "exchange `" ++ name ++ "` is pre-declared by the broker and cannot be redeclared"
  | .conflictingQueue name declared => describeConflict "queue" name (declared.map (·.describe))
  | .reservedQueue name => "queue `" ++ name ++ "` is the direct reply-to pseudo-queue and cannot be declared"
  | .reservedTarget b => b.describe ++ " targets the direct reply-to pseudo-queue, which cannot be bound"
  | .undeclaredQueue b => b.describe ++ " references undeclared queue `" ++ b.queue ++ "`"
  | .undeclaredExchange b => b.describe ++ " references undeclared exchange `" ++ b.exchange ++ "`"

end Violation

/-- Exchanges, queues and bindings in the order they were first added: a `TopologyBuilder`, or the `Topology` that it
becomes. -/
structure Topology where
  exchanges : List ExchangeDeclaration := []
  queues : List QueueDeclaration := []
  bindings : List Binding := []

/-- Adds an item at the end unless the list holds the same one (`insert_unique`). -/
def insertUnique {α : Type} (same : α → α → Bool) (items : List α) (item : α) : List α :=
  if items.any (same · item) then items else items ++ [item]

namespace Topology

/-! ## Collecting -/

/-- Adds an exchange (`TopologyBuilder::exchange`). -/
def addExchange (t : Topology) (e : ExchangeDeclaration) : Topology :=
  { t with exchanges := insertUnique ExchangeDeclaration.same t.exchanges e }

/-- Adds a queue (`TopologyBuilder::queue`). -/
def addQueue (t : Topology) (q : QueueDeclaration) : Topology :=
  { t with queues := insertUnique QueueDeclaration.same t.queues q }

/-- Adds a binding (`TopologyBuilder::queue_binding`). -/
def addBinding (t : Topology) (b : Binding) : Topology :=
  { t with bindings := insertUnique Binding.same t.bindings b }

/-- Adds every declaration of another topology (`TopologyBuilder::merge`). -/
def merge (t other : Topology) : Topology where
  exchanges := other.exchanges.foldl (insertUnique ExchangeDeclaration.same) t.exchanges
  queues := other.queues.foldl (insertUnique QueueDeclaration.same) t.queues
  bindings := other.bindings.foldl (insertUnique Binding.same) t.bindings

/-! ## Checking -/

/-- The different names of a list, in alphabetical order, as `group_by_name` goes through them. -/
def sortedNames (names : List String) : List String := names.eraseDups.mergeSort fun a b => a ≤ b

def exchangeViolations (t : Topology) (name : String) : List Violation :=
  let declared := t.exchanges.filter (·.name == name)
  (if 1 < declared.length then [.conflictingExchange name declared] else []) ++
    (if isBuiltinExchange name then [.builtinExchange name] else [])

def queueViolations (t : Topology) (name : String) : List Violation :=
  let declared := t.queues.filter (·.name == name)
  (if 1 < declared.length then [.conflictingQueue name declared] else []) ++
    (if name = directReplyTo then [.reservedQueue name] else [])

def declaresExchange (t : Topology) (name : String) : Bool := t.exchanges.any (·.name == name)

def declaresQueue (t : Topology) (name : String) : Bool := t.queues.any (·.name == name)

def bindingViolations (t : Topology) (b : Binding) : List Violation :=
  (if b.queue = directReplyTo then [.reservedTarget b]
    else if !t.declaresQueue b.queue then [.undeclaredQueue b] else []) ++
    (if !t.declaresExchange b.exchange && !isBuiltinExchange b.exchange then [.undeclaredExchange b] else [])

/-- Everything that is wrong with a collection. -/
def violations (t : Topology) : List Violation :=
  (sortedNames (t.exchanges.map (·.name))).flatMap t.exchangeViolations ++
    (sortedNames (t.queues.map (·.name))).flatMap t.queueViolations ++
    t.bindings.flatMap t.bindingViolations

/-- The collection, if nothing is wrong with it (`TopologyBuilder::build`). -/
def build (t : Topology) : Except (List Violation) Topology :=
  if t.violations.isEmpty then .ok t else .error t.violations

/-! ## Taking apart and comparing -/

/-- What one queue needs (`Topology::for_queue`): its declaration, the bindings that target it and the declared
exchanges they reference. -/
def forQueue (t : Topology) (queue : String) : Topology :=
  let bindings := t.bindings.filter (·.queue == queue)
  { exchanges := t.exchanges.filter fun e => bindings.any (·.exchange == e.name)
    queues := t.queues.filter (·.name == queue)
    bindings }

def sameItems {α : Type} (same : α → α → Bool) : List α → List α → Bool
  | [], [] => true
  | a :: as, b :: bs => same a b && sameItems same as bs
  | _, _ => false

/-- The same declarations in the same order. -/
def same (a b : Topology) : Bool :=
  sameItems ExchangeDeclaration.same a.exchanges b.exchanges &&
    sameItems QueueDeclaration.same a.queues b.queues && sameItems Binding.same a.bindings b.bindings

end Topology
end BrokerClient
