import BrokerClient.Broker.Call

/-!
# Installing a topology

The calls that install a topology: exchanges first, then queues, then bindings, each in the order of
declaration. They are issued one by one until one fails, so what is issued is a prefix of `Topology.calls`
that ends at the first failure.
-/

namespace BrokerClient

/-- How a channel is asked for an exchange (`Topology::install_exchanges`). It is made if there is none, and the answer
is awaited. -/
def ExchangeDeclaration.call (e : ExchangeDeclaration) : ChannelCall :=
  .declareExchange e.name e.kind.toBroker
    { passive := false, durable := e.durable, autoDelete := e.autoDelete, internal := e.internal, nowait := false }
    e.arguments

/-- How a channel is asked for a queue (`Topology::install_queues`). -/
def QueueDeclaration.call (q : QueueDeclaration) : ChannelCall :=
  .declareQueue q.name
    { passive := false, durable := q.durable, exclusive := q.exclusive, autoDelete := q.autoDelete, nowait := false }
    q.arguments

/-- Every call of an installation, in order. A binding is asked for as it is (`Topology::binding_queues`). -/
def Topology.calls (t : Topology) : List ChannelCall :=
  t.exchanges.map (·.call) ++ t.queues.map (·.call) ++ t.bindings.map .bind

/-- Whether a call declares or binds something. -/
def ChannelCall.installs : ChannelCall → Bool
  | .declareExchange .. | .declareQueue .. | .bind _ => true
  | _ => false

theorem Topology.installs_of_mem_calls {t : Topology} {call : ChannelCall} (h : call ∈ t.calls) :
    call.installs = true := by
  simp only [calls, List.mem_append, List.mem_map] at h
  rcases h with (⟨e, -, rfl⟩ | ⟨q, -, rfl⟩) | ⟨b, -, rfl⟩ <;> rfl

/-- What came of issuing calls: those issued, in order, and the first failure. -/
structure Issued where
  calls : List ChannelCall
  outcome : Outcome

/-- Issues calls until one fails, against a channel that answers from its state. -/
def issue {σ : Type} (answer : σ → ChannelCall → Outcome × σ) : σ → List ChannelCall → Issued × σ
  | s, [] => (⟨[], .ok ()⟩, s)
  | s, call :: rest =>
    match answer s call with
    | (.error e, s) => (⟨[call], .error e⟩, s)
    | (.ok _, s) =>
      let (issued, s) := issue answer s rest
      (⟨call :: issued.calls, issued.outcome⟩, s)

/-- Installs a topology through a channel (`Topology::install`). -/
def Topology.install {σ : Type} (t : Topology) (answer : σ → ChannelCall → Outcome × σ) (s : σ) : Issued × σ :=
  issue answer s t.calls

end BrokerClient
