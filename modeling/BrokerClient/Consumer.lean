import BrokerClient.Acks
import BrokerClient.Codec.Negotiator
import BrokerClient.Trace

/-!
# Consuming

Each delivery from a queue is worked on by a task of its own. The task classifies and decodes the message
and hands it to the application together with a handle. A delivery that cannot be read, or whose handler
fails, is reported and rejected for good; the rejection does nothing if the application settled the
delivery before. The consumer of a queue is a state and a step on events: the acknowledgements, the tasks
and the handles that the application holds. `κ` names the application's requests to settle.
-/

namespace BrokerClient

/-- The name of the work on one delivery. -/
abbrev TaskId := Nat

/-- Who settles a delivery, or waits until nothing is outstanding. -/
inductive Party (κ : Type) where
  /-- A call that starts or stops consuming. -/
  | call (id : Nat)
  /-- A loop that takes deliveries. -/
  | loop (id : Nat)
  | task (id : TaskId)
  | application (k : κ)
deriving DecidableEq, Repr

namespace Delivery

def headers (d : Delivery) : Table := d.properties.headers.getD .nil

/-- The message that a delivery from a queue is, with its payload (`dispatch`). -/
def read {α : Type} (d : Delivery) (n : Negotiator α) (queue fresh : String) : Except Error (Incoming α) :=
  match Incoming.classify fresh d queue with
  | .error e => .error (.envelope e)
  | .ok m => match n.decode m with
    | .error e => .error (.codec e)
    | .ok m => .ok m

/-- The span of the work on a delivery that has ended, named for the message's kind or else the queue (`new_span`). -/
def span (d : Delivery) (queue : String) (result : Outcome) : Span :=
  let s := Span.start d.headers (d.properties.kind.getD queue)
  match result with
  | .ok _ => { s with status := .ok }
  | .error e => { s with errors := [e.message], status := .error "failure processing delivery" }

/-- The report about a delivery that is to be rejected. -/
def failureReport (d : Delivery) (e : Error) : LogEntry :=
  .error "failure processing delivery, rejecting it" [("error", e.message), ("exchange", d.exchange),
    ("routing_key", d.routingKey), ("correlation_id", d.properties.correlationId.getD "")]

end Delivery

namespace Consumer

/-- How far the work on a delivery has come. -/
inductive Phase where
  | spawned
  /-- The application has the message. -/
  | handling
  | rejecting (cause : Error)

/-- The work on one delivery, from when it is spawned (`consume`). -/
structure Task where
  id : TaskId
  delivery : Delivery
  /-- The correlation identifier for a request that has none. -/
  fresh : String
  ack : Acknowledger
  phase : Phase := .spawned

inductive Event (κ : Type) where
  /-- A delivery was taken from a channel. -/
  | deliver (channel : ChannelId) (mode : AckMode) (fresh : String) (d : Delivery)
  | run (t : TaskId)
  /-- The application's handler is done with a message. -/
  | returned (t : TaskId) (result : Outcome)
  /-- The application clones a handle, drops one, or settles a delivery. -/
  | clone (h : HandleId)
  | drop (h : HandleId)
  | settle (k : κ) (a : Acknowledger) (v : Verdict)
  | answered (p : Party κ) (result : Outcome)
  | look (p : Party κ)

inductive Action (κ α : Type) where
  | log (entry : LogEntry)
  | call (p : Party κ) (channel : ChannelId) (c : ChannelCall)
  | wake (e : Event κ)
  /-- The application gets a message. -/
  | handle (t : TaskId) (context : TraceContext) (message : Incoming α) (a : Acknowledger)
  | span (s : Span)
  /-- The work on a delivery ended. -/
  | consumed (t : TaskId) (result : Outcome)
  | settled (k : κ) (result : Outcome)
  | drained (p : Party κ)

end Consumer

open Consumer in
/-- What goes on for the deliveries of a queue. -/
structure Consumer (κ : Type) where
  acks : Acks (Party κ) := {}
  tasks : List Task := []
  /-- The handles that the application holds, one for each clone. -/
  held : List HandleId := []
  /-- The name of the next task. -/
  next : TaskId := 0

namespace Consumer

variable {κ α : Type} [DecidableEq κ]

/-- A step's new state, and what it does. -/
abbrev Effect (κ α : Type) := Consumer κ × List (Action κ α)

def find? (c : Consumer κ) (t : TaskId) : Option Task := c.tasks.find? (·.id == t)

/-- Moves a task to a phase. -/
def moveTo (c : Consumer κ) (t : TaskId) (phase : Phase) : Consumer κ :=
  { c with tasks := c.tasks.map fun x => if x.id = t then { x with phase } else x }

def outstanding (c : Consumer κ) : Nat := c.acks.outstanding

/-- Lets somebody wait until nothing is outstanding. -/
def await (c : Consumer κ) (p : Party κ) : Consumer κ := { c with acks := (c.acks.step (.await p)).1 }

/-- Lets somebody wait no longer. -/
def abandon (c : Consumer κ) (p : Party κ) : Consumer κ := { c with acks := (c.acks.step (.abandon p)).1 }

/-! ## Acknowledgements -/

/-- What an action of the acknowledgements is for others than tasks. -/
def relay : Acks.Action (Party κ) → List (Action κ α)
  | .log entry => [.log entry]
  | .call p channel call => [.call p channel call]
  | .wake p => [.wake (.look p)]
  | .settled (.application k) result => [.settled k result]
  | .settled _ _ => []
  | .drained p => [.drained p]

/-- Drops a clone of a handle. -/
def release (c : Consumer κ) : Acknowledger → Effect κ α
  | .auto => (c, [])
  | .manual h =>
    let (acks, actions) := c.acks.drop h
    ({ c with acks }, actions.flatMap relay)

/-- Gives the application a clone of a handle. -/
def hand (c : Consumer κ) : Acknowledger → Consumer κ
  | .auto => c
  | .manual h => { c with acks := (c.acks.step (.clone h)).1, held := h :: c.held }

/-- Whether the application holds a clone of a handle. -/
def holds (c : Consumer κ) : Acknowledger → Bool
  | .auto => true
  | .manual h => c.held.contains h

/-! ## Tasks -/

/-- Ends a task, which drops its handle. -/
def conclude (c : Consumer κ) (t : Task) (result : Outcome) : Effect κ α :=
  let (c, dropped) := { c with tasks := c.tasks.filter (·.id != t.id) }.release t.ack
  (c, dropped ++ [.consumed t.id result])

/-- Ends a task that has rejected its delivery, or could not, where `consume` awaits the rejection. -/
def rejected (c : Consumer κ) (t : Task) (cause : Error) : Outcome → Effect κ α
  | .ok _ => c.conclude t (.error cause)
  | .error e =>
    let (c, actions) := c.conclude t (.error e)
    (c, .log (.error "error whiling reject msg" [("error", e.message)]) :: actions)

/-- What an action of the acknowledgements is for the consumer. -/
def act (c : Consumer κ) : Acks.Action (Party κ) → Effect κ α
  | .settled (.task id) result => match c.find? id with
    | some t => match t.phase with
      | .rejecting cause => c.rejected t cause result
      | _ => (c, [])
    | none => (c, [])
  | a => (c, relay a)

/-- The actions of the acknowledgements, one after the other. -/
def actAll (c : Consumer κ) : List (Acks.Action (Party κ)) → Effect κ α
  | [] => (c, [])
  | a :: rest =>
    let (c, first) := c.act a
    let (c, others) := c.actAll rest
    (c, first ++ others)

def acksStep (c : Consumer κ) (e : Acks.Event (Party κ)) : Effect κ α :=
  let (acks, actions) := c.acks.step e
  { c with acks }.actAll actions

/-- Rejects a delivery that could not be read or whose handler failed, as `consume` does. -/
def fail (c : Consumer κ) (queue : String) (t : Task) (e : Error) : Effect κ α :=
  let (c, actions) := (c.moveTo t.id (.rejecting e)).acksStep (.settle (.task t.id) t.ack (.reject false))
  (c, [.log (t.delivery.failureReport e), .span (t.delivery.span queue (.error e))] ++ actions)

/-- Reads a delivery and hands the message to the application (`dispatch`, up to `MessageHandler::handle`). -/
def run (c : Consumer κ) (n : Negotiator α) (queue : String) (t : Task) : Effect κ α :=
  let reports := (TraceContext.reports t.delivery.headers).map .log
  match t.delivery.read n queue t.fresh with
  | .error e =>
    let (c, actions) := c.fail queue t e
    (c, reports ++ actions)
  | .ok m =>
    ((c.moveTo t.id .handling).hand t.ack,
      reports ++ [.handle t.id (TraceContext.extract t.delivery.headers) m t.ack])

/-- Goes on when the handler is done, to the end of `consume`. -/
def returned (c : Consumer κ) (queue : String) (t : Task) : Outcome → Effect κ α
  | .ok _ =>
    let (c, actions) := c.conclude t (.ok ())
    (c, .span (t.delivery.span queue (.ok ())) :: actions)
  | .error e => c.fail queue t e

/-- Gives a delivery its handle, and a task, as `dispatch_loop` does. -/
def deliver (c : Consumer κ) (channel : ChannelId) (mode : AckMode) (fresh : String) (d : Delivery) :
    Effect κ α :=
  let spawn (acks : Acks (Party κ)) (ack : Acknowledger) : Consumer κ :=
    { c with acks, tasks := c.tasks ++ [⟨c.next, d, fresh, ack, .spawned⟩], next := c.next + 1 }
  match mode with
  | .auto => (spawn c.acks .auto, [.wake (.run c.next)])
  | .manual =>
    let (acks, actions) := c.acks.register channel d.tag
    (spawn acks (.manual c.acks.next), actions.flatMap relay ++ [.wake (.run c.next)])

/-! ## Steps -/

def step (c : Consumer κ) (n : Negotiator α) (queue : String) : Event κ → Effect κ α
  | .deliver channel mode fresh d => c.deliver channel mode fresh d
  | .run id => match c.find? id with
    | some t => match t.phase with
      | .spawned => c.run n queue t
      | _ => (c, [])
    | none => (c, [])
  | .returned id result => match c.find? id with
    | some t => match t.phase with
      | .handling => c.returned queue t result
      | _ => (c, [])
    | none => (c, [])
  | .clone h => if c.holds (.manual h) then (c.hand (.manual h), []) else (c, [])
  | .drop h => if c.holds (.manual h) then { c with held := c.held.erase h }.release (.manual h) else (c, [])
  | .settle k a v => if c.holds a then c.acksStep (.settle (.application k) a v) else (c, [])
  | .answered p result => c.acksStep (.answered p result)
  | .look p => c.acksStep (.look p)

end Consumer
end BrokerClient
