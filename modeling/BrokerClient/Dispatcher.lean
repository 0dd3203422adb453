import BrokerClient.Consumer
import BrokerClient.Topology.Install

/-!
# Dispatching

A dispatcher consumes one queue on a channel of its own. It is stopped or started. Starting installs what
the queue needs, sets the prefetch count and begins to consume; a loop then takes the deliveries one by
one and spawns a task for each. It goes back to stopped when it is told to, when the deliveries end, or
when the connection shuts down. Before a channel is closed, outstanding acknowledgements are waited for,
up to a time. Calls that start or stop take turns; the loop and a shutdown come between them. The
dispatcher is a state and a step on events, where what happens between two waits is one step.
-/

namespace BrokerClient

namespace Dispatcher

/-- What stays the same for a dispatcher (`RabbitMQDispatcher`). -/
structure Setup (α : Type) where
  queue : String
  /-- The name under which the queue is consumed. -/
  tag : String
  config : ConsumerConfig := {}
  topology : Topology := {}
  negotiator : Negotiator α

namespace Setup

variable {α : Type}

/-- Installs, before consuming, the part of a topology that the queue needs (`RabbitMQDispatcher::with_topology`). -/
def withTopology (s : Setup α) (t : Topology) : Setup α := { s with topology := t.forQueue s.queue }

/-- How deliveries are acknowledged (`RabbitMQDispatcher::ack_mode`): on the direct reply-to queue always by the
broker. -/
def ackMode (s : Setup α) : AckMode := if s.queue = directReplyTo then .auto else s.config.ackMode

/-- The calls that begin to consume on a channel (`RabbitMQDispatcher::subscribe`). -/
def subscription (s : Setup α) : List ChannelCall :=
  s.topology.calls ++ [.qos s.config.prefetch, .consume s.queue s.tag (s.ackMode = .auto)]

end Setup

/-- Whether a queue is consumed (`ConsumerState`). -/
inductive Status where
  | stopped
  | started
deriving DecidableEq, Repr

abbrev RequestId := Nat
abbrev LoopId := Nat

inductive Request where
  | start
  | stop
deriving DecidableEq, Repr

/-- A channel that is consumed, and the loop that takes its deliveries (`Running`). -/
structure Run where
  channel : ChannelId
  loop : LoopId
deriving DecidableEq, Repr

/-- What a call does once a channel is closed. -/
inductive Next where
  /-- A call that starts goes on with a channel of its own. -/
  | connect
  /-- A call that stops finds nothing started. -/
  | refuse
  /-- A call that stops is done, with the outcome of cancelling. -/
  | stopped (result : Outcome)
  /-- A call that starts has failed. -/
  | failed (e : Error)

/-- How far the call has come whose turn it is. -/
inductive Phase where
  /-- It was given the turn and has not run since. -/
  | granted (r : Request)
  | opening
  /-- A call to the broker is in flight, and others follow. -/
  | subscribing (channel : ChannelId) (call : ChannelCall) (rest : List ChannelCall)
  | cancelling (run : Run)
  /-- It waits until nothing is outstanding, and then closes a channel. -/
  | draining (channel : ChannelId) (next : Next)
  | closing (channel : ChannelId) (next : Next)

inductive LoopPhase where
  | taking
  | draining
  | closing
deriving DecidableEq, Repr

/-- A loop that has neither ended nor been aborted (`dispatch_loop`). -/
structure Loop where
  id : LoopId
  channel : ChannelId
  phase : LoopPhase := .taking
deriving DecidableEq, Repr

/-- What comes out of the deliveries of a channel. -/
inductive Item where
  /-- A delivery, with a correlation identifier for a request that has none. -/
  | delivery (fresh : String) (d : Delivery)
  | failure (e : Error)
  | ended

inductive Event (κ : Type) where
  | call (id : RequestId) (r : Request)
  /-- A call that waited runs. -/
  | turn (id : RequestId)
  | created (id : RequestId) (result : Except Error ChannelId)
  | item (id : LoopId) (x : Item)
  | answered (p : Party κ) (result : Outcome)
  /-- The time is over for which somebody waits for acknowledgements. -/
  | timeout (p : Party κ)
  /-- The connection shut down. -/
  | shutdown
  | consumer (e : Consumer.Event κ)

inductive Action (κ α : Type) where
  | log (entry : LogEntry)
  | create (id : RequestId)
  | call (p : Party κ) (channel : ChannelId) (c : ChannelCall)
  | timer (p : Party κ) (ms : Nat)
  | wake (e : Event κ)
  | handle (t : TaskId) (context : TraceContext) (message : Incoming α) (a : Acknowledger)
  | span (s : Span)
  | consumed (t : TaskId) (result : Outcome)
  | settled (k : κ) (result : Outcome)
  | finish (id : RequestId) (result : Outcome)

end Dispatcher

open Dispatcher in
/-- The state of a `RabbitMQDispatcher`, with the calls that start and stop it. -/
structure Dispatcher (κ : Type) where
  status : Status := .stopped
  /-- The call whose turn it is. -/
  current : Option (RequestId × Phase) := none
  waiting : List (RequestId × Request) := []
  /-- What the last successful start left to be released. -/
  running : Option Run := none
  loops : List Loop := []
  /-- The name of the next loop. -/
  nextLoop : LoopId := 0
  consumer : Consumer κ := {}

namespace Dispatcher

variable {κ α : Type} [DecidableEq κ]

/-- A step's new state, and what it does. -/
abbrev Effect (κ α : Type) := Dispatcher κ × List (Action κ α)

def loop? (d : Dispatcher κ) (id : LoopId) : Option Loop := d.loops.find? (·.id == id)

def dropLoop (d : Dispatcher κ) (id : LoopId) : Dispatcher κ := { d with loops := d.loops.filter (·.id != id) }

/-- Moves a loop to a phase. -/
def moveLoop (d : Dispatcher κ) (id : LoopId) (phase : LoopPhase) : Dispatcher κ :=
  { d with loops := d.loops.map fun l => if l.id = id then { l with phase } else l }

/-- Ends a loop, whatever it was doing. -/
def abort (d : Dispatcher κ) (id : LoopId) : Dispatcher κ :=
  { d.dropLoop id with consumer := d.consumer.abandon (.loop id) }

/-! ## Reports -/

def startedReport (s : Setup α) : LogEntry :=
  .info "consumer started" [("queue", s.queue), ("prefetch", toString s.config.prefetch)]

def startFailure (s : Setup α) (e : Error) : LogEntry :=
  .error "failure to start consumer" [("error", e.message), ("queue", s.queue)]

def stoppedReport (s : Setup α) : LogEntry := .info "consumer stopped" [("queue", s.queue)]

def cancelledReport (s : Setup α) : LogEntry := .warn "consumer cancelled by broker" [("queue", s.queue)]

def shutdownReport (s : Setup α) : LogEntry :=
  .warn "connection shut down, consumer stopped" [("queue", s.queue)]

def itemFailure (s : Setup α) (e : Error) : LogEntry :=
  .error "errors consume msg" [("error", e.message), ("queue", s.queue)]

def drainReport (s : Setup α) (outstanding : Nat) : LogEntry :=
  .warn "drain timeout elapsed with unsettled deliveries"
    [("queue", s.queue), ("outstanding", toString outstanding)]

/-- The report about a channel that could not be closed. -/
def closeReport (s : Setup α) : Outcome → List (Action κ α)
  | .ok _ => []
  | .error e => [.log (.error "failure to close consumer channel" [("error", e.message), ("queue", s.queue)])]

/-! ## Calls -/

/-- Ends a call, and gives the turn to the next. -/
def finish (d : Dispatcher κ) (id : RequestId) (result : Outcome) : Effect κ α :=
  match d.waiting with
  | [] => ({ d with current := none }, [.finish id result])
  | (next, r) :: waiting =>
    ({ d with current := some (next, .granted r), waiting }, [.wake (.turn next), .finish id result])

/-- Goes on once a channel is closed. -/
def proceed (s : Setup α) (d : Dispatcher κ) (id : RequestId) : Next → Effect κ α
  | .connect => ({ d with current := some (id, .opening) }, [.create id])
  | .refuse => d.finish id (.error (.consumerState s.queue "stopped"))
  | .stopped result =>
    let (d, actions) := d.finish id result
    (d, .log (stoppedReport s) :: actions)
  | .failed e => d.finish id (.error e)

/-- Closes a channel if it is open, and goes on (`close_channel`). -/
def close (s : Setup α) (isOpen : ChannelId → Bool) (d : Dispatcher κ) (id : RequestId) (channel : ChannelId)
    (next : Next) : Effect κ α :=
  if isOpen channel then
    ({ d with current := some (id, .closing channel next) }, [.call (.call id) channel .close])
  else d.proceed s id next

/-- Closes a channel when nothing is outstanding or the time for that is over (`drain`). -/
def drain (s : Setup α) (isOpen : ChannelId → Bool) (d : Dispatcher κ) (id : RequestId) (channel : ChannelId)
    (next : Next) : Effect κ α :=
  if d.consumer.outstanding = 0 then d.close s isOpen id channel next
  else
    ({ d with current := some (id, .draining channel next), consumer := d.consumer.await (.call id) },
      [.timer (.call id) s.config.drainTimeout])

/-- Releases what is left of a consumer that stopped by itself, if anything is (`RabbitMQDispatcher::release_stale`).
-/
def release (s : Setup α) (isOpen : ChannelId → Bool) (d : Dispatcher κ) (id : RequestId) (next : Next) :
    Effect κ α :=
  match d.running with
  | none => d.proceed s id next
  | some run => ({ d with running := none }.abort run.loop).drain s isOpen id run.channel next

/-- The turn of a call that starts (`RabbitMQDispatcher::start`). -/
def start (s : Setup α) (isOpen : ChannelId → Bool) (d : Dispatcher κ) (id : RequestId) : Effect κ α :=
  match d.status with
  | .started => d.finish id (.error (.consumerState s.queue "started"))
  | .stopped => d.release s isOpen id .connect

/-- The turn of a call that stops (`RabbitMQDispatcher::stop`). -/
def stop (s : Setup α) (isOpen : ChannelId → Bool) (d : Dispatcher κ) (id : RequestId) : Effect κ α :=
  match d.status with
  | .stopped => d.release s isOpen id .refuse
  | .started =>
    let d := { d with status := .stopped }
    match d.running with
    | none => d.finish id (.ok ())
    | some run =>
      ({ d with running := none, current := some (id, .cancelling run) },
        [.call (.call id) run.channel (.cancel s.tag)])

def serve (s : Setup α) (isOpen : ChannelId → Bool) (d : Dispatcher κ) (id : RequestId) : Request → Effect κ α
  | .start => d.start s isOpen id
  | .stop => d.stop s isOpen id

/-- A new call runs, or waits for its turn. -/
def call (s : Setup α) (isOpen : ChannelId → Bool) (d : Dispatcher κ) (id : RequestId) (r : Request) : Effect κ α :=
  match d.current with
  | none => d.serve s isOpen id r
  | some _ => ({ d with waiting := d.waiting ++ [(id, r)] }, [])

/-- Spawns the loop of a channel that is consumed, where `RabbitMQDispatcher::start` ends. -/
def run (d : Dispatcher κ) (channel : ChannelId) : Dispatcher κ :=
  { d with
    status := .started
    running := some ⟨channel, d.nextLoop⟩
    loops := d.loops ++ [⟨d.nextLoop, channel, .taking⟩]
    nextLoop := d.nextLoop + 1 }

/-- Issues the next call of a subscription (`RabbitMQDispatcher::subscribe`); after the last, the consumer is started.
-/
def subscribe (s : Setup α) (d : Dispatcher κ) (id : RequestId) (channel : ChannelId) :
    List ChannelCall → Effect κ α
  | c :: rest =>
    ({ d with current := some (id, .subscribing channel c rest) }, [.call (.call id) channel c])
  | [] =>
    let (d, actions) := (d.run channel).finish id (.ok ())
    (d, .log (startedReport s) :: actions)

/-- Goes on with the broker's answer to a call. -/
def callAnswered (s : Setup α) (isOpen : ChannelId → Bool) (d : Dispatcher κ) (id : RequestId) (result : Outcome) :
    Phase → Effect κ α
  | .subscribing channel _ rest => match result with
    | .ok _ => d.subscribe s id channel rest
    | .error e =>
      let (d, actions) := d.close s isOpen id channel (.failed e)
      (d, .log (startFailure s e) :: actions)
  | .cancelling run => (d.abort run.loop).drain s isOpen id run.channel (.stopped result)
  | .closing _ next =>
    let (d, actions) := d.proceed s id next
    (d, closeReport s result ++ actions)
  | .granted _ | .opening | .draining .. => (d, [])

/-! ## The loop -/

/-- Closes the channel of a loop if it is open, which ends the loop. -/
def closeLoop (isOpen : ChannelId → Bool) (d : Dispatcher κ) (l : Loop) : Effect κ α :=
  if isOpen l.channel then (d.moveLoop l.id .closing, [.call (.loop l.id) l.channel .close])
  else (d.dropLoop l.id, [])

/-- The deliveries of a channel ended, and with them the `while` of `dispatch_loop`. -/
def ended (s : Setup α) (isOpen : ChannelId → Bool) (d : Dispatcher κ) (l : Loop) : Effect κ α :=
  match d.status with
  | .stopped => (d.dropLoop l.id, [])
  | .started =>
    let d := { d with status := .stopped }
    if d.consumer.outstanding = 0 then
      let (d, actions) := d.closeLoop isOpen l
      (d, .log (cancelledReport s) :: actions)
    else
      ({ d.moveLoop l.id .draining with consumer := d.consumer.await (.loop l.id) },
        [.log (cancelledReport s), .timer (.loop l.id) s.config.drainTimeout])

/-! ## Deliveries -/

/-- Somebody has waited for acknowledgements long enough. -/
def drained (s : Setup α) (isOpen : ChannelId → Bool) (d : Dispatcher κ) : Party κ → Effect κ α
  | .call id => match d.current with
    | some (current, .draining channel next) =>
      if current = id then d.close s isOpen id channel next else (d, [])
    | _ => (d, [])
  | .loop id => match d.loop? id with
    | some l => if l.phase = .draining then d.closeLoop isOpen l else (d, [])
    | none => (d, [])
  | .task _ | .application _ => (d, [])

/-- What an action of the consumer is for the dispatcher. -/
def act (s : Setup α) (isOpen : ChannelId → Bool) (d : Dispatcher κ) : Consumer.Action κ α → Effect κ α
  | .log entry => (d, [.log entry])
  | .call p channel c => (d, [.call p channel c])
  | .wake e => (d, [.wake (.consumer e)])
  | .handle t context message a => (d, [.handle t context message a])
  | .span x => (d, [.span x])
  | .consumed t result => (d, [.consumed t result])
  | .settled k result => (d, [.settled k result])
  | .drained p => d.drained s isOpen p

/-- The actions of the consumer, one after the other. -/
def actAll (s : Setup α) (isOpen : ChannelId → Bool) (d : Dispatcher κ) :
    List (Consumer.Action κ α) → Effect κ α
  | [] => (d, [])
  | a :: rest =>
    let (d, first) := d.act s isOpen a
    let (d, others) := d.actAll s isOpen rest
    (d, first ++ others)

def consumerStep (s : Setup α) (isOpen : ChannelId → Bool) (d : Dispatcher κ) (e : Consumer.Event κ) :
    Effect κ α :=
  let (consumer, actions) := d.consumer.step s.negotiator s.queue e
  { d with consumer }.actAll s isOpen actions

/-- A loop takes what comes next (`dispatch_loop`). -/
def take (s : Setup α) (isOpen : ChannelId → Bool) (d : Dispatcher κ) (l : Loop) : Item → Effect κ α
  | .delivery fresh x => d.consumerStep s isOpen (.deliver l.channel s.ackMode fresh x)
  | .failure e => (d, [.log (itemFailure s e)])
  | .ended => d.ended s isOpen l

/-! ## Steps -/

/-- Whether a call to the broker is in flight for somebody. -/
def awaits (d : Dispatcher κ) : Party κ → Bool
  | .call id => match d.current with
    | some (current, .subscribing ..) | some (current, .cancelling _) | some (current, .closing ..) =>
      current == id
    | _ => false
  | .loop id => (d.loop? id).any (·.phase == .closing)
  | p => (d.consumer.acks.settlement? p).isSome

/-- The broker answered somebody's call. -/
def answered (s : Setup α) (isOpen : ChannelId → Bool) (d : Dispatcher κ) (result : Outcome) :
    Party κ → Effect κ α
  | .call id => match d.current with
    | some (current, phase) => if current = id then d.callAnswered s isOpen id result phase else (d, [])
    | none => (d, [])
  | .loop id => if d.awaits (.loop id) then (d.dropLoop id, closeReport s result) else (d, [])
  | p => d.consumerStep s isOpen (.answered p result)

/-- The time is over for which somebody waits for acknowledgements. -/
def timeout (s : Setup α) (isOpen : ChannelId → Bool) (d : Dispatcher κ) (p : Party κ) : Effect κ α :=
  if p ∈ d.consumer.acks.waiting then
    let (d, actions) := { d with consumer := d.consumer.abandon p }.drained s isOpen p
    (d, .log (drainReport s d.consumer.outstanding) :: actions)
  else (d, [])

def step (s : Setup α) (isOpen : ChannelId → Bool) (d : Dispatcher κ) : Event κ → Effect κ α
  | .call id r => d.call s isOpen id r
  | .turn id => match d.current with
    | some (current, .granted r) => if current = id then d.serve s isOpen id r else (d, [])
    | _ => (d, [])
  | .created id result => match d.current with
    | some (current, .opening) =>
      if current = id then
        match result with
        | .error e => d.finish id (.error e)
        | .ok channel => d.subscribe s id channel s.subscription
      else (d, [])
    | _ => (d, [])
  | .item id x => match d.loop? id with
    | some l => if l.phase = .taking then d.take s isOpen l x else (d, [])
    | none => (d, [])
  | .answered p result => d.answered s isOpen result p
  | .timeout p => d.timeout s isOpen p
  | .shutdown =>
    ({ d with status := .stopped }, if d.status = .started then [.log (shutdownReport s)] else [])
  | .consumer e => d.consumerStep s isOpen e

end Dispatcher
end BrokerClient
