import BrokerClient.Dispatcher
import BrokerClient.Scripted.Broker

/-!
# Consuming by script

A dispatcher over a scripted broker, with a handler that follows a script of its own: it waits, settles
the delivery, drops its handle or keeps it under the delivery's tag, and may fail in the end.
-/

namespace BrokerClient.Scripted.Consuming

/-- What a handler does with its handle. -/
inductive Deed where
  | keep
  | drop
  | settle (v : Verdict)
deriving DecidableEq, Repr

/-- What a handler does with a message. -/
structure Behaviour where
  ms : Nat := 0
  deed : Deed := .keep
  failure : Option String := none
deriving DecidableEq, Repr

/-- How a handler ends that did what it was to do. -/
def Behaviour.outcome (b : Behaviour) : Outcome :=
  match b.failure with
  | some text => .error (.consumer text)
  | none => .ok ()

/-- Who asks to settle a delivery: a step of the script, or a handler. -/
inductive Asker where
  | command (id : Nat)
  | handler (t : TaskId)
deriving DecidableEq, Repr

inductive Command where
  | call (name : String) (r : Dispatcher.Request)
  | deliver (channel : Option ChannelId) (fresh : String) (d : Delivery) (b : Behaviour)
  | deliverFailure (channel : Option ChannelId) (text : String)
  | endDeliveries (channel : Option ChannelId)
  | breakChannel (channel : Option ChannelId)
  | shutdown
  | settle (name holder : String) (v : Verdict)
  | drop (holder : String)
  | advance (ms : Nat)
  | idle

/-- What a call returns: an outcome, or that there is no handle. -/
inductive Result where
  | outcome (o : Outcome)
  | noHandle

inductive Event where
  | dispatcher (e : Dispatcher.Event Asker)
  /-- The broker answers the request for a channel. -/
  | made (id : Dispatcher.RequestId) (failure : Option String)
  /-- The broker answers a call on a channel. -/
  | answered (p : Party Asker) (channel : ChannelId) (call : ChannelCall) (failure : Option String)
  /-- A handler has waited. -/
  | waited (t : TaskId) (tag : Nat) (a : Acknowledger) (b : Behaviour)
  /-- A handler's request to settle was answered. -/
  | settled (t : TaskId) (result : Outcome)

/-- A message as the handler gets it. -/
structure Handled where
  message : Incoming String
  context : TraceContext
  manual : Bool
  pending : Bool

/-- A handler that waits for the answer to its request. -/
structure Handler where
  task : TaskId
  ack : Acknowledger
  behaviour : Behaviour

structure State where
  dispatcher : Dispatcher Asker := {}
  broker : Broker
  /-- The handles that handlers kept. -/
  kept : Dictionary Acknowledger := .nil
  /-- What the handler does with the next message. -/
  behaviour : Behaviour := {}
  handlers : List Handler := []
  /-- What was handled and which spans ended since the last report, last first. -/
  handled : List Handled := []
  spans : List Span := []
  /-- Whether the last delivery found somebody who takes it. -/
  sent : Option Bool := none

abbrev World := Scripted.World State Event Result

def modifyBroker (w : World) (b : Broker) : World := { w with state := { w.state with broker := b } }

/-- Asks the broker for something. -/
def request (w : World) (call : Call) (answer : Option String → Event) : World :=
  let (play, broker) := w.state.broker.record call
  (modifyBroker w broker).play play (answer play.failure)

/-- Shows a message, and begins the handler's wait. -/
def receive (w : World) (t : TaskId) (context : TraceContext) (m : Incoming String) (a : Acknowledger) : World :=
  let shown : Handled := ⟨m, context, a.isManual, w.state.dispatcher.consumer.acks.isPending a⟩
  let b := w.state.behaviour
  let w := { w with state := { w.state with handled := shown :: w.state.handled } }
  let go : Event := .waited t m.receipt.tag a b
  if b.ms = 0 then w.soon go else w.after b.ms go

def act (w : World) : Dispatcher.Action Asker String → World
  | .log entry => w.log entry
  | .create id => request w .createChannel (.made id)
  | .call p channel c => request w (.on channel c) (.answered p channel c)
  | .timer p ms => w.after ms (.dispatcher (.timeout p))
  | .wake e => w.later (.dispatcher e)
  | .handle t context m a => receive w t context m a
  | .span s => { w with state := { w.state with spans := s :: w.state.spans } }
  | .consumed _ _ => w
  | .settled (.command id) result => w.finish id (.outcome result)
  | .settled (.handler t) result => w.soon (.settled t result)
  | .finish id result => w.finish id (.outcome result)

section

variable (s : Dispatcher.Setup String)

def step (w : World) (e : Dispatcher.Event Asker) : World :=
  let (dispatcher, actions) := w.state.dispatcher.step s w.state.broker.isOpen e
  actions.foldl act { w with state := { w.state with dispatcher } }

/-- Drops a handle of the application. -/
def dropHandle (w : World) : Option Acknowledger → World
  | some (.manual h) => step s w (.consumer (.drop h))
  | _ => w

/-- Keeps a handle under a name; an earlier one of that name is dropped. -/
def keep (w : World) (name : String) (a : Acknowledger) : World :=
  let earlier := w.state.kept.get? name
  dropHandle s { w with state := { w.state with kept := w.state.kept.insert name a } } earlier

/-- Ends a handler, which drops the handle it did not keep. -/
def endHandler (w : World) (t : TaskId) (a : Option Acknowledger) (result : Outcome) : World :=
  step s (dropHandle s w a) (.consumer (.returned t result))

/-- A handler acts on its handle. -/
def perform (w : World) (t : TaskId) (tag : Nat) (a : Acknowledger) (b : Behaviour) : World :=
  match b.deed with
  | .keep => endHandler s (keep s w (toString tag) a) t none b.outcome
  | .drop => endHandler s w t (some a) b.outcome
  | .settle v =>
    let w := { w with state := { w.state with handlers := ⟨t, a, b⟩ :: w.state.handlers } }
    step s w (.consumer (.settle (.handler t) a v))

/-- A handler's request was answered; a failure is the handler's. -/
def conclude (w : World) (t : TaskId) (result : Outcome) : World :=
  match w.state.handlers.find? (·.task == t) with
  | none => w
  | some x =>
    let w := { w with state := { w.state with handlers := w.state.handlers.filter (·.task != t) } }
    endHandler s w t (some x.ack) (match result with
      | .ok _ => x.behaviour.outcome
      | .error e => .error e)

def handle (w : World) : Event → World
  | .dispatcher e => step s w e
  | .made id failure =>
    let (result, broker) := w.state.broker.channelMade failure
    step s (modifyBroker w broker) (.created id result)
  | .answered p channel call failure =>
    if w.state.dispatcher.awaits p then
      let (result, broker) := w.state.broker.answered channel call failure
      step s (modifyBroker w broker) (.answered p result)
    else w
  | .waited t tag a b => perform s w t tag a b
  | .settled t result => conclude s w t result

def settle (w : World) : World := w.settle (handle s) World.patience

/-- The loop that takes the deliveries of a channel, or of the newest. -/
def taker? (w : World) (channel : Option ChannelId) : Option Dispatcher.LoopId := do
  let c ← w.state.broker.chosen channel
  let l ← w.state.dispatcher.loops.find? fun l => l.channel == c && l.phase == .taking
  return l.id

/-- Sends something to the loop of a channel, if there is one. -/
def send (w : World) (channel : Option ChannelId) (x : Dispatcher.Item) : World :=
  match taker? w channel with
  | none => w
  | some id => settle s (step s w (.item id x))

/-- Remembers whether somebody takes what is sent. -/
def noteSent (w : World) (channel : Option ChannelId) : World :=
  { w with state := { w.state with sent := some (taker? w channel).isSome } }

def run (w : World) : Command → World
  | .call name r =>
    let (id, w) := w.start name
    settle s (step s w (.call id r))
  | .deliver channel fresh d b =>
    send s (noteSent { w with state := { w.state with behaviour := b } } channel) channel (.delivery fresh d)
  | .deliverFailure channel text => send s (noteSent w channel) channel (.failure (.consumer text))
  | .endDeliveries channel => send s w channel .ended
  | .breakChannel channel => modifyBroker w (w.state.broker.breakChannel channel)
  | .shutdown => settle s (step s w .shutdown)
  | .settle name holder v =>
    let (id, w) := w.start name
    match w.state.kept.get? holder with
    | none => w.finish id .noHandle
    | some a => settle s (step s w (.consumer (.settle (.command id) a v)))
  | .drop holder =>
    let found := w.state.kept.get? holder
    settle s (dropHandle s { w with state := { w.state with kept := w.state.kept.erase holder } } found)
  | .advance ms => w.advance (handle s) ms
  | .idle => w

end

structure View where
  handled : List Handled
  spans : List Span
  sent : Option Bool
  status : Dispatcher.Status
  outstanding : Nat
  calls : List Call
  channels : List ChannelId

def view (w : World) : View × World :=
  let s := w.state
  let (calls, broker) := s.broker.report
  (⟨s.handled.reverse, s.spans.reverse, s.sent, s.dispatcher.status, s.dispatcher.consumer.outstanding, calls,
      broker.open?⟩,
    { w with state := { s with broker, handled := [], spans := [], sent := none } })

/-- The reports after each of some steps. -/
def reports (s : Dispatcher.Setup String) (script : Script) (commands : List Command) :
    List (Report Result × View) :=
  let start : World := { state := { broker := { script } } }
  (commands.foldl (fun (w, shown) command =>
    let (view, w) := view (run s w command)
    let (report, w) := w.report
    (w, (report, view) :: shown)) (start, [])).2.reverse

end BrokerClient.Scripted.Consuming
