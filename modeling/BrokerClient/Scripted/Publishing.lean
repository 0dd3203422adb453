import BrokerClient.Publisher
import BrokerClient.Scripted.Broker

/-!
# Publishing by script

A publisher over a scripted broker.
-/

namespace BrokerClient.Scripted.Publishing

inductive Command where
  /-- A message that is encoded, or could not be, with the caller's trace context and an identifier. -/
  | publish (name : String) (background : Bool) (context : TraceContext) (messageId : String)
      (message : Except Error (Outgoing Bytes))
  | breakChannel (channel : Option ChannelId)
  | close (name : String)
  | advance (ms : Nat)
  | idle

/-- What a call returns: the end of publishing, the end of an errand in the background, or the end of
closing. -/
inductive Result where
  | published (o : Outcome)
  | ended
  | closed

inductive Event where
  | publisher (e : Publisher.Event)
  /-- The broker answers the request for a channel. -/
  | made (id : BorrowId) (failure : Option String)
  /-- A channel begins to be closed. -/
  | closing (closer : Pool.Closer) (c : ChannelId)
  /-- The broker answers the request to close a channel. -/
  | channelClosed (closer : Pool.Closer) (c : ChannelId) (failure : Option String)
  /-- The broker answers the request to publish. -/
  | sent (id : BorrowId) (c : ChannelId) (call : ChannelCall) (failure : Option String)

structure State where
  publisher : Publisher
  broker : Broker
  /-- The calls that nobody waits for. -/
  background : List BorrowId := []

abbrev World := Scripted.World State Event Result

def modifyBroker (w : World) (b : Broker) : World := { w with state := { w.state with broker := b } }

/-- Asks the broker for something. -/
def request (w : World) (call : Call) (answer : Option String → Event) : World :=
  let (play, broker) := w.state.broker.record call
  (modifyBroker w broker).play play (answer play.failure)

def act (w : World) : Publisher.Action → World
  | .log entry => w.log entry
  | .create id => request w .createChannel (.made id)
  | .closeChannel .nobody c => w.later (.closing .nobody c)
  | .closeChannel closer c => request w (.on c .close) (.channelClosed closer c)
  | .wake e => w.later (.publisher e)
  | .send id c call => request w (.on c call) (.sent id c call)
  | .finish id result => w.finish id (if w.state.background.contains id then .ended else .published result)
  | .closed call => w.finish call .closed

def step (w : World) (e : Publisher.Event) : World :=
  let (publisher, actions) := w.state.publisher.step w.state.broker.isOpen e
  actions.foldl act { w with state := { w.state with publisher } }

def handle (w : World) : Event → World
  | .publisher e => step w e
  | .made id failure =>
    let (result, broker) := w.state.broker.channelMade failure
    step (modifyBroker w broker) (.pool (.created id result))
  | .closing closer c => request w (.on c .close) (.channelClosed closer c)
  | .channelClosed closer c failure =>
    let (result, broker) := w.state.broker.answered c .close failure
    step (modifyBroker w broker) (.pool (.itemClosed closer result))
  | .sent id c call failure =>
    let (result, broker) := w.state.broker.answered c call failure
    step (modifyBroker w broker) (.pool (.worked id result))

def settle (w : World) : World := w.settle handle World.patience

def run (w : World) : Command → World
  | .publish name background context messageId message =>
    let (id, w) := w.start name
    -- somebody waits for a message that could not be encoded
    let w := if background && message.isOk then
      { w with state := { w.state with background := id :: w.state.background } } else w
    settle (step w (.ofMessage id background context messageId message))
  | .breakChannel c => modifyBroker w (w.state.broker.breakChannel c)
  | .close name =>
    let (id, w) := w.start name
    settle (step w (.pool (.close id)))
  | .advance ms => w.advance handle ms
  | .idle => w

structure View where
  idle : Nat
  calls : List Call
  channels : List ChannelId

def view (w : World) : View × World :=
  let (calls, broker) := w.state.broker.report
  (⟨w.state.publisher.pool.idle.length, calls, broker.open?⟩, modifyBroker w broker)

/-- The reports after each of some steps. -/
def reports (pool : Pool ChannelId) (script : Script) (commands : List Command) : List (Report Result × View) :=
  let start : World := { state := { publisher := { pool }, broker := { script } } }
  (commands.foldl (fun (w, shown) command =>
    let (view, w) := view (run w command)
    let (report, w) := w.report
    (w, (report, view) :: shown)) (start, [])).2.reverse

end BrokerClient.Scripted.Publishing
