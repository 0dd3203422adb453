import BrokerClient.Acks
import BrokerClient.Scripted.Broker

/-!
# Settling by script

The acknowledgements of one consumer on one channel of a scripted broker. Handles are kept by name until
they are dropped or another handle takes their name.
-/

namespace BrokerClient.Scripted.Settling

inductive Command where
  | manual (holder : String) (tag : Nat)
  | auto (holder : String)
  | clone (source holder : String)
  | settle (name holder : String) (v : Verdict)
  | drop (holder : String)
  | drained (name : String)
  | advance (ms : Nat)
  | cancel (name : String)
  | idle

/-- What a call returns: the end of settling, the end of waiting, or that there is no handle. -/
inductive Result where
  | settled (o : Outcome)
  | drained
  | noHandle

inductive Event where
  | acks (e : Acks.Event Nat)
  /-- The broker answers a call. -/
  | answered (caller : Nat) (channel : ChannelId) (call : ChannelCall) (failure : Option String)

structure State where
  acks : Acks Nat := {}
  broker : Broker
  handles : Dictionary Acknowledger := .nil

abbrev World := Scripted.World State Event Result

def modifyBroker (w : World) (b : Broker) : World := { w with state := { w.state with broker := b } }

def act (w : World) : Acks.Action Nat → World
  | .log entry => w.log entry
  | .call caller channel call =>
    let (play, broker) := w.state.broker.record (.on channel call)
    (modifyBroker w broker).play play (.answered caller channel call play.failure)
  | .wake caller => w.later (.acks (.look caller))
  | .settled caller result => w.finish caller (.settled result)
  | .drained caller => w.finish caller .drained

def step (w : World) (e : Acks.Event Nat) : World :=
  let (acks, actions) := w.state.acks.step e
  actions.foldl act { w with state := { w.state with acks } }

def handle (w : World) : Event → World
  | .acks e => step w e
  | .answered caller channel call failure =>
    if (w.state.acks.settlement? caller).isSome then
      let (result, broker) := w.state.broker.answered channel call failure
      step (modifyBroker w broker) (.answered caller result)
    else w

def settle (w : World) : World := w.settle handle World.patience

/-- Drops the handle of a name, if there is one. -/
def dropHandle (w : World) : Option Acknowledger → World
  | some (.manual h) => step w (.drop h)
  | _ => w

/-- Keeps a handle under a name; an earlier one of that name is dropped. -/
def keep (w : World) (name : String) (a : Acknowledger) : World :=
  let earlier := w.state.handles.get? name
  dropHandle { w with state := { w.state with handles := w.state.handles.insert name a } } earlier

def run (w : World) : Command → World
  | .manual name tag =>
    let h := w.state.acks.next
    settle (keep (step w (.register 0 tag)) name (.manual h))
  | .auto name => settle (keep w name .auto)
  | .clone source name => match w.state.handles.get? source with
    | none => w
    | some .auto => settle (keep w name .auto)
    | some (.manual h) => settle (keep (step w (.clone h)) name (.manual h))
  | .settle name holder v =>
    let (id, w) := w.start name
    match w.state.handles.get? holder with
    | none => w.finish id .noHandle
    | some a => settle (step w (.settle id a v))
  | .drop name =>
    let found := w.state.handles.get? name
    settle (dropHandle { w with state := { w.state with handles := w.state.handles.erase name } } found)
  | .drained name =>
    let (id, w) := w.start name
    settle (step w (.await id))
  | .advance ms => w.advance handle ms
  | .cancel name => match w.abandon name with
    | (none, w) => w
    | (some id, w) => settle (step w (.abandon id))
  | .idle => w

/-- A handle as it is shown. -/
structure HandleView where
  name : String
  manual : Bool
  pending : Bool
  tag : Option Nat

structure View where
  outstanding : Nat
  calls : List Call
  handles : List HandleView

def viewHandle (s : State) (name : String) (a : Acknowledger) : HandleView :=
  ⟨name, a.isManual, s.acks.isPending a, match a with
    | .auto => none
    | .manual h => (s.acks.find? h).map (·.tag)⟩

def view (w : World) : View × World :=
  let (calls, broker) := w.state.broker.report
  (⟨w.state.acks.outstanding, calls, w.state.handles.toList.map fun e => viewHandle w.state e.1 e.2⟩, modifyBroker w broker)

/-- The reports after each of some steps. -/
def reports (script : Script) (commands : List Command) : List (Report Result × View) :=
  let start : World := { state := { broker := { script, made := 1 } } }
  (commands.foldl (fun (w, shown) command =>
    let (view, w) := view (run w command)
    let (report, w) := w.report
    (w, (report, view) :: shown)) (start, [])).2.reverse

end BrokerClient.Scripted.Settling
