import BrokerClient.Broker.Call
import BrokerClient.Scripted.World

/-!
# Scripted brokers

A broker on one connection that keeps a record of the calls it gets and answers them as a script says. It
numbers its channels as they are made and knows which of them are open.
-/

namespace BrokerClient.Scripted

structure Broker where
  script : Script
  /-- The calls since the last report, last first. -/
  calls : List Call := []
  /-- How many channels were made. -/
  made : Nat := 0
  closed : List ChannelId := []

/-- The name of a call in scripts. -/
def callName : Call → String
  | .createChannel => "create_channel"
  | .on _ call => match call with
    | .declareExchange .. => "exchange_declare"
    | .declareQueue .. => "queue_declare"
    | .bind _ => "queue_bind"
    | .publish .. => "basic_publish"
    | .qos _ => "basic_qos"
    | .consume .. => "basic_consume"
    | .cancel _ => "basic_cancel"
    | .ack _ => "basic_ack"
    | .reject .. => "basic_reject"
    | .close => "close"

namespace Broker

/-- Records a call and looks up what it does. -/
def record (b : Broker) (call : Call) : Play × Broker :=
  let (play, script) := b.script.next (callName call)
  (play, { b with script, calls := call :: b.calls })

def isOpen (b : Broker) (c : ChannelId) : Bool := c < b.made && !b.closed.contains c

/-- The open channels, oldest first. -/
def open? (b : Broker) : List ChannelId := (List.range b.made).filter b.isOpen

/-- The channel of a number, or the newest, if there is one. -/
def chosen (b : Broker) (c : Option ChannelId) : Option ChannelId :=
  let c := c.getD (b.made - 1)
  if c < b.made then some c else none

/-- Makes a channel not open. -/
def breakChannel (b : Broker) (c : Option ChannelId) : Broker :=
  match b.chosen c with
  | some c => { b with closed := c :: b.closed }
  | none => b

/-- A new channel, or the failure to make one. -/
def channelMade (b : Broker) : Option String → Except Error ChannelId × Broker
  | some text => (.error (.channel text), b)
  | none => (.ok b.made, { b with made := b.made + 1 })

/-- The outcome of a call on a channel. A channel that was closed is not open. -/
def answered (b : Broker) (c : ChannelId) (call : ChannelCall) : Option String → Outcome × Broker
  | some text => (.error (call.failure text), b)
  | none => (.ok (), match call with
    | .close => { b with closed := c :: b.closed }
    | _ => b)

/-- Answers a call on the first channel at once. -/
def answerNow (b : Broker) (call : ChannelCall) : Outcome × Broker :=
  let (play, b) := b.record (.on 0 call)
  b.answered 0 call play.failure

/-- The calls since the last report. -/
def report (b : Broker) : List Call × Broker := (b.calls.reverse, { b with calls := [] })

end Broker
end BrokerClient.Scripted
