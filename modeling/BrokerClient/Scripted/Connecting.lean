import BrokerClient.Connection.Connector
import BrokerClient.Connection.Manager
import BrokerClient.Scripted.World

/-!
# Connecting by script

A connection manager over a connector that follows a script, or that has a client library connect to an address. At an
address that the library takes, a broker always answers. Connections are numbered as they are made.
-/

namespace BrokerClient.Scripted.Connecting

/-- How connections are made. -/
inductive Connector where
  | scripted (plays : List Play)
  | client (library : ClientLibrary) (address : String)

/-- What a step tells the world to do; a connection that is not named is the newest. -/
inductive Command where
  | acquire (name : String)
  | ask (name : String)
  | interrupt
  | close (connection : Option ConnectionId)
  | shutdown (connection : Option ConnectionId) (signal : Shutdown)
  | advance (ms : Nat)
  | cancel (name : String)
  | idle

inductive Event where
  | manager (e : Manager.Event)
  /-- The connector answers an attempt. -/
  | answered (call : CallId) (attempt : Nat) (failure : Option Error)

structure State where
  manager : Manager
  connector : Connector
  /-- How many connections were made. -/
  made : Nat := 0
  closed : List ConnectionId := []
  /-- When attempts were made since the last report, last first. -/
  attempts : List Nat := []

abbrev World := Scripted.World State Event (Except Error ConnectionId)

def State.isOpen (s : State) (c : ConnectionId) : Bool := c < s.made && !s.closed.contains c

/-- What a connector does with an attempt. -/
structure Turn where
  wait : Wait := .none
  failure : Option Error := none
  /-- Whether the attempt is on record. -/
  recorded : Bool := true

def Connector.next : Connector → Turn × Connector
  | .scripted [] => ({}, .scripted [])
  | .scripted (play :: plays) => ({ wait := play.wait, failure := play.failure.map .connection }, .scripted plays)
  | .client library address =>
    ({ failure := library.failure? address, recorded := false }, .client library address)

def act (w : World) : Manager.Action → World
  | .log entry => w.log entry
  | .connect call attempt budget =>
    let (turn, connector) := w.state.connector.next
    let attempts := if turn.recorded then w.now :: w.state.attempts else w.state.attempts
    let w := { w with state := { w.state with connector, attempts } }
    let w := w.play { wait := turn.wait } (.answered call attempt turn.failure)
    if turn.wait = .none then w else w.after budget (.manager (.ended call attempt .timedOut))
  | .pause call attempt ms => w.after ms (.manager (.resume call attempt))
  | .wake e => w.later (.manager e)
  | .finish call result => w.finish call result

def step (w : World) (e : Manager.Event) : World :=
  let (manager, actions) := w.state.manager.step w.state.isOpen w.now e
  actions.foldl act { w with state := { w.state with manager } }

/-- Whether an attempt's answer is still awaited. -/
def awaited (m : Manager) (call : CallId) (attempt : Nat) : Bool :=
  (m.find? call).any fun a => a.retry.attempts == attempt && !a.pausing && !m.interrupted a

def handle (w : World) : Event → World
  | .manager e => step w e
  | .answered call attempt (some e) => step w (.ended call attempt (.failed e))
  | .answered call attempt none =>
    if awaited w.state.manager call attempt then
      let c := w.state.made
      step { w with state := { w.state with made := c + 1 } } (.ended call attempt (.connected c))
    else step w (.ended call attempt .timedOut)

/-- The connection of a number, or the newest. -/
def chosen (s : State) (c : Option ConnectionId) : Option ConnectionId :=
  match c with
  | some c => if c < s.made then some c else none
  | none => if s.made = 0 then none else some (s.made - 1)

def close (w : World) (c : Option ConnectionId) : World :=
  match chosen w.state c with
  | none => w
  | some c => { w with state := { w.state with closed := c :: w.state.closed } }

def settle (w : World) : World := w.settle handle World.patience

def run (w : World) : Command → World
  | .acquire name =>
    let (id, w) := w.start name
    settle (w.later (.manager (.acquire id)))
  | .ask name =>
    let (id, w) := w.start name
    settle (w.later (.manager (.ask id)))
  | .interrupt => settle (step w .interrupt)
  | .close c => close w c
  | .shutdown c signal =>
    match chosen w.state c with
    | none => w
    | some _ => (close w c).log signal.report
  | .advance ms => w.advance handle ms
  | .cancel name =>
    match w.abandon name with
    | (none, w) => w
    | (some id, w) => settle (step w (.abandon id))
  | .idle => w

/-- The reports after each of some steps, with the times of the attempts in it. -/
def reports (policy : RetryPolicy) (connector : Connector) (commands : List Command) :
    List (Report (Except Error ConnectionId) × List Nat) :=
  let start : World := { state := { manager := { policy }, connector } }
  (commands.foldl (fun (w, shown) command =>
    let w := run w command
    let attempts := w.state.attempts.reverse
    let (report, w) := w.report
    ({ w with state := { w.state with attempts := [] } }, (report, attempts) :: shown)) (start, [])).2.reverse

end BrokerClient.Scripted.Connecting
