import BrokerClient.Pool
import BrokerClient.Scripted.Broker

/-!
# Lending by script

A pool of channels over a scripted broker. A borrower's item is kept under the borrower's name until it
is given back; work with an item takes some time and may fail.
-/

namespace BrokerClient.Scripted.Lending

/-- What an errand does with its item: it takes some time, then fails with a text or succeeds. -/
structure Work where
  ms : Nat := 0
  failure : Option String := none

inductive Command where
  | get (name : String)
  | giveBack (holder : String)
  /-- Work that the caller waits for, or work in the background. -/
  | errand (name : String) (background : Bool) (work : Work)
  | breakChannel (channel : Option ChannelId)
  | close (name : String)
  | advance (ms : Nat)
  | cancel (name : String)
  | idle

/-- What a call returns: a channel, the end of an errand in the background, or the end of closing. -/
inductive Result where
  | channel (c : Except Error ChannelId)
  | ended
  | closed

inductive Event where
  | pool (e : Pool.Event ChannelId)
  /-- The broker answers the request for a channel. -/
  | made (b : BorrowId) (failure : Option String)
  /-- A channel begins to be closed. -/
  | closing (closer : Pool.Closer) (c : ChannelId)
  /-- The broker answers the request to close a channel. -/
  | channelClosed (closer : Pool.Closer) (c : ChannelId) (failure : Option String)

/-- A borrower by its call: its name, its work, and its item once it has one. -/
structure Holder where
  id : BorrowId
  name : String
  purpose : Purpose
  work : Work := {}
  item : Option ChannelId := none

structure State where
  pool : Pool ChannelId
  broker : Broker
  holders : List Holder := []

abbrev World := Scripted.World State Event Result

def modifyBroker (w : World) (b : Broker) : World := { w with state := { w.state with broker := b } }

/-- Asks the broker for something. -/
def request (w : World) (call : Call) (answer : Option String → Event) : World :=
  let (play, broker) := w.state.broker.record call
  (modifyBroker w broker).play play (answer play.failure)

def holder? (s : State) (b : BorrowId) : Option Holder := s.holders.find? (·.id == b)

/-- Notes the item of a borrower. -/
def note (s : State) (b : BorrowId) (c : ChannelId) : State :=
  { s with holders := s.holders.map fun h => if h.id = b then { h with item := some c } else h }

def forget (s : State) (b : BorrowId) : State := { s with holders := s.holders.filter (·.id != b) }

/-- The outcome of the work of a borrower. -/
def outcome (h : Holder) : Outcome :=
  match h.work.failure with
  | some text => .error (.publishing text)
  | none => .ok ()

/-- What the call of a borrower returns when it fails or its work ends. -/
def returns (h : Holder) (result : Outcome) : Result :=
  if h.purpose = .errand true then .ended
  else .channel (result.map fun _ => h.item.getD 0)

def finish (w : World) (b : BorrowId) (result : Outcome) : World :=
  match holder? w.state b with
  | none => w
  | some h => { w with state := forget w.state b }.finish b (returns h result)

/-- A borrower keeps its item under its name, in the place of an earlier one. -/
def keep (w : World) (b : BorrowId) (c : ChannelId) : World :=
  let named := (holder? w.state b).map (·.name)
  let earlier := w.state.holders.filter fun h => h.id != b && some h.name == named && h.item.isSome && h.purpose == .keep
  let w := { w with state := note w.state b c }.finish b (.channel (.ok c))
  earlier.foldl (fun w h => { w with state := forget w.state h.id }.soon (.pool (.giveBack h.id))) w

def act (w : World) : Pool.Action ChannelId → World
  | .log entry => w.log entry
  | .create b => request w .createChannel (.made b)
  | .closeItem .nobody c => w.later (.closing .nobody c)
  | .closeItem closer c => request w (.on c .close) (.channelClosed closer c)
  | .wake e => w.later (.pool e)
  | .lend b c => keep w b c
  | .work b c =>
    let w := { w with state := note w.state b c }
    match holder? w.state b with
    | none => w
    | some h =>
      let done : Event := .pool (.worked b (outcome h))
      if h.work.ms = 0 then w.soon done else w.after h.work.ms done
  | .refuse b e => finish w b (.error e)
  | .finish b result => finish w b result
  | .closed call => w.finish call .closed

def step (w : World) (e : Pool.Event ChannelId) : World :=
  let (pool, actions) := w.state.pool.step w.state.broker.isOpen e
  actions.foldl act { w with state := { w.state with pool } }

def handle (w : World) : Event → World
  | .pool e => step w e
  | .made b failure =>
    if w.state.pool.awaitsItem b then
      let (result, broker) := w.state.broker.channelMade failure
      step (modifyBroker w broker) (.created b result)
    else w
  | .closing closer c => request w (.on c .close) (.channelClosed closer c)
  | .channelClosed closer c failure =>
    if w.state.pool.awaitsClose closer then
      let (result, broker) := w.state.broker.answered c .close failure
      step (modifyBroker w broker) (.itemClosed closer result)
    else w

def settle (w : World) : World := w.settle handle World.patience

/-- Starts a borrower. -/
def borrow (w : World) (name : String) (purpose : Purpose) (work : Work) : World :=
  let (id, w) := w.start name
  let w := { w with state := { w.state with holders := w.state.holders ++ [⟨id, name, purpose, work, none⟩] } }
  settle (step w (.borrow id purpose))

def run (w : World) : Command → World
  | .get name => borrow w name .keep {}
  | .giveBack name =>
    match w.state.holders.find? fun h => h.name == name && h.purpose == .keep && h.item.isSome with
    | none => w
    | some h => settle (step { w with state := forget w.state h.id } (.giveBack h.id))
  | .errand name background work => borrow w name (.errand background) work
  | .breakChannel c => modifyBroker w (w.state.broker.breakChannel c)
  | .close name =>
    let (id, w) := w.start name
    settle (step w (.close id))
  | .advance ms => w.advance handle ms
  | .cancel name =>
    match w.abandon name with
    | (none, w) => w
    | (some id, w) => settle (step (step w (.abandon id)) (.abandonClose id))
  | .idle => w

/-- What is shown after a step beside the report. -/
structure View where
  idle : Nat
  closed : Bool
  calls : List Call
  channels : List ChannelId

def view (w : World) : View × World :=
  let (calls, broker) := w.state.broker.report
  (⟨w.state.pool.idle.length, w.state.pool.isClosed, calls, broker.open?⟩, modifyBroker w broker)

/-- The reports after each of some steps. -/
def reports (pool : Pool ChannelId) (script : Script) (commands : List Command) : List (Report Result × View) :=
  let start : World := { state := { pool, broker := { script } } }
  (commands.foldl (fun (w, shown) command =>
    let (view, w) := view (run w command)
    let (report, w) := w.report
    (w, (report, view) :: shown)) (start, [])).2.reverse

end BrokerClient.Scripted.Lending
