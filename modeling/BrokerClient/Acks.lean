import BrokerClient.Broker.Call
import BrokerClient.Log

/-!
# Acknowledgements

Every delivery comes with a handle. An automatic handle does nothing. A manual one settles its delivery
with one call to the broker, an acknowledgement or a rejection; whatever is asked of it later succeeds
without a call. Handles can be cloned, and a delivery whose last handle is dropped unsettled is reported.
`outstanding` counts the manual handles that are not settled and the calls that settle one and are still
in flight; whoever waits for it to reach zero looks again each time it changes. The acknowledgements of a
consumer are a state and a step on events, where `κ` names the callers.
-/

namespace BrokerClient

/-- The name of a manual handle, the same for all its clones. -/
abbrev HandleId := Nat

/-- What a delivery is settled by (`Acknowledger`). -/
inductive Acknowledger where
  | auto
  | manual (h : HandleId)
deriving DecidableEq, Repr

/-- Whether a delivery is to be settled by hand (`Acknowledger::is_manual`). -/
def Acknowledger.isManual : Acknowledger → Bool
  | .auto => false
  | .manual _ => true

/-- How a delivery is settled. -/
inductive Verdict where
  | ack
  | reject (requeue : Bool)
deriving DecidableEq, Repr

/-- The call that settles a delivery. -/
def Verdict.call (tag : Nat) : Verdict → ChannelCall
  | .ack => .ack tag
  | .reject requeue => .reject tag requeue

namespace Acks

/-- A manual handle with at least one clone left (`ManualAck`). -/
structure Handle where
  id : HandleId
  channel : ChannelId
  tag : Nat
  clones : Nat := 1
  /-- Whether it is still to be settled. -/
  pending : Bool := true
deriving DecidableEq, Repr

/-- A call to the broker that settles a handle and keeps a clone of it. -/
structure Settlement (κ : Type) where
  caller : κ
  handle : HandleId
deriving DecidableEq, Repr

inductive Event (κ : Type) where
  /-- A new handle for a delivery on a channel. -/
  | register (channel : ChannelId) (tag : Nat)
  | clone (h : HandleId)
  | drop (h : HandleId)
  | settle (caller : κ) (a : Acknowledger) (v : Verdict)
  /-- The broker answered a caller's call. -/
  | answered (caller : κ) (result : Outcome)
  /-- A caller waits until nothing is outstanding. -/
  | await (caller : κ)
  /-- A caller that waits looks again. -/
  | look (caller : κ)
  /-- A caller goes away. -/
  | abandon (caller : κ)

inductive Action (κ : Type) where
  | log (entry : LogEntry)
  | call (caller : κ) (channel : ChannelId) (c : ChannelCall)
  /-- A caller that waits is to look again. -/
  | wake (caller : κ)
  /-- The handle was settled by this caller or before, or the call failed. -/
  | settled (caller : κ) (result : Outcome)
  /-- Nothing is outstanding. -/
  | drained (caller : κ)

end Acks

open Acks in
/-- The manual handles of a consumer, and what is counted of them (`OutstandingAcks`). -/
structure Acks (κ : Type) where
  outstanding : Nat := 0
  handles : List Handle := []
  inFlight : List (Settlement κ) := []
  /-- Callers that wait until nothing is outstanding. -/
  waiting : List κ := []
  /-- The name of the next handle. -/
  next : HandleId := 0

namespace Acks

variable {κ : Type} [DecidableEq κ]

/-- A step's new state, and what it does. -/
abbrev Effect (κ : Type) := Acks κ × List (Action κ)

def find? (s : Acks κ) (h : HandleId) : Option Handle := s.handles.find? (·.id == h)

def modify (s : Acks κ) (h : HandleId) (f : Handle → Handle) : Acks κ :=
  { s with handles := s.handles.map fun x => if x.id = h then f x else x }

/-- Whether a handle is still to be settled (`Acknowledger::is_pending`). -/
def isPending (s : Acks κ) : Acknowledger → Bool
  | .auto => false
  | .manual h => (s.find? h).any (·.pending)

/-- The report about a delivery that nobody settled, made when its `ManualAck` is dropped. -/
def dropReport (tag : Nat) : LogEntry :=
  .warn "delivery dropped without ack or reject, the broker redelivers it once the channel closes"
    [("delivery_tag", toString tag)]

/-- One less is outstanding, and those who wait look again, when a `Pending` is dropped. -/
def release (s : Acks κ) : Effect κ :=
  ({ s with outstanding := s.outstanding - 1 }, s.waiting.map .wake)

/-- A new handle (`OutstandingAcks::register`). -/
def register (s : Acks κ) (channel : ChannelId) (tag : Nat) : Effect κ :=
  ({ s with outstanding := s.outstanding + 1, next := s.next + 1,
            handles := s.handles ++ [{ id := s.next, channel, tag }] },
    s.waiting.map .wake)

/-- Drops a clone; the last one takes the handle with it. -/
def drop (s : Acks κ) (h : HandleId) : Effect κ :=
  match s.find? h with
  | none => (s, [])
  | some x =>
    if 1 < x.clones then (s.modify h fun x => { x with clones := x.clones - 1 }, [])
    else
      let s := { s with handles := s.handles.filter (·.id != h) }
      if x.pending then
        let (s, woken) := s.release
        (s, woken ++ [.log (dropReport x.tag)])
      else (s, [])

/-- Settles a handle, unless that was done before (`Acknowledger::ack`, `Acknowledger::reject`). -/
def settle (s : Acks κ) (caller : κ) (v : Verdict) : Acknowledger → Effect κ
  | .auto => (s, [.settled caller (.ok ())])
  | .manual h => match s.find? h with
    | none => (s, [.settled caller (.ok ())])
    | some x =>
      if x.pending then
        ({ s.modify h fun x => { x with pending := false, clones := x.clones + 1 } with
            inFlight := s.inFlight ++ [⟨caller, h⟩] },
          [.call caller x.channel (v.call x.tag)])
      else (s, [.settled caller (.ok ())])

/-- Ends a call that settles a handle. -/
def conclude (s : Acks κ) (x : Settlement κ) : Effect κ :=
  let (s, woken) := { s with inFlight := s.inFlight.filter (·.caller != x.caller) }.release
  let (s, dropped) := s.drop x.handle
  (s, woken ++ dropped)

/-- Lets a caller go on if nothing is outstanding (`OutstandingAcks::drained`). -/
def look (s : Acks κ) (caller : κ) : Effect κ :=
  if caller ∈ s.waiting ∧ s.outstanding = 0 then
    ({ s with waiting := s.waiting.filter (· != caller) }, [.drained caller])
  else (s, [])

def settlement? (s : Acks κ) (caller : κ) : Option (Settlement κ) := s.inFlight.find? (·.caller == caller)

def step (s : Acks κ) : Event κ → Effect κ
  | .register channel tag => s.register channel tag
  | .clone h => (s.modify h fun x => { x with clones := x.clones + 1 }, [])
  | .drop h => s.drop h
  | .settle caller a v => s.settle caller v a
  | .answered caller result => match s.settlement? caller with
    | none => (s, [])
    | some x =>
      let (s, actions) := s.conclude x
      (s, actions ++ [.settled caller result])
  | .await caller => { s with waiting := s.waiting ++ [caller] }.look caller
  | .look caller => s.look caller
  | .abandon caller =>
    let s := { s with waiting := s.waiting.filter (· != caller) }
    match s.settlement? caller with
    | none => (s, [])
    | some x => s.conclude x

end Acks
end BrokerClient
