import BrokerClient.Connection.Retry

/-!
# Sharing a connection

A manager holds the connection that its callers share. A caller who asks for it waits its turn, takes
the one held if that is open, and otherwise acquires a new one, which the manager then holds. Callers may
also acquire connections of their own. Each interrupt begins a new generation, and an acquisition that runs
again in another generation than it began in is over. The manager is a state and a step on events; between
two events nothing happens.
-/

namespace BrokerClient

/-- The name of a call in progress. -/
abbrev CallId := Nat

/-- What a shutdown of a connection says (`ShutdownSignal`): whether the application asked for it, and why. -/
structure Shutdown where
  byApplication : Bool
  reason : String

/-- The report about a shutdown (`watch_shutdown`). -/
def Shutdown.report (s : Shutdown) : LogEntry :=
  if s.byApplication then .info "amqp connection closed by application" [("reason", s.reason)]
  else .error "amqp connection lost" [("reason", s.reason)]

namespace Manager

/-- An acquisition of a caller. -/
structure Acquisition where
  call : CallId
  retry : Retry
  /-- Whether it is for the connection that is shared. -/
  shared : Bool
  /-- The generation in which it began. -/
  seen : Nat
  /-- Whether it waits for its next attempt, and not for the end of one. -/
  pausing : Bool := false

inductive Event where
  /-- A caller asks for a connection of its own. -/
  | acquire (call : CallId)
  /-- A caller asks for the shared connection. -/
  | ask (call : CallId)
  /-- The turn of a caller that waited. -/
  | turn (call : CallId)
  /-- The attempt of a number ended. -/
  | ended (call : CallId) (attempt : Nat) (result : Attempt)
  /-- The pause after the attempt of a number is over. -/
  | resume (call : CallId) (attempt : Nat)
  | interrupt
  /-- An acquisition runs again to see whether it was interrupted. -/
  | noticed (call : CallId)
  /-- A caller goes away. -/
  | abandon (call : CallId)

inductive Action where
  | log (entry : LogEntry)
  /-- Starts the attempt of a number, which may take so long. -/
  | connect (call : CallId) (attempt : Nat) (budget : Nat)
  | pause (call : CallId) (attempt : Nat) (ms : Nat)
  | wake (event : Event)
  | finish (call : CallId) (result : Except Error ConnectionId)

end Manager

open Manager in
/-- The state of a `ConnectionManager`. -/
structure Manager where
  policy : RetryPolicy
  /-- The connection that is shared. -/
  current : Option ConnectionId := none
  /-- The caller whose turn it is. -/
  holder : Option CallId := none
  /-- The callers that wait for their turn, first come first. -/
  waiting : List CallId := []
  acquisitions : List Acquisition := []
  /-- Every interrupt begins a new one. -/
  generation : Nat := 0

namespace Manager

/-- A step's new state, and what it does. -/
abbrev Effect := Manager × List Action

def find? (m : Manager) (call : CallId) : Option Acquisition := m.acquisitions.find? (·.call == call)

/-- Whether an interrupt came since an acquisition began (`wait_interrupted`). -/
def interrupted (m : Manager) (a : Acquisition) : Bool := a.seen != m.generation

/-- Keeps an acquisition in its place, or adds it. -/
def keep (m : Manager) (a : Acquisition) : Manager :=
  if m.acquisitions.any (·.call == a.call) then
    { m with acquisitions := m.acquisitions.map fun b => if b.call = a.call then a else b }
  else { m with acquisitions := m.acquisitions ++ [a] }

def drop (m : Manager) (call : CallId) : Manager :=
  { m with acquisitions := m.acquisitions.filter (·.call != call) }

/-- Passes the turn to the next caller. -/
def release (m : Manager) : Effect :=
  match m.waiting with
  | [] => ({ m with holder := none }, [])
  | next :: rest => ({ m with holder := some next, waiting := rest }, [.wake (.turn next)])

/-- Ends an acquisition; a shared connection is held from then on, and the turn passes. -/
def conclude (m : Manager) (a : Acquisition) (result : Except Error ConnectionId) : Effect :=
  let m := m.drop a.call
  if a.shared then
    let m := match result with
      | .ok c => { m with current := some c }
      | .error _ => m
    let (m, actions) := m.release
    (m, actions ++ [.finish a.call result])
  else (m, [.finish a.call result])

/-- Goes on with an acquisition as its retry loop says. -/
def proceed (m : Manager) (a : Acquisition) (p : Retry.Progress) : Effect :=
  let (retry, logs, next) := p
  let (m, actions) : Effect := match next with
    | .connect budget => (m.keep { a with retry, pausing := false }, [.connect a.call retry.attempts budget])
    | .pause ms => (m.keep { a with retry, pausing := true }, [.pause a.call retry.attempts ms])
    | .finish result => m.conclude a result
  (m, logs.map Action.log ++ actions)

/-- Starts an acquisition (`ConnectionManager::acquire`). -/
def begin (m : Manager) (now : Nat) (call : CallId) (shared : Bool) : Effect :=
  let retry := Retry.start m.policy now
  m.proceed { call, retry, shared, seen := m.generation } (retry.attempt now)

/-- The turn of a caller (`ConnectionManager::connection`): the connection that is held, if it is open, or a new one.
-/
def serve (m : Manager) (isOpen : ConnectionId → Bool) (now : Nat) (call : CallId) : Effect :=
  match m.current.filter isOpen with
  | some c =>
    let (m, actions) := m.release
    (m, actions ++ [.finish call (.ok c)])
  | none => m.begin now call true

/-- Resumes an acquisition, unless it is gone or waits for something else. An interrupt comes before
anything else that became ready. -/
def resumed (m : Manager) (call : CallId) (attempt : Nat) (pausing : Bool) (f : Acquisition → Retry.Progress) :
    Effect :=
  match m.find? call with
  | none => (m, [])
  | some a =>
    if a.retry.attempts ≠ attempt ∨ a.pausing ≠ pausing then (m, [])
    else if m.interrupted a then m.conclude a (.error .interrupted)
    else m.proceed a (f a)

/-- Lets a caller go, with whatever it was doing. -/
def abandon (m : Manager) (call : CallId) : Effect :=
  let m := { m with waiting := m.waiting.filter (· != call) }.drop call
  if m.holder = some call then m.release else (m, [])

/-- One event. An interrupt is `Interrupter::interrupt`. -/
def step (m : Manager) (isOpen : ConnectionId → Bool) (now : Nat) : Event → Effect
  | .acquire call => m.begin now call false
  | .ask call =>
    if m.holder.isSome then ({ m with waiting := m.waiting ++ [call] }, [])
    else { m with holder := some call }.serve isOpen now call
  | .turn call => if m.holder = some call ∧ (m.find? call).isNone then m.serve isOpen now call else (m, [])
  | .ended call attempt result => m.resumed call attempt false fun a => a.retry.ended now result
  | .resume call attempt => m.resumed call attempt true fun a => a.retry.attempt now
  | .interrupt =>
    ({ m with generation := m.generation + 1 }, m.acquisitions.map fun a => .wake (.noticed a.call))
  | .noticed call => match m.find? call with
    | some a => if m.interrupted a then m.conclude a (.error .interrupted) else (m, [])
    | none => (m, [])
  | .abandon call => m.abandon call

end Manager
end BrokerClient
