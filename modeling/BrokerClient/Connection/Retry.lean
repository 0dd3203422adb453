import BrokerClient.Connection.Policy
import BrokerClient.Error
import BrokerClient.Log

/-!
# Reaching the broker

One acquisition of a connection as a state between its waits: it tries, pauses after a failure and tries
again, until an attempt succeeds, the attempts run out, or the time does. What happens next is a function
of the state and the clock (`Retry.attempt`, `Retry.afterFailure`), so that a whole acquisition is
determined by how each attempt ends. All times are in milliseconds.
-/

namespace BrokerClient

/-- The name of a connection to the broker. -/
abbrev ConnectionId := Nat

/-- An acquisition in progress: the variables of the loop in `ConnectionManager::acquire`. -/
structure Retry where
  policy : RetryPolicy
  started : Nat
  /-- The next pause, before the budget cuts it. -/
  delay : Nat
  attempts : Nat := 0
deriving DecidableEq, Repr

/-- How one attempt ends. -/
inductive Attempt where
  | connected (c : ConnectionId)
  | failed (e : Error)
  | timedOut

/-- What an acquisition does next: an attempt that may take so long, a pause, or nothing more. -/
inductive Retry.Next where
  | connect (budget : Nat)
  | pause (ms : Nat)
  | finish (result : Except Error ConnectionId)

namespace Retry

def start (policy : RetryPolicy) (now : Nat) : Retry := ⟨policy, now, policy.initialDelay, 0⟩

/-- What is left of the budget. -/
def remaining (r : Retry) (now : Nat) : Nat := r.policy.maxWait - (now - r.started)

/-! ## What is reported -/

def attemptsDetail (n : Nat) : List (String × String) := [("attempts", toString n)]

def attemptDetail (n : Nat) : String × String := ("attempt", toString n)

def report (r : Retry) : Attempt → LogEntry
  | .connected _ => .info "amqp connection established" (attemptsDetail r.attempts)
  | .failed e => .warn "failure to connect" [("error", e.message), attemptDetail r.attempts]
  | .timedOut => .warn "connection attempt timed out" [attemptDetail r.attempts]

def budgetExhausted (r : Retry) : LogEntry :=
  .error "connection budget exhausted, giving up" (attemptsDetail r.attempts)

def attemptsExhausted (r : Retry) : LogEntry :=
  .error "max connection attempts reached, giving up" (attemptsDetail r.attempts)

/-! ## Steps -/

/-- What one step leads to: the state after it, the reports it makes, and what comes next. -/
abbrev Progress := Retry × List LogEntry × Next

/-- Tries, unless there was an attempt before and the budget is used up: the head of the loop. -/
def attempt (r : Retry) (now : Nat) : Progress :=
  let budget := r.remaining now
  if 0 < r.attempts ∧ budget = 0 then
    (r, [r.budgetExhausted], .finish (.error (.deadlineExceeded r.attempts (now - r.started))))
  else ({ r with attempts := r.attempts + 1 }, [], .connect budget)

/-- Gives up after a failed attempt or pauses, the tail of the loop; the pause after that is twice as long, up to the
longest. -/
def afterFailure (r : Retry) (now : Nat) : Progress :=
  if r.policy.maxAttempts ≤ r.attempts then
    (r, [r.attemptsExhausted], .finish (.error (.attemptsExhausted r.attempts)))
  else
    ({ r with delay := min (doubled r.delay) r.policy.maxDelay }, [], .pause (min r.delay (r.remaining now)))

/-- The end of an attempt, on whose outcome the loop goes on. -/
def ended (r : Retry) (now : Nat) (a : Attempt) : Progress :=
  match a with
  | .connected c => (r, [r.report a], .finish (.ok c))
  | _ =>
    let (r', logs, next) := r.afterFailure now
    (r', r.report a :: logs, next)

end Retry
end BrokerClient
