/-!
# Retry policies

How long and how often reaching the broker is tried. All times are in milliseconds.
-/

namespace BrokerClient

/-- The longest time that can be measured. -/
def longestTime : Nat := Nat.pow 2 64 * 1000 - 1

/-- Twice a time, or the longest one if that is shorter. -/
def doubled (ms : Nat) : Nat := min (2 * ms) longestTime

/-- How reaching the broker is retried (`RetryPolicy`). -/
structure RetryPolicy where
  /-- The pause after the first failure; each further one is twice as long. -/
  initialDelay : Nat := 100
  /-- The longest pause. -/
  maxDelay : Nat := 10000
  maxAttempts : Nat := 10
  /-- How long everything together may take. -/
  maxWait : Nat := 60000
deriving DecidableEq, Repr, Inhabited

end BrokerClient
