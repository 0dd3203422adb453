/-!
# The log

What the client reports while it works: a level, a message and named details, all of them text.
-/

namespace BrokerClient

inductive Level where
  | info
  | warn
  | error
deriving DecidableEq, Repr

structure LogEntry where
  level : Level
  message : String
  details : List (String × String) := []
deriving DecidableEq, Repr

namespace LogEntry

def info (message : String) (details : List (String × String) := []) : LogEntry := ⟨.info, message, details⟩

def warn (message : String) (details : List (String × String) := []) : LogEntry := ⟨.warn, message, details⟩

def error (message : String) (details : List (String × String) := []) : LogEntry := ⟨.error, message, details⟩

end LogEntry
end BrokerClient
