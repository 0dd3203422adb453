import BrokerClient.Error

/-!
# Client libraries

Connections are opened by a client library, which is not part of this one. It reads the address of the broker anew for
each attempt, before anything is sent, and may refuse it with a text of its own. Which addresses it takes is left open:
whoever connects is given a `ClientLibrary`.
-/

namespace BrokerClient

/-- The client library: why it refuses an address, if it does. -/
structure ClientLibrary where
  refusal? : (address : String) → Option String

/-- How an attempt to connect fails at an address that is refused (`LapinConnector::connect`). -/
def ClientLibrary.failure? (library : ClientLibrary) (address : String) : Option Error :=
  (library.refusal? address).map .connection

end BrokerClient
