import BrokerClient.Text.Hex

/-!
# Fresh identifiers

Correlation ids and message ids have the shape of random identifiers of version 4. `freshId n` is the
`n`-th of a fixed sequence; whoever makes identifiers counts them, so that no two are the same.
-/

namespace BrokerClient

def freshId (n : Nat) : String :=
  "5ee0c1d7-" ++ Text.Hex.padded 4 (n / Nat.pow 16 12) ++ "-4b3e-9f71-" ++ Text.Hex.padded 12 n

end BrokerClient
