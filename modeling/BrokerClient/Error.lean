import BrokerClient.Codec.Error
import BrokerClient.Message.Properties
import BrokerClient.Text.Duration
import BrokerClient.Topology.Build

/-!
# Failures

Everything that can fail at the seams of the client: reaching the broker, its answers to calls, the state
of pools and consumers, the configuration, and the failures of the other layers. `isTimeout` holds of the
two ways in which connecting gives up.
-/

namespace BrokerClient

/-- A failure at a seam of the client (`AmqpError`). -/
inductive Error where
  | connection (text : String)
  | deadlineExceeded (attempts elapsed : Nat)
  | attemptsExhausted (attempts : Nat)
  | interrupted
  | channel (text : String)
  | poolClosed
  | declareExchange (name : String)
  | declareQueue (name : String)
  | bind (exchange queue : String)
  | publishing (text : String)
  | ack
  | reject
  | qos (text : String)
  | declareConsumer (queue : String)
  | cancelConsumer (tag : String)
  | consumer (text : String)
  | consumerState (queue state : String)
  | config (text : String)
  | topology (violations : List Violation)
  | envelope (cause : EnvelopeError)
  | codec (cause : CodecError)

namespace Error

/-- The text for a rejected collection of declarations, one violation a line (`TopologyError`). -/
def topologyText (violations : List Violation) : String :=
  "invalid topology (" ++ toString violations.length ++ " violations)" ++
    String.join (violations.map fun v => "\n  - " ++ v.describe)

/-- The text of a failure; elapsed times are in milliseconds. -/
def message : Error → String
  | .connection text => "failure to connect: " ++ text
  | .deadlineExceeded attempts elapsed =>
    "failure to connect within " ++ Text.duration elapsed ++ " after " ++ toString attempts ++ " attempts"
  | .attemptsExhausted attempts => "failure to connect after " ++ toString attempts ++ " attempts"
  | .interrupted => "connection attempt interrupted"
  | .channel text => "failure to create a channel: " ++ text
  | .poolClosed => "channel pool is closed"
  | .declareExchange name => "failure to declare an exchange `" ++ name ++ "`"
  | .declareQueue name => "failure to declare a queue `" ++ name ++ "`"
  | .bind exchange queue => "failure to bind exchange `" ++ exchange ++ "` to queue `" ++ queue ++ "`"
  | .publishing text => "failure to publish: " ++ text
  | .ack => "failure to ack message"
  | .reject => "failure to reject message"
  | .qos text => "failure to configure qos `" ++ text ++ "`"
  | .declareConsumer queue => "failure to declare consumer on `" ++ queue ++ "`"
  | .cancelConsumer tag => "failure to cancel consumer `" ++ tag ++ "`"
  | .consumer text => "failure to consume message `" ++ text ++ "`"
  | .consumerState queue state => "consumer on `" ++ queue ++ "` is already " ++ state
  | .config text => "invalid configuration: " ++ text
  | .topology violations => topologyText violations
  | .envelope cause => cause.message
  | .codec cause => cause.message

/-- Whether connecting gave up, for lack of time or of attempts (`AmqpError::is_timeout`). -/
def isTimeout : Error → Bool
  | .deadlineExceeded _ _ | .attemptsExhausted _ => true
  | _ => false

end Error
end BrokerClient
