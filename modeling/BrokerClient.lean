import BrokerClient.Codec.Json
import BrokerClient.Codec.Plain
import BrokerClient.Connection.Address
import BrokerClient.Message.Builder
import BrokerClient.Message.Fresh
import BrokerClient.Proofs.Acks.Settling
import BrokerClient.Proofs.ByteStream.Guarding
import BrokerClient.Proofs.Codec.Attribution
import BrokerClient.Proofs.Codec.Bounds
import BrokerClient.Proofs.Codec.Chunking
import BrokerClient.Proofs.Codec.Envelopes
import BrokerClient.Proofs.Codec.Labels
import BrokerClient.Proofs.Codec.Overruns
import BrokerClient.Proofs.Codec.Refusals
import BrokerClient.Proofs.Codec.Registration
import BrokerClient.Proofs.Codec.Truncation
import BrokerClient.Proofs.Connection.Acquiring
import BrokerClient.Proofs.Connection.Backoff
import BrokerClient.Proofs.Connection.GivingUp
import BrokerClient.Proofs.Connection.Interrupting
import BrokerClient.Proofs.Connection.Refusing
import BrokerClient.Proofs.Connection.Sharing
import BrokerClient.Proofs.Consumer.Rejecting
import BrokerClient.Proofs.Dispatcher.Draining
import BrokerClient.Proofs.Dispatcher.Shutdown
import BrokerClient.Proofs.Dispatcher.Silence
import BrokerClient.Proofs.Dispatcher.Streaming
import BrokerClient.Proofs.Encoding.Choosing
import BrokerClient.Proofs.Encoding.Decimals
import BrokerClient.Proofs.Encoding.Grammar
import BrokerClient.Proofs.Encoding.Tables
import BrokerClient.Proofs.Message.Rebuilding
import BrokerClient.Proofs.Message.Transparency
import BrokerClient.Proofs.Number.Decimal
import BrokerClient.Proofs.Number.Rounding
import BrokerClient.Proofs.Publisher.Publishing
import BrokerClient.Proofs.Text.Pieces
import BrokerClient.Proofs.Topology.Independence
import BrokerClient.Proofs.Topology.Installing
import BrokerClient.Proofs.Topology.Restriction
import BrokerClient.Proofs.Topology.Validation
import BrokerClient.Proofs.Trace.Carrying
import BrokerClient.Scripted.Canonical
import BrokerClient.Scripted.Codec
import BrokerClient.Scripted.Connecting
import BrokerClient.Scripted.Consuming
import BrokerClient.Scripted.Lending
import BrokerClient.Scripted.Publishing
import BrokerClient.Scripted.Settling
import BrokerClient.Topology.Install
import BrokerClient.Trace
