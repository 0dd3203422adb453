import BrokerClient.Codec.Content
import BrokerClient.Config
import BrokerClient.Deflate.Packer
import BrokerClient.Encoding.Selection
import BrokerClient.Message.Outgoing

/-!
# Choosing a codec

Readers and writers of contents are registered with priorities; for each message the applicable one of
the highest priority is used, the last registered among equals. `Negotiator.decode` undoes the content
encoding before the reader runs, and `Negotiator.encode` runs the writer through the encoding agreed with
the requester; both keep to one bound on the size, and an overrun of the bound is what a failure reports. How bytes
are compressed is up to the negotiator's `packing`.
-/

namespace BrokerClient

open ByteStream

/-- Turns bytes into a payload (`MessageReader`). A reader knows the bound on what it may read. -/
structure Reader (α : Type) where
  applicable : Incoming Bytes → Bool
  priority : Int := 0
  read (bound : Nat) (properties : Properties) : Reading (Except CodecError α)

/-- Turns a payload into bytes (`MessageWriter`). A writer may change the properties. -/
structure Writer (α : Type) where
  applicable : Outgoing α → Bool
  priority : Int := 0
  write (value : α) (properties : Properties) : Writing (Except CodecError Properties)

/-- The registered readers and writers (`Negotiator`). -/
structure Negotiator (α : Type) where
  /-- The payload's type in the text of an error. -/
  payload : String
  readers : List (Reader α) := []
  writers : List (Writer α) := []
  maxSize : Nat := defaultMaxMessageSize
  /-- Whether contents may be compressed. -/
  compression : Bool := true
  /-- The encoders and decoders that contents are compressed with. -/
  packing : Packing := Deflate.packing

/-! ## Selection -/

/-- Keeps the better of two candidates, the later one among equals. -/
def better {ρ : Type} (priority : ρ → Int) (best : Option ρ) (next : ρ) : Option ρ :=
  match best with
  | none => some next
  | some b => if priority b ≤ priority next then some next else some b

/-- The applicable candidate of the highest priority, the last one among equals. -/
def bestOf {ρ : Type} (applicable : ρ → Bool) (priority : ρ → Int) (candidates : List ρ) : Option ρ :=
  (candidates.filter applicable).foldl (better priority) none

namespace Negotiator

variable {α : Type}

/-- A negotiator without codecs, bounded as configured (`Negotiator::from_config`). -/
def ofConfig (payload : String) (config : Config) : Negotiator α := { payload, maxSize := config.maxMessageSize }

/-- The reader for a message (`Negotiator::reader_for`). -/
def readerFor (n : Negotiator α) (m : Incoming Bytes) : Except CodecError (Reader α) :=
  match bestOf (·.applicable m) (·.priority) n.readers with
  | some r => .ok r
  | none => .error (.noReader n.payload)

/-- The writer for a message (`Negotiator::writer_for`). -/
def writerFor (n : Negotiator α) (m : Outgoing α) : Except CodecError (Writer α) :=
  match bestOf (·.applicable m) (·.priority) n.writers with
  | some w => .ok w
  | none => .error (.noWriter n.payload)

/-- A result, unless it is a failure behind an overrun of the bound. -/
def unlessOverflowed {β : Type} (n : Negotiator α) (overflowed : Bool) : Except CodecError β → Except CodecError β
  | .ok b => .ok b
  | .error e => .error (if overflowed then .tooLarge n.maxSize else e)

/-! ## Decoding -/

/-- The encoding that a property bag names. -/
def encodingOf (p : Properties) : Except CodecError ContentEncoding :=
  match p.contentEncoding with
  | none => .ok .identity
  | some token => match ContentEncoding.ofToken? token with
    | some e => .ok e
    | none => .error (.encoding (.unsupported token))

/-- The source that a reader gets. -/
def sourceOf (n : Negotiator α) (encoding : ContentEncoding) (bytes : Bytes) :
    BoundedSource (ContentSource n.packing) where
  inner := .ofBytes bytes encoding
  remaining := n.maxSize

/-- The payload that a reader makes of a message's content (`Negotiator::read_content`). -/
def readContent (n : Negotiator α) (r : Reader α) (m : Incoming Bytes) : Except CodecError α := do
  let encoding ← encodingOf m.properties
  let (result, source) := (r.read n.maxSize m.properties).run (n.sourceOf encoding m.content)
  n.unlessOverflowed source.overflowed result

/-- The message with its payload (`Negotiator::decode`). -/
def decode (n : Negotiator α) (m : Incoming Bytes) : Except CodecError (Incoming α) := do
  let reader ← n.readerFor m
  return m.withContent (← n.readContent reader m)

/-! ## Encoding -/

/-- The encoding for a message, as `Negotiator::encode` begins: none of its own making when the message names one
already. -/
def encodingFor (n : Negotiator α) (m : Outgoing α) : Except CodecError ContentEncoding :=
  if !n.compression || m.properties.contentEncoding.isSome then .ok .identity
  else match Accept.negotiate m.acceptEncoding ContentEncoding.all with
    | .ok e => .ok e
    | .error e => .error (.encoding e)

/-- Runs a writer and completes the encoded form, which is given up after the writer fails (`write_through`). -/
def writeContent {z : Packing} (sink : ContentSink z) (program : Writing (Except CodecError Properties)) :
    Except CodecError Properties × BoundedSink :=
  match program.run sink with
  | (.error e, sink) => (.error e, sink.drop)
  | (.ok properties, sink) => match sink.finish with
    | (.error e, sink) => (.error (.encode e.message), sink)
    | (.ok _, sink) => (.ok properties, sink)

/-- The sink that a writer gets. -/
def sinkFor (n : Negotiator α) (encoding : ContentEncoding) : ContentSink n.packing :=
  .ofEncoding { max := n.maxSize } encoding

/-- Names the encoding that was applied, unless it is none, as `Negotiator::encode` ends. -/
def label (encoding : ContentEncoding) (p : Properties) : Properties :=
  if encoding = .identity then p else { p with contentEncoding := some encoding.token }

/-- The message with its content as bytes (`Negotiator::encode`). -/
def encode (n : Negotiator α) (m : Outgoing α) : Except CodecError (Outgoing Bytes) := do
  let writer ← n.writerFor m
  let encoding ← n.encodingFor m
  let (result, sink) :=
    writeContent (n.sinkFor encoding) (writer.write m.content m.properties)
  let properties ← n.unlessOverflowed sink.overflowed result
  return (m.withContent sink.content).withProperties (label encoding properties)

end Negotiator
end BrokerClient
