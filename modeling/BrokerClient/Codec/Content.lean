import BrokerClient.Codec.Packing
import BrokerClient.Encoding.Content

/-!
# Encoded content

Content as a stream under an encoding. `ContentSource` hands out the bytes that encoded content stands for, as they
are or by way of an unpacker. `ContentSink` is the `EncodingSink`: it takes bytes and puts their encoded form into a
bounded sink, where the form of compressed bytes may appear later than they are written, but not later than the end.
-/

namespace BrokerClient

open ByteStream

variable {z : Packing}

/-! ## Reading -/

/-- The bytes of a content, on their way to the reader's guard, as `Negotiator::read_content` lays them. -/
inductive ContentSource (z : Packing) where
  | plain (bytes : Bytes)
  | packed (unpacker : z.Unpacker)

namespace ContentSource

/-- The source for bytes under an encoding. -/
def ofBytes (bytes : Bytes) : ContentEncoding → ContentSource z
  | .identity => .plain bytes
  | .gzip => .packed (z.unpack .gzip bytes)
  | .deflate => .packed (z.unpack .zlib bytes)

/-- The answer to a request for up to `n` bytes. -/
def readUpTo (s : ContentSource z) (n : Nat) : Except IoError Bytes × ContentSource z :=
  match s with
  | .plain bytes => let (answer, bytes) := read bytes n; (answer, .plain bytes)
  | .packed u => let (answer, u) := read u n; (answer, .packed u)

instance : ByteSource (ContentSource z) where
  read := readUpTo
  length_read_le {s n bytes} h := by
    cases s with
    | plain content => exact ByteSource.length_read_le (s := content) h
    | packed u => exact ByteSource.length_read_le (s := u) h

end ContentSource

/-! ## Writing -/

/-- A sink that puts content under an encoding (`EncodingSink`). -/
inductive ContentSink (z : Packing) where
  | plain (sink : BoundedSink)
  | packed (packer : z.Packer) (sink : BoundedSink)

namespace ContentSink

/-- The sink for an encoding (`EncodingSink::new`). -/
def ofEncoding (sink : BoundedSink) : ContentEncoding → ContentSink z
  | .identity => .plain sink
  | .gzip => .packed (z.pack .gzip) sink
  | .deflate => .packed (z.pack .zlib) sink

/-- The sink that the encoded form goes to. -/
def target : ContentSink z → BoundedSink
  | .plain sink => sink
  | .packed _ sink => sink

/-- What a packer comes to with its sink at a request. -/
def ofStep (step : Writing (Except IoError Unit × z.Packer)) (sink : BoundedSink) :
    Except IoError Unit × ContentSink z :=
  let ((answer, p), sink) := step.run sink
  (answer, .packed p sink)

instance : ByteSink (ContentSink z) where
  write s bytes := match s with
    | .plain sink => let (answer, sink) := sink.write bytes; (answer, .plain sink)
    | .packed p sink => ofStep (z.write p bytes) sink
  flush
    | .plain sink => let (answer, sink) := sink.flush; (answer, .plain sink)
    | .packed p sink => ofStep (z.flush p) sink

/-- Completes the encoded form, as `EncodingSink::finish` does. -/
def finish : ContentSink z → Except IoError Unit × BoundedSink
  | .plain sink => (.ok (), sink)
  | .packed p sink => (z.finish p).run sink

/-- The sink as it is once the encoded form is given up, when an `EncodingSink` is dropped. -/
def drop : ContentSink z → BoundedSink
  | .plain sink => sink
  | .packed p sink => ((z.drop p).run sink).2

end ContentSink
end BrokerClient
