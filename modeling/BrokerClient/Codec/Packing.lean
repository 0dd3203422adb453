import BrokerClient.ByteStream.Program

/-!
# Compression from outside

Contents are compressed by encoders and decoders that are given: a `Packing` is what `EncodingSink` and
`Negotiator::read_content` use of them. A packer is a state of an encoder, and what it does at a request is a
program that writes to the sink below it, so bytes reach that sink by its writes and in no other way. An
unpacker is a decoder over the bytes of a content.
-/

namespace BrokerClient

open ByteStream

/-- The container that compressed bytes are put into. -/
inductive Container where
  | gzip
  | zlib
deriving DecidableEq, Repr

/-- The encoders and the decoders of both containers. -/
structure Packing where
  Packer : Type
  /-- The packer of a new `GzEncoder` or `ZlibEncoder`. -/
  pack : Container → Packer
  /-- Takes in some bytes, all of them unless it fails. -/
  write : Packer → Bytes → Writing (Except IoError Unit × Packer)
  flush : Packer → Writing (Except IoError Unit × Packer)
  /-- Completes the compressed form, up to the end of the packer. -/
  finish : Packer → Writing (Except IoError Unit)
  /-- The end of a packer that is not completed. -/
  drop : Packer → Writing Unit
  Unpacker : Type
  source : ByteSource Unpacker
  /-- A new `GzDecoder` or `ZlibDecoder` over some bytes. -/
  unpack : Container → Bytes → Unpacker

attribute [instance] Packing.source

end BrokerClient
