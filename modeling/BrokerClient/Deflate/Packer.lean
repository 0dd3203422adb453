import BrokerClient.Codec.Packing
import BrokerClient.Deflate.Unpacker

/-!
# Packing and unpacking

Bytes under compression on their way to a sink. A `Packer` holds compressed bytes back until the next request and
keeps what the sink refused, so that it is the first thing to go to the sink again. `packing` is this packer with the
unpacker of the same containers: a compressor and a decompressor of one format, in one library.
-/

namespace BrokerClient.Deflate

open ByteStream

/-- A compressor and the container around what it makes. -/
structure Packer where
  container : Container
  /-- Whether the header has been made. -/
  headed : Bool := false
  /-- Compressed bytes not yet in the sink. -/
  pending : Bytes := []
  compressor : Compressor := {}

namespace Packer

/-- What a packer does at a request, and the packer behind it. -/
abbrev Step := Writing (Except IoError Unit × Packer)

/-- Nothing more is to be done. -/
def ready (p : Packer) : Step := .done (.ok (), p)

/-- One write to the sink. -/
def put (p : Packer) (bytes : Bytes) : Step := .write bytes fun answer => .done (answer, p)

/-- Goes on after a step that succeeded. -/
def andThen (step : Step) (next : Packer → Step) : Step :=
  step.bind fun
    | (.error e, p) => .done (.error e, p)
    | (.ok _, p) => next p

/-- The long container's header, which goes to the sink before anything else. -/
def head (p : Packer) : Step :=
  match p.container, p.headed with
  | .gzip, false => andThen (p.put gzipHeader) fun p => ready { p with headed := true }
  | _, _ => ready p

/-- Puts what is pending into the sink. -/
def dump (p : Packer) : Step :=
  if p.pending.isEmpty then ready p
  else andThen (p.put p.pending) fun p => ready { p with pending := [] }

/-- Adds compressed bytes to what is pending, behind the short container's header. -/
def append (p : Packer) (bytes : Bytes) : Packer :=
  let header := if p.headed then [] else zlibHeader
  { p with pending := p.pending ++ header ++ bytes, headed := true }

def write (p : Packer) (bytes : Bytes) : Step :=
  andThen p.head fun p => andThen p.dump fun p => ready { p with compressor := p.compressor.push bytes }

def flush (p : Packer) : Step :=
  andThen p.head fun p =>
    let (bytes, compressor) := p.compressor.sync
    ({ p with compressor }.append bytes).dump

/-- What stands behind the compressed bytes, and is part of their last piece. -/
def sums (p : Packer) : Bytes :=
  match p.container with
  | .gzip => []
  | .zlib => bigEndian (adler32 p.compressor.data.toList)

/-- What is written by itself at the end. -/
def trailer (p : Packer) : Step :=
  match p.container with
  | .gzip => p.put (gzipTrailer p.compressor.data.toList)
  | .zlib => ready p

/-- Closes the compressed data. -/
def finish (p : Packer) : Step :=
  andThen p.head fun p => andThen p.dump fun p =>
    andThen (p.append (p.compressor.finish ++ p.sums)).dump trailer

end Packer

/-- What some bytes in a container stand for. -/
def unpack : Container → Bytes → Unpacked
  | .gzip => unpackGzip
  | .zlib => unpackZlib

/-- The packing of this library. A packer that is dropped tries to complete its form. -/
def packing : Packing where
  Packer := Packer
  pack container := { container }
  write := Packer.write
  flush := Packer.flush
  finish p := do return (← p.finish).1
  drop p := do discard p.finish
  Unpacker := Unpacker
  source := inferInstance
  unpack container bytes := .ofUnpacked (unpack container bytes)

end BrokerClient.Deflate
