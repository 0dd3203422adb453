import BrokerClient.Codec.Content
import BrokerClient.Proofs.ByteStream.Streams
import BrokerClient.Proofs.ByteStream.Writing

/-!
# What is asked of compression

Encoders and decoders come from outside, and what is proved of contents rests on three laws of them. `Inverts`:
unpacking gives back what was packed, however it was cut up and flushed. `Keeps`: a packer passes on each failure of
its sink and makes none of its own, and what the sink refused is what it gets first from then on, so that nothing
succeeds any more. `FinishesOnDrop`: to drop a packer is to complete its form and not to ask how that ended.

That the compressed form reaches the sink by writes alone is no law, since a packer can do nothing else. With
`Inverts`, what a sink with an encoding takes in is what its completed content stands for (`streams_finish`).
-/

namespace BrokerClient

open ByteStream

namespace Packing

/-- What a packer is asked for. -/
inductive Request where
  | write (bytes : Bytes)
  | flush

/-- The bytes that a packer takes in with a request. -/
def Request.bytes : Request → Bytes
  | .write bytes => bytes
  | .flush => []

variable {z : Packing}

/-- What a packer does at a request, and the packer behind it. -/
def serve (z : Packing) (p : z.Packer) : Request → Writing (Except IoError Unit × z.Packer)
  | .write bytes => z.write p bytes
  | .flush => z.flush p

/-- What a new packer and its sink come to by requests that succeed, and the bytes that they bring. -/
inductive Takes (z : Packing) (container : Container) (max : Nat) : z.Packer → BoundedSink → Bytes → Prop where
  | start : Takes z container max (z.pack container) { max } []
  | next {p p' : z.Packer} {sink sink' : BoundedSink} {written : Bytes} (r : Request)
    (h : Takes z container max p sink written) (hr : (z.serve p r).run sink = ((.ok (), p'), sink')) :
    Takes z container max p' sink' (written ++ r.bytes)

/-- What a new packer and its sink come to by requests, whatever becomes of them. -/
inductive Reached (z : Packing) : z.Packer → BoundedSink → Prop where
  | start (container : Container) (max : Nat) : Reached z (z.pack container) { max }
  | next {p : z.Packer} {sink : BoundedSink} (r : Request) (h : Reached z p sink) :
    Reached z ((z.serve p r).run sink).1.2 ((z.serve p r).run sink).2

/-! ## The laws -/

/-- **Decompression inverts compression**: what a packer took in until it was completed is what an unpacker hands on. -/
def Inverts (z : Packing) : Prop :=
  ∀ container max p sink written out, z.Takes container max p sink written →
    (z.finish p).run sink = (.ok (), out) → Streams (z.unpack container out.content) written

/-- **What is refused is kept.** -/
structure Keeps (z : Packing) : Prop where
  /-- A request succeeds just when none of its writes is refused. -/
  serve_ok_iff : ∀ {p sink}, z.Reached p sink → ∀ r,
    (((z.serve p r).run sink).1.1 = .ok () ↔ (z.serve p r).emitted? sink ≠ none)
  finish_ok_iff : ∀ {p sink}, z.Reached p sink →
    (((z.finish p).run sink).1 = .ok () ↔ (z.finish p).emitted? sink ≠ none)
  /-- Once a write was refused, one is in every request. -/
  serve_refused : ∀ {p sink}, z.Reached p sink → sink.overflowed = true → ∀ r, (z.serve p r).emitted? sink = none
  finish_refused : ∀ {p sink}, z.Reached p sink → sink.overflowed = true → (z.finish p).emitted? sink = none

/-- **A packer that is dropped tries to complete its form**: it leaves the sink as completing leaves it. -/
def FinishesOnDrop (z : Packing) : Prop :=
  ∀ {p sink}, z.Reached p sink → ((z.drop p).run sink).2 = ((z.finish p).run sink).2

end Packing

/-! ## What a sink with an encoding takes in -/

/-- The encoding of what is in a container. -/
def Container.encoding : Container → ContentEncoding
  | .gzip => .gzip
  | .zlib => .deflate

variable {z : Packing}

namespace ContentSink

variable {encoding : ContentEncoding} {s s' : ContentSink z} {written bytes : Bytes}

/-- The sink has taken in these bytes under an encoding. -/
def Holds (encoding : ContentEncoding) : ContentSink z → Bytes → Prop
  | .plain sink, written => encoding = .identity ∧ sink.content = written
  | .packed p sink, written => ∃ container max, Container.encoding container = encoding ∧
      z.Takes container max p sink written

theorem holds_ofEncoding (max : Nat) (encoding : ContentEncoding) :
    Holds encoding (ofEncoding { max } encoding : ContentSink z) [] := by
  cases encoding with
  | identity => exact ⟨rfl, rfl⟩
  | gzip => exact ⟨.gzip, max, rfl, .start⟩
  | deflate => exact ⟨.zlib, max, rfl, .start⟩

/-- A request that a packer serves leaves it with the bytes that the request brought. -/
theorem holds_ofStep {p : z.Packer} {sink : BoundedSink} (r : Packing.Request)
    (h : Holds encoding (.packed p sink) written) (hr : ofStep (z.serve p r) sink = (.ok (), s')) :
    Holds encoding s' (written ++ r.bytes) := by
  obtain ⟨container, max, hk, htakes⟩ := h
  obtain ⟨hok, rfl⟩ := Prod.mk.inj hr
  exact ⟨container, max, hk, htakes.next r (Prod.ext (Prod.ext hok rfl) rfl)⟩

theorem Holds.write (h : Holds encoding s written) (hw : ByteSink.write s bytes = (.ok (), s')) :
    Holds encoding s' (written ++ bytes) := by
  cases s with
  | plain sink =>
    obtain ⟨rfl, rfl⟩ := h
    obtain ⟨hok, rfl⟩ := Prod.mk.inj hw
    exact ⟨rfl, congrArg BoundedSink.content (BoundedSink.write_ok (Prod.ext hok rfl))⟩
  | packed p sink => exact holds_ofStep (.write bytes) h hw

theorem Holds.flush (h : Holds encoding s written) (hf : ByteSink.flush s = (.ok (), s')) :
    Holds encoding s' written := by
  cases s with
  | plain sink =>
    obtain ⟨-, rfl⟩ := Prod.mk.inj hf
    exact h
  | packed p sink =>
    have hflush := holds_ofStep .flush h hf
    rwa [Packing.Request.bytes, List.append_nil] at hflush

end ContentSink

/-! ## The completed form as a source -/

namespace ContentSource

theorem read_plain (bytes : Bytes) (n : Nat) :
    read (plain bytes : ContentSource z) n = ((read bytes n).1, plain (read bytes n).2) := rfl

theorem read_packed (u : z.Unpacker) (n : Nat) : read (packed u) n = ((read u n).1, packed (read u n).2) := rfl

theorem streams_plain (bytes : Bytes) : Streams (plain bytes : ContentSource z) bytes :=
  (streams_bytes bytes).map plain read_plain

theorem streams_packed {u : z.Unpacker} {bytes : Bytes} (h : Streams u bytes) : Streams (packed u) bytes :=
  h.map packed read_packed

end ContentSource

/-- **Decoding inverts encoding.** What a sink holds stands, completed, for the bytes that it took in. -/
theorem streams_finish (hz : z.Inverts) {encoding : ContentEncoding} {s : ContentSink z} {out : BoundedSink}
    {written : Bytes} (h : s.Holds encoding written) (hf : s.finish = (.ok (), out)) :
    Streams (ContentSource.ofBytes out.content encoding : ContentSource z) written := by
  cases s with
  | plain sink =>
    obtain ⟨rfl, rfl⟩ := h
    obtain ⟨-, rfl⟩ := Prod.mk.inj hf
    exact ContentSource.streams_plain sink.content
  | packed p sink =>
    obtain ⟨container, max, rfl, htakes⟩ := h
    have hunpacked := ContentSource.streams_packed (hz container max p sink written out htakes hf)
    cases container with
    | gzip => exact hunpacked
    | zlib => exact hunpacked

end BrokerClient
