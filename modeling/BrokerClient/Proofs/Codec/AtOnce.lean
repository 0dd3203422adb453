import BrokerClient.Proofs.Codec.Transport
import BrokerClient.Proofs.Deflate.Refusing

/-!
# Content that is written at once

A writer that makes a single request hands over the bytes of its content in one piece. The compressed form of such
content is known (`Deflate.gzipped`), and where it is within the bound nothing is refused, neither when it is written
nor when it is completed, so it is what the message is encoded to (`WritesAtOnce.encode_eq`).
-/

namespace BrokerClient.Negotiator

open ByteStream Deflate

variable {α : Type} {n : Negotiator α} {m : Outgoing α} {form : Bytes} {p : Properties} {max : Nat}

/-- The selected writer makes one request, with these bytes, and leaves these properties; what it writes is compressed
with the compression of this library. -/
structure WritesAtOnce (n : Negotiator α) (m : Outgoing α) (form : Bytes) (p : Properties) : Prop where
  packing_eq : n.packing = Deflate.packing
  encoding_eq : n.encodingFor m = .ok .gzip
  writes : ∃ w, ∃ f : Except IoError Unit → Except CodecError Properties, n.writerFor m = .ok w ∧
    w.write m.content m.properties = .write form (fun answer => .done (f answer)) ∧ f (.ok ()) = .ok p

/-- Bytes in one request leave a new packer with its header in the sink. -/
theorem write_at_once (h : (gzipped form).length ≤ max) :
    ByteSink.write (ContentSink.ofEncoding { max } .gzip : ContentSink Deflate.packing) form =
      (.ok (), .packed (Packer.taken form) (filled max gzipHeader)) := by
  show ContentSink.ofStep (Deflate.packing.write (Deflate.packing.pack .gzip) form) (filled max []) = _
  rw [ContentSink.ofStep, run_write_new (length_gzipHeader_le h)]

variable {f : Except IoError Unit → Except CodecError Properties}

theorem emitted_at_once (h : (gzipped form).length ≤ max) : (Writing.write form fun answer => .done (f answer)).emitted?
    (ContentSink.ofEncoding { max } .gzip : ContentSink Deflate.packing) = some form := by
  rw [Writing.emitted?, write_at_once h]
  exact congrArg some (List.append_nil form)

theorem writeContent_at_once (hf : f (.ok ()) = .ok p) (h : (gzipped form).length ≤ max) :
    writeContent (.ofEncoding { max } .gzip : ContentSink Deflate.packing)
      (.write form fun answer => .done (f answer)) = (.ok p, filled max (gzipped form)) := by
  have hrun : (Writing.write form fun answer => .done (f answer)).run
      (ContentSink.ofEncoding { max } .gzip : ContentSink Deflate.packing) =
        (.ok p, .packed (Packer.taken form) (filled max gzipHeader)) := by
    rw [Writing.run, write_at_once h]
    exact Prod.ext hf rfl
  have hfinish : ContentSink.finish (z := Deflate.packing) (.packed (Packer.taken form) (filled max gzipHeader)) =
      (.ok (), filled max (gzipped form)) := run_finish_taken h
  simp only [writeContent, hrun, hfinish]

/-- **What is written at once** is written in full and encoded to its compressed form, if that is within the bound. -/
theorem WritesAtOnce.encode_eq (h : n.WritesAtOnce m form p) (hfits : (gzipped form).length ≤ n.maxSize) :
    n.written? m = some form ∧
      n.encode m = .ok ((m.withContent (gzipped form)).withProperties (label .gzip p)) := by
  obtain ⟨hz, he, w, f, hw, hprogram, hf⟩ := h
  obtain ⟨payload, readers, writers, max, compression, z⟩ := n
  obtain rfl : z = Deflate.packing := hz
  have hwriting := Negotiator.writing_eq hw he
  rw [hprogram] at hwriting
  constructor
  · exact (written_eq hwriting).trans (emitted_at_once hfits)
  · obtain ⟨encoding, he', -, hencode⟩ := Negotiator.encode_eq hwriting
    obtain rfl : .gzip = encoding := Except.ok.inj (he.symm.trans he')
    rw [hencode, sinkFor, writeContent_at_once hf hfits]
    rfl

end BrokerClient.Negotiator
