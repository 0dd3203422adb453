import BrokerClient.Proofs.ByteStream.Dialogue
import BrokerClient.Proofs.Codec.Refusals
import BrokerClient.Proofs.Codec.RoundTrip
import BrokerClient.Proofs.Codec.Truncation
import BrokerClient.Proofs.Deflate.Runs
import BrokerClient.Proofs.Encoding.Negotiation

/-!
# One bound, two sizes

A negotiator bounds the bytes of an encoded message when it encodes, and the bytes that such a message stands for when
it decodes. The two are one number where nothing is compressed, so what was encoded is within the bound on arrival
(`length_encoded_le`); compressed content may be short and stand for more than the bound. `sizes_agree`: where the
bytes that the content stands for are within the bound, decoding refuses its reader nothing, whatever the compression.
-/

namespace BrokerClient

open ByteStream Deflate

/-! ## Agreement -/

namespace Negotiator

variable {α : Type} {n : Negotiator α} {m : Outgoing α}

/-- An encoded message is within the bound. -/
theorem length_encoded_le {out : Outgoing Bytes} (h : n.encode m = .ok out) : out.content.length ≤ n.maxSize := by
  obtain ⟨w, encoding, p, s, s', henc⟩ := encode_ok h
  have hP := BoundedSink.kept_within n.maxSize
  have hstart : (n.sinkFor encoding).target.max = n.maxSize ∧
      (n.sinkFor encoding).target.content.length ≤ n.maxSize := by
    cases encoding <;> exact ⟨rfl, Nat.zero_le _⟩
  have hrun := ContentSink.run_kept hP (w.write m.content m.properties) hstart
  rw [henc.run_eq] at hrun
  have hfinish := ContentSink.finish_kept hP hrun
  rw [henc.finish_eq] at hfinish
  rw [henc.content_eq]
  exact hfinish.2

namespace Passage

/-- Where the bounds leave room, the codecs invert each other on a message: whichever reader is selected on arrival,
it makes the payload again of a stream of what the content stands for. -/
def Inverted (passage : n.Passage m) : Prop :=
  ∀ encoding r, encodingOf passage.received.properties = .ok encoding → n.readerFor passage.received = .ok r →
    ∃ plain, Streams (ContentSource.ofBytes passage.received.content encoding : ContentSource n.packing) plain ∧
      ∀ bound, plain.length ≤ bound → ∀ source : BoundedSource (ContentSource n.packing), Streams source plain →
        ((r.read bound passage.received.properties).run source).1 = .ok m.content

/-- Codecs that read what they write invert each other on every message that names no encoding of its own, whatever
encoding is agreed on. -/
theorem inverted_of_registers {codecs : List (Codec α)} (hz : n.packing.Inverts) (hn : n.Registers codecs)
    (hcodecs : ∀ c ∈ codecs, c.Inverts m.content) (passage : n.Passage m) (hplain : m.properties.Unencoded)
    {written : Bytes} (hwritten : n.written? m = some written) : passage.Inverted := by
  intro encoding r hnamed hr
  obtain ⟨hkeep, c, hreader, hread⟩ := restores_of_registers hn hcodecs passage hwritten
  obtain ⟨encoding', hnamed', hstreams⟩ := passage.streams_written hz hplain hkeep hwritten
  obtain rfl : encoding' = encoding := Except.ok.inj (hnamed'.symm.trans hnamed)
  obtain rfl : c.reader = r := Except.ok.inj (hreader.symm.trans hr)
  exact ⟨written, hstreams, fun bound hb source => hread bound hb source⟩

/-- On arrival, what the content stands for under the encoding that is named is within the bound. -/
def Fits (passage : n.Passage m) : Prop :=
  ∀ encoding, encodingOf passage.received.properties = .ok encoding → ∃ whole fault,
    Owes (ContentSource.ofBytes passage.received.content encoding : ContentSource n.packing) whole fault ∧
      whole.length ≤ n.maxSize

/-- What a reader makes of the content on arrival, and the source as it leaves it. -/
def reading (passage : n.Passage m) (r : Reader α) (encoding : ContentEncoding) :
    Except CodecError α × BoundedSource (ContentSource n.packing) :=
  (r.read n.maxSize passage.received.properties).run (n.sourceOf encoding passage.received.content)

/-- What names no encoding that changes it fits, since it did when it was encoded. -/
theorem fits_identity (passage : n.Passage m) (h : encodingOf passage.received.properties = .ok .identity) :
    passage.Fits := by
  intro encoding hnamed
  obtain rfl : .identity = encoding := Except.ok.inj (h.symm.trans hnamed)
  refine ⟨passage.received.content, none, (ContentSource.streams_plain _).owes, ?_⟩
  rw [passage.received_eq.1]
  exact length_encoded_le passage.encode_eq

theorem fits_of_streams (passage : n.Passage m) {encoding : ContentEncoding} {bytes : Bytes}
    (hnamed : encodingOf passage.received.properties = .ok encoding)
    (hstreams : Streams (ContentSource.ofBytes passage.received.content encoding : ContentSource n.packing) bytes)
    (hmax : bytes.length ≤ n.maxSize) : passage.Fits := by
  intro encoding' hnamed'
  obtain rfl : encoding = encoding' := Except.ok.inj (hnamed.symm.trans hnamed')
  exact ⟨bytes, none, hstreams.owes, hmax⟩

/-- What was written within the bound fits, however far it was compressed. -/
theorem fits_written (passage : n.Passage m) (hz : n.packing.Inverts) {written : Bytes}
    (hplain : m.properties.Unencoded) (hkeep : n.LeavesEncoding m) (hw : n.written? m = some written)
    (hmax : written.length ≤ n.maxSize) : passage.Fits := by
  obtain ⟨encoding, hnamed, hstreams⟩ := passage.streams_written hz hplain hkeep hw
  exact passage.fits_of_streams hnamed hstreams hmax

end Passage

/-- How decoding ends if it does not end with the reader's own result. -/
theorem decode_cases (inc : Incoming Bytes) : (∃ payload, n.decode inc = .error (.noReader payload)) ∨
    (∃ cause, n.decode inc = .error (.encoding cause)) ∨
    ∃ r encoding, n.readerFor inc = .ok r ∧ encodingOf inc.properties = .ok encoding := by
  cases hr : n.readerFor inc with
  | error e =>
    obtain ⟨rfl, -⟩ := readerFor_eq_error.1 hr
    exact .inl ⟨_, by rw [decode, hr]; rfl⟩
  | ok r =>
    cases he : encodingOf inc.properties with
    | ok encoding => exact .inr (.inr ⟨r, encoding, rfl, rfl⟩)
    | error e =>
      obtain ⟨cause, rfl⟩ : ∃ cause, e = .encoding cause := by
        unfold encodingOf at he
        split at he
        · cases he
        · split at he
          · cases he
          · exact ⟨_, (Except.error.inj he).symm⟩
      exact .inr (.inl ⟨cause, by rw [decode, hr]; simp only [bind, Except.bind, readContent, he]⟩)

/-! ## A content that is long until it is compressed -/

/-- Contents of bytes, in messages of at most so many. -/
def forBytes (max : Nat) : Negotiator Bytes where
  payload := "bytes"
  readers := [BytesCodec.reader]
  writers := [BytesCodec.writer]
  maxSize := max

/-- Contents of bytes that stand for more than the bound are not decoded. -/
theorem decode_long {max : Nat} {inc : Incoming Bytes} {encoding : ContentEncoding} {bytes : Bytes}
    (hnamed : encodingOf inc.properties = .ok encoding)
    (hs : Streams (ContentSource.ofBytes inc.content encoding : ContentSource (forBytes max).packing) bytes)
    (hlong : max < bytes.length) :
    (forBytes max).decode inc = .error (.tooLarge max) := by
  let source := (forBytes max).sourceOf encoding inc.content
  have hsize : 0 < pieceSize := by decide
  have hfuel : max < max + 1 := Nat.lt_succ_self max
  obtain ⟨herror, hflag⟩ := overflow_toEnd hsize [] (s := source) hs hlong hfuel
  have hrun : (BytesCodec.reader.read max inc.properties).run source =
      (.error (.decode tooLargeSource.message), ((readAll max).run source).2) := by
    refine (Reading.run_bind (readAll max) _ _).trans ?_
    rw [readAll, herror]
    rfl
  have hreader : (forBytes max).readerFor inc = .ok BytesCodec.reader := rfl
  obtain ⟨-, -, hdecode⟩ := decode_eq (reading_eq hreader hnamed)
  rw [hdecode, show (BytesCodec.reader.read (forBytes max).maxSize inc.properties).run _ = _ from hrun,
    show ((readAll max).run source).2.overflowed = true from hflag]
  rfl

/-- A long content in one piece, for a requester that takes one encoding. -/
def repetitive : Outgoing Bytes :=
  .response ⟨defaultExchange, "replies", { correlationId := some "c-1" }, List.replicate 200 0x61⟩
    ⟨"ex", "rk", "replies", "c-1", some ContentEncoding.gzip.token⟩

/-- It is written at once by whoever writes bytes as they are. -/
theorem writesAtOnce_repetitive (max : Nat) : (forBytes max).WritesAtOnce repetitive (List.replicate 200 0x61)
    { correlationId := some "c-1", contentType := some BytesCodec.contentType } where
  packing_eq := rfl
  encoding_eq := (encodingFor_of_none rfl rfl).2 (Accept.negotiate_token .gzip)
  writes := ⟨_, _, rfl, Writing.writeAll_of_ne (by decide) _, rfl⟩

/-- A run of 200 bytes becomes five, with 18 around them. -/
theorem length_gzipped_repetitive : (gzipped (List.replicate 200 0x61)).length = 23 := by
  have hlength : (({} : Compressor).push (List.replicate 200 0x61)).finish.length = 5 := by
    rw [Compressor.finish, say_repeated (n := 199) (by decide) (by decide)]
    decide +kernel
  rw [gzipped, List.length_append, List.length_append, hlength, length_gzipTrailer]
  rfl

/-- The message arrives, its codec would read what it wrote, and its content stands for what was written. -/
theorem exists_passage_repetitive {max : Nat} (h : 23 ≤ max) :
    ∃ passage : (forBytes max).Passage repetitive, passage.Inverted ∧
      ∃ encoding, encodingOf passage.received.properties = .ok encoding ∧
        Streams (ContentSource.ofBytes passage.received.content encoding : ContentSource (forBytes max).packing)
          repetitive.content := by
  obtain ⟨hwritten, hencode⟩ := (writesAtOnce_repetitive max).encode_eq (by rwa [length_gzipped_repetitive])
  obtain ⟨passage, -⟩ := Passage.exists_of_encode hencode
  have hregisters : (forBytes max).Registers [.bytes] := ⟨rfl, rfl⟩
  have hcodecs : ∀ c ∈ [.bytes], Codec.Inverts c repetitive.content :=
    List.forall_mem_cons.2 ⟨Codec.inverts_bytes repetitive.content, nofun⟩
  obtain ⟨hkeep, -⟩ := restores_of_registers hregisters hcodecs passage hwritten
  have hinverted : passage.Inverted := Passage.inverted_of_registers inverts hregisters hcodecs passage nofun hwritten
  exact ⟨passage, hinverted, passage.streams_written inverts nofun hkeep hwritten⟩

/-! ## The sizes -/

/-- **The sizes agree** where what the content stands for is within the bound, as it is whenever no compression is
named: no read is refused, so decoding fails as too large only on the reader's own word, and not at all where the
codecs invert each other. -/
theorem sizes_agree (passage : n.Passage m)
    (hfits : encodingOf passage.received.properties = .ok .identity ∨ passage.Fits) :
    (∀ r encoding, n.readerFor passage.received = .ok r → encodingOf passage.received.properties = .ok encoding →
      (passage.reading r encoding).2.overflowed = false ∧
      n.decode passage.received = (passage.reading r encoding).1.map passage.received.withContent) ∧
    (passage.Inverted → ∀ max, n.decode passage.received ≠ .error (.tooLarge max)) := by
  have hall : passage.Fits := hfits.elim passage.fits_identity id
  have hown : ∀ r encoding, n.readerFor passage.received = .ok r →
      encodingOf passage.received.properties = .ok encoding → (passage.reading r encoding).2.overflowed = false ∧
      n.decode passage.received = (passage.reading r encoding).1.map passage.received.withContent := by
    intro r encoding hr hnamed
    obtain ⟨whole, fault, howes, hlength⟩ := hall encoding hnamed
    have hflag : (passage.reading r encoding).2.overflowed = false :=
      Owes.unrefused_run (s := n.sourceOf encoding passage.received.content) _ howes hlength
    exact ⟨hflag, decode_unrefused hr hnamed hflag⟩
  refine ⟨hown, fun hinverted max htoo => ?_⟩
  rcases n.decode_cases passage.received with ⟨payload, hdecode⟩ | ⟨cause, hdecode⟩ | ⟨r, encoding, hr, hnamed⟩
  · rw [hdecode] at htoo
    cases htoo
  · rw [hdecode] at htoo
    cases htoo
  · obtain ⟨plain, hstreams, hreads⟩ := hinverted encoding r hnamed hr
    obtain ⟨whole, fault, howes, hwhole⟩ := hall encoding hnamed
    have hlength := Nat.le_trans (howes.length_le hstreams) hwhole
    have hsource : Streams (n.sourceOf encoding passage.received.content) plain := hstreams.bounded hlength
    have hresult : (passage.reading r encoding).1 = .ok m.content := hreads n.maxSize hlength _ hsource
    rw [(hown r encoding hr hnamed).2, hresult] at htoo
    cases htoo

/-- 200 bytes can be decoded under a bound of 200 bytes. -/
theorem sizes_agree_repetitive : ∃ passage : (forBytes 200).Passage repetitive, passage.Fits ∧ passage.Inverted ∧
    ∀ max, (forBytes 200).decode passage.received ≠ .error (.tooLarge max) := by
  obtain ⟨passage, hinverted, encoding, hnamed, hstreams⟩ := exists_passage_repetitive (by decide : 23 ≤ 200)
  have hlength : repetitive.content.length ≤ 200 := Nat.le_of_eq List.length_replicate
  have hfits : passage.Fits := passage.fits_of_streams hnamed hstreams hlength
  exact ⟨passage, hfits, hinverted, (sizes_agree passage (.inr hfits)).2 hinverted⟩

/-- Being 23 bytes when they are compressed, they can be encoded under a bound of 100 bytes as well, and cannot be
decoded under it. -/
theorem sizes_disagree : (forBytes 100).Registers [.bytes] ∧ (∀ content, Codec.bytes.Inverts content) ∧
    ∃ passage : (forBytes 100).Passage repetitive, passage.Inverted ∧
      (forBytes 100).decode passage.received = .error (.tooLarge 100) := by
  obtain ⟨passage, hinverted, encoding, hnamed, hstreams⟩ := exists_passage_repetitive (by decide : 23 ≤ 100)
  have hlong : 100 < repetitive.content.length := Nat.lt_of_lt_of_eq (by decide) List.length_replicate.symm
  exact ⟨⟨rfl, rfl⟩, Codec.inverts_bytes, passage, hinverted, decode_long hnamed hstreams hlong⟩

end Negotiator
end BrokerClient
