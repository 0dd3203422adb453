import BrokerClient.Codec.Json
import BrokerClient.Codec.Plain
import BrokerClient.Message.Fresh
import BrokerClient.Proofs.Codec.AtOnce
import BrokerClient.Proofs.Codec.Payloads
import BrokerClient.Proofs.Codec.Selection
import BrokerClient.Proofs.Deflate.Runs
import BrokerClient.Proofs.Encoding.Negotiation

/-!
# Round trips

Codecs are registered as readers and as writers, in one order. Whichever of them is chosen to write, the one that is
chosen to read is the same: it still comes first among those that are applicable to what was written, and it is
itself applicable, since the content type is what its writer left. What remains is that a codec reads what it wrote
(`Codec.Inverts`), which the codecs for text, bytes and JSON do. `round_trip` puts the parts together, for any
compression that is undone by its decompression.
-/

namespace BrokerClient

open ByteStream Deflate

/-- A reader and a writer that belong together. -/
structure Codec (α : Type) where
  reader : Reader α
  writer : Writer α

namespace Codec

variable {α : Type}

def text : Codec String := ⟨TextCodec.reader, TextCodec.writer⟩

def bytes : Codec Bytes := ⟨BytesCodec.reader, BytesCodec.writer⟩

def json [JsonPayload α] (kind : Option String) (priority : Int) : Codec α :=
  ⟨JsonCodec.reader priority, JsonCodec.writer kind priority⟩

/-- The codec's reader gives back a payload from what its writer wrote, to which the reader is applicable. -/
structure Inverts (c : Codec α) (a : α) : Prop where
  always : ∀ m, c.writer.applicable m = true
  priority_eq : c.reader.priority = c.writer.priority
  restores : ∀ {σ : Type} [ByteSink σ] p (sink : σ) written q, (c.writer.write a p).emitted? sink = some written →
    ((c.writer.write a p).run sink).1 = .ok q →
    q.contentEncoding = p.contentEncoding ∧
    (∀ inc : Incoming Bytes, inc.properties.contentType = q.contentType → c.reader.applicable inc = true) ∧
    ∀ bound p', written.length ≤ bound → ∀ {τ : Type} [ByteSource τ] (source : τ), Streams source written →
      ((c.reader.read bound p').run source).1 = .ok a

/-! ## Single codecs -/

/-- A program that writes some bytes and then decides. -/
theorem writeAll_spec {β σ : Type} [ByteSink σ] (form written : Bytes) (f : Except IoError Unit → β) (sink : σ)
    (h : (do return f (← Writing.writeAll form) : Writing β).emitted? sink = some written) :
    written = form ∧ ((do return f (← Writing.writeAll form) : Writing β).run sink).1 = f (.ok ()) := by
  by_cases hempty : form = []
  · subst hempty
    obtain rfl : [] = written := Option.some.inj h
    exact ⟨rfl, rfl⟩
  · rw [Writing.writeAll_of_ne hempty] at h ⊢
    cases hw : ByteSink.write sink form with
    | mk answer sink' =>
      rw [Writing.emitted?, hw] at h
      rw [Writing.run, hw]
      cases answer with
      | error e => cases h
      | ok u =>
        obtain rfl : form ++ [] = written := Option.some.inj h
        exact ⟨List.append_nil form, rfl⟩

/-- What a program makes of an answer does not change what it asks for. -/
theorem run_answer {α β σ : Type} [ByteSource σ] (m : Reading α) (f : α → β) (s : σ) :
    ((do return f (← m) : Reading β).run s).1 = f (m.run s).1 := by
  exact congrArg Prod.fst (Reading.run_bind m (fun a => .done (f a)) s)

theorem run_readAll {σ : Type} [ByteSource σ] {bound : Nat} {content : Bytes} (hb : content.length ≤ bound) {s : σ}
    (hs : Streams s content) : ((readAll bound).run s).1 = .ok content :=
  run_toEnd (by decide) [] hs (Nat.lt_succ_of_le hb)

theorem inverts_text (s : String) : text.Inverts s where
  always _ := rfl
  priority_eq := rfl
  restores p sink written q hw hq := by
    obtain ⟨rfl, hrun⟩ := writeAll_spec _ _ _ sink hw
    obtain rfl : { p with contentType := some TextCodec.contentType } = q := Except.ok.inj (hrun.symm.trans hq)
    refine ⟨rfl, fun inc htype => ?_, fun bound p' hb _ _ source hs => ?_⟩
    · show inc.properties.contentType.any _ = true
      rw [htype]
      show TextCodec.contentType.startsWith "text/" = true
      decide +kernel
    · refine (run_answer (readAll bound) _ source).trans ?_
      rw [run_readAll hb hs]
      simp only [Text.Utf8.toString?_ofString]

theorem inverts_bytes (content : Bytes) : bytes.Inverts content where
  always _ := rfl
  priority_eq := rfl
  restores p sink written q hw hq := by
    obtain ⟨rfl, hrun⟩ := writeAll_spec _ _ _ sink hw
    obtain rfl := Except.ok.inj (hrun.symm.trans hq)
    refine ⟨rfl, fun _ _ => rfl, fun bound p' hb _ _ source hs => ?_⟩
    refine (run_answer (readAll bound) _ source).trans ?_
    rw [run_readAll hb hs]

theorem inverts_json [JsonPayload α] (kind : Option String) (priority : Int) {a : α} (ha : JsonPayload.Restores a) :
    (json kind priority).Inverts a where
  always _ := rfl
  priority_eq := rfl
  restores p sink written q hw hq := by
    obtain ⟨rfl, hrun⟩ := writeAll_spec _ _ _ sink hw
    obtain rfl : JsonCodec.describe kind p = q := Except.ok.inj (hrun.symm.trans hq)
    refine ⟨rfl, fun inc htype => ?_, fun bound p' hb _ _ source hs => ?_⟩
    · show JsonCodec.isJson inc.properties.contentType = true
      rw [htype]
      show JsonCodec.isJson (some JsonCodec.contentType) = true
      decide +kernel
    · refine (run_answer (Json.reading JsonPayload.read bound) _ source).trans ?_
      rw [Json.run_reading (ha bound) hb hs]

end Codec

/-! ## Negotiators of codecs -/

namespace Negotiator

variable {α : Type} {n : Negotiator α} {codecs : List (Codec α)} {m : Outgoing α}

/-- The negotiator has these codecs and no others, each as a reader and as a writer, in one order. -/
structure Registers (n : Negotiator α) (codecs : List (Codec α)) : Prop where
  readers_eq : n.readers = codecs.map (·.reader)
  writers_eq : n.writers = codecs.map (·.writer)

/-- The codec whose writer is chosen is the one whose reader is chosen for what its reader is applicable to: the
codecs have the same places and priorities as readers. -/
theorem readerFor_of_writerFor (hn : n.Registers codecs) (hcodecs : ∀ c ∈ codecs, c.Inverts m.content) {w : Writer α}
    (hw : n.writerFor m = .ok w) :
    ∃ c ∈ codecs, c.writer = w ∧ ∀ inc : Incoming Bytes, c.reader.applicable inc = true →
      n.readerFor inc = .ok c.reader := by
  obtain ⟨before, behind, hlist, hlead⟩ := writerFor_eq_ok.1 hw
  rw [hn.writers_eq] at hlist
  obtain ⟨before, rest, rfl, rfl, hrest⟩ := List.map_eq_append_iff.1 hlist
  obtain ⟨c, behind, rfl, rfl, rfl⟩ := List.map_eq_cons_iff.1 hrest
  refine ⟨c, by simp, rfl, fun inc hfit => ?_⟩
  have hc : c.reader.priority = c.writer.priority := (hcodecs c (by simp)).priority_eq
  have hreads : Leads (fun r : Reader α => r.applicable inc) (fun r : Reader α => r.priority)
      (before.map (·.reader)) c.reader (behind.map (·.reader)) := by
    refine ⟨hfit, ?_, ?_⟩
    · intro r hr _
      obtain ⟨d, hd, rfl⟩ := List.mem_map.1 hr
      have hinverts := hcodecs d (List.mem_append_left _ hd)
      rw [hinverts.priority_eq, hc]
      exact hlead.before_le d.writer (List.mem_map_of_mem hd) (hinverts.always m)
    · intro r hr _
      obtain ⟨d, hd, rfl⟩ := List.mem_map.1 hr
      have hinverts := hcodecs d (List.mem_append_right _ (List.mem_cons_of_mem _ hd))
      rw [hinverts.priority_eq, hc]
      exact hlead.behind_lt d.writer (List.mem_map_of_mem hd) (hinverts.always m)
  exact readerFor_eq_ok.2 ⟨_, _, by rw [hn.readers_eq, List.map_append, List.map_cons], hreads⟩

/-- The codec that wrote a message is the one that is selected on arrival, and reads what it wrote. -/
theorem restores_of_registers (hn : n.Registers codecs) (hcodecs : ∀ c ∈ codecs, c.Inverts m.content)
    (passage : n.Passage m) {written : Bytes} (hwritten : n.written? m = some written) :
    n.LeavesEncoding m ∧ ∃ c : Codec α, n.readerFor passage.received = .ok c.reader ∧
      ∀ bound, written.length ≤ bound → ∀ {τ : Type} [ByteSource τ] (source : τ), Streams source written →
        ((c.reader.read bound passage.received.properties).run source).1 = .ok m.content := by
  obtain ⟨w, encoding, p, s, s', h⟩ := encode_ok passage.encode_eq
  obtain ⟨c, hc, rfl, hreader⟩ := readerFor_of_writerFor hn hcodecs h.writer_eq
  obtain ⟨hkept, hfits, hread⟩ :=
    (hcodecs c hc).restores m.properties _ written p (h.emitted_eq hwritten) (congrArg Prod.fst h.run_eq)
  obtain ⟨-, id, hproperties⟩ := passage.received_eq
  have htype : passage.received.properties.contentType = p.contentType := by
    rw [hproperties, h.properties_eq, label]
    split <;> rfl
  exact ⟨h.leavesEncoding_iff.2 hkept, c, hreader _ (hfits _ htype), fun bound hb _ _ => hread bound _ hb⟩

/-- **A message comes back** from codecs that read what they write, whichever of them is chosen and whichever
encoding was agreed on. -/
theorem decode_of_registers (hz : n.packing.Inverts) (hn : n.Registers codecs)
    (hcodecs : ∀ c ∈ codecs, c.Inverts m.content) (passage : n.Passage m) (hplain : m.properties.Unencoded)
    {written : Bytes} (hwritten : n.written? m = some written) (hmax : written.length ≤ n.maxSize) :
    n.decode passage.received = .ok (passage.received.withContent m.content) := by
  obtain ⟨hkeep, c, hreader, hread⟩ := restores_of_registers hn hcodecs passage hwritten
  obtain ⟨_, -, hstream, hdecode⟩ := passage.hands_written hz hplain hkeep hwritten hmax
  rw [hdecode c.reader hreader, hread _ hmax _ hstream]
  rfl

/-! ## Codecs of one kind -/

/-- Negotiators of the codecs given, in any number and order, give back every message with a content that fits:
what was written in full and within the bound is decoded to the content, in an envelope with the same address. Their
decompression inverts their compression. -/
def Restoring (given : Codec α → Prop) (fits : α → Prop) : Prop :=
  ∀ (n : Negotiator α) (codecs : List (Codec α)) (m : Outgoing α) (passage : n.Passage m) (written : Bytes),
    n.packing.Inverts → n.Registers codecs → (∀ c ∈ codecs, given c) → fits m.content → m.properties.Unencoded →
    n.written? m = some written → written.length ≤ n.maxSize → passage.Addressed →
    ∃ result, n.decode passage.received = .ok result ∧ result.content = m.content ∧
      result.envelope.exchange = m.envelope.exchange ∧ result.envelope.routingKey = m.envelope.routingKey

theorem Passage.Addressed.envelope_eq {passage : n.Passage m} (h : passage.Addressed) :
    passage.received.envelope.exchange = m.envelope.exchange ∧
      passage.received.envelope.routingKey = m.envelope.routingKey := by
  obtain ⟨_, _, _, _, _, hencoded⟩ := encode_ok passage.encode_eq
  obtain ⟨-, hexchange, hkey, -⟩ := Incoming.classify_ok passage.classify_eq passage.properties_eq
  rw [hexchange, hkey, h.exchange_eq, h.routingKey_eq, hencoded.out_eq]
  cases m <;> exact ⟨rfl, rfl⟩

theorem restoring {given : Codec α → Prop} {fits : α → Prop} (h : ∀ c a, given c → fits a → c.Inverts a) :
    Restoring given fits := by
  intro n codecs m passage written hz hn hgiven hfits hplain hwritten hmax haddress
  have hcodecs : ∀ c ∈ codecs, c.Inverts m.content := fun c hc => h c m.content (hgiven c hc) hfits
  obtain ⟨hexchange, hkey⟩ := haddress.envelope_eq
  refine ⟨_, decode_of_registers hz hn hcodecs passage hplain hwritten hmax, ?_, ?_, ?_⟩
  · rw [Incoming.content, Incoming.envelope_withContent]
    rfl
  · rw [Incoming.envelope_withContent]
    exact hexchange
  · rw [Incoming.envelope_withContent]
    exact hkey

end Negotiator

namespace Codec

/-- The codecs for texts: as they are, or as JSON at any priority. -/
def ForText (c : Codec String) : Prop := c = text ∨ ∃ kind priority, c = json kind priority

/-- The codecs for bytes: as they are, or as JSON at any priority. -/
def ForBytes (c : Codec Bytes) : Prop := c = bytes ∨ ∃ kind priority, c = json kind priority

/-- The codecs for orders: as JSON at any priority. -/
def ForOrder (c : Codec Scripted.Order) : Prop := ∃ kind priority, c = json kind priority

end Codec

namespace Negotiator

/-- Texts as JSON and as they are, the latter preferred. -/
def forTexts : Negotiator String where
  payload := "String"
  readers := [JsonCodec.reader, TextCodec.reader]
  writers := [JsonCodec.writer, TextCodec.writer]
  maxSize := 64

/-- A response to a requester that asks for compression. -/
def wanted : Outgoing String :=
  .response ⟨defaultExchange, "replies", { correlationId := some "c-1" }, "hi"⟩
    ⟨"ex", "rk", "replies", "c-1", some ContentEncoding.gzip.token⟩

/-- Its two letters, written at once and compressed. -/
theorem writesAtOnce_wanted : forTexts.WritesAtOnce wanted [0x68, 0x69]
    { correlationId := some "c-1", contentType := some TextCodec.contentType } where
  packing_eq := rfl
  encoding_eq := (encodingFor_of_none rfl rfl).2 (Accept.negotiate_token .gzip)
  writes := ⟨_, _, rfl, rfl, rfl⟩

/-- The two letters stand in four bytes, between the header and the sums. -/
theorem gzipped_letters : gzipped [0x68, 0x69] =
    [0x1F, 0x8B, 8, 0, 0, 0, 0, 0, 0, 0xFF, 0xCB, 0xC8, 0x04, 0x00, 0xAC, 0x2A, 0x93, 0xD8, 2, 0, 0, 0] := by
  rw [gzipped, Compressor.finish, say_pair]
  decide +kernel

end Negotiator
end BrokerClient
