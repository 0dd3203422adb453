import BrokerClient.Codec.Negotiator
import BrokerClient.Proofs.Codec.Packing

/-!
# Contents on their way

A message is encoded, delivered and taken in. `encode_ok` says what a successful encoding consists of, and
`Passage` what the delivery has to keep: the properties and the bytes. The encoding that is named on arrival is the
one that was applied, unless the writer names another (`encodingOf_label`), so the selected reader gets a stream of
what the selected writer wrote, and what the reader makes of it is the result (`Passage.hands_written`).
-/

namespace BrokerClient

open ByteStream

/-- No content encoding is named, or identity is, in any case of its letters. -/
def Properties.Unencoded (p : Properties) : Prop :=
  ∀ token, p.contentEncoding = some token → Text.Ascii.sameLetters ContentEncoding.identity.token token = true

namespace Outgoing

variable {α β : Type}

theorem properties_withProperties (m : Outgoing α) (p : Properties) : (m.withProperties p).properties = p := by
  cases m <;> rfl

theorem content_withProperties (m : Outgoing α) (p : Properties) : (m.withProperties p).content = m.content := by
  cases m <;> rfl

theorem content_withContent (m : Outgoing α) (content : β) : (m.withContent content).content = content := by
  cases m <;> rfl

end Outgoing

namespace Negotiator

variable {α : Type} {n : Negotiator α} {m : Outgoing α}

/-- What the selected writer does for a message, and the sink that it gets. -/
def writing? (n : Negotiator α) (m : Outgoing α) :
    Option (Writing (Except CodecError Properties) × ContentSink n.packing) :=
  match n.writerFor m, n.encodingFor m with
  | .ok w, .ok encoding => some (w.write m.content m.properties, n.sinkFor encoding)
  | _, _ => none

/-- The bytes that the selected writer writes, if no request of it fails. -/
def written? (n : Negotiator α) (m : Outgoing α) : Option Bytes := do
  let (program, sink) ← n.writing? m
  program.emitted? sink

/-- The selected writer leaves the content encoding as it finds it. -/
def LeavesEncoding (n : Negotiator α) (m : Outgoing α) : Prop :=
  ∀ program sink p, n.writing? m = some (program, sink) → (program.run sink).1 = .ok p →
    p.contentEncoding = m.properties.contentEncoding

/-! ## Encoding -/

/-- A successful encoding: a writer and an encoding were found, the writer succeeded, and the encoded form was
completed. -/
structure Encoded (n : Negotiator α) (m : Outgoing α) (out : Outgoing Bytes) (w : Writer α) (encoding : ContentEncoding)
    (p : Properties) (s : ContentSink n.packing) (s' : BoundedSink) : Prop where
  writer_eq : n.writerFor m = .ok w
  encoding_eq : n.encodingFor m = .ok encoding
  run_eq : (w.write m.content m.properties).run (n.sinkFor encoding) = (.ok p, s)
  finish_eq : s.finish = (.ok (), s')
  out_eq : out = (m.withContent s'.content).withProperties (label encoding p)

theorem unlessOverflowed_ok {β : Type} {overflowed : Bool} {result : Except CodecError β} {b : β}
    (h : n.unlessOverflowed overflowed result = .ok b) : result = .ok b := by
  cases result with
  | ok b' => exact h
  | error e => cases h

theorem unlessOverflowed_false {β : Type} (result : Except CodecError β) :
    n.unlessOverflowed false result = result := by
  cases result <;> rfl

theorem writeContent_ok {z : Packing} {sink : ContentSink z} {program : Writing (Except CodecError Properties)}
    {p : Properties} (h : (writeContent sink program).1 = .ok p) :
    ∃ s s', program.run sink = (.ok p, s) ∧ s.finish = (.ok (), s') ∧ writeContent sink program = (.ok p, s') := by
  unfold writeContent at h ⊢
  cases hrun : program.run sink with
  | mk result s =>
    rw [hrun] at h
    cases result with
    | error e => cases h
    | ok q =>
      cases hfinish : s.finish with
      | mk done s' =>
        simp only [hfinish] at h ⊢
        cases done with
        | error e => cases h
        | ok u =>
          cases h
          exact ⟨s, s', rfl, hfinish, rfl⟩

theorem writing_eq {w : Writer α} {encoding : ContentEncoding} (hw : n.writerFor m = .ok w)
    (he : n.encodingFor m = .ok encoding) :
    n.writing? m = some (w.write m.content m.properties, n.sinkFor encoding) := by
  rw [writing?, hw, he]

section Writing

variable {program : Writing (Except CodecError Properties)} {sink : ContentSink n.packing}

theorem writing_some (h : n.writing? m = some (program, sink)) : ∃ w encoding, n.writerFor m = .ok w ∧
    n.encodingFor m = .ok encoding ∧ program = w.write m.content m.properties ∧ sink = n.sinkFor encoding := by
  unfold writing? at h
  split at h
  · rename_i w encoding hw he
    obtain ⟨rfl, rfl⟩ := Prod.mk.inj (Option.some.inj h)
    exact ⟨w, encoding, hw, he, rfl, rfl⟩
  · cases h

/-- Encoding is running the writer, completing the encoded form, and putting both into the message. -/
theorem encode_eq (h : n.writing? m = some (program, sink)) : ∃ encoding, n.encodingFor m = .ok encoding ∧
    sink = n.sinkFor encoding ∧ n.encode m =
      (n.unlessOverflowed (writeContent sink program).2.overflowed (writeContent sink program).1).map fun p =>
        (m.withContent (writeContent sink program).2.content).withProperties (label encoding p) := by
  obtain ⟨w, encoding, hw, he, rfl, rfl⟩ := writing_some h
  refine ⟨encoding, he, rfl, ?_⟩
  let written := writeContent (n.sinkFor encoding) (w.write m.content m.properties)
  have hencode : n.encode m = (n.unlessOverflowed written.2.overflowed written.1 >>= fun p =>
      pure ((m.withContent written.2.content).withProperties (label encoding p))) := by
    rw [encode, hw, he]
    rfl
  rw [hencode]
  cases n.unlessOverflowed written.2.overflowed written.1 <;> rfl

theorem written_eq (h : n.writing? m = some (program, sink)) : n.written? m = program.emitted? sink := by
  rw [written?, h]
  rfl

end Writing

theorem map_ok {ε β γ : Type} {f : β → γ} {r : Except ε β} {c : γ} (h : r.map f = .ok c) :
    ∃ b, r = .ok b ∧ f b = c := by
  cases r with
  | error e => cases h
  | ok b => exact ⟨b, rfl, Except.ok.inj h⟩

theorem encode_ok {out : Outgoing Bytes} (h : n.encode m = .ok out) :
    ∃ w encoding p s s', n.Encoded m out w encoding p s s' := by
  cases hw : n.writerFor m with
  | error e => rw [encode, hw] at h; cases h
  | ok w =>
    cases he : n.encodingFor m with
    | error e => rw [encode, hw, he] at h; cases h
    | ok encoding =>
      obtain ⟨_, he', -, hencode⟩ := encode_eq (writing_eq hw he)
      obtain rfl := Except.ok.inj (he.symm.trans he')
      obtain ⟨p, hp, rfl⟩ := map_ok (hencode.symm.trans h)
      obtain ⟨s, s', hrun, hfinish, hcontent⟩ := writeContent_ok (unlessOverflowed_ok hp)
      rw [hcontent]
      exact ⟨w, encoding, p, s, s', hw, he, hrun, hfinish, rfl⟩

namespace Encoded

variable {out : Outgoing Bytes} {w : Writer α} {encoding : ContentEncoding} {p : Properties}
  {s : ContentSink n.packing} {s' : BoundedSink}

theorem writing_eq (h : n.Encoded m out w encoding p s s') :
    n.writing? m = some (w.write m.content m.properties, n.sinkFor encoding) :=
  Negotiator.writing_eq h.writer_eq h.encoding_eq

theorem emitted_eq (h : n.Encoded m out w encoding p s s') {written : Bytes} (hw : n.written? m = some written) :
    (w.write m.content m.properties).emitted? (n.sinkFor encoding) = some written := by
  rw [← hw, written?, h.writing_eq]
  rfl

theorem leavesEncoding_iff (h : n.Encoded m out w encoding p s s') :
    n.LeavesEncoding m ↔ p.contentEncoding = m.properties.contentEncoding := by
  constructor
  · intro hkeep
    exact hkeep _ _ p h.writing_eq (congrArg Prod.fst h.run_eq)
  · intro hkept program sink q hq hok
    rw [h.writing_eq] at hq
    obtain ⟨rfl, rfl⟩ := Prod.mk.inj (Option.some.inj hq)
    rw [h.run_eq] at hok
    rwa [← Except.ok.inj hok]

theorem properties_eq (h : n.Encoded m out w encoding p s s') : out.properties = label encoding p := by
  rw [h.out_eq, Outgoing.properties_withProperties]

theorem content_eq (h : n.Encoded m out w encoding p s s') : out.content = s'.content := by
  rw [h.out_eq, Outgoing.content_withProperties, Outgoing.content_withContent]

theorem writeContent_eq (h : n.Encoded m out w encoding p s s') :
    writeContent (n.sinkFor encoding) (w.write m.content m.properties) = (.ok p, s') := by
  simp only [writeContent, h.run_eq, h.finish_eq]

/-- The message's content stands for what the sink took in. -/
theorem streams (h : n.Encoded m out w encoding p s s') (hz : n.packing.Inverts) {written : Bytes}
    (hw : n.written? m = some written) :
    Streams (ContentSource.ofBytes out.content encoding : ContentSource n.packing) written := by
  have hholds := Writing.run_emitted (ContentSink.Holds encoding) ContentSink.Holds.write ContentSink.Holds.flush
    (w.write m.content m.properties) (ContentSink.holds_ofEncoding n.maxSize encoding) (h.emitted_eq hw)
  rw [show (w.write m.content m.properties).run (.ofEncoding { max := n.maxSize } encoding) = (.ok p, s) from h.run_eq]
    at hholds
  rw [h.content_eq]
  exact streams_finish hz hholds h.finish_eq

end Encoded

/-! ## The encoding on arrival -/

/-- A message that names identity is not compressed. -/
theorem encodingFor_of_some {token : String} (ht : m.properties.contentEncoding = some token) :
    n.encodingFor m = .ok .identity := by
  rw [encodingFor, ht, Option.isSome_some, Bool.or_true, if_pos rfl]

/-- Without a label of the message's own, compression is a matter between the negotiator and the requester. -/
theorem encodingFor_of_none (h : m.properties.contentEncoding = none) (hc : n.compression = true)
    {encoding : ContentEncoding} : n.encodingFor m = .ok encoding ↔
      Accept.negotiate m.acceptEncoding ContentEncoding.all = .ok encoding := by
  rw [encodingFor, h, hc, Option.isSome_none, Bool.not_true, Bool.or_false, if_neg Bool.false_ne_true]
  cases Accept.negotiate m.acceptEncoding ContentEncoding.all <;> simp

/-- The encoding that was applied is the one that is named on arrival. -/
theorem encodingOf_label (hplain : m.properties.Unencoded) {encoding : ContentEncoding}
    (he : n.encodingFor m = .ok encoding) {p : Properties} (hp : p.contentEncoding = m.properties.contentEncoding) :
    encodingOf (label encoding p) = .ok encoding := by
  cases ht : m.properties.contentEncoding with
  | some token =>
    obtain rfl : .identity = encoding := Except.ok.inj ((encodingFor_of_some ht).symm.trans he)
    have hfound : ContentEncoding.ofToken? token = some .identity := by
      rw [ContentEncoding.ofToken?, ContentEncoding.all]
      exact List.find?_cons_of_pos (hplain token ht)
    rw [label, if_pos rfl, encodingOf, hp, ht]
    simp only [hfound]
  | none =>
    rw [label]
    by_cases hidentity : encoding = .identity
    · rw [if_pos hidentity, encodingOf, hp, ht, hidentity]
    · rw [if_neg hidentity, encodingOf]
      simp only [ContentEncoding.ofToken?_token]

/-! ## Decoding -/

/-- What the selected reader does for a message, and the source that it gets. -/
def reading? (n : Negotiator α) (inc : Incoming Bytes) :
    Option (Reading (Except CodecError α) × BoundedSource (ContentSource n.packing)) :=
  match n.readerFor inc, encodingOf inc.properties with
  | .ok r, .ok encoding => some (r.read n.maxSize inc.properties, n.sourceOf encoding inc.content)
  | _, _ => none

variable {inc : Incoming Bytes}

theorem reading_eq {r : Reader α} {encoding : ContentEncoding} (hr : n.readerFor inc = .ok r)
    (hnamed : encodingOf inc.properties = .ok encoding) :
    n.reading? inc = some (r.read n.maxSize inc.properties, n.sourceOf encoding inc.content) := by
  rw [reading?, hr, hnamed]

/-- Decoding is running the reader and putting what it makes of the content into the message. -/
theorem decode_eq {program : Reading (Except CodecError α)} {source : BoundedSource (ContentSource n.packing)}
    (h : n.reading? inc = some (program, source)) : ∃ encoding, source = n.sourceOf encoding inc.content ∧
      n.decode inc =
        (n.unlessOverflowed (program.run source).2.overflowed (program.run source).1).map inc.withContent := by
  unfold reading? at h
  split at h
  · rename_i r encoding hr he
    obtain ⟨rfl, rfl⟩ := Prod.mk.inj (Option.some.inj h)
    refine ⟨encoding, rfl, ?_⟩
    let read := (r.read n.maxSize inc.properties).run (n.sourceOf encoding inc.content)
    have hread : n.readContent r inc = n.unlessOverflowed read.2.overflowed read.1 := by
      rw [readContent, he]
      rfl
    have hdecode : n.decode inc = (n.readContent r inc).bind fun a => .ok (inc.withContent a) := by
      rw [decode, hr]
      rfl
    rw [hdecode, hread]
    cases n.unlessOverflowed read.2.overflowed read.1 <;> rfl
  · cases h

/-- Where no read was refused, decoding is what the reader makes of the content. -/
theorem decode_unrefused {r : Reader α} {encoding : ContentEncoding} (hr : n.readerFor inc = .ok r)
    (hnamed : encodingOf inc.properties = .ok encoding)
    (hflag : ((r.read n.maxSize inc.properties).run (n.sourceOf encoding inc.content)).2.overflowed = false) :
    n.decode inc = ((r.read n.maxSize inc.properties).run (n.sourceOf encoding inc.content)).1.map inc.withContent := by
  obtain ⟨-, -, hdecode⟩ := decode_eq (reading_eq hr hnamed)
  rw [hdecode, hflag, unlessOverflowed_false]

end Negotiator

/-! ## Deliveries -/

/-- What a message that was taken in has from its delivery: everything but a correlation id that a request may be
given. -/
theorem Incoming.classify_ok {fresh queue : String} {d : Delivery} {inc : Incoming Bytes} {p : Properties}
    (h : Incoming.classify fresh d queue = .ok inc) (hp : Properties.ofWire d.properties = .ok p) :
    inc.content = d.data ∧ inc.envelope.exchange = d.exchange ∧ inc.envelope.routingKey = d.routingKey ∧
      ∃ id, inc.properties = { p with correlationId := id } := by
  simp only [Incoming.classify, hp, bind, Except.bind] at h
  by_cases hdirect : queue = directReplyTo
  · simp only [if_pos hdirect] at h
    by_cases hnone : p.correlationId.isNone
    · rw [if_pos hnone] at h
      cases h
    · rw [if_neg hnone] at h
      cases h
      exact ⟨rfl, rfl, rfl, p.correlationId, rfl⟩
  · simp only [if_neg hdirect] at h
    split at h
    · cases h
      exact ⟨rfl, rfl, rfl, p.correlationId, rfl⟩
    · cases h
      exact ⟨rfl, rfl, rfl, _, rfl⟩

namespace Negotiator

/-- The way of a message: it is encoded, a delivery carries the properties and the bytes that come out, and is taken
in from some queue. -/
structure Passage {α : Type} (n : Negotiator α) (m : Outgoing α) where
  encoded : Outgoing Bytes
  encode_eq : n.encode m = .ok encoded
  delivery : Delivery
  properties_eq : Properties.ofWire delivery.properties = .ok encoded.properties
  data_eq : delivery.data = encoded.content
  fresh : String
  queue : String
  received : Incoming Bytes
  classify_eq : Incoming.classify fresh delivery queue = .ok received

namespace Passage

variable {α : Type} {n : Negotiator α} {m : Outgoing α}

/-- The delivery went where the message was sent. -/
structure Addressed (passage : n.Passage m) : Prop where
  exchange_eq : passage.delivery.exchange = passage.encoded.envelope.exchange
  routingKey_eq : passage.delivery.routingKey = passage.encoded.envelope.routingKey

/-- Every encoded message can be delivered. -/
theorem exists_of_encode {out : Outgoing Bytes} (h : n.encode m = .ok out) :
    ∃ passage : n.Passage m, passage.encoded = out ∧ passage.Addressed := by
  let delivery : Delivery :=
    ⟨1, out.envelope.exchange, out.envelope.routingKey, false, out.properties.toWire, out.content⟩
  have hproperties : Properties.ofWire delivery.properties = .ok out.properties := Properties.ofWire_toWire _
  obtain ⟨received, hreceived⟩ : ∃ received, Incoming.classify "" delivery "" = .ok received := by
    simp only [Incoming.classify, hproperties, bind, Except.bind]
    rw [if_neg (by decide +kernel)]
    split <;> exact ⟨_, rfl⟩
  exact ⟨⟨out, h, delivery, hproperties, rfl, "", "", received, hreceived⟩, rfl, rfl, rfl⟩

/-- What arrives is what was encoded, but for a correlation id. -/
theorem received_eq (passage : n.Passage m) : passage.received.content = passage.encoded.content ∧
    ∃ id, passage.received.properties = { passage.encoded.properties with correlationId := id } := by
  obtain ⟨hcontent, -, -, hproperties⟩ := Incoming.classify_ok passage.classify_eq passage.properties_eq
  exact ⟨hcontent.trans passage.data_eq, hproperties⟩

/-- On arrival, the selected reader gets a stream of these bytes, and what it makes of them is the result. -/
def Hands (passage : n.Passage m) (bytes : Bytes) : Prop :=
  ∃ encoding, encodingOf passage.received.properties = .ok encoding ∧
    Streams (n.sourceOf encoding passage.received.content) bytes ∧
    ∀ r, n.readerFor passage.received = .ok r → n.decode passage.received =
      (((r.read n.maxSize passage.received.properties).run
        (n.sourceOf encoding passage.received.content)).1).map passage.received.withContent

/-- What was written is what the content stands for on arrival. -/
theorem streams_written (passage : n.Passage m) (hz : n.packing.Inverts) {written : Bytes}
    (hplain : m.properties.Unencoded) (hkeep : n.LeavesEncoding m) (hw : n.written? m = some written) :
    ∃ encoding, encodingOf passage.received.properties = .ok encoding ∧
      Streams (ContentSource.ofBytes passage.received.content encoding : ContentSource n.packing) written := by
  obtain ⟨w, encoding, p, s, s', h⟩ := encode_ok passage.encode_eq
  obtain ⟨hcontent, id, hproperties⟩ := passage.received_eq
  refine ⟨encoding, ?_, ?_⟩
  · rw [← encodingOf_label hplain h.encoding_eq (h.leavesEncoding_iff.1 hkeep), hproperties, h.properties_eq]
    rfl
  · rw [hcontent]
    exact h.streams hz hw

/-- **What was written is what is read**, when it is within the bound. -/
theorem hands_written (passage : n.Passage m) (hz : n.packing.Inverts) {written : Bytes}
    (hplain : m.properties.Unencoded) (hkeep : n.LeavesEncoding m) (hw : n.written? m = some written)
    (hmax : written.length ≤ n.maxSize) : passage.Hands written := by
  obtain ⟨encoding, hnamed, hinner⟩ := passage.streams_written hz hplain hkeep hw
  refine ⟨encoding, hnamed, hinner.bounded hmax, fun r hr => ?_⟩
  have hflag : ((r.read n.maxSize passage.received.properties).run
      (n.sourceOf encoding passage.received.content)).2.overflowed = false :=
    overflowed_run (r.read n.maxSize passage.received.properties) hinner hmax
  exact decode_unrefused hr hnamed hflag

end Passage
end Negotiator
end BrokerClient
