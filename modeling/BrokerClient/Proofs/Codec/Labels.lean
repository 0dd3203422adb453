import BrokerClient.Proofs.Codec.Bounds

/-!
# What the label says

The property that names the encoding of a content, after encoding. `label_of_encode`: a message's own label stays as it
is, and a message without one gets the token that was agreed on with the requester, or none where there is nothing to
agree on or identity was agreed on; read under the encoding that it names, the content is what was written. The label
is put where something was compressed, over whatever the writer left; elsewhere it is the writer's (`label_of_writer`),
who has to leave it alone.
-/

namespace BrokerClient.Negotiator

open ByteStream Deflate

variable {α : Type} {n : Negotiator α} {m : Outgoing α} {out : Outgoing Bytes}

/-! ## The encoding for a message -/

/-- Nothing is compressed for a message that answers nobody, or by a negotiator that does not compress. -/
theorem encodingFor_identity (h : n.compression = false ∨ m.origin? = none) : n.encodingFor m = .ok .identity := by
  unfold encodingFor
  rcases h with hc | horigin
  · rw [hc]
    rfl
  · have haccept : m.acceptEncoding = none := by rw [Outgoing.acceptEncoding, horigin]; rfl
    rw [haccept]
    split <;> rfl

/-! ## The label -/

theorem label_identity (p : Properties) : label .identity p = p := rfl

theorem contentEncoding_label {encoding : ContentEncoding} (h : encoding ≠ .identity) (p : Properties) :
    (label encoding p).contentEncoding = some encoding.token := by
  rw [label, if_neg h]

theorem encodingOf_congr {p q : Properties} (h : p.contentEncoding = q.contentEncoding) :
    encodingOf p = encodingOf q := by
  unfold encodingOf
  rw [h]

/-- Where nothing is compressed, the label is what the writer left. -/
theorem label_of_writer (h : n.encode m = .ok out) (hidentity : n.encodingFor m = .ok .identity) :
    ∃ program sink, n.writing? m = some (program, sink) ∧ (program.run sink).1 = .ok out.properties := by
  obtain ⟨w, encoding, p, s, s', henc⟩ := encode_ok h
  obtain rfl : .identity = encoding := Except.ok.inj (hidentity.symm.trans henc.encoding_eq)
  refine ⟨_, _, henc.writing_eq, ?_⟩
  rw [henc.run_eq, henc.properties_eq, label_identity]

/-- What the label is: the token of the encoding that was applied, or else what the message came with. -/
theorem label_cases (h : n.encode m = .ok out) (hkeep : n.encodingFor m = .ok .identity → n.LeavesEncoding m) :
    ∃ encoding, n.encodingFor m = .ok encoding ∧ out.properties.contentEncoding =
      if encoding = .identity then m.properties.contentEncoding else some encoding.token := by
  obtain ⟨w, encoding, p, s, s', henc⟩ := encode_ok h
  refine ⟨encoding, henc.encoding_eq, ?_⟩
  by_cases hidentity : encoding = .identity
  · obtain ⟨program, sink, hw, hrun⟩ := label_of_writer h (hidentity ▸ henc.encoding_eq)
    rw [if_pos hidentity]
    exact hkeep (hidentity ▸ henc.encoding_eq) program sink _ hw hrun
  · rw [if_neg hidentity, henc.properties_eq, contentEncoding_label hidentity]

/-- **What the label says.** A message keeps its own. Another gets none if the negotiator does not compress or nobody
is answered, and otherwise what was agreed on with the requester, whatever the writer did to the properties; where
nothing is compressed, the writer has to leave the label alone. The label of a message that does not come encoded names
the encoding that was applied: its content is read back under it, if decompression inverts compression. -/
theorem label_of_encode (h : n.encode m = .ok out) (hkeep : n.encodingFor m = .ok .identity → n.LeavesEncoding m) :
    (∀ token, m.properties.contentEncoding = some token → out.properties.contentEncoding = some token) ∧
    (m.properties.contentEncoding = none → n.compression = false ∨ m.origin? = none →
      out.properties.contentEncoding = none) ∧
    (m.properties.contentEncoding = none → n.compression = true →
      ∃ e, Accept.negotiate m.acceptEncoding ContentEncoding.all = .ok e ∧
        out.properties.contentEncoding = if e = .identity then none else some e.token) ∧
    (m.properties.Unencoded → ∃ encoding, n.encodingFor m = .ok encoding ∧ encodingOf out.properties = .ok encoding ∧
      (n.packing.Inverts → ∀ written, n.written? m = some written →
        Streams (ContentSource.ofBytes out.content encoding : ContentSource n.packing) written)) := by
  obtain ⟨encoding, he, hlabel⟩ := label_cases h hkeep
  refine ⟨?_, ?_, ?_, ?_⟩
  · intro token htoken
    obtain rfl : .identity = encoding := Except.ok.inj ((encodingFor_of_some htoken).symm.trans he)
    rw [hlabel, if_pos rfl, htoken]
  · intro hnone hplain
    obtain rfl : .identity = encoding := Except.ok.inj ((encodingFor_identity hplain).symm.trans he)
    rw [hlabel, if_pos rfl, hnone]
  · intro hnone hc
    exact ⟨encoding, (encodingFor_of_none hnone hc).1 he, by rw [hlabel, hnone]⟩
  · intro hplain
    obtain ⟨w, encoding', p, s, s', henc⟩ := encode_ok h
    obtain rfl : encoding' = encoding := Except.ok.inj (henc.encoding_eq.symm.trans he)
    refine ⟨encoding', he, ?_, fun hz written hwritten => henc.streams hz hwritten⟩
    have hsame : out.properties.contentEncoding = (label encoding' m.properties).contentEncoding := by
      rw [hlabel, label]
      split <;> rfl
    rw [encodingOf_congr hsame]
    exact encodingOf_label hplain he rfl

/-! ## A writer that changes the label -/

/-- Writes bytes, and names an encoding that they are not in. -/
def misnamer : Writer Bytes where
  applicable _ := true
  write value p := do
    return match ← Writing.writeAll value with
      | .ok _ => .ok { p with contentEncoding := some "br" }
      | .error e => .error (.encode e.message)

def misnaming (max : Nat) : Negotiator Bytes where
  payload := "bytes"
  writers := [misnamer]
  maxSize := max

theorem writesAtOnce_misnaming (max : Nat) : (misnaming max).WritesAtOnce repetitive (List.replicate 200 0x61)
    { correlationId := some "c-1", contentEncoding := some "br" } where
  packing_eq := rfl
  encoding_eq := (encodingFor_of_none rfl rfl).2 (Accept.negotiate_token .gzip)
  writes := ⟨_, _, rfl, Writing.writeAll_of_ne (by decide) _, rfl⟩

/-- What is compressed is named for what it is. -/
theorem label_of_encode_repetitive :
    ∃ out, (misnaming 100).encode repetitive = .ok out ∧ out.properties.contentEncoding = some "gzip" := by
  have hfits : (gzipped (List.replicate 200 0x61)).length ≤ (misnaming 100).maxSize := by
    rw [length_gzipped_repetitive]
    decide
  obtain ⟨-, hout⟩ := (writesAtOnce_misnaming 100).encode_eq hfits
  have hkeep : (misnaming 100).encodingFor repetitive = .ok .identity → (misnaming 100).LeavesEncoding repetitive := by
    rw [(writesAtOnce_misnaming 100).encoding_eq]
    intro he
    cases he
  obtain ⟨e, hagreed, hlabel⟩ := (label_of_encode hout hkeep).2.2.1 rfl rfl
  obtain rfl : .gzip = e := Except.ok.inj ((Accept.negotiate_token .gzip).symm.trans hagreed)
  exact ⟨_, hout, hlabel⟩

/-- What is not compressed is named as the writer pleases. -/
theorem misnamed_cast : ∃ out, (misnaming 100).encode (.ofCast "letters" "hello" {} [0x68, 0x69]) = .ok out ∧
    out.content = [0x68, 0x69] ∧ out.properties.contentEncoding = some "br" := ⟨_, rfl, rfl, rfl⟩

end BrokerClient.Negotiator
