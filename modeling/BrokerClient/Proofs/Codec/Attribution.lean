import BrokerClient.Proofs.Codec.RoundTrip
import BrokerClient.Proofs.Codec.Truncation

/-!
# Whose failure is reported

An encoding fails with the writer's own failure or as too large. What decides is whether the sink refused anything, and
`overflowed_writeContent` says when it did: at a request of the writer, or when the encoded form was completed. That is
also tried after the writer has failed, since a packer that is dropped tries to complete its form; so a failure with
which the bound has nothing to do is reported as too large if the rest of a compressed form does not fit
(`masked_failure`). `attributed` says what is reported in every case.
-/

namespace BrokerClient

open ByteStream

namespace Negotiator

variable {α : Type} {n : Negotiator α} {m : Outgoing α} {program : Writing (Except CodecError Properties)}
  {sink : ContentSink n.packing}

/-! ## Completing -/

/-- The encoded form is completed, which is tried however the program ends. -/
def Completes {z : Packing} (program : Writing (Except CodecError Properties)) (sink : ContentSink z) : Prop :=
  (program.run sink).2.finish.1 = .ok ()

theorem completes_of_plain {z : Packing} {sink : ContentSink z} (h : ¬sink.Packs)
    (program : Writing (Except CodecError Properties)) : Completes program sink := by
  rw [Completes, ContentSink.finish_plain (mt (ContentSink.run_packs program).1 h)]

/-- A form that is given up leaves the sink as it is left when the form is completed. -/
theorem writeContent_eq_finish (hdrop : n.packing.FinishesOnDrop) (encoding : ContentEncoding) :
    (writeContent (n.sinkFor encoding) program).2 = (program.run (n.sinkFor encoding)).2.finish.2 := by
  rw [writeContent_snd]
  split
  · rfl
  · exact ContentSink.drop_eq hdrop ((n.reached_sinkFor encoding).run program)

/-- The flag at the end: a request of the writer was refused, or the encoded form was not completed. -/
theorem overflowed_writeContent (hkeeps : n.packing.Keeps) (hdrop : n.packing.FinishesOnDrop)
    (encoding : ContentEncoding) : (writeContent (n.sinkFor encoding) program).2.overflowed = true ↔
      program.emitted? (n.sinkFor encoding) = none ∨ ¬Completes program (n.sinkFor encoding) := by
  have hrun := ContentSink.overflowed_run hkeeps program (n.reached_sinkFor encoding) (n.unrefused_sinkFor encoding)
  have hreached := (n.reached_sinkFor encoding).run program
  rw [writeContent_eq_finish hdrop, ContentSink.overflowed_finish hkeeps hreached, hrun]
  rfl

/-! ## Failures -/

theorem writeContent_error {z : Packing} {sink : ContentSink z} {e : CodecError} (h : (program.run sink).1 = .error e) :
    (writeContent sink program).1 = .error e := by
  unfold writeContent
  cases hrun : program.run sink with
  | mk result s =>
    rw [hrun] at h
    obtain rfl : result = .error e := h
    rfl

/-- A failure is the program's own, or says in its place that the encoded form was not completed. -/
theorem error_of_writeContent {z : Packing} {sink : ContentSink z} {e : CodecError}
    (h : (writeContent sink program).1 = .error e) : (program.run sink).1 = .error e ∨ ∃ text, e = .encode text := by
  unfold writeContent at h
  cases hrun : program.run sink with
  | mk result s =>
    rw [hrun] at h
    cases result with
    | error e' => exact .inl h
    | ok p =>
      cases hfinish : s.finish with
      | mk done s' =>
        simp only [hfinish] at h
        cases done with
        | ok u => cases h
        | error e' =>
          cases h
          exact .inr ⟨e'.message, rfl⟩

/-- A failure of what the writer and the encoded form came to. -/
theorem encode_error (hw : n.writing? m = some (program, sink)) {e : CodecError}
    (h : (writeContent sink program).1 = .error e) :
    n.encode m = .error (if (writeContent sink program).2.overflowed then .tooLarge n.maxSize else e) := by
  obtain ⟨encoding, -, -, hencode⟩ := encode_eq hw
  rw [hencode, h]
  rfl

/-- Nothing is too large before there is a writer. -/
theorem writing_of_tooLarge {k : Nat} (h : n.encode m = .error (.tooLarge k)) :
    ∃ program sink, n.writing? m = some (program, sink) := by
  unfold encode at h
  cases hw : n.writerFor m with
  | error e =>
    rw [hw] at h
    obtain rfl : e = .tooLarge k := Except.error.inj h
    cases (writerFor_eq_error.1 hw).1
  | ok w =>
    cases he : n.encodingFor m with
    | ok encoding =>
      exact ⟨w.write m.content m.properties, n.sinkFor encoding, by simp only [writing?, hw, he]⟩
    | error e =>
      rw [hw, he] at h
      obtain rfl : e = .tooLarge k := Except.error.inj h
      unfold encodingFor at he
      split at he
      · cases he
      · split at he <;> cases he

theorem error_of_encode (hw : n.writing? m = some (program, sink)) {e : CodecError} (h : n.encode m = .error e) :
    ∃ e', (writeContent sink program).1 = .error e' := by
  obtain ⟨encoding, -, -, hencode⟩ := encode_eq hw
  cases hresult : (writeContent sink program).1 with
  | error e' => exact ⟨e', rfl⟩
  | ok p =>
    rw [hencode, hresult] at h
    cases h

/-- **Whose failure is reported.** A writer that fails although nothing was refused it has its failure reported, unless
the form that it leaves is compressed and cannot be completed within the bound. An encoding is too large only where a
request of the writer or the completion of the encoded form was refused, or on the writer's own word. -/
theorem attributed (n : Negotiator α) (m : Outgoing α) (hkeeps : n.packing.Keeps) (hdrop : n.packing.FinishesOnDrop) :
    (∀ program sink e written, n.writing? m = some (program, sink) → (program.run sink).1 = .error e →
      program.emitted? sink = some written →
        (n.encodingFor m = .ok .identity ∨ Completes program sink → n.encode m = .error e) ∧
        (¬Completes program sink → n.encode m = .error (.tooLarge n.maxSize))) ∧
    ∀ k, n.encode m = .error (.tooLarge k) → ∃ program sink, n.writing? m = some (program, sink) ∧
      ((program.run sink).1 = .error (.tooLarge k) ∨
        k = n.maxSize ∧ (program.emitted? sink = none ∨ ¬Completes program sink)) := by
  constructor
  · intro program sink e written hw he hwritten
    have hencode := encode_error hw (writeContent_error he)
    obtain ⟨encoding, hencoding, rfl, -⟩ := encode_eq hw
    have hflag : (writeContent (n.sinkFor encoding) program).2.overflowed = true ↔ _ :=
      overflowed_writeContent hkeeps hdrop encoding
    constructor
    · intro hcompletes
      have hdone : Completes program (n.sinkFor encoding) := by
        rcases hcompletes with hidentity | hdone
        · obtain rfl : .identity = encoding := Except.ok.inj (hidentity.symm.trans hencoding)
          have hplain : ¬(n.sinkFor .identity).Packs := not_false
          exact completes_of_plain hplain program
        · exact hdone
      have hunflagged : ¬(writeContent (n.sinkFor encoding) program).2.overflowed = true := by
        rw [hflag, hwritten]
        simp [hdone]
      rwa [if_neg hunflagged] at hencode
    · intro hcompletes
      rwa [if_pos (hflag.2 (.inr hcompletes))] at hencode
  · intro k hk
    obtain ⟨program, sink, hw⟩ := writing_of_tooLarge hk
    obtain ⟨e, he⟩ := error_of_encode hw hk
    have hencode := encode_error hw he
    rw [hk] at hencode
    obtain ⟨encoding, -, rfl, -⟩ := encode_eq hw
    refine ⟨program, _, hw, ?_⟩
    by_cases hflag : (writeContent (n.sinkFor encoding) program).2.overflowed = true
    · rw [if_pos hflag] at hencode
      cases hencode
      exact .inr ⟨rfl, (overflowed_writeContent hkeeps hdrop encoding).1 hflag⟩
    · rw [if_neg hflag] at hencode
      obtain rfl := Except.error.inj hencode
      rcases error_of_writeContent he with hown | ⟨text, htext⟩
      · exact .inl hown
      · cases htext

/-! ## A writer that fails before it writes -/

def breaking (max : Nat) : Negotiator String where
  payload := "String"
  writers := [({ failure := some "broken" } : Scripted.WriterScript).toWriter]
  maxSize := max

theorem writing_wanted (max : Nat) : (breaking max).writing? wanted =
    some (.done (.error (.encode "broken")), (breaking max).sinkFor .gzip) := by
  have hencoding : (breaking max).encodingFor wanted = .ok .gzip :=
    (encodingFor_of_none rfl rfl).2 (Accept.negotiate_token .gzip)
  rw [writing?, hencoding]
  rfl

theorem not_completes_wanted : ¬Completes (.done (.error (.encode "broken"))) ((breaking 5).sinkFor .gzip) := nofun

theorem attributed_broken : (breaking 5).encode note = .error (.encode "broken") ∧
    (breaking 5).encode wanted = .error (.tooLarge 5) := by
  obtain ⟨hplain, -⟩ := attributed (breaking 5) note Deflate.keeps Deflate.finishesOnDrop
  obtain ⟨hpacked, -⟩ := attributed (breaking 5) wanted Deflate.keeps Deflate.finishesOnDrop
  exact ⟨(hplain _ _ (.encode "broken") [] rfl rfl rfl).1 (.inl rfl),
    (hpacked _ _ (.encode "broken") [] (writing_wanted 5) rfl rfl).2 not_completes_wanted⟩

/-- The header of a compressed form is more than five bytes, and a writer that wrote nothing is said to have written too
much. -/
theorem masked_failure : ¬∀ (n : Negotiator String) (m : Outgoing String) program sink e written,
    n.writing? m = some (program, sink) → (program.run sink).1 = .error e → program.emitted? sink = some written →
      n.encode m = .error e := by
  intro h
  have hclaimed := h (breaking 5) wanted _ _ (.encode "broken") [] (writing_wanted 5) rfl rfl
  have hencode := encode_error (writing_wanted 5) (writeContent_error rfl)
  rw [hclaimed] at hencode
  cases hencode

end Negotiator
end BrokerClient
