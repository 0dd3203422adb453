import BrokerClient.Codec.Json
import BrokerClient.Codec.Plain
import BrokerClient.Proofs.Codec.Refusals
import BrokerClient.Proofs.Codec.Transport
import BrokerClient.Proofs.Deflate.Refusing
import BrokerClient.Scripted.Codec

/-!
# No content is cut short

`untruncated`: an encoding that succeeds was refused nothing, and its content stands for everything that the writer
wrote; where a write was refused the outcome is an overrun of the bound. Compressed content is so for every writer,
since a packer that keeps what was refused is never completed. Without compression it takes a writer that `Heeds` its
answers, which the writers for texts, bytes and JSON do; one that does not is taken at its word
(`encode_identity`), with what is left of its content.
-/

namespace BrokerClient

open ByteStream Deflate

/-- The program fails when a request of it fails. -/
def ByteStream.Writing.Heeds {ε β σ : Type} [ByteSink σ] (program : Writing (Except ε β)) (s : σ) : Prop :=
  program.emitted? s = none → ∃ e, (program.run s).1 = .error e

/-- A program that writes some bytes and fails if that fails. -/
theorem ByteStream.Writing.heeds_writeAll {ε β σ : Type} [ByteSink σ] (form : Bytes)
    (f : Except IoError Unit → Except ε β) (hf : ∀ e, ∃ e', f (.error e) = .error e') (s : σ) :
    Writing.Heeds (do return f (← Writing.writeAll form)) s := by
  intro hnone
  by_cases hempty : form = []
  · subst hempty
    cases hnone
  · rw [Writing.writeAll_of_ne hempty] at hnone ⊢
    cases hw : ByteSink.write s form with
    | mk answer s' =>
      rw [Writing.run, hw]
      cases answer with
      | error e => exact hf e
      | ok u =>
        rw [Writing.emitted?, hw] at hnone
        cases hnone

section

variable {σ : Type} [ByteSink σ]

theorem TextCodec.heeds (value : String) (p : Properties) (sink : σ) : (TextCodec.writer.write value p).Heeds sink :=
  Writing.heeds_writeAll _ _ (fun e => ⟨.encode e.message, rfl⟩) sink

theorem BytesCodec.heeds (value : Bytes) (p : Properties) (sink : σ) : (BytesCodec.writer.write value p).Heeds sink :=
  Writing.heeds_writeAll _ _ (fun e => ⟨.encode e.message, rfl⟩) sink

theorem JsonCodec.heeds {α : Type} [JsonPayload α] (kind : Option String) (priority : Int) (value : α) (p : Properties)
    (sink : σ) : ((JsonCodec.writer kind priority).write value p).Heeds sink :=
  Writing.heeds_writeAll _ _ (fun e => ⟨.encode e.message, rfl⟩) sink

end

namespace Negotiator

variable {α : Type} {n : Negotiator α} {m : Outgoing α} {program : Writing (Except CodecError Properties)}
  {sink : ContentSink n.packing}

theorem unrefused_sinkFor (n : Negotiator α) (encoding : ContentEncoding) :
    (n.sinkFor encoding).target.overflowed = false := by
  cases encoding <;> rfl

theorem reached_sinkFor (n : Negotiator α) (encoding : ContentEncoding) : (n.sinkFor encoding).Reached :=
  ContentSink.reached_ofEncoding n.maxSize encoding

theorem packs_sinkFor {encoding : ContentEncoding} (h : encoding ≠ .identity) : (n.sinkFor encoding).Packs := by
  cases encoding with
  | identity => exact absurd rfl h
  | gzip => trivial
  | deflate => trivial

/-! ## What the bound lets through -/

/-- What a program leaves is completed or given up, and nothing else happens to a sink. -/
theorem writeContent_snd {z : Packing} {sink : ContentSink z} : (writeContent sink program).2 =
    match (program.run sink).1 with
    | .ok _ => (program.run sink).2.finish.2
    | .error _ => (program.run sink).2.drop := by
  unfold writeContent
  cases hrun : program.run sink with
  | mk result s =>
    cases result with
    | error e => rfl
    | ok p =>
      cases hfinish : s.finish with
      | mk done s' => cases done <;> simp only [hfinish]

/-- What every write keeps is kept to the end. -/
theorem writeContent_kept {z : Packing} {sink : ContentSink z} {P : BoundedSink → Prop} (hP : BoundedSink.Kept P)
    (h : P (program.run sink).2.target) : P (writeContent sink program).2 := by
  rw [writeContent_snd]
  split
  · exact ContentSink.finish_kept hP h
  · exact ContentSink.drop_kept hP h

/-- A refused request of the writer is remembered to the end. -/
theorem overflowed_of_refused (hz : n.packing.Keeps) {encoding : ContentEncoding}
    (h : program.emitted? (n.sinkFor encoding) = none) :
    (writeContent (n.sinkFor encoding) program).2.overflowed = true := by
  have hrun := ContentSink.overflowed_run hz program (n.reached_sinkFor encoding) (n.unrefused_sinkFor encoding)
  exact writeContent_kept BoundedSink.kept_overflowed (hrun.2 h)

/-- Success means that nothing was refused. -/
theorem unrefused_of_ok (hz : n.packing.Keeps) {encoding : ContentEncoding} {p : Properties}
    (hheeds : encoding = .identity → program.Heeds (n.sinkFor encoding))
    (h : (writeContent (n.sinkFor encoding) program).1 = .ok p) :
    (writeContent (n.sinkFor encoding) program).2.overflowed = false ∧
      ∃ written, program.emitted? (n.sinkFor encoding) = some written := by
  obtain ⟨s, s', hrun, hfinish, hcontent⟩ := writeContent_ok h
  have hflag := ContentSink.overflowed_run hz program (n.reached_sinkFor encoding) (n.unrefused_sinkFor encoding)
  have hreached := (n.reached_sinkFor encoding).run program
  have hpacks := ContentSink.run_packs (s := n.sinkFor encoding) program
  rw [hrun] at hflag hreached hpacks
  have hwritten : program.emitted? (n.sinkFor encoding) ≠ none := by
    intro hnone
    by_cases hidentity : encoding = .identity
    · obtain ⟨e, he⟩ := hheeds hidentity hnone
      rw [hrun] at he
      cases he
    · have hrefused := ContentSink.finish_refused hz hreached (hpacks.2 (packs_sinkFor hidentity)) (hflag.2 hnone)
      exact hrefused (by rw [hfinish])
  have hend := ContentSink.overflowed_finish hz hreached
  rw [hflag, hfinish] at hend
  rw [hcontent]
  exact ⟨by simpa [hwritten] using hend, Option.ne_none_iff_exists'.1 hwritten⟩

/-! ## Encoding -/

/-- **No content is cut short.** An encoding that succeeds had no write refused, whether the writer's or the packer's,
and its content is read back as everything that the writer wrote; where a write was refused, the outcome is an overrun
of the configured bound. The writer may do what it likes where its content is compressed; elsewhere it has to heed the
answers it gets. -/
theorem untruncated (hkeeps : n.packing.Keeps) (hinverts : n.packing.Inverts) (hw : n.writing? m = some (program, sink))
    (hheeds : n.encodingFor m = .ok .identity → program.Heeds sink) :
    (∀ out, n.encode m = .ok out → (writeContent sink program).2.overflowed = false ∧
      ∃ encoding written, n.encodingFor m = .ok encoding ∧ program.emitted? sink = some written ∧
        Streams (ContentSource.ofBytes out.content encoding : ContentSource n.packing) written) ∧
    (program.emitted? sink = none ∨ (writeContent sink program).2.overflowed = true →
      n.encode m = .error (.tooLarge n.maxSize)) := by
  obtain ⟨encoding, he, rfl, hencode⟩ := encode_eq hw
  have hplain : encoding = .identity → program.Heeds (n.sinkFor encoding) := by
    rintro rfl
    exact hheeds he
  constructor
  · intro out hout
    obtain ⟨w, encoding', p, s, s', h⟩ := encode_ok hout
    obtain rfl : encoding' = encoding := Except.ok.inj (h.encoding_eq.symm.trans he)
    obtain rfl : program = w.write m.content m.properties :=
      congrArg Prod.fst (Option.some.inj (hw.symm.trans h.writing_eq))
    have hok : (writeContent (n.sinkFor encoding') (w.write m.content m.properties)).1 = .ok p :=
      congrArg Prod.fst h.writeContent_eq
    obtain ⟨hflag, written, hwritten⟩ := unrefused_of_ok hkeeps hplain hok
    exact ⟨hflag, encoding', written, he, hwritten, h.streams hinverts ((written_eq hw).trans hwritten)⟩
  · intro hrefused
    have hflag : (writeContent (n.sinkFor encoding) program).2.overflowed = true := by
      rcases hrefused with hnone | hflag
      · exact overflowed_of_refused hkeeps hnone
      · exact hflag
    rw [hencode, hflag]
    cases hresult : (writeContent (n.sinkFor encoding) program).1 with
    | error e => rfl
    | ok p =>
      have hunflagged := (unrefused_of_ok hkeeps hplain hresult).1
      rw [hflag] at hunflagged
      cases hunflagged

/-! ## Writers that heed their answers, and one that does not -/

/-- Pieces written one by one, by a writer that goes on after a refusal or gives up. -/
def inPieces (max : Nat) (ignoreErrors : Bool) : Negotiator String where
  payload := "String"
  writers := [({ pieces := [[0x31, 0x32, 0x33, 0x34, 0x35], [0x36, 0x37, 0x38, 0x39]], ignoreErrors } :
    Scripted.WriterScript).toWriter]
  maxSize := max

def note : Outgoing String := .ofCast "letters" "hello" {} "hi"

theorem untruncated_pieces : (∃ out, (inPieces 9 false).encode note = .ok out ∧
      Streams (ContentSource.ofBytes out.content .identity : ContentSource (inPieces 9 false).packing)
        [0x31, 0x32, 0x33, 0x34, 0x35, 0x36, 0x37, 0x38, 0x39]) ∧
    (inPieces 8 false).encode note = .error (.tooLarge 8) := by
  constructor
  · obtain ⟨-, encoding, written, he, hwritten, hs⟩ := (untruncated (n := inPieces 9 false) (m := note) Deflate.keeps
      Deflate.inverts rfl fun _ hnone => by cases hnone).1 _ rfl
    cases he
    cases hwritten
    exact ⟨_, rfl, hs⟩
  · exact (untruncated (n := inPieces 8 false) (m := note) Deflate.keeps Deflate.inverts rfl fun _ _ => ⟨_, rfl⟩).2
      (.inl rfl)

/-- Where nothing is compressed, a writer that succeeds although a write was refused is taken at its word. -/
theorem encode_identity {p : Properties} (hw : n.writing? m = some (program, sink))
    (hidentity : n.encodingFor m = .ok .identity) (hp : (program.run sink).1 = .ok p) :
    n.encode m = .ok ((m.withContent (program.run sink).2.target.content).withProperties p) := by
  obtain ⟨encoding, he, rfl, hencode⟩ := encode_eq hw
  obtain rfl : .identity = encoding := Except.ok.inj (hidentity.symm.trans he)
  have hplain : ¬(program.run (n.sinkFor .identity)).2.Packs := mt (ContentSink.run_packs program).1 not_false
  have hfinish := ContentSink.finish_plain hplain
  have hcontent : writeContent (n.sinkFor .identity) program =
      (.ok p, (program.run (n.sinkFor .identity)).2.target) := by
    cases hrun : program.run (n.sinkFor .identity) with
    | mk result s =>
      rw [hrun] at hp hfinish
      obtain rfl : result = .ok p := hp
      simp only [writeContent, hrun, hfinish]
  rw [hencode, hcontent]
  rfl

/-- Two pieces of nine bytes, of which eight may be kept: the second piece is missing, and nobody is told. -/
theorem heedless_pieces : (inPieces 8 true).encode note =
    .ok (.cast ⟨"letters", "hello", {}, [0x31, 0x32, 0x33, 0x34, 0x35]⟩) := rfl

end Negotiator
end BrokerClient
