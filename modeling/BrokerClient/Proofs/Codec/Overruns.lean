import BrokerClient.Proofs.ByteStream.Dialogue
import BrokerClient.Proofs.Codec.RoundTrip
import BrokerClient.Proofs.Deflate.Unpacking
import BrokerClient.Scripted.Codec

/-!
# Contents longer than the bound

A read that is refused because the content is longer than the bound makes decoding fail as too large if the reader
fails, whatever it fails with: the flag of the guard outlives the reader. A reader that returns a value in spite of it
is taken at its word, and since the refusal took a byte that the reader never saw, it may have been told the end
meanwhile (`masked_overrun`). `unmasked` says what is decoded in either case, and that an end is the content's end
unless a request was refused before.
-/

namespace BrokerClient

open ByteStream

/-! ## Readers that heed their answers -/

namespace ByteStream.Reading

variable {α β ε σ : Type} [ByteSource σ]

/-- The program fails when a request of it is refused. -/
def Heeds (program : Reading (Except ε α)) (s : σ) : Prop :=
  (∃ x ∈ program.dialogue s, x.refused = true) → ∃ e, (program.run s).1 = .error e

theorem dialogue_bind (m : Reading α) (f : α → Reading β) (s : σ) :
    (m.bind f).dialogue s = m.dialogue s ++ (f (m.run s).1).dialogue (m.run s).2 := by
  induction m generalizing s with
  | done a => rfl
  | read n next ih => exact congrArg (List.cons _) (ih _ _)

/-- What a program makes of an answer does not change what it is told. -/
theorem dialogue_answer (m : Reading α) (f : α → β) (s : σ) :
    (do return f (← m) : Reading β).dialogue s = m.dialogue s :=
  (dialogue_bind m (fun a => .done (f a)) s).trans (List.append_nil _)

/-- Reading to the end ends at the first failure. -/
theorem heeds_toEnd (size fuel : Nat) (pieces : List Bytes) (s : σ) : (toEnd size fuel pieces).Heeds s := by
  induction fuel generalizing pieces s with
  | zero => exact fun hrefused => absurd hrefused (by simp [toEnd, dialogue])
  | succ fuel ih =>
    rintro ⟨x, hx, hrefused⟩
    rw [toEnd, dialogue] at hx
    rw [toEnd, run]
    generalize ByteStream.read s size = r at hx ⊢
    obtain ⟨answer, s'⟩ := r
    cases answer with
    | error e => exact ⟨e, rfl⟩
    | ok piece =>
      cases piece with
      | nil =>
        obtain rfl : x = ⟨size, .ok []⟩ := List.mem_singleton.1 hx
        cases hrefused
      | cons b piece =>
        rcases List.mem_cons.1 hx with rfl | hx
        · cases hrefused
        · exact ih _ s' ⟨x, hx, hrefused⟩

/-- A program that reads everything and fails if that fails. -/
theorem heeds_readAll (bound : Nat) (f : Except IoError Bytes → Except ε α) (hf : ∀ e, ∃ e', f (.error e) = .error e')
    (s : σ) : Heeds (do return f (← readAll bound)) s := by
  rw [Heeds, dialogue_answer, Codec.run_answer]
  intro hrefused
  obtain ⟨e, he⟩ := heeds_toEnd pieceSize (bound + 1) [] s hrefused
  rw [readAll, he]
  exact hf e

end ByteStream.Reading

theorem TextCodec.heeds_read {σ : Type} [ByteSource σ] (bound : Nat) (p : Properties) (source : σ) :
    (TextCodec.reader.read bound p).Heeds source :=
  Reading.heeds_readAll bound _ (fun e => ⟨.decode e.message, rfl⟩) source

theorem BytesCodec.heeds_read {σ : Type} [ByteSource σ] (bound : Nat) (p : Properties) (source : σ) :
    (BytesCodec.reader.read bound p).Heeds source :=
  Reading.heeds_readAll bound _ (fun e => ⟨.decode e.message, rfl⟩) source

/-- Content owes what it stands for, whole or damaged, if this library unpacks it, so what follows is about any content
that arrives. -/
theorem ContentSource.owes_ofBytes (bytes : Bytes) (encoding : ContentEncoding) :
    ∃ whole fault, Owes (ofBytes bytes encoding : ContentSource Deflate.packing) whole fault := by
  have hpacked (container : Container) : ∃ whole fault,
      Owes (.packed (Deflate.packing.unpack container bytes) : ContentSource Deflate.packing) whole fault :=
    ⟨_, _, (Deflate.owes_unpack container bytes).map packed read_packed⟩
  cases encoding with
  | identity => exact ⟨bytes, none, (streams_plain bytes).owes⟩
  | gzip => exact hpacked .gzip
  | deflate => exact hpacked .zlib

namespace Negotiator

variable {α : Type} {n : Negotiator α} {inc : Incoming Bytes} {program : Reading (Except CodecError α)}
  {source : BoundedSource (ContentSource n.packing)} {whole : Bytes} {fault : Option Fault}

/-- **No overrun is masked but by a reader.** The content stands for some bytes, and something may be wrong with it
behind them. Where a read was refused, the bytes are more than the bound, and decoding fails as too large if the reader
heeds that, with whatever failure; if it returns a value all the same, it is taken at its word. Where the reader was
told the end, it has been given the bytes but for one for each refusal before, which are all of them if there was none,
and if something is wrong with the content it has been told so before. -/
theorem unmasked (h : n.reading? inc = some (program, source)) (howes : Owes source.inner whole fault) :
    ((∃ x ∈ program.dialogue source, x.refused = true) → n.maxSize < whole.length ∧
      (program.Heeds source → n.decode inc = .error (.tooLarge n.maxSize)) ∧
      ∀ value, (program.run source).1 = .ok value → n.decode inc = .ok (inc.withContent value)) ∧
    ∀ before x after, program.dialogue source = before ++ x :: after → x.Ended →
      (∃ missing, whole = given before ++ missing ∧ missing.length = refusals before) ∧
      ∀ f, fault = some f → f.after = none ∧ ∃ y ∈ before, y.answer = .error f.error := by
  obtain ⟨encoding, rfl, hdecode⟩ := decode_eq h
  constructor
  · intro hrefused
    have hflag := (howes.overflowed_run program).2 (.inr hrefused)
    obtain ⟨x, hx, hanswer⟩ := id hrefused
    obtain ⟨before, after, hd⟩ := List.append_of_mem hx
    refine ⟨((howes.account program hd).refused hanswer).2, fun hheeds => ?_, fun value hvalue => ?_⟩
    · obtain ⟨e, he⟩ := hheeds hrefused
      rw [hdecode, hflag, he]
      rfl
    · rw [hdecode, hvalue]
      rfl
  · intro before x after hd hx
    have haccount := howes.account program hd
    obtain ⟨missing, hmissing⟩ := haccount.given_isPrefix
    have hlength := haccount.ended hx
    have hsplit := congrArg List.length hmissing
    rw [List.length_append] at hsplit
    exact ⟨⟨missing, hmissing.symm, by omega⟩, haccount.reported hx⟩

/-! ## Five bytes where four may be read, and a reader that does not mind -/

def withReader (max : Nat) (r : Reader String) : Negotiator String where
  payload := "String"
  readers := [r]
  maxSize := max

/-- A reader that makes requests of these sizes, whatever comes of them, and returns what it was told. -/
def heedless (sizes : List Nat) : Reader String :=
  ({ sizes := some sizes, value := "", ofRecords := id } : Scripted.ReaderScript String).toReader

def digits : Incoming Bytes :=
  .cast ⟨"ex", "letters", { contentType := some "text/plain" }, [0x31, 0x32, 0x33, 0x34, 0x35]⟩ ⟨"letters", 1, false⟩

theorem reading_withReader {r : Reader String} (max : Nat) (h : r.applicable digits = true) :
    (withReader max r).reading? digits =
      some (r.read max digits.properties, (withReader max r).sourceOf .identity digits.content) := by
  have hreader : (withReader max r).readerFor digits = .ok r := by
    simp [readerFor, withReader, bestOf, h, better]
  exact reading_eq hreader rfl

/-- The reader of texts reports what it was refused. Where all five bytes may be read, one that asks twice is told the
end, and has been given all. -/
theorem unmasked_digits : (withReader 4 TextCodec.reader).decode digits = .error (.tooLarge 4) ∧
    ∃ program source before x after, (withReader 5 (heedless [8, 8])).reading? digits = some (program, source) ∧
      program.dialogue source = before ++ x :: after ∧ x.Ended ∧ given before = digits.content := by
  have htext : TextCodec.reader.applicable digits = true := by decide +kernel
  have htwice := reading_withReader 5 (r := heedless [8, 8]) rfl
  obtain ⟨hrefused, -⟩ := unmasked (reading_withReader 4 htext) (ContentSource.streams_plain digits.content).owes
  obtain ⟨-, hended⟩ := unmasked htwice (ContentSource.streams_plain digits.content).owes
  have hend : Exchange.Ended ⟨8, .ok []⟩ := ⟨by decide, rfl⟩
  constructor
  · exact (hrefused ⟨⟨pieceSize, .error tooLargeSource⟩, .tail _ (.head _), rfl⟩).2.1 (TextCodec.heeds_read _ _ _)
  · obtain ⟨⟨missing, hwhole, hnone⟩, -⟩ := hended [⟨8, .ok digits.content⟩] _ [] rfl hend
    obtain rfl : missing = [] := List.length_eq_zero_iff.1 hnone
    rw [List.append_nil] at hwhole
    exact ⟨_, _, [⟨8, .ok digits.content⟩], _, [], htwice, rfl, hend, hwhole.symm⟩

/-- The second request is refused, and the third is told the end, with four bytes given out of five. -/
theorem masked_overrun :
    ¬(∀ (n : Negotiator String) inc program source, n.reading? inc = some (program, source) →
      (∃ x ∈ program.dialogue source, x.refused = true) → n.decode inc = .error (.tooLarge n.maxSize)) ∧
    ¬∀ (n : Negotiator String) inc program source, n.reading? inc = some (program, source) →
      ∀ whole, Streams source.inner whole → ∀ before x after, program.dialogue source = before ++ x :: after →
        x.Ended → given before = whole := by
  have hreading := reading_withReader 4 (r := heedless [8, 8, 8]) rfl
  constructor
  · intro h
    have hclaimed := h _ _ _ _ hreading ⟨⟨8, .error tooLargeSource⟩, .tail _ (.head _), rfl⟩
    obtain ⟨encoding, -, hdecode⟩ := decode_eq hreading
    rw [hclaimed] at hdecode
    cases hdecode
  · intro h
    have hclaimed := h _ _ _ _ hreading _ (ContentSource.streams_plain digits.content)
      [⟨8, .ok [0x31, 0x32, 0x33, 0x34]⟩, ⟨8, .error tooLargeSource⟩] ⟨8, .ok []⟩ [] rfl ⟨by decide, rfl⟩
    cases hclaimed

end Negotiator
end BrokerClient
