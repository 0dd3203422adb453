import BrokerClient.Proofs.Codec.Bounds
import BrokerClient.Proofs.Codec.Truncation

/-!
# Content in pieces

A writer may hand over its bytes in pieces of any size and flush between them as it likes. A bounded sink takes or
refuses each piece whole, and where nothing is compressed only the bytes matter in the end: a program that `Emits` some
bytes, in whatever pieces, succeeds if they fit (`Emits.run_fits`) and is refused one of the pieces if they do not
(`Emits.run_exceeds`). So two writers that emit the same bytes have the same outcome, with the bound met exactly
(`exact_bound`).
-/

namespace BrokerClient

open ByteStream

/-! ## Programs that emit bytes -/

namespace ByteStream.Writing

variable {ε ε' ι β γ τ : Type} {program : Writing (Except ε β)} {bytes rest : Bytes} {b : β} {s : BoundedSink}

/-- What a program does with an answer: a failure ends it, and makes it fail. -/
def StopsAtFailure (next : Except ι τ → Writing (Except ε β)) : Prop :=
  ∀ e, ∃ e', next (.error e) = .done (.error e')

/-- The program writes these bytes, cut into pieces and flushed in any way, and ends with a result. It stops at the
first failure. -/
inductive Emits : Writing (Except ε β) → Bytes → β → Prop where
  | done (b : β) : Emits (.done (.ok b)) [] b
  | write {next : Except IoError Unit → Writing (Except ε β)} {rest : Bytes} {b : β} (piece : Bytes)
    (stops : StopsAtFailure next) (goes : Emits (next (.ok ())) rest b) : Emits (.write piece next) (piece ++ rest) b
  | flush {next : Except IoError Unit → Writing (Except ε β)} {bytes : Bytes} {b : β}
    (stops : StopsAtFailure next) (goes : Emits (next (.ok ())) bytes b) : Emits (.flush next) bytes b

theorem StopsAtFailure.bind {first : Except ι τ → Writing (Except ε β)} {next : Except ε β → Writing (Except ε' γ)}
    (hfirst : StopsAtFailure first) (hnext : StopsAtFailure next) :
    StopsAtFailure fun answer => (first answer).bind next := by
  intro e
  obtain ⟨e', he⟩ := hfirst e
  obtain ⟨e'', he'⟩ := hnext e'
  refine ⟨e'', ?_⟩
  dsimp only
  rw [he, Writing.bind, he']

namespace Emits

/-- One program after another emits the bytes of both. -/
theorem bind {next : Except ε β → Writing (Except ε' γ)} {c : γ} (h : program.Emits bytes b)
    (hstops : StopsAtFailure next) (hnext : (next (.ok b)).Emits rest c) :
    (program.bind next).Emits (bytes ++ rest) c := by
  induction h with
  | done b => exact hnext
  | write piece stops _ ih =>
    rw [List.append_assoc]
    exact .write piece (stops.bind hstops) (ih hnext)
  | flush stops _ ih => exact .flush (stops.bind hstops) (ih hnext)

/-- Bytes that are written in one request, or in none if there are none. -/
theorem writeAll (form : Bytes) : (Writing.writeAll form).Emits form () := by
  by_cases hempty : form = []
  · subst hempty
    exact .done ()
  · have hone : Writing.writeAll form = .write form .done := if_neg (by rwa [List.isEmpty_iff])
    have hwrite : (Writing.write form .done).Emits (form ++ []) () := .write form (fun e => ⟨e, rfl⟩) (.done ())
    rwa [List.append_nil, ← hone] at hwrite

theorem flushAll : Writing.flushAll.Emits [] () := .flush (fun e => ⟨e, rfl⟩) (.done ())

/-- What a program makes of an answer in the end emits nothing more. -/
theorem answer (h : program.Emits bytes b) {f : Except ε β → Except ε' γ} {c : γ}
    (hstops : ∀ e, ∃ e', f (.error e) = .error e') (hok : f (.ok b) = .ok c) :
    Emits (do return f (← program)) bytes c := by
  have hnext : (Writing.done (f (.ok b))).Emits [] c := hok ▸ .done c
  have hall : Emits (do return f (← program)) (bytes ++ []) c :=
    h.bind (fun e => (hstops e).imp fun _ => congrArg Writing.done) hnext
  rwa [List.append_nil] at hall

/-! ### On a bounded sink -/

/-- Bytes that fit are all taken, piece by piece. -/
theorem run_fits (h : program.Emits bytes b) (hfits : s.content.length + bytes.length ≤ s.max) :
    program.run s = (.ok b, { s with content := s.content ++ bytes }) := by
  induction h generalizing s with
  | done b => rw [List.append_nil]; rfl
  | write piece _ _ ih =>
    rw [List.length_append] at hfits
    have htaken : ByteSink.write s piece = (.ok (), { s with content := s.content ++ piece }) :=
      BoundedSink.write_fits (by omega)
    rw [Writing.run, htaken, ← List.append_assoc]
    refine ih (s := { s with content := s.content ++ piece }) ?_
    simp only [List.length_append]
    omega
  | flush _ _ ih => exact ih hfits

/-- Of bytes that do not fit some piece is refused, wherever the cuts are, and that ends the program. -/
theorem run_exceeds (h : program.Emits bytes b) (hbound : s.content.length ≤ s.max)
    (hlong : s.max < s.content.length + bytes.length) :
    (∃ e, (program.run s).1 = .error e) ∧ (program.run s).2.overflowed = true := by
  induction h generalizing s with
  | done b => exact absurd hbound (Nat.not_le.2 hlong)
  | write piece stops _ ih =>
    rw [List.length_append] at hlong
    rw [Writing.run]
    by_cases hfull : s.max < s.content.length + piece.length
    · have hrefused : ByteSink.write s piece = (.error (tooLargeSink s.max), { s with overflowed := true }) :=
        BoundedSink.write_refused hfull
      obtain ⟨e, he⟩ := stops (tooLargeSink s.max)
      rw [hrefused]
      dsimp only
      rw [he]
      exact ⟨⟨e, rfl⟩, rfl⟩
    · have htaken : ByteSink.write s piece = (.ok (), { s with content := s.content ++ piece }) :=
        BoundedSink.write_fits (Nat.not_lt.1 hfull)
      rw [htaken]
      refine ih (s := { s with content := s.content ++ piece }) ?_ ?_
      · simp only [List.length_append]
        omega
      · simp only [List.length_append]
        omega
  | flush _ _ ih => exact ih hbound hlong

end Emits
end ByteStream.Writing

/-- Pieces that are each flushed emit what they are together. -/
theorem Scripted.emits_pieces (pieces : List Bytes) : (Scripted.pieces false pieces).Emits pieces.flatten () := by
  induction pieces with
  | nil => exact .done ()
  | cons piece pieces ih =>
    rw [List.flatten_cons]
    exact (Writing.Emits.writeAll piece).bind (fun e => ⟨e, rfl⟩) (Writing.Emits.flushAll.bind (fun e => ⟨e, rfl⟩) ih)

/-! ## Encoding without compression -/

/-- A program does with a sink that does not compress what it does with the bounded sink in it. -/
theorem ContentSink.run_plain {z : Packing} {α : Type} (program : Writing α) (sink : BoundedSink) :
    program.run (ContentSink.plain sink : ContentSink z) = ((program.run sink).1, .plain (program.run sink).2) := by
  induction program generalizing sink with
  | done result => rfl
  | write bytes next ih => exact ih _ _
  | flush next ih => exact ih _ _

namespace Negotiator

variable {α : Type} {n : Negotiator α} {m : Outgoing α} {program : Writing (Except CodecError Properties)}
  {bytes : Bytes} {p : Properties}

/-- There is nothing to complete where nothing is compressed. -/
theorem writeContent_plain {z : Packing} (sink : BoundedSink) :
    writeContent (.plain sink : ContentSink z) program = program.run sink := by
  rw [writeContent, ContentSink.run_plain]
  rcases program.run sink with ⟨e | p, s⟩ <;> rfl

/-- Nothing is compressed for a message, and the writer that is selected for it emits these bytes and leaves these
properties. -/
def EmitsPlain (n : Negotiator α) (m : Outgoing α) (bytes : Bytes) (p : Properties) : Prop :=
  n.encodingFor m = .ok .identity ∧
    ∃ program sink, n.writing? m = some (program, sink) ∧ program.Emits bytes p

/-- The outcome is decided by the number of bytes alone. -/
theorem EmitsPlain.encode_eq (h : n.EmitsPlain m bytes p) : n.encode m =
    if bytes.length ≤ n.maxSize then .ok ((m.withContent bytes).withProperties p)
    else .error (.tooLarge n.maxSize) := by
  obtain ⟨hidentity, program, sink, hw, hemits⟩ := h
  obtain ⟨encoding, he, rfl, hencode⟩ := Negotiator.encode_eq hw
  obtain rfl : .identity = encoding := Except.ok.inj (hidentity.symm.trans he)
  have hplain : writeContent (n.sinkFor .identity) program = program.run ({ max := n.maxSize } : BoundedSink) :=
    writeContent_plain _
  rw [hencode, hplain]
  by_cases hfits : bytes.length ≤ n.maxSize
  · rw [if_pos hfits, hemits.run_fits (by simpa using hfits)]
    rfl
  · rw [if_neg hfits]
    obtain ⟨⟨e, he⟩, hflag⟩ := hemits.run_exceeds (s := { max := n.maxSize }) (Nat.zero_le _)
      (by simpa using Nat.not_le.1 hfits)
    rw [he, hflag]
    rfl

/-- **The bound is exact, however the content is cut.** What is encoded is within the bound under every encoding. Where
nothing is compressed, two writers that emit the same bytes and leave the same properties have one outcome, whatever
the pieces: those bytes if they are within the bound, and too large if they are not. -/
theorem exact_bound (n : Negotiator α) (m : Outgoing α) :
    (∀ out, n.encode m = .ok out → out.content.length ≤ n.maxSize) ∧
    ∀ n' : Negotiator α, n'.maxSize = n.maxSize → ∀ bytes p, n.EmitsPlain m bytes p → n'.EmitsPlain m bytes p →
      n'.encode m = n.encode m ∧
      (bytes.length ≤ n.maxSize → n.encode m = .ok ((m.withContent bytes).withProperties p)) ∧
      (n.maxSize < bytes.length → n.encode m = .error (.tooLarge n.maxSize)) := by
  refine ⟨fun out => length_encoded_le, fun n' hmax bytes p h h' => ⟨?_, fun hfits => ?_, fun hlong => ?_⟩⟩
  · rw [h'.encode_eq, h.encode_eq, hmax]
  · rw [h.encode_eq, if_pos hfits]
  · rw [h.encode_eq, if_neg (Nat.not_le.2 hlong)]

/-! ## One piece and three -/

/-- Texts that are written in one piece. -/
def inOnePiece (max : Nat) : Negotiator String where
  payload := "String"
  writers := [TextCodec.writer]
  maxSize := max

/-- Two letters that are written one by one with nothing between them, as a text. -/
def inThreePieces (max : Nat) : Negotiator String where
  payload := "String"
  writers := [({
    pieces := [[0x68], [], [0x69]]
    change := fun p => { p with contentType := some TextCodec.contentType } } : Scripted.WriterScript).toWriter]
  maxSize := max

theorem emitsPlain_inOnePiece (max : Nat) :
    (inOnePiece max).EmitsPlain note [0x68, 0x69] { contentType := some TextCodec.contentType } :=
  ⟨rfl, _, _, rfl, (Writing.Emits.writeAll _).answer (fun e => ⟨.encode e.message, rfl⟩) rfl⟩

theorem emitsPlain_inThreePieces (max : Nat) :
    (inThreePieces max).EmitsPlain note [0x68, 0x69] { contentType := some TextCodec.contentType } :=
  ⟨rfl, _, _, rfl, (Scripted.emits_pieces _).answer (fun e => ⟨.encode e.message, rfl⟩) rfl⟩

/-- Two bytes are let through by a bound of two, and by none less, in one piece and in three. -/
theorem exact_bound_letters : (∃ out, (inOnePiece 2).encode note = .ok out ∧ out.content = [0x68, 0x69] ∧
      (inThreePieces 2).encode note = .ok out) ∧
    (inOnePiece 1).encode note = .error (.tooLarge 1) ∧ (inThreePieces 1).encode note = .error (.tooLarge 1) := by
  obtain ⟨hsame, hfits, -⟩ := (exact_bound (inOnePiece 2) note).2 (inThreePieces 2) rfl _ _
    (emitsPlain_inOnePiece 2) (emitsPlain_inThreePieces 2)
  obtain ⟨hsame', -, hlong⟩ := (exact_bound (inOnePiece 1) note).2 (inThreePieces 1) rfl _ _
    (emitsPlain_inOnePiece 1) (emitsPlain_inThreePieces 1)
  have hwhole := hfits (by decide)
  have htoo := hlong (by decide)
  exact ⟨⟨_, hwhole, rfl, hsame.trans hwhole⟩, htoo, hsame'.trans htoo⟩

end Negotiator
end BrokerClient
