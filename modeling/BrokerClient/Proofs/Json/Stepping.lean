import BrokerClient.Json.Decode
import BrokerClient.Proofs.ByteStream.Streams

/-!
# Parsers on a text

`Parses bound m p a q` says that a parser, at position `p` of a text, succeeds with `a` and stops at position `q`,
whatever source the text comes from. A position is a place in the text together with what is known of the byte
looked ahead at. The judgement follows the parser: one lemma for each way of taking or looking at a byte, and
`Parses.bind` to put steps one behind the other.
-/

namespace BrokerClient.Json

open ByteStream (ByteSource Streams)

/-! ## The judgement -/

/-- A place in a text. -/
inductive Position where
  /-- Before some bytes, the first of which may have been looked at. -/
  | before (text : Bytes)
  /-- Looking at a byte, with some bytes behind it. -/
  | seeing (b : UInt8) (text : Bytes)

/-- A cursor and a source are at this place. -/
def Position.Holds {σ : Type} [ByteSource σ] : Position → Cursor → σ → Prop
  | .before text, c, s => ∃ rest, Streams s rest ∧ c.ahead.toList ++ rest = text
  | .seeing b text, c, s => Streams s text ∧ c.ahead = some b

/-- The parser succeeds with `a` between two places. -/
def Parses {α : Type} (bound : Nat) (m : Parser α) (p : Position) (a : α) (q : Position) : Prop :=
  ∀ (σ : Type) [ByteSource σ] (c : Cursor) (s : σ), p.Holds c s →
    ∃ c' s', ((m bound).run.run c).run s = ((.ok a, c'), s') ∧ q.Holds c' s'

theorem Position.Holds.forget {σ : Type} [ByteSource σ] {b : UInt8} {text : Bytes} {c : Cursor} {s : σ}
    (h : (Position.seeing b text).Holds c s) : (Position.before (b :: text)).Holds c s :=
  ⟨text, h.1, by rw [h.2]; rfl⟩

section Laws

variable {α β : Type} {bound : Nat} {p q r : Position}

theorem Parses.pure (a : α) : Parses bound (Pure.pure a : Parser α) p a p := fun _ _ c s h => ⟨c, s, rfl, h⟩

theorem Parses.bind {m : Parser α} {f : α → Parser β} {a : α} {b : β} (hm : Parses bound m p a q)
    (hf : Parses bound (f a) q b r) : Parses bound (m >>= f) p b r := by
  intro σ _ c s hp
  obtain ⟨c₁, s₁, h₁, hq⟩ := hm σ c s hp
  obtain ⟨c₂, s₂, h₂, hr⟩ := hf σ c₁ s₁ hq
  refine ⟨c₂, s₂, ?_, hr⟩
  refine (ByteStream.Reading.run_bind ((m bound).run.run c) _ s).trans ?_
  rw [h₁]
  exact h₂

theorem Parses.map {m : Parser α} {a : α} (hm : Parses bound m p a q) (f : α → β) : Parses bound (f <$> m) p (f a) q := by
  intro σ _ c s hp
  obtain ⟨c', s', h', hq⟩ := hm σ c s hp
  refine ⟨c', s', ?_, hq⟩
  refine (ByteStream.Reading.run_bind ((m bound).run.run c) _ s).trans ?_
  rw [h']
  rfl

/-- What a parser does from a place it also does when the next byte has been looked at. -/
theorem Parses.seeing {m : Parser α} {b : UInt8} {text : Bytes} {a : α} (h : Parses bound m (.before (b :: text)) a q) :
    Parses bound m (.seeing b text) a q := fun σ _ c s hp => h σ c s hp.forget

/-- Whether the next byte has been looked at may be forgotten. -/
theorem Parses.forget {m : Parser α} {b : UInt8} {text : Bytes} {a : α} (h : Parses bound m p a (.seeing b text)) :
    Parses bound m p a (.before (b :: text)) := by
  intro σ _ c s hp
  obtain ⟨c', s', h', hq⟩ := h σ c s hp
  exact ⟨c', s', h', hq.forget⟩

end Laws

namespace Parser

variable {α β : Type} {bound : Nat} {p q r : Position} {b : UInt8} {text : Bytes}

/-! ## Bytes -/

theorem parses_rounds : Parses bound rounds p (bound + 1) p := fun _ _ c s h => ⟨c, s, rfl, h⟩

theorem parses_skip : Parses bound skip (.seeing b text) () (.before text) := by
  rintro σ _ c s ⟨hs, -⟩
  exact ⟨{}, s, rfl, text, hs, rfl⟩

/-- Fetching is one request, which leaves the cursor alone. -/
theorem run_fetch {σ : Type} [ByteSource σ] (c : Cursor) (s : σ) :
    ((fetch bound).run.run c).run s = match ByteStream.read s 1 with
      | (.error e, s) => ((.error (.input e), c), s)
      | (.ok [], s) => ((.ok none, c), s)
      | (.ok (b :: _), s) => ((.ok (some b), c), s) := by
  cases hread : ByteStream.read s 1 with
  | mk answer s' =>
    rcases answer with e | ⟨_ | ⟨b, rest⟩⟩ <;>
      · refine (ByteStream.Reading.run_bind (.request 1) _ s).trans ?_
        simp only [ByteStream.Reading.request, ByteStream.Reading.run, hread]
        rfl

theorem run_fetch_cons (bound : Nat) {σ : Type} [ByteSource σ] (c : Cursor) {s : σ} (h : Streams s (b :: text)) :
    ∃ s', ((fetch bound).run.run c).run s = ((.ok (some b), c), s') ∧ Streams s' text := by
  obtain ⟨piece, rest, s', hread, hsplit, hempty, hrest⟩ := h.read 1
  have hlen : piece.length ≤ 1 := ByteSource.length_read_le (by rw [hread])
  match piece with
  | [] => simp at hempty
  | [b'] =>
    obtain ⟨rfl, rfl⟩ := List.cons.inj hsplit
    exact ⟨s', by rw [run_fetch, hread], hrest⟩
  | _ :: _ :: _ => simp at hlen

theorem run_fetch_nil (bound : Nat) {σ : Type} [ByteSource σ] (c : Cursor) {s : σ} (h : Streams s []) :
    ∃ s', ((fetch bound).run.run c).run s = ((.ok none, c), s') ∧ Streams s' [] := by
  obtain ⟨piece, rest, s', hread, hsplit, -, hrest⟩ := h.read 1
  obtain ⟨rfl, rfl⟩ := List.append_eq_nil_iff.1 hsplit.symm
  exact ⟨s', by rw [run_fetch, hread], hrest⟩

/-- Where the next byte is, when some bytes come next: it was looked at, or it is to be fetched. -/
theorem cases_cons {σ : Type} [ByteSource σ] {c : Cursor} {s : σ}
    (h : (Position.before (b :: text)).Holds c s) :
    (c = ⟨some b⟩ ∧ Streams s text) ∨ (c = ⟨none⟩ ∧ Streams s (b :: text)) := by
  obtain ⟨rest, hs, heq⟩ := h
  rcases c with ⟨_ | b'⟩
  · exact .inr ⟨rfl, by rwa [← heq]⟩
  · obtain ⟨rfl, rfl⟩ := List.cons.inj heq
    exact .inl ⟨rfl, hs⟩

theorem cases_nil {σ : Type} [ByteSource σ] {c : Cursor} {s : σ} (h : (Position.before []).Holds c s) :
    c = ⟨none⟩ ∧ Streams s [] := by
  obtain ⟨rest, hs, heq⟩ := h
  rcases c with ⟨_ | b'⟩
  · exact ⟨rfl, by rwa [← heq]⟩
  · cases heq

theorem parses_peekByte : Parses bound peekByte (.before (b :: text)) (some b) (.seeing b text) := by
  intro σ _ c s h
  rcases cases_cons h with ⟨rfl, hs⟩ | ⟨rfl, hs⟩
  · exact ⟨⟨some b⟩, s, rfl, hs, rfl⟩
  · obtain ⟨s', hfetch, hs'⟩ := run_fetch_cons bound ⟨none⟩ hs
    refine ⟨⟨some b⟩, s', ?_, hs', rfl⟩
    refine (ByteStream.Reading.run_bind ((fetch bound).run.run ⟨none⟩) _ s).trans ?_
    rw [hfetch]
    rfl

theorem parses_peekByte_nil : Parses bound peekByte (.before []) none (.before []) := by
  intro σ _ c s h
  obtain ⟨rfl, hs⟩ := cases_nil h
  obtain ⟨s', hfetch, hs'⟩ := run_fetch_nil bound ⟨none⟩ hs
  refine ⟨⟨none⟩, s', ?_, [], hs', rfl⟩
  refine (ByteStream.Reading.run_bind ((fetch bound).run.run ⟨none⟩) _ s).trans ?_
  rw [hfetch]
  rfl

theorem parses_nextByte : Parses bound nextByte (.before (b :: text)) (some b) (.before text) := by
  intro σ _ c s h
  rcases cases_cons h with ⟨rfl, hs⟩ | ⟨rfl, hs⟩
  · exact ⟨⟨none⟩, s, rfl, text, hs, rfl⟩
  · obtain ⟨s', hfetch, hs'⟩ := run_fetch_cons bound ⟨none⟩ hs
    exact ⟨⟨none⟩, s', hfetch, text, hs', rfl⟩

theorem parses_peek : Parses bound peek (.before (b :: text)) (some (asChar b)) (.seeing b text) :=
  parses_peekByte.bind (.pure _)

theorem parses_peek_nil : Parses bound peek (.before []) none (.before []) := parses_peekByte_nil.bind (.pure _)

theorem parses_nextOf (construct : Construct) : Parses bound (nextOf construct) (.before (b :: text)) b (.before text) :=
  parses_nextByte.bind (.pure b)

/-! ## Blanks -/

/-- A byte that is not blank is the next one that counts. -/
theorem parses_significant (hb : isSpace (asChar b) = false) :
    Parses bound significant (.before (b :: text)) (some (asChar b)) (.seeing b text) := by
  refine parses_rounds.bind (parses_peek.bind ?_)
  simp only [hb]
  exact .pure _

theorem parses_significant_nil : Parses bound significant (.before []) none (.before []) :=
  parses_rounds.bind (parses_peek_nil.bind (.pure none))

theorem parses_valueStart (hb : isSpace (asChar b) = false) :
    Parses bound valueStart (.before (b :: text)) (asChar b) (.seeing b text) :=
  (parses_significant hb).bind (.pure (asChar b))

/-! ## Brackets -/

theorem parses_attempt {m : Parser α} {a : α} (h : Parses bound m p a q) : Parses bound (Parser.attempt m) p (.ok a) q := by
  intro σ _ c s hp
  obtain ⟨c', s', h', hq⟩ := (h.map Except.ok) σ c s hp
  refine ⟨c', s', ?_, hq⟩
  refine (ByteStream.Reading.run_bind (((Except.ok <$> m) bound).run.run c) _ s).trans ?_
  rw [h']
  rfl

theorem parses_enclosed {inside : Parser α} {close : Parser Unit} {a : α} (h : Parses bound inside p a q)
    (hc : Parses bound close q () r) : Parses bound (Parser.enclosed inside close) p a r :=
  (parses_attempt h).bind ((parses_attempt hc).bind (.pure a))

theorem parses_openBracket {depth : Nat} (hd : 1 < depth) :
    Parses bound (openBracket depth) (.seeing b text) (depth - 1) (.before text) := by
  unfold openBracket
  rw [if_neg (by omega)]
  exact parses_skip.bind (.pure _)

/-! ## Values -/

/-- Nothing, or a byte that may stand behind a value. -/
def Delimited (text : Bytes) : Prop := ∀ b ∈ text.head?, b = 0x2C ∨ b = 0x5D ∨ b = 0x7D

/-- The parser reads a form as a value, up to what may stand behind it. -/
def Reads (bound : Nat) (m : Parser α) (form : Bytes) (a : α) : Prop :=
  ∀ text, Delimited text → (form ++ text).length ≤ bound → Parses bound m (.before (form ++ text)) a (.before text)

theorem Reads.map {m : Parser α} {form : Bytes} {a : α} (h : Reads bound m form a) (f : α → β) :
    Reads bound (f <$> m) form (f a) := fun text ht hb => (h text ht hb).map f

theorem delimited_nil : Delimited [] := nofun

theorem delimited_cons (hb : b = 0x2C ∨ b = 0x5D ∨ b = 0x7D) : Delimited (b :: text) := by
  rintro _ ⟨⟩
  exact hb

end Parser
end BrokerClient.Json
