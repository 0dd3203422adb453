import BrokerClient.Proofs.Json.Stepping
import BrokerClient.Proofs.Text.Utf8

/-!
# Texts read back

A text between quotes, with the escapes that writing puts in, is read as the same text. `Spells` says what a loop
over the bytes collects from a place up to the closing quote: a plain byte is collected as it is, an escape as the
bytes of the character it stands for, and every character is written as one or the other (`spells_char`).
-/

namespace BrokerClient.Json.Parser

open Text (Utf8.encodeChar Utf8.encode Utf8.ofString Utf8.toString?)

variable {bound : Nat} {text bytes : Bytes} {q : Position}

/-! ## Bytes and characters -/

theorem toNat_asChar (b : UInt8) : (asChar b).toNat = b.toNat := by
  have hlt := b.toNat_lt
  have hvalid : b.toNat.isValidChar := .inl (by omega)
  rw [asChar, Char.ofNat, dif_pos hvalid]
  rfl

/-- A byte that stands for itself between quotes. -/
def Plain (b : UInt8) : Prop := 0x20 ≤ b.toNat ∧ b.toNat ≠ 0x22 ∧ b.toNat ≠ 0x5C

theorem plain_encodeChar {c : Char} (hc : 0x20 ≤ c.toNat) (hquote : c.toNat ≠ 0x22) (hbackslash : c.toNat ≠ 0x5C) :
    ∀ b ∈ Utf8.encodeChar c, Plain b := by
  have hvalid : c.toNat < 0xD800 ∨ 0xDFFF < c.toNat ∧ c.toNat < 0x110000 := c.valid
  have hlead {n : Nat} (h : 0x80 ≤ n) (hn : n < 256) : Plain n.toUInt8 := by
    rw [Plain, Text.Utf8.toNat_toUInt8 hn]
    omega
  intro b hb
  simp only [Utf8.encodeChar] at hb
  split at hb
  · rw [List.mem_singleton.1 hb, Plain, Text.Utf8.toNat_toUInt8 (by omega)]
    exact ⟨hc, hquote, hbackslash⟩
  · split at hb
    · simp only [List.mem_cons, List.not_mem_nil, or_false] at hb
      rcases hb with rfl | rfl <;> exact hlead (by omega) (by omega)
    · split at hb
      · simp only [List.mem_cons, List.not_mem_nil, or_false] at hb
        rcases hb with rfl | rfl | rfl <;> exact hlead (by omega) (by omega)
      · simp only [List.mem_cons, List.not_mem_nil, or_false] at hb
        rcases hb with rfl | rfl | rfl | rfl <;> exact hlead (by omega) (by omega)

/-! ## The bytes up to the closing quote -/

/-- The loop over the bytes of a text collects these from here on, and stops behind the quote. -/
def Spells (bound : Nat) (text bytes : Bytes) (q : Position) : Prop :=
  ∀ fuel found, text.length < fuel → Parses bound (stringBytes fuel found) (.before text) (found.reverse ++ bytes) q

theorem spells_quote : Spells bound (0x22 :: text) [] (.before text) := by
  intro fuel found hf
  obtain ⟨fuel, rfl⟩ : ∃ n, fuel = n + 1 := ⟨fuel - 1, by omega⟩
  rw [stringBytes, List.append_nil]
  exact (parses_nextOf .string).bind (.pure _)

theorem spells_plain {b : UInt8} (hb : Plain b) (h : Spells bound text bytes q) :
    Spells bound (b :: text) (b :: bytes) q := by
  intro fuel found hf
  obtain ⟨fuel, rfl⟩ : ∃ n, fuel = n + 1 := ⟨fuel - 1, by omega⟩
  obtain ⟨hcontrol, hquote, hbackslash⟩ := hb
  have hq : asChar b ≠ '"' := fun heq => hquote (by rw [← toNat_asChar, heq]; rfl)
  have hs : asChar b ≠ '\\' := fun heq => hbackslash (by rw [← toNat_asChar, heq]; rfl)
  have hc : ¬ b < 0x20 := by
    rw [UInt8.lt_iff_toNat_lt]
    exact Nat.not_lt.2 hcontrol
  have hrest := h fuel (b :: found) (by simpa using hf)
  rw [List.reverse_cons, List.append_assoc] at hrest
  refine (parses_nextOf .string).bind ?_
  rw [if_neg hq, if_neg hs, if_neg hc]
  exact hrest

theorem spells_plains {raw : Bytes} (hraw : ∀ b ∈ raw, Plain b) (h : Spells bound text bytes q) :
    Spells bound (raw ++ text) (raw ++ bytes) q := by
  induction raw with
  | nil => exact h
  | cons b raw ih =>
    exact spells_plain (hraw b (List.mem_cons_self ..)) (ih fun b hb => hraw b (List.mem_cons_of_mem _ hb))

theorem spells_escape (escaped : Bytes) {c : Char}
    (he : Parses bound escape (.before (escaped ++ text)) c (.before text)) (h : Spells bound text bytes q) :
    Spells bound (0x5C :: escaped ++ text) (Utf8.encodeChar c ++ bytes) q := by
  intro fuel found hf
  obtain ⟨fuel, rfl⟩ : ∃ n, fuel = n + 1 := ⟨fuel - 1, by omega⟩
  rw [List.cons_append, List.length_cons, List.length_append] at hf
  have hrest := h fuel ((Utf8.encodeChar c).reverse ++ found) (by omega)
  rw [List.reverse_append, List.reverse_reverse, List.append_assoc] at hrest
  exact (parses_nextOf .string).bind (he.bind hrest)

/-! ## Escapes -/

/-- A letter behind a backslash. -/
theorem parses_letter {b : UInt8} {c : Char} (hu : asChar b ≠ 'u') (h : simpleEscape? (asChar b) = some c) :
    Parses bound escape (.before ([b] ++ text)) c (.before text) := by
  refine (parses_nextOf .string).bind ?_
  rw [if_neg hu, h]
  exact .pure c

theorem parses_hexNumber {a b c d : UInt8} {n : Nat}
    (h : (([a, b, c, d] : Bytes).mapM fun b => Text.Hex.digit? (asChar b)).map (·.foldl (fun n d => 16 * n + d) 0) = some n) :
    Parses bound hexNumber (.before ([a, b, c, d] ++ text)) n (.before text) := by
  obtain ⟨digits, hdigits, rfl⟩ := Option.map_eq_some_iff.1 h
  refine (parses_nextOf .string).bind ((parses_nextOf .string).bind ((parses_nextOf .string).bind
    ((parses_nextOf .string).bind ?_)))
  rw [hdigits]
  exact .pure _

/-- The four digits of a control character. -/
def controlDigits (n : Nat) : Bytes := [0x30, 0x30, (0x30 + n / 16).toUInt8, (Nat.digitChar (n % 16)).toNat.toUInt8]

theorem hexEscape_control : ∀ n < 0x20, Utf8.ofString (hexEscape n) = 0x5C :: 0x75 :: controlDigits n ∧
    ((controlDigits n).mapM fun b => Text.Hex.digit? (asChar b)).map (·.foldl (fun n d => 16 * n + d) 0) = some n := by
  decide +kernel

theorem parses_control {n : Nat} (hn : n < 0x20) :
    Parses bound escape (.before (0x75 :: controlDigits n ++ text)) (Char.ofNat n) (.before text) := by
  have hu : asChar 0x75 = 'u' := by decide
  refine (parses_nextOf .string).bind ?_
  rw [if_pos hu]
  refine (parses_hexNumber (hexEscape_control n hn).2).bind ?_
  rw [if_neg (by omega), if_pos (by omega)]
  exact .pure _

/-! ## Characters and texts -/

theorem spells_letter {b : UInt8} {c : Char} (hu : asChar b ≠ 'u') (hs : simpleEscape? (asChar b) = some c)
    (h : Spells bound text bytes q) : Spells bound (0x5C :: b :: text) (Utf8.encodeChar c ++ bytes) q :=
  spells_escape [b] (parses_letter hu hs) h

/-- Every character is read as it is written. -/
theorem spells_char (c : Char) (h : Spells bound text bytes q) :
    Spells bound (Utf8.ofString (escapeChar c) ++ text) (Utf8.encodeChar c ++ bytes) q := by
  unfold escapeChar
  by_cases hquote : c = '"'
  · rw [if_pos hquote, hquote]
    exact spells_letter (b := 0x22) (by decide) (by decide) h
  by_cases hbackslash : c = '\\'
  · rw [if_neg hquote, if_pos hbackslash, hbackslash]
    exact spells_letter (b := 0x5C) (by decide) (by decide) h
  rw [if_neg hquote, if_neg hbackslash]
  by_cases hn : c = '\n'
  · rw [if_pos hn, hn]
    exact spells_letter (b := 0x6E) (by decide) (by decide) h
  by_cases hr : c = '\r'
  · rw [if_neg hn, if_pos hr, hr]
    exact spells_letter (b := 0x72) (by decide) (by decide) h
  by_cases ht : c = '\t'
  · rw [if_neg hn, if_neg hr, if_pos ht, ht]
    exact spells_letter (b := 0x74) (by decide) (by decide) h
  rw [if_neg hn, if_neg hr, if_neg ht]
  by_cases hb : c.toNat = 8
  · obtain rfl : c = Char.ofNat 8 := by rw [← hb, Char.ofNat_toNat]
    exact spells_letter (b := 0x62) (by decide) (by decide) h
  by_cases hf : c.toNat = 12
  · obtain rfl : c = Char.ofNat 12 := by rw [← hf, Char.ofNat_toNat]
    exact spells_letter (b := 0x66) (by decide) (by decide) h
  rw [if_neg hb, if_neg hf]
  by_cases hcontrol : c.toNat < 0x20
  · have he : Parses bound escape _ _ (.before text) := parses_control hcontrol
    rw [Char.ofNat_toNat] at he
    rw [if_pos hcontrol, (hexEscape_control c.toNat hcontrol).1]
    exact spells_escape (0x75 :: controlDigits c.toNat) he h
  · have hraw : Utf8.ofString c.toString = Utf8.encodeChar c := by simp [Utf8.ofString]
    rw [if_neg hcontrol, hraw]
    refine spells_plains (plain_encodeChar (by omega) (fun heq => hquote ?_) fun heq => hbackslash ?_) h
    · rw [← Char.ofNat_toNat c, heq]
    · rw [← Char.ofNat_toNat c, heq]

/-- The bytes of the characters between quotes. -/
def escaped (s : String) : Bytes := s.toList.flatMap fun c => Utf8.ofString (escapeChar c)

theorem spells_escaped (cs : List Char) :
    Spells bound (cs.flatMap (fun c => Utf8.ofString (escapeChar c)) ++ 0x22 :: text) (Utf8.encode cs) (.before text) := by
  induction cs with
  | nil => exact spells_quote
  | cons c cs ih =>
    rw [List.flatMap_cons, List.append_assoc]
    exact spells_char c ih

/-- **A text is read back from between quotes.** -/
theorem parses_stringRest (s : String) (hb : (escaped s ++ 0x22 :: text).length ≤ bound) :
    Parses bound stringRest (.before (escaped s ++ 0x22 :: text)) s (.before text) := by
  refine parses_rounds.bind ((spells_escaped s.toList (bound + 1) [] (Nat.lt_succ_of_le hb)).bind ?_)
  have hs : Utf8.toString? ([].reverse ++ Utf8.encode s.toList) = some s := Text.Utf8.toString?_ofString s
  rw [hs]
  exact .pure s

theorem ofString_renderString (s : String) : Utf8.ofString (renderString s) = 0x22 :: (escaped s ++ [0x22]) := by
  have hfold (cs : List Char) (done : String) :
      Utf8.ofString (cs.foldl (fun text c => text ++ escapeChar c) done) =
        Utf8.ofString done ++ cs.flatMap fun c => Utf8.ofString (escapeChar c) := by
    induction cs generalizing done with
    | nil => simp
    | cons c cs ih =>
      rw [List.foldl_cons, ih, List.flatMap_cons, ← List.append_assoc]
      rw [Text.Utf8.ofString_append]
  rw [renderString, String.foldl_eq_foldl_toList, Text.Utf8.ofString_append, Text.Utf8.ofString_append, hfold]
  rfl

end BrokerClient.Json.Parser
