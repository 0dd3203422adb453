import BrokerClient.Proofs.Json.Stepping
import BrokerClient.Proofs.Text.Utf8

/-!
# Natural numbers read back

The digits of a natural number below the bound of integers are read as this number, up to what may stand behind a
value. The digits are taken in as long as the number they make stays below the bound, and no part of a number is
greater than the whole.
-/

namespace BrokerClient.Json.Parser

open Text (Utf8.encodeChar Utf8.encode Utf8.encode_cons Utf8.ofString)

variable {bound : Nat} {text : Bytes}

/-! ## Digits -/

theorem toNat_of_isDigit {c : Char} (hc : c.isDigit = true) : 48 ≤ c.toNat ∧ c.toNat ≤ 57 := by
  simp only [Char.isDigit, Bool.and_eq_true, decide_eq_true_eq, ge_iff_le, UInt32.le_iff_toNat_le] at hc
  exact hc

/-- A digit is one byte. -/
theorem encodeChar_digit {c : Char} (hc : c.isDigit = true) :
    ∃ b, Utf8.encodeChar c = [b] ∧ asChar b = c := by
  obtain ⟨hlow, hhigh⟩ := toNat_of_isDigit hc
  refine ⟨c.toNat.toUInt8, by rw [Utf8.encodeChar, if_pos (by omega)], ?_⟩
  rw [asChar, Text.Utf8.toNat_toUInt8 (by omega), Char.ofNat_toNat]

theorem length_encode_digits {cs : List Char} (hd : ∀ c ∈ cs, c.isDigit = true) :
    (Utf8.encode cs).length = cs.length := by
  induction cs with
  | nil => rfl
  | cons c cs ih =>
    obtain ⟨b, hencode, -⟩ := encodeChar_digit (hd c (List.mem_cons_self ..))
    rw [Utf8.encode_cons, hencode, List.length_append, ih fun c hc => hd c (List.mem_cons_of_mem _ hc)]
    exact Nat.add_comm ..

theorem isSpace_digit {c : Char} (hc : c.isDigit = true) : isSpace c = false := by
  obtain ⟨hlow, hhigh⟩ := toNat_of_isDigit hc
  have hne (d : Char) (hd : d.toNat < 48) : (c == d) = false := by
    rw [beq_eq_false_iff_ne]
    rintro rfl
    omega
  rw [isSpace, hne ' ' (by decide), hne '\n' (by decide), hne '\t' (by decide), hne '\r' (by decide)]
  rfl

/-- No part of a number is greater than the whole. -/
theorem le_ofDigitChars (cs : List Char) (value : Nat) : value ≤ Nat.ofDigitChars 10 cs value := by
  induction cs generalizing value with
  | nil => exact Nat.le_refl _
  | cons c cs ih =>
    rw [Nat.ofDigitChars_cons]
    have := ih (10 * value + (c.toNat - '0'.toNat))
    omega

/-- The first digit is a zero only if the number is. -/
theorem toDigits_head (n : Nat) : ∃ d ds, Nat.toDigits 10 n = d :: ds ∧ (d = '0' → n = 0) := by
  induction n using Nat.strongRecOn with
  | ind n ih =>
    by_cases hn : n < 10
    · have hzero : ∀ n < 10, n.digitChar = '0' → n = 0 := by decide
      exact ⟨n.digitChar, [], Nat.toDigits_of_lt_base hn, hzero n hn⟩
    · obtain ⟨d, ds, heq, hzero⟩ := ih (n / 10) (by omega)
      refine ⟨d, ds ++ [(n % 10).digitChar], ?_, fun hd => ?_⟩
      · rw [Nat.toDigits_of_base_le (by decide) (by omega), heq]
        rfl
      · have := hzero hd
        omega

/-- Behind a value no digit comes, nor a point or the mark of an exponent. -/
theorem delimiter_spec {b : UInt8} (hb : b = 0x2C ∨ b = 0x5D ∨ b = 0x7D) :
    (asChar b).isDigit = false ∧ asChar b ≠ '.' ∧ asChar b ≠ 'e' ∧ asChar b ≠ 'E' := by
  rcases hb with rfl | rfl | rfl <;> decide

/-- Digits are taken into a number that stays below a bound. -/
theorem parses_digitsBelow {limit : Nat} (hend : Delimited text) (cs : List Char) (hd : ∀ c ∈ cs, c.isDigit = true)
    {fuel value : Nat} (count : Nat) (hlt : Nat.ofDigitChars 10 cs value < limit) (hf : cs.length < fuel) :
    Parses bound (digitsBelow limit fuel value count) (.before (Utf8.encode cs ++ text))
      ⟨Nat.ofDigitChars 10 cs value, count + cs.length, false⟩ (.before text) := by
  obtain ⟨fuel, rfl⟩ : ∃ n, fuel = n + 1 := ⟨fuel - 1, by omega⟩
  induction cs generalizing fuel value count with
  | nil =>
    cases text with
    | nil => exact parses_peek_nil.bind (.pure _)
    | cons b text =>
      refine parses_peek.bind (Parses.forget ?_)
      simp only [Text.Ascii.isDigit_eq, (delimiter_spec (hend b rfl)).1]
      exact .pure _
  | cons c cs ih =>
    obtain ⟨b, hencode, hchar⟩ := encodeChar_digit (hd c (List.mem_cons_self ..))
    have hdigit : Text.Ascii.isDigit c = true := by rw [Text.Ascii.isDigit_eq, hd c (List.mem_cons_self ..)]
    rw [Nat.ofDigitChars_cons] at hlt ⊢
    have hvalue := le_ofDigitChars cs (10 * value + (c.toNat - '0'.toNat))
    obtain ⟨fuel, rfl⟩ : ∃ n, fuel = n + 1 := ⟨fuel - 1, by simp at hf; omega⟩
    have hrest := ih (fun c hc => hd c (List.mem_cons_of_mem _ hc)) (count + 1) hlt fuel (by simpa using hf)
    rw [Utf8.encode_cons, hencode, List.length_cons, Nat.add_comm cs.length, ← Nat.add_assoc]
    refine parses_peek.bind ?_
    simp only [hchar, hdigit, if_true]
    rw [if_neg (by omega)]
    exact parses_skip.bind hrest

/-! ## Numbers -/

theorem parses_afterDigits (hend : Delimited text) (n : Nat) :
    Parses bound (afterDigits true n) (.before text) (.integer n) (.before text) := by
  cases text with
  | nil => exact parses_peek_nil.bind (.pure _)
  | cons b text =>
    refine parses_peek.bind (Parses.forget ?_)
    rcases hend b rfl with rfl | rfl | rfl <;> exact .pure _

/-- The digits of a number are read as the number. -/
theorem parses_unsignedNumber (hend : Delimited text) {n : Nat} (hn : n < integerBound)
    (hb : (Utf8.encode (Nat.toDigits 10 n) ++ text).length ≤ bound) :
    Parses bound (unsignedNumber true) (.before (Utf8.encode (Nat.toDigits 10 n) ++ text)) (.integer n)
      (.before text) := by
  have hdigits (c : Char) (hc : c ∈ Nat.toDigits 10 n) : c.isDigit = true :=
    Nat.isDigit_of_mem_toDigits (by decide) (by decide) hc
  have hvalue : Nat.ofDigitChars 10 (Nat.toDigits 10 n) 0 = n := Nat.ofDigitChars_ten_toDigits
  obtain ⟨d, ds, heq, hzero⟩ := toDigits_head n
  rw [heq] at hdigits hvalue hb ⊢
  obtain ⟨b, hencode, hchar⟩ := encodeChar_digit (hdigits d (List.mem_cons_self ..))
  rw [Utf8.encode_cons, hencode] at hb ⊢
  refine (parses_nextOf .value).bind ?_
  simp only [hchar]
  by_cases hd : d = '0'
  · obtain rfl := hzero hd
    rw [Nat.toDigits_zero] at heq
    obtain ⟨-, rfl⟩ := List.cons.inj heq
    rw [if_pos hd]
    have hafter : Parses bound _ _ _ _ := parses_afterDigits hend 0
    cases text with
    | nil => exact parses_peek_nil.bind hafter
    | cons b text =>
      refine parses_peek.bind ?_
      simp only [Text.Ascii.isDigit_eq, (delimiter_spec (hend b rfl)).1]
      exact hafter.seeing
  · have hdigit : Text.Ascii.isDigit d = true := by rw [Text.Ascii.isDigit_eq, hdigits d (List.mem_cons_self ..)]
    rw [Nat.ofDigitChars_cons, Nat.mul_zero, Nat.zero_add] at hvalue
    have hbehind (c : Char) (hc : c ∈ ds) : c.isDigit = true := hdigits c (List.mem_cons_of_mem _ hc)
    rw [List.length_append, List.length_append, length_encode_digits hbehind] at hb
    have hrest : Parses bound _ _ _ _ := parses_digitsBelow hend ds hbehind 1 (hvalue.symm ▸ hn)
      (show ds.length < bound + 1 by omega)
    rw [if_neg hd, if_pos hdigit]
    refine parses_rounds.bind (hrest.bind ?_)
    rw [hvalue]
    exact parses_afterDigits hend n

/-- The bytes of a natural number. -/
def digits (n : Nat) : Bytes := Utf8.encode (Nat.toDigits 10 n)

/-- A number is written with a digit first. -/
theorem digits_head (n : Nat) : ∃ b behind, digits n = b :: behind ∧ (asChar b).isDigit = true := by
  obtain ⟨d, ds, heq, -⟩ := toDigits_head n
  have hd : d.isDigit = true := Nat.isDigit_of_mem_toDigits (by decide) (by decide) (heq ▸ List.mem_cons_self ..)
  obtain ⟨b, hencode, hchar⟩ := encodeChar_digit hd
  refine ⟨b, Utf8.encode ds, ?_, hchar ▸ hd⟩
  rw [digits, heq, Utf8.encode_cons, hencode]
  rfl

/-- **A natural number below its bound is read back.** -/
theorem reads_naturalBelow {n limit : Nat} (hn : n < limit) (hlimit : limit ≤ integerBound) (expected : String) :
    Reads bound (naturalBelow limit expected) (digits n) n := by
  intro text hend hb
  have hnumber := parses_unsignedNumber hend (Nat.lt_of_lt_of_le hn hlimit) hb
  obtain ⟨b, behind, hform, hdigit⟩ := digits_head n
  have hstart : startsNumber (asChar b) = true := by rw [startsNumber, Text.Ascii.isDigit_eq, hdigit, Bool.or_true]
  have hminus : asChar b ≠ '-' := fun heq => by rw [heq] at hdigit; exact absurd hdigit (by decide)
  rw [show Utf8.encode (Nat.toDigits 10 n) = b :: behind from hform] at hnumber
  rw [hform]
  refine (parses_valueStart (isSpace_digit hdigit)).bind ?_
  rw [if_pos hstart, number, if_neg hminus]
  refine hnumber.seeing.bind ?_
  have hrange : (0 : Int) ≤ n ∧ (n : Int) < limit := ⟨Int.natCast_nonneg n, Int.ofNat_lt.2 hn⟩
  simp only [if_pos hrange]
  exact .pure n

theorem ofString_natural (n : Nat) : Utf8.ofString (Number.render (.integer n)) = digits n := by
  have hrepr : Number.render (.integer n) = n.repr := rfl
  rw [hrepr, Utf8.ofString, Nat.toList_repr]
  rfl

end BrokerClient.Json.Parser
