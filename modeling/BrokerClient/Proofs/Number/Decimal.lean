import BrokerClient.Encoding.Preference
import Mathlib.Data.List.TakeWhile
import Mathlib.Data.Rat.Lemmas
import Mathlib.Tactic.FieldSimp
import Mathlib.Tactic.Positivity

/-!
# Decimals

The texts of weights are decimals: digits, then possibly a point and places, which may be none. Each spells one number
(`DecimalText.unique`), and it is the quotient that a weight is rounded from (`DecimalText.eq_quotient`).
-/

namespace BrokerClient.Number

/-- The number that digits spell, with a point in them or behind them or without one. -/
inductive DecimalText : List Char → ℚ → Prop
  | whole {digits : List Char} (hne : digits ≠ []) (hd : ∀ c ∈ digits, c.isDigit = true) :
    DecimalText digits (Nat.ofDigitChars 10 digits 0)
  | point {digits places : List Char} (hne : digits ≠ []) (hd : ∀ c ∈ digits, c.isDigit = true)
    (hp : ∀ c ∈ places, c.isDigit = true) :
    DecimalText (digits ++ '.' :: places)
      (Nat.ofDigitChars 10 digits 0 + Nat.ofDigitChars 10 places 0 / 10 ^ places.length)

open Preference (isDecimal digitsValue decimalQuotient)

variable {cs digits places : List Char} {x : ℚ}

theorem isDecimal_iff : isDecimal cs = true ↔ ∃ x, DecimalText cs x := by
  have hpoint : '.'.isDigit = false := by decide
  simp only [isDecimal, Bool.and_eq_true, Bool.not_eq_true', List.isEmpty_eq_false_iff, List.all_eq_true, Bool.or_eq_true,
    Text.Ascii.isDigit_eq, beq_iff_eq, decide_eq_true_eq, bne_iff_ne]
  constructor
  · rintro ⟨⟨⟨hne, hall⟩, hcount⟩, hhead⟩
    by_cases hmem : '.' ∈ cs
    · obtain ⟨digits, places, rfl, hfree⟩ := List.eq_append_cons_of_mem hmem
      have hplaces : '.' ∉ places := by
        intro h
        have := List.count_pos_iff.2 h
        simp only [List.count_append, List.count_cons_self] at hcount
        omega
      have hdigit {c : Char} (hc : c ∈ digits ++ '.' :: places) (hne : c ≠ '.') : c.isDigit = true :=
        (hall c hc).resolve_right hne
      refine ⟨_, .point ?_ (fun c hc => hdigit (by simp [hc]) ?_) fun c hc => hdigit (by simp [hc]) ?_⟩
      · rintro rfl
        exact hhead rfl
      · rintro rfl
        exact hfree hc
      · rintro rfl
        exact hplaces hc
    · refine ⟨_, .whole hne fun c hc => (hall c hc).resolve_right ?_⟩
      rintro rfl
      exact hmem hc
  · have hcount {ds : List Char} (hd : ∀ c ∈ ds, c.isDigit = true) : ds.count '.' = 0 := by
      refine List.count_eq_zero.2 fun h => ?_
      rw [hd _ h] at hpoint
      cases hpoint
    have hhead {ds rest : List Char} (hne : ds ≠ []) (hd : ∀ c ∈ ds, c.isDigit = true) : (ds ++ rest).head? ≠ some '.' := by
      cases ds with
      | nil => exact absurd rfl hne
      | cons d ds =>
        rintro ⟨⟩
        rw [hd _ (List.mem_cons_self ..)] at hpoint
        cases hpoint
    rintro ⟨x, h⟩
    cases h with
    | whole hne hd =>
      refine ⟨⟨⟨hne, fun c hc => .inl (hd c hc)⟩, by rw [hcount hd]; exact Nat.zero_le _⟩, ?_⟩
      simpa using @hhead _ [] hne hd
    | point hne hd hp =>
      refine ⟨⟨⟨by simp, fun c hc => ?_⟩, ?_⟩, hhead hne hd⟩
      · rcases List.mem_append.1 hc with hc | hc
        · exact .inl (hd c hc)
        · exact (List.mem_cons.1 hc).symm.imp_left (hp c)
      · simp [hcount hd, hcount hp]

theorem foldl_digits (hd : ∀ c ∈ digits, c.isDigit = true) (n : Nat) :
    digits.foldl (fun n c => if Text.Ascii.isDigit c then 10 * n + (c.toNat - '0'.toNat) else n) n =
      Nat.ofDigitChars 10 digits n := by
  induction digits generalizing n with
  | nil => rfl
  | cons c digits ih =>
    obtain ⟨hc, hd⟩ := List.forall_mem_cons.1 hd
    rw [List.foldl_cons, Text.Ascii.isDigit_eq, hc, if_pos rfl, ih hd, Nat.ofDigitChars_cons]

theorem digitsValue_digits (hd : ∀ c ∈ digits, c.isDigit = true) :
    digitsValue digits = Nat.ofDigitChars 10 digits 0 := foldl_digits hd 0

/-- Without its point, a decimal is its digits and places in one. -/
theorem digitsValue_point (hd : ∀ c ∈ digits, c.isDigit = true) (hp : ∀ c ∈ places, c.isDigit = true) :
    digitsValue (digits ++ '.' :: places) =
      10 ^ places.length * Nat.ofDigitChars 10 digits 0 + Nat.ofDigitChars 10 places 0 := by
  rw [digitsValue, List.foldl_append, foldl_digits hd, List.foldl_cons, if_neg (by decide), foldl_digits hp,
    Nat.ofDigitChars_eq_ofDigitChars_zero]

/-- The quotient that is rounded is the number that the text spells. -/
theorem DecimalText.eq_quotient (h : DecimalText cs x) : x = (decimalQuotient cs).1 / (decimalQuotient cs).2 := by
  have hpass {ds : List Char} (hd : ∀ c ∈ ds, c.isDigit = true) : ∀ c ∈ ds, (c != '.') = true := by
    intro c hc
    rw [bne_iff_ne]
    rintro rfl
    exact absurd (hd _ hc) (by decide)
  cases h with
  | whole hne hd =>
    have hrest : cs.dropWhile (· != '.') = [] := List.dropWhile_eq_nil_iff.2 (hpass hd)
    simp [decimalQuotient, digitsValue_digits hd, hrest]
  | @point digits places hne hd hp =>
    have hrest : (digits ++ '.' :: places).dropWhile (· != '.') = '.' :: places := by
      rw [List.dropWhile_append_of_pos (hpass hd)]
      rfl
    rw [decimalQuotient, digitsValue_point hd hp, hrest]
    simp only [List.drop_one, List.tail_cons, Nat.pow_eq]
    push_cast
    field_simp

theorem DecimalText.unique {y : ℚ} (h : DecimalText cs x) (h' : DecimalText cs y) : x = y := by
  rw [h.eq_quotient, h'.eq_quotient]

theorem decimalQuotient_pos (cs : List Char) : 0 < (decimalQuotient cs).2 := by
  simp [decimalQuotient]

end BrokerClient.Number
