import BrokerClient.Number.Binary
import Mathlib.Algebra.Order.Field.Power
import Mathlib.Data.Rat.Lemmas
import Mathlib.Tactic.FieldSimp
import Mathlib.Tactic.Linarith
import Mathlib.Tactic.Positivity
import Mathlib.Tactic.Ring

/-!
# Rounding to the nearest

A pattern of a binary format stands for a number, and patterns are in the order of their numbers (`value_strictMono`).
`Rounds` says which pattern is nearest to a number, the even one of two that are equally near; there is one only, and
greater numbers do not have smaller patterns. It is what `nearest` finds (`rounds_nearest`), from the quotient in units of
the last place of the mantissa.
-/

namespace BrokerClient.Number

/-! ## Rounding to a natural number -/

/-- Twice the quotient is within one of twice what it is rounded to, and where it is one away that is even. -/
theorem roundHalfEven_spec (num : Nat) {den : Nat} (hden : 0 < den) :
    2 * num ≤ (2 * roundHalfEven num den + 1) * den ∧ 2 * roundHalfEven num den * den ≤ 2 * num + den ∧
      (2 * num = (2 * roundHalfEven num den + 1) * den ∨ 2 * roundHalfEven num den * den = 2 * num + den →
        roundHalfEven num den % 2 = 0) := by
  have hsplit : num = den * (num / den) + num % den := (Nat.div_add_mod num den).symm
  have hlt := Nat.mod_lt num hden
  unfold roundHalfEven
  generalize num / den = q at *
  generalize num % den = r at *
  subst hsplit
  dsimp only
  split
  · refine ⟨by nlinarith, by nlinarith, ?_⟩
    rintro (h | h) <;> nlinarith
  · split
    · refine ⟨by nlinarith, by nlinarith, ?_⟩
      rintro (h | h) <;> nlinarith
    · rcases Nat.mod_two_eq_zero_or_one q with hq | hq <;> rw [hq] <;>
        exact ⟨by nlinarith, by nlinarith, fun _ => by omega⟩

/-- Of a quotient in units of `2 ^ s`, rounded: it is within half a unit, and where it is half a unit away the rounded
number is even. -/
structure Halved (x : ℚ) (s : Int) (m : Nat) : Prop where
  above : x ≤ (m + 1 / 2) * 2 ^ s
  below : (m - 1 / 2) * 2 ^ s ≤ x
  even : x = (m + 1 / 2) * 2 ^ s ∨ (m - 1 / 2) * 2 ^ s = x → m % 2 = 0

theorem Halved.of_quotient {x : ℚ} {s : Int} {num den : Nat} (hden : 0 < den) (hx : x * den = num * 2 ^ s) :
    Halved x s (roundHalfEven num den) := by
  obtain ⟨habove, hbelow, htie⟩ := roundHalfEven_spec num hden
  have hpos : (0 : ℚ) < den := by exact_mod_cast hden
  have hunit : (0 : ℚ) < 2 ^ s := by positivity
  generalize roundHalfEven num den = m at *
  have habove' : (2 * num : ℚ) ≤ (2 * m + 1) * den := by exact_mod_cast habove
  have hbelow' : (2 * m * den : ℚ) ≤ 2 * num + den := by exact_mod_cast hbelow
  refine ⟨?_, ?_, ?_⟩
  · refine le_of_mul_le_mul_right ?_ hpos
    rw [hx]
    nlinarith
  · refine le_of_mul_le_mul_right ?_ hpos
    rw [hx]
    nlinarith
  · rintro (h | h)
    · refine htie (.inl ?_)
      rw [h, mul_right_comm, mul_right_cancel_iff_of_pos hunit] at hx
      have : (2 * num : ℚ) = (2 * m + 1) * den := by linarith
      exact_mod_cast this
    · refine htie (.inr ?_)
      rw [← h, mul_right_comm, mul_right_cancel_iff_of_pos hunit] at hx
      have : (2 * m * den : ℚ) = 2 * num + den := by linarith
      exact_mod_cast this

/-- The power of two below a quotient. -/
theorem log2Quotient_spec {num den : Nat} (hnum : 0 < num) (hden : 0 < den) :
    (2 : ℚ) ^ log2Quotient num den ≤ num / den ∧ (num / den : ℚ) < 2 ^ (log2Quotient num den + 1) := by
  have hpos : (0 : ℚ) < den := by exact_mod_cast hden
  have hnumLow : (2 : ℚ) ^ (num.log2 : Int) ≤ num := by exact_mod_cast Nat.log2_self_le hnum.ne'
  have hnumHigh : (num : ℚ) < 2 ^ ((num.log2 : Int) + 1) := by exact_mod_cast Nat.lt_log2_self (n := num)
  have hdenLow : (2 : ℚ) ^ (den.log2 : Int) ≤ den := by exact_mod_cast Nat.log2_self_le hden.ne'
  have hdenHigh : (den : ℚ) < 2 ^ ((den.log2 : Int) + 1) := by exact_mod_cast Nat.lt_log2_self (n := den)
  have hreached : (if 0 ≤ (num.log2 : Int) - den.log2 then den * Nat.pow 2 ((num.log2 : Int) - den.log2).toNat ≤ num
      else den ≤ num * Nat.pow 2 (-((num.log2 : Int) - den.log2)).toNat) ↔
      (2 : ℚ) ^ ((num.log2 : Int) - den.log2) ≤ num / den := by
    rw [le_div_iff₀ hpos]
    split
    · rename_i h
      obtain ⟨k, hk⟩ := Int.eq_ofNat_of_zero_le h
      rw [hk, Int.toNat_natCast, zpow_natCast, mul_comm]
      norm_cast
    · rename_i h
      obtain ⟨k, hk⟩ := Int.eq_ofNat_of_zero_le (show 0 ≤ -((num.log2 : Int) - den.log2) by omega)
      rw [hk, Int.toNat_natCast, ← neg_neg ((num.log2 : Int) - den.log2), hk, zpow_neg, zpow_natCast,
        inv_mul_le_iff₀ (by positivity), mul_comm]
      norm_cast
  unfold log2Quotient
  simp only [hreached]
  split
  · rename_i h
    refine ⟨h, ?_⟩
    rw [div_lt_iff₀ hpos]
    calc (num : ℚ) < 2 ^ ((num.log2 : Int) + 1) := hnumHigh
      _ = 2 ^ ((num.log2 : Int) - den.log2 + 1) * 2 ^ (den.log2 : Int) := by
        rw [← zpow_add₀ (by norm_num)]; congr 1; omega
      _ ≤ 2 ^ ((num.log2 : Int) - den.log2 + 1) * den := by gcongr
  · rename_i h
    refine ⟨?_, by simpa using h⟩
    rw [le_div_iff₀ hpos]
    calc (2 : ℚ) ^ ((num.log2 : Int) - den.log2 - 1) * den
        ≤ 2 ^ ((num.log2 : Int) - den.log2 - 1) * 2 ^ ((den.log2 : Int) + 1) := by gcongr
      _ = 2 ^ (num.log2 : Int) := by rw [← zpow_add₀ (by norm_num)]; congr 1; omega
      _ ≤ num := hnumLow

/-- The quotient in units of any power of two. -/
theorem Halved.of_scale (num : Nat) {den : Nat} (hden : 0 < den) (s : Int) : Halved (num / den) s
    (if 0 ≤ s then roundHalfEven num (den * Nat.pow 2 s.toNat) else roundHalfEven (num * Nat.pow 2 (-s).toNat) den) := by
  have hpos : (0 : ℚ) < den := by exact_mod_cast hden
  simp only [Nat.pow_eq]
  split
  · rename_i hs
    obtain ⟨n, rfl⟩ := Int.eq_ofNat_of_zero_le hs
    refine .of_quotient (by positivity) ?_
    rw [Int.toNat_natCast, zpow_natCast]
    push_cast
    field_simp
  · rename_i hs
    obtain ⟨n, rfl⟩ : ∃ n : Nat, s = -n := ⟨(-s).toNat, by omega⟩
    refine .of_quotient hden ?_
    rw [neg_neg, Int.toNat_natCast, zpow_neg, zpow_natCast]
    push_cast
    field_simp

namespace Format

variable {f : Format}

/-! ## The numbers of patterns -/

/-- The number that a pattern stands for. Infinity stands where the next power of two would. -/
def value (f : Format) (bits : Nat) : ℚ := f.mantissa bits * 2 ^ f.scale bits

/-- The place halfway between the number of a pattern and the next one. -/
def middle (f : Format) (bits : Nat) : ℚ := (f.value bits + f.value (bits + 1)) / 2

/-- A pattern made of a mantissa in its range, or just above it, and the places that it is moved by. -/
theorem value_eq {k m : Nat} (hm : m ≤ 2 * 2 ^ f.fraction) (hk : k = 0 ∨ 2 ^ f.fraction ≤ m) :
    f.value (k * 2 ^ f.fraction + m) = m * 2 ^ (f.leastScale + k) := by
  have hpos : 0 < 2 ^ f.fraction := by positivity
  simp only [value, mantissa, scale, Nat.pow_eq]
  generalize 2 ^ f.fraction = F at *
  rcases Nat.lt_or_ge m F with hlt | hge
  · obtain rfl : k = 0 := by omega
    simp [hlt, Nat.div_eq_of_lt hlt]
  · rcases Nat.lt_or_ge m (2 * F) with hlt | hge'
    · obtain ⟨r, rfl⟩ := Nat.exists_eq_add_of_le hge
      have hr : r < F := by omega
      have hdiv : (k * F + (F + r)) / F = k + 1 := by
        rw [← Nat.add_assoc, ← Nat.succ_mul, Nat.add_comm, Nat.add_mul_div_right _ _ hpos, Nat.div_eq_of_lt hr]
        omega
      have hmod : (k * F + (F + r)) % F = r := by
        rw [← Nat.add_assoc, ← Nat.succ_mul, Nat.add_comm, Nat.add_mul_mod_self_right, Nat.mod_eq_of_lt hr]
      rw [hdiv, hmod, if_neg (by nlinarith)]
      simp [add_comm]
    · obtain rfl : m = 2 * F := by omega
      have hsum : k * F + 2 * F = (k + 2) * F := by ring
      have hbig : ¬ (k + 2) * F < F := by nlinarith
      rw [hsum, if_neg hbig, Nat.mul_mod_left, Nat.mul_div_cancel _ hpos]
      have hexp : f.leastScale + ((k + 2 - 1 : Nat) : Int) = f.leastScale + k + 1 := by omega
      rw [hexp, zpow_add_one₀ (by norm_num)]
      push_cast
      ring

/-- Every pattern is made of a mantissa in its range and the places that it is moved by. -/
theorem exists_eq (f : Format) (bits : Nat) : ∃ k m, bits = k * 2 ^ f.fraction + m ∧ m < 2 * 2 ^ f.fraction ∧
    (k = 0 ∨ 2 ^ f.fraction ≤ m) := by
  have hpos : 0 < 2 ^ f.fraction := by positivity
  rcases Nat.lt_or_ge bits (2 ^ f.fraction) with hlt | hge
  · exact ⟨0, bits, by omega, by omega, .inl rfl⟩
  · refine ⟨bits / 2 ^ f.fraction - 1, bits % 2 ^ f.fraction + 2 ^ f.fraction, ?_, ?_, .inr (by omega)⟩
    · have hone : 1 ≤ bits / 2 ^ f.fraction := (Nat.one_le_div_iff hpos).2 hge
      have := Nat.div_add_mod' bits (2 ^ f.fraction)
      obtain ⟨n, hn⟩ := Nat.exists_eq_add_of_le' hone
      rw [hn] at this ⊢
      simp only [Nat.add_sub_cancel]
      nlinarith
    · have := Nat.mod_lt bits hpos
      omega

/-- The step from a pattern to the next one is the place of its mantissa. -/
theorem value_succ {k m : Nat} (hm : m < 2 * 2 ^ f.fraction) (hk : k = 0 ∨ 2 ^ f.fraction ≤ m) :
    f.value (k * 2 ^ f.fraction + m + 1) = f.value (k * 2 ^ f.fraction + m) + 2 ^ (f.leastScale + k) := by
  rw [Nat.add_assoc, value_eq hm.le hk, value_eq hm (hk.imp_right fun h => by omega)]
  push_cast
  ring

theorem value_lt_succ (f : Format) (bits : Nat) : f.value bits < f.value (bits + 1) := by
  obtain ⟨k, m, rfl, hm, hk⟩ := f.exists_eq bits
  rw [value_succ hm hk]
  have : (0 : ℚ) < 2 ^ (f.leastScale + k) := by positivity
  linarith

/-- Patterns are in the order of their numbers. -/
theorem value_strictMono (f : Format) : StrictMono f.value := strictMono_nat_of_lt_succ f.value_lt_succ

theorem middle_strictMono (f : Format) : StrictMono f.middle := fun a b hab => by
  have hlow := f.value_strictMono hab
  have hhigh := f.value_strictMono (Nat.succ_lt_succ hab)
  simp only [middle]
  linarith

/-- With a mantissa just above its range, the step is more than its place. -/
theorem value_add_le {k m : Nat} (hm : m ≤ 2 * 2 ^ f.fraction) (hk : k = 0 ∨ 2 ^ f.fraction ≤ m) :
    f.value (k * 2 ^ f.fraction + m) + 2 ^ (f.leastScale + k) ≤ f.value (k * 2 ^ f.fraction + m + 1) := by
  rcases hm.lt_or_eq with hlt | rfl
  · exact (value_succ hlt hk).ge
  · have hpos : 0 < 2 ^ f.fraction := by positivity
    have hplace : (0 : ℚ) < 2 ^ (f.leastScale + k) := by positivity
    have hnext : k * 2 ^ f.fraction + 2 * 2 ^ f.fraction + 1 = (k + 1) * 2 ^ f.fraction + (2 ^ f.fraction + 1) := by ring
    rw [value_eq hm hk, hnext, value_eq (by omega) (.inr (by omega)), Nat.cast_add_one (n := k), ← add_assoc,
      zpow_add_one₀ (by norm_num)]
    push_cast
    linarith

/-! ## Rounding to a pattern -/

/-- `bits` is the pattern nearest to `x`, and the even one of two that are equally near. -/
structure Rounds (f : Format) (x : ℚ) (bits : Nat) : Prop where
  le_infinity : bits ≤ f.infinity
  nearest : ∀ other ≤ f.infinity, |x - f.value bits| ≤ |x - f.value other|
  even : ∀ other ≤ f.infinity, other ≠ bits → |x - f.value bits| = |x - f.value other| → bits % 2 = 0

theorem abs_sub_le_iff_le {x a b : ℚ} (h : a < b) : |x - a| ≤ |x - b| ↔ x ≤ (a + b) / 2 := by
  rw [← sq_le_sq]
  constructor <;> intro h' <;> nlinarith

theorem abs_sub_le_iff_ge {x a b : ℚ} (h : a < b) : |x - b| ≤ |x - a| ↔ (a + b) / 2 ≤ x := by
  rw [← sq_le_sq]
  constructor <;> intro h' <;> nlinarith

/-- A pattern is nearest when the number lies between the places halfway to its neighbours. -/
theorem rounds_of_middle {x : ℚ} {bits : Nat} (hle : bits ≤ f.infinity)
    (habove : bits < f.infinity → x ≤ f.middle bits ∧ (x = f.middle bits → bits % 2 = 0))
    (hbelow : ∀ b, bits = b + 1 → f.middle b ≤ x ∧ (f.middle b = x → bits % 2 = 0)) : f.Rounds x bits := by
  have hnear (other : Nat) (hother : other ≤ f.infinity) (hne : other ≠ bits) :
      |x - f.value bits| ≤ |x - f.value other| ∧ (|x - f.value bits| = |x - f.value other| → bits % 2 = 0) := by
    rcases Nat.lt_or_gt_of_ne hne with hlt | hgt
    · obtain ⟨b, rfl⟩ := Nat.exists_eq_add_of_lt hlt
      obtain ⟨hmiddle, heven⟩ := hbelow (other + b) rfl
      have hstep := f.value_strictMono.monotone (Nat.le_add_right other b)
      have hvalue := f.value_strictMono hlt
      simp only [middle] at hmiddle heven
      rw [abs_sub_le_iff_ge hvalue]
      refine ⟨by linarith, fun htie => heven (le_antisymm hmiddle ?_)⟩
      have := (abs_sub_le_iff_le hvalue).1 htie.ge
      linarith
    · obtain ⟨hmiddle, heven⟩ := habove (hgt.trans_le hother)
      have hstep := f.value_strictMono.monotone (Nat.succ_le_of_lt hgt)
      have hvalue := f.value_strictMono hgt
      simp only [middle] at hmiddle heven
      rw [abs_sub_le_iff_le hvalue]
      refine ⟨by linarith, fun htie => heven (le_antisymm hmiddle ?_)⟩
      have := (abs_sub_le_iff_ge hvalue).1 htie.ge
      linarith
  refine ⟨hle, fun other hother => ?_, fun other hother hne => (hnear other hother hne).2⟩
  rcases eq_or_ne other bits with rfl | hne
  · exact le_rfl
  · exact (hnear other hother hne).1

namespace Rounds

variable {x y : ℚ} {bits bits' p : Nat}

theorem le_middle (h : f.Rounds x bits) (hlt : bits < f.infinity) : x ≤ f.middle bits :=
  (abs_sub_le_iff_le (f.value_lt_succ bits)).1 (h.nearest _ hlt)

theorem middle_le (h : f.Rounds x (p + 1)) : f.middle p ≤ x :=
  (abs_sub_le_iff_ge (f.value_lt_succ p)).1 (h.nearest _ ((Nat.le_succ p).trans h.le_infinity))

/-- Both of two nearest patterns would be even, and one between them nearer. -/
theorem not_lt (h : f.Rounds x bits) (h' : f.Rounds x bits') : ¬ bits < bits' := by
  intro hlt
  have htie : |x - f.value bits| = |x - f.value bits'| :=
    le_antisymm (h.nearest _ h'.le_infinity) (h'.nearest _ h.le_infinity)
  have heven := h.even _ h'.le_infinity hlt.ne' htie
  have heven' := h'.even _ h.le_infinity hlt.ne htie.symm
  obtain ⟨b, rfl⟩ := Nat.exists_eq_add_of_lt hlt
  have hbetween : f.middle bits < f.middle (bits + b) := f.middle_strictMono (by omega)
  have hlow := h.le_middle (hlt.trans_le h'.le_infinity)
  have hhigh := h'.middle_le
  linarith

/-- A number is rounded to one pattern only. -/
theorem unique (h : f.Rounds x bits) (h' : f.Rounds x bits') : bits = bits' :=
  Nat.le_antisymm (Nat.le_of_not_lt (h'.not_lt h)) (Nat.le_of_not_lt (h.not_lt h'))

/-- Rounding keeps the order. -/
theorem mono (h : f.Rounds x bits) (h' : f.Rounds y bits') (hxy : x ≤ y) : bits ≤ bits' := by
  by_contra hlt
  obtain ⟨b, rfl⟩ := Nat.exists_eq_add_of_lt (Nat.lt_of_not_le hlt)
  have hlow := h'.le_middle ((Nat.lt_of_not_le hlt).trans_le h.le_infinity)
  have hhigh := h.middle_le
  have hmiddle := f.middle_strictMono.monotone (Nat.le_add_right bits' b)
  obtain rfl : x = y := by linarith
  exact h'.not_lt h (Nat.lt_of_not_le hlt)

/-- A number is rounded to at most an even pattern exactly when it is at most halfway to the next one. -/
theorem le_iff (h : f.Rounds x bits) (hp : p < f.infinity) (heven : p % 2 = 0) : bits ≤ p ↔ x ≤ f.middle p := by
  constructor
  · intro hle
    exact (h.le_middle (hle.trans_lt hp)).trans (f.middle_strictMono.monotone hle)
  · intro hx
    by_contra hlt
    obtain ⟨b, rfl⟩ := Nat.exists_eq_add_of_lt (Nat.lt_of_not_le hlt)
    have hhigh := h.middle_le
    have hmiddle := f.middle_strictMono.monotone (Nat.le_add_right p b)
    obtain rfl : b = 0 := by
      by_contra hb
      have : f.middle p < f.middle (p + b) := f.middle_strictMono (by omega)
      linarith
    -- the number is halfway, so the odd pattern is not chosen
    have htie : |x - f.value (p + 0 + 1)| = |x - f.value p| := le_antisymm (h.nearest p hp.le)
      ((abs_sub_le_iff_le (f.value_lt_succ p)).2 hx)
    have := h.even p hp.le (by omega) htie
    omega

end Rounds

/-- A mantissa found by halves makes a pattern between the right places, if the place of the mantissa is the number's. -/
theorem between_of_halved (hf : 0 < f.fraction) {x : ℚ} {k m : Nat} (hm : m ≤ 2 * 2 ^ f.fraction)
    (hk : k = 0 ∨ 2 ^ f.fraction ≤ m ∧ 2 ^ f.fraction * 2 ^ (f.leastScale + k) ≤ x) (h : Halved x (f.leastScale + k) m) :
    (x ≤ f.middle (k * 2 ^ f.fraction + m) ∧
      (x = f.middle (k * 2 ^ f.fraction + m) → (k * 2 ^ f.fraction + m) % 2 = 0)) ∧
    ∀ b, k * 2 ^ f.fraction + m = b + 1 →
      f.middle b ≤ x ∧ (f.middle b = x → (k * 2 ^ f.fraction + m) % 2 = 0) := by
  have hunit : (0 : ℚ) < 2 ^ (f.leastScale + k) := by positivity
  have hvalue := value_eq hm (hk.imp_right And.left)
  have hparity : (k * 2 ^ f.fraction + m) % 2 = m % 2 := by
    obtain ⟨n, hn⟩ := Nat.exists_eq_add_of_lt hf
    rw [hn, Nat.pow_succ, ← Nat.mul_assoc, Nat.add_comm, Nat.add_mul_mod_self_right]
  rw [hparity]
  refine ⟨?_, fun b hb => ?_⟩
  · have hstep := value_add_le hm (hk.imp_right And.left)
    have habove := h.above
    simp only [middle]
    refine ⟨by linarith, fun hx => h.even (.inl (le_antisymm habove ?_))⟩
    linarith
  · rcases Nat.eq_zero_or_pos m with rfl | hpos
    · have : 0 < 2 ^ f.fraction := by positivity
      obtain rfl : k = 0 := by omega
      omega
    · obtain ⟨m, rfl⟩ := Nat.exists_eq_add_one_of_ne_zero hpos.ne'
      obtain rfl : b = k * 2 ^ f.fraction + m := by omega
      have hbelow := h.below
      by_cases hprevious : k = 0 ∨ 2 ^ f.fraction ≤ m
      · have hvalue' := value_eq (Nat.le_of_succ_le hm) hprevious
        have hmiddle : f.middle (k * 2 ^ f.fraction + m) = ((m + 1 : Nat) - 1 / 2) * 2 ^ (f.leastScale + k) := by
          rw [middle, hvalue', Nat.add_assoc, hvalue]
          push_cast
          ring
        rw [hmiddle]
        exact ⟨hbelow, fun hx => h.even (.inr hx)⟩
      · -- the mantissa is the least of its place, and the number not below it
        obtain ⟨-, hx⟩ := hk.resolve_left fun h => hprevious (.inl h)
        have hleast : m + 1 = 2 ^ f.fraction := by omega
        have hlt : f.middle (k * 2 ^ f.fraction + m) < x := by
          have hstep := f.value_lt_succ (k * 2 ^ f.fraction + m)
          rw [Nat.add_assoc, hvalue, hleast] at hstep
          rw [middle, Nat.add_assoc, hvalue, hleast]
          push_cast at *
          linarith
        exact ⟨hlt.le, fun hx => absurd hx hlt.ne⟩

/-- **Rounding finds the nearest pattern.** -/
theorem rounds_nearest (hf : 0 < f.fraction) (num : Nat) {den : Nat} (hden : 0 < den) :
    f.Rounds (num / den) (f.nearest num den) := by
  rcases Nat.eq_zero_or_pos num with rfl | hnum
  · have hzero : f.value 0 = 0 := by simp [value, mantissa]
    rw [nearest, if_pos rfl]
    exact ⟨Nat.zero_le _, by simp [hzero], fun _ _ _ _ => rfl⟩
  · have hpos : (0 : ℚ) < den := by exact_mod_cast hden
    obtain ⟨hlow, hhigh⟩ := log2Quotient_spec hnum hden
    rw [nearest, if_neg hnum.ne']
    dsimp only
    generalize hscale : max (log2Quotient num den - f.fraction) f.leastScale = s
    obtain ⟨k, rfl⟩ : ∃ k : Nat, s = f.leastScale + k := ⟨(s - f.leastScale).toNat, by omega⟩
    have hhalved := Halved.of_scale num hden (f.leastScale + k)
    generalize (if 0 ≤ f.leastScale + (k : Int) then _ else _) = m at *
    rw [add_sub_cancel_left, Int.toNat_natCast, Nat.pow_eq]
    have hunit : (0 : ℚ) < 2 ^ (f.leastScale + k) := by positivity
    have hfraction : (2 : ℚ) ^ f.fraction * 2 ^ (f.leastScale + k) = 2 ^ (f.fraction + (f.leastScale + k)) := by
      rw [← zpow_natCast, ← zpow_add₀ two_ne_zero]
    -- the place of the mantissa leaves it in its range
    have hm : m ≤ 2 * 2 ^ f.fraction := by
      have hlt : (num / den : ℚ) < 2 * 2 ^ f.fraction * 2 ^ (f.leastScale + k) := by
        refine hhigh.trans_le ?_
        rw [mul_assoc, hfraction, ← zpow_one_add₀ two_ne_zero]
        exact zpow_le_zpow_right₀ one_le_two (by omega)
      have := (mul_lt_mul_iff_left₀ hunit).1 (hhalved.below.trans_lt hlt)
      have : (m : ℚ) < (2 * 2 ^ f.fraction + 1 : Nat) := by push_cast; linarith
      exact Nat.lt_succ_iff.1 (by exact_mod_cast this)
    have hk : k = 0 ∨ 2 ^ f.fraction ≤ m ∧ (2 : ℚ) ^ f.fraction * 2 ^ (f.leastScale + k) ≤ num / den := by
      rcases Nat.eq_zero_or_pos k with hzero | hk
      · exact .inl hzero
      · have hle : (2 : ℚ) ^ f.fraction * 2 ^ (f.leastScale + k) ≤ num / den := by
          refine le_trans ?_ hlow
          rw [hfraction]
          exact zpow_le_zpow_right₀ one_le_two (by omega)
        refine .inr ⟨?_, hle⟩
        have := (mul_le_mul_iff_left₀ hunit).1 (hle.trans hhalved.above)
        have : ((2 ^ f.fraction : Nat) : ℚ) < (m + 1 : Nat) := by push_cast; linarith
        exact Nat.lt_succ_iff.1 (by exact_mod_cast this)
    obtain ⟨habove, hbelow⟩ := between_of_halved hf hm hk hhalved
    generalize k * 2 ^ f.fraction + m = bits at *
    rcases le_or_gt bits f.infinity with hle | hlt
    · rw [min_eq_left hle]
      exact rounds_of_middle hle (fun _ => habove) hbelow
    · rw [min_eq_right hlt.le]
      obtain ⟨b, rfl⟩ := Nat.exists_eq_add_one_of_ne_zero (Nat.ne_zero_of_lt hlt)
      refine rounds_of_middle le_rfl (fun h => absurd h (lt_irrefl _)) fun b' hb' => ?_
      have hmiddle := f.middle_strictMono (show b' < b by omega)
      have hle := (hbelow b rfl).1
      exact ⟨(hmiddle.trans_le hle).le, fun heq => absurd heq (hmiddle.trans_le hle).ne⟩

end Format
end BrokerClient.Number
