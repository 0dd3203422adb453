import BrokerClient.Proofs.Encoding.Tables
import Mathlib.Data.Finset.Max
import Mathlib.Tactic.NormNum

/-!
# Weights by their decimals

A header gives its tokens decimals, and keeps them in single precision. So what it comes to is what its decimals come to
after rounding (`parse_of_decimals`): the limit, the place of 0 and the ranking are those of the decimals, except that
decimals just above 1 count as 1, the least ones as 0, and two that are rounded to one weight as equal.
-/

namespace BrokerClient

/-! ## The places of weights -/

namespace Weight

open Number (single)

variable {x y : ℚ} {w p : Weight}

theorem value_zero : single.value 0 = 0 := by simp [Number.Format.value, Number.Format.mantissa]

/-- The step from a pattern up to that of 1 to the next one. -/
theorem value_succ_le (hp : p ≤ one) : single.value (p + 1) ≤ single.value p + 1 / 2 ^ 23 ∧
    (p < one → single.value (p + 1) ≤ single.value p + 1 / 2 ^ 24) := by
  obtain ⟨k, m, rfl, hm, hk⟩ := single.exists_eq p
  have hplace (n : Nat) (h : k ≤ n) : (2 : ℚ) ^ (single.leastScale + k) ≤ 2 ^ (single.leastScale + n) :=
    zpow_le_zpow_right₀ one_le_two (by omega)
  rw [Number.Format.value_succ hm hk]
  rw [one_eq] at *
  change k * 2 ^ 23 + m ≤ 0x3f800000 at hp
  change k = 0 ∨ 2 ^ 23 ≤ m at hk
  constructor
  · have h := hplace 126 (by omega)
    norm_num [single, Number.Format.leastScale] at h ⊢
    exact h
  · intro hlt
    change k * 2 ^ 23 + m < 0x3f800000 at hlt
    have h := hplace 125 (by omega)
    norm_num [single, Number.Format.leastScale] at h ⊢
    exact h

theorem one_eq_places : one = 126 * 2 ^ single.fraction + 2 ^ 23 := one_eq

/-- Halfway to the pattern after that of 1. -/
theorem middle_one : single.middle one = 1 + 1 / 2 ^ 24 := by
  have hvalue := Number.Format.value_eq (f := single) (k := 126) (m := 2 ^ 23) (by decide) (by decide)
  have hnext := Number.Format.value_succ (f := single) (k := 126) (m := 2 ^ 23) (by decide) (by decide)
  rw [Number.Format.middle, one_eq_places, hnext, hvalue]
  norm_num [single, Number.Format.leastScale]

/-- Halfway from 0 to the next pattern. -/
theorem middle_zero : single.middle 0 = 1 / 2 ^ 150 := by
  have hnext := Number.Format.value_succ (f := single) (k := 0) (m := 0) (by decide) (by decide)
  rw [Nat.zero_mul, Nat.zero_add] at hnext
  rw [Number.Format.middle, hnext, value_zero]
  norm_num [single, Number.Format.leastScale]

theorem le_one_iff (h : single.Rounds x w) : w ≤ one ↔ x ≤ 1 + 1 / 2 ^ 24 :=
  middle_one ▸ h.le_iff (by decide +kernel) (by decide +kernel)

theorem pos_iff (h : single.Rounds x w) : 0 < w ↔ 1 / 2 ^ 150 < x := by
  have hzero : w ≤ 0 ↔ x ≤ 1 / 2 ^ 150 := middle_zero ▸ h.le_iff (by decide) (by decide)
  rw [← not_le, hzero, not_le]

/-- Numbers that are rounded to the same weight are near to each other. -/
theorem sub_le_of_rounds (hx : single.Rounds x w) (hy : single.Rounds y w) (hy0 : 0 ≤ y) (hw : w ≤ one) :
    x - y ≤ 3 / 2 ^ 25 := by
  have habove := hx.le_middle (hw.trans_lt (by decide +kernel))
  rcases Nat.eq_zero_or_pos w with rfl | hpos
  · rw [middle_zero] at habove
    norm_num at habove ⊢
    linarith
  · obtain ⟨p, rfl⟩ := Nat.exists_eq_add_one_of_ne_zero hpos.ne'
    have hbelow := hy.middle_le
    have hlast := (value_succ_le ((Nat.le_succ p).trans hw)).2 hw
    have hnext := (value_succ_le hw).1
    simp only [Number.Format.middle] at habove hbelow
    norm_num at habove hbelow hlast hnext ⊢
    linarith

end Weight

namespace Preference

/-- The entries of a header, all of the grammar: their tokens in lower case and the numbers that they give them. -/
def Spelled (header : String) (spelled : List (String × ℚ)) : Prop :=
  List.Forall₂ (fun entry s => ∃ token, s.1 = Text.Ascii.lower (String.ofList token) ∧ Spells entry token s.2)
    (entries header) spelled

/-- The greatest number that some entries give a token. -/
structure Greatest (spelled : List (String × ℚ)) (t : String) (x : ℚ) : Prop where
  given : (t, x) ∈ spelled
  le : ∀ y, (t, y) ∈ spelled → y ≤ x

/-- Preferences that have numbers rounded as their weights. -/
def Rounded (spelled : List (String × ℚ)) (ps : List Preference) : Prop :=
  List.Forall₂ (fun s p => p.token = s.1 ∧ Number.single.Rounds s.2 p.weight) spelled ps

variable {header : String} {spelled : List (String × ℚ)} {ps : List Preference} {entry token : List Char} {t : String}
  {x y : ℚ} {w : Weight} {p q : Preference}

/-! ## Entries -/

theorem Spells.nonneg (h : Spells entry token x) : 0 ≤ x := by
  cases h with
  | plain => exact zero_le_one
  | weighted _ _ _ hx =>
    rw [hx.eq_quotient]
    positivity

theorem Spells.exists_rounds (h : Spells entry token x) : ∃ w, Number.single.Rounds x w := by
  cases h with
  | plain => exact ⟨_, Weight.rounds_one⟩
  | weighted _ _ _ hx =>
    rw [hx.eq_quotient]
    exact ⟨_, Number.Format.rounds_nearest (by decide) _ (Number.decimalQuotient_pos _)⟩

/-- An entry with a weight, by what its parts are. -/
theorem spells_of_parts {num den : Nat} (first param key text : List Char)
    (hparts : Text.splitChars ';' entry = [first, param] ∧ Text.splitOnce '=' (Text.trimChars param) = some (key, text))
    (ht : Text.trimChars first = token ∧ isToken token = true)
    (hkey : Text.Ascii.sameLetters (String.ofList (Text.trimChars key)) "q" = true)
    (hvalue : isDecimal (Text.trimChars text) = true ∧ decimalQuotient (Text.trimChars text) = (num, den)) :
    Spells entry token (num / den) := by
  obtain ⟨hparam, hfree⟩ := Text.splitOnce_eq_some_iff.1 hparts.2
  obtain ⟨x, hx⟩ := Number.isDecimal_iff.1 hvalue.1
  have hsets : Sets param (Text.trimChars text) := ⟨key, text, Text.trimmed_iff.2 hparam, hfree,
    (sameLetters_q_iff.1 hkey).imp Text.trimmed_iff.2 Text.trimmed_iff.2, Text.trimmed_iff.2 rfl⟩
  have hquotient := hx.eq_quotient
  rw [hvalue.2] at hquotient
  exact hquotient ▸ .weighted (Text.separated_iff.2 hparts.1) ⟨Text.trimmed_iff.2 ht.1, isToken_iff.1 ht.2⟩ hsets hx

/-- An entry of the grammar fails for its weight only. -/
theorem parseEntry_of_spells (h : Spells entry token x) :
    (x ≤ 1 + 1 / 2 ^ 24 ∧ ∃ w, Number.single.Rounds x w ∧
      parseEntry entry = .ok ⟨Text.Ascii.lower (String.ofList token), w⟩) ∨
    (1 + 1 / 2 ^ 24 < x ∧ ∃ value, parseEntry entry = .error (.weightOutOfRange value)) := by
  obtain ⟨w, hw⟩ := h.exists_rounds
  rcases le_or_gt w Weight.one with hle | hlt
  · exact .inl ⟨(Weight.le_one_iff hw).1 hle, w, hw, parseEntry_of_grants ⟨token, x, w, h, hw, hle, rfl⟩⟩
  · refine .inr ⟨not_le.1 fun hx => not_le.2 hlt ((Weight.le_one_iff hw).2 hx), ?_⟩
    cases h with
    | plain => exact absurd (hw.unique Weight.rounds_one) hlt.ne'
    | weighted hparts ht hv hx => exact ⟨_, by rw [parseEntry_of_sets hparts ht hv hx hw, if_neg (not_le.2 hlt)]⟩

theorem parseEntry_eq_ok_of_spells (h : Spells entry token x) (hp : parseEntry entry = .ok p) :
    p.token = Text.Ascii.lower (String.ofList token) ∧ Number.single.Rounds x p.weight ∧ x ≤ 1 + 1 / 2 ^ 24 := by
  obtain ⟨hle, w, hw, hok⟩ | ⟨-, value, herror⟩ := parseEntry_of_spells h
  · obtain rfl := Except.ok.inj (hok.symm.trans hp)
    exact ⟨rfl, hw, hle⟩
  · cases herror.symm.trans hp

theorem parseEntry_eq_error_of_spells {err : EncodingError} (h : Spells entry token x)
    (herr : parseEntry entry = .error err) : (∃ value, err = .weightOutOfRange value) ∧ 1 + 1 / 2 ^ 24 < x := by
  obtain ⟨-, w, -, hok⟩ | ⟨hlt, value, herror⟩ := parseEntry_of_spells h
  · cases hok.symm.trans herr
  · exact ⟨⟨value, (Except.error.inj (herror.symm.trans herr)).symm⟩, hlt⟩

/-! ## Rounded weights -/

theorem Rounded.exists_of_spelled (h : Rounded spelled ps) (hx : (t, x) ∈ spelled) :
    ∃ p ∈ ps, p.token = t ∧ Number.single.Rounds x p.weight := exists_mem_of_forall₂ h hx

theorem Rounded.exists_of_mem (h : Rounded spelled ps) (hp : p ∈ ps) :
    ∃ x, (p.token, x) ∈ spelled ∧ Number.single.Rounds x p.weight := by
  obtain ⟨s, hs, ht, hround⟩ := exists_mem_of_forall₂ h.flip hp
  exact ⟨s.2, ht ▸ hs, hround⟩

theorem Rounded.tokens_eq (h : Rounded spelled ps) : ps.map (·.token) = spelled.map (·.1) := by
  induction h with
  | nil => rfl
  | cons hp _ ih => rw [List.map_cons, List.map_cons, hp.1, ih]

/-- The highest weight of a token is its greatest number rounded. -/
theorem Rounded.weight?_of_greatest (h : Rounded spelled ps) (hx : Greatest spelled t x) :
    ∃ w, weight? ps t = some w ∧ Number.single.Rounds x w := by
  obtain ⟨p, hp, rfl, hround⟩ := h.exists_of_spelled hx.given
  refine ⟨p.weight, weight?_eq_some_iff.2 ⟨⟨p, hp, rfl, rfl⟩, fun q hq ht => ?_⟩, hround⟩
  obtain ⟨y, hy, hq⟩ := h.exists_of_mem hq
  exact hq.mono hround (hx.le y (ht ▸ hy))

theorem exists_greatest (h : (t, x) ∈ spelled) : ∃ x, Greatest spelled t x := by
  obtain ⟨s, hs, hmax⟩ := (spelled.toFinset.filter (·.1 = t)).exists_max_image (·.2) ⟨(t, x), by simpa using h⟩
  simp only [Finset.mem_filter, List.mem_toFinset] at hs hmax
  exact ⟨s.2, by simpa [← hs.2] using hs.1, fun y hy => hmax (t, y) ⟨hy, rfl⟩⟩

end Preference

/-- Of two members of a list, one comes before the other. -/
theorem pair_sublist_or {α : Type} {a b : α} {l : List α} (ha : a ∈ l) (hb : b ∈ l) (hne : a ≠ b) :
    [a, b].Sublist l ∨ [b, a].Sublist l := by
  obtain ⟨before, after, rfl⟩ := List.append_of_mem ha
  rcases List.mem_append.1 hb with hb | hb
  · exact .inr ((List.singleton_sublist.2 hb).append (List.singleton_sublist.2 (List.mem_cons_self ..)))
  · have hb := (List.mem_cons.1 hb).resolve_left hne.symm
    exact .inl (((List.singleton_sublist.2 hb).cons_cons a).trans (List.sublist_append_right ..))

namespace Accept

open Preference

variable {header : String} {spelled : List (String × ℚ)} {ps : List Preference} {a : Accept} {t : String} {x y : ℚ}
  {p q : Preference}

/-! ## Rankings of rounded weights -/

theorem Ranked.acceptable_iff (ha : Ranked ps a) (h : Rounded spelled ps) :
    (∃ p ∈ a.acceptable, p.token = t) ↔ ∃ x, (t, x) ∈ spelled ∧ 1 / 2 ^ 150 < x := by
  constructor
  · rintro ⟨p, hp, rfl⟩
    obtain ⟨hweight, hpos⟩ := (ha.acceptable p).1 hp
    obtain ⟨⟨q, hq, hqt, hqw⟩, -⟩ := weight?_eq_some_iff.1 hweight
    obtain ⟨x, hx, hround⟩ := h.exists_of_mem hq
    exact ⟨x, hqt ▸ hx, (Weight.pos_iff hround).1 (hqw ▸ hpos)⟩
  · rintro ⟨x, hx, hlt⟩
    obtain ⟨p, hp, rfl, hround⟩ := h.exists_of_spelled hx
    have hpos := (Weight.pos_iff hround).2 hlt
    rcases ha.cover p hp with hzero | ⟨q, hq, hqt⟩
    · exact absurd (((ha.unacceptable _).1 hzero).2 p hp rfl) hpos.ne'
    · exact ⟨q, hq, hqt⟩

theorem Ranked.unacceptable_iff (ha : Ranked ps a) (h : Rounded spelled ps) :
    t ∈ a.unacceptable ↔ (∃ x, (t, x) ∈ spelled) ∧ ∀ x, (t, x) ∈ spelled → x ≤ 1 / 2 ^ 150 := by
  rw [ha.unacceptable]
  refine and_congr ⟨?_, ?_⟩ ⟨?_, ?_⟩
  · rintro ⟨p, hp, rfl⟩
    exact (h.exists_of_mem hp).imp fun x hx => hx.1
  · rintro ⟨x, hx⟩
    exact (h.exists_of_spelled hx).imp fun p hp => ⟨hp.1, hp.2.1⟩
  · intro hzero x hx
    obtain ⟨p, hp, ht, hround⟩ := h.exists_of_spelled hx
    exact not_lt.1 fun hlt => ((Weight.pos_iff hround).2 hlt).ne' (hzero p hp ht)
  · rintro hall p hp rfl
    obtain ⟨x, hx, hround⟩ := h.exists_of_mem hp
    exact Nat.eq_zero_of_not_pos fun hpos => not_lt.2 (hall x hx) ((Weight.pos_iff hround).1 hpos)

theorem Ranked.rounds_of_greatest (ha : Ranked ps a) (h : Rounded spelled ps) (hp : p ∈ a.acceptable)
    (hx : Greatest spelled p.token x) : Number.single.Rounds x p.weight := by
  obtain ⟨w, hw, hround⟩ := h.weight?_of_greatest hx
  rw [((ha.acceptable p).1 hp).1, Option.some_inj] at hw
  exact hw ▸ hround

theorem Ranked.exists_greatest (ha : Ranked ps a) (h : Rounded spelled ps) (hp : p ∈ a.acceptable) :
    ∃ x, Greatest spelled p.token x ∧ Number.single.Rounds x p.weight := by
  obtain ⟨y, hy, -⟩ := (ha.acceptable_iff h).1 ⟨p, hp, rfl⟩
  obtain ⟨x, hx⟩ := Preference.exists_greatest hy
  exact ⟨x, hx, ha.rounds_of_greatest h hp hx⟩

/-- The token of the greater number is ranked first, but if both are rounded to one weight the one that is named first. -/
theorem Ranked.first_of_lt (ha : Ranked ps a) (h : Rounded spelled ps) (hp : p ∈ a.acceptable) (hq : q ∈ a.acceptable)
    (hx : Greatest spelled p.token x) (hy : Greatest spelled q.token y) (hyx : y < x) :
    [p, q].Sublist a.acceptable ∨ p.weight = q.weight ∧
      (spelled.map (·.1)).idxOf q.token < (spelled.map (·.1)).idxOf p.token := by
  have hle := (ha.rounds_of_greatest h hq hy).mono (ha.rounds_of_greatest h hp hx) hyx.le
  have hne : p ≠ q := by
    rintro rfl
    exact (hy.le x hx.given).not_gt hyx
  rcases pair_sublist_or hp hq hne with hpq | hqp
  · exact .inl hpq
  · rcases List.pairwise_iff_forall_sublist.1 ha.order hqp with hlt | ⟨hweight, hplace⟩
    · exact absurd hlt (not_lt.2 hle)
    · rw [place, place, h.tokens_eq] at hplace
      exact .inr ⟨hweight, hplace⟩

/-! ## Headers -/

/-- A header of the grammar fails for a number above 1 only. -/
theorem parse_eq_error_of_spelled {err : EncodingError} (h : Spelled header spelled)
    (herr : parse header = .error err) :
    (∃ value, err = .weightOutOfRange value) ∧ ∃ s ∈ spelled, 1 + 1 / 2 ^ 24 < s.2 := by
  obtain ⟨before, entry, after, heq, -, hentry⟩ := mapM_eq_error_iff.1 (parse_eq_error_iff.1 herr)
  obtain ⟨s, hs, token, -, hspells⟩ := exists_mem_of_forall₂ h (heq ▸ List.mem_append_right _ (List.mem_cons_self ..))
  obtain ⟨hvalue, hlt⟩ := parseEntry_eq_error_of_spells hspells hentry
  exact ⟨hvalue, s, hs, hlt⟩

theorem parse_eq_ok_of_spelled (h : Spelled header spelled) (ha : parse header = .ok a) :
    (∀ s ∈ spelled, s.2 ≤ 1 + 1 / 2 ^ 24) ∧ ∃ ps, Rounded spelled ps ∧ Ranked ps a := by
  obtain ⟨ps, hps, -, hranked⟩ := ranked_of_parse ha
  have hboth := forall₂_of_common h (mapM_eq_ok_iff.1 hps)
  refine ⟨fun s hs => ?_, ps, hboth.imp fun s p hsp => ?_, hranked⟩
  · obtain ⟨p, -, entry, ⟨token, -, hspells⟩, hp⟩ := exists_mem_of_forall₂ hboth hs
    exact (parseEntry_eq_ok_of_spells hspells hp).2.2
  · obtain ⟨entry, ⟨token, ht, hspells⟩, hp⟩ := hsp
    obtain ⟨hpt, hround, -⟩ := parseEntry_eq_ok_of_spells hspells hp
    exact ⟨hpt.trans ht.symm, hround⟩

theorem exists_parse_of_spelled (h : Spelled header spelled) (hle : ∀ s ∈ spelled, s.2 ≤ 1 + 1 / 2 ^ 24) :
    ∃ a ps, parse header = .ok a ∧ Rounded spelled ps ∧ Ranked ps a := by
  cases hparse : parse header with
  | error err =>
    obtain ⟨-, s, hs, hlt⟩ := parse_eq_error_of_spelled h hparse
    exact absurd (hle s hs) (not_le.2 hlt)
  | ok a =>
    obtain ⟨-, ps, hrounded, hranked⟩ := parse_eq_ok_of_spelled h hparse
    exact ⟨a, ps, rfl, hrounded, hranked⟩

theorem weight_le_one_of_parse (ha : parse header = .ok a) (hp : p ∈ a.acceptable) : p.weight ≤ Weight.one := by
  obtain ⟨ps, hps, -, hranked⟩ := ranked_of_parse ha
  obtain ⟨⟨q, hq, -, hweight⟩, -⟩ := weight?_eq_some_iff.1 ((hranked.acceptable p).1 hp).1
  obtain ⟨entry, -, hentry⟩ := exists_of_mem_mapM hps hq
  obtain ⟨token, x, w, -, -, hle, rfl⟩ := parseEntry_eq_ok_iff.1 hentry
  exact hweight ▸ hle

/-- **Weights by their decimals.** Of a header in the grammar, a number above `1 + 2⁻²⁴` is out of range, and nothing else
is wrong with it; a token is acceptable when one of its numbers is above `2⁻¹⁵⁰`, and its weight is its greatest number in
single precision; and of two acceptable tokens that of the greater number is ranked first, but for numbers so near to each
other that they are rounded to one weight, where the token named first is. -/
theorem parse_of_decimals (h : Spelled header spelled) :
    ((∃ s ∈ spelled, 1 + 1 / 2 ^ 24 < s.2) ↔ ∃ value, parse header = .error (.weightOutOfRange value)) ∧
    ((∀ s ∈ spelled, s.2 ≤ 1 + 1 / 2 ^ 24) → ∃ a, parse header = .ok a ∧
      (∀ t, (∃ p ∈ a.acceptable, p.token = t) ↔ ∃ x, (t, x) ∈ spelled ∧ 1 / 2 ^ 150 < x) ∧
      (∀ t, t ∈ a.unacceptable ↔ (∃ x, (t, x) ∈ spelled) ∧ ∀ x, (t, x) ∈ spelled → x ≤ 1 / 2 ^ 150) ∧
      (∀ p ∈ a.acceptable, ∃ x, Greatest spelled p.token x ∧ Number.single.Rounds x p.weight) ∧
      ∀ p ∈ a.acceptable, ∀ q ∈ a.acceptable, ∀ x y, Greatest spelled p.token x → Greatest spelled q.token y → y < x →
        [p, q].Sublist a.acceptable ∨ p.weight = q.weight ∧ x - y ≤ 3 / 2 ^ 25 ∧
          (spelled.map (·.1)).idxOf q.token < (spelled.map (·.1)).idxOf p.token) := by
  refine ⟨⟨?_, ?_⟩, fun hle => ?_⟩
  · rintro ⟨s, hs, hlt⟩
    cases hparse : parse header with
    | ok a => exact absurd ((parse_eq_ok_of_spelled h hparse).1 s hs) (not_le.2 hlt)
    | error err =>
      obtain ⟨⟨value, rfl⟩, -⟩ := parse_eq_error_of_spelled h hparse
      exact ⟨value, rfl⟩
  · rintro ⟨value, hvalue⟩
    exact (parse_eq_error_of_spelled h hvalue).2
  · obtain ⟨a, ps, hparse, hrounded, hranked⟩ := exists_parse_of_spelled h hle
    refine ⟨a, hparse, fun t => hranked.acceptable_iff hrounded, fun t => hranked.unacceptable_iff hrounded,
      fun p hp => hranked.exists_greatest hrounded hp, fun p hp q hq x y hx hy hyx => ?_⟩
    refine (hranked.first_of_lt hrounded hp hq hx hy hyx).imp_right fun ⟨hweight, hplace⟩ => ⟨hweight, ?_, hplace⟩
    obtain ⟨s, hs, token, -, hspells⟩ := exists_mem_of_forall₂ h.flip hy.given
    exact Weight.sub_le_of_rounds (hranked.rounds_of_greatest hrounded hp hx)
      (hweight ▸ hranked.rounds_of_greatest hrounded hq hy) hspells.nonneg (weight_le_one_of_parse hparse hp)

/-- A token named twice, with the greater of its numbers just above that of another. -/
theorem parse_of_decimals_closeBy :
    Spelled "gzip;q=0.25, br;q=0.5, GZIP;q=0.500001" [("gzip", 25 / 100), ("br", 5 / 10), ("gzip", 500001 / 10 ^ 6)] ∧
      ∃ a, parse "gzip;q=0.25, br;q=0.5, GZIP;q=0.500001" = .ok a ∧
        ∃ p q : Preference, p.token = "gzip" ∧ q.token = "br" ∧ [p, q].Sublist a.acceptable := by
  have h : Spelled "gzip;q=0.25, br;q=0.5, GZIP;q=0.500001"
      [("gzip", 25 / 100), ("br", 5 / 10), ("gzip", 500001 / 10 ^ 6)] := by
    have hentries : entries "gzip;q=0.25, br;q=0.5, GZIP;q=0.500001" =
        ["gzip;q=0.25".toList, "br;q=0.5".toList, "GZIP;q=0.500001".toList] := by decide +kernel
    have hfirst : Spells "gzip;q=0.25".toList "gzip".toList ((25 : Nat) / (100 : Nat)) :=
      spells_of_parts "gzip".toList "q=0.25".toList "q".toList "0.25".toList (by decide +kernel) (by decide +kernel)
        (by decide +kernel) (by decide +kernel)
    have hsecond : Spells "br;q=0.5".toList "br".toList ((5 : Nat) / (10 : Nat)) :=
      spells_of_parts "br".toList "q=0.5".toList "q".toList "0.5".toList (by decide +kernel) (by decide +kernel)
        (by decide +kernel) (by decide +kernel)
    have hthird : Spells "GZIP;q=0.500001".toList "GZIP".toList ((500001 : Nat) / (10 ^ 6 : Nat)) :=
      spells_of_parts "GZIP".toList "q=0.500001".toList "q".toList "0.500001".toList (by decide +kernel)
        (by decide +kernel) (by decide +kernel) (by decide +kernel)
    push_cast at hfirst hsecond hthird
    rw [Spelled, hentries]
    exact .cons ⟨_, by decide +kernel, hfirst⟩ (.cons ⟨_, by decide +kernel, hsecond⟩
      (.cons ⟨_, by decide +kernel, hthird⟩ .nil))
  obtain ⟨-, hparse⟩ := parse_of_decimals h
  obtain ⟨a, ha, hacceptable, -, -, hfirst⟩ := hparse (by norm_num)
  obtain ⟨p, hp, hgzip⟩ := (hacceptable "gzip").2 ⟨500001 / 10 ^ 6, by simp, by norm_num⟩
  obtain ⟨q, hq, hbr⟩ := (hacceptable "br").2 ⟨5 / 10, by simp, by norm_num⟩
  have hgreatest :
      Greatest [("gzip", 25 / 100), ("br", 5 / 10), ("gzip", 500001 / 10 ^ 6)] p.token (500001 / 10 ^ 6) := by
    rw [hgzip]
    refine ⟨by simp, fun y hy => ?_⟩
    simp at hy
    rcases hy with rfl | rfl <;> norm_num
  have hother : Greatest [("gzip", 25 / 100), ("br", 5 / 10), ("gzip", 500001 / 10 ^ 6)] q.token (5 / 10) := by
    rw [hbr]
    refine ⟨by simp, fun y hy => ?_⟩
    simp at hy
    rw [hy]
  refine ⟨h, a, ha, p, q, hgzip, hbr, (hfirst p hp q hq _ _ hgreatest hother (by norm_num)).resolve_right ?_⟩
  rintro ⟨-, hnear, -⟩
  norm_num at hnear

/-- A decimal not far above 1, one not far above 0, and two that are near to each other: each is in the grammar, and none
is told from the weight that it is rounded to. -/
theorem rounded_away :
    (Spelled "gzip;q=1.00000005" [("gzip", 100000005 / 10 ^ 8)] ∧ (1 : ℚ) < 100000005 / 10 ^ 8 ∧
      ∃ a, parse "gzip;q=1.00000005" = .ok a) ∧
    (Spelled "gzip;q=0.0000000000000000000000000000000000000000000001" [("gzip", 1 / 10 ^ 46)] ∧
      ∃ a, parse "gzip;q=0.0000000000000000000000000000000000000000000001" = .ok a ∧
        ¬ ∃ p ∈ a.acceptable, p.token = "gzip") ∧
    (Spelled "gzip;q=0.5, br;q=0.50000001" [("gzip", 5 / 10), ("br", 50000001 / 10 ^ 8)] ∧
      ∃ a, parse "gzip;q=0.5, br;q=0.50000001" = .ok a ∧
        [⟨"gzip", 0x3f000000⟩, ⟨"br", 0x3f000000⟩].Sublist a.acceptable ∧
        ¬ [⟨"br", 0x3f000000⟩, ⟨"gzip", 0x3f000000⟩].Sublist a.acceptable) := by
  have hone : Spelled "gzip;q=1.00000005" [("gzip", 100000005 / 10 ^ 8)] := by
    have hentries : entries "gzip;q=1.00000005" = ["gzip;q=1.00000005".toList] := by decide +kernel
    have hspells : Spells "gzip;q=1.00000005".toList "gzip".toList ((100000005 : Nat) / (10 ^ 8 : Nat)) :=
      spells_of_parts "gzip".toList "q=1.00000005".toList "q".toList "1.00000005".toList (by decide +kernel)
        (by decide +kernel) (by decide +kernel) (by decide +kernel)
    push_cast at hspells
    rw [Spelled, hentries]
    exact .cons ⟨_, by decide +kernel, hspells⟩ .nil
  have hzero : Spelled "gzip;q=0.0000000000000000000000000000000000000000000001" [("gzip", 1 / 10 ^ 46)] := by
    have hentries : entries "gzip;q=0.0000000000000000000000000000000000000000000001" =
        ["gzip;q=0.0000000000000000000000000000000000000000000001".toList] := by decide +kernel
    have hspells : Spells "gzip;q=0.0000000000000000000000000000000000000000000001".toList "gzip".toList
        ((1 : Nat) / (10 ^ 46 : Nat)) :=
      spells_of_parts "gzip".toList "q=0.0000000000000000000000000000000000000000000001".toList "q".toList
        "0.0000000000000000000000000000000000000000000001".toList (by decide +kernel) (by decide +kernel)
        (by decide +kernel) (by decide +kernel)
    push_cast at hspells
    rw [Spelled, hentries]
    exact .cons ⟨_, by decide +kernel, hspells⟩ .nil
  have htied : Spelled "gzip;q=0.5, br;q=0.50000001" [("gzip", 5 / 10), ("br", 50000001 / 10 ^ 8)] := by
    have hentries : entries "gzip;q=0.5, br;q=0.50000001" = ["gzip;q=0.5".toList, "br;q=0.50000001".toList] := by
      decide +kernel
    have hgzip : Spells "gzip;q=0.5".toList "gzip".toList ((5 : Nat) / (10 : Nat)) :=
      spells_of_parts "gzip".toList "q=0.5".toList "q".toList "0.5".toList (by decide +kernel) (by decide +kernel)
        (by decide +kernel) (by decide +kernel)
    have hbr : Spells "br;q=0.50000001".toList "br".toList ((50000001 : Nat) / (10 ^ 8 : Nat)) :=
      spells_of_parts "br".toList "q=0.50000001".toList "q".toList "0.50000001".toList (by decide +kernel)
        (by decide +kernel) (by decide +kernel) (by decide +kernel)
    push_cast at hgzip hbr
    rw [Spelled, hentries]
    exact .cons ⟨_, by decide +kernel, hgzip⟩ (.cons ⟨_, by decide +kernel, hbr⟩ .nil)
  refine ⟨⟨hone, by norm_num, ?_⟩, ⟨hzero, ?_⟩, ⟨htied, ?_⟩⟩
  · obtain ⟨a, -, ha, -⟩ := exists_parse_of_spelled hone (by norm_num)
    exact ⟨a, ha⟩
  · obtain ⟨a, ps, ha, hrounded, hranked⟩ := exists_parse_of_spelled hzero (by norm_num)
    refine ⟨a, ha, ?_⟩
    rw [hranked.acceptable_iff hrounded]
    norm_num
  · let listed : List Preference := [⟨"gzip", 0x3f000000⟩, ⟨"br", 0x3f000000⟩]
    have hlisted : (entries "gzip;q=0.5, br;q=0.50000001").mapM parseEntry = .ok listed := by decide +kernel
    obtain ⟨a, ha⟩ := exists_parse_iff.2 (exists_mapM_eq_ok_iff.1 ⟨_, hlisted⟩)
    obtain ⟨ps, hps, -, hranked⟩ := ranked_of_parse ha
    obtain rfl : listed = ps := Except.ok.inj (hlisted.symm.trans hps)
    have hbehind : ¬ [⟨"br", 0x3f000000⟩, ⟨"gzip", 0x3f000000⟩].Sublist a.acceptable := fun h =>
      absurd (List.pairwise_iff_forall_sublist.1 hranked.order h) (by unfold Outranks; decide)
    have hgzip : ⟨"gzip", 0x3f000000⟩ ∈ a.acceptable := (hranked.acceptable _).2 (by decide)
    have hbr : ⟨"br", 0x3f000000⟩ ∈ a.acceptable := (hranked.acceptable _).2 (by decide)
    exact ⟨a, ha, (pair_sublist_or hgzip hbr (by decide)).resolve_right hbehind, hbehind⟩

end Accept
end BrokerClient
