import BrokerClient.Text.Blank
import Mathlib.Data.List.DropRight
import Mathlib.Data.List.TakeWhile

/-!
# Pieces and ends of a text

What cutting a text apart means, without a procedure: the pieces between the separators are those that hold none and make
the text again when joined (`separated_iff`), the two sides of a separator those around its first occurrence
(`splitOnce_eq_some_iff`), and the core of a text is what is left between the blanks at its ends (`trimmed_iff`).
-/

namespace BrokerClient.Text

variable {sep : Char} {cs core : List Char} {pieces : List (List Char)}

/-! ## Separators -/

/-- The pieces of a text between the occurrences of a separator. -/
structure Separated (sep : Char) (cs : List Char) (pieces : List (List Char)) : Prop where
  ne_nil : pieces ≠ []
  free : ∀ p ∈ pieces, sep ∉ p
  joined : [sep].intercalate pieces = cs

theorem splitChars_eq_splitOn (sep : Char) (cs : List Char) : splitChars sep cs = cs.splitOn sep := by
  induction cs with
  | nil => rfl
  | cons c cs ih =>
    rw [splitChars, List.splitOn_cons_eq_if_modifyHead, ih]
    by_cases h : c = sep
    · simp [h]
    · cases hs : cs.splitOn sep with
      | nil => exact absurd hs (List.splitOn_ne_nil sep cs)
      | cons p ps => simp [h]

theorem not_mem_of_mem_splitChars : ∀ p ∈ splitChars sep cs, sep ∉ p := by
  induction cs with
  | nil => simp [splitChars]
  | cons c cs ih =>
    rw [splitChars]
    by_cases h : c = sep
    · simpa [h] using ih
    · cases hs : splitChars sep cs with
      | nil => exact absurd hs (splitChars_ne_nil sep cs)
      | cons p ps =>
        rw [hs] at ih
        simp only [if_neg h, List.forall_mem_cons] at ih ⊢
        exact ⟨by simpa [Ne.symm h] using ih.1, ih.2⟩

/-- **Cutting a text at its separators.** -/
theorem separated_iff : Separated sep cs pieces ↔ splitChars sep cs = pieces := by
  constructor
  · rintro ⟨hne, hfree, rfl⟩
    rw [splitChars_eq_splitOn, List.splitOn_intercalate sep hfree hne]
  · rintro rfl
    refine ⟨splitChars_ne_nil sep cs, not_mem_of_mem_splitChars, ?_⟩
    rw [splitChars_eq_splitOn, List.intercalate_splitOn]

/-- **Cutting a text at its first separator.** -/
theorem splitOnce_eq_some_iff {key value : List Char} :
    splitOnce sep cs = some (key, value) ↔ cs = key ++ sep :: value ∧ sep ∉ key := by
  unfold splitOnce
  constructor
  · intro h
    cases hrest : cs.dropWhile (· != sep) with
    | nil =>
      rw [hrest] at h
      cases h
    | cons c rest =>
      rw [hrest] at h
      cases h
      obtain rfl : c = sep := by simpa [hrest] using List.head?_dropWhile_not (· != sep) cs
      refine ⟨?_, fun hmem => by simpa using List.mem_takeWhile_imp hmem⟩
      rw [← hrest, List.takeWhile_append_dropWhile]
  · rintro ⟨rfl, hkey⟩
    have hpass : ∀ c ∈ key, (c != sep) = true := by
      intro c hc
      rw [bne_iff_ne]
      rintro rfl
      exact hkey hc
    rw [List.dropWhile_append_of_pos hpass, List.takeWhile_append_of_pos hpass]
    simp

/-! ## Blanks at the ends -/

/-- What is left of a text without the blanks at its ends. -/
structure Trimmed (cs core : List Char) : Prop where
  padded : ∃ l r, cs = l ++ (core ++ r) ∧ (∀ c ∈ l, isBlank c = true) ∧ ∀ c ∈ r, isBlank c = true
  first : ∀ c ∈ core.head?, isBlank c = false
  last : ∀ c ∈ core.getLast?, isBlank c = false

/-- What a loop over blanks passes over, and where it stops. -/
theorem dropWhile_append_of_stop {p : Char → Bool} {l rest : List Char} (hl : ∀ c ∈ l, p c = true)
    (hrest : ∀ c ∈ rest.head?, p c = false) : (l ++ rest).dropWhile p = rest := by
  rw [List.dropWhile_append_of_pos hl]
  cases rest with
  | nil => rfl
  | cons c rest => rw [List.dropWhile_cons_of_neg (by simp [hrest c rfl])]

/-- **Cutting the blanks from the ends of a text.** -/
theorem trimmed_iff : Trimmed cs core ↔ trimChars cs = core := by
  constructor
  · rintro ⟨⟨l, r, rfl, hl, hr⟩, hfirst, hlast⟩
    unfold trimChars
    cases core with
    | nil =>
      have hall : ∀ c ∈ l ++ r, isBlank c = true := List.forall_mem_append.2 ⟨hl, hr⟩
      rw [List.nil_append, List.dropWhile_eq_nil_iff.2 hall]
      rfl
    | cons c core =>
      rw [dropWhile_append_of_stop hl (by simpa using hfirst), List.reverse_append,
        dropWhile_append_of_stop (by simpa using hr) (by rwa [List.head?_reverse]), List.reverse_reverse]
  · rintro rfl
    have hstart : cs.takeWhile isBlank ++ cs.dropWhile isBlank = cs := List.takeWhile_append_dropWhile
    have hend : trimChars cs ++ (cs.dropWhile isBlank).rtakeWhile isBlank = cs.dropWhile isBlank :=
      List.rdropWhile_append_rtakeWhile
    refine ⟨⟨cs.takeWhile isBlank, (cs.dropWhile isBlank).rtakeWhile isBlank, ?_, fun c => List.mem_takeWhile_imp,
      fun c => List.mem_rtakeWhile_imp⟩, fun c hc => ?_, fun c hc => ?_⟩
    · rw [hend, hstart]
    · have hhead : (cs.dropWhile isBlank).head? = some c := by
        rw [← hend, List.head?_append, hc]
        rfl
      simpa [hhead] using List.head?_dropWhile_not isBlank cs
    · obtain ⟨hne, hc⟩ := List.mem_getLast?_eq_getLast hc
      rw [hc]
      exact eq_false_of_ne_true (List.rdropWhile_last_not isBlank (cs.dropWhile isBlank) hne)

end BrokerClient.Text
