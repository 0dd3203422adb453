import BrokerClient.Encoding.Preference
import BrokerClient.Proofs.Number.Decimal
import BrokerClient.Proofs.Number.Rounding
import BrokerClient.Proofs.Text.Pieces
import Mathlib.Data.List.Forall2
import Mathlib.Data.String.Basic

/-!
# The grammar of preference lists

A header is made of pieces between commas, a piece that is not blank of parts between semicolons: a token and at most one
parameter, which sets a weight. What the entries of the grammar are is said without a procedure (`Spells`, `Grants`), and
so is what is wrong with a text that is none (`Refuses`). Parsing accepts the headers of the grammar and no others, and
refuses every other header for the first part of the first piece that is at fault (`parse_iff_grammar`).
-/

namespace BrokerClient

/-! ## Loops that may fail -/

section Loops

variable {ε α β : Type} {f : α → Except ε β}

/-- A loop succeeds when all its items do. -/
theorem mapM_eq_ok_iff {xs : List α} {ys : List β} :
    xs.mapM f = .ok ys ↔ List.Forall₂ (fun x y => f x = .ok y) xs ys := by
  constructor
  · intro h
    induction xs generalizing ys with
    | nil =>
      cases h
      exact .nil
    | cons x xs ih =>
      rw [List.mapM_cons] at h
      cases hx : f x with
      | error e => rw [hx] at h; cases h
      | ok y =>
        cases hxs : xs.mapM f with
        | error e => rw [hx, hxs] at h; cases h
        | ok zs =>
          rw [hx, hxs] at h
          cases h
          exact .cons hx (ih hxs)
  · intro h
    induction h with
    | nil => rfl
    | cons hx _ ih =>
      rw [List.mapM_cons, hx, ih]
      rfl

theorem exists_mapM_eq_ok_iff {xs : List α} : (∃ ys, xs.mapM f = .ok ys) ↔ ∀ x ∈ xs, ∃ y, f x = .ok y := by
  induction xs with
  | nil => exact ⟨fun _ => List.forall_mem_nil _, fun _ => ⟨[], rfl⟩⟩
  | cons x xs ih =>
    rw [List.forall_mem_cons, ← ih]
    simp only [mapM_eq_ok_iff, List.forall₂_cons_left_iff]
    constructor
    · rintro ⟨_, y, ys, hy, hys, rfl⟩
      exact ⟨⟨y, hy⟩, ys, hys⟩
    · rintro ⟨⟨y, hy⟩, ys, hys⟩
      exact ⟨y :: ys, y, ys, hy, hys, rfl⟩

/-- A loop fails for the first item that does. -/
theorem mapM_eq_error_iff {xs : List α} {e : ε} : xs.mapM f = .error e ↔
    ∃ before x after, xs = before ++ x :: after ∧ (∀ y ∈ before, ∃ z, f y = .ok z) ∧ f x = .error e := by
  constructor
  · intro h
    induction xs with
    | nil => cases h
    | cons x xs ih =>
      rw [List.mapM_cons] at h
      cases hx : f x with
      | error e' =>
        rw [hx] at h
        cases h
        exact ⟨[], x, xs, rfl, nofun, hx⟩
      | ok y =>
        cases hxs : xs.mapM f with
        | error e' =>
          rw [hx, hxs] at h
          cases h
          obtain ⟨before, x', after, rfl, hbefore, hx'⟩ := ih hxs
          exact ⟨x :: before, x', after, rfl, List.forall_mem_cons.2 ⟨⟨y, hx⟩, hbefore⟩, hx'⟩
        | ok ys => rw [hx, hxs] at h; cases h
  · rintro ⟨before, x, after, rfl, hbefore, hx⟩
    induction before with
    | nil =>
      rw [List.nil_append, List.mapM_cons, hx]
      rfl
    | cons y before ih =>
      obtain ⟨⟨z, hz⟩, hbefore⟩ := List.forall_mem_cons.1 hbefore
      rw [List.cons_append, List.mapM_cons, hz, ih hbefore]
      rfl

/-- A member of one of two lists that agree item by item has its counterpart in the other. -/
theorem exists_mem_of_forall₂ {R : α → β → Prop} {xs : List α} {ys : List β} (h : List.Forall₂ R xs ys) {x : α}
    (hx : x ∈ xs) : ∃ y ∈ ys, R x y := by
  induction h with
  | nil => cases hx
  | cons hxy _ ih =>
    rcases List.mem_cons.1 hx with rfl | hx
    · exact ⟨_, List.mem_cons_self .., hxy⟩
    · exact (ih hx).imp fun y hy => ⟨List.mem_cons_of_mem _ hy.1, hy.2⟩

/-- Two lists that agree with a third one item by item. -/
theorem forall₂_of_common {γ : Type} {R : α → β → Prop} {S : α → γ → Prop} {xs : List α} {ys : List β} {zs : List γ}
    (hy : List.Forall₂ R xs ys) (hz : List.Forall₂ S xs zs) : List.Forall₂ (fun y z => ∃ x, R x y ∧ S x z) ys zs := by
  induction hy generalizing zs with
  | nil =>
    cases hz
    exact .nil
  | cons hxy _ ih =>
    cases hz with
    | cons hxz hz => exact .cons ⟨_, hxy, hxz⟩ (ih hz)

end Loops

/-! ## Weights -/

theorem Weight.one_eq : Weight.one = 0x3f800000 := by decide +kernel

/-- The pattern of the full weight stands for 1. -/
theorem Weight.rounds_one : Number.single.Rounds 1 Weight.one := by
  have h := Number.Format.rounds_nearest (f := Number.single) (by decide) 1 Nat.one_pos
  rwa [Nat.cast_one, div_one] at h

namespace Preference

/-! ## Entries -/

/-- A text of letters, digits and the five marks that may stand in a token. -/
structure TokenText (cs : List Char) : Prop where
  ne_nil : cs ≠ []
  chars : ∀ c ∈ cs, c.isAlphanum = true ∨ c ∈ ['-', '_', '.', '+', '*']

/-- A part that is a token. -/
structure Names (part token : List Char) : Prop where
  trimmed : Text.Trimmed part token
  text : TokenText token

/-- A parameter that sets the weight: `q`, in either case, an equals sign and a value. -/
def Sets (param value : List Char) : Prop :=
  ∃ key text, Text.Trimmed param (key ++ '=' :: text) ∧ '=' ∉ key ∧ (Text.Trimmed key ['q'] ∨ Text.Trimmed key ['Q']) ∧
    Text.Trimmed text value

/-- An entry of the grammar, with its token and the number that it gives as its weight, 1 if it gives none. -/
inductive Spells (entry : List Char) : List Char → ℚ → Prop
  | plain {first token : List Char} (hparts : Text.Separated ';' entry [first]) (ht : Names first token) :
    Spells entry token 1
  | weighted {first param token value : List Char} {x : ℚ} (hparts : Text.Separated ';' entry [first, param])
    (ht : Names first token) (hv : Sets param value) (hx : Number.DecimalText value x) : Spells entry token x

/-- An entry that stands for a preference: its number is rounded to the weight, which is not above 1. -/
def Grants (entry : List Char) (p : Preference) : Prop :=
  ∃ token x w, Spells entry token x ∧ Number.single.Rounds x w ∧ w ≤ Weight.one ∧
    p = ⟨Text.Ascii.lower (String.ofList token), w⟩

/-- What is wrong with the parts of an entry: the first part at fault decides. -/
inductive Refuses (entry : List Char) : List (List Char) → EncodingError → Prop
  /-- There is no token. -/
  | token {first : List Char} {params : List (List Char)} (h : ∀ token, ¬ Names first token) :
    Refuses entry (first :: params) (.malformed (String.ofList entry))
  /-- The parameter does not set the weight, or not to a decimal. -/
  | parameter {first param token : List Char} {rest : List (List Char)} (ht : Names first token)
    (h : ∀ value x, Sets param value → ¬ Number.DecimalText value x) :
    Refuses entry (first :: param :: rest) (.malformed (String.ofList entry))
  /-- The weight is too great. -/
  | weight {first param token value : List Char} {rest : List (List Char)} {x : ℚ} {w : Weight} (ht : Names first token)
    (hv : Sets param value) (hx : Number.DecimalText value x) (hw : Number.single.Rounds x w) (h : Weight.one < w) :
    Refuses entry (first :: param :: rest) (.weightOutOfRange (String.ofList value))
  /-- There is another parameter. -/
  | another {first param more token value : List Char} {rest : List (List Char)} {x : ℚ} {w : Weight}
    (ht : Names first token) (hv : Sets param value) (hx : Number.DecimalText value x) (hw : Number.single.Rounds x w)
    (h : w ≤ Weight.one) : Refuses entry (first :: param :: more :: rest) (.malformed (String.ofList entry))

/-- A piece of a header that is blank or holds an entry that stands for a preference. -/
def Accepted (piece : List Char) : Prop := ∃ entry, Text.Trimmed piece entry ∧ (entry = [] ∨ ∃ p, Grants entry p)

variable {entry first param token value : List Char} {params : List (List Char)} {x : ℚ} {w : Weight} {p : Preference}
  {err : EncodingError}

theorem isToken_iff {cs : List Char} : isToken cs = true ↔ TokenText cs := by
  have hchar (c : Char) : isTokenChar c = true ↔ c.isAlphanum = true ∨ c ∈ ['-', '_', '.', '+', '*'] := by
    simp [isTokenChar, Text.Ascii.isAlphanumeric_eq, or_assoc]
  simp only [isToken, Bool.and_eq_true, Bool.not_eq_true', List.isEmpty_eq_false_iff, List.all_eq_true, hchar]
  exact ⟨fun h => ⟨h.1, h.2⟩, fun h => ⟨h.1, h.2⟩⟩

/-! ## One parameter -/

theorem sameLetters_q_iff {key : List Char} :
    Text.Ascii.sameLetters (String.ofList key) "q" = true ↔ key = ['q'] ∨ key = ['Q'] := by
  have hcapital : ∀ n < 91, Text.Ascii.lowerChar (Char.ofNat n) = 'q' → Char.ofNat n = 'Q' := by decide
  have hchar (c : Char) : Text.Ascii.lowerChar c = 'q' ↔ c = 'q' ∨ c = 'Q' := by
    constructor
    · intro h
      by_cases hc : 'A' ≤ c ∧ c ≤ 'Z'
      · have hlt : c.toNat < 91 := Nat.lt_succ_of_le hc.2
        rw [← Char.ofNat_toNat c] at h ⊢
        exact .inr (hcapital c.toNat hlt h)
      · rw [Text.Ascii.lowerChar, if_neg hc] at h
        exact .inl h
    · rintro (rfl | rfl) <;> decide
  rw [Text.Ascii.sameLetters, beq_iff_eq, Text.Ascii.lower, Text.Ascii.lower, ← String.toList_inj, String.toList_map,
    String.toList_map, String.toList_ofList]
  have hq : "q".toList.map Text.Ascii.lowerChar = ['q'] := by decide
  rw [hq, List.map_eq_singleton_iff]
  constructor
  · rintro ⟨c, rfl, hc⟩
    exact ((hchar c).1 hc).imp (by rintro rfl; rfl) (by rintro rfl; rfl)
  · rintro (rfl | rfl)
    · exact ⟨'q', rfl, by decide⟩
    · exact ⟨'Q', rfl, by decide⟩

/-- A decimal is a weight as far as it is not above 1. -/
theorem parseWeight_of_decimal (entry : List Char) (hx : Number.DecimalText value x) (hw : Number.single.Rounds x w) :
    parseWeight entry value =
      if w ≤ Weight.one then .ok w else .error (.weightOutOfRange (String.ofList value)) := by
  have hrounds := Number.Format.rounds_nearest (f := Number.single) (by decide) (decimalQuotient value).1
    (Number.decimalQuotient_pos value)
  rw [← hx.eq_quotient] at hrounds
  rw [parseWeight, if_pos (Number.isDecimal_iff.2 ⟨x, hx⟩), hw.unique hrounds]

theorem parseWeight_of_not_decimal (entry : List Char) (h : ∀ x, ¬ Number.DecimalText value x) :
    parseWeight entry value = .error (.malformed (String.ofList entry)) := by
  rw [parseWeight, if_neg]
  rintro hd
  obtain ⟨x, hx⟩ := Number.isDecimal_iff.1 hd
  exact h x hx

theorem parseParameter_of_sets (entry : List Char) (hv : Sets param value) :
    parseParameter entry none (Text.trimChars param) = some <$> parseWeight entry value := by
  obtain ⟨key, text, hparam, hfree, hkey, htext⟩ := hv
  have hq : Text.Ascii.sameLetters (String.ofList (Text.trimChars key)) "q" = true :=
    sameLetters_q_iff.2 (hkey.imp Text.trimmed_iff.1 Text.trimmed_iff.1)
  rw [parseParameter, Text.trimmed_iff.1 hparam, Text.splitOnce_eq_some_iff.2 ⟨rfl, hfree⟩]
  simp [hq, Text.trimmed_iff.1 htext]

theorem parseParameter_of_not_sets (entry : List Char) (h : ∀ value x, Sets param value → ¬ Number.DecimalText value x) :
    parseParameter entry none (Text.trimChars param) = .error (.malformed (String.ofList entry)) := by
  unfold parseParameter
  cases hsplit : Text.splitOnce '=' (Text.trimChars param) with
  | none => rfl
  | some sides =>
    obtain ⟨key, text⟩ := sides
    obtain ⟨hparam, hfree⟩ := Text.splitOnce_eq_some_iff.1 hsplit
    by_cases hq : Text.Ascii.sameLetters (String.ofList (Text.trimChars key)) "q" = true
    · have hsets : Sets param (Text.trimChars text) :=
        ⟨key, text, Text.trimmed_iff.2 hparam, hfree,
          (sameLetters_q_iff.1 hq).imp Text.trimmed_iff.2 Text.trimmed_iff.2, Text.trimmed_iff.2 rfl⟩
      simp only [hq, Option.isNone_none, Bool.and_self, if_true,
        parseWeight_of_not_decimal entry fun x => h _ x hsets]
      rfl
    · simp [hq]

/-- A second parameter is one too many. -/
theorem parseParameter_some (entry : List Char) (w : Weight) (part : List Char) :
    parseParameter entry (some w) part = .error (.malformed (String.ofList entry)) := by
  unfold parseParameter
  split
  · rfl
  · simp

/-! ## One entry -/

/-- With a token, an entry is what its parameters make of it. -/
theorem parseEntry_of_names (hparts : Text.Separated ';' entry (first :: params)) (ht : Names first token) :
    parseEntry entry = (params.map Text.trimChars).foldlM (parseParameter entry) none >>= fun weight =>
      .ok ⟨Text.Ascii.lower (String.ofList token), weight.getD Weight.one⟩ := by
  rw [parseEntry, Text.separated_iff.1 hparts]
  simp only [List.map_cons, Text.trimmed_iff.1 ht.trimmed, isToken_iff.2 ht.text, if_true]
  rfl

/-- With a token and a weight, an entry fails if the weight is too great or more follows. -/
theorem parseEntry_of_sets (hparts : Text.Separated ';' entry (first :: param :: params)) (ht : Names first token)
    (hv : Sets param value) (hx : Number.DecimalText value x) (hw : Number.single.Rounds x w) :
    parseEntry entry =
      if w ≤ Weight.one then
        if params = [] then .ok ⟨Text.Ascii.lower (String.ofList token), w⟩ else .error (.malformed (String.ofList entry))
      else .error (.weightOutOfRange (String.ofList value)) := by
  rw [parseEntry_of_names hparts ht, List.map_cons, List.foldlM_cons, parseParameter_of_sets entry hv,
    parseWeight_of_decimal entry hx hw]
  split
  · cases params with
    | nil => rfl
    | cons more params =>
      rw [if_neg (by simp)]
      show ((more :: params).map Text.trimChars).foldlM (parseParameter entry) (some w) >>= _ = _
      rw [List.map_cons, List.foldlM_cons, parseParameter_some]
      rfl
  · rfl

/-- An entry of the grammar is a preference as far as its weight is not too great. -/
theorem parseEntry_of_grants (h : Grants entry p) : parseEntry entry = .ok p := by
  obtain ⟨token, x, w, hspells, hw, hle, rfl⟩ := h
  cases hspells with
  | plain hparts ht =>
    rw [parseEntry_of_names hparts ht, hw.unique Weight.rounds_one]
    rfl
  | weighted hparts ht hv hx => rw [parseEntry_of_sets hparts ht hv hx hw, if_pos hle, if_pos rfl]

theorem parseEntry_of_refuses {parts : List (List Char)} (hparts : Text.Separated ';' entry parts)
    (h : Refuses entry parts err) : parseEntry entry = .error err := by
  cases h with
  | @token first params h =>
    have htoken : ¬ isToken (Text.trimChars first) = true := fun ht => h _ ⟨Text.trimmed_iff.2 rfl, isToken_iff.1 ht⟩
    rw [parseEntry, Text.separated_iff.1 hparts]
    simp only [List.map_cons, if_neg htoken]
  | parameter ht h =>
    rw [parseEntry_of_names hparts ht, List.map_cons, List.foldlM_cons, parseParameter_of_not_sets entry h]
    rfl
  | weight ht hv hx hw h => rw [parseEntry_of_sets hparts ht hv hx hw, if_neg (not_le.2 h)]
  | another ht hv hx hw h => rw [parseEntry_of_sets hparts ht hv hx hw, if_pos h, if_neg (by simp)]

/-- A text is an entry of the grammar, or there is a first part at fault. -/
theorem grants_or_refuses (entry : List Char) :
    (∃ p, Grants entry p) ∨ ∃ parts err, Text.Separated ';' entry parts ∧ Refuses entry parts err := by
  have hparts : Text.Separated ';' entry (Text.splitChars ';' entry) := Text.separated_iff.2 rfl
  obtain ⟨first, params, hsplit⟩ := List.exists_cons_of_ne_nil hparts.ne_nil
  rw [hsplit] at hparts
  by_cases ht : ∃ token, Names first token
  · obtain ⟨token, ht⟩ := ht
    cases params with
    | nil => exact .inl ⟨_, token, 1, Weight.one, .plain hparts ht, Weight.rounds_one, le_rfl, rfl⟩
    | cons param rest =>
      by_cases hv : ∃ value x, Sets param value ∧ Number.DecimalText value x
      · obtain ⟨value, x, hv, hx⟩ := hv
        obtain ⟨w, hw⟩ : ∃ w, Number.single.Rounds x w :=
          ⟨_, hx.eq_quotient ▸ Number.Format.rounds_nearest (by decide) _ (Number.decimalQuotient_pos value)⟩
        rcases le_or_gt w Weight.one with hle | hlt
        · cases rest with
          | nil => exact .inl ⟨_, token, x, w, .weighted hparts ht hv hx, hw, hle, rfl⟩
          | cons more rest => exact .inr ⟨_, _, hparts, .another ht hv hx hw hle⟩
        · exact .inr ⟨_, _, hparts, .weight ht hv hx hw hlt⟩
      · exact .inr ⟨_, _, hparts, .parameter ht fun value x hs hd => hv ⟨value, x, hs, hd⟩⟩
  · exact .inr ⟨_, _, hparts, .token fun token h => ht ⟨token, h⟩⟩

theorem parseEntry_eq_ok_iff : parseEntry entry = .ok p ↔ Grants entry p := by
  refine ⟨fun h => ?_, parseEntry_of_grants⟩
  rcases grants_or_refuses entry with ⟨q, hq⟩ | ⟨parts, err, hparts, hr⟩
  · rw [parseEntry_of_grants hq] at h
    cases h
    exact hq
  · rw [parseEntry_of_refuses hparts hr] at h
    cases h

theorem parseEntry_eq_error_iff :
    parseEntry entry = .error err ↔ ∃ parts, Text.Separated ';' entry parts ∧ Refuses entry parts err := by
  refine ⟨fun h => ?_, fun ⟨parts, hparts, hr⟩ => parseEntry_of_refuses hparts hr⟩
  rcases grants_or_refuses entry with ⟨q, hq⟩ | ⟨parts, err', hparts, hr⟩
  · rw [parseEntry_of_grants hq] at h
    cases h
  · rw [parseEntry_of_refuses hparts hr] at h
    cases h
    exact ⟨parts, hparts, hr⟩

/-! ## Pieces -/

variable {header : String} {pieces : List (List Char)} {piece : List Char}

theorem accepted_iff : Accepted piece ↔ Text.trimChars piece = [] ∨ ∃ p, Grants (Text.trimChars piece) p := by
  constructor
  · rintro ⟨entry, hentry, h⟩
    rwa [Text.trimmed_iff.1 hentry]
  · exact fun h => ⟨_, Text.trimmed_iff.2 rfl, h⟩

theorem entries_eq (h : Text.Separated ',' header.toList pieces) :
    entries header = (pieces.map Text.trimChars).filter (!·.isEmpty) := by
  rw [entries, Text.separated_iff.1 h]

/-- The entries of accepted pieces stand for preferences. -/
theorem forall_accepted_iff :
    (∀ piece ∈ pieces, Accepted piece) ↔
      ∀ entry ∈ (pieces.map Text.trimChars).filter (!·.isEmpty), ∃ p, parseEntry entry = .ok p := by
  simp only [accepted_iff, parseEntry_eq_ok_iff, List.mem_filter, List.mem_map, Bool.not_eq_true', List.isEmpty_eq_false_iff]
  constructor
  · rintro hall _ ⟨⟨piece, hpiece, rfl⟩, hne⟩
    exact (hall piece hpiece).resolve_left hne
  · intro hall piece hpiece
    by_cases hblank : Text.trimChars piece = []
    · exact .inl hblank
    · exact .inr (hall _ ⟨⟨piece, hpiece, rfl⟩, hblank⟩)

/-- An entry in its place: its piece, with the entries of the pieces before it. -/
theorem filter_trimmed_eq_iff {earlier later : List (List Char)} {entry : List Char} :
    (pieces.map Text.trimChars).filter (!·.isEmpty) = earlier ++ entry :: later ↔
      ∃ before piece after, pieces = before ++ piece :: after ∧ Text.trimChars piece = entry ∧ entry ≠ [] ∧
        (before.map Text.trimChars).filter (!·.isEmpty) = earlier ∧
        (after.map Text.trimChars).filter (!·.isEmpty) = later := by
  constructor
  · intro h
    obtain ⟨heads, tails, hsplit, hheads, htails⟩ := List.filter_eq_append_iff.1 h
    obtain ⟨blanks, rest, rfl, hblanks, hne, hrest⟩ := List.filter_eq_cons_iff.1 htails
    rw [← List.append_assoc] at hsplit
    obtain ⟨before, others, rfl, hbefore, hothers⟩ := List.map_eq_append_iff.1 hsplit
    obtain ⟨piece, after, rfl, rfl, rfl⟩ := List.map_eq_cons_iff.1 hothers
    refine ⟨before, piece, after, rfl, rfl, by simpa using hne, ?_, hrest⟩
    rw [hbefore, List.filter_append, hheads, List.filter_eq_nil_iff.2 hblanks, List.append_nil]
  · rintro ⟨before, piece, after, rfl, rfl, hne, rfl, rfl⟩
    simp [hne]

end Preference

/-! ## Headers -/

namespace Accept

open Preference

variable {header : String}

theorem exists_parse_iff : (∃ a, parse header = .ok a) ↔ ∀ entry ∈ entries header, ∃ p, parseEntry entry = .ok p := by
  rw [← exists_mapM_eq_ok_iff]
  unfold parse
  cases (entries header).mapM parseEntry with
  | error e => exact ⟨fun ⟨_, h⟩ => (by cases h), fun ⟨_, h⟩ => (by cases h)⟩
  | ok ps => exact ⟨fun _ => ⟨ps, rfl⟩, fun _ => ⟨_, rfl⟩⟩

theorem parse_eq_error_iff {err : EncodingError} :
    parse header = .error err ↔ (entries header).mapM parseEntry = .error err := by
  unfold parse
  cases (entries header).mapM parseEntry with
  | error e => exact ⟨fun h => (by cases h; rfl), fun h => (by cases h; rfl)⟩
  | ok ps => exact ⟨fun h => (by cases h), fun h => (by cases h)⟩

/-- **The grammar of headers.** Every text is parsed if all its pieces are blank or in the grammar, and is refused
otherwise, for the first part at fault of the first piece that is not. -/
theorem parse_iff_grammar (header : String) :
    ((∃ a, parse header = .ok a) ↔
      ∃ pieces, Text.Separated ',' header.toList pieces ∧ ∀ piece ∈ pieces, Accepted piece) ∧
    ∀ err, parse header = .error err ↔
      ∃ before piece after entry parts, Text.Separated ',' header.toList (before ++ piece :: after) ∧
        (∀ earlier ∈ before, Accepted earlier) ∧ Text.Trimmed piece entry ∧ entry ≠ [] ∧
        Text.Separated ';' entry parts ∧ Refuses entry parts err := by
  have hpieces : Text.Separated ',' header.toList (Text.splitChars ',' header.toList) := Text.separated_iff.2 rfl
  refine ⟨?_, fun err => ?_⟩
  · rw [exists_parse_iff]
    constructor
    · intro h
      exact ⟨_, hpieces, forall_accepted_iff.2 (entries_eq hpieces ▸ h)⟩
    · rintro ⟨pieces, hpieces, h⟩
      exact entries_eq hpieces ▸ forall_accepted_iff.1 h
  · rw [parse_eq_error_iff, mapM_eq_error_iff]
    constructor
    · rintro ⟨earlier, entry, later, heq, hearlier, herr⟩
      rw [entries_eq hpieces] at heq
      obtain ⟨before, piece, after, hsplit, hentry, hne, rfl, -⟩ := filter_trimmed_eq_iff.1 heq
      obtain ⟨parts, hparts, hr⟩ := parseEntry_eq_error_iff.1 herr
      exact ⟨before, piece, after, entry, parts, hsplit ▸ hpieces, forall_accepted_iff.2 hearlier,
        Text.trimmed_iff.2 hentry, hne, hparts, hr⟩
    · rintro ⟨before, piece, after, entry, parts, hpieces, hbefore, hentry, hne, hparts, hr⟩
      have hplaced := filter_trimmed_eq_iff.2 ⟨before, piece, after, rfl, Text.trimmed_iff.1 hentry, hne, rfl, rfl⟩
      exact ⟨_, entry, _, (entries_eq hpieces).trans hplaced, forall_accepted_iff.1 hbefore,
        parseEntry_of_refuses hparts hr⟩

end Accept
end BrokerClient
