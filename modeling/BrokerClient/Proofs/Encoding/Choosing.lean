import BrokerClient.Proofs.Encoding.Ranking

/-!
# The best supported encoding

What the entries of a header say ranks the supported encodings: by the weight of the encoding's own token, else by the
wildcard's, and identity without either is a spare below every positive weight. The choice among the supported encodings
is the one of the highest rank, and of those the one named first (`IsChoice`). Selecting goes through the preferences one
after the other, and comes to that choice whenever there is one (`select_iff_choice`).
-/

namespace BrokerClient

/-! ## Tokens of encodings -/

namespace ContentEncoding

theorem token_injective {e f : ContentEncoding} (h : e.token = f.token) : e = f := by
  revert h
  cases e <;> cases f <;> decide

theorem token_ne_wildcard (e : ContentEncoding) : e.token ≠ Accept.wildcard := by
  cases e <;> decide

/-- An encoding is found under its token in any case, and under no other. -/
theorem ofToken?_eq_some_iff {t : String} {e : ContentEncoding} : ofToken? t = some e ↔ e.token = Text.Ascii.lower t := by
  have hlower (f : ContentEncoding) : Text.Ascii.lower f.token = f.token := by cases f <;> decide +kernel
  have hsame (f : ContentEncoding) : Text.Ascii.sameLetters f.token t = true ↔ f.token = Text.Ascii.lower t := by
    rw [Text.Ascii.sameLetters, beq_iff_eq, hlower]
  have hfound {f : ContentEncoding} (h : ofToken? t = some f) : f.token = Text.Ascii.lower t := by
    have hletters := List.find?_some h
    exact (hsame f).1 hletters
  refine ⟨hfound, fun h => ?_⟩
  cases hf : ofToken? t with
  | none =>
    refine absurd ((hsame e).2 h) (List.find?_eq_none.1 hf e ?_)
    cases e <;> decide
  | some f => rw [token_injective ((hfound hf).trans h.symm)]

end ContentEncoding

/-- What a search finds first comes before everything else that it would find. -/
theorem idxOf_lt_of_head?_filter {α : Type} [BEq α] [LawfulBEq α] {q : α → Bool} {l : List α} {a b : α}
    (ha : (l.filter q).head? = some a) (hb : b ∈ l.filter q) (hne : b ≠ a) : l.idxOf a < l.idxOf b := by
  induction l with
  | nil => cases hb
  | cons x l ih =>
    by_cases hx : q x = true
    · rw [List.filter_cons_of_pos hx] at ha
      obtain rfl : x = a := by simpa using ha
      rw [List.idxOf_cons_self, List.idxOf_cons_ne _ (Ne.symm hne)]
      exact Nat.succ_pos _
    · rw [List.filter_cons_of_neg hx] at ha hb
      have hxa : x ≠ a := by
        rintro rfl
        exact hx (List.mem_filter.1 (List.mem_of_mem_head? ha)).2
      have hxb : x ≠ b := by
        rintro rfl
        exact hx (List.mem_filter.1 hb).2
      rw [List.idxOf_cons_ne _ hxa, List.idxOf_cons_ne _ hxb]
      exact Nat.succ_lt_succ (ih ha hb)

namespace Accept

open Preference

/-! ## Ranks -/

/-- The rank of an encoding: a weight that the entries give it, or that of a spare. -/
inductive Rank where
  | weight (w : Weight)
  | spare
deriving DecidableEq, Repr

/-- Whether an encoding of this rank may be chosen. -/
def Rank.IsUsable : Rank → Prop
  | .weight w => 0 < w
  | .spare => True

/-- A spare comes after every positive weight and before weight 0. -/
def Rank.Below : Rank → Rank → Prop
  | .weight v, .weight w => v < w
  | .weight v, .spare => v = 0
  | .spare, .weight w => 0 < w
  | .spare, .spare => False

theorem Rank.Below.irrefl (r : Rank) : ¬ r.Below r := by
  cases r with
  | weight w => exact lt_irrefl w
  | spare => exact id

theorem Rank.Below.asymm {r r' : Rank} (h : r.Below r') : ¬ r'.Below r := by
  cases r with
  | weight v =>
    cases r' with
    | weight w => exact lt_asymm h
    | spare => exact Nat.not_lt.2 (Nat.le_of_eq h)
  | spare =>
    cases r' with
    | weight w => exact Nat.ne_of_gt h
    | spare => exact absurd h id

/-- The rank that some entries give an encoding: by its own weight, else by the wildcard's, and identity as a spare. -/
def rank? (ps : List Preference) (e : ContentEncoding) : Option Rank :=
  match weight? ps e.token, weight? ps wildcard with
  | some w, _ => some (.weight w)
  | none, some w => some (.weight w)
  | none, none => if e = .identity then some .spare else none

/-- The token under which an encoding is ranked: its own if the entries name it, else the wildcard. -/
def voice (ps : List Preference) (e : ContentEncoding) : String :=
  if (weight? ps e.token).isSome then e.token else wildcard

/-- Which of two encodings of one rank goes first: the one that is named first, and under the wildcard identity, then
the one that is supported first. -/
def Sooner (ps : List Preference) (supported : List ContentEncoding) (e e' : ContentEncoding) : Prop :=
  place ps (voice ps e) < place ps (voice ps e') ∨
    place ps (voice ps e) = place ps (voice ps e') ∧
      (e = .identity ∨ e' ≠ .identity ∧ supported.idxOf e < supported.idxOf e')

/-- The best of the supported encodings: of a usable rank, and every other one has a lower rank, or the same and comes
later. -/
structure IsChoice (ps : List Preference) (supported : List ContentEncoding) (e : ContentEncoding) : Prop where
  mem : e ∈ supported
  best : ∃ r, rank? ps e = some r ∧ r.IsUsable ∧ ∀ e' ∈ supported, e' ≠ e → ∀ r', rank? ps e' = some r' →
    r'.Below r ∨ r' = r ∧ Sooner ps supported e e'

variable {ps : List Preference} {supported : List ContentEncoding} {a : Accept} {p : Preference} {e e' : ContentEncoding}
  {r : Rank} {w : Weight}

theorem Sooner.asymm (hne : e ≠ e') (h : Sooner ps supported e e') : ¬ Sooner ps supported e' e := by
  rintro (hlt' | ⟨heq', htie'⟩)
  · rcases h with hlt | ⟨heq, -⟩
    · exact lt_asymm hlt hlt'
    · exact hlt'.ne' heq
  · rcases h with hlt | ⟨-, htie⟩
    · exact hlt.ne' heq'
    · rcases htie with rfl | ⟨hspare, hlt⟩
      · rcases htie' with rfl | ⟨hfirst, -⟩
        · exact hne rfl
        · exact hfirst rfl
      · rcases htie' with hfirst | ⟨-, hlt'⟩
        · exact hspare hfirst
        · exact lt_asymm hlt hlt'

/-- There is at most one choice. -/
theorem IsChoice.unique (h : IsChoice ps supported e) (h' : IsChoice ps supported e') : e = e' := by
  by_contra hne
  obtain ⟨r, hr, -, hbest⟩ := h.best
  obtain ⟨r', hr', -, hbest'⟩ := h'.best
  rcases hbest e' h'.mem (Ne.symm hne) r' hr' with hlow | ⟨rfl, hsooner⟩
  · rcases hbest' e h.mem hne r hr with hlow' | ⟨rfl, -⟩
    · exact hlow.asymm hlow'
    · exact Rank.Below.irrefl _ hlow
  · rcases hbest' e h.mem hne r' hr with hlow' | ⟨-, hsooner'⟩
    · exact Rank.Below.irrefl _ hlow'
    · exact hsooner.asymm hne hsooner'

theorem rank?_eq_weight_iff : rank? ps e = some (.weight w) ↔ weight? ps (voice ps e) = some w := by
  unfold rank? voice
  cases hown : weight? ps e.token with
  | some v => simp [hown]
  | none =>
    cases hwild : weight? ps wildcard with
    | some v => simp [hwild]
    | none => by_cases he : e = .identity <;> simp [hwild, he]

theorem rank?_eq_spare_iff :
    rank? ps e = some .spare ↔ e = .identity ∧ weight? ps e.token = none ∧ weight? ps wildcard = none := by
  unfold rank?
  cases hown : weight? ps e.token with
  | some v => simp
  | none =>
    cases hwild : weight? ps wildcard with
    | some v => simp
    | none => by_cases he : e = .identity <;> simp [he]

/-- A supported encoding is ranked under the wildcard exactly when the entries do not name it. -/
theorem voice_eq_wildcard_iff : voice ps e = wildcard ↔ weight? ps e.token = none := by
  unfold voice
  cases weight? ps e.token with
  | some v => simp [e.token_ne_wildcard]
  | none => simp

theorem voice_eq_of_ne_wildcard (h : voice ps e ≠ wildcard) : voice ps e = e.token := by
  unfold voice at h ⊢
  split
  · rfl
  · rename_i hnone
    exact absurd (if_neg hnone) h

/-! ## One preference -/

theorem Says.mentions_iff (h : Says ps a) (t : String) : a.mentions t = true ↔ weight? ps t ≠ none := by
  simp only [mentions, Bool.or_eq_true, List.contains_iff_mem, List.any_eq_true, beq_iff_eq, h.unacceptable, h.acceptable]
  constructor
  · rintro (hzero | ⟨p, ⟨hp, -⟩, rfl⟩) hnone
    · rw [hnone] at hzero
      cases hzero
    · rw [hnone] at hp
      cases hp
  · intro hne
    obtain ⟨w, hw⟩ := Option.ne_none_iff_exists'.1 hne
    rcases Nat.eq_zero_or_pos w with rfl | hpos
    · exact .inl hw
    · exact .inr ⟨⟨t, w⟩, ⟨hw, hpos⟩, rfl⟩

/-- A wildcard stands for the supported encodings that are ranked under it. -/
theorem Says.mem_unnamed_iff (h : Says ps a) : e ∈ a.unnamed supported ↔ e ∈ supported ∧ voice ps e = wildcard := by
  rw [unnamed, List.mem_filter, voice_eq_wildcard_iff, Bool.not_eq_true', ← Bool.not_eq_true, h.mentions_iff]
  simp only [not_not]

/-- An acceptable token other than the wildcard is in lower case. -/
theorem Says.lower_token (h : Says ps a) (hp : p ∈ a.acceptable) : Text.Ascii.lower p.token = p.token := by
  obtain ⟨⟨q, hq, hqt, -⟩, -⟩ := weight?_eq_some_iff.1 ((h.acceptable p).1 hp).1
  rw [← hqt, h.lower q hq]

/-- An acceptable token that is an encoding's own is the one under which that encoding is ranked. -/
theorem Says.voice_eq_token (h : Says ps a) (hp : p ∈ a.acceptable) (he : e.token = p.token) : voice ps e = p.token := by
  have hnamed : weight? ps e.token = some p.weight := he ▸ ((h.acceptable p).1 hp).1
  rw [voice, hnamed, Option.isSome_some, if_pos rfl, he]

/-- What a preference leads to is ranked under it, and goes before the others that are. -/
theorem Says.of_choose_eq_some (h : Says ps a) (hp : p ∈ a.acceptable) (hchoose : a.choose supported p = some e) :
    e ∈ supported ∧ voice ps e = p.token ∧ ∀ e' ∈ supported, e' ≠ e → voice ps e' = p.token →
      e = .identity ∨ e' ≠ .identity ∧ supported.idxOf e < supported.idxOf e' := by
  unfold choose at hchoose
  split at hchoose
  · rename_i hwild
    simp only [hwild]
    dsimp only at hchoose
    split at hchoose
    · rename_i hidentity
      cases hchoose
      have hmem := h.mem_unnamed_iff.1 (List.contains_iff_mem.1 hidentity)
      exact ⟨hmem.1, hmem.2, fun _ _ _ _ => .inl rfl⟩
    · rename_i hidentity
      have hmem := h.mem_unnamed_iff.1 (List.mem_of_mem_head? hchoose)
      refine ⟨hmem.1, hmem.2, fun e' he' hne hvoice => .inr ?_⟩
      have hrest : e' ∈ a.unnamed supported := h.mem_unnamed_iff.2 ⟨he', hvoice⟩
      refine ⟨?_, idxOf_lt_of_head?_filter hchoose hrest hne⟩
      rintro rfl
      exact hidentity (List.contains_iff_mem.2 hrest)
  · rename_i hwild
    obtain ⟨hfound, hcontains⟩ := Option.filter_eq_some_iff.1 hchoose
    have htoken : e.token = p.token := (ContentEncoding.ofToken?_eq_some_iff.1 hfound).trans (h.lower_token hp)
    refine ⟨List.contains_iff_mem.1 hcontains, h.voice_eq_token hp htoken, fun e' _ hne hvoice => absurd ?_ hne⟩
    -- only one encoding has this token of its own
    have hown := voice_eq_of_ne_wildcard (hvoice ▸ hwild : voice ps e' ≠ wildcard)
    exact ContentEncoding.token_injective ((hown.symm.trans hvoice).trans htoken.symm)

/-- A preference that leads to nothing has no supported encoding ranked under it. -/
theorem Says.of_choose_eq_none (h : Says ps a) (hp : p ∈ a.acceptable) (hchoose : a.choose supported p = none)
    (he : e ∈ supported) : voice ps e ≠ p.token := by
  intro hvoice
  unfold choose at hchoose
  split at hchoose
  · rename_i hwild
    have hrest : e ∈ a.unnamed supported := h.mem_unnamed_iff.2 ⟨he, hvoice.trans hwild⟩
    dsimp only at hchoose
    split at hchoose
    · cases hchoose
    · rw [List.head?_eq_none_iff] at hchoose
      rw [hchoose] at hrest
      cases hrest
  · rename_i hwild
    have hown := voice_eq_of_ne_wildcard (hvoice ▸ hwild : voice ps e ≠ wildcard)
    have hfound : ContentEncoding.ofToken? p.token = some e := by
      rw [ContentEncoding.ofToken?_eq_some_iff, h.lower_token hp, ← hvoice, hown]
    rw [hfound] at hchoose
    simp [he] at hchoose

/-! ## The whole list -/

/-- The preference that ranks an encoding above weight 0 is on the list. -/
theorem Says.mem_acceptable (h : Says ps a) (hr : rank? ps e = some (.weight w)) (hw : 0 < w) :
    ⟨voice ps e, w⟩ ∈ a.acceptable :=
  (h.acceptable _).2 ⟨rank?_eq_weight_iff.1 hr, hw⟩

/-- The first preference that leads to a supported encoding leads to the choice. -/
theorem Says.isChoice_of_findSome? (h : Says ps a) (hfind : a.acceptable.findSome? (a.choose supported) = some e) :
    IsChoice ps supported e := by
  obtain ⟨before, p, after, hsplit, hchoose, hnone⟩ := List.findSome?_eq_some_iff.1 hfind
  have hp : p ∈ a.acceptable := hsplit ▸ List.mem_append_right _ (List.mem_cons_self ..)
  obtain ⟨hweight, hpos⟩ := (h.acceptable p).1 hp
  obtain ⟨hsupported, hvoice, hfirst⟩ := h.of_choose_eq_some hp hchoose
  refine ⟨hsupported, .weight p.weight, rank?_eq_weight_iff.2 (hvoice ▸ hweight), hpos, fun e' he' hne r' hr' => ?_⟩
  cases r' with
  | spare => exact .inl hpos
  | weight w' =>
    rcases Nat.eq_zero_or_pos w' with rfl | hpos'
    · exact .inl hpos
    · have hq : ⟨voice ps e', w'⟩ ∈ before ++ p :: after := hsplit ▸ h.mem_acceptable hr' hpos'
      rcases List.mem_append.1 hq with hq | hq
      · have hmem : ⟨voice ps e', w'⟩ ∈ a.acceptable := hsplit ▸ List.mem_append_left _ hq
        exact absurd rfl (h.of_choose_eq_none hmem (hnone _ hq) he')
      · rcases List.mem_cons.1 hq with rfl | hq
        · exact .inr ⟨rfl, .inr ⟨congrArg (place ps) hvoice, hfirst e' he' hne rfl⟩⟩
        · have horder := hsplit ▸ h.order
          rcases List.rel_of_pairwise_cons (List.pairwise_append.1 horder).2.1 hq with hlt | ⟨heq, hplace⟩
          · exact .inl hlt
          · exact .inr ⟨congrArg Rank.weight heq, .inl (hvoice ▸ hplace)⟩

/-- Where no preference leads to a supported encoding, only a spare is usable. -/
theorem Says.eq_spare_of_findSome? (h : Says ps a) (hfind : a.acceptable.findSome? (a.choose supported) = none)
    (he : e ∈ supported) (hr : rank? ps e = some r) (husable : r.IsUsable) : r = .spare := by
  cases r with
  | spare => rfl
  | weight w =>
    have hmem := h.mem_acceptable hr husable
    exact absurd rfl (h.of_choose_eq_none hmem (List.findSome?_eq_none_iff.1 hfind _ hmem) he)

/-- Identity is ruled out exactly when it has weight 0, by name or by the wildcard. -/
theorem Says.refusesIdentity_iff (h : Says ps a) :
    a.refusesIdentity = true ↔ rank? ps .identity = some (.weight 0) := by
  simp only [refusesIdentity, Bool.or_eq_true, Bool.and_eq_true, List.contains_iff_mem, h.unacceptable, Bool.not_eq_true',
    ← Bool.not_eq_true, h.mentions_iff, not_not, rank?]
  cases weight? ps ContentEncoding.identity.token <;> cases weight? ps wildcard <;> simp

/-- Selecting comes to the choice, or fails and nothing supported is usable. -/
theorem Says.select_spec (h : Says ps a) (supported : List ContentEncoding) :
    (∃ e, a.select supported = .ok e ∧ IsChoice ps supported e) ∨
      a.select supported = .error (.notAcceptable a.header) ∧
        ∀ e ∈ supported, ∀ r, rank? ps e = some r → ¬ r.IsUsable := by
  unfold select
  cases hfind : a.acceptable.findSome? (a.choose supported) with
  | some e => exact .inl ⟨e, rfl, h.isChoice_of_findSome? hfind⟩
  | none =>
    have hspare {e : ContentEncoding} {r : Rank} (he : e ∈ supported) (hr : rank? ps e = some r) (husable : r.IsUsable) :
        e = .identity ∧ r = .spare := by
      obtain rfl := h.eq_spare_of_findSome? hfind he hr husable
      exact ⟨(rank?_eq_spare_iff.1 hr).1, rfl⟩
    dsimp only
    split
    · rename_i hrefused
      refine .inr ⟨rfl, fun e he r hr husable => ?_⟩
      obtain ⟨rfl, rfl⟩ := hspare he hr husable
      rcases Bool.or_eq_true_iff.1 hrefused with hrefused | hmissing
      · rw [h.refusesIdentity_iff.1 hrefused] at hr
        cases hr
      · simp [he] at hmissing
    · rename_i haccepted
      simp only [Bool.or_eq_true, not_or, h.refusesIdentity_iff, Bool.not_eq_true', Bool.not_eq_false,
        List.contains_iff_mem] at haccepted
      obtain ⟨hallowed, hsupported⟩ := haccepted
      -- the rank of identity is usable, and so that of a spare
      have hrank : rank? ps .identity = some .spare := by
        cases hr : rank? ps .identity with
        | none => revert hr; unfold rank?; split <;> simp
        | some r =>
          have husable : r.IsUsable := by
            cases r with
            | weight w => exact Nat.pos_of_ne_zero fun hzero => hallowed (hzero ▸ hr)
            | spare => trivial
          rw [(hspare hsupported hr husable).2]
      refine .inl ⟨.identity, rfl, hsupported, .spare, hrank, trivial, fun e' he' hne r' hr' => .inl ?_⟩
      cases r' with
      | weight w => exact Nat.eq_zero_of_not_pos fun hpos => hne (hspare he' hr' hpos).1
      | spare => exact hne (rank?_eq_spare_iff.1 hr').1

/-- **Selecting is a search for the best.** For every header that parses and every list of supported encodings, the
result is the choice among them by what the entries of the header say, and there is no result exactly when the header
leaves nothing supported usable. What it refuses by name, or unnamed through the wildcard, is never the result. -/
theorem select_iff_choice {header : String} {a : Accept} (h : parse header = .ok a) (supported : List ContentEncoding) :
    ∃ ps, (entries header).mapM parseEntry = .ok ps ∧ negotiate (some header) supported = a.select supported ∧
      (∀ e, a.select supported = .ok e ↔ IsChoice ps supported e) ∧
      (∀ err, a.select supported = .error err ↔
        err = .notAcceptable header ∧ ∀ e ∈ supported, ∀ r, rank? ps e = some r → ¬ r.IsUsable) ∧
      (∀ e, weight? ps e.token = some 0 ∨ weight? ps e.token = none ∧ weight? ps wildcard = some 0 →
        a.select supported ≠ .ok e) := by
  obtain ⟨ps, hps, rfl, hsays⟩ := says_of_parse h
  have hchosen (e : ContentEncoding) (he : a.select supported = .ok e) : IsChoice ps supported e := by
    rcases hsays.select_spec supported with ⟨e', hselect, hchoice⟩ | ⟨hselect, -⟩
    · rw [hselect] at he
      cases he
      exact hchoice
    · rw [hselect] at he
      cases he
  refine ⟨ps, hps, ?_, fun e => ⟨hchosen e, fun hchoice => ?_⟩, fun err => ⟨fun herr => ?_, ?_⟩, ?_⟩
  · simp only [negotiate, h]
    rfl
  · rcases hsays.select_spec supported with ⟨e', hselect, hchoice'⟩ | ⟨-, hnone⟩
    · rw [hselect, hchoice.unique hchoice']
    · obtain ⟨r, hr, husable, -⟩ := hchoice.best
      exact absurd husable (hnone e hchoice.mem r hr)
  · rcases hsays.select_spec supported with ⟨e, hselect, -⟩ | ⟨hselect, hnone⟩
    · rw [hselect] at herr
      cases herr
    · rw [hselect] at herr
      cases herr
      exact ⟨rfl, hnone⟩
  · rintro ⟨rfl, hnone⟩
    rcases hsays.select_spec supported with ⟨e, -, hchoice⟩ | ⟨hselect, -⟩
    · obtain ⟨r, hr, husable, -⟩ := hchoice.best
      exact absurd husable (hnone e hchoice.mem r hr)
    · exact hselect
  · intro e hrefused he
    have hzero : rank? ps e = some (.weight 0) := by
      unfold rank?
      rcases hrefused with hown | ⟨hown, hwild⟩
      · rw [hown]
      · rw [hown, hwild]
    obtain ⟨r, hr, husable, -⟩ := (hchosen e he).best
    rw [hzero] at hr
    cases hr
    exact lt_irrefl 0 husable

/-- Named and unnamed encodings of one weight, and one that is refused by name. -/
theorem select_iff_choice_halves : ∃ a, parse "gzip;q=0.5, *;q=0.5, deflate;q=0" = .ok a ∧
    a.select [.deflate, .identity, .gzip] = .ok .gzip ∧ a.select [.deflate, .identity] = .ok .identity ∧
    a.select [.deflate] = .error (.notAcceptable "gzip;q=0.5, *;q=0.5, deflate;q=0") := by
  let half : Weight := 0x3f000000
  let listed : List Preference := [⟨"gzip", half⟩, ⟨"*", half⟩, ⟨"deflate", 0⟩]
  have hlisted : (entries "gzip;q=0.5, *;q=0.5, deflate;q=0").mapM parseEntry = .ok listed := by
    have hoption : ((entries "gzip;q=0.5, *;q=0.5, deflate;q=0").mapM parseEntry).toOption = some listed := by
      decide +kernel
    revert hoption
    cases (entries "gzip;q=0.5, *;q=0.5, deflate;q=0").mapM parseEntry <;> simp [Except.toOption]
  have hgzip : rank? listed .gzip = some (.weight half) := by decide
  have hidentity : rank? listed .identity = some (.weight half) := by decide
  have hdeflate : rank? listed .deflate = some (.weight 0) := by decide
  have hpos : (Rank.weight half).IsUsable := show 0 < half by decide
  obtain ⟨a, ha⟩ : ∃ a, parse "gzip;q=0.5, *;q=0.5, deflate;q=0" = .ok a := by
    unfold parse
    rw [hlisted]
    exact ⟨_, rfl⟩
  have hfrom (supported : List ContentEncoding) :
      (∀ e, IsChoice listed supported e → a.select supported = .ok e) ∧
        ((∀ e ∈ supported, ∀ r, rank? listed e = some r → ¬ r.IsUsable) →
          a.select supported = .error (.notAcceptable "gzip;q=0.5, *;q=0.5, deflate;q=0")) := by
    obtain ⟨ps, hps, -, hok, herror, -⟩ := select_iff_choice ha supported
    rw [hlisted] at hps
    cases hps
    exact ⟨fun e => (hok e).2, fun hnone => (herror _).2 ⟨rfl, hnone⟩⟩
  refine ⟨a, ha, (hfrom _).1 _ ⟨by decide, _, hgzip, hpos, ?_⟩, (hfrom _).1 _ ⟨by decide, _, hidentity, hpos, ?_⟩,
    (hfrom _).2 ?_⟩
  · intro e' he' hne r' hr'
    cases e' with
    | identity => exact .inr ⟨Option.some.inj (hr'.symm.trans hidentity), .inl (by decide)⟩
    | gzip => exact absurd rfl hne
    | deflate =>
      cases hdeflate.symm.trans hr'
      exact .inl hpos
  · intro e' he' hne r' hr'
    cases e' with
    | identity => exact absurd rfl hne
    | gzip => simp at he'
    | deflate =>
      cases hdeflate.symm.trans hr'
      exact .inl hpos
  · intro e he r hr
    cases List.mem_singleton.1 he
    cases hdeflate.symm.trans hr
    exact lt_irrefl 0

end Accept
end BrokerClient
