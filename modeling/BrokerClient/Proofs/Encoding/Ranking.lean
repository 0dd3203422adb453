import BrokerClient.Encoding.Selection
import Mathlib.Data.List.Induction
import Mathlib.Data.List.Sort

/-!
# What a preference list says

The entries of a header give each token that they name a weight, the highest of those under it, and a place, the first.
Parsing keeps every token once, those of positive weight by falling weight and then by place, and sets those of weight 0
apart (`says_of_parse`): so nothing that the entries say is lost, and the order in which they are tried is fixed.
-/

namespace BrokerClient

/-- What is in lower case stays as it is. -/
theorem Text.Ascii.lower_lower (s : String) : lower (lower s) = lower s := by
  have hcapital : ∀ n < 91, lowerChar (lowerChar (Char.ofNat n)) = lowerChar (Char.ofNat n) := by decide
  have hchar (c : Char) : lowerChar (lowerChar c) = lowerChar c := by
    by_cases h : 'A' ≤ c ∧ c ≤ 'Z'
    · have hlt : c.toNat < 91 := Nat.lt_succ_of_le h.2
      rw [← Char.ofNat_toNat c]
      exact hcapital c.toNat hlt
    · simp only [lowerChar, if_neg h]
  rw [lower, lower, String.map_map]
  exact congrArg (String.map · s) (funext hchar)

/-! ## Stable sorting -/

/-- Sorting keeps a relation between those that compare equal. -/
theorem pairwise_mergeSort_ties {α : Type} {le : α → α → Bool} {R : α → α → Prop} {l : List α}
    (htrans : ∀ a b c, le a b = true → le b c = true → le a c = true) (htotal : ∀ a b, (le a b || le b a) = true)
    (h : l.Pairwise R) : (l.mergeSort le).Pairwise fun a b => le a b = true ∧ (le b a = true → R a b) := by
  rw [List.pairwise_iff_forall_sublist]
  intro a b hab
  have hle : le a b = true := List.pairwise_iff_forall_sublist.1 (List.pairwise_mergeSort htrans htotal l) hab
  refine ⟨hle, fun hge => ?_⟩
  -- those that compare equal to b are in the same order before and after
  let tied (x : α) : Bool := le x b && le b x
  have hself : le b b = true := by simpa using htotal b b
  have hties : (l.filter tied).Pairwise fun x y => le x y = true := by
    refine List.pairwise_of_forall_mem_list fun x hx y hy => ?_
    simp only [tied, List.mem_filter, Bool.and_eq_true] at hx hy
    exact htrans x b y hx.2.1 hy.2.2
  have hsub : (l.filter tied).Sublist ((l.mergeSort le).filter tied) := by
    have hsorted := (List.sublist_mergeSort htrans htotal hties List.filter_sublist).filter tied
    simpa only [List.filter_filter, Bool.and_self] using hsorted
  have heq : l.filter tied = (l.mergeSort le).filter tied :=
    hsub.eq_of_length ((List.mergeSort_perm l le).filter tied).length_eq.symm
  have hpair : [a, b].Sublist ((l.mergeSort le).filter tied) := by
    have hfiltered := hab.filter tied
    simpa [tied, hle, hge, hself] using hfiltered
  rw [← heq] at hpair
  exact List.pairwise_iff_forall_sublist.1 h (hpair.trans List.filter_sublist)

/-- What comes out of a loop that may fail comes from one of its items. -/
theorem exists_of_mem_mapM {ε α β : Type} {f : α → Except ε β} {xs : List α} {ys : List β} (h : xs.mapM f = .ok ys)
    {y : β} (hy : y ∈ ys) : ∃ x ∈ xs, f x = .ok y := by
  induction xs generalizing ys with
  | nil =>
    cases h
    cases hy
  | cons x xs ih =>
    rw [List.mapM_cons] at h
    cases hx : f x with
    | error e => rw [hx] at h; cases h
    | ok z =>
      cases hxs : xs.mapM f with
      | error e => rw [hx, hxs] at h; cases h
      | ok zs =>
        rw [hx, hxs] at h
        cases h
        rcases List.mem_cons.1 hy with rfl | hy
        · exact ⟨x, List.mem_cons_self .., hx⟩
        · obtain ⟨x', hx', hf⟩ := ih hxs hy
          exact ⟨x', List.mem_cons_of_mem _ hx', hf⟩

namespace Preference

/-! ## Weights and places -/

/-- The highest weight that some entries give a token. -/
def weight? (ps : List Preference) (token : String) : Option Weight :=
  ((ps.filter (·.token == token)).map (·.weight)).max?

/-- The place at which some entries name a token first. -/
def place (ps : List Preference) (token : String) : Nat := (ps.map (·.token)).idxOf token

variable {ps seen : List Preference} {p : Preference} {t : String} {w : Weight}

theorem weight?_eq_some_iff : weight? ps t = some w ↔
    (∃ p ∈ ps, p.token = t ∧ p.weight = w) ∧ ∀ p ∈ ps, p.token = t → p.weight ≤ w := by
  simp only [weight?, List.max?_eq_some_iff, List.mem_map, List.mem_filter, beq_iff_eq, and_assoc, forall_exists_index,
    and_imp]
  exact and_congr_right fun _ => ⟨fun h p hp ht => h _ p hp ht rfl, fun h _ p hp ht hw => hw ▸ h p hp ht⟩

theorem weight?_eq_none_iff : weight? ps t = none ↔ ∀ p ∈ ps, p.token ≠ t := by
  rw [weight?, List.max?_eq_none_iff, List.map_eq_nil_iff, List.filter_eq_nil_iff]
  simp

/-- One entry more weighs in for its own token only. -/
theorem weight?_concat_of_ne (h : p.token ≠ t) : weight? (ps ++ [p]) t = weight? ps t := by
  simp [weight?, h]

theorem weight?_concat_self (h : weight? ps p.token = some w) :
    weight? (ps ++ [p]) p.token = some (max w p.weight) := by
  obtain ⟨⟨q, hq, hqt, rfl⟩, hmax⟩ := weight?_eq_some_iff.1 h
  rw [weight?_eq_some_iff]
  constructor
  · rcases le_total q.weight p.weight with hle | hle
    · exact ⟨p, by simp, rfl, (max_eq_right hle).symm⟩
    · exact ⟨q, by simp [hq], hqt, (max_eq_left hle).symm⟩
  · intro r hr hrt
    rcases List.mem_append.1 hr with hr | hr
    · exact (hmax r hr hrt).trans (le_max_left ..)
    · rw [List.mem_singleton.1 hr]
      exact le_max_right ..

theorem weight?_concat_new (h : weight? ps p.token = none) : weight? (ps ++ [p]) p.token = some p.weight := by
  rw [weight?_eq_some_iff]
  refine ⟨⟨p, by simp, rfl, rfl⟩, fun q hq hqt => ?_⟩
  rcases List.mem_append.1 hq with hq | hq
  · exact absurd hqt (weight?_eq_none_iff.1 h q hq)
  · rw [List.mem_singleton.1 hq]

theorem mem_tokens_of_weight? (h : weight? ps t = some w) : t ∈ ps.map (·.token) := by
  obtain ⟨⟨p, hp, rfl, -⟩, -⟩ := weight?_eq_some_iff.1 h
  exact List.mem_map_of_mem hp

theorem place_concat (h : t ∈ ps.map (·.token)) : place (ps ++ [p]) t = place ps t := by
  rw [place, List.map_append, List.idxOf_append_of_mem h, place]

theorem place_lt_length (h : t ∈ ps.map (·.token)) : place ps t < ps.length := by
  simpa [place] using List.idxOf_lt_length_iff.2 h

theorem place_concat_new (h : t ∉ ps.map (·.token)) : ps.length ≤ place (ps ++ [p]) t := by
  rw [place, List.map_append, List.idxOf_append_of_notMem h, List.length_map]
  exact Nat.le_add_right ..

/-! ## Collecting -/

/-- Some entries collected: every token once with its highest weight, in the order of places. -/
structure Collects (ps seen : List Preference) : Prop where
  weights : ∀ p ∈ seen, weight? ps p.token = some p.weight
  tokens : ∀ p ∈ ps, ∃ q ∈ seen, q.token = p.token
  places : seen.Pairwise fun p q => place ps p.token < place ps q.token

theorem Collects.nil : Collects [] [] := ⟨nofun, nofun, .nil⟩

theorem Collects.mem_iff (h : Collects ps seen) : p ∈ seen ↔ weight? ps p.token = some p.weight := by
  refine ⟨h.weights p, fun hp => ?_⟩
  obtain ⟨⟨q, hq, hqt, -⟩, -⟩ := weight?_eq_some_iff.1 hp
  obtain ⟨r, hr, hrt⟩ := h.tokens q hq
  have hweight := h.weights r hr
  rw [hrt, hqt, hp] at hweight
  obtain rfl : r = p := by
    cases r
    cases p
    cases hrt.trans hqt
    cases hweight
    rfl
  exact hr

/-- What a step of collecting keeps. -/
theorem Collects.step (h : Collects ps seen) (p : Preference) : Collects (ps ++ [p]) (collect seen p) := by
  have hkept {q : Preference} (hq : q ∈ seen) : place (ps ++ [p]) q.token = place ps q.token :=
    place_concat (mem_tokens_of_weight? (h.weights q hq))
  have hplaces : seen.Pairwise fun q r => place (ps ++ [p]) q.token < place (ps ++ [p]) r.token :=
    h.places.imp_of_mem fun hq hr hlt => by rwa [hkept hq, hkept hr]
  unfold collect
  split
  · rename_i hany
    have htoken (q : Preference) :
        (if q.token = p.token then (⟨q.token, max q.weight p.weight⟩ : Preference) else q).token = q.token := by
      split <;> rfl
    refine ⟨?_, ?_, ?_⟩
    · intro q' hq'
      obtain ⟨q, hq, rfl⟩ := List.mem_map.1 hq'
      have hw := h.weights q hq
      split
      · rename_i heq
        rw [heq] at hw ⊢
        exact weight?_concat_self hw
      · rename_i hne
        rw [weight?_concat_of_ne (Ne.symm hne), hw]
    · intro r hr
      have hq : ∃ q ∈ seen, q.token = r.token := by
        rcases List.mem_append.1 hr with hr | hr
        · exact h.tokens r hr
        · rw [List.mem_singleton.1 hr]
          simpa using hany
      obtain ⟨q, hq, hqr⟩ := hq
      exact ⟨_, List.mem_map_of_mem hq, (htoken q).trans hqr⟩
    · rw [List.pairwise_map]
      simpa only [htoken] using hplaces
  · rename_i hany
    have hnew : ∀ q ∈ seen, q.token ≠ p.token := by simpa using hany
    have hunnamed : p.token ∉ ps.map (·.token) := by
      intro hm
      obtain ⟨r, hr, hrp⟩ := List.mem_map.1 hm
      obtain ⟨q, hq, hqr⟩ := h.tokens r hr
      exact hnew q hq (hqr.trans hrp)
    refine ⟨?_, ?_, ?_⟩
    · intro q hq
      rcases List.mem_append.1 hq with hq | hq
      · rw [weight?_concat_of_ne (hnew q hq).symm, h.weights q hq]
      · rw [List.mem_singleton.1 hq]
        refine weight?_concat_new (weight?_eq_none_iff.2 fun r hr hrp => hunnamed ?_)
        exact hrp ▸ List.mem_map_of_mem hr
    · intro r hr
      rcases List.mem_append.1 hr with hr | hr
      · exact (h.tokens r hr).imp fun q hq => ⟨List.mem_append_left _ hq.1, hq.2⟩
      · exact ⟨r, List.mem_append_right _ hr, rfl⟩
    · refine List.pairwise_append.2 ⟨hplaces, List.pairwise_singleton _ _, ?_⟩
      intro q hq r hr
      rw [List.mem_singleton.1 hr, hkept hq]
      exact (place_lt_length (mem_tokens_of_weight? (h.weights q hq))).trans_le (place_concat_new hunnamed)

/-- Collecting keeps what the entries say. -/
theorem collects_foldl (ps : List Preference) : Collects ps (ps.foldl collect []) := by
  induction ps using List.reverseRecOn with
  | nil => exact .nil
  | append_singleton ps p ih =>
    rw [List.foldl_concat]
    exact ih.step p

/-! ## Ranking -/

/-- One preference comes before another: it weighs more, or the same and is named first. -/
def Outranks (ps : List Preference) (p q : Preference) : Prop :=
  q.weight < p.weight ∨ q.weight = p.weight ∧ place ps p.token < place ps q.token

/-- Ranking puts what was collected in order. -/
theorem Collects.pairwise_rank (h : Collects ps seen) : (Accept.rank seen).Pairwise (Outranks ps) := by
  have htrans (a b c : Preference) : decide (b.weight ≤ a.weight) = true → decide (c.weight ≤ b.weight) = true →
      decide (c.weight ≤ a.weight) = true := by
    simp only [decide_eq_true_eq]
    exact fun hab hbc => hbc.trans hab
  have htotal (a b : Preference) : (decide (b.weight ≤ a.weight) || decide (a.weight ≤ b.weight)) = true := by
    simp only [Bool.or_eq_true, decide_eq_true_eq]
    exact le_total ..
  refine (pairwise_mergeSort_ties htrans htotal h.places).imp ?_
  rintro p q ⟨hle, htie⟩
  simp only [decide_eq_true_eq] at hle htie
  rcases hle.lt_or_eq with hlt | heq
  · exact .inl hlt
  · exact .inr ⟨heq, htie heq.ge⟩

/-! ## Tokens -/

/-- The token of an entry is in lower case. -/
theorem lower_token_of_parseEntry {entry : List Char} (h : parseEntry entry = .ok p) : Text.Ascii.lower p.token = p.token := by
  unfold parseEntry at h
  split at h
  · cases h
  · split at h
    · rename_i token params _ _
      cases hw : params.foldlM (parseParameter entry) none with
      | error e => rw [hw] at h; cases h
      | ok w =>
        rw [hw] at h
        cases h
        exact Text.Ascii.lower_lower _
    · cases h

end Preference

/-! ## Parsing -/

namespace Accept

open Preference

/-- A list of preferences says what some entries say. -/
structure Says (ps : List Preference) (a : Accept) : Prop where
  lower : ∀ p ∈ ps, Text.Ascii.lower p.token = p.token
  acceptable : ∀ p, p ∈ a.acceptable ↔ weight? ps p.token = some p.weight ∧ 0 < p.weight
  unacceptable : ∀ t, t ∈ a.unacceptable ↔ weight? ps t = some 0
  order : a.acceptable.Pairwise (Outranks ps)

/-- **What parsing keeps.** A header is read when all its entries are, and the list says what they say. -/
theorem says_of_parse {header : String} {a : Accept} (h : parse header = .ok a) :
    ∃ ps, (entries header).mapM parseEntry = .ok ps ∧ a.header = header ∧ Says ps a := by
  unfold parse at h
  cases hps : (entries header).mapM parseEntry with
  | error e => rw [hps] at h; cases h
  | ok ps =>
    rw [hps] at h
    cases h
    have hcollects := collects_foldl ps
    have hmem (p : Preference) : p ∈ rank (ps.foldl collect []) ↔ weight? ps p.token = some p.weight :=
      (List.mergeSort_perm ..).mem_iff.trans hcollects.mem_iff
    refine ⟨ps, rfl, rfl, ?_, ?_, ?_, hcollects.pairwise_rank.filter _⟩
    · intro p hp
      obtain ⟨entry, -, hentry⟩ := exists_of_mem_mapM hps hp
      exact lower_token_of_parseEntry hentry
    · intro p
      simp [hmem]
    · intro t
      simp only [List.mem_mergeSort, List.mem_map, List.mem_filter, hmem, beq_iff_eq]
      constructor
      · rintro ⟨p, ⟨hp, hzero⟩, rfl⟩
        rw [hp, hzero]
      · intro ht
        exact ⟨⟨t, 0⟩, ⟨ht, rfl⟩, rfl⟩

end Accept
end BrokerClient
