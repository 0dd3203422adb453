import BrokerClient.Proofs.Encoding.Grammar
import BrokerClient.Proofs.Encoding.Ranking

/-!
# Rankings

What the entries of a header say about its tokens fixes a ranking of them (`Ranked.unique`). So the weights may be collected
in a table that lists its tokens in any order: sorted by weight and by the position of the first entry, they come out the
same. Parsing gives this ranking (`ranking_of_parse`).
-/

namespace BrokerClient
namespace Accept

open Preference

/-- A ranking of the tokens that some entries name. -/
structure Ranked (ps : List Preference) (a : Accept) : Prop where
  /-- The acceptable tokens are those of positive weight, with the highest weight that they are given. -/
  acceptable : ∀ p, p ∈ a.acceptable ↔ weight? ps p.token = some p.weight ∧ 0 < p.weight
  once : (a.acceptable.map (·.token)).Nodup
  order : a.acceptable.Pairwise (Outranks ps)
  /-- The unacceptable tokens are those that are never given another weight than 0. -/
  unacceptable : ∀ t, t ∈ a.unacceptable ↔ (∃ p ∈ ps, p.token = t) ∧ ∀ p ∈ ps, p.token = t → p.weight = 0
  sorted : a.unacceptable.Pairwise (· < ·)
  disjoint : ∀ p ∈ a.acceptable, p.token ∉ a.unacceptable
  cover : ∀ p ∈ ps, p.token ∈ a.unacceptable ∨ ∃ q ∈ a.acceptable, q.token = p.token

variable {ps : List Preference} {a b : Accept} {header : String}

/-! ## A ranking is fixed -/

theorem not_outranks_of_token_eq {p q : Preference} (ht : p.token = q.token) (hw : p.weight = q.weight) :
    ¬ Outranks ps p q := by
  rintro (h | ⟨-, h⟩)
  · exact h.ne' hw
  · exact h.ne (congrArg _ ht)

theorem outranks_asymm {p q : Preference} (h : Outranks ps p q) : ¬ Outranks ps q p := by
  rcases h with h | ⟨heq, h⟩
  · rintro (h' | ⟨heq', -⟩)
    · exact h.asymm h'
    · exact h.ne heq'.symm
  · rintro (h' | ⟨-, h'⟩)
    · exact h'.ne heq.symm
    · exact h.asymm h'

/-- What some entries say is ranked in one way. -/
theorem Ranked.unique (ha : Ranked ps a) (hb : Ranked ps b) (h : a.header = b.header) : a = b := by
  have hacceptable : a.acceptable = b.acceptable := by
    refine List.Perm.eq_of_pairwise (fun p q _ _ hpq hqp => absurd hqp (outranks_asymm hpq)) ha.order hb.order ?_
    refine (List.perm_ext_iff_of_nodup ha.once.of_map hb.once.of_map).2 fun p => ?_
    rw [ha.acceptable, hb.acceptable]
  have hunacceptable : a.unacceptable = b.unacceptable := by
    refine List.Perm.eq_of_pairwise (fun s t _ _ hst hts => absurd hts hst.asymm) ha.sorted hb.sorted ?_
    refine (List.perm_ext_iff_of_nodup (ha.sorted.imp ne_of_lt) (hb.sorted.imp ne_of_lt)).2 fun t => ?_
    rw [ha.unacceptable, hb.unacceptable]
  cases a
  cases b
  simp_all

theorem weight?_eq_zero_iff {t : String} :
    weight? ps t = some 0 ↔ (∃ p ∈ ps, p.token = t) ∧ ∀ p ∈ ps, p.token = t → p.weight = 0 := by
  rw [weight?_eq_some_iff]
  simp only [Nat.le_zero]
  constructor
  · rintro ⟨⟨p, hp, ht, -⟩, hall⟩
    exact ⟨⟨p, hp, ht⟩, hall⟩
  · rintro ⟨⟨p, hp, ht⟩, hall⟩
    exact ⟨⟨p, hp, ht, hall p hp ht⟩, hall⟩

/-- The highest weights, in order, make a ranking. -/
theorem Ranked.of_weights (hacceptable : ∀ p, p ∈ a.acceptable ↔ weight? ps p.token = some p.weight ∧ 0 < p.weight)
    (horder : a.acceptable.Pairwise (Outranks ps)) (hunacceptable : ∀ t, t ∈ a.unacceptable ↔ weight? ps t = some 0)
    (hsorted : a.unacceptable.Pairwise (· < ·)) : Ranked ps a where
  acceptable := hacceptable
  once := by
    refine List.pairwise_map.2 (horder.imp_of_mem fun {p q} hp hq hpq ht => not_outranks_of_token_eq ht ?_ hpq)
    have hweight := ((hacceptable p).1 hp).1
    rw [ht, ((hacceptable q).1 hq).1, Option.some_inj] at hweight
    exact hweight.symm
  order := horder
  unacceptable := fun t => (hunacceptable t).trans weight?_eq_zero_iff
  sorted := hsorted
  disjoint := by
    intro p hp ht
    obtain ⟨hweight, hpos⟩ := (hacceptable p).1 hp
    rw [(hunacceptable _).1 ht, Option.some_inj] at hweight
    exact hpos.ne hweight
  cover := by
    intro p hp
    obtain ⟨w, hw⟩ := Option.ne_none_iff_exists'.1 fun hnone => weight?_eq_none_iff.1 hnone p hp rfl
    rcases Nat.eq_zero_or_pos w with rfl | hpos
    · exact .inl ((hunacceptable _).2 hw)
    · exact .inr ⟨⟨p.token, w⟩, (hacceptable _).2 ⟨hw, hpos⟩, rfl⟩

/-- Tokens apart from each other, sorted. -/
theorem pairwise_sorted_of_nodup {ts : List String} (h : ts.Nodup) :
    (ts.mergeSort fun s t => s ≤ t).Pairwise (· < ·) := by
  have hle : (ts.mergeSort fun s t => s ≤ t).Pairwise fun s t => decide (s ≤ t) = true :=
    List.pairwise_mergeSort (fun a b c => by simpa using le_trans) (fun a b => by simpa using le_total a b) ts
  have hne : (ts.mergeSort fun s t => s ≤ t).Nodup := (List.mergeSort_perm ts _).nodup_iff.2 h
  exact (hle.and hne).imp fun ⟨hst, hne⟩ => lt_of_le_of_ne (of_decide_eq_true hst) hne

/-- Parsing gives a ranking of what the entries say. -/
theorem ranked_of_parse (h : parse header = .ok a) :
    ∃ ps, (entries header).mapM parseEntry = .ok ps ∧ a.header = header ∧ Ranked ps a := by
  obtain ⟨ps, hps, hheader, hsays⟩ := says_of_parse h
  refine ⟨ps, hps, hheader, .of_weights hsays.acceptable hsays.order hsays.unacceptable ?_⟩
  rw [parse, hps] at h
  cases h
  refine pairwise_sorted_of_nodup (List.pairwise_map.2 ?_)
  refine ((collects_foldl ps).pairwise_rank.filter _).imp_of_mem fun hp hq hpq ht => not_outranks_of_token_eq ht ?_ hpq
  simp only [List.mem_filter, beq_iff_eq] at hp hq
  rw [hp.2, hq.2]

end Accept

/-! ## Positions -/

namespace Preference

variable {listed : List (Preference × Nat)} {l : Preference × Nat} {t u : String} {i j : Nat}

/-- The position of the first entry that names a token. -/
def position? (listed : List (Preference × Nat)) (token : String) : Option Nat :=
  (listed.find? (·.1.token == token)).map (·.2)

theorem position?_eq_none_iff : position? listed t = none ↔ ∀ p ∈ listed.map (·.1), p.token ≠ t := by
  simp [position?]

theorem position?_concat :
    position? (listed ++ [l]) t = (position? listed t).or (if l.1.token = t then some l.2 else none) := by
  simp only [position?, List.find?_append, Option.map_or, List.find?_cons, List.find?_nil]
  split <;> simp_all

theorem exists_position? {w : Weight} (h : weight? (listed.map (·.1)) t = some w) :
    ∃ i, position? listed t = some i := by
  refine Option.ne_none_iff_exists'.1 fun hnone => ?_
  rw [weight?_eq_none_iff.2 (position?_eq_none_iff.1 hnone)] at h
  cases h

theorem mem_of_position? (h : position? listed t = some i) : i ∈ listed.map (·.2) := by
  obtain ⟨l, hl, rfl⟩ := Option.map_eq_some_iff.1 h
  exact List.mem_map_of_mem (List.mem_of_find?_eq_some hl)

/-- Positions that rise are in the order of places. -/
theorem place_lt_iff (h : (listed.map (·.2)).Pairwise (· < ·)) (ht : position? listed t = some i)
    (hu : position? listed u = some j) : place (listed.map (·.1)) t < place (listed.map (·.1)) u ↔ i < j := by
  induction listed with
  | nil => cases ht
  | cons l listed ih =>
    obtain ⟨hfirst, hrest⟩ := List.pairwise_cons.1 h
    have hplace (t : String) : place ((l :: listed).map (·.1)) t =
        if l.1.token = t then 0 else place (listed.map (·.1)) t + 1 := by
      simp [place, List.idxOf_cons, cond_eq_ite]
    have hposition (t : String) : position? (l :: listed) t = if l.1.token = t then some l.2 else position? listed t := by
      simp only [position?, List.find?_cons]
      split <;> simp_all
    have hlater {t : String} {i : Nat} (h : position? listed t = some i) : l.2 < i := hfirst i (mem_of_position? h)
    rw [hposition] at ht hu
    rw [hplace, hplace]
    by_cases hlt : l.1.token = t
    · rw [if_pos hlt, Option.some_inj] at ht
      rw [if_pos hlt, ← ht]
      by_cases hlu : l.1.token = u
      · rw [if_pos hlu, Option.some_inj] at hu
        rw [if_pos hlu, ← hu]
        exact iff_of_false (lt_irrefl _) (lt_irrefl _)
      · rw [if_neg hlu] at hu
        rw [if_neg hlu]
        exact iff_of_true (Nat.succ_pos _) (hlater hu)
    · rw [if_neg hlt] at ht
      rw [if_neg hlt]
      by_cases hlu : l.1.token = u
      · rw [if_pos hlu, Option.some_inj] at hu
        rw [if_pos hlu, ← hu]
        exact iff_of_false (Nat.not_lt_zero _) (hlater ht).asymm
      · rw [if_neg hlu] at hu
        rw [if_neg hlu, Nat.add_lt_add_iff_right]
        exact ih hrest ht hu

/-- No two tokens have their first entry at the same position. -/
theorem position?_inj (h : (listed.map (·.2)).Pairwise (· < ·)) (ht : position? listed t = some i)
    (hu : position? listed u = some i) : t = u := by
  have hle := (place_lt_iff h ht hu).not.2 (lt_irrefl i)
  have hge := (place_lt_iff h hu ht).not.2 (lt_irrefl i)
  have hmem : t ∈ (listed.map (·.1)).map (·.token) := by
    obtain ⟨l, hl, -⟩ := Option.map_eq_some_iff.1 ht
    obtain rfl : l.1.token = t := by simpa using List.find?_some hl
    exact List.mem_map_of_mem (List.mem_map_of_mem (List.mem_of_find?_eq_some hl))
  exact (List.idxOf_inj hmem).1 (le_antisymm (not_lt.1 hge) (not_lt.1 hle))

end Preference

/-! ## Tables -/

namespace Accept

open Preference

/-- The highest weight of each token and the position of its first entry. -/
abbrev Table := Std.HashMap String (Weight × Nat)

/-- Adds an entry at a position: a known token keeps its position and has the higher weight. -/
def Table.note (table : Table) (entry : Preference × Nat) : Table :=
  table.alter entry.1.token fun
    | none => some (entry.1.weight, entry.2)
    | some (w, first) => some (max w entry.1.weight, first)

/-- The entries of a header that are not blank, with the positions of their pieces. -/
def placed (header : String) : List (List Char × Nat) :=
  ((Text.splitChars ',' header.toList).map Text.trimChars).zipIdx.filter (!·.1.isEmpty)

/-- One token of a table ranks no lower than another: it weighs more, or the same and has no later position. -/
def noLower (x y : String × Weight × Nat) : Bool := y.2.1 < x.2.1 ∨ y.2.1 = x.2.1 ∧ x.2.2 ≤ y.2.2

/-- Ranks the tokens of a table, which come in some order. -/
def ofTokens (header : String) (tokens : List (String × Weight × Nat)) : Accept :=
  let ranked := tokens.mergeSort noLower
  { header
    acceptable := (ranked.filter (0 < ·.2.1)).map fun x => ⟨x.1, x.2.1⟩
    unacceptable := ((ranked.filter (·.2.1 == 0)).map (·.1)).mergeSort fun s t => s ≤ t }

/-- Parses a header by way of a table, whose tokens are listed in some order. -/
def parseWith (order : Table → List (String × Weight × Nat)) (header : String) : Except EncodingError Accept := do
  let table ← (placed header).foldlM (fun table entry => return table.note (← parseEntry entry.1, entry.2)) ∅
  return ofTokens header (order table)

variable {header : String} {listed : List (Preference × Nat)} {t : String} {w : Weight} {i : Nat}

theorem noLower_trans (x y z : String × Weight × Nat) (hxy : noLower x y = true) (hyz : noLower y z = true) :
    noLower x z = true := by
  grind [noLower]

theorem noLower_total (x y : String × Weight × Nat) : (noLower x y || noLower y x) = true := by
  grind [noLower]

/-- A table holds what its entries say. -/
theorem getElem?_note (listed : List (Preference × Nat)) (t : String) : (listed.foldl Table.note ∅)[t]? =
    (weight? (listed.map (·.1)) t).bind fun w => (position? listed t).map (w, ·) := by
  induction listed using List.reverseRecOn with
  | nil => exact Std.HashMap.getElem?_empty
  | append_singleton listed l ih =>
    rw [List.foldl_concat, Table.note, Std.HashMap.getElem?_alter, List.map_append, List.map_singleton, position?_concat]
    by_cases ht : l.1.token = t
    · subst ht
      rw [if_pos (beq_self_eq_true _), if_pos rfl, ih]
      cases hw : weight? (listed.map (·.1)) l.1.token with
      | none =>
        rw [weight?_concat_new hw, position?_eq_none_iff.2 (weight?_eq_none_iff.1 hw)]
        rfl
      | some w =>
        obtain ⟨i, hi⟩ := exists_position? hw
        rw [weight?_concat_self hw, hi]
        rfl
    · rw [if_neg (by simpa using ht), if_neg ht, weight?_concat_of_ne ht, ih, Option.or_none]

theorem getElem?_note_eq_some_iff : (listed.foldl Table.note ∅)[t]? = some (w, i) ↔
    weight? (listed.map (·.1)) t = some w ∧ position? listed t = some i := by
  simp [getElem?_note, Option.bind_eq_some_iff]

section Tokens

variable {tokens : List (String × Weight × Nat)} {x : String × Weight × Nat}

theorem mem_tokens_iff (htokens : tokens.Perm (listed.foldl Table.note ∅).toList) : x ∈ tokens.mergeSort noLower ↔
    weight? (listed.map (·.1)) x.1 = some x.2.1 ∧ position? listed x.1 = some x.2.2 := by
  rw [((List.mergeSort_perm tokens noLower).trans htokens).mem_iff, Std.HashMap.mem_toList_iff_getElem?_eq_some,
    getElem?_note_eq_some_iff]

theorem pairwise_tokens_ne (htokens : tokens.Perm (listed.foldl Table.note ∅).toList) :
    (tokens.mergeSort noLower).Pairwise fun x y => x.1 ≠ y.1 :=
  (((List.mergeSort_perm tokens noLower).trans htokens).pairwise_iff Ne.symm).2
    (Std.HashMap.distinct_keys_toList.imp beq_eq_false_iff_ne.1)

/-- Positions make the order of the tokens a strict one. -/
theorem pairwise_tokens_outranks (hpositions : (listed.map (·.2)).Pairwise (· < ·))
    (htokens : tokens.Perm (listed.foldl Table.note ∅).toList) :
    (tokens.mergeSort noLower).Pairwise fun x y => Outranks (listed.map (·.1)) ⟨x.1, x.2.1⟩ ⟨y.1, y.2.1⟩ := by
  have hsorted : (tokens.mergeSort noLower).Pairwise fun x y => noLower x y = true :=
    List.pairwise_mergeSort noLower_trans noLower_total tokens
  refine (hsorted.and (pairwise_tokens_ne htokens)).imp_of_mem fun {x y} hx hy hxy => ?_
  obtain ⟨-, hi⟩ := (mem_tokens_iff htokens).1 hx
  obtain ⟨-, hj⟩ := (mem_tokens_iff htokens).1 hy
  obtain ⟨hlower, hne⟩ := hxy
  rcases of_decide_eq_true hlower with hlt | ⟨heq, hle⟩
  · exact .inl hlt
  · refine .inr ⟨heq, (place_lt_iff hpositions hi hj).2 (hle.lt_of_ne fun hij => hne ?_)⟩
    exact position?_inj hpositions hi (hij ▸ hj)

/-- In whatever order the tokens of a table come, their ranking is that of the entries. -/
theorem ranked_ofTokens (hpositions : (listed.map (·.2)).Pairwise (· < ·))
    (htokens : tokens.Perm (listed.foldl Table.note ∅).toList) : Ranked (listed.map (·.1)) (ofTokens header tokens) := by
  have hzeros : ((tokens.mergeSort noLower).filter (·.2.1 == 0)).Pairwise fun x y => x.1 ≠ y.1 :=
    (pairwise_tokens_ne htokens).filter _
  refine .of_weights (fun p => ?_) (List.pairwise_map.2 ((pairwise_tokens_outranks hpositions htokens).filter _))
    (fun t => ?_) (pairwise_sorted_of_nodup (List.pairwise_map.2 hzeros))
  · have hlisted : p ∈ (ofTokens header tokens).acceptable ↔
        ∃ x ∈ tokens.mergeSort noLower, 0 < x.2.1 ∧ (⟨x.1, x.2.1⟩ : Preference) = p := by
      simp [ofTokens, and_assoc]
    rw [hlisted]
    constructor
    · rintro ⟨x, hx, hpos, rfl⟩
      exact ⟨((mem_tokens_iff htokens).1 hx).1, hpos⟩
    · rintro ⟨hw, hpos⟩
      obtain ⟨i, hi⟩ := exists_position? hw
      exact ⟨(p.token, p.weight, i), (mem_tokens_iff htokens).2 ⟨hw, hi⟩, hpos, rfl⟩
  · have hlisted : t ∈ (ofTokens header tokens).unacceptable ↔ ∃ x ∈ tokens.mergeSort noLower, x.2.1 = 0 ∧ x.1 = t := by
      simp only [ofTokens, List.mem_mergeSort, List.mem_map, List.mem_filter, beq_iff_eq, and_assoc]
    rw [hlisted]
    constructor
    · rintro ⟨x, hx, hzero, rfl⟩
      rw [((mem_tokens_iff htokens).1 hx).1, hzero]
    · intro hw
      obtain ⟨i, hi⟩ := exists_position? hw
      exact ⟨(t, 0, i), (mem_tokens_iff htokens).2 ⟨hw, hi⟩, rfl, rfl⟩

end Tokens

theorem foldlM_note (entries : List (List Char × Nat)) (table : Table) :
    entries.foldlM (fun table entry => return table.note (← parseEntry entry.1, entry.2)) table =
      (entries.map (·.1)).mapM parseEntry >>= fun ps => .ok ((ps.zip (entries.map (·.2))).foldl Table.note table) := by
  induction entries generalizing table with
  | nil => rfl
  | cons entry entries ih =>
    rw [List.foldlM_cons, List.map_cons, List.mapM_cons]
    cases parseEntry entry.1 with
    | error e => rfl
    | ok p =>
      refine (ih _).trans ?_
      cases (entries.map (·.1)).mapM parseEntry with
      | error e => rfl
      | ok ps => rfl

theorem placed_fst : (placed header).map (·.1) = entries header := by
  rw [placed, entries, ← List.zipIdx_map_fst 0 ((Text.splitChars ',' header.toList).map Text.trimChars), List.filter_map,
    List.zipIdx_map_fst]
  rfl

theorem pairwise_placed_snd : ((placed header).map (·.2)).Pairwise (· < ·) := by
  refine List.Pairwise.sublist (List.filter_sublist.map _) ?_
  rw [List.zipIdx_map_snd]
  exact List.pairwise_lt_range' 1

/-- The order in which a table lists its tokens does not matter. -/
theorem parseWith_eq {order : Table → List (String × Weight × Nat)} (h : ∀ table, (order table).Perm table.toList)
    (header : String) : parseWith order header = parse header := by
  rw [parseWith, foldlM_note, placed_fst]
  cases hparse : parse header with
  | error e =>
    rw [parse_eq_error_iff.1 hparse]
    rfl
  | ok a =>
    obtain ⟨ps, hps, hheader, hranked⟩ := ranked_of_parse hparse
    have hlength : ps.length = (placed header).length := by
      rw [← (mapM_eq_ok_iff.1 hps).length_eq, ← placed_fst, List.length_map]
    have hfst : (ps.zip ((placed header).map (·.2))).map (·.1) = ps := List.map_fst_zip (by simp [hlength])
    have hsnd : (ps.zip ((placed header).map (·.2))).map (·.2) = (placed header).map (·.2) :=
      List.map_snd_zip (by simp [hlength])
    have hother : Ranked _ (ofTokens header _) := ranked_ofTokens (hsnd ▸ pairwise_placed_snd) (h _)
    rw [hfst] at hother
    rw [hps]
    exact congrArg Except.ok (hother.unique hranked hheader.symm)

/-- **The ranking of a header.** A header that is parsed is one whose entries all stand for preferences, and the list is
the ranking of what they say: every token once with its highest weight, by weight and then by the place of its first
entry, those of weight 0 apart. It does not depend on the order in which a table would list the tokens. -/
theorem ranking_of_parse {a : Accept} (h : parse header = .ok a) :
    a.header = header ∧ (∃ ps, List.Forall₂ Grants (entries header) ps ∧ Ranked ps a) ∧
      ∀ order : Table → List (String × Weight × Nat), (∀ table, (order table).Perm table.toList) →
        parseWith order header = .ok a := by
  obtain ⟨ps, hps, hheader, hranked⟩ := ranked_of_parse h
  refine ⟨hheader, ⟨ps, ?_, hranked⟩, fun order horder => (parseWith_eq horder header).trans h⟩
  exact (mapM_eq_ok_iff.1 hps).imp fun _ _ => parseEntry_eq_ok_iff.1

/-- Tokens named again in another case and with other weights, a blank piece, and a table read forwards and backwards. -/
theorem ranking_of_parse_repeated : ∃ a, parse "br;q=0.5, GZIP, *;q=0, gzip;q=0.2, ,br;q=1" = .ok a ∧
    ⟨"gzip", Weight.one⟩ ∈ a.acceptable ∧ ⟨"br", Weight.one⟩ ∈ a.acceptable ∧ "*" ∈ a.unacceptable ∧
    parseWith (fun table => table.toList) "br;q=0.5, GZIP, *;q=0, gzip;q=0.2, ,br;q=1" = .ok a ∧
    parseWith (fun table => table.toList.reverse) "br;q=0.5, GZIP, *;q=0, gzip;q=0.2, ,br;q=1" = .ok a := by
  let listed : List Preference :=
    [⟨"br", 0x3f000000⟩, ⟨"gzip", 0x3f800000⟩, ⟨"*", 0⟩, ⟨"gzip", 0x3e4ccccd⟩, ⟨"br", 0x3f800000⟩]
  have hlisted : (entries "br;q=0.5, GZIP, *;q=0, gzip;q=0.2, ,br;q=1").mapM parseEntry = .ok listed := by
    decide +kernel
  obtain ⟨a, ha⟩ := exists_parse_iff.2 (exists_mapM_eq_ok_iff.1 ⟨_, hlisted⟩)
  obtain ⟨-, ⟨ps, hps, hranked⟩, horder⟩ := ranking_of_parse ha
  obtain rfl : ps = listed := by
    rw [mapM_eq_ok_iff.2 (hps.imp fun _ _ => parseEntry_eq_ok_iff.2)] at hlisted
    exact Except.ok.inj hlisted
  refine ⟨a, ha, (hranked.acceptable _).2 ?_, (hranked.acceptable _).2 ?_, (hranked.unacceptable _).2 ?_,
    horder _ fun _ => .refl _, horder _ fun _ => List.reverse_perm _⟩
  · decide +kernel
  · decide +kernel
  · decide

end Accept
end BrokerClient
