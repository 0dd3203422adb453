import BrokerClient.Proofs.Topology.Validation
import Mathlib.Data.List.Sort

/-!
# The order of declarations does not matter

Collecting, grouping and reporting all follow the order in which declarations come. Yet what comes of building depends
only on which declarations there are: two collections that hold the same ones (`Alike`) are both built, and then hold the
same, or both refused, with equally many violations (`agree_of_alike`). So it does not matter in which order, how often or
through which topologies, built before and merged in, something is declared (`order_independent`).
-/

namespace BrokerClient

/-! ## Lists that hold the same -/

section Members

variable {α : Type} {same : α → α → Bool} {xs xs' ys ys' zs : List α}

/-- Two lists hold the same items, in any order and any number. -/
def SameMembers (same : α → α → Bool) (xs ys : List α) : Prop :=
  (∀ x ∈ xs, ∃ y ∈ ys, same x y = true) ∧ ∀ y ∈ ys, ∃ x ∈ xs, same y x = true

instance decidableSameMembers (same : α → α → Bool) (xs ys : List α) : Decidable (SameMembers same xs ys) :=
  inferInstanceAs (Decidable (_ ∧ _))

namespace SameMembers

theorem refl (hself : ∀ x ∈ xs, same x x = true) : SameMembers same xs xs :=
  ⟨fun x hx => ⟨x, hx, hself x hx⟩, fun x hx => ⟨x, hx, hself x hx⟩⟩

theorem symm (h : SameMembers same xs ys) : SameMembers same ys xs := ⟨h.2, h.1⟩

theorem trans (hc : Compares same) (h : SameMembers same xs ys) (h' : SameMembers same ys zs) :
    SameMembers same xs zs := by
  constructor
  · intro x hx
    obtain ⟨y, hy, hxy⟩ := h.1 x hx
    obtain ⟨z, hz, hyz⟩ := h'.1 y hy
    exact ⟨z, hz, hc.trans hxy hyz⟩
  · intro z hz
    obtain ⟨y, hy, hzy⟩ := h'.2 z hz
    obtain ⟨x, hx, hyx⟩ := h.2 y hy
    exact ⟨x, hx, hc.trans hzy hyx⟩

theorem append (h : SameMembers same xs ys) (h' : SameMembers same xs' ys') :
    SameMembers same (xs ++ xs') (ys ++ ys') := by
  constructor
  · intro x hx
    rcases List.mem_append.1 hx with hx | hx
    · exact (h.1 x hx).imp fun y hy => ⟨List.mem_append_left _ hy.1, hy.2⟩
    · exact (h'.1 x hx).imp fun y hy => ⟨List.mem_append_right _ hy.1, hy.2⟩
  · intro y hy
    rcases List.mem_append.1 hy with hy | hy
    · exact (h.2 y hy).imp fun x hx => ⟨List.mem_append_left _ hx.1, hx.2⟩
    · exact (h'.2 y hy).imp fun x hx => ⟨List.mem_append_right _ hx.1, hx.2⟩

/-- Lists with the same members hold the same items. -/
theorem of_mem_iff (hself : ∀ x ∈ xs, same x x = true) (h : ∀ x, x ∈ xs ↔ x ∈ ys) : SameMembers same xs ys :=
  ⟨fun x hx => ⟨x, (h x).1 hx, hself x hx⟩, fun x hx => ⟨x, (h x).2 hx, hself x ((h x).2 hx)⟩⟩

/-- Nothing is lost when only first occurrences are kept. -/
theorem firsts (hc : Compares same) (hself : ∀ x ∈ xs, same x x = true) : SameMembers same (firsts same xs) xs := by
  constructor
  · intro x hx
    have hx := (firsts_sublist xs).subset hx
    exact ⟨x, hx, hself x hx⟩
  · intro x hx
    obtain ⟨y, hy, hyx⟩ := exists_mem_firsts hc hx (hself x hx)
    exact ⟨y, hy, hc.comm y x ▸ hyx⟩

/-- How much comes of the first occurrences depends only on which items there are. -/
theorem length_flatMap_eq {β : Type} (hc : Compares same) {f g : α → List β}
    (hfg : ∀ {x y}, same x y = true → (f x).length = (g y).length)
    (hx : xs.Pairwise fun a b => same a b = false) (hy : ys.Pairwise fun a b => same a b = false)
    (h : SameMembers same xs ys) : (xs.flatMap f).length = (ys.flatMap g).length := by
  induction xs generalizing ys with
  | nil =>
    obtain rfl : ys = [] := List.eq_nil_iff_forall_not_mem.2 fun y hy => by
      obtain ⟨x, hx, -⟩ := h.2 y hy
      cases hx
    rfl
  | cons x xs ih =>
    obtain ⟨y, hmem, hxy⟩ := h.1 x (List.mem_cons_self ..)
    obtain ⟨l, r, rfl⟩ := List.append_of_mem hmem
    obtain ⟨hxs, hx⟩ := List.pairwise_cons.1 hx
    have hperm : (l ++ y :: r).Perm (y :: (l ++ r)) := List.perm_middle
    -- the partner of x is taken away, and no other item has lost its own
    obtain ⟨hys, hy⟩ := List.pairwise_cons.1 (hperm.pairwise hy fun {a b} hab => hc.comm a b ▸ hab)
    have hrest : SameMembers same xs (l ++ r) := by
      constructor
      · intro a ha
        obtain ⟨b, hb, hab⟩ := h.1 a (List.mem_cons_of_mem _ ha)
        rcases List.mem_cons.1 (hperm.mem_iff.1 hb) with rfl | hb
        · have hxa := hc.trans hxy (hc.comm a b ▸ hab)
          rw [hxs a ha] at hxa
          cases hxa
        · exact ⟨b, hb, hab⟩
      · intro b hb
        obtain ⟨a, ha, hba⟩ := h.2 b (hperm.mem_iff.2 (List.mem_cons_of_mem _ hb))
        rcases List.mem_cons.1 ha with rfl | ha
        · have hyb := hc.comm b y ▸ hc.trans hba hxy
          rw [hys b hb] at hyb
          cases hyb
        · exact ⟨a, ha, hba⟩
    rw [(hperm.flatMap_right g).length_eq, List.flatMap_cons, List.flatMap_cons, List.length_append, List.length_append,
      hfg hxy, ih hx hy hrest]

end SameMembers

variable {name : α → String} {n : String}

/-- Whether a name is disputed depends only on which items there are. -/
theorem Disputed.of_sameMembers (hc : Compares same) (hname : ∀ {a b}, same a b = true → name a = name b)
    (h : SameMembers same xs ys) (hd : Disputed same name xs n) : Disputed same name ys n := by
  obtain ⟨a, ha, b, hb, hna, hnb, hab⟩ := hd
  obtain ⟨c, hcm, hac⟩ := h.1 a ha
  obtain ⟨d, hdm, hbd⟩ := h.1 b hb
  refine ⟨c, hcm, d, hdm, (hname hac).symm.trans hna, (hname hbd).symm.trans hnb, ?_⟩
  by_contra hcd
  have hsame := hc.trans (hc.trans hac (Bool.not_eq_false _ ▸ hcd)) (hc.comm b d ▸ hbd)
  rw [hab] at hsame
  cases hsame

/-- Whether a name is kept more than once depends only on which items there are. -/
theorem one_lt_length_firsts_congr (hc : Compares same) (hname : ∀ {a b}, same a b = true → name a = name b)
    (hx : ∀ x ∈ xs, same x x = true) (hy : ∀ y ∈ ys, same y y = true) (h : SameMembers same xs ys) :
    1 < ((firsts same xs).filter (name · == n)).length ↔ 1 < ((firsts same ys).filter (name · == n)).length := by
  rw [one_lt_length_firsts hc hname hx, one_lt_length_firsts hc hname hy]
  exact ⟨.of_sameMembers hc hname h, .of_sameMembers hc hname h.symm⟩

/-- Whether a name is there depends only on which items there are. -/
theorem exists_named_of_sameMembers (hname : ∀ {a b}, same a b = true → name a = name b)
    (h : SameMembers same xs ys) (hx : ∃ a ∈ xs, name a = n) : ∃ b ∈ ys, name b = n := by
  obtain ⟨a, ha, hn⟩ := hx
  obtain ⟨b, hb, hab⟩ := h.1 a ha
  exact ⟨b, hb, (hname hab).symm.trans hn⟩

/-- An item is the same as one of the first occurrences under its name. -/
theorem exists_mem_firsts_named (hc : Compares same) (hname : ∀ {a b}, same a b = true → name a = name b) {a : α}
    (ha : a ∈ xs) (hself : same a a = true) (hn : name a = n) :
    ∃ c ∈ (firsts same xs).filter (name · == n), same c a = true := by
  obtain ⟨c, hc, hca⟩ := exists_mem_firsts hc ha hself
  refine ⟨c, List.mem_filter.2 ⟨hc, ?_⟩, hca⟩
  rw [hname hca, hn]
  exact beq_self_eq_true _

end Members

/-! ## Collections that hold the same -/

namespace Topology

/-- Two collections hold the same declarations, in any order and any number. -/
structure Alike (t u : Topology) : Prop where
  exchanges : SameMembers ExchangeDeclaration.same t.exchanges u.exchanges
  queues : SameMembers QueueDeclaration.same t.queues u.queues
  bindings : SameMembers Binding.same t.bindings u.bindings

/-- Both were built and hold the same, or both were refused, with equally many violations. -/
inductive Agree : Except (List Violation) Topology → Except (List Violation) Topology → Prop
  | built {t u : Topology} (h : t.Alike u) : Agree (.ok t) (.ok u)
  | refused {vs ws : List Violation} (h : vs.length = ws.length) : Agree (.error vs) (.error ws)

variable {all all' t u v : Topology}

namespace Alike

theorem symm (h : t.Alike u) : u.Alike t := ⟨h.exchanges.symm, h.queues.symm, h.bindings.symm⟩

theorem trans (h : t.Alike u) (h' : u.Alike v) : t.Alike v :=
  ⟨h.exchanges.trans ExchangeDeclaration.compares h'.exchanges, h.queues.trans QueueDeclaration.compares h'.queues,
    h.bindings.trans Binding.compares h'.bindings⟩

end Alike

namespace Numeric

theorem sameExchange (h : all.Numeric) : ∀ e ∈ all.exchanges, e.same e = true :=
  fun e he => ExchangeDeclaration.same_self (h.exchanges e he)

theorem sameQueue (h : all.Numeric) : ∀ q ∈ all.queues, q.same q = true :=
  fun q hq => QueueDeclaration.same_self (h.queues q hq)

theorem sameBinding (h : all.Numeric) : ∀ b ∈ all.bindings, b.same b = true :=
  fun b hb => Binding.same_self (h.bindings b hb)

theorem distinct (h : all.Numeric) : all.distinct.Numeric :=
  ⟨fun e he => h.exchanges e ((firsts_sublist _).subset he), fun q hq => h.queues q ((firsts_sublist _).subset hq),
    fun b hb => h.bindings b ((firsts_sublist _).subset hb)⟩

/-- What is kept of a collection holds the same as all of it. -/
theorem alike_distinct (h : all.Numeric) : all.distinct.Alike all :=
  ⟨.firsts ExchangeDeclaration.compares h.sameExchange, .firsts QueueDeclaration.compares h.sameQueue,
    .firsts Binding.compares h.sameBinding⟩

/-- Collections with the same members hold the same. -/
theorem alike_of_mem_iff (h : all.Numeric) (he : ∀ e, e ∈ all.exchanges ↔ e ∈ all'.exchanges)
    (hq : ∀ q, q ∈ all.queues ↔ q ∈ all'.queues) (hb : ∀ b, b ∈ all.bindings ↔ b ∈ all'.bindings) : all.Alike all' :=
  ⟨.of_mem_iff h.sameExchange he, .of_mem_iff h.sameQueue hq, .of_mem_iff h.sameBinding hb⟩

end Numeric

theorem Alike.refl (h : t.Numeric) : t.Alike t :=
  h.alike_of_mem_iff (fun _ => Iff.rfl) (fun _ => Iff.rfl) fun _ => Iff.rfl

/-! ## What is found in them -/

section Found

theorem Alike.hasExchange (h : all.Alike all') {n : String} : all.HasExchange n ↔ all'.HasExchange n :=
  ⟨exists_named_of_sameMembers ExchangeDeclaration.name_eq h.exchanges,
    exists_named_of_sameMembers ExchangeDeclaration.name_eq h.exchanges.symm⟩

theorem Alike.hasQueue (h : all.Alike all') {n : String} : all.HasQueue n ↔ all'.HasQueue n :=
  ⟨exists_named_of_sameMembers QueueDeclaration.name_eq h.queues,
    exists_named_of_sameMembers QueueDeclaration.name_eq h.queues.symm⟩

variable (hn : all.Numeric) (hn' : all'.Numeric) (h : all.Alike all')

include hn hn' h

theorem exchangeNames_eq : sortedNames (all.distinct.exchanges.map (·.name)) =
    sortedNames (all'.distinct.exchanges.map (·.name)) :=
  (pairwise_sortedNames _).eq_of_mem_iff (pairwise_sortedNames _) fun n => by
    rw [mem_exchangeNames hn, mem_exchangeNames hn', h.hasExchange]

theorem queueNames_eq : sortedNames (all.distinct.queues.map (·.name)) =
    sortedNames (all'.distinct.queues.map (·.name)) :=
  (pairwise_sortedNames _).eq_of_mem_iff (pairwise_sortedNames _) fun n => by
    rw [mem_queueNames hn, mem_queueNames hn', h.hasQueue]

theorem length_exchangeViolations (n : String) :
    (all.distinct.exchangeViolations n).length = (all'.distinct.exchangeViolations n).length := by
  have hdisputed : 1 < (all.distinct.exchanges.filter (·.name == n)).length ↔
      1 < (all'.distinct.exchanges.filter (·.name == n)).length :=
    one_lt_length_firsts_congr ExchangeDeclaration.compares ExchangeDeclaration.name_eq hn.sameExchange
      hn'.sameExchange h.exchanges
  simp only [exchangeViolations, hdisputed, List.length_append]
  split <;> rfl

theorem length_queueViolations (n : String) :
    (all.distinct.queueViolations n).length = (all'.distinct.queueViolations n).length := by
  have hdisputed : 1 < (all.distinct.queues.filter (·.name == n)).length ↔
      1 < (all'.distinct.queues.filter (·.name == n)).length :=
    one_lt_length_firsts_congr QueueDeclaration.compares QueueDeclaration.name_eq hn.sameQueue hn'.sameQueue h.queues
  simp only [queueViolations, hdisputed, List.length_append]
  split <;> rfl

/-- Bindings that are the same are at fault in equally many ways. -/
theorem length_bindingViolations {b c : Binding} (hbc : b.same c = true) :
    (all.distinct.bindingViolations b).length = (all'.distinct.bindingViolations c).length := by
  obtain ⟨hqueue, hexchange⟩ := Binding.ends_eq hbc
  have hdeclared (n : String) : all.distinct.declaresExchange n = all'.distinct.declaresExchange n := by
    rw [Bool.eq_iff_iff, declaresExchange_distinct hn, declaresExchange_distinct hn', h.hasExchange]
  have hdeclaredQueue (n : String) : all.distinct.declaresQueue n = all'.distinct.declaresQueue n := by
    rw [Bool.eq_iff_iff, declaresQueue_distinct hn, declaresQueue_distinct hn', h.hasQueue]
  simp only [bindingViolations, hqueue, hexchange, hdeclared, hdeclaredQueue, List.length_append]
  split_ifs <;> rfl

/-- Equally many violations are found. -/
theorem length_violations : all.distinct.violations.length = all'.distinct.violations.length := by
  have hbindings : SameMembers Binding.same all.distinct.bindings all'.distinct.bindings :=
    (hn.alike_distinct.trans (h.trans hn'.alike_distinct.symm)).bindings
  have hlength : (all.distinct.bindings.flatMap all.distinct.bindingViolations).length =
      (all'.distinct.bindings.flatMap all'.distinct.bindingViolations).length :=
    hbindings.length_flatMap_eq Binding.compares (length_bindingViolations hn hn' h) (pairwise_firsts _)
      (pairwise_firsts _)
  simp only [violations, List.length_append, hlength]
  simp only [List.length_flatMap, exchangeNames_eq hn hn' h, queueNames_eq hn hn' h,
    length_exchangeViolations hn hn' h, length_queueViolations hn hn' h]

/-- **What comes of building depends only on which declarations there are.** -/
theorem agree_of_alike : Agree all.distinct.build all'.distinct.build := by
  have hlen := length_violations hn hn' h
  rcases build_cases all.distinct with ⟨hnil, hbuild⟩ | ⟨hne, hbuild⟩
  · rw [hnil] at hlen
    rcases build_cases all'.distinct with ⟨-, hbuild'⟩ | ⟨hne', -⟩
    · rw [hbuild, hbuild']
      exact .built (hn.alike_distinct.trans (h.trans hn'.alike_distinct.symm))
    · exact absurd (List.length_eq_zero_iff.1 hlen.symm) hne'
  · rcases build_cases all'.distinct with ⟨hnil', -⟩ | ⟨-, hbuild'⟩
    · rw [hnil'] at hlen
      exact absurd (List.length_eq_zero_iff.1 hlen) hne
    · rw [hbuild, hbuild']
      exact .refused hlen

end Found

/-- A collection with which nothing is wrong is built. -/
theorem build_of_sound (h : all.Numeric) (hs : all.Sound) : all.distinct.build = .ok all.distinct := by
  rcases build_cases all.distinct with ⟨-, hbuild⟩ | ⟨hne, -⟩
  · exact hbuild
  · obtain ⟨w, hw⟩ := List.exists_mem_of_ne_nil _ hne
    exact absurd ((mem_violations h w).1 hw) ((sound_iff h).1 hs w)

/-! ## In whatever order -/

section Steps

variable {p q r : List Step}

theorem added_append (p q : List Step) : added (p ++ q) =
    ⟨(added p).exchanges ++ (added q).exchanges, (added p).queues ++ (added q).queues,
      (added p).bindings ++ (added q).bindings⟩ := by
  simp only [added, List.flatMap_append]

theorem added_merge (t : Topology) : added [.merge t] = t := by
  simp only [added, Step.added, List.flatMap_singleton]

theorem Alike.append {p p' q q' : List Step} (h : (added p).Alike (added p')) (h' : (added q).Alike (added q')) :
    (added (p ++ q)).Alike (added (p' ++ q')) := by
  rw [added_append, added_append]
  exact ⟨h.exchanges.append h'.exchanges, h.queues.append h'.queues, h.bindings.append h'.bindings⟩

theorem Numeric.append (h : (added p).Numeric) (h' : (added q).Numeric) : (added (p ++ q)).Numeric := by
  rw [added_append]
  refine ⟨fun e he => ?_, fun q hq => ?_, fun b hb => ?_⟩
  · exact (List.mem_append.1 he).elim (h.exchanges e) (h'.exchanges e)
  · exact (List.mem_append.1 hq).elim (h.queues q) (h'.queues q)
  · exact (List.mem_append.1 hb).elim (h.bindings b) (h'.bindings b)

/-- What was built holds what the steps added. -/
theorem alike_of_build (h : (added p).Numeric) (hbuild : (assemble p).build = .ok t) :
    t.Numeric ∧ t.Alike (added p) := by
  rw [assemble_eq] at hbuild
  rcases build_cases (added p).distinct with ⟨-, hok⟩ | ⟨-, herror⟩
  · rw [hok] at hbuild
    cases hbuild
    exact ⟨h.distinct, h.alike_distinct⟩
  · rw [herror] at hbuild
    cases hbuild

/-- A topology merged in adds what it was built from. -/
theorem alike_merge {before after : List Step} (hb : (added before).Numeric) (hq : (added q).Numeric)
    (ha : (added after).Numeric) (hbuild : (assemble q).build = .ok u) :
    (added (before ++ .merge u :: after)).Numeric ∧
      (added (before ++ .merge u :: after)).Alike (added (before ++ q ++ after)) := by
  obtain ⟨hnumeric, hu⟩ := alike_of_build hq hbuild
  rw [← added_merge u] at hnumeric hu
  have hcons : before ++ .merge u :: after = before ++ [.merge u] ++ after := List.append_cons ..
  rw [hcons]
  exact ⟨(hb.append hnumeric).append ha, ((Alike.refl hb).append hu).append (Alike.refl ha)⟩

end Steps

/-! ## Merging -/

/-- What comes of merging two topologies into a new one. -/
def union (t u : Topology) : Except (List Violation) Topology := (assemble [.merge t, .merge u]).build

section Union

theorem added_pair (t u : Topology) : added [.merge t, .merge u] =
    ⟨t.exchanges ++ u.exchanges, t.queues ++ u.queues, t.bindings ++ u.bindings⟩ := by
  simp [added, Step.added]

theorem Numeric.pair (ht : t.Numeric) (hu : u.Numeric) : (added [.merge t, .merge u]).Numeric := by
  rw [← added_merge t] at ht
  rw [← added_merge u] at hu
  exact ht.append hu

theorem union_comm (ht : t.Numeric) (hu : u.Numeric) : Agree (t.union u) (u.union t) := by
  rw [union, union, assemble_eq, assemble_eq]
  refine agree_of_alike (ht.pair hu) (hu.pair ht) ((ht.pair hu).alike_of_mem_iff ?_ ?_ ?_) <;>
    · intro x
      simp only [added_pair, List.mem_append]
      exact or_comm

/-- Merging a topology built from two others is merging both. -/
theorem union_assoc (ht : t.Numeric) (hu : u.Numeric) (hv : v.Numeric) {tu uv : Topology} (htu : t.union u = .ok tu)
    (huv : u.union v = .ok uv) : Agree (tu.union v) (t.union uv) := by
  have ht' : (added [.merge t]).Numeric := by rwa [added_merge]
  have hv' : (added [.merge v]).Numeric := by rwa [added_merge]
  have hnil : (added []).Numeric := ⟨nofun, nofun, nofun⟩
  obtain ⟨hleft, hleft'⟩ := alike_merge hnil (ht.pair hu) hv' htu
  obtain ⟨hright, hright'⟩ := alike_merge ht' (hu.pair hv) hnil huv
  rw [union, union, assemble_eq, assemble_eq]
  exact agree_of_alike hleft hright (hleft'.trans hright'.symm)

/-- A built topology merged with itself is itself. -/
theorem union_self {p : List Step} (hp : (added p).Numeric) (hbuild : (assemble p).build = .ok t) :
    Agree (t.union t) (.ok t) := by
  obtain ⟨ht, halike⟩ := alike_of_build hp hbuild
  have htwice : (added [.merge t, .merge t]).Alike t := by
    refine (ht.pair ht).alike_of_mem_iff ?_ ?_ ?_ <;>
      · intro x
        simp only [added_pair, List.mem_append, or_self]
  rw [← hbuild, union, assemble_eq, assemble_eq]
  exact agree_of_alike (ht.pair ht) hp (htwice.trans halike)

end Union

/-! ## Conflicts -/

section Conflicts

/-- What is wrong with what was added is reported. -/
theorem reported_of_warrants (h : all.Numeric) {w : Violation} (hw : all.Warrants w) :
    ∃ vs, all.distinct.build = .error vs ∧ w ∈ vs := by
  have hfound := (mem_violations h w).2 hw
  rcases build_cases all.distinct with ⟨hnil, -⟩ | ⟨-, hbuild⟩
  · rw [hnil] at hfound
    cases hfound
  · exact ⟨_, hbuild, hfound⟩

variable {p : List Step}

/-- Whatever else is added, two different exchanges of one name are refused, and both are listed. -/
theorem conflicting_exchanges (hp : (added p).Numeric) {a b : ExchangeDeclaration} (ha : a ∈ (added p).exchanges)
    (hb : b ∈ (added p).exchanges) (hname : a.name = b.name) (hab : a.same b = false) :
    ∃ vs declared, (assemble p).build = .error vs ∧ .conflictingExchange a.name declared ∈ vs ∧
      (∃ c ∈ declared, c.same a = true) ∧ ∃ c ∈ declared, c.same b = true := by
  have hwarrants : (added p).Warrants (.conflictingExchange a.name ((added p).distinct.exchanges.filter (·.name == a.name))) :=
    ⟨⟨a, ha, b, hb, rfl, hname.symm, hab⟩, rfl⟩
  obtain ⟨vs, hbuild, hreported⟩ := reported_of_warrants hp hwarrants
  have hlisted {e : ExchangeDeclaration} (he : e ∈ (added p).exchanges) (hn : e.name = a.name) :=
    exists_mem_firsts_named ExchangeDeclaration.compares ExchangeDeclaration.name_eq he (hp.sameExchange e he) hn
  exact ⟨vs, _, assemble_eq p ▸ hbuild, hreported, hlisted ha rfl, hlisted hb hname.symm⟩

theorem conflicting_queues (hp : (added p).Numeric) {a b : QueueDeclaration} (ha : a ∈ (added p).queues)
    (hb : b ∈ (added p).queues) (hname : a.name = b.name) (hab : a.same b = false) :
    ∃ vs declared, (assemble p).build = .error vs ∧ .conflictingQueue a.name declared ∈ vs ∧
      (∃ c ∈ declared, c.same a = true) ∧ ∃ c ∈ declared, c.same b = true := by
  have hwarrants : (added p).Warrants (.conflictingQueue a.name ((added p).distinct.queues.filter (·.name == a.name))) :=
    ⟨⟨a, ha, b, hb, rfl, hname.symm, hab⟩, rfl⟩
  obtain ⟨vs, hbuild, hreported⟩ := reported_of_warrants hp hwarrants
  have hlisted {q : QueueDeclaration} (hq : q ∈ (added p).queues) (hn : q.name = a.name) :=
    exists_mem_firsts_named QueueDeclaration.compares QueueDeclaration.name_eq hq (hp.sameQueue q hq) hn
  exact ⟨vs, _, assemble_eq p ▸ hbuild, hreported, hlisted ha rfl, hlisted hb hname.symm⟩

end Conflicts

/-! ## The order of declarations -/

/-- **The order of declarations does not matter.** Two programs that add the same declarations, in any order and with any
repetitions, are both built and hold the same, or are both refused, with equally many violations; and so are a program
that merges in a topology built before and one that takes the steps of that topology instead. Merging is commutative,
associative and idempotent, and two different declarations of one name are refused, whichever comes last. -/
theorem order_independent :
    (∀ p q, (added p).Numeric → (added q).Numeric → (added p).Alike (added q) →
      Agree (assemble p).build (assemble q).build) ∧
    (∀ before q after u, (added before).Numeric → (added q).Numeric → (added after).Numeric →
      (assemble q).build = .ok u →
        Agree (assemble (before ++ .merge u :: after)).build (assemble (before ++ q ++ after)).build) ∧
    (∀ t u : Topology, t.Numeric → u.Numeric → Agree (t.union u) (u.union t)) ∧
    (∀ t u v tu uv : Topology, t.Numeric → u.Numeric → v.Numeric → t.union u = .ok tu → u.union v = .ok uv →
      Agree (tu.union v) (t.union uv)) ∧
    (∀ p t, (added p).Numeric → (assemble p).build = .ok t → Agree (t.union t) (.ok t)) ∧
    ∀ p, (added p).Numeric →
      (∀ a ∈ (added p).exchanges, ∀ b ∈ (added p).exchanges, a.name = b.name → a.same b = false →
        ∃ vs declared, (assemble p).build = .error vs ∧ .conflictingExchange a.name declared ∈ vs ∧
          (∃ c ∈ declared, c.same a = true) ∧ ∃ c ∈ declared, c.same b = true) ∧
      ∀ a ∈ (added p).queues, ∀ b ∈ (added p).queues, a.name = b.name → a.same b = false →
        ∃ vs declared, (assemble p).build = .error vs ∧ .conflictingQueue a.name declared ∈ vs ∧
          (∃ c ∈ declared, c.same a = true) ∧ ∃ c ∈ declared, c.same b = true := by
  refine ⟨?_, ?_, fun t u => union_comm, fun t u v tu uv ht hu hv => union_assoc ht hu hv, fun p t => union_self, ?_⟩
  · intro p q hp hq h
    rw [assemble_eq, assemble_eq]
    exact agree_of_alike hp hq h
  · intro before q after u hb hq ha hbuild
    obtain ⟨hnumeric, halike⟩ := alike_merge hb hq ha hbuild
    rw [assemble_eq, assemble_eq]
    exact agree_of_alike hnumeric ((hb.append hq).append ha) halike
  · intro p hp
    exact ⟨fun a ha b hb => conflicting_exchanges hp ha hb, fun a ha b hb => conflicting_queues hp ha hb⟩

/-- A queue bound to an exchange. -/
def boundJobs : List Step := [
  .queue { name := "jobs" }, .exchange { name := "work" }, .binding { queue := "jobs", exchange := "work" }]

/-- Another declaration of the queue. -/
def durableJobs : List Step := [.queue { name := "jobs", durable := true }]

/-- All of these in another order and with a repetition. -/
def contestedJobs : List Step := [
  .binding { queue := "jobs", exchange := "work" }, .queue { name := "jobs", durable := true },
  .exchange { name := "work" }, .binding { queue := "jobs", exchange := "work" }, .queue { name := "jobs" }]

theorem order_independent_jobs : ∃ t tt, (assemble boundJobs).build = .ok t ∧ t.union t = .ok tt ∧ tt.Alike t ∧
    Agree (tt.union t) (t.union tt) ∧
    Agree (assemble (.merge t :: durableJobs)).build (assemble (boundJobs ++ durableJobs)).build ∧
    Agree (assemble (boundJobs ++ durableJobs)).build (assemble contestedJobs).build ∧
    ∃ vs declared, (assemble contestedJobs).build = .error vs ∧ .conflictingQueue "jobs" declared ∈ vs := by
  have hnothing : (added []).Numeric := ⟨nofun, nofun, nofun⟩
  have hbound : (added boundJobs).Numeric := ⟨by decide, by decide, by decide⟩
  have hdurable : (added durableJobs).Numeric := ⟨by decide, by decide, by decide⟩
  have hcontested : (added contestedJobs).Numeric := ⟨by decide, by decide, by decide⟩
  have halike : (added (boundJobs ++ durableJobs)).Alike (added contestedJobs) := ⟨by decide, by decide, by decide⟩
  have hsound : (added boundJobs).Sound := by
    refine ⟨by decide, by decide, by decide, by decide, ?_, ?_⟩
    · simp only [added, boundJobs, Step.added, HasQueue]
      decide
    · simp only [added, boundJobs, Step.added, HasExchange]
      decide
  obtain ⟨hsame, hmerged, -, hassoc, hself, hconflict⟩ := order_independent
  obtain ⟨t, ht⟩ : ∃ t, (assemble boundJobs).build = .ok t := ⟨_, assemble_eq boundJobs ▸ build_of_sound hbound hsound⟩
  obtain ⟨hnumeric, -⟩ := alike_of_build hbound ht
  have htwice := hself boundJobs t hbound ht
  cases htt : t.union t with
  | error vs => rw [htt] at htwice; cases htwice
  | ok tt =>
    rw [htt] at htwice
    obtain ⟨hagain⟩ := htwice
    obtain ⟨vs, declared, hrefused, hreported, -⟩ := (hconflict contestedJobs hcontested).2
      { name := "jobs" } (by simp [contestedJobs, added, Step.added]) { name := "jobs", durable := true }
      (by simp [contestedJobs, added, Step.added]) rfl (by decide)
    exact ⟨t, tt, ht, htt, hagain, hassoc t t t tt tt hnumeric hnumeric hnumeric htt htt,
      hmerged [] boundJobs durableJobs t hnothing hbound hdurable ht,
      hsame _ _ (hbound.append hdurable) hcontested halike, vs, declared, hrefused, hreported⟩

end Topology
end BrokerClient
