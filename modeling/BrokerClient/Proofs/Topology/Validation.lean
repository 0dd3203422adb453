import BrokerClient.Proofs.Topology.Collecting
import Mathlib.Data.List.Nodup
import Mathlib.Data.List.Pairwise
import Mathlib.Data.String.Basic

/-!
# What validation finds

A collection is judged by everything that was added to it. `Sound` says when nothing is wrong with that, `Warrants`
which violations there are, and `Violation.Precedes` in which order they are to be reported. `validated`: a collection
is built exactly when nothing is wrong, and then holds just what was added, each declaration once; otherwise every
violation that there is is reported, none that there is not, each once and in order.
-/

namespace BrokerClient

/-! ## Names -/

section Names

variable {α : Type} {same : α → α → Bool} {name : α → String} {items : List α} {n : String}

/-- Two items of one name that are not the same. -/
def Disputed (same : α → α → Bool) (name : α → String) (items : List α) (n : String) : Prop :=
  ∃ a ∈ items, ∃ b ∈ items, name a = n ∧ name b = n ∧ same a b = false

/-- The first occurrences have the names that there are. -/
theorem exists_named_firsts (h : Compares same) (hname : ∀ {a b}, same a b = true → name a = name b)
    (hself : ∀ a ∈ items, same a a = true) : (∃ a ∈ firsts same items, name a = n) ↔ ∃ a ∈ items, name a = n := by
  constructor
  · rintro ⟨a, ha, hn⟩
    exact ⟨a, (firsts_sublist items).subset ha, hn⟩
  · rintro ⟨a, ha, hn⟩
    obtain ⟨b, hb, hba⟩ := exists_mem_firsts h ha (hself a ha)
    exact ⟨b, hb, (hname hba).trans hn⟩

/-- More than one item of a name is left exactly when two of that name are not the same. -/
theorem one_lt_length_firsts (h : Compares same) (hname : ∀ {a b}, same a b = true → name a = name b)
    (hself : ∀ a ∈ items, same a a = true) :
    1 < ((firsts same items).filter (name · == n)).length ↔ Disputed same name items n := by
  have hmem : ∀ a, a ∈ (firsts same items).filter (name · == n) ↔ a ∈ firsts same items ∧ name a = n := by simp
  constructor
  · intro hlen
    have hpair : ((firsts same items).filter (name · == n)).Pairwise fun a b => same a b = false :=
      (pairwise_firsts items).filter _
    cases hl : (firsts same items).filter (name · == n) with
    | nil => simp [hl] at hlen
    | cons a rest => cases rest with
      | nil => simp [hl] at hlen
      | cons b rest =>
        rw [hl] at hmem hpair
        obtain ⟨ha, hna⟩ := (hmem a).1 (by simp)
        obtain ⟨hb, hnb⟩ := (hmem b).1 (by simp)
        have hab : same a b = false := (List.pairwise_cons.1 hpair).1 b (by simp)
        exact ⟨a, (firsts_sublist items).subset ha, b, (firsts_sublist items).subset hb, hna, hnb, hab⟩
  · rintro ⟨a, ha, b, hb, hna, hnb, hab⟩
    obtain ⟨c, hc, hca⟩ := exists_mem_firsts h ha (hself a ha)
    obtain ⟨d, hd, hdb⟩ := exists_mem_firsts h hb (hself b hb)
    have hcl := (hmem c).2 ⟨hc, (hname hca).trans hna⟩
    have hdl := (hmem d).2 ⟨hd, (hname hdb).trans hnb⟩
    by_contra hlen
    obtain rfl : c = d := by
      cases hl : (firsts same items).filter (name · == n) with
      | nil => simp [hl] at hcl
      | cons x rest =>
        obtain rfl : rest = [] := by simpa [hl] using hlen
        rw [hl, List.mem_singleton] at hcl hdl
        rw [hcl, hdl]
    -- both would be the same as the one that is left
    rw [h.trans (h.comm c a ▸ hca) hdb] at hab
    cases hab

end Names

/-! ## The order of names -/

namespace Topology

theorem nodup_eraseDups : (names : List String) → names.eraseDups.Nodup
  | [] => .nil
  | n :: names => by
    rw [List.eraseDups_cons, List.nodup_cons]
    exact ⟨by simp, nodup_eraseDups _⟩
termination_by names => names.length
decreasing_by
  simp only [List.length_cons]
  exact Nat.lt_succ_of_le (List.length_filter_le ..)

theorem mem_sortedNames {names : List String} {n : String} : n ∈ sortedNames names ↔ n ∈ names := by
  simp [sortedNames]

theorem pairwise_sortedNames (names : List String) : (sortedNames names).Pairwise (· < ·) := by
  have hsorted : (sortedNames names).Pairwise (· ≤ ·) := by
    have h : (names.eraseDups.mergeSort fun a b => decide (a ≤ b)).Pairwise fun a b => decide (a ≤ b) :=
      List.pairwise_mergeSort (fun a b c => by simpa using String.le_trans)
        (fun a b => by simpa using String.le_total a b) names.eraseDups
    simpa [sortedNames] using h
  have hnodup : (sortedNames names).Nodup := List.nodup_mergeSort.2 (nodup_eraseDups names)
  refine (hsorted.and hnodup).imp ?_
  rintro a b ⟨hle, hne⟩
  exact lt_of_le_of_ne hle hne

/-! ## What can be wrong -/

/-- Everything added can be compared: no argument holds a pattern that is not a number. -/
structure Numeric (all : Topology) : Prop where
  exchanges : ∀ e ∈ all.exchanges, e.arguments.isNumeric = true
  queues : ∀ q ∈ all.queues, q.arguments.isNumeric = true
  bindings : ∀ b ∈ all.bindings, b.arguments.isNumeric = true

/-- An exchange of this name was added. -/
def HasExchange (all : Topology) (n : String) : Prop := ∃ e ∈ all.exchanges, e.name = n

/-- A queue of this name was added. -/
def HasQueue (all : Topology) (n : String) : Prop := ∃ q ∈ all.queues, q.name = n

/-- Nothing is wrong with what was added. -/
structure Sound (all : Topology) : Prop where
  exchanges : ∀ a ∈ all.exchanges, ∀ b ∈ all.exchanges, a.name = b.name → a.same b = true
  queues : ∀ a ∈ all.queues, ∀ b ∈ all.queues, a.name = b.name → a.same b = true
  ownExchanges : ∀ e ∈ all.exchanges, e.name ∉ builtinExchanges
  ownQueues : ∀ q ∈ all.queues, q.name ≠ directReplyTo
  targets : ∀ b ∈ all.bindings, b.queue ≠ directReplyTo ∧ all.HasQueue b.queue
  sources : ∀ b ∈ all.bindings, all.HasExchange b.exchange ∨ b.exchange ∈ builtinExchanges

/-- What is wrong with what was added. -/
def Warrants (all : Topology) : Violation → Prop
  | .conflictingExchange n declared => Disputed ExchangeDeclaration.same (·.name) all.exchanges n ∧
    declared = all.distinct.exchanges.filter (·.name == n)
  | .builtinExchange n => n ∈ builtinExchanges ∧ all.HasExchange n
  | .conflictingQueue n declared => Disputed QueueDeclaration.same (·.name) all.queues n ∧
    declared = all.distinct.queues.filter (·.name == n)
  | .reservedQueue n => n = directReplyTo ∧ all.HasQueue n
  | .reservedTarget b => b ∈ all.distinct.bindings ∧ b.queue = directReplyTo
  | .undeclaredQueue b => b ∈ all.distinct.bindings ∧ b.queue ≠ directReplyTo ∧ ¬ all.HasQueue b.queue
  | .undeclaredExchange b => b ∈ all.distinct.bindings ∧ ¬ all.HasExchange b.exchange ∧ b.exchange ∉ builtinExchanges

/-- What a violation is about. -/
inductive Subject where
  | exchange (name : String)
  | queue (name : String)
  | binding (b : Binding)

/-- Exchanges and queues go by name, exchanges first, and bindings come last, in the order in which they were added. -/
def Subject.Precedes (bindings : List Binding) : Subject → Subject → Prop
  | .exchange m, .exchange n => m < n
  | .queue m, .queue n => m < n
  | .binding b, .binding c => [b, c].Sublist bindings
  | .exchange _, _ | .queue _, .binding _ => True
  | _, _ => False

end Topology

namespace Violation

def subject : Violation → Topology.Subject
  | .conflictingExchange n _ | .builtinExchange n => .exchange n
  | .conflictingQueue n _ | .reservedQueue n => .queue n
  | .reservedTarget b | .undeclaredQueue b | .undeclaredExchange b => .binding b

/-- Whether a violation comes behind the others about the same thing. -/
def isSecond : Violation → Bool
  | .builtinExchange _ | .reservedQueue _ | .undeclaredExchange _ => true
  | _ => false

/-- The order in which violations are reported. -/
def Precedes (bindings : List Binding) (v w : Violation) : Prop :=
  v.subject.Precedes bindings w.subject ∨ v.subject = w.subject ∧ v.isSecond = false ∧ w.isSecond = true

end Violation

/-! ## What is found -/

namespace Topology

section Found

variable {all : Topology}

theorem declaresExchange_distinct (h : all.Numeric) (n : String) :
    all.distinct.declaresExchange n = true ↔ all.HasExchange n := by
  rw [HasExchange, ← exists_named_firsts ExchangeDeclaration.compares ExchangeDeclaration.name_eq
    fun e he => ExchangeDeclaration.same_self (h.exchanges e he)]
  simp [declaresExchange, distinct]

theorem declaresQueue_distinct (h : all.Numeric) (n : String) :
    all.distinct.declaresQueue n = true ↔ all.HasQueue n := by
  rw [HasQueue, ← exists_named_firsts QueueDeclaration.compares QueueDeclaration.name_eq
    fun q hq => QueueDeclaration.same_self (h.queues q hq)]
  simp [declaresQueue, distinct]

theorem isBuiltinExchange_iff {n : String} : isBuiltinExchange n = true ↔ n ∈ builtinExchanges := by
  simp [isBuiltinExchange]

/-- What is found about the exchanges of a name. -/
theorem mem_exchangeViolations (h : all.Numeric) {n : String} {v : Violation} :
    v ∈ all.distinct.exchangeViolations n ↔
      (Disputed ExchangeDeclaration.same (·.name) all.exchanges n ∧
        v = .conflictingExchange n (all.distinct.exchanges.filter (·.name == n))) ∨
      (n ∈ builtinExchanges ∧ v = .builtinExchange n) := by
  have hlen := one_lt_length_firsts (n := n) ExchangeDeclaration.compares ExchangeDeclaration.name_eq
    fun e he => ExchangeDeclaration.same_self (h.exchanges e he)
  rw [← hlen, ← isBuiltinExchange_iff]
  simp only [exchangeViolations, List.mem_append, List.mem_ite_nil_right, List.mem_singleton]
  rfl

theorem mem_queueViolations (h : all.Numeric) {n : String} {v : Violation} :
    v ∈ all.distinct.queueViolations n ↔
      (Disputed QueueDeclaration.same (·.name) all.queues n ∧
        v = .conflictingQueue n (all.distinct.queues.filter (·.name == n))) ∨
      (n = directReplyTo ∧ v = .reservedQueue n) := by
  have hlen := one_lt_length_firsts (n := n) QueueDeclaration.compares QueueDeclaration.name_eq
    fun q hq => QueueDeclaration.same_self (h.queues q hq)
  rw [← hlen]
  simp only [queueViolations, List.mem_append, List.mem_ite_nil_right, List.mem_singleton]
  rfl

theorem mem_bindingViolations (h : all.Numeric) {b : Binding} {v : Violation} :
    v ∈ all.distinct.bindingViolations b ↔
      (b.queue = directReplyTo ∧ v = .reservedTarget b) ∨
      (b.queue ≠ directReplyTo ∧ ¬ all.HasQueue b.queue ∧ v = .undeclaredQueue b) ∨
      (¬ all.HasExchange b.exchange ∧ b.exchange ∉ builtinExchanges ∧ v = .undeclaredExchange b) := by
  rw [← declaresQueue_distinct h, ← declaresExchange_distinct h, ← isBuiltinExchange_iff]
  unfold bindingViolations
  by_cases hq : b.queue = directReplyTo <;> simp [hq, and_assoc]

theorem mem_exchangeNames (h : all.Numeric) {n : String} :
    n ∈ sortedNames (all.distinct.exchanges.map (·.name)) ↔ all.HasExchange n := by
  rw [mem_sortedNames, ← declaresExchange_distinct h]
  simp [declaresExchange]

theorem mem_queueNames (h : all.Numeric) {n : String} :
    n ∈ sortedNames (all.distinct.queues.map (·.name)) ↔ all.HasQueue n := by
  rw [mem_sortedNames, ← declaresQueue_distinct h]
  simp [declaresQueue]

/-- **What is found is what is wrong.** -/
theorem mem_violations (h : all.Numeric) (v : Violation) : v ∈ all.distinct.violations ↔ all.Warrants v := by
  simp only [violations, List.mem_append, List.mem_flatMap, mem_exchangeNames h, mem_queueNames h,
    mem_exchangeViolations h, mem_queueViolations h, mem_bindingViolations h]
  cases v with
  | conflictingExchange n declared =>
    have hhas : Disputed ExchangeDeclaration.same (·.name) all.exchanges n → all.HasExchange n :=
      fun ⟨a, ha, _, _, hn, _⟩ => ⟨a, ha, hn⟩
    grind [Warrants]
  | conflictingQueue n declared =>
    have hhas : Disputed QueueDeclaration.same (·.name) all.queues n → all.HasQueue n :=
      fun ⟨a, ha, _, _, hn, _⟩ => ⟨a, ha, hn⟩
    grind [Warrants]
  | builtinExchange n => simp [Warrants, and_comm]
  | reservedQueue n => simp [Warrants, and_comm]
  | reservedTarget b => simp [Warrants]
  | undeclaredQueue b => simp [Warrants]
  | undeclaredExchange b => simp [Warrants]

end Found

/-! ## In which order -/

section Order

variable {t : Topology} {bindings : List Binding}

/-- Everything that violations can be about, in order. -/
def subjects (t : Topology) : List Subject :=
  (sortedNames (t.exchanges.map (·.name))).map .exchange ++ (sortedNames (t.queues.map (·.name))).map .queue ++
    t.bindings.map .binding

def violationsAbout (t : Topology) : Subject → List Violation
  | .exchange n => t.exchangeViolations n
  | .queue n => t.queueViolations n
  | .binding b => t.bindingViolations b

theorem violations_eq (t : Topology) : t.violations = t.subjects.flatMap t.violationsAbout := by
  simp [violations, subjects, violationsAbout, List.flatMap_append, List.flatMap_map]

theorem pairwise_subjects : t.subjects.Pairwise (Subject.Precedes t.bindings) := by
  simp only [subjects, List.pairwise_append, List.pairwise_map, List.mem_append, List.mem_map]
  refine ⟨⟨pairwise_sortedNames _, pairwise_sortedNames _, ?_⟩, List.pairwise_iff_forall_sublist.2 id, ?_⟩
  · rintro _ ⟨n, -, rfl⟩ _ ⟨m, -, rfl⟩
    trivial
  · rintro _ (⟨n, -, rfl⟩ | ⟨n, -, rfl⟩) _ ⟨b, -, rfl⟩ <;> trivial

theorem subject_of_mem {s : Subject} {v : Violation} (hv : v ∈ t.violationsAbout s) : v.subject = s := by
  cases s with
  | exchange n =>
    simp only [violationsAbout, exchangeViolations, List.mem_append, List.mem_ite_nil_right, List.mem_singleton] at hv
    rcases hv with ⟨-, rfl⟩ | ⟨-, rfl⟩ <;> rfl
  | queue n =>
    simp only [violationsAbout, queueViolations, List.mem_append, List.mem_ite_nil_right, List.mem_singleton] at hv
    rcases hv with ⟨-, rfl⟩ | ⟨-, rfl⟩ <;> rfl
  | binding b =>
    simp only [violationsAbout, bindingViolations, List.mem_append, List.mem_ite_nil_right, List.mem_singleton] at hv
    grind [Violation.subject]

/-- At most two violations are about one thing, and these are in order. -/
theorem pairwise_violationsAbout (s : Subject) : (t.violationsAbout s).Pairwise (Violation.Precedes bindings) := by
  cases s with
  | exchange n =>
    simp only [violationsAbout, exchangeViolations]
    split <;> split <;> simp [Violation.Precedes, Violation.subject, Violation.isSecond]
  | queue n =>
    simp only [violationsAbout, queueViolations]
    split <;> split <;> simp [Violation.Precedes, Violation.subject, Violation.isSecond]
  | binding b =>
    simp only [violationsAbout, bindingViolations]
    split
    · split <;> simp [Violation.Precedes, Violation.subject, Violation.isSecond]
    · split <;> split <;> simp [Violation.Precedes, Violation.subject, Violation.isSecond]

theorem pairwise_violations (t : Topology) : t.violations.Pairwise (Violation.Precedes t.bindings) := by
  rw [violations_eq]
  refine List.pairwise_flatMap.2 ⟨fun s _ => pairwise_violationsAbout s, pairwise_subjects.imp ?_⟩
  intro s s' hs v hv w hw
  rw [Violation.Precedes, subject_of_mem hv, subject_of_mem hw]
  exact .inl hs

/-- Nothing precedes itself. -/
theorem not_precedes_self (hb : bindings.Nodup) (v : Violation) : ¬ v.Precedes bindings v := by
  rintro (hs | ⟨-, hfirst, hsecond⟩)
  · cases hv : v.subject with
    | exchange n => rw [hv] at hs; exact lt_irrefl n hs
    | queue n => rw [hv] at hs; exact lt_irrefl n hs
    | binding b => rw [hv] at hs; exact List.nodup_iff_sublist.1 hb b hs
  · rw [hfirst] at hsecond
    cases hsecond

end Order

/-! ## Validation -/

variable {all : Topology}

theorem nodup_bindings (h : all.Numeric) : all.distinct.bindings.Nodup := by
  refine (pairwise_firsts all.bindings).imp_of_mem ?_
  rintro b _ hb - hsame rfl
  rw [Binding.same_self (h.bindings b ((firsts_sublist all.bindings).subset hb))] at hsame
  cases hsame

theorem nodup_violations (h : all.Numeric) : all.distinct.violations.Nodup := by
  refine (pairwise_violations all.distinct).imp ?_
  rintro v _ hv rfl
  exact not_precedes_self (nodup_bindings h) v hv

/-- Nothing is wrong when there is no violation. -/
theorem sound_iff (h : all.Numeric) : all.Sound ↔ ∀ v, ¬ all.Warrants v := by
  constructor
  · rintro hs (⟨n, _⟩ | n | ⟨n, _⟩ | n | b | b | b)
    · rintro ⟨⟨a, ha, b, hb, rfl, hn, hab⟩, -⟩
      simp [hs.exchanges a ha b hb hn.symm] at hab
    · rintro ⟨hn, e, he, rfl⟩
      exact hs.ownExchanges e he hn
    · rintro ⟨⟨a, ha, b, hb, rfl, hn, hab⟩, -⟩
      simp [hs.queues a ha b hb hn.symm] at hab
    · rintro ⟨hn, q, hq, rfl⟩
      exact hs.ownQueues q hq hn
    · rintro ⟨hb, hq⟩
      exact (hs.targets b ((firsts_sublist _).subset hb)).1 hq
    · rintro ⟨hb, -, hq⟩
      exact hq (hs.targets b ((firsts_sublist _).subset hb)).2
    · rintro ⟨hb, he, hn⟩
      exact (hs.sources b ((firsts_sublist _).subset hb)).elim he hn
  · intro hw
    have hdispute : ∀ {c : Bool}, (c = false → False) → c = true := fun h => by simpa using h
    have hbinding : ∀ b ∈ all.bindings, ∃ c ∈ all.distinct.bindings, c.queue = b.queue ∧ c.exchange = b.exchange := by
      intro b hb
      obtain ⟨c, hc, hcb⟩ := exists_mem_firsts Binding.compares hb (Binding.same_self (h.bindings b hb))
      exact ⟨c, hc, Binding.ends_eq hcb⟩
    constructor
    · intro a ha b hb hn
      exact hdispute fun hab => hw (.conflictingExchange a.name _) ⟨⟨a, ha, b, hb, rfl, hn.symm, hab⟩, rfl⟩
    · intro a ha b hb hn
      exact hdispute fun hab => hw (.conflictingQueue a.name _) ⟨⟨a, ha, b, hb, rfl, hn.symm, hab⟩, rfl⟩
    · intro e he hn
      exact hw (.builtinExchange e.name) ⟨hn, e, he, rfl⟩
    · intro q hq hn
      exact hw (.reservedQueue q.name) ⟨hn, q, hq, rfl⟩
    · intro b hb
      obtain ⟨c, hc, hqueue, -⟩ := hbinding b hb
      have hfree : c.queue ≠ directReplyTo := fun hq => hw (.reservedTarget c) ⟨hc, hq⟩
      exact hqueue ▸ ⟨hfree, Classical.not_not.1 fun hq => hw (.undeclaredQueue c) ⟨hc, hfree, hq⟩⟩
    · intro b hb
      obtain ⟨c, hc, -, hexchange⟩ := hbinding b hb
      rw [← hexchange]
      by_contra hn
      exact hw (.undeclaredExchange c) ⟨hc, fun he => hn (.inl he), fun he => hn (.inr he)⟩

/-- A collection is built when nothing is found, and what is found is reported otherwise. -/
theorem build_cases (t : Topology) :
    (t.violations = [] ∧ t.build = .ok t) ∨ (t.violations ≠ [] ∧ t.build = .error t.violations) := by
  unfold build
  cases t.violations with
  | nil => exact .inl ⟨rfl, rfl⟩
  | cons v vs => exact .inr ⟨nofun, rfl⟩

/-- **Validation is exact.** Whatever steps put a collection together, it is built exactly when nothing is wrong with
what they add, and then holds the first of those declarations that are the same, in order. Otherwise what is wrong is
what is reported, each violation once, in the order of names and of bindings. -/
theorem validated (steps : List Step) (h : (added steps).Numeric) :
    ((∃ t, (assemble steps).build = .ok t) ↔ (added steps).Sound) ∧
    (∀ t, (assemble steps).build = .ok t → t = (added steps).distinct) ∧
    ∀ vs, (assemble steps).build = .error vs →
      (∀ v, v ∈ vs ↔ (added steps).Warrants v) ∧ vs.Nodup ∧
        vs.Pairwise (Violation.Precedes (added steps).distinct.bindings) := by
  have hmem := mem_violations h
  rw [assemble_eq, sound_iff h]
  rcases build_cases (added steps).distinct with ⟨hnil, hbuild⟩ | ⟨hne, hbuild⟩
  · rw [hbuild]
    refine ⟨⟨fun _ v hv => ?_, fun _ => ⟨_, rfl⟩⟩, fun t ht => (Except.ok.inj ht).symm, nofun⟩
    rw [← hmem, hnil] at hv
    cases hv
  · rw [hbuild]
    refine ⟨⟨nofun, fun hw => ?_⟩, nofun, ?_⟩
    · exact absurd (List.eq_nil_iff_forall_not_mem.2 fun v hv => hw v ((hmem v).1 hv)) hne
    · intro vs hvs
      obtain rfl := Except.error.inj hvs
      exact ⟨hmem, nodup_violations h, pairwise_violations _⟩

/-- A queue is declared twice, once by a topology merged in, an exchange of the broker's own is declared, and a binding
to an exchange that nobody declares is added twice. -/
def disputedJobs : List Step := [
  .queue { name := "jobs" }, .merge { queues := [{ name := "jobs", exclusive := true }] },
  .exchange { name := "amq.topic" }, .binding { queue := "jobs", exchange := "nowhere" }, .queue { name := "jobs" },
  .binding { queue := "jobs", exchange := "nowhere" }]

theorem validated_disputedJobs : ∃ vs, (assemble disputedJobs).build = .error vs ∧ vs.Nodup ∧
    .conflictingQueue "jobs" [{ name := "jobs" }, { name := "jobs", exclusive := true }] ∈ vs ∧
    .builtinExchange "amq.topic" ∈ vs ∧ .undeclaredExchange { queue := "jobs", exchange := "nowhere" } ∈ vs := by
  have hnumeric : (added disputedJobs).Numeric := ⟨by decide, by decide, by decide⟩
  have hexchange : (added disputedJobs).exchanges = [{ name := "amq.topic" }] := rfl
  have hqueues : (added disputedJobs).queues =
      [{ name := "jobs" }, { name := "jobs", exclusive := true }, { name := "jobs" }] := rfl
  have hbindings : (added disputedJobs).distinct.bindings = [{ queue := "jobs", exchange := "nowhere" }] := rfl
  obtain ⟨hbuilt, -, hreported⟩ := validated disputedJobs hnumeric
  cases hbuild : (assemble disputedJobs).build with
  | ok t =>
    have hsound := hbuilt.1 ⟨t, hbuild⟩
    exact absurd (by decide) (hsound.ownExchanges { name := "amq.topic" } (by simp [hexchange]))
  | error vs =>
    obtain ⟨hmem, hnodup, -⟩ := hreported vs hbuild
    refine ⟨vs, rfl, hnodup, (hmem _).2 ?_, (hmem _).2 ?_, (hmem _).2 ?_⟩
    · refine ⟨⟨{ name := "jobs" }, ?_, { name := "jobs", exclusive := true }, ?_, rfl, rfl, rfl⟩, rfl⟩ <;>
        simp [hqueues]
    · exact ⟨by decide, { name := "amq.topic" }, by simp [hexchange], rfl⟩
    · exact ⟨by simp [hbindings], by simp [HasExchange, hexchange], by decide⟩

end Topology
end BrokerClient
