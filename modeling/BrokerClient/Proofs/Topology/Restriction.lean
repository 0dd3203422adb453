import BrokerClient.Proofs.Topology.Independence
import BrokerClient.Proofs.Topology.Installing

/-!
# What one queue needs

What a queue needs of a topology is its declaration, the bindings that target it and the declared exchanges that these
reference (`Serves`). It is cut out of the topology without another validation. Yet it is valid, since what was valid is
cut out with everything that it refers to (`Valid.forQueue`), and nothing in it can be spared: without any of its exchanges,
or without the queue, its bindings would be refused. Installing it asks for nothing that installing the whole does not ask
for, in the same order (`forQueue_of_build`).
-/

namespace BrokerClient

/-! ## Parts of a list -/

section Parts

variable {α : Type} {same : α → α → Bool} {l l₁ l₂ xs : List α}

/-- Where no item is the same as a later one, all are kept. -/
theorem firsts_eq_self (h : xs.Pairwise fun a b => same a b = false) : firsts same xs = xs := by
  induction xs with
  | nil => rfl
  | cons x xs ih =>
    obtain ⟨hx, hxs⟩ := List.pairwise_cons.1 h
    rw [firsts, ih hxs, List.filter_eq_self.2 fun y hy => by simp [hx y hy]]

theorem nodup_firsts (hself : ∀ x ∈ xs, same x x = true) : (firsts same xs).Nodup := by
  refine (pairwise_firsts xs).imp_of_mem ?_
  rintro x _ hx - hsame rfl
  rw [hself x ((firsts_sublist xs).subset hx)] at hsame
  cases hsame

/-- The items of a part fix it, since their order is that of the whole. -/
theorem sublist_eq_of_mem_iff (hl : l.Nodup) (h₁ : l₁.Sublist l) (h₂ : l₂.Sublist l) (h : ∀ a, a ∈ l₁ ↔ a ∈ l₂) :
    l₁ = l₂ := by
  induction l generalizing l₁ l₂ with
  | nil => rw [List.sublist_nil.1 h₁, List.sublist_nil.1 h₂]
  | cons x l ih =>
    obtain ⟨hx, hl⟩ := List.nodup_cons.1 hl
    rcases List.sublist_cons_iff.1 h₁ with hr₁ | ⟨r₁, rfl, hr₁⟩ <;>
      rcases List.sublist_cons_iff.1 h₂ with hr₂ | ⟨r₂, rfl, hr₂⟩
    · exact ih hl hr₁ hr₂ h
    · exact absurd (hr₁.subset ((h x).2 (List.mem_cons_self ..))) hx
    · exact absurd (hr₂.subset ((h x).1 (List.mem_cons_self ..))) hx
    · refine congrArg (x :: ·) (ih hl hr₁ hr₂ fun a => ?_)
      rcases eq_or_ne a x with rfl | ha
      · exact iff_of_false (fun hm => hx (hr₁.subset hm)) fun hm => hx (hr₂.subset hm)
      · simpa [ha] using h a

end Parts

/-! ## Issuing calls -/

section Issuing

variable {σ : Type} {answer : σ → ChannelCall → Outcome × σ} {s : σ} {calls : List ChannelCall}

/-- Whatever the channel answers, the first of the calls are issued. -/
theorem issue_prefix (answer : σ → ChannelCall → Outcome × σ) (s : σ) (calls : List ChannelCall) :
    (issue answer s calls).1.calls <+: calls := by
  obtain ⟨talk, -, hcalls, ⟨-, hall, -⟩ | ⟨e, -, hstart, -⟩⟩ := issue_cases answer s calls
  · exact hcalls ▸ hall ▸ List.prefix_rfl
  · exact hcalls ▸ hstart

/-- Without a failure, all of them are. -/
theorem issue_eq_of_ok (h : (issue answer s calls).1.outcome = .ok ()) : (issue answer s calls).1.calls = calls := by
  obtain ⟨talk, -, hcalls, ⟨-, hall, -⟩ | ⟨e, -, -, herror⟩⟩ := issue_cases answer s calls
  · exact hcalls.trans hall
  · cases h.symm.trans herror

end Issuing

namespace Topology

variable {t part : Topology} {queue : String}

/-! ## Valid topologies -/

/-- A collection that can be compared, holds nothing twice and with which nothing is wrong. -/
structure Valid (t : Topology) : Prop where
  numeric : t.Numeric
  distinct : t.distinct = t
  sound : t.Sound

theorem distinct_eq_self (he : t.exchanges.Pairwise fun a b => a.same b = false)
    (hq : t.queues.Pairwise fun a b => a.same b = false) (hb : t.bindings.Pairwise fun a b => a.same b = false) :
    t.distinct = t := by
  rw [distinct, firsts_eq_self he, firsts_eq_self hq, firsts_eq_self hb]

/-- What is the same as no later item is kept in any part. -/
theorem distinct_eq_self_of_sublist (h : t.distinct = t) (he : part.exchanges.Sublist t.exchanges)
    (hq : part.queues.Sublist t.queues) (hb : part.bindings.Sublist t.bindings) : part.distinct = part := by
  rw [← h] at he hq hb
  exact distinct_eq_self ((pairwise_firsts _).sublist he) ((pairwise_firsts _).sublist hq) ((pairwise_firsts _).sublist hb)

theorem Numeric.of_sublist (h : t.Numeric) (he : part.exchanges.Sublist t.exchanges)
    (hq : part.queues.Sublist t.queues) (hb : part.bindings.Sublist t.bindings) : part.Numeric :=
  ⟨fun e hm => h.exchanges e (he.subset hm), fun q hm => h.queues q (hq.subset hm),
    fun b hm => h.bindings b (hb.subset hm)⟩

theorem valid_of_build {steps : List Step} (h : (added steps).Numeric) (hbuild : (assemble steps).build = .ok t) :
    t.Valid := by
  rw [assemble_eq] at hbuild
  rcases build_cases (added steps).distinct with ⟨hnil, hok⟩ | ⟨-, herror⟩
  · rw [hok] at hbuild
    cases hbuild
    have hdistinct : (added steps).distinct.distinct = (added steps).distinct :=
      distinct_eq_self (pairwise_firsts _) (pairwise_firsts _) (pairwise_firsts _)
    refine ⟨h.distinct, hdistinct, (sound_iff h.distinct).2 fun v hv => ?_⟩
    rw [← mem_violations h.distinct, hdistinct, hnil] at hv
    cases hv
  · rw [herror] at hbuild
    cases hbuild

theorem assemble_merge (h : t.distinct = t) : assemble [.merge t] = t := by
  rw [assemble_eq, added_merge, h]

/-- A valid topology merged into an empty collection is built again. -/
theorem Valid.build_merge (h : t.Valid) : (assemble [.merge t]).build = .ok t := by
  have hbuild := build_of_sound h.numeric h.sound
  rw [h.distinct] at hbuild
  rwa [assemble_merge h.distinct]

/-- What is wrong with a collection is reported when it is merged into an empty one. -/
theorem reported_of_merge (hn : t.Numeric) (hd : t.distinct = t) {v : Violation} (hv : t.Warrants v) :
    ∃ vs, (assemble [.merge t]).build = .error vs ∧ v ∈ vs := by
  have hreported := reported_of_warrants hn hv
  rw [hd] at hreported
  rwa [assemble_merge hd]

/-! ## The part for one queue -/

/-- A part of a topology that holds what one queue needs, and no more. -/
structure Serves (t part : Topology) (queue : String) : Prop where
  exchanges : part.exchanges.Sublist t.exchanges
  queues : part.queues.Sublist t.queues
  bindings : part.bindings.Sublist t.bindings
  mem_exchanges : ∀ e, e ∈ part.exchanges ↔ e ∈ t.exchanges ∧ ∃ b ∈ t.bindings, b.queue = queue ∧ b.exchange = e.name
  mem_queues : ∀ q, q ∈ part.queues ↔ q ∈ t.queues ∧ q.name = queue
  mem_bindings : ∀ b, b ∈ part.bindings ↔ b ∈ t.bindings ∧ b.queue = queue

theorem serves_forQueue (t : Topology) (queue : String) : t.Serves (t.forQueue queue) queue where
  exchanges := List.filter_sublist
  queues := List.filter_sublist
  bindings := List.filter_sublist
  mem_exchanges e := by simp [forQueue]
  mem_queues q := by simp [forQueue]
  mem_bindings b := by simp [forQueue]

/-- Only one part of a valid topology is what a queue needs. -/
theorem Serves.unique {part' : Topology} (h : t.Valid) (hs : t.Serves part queue) (hs' : t.Serves part' queue) :
    part = part' := by
  have hexchanges : t.exchanges.Nodup := h.distinct ▸ nodup_firsts h.numeric.sameExchange
  have hqueues : t.queues.Nodup := h.distinct ▸ nodup_firsts h.numeric.sameQueue
  have hbindings : t.bindings.Nodup := h.distinct ▸ nodup_firsts h.numeric.sameBinding
  have he := sublist_eq_of_mem_iff hexchanges hs.exchanges hs'.exchanges fun e => by
    rw [hs.mem_exchanges, hs'.mem_exchanges]
  have hq := sublist_eq_of_mem_iff hqueues hs.queues hs'.queues fun q => by rw [hs.mem_queues, hs'.mem_queues]
  have hb := sublist_eq_of_mem_iff hbindings hs.bindings hs'.bindings fun b => by rw [hs.mem_bindings, hs'.mem_bindings]
  cases part
  cases part'
  simp_all

/-- **The part for a queue is closed.** -/
theorem Serves.valid (h : t.Valid) (hs : t.Serves part queue) : part.Valid where
  numeric := h.numeric.of_sublist hs.exchanges hs.queues hs.bindings
  distinct := distinct_eq_self_of_sublist h.distinct hs.exchanges hs.queues hs.bindings
  sound := by
    refine ⟨fun a ha b hb => h.sound.exchanges a (hs.exchanges.subset ha) b (hs.exchanges.subset hb),
      fun a ha b hb => h.sound.queues a (hs.queues.subset ha) b (hs.queues.subset hb),
      fun e he => h.sound.ownExchanges e (hs.exchanges.subset he),
      fun q hq => h.sound.ownQueues q (hs.queues.subset hq), fun b hb => ?_, fun b hb => ?_⟩
    · obtain ⟨hbt, hqueue⟩ := (hs.mem_bindings b).1 hb
      obtain ⟨hfree, q, hq, hname⟩ := h.sound.targets b hbt
      exact ⟨hfree, q, (hs.mem_queues q).2 ⟨hq, hname.trans hqueue⟩, hname⟩
    · obtain ⟨hbt, hqueue⟩ := (hs.mem_bindings b).1 hb
      refine (h.sound.sources b hbt).imp_left fun ⟨e, he, hname⟩ => ?_
      exact ⟨e, (hs.mem_exchanges e).2 ⟨he, b, hbt, hqueue, hname.symm⟩, hname⟩

/-- An exchange of a valid topology has its name for itself. -/
theorem Valid.name_ne {before after : List ExchangeDeclaration} {e : ExchangeDeclaration} (h : t.Valid)
    (heq : t.exchanges = before ++ e :: after) : ∀ a ∈ before ++ after, a.name ≠ e.name := by
  have hapart : (before ++ e :: after).Pairwise fun a b => a.same b = false :=
    heq ▸ h.distinct ▸ pairwise_firsts t.exchanges
  obtain ⟨-, hcons, hbefore⟩ := List.pairwise_append.1 hapart
  obtain ⟨hafter, -⟩ := List.pairwise_cons.1 hcons
  have he : e ∈ t.exchanges := heq ▸ List.mem_append_right _ (List.mem_cons_self ..)
  intro a ha hname
  rcases List.mem_append.1 ha with ha | ha
  · have hsame := h.sound.exchanges a (heq ▸ List.mem_append_left _ ha) e he hname
    rw [hbefore a ha e (List.mem_cons_self ..)] at hsame
    cases hsame
  · have hsame := h.sound.exchanges e he a (heq ▸ List.mem_append_right _ (List.mem_cons_of_mem _ ha)) hname.symm
    rw [hafter a ha] at hsame
    cases hsame

/-- **The part for a queue has no exchange to spare.** -/
theorem Serves.refused_without_exchange {before after : List ExchangeDeclaration} {e : ExchangeDeclaration}
    (h : t.Valid) (hs : t.Serves part queue) (heq : part.exchanges = before ++ e :: after) :
    ∃ b ∈ part.bindings, b.exchange = e.name ∧
      ∃ vs, (assemble [.merge { part with exchanges := before ++ after }]).build = .error vs ∧
        .undeclaredExchange b ∈ vs := by
  have hvalid := hs.valid h
  have he : e ∈ part.exchanges := heq ▸ List.mem_append_right _ (List.mem_cons_self ..)
  obtain ⟨-, b, hbt, hqueue, hexchange⟩ := (hs.mem_exchanges e).1 he
  have hb := (hs.mem_bindings b).2 ⟨hbt, hqueue⟩
  have hless : (before ++ after).Sublist part.exchanges := heq ▸ (List.sublist_cons_self e after).append_left before
  let rest : Topology := { part with exchanges := before ++ after }
  have hdistinct : rest.distinct = rest := distinct_eq_self_of_sublist hvalid.distinct hless (.refl _) (.refl _)
  have hnumeric : rest.Numeric := hvalid.numeric.of_sublist hless (.refl _) (.refl _)
  refine ⟨b, hb, hexchange, reported_of_merge hnumeric hdistinct ?_⟩
  refine ⟨hdistinct.symm ▸ hb, ?_, hexchange ▸ hvalid.sound.ownExchanges e he⟩
  rintro ⟨a, ha, hname⟩
  exact hvalid.name_ne heq a ha (hname.trans hexchange)

/-- Nor its queue, unless nothing is bound to it. -/
theorem Serves.refused_without_queue (h : t.Valid) (hs : t.Serves part queue) {b : Binding} (hb : b ∈ part.bindings) :
    ∃ vs, (assemble [.merge { part with queues := [] }]).build = .error vs ∧ .undeclaredQueue b ∈ vs := by
  have hvalid := hs.valid h
  let rest : Topology := { part with queues := [] }
  have hdistinct : rest.distinct = rest :=
    distinct_eq_self_of_sublist hvalid.distinct (.refl _) (List.nil_sublist _) (.refl _)
  have hnumeric : rest.Numeric := hvalid.numeric.of_sublist (.refl _) (List.nil_sublist _) (.refl _)
  refine reported_of_merge hnumeric hdistinct ⟨hdistinct.symm ▸ hb, (hvalid.sound.targets b hb).1, ?_⟩
  rintro ⟨q, hq, -⟩
  cases hq

/-- The declaration of the queue is the only one. -/
theorem Serves.queues_eq (h : t.Valid) (hs : t.Serves part queue) {q : QueueDeclaration} (hq : q ∈ t.queues)
    (hname : q.name = queue) : part.queues = [q] := by
  have hvalid := hs.valid h
  have hapart : part.queues.Pairwise fun a b => a.same b = false := hvalid.distinct ▸ pairwise_firsts part.queues
  have hmem := (hs.mem_queues q).2 ⟨hq, hname⟩
  have hnamed (a : QueueDeclaration) (ha : a ∈ part.queues) : a.name = queue := ((hs.mem_queues a).1 ha).2
  cases hqueues : part.queues with
  | nil =>
    rw [hqueues] at hmem
    cases hmem
  | cons a rest =>
    cases rest with
    | nil =>
      rw [hqueues, List.mem_singleton] at hmem
      rw [hmem]
    | cons b rest =>
      have ha : a ∈ part.queues := by simp [hqueues]
      have hb : b ∈ part.queues := by simp [hqueues]
      have hsame := hvalid.sound.queues a ha b hb ((hnamed a ha).trans (hnamed b hb).symm)
      rw [hqueues] at hapart
      rw [(List.pairwise_cons.1 hapart).1 b (List.mem_cons_self ..)] at hsame
      cases hsame

theorem forQueue_forQueue (t : Topology) (queue : String) : (t.forQueue queue).forQueue queue = t.forQueue queue := by
  simp [forQueue, List.filter_filter]

theorem Serves.calls_sublist (hs : t.Serves part queue) : part.calls.Sublist t.calls :=
  ((hs.exchanges.map _).append (hs.queues.map _)).append (hs.bindings.map _)

/-! ## The part for one queue, from a topology that was built -/

/-- **What one queue needs.** Of a topology that was built, it is exactly what is cut out: the declaration of the queue if
there is one, the bindings that target it and the declared exchanges that these reference, in their order. It is valid and
builds to itself, but is refused without any of its exchanges, and without its queue as long as something is bound to it.
What it needs of itself is all of it, and its installation asks for some of what an installation of the whole that nothing
cuts short asks for, in the same order. -/
theorem forQueue_of_build {steps : List Step} (h : (added steps).Numeric) (hbuild : (assemble steps).build = .ok t)
    (queue : String) :
    (∀ part, t.Serves part queue ↔ part = t.forQueue queue) ∧
    (∀ q ∈ t.queues, q.name = queue → (t.forQueue queue).queues = [q]) ∧
    (t.forQueue queue).Sound ∧ (assemble [.merge (t.forQueue queue)]).build = .ok (t.forQueue queue) ∧
    (∀ before e after, (t.forQueue queue).exchanges = before ++ e :: after →
      ∃ b ∈ (t.forQueue queue).bindings, b.exchange = e.name ∧ ∃ vs,
        (assemble [.merge { t.forQueue queue with exchanges := before ++ after }]).build = .error vs ∧
          .undeclaredExchange b ∈ vs) ∧
    (∀ b ∈ (t.forQueue queue).bindings, ∃ vs,
      (assemble [.merge { t.forQueue queue with queues := [] }]).build = .error vs ∧ .undeclaredQueue b ∈ vs) ∧
    (t.forQueue queue).forQueue queue = t.forQueue queue ∧
    (t.forQueue queue).calls.Sublist t.calls ∧
    ∀ (σ τ : Type) (answer : σ → ChannelCall → Outcome × σ) (answer' : τ → ChannelCall → Outcome × τ) (s : σ) (s' : τ),
      (t.install answer s).1.outcome = .ok () →
        ((t.forQueue queue).install answer' s').1.calls.Sublist (t.install answer s).1.calls := by
  have hvalid := valid_of_build h hbuild
  have hserves := serves_forQueue t queue
  refine ⟨fun part => ⟨fun hs => hs.unique hvalid hserves, fun heq => heq ▸ hserves⟩,
    fun q hq hname => hserves.queues_eq hvalid hq hname, (hserves.valid hvalid).sound,
    (hserves.valid hvalid).build_merge,
    fun before e after heq => hserves.refused_without_exchange hvalid heq,
    fun b hb => hserves.refused_without_queue hvalid hb, forQueue_forQueue t queue, hserves.calls_sublist, ?_⟩
  intro σ τ answer answer' s s' hok
  have hprefix : ((t.forQueue queue).install answer' s').1.calls <+: (t.forQueue queue).calls := issue_prefix answer' s' _
  have hall : (t.install answer s).1.calls = t.calls := issue_eq_of_ok hok
  rw [hall]
  exact hprefix.sublist.trans hserves.calls_sublist

/-- Two queues that share an exchange. One is also bound to an exchange of the broker's own, the other to one that is
declared before the shared one. -/
def sharedWork : List Step := [
  .exchange { name := "audit" }, .exchange { name := "work" }, .queue { name := "logs" }, .queue { name := "jobs" },
  .binding { queue := "logs", exchange := "audit" }, .binding { queue := "logs", exchange := "work" },
  .binding { queue := "jobs", exchange := "amq.topic" }, .binding { queue := "jobs", exchange := "work" }]

theorem forQueue_of_build_jobs : ∃ t, (assemble sharedWork).build = .ok t ∧
    t.forQueue "jobs" = {
      exchanges := [{ name := "work" }]
      queues := [{ name := "jobs" }]
      bindings := [{ queue := "jobs", exchange := "amq.topic" }, { queue := "jobs", exchange := "work" }] } ∧
    (assemble [.merge (t.forQueue "jobs")]).build = .ok (t.forQueue "jobs") ∧
    (∃ vs, (assemble [.merge { t.forQueue "jobs" with exchanges := [] }]).build = .error vs) ∧
    ((t.forQueue "jobs").install (fun s _ => (.ok (), s)) ()).1.calls.Sublist
      (t.install (fun s _ => (.ok (), s)) ()).1.calls := by
  have hnumeric : (added sharedWork).Numeric := ⟨by decide, by decide, by decide⟩
  have hsound : (added sharedWork).Sound := by
    refine ⟨by decide, by decide, by decide, by decide, ?_, ?_⟩
    · simp only [added, sharedWork, Step.added, HasQueue]
      decide
    · simp only [added, sharedWork, Step.added, HasExchange]
      decide
  have hbuild : (assemble sharedWork).build = .ok (assemble sharedWork) :=
    assemble_eq sharedWork ▸ build_of_sound hnumeric hsound
  have hpart : (assemble sharedWork).forQueue "jobs" = {
      exchanges := [{ name := "work" }]
      queues := [{ name := "jobs" }]
      bindings := [{ queue := "jobs", exchange := "amq.topic" }, { queue := "jobs", exchange := "work" }] } := rfl
  obtain ⟨-, -, -, hagain, hspare, -, -, -, hcalls⟩ := forQueue_of_build hnumeric hbuild "jobs"
  obtain ⟨b, -, -, vs, hvs, -⟩ := hspare [] { name := "work" } [] (congrArg (·.exchanges) hpart)
  exact ⟨_, hbuild, hpart, hagain, ⟨vs, hvs⟩, hcalls _ _ _ _ _ _ rfl⟩

end Topology
end BrokerClient
