import BrokerClient.Proofs.Field.Equality
import BrokerClient.Topology.Build
import Mathlib.Data.List.Induction

/-!
# What a collection holds

A collection is put together by any number of steps, each of which adds a declaration or all those of another topology.
Only what is not there yet is added. So the collection holds, of everything that the steps add, what no earlier
declaration is the same as, in the order of the steps (`assemble_eq`).
-/

namespace BrokerClient

/-! ## First occurrences -/

section Firsts

variable {α : Type}

/-- The items of a list that no earlier item is the same as. -/
def firsts (same : α → α → Bool) : List α → List α
  | [] => []
  | x :: xs => x :: (firsts same xs).filter fun y => !same x y

/-- A comparison that does not depend on the order of the two and carries over from one pair to the next. -/
structure Compares (same : α → α → Bool) : Prop where
  comm : ∀ a b, same a b = same b a
  trans : ∀ {a b c}, same a b = true → same b c = true → same a c = true

variable {same : α → α → Bool}

theorem firsts_sublist (xs : List α) : (firsts same xs).Sublist xs := by
  induction xs with
  | nil => exact .slnil
  | cons x xs ih => exact (List.filter_sublist.trans ih).cons_cons x

/-- No item is the same as a later one. -/
theorem pairwise_firsts (xs : List α) : (firsts same xs).Pairwise fun a b => same a b = false := by
  induction xs with
  | nil => exact .nil
  | cons x xs ih =>
    refine List.pairwise_cons.2 ⟨?_, ih.filter _⟩
    intro y hy
    simpa using (List.mem_filter.1 hy).2

/-- An item that is the same as itself is the same as one of the first occurrences. -/
theorem exists_mem_firsts (h : Compares same) {xs : List α} {x : α} (hx : x ∈ xs) (hself : same x x = true) :
    ∃ y ∈ firsts same xs, same y x = true := by
  induction xs with
  | nil => cases hx
  | cons z zs ih =>
    by_cases hz : same z x = true
    · exact ⟨z, List.mem_cons_self .., hz⟩
    · rcases List.mem_cons.1 hx with rfl | hx
      · exact absurd hself hz
      · obtain ⟨y, hy, hyx⟩ := ih hx
        have hzy : same z y = false := by
          by_contra hzy
          exact hz (h.trans (Bool.not_eq_false _ ▸ hzy) hyx)
        exact ⟨y, List.mem_cons_of_mem _ (List.mem_filter.2 ⟨hy, by simp [hzy]⟩), hyx⟩

/-- One item more is a first occurrence unless one of those there is the same. -/
theorem firsts_concat (h : Compares same) (xs : List α) (x : α) :
    firsts same (xs ++ [x]) = insertUnique same (firsts same xs) x := by
  induction xs with
  | nil => rfl
  | cons y ys ih =>
    rw [List.cons_append, firsts, ih]
    unfold insertUnique
    by_cases hys : (firsts same ys).any (same · x) = true
    · obtain ⟨z, hz, hzx⟩ := List.any_eq_true.1 hys
      have hany : (firsts same (y :: ys)).any (same · x) = true := by
        by_cases hyz : same y z = true
        · simp [firsts, h.trans hyz hzx]
        · exact List.any_eq_true.2 ⟨z, by simp [firsts, hz, hyz], hzx⟩
      rw [if_pos hys, if_pos hany, firsts]
    · have hrest : (firsts same (y :: ys)).any (same · x) = same y x := by
        simp_all [firsts]
      rw [if_neg hys, hrest]
      by_cases hyx : same y x = true <;> simp [firsts, hyx]

/-- Adding items one by one keeps the first occurrences. -/
theorem foldl_insertUnique (h : Compares same) (xs : List α) : xs.foldl (insertUnique same) [] = firsts same xs := by
  induction xs using List.reverseRecOn with
  | nil => rfl
  | append_singleton xs x ih => rw [firsts_concat h, ← ih, List.foldl_append]; rfl

end Firsts

/-! ## Declarations -/

theorem ExchangeDeclaration.compares : Compares ExchangeDeclaration.same where
  comm a b := by simp only [same, Table.same_comm a.arguments, BEq.comm (a := a.name), BEq.comm (a := a.kind),
    BEq.comm (a := a.durable), BEq.comm (a := a.autoDelete), BEq.comm (a := a.internal)]
  trans h h' := by
    simp only [same, Bool.and_eq_true, beq_iff_eq] at *
    grind [Table.same_trans]

theorem QueueDeclaration.compares : Compares QueueDeclaration.same where
  comm a b := by simp only [same, Table.same_comm a.arguments, BEq.comm (a := a.name), BEq.comm (a := a.durable),
    BEq.comm (a := a.autoDelete), BEq.comm (a := a.exclusive)]
  trans h h' := by
    simp only [same, Bool.and_eq_true, beq_iff_eq] at *
    grind [Table.same_trans]

theorem Binding.compares : Compares Binding.same where
  comm a b := by simp only [same, Table.same_comm a.arguments, BEq.comm (a := a.queue), BEq.comm (a := a.exchange),
    BEq.comm (a := a.routingKey)]
  trans h h' := by
    simp only [same, Bool.and_eq_true, beq_iff_eq] at *
    grind [Table.same_trans]

theorem ExchangeDeclaration.same_self {e : ExchangeDeclaration} (h : e.arguments.isNumeric = true) :
    e.same e = true := by
  simp [same, Table.same_self h]

theorem QueueDeclaration.same_self {q : QueueDeclaration} (h : q.arguments.isNumeric = true) : q.same q = true := by
  simp [same, Table.same_self h]

theorem Binding.same_self {b : Binding} (h : b.arguments.isNumeric = true) : b.same b = true := by
  simp [same, Table.same_self h]

theorem ExchangeDeclaration.name_eq {a b : ExchangeDeclaration} (h : a.same b = true) : a.name = b.name := by
  simp only [same, Bool.and_eq_true, beq_iff_eq] at h
  exact h.1.1.1.1.1

theorem QueueDeclaration.name_eq {a b : QueueDeclaration} (h : a.same b = true) : a.name = b.name := by
  simp only [same, Bool.and_eq_true, beq_iff_eq] at h
  exact h.1.1.1.1

theorem Binding.ends_eq {a b : Binding} (h : a.same b = true) : a.queue = b.queue ∧ a.exchange = b.exchange := by
  simp only [same, Bool.and_eq_true, beq_iff_eq] at h
  exact h.1.1

/-! ## Collecting -/

namespace Topology

/-- One thing to add to a collection. -/
inductive Step where
  | exchange (e : ExchangeDeclaration)
  | queue (q : QueueDeclaration)
  | binding (b : Binding)
  /-- Everything that another topology holds. -/
  | merge (other : Topology)

def apply (t : Topology) : Step → Topology
  | .exchange e => t.addExchange e
  | .queue q => t.addQueue q
  | .binding b => t.addBinding b
  | .merge other => t.merge other

/-- The collection that some steps put together. -/
def assemble (steps : List Step) : Topology := steps.foldl apply {}

/-- What a step adds. -/
def Step.added : Step → Topology
  | .exchange e => { exchanges := [e] }
  | .queue q => { queues := [q] }
  | .binding b => { bindings := [b] }
  | .merge other => other

/-- Everything that some steps add, one after the other and with every repetition. -/
def added (steps : List Step) : Topology where
  exchanges := steps.flatMap (·.added.exchanges)
  queues := steps.flatMap (·.added.queues)
  bindings := steps.flatMap (·.added.bindings)

/-- The declarations that no earlier one is the same as. -/
def distinct (t : Topology) : Topology where
  exchanges := firsts ExchangeDeclaration.same t.exchanges
  queues := firsts QueueDeclaration.same t.queues
  bindings := firsts Binding.same t.bindings

/-- Every step merges what it adds. -/
theorem apply_eq_merge (t : Topology) (step : Step) : t.apply step = t.merge step.added := by
  cases step <;> rfl

theorem foldl_apply (steps : List Step) (t : Topology) : steps.foldl apply t = t.merge (added steps) := by
  induction steps generalizing t with
  | nil => rfl
  | cons step steps ih =>
    rw [List.foldl_cons, ih, apply_eq_merge]
    simp [merge, added, List.foldl_append]

/-- **What a collection holds**: of everything that the steps add, in order, the first of those that are the same. -/
theorem assemble_eq (steps : List Step) : assemble steps = (added steps).distinct := by
  rw [assemble, foldl_apply]
  simp only [merge, distinct, foldl_insertUnique ExchangeDeclaration.compares,
    foldl_insertUnique QueueDeclaration.compares, foldl_insertUnique Binding.compares]

end Topology
end BrokerClient
