import Mathlib.Data.List.Perm.Basic

/-!
# Lists with unique keys

Tables are lists whose entries have different keys. An entry stands apart from all others (`perm_cons_others`), so
that taking it out or changing it by its key leaves the others as they are. In a log many entries have the same key;
`under` is what it says under one.
-/

namespace BrokerClient.Keyed

variable {α β : Type} {key : α → β} {l : List α} {x : α}

/-- Before and behind an entry are only entries with other keys. -/
theorem exists_apart (hl : (l.map key).Nodup) (hx : x ∈ l) :
    ∃ a b, l = a ++ x :: b ∧ (∀ y ∈ a, key y ≠ key x) ∧ ∀ y ∈ b, key y ≠ key x := by
  obtain ⟨a, b, rfl⟩ := List.append_of_mem hx
  rw [List.map_append, List.map_cons] at hl
  obtain ⟨-, hb, hab⟩ := List.nodup_append.1 hl
  refine ⟨a, b, rfl, ?_, ?_⟩
  · intro y hy
    exact hab (key y) (List.mem_map_of_mem hy) (key x) (List.mem_cons_self ..)
  · intro y hy he
    exact (List.nodup_cons.1 hb).1 (he ▸ List.mem_map_of_mem hy)

theorem nodup_concat (hl : (l.map key).Nodup) (hx : ∀ y ∈ l, key y ≠ key x) : ((l ++ [x]).map key).Nodup := by
  rw [List.map_append, List.nodup_append]
  refine ⟨hl, by simp, ?_⟩
  intro k hk k' hk'
  obtain ⟨y, hy, rfl⟩ := List.mem_map.1 hk
  rw [List.map_singleton, List.mem_singleton] at hk'
  exact hk' ▸ hx y hy

variable [DecidableEq β]

/-- The entries with another key. -/
def others (key : α → β) (k : β) (l : List α) : List α := l.filter fun y => key y != k

theorem others_eq_self {k : β} (h : ∀ y ∈ l, key y ≠ k) : others key k l = l := by
  refine List.filter_eq_self.2 ?_
  intro y hy
  simpa using h y hy

theorem find?_others (k i : β) (l : List α) : (others key k l).find? (key · == i) =
    if i = k then none else l.find? (key · == i) := by
  rw [others, List.find?_filter]
  by_cases hi : i = k
  · rw [if_pos hi, List.find?_eq_none]
    simp [hi]
  · rw [if_neg hi]
    congr 1
    funext x
    by_cases hx : key x = i <;> simp [hx, hi]

theorem perm_cons_others (hl : (l.map key).Nodup) (hx : x ∈ l) : l.Perm (x :: others key (key x) l) := by
  obtain ⟨a, b, rfl, ha, hb⟩ := exists_apart hl hx
  have hcons : others key (key x) (x :: b) = others key (key x) b := by simp [others]
  have hothers : others key (key x) (a ++ x :: b) = a ++ b := by
    rw [others, List.filter_append, ← others, ← others, hcons, others_eq_self ha, others_eq_self hb]
  rw [hothers]
  exact List.perm_middle

/-- Changing an entry by its key changes no other. -/
theorem map_perm_cons_others (hl : (l.map key).Nodup) (hx : x ∈ l) (f : α → α) :
    (l.map fun y => if key y = key x then f y else y).Perm (f x :: others key (key x) l) := by
  have hrest : (others key (key x) l).map (fun y => if key y = key x then f y else y) = others key (key x) l := by
    refine (List.map_congr_left ?_).trans (List.map_id _)
    intro y hy
    refine if_neg ?_
    simpa using (List.mem_filter.1 hy).2
  have hperm := (perm_cons_others hl hx).map fun y => if key y = key x then f y else y
  rwa [List.map_cons, if_pos rfl, hrest] at hperm

/-- The values under a key, in a list of keys and values. -/
def under {γ : Type} (k : β) (l : List (β × γ)) : List γ := l.filterMap fun x => if x.1 = k then some x.2 else none

section

variable {γ : Type} (k : β) (l : List (β × γ))

@[simp]
theorem under_append_self (l' : List γ) : under k (l ++ l'.map (k, ·)) = under k l ++ l' := by
  simp [under, List.filterMap_map]

@[simp]
theorem under_concat_self (c : γ) : under k (l ++ [(k, c)]) = under k l ++ [c] := by simp [under]

variable {k}

@[simp]
theorem under_concat_of_ne {j : β} (hj : j ≠ k) (c : γ) : under k (l ++ [(j, c)]) = under k l := by simp [under, hj]

end

end BrokerClient.Keyed
