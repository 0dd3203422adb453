import BrokerClient.Codec.Negotiator
import Mathlib.Data.List.Induction

/-!
# Which candidate is chosen

`bestOf_eq_some` says where the chosen candidate stands: it is applicable, none before it has a higher priority and
none behind it an equal one, candidates that are not applicable aside. The order matters among equals only: a candidate
that is `Unrivalled` is chosen wherever it stands (`Unrivalled.bestOf_eq`). The reader and the writer of a message are
chosen that way, and selecting them fails where none is (`Negotiator.readerFor_eq_ok`, `Negotiator.readerFor_eq_error`,
and the same for writers).
-/

namespace BrokerClient

variable {ρ : Type} {applicable : ρ → Bool} {priority : ρ → Int}

/-- A candidate has its place in a list: the highest priority, and the last place among those that have it. -/
structure Leads (applicable : ρ → Bool) (priority : ρ → Int) (before : List ρ) (c : ρ) (behind : List ρ) : Prop where
  fits : applicable c = true
  before_le : ∀ x ∈ before, applicable x = true → priority x ≤ priority c
  behind_lt : ∀ x ∈ behind, applicable x = true → priority x < priority c

/-- No applicable candidate has a higher priority. -/
theorem Leads.le {before behind : List ρ} {c : ρ} (h : Leads applicable priority before c behind) {x : ρ}
    (hx : x ∈ before ++ c :: behind) (hfit : applicable x = true) : priority x ≤ priority c := by
  rcases List.mem_append.1 hx with hx | hx
  · exact h.before_le x hx hfit
  · rcases List.mem_cons.1 hx with rfl | hx
    · exact Int.le_refl _
    · exact Int.le_of_lt (h.behind_lt x hx hfit)

/-- One more candidate changes nothing if it is not applicable or of a lower priority. -/
theorem Leads.concat {before behind : List ρ} {c x : ρ} (h : Leads applicable priority before c behind)
    (hx : applicable x = true → priority x < priority c) : Leads applicable priority before c (behind ++ [x]) where
  fits := h.fits
  before_le := h.before_le
  behind_lt y hy hfit := by
    rcases List.mem_append.1 hy with hy | hy
    · exact h.behind_lt y hy hfit
    · obtain rfl := List.mem_singleton.1 hy
      exact hx hfit

theorem bestOf_concat (candidates : List ρ) (x : ρ) : bestOf applicable priority (candidates ++ [x]) =
    if applicable x = true then better priority (bestOf applicable priority candidates) x
    else bestOf applicable priority candidates := by
  by_cases hx : applicable x = true
  · simp [bestOf, hx]
  · simp [bestOf, hx]

theorem applicable_of_bestOf_none {candidates : List ρ} (h : bestOf applicable priority candidates = none) :
    ∀ x ∈ candidates, applicable x = false := by
  induction candidates using List.reverseRecOn with
  | nil => exact fun x hx => absurd hx List.not_mem_nil
  | append_singleton candidates y ih =>
    rw [bestOf_concat] at h
    by_cases hy : applicable y = true
    · rw [if_pos hy] at h
      unfold better at h
      split at h
      · cases h
      · split at h <;> cases h
    · rw [if_neg hy] at h
      intro x hx
      rcases List.mem_append.1 hx with hx | hx
      · exact ih h x hx
      · rw [List.mem_singleton.1 hx]
        exact Bool.eq_false_iff.2 hy

theorem leads_of_bestOf {candidates : List ρ} {c : ρ} (h : bestOf applicable priority candidates = some c) :
    ∃ before behind, candidates = before ++ c :: behind ∧ Leads applicable priority before c behind := by
  induction candidates using List.reverseRecOn generalizing c with
  | nil => cases h
  | append_singleton candidates x ih =>
    rw [bestOf_concat] at h
    by_cases hx : applicable x = true
    · rw [if_pos hx] at h
      cases hbest : bestOf applicable priority candidates with
      | none =>
        rw [hbest] at h
        obtain rfl : x = c := Option.some.inj h
        have hnone := applicable_of_bestOf_none hbest
        exact ⟨candidates, [], rfl, hx, fun y hy hfit => absurd hfit (by simp [hnone y hy]), nofun⟩
      | some b =>
        obtain ⟨before, behind, rfl, hb⟩ := ih hbest
        rw [hbest, better] at h
        by_cases hle : priority b ≤ priority x
        · rw [if_pos hle] at h
          obtain rfl : x = c := Option.some.inj h
          exact ⟨before ++ b :: behind, [], rfl, hx, fun y hy hfit => Int.le_trans (hb.le hy hfit) hle, nofun⟩
        · rw [if_neg hle] at h
          obtain rfl : b = c := Option.some.inj h
          exact ⟨before, behind ++ [x], by simp, hb.concat fun _ => Int.not_le.1 hle⟩
    · rw [if_neg hx] at h
      obtain ⟨before, behind, rfl, hc⟩ := ih h
      exact ⟨before, behind ++ [x], by simp, hc.concat fun hfit => absurd hfit hx⟩

/-- A candidate of a higher priority than all that follow stays the best. -/
theorem foldl_better {c : ρ} {behind : List ρ} (h : ∀ x ∈ behind, priority x < priority c) :
    behind.foldl (better priority) (some c) = some c := by
  induction behind with
  | nil => rfl
  | cons x behind ih =>
    have hx := h x (List.mem_cons_self ..)
    rw [List.foldl_cons, better, if_neg (by omega)]
    exact ih fun y hy => h y (List.mem_cons_of_mem _ hy)

theorem bestOf_of_leads {before behind : List ρ} {c : ρ} (h : Leads applicable priority before c behind) :
    bestOf applicable priority (before ++ c :: behind) = some c := by
  have hbest : better priority (bestOf applicable priority before) c = some c := by
    cases hb : bestOf applicable priority before with
    | none => rfl
    | some b =>
      obtain ⟨l, r, rfl, hlead⟩ := leads_of_bestOf hb
      rw [better, if_pos (h.before_le b (by simp) hlead.fits)]
  have hbehind : ∀ x ∈ behind.filter applicable, priority x < priority c := by
    intro x hx
    obtain ⟨hmem, hfit⟩ := List.mem_filter.1 hx
    exact h.behind_lt x hmem hfit
  rw [bestOf, List.filter_append, List.filter_cons_of_pos h.fits, List.foldl_append, List.foldl_cons]
  exact (congrArg (List.foldl (better priority) · (behind.filter applicable)) hbest).trans (foldl_better hbehind)

/-- **The candidate that is chosen**: the highest priority among the applicable ones, the last place among equals. -/
theorem bestOf_eq_some {candidates : List ρ} {c : ρ} : bestOf applicable priority candidates = some c ↔
    ∃ before behind, candidates = before ++ c :: behind ∧ Leads applicable priority before c behind := by
  constructor
  · exact leads_of_bestOf
  · rintro ⟨before, behind, rfl, h⟩
    exact bestOf_of_leads h

/-- None is chosen where none is applicable, and only there. -/
theorem bestOf_eq_none {candidates : List ρ} :
    bestOf applicable priority candidates = none ↔ ∀ x ∈ candidates, applicable x = false := by
  refine ⟨applicable_of_bestOf_none, fun h => ?_⟩
  have hnone : candidates.filter applicable = [] := List.filter_eq_nil_iff.2 fun x hx => by simp [h x hx]
  rw [bestOf, hnone]
  rfl

/-- A candidate alone has the highest priority: it is applicable, and the others that are have lower ones. -/
def Unrivalled (applicable : ρ → Bool) (priority : ρ → Int) (candidates : List ρ) (c : ρ) : Prop :=
  applicable c = true ∧
    ∃ others, candidates.Perm (c :: others) ∧ ∀ x ∈ others, applicable x = true → priority x < priority c

theorem Unrivalled.perm {candidates candidates' : List ρ} {c : ρ} (h : Unrivalled applicable priority candidates c)
    (hperm : candidates'.Perm candidates) : Unrivalled applicable priority candidates' c := by
  obtain ⟨hfits, others, hothers, hlt⟩ := h
  exact ⟨hfits, others, hperm.trans hothers, hlt⟩

/-- Without a rival the place does not matter. -/
theorem Unrivalled.bestOf_eq {candidates : List ρ} {c : ρ} (h : Unrivalled applicable priority candidates c) :
    bestOf applicable priority candidates = some c := by
  obtain ⟨hfits, others, hperm, hlt⟩ := h
  obtain ⟨before, behind, rfl⟩ := List.append_of_mem (hperm.symm.subset (List.mem_cons_self ..))
  have hothers : (before ++ behind).Perm others := (List.perm_middle.symm.trans hperm).cons_inv
  refine bestOf_of_leads ⟨hfits, fun x hx hfit => ?_, fun x hx hfit => ?_⟩
  · exact Int.le_of_lt (hlt x (hothers.subset (List.mem_append_left _ hx)) hfit)
  · exact hlt x (hothers.subset (List.mem_append_right _ hx)) hfit

/-! ## The reader and the writer of a message -/

section

variable {ε : Type} {candidates : List ρ} {missing : ε}

/-- The chosen one, where a failure stands for none. -/
theorem elim_bestOf_ok {c : ρ} :
    (bestOf applicable priority candidates).elim (Except.error missing) Except.ok = .ok c ↔
      ∃ before behind, candidates = before ++ c :: behind ∧ Leads applicable priority before c behind := by
  rw [← bestOf_eq_some]
  cases bestOf applicable priority candidates <;> simp

theorem elim_bestOf_error {e : ε} :
    (bestOf applicable priority candidates).elim (Except.error missing) Except.ok = .error e ↔
      e = missing ∧ ∀ x ∈ candidates, applicable x = false := by
  have hnone : bestOf applicable priority candidates = none ↔ _ := bestOf_eq_none
  rw [← hnone]
  cases bestOf applicable priority candidates <;> simp [eq_comm]

end

namespace Negotiator

variable {α : Type} {n : Negotiator α} {inc : Incoming Bytes} {m : Outgoing α} {e : CodecError}

theorem readerFor_eq (n : Negotiator α) (inc : Incoming Bytes) : n.readerFor inc =
    (bestOf (·.applicable inc) (·.priority) n.readers).elim (.error (.noReader n.payload)) .ok := by
  unfold readerFor
  split <;> simp [*]

theorem writerFor_eq (n : Negotiator α) (m : Outgoing α) : n.writerFor m =
    (bestOf (·.applicable m) (·.priority) n.writers).elim (.error (.noWriter n.payload)) .ok := by
  unfold writerFor
  split <;> simp [*]

theorem readerFor_eq_ok {r : Reader α} : n.readerFor inc = .ok r ↔
    ∃ before behind, n.readers = before ++ r :: behind ∧ Leads (·.applicable inc) (·.priority) before r behind := by
  rw [readerFor_eq]
  exact elim_bestOf_ok

theorem readerFor_eq_error : n.readerFor inc = .error e ↔
    e = .noReader n.payload ∧ ∀ r ∈ n.readers, r.applicable inc = false := by
  rw [readerFor_eq]
  exact elim_bestOf_error

theorem writerFor_eq_ok {w : Writer α} : n.writerFor m = .ok w ↔
    ∃ before behind, n.writers = before ++ w :: behind ∧ Leads (·.applicable m) (·.priority) before w behind := by
  rw [writerFor_eq]
  exact elim_bestOf_ok

theorem writerFor_eq_error : n.writerFor m = .error e ↔
    e = .noWriter n.payload ∧ ∀ w ∈ n.writers, w.applicable m = false := by
  rw [writerFor_eq]
  exact elim_bestOf_error

end Negotiator
end BrokerClient
