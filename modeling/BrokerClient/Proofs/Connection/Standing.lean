import BrokerClient.Proofs.Connection.Acquiring
import BrokerClient.Proofs.Connection.Chronicle
import BrokerClient.Proofs.List.Keyed

/-!
# Where a call stands

A call is queued for the shared connection, has its turn, acquires a connection, or is not there: that is its
`Standing`, before it has come and when it is over. In an orderly manager it is one of these only, and who acquires the
shared connection has the turn. Keeping and dropping an acquisition touches no other call, and when a call that has the
turn is over, only the turn of another comes.
-/

namespace BrokerClient.Manager

inductive Standing where
  | absent
  | queued
  | granted
  | acquiring (a : Acquisition)

/-- Where a call stands. -/
def standing (m : Manager) (call : CallId) : Standing :=
  match m.find? call with
  | some a => .acquiring a
  | none => if m.holder = some call then .granted else if call ∈ m.waiting then .queued else .absent

/-- A call stands in one place only, and who acquires the shared connection has the turn. -/
structure Orderly (m : Manager) : Prop where
  nodup : m.waiting.Nodup
  waiting : ∀ call ∈ m.waiting, m.find? call = none ∧ m.holder ≠ some call
  shared : ∀ call a, m.find? call = some a → (a.shared = true ↔ m.holder = some call)

section

variable {m m' : Manager} {call other : CallId} {a : Acquisition}

theorem standing_of_find? (h : m.find? call = some a) : m.standing call = .acquiring a := by
  simp [standing, h]

theorem standing_absent (hf : m.find? call = none) (hh : m.holder ≠ some call) (hw : call ∉ m.waiting) :
    m.standing call = .absent := by
  simp [standing, hf, hh, hw]

theorem standing_granted (hf : m.find? call = none) (hh : m.holder = some call) : m.standing call = .granted := by
  simp [standing, hf, hh]

/-- Where a call stands depends on its acquisition, on whose turn it is and on who is queued. -/
theorem standing_congr (hf : m'.find? call = m.find? call) (hh : m'.holder = some call ↔ m.holder = some call)
    (hw : call ∈ m'.waiting ↔ call ∈ m.waiting) : m'.standing call = m.standing call := by
  unfold standing
  rw [hf]
  simp only [hh, hw]

theorem standing_cases (m : Manager) (call : CallId) :
    (m.standing call = .absent ∧ m.find? call = none ∧ m.holder ≠ some call ∧ call ∉ m.waiting) ∨
    (m.standing call = .queued ∧ m.find? call = none ∧ m.holder ≠ some call ∧ call ∈ m.waiting) ∨
    (m.standing call = .granted ∧ m.find? call = none ∧ m.holder = some call) ∨
    ∃ a, m.standing call = .acquiring a ∧ m.find? call = some a := by
  unfold standing
  cases m.find? call with
  | some a => simp
  | none => by_cases hh : m.holder = some call <;> by_cases hw : call ∈ m.waiting <;> simp [hh, hw]

theorem find?_of_standing (h : m.standing call = .acquiring a) : m.find? call = some a := by
  rcases standing_cases m call with ⟨hs, -⟩ | ⟨hs, -⟩ | ⟨hs, -⟩ | ⟨b, hs, hf⟩ <;> rw [h] at hs <;> cases hs
  exact hf

theorem of_absent (h : m.standing call = .absent) :
    m.find? call = none ∧ m.holder ≠ some call ∧ call ∉ m.waiting := by
  rcases standing_cases m call with ⟨-, hs⟩ | hs | hs | ⟨b, hs, -⟩
  · exact hs
  all_goals simp [h] at hs

theorem of_granted (h : m.standing call = .granted) : m.find? call = none ∧ m.holder = some call := by
  rcases standing_cases m call with hs | hs | ⟨-, hs⟩ | ⟨b, hs, -⟩
  · simp [h] at hs
  · simp [h] at hs
  · exact hs
  · simp [h] at hs

theorem call_of_find? (h : m.find? call = some a) : a.call = call := by
  simpa using List.find?_some h

/-! ## Keeping and dropping acquisitions -/

theorem keep_frame (m : Manager) (a : Acquisition) : (m.keep a).policy = m.policy ∧ (m.keep a).current = m.current ∧
    (m.keep a).holder = m.holder ∧ (m.keep a).waiting = m.waiting ∧ (m.keep a).generation = m.generation := by
  unfold keep
  split <;> exact ⟨rfl, rfl, rfl, rfl, rfl⟩

theorem find?_keep_of_ne (m : Manager) (h : call ≠ a.call) : (m.keep a).find? call = m.find? call := by
  have hne : (a.call == call) = false := by simpa using h.symm
  have hreplace (l : List Acquisition) :
      (l.map fun b => if b.call = a.call then a else b).find? (·.call == call) = l.find? (·.call == call) := by
    induction l with
    | nil => rfl
    | cons b l ih => by_cases hb : b.call = a.call <;> simp [List.find?_cons, hb, hne, ih]
  unfold keep find?
  split
  · exact hreplace m.acquisitions
  · simp [List.find?_append, hne]

theorem find?_drop (m : Manager) (call other : CallId) :
    (m.drop call).find? other = if other = call then none else m.find? other :=
  Keyed.find?_others call other m.acquisitions

theorem find?_drop_self (m : Manager) (call : CallId) : (m.drop call).find? call = none := by
  rw [find?_drop, if_pos rfl]

theorem find?_drop_of_ne (m : Manager) (h : other ≠ call) : (m.drop call).find? other = m.find? other := by
  rw [find?_drop, if_neg h]

theorem standing_keep_of_ne (m : Manager) (h : call ≠ a.call) : (m.keep a).standing call = m.standing call := by
  obtain ⟨-, -, hh, hw, -⟩ := keep_frame m a
  exact standing_congr (find?_keep_of_ne m h) (by rw [hh]) (by rw [hw])

theorem Orderly.keep (h : m.Orderly) (hw : a.call ∉ m.waiting) (hs : a.shared = true ↔ m.holder = some a.call) :
    (m.keep a).Orderly := by
  obtain ⟨-, -, hholder, hwaiting, -⟩ := keep_frame m a
  refine ⟨hwaiting ▸ h.nodup, ?_, ?_⟩
  · intro call hm
    rw [hwaiting] at hm
    have hne : call ≠ a.call := fun he => hw (he ▸ hm)
    rw [find?_keep_of_ne m hne, hholder]
    exact h.waiting call hm
  · intro call b hb
    rw [hholder]
    by_cases hne : call = a.call
    · subst hne
      rw [find?_keep] at hb
      cases hb
      exact hs
    · rw [find?_keep_of_ne m hne] at hb
      exact h.shared call b hb

/-! ## Passing the turn -/

/-- The call that has the turn is over. -/
structure Leaving (m : Manager) (call : CallId) : Prop where
  holder : m.holder = some call
  gone : m.find? call = none
  nodup : m.waiting.Nodup
  waiting : ∀ other ∈ m.waiting, m.find? other = none ∧ other ≠ call
  apart : ∀ other a, m.find? other = some a → a.shared = false

/-- No other call is touched, though the turn of one may come. -/
def Spares (m : Manager) (call : CallId) (r : Effect) : Prop :=
  ∀ other, other ≠ call → own other r.2 = [] ∧
    (r.1.standing other = m.standing other ∨ m.standing other = .queued ∧ r.1.standing other = .granted)

theorem Leaving.release (h : m.Leaving call) : m.release.1.Orderly ∧ m.release.1.standing call = .absent ∧
    (∀ c, own c m.release.2 = []) ∧ m.Spares call m.release := by
  unfold Manager.release
  split
  · rename_i hnil
    have hnone : call ∉ m.waiting := fun hm => (h.waiting call hm).2 rfl
    refine ⟨⟨h.nodup, ?_, ?_⟩, standing_absent h.gone (by simp) hnone, fun _ => rfl, ?_⟩
    · intro c hc
      exact ⟨(h.waiting c hc).1, by simp⟩
    · intro c a ha
      simp [h.apart c a ha]
    · intro c hc
      exact ⟨rfl, .inl (standing_congr rfl (by simp [h.holder, hc.symm]) Iff.rfl)⟩
  · rename_i next rest hcons
    have hnodup := h.nodup
    rw [hcons] at hnodup
    obtain ⟨hnext, hrest⟩ := List.nodup_cons.1 hnodup
    obtain ⟨hfree, hne⟩ := h.waiting next (by simp [hcons])
    have hcall : call ∉ rest := fun hm => (h.waiting call (by simp [hcons, hm])).2 rfl
    refine ⟨⟨hrest, ?_, ?_⟩, standing_absent h.gone (by simpa using hne) hcall, fun _ => rfl, ?_⟩
    · intro c hc
      refine ⟨(h.waiting c (by simp [hcons, hc])).1, ?_⟩
      rintro ⟨⟩
      exact hnext hc
    · intro c a ha
      have hc : next ≠ c := by
        rintro rfl
        rw [show m.find? next = some a from ha] at hfree
        cases hfree
      simp [h.apart c a ha, hc]
    · intro c hc
      refine ⟨rfl, ?_⟩
      by_cases hcn : c = next
      · subst hcn
        refine .inr ⟨?_, standing_granted hfree rfl⟩
        simp [standing, hfree, h.holder, hne.symm, hcons]
      · refine .inl (standing_congr rfl ?_ (by simp [hcons, hcn]))
        simp [h.holder, hc.symm, Ne.symm hcn]

theorem Orderly.leaving (h : m.Orderly) (hs : m.standing call = .granted) : m.Leaving call := by
  obtain ⟨hf, hh⟩ := of_granted hs
  refine ⟨hh, hf, h.nodup, fun other hm => ⟨(h.waiting other hm).1, ?_⟩, fun other a ha => ?_⟩
  · rintro rfl
    exact (h.waiting other hm).2 hh
  · rw [← Bool.not_eq_true, h.shared other a ha, hh]
    rintro ⟨⟩
    rw [ha] at hf
    cases hf

end

end BrokerClient.Manager
