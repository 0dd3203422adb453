import BrokerClient.Proofs.Consumer.Diary

/-!
# The clones of a handle

A handle lasts as long as it has clones. Those of a consumer's handles are the clones of its tasks, those that the
application holds and those of calls in flight, and there are no others (`Balanced`): whatever is done with a handle,
as many clones come or go as there are users more or less.
-/

namespace BrokerClient

variable {κ α : Type}

/-! ## Clones -/

namespace Acks

/-- The clones of a handle; none if it is gone. -/
def clonesOf (s : Acks κ) (h : HandleId) : Nat := ((s.find? h).map (·.clones)).getD 0

/-- The calls in flight that settle a handle. -/
def flightsOf (s : Acks κ) (h : HandleId) : Nat := s.inFlight.countP (·.handle = h)

variable {s : Acks κ} {k : HandleId}

theorem exists_of_clonesOf (hk : 0 < s.clonesOf k) : ∃ x, s.find? k = some x ∧ s.clonesOf k = x.clones := by
  unfold clonesOf at hk ⊢
  cases hf : s.find? k with
  | none => simp [hf] at hk
  | some x => exact ⟨x, rfl, by simp⟩

/-- A handle that is still to come is not there. -/
theorem find?_next (hs : s.Accounted) : s.find? s.next = none := by
  refine List.find?_eq_none.mpr fun x hx => ?_
  simpa using Nat.ne_of_lt (hs.live x hx).1

theorem find?_register (hs : s.Accounted) (channel : ChannelId) (tag : Nat) (h : HandleId) :
    (s.register channel tag).1.find? h = if h = s.next then some ⟨s.next, channel, tag, 1, true⟩ else s.find? h := by
  have hnone := find?_next hs
  rw [find?] at hnone
  simp only [find?, register, List.find?_append]
  by_cases hh : h = s.next
  · simp [hh, hnone]
  · simp [hh, Ne.symm hh]

theorem clonesOf_register (hs : s.Accounted) (channel : ChannelId) (tag : Nat) (h : HandleId) :
    (s.register channel tag).1.clonesOf h = s.clonesOf h + if h = s.next then 1 else 0 := by
  rw [clonesOf, find?_register hs]
  split
  · rename_i hh
    simp [clonesOf, hh, find?_next hs]
  · rfl

theorem clonesOf_modify {f : Handle → Handle} (hid : ∀ x, (f x).id = x.id) {n : Nat → Nat}
    (hf : ∀ x, (f x).clones = n x.clones) (hk : 0 < s.clonesOf k) (h : HandleId) :
    (s.modify k f).clonesOf h = if h = k then n (s.clonesOf h) else s.clonesOf h := by
  obtain ⟨x, hx, hclones⟩ := exists_of_clonesOf hk
  rw [clonesOf, find?_modify s k h hid]
  by_cases hh : h = k
  · subst hh
    simp [hx, hf, hclones]
  · simp [hh, clonesOf]

theorem clonesOf_clone (hk : 0 < s.clonesOf k) (h : HandleId) :
    (s.modify k fun x => { x with clones := x.clones + 1 }).clonesOf h = s.clonesOf h + if h = k then 1 else 0 := by
  rw [clonesOf_modify (f := fun x => { x with clones := x.clones + 1 }) (n := (· + 1)) (fun _ => rfl) (fun _ => rfl) hk]
  split <;> rfl

theorem clonesOf_drop (hk : 0 < s.clonesOf k) (h : HandleId) :
    (s.drop k).1.clonesOf h + (if h = k then 1 else 0) = s.clonesOf h := by
  obtain ⟨x, hx, hclones⟩ := exists_of_clonesOf hk
  by_cases hmore : 1 < x.clones
  · have hdrop : (s.drop k).1 = s.modify k fun x => { x with clones := x.clones - 1 } := by
      simp only [drop, hx, if_pos hmore]
    rw [hdrop, clonesOf_modify (f := fun x => { x with clones := x.clones - 1 }) (n := (· - 1)) (fun _ => rfl)
      (fun _ => rfl) hk]
    split
    · rename_i hh
      rw [hh]
      omega
    · omega
  · have hfind : (s.drop k).1.find? h = if h = k then none else s.find? h := by
      rw [find?, find?, ← Keyed.find?_others]
      simp only [drop, hx, if_neg hmore]
      split <;> rfl
    rw [clonesOf, hfind]
    split
    · rename_i hh
      rw [hh, hclones]
      simp
      omega
    · rfl

theorem clonesOf_settle {y : Handle} (hy : s.find? k = some y) (hp : y.pending = true) (hk : 0 < s.clonesOf k) (p : κ)
    (v : Verdict) (h : HandleId) :
    (s.settle p v (.manual k)).1.clonesOf h = s.clonesOf h + (if h = k then 1 else 0) ∧
      (s.settle p v (.manual k)).1.flightsOf h = s.flightsOf h + (if h = k then 1 else 0) := by
  simp only [settle, hy, if_pos hp]
  constructor
  · show (s.modify k Handle.taken).clonesOf h = _
    rw [clonesOf_modify (f := Handle.taken) (n := (· + 1)) (fun _ => rfl) (fun _ => rfl) hk]
    split <;> rfl
  · simp [flightsOf, List.countP_append, List.countP_cons, eq_comm]

theorem inFlight_drop (s : Acks κ) (k : HandleId) : (s.drop k).1.inFlight = s.inFlight := by
  unfold drop
  split
  · rfl
  · split
    · rfl
    · split <;> rfl

theorem inFlight_conclude [DecidableEq κ] (s : Acks κ) (x : Settlement κ) :
    (s.conclude x).1.inFlight = Keyed.others (·.caller) x.caller s.inFlight := inFlight_drop _ _

theorem inFlight_settle {y : Handle} (hy : s.find? k = some y) (hp : y.pending = true) (p : κ) (v : Verdict) :
    (s.settle p v (.manual k)).1.inFlight = s.inFlight ++ [⟨p, k⟩] := by
  simp only [settle, hy, if_pos hp]

theorem clonesOf_conclude [DecidableEq κ] (hs : s.Accounted) {x : Settlement κ} (hx : x ∈ s.inFlight)
    (hk : 0 < s.clonesOf x.handle) (h : HandleId) :
    (s.conclude x).1.clonesOf h + (if h = x.handle then 1 else 0) = s.clonesOf h ∧
      (s.conclude x).1.flightsOf h + (if h = x.handle then 1 else 0) = s.flightsOf h := by
  constructor
  · exact clonesOf_drop (s := ({ s with inFlight := s.inFlight.filter (·.caller != x.caller) }.release).1) hk h
  · have hperm := Keyed.perm_cons_others hs.callers hx
    rw [flightsOf, flightsOf, inFlight_conclude s x, hperm.countP_eq, List.countP_cons]
    simp [eq_comm]

/-! ## Calls in flight -/

section

variable [DecidableEq κ] {s' : Acks κ}

theorem settlement?_congr (h : s'.inFlight = s.inFlight) (c : κ) : s'.settlement? c = s.settlement? c := by
  rw [settlement?, h, ← settlement?]

theorem settlement?_settle {k : HandleId} {y : Handle} (hy : s.find? k = some y) (hp : y.pending = true) {p c : κ}
    (v : Verdict) (hne : p ≠ c) : (s.settle p v (.manual k)).1.settlement? c = s.settlement? c := by
  simp [settlement?, inFlight_settle hy hp, List.find?_append, hne]

theorem settlement?_settle_self {k : HandleId} {y : Handle} (hy : s.find? k = some y) (hp : y.pending = true) {p : κ}
    (v : Verdict) : ((s.settle p v (.manual k)).1.settlement? p).isSome := by
  simp [settlement?, inFlight_settle hy hp, List.find?_append]

theorem settlement?_conclude {x : Settlement κ} {c : κ} (hne : x.caller ≠ c) :
    (s.conclude x).1.settlement? c = s.settlement? c := by
  rw [settlement?, inFlight_conclude, Keyed.find?_others, if_neg hne.symm, ← settlement?]

end

end Acks

namespace Consumer

/-! ## What the application gets -/

section

variable [DecidableEq κ] (c : Consumer κ) (a : Acknowledger)

theorem find?_hand (i : TaskId) : (c.hand a).find? i = c.find? i := by cases a <;> rfl

theorem inFlight_hand : (c.hand a).acks.inFlight = c.acks.inFlight := by cases a <;> rfl

theorem mem_held_hand {c : Consumer κ} {a : Acknowledger} {h : HandleId} :
    h ∈ (c.hand a).held ↔ h ∈ c.held ∨ a = .manual h := by
  cases a with
  | auto => simp [hand]
  | manual k => simp [hand, eq_comm, or_comm]

end

/-! ## What a task leaves behind -/

section

variable (c : Consumer κ) (t : Task)

theorem tasks_leave : (c.leave t).tasks = Keyed.others (·.id) t.id c.tasks := by
  unfold leave
  cases t.ack <;> rfl

theorem next_leave : (c.leave t).next = c.next := by
  unfold leave
  cases t.ack <;> rfl

theorem held_leave : (c.leave t).held = c.held := by
  unfold leave
  cases t.ack <;> rfl

theorem inFlight_leave : (c.leave t).acks.inFlight = c.acks.inFlight := by
  unfold leave
  cases t.ack with
  | auto => rfl
  | manual h => exact Acks.inFlight_drop c.acks h

theorem find?_leave (i : TaskId) : (c.leave t).find? i = if i = t.id then none else c.find? i := by
  rw [find?, tasks_leave, Keyed.find?_others]
  rfl

theorem find?_leave_self : (c.leave t).find? t.id = none := by rw [find?_leave, if_pos rfl]

end

/-! ## Who has a clone -/

/-- The clones of a handle that tasks have and the application holds. -/
def users (c : Consumer κ) (h : HandleId) : Nat := c.tasks.countP (·.ack = .manual h) + c.held.count h

/-- Every clone of a handle belongs to a task, to the application or to a call in flight. -/
def Balanced (c : Consumer κ) : Prop := ∀ h, c.acks.clonesOf h = c.users h + c.acks.flightsOf h

namespace Balanced

variable {c : Consumer κ}

theorem clonesOf_pos (hc : c.Balanced) {h : HandleId} (hu : 0 < c.users h) : 0 < c.acks.clonesOf h := by
  have := hc h
  omega

theorem users_pos_of_mem {t : Task} (ht : t ∈ c.tasks) {h : HandleId} (hack : t.ack = .manual h) : 0 < c.users h :=
  Nat.add_pos_left (List.countP_pos_iff.mpr ⟨t, ht, by simpa using hack⟩) _

theorem users_pos_of_held {h : HandleId} (hh : h ∈ c.held) : 0 < c.users h :=
  Nat.add_pos_right _ (List.count_pos_iff.mpr hh)

/-- A delivery comes with a handle, and its task gets the handle. -/
theorem register [DecidableEq κ] (hc : c.Balanced) (hs : c.acks.Accounted) (channel : ChannelId) (tag : Nat) (t : Task)
    (ht : t.ack = .manual c.acks.next) :
    Balanced { c with acks := (c.acks.register channel tag).1, tasks := c.tasks ++ [t], next := c.next + 1 } := by
  intro h
  have hclones := Acks.clonesOf_register hs channel tag h
  have hflights : (c.acks.register channel tag).1.flightsOf h = c.acks.flightsOf h := rfl
  show (c.acks.register channel tag).1.clonesOf h = _ + (c.acks.register channel tag).1.flightsOf h
  rw [hclones, hflights, hc h]
  simp only [users, List.countP_append, List.countP_singleton, ht, Acknowledger.manual.injEq, decide_eq_true_eq,
    eq_comm (a := h)]
  omega

theorem users_moveTo (c : Consumer κ) (id : TaskId) (phase : Phase) (h : HandleId) :
    (c.moveTo id phase).users h = c.users h := by
  simp only [users, Consumer.moveTo, List.countP_map]
  congr 2
  funext t
  by_cases ht : t.id = id <;> simp [ht]

theorem moveTo (hc : c.Balanced) (id : TaskId) (phase : Phase) : (c.moveTo id phase).Balanced := by
  intro h
  rw [users_moveTo]
  exact hc h

theorem hand [DecidableEq κ] (hc : c.Balanced) {a : Acknowledger} (ha : ∀ h, a = .manual h → 0 < c.users h) :
    (c.hand a).Balanced := by
  cases a with
  | auto => exact hc
  | manual k =>
    intro h
    have hclones : (c.hand (.manual k)).acks.clonesOf h = _ := Acks.clonesOf_clone (hc.clonesOf_pos (ha k rfl)) h
    have hflights : (c.hand (.manual k)).acks.flightsOf h = c.acks.flightsOf h := rfl
    have husers : (c.hand (.manual k)).users h = c.users h + if h = k then 1 else 0 := by
      by_cases hh : h = k
      · simp [users, Consumer.hand, hh, Nat.add_assoc]
      · simp [users, Consumer.hand, hh, List.count_cons_of_ne (Ne.symm hh)]
    rw [hclones, hflights, husers, hc h]
    omega

/-- Whoever drops a clone had it before. -/
theorem drop (hc : c.Balanced) {k : HandleId} {c' : Consumer κ} (hacks : c'.acks = (c.acks.drop k).1)
    (husers : ∀ h, c'.users h + (if h = k then 1 else 0) = c.users h) : c'.Balanced := by
  intro h
  have hk := husers k
  rw [if_pos rfl] at hk
  have hclones := Acks.clonesOf_drop (hc.clonesOf_pos (h := k) (by omega)) h
  have hflights : c'.acks.flightsOf h = c.acks.flightsOf h := by
    rw [hacks, Acks.flightsOf, Acks.inFlight_drop c.acks k, ← Acks.flightsOf]
  have := husers h
  have := hc h
  rw [hacks] at hflights ⊢
  omega

theorem leave (hc : c.Balanced) (hids : (c.tasks.map (·.id)).Nodup) {t : Task} (ht : t ∈ c.tasks) :
    (c.leave t).Balanced := by
  have husers (h : HandleId) : (c.leave t).users h + (if t.ack = .manual h then 1 else 0) = c.users h := by
    have hperm := Keyed.perm_cons_others hids ht
    simp only [users, tasks_leave, held_leave, hperm.countP_eq, List.countP_cons, decide_eq_true_eq]
    omega
  cases hack : t.ack with
  | auto =>
    intro h
    have hacks : (c.leave t).acks = c.acks := by simp only [Consumer.leave, hack]
    have hh := husers h
    rw [hack, if_neg (by simp), Nat.add_zero] at hh
    rw [hacks, hh]
    exact hc h
  | manual k =>
    refine hc.drop (k := k) (by simp only [Consumer.leave, hack]) fun h => ?_
    simpa [hack, eq_comm] using husers h

theorem release (hc : c.Balanced) {k : HandleId} (hk : k ∈ c.held) :
    Balanced { c with held := c.held.erase k, acks := (c.acks.drop k).1 } := by
  refine hc.drop rfl fun h => ?_
  have hpos := List.count_pos_iff.mpr hk
  by_cases hh : h = k
  · subst hh
    simp only [users, List.count_erase_self, if_true]
    omega
  · simp [users, List.count_erase_of_ne hh, hh]

theorem settle [DecidableEq κ] (hc : c.Balanced) {k : HandleId} {y : Acks.Handle} (hy : c.acks.find? k = some y)
    (hp : y.pending = true) (hk : 0 < c.users k) (p : Party κ) (v : Verdict) :
    Balanced { c with acks := (c.acks.settle p v (.manual k)).1 } := by
  intro h
  obtain ⟨hclones, hflights⟩ := Acks.clonesOf_settle hy hp (hc.clonesOf_pos hk) p v h
  show (c.acks.settle p v (.manual k)).1.clonesOf h = c.users h + (c.acks.settle p v (.manual k)).1.flightsOf h
  rw [hclones, hflights, hc h]
  omega

theorem conclude [DecidableEq κ] (hc : c.Balanced) (hs : c.acks.Accounted) {s : Acks.Settlement (Party κ)}
    (hm : s ∈ c.acks.inFlight) : Balanced { c with acks := (c.acks.conclude s).1 } := by
  intro h
  have hflight : 0 < c.acks.flightsOf s.handle := List.countP_pos_iff.mpr ⟨s, hm, by simp⟩
  have hpos : 0 < c.acks.clonesOf s.handle := by
    have := hc s.handle
    omega
  obtain ⟨hclones, hflights⟩ := Acks.clonesOf_conclude hs hm hpos h
  show (c.acks.conclude s).1.clonesOf h = c.users h + (c.acks.conclude s).1.flightsOf h
  have := hc h
  omega

end Balanced

end Consumer
end BrokerClient
