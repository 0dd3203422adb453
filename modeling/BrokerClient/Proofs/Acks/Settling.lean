import BrokerClient.Proofs.Acks.Accounting

/-!
# A handle is settled once

Whatever happens to a handle and its clones, it can only be settled once: a step either leaves it as it is, up to its
clones, or is the first attempt on it (`step_cases`). So the first attempt makes the call, with what it asked for, and
every later one finds nothing to do, whatever became of the call. `settled_once` says this of every schedule, together
with what the counter says at each moment.
-/

namespace BrokerClient.Acks

variable {κ : Type}

/-! ## Looking up a handle -/

theorem find?_modify (s : Acks κ) (k h : HandleId) {f : Handle → Handle} (hf : ∀ x, (f x).id = x.id) :
    (s.modify k f).find? h = (s.find? h).map fun x => if h = k then f x else x := by
  have hsame : ((fun x : Handle => x.id == h) ∘ fun x => if x.id = k then f x else x) = fun x => x.id == h := by
    funext x
    by_cases hx : x.id = k <;> simp [hx, hf]
  simp only [find?, modify, List.find?_map, hsame]
  cases hfound : s.handles.find? (·.id == h) with
  | none => rfl
  | some x =>
    obtain ⟨-, rfl⟩ := mem_of_find? hfound
    rfl

/-- What is known of a handle was known before, up to the number of its clones. -/
structure Keeps (s s' : Acks κ) (h : HandleId) : Prop where
  next_le : s.next ≤ s'.next
  find : ∀ x', s'.find? h = some x' → ∃ x, s.find? h = some x ∧ x' = { x with clones := x'.clones }

/-- The handle was there and has no clone left. -/
structure Gone (s : Acks κ) (h : HandleId) : Prop where
  known : h < s.next
  gone : s.find? h = none

namespace Keeps

variable {s s' s'' : Acks κ} {h : HandleId}

theorem of_handles (hh : s'.handles = s.handles) (hn : s.next ≤ s'.next) : Keeps s s' h := by
  refine ⟨hn, ?_⟩
  intro x' hx'
  refine ⟨x', ?_, rfl⟩
  rwa [find?, ← hh]

theorem trans (h₁ : Keeps s s' h) (h₂ : Keeps s' s'' h) : Keeps s s'' h := by
  refine ⟨Nat.le_trans h₁.next_le h₂.next_le, ?_⟩
  intro x'' hx''
  obtain ⟨x', hx', he'⟩ := h₂.find x'' hx''
  obtain ⟨x, hx, he⟩ := h₁.find x' hx'
  refine ⟨x, hx, ?_⟩
  rw [he', he]

/-- A handle that is gone does not come back. -/
theorem gone (hk : Keeps s s' h) (hlt : h < s.next) (hn : s.find? h = none) : Gone s' h := by
  refine ⟨Nat.lt_of_lt_of_le hlt hk.next_le, ?_⟩
  cases hf : s'.find? h with
  | none => rfl
  | some x' =>
    obtain ⟨x, hx, -⟩ := hk.find x' hf
    rw [hn] at hx
    cases hx

/-- A handle is changed that is another one, or only in the number of its clones. -/
theorem modify {k : HandleId} {f : Handle → Handle} (hid : ∀ x, (f x).id = x.id)
    (hf : h ≠ k ∨ ∀ x, f x = { x with clones := (f x).clones }) : Keeps s (s.modify k f) h := by
  refine ⟨Nat.le_refl _, ?_⟩
  intro x' hx'
  rw [find?_modify s k h hid] at hx'
  obtain ⟨x, hx, rfl⟩ := Option.map_eq_some_iff.1 hx'
  refine ⟨x, hx, ?_⟩
  by_cases hk : h = k
  · rw [if_pos hk]
    exact (hf.resolve_left fun hne => hne hk) x
  · rw [if_neg hk]

theorem register (hlt : h < s.next) (channel : ChannelId) (tag : Nat) : Keeps s (s.register channel tag).1 h := by
  refine ⟨Nat.le_succ _, ?_⟩
  intro x' hx'
  refine ⟨x', ?_, rfl⟩
  have hother : (s.next == h) = false := by simpa using Nat.ne_of_gt hlt
  simpa [find?, Acks.register, List.find?_append, hother] using hx'

theorem filter (k : HandleId) : Keeps s { s with handles := s.handles.filter (·.id != k) } h := by
  refine ⟨Nat.le_refl _, ?_⟩
  intro x' hx'
  refine ⟨x', ?_, rfl⟩
  obtain ⟨hmem, hid⟩ := mem_of_find? hx'
  have hk : h ≠ k := by
    have := (List.mem_filter.1 hmem).2
    simpa [hid] using this
  have hsame : (s.handles.filter (·.id != k)).find? (·.id == h) = s.handles.find? (·.id == h) := by
    rw [List.find?_filter]
    congr 1
    funext x
    by_cases hx : x.id = h <;> simp [hx, hk]
  exact hsame.symm.trans hx'

/-- Dropping a clone, of this handle or another one. -/
theorem drop (s : Acks κ) (k : HandleId) : Keeps s (s.drop k).1 h := by
  unfold Acks.drop
  split
  · exact of_handles rfl (Nat.le_refl _)
  · rename_i x hf
    split
    · exact modify (fun _ => rfl) (.inr fun _ => rfl)
    · have hfilter : Keeps s { s with handles := s.handles.filter (·.id != k) } h := filter k
      split
      · exact hfilter.trans (of_handles rfl (Nat.le_refl _))
      · exact hfilter

variable [DecidableEq κ]

theorem look (s : Acks κ) (caller : κ) : Keeps s (s.look caller).1 h := by
  unfold Acks.look
  split
  · exact of_handles rfl (Nat.le_refl _)
  · exact of_handles rfl (Nat.le_refl _)

theorem conclude (s : Acks κ) (c : Settlement κ) : Keeps s (s.conclude c).1 h := by
  have hends : Keeps s ({ s with inFlight := s.inFlight.filter (·.caller != c.caller) }.release).1 h :=
    of_handles rfl (Nat.le_refl _)
  exact hends.trans (drop _ c.handle)

end Keeps

/-! ## One attempt -/

section Attempts

variable [DecidableEq κ] {s s' : Acks κ} {h : HandleId}

/-- There is nothing left to do for this handle, if it is still there. -/
structure Settled (s : Acks κ) (h : HandleId) : Prop where
  known : h < s.next
  settled : ∀ x, s.find? h = some x → x.pending = false

/-- The handle is there and still to be settled, for a delivery with this tag on this channel. -/
structure Unsettled (s : Acks κ) (h : HandleId) (channel : ChannelId) (tag : Nat) : Prop where
  known : h < s.next
  unsettled : ∃ x, s.find? h = some x ∧ x.pending = true ∧ x.channel = channel ∧ x.tag = tag

/-- An attempt that finds nothing to do. -/
def Attempt.Late (a : Attempt κ) : Prop := a.actions = [.settled a.caller (.ok ())]

/-- An attempt that makes the call that was asked for. -/
def Attempt.Calls (a : Attempt κ) (channel : ChannelId) (tag : Nat) : Prop :=
  a.actions = [.call a.caller channel (a.verdict.call tag)]

theorem settle_cases (hlt : h < s.next) (caller : κ) (a : Acknowledger) (v : Verdict) :
    (Keeps s (s.settle caller v a).1 h ∧ ∀ b, s.attempt? h (.settle caller a v) = some b →
      b.Late ∧ ∃ x, s.find? h = some x ∧ x.pending = false) ∨
    ∃ b x, s.attempt? h (.settle caller a v) = some b ∧ s.find? h = some x ∧ x.pending = true ∧
      b.Calls x.channel x.tag ∧ Settled (s.settle caller v a).1 h := by
  cases a with
  | auto =>
    refine .inl ⟨.of_handles rfl (Nat.le_refl _), ?_⟩
    intro b hb
    cases hb
  | manual k =>
    by_cases hk : k = h
    · subst hk
      cases hf : s.find? k with
      | none =>
        left
        simp [attempt?, settle, hf, Keeps.of_handles]
      | some x =>
        cases hp : x.pending with
        | false =>
          left
          simp [attempt?, step, settle, hf, hp, Keeps.of_handles, Attempt.Late]
        | true =>
          right
          refine ⟨⟨caller, v, [.call caller x.channel (v.call x.tag)]⟩, x, ?_, rfl, hp, rfl, ?_⟩
          · simp [attempt?, step, settle, hf, hp]
          · have hstate : (s.settle caller v (.manual k)).1 =
                { s.modify k Handle.taken with inFlight := s.inFlight ++ [⟨caller, k⟩] } := by
              simp only [settle, hf, hp, if_true]
              rfl
            rw [hstate]
            refine ⟨hlt, ?_⟩
            intro y hy
            have hy : (s.modify k Handle.taken).find? k = some y := hy
            rw [find?_modify s k k (f := Handle.taken) fun _ => rfl, hf, Option.map_some, if_pos rfl] at hy
            rw [← Option.some.inj hy]
            rfl
    · left
      have hnone : s.attempt? h (.settle caller (.manual k) v) = none := if_neg fun hc => hk hc.1
      rw [hnone]
      refine ⟨?_, fun b hb => by cases hb⟩
      unfold settle
      simp only
      split
      · exact .of_handles rfl (Nat.le_refl _)
      · split
        · have htaken : Keeps s (s.modify k Handle.taken) h := .modify (fun _ => rfl) (.inl (Ne.symm hk))
          exact htaken.trans (.of_handles rfl (Nat.le_refl _))
        · exact .of_handles rfl (Nat.le_refl _)

/-- **What a step does to a handle**: it leaves it as it is, and if it is an attempt on it, the handle was settled
before; or it settles it. -/
theorem step_cases (hlt : h < s.next) (e : Event κ) :
    (Keeps s (s.step e).1 h ∧ ∀ a, s.attempt? h e = some a → a.Late ∧ ∃ x, s.find? h = some x ∧ x.pending = false) ∨
    ∃ a x, s.attempt? h e = some a ∧ s.find? h = some x ∧ x.pending = true ∧ a.Calls x.channel x.tag ∧
      Settled (s.step e).1 h := by
  have hkeeps (hk : Keeps s (s.step e).1 h) (hnone : s.attempt? h e = none) : Keeps s (s.step e).1 h ∧
      ∀ a, s.attempt? h e = some a → a.Late ∧ ∃ x, s.find? h = some x ∧ x.pending = false := by
    refine ⟨hk, ?_⟩
    intro a ha
    rw [hnone] at ha
    cases ha
  cases e with
  | register channel tag => exact .inl (hkeeps (.register hlt channel tag) rfl)
  | clone k => exact .inl (hkeeps (.modify (fun _ => rfl) (.inr fun _ => rfl)) rfl)
  | drop k => exact .inl (hkeeps (.drop s k) rfl)
  | answered caller result =>
    refine .inl (hkeeps ?_ rfl)
    simp only [step]
    split
    · exact .of_handles rfl (Nat.le_refl _)
    · exact .conclude s _
  | await caller =>
    have hwaits : Keeps s { s with waiting := s.waiting ++ [caller] } h := .of_handles rfl (Nat.le_refl _)
    exact .inl (hkeeps (hwaits.trans (.look _ caller)) rfl)
  | look caller => exact .inl (hkeeps (.look s caller) rfl)
  | abandon caller =>
    have hwaits : Keeps s { s with waiting := s.waiting.filter (· != caller) } h := .of_handles rfl (Nat.le_refl _)
    refine .inl (hkeeps ?_ rfl)
    simp only [step]
    split
    · exact hwaits
    · exact hwaits.trans (.conclude _ _)
  | settle caller a v => exact settle_cases hlt caller a v

theorem unsettled_register (hs : Accounted s) (channel : ChannelId) (tag : Nat) :
    Unsettled (s.step (.register channel tag)).1 s.next channel tag := by
  have hnone : s.handles.find? (·.id == s.next) = none := by
    refine List.find?_eq_none.2 ?_
    intro x hx
    simpa using Nat.ne_of_lt (hs.live x hx).1
  refine ⟨Nat.lt_succ_self _, ⟨s.next, channel, tag, 1, true⟩, ?_, rfl, rfl, rfl⟩
  simp [step, register, find?, List.find?_append, hnone]

/-! ## All attempts -/

theorem Settled.step (hs : Settled s h) (e : Event κ) :
    Settled (s.step e).1 h ∧ ∀ a, s.attempt? h e = some a → a.Late := by
  rcases step_cases hs.known e with ⟨hk, ha⟩ | ⟨_, x, -, hx, hp, -⟩
  · refine ⟨⟨Nat.lt_of_lt_of_le hs.known hk.next_le, ?_⟩, fun a hae => (ha a hae).1⟩
    intro x' hx'
    obtain ⟨x, hx, he⟩ := hk.find x' hx'
    rw [he]
    exact hs.settled x hx
  · rw [hs.settled x hx] at hp
    cases hp

theorem Gone.step (hg : Gone s h) (e : Event κ) : Gone (s.step e).1 h ∧ s.attempt? h e = none := by
  rcases step_cases hg.known e with ⟨hk, ha⟩ | ⟨_, x, -, hx, -⟩
  · refine ⟨hk.gone hg.known hg.gone, ?_⟩
    cases hae : s.attempt? h e with
    | none => rfl
    | some a =>
      obtain ⟨-, x, hx, -⟩ := ha a hae
      rw [hg.gone] at hx
      cases hx
  · rw [hg.gone] at hx
    cases hx

/-- A handle that is to be settled stays so, is dropped for good, or is settled by the first attempt on it. -/
theorem Unsettled.step {channel : ChannelId} {tag : Nat} (hu : Unsettled s h channel tag) (e : Event κ) :
    (s.attempt? h e = none ∧ (Unsettled (s.step e).1 h channel tag ∨ Gone (s.step e).1 h)) ∨
    ∃ a, s.attempt? h e = some a ∧ a.Calls channel tag ∧ Settled (s.step e).1 h := by
  obtain ⟨hlt, x, hx, hp, rfl, rfl⟩ := hu
  rcases step_cases hlt e with ⟨hk, ha⟩ | ⟨a, y, hae, hy, -, hcalls, hs⟩
  · left
    constructor
    · cases hae : s.attempt? h e with
      | none => rfl
      | some a =>
        obtain ⟨-, y, hy, hnot⟩ := ha a hae
        obtain rfl : x = y := Option.some.inj (hx.symm.trans hy)
        rw [hp] at hnot
        cases hnot
    · have hlt' := Nat.lt_of_lt_of_le hlt hk.next_le
      cases hx' : (s.step e).1.find? h with
      | none => exact .inr ⟨hlt', hx'⟩
      | some x' =>
        obtain ⟨y, hy, he⟩ := hk.find x' hx'
        obtain rfl : x = y := Option.some.inj (hx.symm.trans hy)
        rw [he] at hx'
        exact .inl ⟨hlt', _, hx', hp, rfl, rfl⟩
  · right
    obtain rfl : x = y := Option.some.inj (hx.symm.trans hy)
    exact ⟨a, hae, hcalls, hs⟩

theorem Gone.attempts_eq_nil (hg : Gone s h) (es : List (Event κ)) : attempts h s es = [] := by
  induction es generalizing s with
  | nil => rfl
  | cons e es ih =>
    obtain ⟨hg', hnone⟩ := hg.step e
    rw [attempts, hnone, ih hg']
    rfl

theorem Settled.late (hs : Settled s h) (es : List (Event κ)) : ∀ a ∈ attempts h s es, a.Late := by
  induction es generalizing s with
  | nil => nofun
  | cons e es ih =>
    obtain ⟨hs', hlate⟩ := hs.step e
    intro a ha
    rcases List.mem_append.1 ha with ha | ha
    · exact hlate a (Option.mem_toList.1 ha)
    · exact ih hs' a ha

/-- The first attempt calls the broker and all others come too late. -/
def Once (channel : ChannelId) (tag : Nat) : List (Attempt κ) → Prop
  | [] => True
  | first :: later => first.Calls channel tag ∧ ∀ a ∈ later, a.Late

theorem Unsettled.once {channel : ChannelId} {tag : Nat} (hu : Unsettled s h channel tag) (es : List (Event κ)) :
    Once channel tag (attempts h s es) := by
  induction es generalizing s with
  | nil => exact trivial
  | cons e es ih =>
    rcases hu.step e with ⟨hnone, hu' | hg'⟩ | ⟨a, hae, hcalls, hs'⟩
    · rw [attempts, hnone]
      exact ih hu'
    · rw [attempts, hnone, hg'.attempts_eq_nil]
      exact trivial
    · rw [attempts, hae]
      exact ⟨hcalls, hs'.late es⟩

/-! ## What else a step does -/

/-- A report, or a word to those who wait. -/
def Action.IsNotice : Action κ → Prop
  | .log _ | .wake _ => True
  | .call .. | .settled .. | .drained _ => False

omit [DecidableEq κ] in
theorem notice_of_mem_drop {k : HandleId} {a : Action κ} (ha : a ∈ (s.drop k).2) : a.IsNotice := by
  unfold drop at ha
  split at ha
  · cases ha
  · split at ha
    · cases ha
    · split at ha
      · rcases List.mem_append.1 ha with ha | ha
        · obtain ⟨_, -, rfl⟩ := List.mem_map.1 ha
          exact trivial
        · rw [List.mem_singleton.1 ha]
          exact trivial
      · cases ha

theorem notice_of_mem_conclude {c : Settlement κ} {a : Action κ} (ha : a ∈ (s.conclude c).2) : a.IsNotice := by
  rcases List.mem_append.1 ha with ha | ha
  · obtain ⟨_, -, rfl⟩ := List.mem_map.1 ha
    exact trivial
  · exact notice_of_mem_drop ha

theorem drained_of_mem_look {caller : κ} {a : Action κ} (ha : a ∈ (s.look caller).2) :
    a = .drained caller ∧ s.outstanding = 0 ∧ ∃ waiting, (s.look caller).1 = { s with waiting } := by
  unfold look at ha ⊢
  split at ha
  · rename_i hc
    rw [if_pos hc]
    exact ⟨List.mem_singleton.1 ha, hc.2, _, rfl⟩
  · cases ha

/-- **What a step does**: it reports, or lets those go who settle or wait; the broker is only called by an attempt on a
handle, and nobody who waits is let go unless the counter is at zero and stays there. -/
theorem action_cases {e : Event κ} {a : Action κ} (ha : a ∈ (s.step e).2) :
    a.IsNotice ∨ (∃ caller result, a = .settled caller result) ∨
    (∃ caller channel c h b, a = .call caller channel c ∧ s.attempt? h e = some b ∧ a ∈ b.actions) ∨
    ∃ caller, a = .drained caller ∧ s.outstanding = 0 ∧ ∃ waiting, (s.step e).1 = { s with waiting } := by
  cases e with
  | register channel tag =>
    obtain ⟨_, -, rfl⟩ := List.mem_map.1 ha
    exact .inl trivial
  | clone k => cases ha
  | drop k => exact .inl (notice_of_mem_drop ha)
  | settle caller k v =>
    cases k with
    | auto => exact .inr (.inl ⟨_, _, List.mem_singleton.1 ha⟩)
    | manual k =>
      cases hf : s.find? k with
      | none =>
        simp only [step, settle, hf] at ha
        exact .inr (.inl ⟨_, _, List.mem_singleton.1 ha⟩)
      | some x =>
        cases hp : x.pending with
        | false =>
          simp only [step, settle, hf, hp] at ha
          exact .inr (.inl ⟨_, _, List.mem_singleton.1 ha⟩)
        | true =>
          have hcall := ha
          simp only [step, settle, hf, hp, if_true] at hcall
          have hattempt : s.attempt? k (.settle caller (.manual k) v) =
              some ⟨caller, v, (s.step (.settle caller (.manual k) v)).2⟩ := if_pos ⟨rfl, by rw [hf]; rfl⟩
          exact .inr (.inr (.inl ⟨_, _, _, k, _, List.mem_singleton.1 hcall, hattempt, ha⟩))
  | answered caller result =>
    simp only [step] at ha
    split at ha
    · cases ha
    · rcases List.mem_append.1 ha with ha | ha
      · exact .inl (notice_of_mem_conclude ha)
      · exact .inr (.inl ⟨_, _, List.mem_singleton.1 ha⟩)
  | await caller =>
    obtain ⟨ha, hzero, waiting, hstate⟩ := drained_of_mem_look (s := { s with waiting := s.waiting ++ [caller] }) ha
    exact .inr (.inr (.inr ⟨caller, ha, hzero, waiting, hstate⟩))
  | look caller => exact .inr (.inr (.inr ⟨caller, drained_of_mem_look ha⟩))
  | abandon caller =>
    simp only [step] at ha
    split at ha
    · cases ha
    · exact .inl (notice_of_mem_conclude ha)

/-! ## Schedules -/

theorem accounted_after (es : List (Event κ)) (hs : ({} : Acks κ).Schedule es) :
    Accounted (({} : Acks κ).after es) := by
  refine after_induction ?_ {} ⟨rfl, .nil, nofun, .nil⟩ es hs
  intro s e hs he
  obtain ⟨gone, hmoves⟩ := hs.step he
  exact hmoves.accounted

/-- **Every registration is counted and every handle is settled once.** After every schedule the counter is the number
of handles that are still to be settled and of calls in flight; each step changes it by just the registrations that go
and come; whoever waits is let go only when there are none. The broker is called only by attempts on handles: the first
attempt on a handle makes the call that it asks for, for the handle's own delivery, and each later one succeeds at once
without a call. -/
theorem settled_once (es : List (Event κ)) (hs : ({} : Acks κ).Schedule es) (s : Acks κ)
    (he : s = ({} : Acks κ).after es) :
    s.outstanding = s.handles.countP (·.pending) + s.inFlight.length ∧
    (∀ x ∈ s.handles, 0 < x.clones) ∧
    (∀ e, s.Admits e → ∃ gone, (gone ++ (s.step e).1.registered).Perm (s.registered ++ s.new e) ∧
      (s.step e).1.outstanding + gone.length = s.outstanding + (s.new e).length) ∧
    (∀ e caller, .drained caller ∈ (s.step e).2 →
      s.handles.countP (·.pending) + s.inFlight.length = 0 ∧
      (s.step e).1.handles.countP (·.pending) + (s.step e).1.inFlight.length = 0) ∧
    (∀ e caller channel c, .call caller channel c ∈ (s.step e).2 →
      ∃ h a, s.attempt? h e = some a ∧ .call caller channel c ∈ a.actions) ∧
    ∀ before channel tag rest, es = before ++ .register channel tag :: rest →
      Once channel tag (attempts (({} : Acks κ).after before).next
        ((({} : Acks κ).after before).step (.register channel tag)).1 rest) := by
  have h : Accounted s := he ▸ accounted_after es hs
  have hcounted : s.outstanding = s.handles.countP (·.pending) + s.inFlight.length :=
    h.counted.trans s.length_registered
  refine ⟨hcounted, fun x hx => (h.live x hx).2, ?_, ?_, ?_, ?_⟩
  · intro e he
    obtain ⟨gone, hmoves⟩ := h.step he
    exact ⟨gone, hmoves.moved, hmoves.counted⟩
  · intro e caller hm
    rcases action_cases hm with hn | ⟨_, _, hd⟩ | ⟨_, _, _, _, _, hd, -⟩ | ⟨_, -, hzero, waiting, hstate⟩
    · exact hn.elim
    · cases hd
    · cases hd
    · rw [hstate]
      exact ⟨hcounted ▸ hzero, hcounted ▸ hzero⟩
  · intro e caller channel c hm
    rcases action_cases hm with hn | ⟨_, _, hd⟩ | ⟨_, _, _, k, b, -, hattempt, hb⟩ | ⟨_, hd, -⟩
    · exact hn.elim
    · cases hd
    · exact ⟨k, b, hattempt, hb⟩
    · cases hd
  · intro before channel tag rest hes
    have hbefore : Accounted (({} : Acks κ).after before) := accounted_after before (hes ▸ hs).left
    exact (unsettled_register hbefore channel tag).once rest

/-- Two clones of a handle are settled by different callers while a third waits; the call fails, and what comes later
comes too late. -/
def race : List (Event Nat) := [
  .register 3 7, .clone 0, .await 9, .settle 1 (.manual 0) (.reject true), .settle 2 (.manual 0) .ack, .drop 0,
  .answered 1 (.error .reject), .settle 4 (.manual 0) (.reject false)]

theorem settled_once_race : ({} : Acks Nat).Schedule race ∧ (({} : Acks Nat).after (race.take 5)).outstanding = 1 ∧
    (attempts 0 (({} : Acks Nat).register 3 7).1 race.tail).length = 3 ∧
    Once 3 7 (attempts 0 (({} : Acks Nat).register 3 7).1 race.tail) := by
  have hs : ({} : Acks Nat).Schedule race := by decide
  obtain ⟨hcounted, -⟩ := settled_once (race.take 5) (by decide) _ rfl
  obtain ⟨-, -, -, -, -, honce⟩ := settled_once race hs _ rfl
  exact ⟨hs, hcounted, rfl, honce [] 3 7 race.tail rfl⟩

end Attempts
end BrokerClient.Acks
