import BrokerClient.Proofs.Consumer.Custody
import BrokerClient.Proofs.Consumer.Waiting

/-!
# Where tasks and handles come from

A delivery makes one task and, if it is to be acknowledged by hand, one handle; nothing else makes any. Whatever else
happens to a consumer, its tasks are among those that it had, each with its delivery and its handle (`continues_step`).
A handler gets the handle of its task, and the work on deliveries calls the broker only to settle one
(`minded_step`).
-/

namespace BrokerClient

variable {κ α : Type}

/-! ## Handles -/

namespace Acks

/-- No handle is new. -/
structure NoneNew (s s' : Acks κ) : Prop where
  next : s'.next = s.next
  none : ∀ h, s.find? h = none → s'.find? h = none

namespace NoneNew

variable {s s' s'' : Acks κ}

theorem of_handles (hnext : s'.next = s.next) (hh : s'.handles = s.handles) : NoneNew s s' where
  next := hnext
  none h hn := by rwa [find?, hh]

theorem of_keeps (hnext : s'.next = s.next) (hk : ∀ h, Keeps s s' h) : NoneNew s s' where
  next := hnext
  none h hn := by
    cases hf : s'.find? h with
    | none => rfl
    | some x' =>
      obtain ⟨x, hx, -⟩ := (hk h).find x' hf
      rw [hn] at hx
      cases hx

theorem trans (h : NoneNew s s') (h' : NoneNew s' s'') : NoneNew s s'' :=
  ⟨h'.next.trans h.next, fun k hk => h'.none k (h.none k hk)⟩

theorem modify (s : Acks κ) (k : HandleId) {f : Handle → Handle} (hf : ∀ x, (f x).id = x.id) :
    NoneNew s (s.modify k f) where
  next := rfl
  none h hn := by rw [find?_modify s k h hf, hn, Option.map_none]

theorem drop (s : Acks κ) (k : HandleId) : NoneNew s (s.drop k).1 := by
  refine of_keeps ?_ fun _ => .drop s k
  unfold Acks.drop
  split
  · rfl
  · split
    · rfl
    · split <;> rfl

theorem settle (s : Acks κ) (caller : κ) (v : Verdict) (a : Acknowledger) : NoneNew s (s.settle caller v a).1 := by
  have hsame : NoneNew s s := of_handles rfl rfl
  unfold Acks.settle
  split
  · exact hsame
  · rename_i k
    split
    · exact hsame
    · split
      · have htaken : NoneNew s (s.modify k fun x => { x with pending := false, clones := x.clones + 1 }) :=
          modify s k fun _ => rfl
        exact htaken.trans (of_handles rfl rfl)
      · exact hsame

variable [DecidableEq κ]

theorem conclude (s : Acks κ) (x : Settlement κ) : NoneNew s (s.conclude x).1 := by
  have hends : NoneNew s ({ s with inFlight := s.inFlight.filter (·.caller != x.caller) }.release).1 :=
    of_handles rfl rfl
  exact hends.trans (drop _ x.handle)

theorem abandon (s : Acks κ) (caller : κ) : NoneNew s (s.step (.abandon caller)).1 := by
  have hgone : NoneNew s { s with waiting := s.waiting.filter (· != caller) } := of_handles rfl rfl
  simp only [step]
  split
  · exact hgone
  · exact hgone.trans (conclude _ _)

theorem await (s : Acks κ) (caller : κ) : NoneNew s (s.step (.await caller)).1 := by
  simp only [step, look]
  split <;> exact of_handles rfl rfl

end NoneNew
end Acks

namespace Consumer

/-! ## What is left of the tasks -/

/-- No task is new and no handle, and a task keeps its delivery and its handle. -/
structure Continues (c c' : Consumer κ) : Prop where
  next : c'.next = c.next
  tasks : ∀ t ∈ c'.tasks, ∃ u ∈ c.tasks, t = { u with phase := t.phase }
  acks : Acks.NoneNew c.acks c'.acks

namespace Continues

variable {c c' c'' : Consumer κ}

theorem of_tasks (hnext : c'.next = c.next) (htasks : ∀ t ∈ c'.tasks, t ∈ c.tasks)
    (hacks : Acks.NoneNew c.acks c'.acks) : Continues c c' :=
  ⟨hnext, fun t ht => ⟨t, htasks t ht, rfl⟩, hacks⟩

theorem refl (c : Consumer κ) : Continues c c := of_tasks rfl (fun _ ht => ht) (.of_handles rfl rfl)

theorem trans (h : Continues c c') (h' : Continues c' c'') : Continues c c'' where
  next := h'.next.trans h.next
  tasks t ht := by
    obtain ⟨u, hu, htu⟩ := h'.tasks t ht
    obtain ⟨v, hv, huv⟩ := h.tasks u hu
    refine ⟨v, hv, ?_⟩
    rw [htu, huv]
  acks := h.acks.trans h'.acks

/-- Only the acknowledgements change. -/
theorem withAcks (c : Consumer κ) {acks : Acks (Party κ)} (h : Acks.NoneNew c.acks acks) :
    Continues c { c with acks } :=
  of_tasks rfl (fun _ ht => ht) h

theorem withHeld (c : Consumer κ) (held : List HandleId) : Continues c { c with held } :=
  of_tasks rfl (fun _ ht => ht) (.of_handles rfl rfl)

theorem moveTo (c : Consumer κ) (id : TaskId) (phase : Phase) : Continues c (c.moveTo id phase) where
  next := rfl
  tasks t ht := by
    obtain ⟨u, hu, rfl⟩ := List.mem_map.1 ht
    refine ⟨u, hu, ?_⟩
    split <;> rfl
  acks := .of_handles rfl rfl

theorem leave (c : Consumer κ) (t : Task) : Continues c (c.leave t) where
  next := c.next_leave t
  tasks u hu := by
    rw [tasks_leave] at hu
    exact ⟨u, List.mem_of_mem_filter hu, rfl⟩
  acks := by
    unfold Consumer.leave
    cases t.ack with
    | auto => exact .of_handles rfl rfl
    | manual h => exact .drop c.acks h

variable [DecidableEq κ]

theorem hand (c : Consumer κ) (a : Acknowledger) : Continues c (c.hand a) := by
  cases a with
  | auto => exact refl c
  | manual h =>
    have hclone : Acks.NoneNew c.acks (c.acks.step (.clone h)).1 := .modify c.acks h fun _ => rfl
    exact (withAcks c hclone).trans (withHeld _ _)

theorem await (c : Consumer κ) (p : Party κ) : Continues c (c.await p) := withAcks c (.await c.acks p)

theorem abandon (c : Consumer κ) (p : Party κ) : Continues c (c.abandon p) := withAcks c (.abandon c.acks p)

theorem dismiss (c : Consumer κ) (p : Party κ) : Continues c (c.dismiss p) := withAcks c (.of_handles rfl rfl)

theorem work {n : Negotiator α} {queue : String} {x y : Diary κ α} {t : Task} {e : Event κ}
    (h : Work n queue x t e y) : Continues x.now y.now := by
  cases h with
  | hands m _ _ => exact (moveTo x.now t.id .handling).trans (hand _ t.ack)
  | succeeds _ | skips _ _ _ _ _ => exact leave x.now t
  | rejects _ cause _ h _ _ _ _ _ => exact (moveTo x.now t.id (.rejecting cause)).trans (withAcks _ (.settle _ _ _ _))
  | ends _ _ s _ _ => exact (withAcks x.now (.conclude x.now.acks s)).trans (leave _ t)

end Continues

section Steps

variable [DecidableEq κ] (c : Consumer κ) (n : Negotiator α) (queue : String)

/-- Only a delivery makes a task or a handle. -/
theorem continues_step {e : Event κ} (he : ∀ channel mode fresh d, e ≠ .deliver channel mode fresh d) :
    Continues c (c.step n queue e).1 := by
  have hturn := turn n queue ({ now := c } : Diary κ α) e
  show Continues c (({ now := c } : Diary κ α).next n queue e).now
  generalize ({ now := c } : Diary κ α).next n queue e = y at hturn
  cases hturn with
  | still _ _ _ => exact .withAcks c (.of_handles rfl rfl)
  | auto channel fresh d => exact absurd rfl (he channel .auto fresh d)
  | manual channel fresh d => exact absurd rfl (he channel .manual fresh d)
  | works _ _ t _ work => exact .work work
  | clones h _ => exact .hand c (.manual h)
  | drops h _ => exact (Continues.withHeld c (c.held.erase h)).trans (.withAcks _ (.drop c.acks h))
  | settles k h v _ _ _ _ => exact .withAcks c (.settle c.acks (.application k) v (.manual h))
  | answered p _ s _ _ => exact .withAcks c (.conclude c.acks s)

/-! ## What is handed out and called for -/

/-- A handler gets the handle of its task, and the broker is called to settle a delivery. -/
def Action.Minded (c : Consumer κ) : Action κ α → Prop
  | .handle id _ _ a => ∃ t ∈ c.tasks, t.id = id ∧ t.ack = a
  | .call _ _ x => (settled? x).isSome
  | .log _ | .wake _ | .span _ | .consumed .. | .settled .. | .drained _ => True

/-- The calls of a step settle deliveries. -/
theorem settled?_of_mem_step {e : Event κ} {p : Party κ} {channel : ChannelId} {call : ChannelCall}
    (hm : .call p channel call ∈ (c.step n queue e).2) : (settled? call).isSome := by
  have hcalled : (p, channel, call) ∈ (({ now := c } : Diary κ α).next n queue e).called :=
    List.mem_append_right _ (List.mem_filterMap.2 ⟨_, hm, rfl⟩)
  have hturn := turn n queue ({ now := c } : Diary κ α) e
  generalize ({ now := c } : Diary κ α).next n queue e = y at hturn hcalled
  cases hturn with
  | still _ _ _ | auto _ _ _ | manual _ _ _ | clones _ _ | drops _ _ | answered _ _ _ _ _ => cases hcalled
  | settles k h v y _ _ _ =>
    cases List.mem_singleton.1 hcalled
    rw [settled?_call]
    rfl
  | works _ _ t _ work =>
    cases work with
    | hands _ _ _ | succeeds _ | skips _ _ _ _ _ | ends _ _ _ _ _ => cases hcalled
    | rejects _ _ _ _ _ _ _ _ _ =>
      cases List.mem_singleton.1 hcalled
      rfl

/-- A handler gets its message when its task runs, with the handle of the task. -/
theorem task_of_mem_step {e : Event κ} {id : TaskId} {context : TraceContext} {m : Incoming α} {a : Acknowledger}
    (hm : .handle id context m a ∈ (c.step n queue e).2) : ∃ t ∈ c.tasks, t.id = id ∧ t.ack = a := by
  have hhandled : (id, m) ∈ (({ now := c } : Diary κ α).next n queue e).handled :=
    List.mem_append_right _ (List.mem_filterMap.2 ⟨_, hm, rfl⟩)
  have hturn := turn n queue ({ now := c } : Diary κ α) e
  generalize ({ now := c } : Diary κ α).next n queue e = y at hturn hhandled
  cases hturn with
  | still _ _ _ | auto _ _ _ | manual _ _ _ | clones _ _ | drops _ _ | settles _ _ _ _ _ _ _ => cases hhandled
  | answered _ _ _ _ _ => cases hhandled
  | works _ _ t found work =>
    cases work with
    | succeeds _ | rejects _ _ _ _ _ _ _ _ _ | skips _ _ _ _ _ | ends _ _ _ _ _ => cases hhandled
    | hands m' spawned read =>
      have found : c.find? t.id = some t := found
      simp only [step, found, spawned, run, read, List.mem_append, List.mem_map, reduceCtorEq, and_false, exists_false,
        false_or, List.mem_singleton, Action.handle.injEq] at hm
      exact ⟨t, List.mem_of_find?_eq_some found, hm.1.symm, hm.2.2.2.symm⟩

theorem minded_step (e : Event κ) : ∀ x ∈ (c.step n queue e).2, x.Minded c := by
  intro x hx
  cases x with
  | handle id context m a => exact task_of_mem_step c n queue hx
  | call p channel call => exact settled?_of_mem_step c n queue hx
  | log _ | wake _ | span _ | consumed _ _ | settled _ _ | drained _ => trivial

end Steps

end Consumer
end BrokerClient
