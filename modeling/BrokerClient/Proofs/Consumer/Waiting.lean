import BrokerClient.Consumer
import BrokerClient.Proofs.Acks.Settling

/-!
# Who waits for acknowledgements

Calls and loops wait for the acknowledgements that the work on deliveries still owes. Nothing that this work does ends
a wait, however many handles it settles or drops: it wakes those who wait, and each goes on when it looks and finds
nothing outstanding (`step_cases`).
-/

namespace BrokerClient

variable {κ α : Type}

/-- Whether somebody starts, stops or takes deliveries, rather than working on one. -/
def Party.dispatches : Party κ → Bool
  | .call _ | .loop _ => true
  | .task _ | .application _ => false

namespace Acks

/-- An action of those who work on deliveries. -/
def Action.OfWork : Action (Party κ) → Prop
  | .call p _ _ => p.dispatches = false
  | .drained _ => False
  | .log _ | .wake _ | .settled _ _ => True

theorem Action.IsNotice.ofWork {a : Action (Party κ)} (ha : a.IsNotice) : a.OfWork := by
  cases a with
  | log _ | wake _ | settled _ _ => trivial
  | call _ _ _ | drained _ => exact ha.elim

theorem waiting_drop (s : Acks κ) (h : HandleId) : (s.drop h).1.waiting = s.waiting := by
  unfold drop
  split
  · rfl
  · split
    · rfl
    · split <;> rfl

theorem waiting_settle (s : Acks κ) (caller : κ) (v : Verdict) (a : Acknowledger) :
    (s.settle caller v a).1.waiting = s.waiting := by
  unfold settle
  split
  · rfl
  · split
    · rfl
    · split <;> rfl

variable [DecidableEq κ]

theorem waiting_conclude (s : Acks κ) (x : Settlement κ) : (s.conclude x).1.waiting = s.waiting := waiting_drop _ x.handle

theorem waiting_abandon (s : Acks κ) (caller : κ) :
    (s.step (.abandon caller)).1.waiting = s.waiting.filter (· != caller) := by
  simp only [step]
  split
  · rfl
  · exact waiting_conclude _ _

omit [DecidableEq κ] in
/-- The broker is called by the caller that settles. -/
theorem ofWork_of_mem_settle {s : Acks (Party κ)} {p : Party κ} (hp : p.dispatches = false) {v : Verdict}
    {k : Acknowledger} {a : Action (Party κ)} (ha : a ∈ (s.settle p v k).2) : a.OfWork := by
  have hsettled : a ∈ [Action.settled p (.ok ())] → a.OfWork := by
    intro hm
    rw [List.mem_singleton.1 hm]
    trivial
  unfold settle at ha
  split at ha
  · exact hsettled ha
  · split at ha
    · exact hsettled ha
    · split at ha
      · rw [List.mem_singleton.1 ha]
        exact hp
      · exact hsettled ha

end Acks

namespace Consumer

/-- An action of those who work on deliveries. -/
def Action.OfWork : Action κ α → Prop
  | .call p _ _ => p.dispatches = false
  | .drained _ => False
  | .log _ | .wake _ | .handle .. | .span _ | .consumed .. | .settled .. => True

/-- What is said about work is an action of it. -/
theorem ofWork_of_mem_relay {b : Acks.Action (Party κ)} (hb : b.OfWork) {a : Action κ α} (ha : a ∈ relay b) :
    a.OfWork := by
  cases b with
  | log _ | wake _ =>
    rw [List.mem_singleton.1 ha]
    trivial
  | call p channel c =>
    rw [List.mem_singleton.1 ha]
    exact hb
  | settled p result =>
    cases p with
    | application k =>
      rw [List.mem_singleton.1 ha]
      trivial
    | call _ | loop _ | task _ => cases ha
  | drained p => exact hb.elim

/-- An effect of work on deliveries: those who wait go on waiting. -/
structure Works (c : Consumer κ) (r : Effect κ α) : Prop where
  waiting : r.1.acks.waiting = c.acks.waiting
  actions : ∀ a ∈ r.2, a.OfWork

namespace Works

variable {c c' : Consumer κ}

theorem idle (c : Consumer κ) : Works c ((c, []) : Effect κ α) := ⟨rfl, fun _ ha => absurd ha List.not_mem_nil⟩

/-- Only who waits matters before. -/
theorem of_waiting {r : Effect κ α} (h : Works c r) (hw : c.acks.waiting = c'.acks.waiting) : Works c' r :=
  ⟨h.waiting.trans hw, h.actions⟩

/-- One effect after the other. -/
theorem append {a b : List (Action κ α)} {c'' : Consumer κ} (h : Works c (c', a)) (h' : Works c' (c'', b)) :
    Works c (c'', a ++ b) where
  waiting := h'.waiting.trans h.waiting
  actions x hx := (List.mem_append.1 hx).elim (h.actions x) (h'.actions x)

/-- Saying more before. -/
theorem prepend {r : Effect κ α} (h : Works c r) {a : List (Action κ α)} (ha : ∀ x ∈ a, x.OfWork) :
    Works c (r.1, a ++ r.2) := append ⟨rfl, ha⟩ h

end Works

section Work

variable (c : Consumer κ)

theorem works_release (a : Acknowledger) : Works c (c.release a : Effect κ α) := by
  cases a with
  | auto => exact .idle c
  | manual h =>
    refine ⟨Acks.waiting_drop _ _, ?_⟩
    intro a ha
    obtain ⟨b, hb, ha⟩ := List.mem_flatMap.1 ha
    exact ofWork_of_mem_relay (Acks.notice_of_mem_drop hb).ofWork ha

theorem works_conclude (t : Task) (result : Outcome) : Works c (c.conclude t result : Effect κ α) := by
  have hdrop : Works c ({ c with tasks := c.tasks.filter (·.id != t.id) }.release t.ack : Effect κ α) :=
    (works_release _ t.ack).of_waiting rfl
  refine hdrop.append ⟨rfl, ?_⟩
  intro a ha
  rw [List.mem_singleton.1 ha]
  trivial

theorem works_rejected (t : Task) (cause : Error) (result : Outcome) :
    Works c (c.rejected t cause result : Effect κ α) := by
  cases result with
  | ok _ => exact works_conclude c t _
  | error e =>
    refine (works_conclude c t _).prepend (a := [_]) ?_
    intro a ha
    rw [List.mem_singleton.1 ha]
    trivial

theorem works_act {b : Acks.Action (Party κ)} (hb : b.OfWork) : Works c (c.act b : Effect κ α) := by
  unfold act
  split
  · split
    · split
      · exact works_rejected c _ _ _
      · exact .idle c
    · exact .idle c
  · exact ⟨rfl, fun a ha => ofWork_of_mem_relay hb ha⟩

theorem works_actAll (bs : List (Acks.Action (Party κ))) (hbs : ∀ b ∈ bs, b.OfWork) (c : Consumer κ) :
    Works c (c.actAll bs : Effect κ α) := by
  induction bs generalizing c with
  | nil => exact .idle c
  | cons b bs ih =>
    have hfirst : Works c (c.act b : Effect κ α) := works_act c (hbs b (List.mem_cons_self ..))
    exact hfirst.append (ih (fun x hx => hbs x (List.mem_cons_of_mem _ hx)) _)

variable [DecidableEq κ]

theorem works_acksStep {e : Acks.Event (Party κ)} (hw : (c.acks.step e).1.waiting = c.acks.waiting)
    (ha : ∀ b ∈ (c.acks.step e).2, b.OfWork) : Works c (c.acksStep e : Effect κ α) := by
  have hall := works_actAll (α := α) (c.acks.step e).2 ha { c with acks := (c.acks.step e).1 }
  exact ⟨hall.waiting.trans hw, hall.actions⟩

theorem works_settle {p : Party κ} (hp : p.dispatches = false) (a : Acknowledger) (v : Verdict) :
    Works c (c.acksStep (.settle p a v) : Effect κ α) :=
  works_acksStep c (Acks.waiting_settle _ _ _ _) fun _ hb => Acks.ofWork_of_mem_settle hp hb

theorem works_answered (p : Party κ) (result : Outcome) : Works c (c.acksStep (.answered p result) : Effect κ α) := by
  apply works_acksStep
  · simp only [Acks.step]
    split
    · rfl
    · exact Acks.waiting_conclude _ _
  · intro b hb
    simp only [Acks.step] at hb
    split at hb
    · cases hb
    · rcases List.mem_append.1 hb with hb | hb
      · exact (Acks.notice_of_mem_conclude hb).ofWork
      · rw [List.mem_singleton.1 hb]
        trivial

theorem works_fail (queue : String) (t : Task) (e : Error) : Works c (c.fail queue t e : Effect κ α) := by
  have hsettle : Works c ((c.moveTo t.id (.rejecting e)).acksStep (.settle (.task t.id) t.ack (.reject false)) : Effect κ α) :=
    (works_settle _ rfl t.ack (.reject false)).of_waiting rfl
  refine hsettle.prepend ?_
  intro a ha
  simp only [List.mem_cons, List.not_mem_nil, or_false] at ha
  rcases ha with rfl | rfl <;> trivial

theorem works_hand (a : Acknowledger) : (c.hand a).acks.waiting = c.acks.waiting := by
  cases a <;> rfl

theorem works_run (n : Negotiator α) (queue : String) (t : Task) : Works c (c.run n queue t) := by
  have hreports : ∀ a ∈ (TraceContext.reports t.delivery.headers).map (Action.log : LogEntry → Action κ α), a.OfWork := by
    intro a ha
    obtain ⟨entry, -, rfl⟩ := List.mem_map.1 ha
    trivial
  unfold run
  split
  · exact (works_fail c queue t _).prepend hreports
  · refine ⟨works_hand (c.moveTo t.id .handling) t.ack, ?_⟩
    intro a ha
    rcases List.mem_append.1 ha with ha | ha
    · exact hreports a ha
    · rw [List.mem_singleton.1 ha]
      trivial

theorem works_returned (queue : String) (t : Task) (result : Outcome) :
    Works c (c.returned queue t result : Effect κ α) := by
  cases result with
  | ok _ =>
    refine (works_conclude c t _).prepend (a := [_]) ?_
    intro a ha
    rw [List.mem_singleton.1 ha]
    trivial
  | error e => exact works_fail c queue t e

omit [DecidableEq κ] in
theorem works_deliver (channel : ChannelId) (mode : AckMode) (fresh : String) (d : Delivery) :
    Works c (c.deliver channel mode fresh d : Effect κ α) := by
  refine ⟨by cases mode <;> rfl, ?_⟩
  intro a ha
  cases mode with
  | auto =>
    rw [List.mem_singleton.1 ha]
    trivial
  | manual =>
    rcases List.mem_append.1 ha with ha | ha
    · obtain ⟨b, hb, ha⟩ := List.mem_flatMap.1 ha
      obtain ⟨p, -, rfl⟩ := List.mem_map.1 hb
      rw [List.mem_singleton.1 ha]
      trivial
    · rw [List.mem_singleton.1 ha]
      trivial

end Work

variable [DecidableEq κ]

/-- Somebody waits no longer. -/
def dismiss (c : Consumer κ) (p : Party κ) : Consumer κ :=
  { c with acks := { c.acks with waiting := c.acks.waiting.filter (· != p) } }

/-- Somebody who waits looks and finds nothing outstanding. -/
structure LetsGo (c : Consumer κ) (p : Party κ) (r : Effect κ α) : Prop where
  waited : p ∈ c.acks.waiting
  outstanding : c.outstanding = 0
  eq : r = (c.dismiss p, [.drained p])

/-- **What a step does to those who wait**: it works on deliveries, or lets one of them go who has looked. -/
theorem step_cases (c : Consumer κ) (n : Negotiator α) (queue : String) (e : Event κ) :
    Works c (c.step n queue e) ∨ ∃ p, e = .look p ∧ LetsGo c p (c.step n queue e) := by
  have hidle : Works c ((c, []) : Effect κ α) := .idle c
  cases e with
  | deliver channel mode fresh d => exact .inl (works_deliver c channel mode fresh d)
  | run id =>
    left
    simp only [step]
    split
    · split
      · exact works_run c n queue _
      · exact hidle
    · exact hidle
  | returned id result =>
    left
    simp only [step]
    split
    · split
      · exact works_returned c queue _ result
      · exact hidle
    · exact hidle
  | clone h =>
    left
    simp only [step]
    split
    · exact (Works.idle _).of_waiting rfl
    · exact hidle
  | drop h =>
    left
    simp only [step]
    split
    · exact (works_release _ (.manual h)).of_waiting rfl
    · exact hidle
  | settle k a v =>
    left
    simp only [step]
    split
    · exact works_settle c rfl a v
    · exact hidle
  | answered p result => exact .inl (works_answered c p result)
  | look p =>
    by_cases hlook : p ∈ c.acks.waiting ∧ c.acks.outstanding = 0
    · refine .inr ⟨p, rfl, hlook.1, hlook.2, ?_⟩
      simp only [step, acksStep, Acks.step, Acks.look, if_pos hlook]
      rfl
    · left
      simp only [step, acksStep, Acks.step, Acks.look, if_neg hlook]
      exact hidle

/-- Whoever begins to wait while something is outstanding waits, and nothing else changes. -/
theorem await_eq {c : Consumer κ} (h : c.outstanding ≠ 0) (p : Party κ) :
    c.await p = { c with acks := { c.acks with waiting := c.acks.waiting ++ [p] } } := by
  simp only [await, Acks.step, Acks.look]
  rw [if_neg fun hc => h hc.2]

theorem outstanding_await {c : Consumer κ} (h : c.outstanding ≠ 0) (p : Party κ) :
    (c.await p).outstanding = c.outstanding := by
  rw [await_eq h]
  rfl

end Consumer
end BrokerClient
