import BrokerClient.Proofs.Acks.Settling
import BrokerClient.Consumer

/-!
# The diary of a consumer

A consumer changes only by a step on an event, and the events come in any order. A `Diary` is a consumer together with
what was delivered to it, what it handed to handlers and what they returned, what it called the broker for and what that
answered, and how the work on each delivery ended. A `Turn` is what one step can do to a diary, a `Work` if a task does
it, and `turn` says that a step does no more.
-/

namespace BrokerClient.Consumer

variable {κ α : Type}

/-! ## Diaries -/

/-- A delivery as it was taken, with the handle for it. -/
structure Consignment where
  channel : ChannelId
  fresh : String
  delivery : Delivery
  ack : Acknowledger

/-- A consumer and its past. -/
structure Diary (κ α : Type) where
  now : Consumer κ := {}
  delivered : List Consignment := []
  handled : List (TaskId × Incoming α) := []
  returned : List (TaskId × Outcome) := []
  called : List (Party κ × ChannelId × ChannelCall) := []
  answered : List (Party κ × Outcome) := []
  consumed : List (TaskId × Outcome) := []

/-- The handle for a delivery that comes now. -/
def acknowledger (c : Consumer κ) : AckMode → Acknowledger
  | .auto => .auto
  | .manual => .manual c.acks.next

/-- What an event delivers. -/
def delivered? (c : Consumer κ) : Event κ → Option Consignment
  | .deliver channel mode fresh d => some ⟨channel, fresh, d, c.acknowledger mode⟩
  | _ => none

/-- What a handler at work returns. -/
def returned? (c : Consumer κ) : Event κ → Option (TaskId × Outcome)
  | .returned id result => match c.find? id with
    | some t => match t.phase with
      | .handling => some (id, result)
      | _ => none
    | none => none
  | _ => none

/-- What the broker answers to a call in flight. -/
def answered? [DecidableEq κ] (c : Consumer κ) : Event κ → Option (Party κ × Outcome)
  | .answered p result => (c.acks.settlement? p).map fun _ => (p, result)
  | _ => none

def Action.handled? : Action κ α → Option (TaskId × Incoming α)
  | .handle t _ m _ => some (t, m)
  | _ => none

def Action.called? : Action κ α → Option (Party κ × ChannelId × ChannelCall)
  | .call p channel c => some (p, channel, c)
  | _ => none

def Action.consumed? : Action κ α → Option (TaskId × Outcome)
  | .consumed t result => some (t, result)
  | _ => none

namespace Diary

variable [DecidableEq κ]

/-- Writes down what happened. -/
def note (x : Diary κ α) (e : Event κ) : Diary κ α :=
  { x with
    delivered := x.delivered ++ (x.now.delivered? e).toList
    returned := x.returned ++ (x.now.returned? e).toList
    answered := x.answered ++ (x.now.answered? e).toList }

/-- Writes down what was done. -/
def write (x : Diary κ α) (r : Effect κ α) : Diary κ α :=
  { x with
    now := r.1
    handled := x.handled ++ r.2.filterMap Action.handled?
    called := x.called ++ r.2.filterMap Action.called?
    consumed := x.consumed ++ r.2.filterMap Action.consumed? }

def next (n : Negotiator α) (queue : String) (x : Diary κ α) (e : Event κ) : Diary κ α :=
  (x.note e).write (x.now.step n queue e)

def run (n : Negotiator α) (queue : String) (x : Diary κ α) (es : List (Event κ)) : Diary κ α :=
  es.foldl (next n queue) x

/-- The broker gives each delivery on a channel a tag of its own, and who settles a delivery stands for one call at a
time. -/
def Admits (x : Diary κ α) : Event κ → Prop
  | .deliver channel _ _ d => ∀ D ∈ x.delivered, (D.channel, D.delivery.tag) ≠ (channel, d.tag)
  | .settle k _ _ => ∀ s ∈ x.now.acks.inFlight, s.caller ≠ .application k
  | _ => True

/-- Every event is admitted when it comes. -/
def Schedule (n : Negotiator α) (queue : String) (x : Diary κ α) : List (Event κ) → Prop
  | [] => True
  | e :: es => x.Admits e ∧ Schedule n queue (x.next n queue e) es

instance decidableAdmits (x : Diary κ α) : (e : Event κ) → Decidable (x.Admits e)
  | .deliver channel _ _ d =>
    inferInstanceAs (Decidable (∀ D ∈ x.delivered, (D.channel, D.delivery.tag) ≠ (channel, d.tag)))
  | .settle k _ _ => inferInstanceAs (Decidable (∀ s ∈ x.now.acks.inFlight, s.caller ≠ .application k))
  | .run _ | .returned _ _ | .clone _ | .drop _ | .answered _ _ | .look _ => isTrue trivial

instance decidableSchedule (n : Negotiator α) (queue : String) (x : Diary κ α) :
    (es : List (Event κ)) → Decidable (x.Schedule n queue es)
  | [] => isTrue trivial
  | e :: es =>
    have := decidableSchedule n queue (x.next n queue e) es
    inferInstanceAs (Decidable (x.Admits e ∧ Schedule n queue (x.next n queue e) es))

end Diary

/-! ## What is not written down -/

/-- An action that a diary has no place for. -/
def Action.IsQuiet : Action κ α → Prop
  | .log _ | .wake _ | .span _ | .settled _ _ | .drained _ => True
  | .call .. | .handle .. | .consumed .. => False

theorem Action.IsQuiet.views {a : Action κ α} (h : a.IsQuiet) :
    a.handled? = none ∧ a.called? = none ∧ a.consumed? = none := by
  cases a with
  | log _ | wake _ | span _ | settled _ _ | drained _ => exact ⟨rfl, rfl, rfl⟩
  | call _ _ _ | handle _ _ _ _ | consumed _ _ => exact h.elim

/-- Actions that a diary has no place for. -/
def Quiet (as : List (Action κ α)) : Prop := ∀ a ∈ as, a.IsQuiet

theorem quiet_nil : Quiet ([] : List (Action κ α)) := fun _ ha => absurd ha List.not_mem_nil

theorem Quiet.cons {a : Action κ α} {as : List (Action κ α)} (ha : a.IsQuiet) (h : Quiet as) : Quiet (a :: as) :=
  List.forall_mem_cons.mpr ⟨ha, h⟩

theorem Quiet.append {as bs : List (Action κ α)} (h : Quiet as) (h' : Quiet bs) : Quiet (as ++ bs) := by
  intro a ha
  rcases List.mem_append.mp ha with ha | ha
  · exact h a ha
  · exact h' a ha

theorem Quiet.filterMap_eq_nil {as : List (Action κ α)} (h : Quiet as) : as.filterMap Action.handled? = [] ∧
    as.filterMap Action.called? = [] ∧ as.filterMap Action.consumed? = [] := by
  refine ⟨?_, ?_, ?_⟩ <;> refine List.filterMap_eq_nil_iff.mpr fun a ha => ?_
  · exact (h a ha).views.1
  · exact (h a ha).views.2.1
  · exact (h a ha).views.2.2

variable [DecidableEq κ]

omit [DecidableEq κ] in
theorem Diary.write_quiet {x : Diary κ α} {c : Consumer κ} {as bs : List (Action κ α)} (h : Quiet as) :
    x.write (c, as ++ bs) = x.write (c, bs) := by
  obtain ⟨hhandled, hcalled, hconsumed⟩ := h.filterMap_eq_nil
  simp [Diary.write, List.filterMap_append, hhandled, hcalled, hconsumed]

section

variable (x : Diary κ α) (c : Consumer κ)

omit [DecidableEq κ] in
theorem Diary.write_nil : x.write (c, []) = { x with now := c } := by simp [Diary.write]

omit [DecidableEq κ] in
theorem Diary.write_handle (t : TaskId) (context : TraceContext) (m : Incoming α) (a : Acknowledger) :
    x.write (c, [.handle t context m a]) = { x with now := c, handled := x.handled ++ [(t, m)] } := by
  simp [Diary.write, Action.handled?, List.filterMap, Action.called?, Action.consumed?]

omit [DecidableEq κ] in
theorem Diary.write_call (p : Party κ) (channel : ChannelId) (call : ChannelCall) :
    x.write (c, [.call p channel call]) = { x with now := c, called := x.called ++ [(p, channel, call)] } := by
  simp [Diary.write, Action.handled?, List.filterMap, Action.called?, Action.consumed?]

omit [DecidableEq κ] in
theorem Diary.write_consumed (t : TaskId) (result : Outcome) :
    x.write (c, [.consumed t result]) = { x with now := c, consumed := x.consumed ++ [(t, result)] } := by
  simp [Diary.write, Action.handled?, List.filterMap, Action.called?, Action.consumed?]

end

omit [DecidableEq κ] in
/-- What is said or woken is not written down. -/
theorem quiet_relay {bs : List (Acks.Action (Party κ))} (h : ∀ b ∈ bs, b.IsNotice) :
    Quiet (bs.flatMap relay : List (Action κ α)) := by
  intro a ha
  obtain ⟨b, hb, ha⟩ := List.mem_flatMap.mp ha
  cases b with
  | log _ | wake _ =>
    rw [List.mem_singleton.mp ha]
    trivial
  | call _ _ _ | settled _ _ | drained _ => exact (h _ hb).elim

/-! ## What a step can do -/

/-- The task ends, and drops its handle. -/
def leave (c : Consumer κ) (t : Task) : Consumer κ :=
  let c := { c with tasks := c.tasks.filter (·.id != t.id) }
  match t.ack with
  | .auto => c
  | .manual h => { c with acks := (c.acks.drop h).1 }

/-- How the work on a delivery ends that was rejected for a cause, or could not be. -/
def verdict (cause : Error) : Outcome → Outcome
  | .ok _ => .error cause
  | .error e => .error e

/-- A task fails for a cause: it cannot read its delivery, or its handler returned the failure. -/
inductive Failing (n : Negotiator α) (queue : String) (t : Task) (cause : Error) :
    Event κ → List Outcome → Prop where
  | unread (spawned : t.phase = .spawned) (read : t.delivery.read n queue t.fresh = .error cause) :
    Failing n queue t cause (.run t.id) []
  | handler (handling : t.phase = .handling) :
    Failing n queue t cause (.returned t.id (.error cause)) [.error cause]

omit [DecidableEq κ] in
theorem Failing.not_rejecting {n : Negotiator α} {queue : String} {t : Task} {cause : Error} {e : Event κ}
    {said : List Outcome} (h : Failing n queue t cause e said) : ∀ cause, t.phase ≠ .rejecting cause := by
  cases h <;> simp [*]

omit [DecidableEq κ] in
theorem Failing.event_eq {n : Negotiator α} {queue : String} {t : Task} {cause : Error} {e : Event κ}
    {said : List Outcome} (h : Failing n queue t cause e said) :
    e = .run t.id ∨ ∃ result, e = .returned t.id result := by
  cases h with
  | unread spawned read => exact .inl rfl
  | handler handling => exact .inr ⟨_, rfl⟩

/-- What the work of a task can do to a diary. -/
inductive Work (n : Negotiator α) (queue : String) (x : Diary κ α) (t : Task) : Event κ → Diary κ α → Prop where
  | hands (m : Incoming α) (spawned : t.phase = .spawned) (read : t.delivery.read n queue t.fresh = .ok m) :
    Work n queue x t (.run t.id) { x with
      now := (x.now.moveTo t.id .handling).hand t.ack
      handled := x.handled ++ [(t.id, m)] }
  | succeeds (handling : t.phase = .handling) :
    Work n queue x t (.returned t.id (.ok ())) { x with
      now := x.now.leave t
      returned := x.returned ++ [(t.id, .ok ())]
      consumed := x.consumed ++ [(t.id, .ok ())] }
  | rejects (e : Event κ) (cause : Error) (said : List Outcome) (h : HandleId) (y : Acks.Handle)
    (failing : Failing n queue t cause e said) (ack : t.ack = .manual h) (handle : x.now.acks.find? h = some y)
    (pending : y.pending = true) :
    Work n queue x t e { x with
      now := { x.now.moveTo t.id (.rejecting cause) with
        acks := (x.now.acks.settle (.task t.id) (.reject false) (.manual h)).1 }
      returned := x.returned ++ said.map (t.id, ·)
      called := x.called ++ [(.task t.id, y.channel, .reject y.tag false)] }
  | skips (e : Event κ) (cause : Error) (said : List Outcome) (failing : Failing n queue t cause e said)
    (settled : x.now.acks.isPending t.ack = false) :
    Work n queue x t e { x with
      now := x.now.leave t
      returned := x.returned ++ said.map (t.id, ·)
      consumed := x.consumed ++ [(t.id, .error cause)] }
  | ends (cause : Error) (result : Outcome) (s : Acks.Settlement (Party κ))
    (flight : x.now.acks.settlement? (.task t.id) = some s) (rejecting : t.phase = .rejecting cause) :
    Work n queue x t (.answered (.task t.id) result) { x with
      now := { x.now with acks := (x.now.acks.conclude s).1 }.leave t
      answered := x.answered ++ [(.task t.id, result)]
      consumed := x.consumed ++ [(t.id, verdict cause result)] }

/-- No task and no call waits for the event. -/
def Idle (c : Consumer κ) : Event κ → Prop
  | .run i => ∀ t, c.find? i = some t → t.phase ≠ .spawned
  | .returned i _ => ∀ t, c.find? i = some t → t.phase ≠ .handling
  | .answered p _ => c.acks.settlement? p = none
  | _ => True

/-- What a step can do to a diary. -/
inductive Turn (n : Negotiator α) (queue : String) (x : Diary κ α) : Event κ → Diary κ α → Prop where
  | still (e : Event κ) (waiting : List (Party κ)) (idle : x.now.Idle e) :
    Turn n queue x e { x with now := { x.now with acks := { x.now.acks with waiting } } }
  | auto (channel : ChannelId) (fresh : String) (d : Delivery) :
    Turn n queue x (.deliver channel .auto fresh d) { x with
      now := { x.now with tasks := x.now.tasks ++ [⟨x.now.next, d, fresh, .auto, .spawned⟩], next := x.now.next + 1 }
      delivered := x.delivered ++ [⟨channel, fresh, d, .auto⟩] }
  | manual (channel : ChannelId) (fresh : String) (d : Delivery) :
    Turn n queue x (.deliver channel .manual fresh d) { x with
      now := { x.now with
        acks := (x.now.acks.register channel d.tag).1
        tasks := x.now.tasks ++ [⟨x.now.next, d, fresh, .manual x.now.acks.next, .spawned⟩]
        next := x.now.next + 1 }
      delivered := x.delivered ++ [⟨channel, fresh, d, .manual x.now.acks.next⟩] }
  | works (e : Event κ) (y : Diary κ α) (t : Task) (found : x.now.find? t.id = some t)
    (work : Work n queue x t e y) : Turn n queue x e y
  | clones (h : HandleId) (held : h ∈ x.now.held) :
    Turn n queue x (.clone h) { x with now := x.now.hand (.manual h) }
  | drops (h : HandleId) (held : h ∈ x.now.held) :
    Turn n queue x (.drop h) { x with
      now := { x.now with held := x.now.held.erase h, acks := (x.now.acks.drop h).1 } }
  | settles (k : κ) (h : HandleId) (v : Verdict) (y : Acks.Handle) (held : h ∈ x.now.held)
    (handle : x.now.acks.find? h = some y) (pending : y.pending = true) :
    Turn n queue x (.settle k (.manual h) v) { x with
      now := { x.now with acks := (x.now.acks.settle (.application k) v (.manual h)).1 }
      called := x.called ++ [(.application k, y.channel, v.call y.tag)] }
  | answered (p : Party κ) (result : Outcome) (s : Acks.Settlement (Party κ))
    (flight : x.now.acks.settlement? p = some s)
    (other : ∀ t cause, x.now.find? t.id = some t → t.phase = .rejecting cause → p ≠ .task t.id) :
    Turn n queue x (.answered p result) { x with
      now := { x.now with acks := (x.now.acks.conclude s).1 }
      answered := x.answered ++ [(p, result)] }

/-! ## Tasks -/

omit [DecidableEq κ] in
theorem find?_id {c : Consumer κ} {id : TaskId} {t : Task} (h : c.find? id = some t) : t.id = id := by
  simpa using List.find?_some h

omit [DecidableEq κ] in
theorem find?_moveTo (c : Consumer κ) (id i : TaskId) (phase : Phase) : (c.moveTo id phase).find? i =
    (c.find? i).map fun t => if i = id then { t with phase } else t := by
  have hsame : ((fun t : Task => t.id == i) ∘ fun t => if t.id = id then { t with phase } else t) =
      fun t => t.id == i := by
    funext t
    by_cases ht : t.id = id <;> simp [ht]
  simp only [find?, moveTo, List.find?_map, hsame]
  cases hfound : c.tasks.find? (·.id == i) with
  | none => rfl
  | some t =>
    obtain rfl : t.id = i := by simpa using List.find?_some hfound
    rfl

theorem filter_moved (l : List Task) (id : TaskId) (phase : Phase) :
    (l.map fun t => if t.id = id then { t with phase } else t).filter (·.id != id) = l.filter (·.id != id) := by
  induction l with
  | nil => rfl
  | cons t l ih => by_cases ht : t.id = id <;> simp [ht, ih]

omit [DecidableEq κ] in
theorem leave_moveTo (c : Consumer κ) (t : Task) (phase : Phase) :
    (c.moveTo t.id phase).leave { t with phase } = c.leave t := by
  simp only [leave, moveTo, filter_moved]

omit [DecidableEq κ] in
theorem conclude_eq (c : Consumer κ) (t : Task) (result : Outcome) :
    ∃ as, Quiet as ∧ (c.conclude t result : Effect κ α) = (c.leave t, as ++ [.consumed t.id result]) := by
  unfold conclude release leave
  cases t.ack with
  | auto => exact ⟨[], quiet_nil, rfl⟩
  | manual h => exact ⟨_, quiet_relay fun b => Acks.notice_of_mem_drop, rfl⟩

omit [DecidableEq κ] in
theorem rejected_eq (c : Consumer κ) (t : Task) (cause : Error) (result : Outcome) : ∃ as, Quiet as ∧
    (c.rejected t cause result : Effect κ α) = (c.leave t, as ++ [.consumed t.id (verdict cause result)]) := by
  cases result with
  | ok _ => exact conclude_eq c t (.error cause)
  | error e =>
    obtain ⟨as, hquiet, heq⟩ := conclude_eq (α := α) c t (.error e)
    exact ⟨_ :: as, hquiet.cons (a := .log _) trivial, by rw [rejected, heq]; rfl⟩

omit [DecidableEq κ] in
/-- Notices leave the consumer as it is. -/
theorem actAll_notices {bs : List (Acks.Action (Party κ))} (h : ∀ b ∈ bs, b.IsNotice)
    (rest : List (Acks.Action (Party κ))) (c : Consumer κ) : (c.actAll (bs ++ rest) : Effect κ α) =
      ((c.actAll rest : Effect κ α).1, bs.flatMap relay ++ (c.actAll rest : Effect κ α).2) := by
  induction bs with
  | nil => rfl
  | cons b bs ih =>
    obtain ⟨hb, hbs⟩ := List.forall_mem_cons.mp h
    have hact : (c.act b : Effect κ α) = (c, relay b) := by
      cases b with
      | log _ | wake _ => rfl
      | call _ _ _ | settled _ _ | drained _ => exact hb.elim
    rw [List.cons_append, actAll, hact]
    simp only [ih hbs, List.flatMap_cons, List.append_assoc]

/-- A task that fails rejects its delivery, unless that is settled. -/
theorem fail_cases (c : Consumer κ) (queue : String) (t : Task) (cause : Error) (found : c.find? t.id = some t) :
    (∃ h y, t.ack = .manual h ∧ c.acks.find? h = some y ∧ y.pending = true ∧ ∃ as, Quiet as ∧
      (c.fail queue t cause : Effect κ α) = ({ c.moveTo t.id (.rejecting cause) with
          acks := (c.acks.settle (.task t.id) (.reject false) (.manual h)).1 },
        as ++ [.call (.task t.id) y.channel (.reject y.tag false)])) ∨
    c.acks.isPending t.ack = false ∧ ∃ as, Quiet as ∧
      (c.fail queue t cause : Effect κ α) = (c.leave t, as ++ [.consumed t.id (.error cause)]) := by
  have hreports : Quiet ([.log (t.delivery.failureReport cause), .span (t.delivery.span queue (.error cause))] :
      List (Action κ α)) := .cons (a := .log _) trivial (.cons (a := .span _) trivial quiet_nil)
  have hskip (hs : c.acks.settle (.task t.id) (.reject false) t.ack = (c.acks, [.settled (.task t.id) (.ok ())])) :
      ∃ as, Quiet as ∧ (c.fail queue t cause : Effect κ α) = (c.leave t, as ++ [.consumed t.id (.error cause)]) := by
    obtain ⟨as, hquiet, heq⟩ := rejected_eq (α := α) (c.moveTo t.id (.rejecting cause))
      { t with phase := .rejecting cause } cause (.ok ())
    rw [leave_moveTo] at heq
    have hact : ((c.moveTo t.id (.rejecting cause)).act (.settled (.task t.id) (.ok ())) : Effect κ α) =
        (c.leave t, as ++ [.consumed t.id (.error cause)]) := by
      rw [← show verdict cause (.ok ()) = .error cause from rfl, ← heq]
      simp [act, find?_moveTo, found]
    have hstep : ((c.moveTo t.id (.rejecting cause)).acksStep (.settle (.task t.id) t.ack (.reject false)) :
        Effect κ α) = (c.leave t, as ++ [.consumed t.id (.error cause)]) := by
      have hsame : (c.moveTo t.id (.rejecting cause)).acks.settle (.task t.id) (.reject false) t.ack =
          ((c.moveTo t.id (.rejecting cause)).acks, [.settled (.task t.id) (.ok ())]) := hs
      simp only [acksStep, Acks.step, hsame, actAll, hact, List.append_nil]
    exact ⟨_, hreports.append hquiet, by simp only [fail, hstep, List.append_assoc]⟩
  cases hack : t.ack with
  | auto => exact .inr ⟨rfl, hskip (by rw [hack]; rfl)⟩
  | manual h =>
    cases hfound : c.acks.find? h with
    | none => exact .inr ⟨by simp [Acks.isPending, hfound], hskip (by simp [hack, Acks.settle, hfound])⟩
    | some y =>
      cases hpending : y.pending with
      | false =>
        have hlate := hskip (by simp [hack, Acks.settle, hfound, hpending])
        exact .inr ⟨by simp [Acks.isPending, hfound, hpending], hlate⟩
      | true =>
        refine .inl ⟨h, y, rfl, hfound, hpending, _, hreports, ?_⟩
        have hsettle : ((c.moveTo t.id (.rejecting cause)).acks.settle (.task t.id) (.reject false) (.manual h)).2 =
            [.call (.task t.id) y.channel (.reject y.tag false)] := by
          show (c.acks.settle _ _ _).2 = _
          simp [Acks.settle, hfound, hpending, Verdict.call]
        simp only [fail, acksStep, Acks.step, hack, hsettle, actAll, act, relay, List.append_nil]
        rfl

section

variable {n : Negotiator α} {queue : String} {x x' : Diary κ α} {e : Event κ} {c : Consumer κ}

theorem next_eq {as bs : List (Action κ α)} (hquiet : Quiet as) (hnote : x.note e = x')
    (hstep : x.now.step n queue e = (c, as ++ bs)) : x.next n queue e = x'.write (c, bs) := by
  rw [Diary.next, hnote, hstep, Diary.write_quiet hquiet]

/-- A step that does nothing to be written down. -/
theorem next_quiet {as : List (Action κ α)} (hquiet : Quiet as) (hnote : x.note e = x')
    (hstep : x.now.step n queue e = (c, as)) : x.next n queue e = { x' with now := c } := by
  rw [← List.append_nil as] at hstep
  rw [next_eq hquiet hnote hstep, Diary.write_nil]

/-- A step that does nothing but let somebody wait no longer. -/
theorem turn_still {as : List (Action κ α)} (waiting : List (Party κ)) (idle : x.now.Idle e) (hquiet : Quiet as)
    (hnote : x.note e = x)
    (hstep : x.now.step n queue e = ({ x.now with acks := { x.now.acks with waiting } }, as)) :
    Turn n queue x e (x.next n queue e) := by
  rw [next_quiet hquiet hnote hstep]
  exact .still e waiting idle

theorem turn_idle (idle : x.now.Idle e) (hnote : x.note e = x) (hstep : x.now.step n queue e = (x.now, [])) :
    Turn n queue x e (x.next n queue e) := turn_still x.now.acks.waiting idle quiet_nil hnote hstep

theorem note_run (t : TaskId) : x.note (.run t) = x := by simp [Diary.note, delivered?, returned?, answered?]

theorem turn_fail {t : Task} {cause : Error} {said : List Outcome} {as : List (Action κ α)}
    (hquiet : Quiet as) (found : x.now.find? t.id = some t) (failing : Failing n queue t cause e said)
    (hnote : x.note e = { x with returned := x.returned ++ said.map (t.id, ·) })
    (hstep : x.now.step n queue e =
      ((x.now.fail queue t cause : Effect κ α).1, as ++ (x.now.fail queue t cause : Effect κ α).2)) :
    Turn n queue x e (x.next n queue e) := by
  rcases fail_cases (α := α) x.now queue t cause found with
    ⟨h, y, hack, hhandle, hpending, bs, hbs, heq⟩ | ⟨hsettled, bs, hbs, heq⟩
  · rw [heq, ← List.append_assoc] at hstep
    rw [next_eq (hquiet.append hbs) hnote hstep, Diary.write_call]
    exact .works _ _ t found (.rejects e cause said h y failing hack hhandle hpending)
  · rw [heq, ← List.append_assoc] at hstep
    rw [next_eq (hquiet.append hbs) hnote hstep, Diary.write_consumed]
    exact .works _ _ t found (.skips e cause said failing hsettled)

theorem turn_deliver (channel : ChannelId) (mode : AckMode) (fresh : String) (d : Delivery) :
    Turn n queue x (.deliver channel mode fresh d) (x.next n queue (.deliver channel mode fresh d)) := by
  have hnote : x.note (.deliver channel mode fresh d) =
      { x with delivered := x.delivered ++ [⟨channel, fresh, d, x.now.acknowledger mode⟩] } := by
    simp [Diary.note, delivered?, returned?, answered?]
  have hwake : Quiet ([.wake (.run x.now.next)] : List (Action κ α)) := .cons (a := .wake _) trivial quiet_nil
  cases mode with
  | auto =>
    rw [next_quiet hwake hnote rfl]
    exact .auto channel fresh d
  | manual =>
    have hwoken : Quiet ((x.now.acks.register channel d.tag).2.flatMap relay : List (Action κ α)) := by
      refine quiet_relay fun b hb => ?_
      obtain ⟨_, -, rfl⟩ := List.mem_map.mp hb
      trivial
    rw [next_quiet (hwoken.append hwake) hnote rfl]
    exact .manual channel fresh d

theorem turn_run (id : TaskId) : Turn n queue x (.run id) (x.next n queue (.run id)) := by
  have hidle (h : ∀ t, x.now.find? id = some t → t.phase ≠ .spawned) :
      Turn n queue x (.run id) (x.next n queue (.run id)) := by
    refine turn_idle h (note_run id) ?_
    simp only [step]
    split
    · rename_i t found
      split
      · rename_i hspawned
        exact absurd hspawned (h t found)
      · rfl
    · rfl
  cases found : x.now.find? id with
  | none => exact hidle (by simp [found])
  | some t =>
    obtain rfl := find?_id found
    cases hphase : t.phase with
    | handling | rejecting _ => exact hidle (by simp [found, hphase])
    | spawned =>
      have hreports : Quiet ((TraceContext.reports t.delivery.headers).map (.log : LogEntry → Action κ α)) := by
        intro a ha
        obtain ⟨_, -, rfl⟩ := List.mem_map.mp ha
        trivial
      cases hread : t.delivery.read n queue t.fresh with
      | error cause =>
        refine turn_fail hreports found (.unread hphase hread) (by rw [note_run, List.map_nil, List.append_nil]) ?_
        simp only [step, found, hphase, run, hread]
      | ok m =>
        rw [next_eq hreports (note_run t.id) (by simp only [step, found, hphase, run, hread]; rfl), Diary.write_handle]
        exact .works _ _ t found (.hands m hphase hread)

theorem turn_returned (id : TaskId) (result : Outcome) :
    Turn n queue x (.returned id result) (x.next n queue (.returned id result)) := by
  have hidle (h : ∀ t, x.now.find? id = some t → t.phase ≠ .handling) :
      Turn n queue x (.returned id result) (x.next n queue (.returned id result)) := by
    refine turn_idle h ?_ ?_
    · have hnone : x.now.returned? (.returned id result) = none := by
        simp only [returned?]
        split
        · rename_i t found
          split
          · rename_i hhandling
            exact absurd hhandling (h t found)
          · rfl
        · rfl
      simp [Diary.note, delivered?, answered?, hnone]
    · simp only [step]
      split
      · rename_i t found
        split
        · rename_i hhandling
          exact absurd hhandling (h t found)
        · rfl
      · rfl
  cases found : x.now.find? id with
  | none => exact hidle (by simp [found])
  | some t =>
    obtain rfl := find?_id found
    cases hphase : t.phase with
    | spawned | rejecting _ => exact hidle (by simp [found, hphase])
    | handling =>
      have hnote : x.note (.returned t.id result) = { x with returned := x.returned ++ [(t.id, result)] } := by
        simp [Diary.note, delivered?, answered?, returned?, found, hphase]
      cases result with
      | error cause =>
        refine turn_fail quiet_nil found (.handler hphase) hnote ?_
        simp only [step, found, hphase, returned, List.nil_append]
      | ok _ =>
        obtain ⟨as, hquiet, heq⟩ := conclude_eq (α := α) x.now t (.ok ())
        rw [next_eq (hquiet.cons (a := .span _) trivial) hnote
          (by simp only [step, found, hphase, returned, heq]; rfl), Diary.write_consumed]
        exact .works _ _ t found (.succeeds hphase)

theorem turn_settle (k : κ) (a : Acknowledger) (v : Verdict) :
    Turn n queue x (.settle k a v) (x.next n queue (.settle k a v)) := by
  have hnote : x.note (.settle k a v) = x := by simp [Diary.note, delivered?, returned?, answered?]
  have hidle (h : x.now.acks.settle (.application k) v a = (x.now.acks, [.settled (.application k) (.ok ())])) :
      Turn n queue x (.settle k a v) (x.next n queue (.settle k a v)) := by
    by_cases hheld : x.now.holds a
    · have hquiet : Quiet ([.settled k (.ok ())] : List (Action κ α)) := .cons (a := .settled _ _) trivial quiet_nil
      refine turn_still x.now.acks.waiting trivial hquiet hnote ?_
      simp only [step, hheld, if_true, acksStep, Acks.step, h, actAll, act, relay, List.append_nil]
    · exact turn_idle trivial hnote (by simp only [step, hheld]; rfl)
  cases a with
  | auto => exact hidle rfl
  | manual h =>
    cases hfound : x.now.acks.find? h with
    | none => exact hidle (by simp [Acks.settle, hfound])
    | some y =>
      cases hpending : y.pending with
      | false => exact hidle (by simp [Acks.settle, hfound, hpending])
      | true =>
        by_cases hheld : h ∈ x.now.held
        · have hcall : (x.now.acks.settle (.application k) v (.manual h)).2 =
              [.call (.application k) y.channel (v.call y.tag)] := by
            simp [Acks.settle, hfound, hpending]
          rw [next_eq quiet_nil hnote (by
            simp only [step, holds, List.contains_iff_mem.mpr hheld, if_true, acksStep, Acks.step, hcall, actAll, act,
              relay, List.append_nil]
            rfl), Diary.write_call]
          exact .settles k h v y hheld hfound hpending
        · exact turn_idle trivial hnote (by simp [step, holds, hheld])

theorem turn_answered (p : Party κ) (result : Outcome) :
    Turn n queue x (.answered p result) (x.next n queue (.answered p result)) := by
  cases hflight : x.now.acks.settlement? p with
  | none =>
    refine turn_idle hflight (by simp [Diary.note, delivered?, returned?, answered?, hflight]) ?_
    simp only [step, acksStep, Acks.step, hflight, actAll]
  | some s =>
    have hnote : x.note (.answered p result) = { x with answered := x.answered ++ [(p, result)] } := by
      simp [Diary.note, delivered?, returned?, answered?, hflight]
    have hquiet : Quiet ((x.now.acks.conclude s).2.flatMap relay : List (Action κ α)) :=
      quiet_relay fun b => Acks.notice_of_mem_conclude
    have hstep : x.now.step n queue (.answered p result) =
        (({ x.now with acks := (x.now.acks.conclude s).1 }.act (.settled p result) : Effect κ α).1,
          (x.now.acks.conclude s).2.flatMap relay ++
            ({ x.now with acks := (x.now.acks.conclude s).1 }.act (.settled p result) : Effect κ α).2) := by
      simp only [step, acksStep, Acks.step, hflight]
      rw [actAll_notices fun b => Acks.notice_of_mem_conclude]
      simp only [actAll, List.append_nil]
    by_cases hrejecting : ∃ t cause, x.now.find? t.id = some t ∧ t.phase = .rejecting cause ∧ p = .task t.id
    · obtain ⟨t, cause, found, hphase, rfl⟩ := hrejecting
      obtain ⟨as, has, heq⟩ := rejected_eq (α := α) { x.now with acks := (x.now.acks.conclude s).1 } t cause result
      have hact : ({ x.now with acks := (x.now.acks.conclude s).1 }.act (.settled (.task t.id) result) : Effect κ α) =
          ({ x.now with acks := (x.now.acks.conclude s).1 }.leave t,
            as ++ [.consumed t.id (verdict cause result)]) := by
        have found : ({ x.now with acks := (x.now.acks.conclude s).1 } : Consumer κ).find? t.id = some t := found
        simp only [act, found, hphase, heq]
      rw [hact, ← List.append_assoc] at hstep
      rw [next_eq (hquiet.append has) hnote hstep, Diary.write_consumed]
      exact .works _ _ t found (.ends cause result s hflight hphase)
    · obtain ⟨as, has, hact⟩ : ∃ as, Quiet as ∧
          ({ x.now with acks := (x.now.acks.conclude s).1 }.act (.settled p result) : Effect κ α) =
            ({ x.now with acks := (x.now.acks.conclude s).1 }, as) := by
        cases p with
        | call _ | loop _ => exact ⟨[], quiet_nil, rfl⟩
        | application k => exact ⟨[.settled k result], .cons (a := .settled _ _) trivial quiet_nil, rfl⟩
        | task id =>
          refine ⟨[], quiet_nil, ?_⟩
          simp only [act]
          split
          · rename_i t found
            split
            · rename_i cause hphase
              obtain rfl := find?_id found
              exact absurd ⟨t, cause, found, hphase, rfl⟩ hrejecting
            · rfl
          · rfl
      rw [hact] at hstep
      rw [next_quiet (hquiet.append has) hnote hstep]
      exact .answered p result s hflight fun t cause found hphase heq =>
        hrejecting ⟨t, cause, found, hphase, heq⟩

end

/-- **A step does no more than take one turn.** -/
theorem turn (n : Negotiator α) (queue : String) (x : Diary κ α) (e : Event κ) :
    Turn n queue x e (x.next n queue e) := by
  cases e with
  | deliver channel mode fresh d => exact turn_deliver channel mode fresh d
  | run t => exact turn_run t
  | returned t result => exact turn_returned t result
  | settle k a v => exact turn_settle k a v
  | answered p result => exact turn_answered p result
  | clone h =>
    have hnote : x.note (.clone h) = x := by simp [Diary.note, delivered?, returned?, answered?]
    by_cases hheld : h ∈ x.now.held
    · rw [next_quiet quiet_nil hnote (by simp [step, holds, hheld]; rfl)]
      exact .clones h hheld
    · exact turn_idle trivial hnote (by simp [step, holds, hheld])
  | drop h =>
    have hnote : x.note (.drop h) = x := by simp [Diary.note, delivered?, returned?, answered?]
    by_cases hheld : h ∈ x.now.held
    · rw [next_quiet (quiet_relay fun b => Acks.notice_of_mem_drop) hnote (by
        simp only [step, holds, List.contains_iff_mem.mpr hheld, if_true, release]
        rfl)]
      exact .drops h hheld
    · exact turn_idle trivial hnote (by simp [step, holds, hheld])
  | look p =>
    have hnote : x.note (.look p) = x := by simp [Diary.note, delivered?, returned?, answered?]
    by_cases hlook : p ∈ x.now.acks.waiting ∧ x.now.acks.outstanding = 0
    · have hquiet : Quiet ([.drained p] : List (Action κ α)) := .cons (a := .drained p) trivial quiet_nil
      refine turn_still (x.now.acks.waiting.filter (· != p)) trivial hquiet hnote ?_
      simp only [step, acksStep, Acks.step, Acks.look, if_pos hlook]
      rfl
    · refine turn_idle trivial hnote ?_
      simp only [step, acksStep, Acks.step, Acks.look, if_neg hlook]
      rfl

end BrokerClient.Consumer
