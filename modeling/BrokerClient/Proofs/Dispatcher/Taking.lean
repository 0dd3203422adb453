import BrokerClient.Proofs.Consumer.Spawning
import BrokerClient.Proofs.Dispatcher.Silence

/-!
# Taking deliveries

A loop takes what its channel yields, one item after the other, until the deliveries end or a call that starts or
stops aborts it (`CutOff`). A delivery that is taken goes to the consumer at once (`step_taken`). A step that takes none
minds only what is there (`minds_step`): no task and no handle is new, handlers get the handles of their tasks, and a
loop that takes deliveries goes on.
-/

namespace BrokerClient.Dispatcher

variable {κ α : Type}

/-! ## Deliveries that are taken -/

/-- A delivery as a loop took it. -/
structure Taken where
  loop : LoopId
  channel : ChannelId
  fresh : String
  delivery : Delivery

/-- The handle for a delivery, which has the number of its task if it is a manual one. -/
def Setup.handle (s : Setup α) (i : TaskId) : Acknowledger :=
  match s.ackMode with
  | .auto => .auto
  | .manual => .manual i

/-- The task on a delivery. -/
def Taken.task (s : Setup α) (x : Taken) (i : TaskId) (phase : Consumer.Phase) : Consumer.Task :=
  ⟨i, x.delivery, x.fresh, s.handle i, phase⟩

/-- The delivery that a loop takes. -/
def taken? (d : Dispatcher κ) : Event κ → Option Taken
  | .item id (.delivery fresh x) => match d.loop? id with
    | some l => if l.phase = .taking then some ⟨l.id, l.channel, fresh, x⟩ else none
    | none => none
  | _ => none

/-- The deliveries that a channel yields to its loop. -/
def streamed (id : LoopId) (ms : List (Moment κ)) : List (String × Delivery) := ms.filterMap fun m => match m.event with
  | .item i (.delivery fresh x) => if i = id then some (fresh, x) else none
  | _ => none

/-- Where a loop that takes deliveries ends: its deliveries end, or a call that starts or stops aborts it. -/
inductive CutOff (d : Dispatcher κ) : Event κ → LoopId → Prop
  | ended (id : LoopId) : CutOff d (.item id .ended) id
  | stopped {call : RequestId} {run : Run} (h : d.current = some (call, .cancelling run)) (answer : Outcome) :
    CutOff d (.answered (.call call) answer) run.loop
  | called {run : Run} (free : d.current = none) (hs : d.status = .stopped) (hr : d.running = some run)
    (call : RequestId) (r : Request) : CutOff d (.call call r) run.loop
  | granted {call : RequestId} {r : Request} {run : Run} (h : d.current = some (call, .granted r))
    (hs : d.status = .stopped) (hr : d.running = some run) : CutOff d (.turn call) run.loop

/-! ## What a step minds -/

/-- A handler gets the handle of its task, and whoever works on a delivery calls the broker to settle it. -/
def Action.Minded (c : Consumer κ) : Action κ α → Prop
  | .handle id _ _ a => ∃ t ∈ c.tasks, t.id = id ∧ t.ack = a
  | .call p _ x => p.dispatches = true ∨ (Consumer.settled? x).isSome
  | .log _ | .create _ | .timer .. | .wake _ | .span _ | .consumed .. | .settled .. | .finish .. => True

/-- An effect that makes no task and no handle, and leaves the loops that are not to go. -/
structure Minds (gone : LoopId → Prop) (d : Dispatcher κ) (r : Effect κ α) : Prop where
  work : d.consumer.Continues r.1.consumer
  actions : ∀ x ∈ r.2, x.Minded d.consumer
  loops : ∀ l, d.Taking l → ¬ gone l.id → r.1.Taking l

namespace Minds

variable {gone : LoopId → Prop} {d d' : Dispatcher κ} {r : Effect κ α} {a : List (Action κ α)}

/-- The loops and the work are left as they are. -/
theorem of_frame (hl : r.1.loops = d.loops) (hc : r.1.consumer = d.consumer) (ha : ∀ x ∈ r.2, x.Minded d.consumer) :
    Minds gone d r where
  work := hc ▸ .refl d.consumer
  actions := ha
  loops l hl' _ := by rwa [Taking, hl]

theorem idle (gone : LoopId → Prop) (d : Dispatcher κ) : Minds gone d ((d, []) : Effect κ α) :=
  of_frame rfl rfl fun _ hx => absurd hx List.not_mem_nil

/-- Saying more before does no harm. -/
theorem prepend (h : Minds gone d r) (ha : ∀ x ∈ a, x.Minded d.consumer) : Minds gone d (r.1, a ++ r.2) where
  work := h.work
  actions x hx := (List.mem_append.1 hx).elim (ha x) (h.actions x)
  loops := h.loops

/-- A change before, after which the work goes on and the loops are there. -/
theorem after (h : Minds gone d' r) (hc : d.consumer.Continues d'.consumer)
    (hl : ∀ l, d.Taking l → ¬ gone l.id → d'.Taking l) : Minds gone d r where
  work := hc.trans h.work
  actions x hx := by
    have hminded := h.actions x hx
    cases x with
    | handle id _ _ a =>
      obtain ⟨t, ht, hid, hack⟩ := hminded
      obtain ⟨u, hu, htu⟩ := hc.tasks t ht
      rw [htu] at hid hack
      exact ⟨u, hu, hid, hack⟩
    | call _ _ _ => exact hminded
    | log _ | create _ | timer _ _ | wake _ | span _ | consumed _ _ | settled _ _ | finish _ _ => trivial
  loops l hl' hgone := h.loops l (hl l hl' hgone) hgone

end Minds

theorem minded_finish (c : Consumer κ) (d : Dispatcher κ) (id : RequestId) (result : Outcome) :
    ∀ x ∈ (d.finish id result : Effect κ α).2, x.Minded c := by
  unfold finish
  split <;> simp [Action.Minded]

theorem minded_closeReport (c : Consumer κ) (s : Setup α) (result : Outcome) :
    ∀ x ∈ (closeReport s result : List (Action κ α)), x.Minded c := by
  cases result <;> simp [closeReport, Action.Minded]

section Calls

variable {gone : LoopId → Prop} (s : Setup α) (isOpen : ChannelId → Bool) (d : Dispatcher κ) (id : RequestId)

theorem minds_finish (result : Outcome) : Minds gone d (d.finish id result : Effect κ α) :=
  .of_frame (finish_loops d id result) (finish_consumer d id result) (minded_finish _ d id result)

theorem minds_proceed (next : Next) : Minds gone d (d.proceed s id next : Effect κ α) := by
  cases next with
  | connect => exact .of_frame rfl rfl (by simp [proceed, Action.Minded])
  | refuse | failed _ => exact minds_finish d id _
  | stopped result =>
    exact (minds_finish d id result).prepend (a := [.log (stoppedReport s)]) (by simp [Action.Minded])

theorem minds_close (channel : ChannelId) (next : Next) :
    Minds gone d (d.close s isOpen id channel next : Effect κ α) := by
  unfold close
  split
  · exact .of_frame rfl rfl (by simp [Action.Minded, Party.dispatches])
  · exact minds_proceed s d id next

theorem minds_subscribe (channel : ChannelId) (calls : List ChannelCall) :
    Minds gone d (d.subscribe s id channel calls : Effect κ α) := by
  cases calls with
  | cons c rest => exact .of_frame rfl rfl (by simp [subscribe, Action.Minded, Party.dispatches])
  | nil =>
    have hrun : Minds gone d ((d.run channel).finish id (.ok ()) : Effect κ α) :=
      (minds_finish (d.run channel) id (.ok ())).after (.refl _) fun l hl _ => ⟨List.mem_append_left _ hl.1, hl.2⟩
    exact hrun.prepend (a := [.log (startedReport s)]) (by simp [Action.Minded])

variable [DecidableEq κ]

theorem minds_drain (channel : ChannelId) (next : Next) :
    Minds gone d (d.drain s isOpen id channel next : Effect κ α) := by
  unfold drain
  split
  · exact minds_close s isOpen d id channel next
  · exact ⟨.await _ _, by simp [Action.Minded], fun l hl _ => hl⟩

/-- Aborting a loop leaves the others. -/
theorem Taking.abort {d : Dispatcher κ} {l : Loop} (hl : d.Taking l) {id : LoopId} (hid : l.id ≠ id) :
    (d.abort id).Taking l :=
  ⟨List.mem_filter.2 ⟨hl.1, by simpa using hid⟩, hl.2⟩

/-- A loop is aborted, and then its channel is closed. -/
theorem minds_abort_drain (run : Run) (hgone : gone run.loop) (next : Next) :
    Minds gone d ((d.abort run.loop).drain s isOpen id run.channel next : Effect κ α) := by
  refine (minds_drain s isOpen (d.abort run.loop) id run.channel next).after (.abandon _ _) fun l hl hleft => ?_
  refine hl.abort ?_
  rintro heq
  exact hleft (heq ▸ hgone)

theorem minds_release (hgone : ∀ run, d.running = some run → gone run.loop) (next : Next) :
    Minds gone d (d.release s isOpen id next : Effect κ α) := by
  unfold release
  split
  · exact minds_proceed s d id next
  · rename_i run hr
    exact (minds_abort_drain s isOpen { d with running := none } id run (hgone run hr) next).after (.refl _)
      fun l hl _ => hl

theorem minds_serve (hgone : d.status = .stopped → ∀ run, d.running = some run → gone run.loop) (r : Request) :
    Minds gone d (d.serve s isOpen id r : Effect κ α) := by
  cases r with
  | start =>
    simp only [serve, start]
    split
    · exact minds_finish d id _
    · exact minds_release s isOpen d id (hgone ‹_›) .connect
  | stop =>
    simp only [serve, stop]
    split
    · exact minds_release s isOpen d id (hgone ‹_›) .refuse
    · split
      · exact (minds_finish { d with status := .stopped } id (.ok ())).after (.refl _) fun l hl _ => hl
      · exact .of_frame rfl rfl (by simp [Action.Minded, Party.dispatches])

theorem minds_callAnswered {phase : Phase} (hgone : ∀ run, phase = .cancelling run → gone run.loop) (result : Outcome) :
    Minds gone d (d.callAnswered s isOpen id result phase : Effect κ α) := by
  cases phase with
  | granted _ | opening | draining _ _ => exact .idle gone d
  | subscribing channel c rest =>
    cases result with
    | ok _ => exact minds_subscribe s d id channel rest
    | error e =>
      exact (minds_close s isOpen d id channel (.failed e)).prepend (a := [.log (startFailure s e)])
        (by simp [Action.Minded])
  | cancelling run => exact minds_abort_drain s isOpen d id run (hgone run rfl) (.stopped result)
  | closing channel next => exact (minds_proceed s d id next).prepend (minded_closeReport _ s result)

end Calls

/-! ## Loops -/

section Loops

variable {gone : LoopId → Prop} (s : Setup α) (isOpen : ChannelId → Bool) {d : Dispatcher κ} {l : Loop}

theorem Taking.dropLoop (hl : d.Taking l) {id : LoopId} (hid : l.id ≠ id) : (d.dropLoop id).Taking l :=
  ⟨List.mem_filter.2 ⟨hl.1, by simpa using hid⟩, hl.2⟩

theorem Taking.moveLoop (hl : d.Taking l) {id : LoopId} (hid : l.id ≠ id) (phase : LoopPhase) :
    (d.moveLoop id phase).Taking l :=
  ⟨List.mem_map.2 ⟨l, hl.1, if_neg hid⟩, hl.2⟩

theorem minds_closeLoop (d : Dispatcher κ) (l : Loop) (hgone : ∀ l', d.Taking l' → ¬ gone l'.id → l'.id ≠ l.id) :
    Minds gone d (d.closeLoop isOpen l : Effect κ α) := by
  unfold closeLoop
  split
  · exact ⟨.refl _, by simp [Action.Minded, Party.dispatches], fun l' hl hleft => hl.moveLoop (hgone l' hl hleft) _⟩
  · exact ⟨.refl _, by simp, fun l' hl hleft => hl.dropLoop (hgone l' hl hleft)⟩

variable [DecidableEq κ]

theorem minds_ended (d : Dispatcher κ) (l : Loop) (hgone : gone l.id) :
    Minds gone d (d.ended s isOpen l : Effect κ α) := by
  have hne {l' : Loop} (hleft : ¬ gone l'.id) : l'.id ≠ l.id := fun heq => hleft (heq ▸ hgone)
  unfold ended
  split
  · exact ⟨.refl _, by simp, fun l' hl hleft => hl.dropLoop (hne hleft)⟩
  · dsimp only
    split
    · have hclose : Minds gone d (({ d with status := .stopped } : Dispatcher κ).closeLoop isOpen l : Effect κ α) :=
        (minds_closeLoop isOpen { d with status := .stopped } l fun _ _ hleft => hne hleft).after (.refl _)
          fun l' hl _ => hl
      exact hclose.prepend (a := [.log (cancelledReport s)]) (by simp [Action.Minded])
    · exact ⟨.await _ _, by simp [Action.Minded], fun l' hl hleft => hl.moveLoop (hne hleft) _⟩

end Loops

/-! ## The work on deliveries -/

section Work

variable [DecidableEq κ] {gone : LoopId → Prop} {h : Past κ α} {d : Dispatcher κ} (s : Setup α)
  (isOpen : ChannelId → Bool)

omit [DecidableEq κ] in
/-- There is only one loop. -/
theorem Inv.eq_of_loops (hi : Inv h d) {l l' : Loop} (hl : l ∈ d.loops) (hl' : l' ∈ d.loops) : l = l' := by
  have hlength := hi.loops_length_le
  match hloops : d.loops with
  | [] =>
    rw [hloops] at hl
    cases hl
  | [x] =>
    rw [hloops, List.mem_singleton] at hl hl'
    rw [hl, hl']
  | _ :: _ :: _ =>
    rw [hloops] at hlength
    simp at hlength

omit [DecidableEq κ] in
theorem Inv.loop?_of_taking (hi : Inv h d) {l : Loop} (hl : d.Taking l) : d.loop? l.id = some l := by
  cases hfound : d.loop? l.id with
  | none => exact absurd (beq_self_eq_true l.id) (List.find?_eq_none.1 hfound l hl.1)
  | some l' => rw [hi.eq_of_loops (List.mem_of_find?_eq_some hfound) hl.1]

omit [DecidableEq κ] in
/-- Somebody has waited long enough, which is none who takes deliveries. -/
theorem minds_drained (hi : Inv h d) (p : Party κ) : Minds gone d (d.drained s isOpen p : Effect κ α) := by
  cases p with
  | call id =>
    simp only [drained]
    split
    · split
      · rename_i current channel next _ heq
        exact minds_close s isOpen d id channel next
      · exact .idle gone d
    · exact .idle gone d
  | loop id =>
    simp only [drained]
    split
    · rename_i l hl
      split
      · rename_i hp
        refine minds_closeLoop isOpen d l fun l' hl' _ heq => ?_
        rw [hi.eq_of_loops hl'.1 (List.mem_of_find?_eq_some hl)] at hl'
        rw [hl'.2] at hp
        cases hp
      · exact .idle gone d
    · exact .idle gone d
  | task _ | application _ => exact .idle gone d

omit [DecidableEq κ] in
theorem minded_actAll (c : Consumer κ) (d : Dispatcher κ) {actions : List (Consumer.Action κ α)}
    (hw : ∀ a ∈ actions, a.OfWork) (ha : ∀ a ∈ actions, a.Minded c) :
    ∀ x ∈ (d.actAll s isOpen actions).2, x.Minded c := by
  induction actions generalizing d with
  | nil => exact fun _ hx => absurd hx List.not_mem_nil
  | cons a rest ih =>
    have hwork := hw a (List.mem_cons_self ..)
    have hminded := ha a (List.mem_cons_self ..)
    intro x hx
    rcases List.mem_append.1 hx with hx | hx
    · cases a with
      | drained p => exact hwork.elim
      | handle _ _ _ _ =>
        rw [List.mem_singleton.1 hx]
        exact hminded
      | call _ _ _ =>
        rw [List.mem_singleton.1 hx]
        exact .inr hminded
      | log _ | wake _ | span _ | consumed _ _ | settled _ _ =>
        rw [List.mem_singleton.1 hx]
        trivial
    · exact ih _ (fun y hy => hw y (List.mem_cons_of_mem _ hy)) (fun y hy => ha y (List.mem_cons_of_mem _ hy)) x hx

theorem minds_consumerStep (hi : Inv h d) {e : Consumer.Event κ} (he : (Event.consumer e).Streamed) :
    Minds gone d (d.consumerStep s isOpen e) := by
  have hcontinues := d.consumer.continues_step s.negotiator s.queue (e := e) (by rintro _ _ _ _ rfl; exact he)
  rcases d.consumer.step_cases s.negotiator s.queue e with hw | ⟨p, rfl, hgo⟩
  · have hsame := (acts_work s isOpen { d with consumer := (d.consumer.step s.negotiator s.queue e).1 } _ hw.actions).1
    refine ⟨?_, ?_, fun l hl _ => ?_⟩
    · simp only [consumerStep, hsame]
      exact hcontinues
    · exact minded_actAll s isOpen d.consumer _ hw.actions (d.consumer.minded_step s.negotiator s.queue e)
    · simp only [consumerStep, hsame]
      exact hl
  · simp only [consumerStep, hgo.eq, actAll, act, List.append_nil]
    exact (minds_drained s isOpen (hi.withConsumer (d.consumer.dismiss p)) p).after (.dismiss _ _) fun l hl _ => hl

theorem minds_timeout (hi : Inv h d) (p : Party κ) : Minds gone d (d.timeout s isOpen p) := by
  unfold timeout
  split
  · have hdrained : Minds gone d (({ d with consumer := d.consumer.abandon p } : Dispatcher κ).drained s isOpen p :
        Effect κ α) :=
      (minds_drained s isOpen (hi.withConsumer (d.consumer.abandon p)) p).after (.abandon _ _) fun l hl _ => hl
    exact hdrained.prepend (a := [.log _]) (by simp [Action.Minded])
  · exact .idle gone d

end Work

/-! ## Steps -/

section Steps

variable [DecidableEq κ] {s : Setup α} {isOpen : ChannelId → Bool} {e : Event κ} {h : Past κ α} {d : Dispatcher κ}

omit [DecidableEq κ] in
theorem taken?_eq_some {x : Taken} (hx : d.taken? e = some x) : ∃ l, d.loop? l.id = some l ∧ d.Taking l ∧
    e = .item l.id (.delivery x.fresh x.delivery) ∧ x.loop = l.id ∧ x.channel = l.channel := by
  unfold taken? at hx
  split at hx
  · split at hx
    · rename_i l hl
      split at hx
      · rename_i hp
        obtain rfl : l.id = _ := by simpa using List.find?_some hl
        cases hx
        exact ⟨l, hl, ⟨List.mem_of_find?_eq_some hl, hp⟩, rfl, rfl, rfl⟩
      · cases hx
    · cases hx
  · cases hx

omit [DecidableEq κ] in
/-- A loop that takes deliveries takes every one that comes. -/
theorem taken?_of_taking (hi : Inv h d) {l : Loop} (hl : d.Taking l) (fresh : String) (x : Delivery) :
    d.taken? (.item l.id (.delivery fresh x)) = some ⟨l.id, l.channel, fresh, x⟩ := by
  simp only [taken?, hi.loop?_of_taking hl, hl.2, if_true]

/-- A delivery that is taken goes to the consumer, and that is all. -/
theorem step_taken {x : Taken} (hx : d.taken? e = some x) :
    (d.step s isOpen e).1 =
      { d with consumer := (d.consumer.deliver x.channel s.ackMode x.fresh x.delivery : Consumer.Effect κ α).1 } ∧
    ∀ a ∈ (d.step s isOpen e).2, a.Minded d.consumer := by
  obtain ⟨l, hfound, hl, rfl, -, hchannel⟩ := taken?_eq_some hx
  have hstep : d.step s isOpen (.item l.id (.delivery x.fresh x.delivery)) =
      d.consumerStep s isOpen (.deliver x.channel s.ackMode x.fresh x.delivery) := by
    simp only [step, hfound, hl.2, if_true, take, hchannel]
  have hwork := (Consumer.works_deliver (α := α) d.consumer x.channel s.ackMode x.fresh x.delivery).actions
  rw [hstep]
  refine ⟨(acts_work s isOpen { d with consumer := _ } _ hwork).1, ?_⟩
  exact minded_actAll s isOpen d.consumer _ hwork
    (d.consumer.minded_step s.negotiator s.queue (.deliver x.channel s.ackMode x.fresh x.delivery))

/-- **A step that takes no delivery minds what is there.** -/
theorem minds_step (hi : Inv h d) (he : e.Streamed) (hx : d.taken? e = none) :
    Minds (d.CutOff e) d (d.step s isOpen e) := by
  cases e with
  | call id r =>
    simp only [step, call]
    split
    · rename_i hc
      exact minds_serve s isOpen d id (fun hs run hr => .called hc hs hr id r) r
    · exact .of_frame rfl rfl (by simp)
  | turn id =>
    simp only [step]
    split
    · rename_i current r hc
      split
      · rename_i heq
        subst heq
        exact minds_serve s isOpen d current (fun hs run hr => .granted hc hs hr) r
      · exact .idle _ d
    · exact .idle _ d
  | created id result =>
    simp only [step]
    split
    · split
      · cases result with
        | error e => exact minds_finish d id _
        | ok channel => exact minds_subscribe s d id channel s.subscription
      · exact .idle _ d
    · exact .idle _ d
  | item id x =>
    simp only [step]
    split
    · rename_i l hl
      split
      · rename_i hp
        obtain rfl : l.id = id := by simpa using List.find?_some hl
        cases x with
        | delivery fresh x => simp [taken?, hl, hp] at hx
        | failure err => exact .of_frame rfl rfl (by simp [take, Action.Minded])
        | ended => exact minds_ended s isOpen d l (.ended l.id)
      · exact .idle _ d
    · exact .idle _ d
  | answered p result =>
    cases p with
    | call id =>
      simp only [step, answered]
      split
      · rename_i current phase hc
        split
        · rename_i heq
          subst heq
          refine minds_callAnswered s isOpen d current ?_ result
          rintro run rfl
          exact .stopped hc result
        · exact .idle _ d
      · exact .idle _ d
    | loop id =>
      simp only [step, answered]
      split
      · rename_i haw
        refine ⟨.refl _, minded_closeReport _ s result, fun l hl _ => hl.dropLoop ?_⟩
        -- a loop that takes deliveries does not close its channel
        rintro rfl
        simp [awaits, hi.loop?_of_taking hl, hl.2] at haw
      · exact .idle _ d
    | task _ | application _ => exact minds_consumerStep s isOpen hi (e := .answered _ result) trivial
  | timeout p => exact minds_timeout s isOpen hi p
  | shutdown => exact ⟨.refl _, by simp only [step]; split <;> simp [Action.Minded], fun l hl _ => hl⟩
  | consumer e => exact minds_consumerStep s isOpen hi he

/-- Whatever a step takes, handlers get the handles of their tasks. -/
theorem minded_step (hi : Inv h d) (he : e.Streamed) : ∀ a ∈ (d.step s isOpen e).2, a.Minded d.consumer := by
  cases hx : d.taken? e with
  | none => exact (minds_step hi he hx).actions
  | some x => exact (step_taken hx).2

/-- A loop that takes deliveries goes on until it is cut off. -/
theorem taking_of_not_cutOff (hi : Inv h d) (he : e.Streamed) {l : Loop} (hl : d.Taking l) (hcut : ¬ d.CutOff e l.id) :
    (d.step s isOpen e).1.Taking l := by
  cases hx : d.taken? e with
  | none => exact (minds_step hi he hx).loops l hl hcut
  | some x =>
    rw [(step_taken hx).1]
    exact hl

end Steps

end BrokerClient.Dispatcher
