import BrokerClient.Proofs.Consumer.Clones
import BrokerClient.Proofs.Dispatcher.Stopping

/-!
# The end of dispatching

A task comes from a delivery that a loop takes (`next_step`), and a loop that takes deliveries comes from a start that
succeeds (`taking_run`). A call that stops leaves no loop when it returns, whichever way it went (`calm_step`): so nothing
is dispatched from then on before the next start. A shutdown of the connection only writes the status and leaves the loop
alone, which goes on taking what its channel still yields (`dispatched_after_shutdown`). `dispatching_ends` says for both
where a later task can come from.
-/

namespace BrokerClient

/-- Only a delivery makes a task. -/
theorem Consumer.next_step {κ α : Type} [DecidableEq κ] (c : Consumer κ) (n : Negotiator α) (queue : String)
    {e : Event κ} (he : ∀ channel mode fresh d, e ≠ .deliver channel mode fresh d) :
    (c.step n queue e).1.next = c.next := by
  have hturn := turn n queue ({ now := c } : Diary κ α) e
  show (({ now := c } : Diary κ α).next n queue e).now.next = c.next
  generalize ({ now := c } : Diary κ α).next n queue e = y at hturn
  cases hturn with
  | still _ _ | answered _ _ _ _ _ | clones _ _ | drops _ _ | settles _ _ _ _ _ _ _ => rfl
  | auto channel fresh d => exact absurd rfl (he channel .auto fresh d)
  | manual channel fresh d => exact absurd rfl (he channel .manual fresh d)
  | works _ _ t _ work =>
    cases work with
    | hands _ _ _ => cases t.ack <;> rfl
    | rejects _ _ _ _ _ _ _ _ => rfl
    | succeeds _ | skips _ _ _ _ _ => exact next_leave _ t
    | ends _ _ _ _ _ => exact next_leave { c with acks := _ } t

namespace Dispatcher

variable {κ α : Type}

/-! ## What a step leaves -/

/-- Deliveries come to the loops, and to the work on them only from there. -/
def Event.Streamed : Event κ → Prop
  | .consumer (.deliver ..) => False
  | _ => True

/-- An effect that makes no task, and after which there is no loop if a call that stops returns. -/
structure Calm (asked : List (RequestId × Request)) (d : Dispatcher κ) (r : Effect κ α) : Prop where
  next : r.1.consumer.next = d.consumer.next
  loops : ∀ id result, .finish id result ∈ r.2 → (id, .stop) ∈ asked → r.1.loops = []

namespace Calm

variable {asked : List (RequestId × Request)} {d d' : Dispatcher κ} {r : Effect κ α} {a : List (Action κ α)}

theorem of_loops (hnext : r.1.consumer.next = d.consumer.next) (hl : r.1.loops = []) : Calm asked d r :=
  ⟨hnext, fun _ _ _ _ => hl⟩

theorem of_quiet (hnext : d'.consumer.next = d.consumer.next) (ha : ∀ id result, .finish id result ∉ a) :
    Calm asked d (d', a) :=
  ⟨hnext, fun id result hm => absurd hm (ha id result)⟩

theorem idle (asked : List (RequestId × Request)) (d : Dispatcher κ) : Calm asked d ((d, []) : Effect κ α) :=
  of_quiet rfl (by simp)

/-- Saying more before does no harm. -/
theorem prepend (h : Calm asked d r) (ha : ∀ id result, .finish id result ∉ a) : Calm asked d (r.1, a ++ r.2) where
  next := h.next
  loops id result hm := by
    rcases List.mem_append.1 hm with hm | hm
    · exact absurd hm (ha id result)
    · exact h.loops id result hm

/-- Only the number of tasks matters before. -/
theorem of_next (h : Calm asked d' r) (hnext : d'.consumer.next = d.consumer.next) : Calm asked d r :=
  ⟨h.next.trans hnext, h.loops⟩

end Calm

section Calls

variable {asked : List (RequestId × Request)} {h : Past κ α} {d : Dispatcher κ} {id : RequestId}
variable (s : Setup α) (isOpen : ChannelId → Bool)

theorem proceed_frame (d : Dispatcher κ) (id : RequestId) (next : Next) :
    (d.proceed s id next : Effect κ α).1.loops = d.loops ∧ (d.proceed s id next : Effect κ α).1.consumer = d.consumer :=
  -- going on is closing a channel that is closed
  close_frame s (fun _ => false) d id 0 next

theorem calm_close (hl : d.loops = []) (channel : ChannelId) (next : Next) :
    Calm asked d (d.close s isOpen id channel next) := by
  obtain ⟨hloops, hconsumer⟩ := close_frame s isOpen d id channel next
  exact .of_loops (by rw [hconsumer]) (hloops.trans hl)

/-- A start that is done is no stop. -/
theorem calm_finish (hid : (id, .stop) ∉ asked) (d : Dispatcher κ) (result : Outcome) :
    Calm asked d (d.finish id result : Effect κ α) where
  next := by rw [finish_consumer]
  loops i o hm hstop := by
    obtain ⟨rfl, -⟩ := mem_finish hm
    exact absurd hstop hid

theorem calm_subscribe (hid : (id, .stop) ∉ asked) (d : Dispatcher κ) (channel : ChannelId) (calls : List ChannelCall) :
    Calm asked d (d.subscribe s id channel calls) := by
  cases calls with
  | cons c rest => exact .of_quiet rfl (by simp)
  | nil => exact ((calm_finish hid (d.run channel) (.ok ())).prepend (a := [.log _]) (by simp)).of_next rfl

variable [DecidableEq κ]

theorem calm_drain (hl : d.loops = []) (channel : ChannelId) (next : Next) :
    Calm asked d (d.drain s isOpen id channel next) := by
  unfold drain
  split
  · exact calm_close s isOpen hl channel next
  · exact .of_loops rfl hl

theorem calm_release (hu : d.Unlocked) (hs : d.status = .stopped) (next : Next) :
    Calm asked d (d.release s isOpen id next) := by
  unfold release
  rcases hu with hv | ⟨run, hrun, hr⟩
  · rw [hv.2.1]
    obtain ⟨hloops, hconsumer⟩ := proceed_frame s d id next
    exact .of_loops (by rw [hconsumer]) (hloops.trans hv.2.2)
  · have hrem : Remains run d.loops := by
      rcases hr with ⟨-, hr⟩ | ⟨hst, -⟩
      · exact hr
      · rw [hs] at hst
        cases hst
    have hleft : (({ d with running := none } : Dispatcher κ).abort run.loop).loops = [] :=
      Remains.abort (d := { d with running := none }) hrem
    rw [hrun]
    exact (calm_drain s isOpen hleft run.channel next).of_next rfl

theorem calm_serve (hu : d.Unlocked) (r : Request) (hr : ∀ r', (id, r') ∈ asked → r' = r) :
    Calm asked d (d.serve s isOpen id r) := by
  cases r with
  | start =>
    have hid : (id, .stop) ∉ asked := fun hm => absurd (hr .stop hm) (by decide)
    show Calm asked d (d.start s isOpen id)
    unfold start
    split
    · exact calm_finish hid d _
    · rename_i hs
      exact calm_release s isOpen hu hs .connect
  | stop =>
    show Calm asked d (d.stop s isOpen id)
    unfold stop
    split
    · rename_i hs
      exact calm_release s isOpen hu hs .refuse
    · rename_i hs
      obtain ⟨run, hrun⟩ := hu.exists_running hs
      simp only [hrun]
      exact .of_quiet rfl (by simp)

theorem calm_callAnswered (hi : Inv h d) {phase : Phase} (hc : d.current = some (id, phase)) (result : Outcome) :
    Calm h.requests d (d.callAnswered s isOpen id result phase) := by
  have hh := hi.holds id phase hc
  have hq : (id, phase.request) ∈ h.requests := (hi.booksOf hc).queue.subset (List.mem_cons_self ..)
  cases phase with
  | granted _ | opening | draining _ _ => exact .idle _ _
  | subscribing channel c rest =>
    have hstart : (id, .start) ∈ h.requests := hq
    have hid : (id, .stop) ∉ h.requests := fun hm => absurd (eq_of_names hi.books.names hstart hm) (by decide)
    cases result with
    | ok _ => exact calm_subscribe s hid d channel rest
    | error e => exact (calm_close s isOpen hh.1.2.2 channel (.failed e)).prepend (a := [_]) (by simp)
  | cancelling run =>
    have hleft : (d.abort run.loop).loops = [] := hh.1.2.2.abort
    exact (calm_drain s isOpen hleft run.channel (.stopped result)).of_next rfl
  | closing channel next =>
    obtain ⟨hloops, hconsumer⟩ := proceed_frame s d id next
    have hproceed : Calm h.requests d (d.proceed s id next) :=
      .of_loops (by rw [hconsumer]) (hloops.trans hh.1.2.2)
    exact hproceed.prepend (by cases result <;> simp [closeReport])

end Calls

section Deliveries

variable [DecidableEq κ] {h : Past κ α} {d : Dispatcher κ}
variable (s : Setup α) (isOpen : ChannelId → Bool)

omit [DecidableEq κ] in
theorem calm_closeLoop (asked : List (RequestId × Request)) (d : Dispatcher κ) (l : Loop) :
    Calm asked d (d.closeLoop isOpen l : Effect κ α) := by
  unfold closeLoop
  split <;> exact .of_quiet rfl (by simp)

theorem calm_ended (asked : List (RequestId × Request)) (d : Dispatcher κ) (l : Loop) :
    Calm asked d (d.ended s isOpen l) := by
  unfold ended
  split
  · exact .of_quiet rfl (by simp)
  · dsimp only
    split
    · exact ((calm_closeLoop isOpen asked { d with status := .stopped } l).prepend
        (a := [.log (cancelledReport s)]) (by simp)).of_next rfl
    · exact .of_quiet rfl (by simp)

omit [DecidableEq κ] in
theorem calm_drained (hi : Inv h d) (p : Party κ) : Calm h.requests d (d.drained s isOpen p) := by
  cases p with
  | call id =>
    simp only [drained]
    split
    · rename_i current channel next hc
      split
      · rename_i heq
        subst heq
        exact calm_close s isOpen (hi.holds _ _ hc).1.2.2 channel next
      · exact .idle _ _
    · exact .idle _ _
  | loop id =>
    simp only [drained]
    split
    · split
      · exact calm_closeLoop isOpen _ d _
      · exact .idle _ _
    · exact .idle _ _
  | task _ | application _ => exact .idle _ _

omit [DecidableEq κ] in
/-- The work on deliveries ends no call. -/
theorem finish_notMem_actAll (d : Dispatcher κ) {actions : List (Consumer.Action κ α)} (ha : ∀ a ∈ actions, a.OfWork)
    (id : RequestId) (result : Outcome) : .finish id result ∉ (d.actAll s isOpen actions).2 := by
  induction actions generalizing d with
  | nil => exact List.not_mem_nil
  | cons a rest ih =>
    have hwork := ha a (List.mem_cons_self ..)
    intro hm
    rcases List.mem_append.1 hm with hm | hm
    · cases a with
      | drained p => exact hwork
      | log _ | call _ _ _ | wake _ | handle _ _ _ _ | span _ | consumed _ _ | settled _ _ => simp at hm
    · exact ih _ (fun x hx => ha x (List.mem_cons_of_mem _ hx)) hm

/-- Whatever happens in the work on deliveries, no loop is left if a call that stops returns. -/
theorem loops_consumerStep (hi : Inv h d) (e : Consumer.Event κ) (id : RequestId) (result : Outcome)
    (hm : .finish id result ∈ (d.consumerStep s isOpen e).2) (hstop : (id, .stop) ∈ h.requests) :
    (d.consumerStep s isOpen e).1.loops = [] := by
  rcases d.consumer.step_cases s.negotiator s.queue e with hw | ⟨p, rfl, hgo⟩
  · exact absurd hm (finish_notMem_actAll s isOpen _ hw.actions id result)
  · have hstep : d.consumerStep s isOpen (.look p) =
        ({ d with consumer := d.consumer.dismiss p } : Dispatcher κ).drained s isOpen p := by
      simp only [consumerStep, hgo.eq, actAll, act, List.append_nil]
    rw [hstep] at hm ⊢
    exact (calm_drained s isOpen (hi.withConsumer _) p).loops id result hm hstop

theorem calm_consumerStep (hi : Inv h d) {e : Consumer.Event κ} (he : (Event.consumer e).Streamed) :
    Calm h.requests d (d.consumerStep s isOpen e) where
  next := by
    have hnext := d.consumer.next_step s.negotiator s.queue (e := e) (by rintro _ _ _ _ rfl; exact he)
    rcases d.consumer.step_cases s.negotiator s.queue e with hw | ⟨p, rfl, hgo⟩
    · have hsame := (acts_work s isOpen { d with consumer := (d.consumer.step s.negotiator s.queue e).1 } _ hw.actions).1
      simp only [consumerStep, hsame]
      exact hnext
    · simp only [consumerStep, hgo.eq, actAll, act, List.append_nil]
      exact (calm_drained s isOpen (hi.withConsumer (d.consumer.dismiss p)) p).next
  loops := loops_consumerStep s isOpen hi e

theorem calm_timeout (hi : Inv h d) (p : Party κ) : Calm h.requests d (d.timeout s isOpen p) := by
  unfold timeout
  split
  · exact ((calm_drained s isOpen (hi.withConsumer (d.consumer.abandon p)) p).prepend (a := [.log _])
      (by simp)).of_next rfl
  · exact .idle _ _

theorem calm_answered (hi : Inv h d) (p : Party κ) (result : Outcome) :
    Calm h.requests d (d.answered s isOpen result p) := by
  cases p with
  | call id =>
    simp only [answered]
    split
    · rename_i current phase hc
      split
      · rename_i heq
        subst heq
        exact calm_callAnswered s isOpen hi hc result
      · exact .idle _ _
    · exact .idle _ _
  | loop id =>
    simp only [answered]
    split
    · exact .of_quiet rfl (by cases result <;> simp [closeReport])
    · exact .idle _ _
  | task _ | application _ =>
    exact calm_consumerStep s isOpen hi (e := .answered _ result) trivial

theorem calm_created (hi : Inv h d) (id : RequestId) (result : Except Error ChannelId) :
    Calm h.requests d (d.step s isOpen (.created id result)) := by
  simp only [step]
  split
  · rename_i current hc
    split
    · rename_i heq
      subst heq
      have hq : (current, .start) ∈ h.requests := (hi.booksOf hc).queue.subset (List.mem_cons_self ..)
      have hid : (current, .stop) ∉ h.requests := fun hm => absurd (eq_of_names hi.books.names hq hm) (by decide)
      cases result with
      | error e => exact calm_finish hid d _
      | ok channel => exact calm_subscribe s hid d channel _
    · exact .idle _ _
  · exact .idle _ _

/-! ## Steps -/

/-- A loop that takes deliveries. -/
def Taking (d : Dispatcher κ) (l : Loop) : Prop := l ∈ d.loops ∧ l.phase = .taking

variable {s isOpen} {e : Event κ}

/-- A step makes no task and leaves no loop to a call that stops, unless a delivery comes to a loop that takes it. -/
theorem calm_step (hi : Inv h d) (he : e.Streamed) (hnew : ∀ x, e.request? = some x → x.1 ∉ h.requests.map (·.1))
    (hnone : ∀ l, d.Taking l → ∀ fresh x, e ≠ .item l.id (.delivery fresh x)) :
    Calm (h.notice d e).requests d (d.step s isOpen e) := by
  have hrequests (hr : e.request? = none) : (h.notice d e).requests = h.requests := by simp [Past.notice, hr]
  cases e with
  | call id r =>
    have hown (r' : Request) (hm : (id, r') ∈ (h.notice d (.call id r)).requests) : r' = r := by
      rcases List.mem_append.1 hm with hm | hm
      · exact absurd (List.mem_map_of_mem hm) (hnew (id, r) rfl)
      · cases List.mem_singleton.1 hm
        rfl
    simp only [step, call]
    split
    · rename_i hc
      exact calm_serve s isOpen (hi.unlocked hc).2 r hown
    · exact .of_quiet rfl (by simp)
  | turn id =>
    rw [hrequests rfl]
    simp only [step]
    split
    · rename_i current r hc
      split
      · rename_i heq
        subst heq
        have hq : (current, r) ∈ h.requests := (hi.booksOf hc).queue.subset (List.mem_cons_self ..)
        exact calm_serve s isOpen (hi.holds _ _ hc).1 r fun r' hm => eq_of_names hi.books.names hm hq
      · exact .idle _ _
    · exact .idle _ _
  | created id result =>
    rw [hrequests rfl]
    exact calm_created s isOpen hi id result
  | item id x =>
    simp only [step]
    split
    · rename_i l hl
      obtain rfl : l.id = id := by simpa using List.find?_some hl
      split
      · rename_i hp
        cases x with
        | delivery fresh x => exact absurd rfl (hnone l ⟨List.mem_of_find?_eq_some hl, hp⟩ fresh x)
        | failure err => exact .of_quiet rfl (by simp)
        | ended => exact calm_ended s isOpen _ d l
      · exact .idle _ _
    · exact .idle _ _
  | answered p result =>
    rw [hrequests rfl]
    exact calm_answered s isOpen hi p result
  | timeout p =>
    rw [hrequests rfl]
    exact calm_timeout s isOpen hi p
  | shutdown => exact .of_quiet rfl (by split <;> simp)
  | consumer e =>
    rw [hrequests rfl]
    exact calm_consumerStep s isOpen hi he

/-- A task is made of a delivery that a loop takes. -/
theorem next_step (hi : Inv h d) (he : e.Streamed) (hnew : ∀ x, e.request? = some x → x.1 ∉ h.requests.map (·.1)) :
    (d.step s isOpen e).1.consumer.next = d.consumer.next ∨
      ∃ l fresh x, d.Taking l ∧ e = .item l.id (.delivery fresh x) := by
  by_cases hnone : ∀ l, d.Taking l → ∀ fresh x, e ≠ .item l.id (.delivery fresh x)
  · exact .inl (calm_step hi he hnew hnone).next
  · push Not at hnone
    obtain ⟨l, hl, fresh, x, heq⟩ := hnone
    exact .inr ⟨l, fresh, x, hl, heq⟩

/-- Whichever way a call that stops went, it leaves no loop when it returns. -/
theorem loops_step (hi : Inv h d) (hnew : ∀ x, e.request? = some x → x.1 ∉ h.requests.map (·.1)) {id : RequestId}
    {result : Outcome} (hm : .finish id result ∈ (d.step s isOpen e).2)
    (hstop : (id, .stop) ∈ (h.notice d e).requests) : (d.step s isOpen e).1.loops = [] := by
  have hcalm (he : e.Streamed) (hnone : ∀ l, d.Taking l → ∀ fresh x, e ≠ .item l.id (.delivery fresh x)) :
      (d.step s isOpen e).1.loops = [] := (calm_step hi he hnew hnone).loops id result hm hstop
  cases e with
  | consumer e =>
    have hstop : (id, .stop) ∈ h.requests := by simpa [Past.notice, Event.request?] using hstop
    exact loops_consumerStep s isOpen hi e id result hm hstop
  | item i x =>
    cases x with
    | delivery fresh x =>
      have hstop : (id, .stop) ∈ h.requests := by simpa [Past.notice, Event.request?] using hstop
      revert hm
      simp only [step]
      split
      · split
        · exact fun hm => loops_consumerStep s isOpen hi _ id result hm hstop
        · exact fun hm => absurd hm List.not_mem_nil
      · exact fun hm => absurd hm List.not_mem_nil
    | failure _ | ended => exact hcalm trivial (by simp)
  | call _ _ | turn _ | created _ _ | answered _ _ | timeout _ | shutdown => exact hcalm trivial (by simp)

end Deliveries

/-! ## Loops that take deliveries -/

section Loops

variable {s : Setup α} {e : Event κ} {d₀ d d' : Dispatcher κ} {a : List (Action κ α)} {l : Loop}

/-- A loop that is moved to another phase takes no deliveries. -/
theorem Taking.of_moveLoop {id : LoopId} {phase : LoopPhase} (hp : phase ≠ .taking) (h : (d.moveLoop id phase).Taking l) :
    d.Taking l := by
  obtain ⟨l₀, hl₀, hl⟩ := List.mem_map.1 h.1
  split at hl
  · rw [← hl] at h
    exact absurd h.2 hp
  · subst hl
    exact ⟨hl₀, h.2⟩

variable [DecidableEq κ]

/-- Only a start that succeeds makes a loop that takes deliveries. -/
theorem Acts.taking (h : Acts s e d₀ d a d') (hl : d'.Taking l) : d.Taking l ∨
    ∃ id c, d₀.current = some (id, .subscribing l.channel c []) ∧ .finish id (.ok ()) ∈ a := by
  induction h with
  | append _ _ ih ih' =>
    rcases ih' hl with hl | ⟨id, c, hc, hm⟩
    · rcases ih hl with hl | ⟨id, c, hc, hm⟩
      · exact .inl hl
      · exact .inr ⟨id, c, hc, List.mem_append_left _ hm⟩
    · exact .inr ⟨id, c, hc, List.mem_append_right _ hm⟩
  | say _ | create _ | first _ _ _ _ _ | next _ _ _ | cancel _ _ _ | wait _ _ _ _ | close _ _ _ _ _ => exact .inl hl
  | pass _ _ =>
    rw [Taking, finish_loops] at hl
    exact .inl hl
  | start h hsame _ =>
    rw [Taking, finish_loops] at hl
    rcases List.mem_append.1 hl.1 with hm | hm
    · exact .inl ⟨hm, hl.2⟩
    · rw [List.mem_singleton.1 hm]
      exact .inr ⟨_, _, hsame.trans h, mem_finish_self _ _ _⟩
  | @loopWait d l' _ =>
    have hmoved : (d.moveLoop l'.id .draining).Taking l := hl
    exact .inl (hmoved.of_moveLoop (by decide))
  | loopClose _ _ _ _ => exact .inl (hl.of_moveLoop (by decide))
  | loopEnd id => exact .inl ⟨List.mem_of_mem_filter hl.1, hl.2⟩

theorem taking_step {h : Past κ α} {isOpen : ChannelId → Bool} (hi : Inv h d)
    (hl : (d.step s isOpen e).1.Taking l) :
    d.Taking l ∨ ∃ id, (id, .start) ∈ h.requests ∧ .finish id (.ok ()) ∈ (d.step s isOpen e).2 := by
  obtain ⟨d₁, hease, hacts⟩ := course s isOpen hi e
  rcases hacts.taking hl with hl | ⟨id, c, hc, hm⟩
  · exact .inl ⟨hease.loops l hl.1, hl.2⟩
  · exact .inr ⟨id, (hi.booksOf hc).queue.subset (List.mem_cons_self ..), hm⟩

end Loops

/-! ## Runs -/

section Runs

variable [DecidableEq κ] (s : Setup α)

/-- A moment at which a call that stops returns. -/
def Chronicle.Stops (c : Chronicle κ α) (m : Moment κ) (id : RequestId) (result : Outcome) : Prop :=
  (id, .stop) ∈ (c.next s m).past.requests ∧ .finish id result ∈ (c.now.step s m.isOpen m.event).2

/-- A moment at which a task is made. -/
def Chronicle.Dispatches (c : Chronicle κ α) (m : Moment κ) : Prop :=
  (c.next s m).now.consumer.next ≠ c.now.consumer.next

/-- A start has succeeded between two points of a run. -/
def Restarted (before after : List (Moment κ)) : Prop :=
  ∃ a m b id, after = a ++ m :: b ∧ (chronicle s (before ++ a) : Chronicle κ α).Ends s m id (.ok ())

/-- What a step of a schedule asks for is new. -/
theorem new_request {ms : List (Moment κ)} {m : Moment κ} (hs : Schedule (ms ++ [m])) (x : RequestId × Request)
    (hx : m.event.request? = some x) : x.1 ∉ (chronicle s ms : Chronicle κ α).past.requests.map (·.1) := by
  rw [requests_chronicle]
  intro hm
  simp only [Schedule, requests, List.filterMap_append, List.map_append] at hs
  exact (List.nodup_append.1 hs).2.2 x.1 hm x.1 (by simp [hx]) rfl

/-- A loop that takes deliveries did so before, or a start has succeeded since. -/
theorem taking_run (before after : List (Moment κ)) (hs : Schedule (before ++ after)) {l : Loop}
    (hl : (chronicle s (before ++ after) : Chronicle κ α).now.Taking l) :
    (chronicle s before : Chronicle κ α).now.Taking l ∨ Restarted s before after := by
  induction after using List.reverseRecOn with
  | nil =>
    rw [List.append_nil] at hl
    exact .inl hl
  | append_singleton after m ih =>
    rw [← List.append_assoc] at hs hl
    rw [chronicle_append_cons] at hl
    rcases taking_step (inv_chronicle s _ hs.left) hl with hl | ⟨id, hid, hm⟩
    · rcases ih hs.left hl with hl | ⟨a, m', b, id, rfl, hends⟩
      · exact .inl hl
      · exact .inr ⟨a, m', b ++ [m], id, by simp, hends⟩
    · exact .inr ⟨after, m, [], id, rfl, List.mem_append_left _ hid, hm⟩

/-- A task is made of a delivery to a loop that was taking deliveries at any point before, unless a start has succeeded
since then. -/
theorem taking_of_dispatches (before after : List (Moment κ)) {n : Moment κ} (hs : Schedule (before ++ after ++ [n]))
    (hn : n.event.Streamed) (htask : (chronicle s (before ++ after) : Chronicle κ α).Dispatches s n) :
    Restarted s before after ∨ ∃ l fresh x, n.event = .item l.id (.delivery fresh x) ∧
      (chronicle s before : Chronicle κ α).now.Taking l ∧ (chronicle s (before ++ after) : Chronicle κ α).now.Taking l := by
  rcases next_step (inv_chronicle s _ hs.left) hn (new_request s hs) with hsame | ⟨l, fresh, x, hl, he⟩
  · exact absurd hsame htask
  · rcases taking_run s before after hs.left hl with hbefore | hstart
    · exact .inr ⟨l, fresh, x, he, hbefore, hl⟩
    · exact .inl hstart

/-- **Where dispatching ends.** If a task is made at any point after a call that stops has returned, with whatever
result, then a start has succeeded in between. If one is made at any point after a shutdown of the connection, and no
start has succeeded in between, then it is made of a delivery to the loop that was taking deliveries when the signal
came, and that is still there. -/
theorem dispatching_ends (before : List (Moment κ)) (m : Moment κ) (after : List (Moment κ)) (n : Moment κ)
    (hs : Schedule (before ++ m :: (after ++ [n]))) (hn : n.event.Streamed)
    (htask : (chronicle s (before ++ m :: after) : Chronicle κ α).Dispatches s n) :
    (∀ id result, (chronicle s before : Chronicle κ α).Stops s m id result → Restarted s (before ++ [m]) after) ∧
    (m.event = .shutdown → Restarted s (before ++ [m]) after ∨
      ∃ l fresh x, n.event = .item l.id (.delivery fresh x) ∧ (chronicle s before : Chronicle κ α).now.Taking l ∧
        (chronicle s (before ++ m :: after) : Chronicle κ α).now.Taking l) := by
  rw [List.append_cons, ← List.append_assoc] at hs
  rw [List.append_cons _ m after] at htask ⊢
  have hs₁ : Schedule (before ++ [m]) := hs.left.left
  have hi := inv_chronicle (α := α) s before hs₁.left
  have hnow : (chronicle s (before ++ [m]) : Chronicle κ α) = (chronicle s before).next s m := chronicle_append_cons ..
  constructor
  · rintro id result ⟨hid, hfinish⟩
    have hloops : (chronicle s (before ++ [m]) : Chronicle κ α).now.loops = [] := by
      rw [hnow]
      exact loops_step hi (new_request s hs₁) hfinish hid
    refine (taking_of_dispatches s _ after hs hn htask).resolve_right ?_
    rintro ⟨l, -, -, -, hl, -⟩
    rw [Taking, hloops] at hl
    cases hl.1
  · intro he
    refine (taking_of_dispatches s _ after hs hn htask).imp_right ?_
    rintro ⟨l, fresh, x, hitem, hl, hlater⟩
    rw [hnow, Chronicle.next, he] at hl
    exact ⟨l, fresh, x, hitem, hl, hlater⟩

end Runs

/-- A consumer is stopped and started again, and a delivery comes. -/
def secondRun : List (Moment Nat) := [
  ⟨fun _ => true, .call 0 .start⟩, ⟨fun _ => true, .created 0 (.ok 5)⟩, ⟨fun _ => true, .answered (.call 0) (.ok ())⟩,
  ⟨fun _ => true, .answered (.call 0) (.ok ())⟩, ⟨fun _ => true, .call 1 .stop⟩,
  ⟨fun _ => true, .answered (.call 1) (.ok ())⟩, ⟨fun _ => true, .answered (.call 1) (.ok ())⟩,
  ⟨fun _ => true, .call 2 .start⟩, ⟨fun _ => true, .created 2 (.ok 6)⟩, ⟨fun _ => true, .answered (.call 2) (.ok ())⟩,
  ⟨fun _ => true, .answered (.call 2) (.ok ())⟩,
  ⟨fun _ => true, .item 1 (.delivery "c-1" ⟨1, "", "jobs", false, {}, []⟩)⟩]

theorem dispatching_ends_secondRun :
    Schedule secondRun ∧ (chronicle jobs (secondRun.take 11) : Chronicle Nat Bytes).Dispatches jobs
      ⟨fun _ => true, .item 1 (.delivery "c-1" ⟨1, "", "jobs", false, {}, []⟩)⟩ ∧
      (chronicle jobs (secondRun.take 6) : Chronicle Nat Bytes).Stops jobs
        ⟨fun _ => true, .answered (.call 1) (.ok ())⟩ 1 (.ok ()) ∧
      Restarted jobs (secondRun.take 7) ((secondRun.drop 7).take 4) := by
  have hs : Schedule secondRun := by decide
  have htask : (chronicle jobs (secondRun.take 11) : Chronicle Nat Bytes).Dispatches jobs
      ⟨fun _ => true, .item 1 (.delivery "c-1" ⟨1, "", "jobs", false, {}, []⟩)⟩ := Nat.one_ne_zero
  have hstops : (chronicle jobs (secondRun.take 6) : Chronicle Nat Bytes).Stops jobs
      ⟨fun _ => true, .answered (.call 1) (.ok ())⟩ 1 (.ok ()) :=
    ⟨.tail _ (.head _), .tail _ (.head _)⟩
  obtain ⟨hstopped, -⟩ := dispatching_ends (α := Bytes) jobs (secondRun.take 6)
    ⟨fun _ => true, .answered (.call 1) (.ok ())⟩ ((secondRun.drop 7).take 4) _ hs trivial htask
  exact ⟨hs, htask, hstops, hstopped 1 (.ok ()) hstops⟩

/-- The connection shuts down while a consumer runs, and another delivery comes out of its channel. -/
def lateDelivery : List (Moment Nat) := [
  ⟨fun _ => true, .call 0 .start⟩, ⟨fun _ => true, .created 0 (.ok 5)⟩, ⟨fun _ => true, .answered (.call 0) (.ok ())⟩,
  ⟨fun _ => true, .answered (.call 0) (.ok ())⟩]

/-- A shutdown alone does not end dispatching. -/
theorem dispatched_after_shutdown : ¬ ∀ (before : List (Moment Nat)) (m : Moment Nat) (after : List (Moment Nat))
    (n : Moment Nat), Schedule (before ++ m :: (after ++ [n])) → n.event.Streamed → m.event = .shutdown →
      (chronicle jobs (before ++ m :: after) : Chronicle Nat Bytes).Dispatches jobs n →
      Restarted jobs (before ++ [m]) after := by
  intro h
  obtain ⟨a, m, b, id, hnone, -⟩ := h lateDelivery ⟨fun _ => false, .shutdown⟩ []
    ⟨fun _ => false, .item 0 (.delivery "c-1" ⟨1, "", "jobs", false, {}, []⟩)⟩ (by decide) trivial rfl Nat.one_ne_zero
  simp at hnone

end Dispatcher
end BrokerClient
