import BrokerClient.Proofs.Dispatcher.Course

/-!
# How a stop goes on

A stop that finds a consumer started ends consuming, and when that is answered, be it with a failure, it aborts the
loop, waits until nothing is outstanding, and closes the channel. `Stopping` keeps what it did and that it waits;
`goesOn` says what each step of it leads to.
-/

namespace BrokerClient.Dispatcher

variable {κ α : Type}

/-! ## Who waits -/

section Waiting

variable [DecidableEq κ] {s : Setup α} {e : Event κ} {d₀ d d' : Dispatcher κ} {a : List (Action κ α)}

omit [DecidableEq κ] in
theorem finish_consumer (d : Dispatcher κ) (id : RequestId) (result : Outcome) :
    (d.finish id result : Effect κ α).1.consumer = d.consumer := by
  unfold finish
  split <;> rfl

omit [DecidableEq κ] in
theorem finish_loops (d : Dispatcher κ) (id : RequestId) (result : Outcome) :
    (d.finish id result : Effect κ α).1.loops = d.loops := by
  unfold finish
  split <;> rfl

/-- What a dispatcher does settles nothing. -/
theorem Acts.outstanding (h : Acts s e d₀ d a d') : d'.consumer.outstanding = d.consumer.outstanding := by
  induction h with
  | append _ _ ih ih' => exact ih'.trans ih
  | pass _ _ => rw [finish_consumer]
  | start _ _ _ =>
    rw [finish_consumer]
    rfl
  | wait _ _ _ ho | loopWait ho => exact Consumer.outstanding_await ho _
  | say _ | loopClose _ _ _ _ | loopEnd _ | create _ | cancel _ _ _ | close _ _ _ _ _ => rfl
  | first _ _ _ _ _ | next _ _ _ => rfl

/-- Whoever begins to wait sets a timer. -/
theorem Acts.waiting (h : Acts s e d₀ d a d') {p : Party κ} (hp : p ∈ d'.consumer.acks.waiting) :
    p ∈ d.consumer.acks.waiting ∨ .timer p s.config.drainTimeout ∈ a := by
  induction h with
  | append _ _ ih ih' =>
    rcases ih' hp with hp | hm
    · exact (ih hp).imp_right (List.mem_append_left _)
    · exact .inr (List.mem_append_right _ hm)
  | pass _ _ | start _ _ _ =>
    rw [finish_consumer] at hp
    exact .inl hp
  | wait _ _ _ ho | loopWait ho =>
    rw [Consumer.await_eq ho] at hp
    rcases List.mem_append.1 hp with hp | hp
    · exact .inl hp
    · rw [List.mem_singleton.1 hp]
      exact .inr (List.mem_singleton.2 rfl)
  | say _ | loopClose _ _ _ _ | loopEnd _ | create _ | cancel _ _ _ | close _ _ _ _ _ => exact .inl hp
  | first _ _ _ _ _ | next _ _ _ => exact .inl hp

/-- A call that is to wait waits, unless the event has let it go and it did not act. -/
def Patient (e : Event κ) (d₀ d : Dispatcher κ) : Prop := ∀ id channel next,
  d.current = some (id, .draining channel next) →
    .call id ∈ d.consumer.acks.waiting ∨ d₀.current = d.current ∧ e.LetsGo (.call id)

theorem Acts.patient (h : Acts s e d₀ d a d') (hd : Patient e d₀ d) : Patient e d₀ d' := by
  induction h with
  | append _ _ ih ih' => exact ih' (ih hd)
  | pass _ _ | start _ _ _ =>
    intro id channel next hc
    unfold finish at hc
    split at hc <;> cases hc
  | wait _ _ _ ho =>
    intro id channel next hc
    cases hc
    rw [Consumer.await_eq ho]
    exact .inl (List.mem_append_right _ (List.mem_singleton.2 rfl))
  | loopWait ho =>
    intro id channel next hc
    rw [Consumer.await_eq ho]
    exact (hd id channel next hc).imp_left (List.mem_append_left _)
  | say _ | loopClose _ _ _ _ | loopEnd _ => exact hd
  | create _ | cancel _ _ _ | close _ _ _ _ _ | first _ _ _ _ _ | next _ _ _ =>
    intro id channel next hc
    cases hc

end Waiting

/-! ## The end of a wait -/

section Ending

variable [DecidableEq κ] (s : Setup α) (isOpen : ChannelId → Bool) {d : Dispatcher κ} {id : RequestId}
  {channel : ChannelId} {next : Next}

omit [DecidableEq κ] in
/-- A call that closes a channel waits no more. -/
theorem not_draining_close (d : Dispatcher κ) (id : RequestId) (channel : ChannelId) (next : Next) (i : RequestId)
    (channel' : ChannelId) (next' : Next) :
    (d.close s isOpen id channel next : Effect κ α).1.current ≠ some (i, .draining channel' next') := by
  have hfinish (result : Outcome) :
      (d.finish id result : Effect κ α).1.current ≠ some (i, .draining channel' next') := by
    unfold finish
    split <;> simp
  unfold close
  split
  · simp
  · cases next with
    | connect => simp [proceed]
    | refuse | stopped _ | failed _ => exact hfinish _

/-- The time is over for a call that waits. -/
theorem step_timeout (hc : d.current = some (id, .draining channel next))
    (hw : .call id ∈ d.consumer.acks.waiting) :
    let r : Effect κ α :=
      ({ d with consumer := d.consumer.abandon (.call id) } : Dispatcher κ).close s isOpen id channel next
    d.step s isOpen (.timeout (.call id)) = (r.1, .log (drainReport s r.1.consumer.outstanding) :: r.2) := by
  simp only [step, timeout, if_pos hw, drained, hc, if_true]

/-- A call that waits looks and finds nothing outstanding. -/
theorem step_look (hc : d.current = some (id, .draining channel next)) (hw : .call id ∈ d.consumer.acks.waiting)
    (ho : d.consumer.outstanding = 0) :
    d.step s isOpen (.consumer (.look (.call id))) =
      (({ d with consumer := d.consumer.dismiss (.call id) } : Dispatcher κ).close s isOpen id channel next : Effect κ α) := by
  have hlook : d.consumer.step s.negotiator s.queue (.look (.call id)) =
      (d.consumer.dismiss (.call id), [.drained (.call id)]) := by
    have hdue : .call id ∈ d.consumer.acks.waiting ∧ d.consumer.acks.outstanding = 0 := ⟨hw, ho⟩
    simp only [Consumer.step, Consumer.acksStep, Acks.step, Acks.look, if_pos hdue]
    rfl
  simp only [step, consumerStep, hlook, actAll, act, drained, hc, if_true, List.append_nil]

/-- A call that waits looks and finds something outstanding. -/
theorem step_look_outstanding (d : Dispatcher κ) (id : RequestId) (ho : d.consumer.outstanding ≠ 0) :
    d.step s isOpen (.consumer (.look (.call id))) = ((d, []) : Effect κ α) := by
  have hlook : d.consumer.step s.negotiator s.queue (.look (.call id)) = (d.consumer, []) := by
    simp only [Consumer.step, Consumer.acksStep, Acks.step, Acks.look,
      if_neg (show ¬ (_ ∧ d.consumer.acks.outstanding = 0) from fun h => ho h.2)]
    rfl
  simp only [step, consumerStep, hlook, actAll]

end Ending

/-! ## What a stop keeps -/

section Steps

variable [DecidableEq κ] {s : Setup α} {e : Event κ} {h : Past κ α} {d₀ d d' : Dispatcher κ} {a : List (Action κ α)}

/-- A call that has ended consuming did so before, or does it now. -/
theorem Acts.ended (hacts : Acts s e d₀ d a d') {id : RequestId} {phase : Phase} {channel : ChannelId}
    (hc : d'.current = some (id, phase)) (hp : phase.ended? = some channel) :
    d.current = some (id, phase) ∨ (∃ phase', d₀.current = some (id, phase') ∧ phase'.ended? = some channel) ∨
      (∃ run, phase = .cancelling run) ∧ .call (.call id) channel (.cancel s.tag) ∈ a := by
  induction hacts with
  | append _ _ ih ih' =>
    rcases ih' hc with hc | hd | ⟨hrun, hm⟩
    · exact (ih hc).imp_right (.imp_right fun h => ⟨h.1, List.mem_append_left _ h.2⟩)
    · exact .inr (.inl hd)
    · exact .inr (.inr ⟨hrun, List.mem_append_right _ hm⟩)
  | pass _ _ | start _ _ _ =>
    unfold finish at hc
    split at hc <;> cases hc
    cases hp
  | wait _ hn _ _ | close _ hn _ _ _ =>
    cases hc
    exact .inr (.inl (hn channel hp))
  | cancel _ _ _ =>
    cases hc
    cases hp
    exact .inr (.inr ⟨⟨_, rfl⟩, List.mem_singleton.2 rfl⟩)
  | say _ | loopClose _ _ _ _ | loopEnd _ | loopWait _ => exact .inl hc
  | create _ | first _ _ _ _ _ | next _ _ _ =>
    cases hc
    cases hp

/-- What a call did that stops, and that whoever is to wait does. -/
structure Stopping (s : Setup α) (h : Past κ α) (d : Dispatcher κ) : Prop where
  waits : ∀ id channel next, d.current = some (id, .draining channel next) → .call id ∈ d.consumer.acks.waiting
  ended : ∀ id phase channel, d.current = some (id, phase) → phase.ended? = some channel →
    .call (.call id) channel (.cancel s.tag) ∈ h.done

variable {isOpen : ChannelId → Bool}

/-- A call that waits or closes after a step ended consuming before it. -/
theorem Stopping.before (hst : Stopping s h d) (hi : Inv h d) {id : RequestId} {phase : Phase} {channel : ChannelId}
    (hc : (d.step s isOpen e).1.current = some (id, phase)) (hp : phase.ended? = some channel) :
    .call (.call id) channel (.cancel s.tag) ∈ h.done ∨
      (∃ run, phase = .cancelling run) ∧ .call (.call id) channel (.cancel s.tag) ∈ (d.step s isOpen e).2 := by
  obtain ⟨d₁, hease, hacts⟩ := course s isOpen hi e
  rcases hacts.ended hc hp with hc | ⟨phase', hc, hp⟩ | hnow
  · rcases hease.current id phase hc with hc | ⟨r, -, rfl⟩
    · exact .inl (hst.ended id phase channel hc hp)
    · cases hp
  · exact .inl (hst.ended id phase' channel hc hp)
  · exact .inr hnow

theorem Stopping.step (hst : Stopping s h d) (hi : Inv h d) (e : Event κ) :
    Stopping s ((h.notice d e).log (d.step s isOpen e).2) (d.step s isOpen e).1 where
  waits id channel next hc := by
    obtain ⟨d₁, hease, hacts⟩ := course s isOpen hi e
    have hd₁ : Patient e d d₁ := by
      intro i channel next hc
      rcases hease.current i _ hc with hc' | ⟨r, -, hr⟩
      · exact (hease.patience i (hst.waits i channel next hc')).imp_right fun hgo => ⟨hc'.trans hc.symm, hgo⟩
      · cases hr
    rcases hacts.patient hd₁ id channel next hc with hw | ⟨hsame, hgo⟩
    · exact hw
    · rw [hc] at hsame
      have hw := hst.waits id channel next hsame
      rcases hgo with rfl | rfl
      · rw [step_timeout s isOpen hsame hw] at hc
        exact absurd hc (not_draining_close s isOpen _ _ _ _ _ _ _)
      · by_cases ho : d.consumer.outstanding = 0
        · rw [step_look s isOpen hsame hw ho] at hc
          exact absurd hc (not_draining_close s isOpen _ _ _ _ _ _ _)
        · rw [step_look_outstanding s isOpen d id ho]
          exact hw
  ended id phase channel hc hp := by
    rcases hst.before hi hc hp with hm | ⟨-, hm⟩
    · exact List.mem_append_left _ hm
    · exact List.mem_append_right _ hm

omit [DecidableEq κ] in
theorem Stopping.initial (s : Setup α) : Stopping s ({} : Past κ α) ({} : Dispatcher κ) where
  waits _ _ _ hc := by cases hc
  ended _ _ _ hc := by cases hc

theorem stopping_chronicle (ms : List (Moment κ)) (hs : Schedule ms) :
    Stopping s (chronicle s ms : Chronicle κ α).past (chronicle s ms : Chronicle κ α).now := by
  induction ms using List.reverseRecOn with
  | nil => exact .initial s
  | append_singleton ms m ih =>
    rw [chronicle_append_cons]
    exact (ih hs.left).step (inv_chronicle s ms hs.left) m.event

end Steps

/-! ## How a stop goes on -/

section GoingOn

variable {s : Setup α} {isOpen : ChannelId → Bool} {h : Past κ α} {d : Dispatcher κ} {e : Event κ}

/-- Asks to close a channel, or is done with it if that is closed. -/
def Releases (isOpen : ChannelId → Bool) (id : RequestId) (channel : ChannelId) (result : Outcome) (r : Effect κ α) :
    Prop :=
  if isOpen channel then
    r.1.current = some (id, .closing channel (.stopped result)) ∧ .call (.call id) channel .close ∈ r.2
  else .finish id result ∈ r.2

theorem mem_finish_self (d : Dispatcher κ) (id : RequestId) (result : Outcome) :
    .finish id result ∈ (d.finish id result : Effect κ α).2 := by
  unfold finish
  split <;> simp

theorem releases_close (s : Setup α) (isOpen : ChannelId → Bool) (d : Dispatcher κ) (id : RequestId) (channel : ChannelId)
    (result : Outcome) :
    Releases isOpen id channel result (d.close s isOpen id channel (.stopped result) : Effect κ α) := by
  unfold Releases close
  split
  · exact ⟨rfl, List.mem_singleton.2 rfl⟩
  · exact List.mem_cons_of_mem _ (mem_finish_self d id result)

/-- A call that closes a channel only goes to another phase. -/
theorem close_frame (s : Setup α) (isOpen : ChannelId → Bool) (d : Dispatcher κ) (id : RequestId) (channel : ChannelId)
    (next : Next) :
    (d.close s isOpen id channel next : Effect κ α).1.loops = d.loops ∧
      (d.close s isOpen id channel next : Effect κ α).1.consumer = d.consumer := by
  unfold close
  split
  · exact ⟨rfl, rfl⟩
  · cases next with
    | connect => exact ⟨rfl, rfl⟩
    | refuse | stopped _ | failed _ => exact ⟨finish_loops d id _, finish_consumer d id _⟩

variable [DecidableEq κ]

/-- What a step does for a call that stops. -/
structure GoesOn (s : Setup α) (isOpen : ChannelId → Bool) (h : Past κ α) (d : Dispatcher κ) (e : Event κ)
    (r : Effect κ α) : Prop where
  /-- If it finds the dispatcher started, it ends consuming. -/
  served : ∀ id, e = .call id .stop ∧ d.current = none ∨ e = .turn id ∧ d.current = some (id, .granted .stop) →
    d.status = .started → ∃ run, d.running = some run ∧ r.1.current = some (id, .cancelling run) ∧
      r.2 = [.call (.call id) run.channel (.cancel s.tag)]
  /-- It has done so before it waits or closes the channel. -/
  before : ∀ id channel result, r.1.current = some (id, .draining channel (.stopped result)) ∨
    r.1.current = some (id, .closing channel (.stopped result)) → .call (.call id) channel (.cancel s.tag) ∈ h.done
  /-- Whatever the answer, the loop is aborted, and it waits if something is outstanding. -/
  answered : ∀ id run result, d.current = some (id, .cancelling run) → e = .answered (.call id) result →
    r.1.loops = [] ∧
      if r.1.consumer.outstanding = 0 then Releases isOpen id run.channel result r
      else r.1.current = some (id, .draining run.channel (.stopped result)) ∧
        .timer (.call id) s.config.drainTimeout ∈ r.2
  /-- It waits until nothing is outstanding or its time is over. -/
  drained : ∀ id channel result, d.current = some (id, .draining channel (.stopped result)) →
    .call id ∈ d.consumer.acks.waiting ∧
      (e = .timeout (.call id) ∨ e = .consumer (.look (.call id)) ∧ d.consumer.outstanding = 0 →
        Releases isOpen id channel result r)
  /-- It is done once the channel is closed, with what came of ending to consume. -/
  closed : ∀ id channel result answer, d.current = some (id, .closing channel (.stopped result)) →
    e = .answered (.call id) answer → .finish id result ∈ r.2

omit [DecidableEq κ] in
/-- A dispatcher that is started when a call gets the turn has something that runs. -/
theorem Unlocked.exists_running {d : Dispatcher κ} (hu : d.Unlocked) (hs : d.status = .started) :
    ∃ run, d.running = some run := by
  rcases hu with hv | ⟨run, hrun, -⟩
  · rw [hv.1] at hs
    cases hs
  · exact ⟨run, hrun⟩

theorem step_served (s : Setup α) (isOpen : ChannelId → Bool) (hi : Inv h d) {id : RequestId}
    (hc : e = .call id .stop ∧ d.current = none ∨ e = .turn id ∧ d.current = some (id, .granted .stop))
    (hs : d.status = .started) :
    ∃ run, d.running = some run ∧ (d.step s isOpen e : Effect κ α) =
      ({ d with status := .stopped, running := none, current := some (id, .cancelling run) },
        [.call (.call id) run.channel (.cancel s.tag)]) := by
  have hu : d.Unlocked := by
    rcases hc with ⟨-, hc⟩ | ⟨-, hc⟩
    · exact (hi.unlocked hc).2
    · exact (hi.holds id _ hc).1
  obtain ⟨run, hrun⟩ := hu.exists_running hs
  refine ⟨run, hrun, ?_⟩
  have hstop : (d.stop s isOpen id : Effect κ α) =
      ({ d with status := .stopped, running := none, current := some (id, .cancelling run) },
        [.call (.call id) run.channel (.cancel s.tag)]) := by
    simp only [stop, hs, hrun]
  rcases hc with ⟨rfl, hc⟩ | ⟨rfl, hc⟩
  · simpa only [step, call, hc, serve] using hstop
  · simpa only [step, hc, if_true, serve] using hstop

theorem step_cancelled {id : RequestId} {run : Run} (hi : Inv h d) (hc : d.current = some (id, .cancelling run))
    (result : Outcome) {r : Effect κ α} (hr : r = d.step s isOpen (.answered (.call id) result)) :
    r.1.loops = [] ∧
      if r.1.consumer.outstanding = 0 then Releases isOpen id run.channel result r
      else r.1.current = some (id, .draining run.channel (.stopped result)) ∧
        .timer (.call id) s.config.drainTimeout ∈ r.2 := by
  have hloops : (d.abort run.loop).loops = [] := (hi.holds id _ hc).1.2.2.abort
  have hstep : r = (d.abort run.loop).drain s isOpen id run.channel (.stopped result) := by
    rw [hr]
    simp only [step, Dispatcher.answered, hc, if_true, callAnswered]
  by_cases ho : (d.abort run.loop).consumer.outstanding = 0
  · rw [drain, if_pos ho] at hstep
    obtain ⟨hl, hcons⟩ := close_frame s isOpen (d.abort run.loop) id run.channel (.stopped result)
    rw [hstep, hl, hcons, if_pos ho]
    exact ⟨hloops, releases_close s isOpen _ id run.channel result⟩
  · rw [drain, if_neg ho] at hstep
    have hwaits : ((d.abort run.loop).consumer.await (.call id)).outstanding ≠ 0 := by
      rwa [Consumer.outstanding_await ho]
    rw [hstep, if_neg hwaits]
    exact ⟨hloops, rfl, List.mem_singleton.2 rfl⟩

/-- **How a stop goes on.** It ends consuming before it waits; whatever comes of that, it aborts the loop, waits and
closes the channel. -/
theorem goesOn (hi : Inv h d) (hst : Stopping s h d) (e : Event κ) :
    GoesOn s isOpen h d e (d.step s isOpen e) where
  served id hc hs := by
    obtain ⟨run, hrun, hstep⟩ := step_served s isOpen hi hc hs
    rw [hstep]
    exact ⟨run, hrun, rfl, rfl⟩
  before id channel result hc := by
    rcases hc with hc | hc
    · exact (hst.before hi hc rfl).resolve_right fun hnow => nomatch hnow.1
    · exact (hst.before hi hc rfl).resolve_right fun hnow => nomatch hnow.1
  answered id run result hc he := by
    subst he
    exact step_cancelled hi hc result rfl
  drained id channel result hc := by
    have hw := hst.waits id channel _ hc
    refine ⟨hw, ?_⟩
    rintro (rfl | ⟨rfl, ho⟩)
    · rw [step_timeout s isOpen hc hw]
      have hclose := releases_close s isOpen
        { d with consumer := d.consumer.abandon (.call id) } id channel result
      unfold Releases at hclose ⊢
      split
      · rename_i hopen
        rw [if_pos hopen] at hclose
        exact ⟨hclose.1, List.mem_cons_of_mem _ hclose.2⟩
      · rename_i hopen
        rw [if_neg hopen] at hclose
        exact List.mem_cons_of_mem _ hclose
    · rw [step_look s isOpen hc hw ho]
      exact releases_close s isOpen _ id channel result
  closed id channel result answer hc he := by
    subst he
    simp only [step, Dispatcher.answered, hc, if_true, callAnswered, proceed]
    exact List.mem_append_right _ (List.mem_cons_of_mem _ (mem_finish_self d id result))

end GoingOn

end BrokerClient.Dispatcher
