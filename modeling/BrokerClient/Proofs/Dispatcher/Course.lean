import BrokerClient.Proofs.Consumer.Waiting
import BrokerClient.Proofs.Dispatcher.Lifecycle

/-!
# The course of a step

A step of a dispatcher first lets things go: work on deliveries ends, a loop is aborted, the dispatcher stops
(`Eases`). Then it acts on its channels, one thing after the other, and each of these has a reason (`Acts`). What the
dispatcher keeps along a run need only be checked for these: `course` shows that every step is of this kind.
-/

namespace BrokerClient.Dispatcher

variable {κ α : Type}

/-! ## Channels -/

/-- The channel that a call deals with. -/
def Phase.channel? : Phase → Option ChannelId
  | .granted _ | .opening => none
  | .subscribing channel _ _ | .draining channel _ | .closing channel _ => some channel
  | .cancelling run => some run.channel

/-- The channel on which a call that stops has ended consuming. -/
def Phase.ended? : Phase → Option ChannelId
  | .cancelling run => some run.channel
  | .draining channel (.stopped _) | .closing channel (.stopped _) => some channel
  | _ => none

/-- The channels that a dispatcher deals with. -/
def channels (d : Dispatcher κ) : List ChannelId :=
  (d.current.bind (·.2.channel?)).toList ++ (d.running.map (·.channel)).toList ++ d.loops.map (·.channel)

theorem mem_channels {d : Dispatcher κ} {channel : ChannelId} : channel ∈ d.channels ↔
    (∃ id phase, d.current = some (id, phase) ∧ phase.channel? = some channel) ∨
    (∃ run, d.running = some run ∧ run.channel = channel) ∨ ∃ l ∈ d.loops, l.channel = channel := by
  simp only [channels, List.mem_append, Option.mem_toList, Option.bind_eq_some_iff, Option.map_eq_some_iff,
    List.mem_map, Prod.exists, or_assoc]

/-- Whether an action is a call of the dispatcher's own, rather than one that settles a delivery. -/
def Action.isOwn : Action κ α → Bool
  | .call p _ _ => p.dispatches
  | _ => false

/-! ## What a step can do -/

/-- A call has the turn. -/
def HeldBy (d : Dispatcher κ) (id : RequestId) : Prop := ∃ phase, d.current = some (id, phase)

/-- An event that ends somebody's wait for acknowledgements. -/
def Event.LetsGo (e : Event κ) (p : Party κ) : Prop := e = .timeout p ∨ e = .consumer (.look p)

/-- Things are let go: all that runs or waits afterwards did so before, but for a call that has just come. -/
structure Eases (e : Event κ) (d d' : Dispatcher κ) : Prop where
  status : d'.status = .started → d.status = .started
  current : ∀ id phase, d'.current = some (id, phase) →
    d.current = some (id, phase) ∨ ∃ r, e = .call id r ∧ phase = .granted r
  queue : ∀ x ∈ d'.waiting, x ∈ d.waiting ∨ e = .call x.1 x.2
  running : ∀ run, d'.running = some run → d.running = some run
  loops : ∀ l ∈ d'.loops, l ∈ d.loops
  waiting : ∀ p ∈ d'.consumer.acks.waiting, p ∈ d.consumer.acks.waiting
  patience : ∀ id, .call id ∈ d.consumer.acks.waiting → .call id ∈ d'.consumer.acks.waiting ∨ e.LetsGo (.call id)

/-- Nothing is outstanding, or the time is over for somebody who waited. -/
def MayClose (e : Event κ) (d₀ d : Dispatcher κ) (p : Party κ) : Prop :=
  d.consumer.outstanding = 0 ∨ e = .timeout p ∧ p ∈ d₀.consumer.acks.waiting

section Acts

variable [DecidableEq κ]

/-- A call that stops has ended consuming on a channel before it waits or closes it. -/
def Ended (d : Dispatcher κ) (id : RequestId) (phase : Phase) : Prop :=
  ∀ channel, phase.ended? = some channel → ∃ phase', d.current = some (id, phase') ∧ phase'.ended? = some channel

/-- What a dispatcher does on an event that found it in some state, and why. -/
inductive Acts (s : Setup α) (e : Event κ) (d₀ : Dispatcher κ) : Dispatcher κ → List (Action κ α) → Dispatcher κ → Prop
  | append {d d' d'' : Dispatcher κ} {a b : List (Action κ α)} (h : Acts s e d₀ d a d') (h' : Acts s e d₀ d' b d'') :
    Acts s e d₀ d (a ++ b) d''
  | say {d : Dispatcher κ} {a : List (Action κ α)} (h : ∀ x ∈ a, x.isOwn = false) : Acts s e d₀ d a d
  | pass {d : Dispatcher κ} {id : RequestId} (h : d.HeldBy id) (result : Outcome) :
    Acts s e d₀ d (d.finish id result : Effect κ α).2 (d.finish id result : Effect κ α).1
  | create {d : Dispatcher κ} {id : RequestId} (h : d.HeldBy id) :
    Acts s e d₀ d [.create id] { d with current := some (id, .opening) }
  | first {d : Dispatcher κ} {id : RequestId} {channel : ChannelId} {c : ChannelCall} {rest : List ChannelCall}
    (h : d.current = some (id, .opening)) (hsame : d₀.current = d.current) (hs : d.status = .stopped)
    (he : e = .created id (.ok channel))
    (hc : s.subscription = c :: rest) :
    Acts s e d₀ d [.call (.call id) channel c] { d with current := some (id, .subscribing channel c rest) }
  | next {d : Dispatcher κ} {id : RequestId} {channel : ChannelId} {c c' : ChannelCall} {rest : List ChannelCall}
    (h : d.current = some (id, .subscribing channel c (c' :: rest))) (hsame : d₀.current = d.current)
    (hs : d.status = .stopped) :
    Acts s e d₀ d [.call (.call id) channel c'] { d with current := some (id, .subscribing channel c' rest) }
  | start {d : Dispatcher κ} {id : RequestId} {channel : ChannelId} {c : ChannelCall}
    (h : d.current = some (id, .subscribing channel c [])) (hsame : d₀.current = d.current)
    (he : e = .answered (.call id) (.ok ())) :
    Acts s e d₀ d ((d.run channel).finish id (.ok ()) : Effect κ α).2 ((d.run channel).finish id (.ok ()) : Effect κ α).1
  | cancel {d : Dispatcher κ} {id : RequestId} {run : Run} (h : d.HeldBy id) (hs : d.status = .started)
    (hr : d.running = some run) :
    Acts s e d₀ d [.call (.call id) run.channel (.cancel s.tag)]
      { d with status := .stopped, running := none, current := some (id, .cancelling run) }
  | wait {d : Dispatcher κ} {id : RequestId} {channel : ChannelId} {next : Next} (h : d.HeldBy id)
    (hn : d₀.Ended id (.draining channel next)) (hch : channel ∈ d₀.channels) (ho : d.consumer.outstanding ≠ 0) :
    Acts s e d₀ d [.timer (.call id) s.config.drainTimeout]
      { d with current := some (id, .draining channel next), consumer := d.consumer.await (.call id) }
  | close {d : Dispatcher κ} {id : RequestId} {channel : ChannelId} {next : Next} (h : d.HeldBy id)
    (hn : d₀.Ended id (.closing channel next)) (hs : d.status = .stopped) (hch : channel ∈ d₀.channels)
    (ho : MayClose e d₀ d (.call id) ∨
      ∃ c rest err, d₀.current = some (id, .subscribing channel c rest) ∧ e = .answered (.call id) (.error err)) :
    Acts s e d₀ d [.call (.call id) channel .close] { d with current := some (id, .closing channel next) }
  | loopWait {d : Dispatcher κ} {l : Loop} (ho : d.consumer.outstanding ≠ 0) :
    Acts s e d₀ d [.timer (.loop l.id) s.config.drainTimeout]
      { d.moveLoop l.id .draining with consumer := d.consumer.await (.loop l.id) }
  | loopClose {d : Dispatcher κ} {l : Loop} (hs : d.status = .stopped) (hch : l.channel ∈ d₀.channels)
    (hc : ∀ id c rest, d.current ≠ some (id, .subscribing l.channel c rest)) (ho : MayClose e d₀ d (.loop l.id)) :
    Acts s e d₀ d [.call (.loop l.id) l.channel .close] (d.moveLoop l.id .closing)
  | loopEnd {d : Dispatcher κ} (id : LoopId) : Acts s e d₀ d [] (d.dropLoop id)

/-- An effect that lets things go, and then acts. -/
def Course (s : Setup α) (e : Event κ) (d : Dispatcher κ) (r : Effect κ α) : Prop :=
  ∃ d', Eases e d d' ∧ Acts s e d d' r.2 r.1

end Acts

/-! ## Letting go -/

namespace Eases

variable {e : Event κ} {d d' d'' : Dispatcher κ}

theorem refl (e : Event κ) (d : Dispatcher κ) : Eases e d d :=
  ⟨id, fun _ _ => .inl, fun _ => .inl, fun _ => id, fun _ => id, fun _ => id, fun _ => .inl⟩

theorem trans (h : Eases e d d') (h' : Eases e d' d'') : Eases e d d'' where
  status hs := h.status (h'.status hs)
  current id phase hc := (h'.current id phase hc).elim (h.current id phase) .inr
  queue x hx := (h'.queue x hx).elim (h.queue x) .inr
  running run hr := h.running run (h'.running run hr)
  loops l hl := h.loops l (h'.loops l hl)
  waiting p hp := h.waiting p (h'.waiting p hp)
  patience id hp := (h.patience id hp).elim (h'.patience id) .inr

/-- No channel is dealt with that was not before. -/
theorem channels (h : Eases e d d') {channel : ChannelId} (hch : channel ∈ d'.channels) : channel ∈ d.channels := by
  rw [mem_channels] at hch ⊢
  rcases hch with ⟨id, phase, hc, hp⟩ | ⟨run, hr, hch⟩ | ⟨l, hl, hch⟩
  · rcases h.current id phase hc with hc | ⟨r, -, rfl⟩
    · exact .inl ⟨id, phase, hc, hp⟩
    · cases hp
  · exact .inr (.inl ⟨run, h.running run hr, hch⟩)
  · exact .inr (.inr ⟨l, h.loops l hl, hch⟩)

/-- The dispatcher stops. -/
theorem stop (e : Event κ) (d : Dispatcher κ) : Eases e d { d with status := .stopped } :=
  { refl e d with status := nofun }

/-- A call that has just come gets the turn. -/
theorem grant (d : Dispatcher κ) (id : RequestId) (r : Request) :
    Eases (.call id r) d { d with current := some (id, .granted r) } :=
  { refl _ d with
    current := fun i phase hc => by
      cases hc
      exact .inr ⟨r, rfl, rfl⟩ }

/-- A call that has just come waits for its turn. -/
theorem enqueue (d : Dispatcher κ) (id : RequestId) (r : Request) :
    Eases (.call id r) d { d with waiting := d.waiting ++ [(id, r)] } :=
  { refl _ d with
    queue := fun x hx => by
      rcases List.mem_append.1 hx with hx | hx
      · exact .inl hx
      · rw [List.mem_singleton.1 hx]
        exact .inr rfl }

/-- The consumer changes, and only those stop to wait whom the event lets go. -/
theorem withConsumer {c : Consumer κ} (hw : ∀ p ∈ c.acks.waiting, p ∈ d.consumer.acks.waiting)
    (hp : ∀ id, .call id ∈ d.consumer.acks.waiting → .call id ∈ c.acks.waiting ∨ e.LetsGo (.call id)) :
    Eases e d { d with consumer := c } :=
  { refl e d with waiting := hw, patience := hp }

variable [DecidableEq κ]

/-- A run is taken away and its loop aborted. -/
theorem abort (e : Event κ) (d : Dispatcher κ) (id : LoopId) : Eases e d (d.abort id) where
  status := fun hs => hs
  current _ _ hc := .inl hc
  queue _ hx := .inl hx
  running _ hr := hr
  loops _ hl := List.mem_of_mem_filter hl
  waiting p hp := by
    have hp : p ∈ (d.consumer.acks.step (.abandon (.loop id))).1.waiting := hp
    rw [Acks.waiting_abandon] at hp
    exact List.mem_of_mem_filter hp
  patience i hi := by
    have : .call i ∈ (d.consumer.acks.step (.abandon (.loop id))).1.waiting := by
      rw [Acks.waiting_abandon]
      exact List.mem_filter.2 ⟨hi, by simp⟩
    exact .inl this

theorem takeRun (e : Event κ) (d : Dispatcher κ) (id : LoopId) :
    Eases e d (({ d with running := none } : Dispatcher κ).abort id) := by
  have hnone : Eases e d { d with running := none } := { refl e d with running := nofun }
  exact hnone.trans (abort e _ id)

end Eases

/-! ## Calls -/

section Calls

variable [DecidableEq κ] {s : Setup α} {isOpen : ChannelId → Bool} {e : Event κ} {d₀ d : Dispatcher κ} {id : RequestId}

theorem Acts.course {a : List (Action κ α)} {d' : Dispatcher κ} (h : Acts s e d₀ d₀ a d') : Course s e d₀ (d', a) :=
  ⟨d₀, .refl e d₀, h⟩

/-- Saying something first. -/
theorem Acts.prepend {a b : List (Action κ α)} {d' : Dispatcher κ} (h : Acts s e d₀ d b d')
    (ha : ∀ x ∈ a, x.isOwn = false) : Acts s e d₀ d (a ++ b) d' := .append (.say ha) h

theorem Acts.nothing : Acts s e d₀ d ([] : List (Action κ α)) d := .say fun _ hx => absurd hx List.not_mem_nil

theorem acts_proceed (h : d.HeldBy id) (next : Next) :
    Acts s e d₀ d (d.proceed s id next : Effect κ α).2 (d.proceed s id next : Effect κ α).1 := by
  cases next with
  | connect => exact .create h
  | refuse => exact .pass h _
  | stopped result => exact (Acts.pass h _).prepend (a := [_]) (by simp [Action.isOwn])
  | failed err => exact .pass h _

theorem acts_close (d : Dispatcher κ) (h : d.HeldBy id) {channel : ChannelId} {next : Next}
    (hn : d₀.Ended id (.closing channel next)) (hs : d.status = .stopped) (hch : channel ∈ d₀.channels)
    (ho : MayClose e d₀ d (.call id) ∨
      ∃ c rest err, d₀.current = some (id, .subscribing channel c rest) ∧ e = .answered (.call id) (.error err)) :
    Acts s e d₀ d (d.close s isOpen id channel next : Effect κ α).2 (d.close s isOpen id channel next : Effect κ α).1 := by
  unfold close
  split
  · exact .close h hn hs hch ho
  · exact acts_proceed h next

theorem acts_drain (d : Dispatcher κ) (h : d.HeldBy id) {channel : ChannelId} {next : Next}
    (hn : d₀.Ended id (.draining channel next)) (hs : d.status = .stopped) (hch : channel ∈ d₀.channels) :
    Acts s e d₀ d (d.drain s isOpen id channel next : Effect κ α).2 (d.drain s isOpen id channel next : Effect κ α).1 := by
  unfold drain
  split
  · rename_i ho
    refine acts_close d h ?_ hs hch (.inl (.inl ho))
    cases next <;> exact hn
  · rename_i ho
    exact .wait h hn hch ho

theorem course_release (hd : Eases e d₀ d) (h : d.HeldBy id) (hs : d.status = .stopped) {next : Next}
    (hn : ∀ channel, (Phase.draining channel next).ended? = none) : Course s e d₀ (d.release s isOpen id next) := by
  unfold release
  split
  · exact ⟨d, hd, acts_proceed h next⟩
  · rename_i run hr
    have hch : run.channel ∈ d₀.channels := hd.channels (mem_channels.2 (.inr (.inl ⟨run, hr, rfl⟩)))
    refine ⟨_, hd.trans (.takeRun e d run.loop), ?_⟩
    refine acts_drain (({ d with running := none } : Dispatcher κ).abort run.loop) h ?_ hs hch
    intro channel hc
    rw [hn] at hc
    cases hc

theorem course_start (hd : Eases e d₀ d) (h : d.HeldBy id) : Course s e d₀ (d.start s isOpen id) := by
  unfold start
  split
  · exact ⟨d, hd, .pass h _⟩
  · rename_i hs
    exact course_release hd h hs fun _ => rfl

theorem course_stop (hd : Eases e d₀ d) (h : d.HeldBy id) : Course s e d₀ (d.stop s isOpen id) := by
  unfold stop
  split
  · rename_i hs
    exact course_release hd h hs fun _ => rfl
  · rename_i hs
    dsimp only
    split
    · exact ⟨_, hd.trans (.stop e d), Acts.pass (d := { d with status := .stopped }) h _⟩
    · rename_i run hr
      exact ⟨d, hd, .cancel h hs hr⟩

theorem course_serve (hd : Eases e d₀ d) (h : d.HeldBy id) (r : Request) : Course s e d₀ (d.serve s isOpen id r) := by
  cases r with
  | start => exact course_start hd h
  | stop => exact course_stop hd h

/-- A call that is served takes no notice of what went before. -/
theorem serve_granted (d : Dispatcher κ) (id : RequestId) (r : Request) : (d.serve s isOpen id r : Effect κ α) =
    ({ d with current := some (id, .granted r) } : Dispatcher κ).serve s isOpen id r := by
  cases r <;> rfl

theorem course_call (d : Dispatcher κ) (id : RequestId) (r : Request) :
    Course s (.call id r) d (d.call s isOpen id r) := by
  unfold call
  split
  · rw [serve_granted]
    exact course_serve (.grant d id r) ⟨_, rfl⟩ r
  · exact ⟨_, .enqueue d id r, .nothing⟩

/-- The broker answered the call that a start or a stop was waiting for. -/
theorem course_callAnswered {h : Past κ α} (hi : Inv h d) {phase : Phase} (hc : d.current = some (id, phase))
    (result : Outcome) : Course s (.answered (.call id) result) d (d.callAnswered s isOpen id result phase) := by
  have hh := hi.holds id phase hc
  have hid : d.HeldBy id := ⟨phase, hc⟩
  have hch {channel : ChannelId} (hp : phase.channel? = some channel) : channel ∈ d.channels :=
    mem_channels.2 (.inl ⟨id, phase, hc, hp⟩)
  cases phase with
  | granted _ | opening | draining _ _ => exact Acts.nothing.course
  | subscribing channel c rest =>
    cases result with
    | ok _ =>
      cases rest with
      | nil => exact ((Acts.start hc rfl rfl).prepend (a := [_]) (by simp [Action.isOwn])).course
      | cons c' rest => exact (Acts.next hc rfl hh.1.1).course
    | error err =>
      have hn : d.Ended id (.closing channel (.failed err)) := fun _ he => nomatch he
      exact ((acts_close d hid hn hh.1.1 (hch rfl) (.inr ⟨c, rest, err, hc, rfl⟩)).prepend (a := [_])
        (by simp [Action.isOwn])).course
  | cancelling run =>
    have hn : d.Ended id (.draining run.channel (.stopped result)) := fun _ he => ⟨_, hc, he⟩
    exact ⟨_, .abort _ d run.loop, acts_drain (d.abort run.loop) hid hn hh.1.1 (hch rfl)⟩
  | closing channel next =>
    refine ((acts_proceed hid next).prepend ?_).course
    cases result <;> simp [closeReport, Action.isOwn]

end Calls

/-! ## The loop -/

section Loops

variable {s : Setup α} {isOpen : ChannelId → Bool} {e : Event κ} {h : Past κ α} {d₀ d : Dispatcher κ}

/-- Nobody subscribes while there is a loop. -/
theorem Inv.not_subscribing (hi : Inv h d) {l : Loop} (hl : l ∈ d.loops) {id : RequestId} {channel : ChannelId}
    {c : ChannelCall} {rest : List ChannelCall} : d.current ≠ some (id, .subscribing channel c rest) := by
  intro hc
  have hv := (hi.holds id _ hc).1
  rw [hv.2.2] at hl
  cases hl

variable [DecidableEq κ]

theorem acts_closeLoop (s : Setup α) (isOpen : ChannelId → Bool) (e : Event κ) (d : Dispatcher κ) {l : Loop}
    (hs : d.status = .stopped) (hch : l.channel ∈ d₀.channels)
    (hc : ∀ id c rest, d.current ≠ some (id, .subscribing l.channel c rest)) (ho : MayClose e d₀ d (.loop l.id)) :
    Acts s e d₀ d (d.closeLoop isOpen l : Effect κ α).2 (d.closeLoop isOpen l : Effect κ α).1 := by
  unfold closeLoop
  split
  · exact .loopClose hs hch hc ho
  · exact .loopEnd l.id

theorem course_ended (hi : Inv h d) {l : Loop} (hl : l ∈ d.loops) : Course s e d (d.ended s isOpen l) := by
  have hch : l.channel ∈ d.channels := mem_channels.2 (.inr (.inr ⟨l, hl, rfl⟩))
  unfold ended
  split
  · exact (Acts.loopEnd l.id).course
  · dsimp only
    split
    · rename_i ho
      have hclose := acts_closeLoop s isOpen e { d with status := .stopped } rfl hch
        (fun id c rest => hi.not_subscribing hl) (.inl ho)
      exact ⟨_, .stop e d, hclose.prepend (a := [.log (cancelledReport s)]) (by simp [Action.isOwn])⟩
    · rename_i ho
      exact ⟨_, .stop e d, (Acts.loopWait (d := { d with status := .stopped }) ho).prepend
        (a := [.log (cancelledReport s)]) (by simp [Action.isOwn])⟩

end Loops

/-! ## Deliveries -/

section Deliveries

variable [DecidableEq κ] {s : Setup α} {isOpen : ChannelId → Bool} {e : Event κ} {h : Past κ α} {d : Dispatcher κ}

/-- Somebody has waited long enough, and closes a channel. -/
theorem acts_drained (s : Setup α) (isOpen : ChannelId → Bool) (e : Event κ) (hi : Inv h d) (c : Consumer κ)
    (p : Party κ) (ho : MayClose e d { d with consumer := c } p) :
    Acts s e d { d with consumer := c } (({ d with consumer := c } : Dispatcher κ).drained s isOpen p : Effect κ α).2
      (({ d with consumer := c } : Dispatcher κ).drained s isOpen p : Effect κ α).1 := by
  cases p with
  | call id =>
    simp only [drained]
    split
    · rename_i current channel next hc
      split
      · rename_i heq
        subst heq
        have hv := (hi.holds _ _ hc).1
        have hn : d.Ended current (.closing channel next) := by
          intro x hx
          refine ⟨_, hc, ?_⟩
          cases next <;> exact hx
        exact acts_close { d with consumer := c } ⟨_, hc⟩ hn hv.1 (mem_channels.2 (.inl ⟨_, _, hc, rfl⟩)) (.inl ho)
      · exact .nothing
    · exact .nothing
  | loop id =>
    simp only [drained]
    split
    · rename_i l hl
      split
      · rename_i hp
        have hm : l ∈ d.loops := List.mem_of_find?_eq_some hl
        have hid : l.id = id := by simpa using List.find?_some hl
        have hstopped : d.status = .stopped := hi.stopped_of_loop hl (by rw [hp]; decide)
        have hch : l.channel ∈ d.channels := mem_channels.2 (.inr (.inr ⟨l, hm, rfl⟩))
        refine acts_closeLoop s isOpen e { d with consumer := c } hstopped hch ?_ ?_
        · intro id c rest
          exact hi.not_subscribing hm
        · rwa [hid]
      · exact .nothing
    · exact .nothing
  | task _ | application _ => exact .nothing

omit [DecidableEq κ] in
/-- What the work on deliveries does is none of the dispatcher's own. -/
theorem acts_work (s : Setup α) (isOpen : ChannelId → Bool) (d : Dispatcher κ)
    (actions : List (Consumer.Action κ α)) (ha : ∀ a ∈ actions, a.OfWork) :
    (d.actAll s isOpen actions).1 = d ∧ ∀ x ∈ (d.actAll s isOpen actions).2, x.isOwn = false := by
  induction actions with
  | nil => exact ⟨rfl, fun _ hx => absurd hx List.not_mem_nil⟩
  | cons a rest ih =>
    have hfirst : (d.act s isOpen a).1 = d ∧ ∀ x ∈ (d.act s isOpen a).2, x.isOwn = false := by
      have hwork := ha a (List.mem_cons_self ..)
      cases a with
      | drained p => exact hwork.elim
      | call p channel c => exact ⟨rfl, fun x hx => by rw [List.mem_singleton.1 hx]; exact hwork⟩
      | log _ | wake _ | handle _ _ _ _ | span _ | consumed _ _ | settled _ _ =>
        exact ⟨rfl, fun x hx => by rw [List.mem_singleton.1 hx]; rfl⟩
    obtain ⟨hd, hrest⟩ := ih fun x hx => ha x (List.mem_cons_of_mem _ hx)
    simp only [actAll, hfirst.1]
    refine ⟨hd, fun x hx => ?_⟩
    exact (List.mem_append.1 hx).elim (hfirst.2 x) (hrest x)

theorem course_consumerStep (hi : Inv h d) {e' : Consumer.Event κ} (he : ∀ p, e' = .look p → e = .consumer (.look p)) :
    Course s e d (d.consumerStep s isOpen e') := by
  unfold consumerStep
  rcases d.consumer.step_cases s.negotiator s.queue e' with hw | ⟨p, rfl, hgo⟩
  · obtain ⟨hsame, hown⟩ := acts_work s isOpen
      { d with consumer := (d.consumer.step s.negotiator s.queue e').1 } _ hw.actions
    refine ⟨{ d with consumer := (d.consumer.step s.negotiator s.queue e').1 }, .withConsumer ?_ ?_, ?_⟩
    · intro p hp
      rwa [hw.waiting] at hp
    · intro id hp
      rw [hw.waiting]
      exact .inl hp
    · dsimp only
      rw [hsame]
      exact .say hown
  · rw [hgo.eq]
    refine ⟨{ d with consumer := d.consumer.dismiss p }, .withConsumer ?_ ?_, ?_⟩
    · intro q hq
      exact List.mem_of_mem_filter hq
    · intro id hid
      by_cases hp : Party.call id = p
      · exact .inr (.inr (hp ▸ he p rfl))
      · exact .inl (List.mem_filter.2 ⟨hid, by simpa using hp⟩)
    · have hdrained := acts_drained s isOpen e hi (d.consumer.dismiss p) p (.inl hgo.outstanding)
      simpa only [actAll, act, List.append_nil] using hdrained

theorem course_timeout (hi : Inv h d) (p : Party κ) : Course s (.timeout p) d (d.timeout s isOpen p) := by
  unfold timeout
  split
  · rename_i hp
    refine ⟨{ d with consumer := d.consumer.abandon p }, .withConsumer ?_ ?_, ?_⟩
    · intro q hq
      have hq : q ∈ (d.consumer.acks.step (.abandon p)).1.waiting := hq
      rw [Acks.waiting_abandon] at hq
      exact List.mem_of_mem_filter hq
    · intro id hid
      by_cases hid' : Party.call id = p
      · exact .inr (.inl (hid' ▸ rfl))
      · left
        show .call id ∈ (d.consumer.acks.step (.abandon p)).1.waiting
        rw [Acks.waiting_abandon]
        exact List.mem_filter.2 ⟨hid, by simpa using hid'⟩
    · exact (acts_drained s isOpen _ hi _ p (.inr ⟨rfl, hp⟩)).prepend (a := [_]) (by simp [Action.isOwn])
  · exact Acts.nothing.course

end Deliveries

/-! ## Steps -/

section Steps

variable [DecidableEq κ] {s : Setup α} {isOpen : ChannelId → Bool} {h : Past κ α} {d : Dispatcher κ}

theorem course_created (hi : Inv h d) (id : RequestId) (result : Except Error ChannelId) :
    Course s (.created id result) d (d.step s isOpen (.created id result)) := by
  simp only [step]
  split
  · rename_i current hc
    split
    · rename_i heq
      subst heq
      cases result with
      | error err => exact (Acts.pass ⟨_, hc⟩ _).course
      | ok channel =>
        have hstopped := (hi.holds _ _ hc).1.1
        show Course s _ d (d.subscribe s current channel s.subscription)
        cases hsub : s.subscription with
        | nil => simp [Setup.subscription] at hsub
        | cons c rest => exact (Acts.first hc rfl hstopped rfl hsub).course
    · exact Acts.nothing.course
  · exact Acts.nothing.course

theorem course_answered (hi : Inv h d) (p : Party κ) (result : Outcome) :
    Course s (.answered p result) d (d.answered s isOpen result p) := by
  cases p with
  | call id =>
    simp only [answered]
    split
    · rename_i current phase hc
      split
      · rename_i heq
        subst heq
        exact course_callAnswered hi hc result
      · exact Acts.nothing.course
    · exact Acts.nothing.course
  | loop id =>
    simp only [answered]
    split
    · refine ((Acts.loopEnd id).append (b := closeReport s result) (.say ?_)).course
      cases result <;> simp [closeReport, Action.isOwn]
    · exact Acts.nothing.course
  | task _ | application _ => exact course_consumerStep hi (by rintro q ⟨⟩)

/-- **The course of a step.** Every step lets things go, and then acts for a reason. -/
theorem course (s : Setup α) (isOpen : ChannelId → Bool) (hi : Inv h d) (e : Event κ) :
    Course s e d (d.step s isOpen e) := by
  cases e with
  | call id r => exact course_call d id r
  | turn id =>
    simp only [step]
    split
    · rename_i current r hc
      split
      · rename_i heq
        subst heq
        exact course_serve (.refl _ d) ⟨_, hc⟩ r
      · exact Acts.nothing.course
    · exact Acts.nothing.course
  | created id result => exact course_created hi id result
  | item id x =>
    simp only [step]
    split
    · rename_i l hl
      split
      · cases x with
        | delivery fresh x => exact course_consumerStep hi (by rintro q ⟨⟩)
        | failure err => exact (Acts.say (by simp [Action.isOwn])).course
        | ended => exact course_ended hi (List.mem_of_find?_eq_some hl)
      · exact Acts.nothing.course
    · exact Acts.nothing.course
  | answered p result => exact course_answered hi p result
  | timeout p => exact course_timeout hi p
  | shutdown =>
    refine ⟨_, .stop _ d, .say ?_⟩
    dsimp only [step]
    split <;> simp [Action.isOwn]
  | consumer e' =>
    refine course_consumerStep hi ?_
    rintro p rfl
    rfl

end Steps

end BrokerClient.Dispatcher
