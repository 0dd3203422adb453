import Mathlib.Data.List.Nodup
import BrokerClient.Proofs.Dispatcher.Chronicle

/-!
# What a dispatcher keeps

Start, stop, the loop and the shutdown of the connection write the same state, and only the first two take
turns. Between the calls the state is `Unlocked`: what runs is written down in `running`, and a started
dispatcher has its loop. A call that has taken the run away leaves the dispatcher `Vacant` until it is done.
`Inv` adds the books: the calls wait in the order in which they came, and whoever starts has got at most one
channel, which it has asked to close when it gives up. One lemma for each function shows that it keeps this;
`inv_step` puts them together, with the verdict about every start that is done.
-/

namespace BrokerClient.Dispatcher

variable {κ α : Type}

/-! ## What runs -/

/-- What is left of a run: its loop, unless that has ended. -/
def Remains (run : Run) (loops : List Loop) : Prop := loops = [] ∨ ∃ phase, loops = [⟨run.loop, run.channel, phase⟩]

/-- Nothing runs. -/
def Vacant (d : Dispatcher κ) : Prop := d.status = .stopped ∧ d.running = none ∧ d.loops = []

/-- A run was taken away and its loop not yet aborted. -/
def Leaving (d : Dispatcher κ) (run : Run) : Prop :=
  d.status = .stopped ∧ d.running = none ∧ Remains run d.loops

/-- No call is in between: what runs is known, and if the dispatcher is started its loop takes deliveries. -/
def Unlocked (d : Dispatcher κ) : Prop :=
  d.Vacant ∨ ∃ run, d.running = some run ∧
    (d.status = .stopped ∧ Remains run d.loops ∨
      d.status = .started ∧ d.loops = [⟨run.loop, run.channel, .taking⟩])

theorem Vacant.unlocked {d : Dispatcher κ} (h : d.Vacant) : d.Unlocked := .inl h

theorem Remains.length_le {run : Run} {loops : List Loop} (h : Remains run loops) : loops.length ≤ 1 := by
  rcases h with rfl | ⟨phase, rfl⟩
  · exact Nat.zero_le 1
  · exact Nat.le_refl 1

theorem Remains.filter {run : Run} {loops : List Loop} (h : Remains run loops) (p : Loop → Bool) :
    Remains run (loops.filter p) := by
  rcases h with rfl | ⟨phase, rfl⟩
  · exact .inl rfl
  · rw [List.filter_cons]
    split
    · exact .inr ⟨phase, rfl⟩
    · exact .inl rfl

theorem Remains.moveLoop {d : Dispatcher κ} {run : Run} (h : Remains run d.loops) (id : LoopId) (phase : LoopPhase) :
    Remains run (d.moveLoop id phase).loops := by
  rcases h with h | ⟨old, h⟩
  · exact .inl (by rw [Dispatcher.moveLoop, h]; rfl)
  · refine .inr ⟨if run.loop = id then phase else old, ?_⟩
    rw [Dispatcher.moveLoop, h, List.map_singleton]
    split <;> rfl

/-- Aborting the loop of a run leaves nothing of it. -/
theorem Remains.abort [DecidableEq κ] {d : Dispatcher κ} {run : Run} (h : Remains run d.loops) : (d.abort run.loop).loops = [] := by
  rcases h with h | ⟨phase, h⟩
  · rw [Dispatcher.abort, dropLoop, h]; rfl
  · simp [Dispatcher.abort, dropLoop, h]

/-! ## What was asked -/

/-- The call that a call's next thing to do belongs to. -/
def Next.request : Next → Request
  | .connect | .failed _ => .start
  | .refuse | .stopped _ => .stop

def Next.fails : Next → Bool
  | .failed _ => true
  | .connect | .refuse | .stopped _ => false

def Phase.request : Phase → Request
  | .granted r => r
  | .opening | .subscribing .. => .start
  | .cancelling _ => .stop
  | .draining _ next | .closing _ next => next.request

/-- The call whose turn it is, as it was asked. -/
def holder (d : Dispatcher κ) : List (RequestId × Request) :=
  match d.current with
  | none => []
  | some (id, phase) => [(id, phase.request)]

namespace Past

variable (h : Past κ α)

def GotNothing (id : RequestId) : Prop := ∀ channel, (id, channel) ∉ h.opened

def GotOnly (id : RequestId) (channel : ChannelId) : Prop := ∀ other, (id, other) ∈ h.opened → other = channel

/-- A call has asked every channel that it got to close. -/
def ClosedAll (id : RequestId) : Prop :=
  ∀ channel, (id, channel) ∈ h.opened → .call (.call id) channel .close ∈ h.done

theorem log_log (a b : List (Action κ α)) : (h.log a).log b = h.log (a ++ b) := by
  simp only [log, List.append_assoc]

theorem ClosedAll.log {h : Past κ α} {id : RequestId} (hc : h.ClosedAll id) (a : List (Action κ α)) :
    (h.log a).ClosedAll id := fun channel hm => List.mem_append_left _ (hc channel hm)

end Past

/-- The calls wait in the order in which they came, and those that wait have got nothing. -/
structure Books (h : Past κ α) (holder waiting : List (RequestId × Request)) : Prop where
  names : (h.requests.map (·.1)).Nodup
  known : ∀ x ∈ h.opened, x.1 ∈ h.requests.map (·.1)
  queue : (holder ++ waiting).Sublist h.requests
  unserved : ∀ x ∈ waiting, h.GotNothing x.1

/-- What holds while a call is in a phase. -/
def Holds (h : Past κ α) (d : Dispatcher κ) (id : RequestId) : Phase → Prop
  | .granted _ => d.Unlocked ∧ h.GotNothing id
  | .opening => d.Vacant ∧ h.GotNothing id
  | .subscribing channel _ _ => d.Vacant ∧ h.GotOnly id channel
  | .cancelling run => d.Leaving run ∧ h.GotNothing id
  | .draining _ next => d.Vacant ∧ h.GotNothing id ∧ next.fails = false
  | .closing _ next => d.Vacant ∧ h.ClosedAll id ∧ (next.fails = false → h.GotNothing id)

structure Inv (h : Past κ α) (d : Dispatcher κ) : Prop where
  books : Books h d.holder d.waiting
  unlocked : d.current = none → d.waiting = [] ∧ d.Unlocked
  holds : ∀ id phase, d.current = some (id, phase) → Holds h d id phase

theorem inv_initial : Inv ({} : Past κ α) ({} : Dispatcher κ) where
  books := ⟨.nil, fun _ hx => absurd hx List.not_mem_nil, .slnil, fun _ hx => absurd hx List.not_mem_nil⟩
  unlocked _ := ⟨rfl, .inl ⟨rfl, rfl, rfl⟩⟩
  holds _ _ hc := by cases hc

theorem Holds.log {h : Past κ α} {d : Dispatcher κ} {id : RequestId} {phase : Phase} (hh : Holds h d id phase)
    (a : List (Action κ α)) : Holds (h.log a) d id phase := by
  cases phase with
  | closing channel next => exact ⟨hh.1, hh.2.1.log a, hh.2.2⟩
  | granted _ | opening | subscribing _ _ _ | cancelling _ | draining _ _ => exact hh

theorem Books.log {h : Past κ α} {holder waiting : List (RequestId × Request)} (hb : Books h holder waiting)
    (a : List (Action κ α)) : Books (h.log a) holder waiting := ⟨hb.names, hb.known, hb.queue, hb.unserved⟩

theorem Inv.log {h : Past κ α} {d : Dispatcher κ} (hi : Inv h d) (a : List (Action κ α)) : Inv (h.log a) d :=
  ⟨hi.books.log a, hi.unlocked, fun id phase hc => (hi.holds id phase hc).log a⟩

/-- The books with the call whose turn it is. -/
theorem Inv.booksOf {h : Past κ α} {d : Dispatcher κ} (hi : Inv h d) {id : RequestId} {phase : Phase}
    (hc : d.current = some (id, phase)) : Books h [(id, phase.request)] d.waiting := by
  have hb := hi.books
  rwa [holder, hc] at hb

/-- Whatever the phase, there is at most one loop. -/
theorem Inv.loops_length_le {h : Past κ α} {d : Dispatcher κ} (hi : Inv h d) : d.loops.length ≤ 1 := by
  have hvacant (hv : d.Vacant) : d.loops.length ≤ 1 := by rw [hv.2.2]; exact Nat.zero_le 1
  have hunlocked (hu : d.Unlocked) : d.loops.length ≤ 1 := by
    rcases hu with hv | ⟨run, -, ⟨-, hr⟩ | ⟨-, hl⟩⟩
    · exact hvacant hv
    · exact hr.length_le
    · rw [hl]; exact Nat.le_refl 1
  cases hc : d.current with
  | none => exact hunlocked (hi.unlocked hc).2
  | some x =>
    obtain ⟨id, phase⟩ := x
    have hh := hi.holds id phase hc
    cases phase with
    | granted r => exact hunlocked hh.1
    | cancelling run => exact hh.1.2.2.length_le
    | opening | subscribing _ _ _ | draining _ _ | closing _ _ => exact hvacant hh.1

/-! ## Calls -/

/-- A call that is done hands the turn to the next. -/
theorem inv_finish {h : Past κ α} {d : Dispatcher κ} {id : RequestId} {r : Request}
    (hb : Books h [(id, r)] d.waiting) (hu : d.Unlocked) (result : Outcome) :
    Inv h (d.finish id result : Effect κ α).1 := by
  have hq : d.waiting.Sublist h.requests := (List.sublist_cons_self ..).trans hb.queue
  unfold finish
  cases hw : d.waiting with
  | nil =>
    exact ⟨⟨hb.names, hb.known, by simp [holder], by simp⟩, fun _ => ⟨rfl, hu⟩, fun _ _ hc => (by cases hc)⟩
  | cons x waiting =>
    obtain ⟨next, r'⟩ := x
    rw [hw] at hq
    refine ⟨⟨hb.names, hb.known, hq, fun x hx => hb.unserved x ?_⟩, fun hc => (by cases hc), fun i phase hc => ?_⟩
    · rw [hw]; exact List.mem_cons_of_mem _ hx
    · cases hc
      exact ⟨hu, hb.unserved (next, r') (by rw [hw]; exact List.mem_cons_self ..)⟩

theorem mem_finish {d : Dispatcher κ} {id i : RequestId} {result o : Outcome}
    (hm : .finish i o ∈ (d.finish id result : Effect κ α).2) : i = id ∧ o = result := by
  unfold finish at hm
  split at hm <;> simpa using hm

/-- An effect that keeps the invariant, and after which no start is done. -/
structure Kept (h : Past κ α) (r : Effect κ α) : Prop where
  inv : Inv (h.log r.2) r.1
  stops : ∀ id result, .finish id result ∈ r.2 → (id, .stop) ∈ h.requests

theorem Inv.kept {h : Past κ α} {d : Dispatcher κ} (hi : Inv h d) {a : List (Action κ α)}
    (ha : ∀ id result, .finish id result ∉ a) : Kept h (d, a) :=
  ⟨hi.log a, fun id result hm => absurd hm (ha id result)⟩

/-- Saying more before does no harm. -/
theorem Kept.prepend {h : Past κ α} {r : Effect κ α} (hk : Kept h r) {a : List (Action κ α)}
    (ha : ∀ id result, .finish id result ∉ a) : Kept h (r.1, a ++ r.2) where
  inv := by
    obtain ⟨hb, hu, hh⟩ := hk.inv
    refine ⟨⟨hb.names, hb.known, hb.queue, hb.unserved⟩, hu, fun id phase hc => ?_⟩
    have hp := hh id phase hc
    cases phase with
    | closing channel next =>
      refine ⟨hp.1, fun ch hm => ?_, hp.2.2⟩
      have := hp.2.1 ch hm
      simp only [Past.log, List.mem_append] at this ⊢
      exact this.imp_right .inr
    | granted _ | opening | subscribing _ _ _ | cancelling _ | draining _ _ => exact hp
  stops id result hm := by
    rcases List.mem_append.1 hm with hm | hm
    · exact absurd hm (ha id result)
    · exact hk.stops id result hm

/-- One effect after the other. -/
theorem Kept.append {h : Past κ α} {d : Dispatcher κ} {a : List (Action κ α)} {r : Effect κ α}
    (hk : Kept h (d, a)) (hr : Kept (h.log a) r) : Kept h (r.1, a ++ r.2) where
  inv := by rw [← Past.log_log]; exact hr.inv
  stops id result hm := by
    rcases List.mem_append.1 hm with hm | hm
    · exact hk.stops id result hm
    · exact hr.stops id result hm

section Turn

variable {h : Past κ α} {d : Dispatcher κ} {id : RequestId}

/-- The call whose turn it is goes to a phase. -/
theorem inv_turn (phase : Phase) (hb : Books h [(id, phase.request)] d.waiting) (hh : Holds h d id phase) :
    Inv h { d with current := some (id, phase) } where
  books := hb
  unlocked hc := by cases hc
  holds i p hc := by
    cases hc
    cases phase <;> exact hh

theorem kept_turn (phase : Phase) (hb : Books h [(id, phase.request)] d.waiting) (hh : Holds h d id phase)
    {a : List (Action κ α)} (ha : ∀ id result, .finish id result ∉ a) :
    Kept h ({ d with current := some (id, phase) }, a) := (inv_turn phase hb hh).kept ha

variable (s : Setup α) (isOpen : ChannelId → Bool) (channel : ChannelId) (next : Next)

theorem kept_proceed (hb : Books h [(id, next.request)] d.waiting) (hv : d.Vacant) (hn : h.GotNothing id)
    (hf : next.fails = false) : Kept h (d.proceed s id next) := by
  have hmem : (id, next.request) ∈ h.requests := hb.queue.subset (List.mem_cons_self ..)
  cases next with
  | connect => exact kept_turn .opening hb ⟨hv, hn⟩ (by simp)
  | refuse =>
    refine ⟨(inv_finish hb hv.unlocked _).log _, fun i o hm => ?_⟩
    obtain ⟨rfl, -⟩ := mem_finish hm
    exact hmem
  | stopped result =>
    refine ⟨(inv_finish hb hv.unlocked _).log _, fun i o hm => ?_⟩
    simp only [proceed, List.mem_cons, reduceCtorEq, false_or] at hm
    obtain ⟨rfl, -⟩ := mem_finish hm
    exact hmem
  | failed e => cases hf

theorem kept_close (hb : Books h [(id, next.request)] d.waiting) (hv : d.Vacant) (hn : h.GotNothing id)
    (hf : next.fails = false) : Kept h (d.close s isOpen id channel next) := by
  unfold close
  split
  · have hall : h.ClosedAll id := fun ch hm => absurd hm (hn ch)
    exact kept_turn (.closing channel next) hb ⟨hv, hall, fun _ => hn⟩ (by simp)
  · exact kept_proceed s next hb hv hn hf

variable [DecidableEq κ]

theorem kept_drain (hb : Books h [(id, next.request)] d.waiting) (hv : d.Vacant) (hn : h.GotNothing id)
    (hf : next.fails = false) : Kept h (d.drain s isOpen id channel next) := by
  unfold drain
  split
  · exact kept_close s isOpen channel next hb hv hn hf
  · exact kept_turn (d := { d with consumer := d.consumer.await (.call id) }) (.draining channel next) hb ⟨hv, hn, hf⟩ (by simp)

theorem kept_release (hb : Books h [(id, next.request)] d.waiting) (hu : d.Unlocked) (hs : d.status = .stopped)
    (hn : h.GotNothing id) (hf : next.fails = false) : Kept h (d.release s isOpen id next) := by
  unfold release
  rcases hu with hv | ⟨run, hrun, hr⟩
  · rw [hv.2.1]
    exact kept_proceed s next hb hv hn hf
  · have hrem : Remains run d.loops := by
      rcases hr with ⟨-, hr⟩ | ⟨hst, -⟩
      · exact hr
      · rw [hs] at hst; cases hst
    have hleft : (({ d with running := none } : Dispatcher κ).abort run.loop).loops = [] :=
      Remains.abort (d := { d with running := none }) hrem
    rw [hrun]
    exact kept_drain s isOpen run.channel next hb ⟨hs, rfl, hleft⟩ hn hf

theorem kept_stop (hb : Books h [(id, .stop)] d.waiting) (hu : d.Unlocked) (hn : h.GotNothing id) :
    Kept h (d.stop s isOpen id) := by
  unfold stop
  split
  · rename_i hs
    exact kept_release s isOpen .refuse hb hu hs hn rfl
  · rename_i hs
    rcases hu with hv | ⟨run, hrun, hr⟩
    · rw [hv.1] at hs; cases hs
    · have hrem : Remains run d.loops := by
        rcases hr with ⟨-, hr⟩ | ⟨-, hl⟩
        · exact hr
        · exact .inr ⟨.taking, hl⟩
      simp only [hrun]
      exact kept_turn (d := { d with status := .stopped, running := none }) (.cancelling run) hb
        ⟨⟨rfl, rfl, hrem⟩, hn⟩ (by simp)

end Turn

/-! ## Starts that are done -/

/-- What can be said when a start is done: it came from stopped to started, or found the dispatcher started, or
leaves nothing that runs and no open channel of its own that was not asked to close. -/
def Verdict (s : Setup α) (isOpen : ChannelId → Bool) (h : Past κ α) (d d' : Dispatcher κ) (id : RequestId) :
    Outcome → Prop
  | .ok _ => d.status = .stopped ∧ d'.status = .started
  | .error e => e = .consumerState s.queue "started" ∨
    d'.status = .stopped ∧ d'.running = none ∧
      ∀ channel, (id, channel) ∈ h.opened → isOpen channel = true → .call (.call id) channel .close ∈ h.done

/-- An effect that keeps the invariant and has a verdict about every start that it ends. -/
structure Sound (s : Setup α) (isOpen : ChannelId → Bool) (h : Past κ α) (d : Dispatcher κ) (r : Effect κ α) :
    Prop where
  inv : Inv (h.log r.2) r.1
  verdict : ∀ id result, .finish id result ∈ r.2 → (id, .start) ∈ h.requests →
    Verdict s isOpen (h.log r.2) d r.1 id result

/-- The requests of one name are one request. -/
theorem eq_of_names {h : Past κ α} (hn : (h.requests.map (·.1)).Nodup) {id : RequestId} {r r' : Request}
    (hm : (id, r) ∈ h.requests) (hm' : (id, r') ∈ h.requests) : r = r' :=
  congrArg Prod.snd (List.inj_on_of_nodup_map hn hm hm' rfl)

theorem Kept.sound {s : Setup α} {isOpen : ChannelId → Bool} {h : Past κ α} {d : Dispatcher κ} {r : Effect κ α}
    (hk : Kept h r) : Sound s isOpen h d r where
  inv := hk.inv
  verdict id result hm hs := by cases eq_of_names hk.inv.books.names hs (hk.stops id result hm)

/-- Only the turn changes hands when a call is done. -/
theorem finish_frame (d : Dispatcher κ) (id : RequestId) (result : Outcome) :
    (d.finish id result : Effect κ α).1.status = d.status ∧ (d.finish id result : Effect κ α).1.running = d.running := by
  unfold finish
  split <;> exact ⟨rfl, rfl⟩

section Start

variable {h : Past κ α} {d : Dispatcher κ} {id : RequestId}
variable (s : Setup α) (isOpen : ChannelId → Bool) (channel : ChannelId)

/-- A start that fails after it has asked its channels to close. -/
theorem sound_failed (hb : Books h [(id, .start)] d.waiting) (hv : d.Vacant) (e : Error)
    (hc : ∀ channel, (id, channel) ∈ h.opened → isOpen channel = true → .call (.call id) channel .close ∈ h.done)
    (a : List (Action κ α)) (ha : ∀ id result, .finish id result ∉ a) (d₀ : Dispatcher κ) :
    Sound s isOpen h d₀ ((d.finish id (.error e) : Effect κ α).1, a ++ (d.finish id (.error e) : Effect κ α).2) where
  inv := (inv_finish hb hv.unlocked _).log _
  verdict i o hm _ := by
    rcases List.mem_append.1 hm with hm | hm
    · exact absurd hm (ha i o)
    · obtain ⟨rfl, rfl⟩ := mem_finish hm
      obtain ⟨hs, hr⟩ := finish_frame (α := α) d i (.error e)
      exact .inr ⟨hs.trans hv.1, hr.trans hv.2.1, fun channel hm ho => List.mem_append_left _ (hc channel hm ho)⟩

/-- The channel of a start that has failed is asked to close, unless it is closed already. -/
theorem sound_close_failed (hb : Books h [(id, .start)] d.waiting) (hv : d.Vacant) (ho : h.GotOnly id channel)
    (e : Error) (entry : LogEntry) (d₀ : Dispatcher κ) :
    Sound s isOpen h d₀ ((d.close s isOpen id channel (.failed e)).1,
      .log entry :: (d.close s isOpen id channel (.failed e)).2) := by
  unfold close
  split
  · have hall : (h.log [.log entry, .call (.call id) channel .close]).ClosedAll id := by
      intro ch hm
      rw [ho ch hm]
      simp [Past.log]
    refine ⟨inv_turn (.closing channel (.failed e)) (hb.log _) ⟨hv, hall, fun hf => by cases hf⟩, ?_⟩
    intro i o hm
    simp at hm
  · rename_i hclosed
    refine sound_failed s isOpen hb hv e (fun ch hm hopen => ?_) [.log entry] (by simp) d₀
    rw [ho ch hm] at hopen
    exact absurd hopen hclosed

theorem sound_subscribe (hb : Books h [(id, .start)] d.waiting) (hv : d.Vacant) (ho : h.GotOnly id channel)
    (calls : List ChannelCall) : Sound s isOpen h d (d.subscribe s id channel calls) := by
  cases calls with
  | cons c rest => exact (kept_turn (.subscribing channel c rest) hb ⟨hv, ho⟩ (by simp)).sound
  | nil =>
    have hrun : (d.run channel).Unlocked :=
      .inr ⟨⟨channel, d.nextLoop⟩, rfl, .inr ⟨rfl, by simp only [Dispatcher.run, hv.2.2, List.nil_append]⟩⟩
    refine ⟨(inv_finish (d := d.run channel) hb hrun _).log _, fun i o hm _ => ?_⟩
    simp only [subscribe, List.mem_cons, reduceCtorEq, false_or] at hm
    obtain ⟨rfl, rfl⟩ := mem_finish hm
    exact ⟨hv.1, (finish_frame (α := α) (d.run channel) i (.ok ())).1⟩

variable [DecidableEq κ]

theorem sound_start (hb : Books h [(id, .start)] d.waiting) (hu : d.Unlocked) (hn : h.GotNothing id) :
    Sound s isOpen h d (d.start s isOpen id) := by
  unfold start
  split
  · refine ⟨(inv_finish hb hu _).log _, fun i o hm _ => ?_⟩
    obtain ⟨rfl, rfl⟩ := mem_finish hm
    exact .inl rfl
  · rename_i hs
    exact (kept_release s isOpen .connect hb hu hs hn rfl).sound

theorem sound_serve (r : Request) (hb : Books h [(id, r)] d.waiting) (hu : d.Unlocked) (hn : h.GotNothing id) :
    Sound s isOpen h d (d.serve s isOpen id r) := by
  cases r with
  | start => exact sound_start s isOpen hb hu hn
  | stop => exact (kept_stop s isOpen hb hu hn).sound

/-- The broker answered the call that a start or a stop was waiting for. -/
theorem sound_callAnswered (hi : Inv h d) (phase : Phase) (hc : d.current = some (id, phase)) (result : Outcome) :
    Sound s isOpen h d (d.callAnswered s isOpen id result phase) := by
  have hb := hi.booksOf hc
  have hh := hi.holds id phase hc
  cases phase with
  | granted _ | opening | draining _ _ => exact (hi.kept (by simp)).sound
  | cancelling run =>
    have hleft : (d.abort run.loop).Vacant := ⟨hh.1.1, hh.1.2.1, hh.1.2.2.abort⟩
    exact (kept_drain (d := d.abort run.loop) s isOpen run.channel (.stopped result) hb hleft hh.2 rfl).sound
  | subscribing channel c rest =>
    cases result with
    | ok _ => exact sound_subscribe s isOpen channel hb hh.1 hh.2 rest
    | error e => exact sound_close_failed s isOpen channel hb hh.1 hh.2 e _ d
  | closing channel next =>
    have hreport : ∀ i o, .finish i o ∉ (closeReport s result : List (Action κ α)) := by
      cases result <;> simp [closeReport]
    cases hf : next.fails with
    | false => exact ((kept_proceed s next hb hh.1 (hh.2.2 hf) hf).prepend hreport).sound
    | true =>
      cases next with
      | failed e => exact sound_failed s isOpen hb hh.1 e (fun ch hm _ => hh.2.1 ch hm) _ hreport d
      | connect | refuse | stopped _ => cases hf

end Start

end BrokerClient.Dispatcher
