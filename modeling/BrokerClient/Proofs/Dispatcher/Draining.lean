import BrokerClient.Proofs.Dispatcher.ChannelOrder
import BrokerClient.Proofs.Dispatcher.Stopping

/-!
# Draining before closing

Three parties close a channel that is consumed: a stop, a call that releases what a consumer left behind, and the loop
whose deliveries ended. Each first waits until nothing is outstanding, but not longer than a time. For that a run has
times: a wait that ends for its time ends when the timers are over that were set for it (`OnTime`). Then a consumed
channel is only closed when nothing is outstanding, or by somebody who has waited all that time
(`drained_before_close`).
-/

namespace BrokerClient.Dispatcher

variable {κ α : Type}

/-! ## Time -/

/-- What happens at a time. -/
structure Instant (κ : Type) extends Moment κ where
  time : Nat

def moments (is : List (Instant κ)) : List (Moment κ) := is.map (·.toMoment)

@[simp] theorem moments_append (a b : List (Instant κ)) : moments (a ++ b) = moments a ++ moments b := List.map_append

@[simp] theorem moments_cons (i : Instant κ) (is : List (Instant κ)) : moments (i :: is) = i.toMoment :: moments is := rfl

/-- When the timers are over that are set at a time. -/
def timers (time : Nat) (actions : List (Action κ α)) : List (Party κ × Nat) := actions.filterMap fun
  | .timer p ms => some (p, time + ms)
  | _ => none

/-- Whose time is over. -/
def Event.timedOut? : Event κ → Option (Party κ)
  | .timeout p => some p
  | _ => none

section Time

variable [DecidableEq κ]

/-- Nobody's time is over before the timers that were set for it. -/
def OnTime (s : Setup α) (d : Dispatcher κ) (set : List (Party κ × Nat)) : List (Instant κ) → Prop
  | [] => True
  | i :: is => (∀ x ∈ set, i.event.timedOut? = some x.1 → x.2 ≤ i.time) ∧
    OnTime s (d.step s i.isOpen i.event).1 (set ++ timers i.time (d.step s i.isOpen i.event).2) is

instance decidableOnTime (s : Setup α) (d : Dispatcher κ) (set : List (Party κ × Nat)) :
    (is : List (Instant κ)) → Decidable (OnTime s d set is)
  | [] => isTrue trivial
  | i :: is =>
    have := decidableOnTime s (d.step s i.isOpen i.event).1 (set ++ timers i.time (d.step s i.isOpen i.event).2) is
    inferInstanceAs (Decidable (_ ∧ _))

variable {s : Setup α} {p : Party κ}

theorem OnTime.le {d : Dispatcher κ} {set : List (Party κ × Nat)} {a : List (Instant κ)} {m : Instant κ}
    {after : List (Instant κ)} (h : OnTime s d set (a ++ m :: after)) (hm : m.event = .timeout p) {time : Nat}
    (hset : (p, time) ∈ set) : time ≤ m.time := by
  induction a generalizing d set with
  | nil => exact h.1 _ hset (by rw [hm]; rfl)
  | cons i a ih => exact ih h.2 (List.mem_append_left _ hset)

theorem OnTime.drop {c : Chronicle κ α} {set : List (Party κ × Nat)} {b is : List (Instant κ)}
    (h : OnTime s c.now set (b ++ is)) : ∃ set', OnTime s (c.run s (moments b)).now set' is := by
  induction b generalizing c set with
  | nil => exact ⟨set, h⟩
  | cons i b ih => exact ih (c := c.next s i.toMoment) h.2

/-- Whose time is over has set its timers long enough before. -/
theorem OnTime.timer {b a : List (Instant κ)} {u m : Instant κ} {after : List (Instant κ)}
    (h : OnTime s {} [] (b ++ u :: (a ++ m :: after))) {ms : Nat}
    (hu : .timer p ms ∈ ((chronicle s (moments b) : Chronicle κ α).now.step s u.isOpen u.event).2)
    (hm : m.event = .timeout p) : u.time + ms ≤ m.time := by
  obtain ⟨set, hset⟩ := OnTime.drop (c := ({} : Chronicle κ α)) h
  refine OnTime.le hset.2 hm (List.mem_append_right _ ?_)
  exact List.mem_filterMap.2 ⟨_, hu, rfl⟩

/-- Somebody waits since a time, and set a timer then. -/
def WaitsSince (s : Setup α) (p : Party κ) (is : List (Instant κ)) (u : Instant κ) : Prop :=
  ∃ b a, is = b ++ u :: a ∧
    .timer p s.config.drainTimeout ∈ ((chronicle s (moments b) : Chronicle κ α).now.step s u.isOpen u.event).2 ∧
    ∀ a₁ a₂, a = a₁ ++ a₂ → p ∈ (chronicle s (moments (b ++ u :: a₁)) : Chronicle κ α).now.consumer.acks.waiting

theorem waiting_step {h : Past κ α} {d : Dispatcher κ} {isOpen : ChannelId → Bool} {e : Event κ} (hi : Inv h d)
    (hp : p ∈ (d.step s isOpen e).1.consumer.acks.waiting) :
    p ∈ d.consumer.acks.waiting ∨ .timer p s.config.drainTimeout ∈ (d.step s isOpen e).2 := by
  obtain ⟨d₁, hease, hacts⟩ := course s isOpen hi e
  exact (hacts.waiting hp).imp_left (hease.waiting p)

theorem exists_waitsSince (is : List (Instant κ)) (hs : Schedule (moments is))
    (hp : p ∈ (chronicle s (moments is) : Chronicle κ α).now.consumer.acks.waiting) : ∃ u, WaitsSince s p is u := by
  induction is using List.reverseRecOn with
  | nil => cases hp
  | append_singleton is m ih =>
    rw [moments_append] at hs
    have hp' := hp
    rw [moments_append, moments_cons, chronicle_append_cons] at hp'
    rcases waiting_step (inv_chronicle s _ hs.left) hp' with hw | hset
    · obtain ⟨u, b, a, rfl, hset, hall⟩ := ih hs.left hw
      refine ⟨u, b, a ++ [m], by simp, hset, ?_⟩
      intro a₁ a₂ ha
      -- either a₂ ends with the last moment, or it is empty
      rcases List.eq_nil_or_concat a₂ with rfl | ⟨a₂, m', rfl⟩
      · rw [List.append_nil] at ha
        rw [← ha]
        simpa using hp
      · rw [List.concat_eq_append, ← List.append_assoc] at ha
        exact hall a₁ a₂ (List.append_inj_left' ha rfl)
    · refine ⟨m, is, [], rfl, hset, ?_⟩
      intro a₁ a₂ ha
      obtain ⟨rfl, -⟩ := List.append_eq_nil_iff.1 ha.symm
      exact hp

end Time

/-! ## Consumed channels -/

/-- The channel that is consumed from an event on. -/
def consuming? (d : Dispatcher κ) : Event κ → Option ChannelId
  | .answered (.call id) (.ok _) => match d.current with
    | some (current, .subscribing channel (.consume ..) _) => if current = id then some channel else none
    | _ => none
  | _ => none

theorem consuming?_eq_some {d : Dispatcher κ} {e : Event κ} {channel : ChannelId} :
    d.consuming? e = some channel ↔ ∃ id queue tag noAck rest, e = .answered (.call id) (.ok ()) ∧
      d.current = some (id, .subscribing channel (.consume queue tag noAck) rest) := by
  constructor
  · intro hx
    unfold consuming? at hx
    split at hx
    · split at hx
      · rename_i hc
        split at hx
        · rename_i heq
          subst heq
          cases hx
          exact ⟨_, _, _, _, _, rfl, hc⟩
        · cases hx
      · cases hx
    · cases hx
  · rintro ⟨id, queue, tag, noAck, rest, rfl, hc⟩
    simp [consuming?, hc]

section Consumed

variable [DecidableEq κ]

/-- The channels that were consumed in a run. -/
def Chronicle.consumed (s : Setup α) (c : Chronicle κ α) : List (Moment κ) → List ChannelId
  | [] => []
  | m :: ms => (c.now.consuming? m.event).toList ++ (c.next s m).consumed s ms

variable (s : Setup α)

theorem consumed_append (c : Chronicle κ α) (a b : List (Moment κ)) :
    c.consumed s (a ++ b) = c.consumed s a ++ (c.run s a).consumed s b := by
  induction a generalizing c with
  | nil => rfl
  | cons m a ih => rw [List.cons_append, Chronicle.consumed, Chronicle.consumed, ih, List.append_assoc, Chronicle.run_cons]

theorem close_not_mem_subscription : .close ∉ s.subscription := by
  intro h
  have hcalls : .close ∈ s.topology.calls := by simpa [Setup.subscription] using h
  cases Topology.installs_of_mem_calls hcalls

/-- Beginning to consume is the last call of a subscription. -/
theorem rest_eq_nil {begun rest : List ChannelCall} {queue tag : String} {noAck : Bool}
    (h : begun ++ .consume queue tag noAck :: rest = s.subscription) : rest = [] := by
  rcases List.eq_nil_or_concat rest with hnil | ⟨rest, c, rfl⟩
  · exact hnil
  · have hinit : begun ++ .consume queue tag noAck :: rest = s.topology.calls ++ [.qos s.config.prefetch] := by
      have hall : (begun ++ .consume queue tag noAck :: rest) ++ [c] =
          (s.topology.calls ++ [.qos s.config.prefetch]) ++ [.consume s.queue s.tag (s.ackMode = .auto)] := by
        simpa [Setup.subscription] using h
      exact List.append_inj_left' hall rfl
    have hm : .consume queue tag noAck ∈ s.topology.calls ++ [.qos s.config.prefetch] := by
      rw [← hinit]
      simp
    have hcalls : .consume queue tag noAck ∈ s.topology.calls := by simpa using hm
    cases Topology.installs_of_mem_calls hcalls

/-- A call subscribes a channel that it was on before, or that it just got. -/
theorem Acts.subscribing {s : Setup α} {e : Event κ} {d₀ d d' : Dispatcher κ} {a : List (Action κ α)}
    (h : Acts s e d₀ d a d') {id : RequestId} {channel : ChannelId} {c : ChannelCall} {rest : List ChannelCall}
    (hc : d'.current = some (id, .subscribing channel c rest)) :
    d.current = some (id, .subscribing channel c rest) ∨
      (∃ c₀, d₀.current = some (id, .subscribing channel c₀ (c :: rest))) ∨ d₀.opening? e = some (id, channel) := by
  induction h with
  | append _ _ ih ih' => exact (ih' hc).elim ih .inr
  | pass _ _ | start _ _ _ => exact absurd hc not_subscribing_finish
  | say _ | loopClose _ _ _ _ | loopEnd _ | loopWait _ => exact .inl hc
  | create _ | cancel _ _ _ | wait _ _ _ _ | close _ _ _ _ _ => cases hc
  | first h hsame _ he _ =>
    cases hc
    exact .inr (.inr (opening?_eq_some.2 ⟨he, hsame.trans h⟩))
  | next h hsame _ =>
    cases hc
    exact .inr (.inl ⟨_, hsame.trans h⟩)

/-- A channel that is subscribed was not consumed before. -/
structure Unconsumed (consumed : List ChannelId) (h : Past κ α) (d : Dispatcher κ) : Prop where
  opened : ∀ channel ∈ consumed, channel ∈ h.openedChannels
  subscribing : ∀ id channel c rest, d.current = some (id, .subscribing channel c rest) → channel ∉ consumed

/-- A call that begins to consume has made its last call, and is done. -/
theorem not_subscribing_of_consuming {s : Setup α} {h : Past κ α} {d : Dispatcher κ} {e : Event κ}
    {isOpen : ChannelId → Bool} (ho : Orderly s h d) {x : ChannelId} (hx : d.consuming? e = some x) {id : RequestId}
    {channel : ChannelId} {c : ChannelCall} {rest : List ChannelCall} :
    (d.step s isOpen e : Effect κ α).1.current ≠ some (id, .subscribing channel c rest) := by
  obtain ⟨i, queue, tag, noAck, rest', rfl, hc⟩ := consuming?_eq_some.1 hx
  obtain ⟨begun, -, hsub⟩ := ho.subscribing _ _ _ _ hc
  rw [rest_eq_nil s hsub] at hc
  simp only [step, answered, hc, if_true, callAnswered, subscribe]
  exact not_subscribing_finish

theorem Unconsumed.step {s : Setup α} {h : Past κ α} {d : Dispatcher κ} {consumed : List ChannelId} {e : Event κ}
    (isOpen : ChannelId → Bool) (hu : Unconsumed consumed h d) (hi : Inv h d) (ho : Orderly s h d)
    (hnew : ∀ x, d.opening? e = some x → x.2 ∉ h.openedChannels) :
    Unconsumed (consumed ++ (d.consuming? e).toList) ((h.notice d e).log (d.step s isOpen e).2)
      (d.step s isOpen e : Effect κ α).1 where
  opened channel hm := by
    have hknown : channel ∈ h.openedChannels := by
      rcases List.mem_append.1 hm with hm | hm
      · exact hu.opened channel hm
      · obtain ⟨_, _, _, _, _, -, hc⟩ := consuming?_eq_some.1 (Option.mem_toList.1 hm)
        exact ho.known_current hc rfl
    simp only [Past.log, Past.notice, Past.openedChannels, List.map_append, List.mem_append]
    exact .inl hknown
  subscribing id channel c rest hc := by
    cases hx : d.consuming? e with
    | some x => exact absurd hc (not_subscribing_of_consuming ho hx)
    | none =>
      rw [Option.toList_none, List.append_nil]
      obtain ⟨d₁, hease, hacts⟩ := course s isOpen hi e
      rcases hacts.subscribing hc with hc | ⟨c₀, hc⟩ | hopen
      · rcases hease.current _ _ hc with hc | ⟨r, -, hr⟩
        · exact hu.subscribing id channel c rest hc
        · cases hr
      · exact hu.subscribing id channel c₀ _ hc
      · exact fun hm => hnew _ hopen (hu.opened channel hm)

theorem unconsumed_chronicle {s : Setup α} (ms : List (Moment κ)) (hs : Schedule ms) (hnew : NewChannels s ms) :
    Unconsumed (({} : Chronicle κ α).consumed s ms) (chronicle s ms : Chronicle κ α).past
      (chronicle s ms : Chronicle κ α).now := by
  induction ms using List.reverseRecOn with
  | nil => exact ⟨fun _ hm => absurd hm List.not_mem_nil, fun _ _ _ _ hc => nomatch hc⟩
  | append_singleton ms m ih =>
    have hi := inv_chronicle (α := α) s ms hs.left
    have hstep := (ih hs.left hnew.left).step (e := m.event) m.isOpen hi
      (orderly_chronicle ms hs.left hnew.left) hnew.not_mem
    rw [chronicle_append_cons, consumed_append]
    simp only [Chronicle.consumed, List.append_nil]
    exact hstep

end Consumed

/-! ## Why channels are closed -/

section Closing

variable [DecidableEq κ] {s : Setup α} {e : Event κ} {d₀ d d' : Dispatcher κ} {a : List (Action κ α)}

/-- A channel is closed when nothing is outstanding, by somebody who has waited long enough, or by a start that failed
on it. -/
theorem Acts.mayClose (h : Acts s e d₀ d a d') {p : Party κ} {channel : ChannelId}
    (hsub : ∀ id channel c rest, d₀.current = some (id, .subscribing channel c rest) → .close ∉ rest)
    (hm : .call p channel .close ∈ a) (hp : p.dispatches = true) :
    MayClose e d₀ d p ∨ ∃ id c rest, d₀.current = some (id, .subscribing channel c rest) := by
  have hquiet {a : List (Action κ α)} (ha : ∀ x ∈ a, x.isOwn = false) : .call p channel .close ∉ a := by
    intro hm
    have hown : p.dispatches = false := ha _ hm
    rw [hp] at hown
    cases hown
  induction h with
  | append h _ ih ih' =>
    rcases List.mem_append.1 hm with hm | hm
    · exact ih hm
    · refine (ih' hm).imp_left ?_
      unfold MayClose
      rw [h.outstanding]
      exact id
  | say ha => exact absurd hm (hquiet ha)
  | pass _ _ | start _ _ _ => exact absurd hm (hquiet isOwn_finish)
  | create _ | wait _ _ _ _ | loopWait _ | cancel _ _ _ => simp at hm
  | loopEnd _ => cases hm
  | first _ _ _ _ hc =>
    simp only [List.mem_singleton, Action.call.injEq] at hm
    obtain ⟨-, -, rfl⟩ := hm
    exact absurd (hc ▸ List.mem_cons_self ..) (close_not_mem_subscription s)
  | next h hsame _ =>
    simp only [List.mem_singleton, Action.call.injEq] at hm
    obtain ⟨-, -, rfl⟩ := hm
    exact absurd (List.mem_cons_self ..) (hsub _ _ _ _ (hsame.trans h))
  | close _ _ _ _ ho =>
    simp only [List.mem_singleton, Action.call.injEq, and_true] at hm
    obtain ⟨rfl, rfl⟩ := hm
    exact ho.imp_right fun ⟨c, rest, err, hc, _⟩ => ⟨_, c, rest, hc⟩
  | loopClose _ _ _ ho =>
    simp only [List.mem_singleton, Action.call.injEq, and_true] at hm
    obtain ⟨rfl, rfl⟩ := hm
    exact .inl ho

theorem mayClose_step {h : Past κ α} {d : Dispatcher κ} {isOpen : ChannelId → Bool} (hi : Inv h d)
    (ho : Orderly s h d) {p : Party κ} {channel : ChannelId} (hp : p.dispatches = true)
    (hm : .call p channel .close ∈ (d.step s isOpen e).2) :
    (d.step s isOpen e).1.consumer.outstanding = 0 ∨ (e = .timeout p ∧ p ∈ d.consumer.acks.waiting) ∨
      ∃ id c rest, d.current = some (id, .subscribing channel c rest) := by
  obtain ⟨d₁, hease, hacts⟩ := course s isOpen hi e
  have hsub : ∀ id channel c rest, d.current = some (id, .subscribing channel c rest) → .close ∉ rest := by
    intro id channel c rest hc hm
    obtain ⟨begun, -, hall⟩ := ho.subscribing id channel c rest hc
    refine close_not_mem_subscription s ?_
    rw [← hall]
    exact List.mem_append_right _ (List.mem_cons_of_mem _ hm)
  rcases hacts.mayClose hsub hm hp with (hzero | htime) | hfailed
  · exact .inl (hacts.outstanding.trans hzero)
  · exact .inr (.inl htime)
  · exact .inr (.inr hfailed)

/-- **Draining before closing.** In every run in which the channels are new and nobody's time is over too early: the
dispatcher's own calls on every channel come in order, up to closing; a stop goes on to the end, whatever the answers
are; and a channel that was consumed is only closed when nothing is outstanding, or by somebody whose time is over and
who has waited all that time. -/
theorem drained_before_close (s : Setup α) (is : List (Instant κ)) (hs : Schedule (moments is))
    (hnew : NewChannels s (moments is)) (ht : OnTime s {} [] is) :
    (∀ channel, InOrder s (ownCalls channel (chronicle s (moments is) : Chronicle κ α).past.done)) ∧
    ∀ before i after, is = before ++ i :: after → ∀ c : Chronicle κ α, c = chronicle s (moments before) →
      ∀ r, r = c.now.step s i.isOpen i.event →
      GoesOn s i.isOpen c.past c.now i.event r ∧
      ∀ p channel, p.dispatches = true → .call p channel .close ∈ r.2 →
        channel ∈ ({} : Chronicle κ α).consumed s (moments before) →
        r.1.consumer.outstanding = 0 ∨
          i.event = .timeout p ∧ ∃ u, WaitsSince s p before u ∧ u.time + s.config.drainTimeout ≤ i.time := by
  refine ⟨(orderly_chronicle _ hs hnew).inOrder, ?_⟩
  rintro before i after rfl c rfl r rfl
  rw [moments_append] at hs hnew
  have hi := inv_chronicle (α := α) s _ hs.left
  refine ⟨goesOn hi (stopping_chronicle _ hs.left) i.event, ?_⟩
  intro p channel hp hm hconsumed
  rcases mayClose_step hi (orderly_chronicle _ hs.left hnew.left) hp hm with hzero | ⟨he, hw⟩ | ⟨id, call, rest, hc⟩
  · exact .inl hzero
  · right
    obtain ⟨u, hwaits⟩ := exists_waitsSince before hs.left hw
    refine ⟨he, u, hwaits, ?_⟩
    obtain ⟨b, a, rfl, hset, -⟩ := hwaits
    rw [List.append_assoc, List.cons_append] at ht
    exact ht.timer hset he
  · exact absurd hconsumed ((unconsumed_chronicle _ hs.left hnew.left).subscribing id channel call rest hc)

end Closing

/-- A consumer of jobs that are acknowledged by hand. -/
def manualJobs : Setup Bytes := { jobs with config := { ackMode := .manual } }

/-- A job is taken and never acknowledged; the consumer is stopped, ending to consume fails, and the time for
acknowledgements passes. -/
def unsettledJob : List (Instant Nat) := [
  ⟨⟨fun _ => true, .call 0 .start⟩, 0⟩, ⟨⟨fun _ => true, .created 0 (.ok 5)⟩, 0⟩,
  ⟨⟨fun _ => true, .answered (.call 0) (.ok ())⟩, 0⟩, ⟨⟨fun _ => true, .answered (.call 0) (.ok ())⟩, 0⟩,
  ⟨⟨fun _ => true, .item 0 (.delivery "fresh" ⟨7, "ex", "rk", false, {}, []⟩)⟩, 1⟩,
  ⟨⟨fun _ => true, .call 1 .stop⟩, 2⟩,
  ⟨⟨fun _ => true, .answered (.call 1) (.error (.cancelConsumer "jobs-1"))⟩, 3⟩,
  ⟨⟨fun _ => true, .timeout (.call 1)⟩, 30003⟩, ⟨⟨fun _ => true, .answered (.call 1) (.ok ())⟩, 30004⟩]

theorem drained_before_close_unsettledJob :
    Schedule (moments unsettledJob) ∧ NewChannels manualJobs (moments unsettledJob) ∧
      OnTime manualJobs {} [] unsettledJob ∧
      InOrder manualJobs (ownCalls 5 (chronicle manualJobs (moments unsettledJob) : Chronicle Nat Bytes).past.done) ∧
      .finish 1 (.error (.cancelConsumer "jobs-1")) ∈
        (chronicle manualJobs (moments unsettledJob) : Chronicle Nat Bytes).past.done ∧
      ∃ u : Instant Nat, WaitsSince manualJobs (.call 1) (unsettledJob.take 7) u ∧ u.time + 30000 ≤ 30003 := by
  have hs : Schedule (moments unsettledJob) := by decide
  have hnew : NewChannels manualJobs (moments unsettledJob) := List.nodup_singleton 5
  have ht : OnTime manualJobs {} [] unsettledJob := by decide
  obtain ⟨horder, hsteps⟩ := drained_before_close manualJobs unsettledJob hs hnew ht
  obtain ⟨-, hclose⟩ := hsteps (unsettledJob.take 7) _ (unsettledJob.drop 8) rfl _ rfl _ rfl
  have hwaits := hclose (.call 1) 5 rfl (List.mem_of_getElem? (i := 1) rfl) (List.mem_of_getElem? (i := 0) rfl)
  exact ⟨hs, hnew, ht, horder 5, List.mem_of_getElem? (i := 11) rfl, (hwaits.resolve_left (by decide)).2⟩

end BrokerClient.Dispatcher
