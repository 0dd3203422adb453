import BrokerClient.Proofs.Dispatcher.Draining
import BrokerClient.Proofs.Dispatcher.Taking

/-!
# What comes of deliveries

The tasks of a run are those on the deliveries that loops took, numbered in the order in which these came, and so are
the handles if deliveries are acknowledged by hand (`Roster`). As long as a loop is not cut off, it takes all that its
channel yields, whatever the tasks before are doing (`takes_eq_streamed`). Its channel was consumed by a call that told
the broker whether there will be acknowledgements, and the handles are made to fit (`noAck_of_consume`). `faithful`
collects this for every run.
-/

namespace BrokerClient.Dispatcher

variable {κ α : Type}

/-! ## The tasks and the handles -/

/-- The tasks are those on the deliveries that were taken, and are numbered like them; so are the handles. -/
structure Roster (s : Setup α) (taken : List Taken) (c : Consumer κ) : Prop where
  next : c.next = taken.length
  tasks : ∀ t ∈ c.tasks, ∃ x, taken[t.id]? = some x ∧ t = x.task s t.id t.phase
  handles : s.ackMode = .manual → c.acks.next = taken.length
  numbered : ∀ h, c.acks.next ≤ h → c.acks.find? h = none

namespace Roster

variable {s : Setup α} {taken : List Taken} {c c' : Consumer κ}

theorem initial (s : Setup α) : Roster s [] ({} : Consumer κ) := ⟨rfl, by simp, fun _ => rfl, fun _ _ => rfl⟩

theorem id_lt (hc : Roster s taken c) {t : Consumer.Task} (ht : t ∈ c.tasks) : t.id < c.next := by
  obtain ⟨x, hx, -⟩ := hc.tasks t ht
  rw [hc.next]
  exact (List.getElem?_eq_some_iff.1 hx).1

theorem continues (hc : Roster s taken c) (h : c.Continues c') : Roster s taken c' where
  next := h.next.trans hc.next
  tasks t ht := by
    obtain ⟨u, hu, htu⟩ := h.tasks t ht
    obtain ⟨x, hx, hux⟩ := hc.tasks u hu
    have hid : t.id = u.id := by rw [htu]
    refine ⟨x, by rwa [hid], ?_⟩
    rw [hid, htu, hux]
    rfl
  handles hm := h.acks.next.trans (hc.handles hm)
  numbered k hk := h.acks.none k (hc.numbered k (by rwa [h.acks.next] at hk))

/-- A delivery that is taken gets the next task, and the next handle if it needs one. -/
theorem tasks_deliver (hc : Roster s taken c) (x : Taken) :
    (c.deliver x.channel s.ackMode x.fresh x.delivery : Consumer.Effect κ α).1.tasks =
      c.tasks ++ [x.task s taken.length .spawned] := by
  rw [Taken.task, Setup.handle, ← hc.next]
  cases hmode : s.ackMode with
  | auto => rfl
  | manual =>
    have hhandle : c.next = c.acks.next := hc.next.trans (hc.handles hmode).symm
    simp only [Consumer.deliver, hhandle]

theorem next_deliver (c : Consumer κ) (channel : ChannelId) (mode : AckMode) (fresh : String) (x : Delivery) :
    (c.deliver channel mode fresh x : Consumer.Effect κ α).1.next = c.next + 1 := by
  cases mode <;> rfl

theorem deliver (hc : Roster s taken c) (x : Taken) :
    Roster s (taken ++ [x]) (c.deliver x.channel s.ackMode x.fresh x.delivery : Consumer.Effect κ α).1 where
  next := by rw [next_deliver, hc.next, List.length_append, List.length_singleton]
  tasks t ht := by
    rw [hc.tasks_deliver] at ht
    rcases List.mem_append.1 ht with ht | ht
    · obtain ⟨y, hy, hty⟩ := hc.tasks t ht
      exact ⟨y, by rw [List.getElem?_append_left (hc.next ▸ hc.id_lt ht), hy], hty⟩
    · rw [List.mem_singleton.1 ht]
      exact ⟨x, List.getElem?_concat_length, rfl⟩
  handles hm := by
    simp only [Consumer.deliver, hm, Acks.register, hc.handles hm, List.length_append, List.length_singleton]
  numbered k hk := by
    cases hmode : s.ackMode with
    | auto =>
      rw [hmode] at hk
      exact hc.numbered k hk
    | manual =>
      rw [hmode] at hk
      have hk : c.acks.next + 1 ≤ k := hk
      have hold := hc.numbered k (Nat.le_of_succ_le hk)
      have hnew : (c.acks.next == k) = false := by simpa using Nat.ne_of_lt hk
      rw [Acks.find?] at hold
      simp [Consumer.deliver, Acks.register, Acks.find?, List.find?_append, hold, hnew]

/-- By hand, a delivery that is taken is outstanding at once, and its handle is to be settled. -/
theorem registered (hc : Roster s taken c) (hm : s.ackMode = .manual) (x : Taken) (c' : Consumer κ)
    (h : c' = (c.deliver x.channel s.ackMode x.fresh x.delivery : Consumer.Effect κ α).1) :
    c'.outstanding = c.outstanding + 1 ∧
      c'.acks.find? taken.length = some { id := taken.length, channel := x.channel, tag := x.delivery.tag } := by
  subst h
  have hold := hc.numbered c.acks.next (Nat.le_refl _)
  rw [Acks.find?] at hold
  rw [← hc.handles hm]
  simp [Consumer.deliver, hm, Consumer.outstanding, Acks.register, Acks.find?, List.find?_append, hold]

end Roster

/-- The tasks that were not there before. -/
def spawned (d d' : Dispatcher κ) : List Consumer.Task := d'.consumer.tasks.filter (d.consumer.next ≤ ·.id)

section Roster

variable [DecidableEq κ] {s : Setup α} {isOpen : ChannelId → Bool} {e : Event κ} {h : Past κ α} {d : Dispatcher κ}
  {taken : List Taken}

theorem Roster.step (hr : Roster s taken d.consumer) (hi : Inv h d) (he : e.Streamed) :
    Roster s (taken ++ (d.taken? e).toList) (d.step s isOpen e).1.consumer := by
  cases hx : d.taken? e with
  | none =>
    rw [Option.toList_none, List.append_nil]
    exact hr.continues (minds_step hi he hx).work
  | some x =>
    rw [(step_taken hx).1]
    exact hr.deliver x

/-- A step makes one task for the delivery that it takes, and no other. -/
theorem spawned_step (hr : Roster s taken d.consumer) (hi : Inv h d) (he : e.Streamed) :
    d.spawned (d.step s isOpen e).1 = (d.taken? e).toList.map fun x => x.task s taken.length .spawned := by
  cases hx : d.taken? e with
  | none =>
    refine List.filter_eq_nil_iff.2 fun t ht => ?_
    obtain ⟨u, hu, htu⟩ := (minds_step hi he hx).work.tasks t ht
    have hlt := hr.id_lt hu
    rw [htu]
    simpa using hlt
  | some x =>
    have hnone : d.consumer.tasks.filter (d.consumer.next ≤ ·.id) = [] := by
      refine List.filter_eq_nil_iff.2 fun t ht => ?_
      simpa using hr.id_lt ht
    rw [(step_taken hx).1, Dispatcher.spawned, hr.tasks_deliver, List.filter_append, hnone]
    simp [Taken.task, hr.next]

end Roster

/-! ## Runs -/

section Runs

variable [DecidableEq κ] (s : Setup α)

/-- What the moments of a run yield, one after the other. -/
def Chronicle.collect {β : Type} (f : Dispatcher κ → Moment κ → List β) (c : Chronicle κ α) : List (Moment κ) → List β
  | [] => []
  | m :: ms => f c.now m ++ (c.next s m).collect f ms

theorem collect_append {β : Type} (f : Dispatcher κ → Moment κ → List β) (c : Chronicle κ α) (a b : List (Moment κ)) :
    c.collect s f (a ++ b) = c.collect s f a ++ (c.run s a).collect s f b := by
  induction a generalizing c with
  | nil => rfl
  | cons m a ih =>
    rw [List.cons_append, Chronicle.collect, Chronicle.collect, ih, List.append_assoc, Chronicle.run_cons]

theorem collect_concat {β : Type} (f : Dispatcher κ → Moment κ → List β) (c : Chronicle κ α) (a : List (Moment κ))
    (m : Moment κ) : c.collect s f (a ++ [m]) = c.collect s f a ++ f (c.run s a).now m := by
  rw [collect_append, Chronicle.collect, Chronicle.collect, List.append_nil]

/-- The deliveries that loops take in a run, in order. -/
def Chronicle.takes (c : Chronicle κ α) : List (Moment κ) → List Taken :=
  c.collect s fun d m => (d.taken? m.event).toList

/-- The tasks that are made in a run, in order. -/
def Chronicle.spawns (c : Chronicle κ α) : List (Moment κ) → List Consumer.Task :=
  c.collect s fun d m => d.spawned (d.step s m.isOpen m.event).1

/-- No moment of a run cuts a loop off. -/
def Chronicle.Spares (c : Chronicle κ α) (id : LoopId) (ms : List (Moment κ)) : Prop :=
  ∀ a m b, ms = a ++ m :: b → ¬ (c.run s a).now.CutOff m.event id

variable {s}

theorem chronicle_concat (ms : List (Moment κ)) (m : Moment κ) :
    (chronicle s (ms ++ [m]) : Chronicle κ α) = (chronicle s ms).next s m := chronicle_append_cons ..

theorem takes_append (before after : List (Moment κ)) : ({} : Chronicle κ α).takes s (before ++ after) =
    ({} : Chronicle κ α).takes s before ++ (chronicle s before).takes s after := collect_append ..

theorem takes_concat (c : Chronicle κ α) (ms : List (Moment κ)) (m : Moment κ) :
    c.takes s (ms ++ [m]) = c.takes s ms ++ ((c.run s ms).now.taken? m.event).toList := collect_concat ..

theorem spawns_concat (c : Chronicle κ α) (ms : List (Moment κ)) (m : Moment κ) : c.spawns s (ms ++ [m]) =
    c.spawns s ms ++ (c.run s ms).now.spawned ((c.run s ms).now.step s m.isOpen m.event).1 := collect_concat ..

theorem roster_chronicle (ms : List (Moment κ)) (hs : Schedule ms) (hst : ∀ m ∈ ms, m.event.Streamed) :
    Roster s (({} : Chronicle κ α).takes s ms) (chronicle s ms : Chronicle κ α).now.consumer := by
  induction ms using List.reverseRecOn with
  | nil => exact .initial s
  | append_singleton ms m ih =>
    rw [chronicle_concat, takes_concat]
    exact (ih hs.left fun x hx => hst x (List.mem_append_left _ hx)).step (inv_chronicle s ms hs.left)
      (hst m (by simp))

/-- In every part of a run, one task is made for each delivery that is taken. -/
theorem spawns_eq (before after : List (Moment κ)) (hs : Schedule (before ++ after))
    (hst : ∀ m ∈ before ++ after, m.event.Streamed) :
    (chronicle s before : Chronicle κ α).spawns s after = ((chronicle s before : Chronicle κ α).takes s after).mapIdx
      fun i x => x.task s ((({} : Chronicle κ α).takes s before).length + i) .spawned := by
  induction after using List.reverseRecOn with
  | nil => rfl
  | append_singleton after m ih =>
    rw [← List.append_assoc] at hs hst
    have hst' : ∀ x ∈ before ++ after, x.event.Streamed := fun x hx => hst x (List.mem_append_left _ hx)
    have hr := roster_chronicle (s := s) (before ++ after) hs.left hst'
    have hstep : (chronicle s (before ++ after) : Chronicle κ α).now.spawned
        ((chronicle s (before ++ after) : Chronicle κ α).now.step s m.isOpen m.event).1 = _ :=
      spawned_step hr (inv_chronicle s _ hs.left) (hst m (by simp))
    rw [spawns_concat, ih hs.left hst', ← chronicle_append, hstep, takes_append, List.length_append, takes_concat,
      ← chronicle_append]
    cases (chronicle s (before ++ after) : Chronicle κ α).now.taken? m.event with
    | none => simp
    | some x =>
      rw [Option.toList_some, List.mapIdx_concat]
      rfl

/-- A loop that is not cut off goes on, and takes all the deliveries that its channel yields. -/
theorem takes_eq_streamed (before after : List (Moment κ)) (hs : Schedule (before ++ after))
    (hst : ∀ m ∈ before ++ after, m.event.Streamed) {l : Loop} (hl : (chronicle s before : Chronicle κ α).now.Taking l)
    (hspares : (chronicle s before : Chronicle κ α).Spares s l.id after) :
    (chronicle s (before ++ after) : Chronicle κ α).now.Taking l ∧
      (chronicle s before : Chronicle κ α).takes s after =
        (streamed l.id after).map fun x => ⟨l.id, l.channel, x.1, x.2⟩ := by
  induction after using List.reverseRecOn with
  | nil =>
    rw [List.append_nil]
    exact ⟨hl, rfl⟩
  | append_singleton after m ih =>
    rw [← List.append_assoc] at hs hst ⊢
    have hbefore : (chronicle s before : Chronicle κ α).Spares s l.id after := by
      rintro a x b rfl
      exact hspares a x (b ++ [m]) (by simp)
    obtain ⟨hl', htakes⟩ := ih hs.left (fun x hx => hst x (List.mem_append_left _ hx)) hbefore
    have hi := inv_chronicle (α := α) s _ hs.left
    have hcut : ¬ (chronicle s (before ++ after) : Chronicle κ α).now.CutOff m.event l.id := by
      rw [chronicle_append]
      exact hspares after m [] rfl
    have hm : m.event.Streamed := hst m (by simp)
    constructor
    · rw [chronicle_concat]
      exact taking_of_not_cutOff hi hm hl' hcut
    · have hnow : ((chronicle s (before ++ after) : Chronicle κ α).now.taken? m.event).toList =
          (streamed l.id [m]).map fun x => ⟨l.id, l.channel, x.1, x.2⟩ := by
        cases hx : (chronicle s (before ++ after) : Chronicle κ α).now.taken? m.event with
        | some x =>
          obtain ⟨l', -, htaking, he, hloop, hchannel⟩ := taken?_eq_some hx
          obtain rfl := hi.eq_of_loops hl'.1 htaking.1
          obtain ⟨_, _, fresh, x⟩ := x
          simp_all [streamed]
        | none =>
          have hnone : streamed l.id [m] = [] := by
            refine List.filterMap_eq_nil_iff.2 fun y hy => ?_
            rw [List.mem_singleton.1 hy]
            split
            · rename_i i fresh x he
              split
              · rename_i heq
                subst heq
                rw [he, taken?_of_taking hi hl'] at hx
                cases hx
              · rfl
            · rfl
          rw [hnone]
          rfl
      rw [takes_concat, ← chronicle_append, htakes, hnow, ← List.map_append, streamed, streamed, streamed,
        List.filterMap_append]

/-! ## How deliveries are acknowledged -/

theorem done_concat (ms : List (Moment κ)) (m : Moment κ) : (chronicle s (ms ++ [m]) : Chronicle κ α).past.done =
    (chronicle s ms : Chronicle κ α).past.done ++ ((chronicle s ms : Chronicle κ α).now.step s m.isOpen m.event).2 := by
  rw [chronicle_concat]
  rfl

/-- What was done was done by a step. -/
theorem exists_step_of_done (ms : List (Moment κ)) {x : Action κ α}
    (hx : x ∈ (chronicle s ms : Chronicle κ α).past.done) :
    ∃ a m b, ms = a ++ m :: b ∧ x ∈ ((chronicle s a : Chronicle κ α).now.step s m.isOpen m.event).2 := by
  induction ms using List.reverseRecOn with
  | nil => cases hx
  | append_singleton ms m ih =>
    rw [done_concat] at hx
    rcases List.mem_append.1 hx with hx | hx
    · obtain ⟨a, m', b, rfl, hstep⟩ := ih hx
      exact ⟨a, m', b ++ [m], by simp, hstep⟩
    · exact ⟨ms, m, [], rfl, hx⟩

/-- Every action of a run was minded when it was done. -/
theorem exists_minded (ms : List (Moment κ)) (hs : Schedule ms) (hst : ∀ m ∈ ms, m.event.Streamed) {x : Action κ α}
    (hx : x ∈ (chronicle s ms : Chronicle κ α).past.done) :
    ∃ a b, ms = a ++ b ∧ x.Minded (chronicle s a : Chronicle κ α).now.consumer := by
  obtain ⟨a, m, b, rfl, hm⟩ := exists_step_of_done ms hx
  exact ⟨a, m :: b, rfl, minded_step (inv_chronicle s a hs.left) (hst m (by simp)) x hm⟩

/-- A handler gets the handle for the delivery that its task is on. -/
theorem handed (ms : List (Moment κ)) (hs : Schedule ms) (hst : ∀ m ∈ ms, m.event.Streamed) {id : TaskId}
    {context : TraceContext} {m : Incoming α} {a : Acknowledger}
    (hx : .handle id context m a ∈ (chronicle s ms : Chronicle κ α).past.done) :
    ∃ x, (({} : Chronicle κ α).takes s ms)[id]? = some x ∧ a = s.handle id := by
  obtain ⟨before, after, rfl, t, ht, rfl, rfl⟩ := exists_minded ms hs hst hx
  have hr := roster_chronicle (s := s) before hs.left fun m hm => hst m (List.mem_append_left _ hm)
  obtain ⟨x, htaken, htx⟩ := hr.tasks t ht
  refine ⟨x, ?_, by rw [htx]; rfl⟩
  rw [takes_append, List.getElem?_append_left (List.getElem?_eq_some_iff.1 htaken).1, htaken]

omit [DecidableEq κ] in
theorem of_consume_mem_subscription {queue tag : String} {noAck : Bool}
    (h : .consume queue tag noAck ∈ s.subscription) : noAck = decide (s.ackMode = .auto) := by
  rcases List.mem_append.1 h with hcalls | hlast
  · cases Topology.installs_of_mem_calls hcalls
  · simp only [List.mem_cons, reduceCtorEq, List.not_mem_nil, or_false, false_or, ChannelCall.consume.injEq] at hlast
    exact hlast.2.2

/-- Whenever consuming is begun, the broker is told how deliveries are acknowledged. -/
theorem noAck_of_consume (ms : List (Moment κ)) (hs : Schedule ms) (hnew : NewChannels s ms)
    (hst : ∀ m ∈ ms, m.event.Streamed) {p : Party κ} {channel : ChannelId} {queue tag : String} {noAck : Bool}
    (hx : .call p channel (.consume queue tag noAck) ∈ (chronicle s ms : Chronicle κ α).past.done) :
    noAck = decide (s.ackMode = .auto) := by
  have hp : p.dispatches = true := by
    obtain ⟨_, _, _, hminded⟩ := exists_minded ms hs hst hx
    exact hminded.resolve_right (by simp [Consumer.settled?])
  have hown : .consume queue tag noAck ∈ ownCalls channel (chronicle s ms : Chronicle κ α).past.done :=
    List.mem_filterMap.2 ⟨_, hx, by simp [hp]⟩
  obtain ⟨begun, ended, closes, heq, hbegun, hended, hcloses⟩ := (orderly_chronicle ms hs hnew).inOrder channel
  rw [heq] at hown
  rcases List.mem_append.1 hown with hown | hown
  · rcases List.mem_append.1 hown with hown | hown
    · exact of_consume_mem_subscription (hbegun.subset hown)
    · rcases hended with rfl | ⟨-, rfl⟩ <;> simp at hown
  · cases hcloses _ hown

/-- The channel of a loop is consumed. -/
theorem consume_of_taking (ms : List (Moment κ)) (hs : Schedule ms) (hnew : NewChannels s ms) {l : Loop}
    (hl : (chronicle s ms : Chronicle κ α).now.Taking l) : .consume s.queue s.tag (s.ackMode = .auto) ∈
      ownCalls l.channel (chronicle s ms : Chronicle κ α).past.done := by
  induction ms using List.reverseRecOn with
  | nil => cases hl.1
  | append_singleton ms m ih =>
    rw [done_concat, ownCalls_append]
    refine List.mem_append_left _ ?_
    rw [chronicle_concat] at hl
    obtain ⟨d₁, hease, hacts⟩ := course s m.isOpen (inv_chronicle s ms hs.left) m.event
    rcases hacts.taking hl with hl | ⟨id, c, hc, -⟩
    · exact ih hs.left hnew.left ⟨hease.loops l hl.1, hl.2⟩
    · obtain ⟨begun, hbegun, hsub⟩ := (orderly_chronicle ms hs.left hnew.left).subscribing _ _ _ _ hc
      rw [hbegun, hsub]
      simp [Setup.subscription]

/-- The channel of every delivery that was taken is consumed. -/
theorem consume_of_takes (ms : List (Moment κ)) (hs : Schedule ms) (hnew : NewChannels s ms) {x : Taken}
    (hx : x ∈ ({} : Chronicle κ α).takes s ms) :
    ∃ p, .call p x.channel (.consume s.queue s.tag (s.ackMode = .auto)) ∈
      (chronicle s ms : Chronicle κ α).past.done := by
  induction ms using List.reverseRecOn with
  | nil => cases hx
  | append_singleton ms m ih =>
    rw [done_concat]
    rw [takes_concat] at hx
    rcases List.mem_append.1 hx with hx | hx
    · obtain ⟨p, hp⟩ := ih hs.left hnew.left hx
      exact ⟨p, List.mem_append_left _ hp⟩
    · obtain ⟨l, -, hl, -, -, hchannel⟩ := taken?_eq_some (Option.mem_toList.1 hx)
      obtain ⟨action, hdone, hcall⟩ := List.mem_filterMap.1 (consume_of_taking ms hs.left hnew.left hl)
      cases action with
      | call p channel call =>
        simp only [Option.ite_none_right_eq_some, Bool.and_eq_true, beq_iff_eq, Option.some.injEq] at hcall
        obtain ⟨⟨-, rfl⟩, rfl⟩ := hcall
        exact ⟨p, hchannel ▸ List.mem_append_left _ hdone⟩
      | log _ | create _ | timer _ _ | wake _ | handle _ _ _ _ | span _ | consumed _ _ | settled _ _ | finish _ _ =>
        cases hcall

/-- What a dispatcher does with the deliveries of a run. -/
structure Faithful (s : Setup α) (ms : List (Moment κ)) : Prop where
  /-- The tasks that are made are on the deliveries that loops take: one for each, in order. -/
  spawned : ({} : Chronicle κ α).spawns s ms =
    (({} : Chronicle κ α).takes s ms).mapIdx fun i x => x.task s i .spawned
  /-- As long as it is there, a task keeps its delivery and its handle. -/
  kept : ∀ t ∈ (chronicle s ms : Chronicle κ α).now.consumer.tasks,
    ∃ x, (({} : Chronicle κ α).takes s ms)[t.id]? = some x ∧ t = x.task s t.id t.phase
  /-- From any moment on, whatever becomes of the tasks, a loop that takes deliveries and is not cut off goes on, and
  the tasks that are made are on all the deliveries that its channel yields. -/
  streamed : ∀ before after l, ms = before ++ after → (chronicle s before : Chronicle κ α).now.Taking l →
    (chronicle s before : Chronicle κ α).Spares s l.id after → (chronicle s ms : Chronicle κ α).now.Taking l ∧
      ((chronicle s before : Chronicle κ α).spawns s after).map (fun t => (t.fresh, t.delivery)) =
        Dispatcher.streamed l.id after
  /-- An error is reported, and changes nothing. -/
  skipped : ∀ before m after l e, ms = before ++ m :: after → (chronicle s before : Chronicle κ α).now.Taking l →
    m.event = .item l.id (.failure e) → (chronicle s before : Chronicle κ α).now.step s m.isOpen m.event =
      ((chronicle s before : Chronicle κ α).now, [.log (itemFailure s e)])
  /-- By hand, a delivery is outstanding from the step on that takes it, and its handle is to be settled. -/
  registered : s.ackMode = .manual → ∀ before m after x, ms = before ++ m :: after → ∀ i,
    i = (({} : Chronicle κ α).takes s before).length →
    (chronicle s before : Chronicle κ α).now.taken? m.event = some x →
    (chronicle s (before ++ [m]) : Chronicle κ α).now.consumer.outstanding =
        (chronicle s before : Chronicle κ α).now.consumer.outstanding + 1 ∧
      (chronicle s (before ++ [m]) : Chronicle κ α).now.consumer.acks.find? i =
        some { id := i, channel := x.channel, tag := x.delivery.tag, clones := 1, pending := true }
  /-- A handler gets the handle for the delivery that its task is on. -/
  handed : ∀ i context m a, .handle i context m a ∈ (chronicle s ms : Chronicle κ α).past.done →
    ∃ x, (({} : Chronicle κ α).takes s ms)[i]? = some x ∧ a = s.handle i
  /-- The channel of a delivery is consumed, and the handle does nothing just when the broker was told so. -/
  mode : ∀ i x, (({} : Chronicle κ α).takes s ms)[i]? = some x →
    (∃ p noAck, .call p x.channel (.consume s.queue s.tag noAck) ∈ (chronicle s ms : Chronicle κ α).past.done) ∧
    ∀ p queue tag noAck, .call p x.channel (.consume queue tag noAck) ∈ (chronicle s ms : Chronicle κ α).past.done →
      (s.handle i = .auto ↔ noAck = true)
  /-- The direct reply-to queue is always consumed that way. -/
  reply : s.queue = directReplyTo → ∀ p channel queue tag noAck,
    .call p channel (.consume queue tag noAck) ∈ (chronicle s ms : Chronicle κ α).past.done → noAck = true

theorem handle_eq_auto_iff (s : Setup α) (i : TaskId) : s.handle i = .auto ↔ s.ackMode = .auto := by
  unfold Setup.handle
  cases s.ackMode <;> simp

/-- **Taking deliveries loses none and repeats none.** -/
theorem faithful (s : Setup α) (ms : List (Moment κ)) (hs : Schedule ms) (hnew : NewChannels s ms)
    (hst : ∀ m ∈ ms, m.event.Streamed) : Faithful s ms where
  spawned := by
    have hspawns : ({} : Chronicle κ α).spawns s ms = (({} : Chronicle κ α).takes s ms).mapIdx
        fun i x => x.task s (0 + i) .spawned := spawns_eq [] ms hs hst
    simpa only [Nat.zero_add] using hspawns
  kept := (roster_chronicle ms hs hst).tasks
  streamed before after l hms hl hspares := by
    subst hms
    obtain ⟨hlater, htakes⟩ := takes_eq_streamed before after hs hst hl hspares
    refine ⟨hlater, ?_⟩
    rw [spawns_eq before after hs hst, htakes]
    refine List.ext_getElem? fun i => ?_
    simp [Taken.task, Function.comp_def]
  skipped before m after l e hms hl he := by
    subst hms
    have hi := inv_chronicle (α := α) s before hs.left
    simp only [he, step, hi.loop?_of_taking hl, hl.2, if_true, take]
  registered hm before m after x hms i hi hx := by
    subst hms
    subst hi
    have hr := roster_chronicle (s := s) before hs.left fun y hy => hst y (List.mem_append_left _ hy)
    refine hr.registered hm x _ ?_
    rw [chronicle_concat, Chronicle.next, (step_taken hx).1]
  handed i context m a hx := handed ms hs hst hx
  mode i x hx := by
    obtain ⟨p, hp⟩ := consume_of_takes ms hs hnew (List.mem_of_getElem? hx)
    refine ⟨⟨p, _, hp⟩, fun p' queue tag noAck hcall => ?_⟩
    rw [noAck_of_consume ms hs hnew hst hcall, handle_eq_auto_iff, decide_eq_true_iff]
  reply hqueue p channel queue tag noAck hcall := by
    rw [noAck_of_consume ms hs hnew hst hcall]
    simp [Setup.ackMode, hqueue]

/-- A consumer that acknowledges by hand gets two jobs, with an error between them, while nobody works on the first. -/
def twoJobs : List (Moment Nat) := [
  ⟨fun _ => true, .call 0 .start⟩, ⟨fun _ => true, .created 0 (.ok 5)⟩, ⟨fun _ => true, .answered (.call 0) (.ok ())⟩,
  ⟨fun _ => true, .answered (.call 0) (.ok ())⟩,
  ⟨fun _ => true, .item 0 (.delivery "c-1" ⟨1, "", "jobs", false, {}, []⟩)⟩,
  ⟨fun _ => true, .item 0 (.failure (.channel "frame"))⟩,
  ⟨fun _ => true, .item 0 (.delivery "c-2" ⟨2, "", "jobs", true, {}, []⟩)⟩]

theorem faithful_twoJobs :
    Schedule twoJobs ∧ NewChannels manualJobs twoJobs ∧ (∀ m ∈ twoJobs, m.event.Streamed) ∧
      (({} : Chronicle Nat Bytes).spawns manualJobs twoJobs).map (·.delivery.tag) = [1, 2] ∧
      (chronicle manualJobs twoJobs : Chronicle Nat Bytes).now.consumer.acks.find? 1 =
        some { id := 1, channel := 5, tag := 2 } := by
  have hs : Schedule twoJobs := by decide
  have hnew : NewChannels manualJobs twoJobs := List.nodup_singleton 5
  have hst : ∀ m ∈ twoJobs, m.event.Streamed := by simp [twoJobs, Event.Streamed]
  have hf : Faithful manualJobs twoJobs := faithful manualJobs twoJobs hs hnew hst
  obtain ⟨-, hhandle⟩ := hf.registered rfl (twoJobs.take 6) _ [] ⟨0, 5, "c-2", _⟩ rfl 1 rfl rfl
  refine ⟨hs, hnew, hst, ?_, hhandle⟩
  rw [hf.spawned]
  rfl

end Runs

end BrokerClient.Dispatcher
