import Mathlib.Data.List.Induction
import BrokerClient.Proofs.Dispatcher.Invariant

/-!
# The life of a dispatcher

The loop, the deliveries and the shutdown of the connection come between the calls; none of them ends a
start. With the calls this gives `sound_step` for every event, and by induction `inv_run` for every
schedule. `lifecycle` reads off what that means for starts and loops.
-/

namespace BrokerClient.Dispatcher

variable {κ α : Type}

/-! ## Between the calls -/

section Between

variable {h : Past κ α} {d : Dispatcher κ}

theorem Inv.withConsumer (hi : Inv h d) (consumer : Consumer κ) : Inv h { d with consumer } where
  books := hi.books
  unlocked := hi.unlocked
  holds id phase hc := by
    have hh := hi.holds id phase hc
    cases phase <;> exact hh

/-- Whoever stops the dispatcher, it is as if its run had ended. -/
theorem Unlocked.stop (hu : d.Unlocked) : ({ d with status := .stopped } : Dispatcher κ).Unlocked := by
  rcases hu with hv | ⟨run, hrun, ⟨-, hr⟩ | ⟨-, hl⟩⟩
  · exact .inl ⟨rfl, hv.2⟩
  · exact .inr ⟨run, hrun, .inl ⟨rfl, hr⟩⟩
  · exact .inr ⟨run, hrun, .inl ⟨rfl, .inr ⟨.taking, hl⟩⟩⟩

theorem Inv.stop (hi : Inv h d) : Inv h { d with status := .stopped } where
  books := hi.books
  unlocked hc := ⟨(hi.unlocked hc).1, (hi.unlocked hc).2.stop⟩
  holds id phase hc := by
    have hh := hi.holds id phase hc
    cases phase with
    | granted _ => exact ⟨hh.1.stop, hh.2⟩
    | opening | subscribing _ _ _ | draining _ _ | closing _ _ | cancelling _ => exact ⟨⟨rfl, hh.1.2⟩, hh.2⟩

/-- What a change of the loops must respect. -/
structure Respects (loops loops' : List Loop) : Prop where
  empty : loops = [] → loops' = []
  remains : ∀ run, Remains run loops → Remains run loops'

theorem respects_dropLoop (d : Dispatcher κ) (id : LoopId) : Respects d.loops (d.dropLoop id).loops where
  empty he := by rw [dropLoop, he]; rfl
  remains _ hr := hr.filter _

theorem respects_moveLoop (d : Dispatcher κ) (id : LoopId) (phase : LoopPhase) :
    Respects d.loops (d.moveLoop id phase).loops where
  empty he := by rw [moveLoop, he]; rfl
  remains _ hr := hr.moveLoop id phase

/-- The loop of a stopped dispatcher goes on or ends. -/
theorem Inv.withLoops (hi : Inv h d) (hs : d.status = .stopped) {loops : List Loop} (hr : Respects d.loops loops) :
    Inv h { d with loops } := by
  have hvacant (hv : d.Vacant) : ({ d with loops } : Dispatcher κ).Vacant := ⟨hv.1, hv.2.1, hr.empty hv.2.2⟩
  have hunlocked (hu : d.Unlocked) : ({ d with loops } : Dispatcher κ).Unlocked := by
    rcases hu with hv | ⟨run, hrun, ⟨-, hl⟩ | ⟨hst, -⟩⟩
    · exact .inl (hvacant hv)
    · exact .inr ⟨run, hrun, .inl ⟨hs, hr.remains run hl⟩⟩
    · rw [hs] at hst; cases hst
  refine ⟨hi.books, fun hc => ⟨(hi.unlocked hc).1, hunlocked (hi.unlocked hc).2⟩, fun id phase hc => ?_⟩
  have hh := hi.holds id phase hc
  cases phase with
  | granted _ => exact ⟨hunlocked hh.1, hh.2⟩
  | cancelling run => exact ⟨⟨hs, hh.1.2.1, hr.remains run hh.1.2.2⟩, hh.2⟩
  | opening | subscribing _ _ _ | draining _ _ | closing _ _ => exact ⟨hvacant hh.1, hh.2⟩

/-- A loop that no longer takes deliveries has stopped the dispatcher. -/
theorem Inv.stopped_of_loop (hi : Inv h d) {id : LoopId} {l : Loop} (hl : d.loop? id = some l)
    (hp : l.phase ≠ .taking) : d.status = .stopped := by
  have hm : l ∈ d.loops := List.mem_of_find?_eq_some hl
  have hunlocked (hu : d.Unlocked) : d.status = .stopped := by
    rcases hu with hv | ⟨run, -, ⟨hs, -⟩ | ⟨-, hloops⟩⟩
    · exact hv.1
    · exact hs
    · rw [hloops, List.mem_singleton] at hm
      rw [hm] at hp
      exact absurd rfl hp
  cases hc : d.current with
  | none => exact hunlocked (hi.unlocked hc).2
  | some x =>
    obtain ⟨i, phase⟩ := x
    have hh := hi.holds i phase hc
    cases phase with
    | granted r => exact hunlocked hh.1
    | cancelling run => exact hh.1.1
    | opening | subscribing _ _ _ | draining _ _ | closing _ _ => exact hh.1.1

theorem kept_closeLoop (isOpen : ChannelId → Bool) (hi : Inv h d) (hs : d.status = .stopped) (l : Loop) :
    Kept h (d.closeLoop isOpen l : Effect κ α) := by
  unfold closeLoop
  split
  · exact (hi.withLoops hs (respects_moveLoop d l.id .closing)).kept (by simp)
  · exact (hi.withLoops hs (respects_dropLoop d l.id)).kept (by simp)

variable (s : Setup α) (isOpen : ChannelId → Bool)

theorem kept_drained (hi : Inv h d) (p : Party κ) : Kept h (d.drained s isOpen p) := by
  have hsame : Kept h (d, []) := hi.kept (by simp)
  cases p with
  | call id =>
    simp only [drained]
    split
    · rename_i current channel next hc
      split
      · rename_i heq
        subst heq
        have hh := hi.holds _ _ hc
        exact kept_close s isOpen channel next (hi.booksOf hc) hh.1 hh.2.1 hh.2.2
      · exact hsame
    · exact hsame
  | loop id =>
    simp only [drained]
    split
    · rename_i l hl
      split
      · rename_i hp
        exact kept_closeLoop isOpen hi (hi.stopped_of_loop hl (by rw [hp]; decide)) l
      · exact hsame
    · exact hsame
  | task _ | application _ => exact hsame

theorem kept_act (hi : Inv h d) (a : Consumer.Action κ α) : Kept h (d.act s isOpen a) := by
  cases a with
  | drained p => exact kept_drained s isOpen hi p
  | log _ | call _ _ _ | wake _ | handle _ _ _ _ | span _ | consumed _ _ | settled _ _ => exact hi.kept (by simp)

theorem kept_actAll (actions : List (Consumer.Action κ α)) {h : Past κ α} {d : Dispatcher κ} (hi : Inv h d) :
    Kept h (d.actAll s isOpen actions) := by
  induction actions generalizing h d with
  | nil => exact hi.kept (by simp)
  | cons a rest ih =>
    have hfirst := kept_act s isOpen hi a
    exact hfirst.append (ih hfirst.inv)

variable [DecidableEq κ]

/-- The deliveries end. The loop stops a started dispatcher before it does anything else. -/
theorem kept_ended (hi : Inv h d) (l : Loop) : Kept h (d.ended s isOpen l) := by
  unfold ended
  split
  · rename_i hs
    exact (hi.withLoops hs (respects_dropLoop d l.id)).kept (by simp)
  · dsimp only
    split
    · exact (kept_closeLoop isOpen hi.stop rfl l).prepend (a := [.log (cancelledReport s)]) (by simp)
    · exact ((hi.stop.withLoops rfl (respects_moveLoop _ l.id .draining)).withConsumer _).kept (by simp)

theorem kept_consumerStep (hi : Inv h d) (e : Consumer.Event κ) : Kept h (d.consumerStep s isOpen e) :=
  kept_actAll s isOpen _ (hi.withConsumer _)

theorem kept_take (hi : Inv h d) (l : Loop) (x : Item) : Kept h (d.take s isOpen l x) := by
  cases x with
  | delivery fresh x => exact kept_consumerStep s isOpen hi (.deliver l.channel s.ackMode fresh x)
  | failure e => exact hi.kept (by simp)
  | ended => exact kept_ended s isOpen hi l

theorem kept_timeout (hi : Inv h d) (p : Party κ) : Kept h (d.timeout s isOpen p) := by
  unfold timeout
  split
  · exact (kept_drained s isOpen (hi.withConsumer _) p).prepend (a := [.log _]) (by simp)
  · exact hi.kept (by simp)

end Between

/-! ## Events -/

section Events

variable {h : Past κ α} {d : Dispatcher κ} (s : Setup α) (isOpen : ChannelId → Bool)

/-- An event that asks for nothing and gives nobody a channel is not noticed. -/
theorem notice_eq {e : Event κ} (hr : e.request? = none) (ho : d.opening? e = none) : h.notice d e = h := by
  simp only [Past.notice, hr, ho, Option.toList_none, List.append_nil]

theorem Kept.sound_of {r : Effect κ α} {e : Event κ} (hk : Kept h r) (hr : e.request? = none)
    (ho : d.opening? e = none) : Sound s isOpen (h.notice d e) d r := by
  rw [notice_eq hr ho]
  exact hk.sound

/-- Another channel for the call whose turn it is. -/
theorem Books.opened {id : RequestId} {r : Request} (hb : Books h [(id, r)] d.waiting) (channel : ChannelId) :
    Books { h with opened := h.opened ++ [(id, channel)] } [(id, r)] d.waiting where
  names := hb.names
  known x hx := by
    rcases List.mem_append.1 hx with hx | hx
    · exact hb.known x hx
    · rw [List.mem_singleton.1 hx]
      exact (hb.queue.map Prod.fst).subset (List.mem_cons_self ..)
  queue := hb.queue
  unserved x hx other hm := by
    -- no call waits under the name of the one whose turn it is
    have hqueue : (id :: d.waiting.map (·.1)).Nodup := hb.names.sublist (hb.queue.map Prod.fst)
    rcases List.mem_append.1 hm with hm | hm
    · exact hb.unserved x hx other hm
    · cases List.mem_singleton.1 hm
      exact (List.nodup_cons.1 hqueue).1 (List.mem_map_of_mem hx)

theorem Past.GotNothing.opened {id : RequestId} (hn : h.GotNothing id) (channel : ChannelId) :
    Past.GotOnly { h with opened := h.opened ++ [(id, channel)] } id channel := by
  intro other hm
  rcases List.mem_append.1 hm with hm | hm
  · exact absurd hm (hn other)
  · cases List.mem_singleton.1 hm
    rfl

variable [DecidableEq κ]

/-- A new call runs at once, or waits behind the others. -/
theorem sound_call (hi : Inv h d) {id : RequestId} (hnew : id ∉ h.requests.map (·.1)) (r : Request) :
    Sound s isOpen (h.notice d (.call id r)) d (d.call s isOpen id r) := by
  have hpast : h.notice d (.call id r) = { h with requests := h.requests ++ [(id, r)] } := by
    simp only [Past.notice, Event.request?, opening?, Option.toList_some, Option.toList_none, List.append_nil]
  have hnames : ((h.requests ++ [(id, r)]).map (·.1)).Nodup := by
    rw [List.map_append, List.map_singleton, List.nodup_append]
    refine ⟨hi.books.names, List.nodup_singleton _, fun a ha b hb => ?_⟩
    rw [List.mem_singleton.1 hb]
    rintro rfl
    exact hnew ha
  have hknown : ∀ x ∈ h.opened, x.1 ∈ (h.requests ++ [(id, r)]).map (·.1) := fun x hx => by
    rw [List.map_append]
    exact List.mem_append_left _ (hi.books.known x hx)
  have hnothing : h.GotNothing id := fun channel hm => hnew (hi.books.known _ hm)
  rw [hpast]
  unfold call
  split
  · rename_i hc
    obtain ⟨hw, hu⟩ := hi.unlocked hc
    refine sound_serve s isOpen r ⟨hnames, hknown, ?_, hi.books.unserved⟩ hu hnothing
    rw [hw]
    exact List.sublist_append_right _ _
  · rename_i hc
    refine (Inv.kept (a := []) ⟨⟨hnames, hknown, ?_, ?_⟩, ?_, ?_⟩ (by simp)).sound
    · show (d.holder ++ (d.waiting ++ [(id, r)])).Sublist _
      rw [← List.append_assoc]
      exact hi.books.queue.append (List.Sublist.refl _)
    · intro y hy
      rcases List.mem_append.1 hy with hy | hy
      · exact hi.books.unserved y hy
      · rw [List.mem_singleton.1 hy]
        exact hnothing
    · intro hn
      exact absurd (hc.symm.trans hn) (by simp)
    · intro i phase hp
      have hh := hi.holds i phase hp
      cases phase <;> exact hh

/-- A call that has a channel starts to consume on it. -/
theorem sound_created (hi : Inv h d) (id : RequestId) (result : Except Error ChannelId) :
    Sound s isOpen (h.notice d (.created id result)) d (d.step s isOpen (.created id result)) := by
  simp only [step]
  split
  · rename_i current hc
    by_cases heq : current = id
    · subst heq
      have hb := hi.booksOf hc
      obtain ⟨hv, hn⟩ := hi.holds _ _ hc
      simp only [if_true]
      cases result with
      | error e =>
        rw [notice_eq rfl rfl]
        exact sound_failed s isOpen hb hv e (fun channel hm => absurd hm (hn channel)) [] (by simp) d
      | ok channel =>
        have hpast : h.notice d (.created current (.ok channel)) =
            { h with opened := h.opened ++ [(current, channel)] } := by
          simp only [Past.notice, Event.request?, opening?, hc, if_true, Option.toList_some, Option.toList_none,
            List.append_nil]
        rw [hpast]
        exact sound_subscribe s isOpen channel (hb.opened channel) hv (hn.opened channel) _
    · have ho : d.opening? (.created id result) = none := by
        cases result with
        | error _ => rfl
        | ok _ => simp only [opening?, hc, if_neg heq]
      simp only [if_neg heq]
      exact (hi.kept (by simp)).sound_of s isOpen rfl ho
  · rename_i hc
    have ho : d.opening? (.created id result) = none := by
      cases result with
      | error _ => rfl
      | ok _ => simp only [opening?]
    exact (hi.kept (by simp)).sound_of s isOpen rfl ho

theorem sound_answered (hi : Inv h d) (p : Party κ) (result : Outcome) :
    Sound s isOpen h d (d.answered s isOpen result p) := by
  have hsame : Sound s isOpen h d (d, ([] : List (Action κ α))) := (hi.kept (by simp)).sound
  cases p with
  | call id =>
    simp only [answered]
    split
    · rename_i current phase hc
      split
      · rename_i heq
        subst heq
        exact sound_callAnswered s isOpen hi phase hc result
      · exact hsame
    · exact hsame
  | loop id =>
    simp only [answered]
    split
    · rename_i haw
      have hs : d.status = .stopped := by
        simp only [awaits, Option.any_eq_true_iff_get] at haw
        obtain ⟨hl, hp⟩ := haw
        refine hi.stopped_of_loop (Option.some_get hl).symm fun ht => ?_
        rw [ht] at hp
        cases hp
      refine (Inv.kept (hi.withLoops hs (respects_dropLoop d id)) ?_).sound
      cases result <;> simp [closeReport]
    · exact hsame
  | task _ | application _ => exact (kept_consumerStep s isOpen hi (.answered _ result)).sound

/-- **Every step keeps the invariant** and has a verdict about every start that it ends. -/
theorem sound_step (hi : Inv h d) (e : Event κ) (hnew : ∀ x, e.request? = some x → x.1 ∉ h.requests.map (·.1)) :
    Sound s isOpen (h.notice d e) d (d.step s isOpen e) := by
  have hsame : Kept h (d, ([] : List (Action κ α))) := hi.kept (by simp)
  cases e with
  | call id r => exact sound_call s isOpen hi (hnew _ rfl) r
  | created id result => exact sound_created s isOpen hi id result
  | turn id =>
    rw [notice_eq rfl rfl]
    simp only [step]
    split
    · rename_i current r hc
      split
      · rename_i heq
        subst heq
        have hh := hi.holds _ _ hc
        exact sound_serve s isOpen r (hi.booksOf hc) hh.1 hh.2
      · exact hsame.sound
    · exact hsame.sound
  | item id x =>
    refine Kept.sound_of s isOpen ?_ rfl rfl
    simp only [step]
    split
    · split
      · exact kept_take s isOpen hi _ x
      · exact hsame
    · exact hsame
  | answered p result =>
    rw [notice_eq rfl rfl]
    exact sound_answered s isOpen hi p result
  | timeout p => exact (kept_timeout s isOpen hi p).sound_of s isOpen rfl rfl
  | shutdown =>
    refine Kept.sound_of s isOpen (hi.stop.kept fun id result => ?_) rfl rfl
    split <;> simp
  | consumer e => exact (kept_consumerStep s isOpen hi e).sound_of s isOpen rfl rfl

end Events

/-! ## Schedules -/

section Schedules

variable [DecidableEq κ] (s : Setup α)

/-- Every step of a schedule keeps the invariant, and has a verdict about the starts that it ends. -/
theorem sound_next {ms : List (Moment κ)} {m : Moment κ} (hs : Schedule (ms ++ [m])) {c : Chronicle κ α}
    (hc : c = chronicle s ms) (hi : Inv c.past c.now) :
    Sound s m.isOpen (c.past.notice c.now m.event) c.now (c.now.step s m.isOpen m.event) := by
  refine sound_step s m.isOpen hi m.event fun x hx hm => ?_
  rw [hc, requests_chronicle] at hm
  simp only [Schedule, requests, List.filterMap_append, List.map_append] at hs
  refine (List.nodup_append.1 hs).2.2 x.1 hm x.1 ?_ rfl
  simp [hx]

theorem inv_chronicle (ms : List (Moment κ)) (hs : Schedule ms) :
    Inv (chronicle s ms : Chronicle κ α).past (chronicle s ms : Chronicle κ α).now := by
  induction ms using List.reverseRecOn with
  | nil => exact inv_initial
  | append_singleton ms m ih =>
    rw [chronicle_append_cons]
    exact (sound_next s hs rfl (ih hs.left)).inv

/-- A dispatcher whose status differs between two points of a run had it changed by a step in between. -/
theorem exists_change {old new : Status} (hne : old ≠ new) (c : Chronicle κ α) (ms : List (Moment κ))
    (hc : c.now.status = old) (he : (c.run s ms).now.status = new) :
    ∃ a m b, ms = a ++ m :: b ∧ (c.run s a).now.status = old ∧ (c.run s (a ++ [m])).now.status = new := by
  induction ms generalizing c with
  | nil => exact absurd (hc.symm.trans he) hne
  | cons m ms ih =>
    by_cases hm : (c.next s m).now.status = old
    · obtain ⟨a, m', b, rfl, ha, hb⟩ := ih (c.next s m) hm he
      exact ⟨m :: a, m', b, rfl, ha, hb⟩
    · refine ⟨[], m, ms, rfl, hc, ?_⟩
      show (c.next s m).now.status = new
      revert hne hm
      cases old <;> cases new <;> cases (c.next s m).now.status <;> simp

/-- A dispatcher that is started at one point of a run and stopped at a later one was stopped by a step in
between. -/
theorem exists_stop (c : Chronicle κ α) (ms : List (Moment κ)) (hc : c.now.status = .started)
    (he : (c.run s ms).now.status = .stopped) :
    ∃ a m b, ms = a ++ m :: b ∧ (c.run s a).now.status = .started ∧ (c.run s (a ++ [m])).now.status = .stopped :=
  exists_change s (by decide) c ms hc he

/-- **The life of a dispatcher.** After every schedule: if no call is in between, a started dispatcher has the
loop of its run, which takes deliveries; there is never more than one loop; between two starts that succeed
the dispatcher is stopped; and a start that fails, other than for finding it started, leaves it stopped with
nothing running, and every channel that it got and that is still open was asked to close. -/
theorem lifecycle (ms : List (Moment κ)) (hs : Schedule ms) (c : Chronicle κ α) (hc : c = chronicle s ms) :
    ((c.now.current = none ∨ ∃ id r, c.now.current = some (id, .granted r)) → c.now.status = .started →
      ∃ run, c.now.running = some run ∧ c.now.loops = [⟨run.loop, run.channel, .taking⟩]) ∧
    c.now.loops.length ≤ 1 ∧
    (∀ before m₁ between m₂ after id₁ id₂, ms = before ++ m₁ :: (between ++ m₂ :: after) →
      (chronicle s before : Chronicle κ α).Ends s m₁ id₁ (.ok ()) →
      (chronicle s (before ++ m₁ :: between) : Chronicle κ α).Ends s m₂ id₂ (.ok ()) →
      ∃ a m b, between = a ++ m :: b ∧
        (chronicle s (before ++ m₁ :: a) : Chronicle κ α).now.status = .started ∧
        (chronicle s (before ++ m₁ :: (a ++ [m])) : Chronicle κ α).now.status = .stopped) ∧
    (∀ before m after id e, ms = before ++ m :: after → ∀ c₀ : Chronicle κ α, c₀ = chronicle s before →
      c₀.Ends s m id (.error e) → e ≠ .consumerState s.queue "started" →
      (c₀.next s m).now.status = .stopped ∧ (c₀.next s m).now.running = none ∧
        ∀ channel, (id, channel) ∈ (c₀.next s m).past.opened → m.isOpen channel = true →
          .call (.call id) channel .close ∈ (c₀.next s m).past.done) := by
  have hverdict (before : List (Moment κ)) (m : Moment κ) (after : List (Moment κ)) (id : RequestId)
      (result : Outcome) (hms : ms = before ++ m :: after) (c₀ : Chronicle κ α) (hc₀ : c₀ = chronicle s before)
      (he : c₀.Ends s m id result) :
      Verdict s m.isOpen (c₀.next s m).past c₀.now (c₀.next s m).now id result := by
    have hs' : Schedule (before ++ [m]) := by
      rw [hms, List.append_cons] at hs
      exact hs.left
    have hi : Inv c₀.past c₀.now := hc₀ ▸ inv_chronicle s before hs'.left
    exact (sound_next s hs' hc₀ hi).verdict id result he.2 he.1
  have hi : Inv c.past c.now := hc ▸ inv_chronicle s ms hs
  refine ⟨?_, hi.loops_length_le, ?_, ?_⟩
  · intro hfree hst
    have hu : c.now.Unlocked := by
      rcases hfree with hc | ⟨id, r, hc⟩
      · exact (hi.unlocked hc).2
      · exact (hi.holds id _ hc).1
    rcases hu with hv | ⟨run, hrun, ⟨hstop, -⟩ | ⟨-, hl⟩⟩
    · rw [hv.1] at hst; cases hst
    · rw [hstop] at hst; cases hst
    · exact ⟨run, hrun, hl⟩
  · intro before m₁ between m₂ after id₁ id₂ hms h₁ h₂
    have hfirst := hverdict before m₁ (between ++ m₂ :: after) id₁ _ hms _ rfl h₁
    have hsecond := hverdict (before ++ m₁ :: between) m₂ after id₂ _ (by simp [hms]) _ rfl h₂
    obtain ⟨a, m, b, hb, ha, hm⟩ :=
      exists_stop s _ between hfirst.2 (chronicle_append_cons s before m₁ between ▸ hsecond.1)
    refine ⟨a, m, b, hb, ?_, ?_⟩
    · rw [chronicle_append_cons]; exact ha
    · rw [chronicle_append_cons]; exact hm
  · intro before m after id e hms c₀ hc₀ he hne
    exact (hverdict before m after id _ hms c₀ hc₀ he).resolve_left hne

end Schedules

/-- A consumer of jobs that decodes nothing. -/
def jobs : Setup Bytes := { queue := "jobs", tag := "jobs-1", negotiator := { payload := "job" } }

/-- A start whose first call to the broker is refused. -/
def refusedStart : List (Moment Nat) := [
  ⟨fun _ => true, .call 0 .start⟩, ⟨fun _ => true, .created 0 (.ok 5)⟩,
  ⟨fun _ => true, .answered (.call 0) (.error (.qos "refused"))⟩, ⟨fun _ => true, .answered (.call 0) (.ok ())⟩]

theorem lifecycle_refusedStart :
    Schedule refusedStart ∧
      (chronicle jobs refusedStart : Chronicle Nat Bytes).now.running = none ∧
      .call (.call 0) 5 .close ∈ (chronicle jobs refusedStart : Chronicle Nat Bytes).past.done := by
  have hs : Schedule refusedStart := by decide
  have hends : (chronicle jobs (refusedStart.take 3) : Chronicle Nat Bytes).Ends jobs
      ⟨fun _ => true, .answered (.call 0) (.ok ())⟩ 0 (.error (.qos "refused")) :=
    ⟨.head _, .head _⟩
  obtain ⟨-, -, -, h⟩ := lifecycle (α := Bytes) jobs refusedStart hs _ rfl
  obtain ⟨-, hr, hc⟩ := h (refusedStart.take 3) _ [] 0 (.qos "refused") rfl _ rfl hends (by simp)
  exact ⟨hs, hr, hc 5 (.head _) rfl⟩

end BrokerClient.Dispatcher
