import BrokerClient.Proofs.Pool.Borrowing
import BrokerClient.Publisher

/-!
# What a publisher makes of its pool

A publisher steps by what its pool does, action by action. The pool of a publisher is the pool alone under the events
that reach it (`pool_run`), and a message that could not be encoded reaches no pool. A publisher returns just what its
pool tells an errand at the end (`results_actAll`), and what the pool tells others is nothing to an errand (`Untold`).
-/

namespace BrokerClient.Publisher

/-! ## Schedules -/

/-- What happens next, and which channels are open when it does. -/
structure Moment where
  isOpen : ChannelId → Bool
  event : Event

/-- One event after the other. -/
def run (p : Publisher) : List Moment → Effect
  | [] => (p, [])
  | m :: ms =>
    let first := p.step m.isOpen m.event
    let rest := run first.1 ms
    (rest.1, first.2 ++ rest.2)

/-- What reaches the pool. -/
def Event.pool? : Event → Option (Pool.Event ChannelId)
  | .publish id background (.ok _) => some (.borrow id (.errand background))
  | .publish _ _ (.error _) => none
  | .pool e => some e

/-- What reaches the pool is an event of its own, or a message that was encoded asks for a channel. -/
theorem Event.of_pool? {e : Event} {e' : Pool.Event ChannelId} (h : e.pool? = some e') :
    e = .pool e' ∨ ∃ id background x, e = .publish id background (.ok x) ∧ e' = .borrow id (.errand background) := by
  cases e with
  | pool e => exact .inl (congrArg Event.pool (Option.some.inj h))
  | publish id background message =>
    cases message with
    | error error => cases h
    | ok x => exact .inr ⟨id, background, x, rfl, (Option.some.inj h).symm⟩

/-- What does not reach the pool is a message that could not be encoded. -/
theorem Event.of_pool?_none {e : Event} (h : e.pool? = none) :
    ∃ id background error, e = .publish id background (.error error) := by
  cases e with
  | pool e => cases h
  | publish id background message =>
    cases message with
    | error error => exact ⟨id, background, error, rfl⟩
    | ok x => cases h

/-- The borrower that an event is about. -/
def Event.borrower? : Event → Option BorrowId
  | .publish id _ _ => some id
  | .pool e => e.borrower?

def Moment.pool? (m : Moment) : Option (Pool.Moment ChannelId) := m.event.pool?.map (⟨m.isOpen, ·⟩)

/-- The events that reach the pool. -/
def poolMoments (ms : List Moment) : List (Pool.Moment ChannelId) := ms.filterMap Moment.pool?

/-- The name under which a message or another borrower comes. -/
def Event.name? : Event → Option BorrowId
  | .publish id _ _ => some id
  | .pool e => e.newcomer?

theorem Event.borrower?_eq {e : Event} {e' : Pool.Event ChannelId} (h : e.pool? = some e') :
    e.borrower? = e'.borrower? := by
  obtain rfl | ⟨id, background, x, rfl, rfl⟩ := of_pool? h <;> rfl

theorem Event.name?_eq {e : Event} {e' : Pool.Event ChannelId} (h : e.pool? = some e') : e.name? = e'.newcomer? := by
  obtain rfl | ⟨id, background, x, rfl, rfl⟩ := of_pool? h <;> rfl

theorem Event.eq_pool {e : Event} {e' : Pool.Event ChannelId} (h : e.pool? = some e') (hnew : e'.newcomer? = none) :
    e = .pool e' := by
  obtain rfl | ⟨id, background, x, rfl, rfl⟩ := of_pool? h
  · rfl
  · cases hnew

/-- The names that come, in order. -/
def names (ms : List Moment) : List BorrowId := ms.filterMap (·.event.name?)

/-- A publisher whose pool lends nothing yet. -/
def ofCapacity (capacity : Nat) : Publisher := { pool := Pool.ofCapacity capacity }

/-- From the start every event that reaches the pool is admitted, and messages have names of their own. -/
def Schedule (capacity : Nat) (ms : List Moment) : Prop :=
  (Pool.ofCapacity capacity).Schedule (poolMoments ms) ∧ (names ms).Nodup

instance decidableSchedule (capacity : Nat) (ms : List Moment) : Decidable (Schedule capacity ms) :=
  inferInstanceAs (Decidable (_ ∧ _))

theorem poolMoments_append (ms ms' : List Moment) : poolMoments (ms ++ ms') = poolMoments ms ++ poolMoments ms' :=
  List.filterMap_append

theorem names_append (ms ms' : List Moment) : names (ms ++ ms') = names ms ++ names ms' := List.filterMap_append

theorem notMem_names_cons {id : BorrowId} {m : Moment} {ms : List Moment} :
    id ∉ names (m :: ms) ↔ m.event.name? ≠ some id ∧ id ∉ names ms := by
  cases hn : m.event.name? with
  | none => simp [names, hn]
  | some i => simp [names, hn, eq_comm]

/-! ## What is done for one message -/

/-- The call that is sent for a message, and its channel. -/
def Action.send? (id : BorrowId) : Action → Option (ChannelId × ChannelCall)
  | .send i c call => if i = id then some (c, call) else none
  | _ => none

/-- The calls that are sent for a message. -/
def sends (id : BorrowId) (actions : List Action) : List (ChannelId × ChannelCall) :=
  actions.filterMap (Action.send? id)

def Action.result? (id : BorrowId) : Action → Option Outcome
  | .finish i result => if i = id then some result else none
  | _ => none

/-- What publishing a message returns. -/
def results (id : BorrowId) (actions : List Action) : List Outcome := actions.filterMap (Action.result? id)

def Action.error? : Action → Option LogEntry
  | .log entry => if entry.level = .error then some entry else none
  | _ => none

/-- The errors that are logged. -/
def errors (actions : List Action) : List LogEntry := actions.filterMap Action.error?

@[simp] theorem sends_append (id : BorrowId) (as bs : List Action) : sends id (as ++ bs) = sends id as ++ sends id bs :=
  List.filterMap_append

@[simp] theorem results_append (id : BorrowId) (as bs : List Action) :
    results id (as ++ bs) = results id as ++ results id bs := List.filterMap_append

@[simp] theorem errors_append (as bs : List Action) : errors (as ++ bs) = errors as ++ errors bs :=
  List.filterMap_append

theorem mem_results {id : BorrowId} {result : Outcome} {actions : List Action} :
    result ∈ results id actions ↔ .finish id result ∈ actions := by
  refine List.mem_filterMap.trans ⟨?_, fun h => ⟨_, h, if_pos rfl⟩⟩
  rintro ⟨a, ha, hr⟩
  cases a with
  | finish i r =>
    simp only [Action.result?, Option.ite_none_right_eq_some, Option.some.injEq] at hr
    obtain ⟨rfl, rfl⟩ := hr
    exact ha
  | log | create | closeChannel | wake | send | closed => cases hr

/-! ## Actions of the pool -/

section

variable (p : Publisher) (id : BorrowId)

theorem act_pool (a : Pool.Action ChannelId) : (p.act a).1.pool = p.pool := by
  cases a with
  | work i c =>
    simp only [act]
    split <;> rfl
  | _ => rfl

theorem actAll_pool (as : List (Pool.Action ChannelId)) : (p.actAll as).1.pool = p.pool := by
  induction as generalizing p with
  | nil => rfl
  | cons a as ih => exact (ih (p.act a).1).trans (p.act_pool a)

theorem actAll_append (as bs : List (Pool.Action ChannelId)) :
    p.actAll (as ++ bs) = (((p.actAll as).1.actAll bs).1, (p.actAll as).2 ++ ((p.actAll as).1.actAll bs).2) := by
  induction as generalizing p with
  | nil => rfl
  | cons a as ih => simp [actAll, ih]

/-- The result an action ends the errand `id` with. -/
def verdict? : Pool.Action ChannelId → Option Outcome
  | .refuse i e => if i = id then some (.error e) else none
  | .finish i result => if i = id then some result else none
  | _ => none

/-- The results the errand `id` is ended with, in their order. -/
def verdicts (as : List (Pool.Action ChannelId)) : List Outcome := as.filterMap (verdict? id)

@[simp] theorem verdicts_append (as bs : List (Pool.Action ChannelId)) :
    verdicts id (as ++ bs) = verdicts id as ++ verdicts id bs := List.filterMap_append

variable {id} in
theorem verdicts_of_untold {as : List (Pool.Action ChannelId)} (h : ∀ a ∈ as, a.told? ≠ some id) :
    verdicts id as = [] := by
  refine List.filterMap_eq_nil_iff.2 ?_
  intro a ha
  cases a with
  | refuse i e => exact if_neg fun hi => h _ ha (congrArg some hi)
  | finish i result => exact if_neg fun hi => h _ ha (congrArg some hi)
  | _ => rfl

/-- Before somebody is told the end there may be a report. -/
theorem conclude_snd (i : BorrowId) (result : Outcome) :
    ∃ reports : List LogEntry, (p.conclude i result).2 = reports.map .log ++ [.finish i result] := by
  unfold conclude
  split
  · split
    · exact ⟨[], rfl⟩
    · exact ⟨[_], rfl⟩
  · exact ⟨[], rfl⟩

theorem results_conclude (i : BorrowId) (result : Outcome) :
    results id (p.conclude i result).2 = if i = id then [result] else [] := by
  obtain ⟨reports, h⟩ := p.conclude_snd i result
  have hreports : results id (reports.map .log) = [] := by simp [results, Action.result?]
  rw [h, results_append, hreports, List.nil_append]
  by_cases hi : i = id <;> simp [results, Action.result?, hi]

theorem sends_conclude (i : BorrowId) (result : Outcome) : sends id (p.conclude i result).2 = [] := by
  obtain ⟨reports, h⟩ := p.conclude_snd i result
  rw [h]
  simp [sends, Action.send?]

theorem results_act (a : Pool.Action ChannelId) : results id (p.act a).2 = (verdict? id a).toList := by
  cases a with
  | refuse i e =>
    refine (results_conclude p id i (.error e)).trans ?_
    by_cases hi : i = id <;> simp [verdict?, hi]
  | finish i result =>
    refine (results_conclude p id i result).trans ?_
    by_cases hi : i = id <;> simp [verdict?, hi]
  | work i c =>
    simp only [act]
    split <;> rfl
  | _ => rfl

theorem results_actAll (as : List (Pool.Action ChannelId)) : results id (p.actAll as).2 = verdicts id as := by
  induction as generalizing p with
  | nil => rfl
  | cons a as ih =>
    simp only [actAll, results_append, results_act, ih]
    cases hv : verdict? id a <;> simp [verdicts, hv]

end

/-- What actions that tell nobody anything come to. -/
def relay? : Pool.Action ChannelId → Option Action
  | .log entry => some (.log entry)
  | .create id => some (.create id)
  | .closeItem closer c => some (.closeChannel closer c)
  | .wake e => some (.wake (.pool e))
  | .closed call => some (.closed call)
  | .lend .. | .work .. | .refuse .. | .finish .. => none

section

variable {p : Publisher} {id : BorrowId} {as : List (Pool.Action ChannelId)}

theorem actAll_of_silent (h : Pool.Silent as) : p.actAll as = (p, as.filterMap relay?) := by
  induction as with
  | nil => rfl
  | cons a as ih =>
    obtain ⟨ha, has⟩ := List.forall_mem_cons.1 h
    cases a with
    | log | create | closeItem | wake | closed => simp [actAll, act, ih has, relay?]
    | lend | work | refuse | finish => cases ha

theorem errors_relay (as : List (Pool.Action ChannelId)) : errors (as.filterMap relay?) = Pool.errors as := by
  rw [errors, List.filterMap_filterMap, Pool.errors]
  refine List.filterMap_congr ?_
  intro a _
  cases a <;> rfl

theorem sends_relay (as : List (Pool.Action ChannelId)) : sends id (as.filterMap relay?) = [] := by
  rw [sends, List.filterMap_filterMap, List.filterMap_eq_nil_iff]
  intro a _
  cases a <;> rfl

theorem closeChannel_mem_relay {closer : Pool.Closer} {c : ChannelId} (h : .closeItem closer c ∈ as) :
    .closeChannel closer c ∈ as.filterMap relay? := List.mem_filterMap.2 ⟨_, h, rfl⟩

theorem find?_conclude (i : BorrowId) (result : Outcome) :
    (p.conclude i result).1.find? id = if id = i then none else p.find? id := Keyed.find?_others i id p.errands

/-- Nothing is done for a message, and it is where it was. -/
structure Untold (id : BorrowId) (p : Publisher) (r : Effect) : Prop where
  errand : r.1.find? id = p.find? id
  sends : sends id r.2 = []

theorem untold_act {a : Pool.Action ChannelId} (h : a.told? ≠ some id) : Untold id p (p.act a) := by
  have hother (i : BorrowId) (hi : i ≠ id) (result : Outcome) : Untold id p (p.conclude i result) :=
    ⟨by rw [find?_conclude, if_neg hi.symm], sends_conclude p id i result⟩
  have hne {i : BorrowId} (hi : some i ≠ some id) : i ≠ id := fun he => hi (congrArg some he)
  cases a with
  | work i c =>
    simp only [act]
    split
    · exact ⟨rfl, by simp [Publisher.sends, Action.send?, hne h]⟩
    · exact ⟨rfl, rfl⟩
  | refuse i e => exact hother i (hne h) _
  | finish i result => exact hother i (hne h) _
  | log | create | closeItem | wake | lend | closed => exact ⟨rfl, rfl⟩

theorem untold_actAll (h : ∀ a ∈ as, a.told? ≠ some id) : Untold id p (p.actAll as) := by
  induction as generalizing p with
  | nil => exact ⟨rfl, rfl⟩
  | cons a as ih =>
    obtain ⟨ha, has⟩ := List.forall_mem_cons.1 h
    have hfirst : Untold id p (p.act a) := untold_act ha
    have hrest : Untold id (p.act a).1 ((p.act a).1.actAll as) := ih has
    exact ⟨hrest.errand.trans hfirst.errand, by simp [actAll, hfirst.sends, hrest.sends]⟩

end

/-! ## Steps -/

section

variable {p : Publisher} {id : BorrowId}

/-- A message that was encoded is there. -/
def enter (p : Publisher) : Event → Publisher
  | .publish id background (.ok x) => { p with errands := p.errands ++ [⟨id, background, x⟩] }
  | .publish _ _ (.error _) | .pool _ => p

theorem pool_enter (e : Event) : (p.enter e).pool = p.pool := by
  unfold enter
  split <;> rfl

/-- The pool steps, and the publisher follows its actions. -/
theorem step_of_pool? {e : Event} {e' : Pool.Event ChannelId} (h : e.pool? = some e') (isOpen : ChannelId → Bool) :
    p.step isOpen e = { p.enter e with pool := (p.pool.step isOpen e').1 }.actAll (p.pool.step isOpen e').2 := by
  obtain rfl | ⟨i, background, x, rfl, rfl⟩ := Event.of_pool? h <;> rfl

/-- The failure to encode a message is returned at once. -/
theorem step_of_not_encoded {e : Event} (h : e.pool? = none) (isOpen : ChannelId → Bool) :
    ∃ i background error, e = .publish i background (.error error) ∧
      p.step isOpen e = (p, [.finish i (.error error)]) := by
  obtain ⟨i, background, error, rfl⟩ := Event.of_pool?_none h
  exact ⟨i, background, error, rfl, rfl⟩

theorem pool_step {e : Event} {e' : Pool.Event ChannelId} (h : e.pool? = some e') (isOpen : ChannelId → Bool) :
    (p.step isOpen e).1.pool = (p.pool.step isOpen e').1 := by
  rw [step_of_pool? h, actAll_pool]

theorem results_step {e : Event} {e' : Pool.Event ChannelId} (h : e.pool? = some e') (isOpen : ChannelId → Bool) :
    results id (p.step isOpen e).2 = verdicts id (p.pool.step isOpen e').2 := by
  rw [step_of_pool? h, results_actAll]

theorem find?_enter {e : Event} (h : e.name? ≠ some id) : (p.enter e).find? id = p.find? id := by
  unfold enter
  split
  · rename_i i background x
    have hne : i ≠ id := fun hi => h (congrArg some hi)
    simp only [find?]
    rw [List.find?_append, List.find?_cons_of_neg (by simpa using hne), List.find?_nil, Option.or_none]
  · rfl
  · rfl

/-- What the pool does about an event of its publisher. -/
def poolEffect (p : Publisher) (m : Moment) : Pool.Effect ChannelId :=
  match m.event.pool? with
  | some e => p.pool.step m.isOpen e
  | none => (p.pool, [])

theorem pool_step_eq (p : Publisher) (m : Moment) : (p.step m.isOpen m.event).1.pool = (p.poolEffect m).1 := by
  unfold poolEffect
  split
  · rename_i h
    exact pool_step h m.isOpen
  · rename_i h
    obtain ⟨_, _, _, -, hstep⟩ := step_of_not_encoded (p := p) h m.isOpen
    rw [hstep]

end

/-! ## Runs of the pool -/

section

variable {p : Publisher} {m : Moment} {ms : List Moment} {capacity : Nat}

theorem schedule_cons : p.pool.Schedule (poolMoments (m :: ms)) ↔
    (∀ e, m.event.pool? = some e → p.pool.Admits e) ∧
      (p.step m.isOpen m.event).1.pool.Schedule (poolMoments ms) := by
  rw [pool_step_eq]
  cases he : m.event.pool? <;> simp [poolMoments, Moment.pool?, poolEffect, he, Pool.Schedule]

theorem poolRun_cons : p.pool.run (poolMoments (m :: ms)) =
    (((p.step m.isOpen m.event).1.pool.run (poolMoments ms)).1,
      (p.poolEffect m).2 ++ ((p.step m.isOpen m.event).1.pool.run (poolMoments ms)).2) := by
  rw [pool_step_eq]
  cases he : m.event.pool? <;> simp [poolMoments, Moment.pool?, poolEffect, he, Pool.run]

/-- The pool of a publisher changes as the pool alone does. -/
theorem pool_run (p : Publisher) (ms : List Moment) : (p.run ms).1.pool = (p.pool.run (poolMoments ms)).1 := by
  induction ms generalizing p with
  | nil => rfl
  | cons m ms ih =>
    rw [poolRun_cons]
    exact ih _

/-- The pool of a publisher is accounted for after every event that is admitted. -/
theorem accounted_step (ha : Pool.Accounted capacity p.pool 0) (hm : ∀ e, m.event.pool? = some e → p.pool.Admits e) :
    Pool.Accounted capacity (p.step m.isOpen m.event).1.pool 0 := by
  rw [pool_step_eq, poolEffect]
  split
  · rename_i e he
    exact ha.step m.isOpen (hm e he)
  · exact ha

/-- A pool that was closed stays closed. -/
theorem isClosed_step (hids : (p.pool.borrows.map (·.id)).Nodup) (hc : p.pool.isClosed = true) :
    (p.step m.isOpen m.event).1.pool.isClosed = true := by
  rw [pool_step_eq, poolEffect]
  split
  · rename_i e he
    exact (Pool.ebbs_step m.isOpen hc hids e).isClosed
  · exact hc

/-- What is there where a schedule is cut. -/
theorem schedule_cut {course rest : List Moment} {last : Moment} (ha : Pool.Accounted capacity p.pool 0)
    (hs : p.pool.Schedule (poolMoments (course ++ last :: rest))) :
    p.pool.Schedule (poolMoments course) ∧ Pool.Accounted capacity (p.run course).1.pool 0 ∧
      (∀ e, last.event.pool? = some e → (p.run course).1.pool.Admits e) ∧
      (p.run course).1.pool.Schedule (poolMoments (last :: rest)) := by
  rw [poolMoments_append, Pool.schedule_append, ← pool_run] at hs
  refine ⟨hs.1, ?_, (schedule_cons.1 hs.2).1, hs.2⟩
  rw [pool_run]
  exact ha.run hs.1

end

end BrokerClient.Publisher
