import BrokerClient.Connection.Manager
import Mathlib.Data.List.Basic

/-!
# How long an acquisition takes

A manager that acquires a connection, with a connector that answers each attempt after some time or never, and with
timers that fire on time. Nothing else happens meanwhile: what the manager does leads to what is due next, so that the
acquisition has a `Timeline`. It is `Trying` or `Pausing` until it is `Finished`; every step leads from one to the
next, with the attempts counted and the time bounded, and there are only so many attempts. `acquired` says how it ends.
-/

namespace BrokerClient.Manager

/-! ## Connectors -/

/-- What a connector does with an attempt: it answers after so long, or never. -/
inductive Reply where
  | answers (after : Nat) (result : Except Error ConnectionId)
  | hangs

/-- How long an attempt takes that may take so long, and how it ends. -/
def Reply.within : Reply → Nat → Nat × Attempt
  | .answers after (.ok c), budget => if after ≤ budget then (after, .connected c) else (budget, .timedOut)
  | .answers after (.error e), budget => if after ≤ budget then (after, .failed e) else (budget, .timedOut)
  | .hangs, budget => (budget, .timedOut)

/-- The connection that an attempt makes in its time. -/
def Reply.connection? : Reply → Nat → Option ConnectionId
  | .answers after (.ok c), budget => if after ≤ budget then some c else none
  | _, _ => none

theorem Reply.within_le (r : Reply) (budget : Nat) : (r.within budget).1 ≤ budget := by
  unfold within
  split
  · split <;> simp_all
  · split <;> simp_all
  · exact Nat.le_refl _

theorem Reply.connected_iff {r : Reply} {budget : Nat} {c : ConnectionId} :
    (r.within budget).2 = .connected c ↔ r.connection? budget = some c := by
  unfold within connection?
  cases r with
  | hangs => simp
  | answers after result => cases result <;> by_cases h : after ≤ budget <;> simp [h]

/-! ## Timelines -/

/-- A manager and the clock, what happens next and when, and what was done and when. -/
structure Timeline where
  manager : Manager
  now : Nat
  due : Option (Nat × Event) := none
  done : List (Nat × Action) := []

/-- What an action leads to by itself, and when. -/
def Action.upcoming (connector : Nat → Reply) (now : Nat) : Action → Option (Nat × Event)
  | .connect call number budget =>
    let (ms, result) := (connector number).within budget
    some (now + ms, .ended call number result)
  | .pause call number ms => some (now + ms, .resume call number)
  | .log _ | .wake _ | .finish .. => none

/-- An attempt: when it began, its number, and how long it might take. -/
structure Try where
  time : Nat
  number : Nat
  budget : Nat

/-- The attempt that an action starts for a caller. -/
def Action.tried? (call : CallId) (now : Nat) : Action → Option Try
  | .connect c number budget => if c = call then some ⟨now, number, budget⟩ else none
  | _ => none

/-- What an action tells a caller. -/
def Action.result? (call : CallId) : Action → Option (Except Error ConnectionId)
  | .finish c result => if c = call then some result else none
  | _ => none

namespace Timeline

/-- What was done is noted, and what it leads to is due. -/
def record (connector : Nat → Reply) (x : Timeline) (now : Nat) (r : Effect) : Timeline :=
  ⟨r.1, now, r.2.findSome? (·.upcoming connector now), x.done ++ r.2.map (now, ·)⟩

/-- A caller begins to acquire a connection. -/
def acquire (connector : Nat → Reply) (m : Manager) (now : Nat) (call : CallId) (shared : Bool) : Timeline :=
  record connector ⟨m, now, none, []⟩ now (m.begin now call shared)

/-- What is due happens, if anything is. -/
def next (connector : Nat → Reply) (isOpen : ConnectionId → Bool) (x : Timeline) : Timeline :=
  match x.due with
  | none => x
  | some (time, e) => x.record connector time (x.manager.step isOpen time e)

def after (connector : Nat → Reply) (isOpen : ConnectionId → Bool) : Nat → Timeline → Timeline
  | 0, x => x
  | steps + 1, x => after connector isOpen steps (x.next connector isOpen)

/-- The attempts made for a caller. -/
def tries (x : Timeline) (call : CallId) : List Try := x.done.filterMap fun (time, a) => a.tried? call time

/-- What a caller was told, and when. -/
def results (x : Timeline) (call : CallId) : List (Nat × Except Error ConnectionId) :=
  x.done.filterMap fun (time, a) => (a.result? call).map (time, ·)

end Timeline

/-! ## What the manager does -/

section

variable (m : Manager) (a : Acquisition)

theorem find?_replace (l : List Acquisition) (h : l.any (·.call == a.call)) :
    (l.map fun b => if b.call = a.call then a else b).find? (·.call == a.call) = some a := by
  induction l with
  | nil => simp at h
  | cons b l ih =>
    by_cases same : b.call = a.call
    · simp [same]
    · simpa [same] using ih (by simpa [same] using h)

theorem generation_keep : (m.keep a).generation = m.generation := by
  unfold keep
  split <;> rfl

theorem find?_keep : (m.keep a).find? a.call = some a := by
  unfold keep find?
  split
  next h => exact find?_replace a _ h
  next h =>
    have none : m.acquisitions.find? (·.call == a.call) = none := by simpa using h
    simp [List.find?_append, none]

/-- An acquisition that ends is gone, and its caller is told last; before that somebody may be woken. -/
theorem conclude_cases (result : Except Error ConnectionId) :
    ∃ (m' : Manager) (woken : List Event), m'.find? a.call = none ∧
      m.conclude a result = (m', woken.map Action.wake ++ [.finish a.call result]) := by
  have gone : (m.drop a.call).acquisitions.find? (·.call == a.call) = none := by simp [drop]
  unfold conclude release
  cases a.shared with
  | false => exact ⟨m.drop a.call, [], gone, rfl⟩
  | true =>
    rcases waiting : (m.drop a.call).waiting with _ | ⟨next, rest⟩
    · cases result <;> simp only [waiting, ite_true] <;> exact ⟨_, [], by exact gone, rfl⟩
    · cases result <;> simp only [waiting, ite_true] <;> exact ⟨_, [.turn next], by exact gone, rfl⟩

end

namespace Timeline

variable {connector : Nat → Reply} {x : Timeline} {now : Nat} {m : Manager} {a : Acquisition} {r : Retry}
  {logs : List LogEntry}

theorem upcoming_logs (actions : List Action) : (logs.map Action.log ++ actions).findSome? (·.upcoming connector now)
    = actions.findSome? (·.upcoming connector now) := by
  induction logs with
  | nil => rfl
  | cons _ _ ih => simpa [List.findSome?, Action.upcoming] using ih

theorem tries_record (effect : Effect) (call : CallId) :
    (x.record connector now effect).tries call = x.tries call ++ effect.2.filterMap (·.tried? call now) := by
  simp [tries, record, List.filterMap_map]

theorem results_record (effect : Effect) (call : CallId) : (x.record connector now effect).results call =
    x.results call ++ effect.2.filterMap fun b => (b.result? call).map (now, ·) := by
  simp [results, record, List.filterMap_map]

theorem record_connect (budget : Nat) (y : Timeline)
    (hy : y = x.record connector now (m.proceed a (r, logs, .connect budget))) :
    y.manager.find? a.call = some { a with retry := r, pausing := false } ∧ y.now = now ∧
      y.due = some (now + ((connector r.attempts).within budget).1,
        .ended a.call r.attempts ((connector r.attempts).within budget).2) ∧
      y.tries a.call = x.tries a.call ++ [⟨now, r.attempts, budget⟩] ∧ y.results a.call = x.results a.call ∧
      y.manager.generation = m.generation := by
  subst hy
  refine ⟨find?_keep m { a with retry := r, pausing := false }, rfl, upcoming_logs _, ?_, ?_, generation_keep m _⟩
  · simp [tries_record, proceed, List.filterMap_map, Action.tried?]
  · simp [results_record, proceed, List.filterMap_map, Action.result?]

theorem record_pause (ms : Nat) (y : Timeline)
    (hy : y = x.record connector now (m.proceed a (r, logs, .pause ms))) :
    y.manager.find? a.call = some { a with retry := r, pausing := true } ∧ y.now = now ∧
      y.due = some (now + ms, .resume a.call r.attempts) ∧
      y.tries a.call = x.tries a.call ∧ y.results a.call = x.results a.call ∧
      y.manager.generation = m.generation := by
  subst hy
  refine ⟨find?_keep m { a with retry := r, pausing := true }, rfl, upcoming_logs _, ?_, ?_, generation_keep m _⟩
  · simp [tries_record, proceed, List.filterMap_map, Action.tried?]
  · simp [results_record, proceed, List.filterMap_map, Action.result?]

theorem record_finish (result : Except Error ConnectionId) (y : Timeline)
    (hy : y = x.record connector now (m.proceed a (r, logs, .finish result))) :
    y.manager.find? a.call = none ∧ y.now = now ∧ y.due = none ∧
      y.tries a.call = x.tries a.call ∧ y.results a.call = x.results a.call ++ [(now, result)] := by
  obtain ⟨m', woken, gone, eq⟩ := conclude_cases m a result
  subst hy
  have eq : m.proceed a (r, logs, .finish result) =
      (m', logs.map Action.log ++ (woken.map Action.wake ++ [.finish a.call result])) := by simp [proceed, eq]
  rw [eq]
  refine ⟨gone, rfl, ?_, ?_, ?_⟩
  · simp [record, List.findSome?_append, List.findSome?_map, Action.upcoming]
  · simp [tries_record, List.filterMap_map, Action.tried?]
  · simp [results_record, List.filterMap_map, Action.result?]

end Timeline

theorem resumed_eq {m : Manager} {a : Acquisition} (f : Acquisition → Retry.Progress) (found : m.find? a.call = some a)
    (undisturbed : a.seen = m.generation) :
    m.resumed a.call a.retry.attempts a.pausing f = m.proceed a (f a) := by
  simp [resumed, found, interrupted, undisturbed]

theorem attempt_cases (r : Retry) (now : Nat) :
    (r.remaining now = 0 ∧ r.attempt now =
      (r, [r.budgetExhausted], .finish (.error (.deadlineExceeded r.attempts (now - r.started))))) ∨
    r.attempt now = ({ r with attempts := r.attempts + 1 }, [], .connect (r.remaining now)) := by
  unfold Retry.attempt
  by_cases h : 0 < r.attempts ∧ r.remaining now = 0
  · simp [h]
  · right
    simp only [h, if_false]

theorem ended_cases (r : Retry) (now : Nat) (outcome : Attempt) :
    (∃ c, outcome = .connected c ∧ r.ended now outcome = (r, [r.report outcome], .finish (.ok c))) ∨
    (∀ c, outcome ≠ .connected c) ∧
      ((r.policy.maxAttempts ≤ r.attempts ∧ r.ended now outcome =
          (r, [r.report outcome, r.attemptsExhausted], .finish (.error (.attemptsExhausted r.attempts)))) ∨
        r.attempts < r.policy.maxAttempts ∧ ∃ delay ms, ms ≤ r.remaining now ∧
          r.ended now outcome = ({ r with delay }, [r.report outcome], .pause ms)) := by
  by_cases h : r.policy.maxAttempts ≤ r.attempts
  · cases outcome <;> simp [Retry.ended, Retry.afterFailure, h]
  · have le := Nat.min_le_right r.delay (r.remaining now)
    cases outcome <;> simp [Retry.ended, Retry.afterFailure, h, Nat.not_le.mp h, le]

/-! ## The course of an acquisition -/

/-- The connection that an attempt makes in its time. -/
def Try.connection? (connector : Nat → Reply) (t : Try) : Option ConnectionId :=
  (connector t.number).connection? t.budget

section

variable (connector : Nat → Reply) (policy : RetryPolicy) (started : Nat) (call : CallId)

/-- What holds all along: the attempts are numbered and not too many, each got what was left, and the time is not
over. -/
structure History (x : Timeline) : Prop where
  attempted : 0 < (x.tries call).length
  capped : (x.tries call).length ≤ max 1 policy.maxAttempts
  numbers : (x.tries call).map (·.number) = List.range' 1 (x.tries call).length
  budgets : ∀ t ∈ x.tries call, started ≤ t.time ∧ t.budget = started + policy.maxWait - t.time
  past : started ≤ x.now
  soon : x.now ≤ started + policy.maxWait

/-- The acquisition goes on, and its caller was not told anything. -/
structure Ongoing (x : Timeline) (a : Acquisition) : Prop extends History policy started call x where
  found : x.manager.find? call = some a
  mine : a.call = call
  governed : a.retry.policy = policy
  since : a.retry.started = started
  undisturbed : a.seen = x.manager.generation
  counted : a.retry.attempts = (x.tries call).length
  silent : x.results call = []

/-- The last attempt is in progress, and none before it made a connection. -/
structure Trying (x : Timeline) (a : Acquisition) : Prop extends Ongoing policy started call x a where
  trying : a.pausing = false
  last : ∃ earlier t, x.tries call = earlier ++ [t] ∧ (∀ s ∈ earlier, s.connection? connector = none) ∧
    x.due = some (x.now + ((connector t.number).within t.budget).1,
      .ended call a.retry.attempts ((connector t.number).within t.budget).2) ∧
    x.now + t.budget = started + policy.maxWait

/-- No attempt made a connection, and there may be another. -/
structure Pausing (x : Timeline) (a : Acquisition) : Prop extends Ongoing policy started call x a where
  pausing : a.pausing = true
  vain : ∀ t ∈ x.tries call, t.connection? connector = none
  more : a.retry.attempts < policy.maxAttempts
  resumes : ∃ ms, x.due = some (x.now + ms, .resume call a.retry.attempts) ∧ x.now + ms ≤ started + policy.maxWait

/-- What a caller is told: the connection that the last attempt made, the first to make one, or that no attempt made
one, and that the time is up or there were enough of them. -/
def Fair (tries : List Try) (elapsed : Nat) : Except Error ConnectionId → Prop
  | .ok c => ∃ earlier t, tries = earlier ++ [t] ∧ (∀ s ∈ earlier, s.connection? connector = none) ∧
    t.connection? connector = some c
  | .error e => (∀ t ∈ tries, t.connection? connector = none) ∧
    (e = .deadlineExceeded tries.length elapsed ∧ elapsed = policy.maxWait ∨
      e = .attemptsExhausted tries.length ∧ policy.maxAttempts ≤ tries.length)

/-- The caller was told, and nothing more is to come. -/
structure Finished (x : Timeline) (result : Except Error ConnectionId) : Prop extends
    History policy started call x where
  gone : x.manager.find? call = none
  done : x.due = none
  told : x.results call = [(x.now, result)]
  fair : Fair connector policy (x.tries call) (x.now - started) result

/-- An acquisition that is finished or has only so many steps to go. -/
def Course (x : Timeline) (steps : Nat) : Prop :=
  (∃ a, Trying connector policy started call x a ∧ 2 * (max 1 policy.maxAttempts - a.retry.attempts) < steps) ∨
  (∃ a, Pausing connector policy started call x a ∧ 2 * (max 1 policy.maxAttempts - a.retry.attempts) ≤ steps) ∨
  ∃ result, Finished connector policy started call x result

end

section

variable {connector : Nat → Reply} {isOpen : ConnectionId → Bool} {policy : RetryPolicy} {started : Nat}
  {call : CallId} {x : Timeline} {a : Acquisition}

theorem History.keeps {y : Timeline} (h : History policy started call x) (tries : y.tries call = x.tries call)
    (past : started ≤ y.now) (soon : y.now ≤ started + policy.maxWait) : History policy started call y := by
  obtain ⟨attempted, capped, numbers, budgets, -, -⟩ := h
  exact ⟨tries ▸ attempted, tries ▸ capped, tries ▸ numbers, tries ▸ budgets, past, soon⟩

/-- An attempt that starts, whether it is the first or not. -/
theorem trying_record {m : Manager} {r : Retry} {logs : List LogEntry} {time : Nat}
    (silent : x.results a.call = []) (vain : ∀ t ∈ x.tries a.call, t.connection? connector = none)
    (numbers : (x.tries a.call).map (·.number) = List.range' 1 (x.tries a.call).length)
    (budgets : ∀ t ∈ x.tries a.call, started ≤ t.time ∧ t.budget = started + policy.maxWait - t.time)
    (counted : r.attempts = (x.tries a.call).length + 1) (capped : r.attempts ≤ max 1 policy.maxAttempts)
    (governed : r.policy = policy) (since : r.started = started) (undisturbed : a.seen = m.generation)
    (past : started ≤ time) (soon : time ≤ started + policy.maxWait) :
    Trying connector policy started a.call
      (x.record connector time (m.proceed a (r, logs, .connect (r.remaining time))))
      { a with retry := r, pausing := false } := by
  generalize recorded : x.record connector time _ = y
  obtain ⟨found, now, due, tries, told, same⟩ := Timeline.record_connect (r.remaining time) y recorded.symm
  have left : r.remaining time = started + policy.maxWait - time := by
    rw [Retry.remaining, governed, since]
    omega
  refine ⟨⟨⟨?_, ?_, ?_, ?_, ?_, ?_⟩, found, rfl, governed, since, undisturbed.trans same.symm, ?_, ?_⟩, rfl, ?_⟩
  · simp [tries]
  · simpa [tries, ← counted] using capped
  · simp [tries, numbers, counted, List.range'_1_concat, Nat.add_comm 1]
  · intro t mem
    rcases List.mem_append.mp (tries ▸ mem) with mem | mem
    · exact budgets t mem
    · obtain rfl := List.mem_singleton.mp mem
      exact ⟨past, left⟩
  · omega
  · omega
  · simp [tries, counted]
  · rw [told, silent]
  · exact ⟨_, _, tries, vain, by rw [due, now], by simp only [now, left]; omega⟩

theorem Ongoing.pause {r : Retry} {logs : List LogEntry} {time ms : Nat} (h : Ongoing policy started call x a)
    (governed : r.policy = policy) (since : r.started = started) (counted : r.attempts = a.retry.attempts)
    (past : started ≤ time) (soon : time + ms ≤ started + policy.maxWait)
    (vain : ∀ t ∈ x.tries call, t.connection? connector = none) (more : r.attempts < policy.maxAttempts) :
    Pausing connector policy started call
      (x.record connector time (x.manager.proceed a (r, logs, .pause ms))) { a with retry := r, pausing := true } := by
  obtain rfl := h.mine
  generalize recorded : x.record connector time _ = y
  obtain ⟨found, now, due, same, told, generation⟩ := Timeline.record_pause ms y recorded.symm
  have undisturbed : a.seen = y.manager.generation := h.undisturbed.trans generation.symm
  refine ⟨⟨h.keeps same ?_ ?_, found, rfl, governed, since, undisturbed, ?_, ?_⟩, rfl, ?_, more, ms, ?_, ?_⟩
  · omega
  · omega
  · rw [same, ← h.counted, counted]
  · rw [told, h.silent]
  · rw [same]; exact vain
  · rw [due, now]
  · omega

theorem Ongoing.finish {time : Nat} {result : Except Error ConnectionId} {logs : List LogEntry}
    (h : Ongoing policy started call x a) (past : started ≤ time) (soon : time ≤ started + policy.maxWait)
    (fair : Fair connector policy (x.tries call) (time - started) result) :
    Finished connector policy started call
      (x.record connector time (x.manager.proceed a (a.retry, logs, .finish result))) result := by
  obtain rfl := h.mine
  generalize recorded : x.record connector time _ = y
  obtain ⟨gone, rfl, done, same, told⟩ := Timeline.record_finish result y recorded.symm
  exact ⟨h.keeps same past soon, gone, done, by rw [told, h.silent]; rfl, by rw [same]; exact fair⟩

theorem Ongoing.remaining_eq (h : Ongoing policy started call x a) (time : Nat) :
    a.retry.remaining time = policy.maxWait - (time - started) := by
  rw [Retry.remaining, h.governed, h.since]

/-- The attempt of an acquisition ends. -/
theorem Ongoing.next_ended (h : Ongoing policy started a.call x a) (trying : a.pausing = false) {time : Nat}
    {outcome : Attempt} (due : x.due = some (time, .ended a.call a.retry.attempts outcome)) :
    x.next connector isOpen = x.record connector time (x.manager.proceed a (a.retry.ended time outcome)) := by
  have eq := resumed_eq (fun b => b.retry.ended time outcome) h.found h.undisturbed
  simp only [trying] at eq
  simp only [Timeline.next, due, Manager.step, eq]

/-- The pause of an acquisition is over. -/
theorem Ongoing.next_resumed (h : Ongoing policy started a.call x a) (pausing : a.pausing = true) {time : Nat}
    (due : x.due = some (time, .resume a.call a.retry.attempts)) :
    x.next connector isOpen = x.record connector time (x.manager.proceed a (a.retry.attempt time)) := by
  have eq := resumed_eq (fun b => b.retry.attempt time) h.found h.undisturbed
  simp only [pausing] at eq
  simp only [Timeline.next, due, Manager.step, eq]

theorem Trying.next (h : Trying connector policy started call x a) :
    (∃ b, Pausing connector policy started call (x.next connector isOpen) b ∧ b.retry.attempts = a.retry.attempts) ∨
      ∃ result, Finished connector policy started call (x.next connector isOpen) result := by
  obtain rfl := h.mine
  obtain ⟨earlier, t, tries, vain, due, budget⟩ := h.last
  rcases within : (connector t.number).within t.budget with ⟨ms, outcome⟩
  rw [within] at due
  have past := h.past
  have soon : ms ≤ t.budget := by simpa [within] using (connector t.number).within_le t.budget
  have left := h.remaining_eq (x.now + ms)
  have connects (c : ConnectionId) : outcome = .connected c ↔ t.connection? connector = some c := by
    rw [Try.connection?, ← Reply.connected_iff, within]
  have allVain (other : ∀ c, outcome ≠ .connected c) : ∀ s ∈ x.tries a.call, s.connection? connector = none := by
    have last : t.connection? connector = none :=
      Option.eq_none_iff_forall_ne_some.mpr fun c eq => other c ((connects c).mpr eq)
    simpa [tries, or_imp, forall_and, last] using vain
  rw [h.next_ended h.trying due]
  rcases ended_cases a.retry (x.now + ms) outcome with ⟨c, connected, eq⟩ | ⟨other, ⟨enough, eq⟩ |
    ⟨more, delay, pause, le, eq⟩⟩ <;> rw [eq]
  · exact .inr ⟨.ok c, h.finish (by omega) (by omega) ⟨earlier, t, tries, vain, (connects c).mp connected⟩⟩
  · refine .inr ⟨_, h.finish (by omega) (by omega) ⟨allVain other, .inr ?_⟩⟩
    rw [← h.counted, ← h.governed]
    exact ⟨rfl, enough⟩
  · rw [h.governed] at more
    exact .inl ⟨_, h.pause h.governed h.since rfl (by omega) (by omega) (allVain other) more, rfl⟩

theorem Pausing.next (h : Pausing connector policy started call x a) :
    (∃ b, Trying connector policy started call (x.next connector isOpen) b ∧
      b.retry.attempts = a.retry.attempts + 1) ∨
      ∃ result, Finished connector policy started call (x.next connector isOpen) result := by
  obtain rfl := h.mine
  obtain ⟨ms, due, soon⟩ := h.resumes
  have past := h.past
  have more := h.more
  have left := h.remaining_eq (x.now + ms)
  rw [h.next_resumed h.pausing due]
  rcases attempt_cases a.retry (x.now + ms) with ⟨late, eq⟩ | eq <;> rw [eq]
  · refine .inr ⟨_, h.finish (by omega) soon ⟨h.vain, .inl ?_⟩⟩
    rw [h.counted, h.since]
    exact ⟨rfl, by omega⟩
  · have counted := h.counted
    exact .inl ⟨_, trying_record (r := { a.retry with attempts := a.retry.attempts + 1 }) h.silent h.vain h.numbers
      h.budgets (by simp [counted]) (by simp; omega) h.governed h.since h.undisturbed (by omega) soon, rfl⟩

theorem Course.next (isOpen : ConnectionId → Bool) {steps : Nat} (h : Course connector policy started call x steps) :
    Course connector policy started call (x.next connector isOpen) (steps - 1) := by
  rcases h with ⟨a, trying, few⟩ | ⟨a, pausing, few⟩ | ⟨result, finished⟩
  · rcases trying.next with ⟨b, pausing, eq⟩ | finished
    · exact .inr (.inl ⟨b, pausing, by omega⟩)
    · exact .inr (.inr finished)
  · have more := pausing.more
    rcases pausing.next with ⟨b, trying, eq⟩ | finished
    · exact .inl ⟨b, trying, by omega⟩
    · exact .inr (.inr finished)
  · exact .inr (.inr ⟨result, by simpa [Timeline.next, finished.done] using finished⟩)

theorem Course.after (isOpen : ConnectionId → Bool) {steps : Nat} (h : Course connector policy started call x steps)
    (k : Nat) :
    Course connector policy started call (x.after connector isOpen k) (steps - k) := by
  induction k generalizing x steps with
  | zero => exact h
  | succ k ih =>
    have rest := ih (h.next isOpen)
    rwa [Nat.sub_sub, Nat.add_comm] at rest

/-- With no step to go, it is finished. -/
theorem Course.finished (h : Course connector policy started call x 0) :
    ∃ result, Finished connector policy started call x result := by
  rcases h with ⟨a, trying, few⟩ | ⟨a, pausing, few⟩ | finished
  · omega
  · have more := pausing.more
    omega
  · exact finished

theorem Course.attempts_le {steps : Nat} (h : Course connector policy started call x steps)
    (found : x.manager.find? call = some a) : a.retry.attempts ≤ max 1 policy.maxAttempts := by
  rcases h with ⟨b, ongoing, -⟩ | ⟨b, ongoing, -⟩ | ⟨result, finished⟩
  · obtain rfl : b = a := by simpa [ongoing.found] using found
    exact ongoing.counted ▸ ongoing.capped
  · obtain rfl : b = a := by simpa [ongoing.found] using found
    exact ongoing.counted ▸ ongoing.capped
  · simp [finished.gone] at found

end

/-- An acquisition begins with its first attempt. -/
theorem trying_acquire (connector : Nat → Reply) (m : Manager) (now : Nat) (call : CallId) (shared : Bool) :
    Trying connector m.policy now call (Timeline.acquire connector m now call shared)
      { call, retry := { Retry.start m.policy now with attempts := 1 }, shared, seen := m.generation } := by
  refine trying_record (x := ⟨m, now, none, []⟩)
    (a := { call, retry := Retry.start m.policy now, shared, seen := m.generation }) rfl ?_ rfl ?_ rfl
    (Nat.le_max_left ..) rfl rfl rfl (Nat.le_refl _) (Nat.le_add_right ..)
  · simp [Timeline.tries]
  · simp [Timeline.tries]

theorem course_acquire (connector : Nat → Reply) (m : Manager) (now : Nat) (call : CallId) (shared : Bool) :
    Course connector m.policy now call (Timeline.acquire connector m now call shared)
      (2 * max 1 m.policy.maxAttempts) :=
  .inl ⟨_, trying_acquire connector m now call shared, by simp only; omega⟩

/-- **However a connector behaves, with timers on time and nothing to interrupt it, an acquisition ends, after as many
steps as there may be attempts and pauses: its caller is told once, in time, after so many attempts at most, each
numbered and with what was left of the time, and what it is told is fair. Meanwhile the count of attempts stays within
its bounds.** -/
theorem acquired (connector : Nat → Reply) (isOpen : ConnectionId → Bool) (m : Manager) (now : Nat) (call : CallId)
    (shared : Bool) :
    (∃ result, Finished connector m.policy now call ((Timeline.acquire connector m now call shared).after connector
      isOpen (2 * max 1 m.policy.maxAttempts)) result) ∧
      ∀ k a, ((Timeline.acquire connector m now call shared).after connector isOpen k).manager.find? call = some a →
        a.retry.attempts ≤ max 1 m.policy.maxAttempts ∧
          (m.policy.maxAttempts < UInt32.size → a.retry.attempts < UInt32.size) := by
  have course k := (course_acquire connector m now call shared).after isOpen k
  constructor
  · have finished := course (2 * max 1 m.policy.maxAttempts)
    rw [Nat.sub_self] at finished
    exact finished.finished
  · intro k a found
    have le := (course k).attempts_le found
    have room : 1 < UInt32.size := by decide
    exact ⟨le, by omega⟩

/-- A connector that always fails at once, and a budget that ends in the second pause. -/
theorem acquired_overdue :
    let m : Manager := { policy := ⟨1000, 10000, 3, 2500⟩ }
    let connector : Nat → Reply := fun _ => .answers 0 (.error (.connection "refused"))
    let x (k : Nat) := (Timeline.acquire connector m 0 7 false).after connector (fun _ => true) k
    ((x 6).results 7).map (fun (time, result) => (time, result.toOption)) = [(2500, none)] ∧
      (∃ result, Finished connector m.policy 0 7 (x 6) result) ∧
      ∃ a, (x 2).manager.find? 7 = some a ∧ a.retry.attempts = 2 ∧ a.retry.attempts < UInt32.size := by
  intro m connector x
  have h := acquired connector (fun _ => true) m 0 7 false
  have second : ((x 2).manager.find? 7).map (·.retry.attempts) = some 2 := by decide +kernel
  obtain ⟨a, found, two⟩ := Option.map_eq_some_iff.mp second
  exact ⟨by decide +kernel, h.1, a, found, two, (h.2 2 a found).2 (by decide)⟩

end BrokerClient.Manager
