import BrokerClient.Proofs.Connection.Acquiring

/-!
# How an acquisition gives up

An acquisition gives up when its time is up or when it made as many attempts as it may. The number of attempts is looked
at when one ends, and the time only before the next, so that the last attempt allowed is never followed by a look at the
time: `gaveUp` says which of the two an acquisition tells its caller, and when. They tell whether some of the time was
left, unless the last attempt allowed took all of it (`gaveUp_lastAttempt`).
-/

namespace BrokerClient.Manager

/-- The part of its time that an attempt leaves. -/
def Try.spare (connector : Nat → Reply) (t : Try) : Nat := t.budget - ((connector t.number).within t.budget).1

/-- How a caller was told that no connection was made: the time was up when another attempt was due, or the last attempt
allowed ended, and what was left of the time then is what that attempt left of its own. -/
structure GaveUp (connector : Nat → Reply) (policy : RetryPolicy) (started : Nat) (tries : List Try) (time : Nat)
    (e : Error) : Prop where
  past : started ≤ time
  soon : time ≤ started + policy.maxWait
  told : ∃ earlier last, tries = earlier ++ [last] ∧
    (e = .deadlineExceeded tries.length (time - started) ∧ tries.length < policy.maxAttempts ∧
        time = started + policy.maxWait ∨
      e = .attemptsExhausted tries.length ∧ policy.maxAttempts ≤ tries.length ∧
        time + last.spare connector = started + policy.maxWait)

section

variable {connector : Nat → Reply} {isOpen : ConnectionId → Bool} {policy : RetryPolicy} {started : Nat}
  {call : CallId} {x : Timeline} {a : Acquisition} {time : Nat} {e : Error}

theorem Trying.gives_up (h : Trying connector policy started call x a)
    (told : (time, .error e) ∈ (x.next connector isOpen).results call) :
    GaveUp connector policy started ((x.next connector isOpen).tries call) time e := by
  obtain rfl := h.mine
  obtain ⟨earlier, t, tries, -, due, budget⟩ := h.last
  rcases within : (connector t.number).within t.budget with ⟨ms, outcome⟩
  rw [within] at due
  have past := h.past
  have soon : ms ≤ t.budget := by simpa [within] using (connector t.number).within_le t.budget
  have spare : t.spare connector = t.budget - ms := by rw [Try.spare, within]
  rw [h.next_ended h.trying due] at told ⊢
  rcases ended_cases a.retry (x.now + ms) outcome with ⟨c, -, eq⟩ | ⟨-, ⟨enough, eq⟩ |
    ⟨-, delay, pause, -, eq⟩⟩ <;> rw [eq] at told ⊢
  · obtain ⟨-, -, -, -, results⟩ := Timeline.record_finish (.ok c) _ rfl
    rw [results, h.silent] at told
    cases List.mem_singleton.1 told
  · obtain ⟨-, -, -, same, results⟩ := Timeline.record_finish (.error (.attemptsExhausted a.retry.attempts)) _ rfl
    rw [results, h.silent] at told
    cases List.mem_singleton.1 told
    rw [same]
    refine ⟨by omega, by omega, earlier, t, tries, .inr ?_⟩
    rw [← h.counted, ← h.governed]
    exact ⟨rfl, enough, by rw [h.governed]; omega⟩
  · obtain ⟨-, -, -, -, results, -⟩ := Timeline.record_pause pause _ rfl
    rw [results, h.silent] at told
    cases told

theorem Pausing.gives_up (h : Pausing connector policy started call x a)
    (told : (time, .error e) ∈ (x.next connector isOpen).results call) :
    GaveUp connector policy started ((x.next connector isOpen).tries call) time e := by
  obtain rfl := h.mine
  obtain ⟨ms, due, soon⟩ := h.resumes
  have past := h.past
  have left := h.remaining_eq (x.now + ms)
  rw [h.next_resumed h.pausing due] at told ⊢
  rcases attempt_cases a.retry (x.now + ms) with ⟨late, eq⟩ | eq <;> rw [eq] at told ⊢
  · obtain ⟨-, -, -, same, results⟩ :=
      Timeline.record_finish (.error (.deadlineExceeded a.retry.attempts (x.now + ms - a.retry.started))) _ rfl
    rw [results, h.silent] at told
    cases List.mem_singleton.1 told
    rw [same]
    have nonempty := List.ne_nil_of_length_pos h.attempted
    refine ⟨by omega, soon, _, _, (List.dropLast_append_getLast nonempty).symm, .inl ?_⟩
    rw [← h.counted, ← h.since]
    exact ⟨rfl, h.more, by rw [h.since]; omega⟩
  · obtain ⟨-, -, -, -, results, -⟩ := Timeline.record_connect (a.retry.remaining (x.now + ms)) _ rfl
    rw [results, h.silent] at told
    cases told

/-- Who was not told otherwise yet is told so by what is due. -/
theorem Course.gives_up_after (isOpen : ConnectionId → Bool) {steps : Nat}
    (h : Course connector policy started call x steps)
    (before : ∀ time e, (time, .error e) ∈ x.results call → GaveUp connector policy started (x.tries call) time e)
    (k : Nat) (told : (time, .error e) ∈ (x.after connector isOpen k).results call) :
    GaveUp connector policy started ((x.after connector isOpen k).tries call) time e := by
  induction k generalizing x steps with
  | zero => exact before time e told
  | succ k ih =>
    refine ih (h.next isOpen) (fun time e told => ?_) told
    rcases h with ⟨a, trying, -⟩ | ⟨a, pausing, -⟩ | ⟨result, finished⟩
    · exact trying.gives_up told
    · exact pausing.gives_up told
    · rw [Timeline.next, finished.done] at told ⊢
      exact before time e told

end

/-- **However a connector behaves, with timers on time and nothing to interrupt it, a caller is told one thing. When it
is told that no connection was made, it is told so in time. It is told that the time is up, and how long it was, when
the time is all used and there may be more attempts; else there were enough attempts, and what is left of the time is
what the last one left. So unless the last attempt allowed took all its time, a caller is told that there were enough
attempts only if some time was left, and that the time is up whenever it was.** -/
theorem gaveUp (connector : Nat → Reply) (isOpen : ConnectionId → Bool) (m : Manager) (now : Nat) (call : CallId)
    (shared : Bool) :
    (∃ time result, ((Timeline.acquire connector m now call shared).after connector isOpen
      (2 * max 1 m.policy.maxAttempts)).results call = [(time, result)]) ∧
    ∀ steps time e, (time, .error e) ∈
        ((Timeline.acquire connector m now call shared).after connector isOpen steps).results call →
      ∃ tries, tries = ((Timeline.acquire connector m now call shared).after connector isOpen steps).tries call ∧
        GaveUp connector m.policy now tries time e ∧
        (tries.length < m.policy.maxAttempts ∨ (∀ t ∈ tries.getLast?, 0 < t.spare connector) →
          ((∃ n, e = .attemptsExhausted n) → time - now < m.policy.maxWait) ∧
          (time - now = m.policy.maxWait → e = .deadlineExceeded tries.length (time - now))) := by
  have course := course_acquire connector m now call shared
  constructor
  · have finished := course.after isOpen (2 * max 1 m.policy.maxAttempts)
    rw [Nat.sub_self] at finished
    obtain ⟨result, finished⟩ := finished.finished
    exact ⟨_, result, finished.told⟩
  · intro steps time e told
    have silent : (Timeline.acquire connector m now call shared).results call = [] :=
      (trying_acquire connector m now call shared).silent
    have h := course.gives_up_after isOpen (by simp [silent]) steps told
    refine ⟨_, rfl, h, fun hlast => ?_⟩
    obtain ⟨past, soon, earlier, last, tries, ⟨rfl, more, up⟩ | ⟨rfl, enough, left⟩⟩ := h
    · exact ⟨nofun, fun _ => rfl⟩
    · have spare : 0 < last.spare connector := by
        refine hlast.resolve_left (Nat.not_lt.2 enough) last ?_
        rw [tries, List.getLast?_concat]
        rfl
      exact ⟨fun _ => by omega, fun _ => by omega⟩

/-- An acquisition of a caller by a new manager, after so many of the things that were due. -/
def acquiredAlone (policy : RetryPolicy) (connector : Nat → Reply) (steps : Nat) : Timeline :=
  (Timeline.acquire connector { policy } 0 7 false).after connector (fun _ => true) steps

/-- The only attempt allowed takes all the time, and the caller is told that there were enough attempts. -/
theorem gaveUp_lastAttempt :
    (acquiredAlone ⟨100, 10000, 1, 1000⟩ (fun _ => .hangs) 1).results 7 = [(1000, .error (.attemptsExhausted 1))] ∧
      ¬ 1000 - 0 < 1000 ∧ Error.attemptsExhausted 1 ≠ .deadlineExceeded 1 (1000 - 0) :=
  ⟨rfl, by decide, nofun⟩

def failsSlowly : Nat → Reply := fun _ => .answers 200 (.error (.connection "refused"))

/-- Another attempt was allowed, but the time is up when the pause before it is over. -/
theorem gaveUp_overdue :
    (acquiredAlone ⟨100, 10000, 3, 250⟩ failsSlowly 2).results 7 = [(250, .error (.deadlineExceeded 1 250))] ∧
      ∃ tries, tries = (acquiredAlone ⟨100, 10000, 3, 250⟩ failsSlowly 2).tries 7 ∧ tries.length < 3 ∧
        GaveUp failsSlowly ⟨100, 10000, 3, 250⟩ 0 tries 250 (.deadlineExceeded 1 250) ∧
        (250 - 0 = 250 → Error.deadlineExceeded 1 250 = .deadlineExceeded tries.length (250 - 0)) := by
  have told : (acquiredAlone ⟨100, 10000, 3, 250⟩ failsSlowly 2).results 7 =
    [(250, .error (.deadlineExceeded 1 250))] := rfl
  have h := gaveUp failsSlowly (fun _ => true) { policy := ⟨100, 10000, 3, 250⟩ } 0 7 false
  obtain ⟨tries, htries, how, apart⟩ := h.2 2 250 _ (told ▸ List.mem_singleton_self _)
  have few : tries.length < 3 := by
    rw [htries]
    decide +kernel
  exact ⟨told, tries, htries, few, how, (apart (.inl few)).2⟩

end BrokerClient.Manager
