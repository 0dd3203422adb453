import BrokerClient.Proofs.Connection.Moving
import Mathlib.Algebra.Group.Nat.Defs

/-!
# How long an acquisition pauses

After the first failure of an acquisition comes the first pause, and every later pause is twice as long as the one
before, up to the longest; whatever is left of the budget cuts it. Doubling stops at the longest time that can be
measured, and that is never seen, as no longest pause is longer. An acquisition keeps the `Record` of its attempts and
pauses in every chronicle, and from that each pause is known (`backoff`). The longest pause does not bound the first one
(`backoff_firstPause`).
-/

namespace BrokerClient

/-- The pause after a number of failed attempts, before the budget cuts it. -/
def RetryPolicy.pauseAfter (p : RetryPolicy) (failures : Nat) : Nat :=
  if failures ≤ 1 then p.initialDelay else min (p.initialDelay * 2 ^ (failures - 1)) p.maxDelay

section

variable {p : RetryPolicy} {k : Nat}

theorem RetryPolicy.pauseAfter_eq (h : p.initialDelay ≤ p.maxDelay ∨ 1 < k) :
    p.pauseAfter k = min (p.initialDelay * 2 ^ (k - 1)) p.maxDelay := by
  unfold pauseAfter
  split
  · rename_i hk
    have hzero : k - 1 = 0 := by omega
    rw [hzero, Nat.pow_zero, Nat.mul_one]
    omega
  · rfl

/-- The pauses double up to the longest; doubling is exact as far as that. -/
theorem RetryPolicy.pauseAfter_succ (hlongest : p.maxDelay ≤ longestTime) (hk : 1 ≤ k) :
    min (doubled (p.pauseAfter k)) p.maxDelay = p.pauseAfter (k + 1) := by
  have hpow : p.initialDelay * 2 ^ k = 2 * (p.initialDelay * 2 ^ (k - 1)) := by
    obtain ⟨n, rfl⟩ := Nat.exists_eq_add_of_le' hk
    rw [Nat.add_sub_cancel, Nat.pow_succ]
    ac_rfl
  have hnext : p.pauseAfter (k + 1) = min (2 * (p.initialDelay * 2 ^ (k - 1))) p.maxDelay := by
    rw [pauseAfter_eq (.inr (by omega)), Nat.add_sub_cancel, hpow]
  rw [hnext, doubled]
  unfold pauseAfter
  split
  · rename_i hone
    have hzero : k - 1 = 0 := by omega
    rw [hzero, Nat.pow_zero, Nat.mul_one]
    omega
  · omega

theorem RetryPolicy.pauseAfter_mono {j : Nat} (h : p.initialDelay ≤ p.maxDelay ∨ 1 < j) (hjk : j ≤ k) :
    p.pauseAfter j ≤ p.pauseAfter k := by
  rw [pauseAfter_eq h, pauseAfter_eq (h.imp_right fun hj => Nat.lt_of_lt_of_le hj hjk)]
  have hpow : 2 ^ (j - 1) ≤ 2 ^ (k - 1) := Nat.pow_le_pow_right Nat.two_pos (Nat.sub_le_sub_right hjk 1)
  have hmul := Nat.mul_le_mul_left p.initialDelay hpow
  omega

end

namespace Manager

/-! ## What was tried and how long it paused -/

/-- A pause: when it began, after which attempt, and how long it is. -/
structure Pause where
  time : Nat
  number : Nat
  ms : Nat

/-- The pause that an action starts. -/
def Action.paused? (time : Nat) : Action → Option Pause
  | .pause _ number ms => some ⟨time, number, ms⟩
  | .log _ | .connect .. | .wake _ | .finish .. => none

/-- The attempts made for a call. -/
def Chronicle.tries (c : Chronicle) (call : CallId) : List Try := (c.own call).filterMap fun x => x.2.tried? call x.1

/-- The pauses made for a call. -/
def Chronicle.pauses (c : Chronicle) (call : CallId) : List Pause := (c.own call).filterMap fun x => x.2.paused? x.1

/-- The course of an acquisition: it made its attempts, with a pause after each but the last, and each pause was as the
policy says. -/
structure Record (policy : RetryPolicy) (c : Chronicle) (call : CallId) (a : Acquisition) : Prop where
  governed : a.retry.policy = policy
  numbers : (c.tries call).map (·.number) = List.range' 1 a.retry.attempts
  since : ∃ first, (c.tries call).head? = some first ∧ first.time = a.retry.started
  delay : a.retry.delay = policy.pauseAfter (if a.pausing then a.retry.attempts + 1 else a.retry.attempts)
  pauses : (c.pauses call).map (·.number) = List.range' 1 (if a.pausing then a.retry.attempts else a.retry.attempts - 1)
  lengths : ∀ p ∈ c.pauses call, p.ms = min (policy.pauseAfter p.number) (policy.maxWait - (p.time - a.retry.started))

section

variable {policy : RetryPolicy} {c c' : Chronicle} {m : Manager} {i : Moment} {call : CallId} {a : Acquisition}

/-- What makes a call pause. -/
theorem Moves.of_pause {s s' : Standing} {actions : List Action} {k ms : Nat} (h : m.Moves i call s actions s')
    (hp : .pause call k ms ∈ actions) : ∃ a result, s = .acquiring a ∧ m.Ends i a result ∧
      (∀ c, result ≠ .connected c) ∧ a.retry.attempts < a.retry.policy.maxAttempts ∧ k = a.retry.attempts ∧
      ms = min a.retry.delay (a.retry.remaining i.time) := by
  cases h with
  | pause ends failed more =>
    obtain ⟨⟩ := List.mem_singleton.1 hp
    exact ⟨_, _, rfl, ends, failed, more, rfl, rfl⟩
  | _ => simp at hp

/-- A failed attempt that is not the last makes a call pause. -/
theorem Moves.of_failed {s : Standing} {actions : List Action} {result : Attempt}
    (h : m.Moves i call (.acquiring a) actions s) (hends : m.Ends i a result) (hfailed : ∀ c, result ≠ .connected c)
    (hmore : a.retry.attempts < a.retry.policy.maxAttempts) : ∃ ms, actions = [.pause call a.retry.attempts ms] := by
  have hevent := hends.event
  cases h with
  | rest still => exact absurd ⟨.inl ⟨result, hevent, hends.trying⟩, by rw [hevent]; nofun⟩ still
  | leave event => cases hevent.symm.trans event
  | interrupted event disturbed => exact absurd hends.undisturbed (by simp [disturbed])
  | connected ends =>
    cases hevent.symm.trans ends.event
    exact absurd rfl (hfailed _)
  | exhausted _ _ last => omega
  | pause _ _ _ => exact ⟨_, rfl⟩
  | late resumes _ => cases hevent.symm.trans resumes.event
  | retry resumes => cases hevent.symm.trans resumes.event
  | hand turn _ => exact absurd rfl turn.ne_acquiring
  | begin begins => exact absurd rfl begins.ne_acquiring

/-- A record is of what was done for the call. -/
theorem Record.congr (h : Record policy c call a) (hown : c'.own call = c.own call) : Record policy c' call a := by
  have htries : c'.tries call = c.tries call := by rw [Chronicle.tries, hown, ← Chronicle.tries]
  have hpauses : c'.pauses call = c.pauses call := by rw [Chronicle.pauses, hown, ← Chronicle.pauses]
  exact ⟨h.governed, htries ▸ h.numbers, htries ▸ h.since, h.delay, hpauses ▸ h.pauses, hpauses ▸ h.lengths⟩

/-- The first attempt. -/
theorem record_first (shared : Bool) (hp : m.policy = policy)
    (hown : c.own call = [(i.time, .connect call 1 m.policy.maxWait)]) :
    Record policy c call (m.first i.time call shared) := by
  have htries : c.tries call = [⟨i.time, 1, m.policy.maxWait⟩] := by simp [Chronicle.tries, hown, Action.tried?]
  have hpauses : c.pauses call = [] := by simp [Chronicle.pauses, hown, Action.paused?]
  refine ⟨hp, by rw [htries]; rfl, ⟨_, by rw [htries]; rfl, rfl⟩, ?_, by rw [hpauses]; rfl, by simp [hpauses]⟩
  rw [← hp]
  rfl

theorem Record.pos (h : Record policy c call a) : 1 ≤ a.retry.attempts := by
  obtain ⟨first, hfirst, -⟩ := h.since
  have hlength := congrArg List.length h.numbers
  rw [List.length_map, List.length_range'] at hlength
  rw [← hlength]
  exact List.length_pos_of_mem (List.mem_of_mem_head? hfirst)

theorem Record.pause (h : Record policy c call a) (hlongest : policy.maxDelay ≤ longestTime) (ht : a.pausing = false)
    (hown : c'.own call = c.own call ++
      [(i.time, .pause call a.retry.attempts (min a.retry.delay (a.retry.remaining i.time)))]) :
    Record policy c' call a.paused := by
  have hpos := h.pos
  obtain ⟨hgoverned, hnumbers, ⟨first, hfirst, hsince⟩, hdelay, hpauses, hlengths⟩ := h
  have htries : c'.tries call = c.tries call := by simp [Chronicle.tries, hown, Action.tried?]
  have hpaused : c'.pauses call = c.pauses call ++
      [⟨i.time, a.retry.attempts, min a.retry.delay (a.retry.remaining i.time)⟩] := by
    simp [Chronicle.pauses, hown, Action.paused?]
  simp only [ht, Bool.false_eq_true, if_false] at hdelay hpauses
  refine ⟨hgoverned, htries ▸ hnumbers, ⟨first, htries ▸ hfirst, hsince⟩, ?_, ?_, ?_⟩
  · simp only [Acquisition.paused, if_true, hdelay, hgoverned]
    exact RetryPolicy.pauseAfter_succ hlongest hpos
  · simp only [Acquisition.paused, hpaused, List.map_append, hpauses, if_true]
    obtain ⟨n, hn⟩ := Nat.exists_eq_add_of_le' hpos
    rw [hn, Nat.add_sub_cancel, List.map_singleton, List.range'_1_concat, Nat.add_comm]
  · intro p hp
    rcases List.mem_append.1 (hpaused ▸ hp) with hp | hp
    · exact hlengths p hp
    · obtain rfl := List.mem_singleton.1 hp
      simp only [Acquisition.paused, hdelay, Retry.remaining, hgoverned]

theorem Record.retry (h : Record policy c call a) (ht : a.pausing = true)
    (hown : c'.own call = c.own call ++
      [(i.time, .connect call (a.retry.attempts + 1) (a.retry.remaining i.time))]) :
    Record policy c' call a.retried := by
  obtain ⟨hgoverned, hnumbers, ⟨first, hfirst, hsince⟩, hdelay, hpauses, hlengths⟩ := h
  have htries : c'.tries call = c.tries call ++ [⟨i.time, a.retry.attempts + 1, a.retry.remaining i.time⟩] := by
    simp [Chronicle.tries, hown, Action.tried?]
  have hpaused : c'.pauses call = c.pauses call := by simp [Chronicle.pauses, hown, Action.paused?]
  simp only [ht, if_true] at hdelay hpauses
  refine ⟨hgoverned, ?_, ⟨first, ?_, hsince⟩, hdelay, hpaused ▸ hpauses, hpaused ▸ hlengths⟩
  · rw [htries, List.map_append, hnumbers, Acquisition.retried, List.range'_1_concat, Nat.add_comm 1]
    rfl
  · rw [htries, List.head?_append, hfirst]
    rfl

end

/-- Every acquisition keeps its record. -/
theorem record_chronicle {policy : RetryPolicy} (hlongest : policy.maxDelay ≤ longestTime) {is : List Moment}
    (hs : Schedule is) {call : CallId} {a : Acquisition}
    (ha : (chronicle policy is).now.standing call = .acquiring a) : Record policy (chronicle policy is) call a := by
  induction is using List.reverseRecOn generalizing a with
  | nil => cases ha
  | append_singleton is i ih =>
    have hpolicy := (orderly_chronicle policy hs.left).2.1
    have hmove := moves_chronicle policy hs call
    have hown := own_concat policy is i call
    rw [ha] at hmove
    -- a step leaves the acquisition alone, begins it, or takes it into a pause or out of one
    rcases hmove.to_acquiring with ⟨hsame, hnone⟩ | ⟨hbefore, hactions, shared, rfl⟩ | ⟨b, hb, ht, hactions, rfl⟩ |
      ⟨b, hb, ht, hactions, rfl⟩
    · rw [hnone, List.map_nil, List.append_nil] at hown
      exact (ih hs.left hsame).congr hown
    · rw [hactions, own_beginning policy hs ha hbefore] at hown
      exact record_first shared hpolicy hown
    · rw [hactions] at hown
      exact (ih hs.left hb).pause hlongest ht hown
    · rw [hactions] at hown
      exact (ih hs.left hb).retry ht hown

/-- **In every chronicle, whatever else happens, an acquisition pauses when an attempt of it failed that was not the
last, once and each time. The pause after the first failure is the first pause, and every later one is the first pause
doubled each time, exactly, or the longest if that is shorter; what is left of the budget cuts it. So unless the first
pause is longer than the longest, no pause is, and a pause is shorter than an earlier one only if the budget cuts
it.** -/
theorem backoff {policy : RetryPolicy} (hlongest : policy.maxDelay ≤ longestTime) {before : List Moment} {i : Moment}
    (hs : Schedule (before ++ [i])) (call : CallId) :
    (∀ k ms, .pause call k ms ∈ ((chronicle policy before).now.act i).2 →
      (∃ result, i.event = .ended call k result ∧ ∀ c, result ≠ .connected c) ∧ k < policy.maxAttempts ∧
        (((chronicle policy before).tries call).map (·.number) = List.range' 1 k) ∧
        (((chronicle policy before).pauses call).map (·.number) = List.range' 1 (k - 1)) ∧
        ∃ first left, ((chronicle policy before).tries call).head? = some first ∧
          left = policy.maxWait - (i.time - first.time) ∧ ms = min (policy.pauseAfter k) left ∧
          (policy.initialDelay ≤ policy.maxDelay ∨ 1 < k →
            ms = min (min (policy.initialDelay * 2 ^ (k - 1)) policy.maxDelay) left ∧ ms ≤ policy.maxDelay) ∧
          ∀ p ∈ (chronicle policy before).pauses call, policy.initialDelay ≤ policy.maxDelay ∨ 1 < p.number →
            p.ms ≤ ms ∨ ms = left) ∧
      ∀ a result, (chronicle policy before).now.find? call = some a →
        (chronicle policy before).now.Ends i a result → (∀ c, result ≠ .connected c) →
        a.retry.attempts < policy.maxAttempts →
        ∃ ms, own call ((chronicle policy before).now.act i).2 = [.pause call a.retry.attempts ms] := by
  have hmove := moves_chronicle policy hs call
  constructor
  · intro k ms hp
    obtain ⟨a, result, ha, hends, hfailed, hmore, rfl, rfl⟩ := hmove.of_pause (mem_own.2 ⟨hp, rfl⟩)
    obtain rfl := call_of_find? (find?_of_standing ha)
    obtain ⟨hgoverned, hnumbers, ⟨first, hfirst, hsince⟩, hdelay, hpauses, hlengths⟩ :=
      record_chronicle hlongest hs.left ha
    simp only [hends.trying, Bool.false_eq_true, if_false] at hdelay hpauses
    simp only [hdelay, Retry.remaining, hgoverned, ← hsince] at hlengths ⊢
    refine ⟨⟨result, hends.event, hfailed⟩, hgoverned ▸ hmore, hnumbers, hpauses, first, _, hfirst, rfl, rfl, ?_, ?_⟩
    · intro hbound
      rw [RetryPolicy.pauseAfter_eq hbound]
      exact ⟨rfl, by omega⟩
    · intro p hp hbound
      have hnumber : p.number ∈ List.range' 1 (a.retry.attempts - 1) := hpauses ▸ List.mem_map_of_mem hp
      have hmono := RetryPolicy.pauseAfter_mono (p := policy) (k := a.retry.attempts) hbound
        (by have := List.mem_range'_1.1 hnumber; omega)
      have hlength := hlengths p hp
      omega
  · intro a result hf hends hfailed hmore
    have ha := standing_of_find? hf
    rw [ha] at hmove
    rw [← (record_chronicle hlongest hs.left ha).governed] at hmore
    exact hmove.of_failed hends hfailed hmore

/-- What a caller that acquires a connection goes through whose attempt fails at once. -/
def refusedAtOnce : List Moment :=
  [⟨0, fun _ => true, .acquire 7⟩, ⟨0, fun _ => true, .ended 7 1 (.failed (.connection "refused"))⟩]

/-- A longest pause that is shorter than the first one. -/
def shortLongest : RetryPolicy := ⟨1000, 100, 3, 60000⟩

/-- After the first failure the pause is longer than the longest. -/
theorem backoff_firstPause : ∃ before i, refusedAtOnce = before ++ [i] ∧ Schedule (before ++ [i]) ∧
    own 7 ((chronicle shortLongest before).now.act i).2 = [.pause 7 1 1000] ∧
    ((chronicle shortLongest before).tries 7).map (·.time) = [i.time] ∧
    1000 ≠ min (min (shortLongest.initialDelay * 2 ^ (1 - 1)) shortLongest.maxDelay) (shortLongest.maxWait - 0) ∧
    shortLongest.maxDelay < 1000 :=
  ⟨[_], _, rfl, by decide, rfl, rfl, by decide, by decide⟩

/-- The second failure of a caller, after the pause that the first one made. -/
def refusedTwice : List Moment × Moment :=
  (refusedAtOnce ++ [⟨100, fun _ => true, .resume 7 1⟩],
    ⟨100, fun _ => true, .ended 7 2 (.failed (.connection "refused"))⟩)

/-- A longest pause between the first one and its double. -/
def middlingLongest : RetryPolicy := ⟨100, 150, 5, 60000⟩

/-- The second pause is cut to the longest, and only that one is made. -/
theorem backoff_refusedTwice :
    let (before, i) := refusedTwice
    let actions := ((chronicle middlingLongest before).now.act i).2
    middlingLongest.maxDelay ≤ longestTime ∧ Schedule (before ++ [i]) ∧ .pause 7 2 150 ∈ actions ∧
      (∃ first, ((chronicle middlingLongest before).tries 7).head? = some first ∧
        150 = min (min (100 * 2 ^ (2 - 1)) 150) (60000 - (100 - first.time))) ∧
      ∃ ms, own 7 actions = [.pause 7 2 ms] := by
  have hlongest : middlingLongest.maxDelay ≤ longestTime := by decide
  have hs : Schedule (refusedTwice.1 ++ [refusedTwice.2]) := by decide
  have hown : own 7 ((chronicle middlingLongest refusedTwice.1).now.act refusedTwice.2).2 = [.pause 7 2 150] := rfl
  have hp := (mem_own.1 (hown ▸ List.mem_singleton_self _)).1
  obtain ⟨hpause, hpauses⟩ := backoff hlongest hs 7
  obtain ⟨-, -, -, -, first, left, hfirst, rfl, -, hcapped, -⟩ := hpause 2 150 hp
  refine ⟨hlongest, hs, hp, ⟨first, hfirst, (hcapped (.inr (by decide))).1⟩, ?_⟩
  exact hpauses { call := 7, retry := ⟨middlingLongest, 0, 150, 2⟩, shared := false, seen := 0 } _ rfl
    ⟨rfl, rfl, rfl⟩ nofun (by decide)

end Manager
end BrokerClient
