import BrokerClient.Proofs.Connection.Standing
import Mathlib.Data.List.Induction

/-!
# What one call goes through

`Moves` says what one step can do to a call, from where it stands, with what is done for it meanwhile. A step that is
about a call `Turns` that one and spares the others; an interrupt is about all of them and moves none. So every step of
an orderly manager moves every call as it may and leaves the manager orderly (`Orderly.act`), and so does what happens
in every chronicle (`moves_chronicle`).
-/

namespace BrokerClient.Manager

/-! ## Moves -/

/-- The call that an event is about. An interrupt is about all of them. -/
def Event.call? : Event → Option CallId
  | .interrupt => none
  | .acquire call | .ask call | .turn call | .noticed call | .abandon call => some call
  | .ended call .. | .resume call _ => some call

/-- The acquisition of a call that makes its first attempt. -/
def first (m : Manager) (now : Nat) (call : CallId) (shared : Bool) : Acquisition :=
  { call, retry := { Retry.start m.policy now with attempts := 1 }, shared, seen := m.generation }

/-- An acquisition that pauses after a failure. -/
def Acquisition.paused (a : Acquisition) : Acquisition :=
  { a with retry := { a.retry with delay := min (doubled a.retry.delay) a.retry.policy.maxDelay }, pausing := true }

/-- An acquisition that makes its next attempt. -/
def Acquisition.retried (a : Acquisition) : Acquisition :=
  { a with retry := { a.retry with attempts := a.retry.attempts + 1 }, pausing := false }

/-- An acquisition runs again: its attempt ended, its pause is over, or it looks whether it was interrupted. -/
def Acquisition.Runs (a : Acquisition) (e : Event) : Prop :=
  (∃ result, e = .ended a.call a.retry.attempts result ∧ a.pausing = false) ∨
    (e = .resume a.call a.retry.attempts ∧ a.pausing = true) ∨ e = .noticed a.call

/-- The attempt of an acquisition ends, and nothing interrupted it. -/
structure Ends (m : Manager) (i : Moment) (a : Acquisition) (result : Attempt) : Prop where
  event : i.event = .ended a.call a.retry.attempts result
  trying : a.pausing = false
  undisturbed : m.interrupted a = false

/-- The pause of an acquisition is over, and nothing interrupted it. -/
structure Resumes (m : Manager) (i : Moment) (a : Acquisition) : Prop where
  event : i.event = .resume a.call a.retry.attempts
  pausing : a.pausing = true
  undisturbed : m.interrupted a = false

/-- A call has the turn for the connection that is shared: it asks when nobody has it, or was queued before. -/
def Takes (i : Moment) (call : CallId) (s : Standing) : Prop :=
  s = .absent ∧ i.event = .ask call ∨ s = .granted ∧ i.event = .turn call

/-- A call begins to acquire a connection, for itself or the one that is shared. -/
def Begins (m : Manager) (i : Moment) (call : CallId) (s : Standing) (shared : Bool) : Prop :=
  (s = .absent ∧ i.event = .acquire call ∧ shared = false) ∨
    (Takes i call s ∧ m.current.filter i.isOpen = none ∧ shared = true)

/-- What happens makes a call go on, from where it stands. -/
def Stirs (m : Manager) (i : Moment) (call : CallId) : Standing → Prop
  | .absent => i.event.request? = some call
  | .queued => False
  | .granted => i.event = .turn call
  | .acquiring a => a.Runs i.event ∧ (i.event = .noticed call → m.interrupted a = true)

/-- How a step can move a call, and what it does for it. -/
inductive Moves (m : Manager) (i : Moment) (call : CallId) : Standing → List Action → Standing → Prop
  | rest {s : Standing} (still : ¬ m.Stirs i call s) : Moves m i call s [] s
  | leave {s : Standing} (event : i.event = .abandon call) : Moves m i call s [] .absent
  | queue (event : i.event = .ask call) : Moves m i call .absent [] .queued
  | grant : Moves m i call .queued [] .granted
  /-- It is handed the connection that is shared. -/
  | hand {s : Standing} {c : ConnectionId} (turn : Takes i call s)
    (current : m.current.filter i.isOpen = some c) : Moves m i call s [.finish call (.ok c)] .absent
  /-- It makes its first attempt. -/
  | begin {s : Standing} {shared : Bool} (begins : m.Begins i call s shared) :
    Moves m i call s [.connect call 1 m.policy.maxWait] (.acquiring (m.first i.time call shared))
  | interrupted {a : Acquisition} (event : a.Runs i.event) (disturbed : m.interrupted a = true) :
    Moves m i call (.acquiring a) [.finish call (.error .interrupted)] .absent
  | connected {a : Acquisition} {c : ConnectionId} (ends : m.Ends i a (.connected c)) :
    Moves m i call (.acquiring a) [.finish call (.ok c)] .absent
  /-- Its last attempt failed. -/
  | exhausted {a : Acquisition} {result : Attempt} (ends : m.Ends i a result) (failed : ∀ c, result ≠ .connected c)
    (last : a.retry.policy.maxAttempts ≤ a.retry.attempts) :
    Moves m i call (.acquiring a) [.finish call (.error (.attemptsExhausted a.retry.attempts))] .absent
  | pause {a : Acquisition} {result : Attempt} (ends : m.Ends i a result) (failed : ∀ c, result ≠ .connected c)
    (more : a.retry.attempts < a.retry.policy.maxAttempts) :
    Moves m i call (.acquiring a) [.pause call a.retry.attempts (min a.retry.delay (a.retry.remaining i.time))]
      (.acquiring a.paused)
  /-- Its time is up when it would try again. -/
  | late {a : Acquisition} (resumes : m.Resumes i a) (used : a.retry.remaining i.time = 0) :
    Moves m i call (.acquiring a)
      [.finish call (.error (.deadlineExceeded a.retry.attempts (i.time - a.retry.started)))] .absent
  | retry {a : Acquisition} (resumes : m.Resumes i a) :
    Moves m i call (.acquiring a) [.connect call (a.retry.attempts + 1) (a.retry.remaining i.time)]
      (.acquiring a.retried)

/-- What a step that is about a call leads to: where that call stands then, what is done for it, and that it was the
only one to do something. -/
structure Turns (m : Manager) (call : CallId) (r : Effect) (actions : List Action) (s : Standing) : Prop where
  orderly : r.1.Orderly
  stands : r.1.standing call = s
  does : own call r.2 = actions
  spares : m.Spares call r
  policy : r.1.policy = m.policy
  generation : r.1.generation = m.generation
  current : r.1.current = m.current ∨
    m.holder = some call ∧ ∃ c, r.1.current = some c ∧ actions = [.finish call (.ok c)]

/-- What a step about a call leads to is a move of that call, from where it stands. -/
inductive Goes (m : Manager) (i : Moment) (call : CallId) (s : Standing) (r : Effect) : Prop
  | intro {actions : List Action} {s' : Standing} (turns : m.Turns call r actions s')
    (moves : m.Moves i call s actions s') : Goes m i call s r

section

variable {m m' : Manager} {call other : CallId} {a : Acquisition}

theorem Takes.ne_acquiring {i : Moment} {s : Standing} (h : Takes i call s) : s ≠ .acquiring a := by
  rcases h with ⟨rfl, -⟩ | ⟨rfl, -⟩ <;> simp

theorem Begins.ne_acquiring {i : Moment} {s : Standing} {shared : Bool} (h : m.Begins i call s shared) :
    s ≠ .acquiring a := by
  rcases h with ⟨rfl, -⟩ | ⟨turn, -⟩
  · simp
  · exact turn.ne_acquiring

theorem release_frame (m : Manager) : m.release.1.policy = m.policy ∧ m.release.1.generation = m.generation ∧
    m.release.1.current = m.current := by
  unfold Manager.release
  split <;> exact ⟨rfl, rfl, rfl⟩

/-- What is done for a call is done for no other. -/
theorem own_of_forall {actions : List Action} (h : ∀ x ∈ actions, x.call? = some call) :
    own call actions = actions ∧ ∀ other, other ≠ call → own other actions = [] := by
  refine ⟨List.filter_eq_self.2 fun x hx => by simp [h x hx], fun other hne => ?_⟩
  exact List.filter_eq_nil_iff.2 fun x hx => by simp [h x hx, hne.symm]

/-- When a call that had the turn is over, its turn passes. -/
theorem Leaving.turns (h : m'.Leaving call) (hs : ∀ other, other ≠ call → m'.standing other = m.standing other)
    (hp : m'.policy = m.policy) (hg : m'.generation = m.generation) {actions : List Action}
    (hactions : ∀ x ∈ actions, x.call? = some call)
    (hc : m'.current = m.current ∨ m.holder = some call ∧ ∃ c, m'.current = some c ∧ actions = [.finish call (.ok c)]) :
    m.Turns call (m'.release.1, m'.release.2 ++ actions) actions .absent := by
  obtain ⟨horderly, habsent, hown, hspares⟩ := h.release
  obtain ⟨hpolicy, hgeneration, hcurrent⟩ := release_frame m'
  obtain ⟨hmine, hother⟩ := own_of_forall hactions
  refine ⟨horderly, habsent, ?_, fun other hne => ?_, hpolicy.trans hp, hgeneration.trans hg, hcurrent.symm ▸ hc⟩
  · rw [own_append, hown, hmine, List.nil_append]
  · rw [own_append, hown, hother other hne, ← hs other hne]
    exact ⟨rfl, (hspares other hne).2⟩

/-- A call goes on with an acquisition, and does one thing. -/
theorem Orderly.turns_keep (h : m.Orderly) (hw : a.call ∉ m.waiting) (hs : a.shared = true ↔ m.holder = some a.call)
    (logs : List LogEntry) {action : Action} (haction : action.call? = some a.call) :
    m.Turns a.call (m.keep a, logs.map .log ++ [action]) [action] (.acquiring a) := by
  obtain ⟨hpolicy, hcurrent, -, -, hgeneration⟩ := keep_frame m a
  have haction : ∀ x ∈ [action], x.call? = some a.call := fun x hx => List.mem_singleton.1 hx ▸ haction
  obtain ⟨hmine, hother⟩ := own_of_forall haction
  refine ⟨h.keep hw hs, standing_of_find? (find?_keep m a), ?_, ?_, hpolicy, hgeneration, .inl hcurrent⟩
  · rw [own_append, own_logs, hmine, List.nil_append]
  · intro other hne
    rw [own_append, own_logs, hother other hne]
    exact ⟨rfl, .inl (standing_keep_of_ne m hne)⟩

theorem begin_eq (m : Manager) (now : Nat) (call : CallId) (shared : Bool) : m.begin now call shared =
    (m.keep (m.first now call shared), [.connect call 1 m.policy.maxWait]) := by
  simp [Manager.begin, proceed, Retry.attempt, Retry.start, Retry.remaining, first]

theorem Orderly.turns_begin (h : m.Orderly) (hw : call ∉ m.waiting) (now : Nat) {shared : Bool}
    (hs : shared = true ↔ m.holder = some call) : m.Turns call (m.begin now call shared)
      [.connect call 1 m.policy.maxWait] (.acquiring (m.first now call shared)) := by
  rw [begin_eq]
  exact h.turns_keep (a := m.first now call shared) hw hs [] rfl

/-- The turn of a call: it is handed the connection that is shared, or begins to acquire one. -/
theorem Orderly.turns_serve (h : m.Orderly) (hs : m.standing call = .granted) (isOpen : ConnectionId → Bool)
    (now : Nat) :
    (∃ c, m.current.filter isOpen = some c ∧ m.Turns call (m.serve isOpen now call) [.finish call (.ok c)] .absent) ∨
    (m.current.filter isOpen = none ∧ m.Turns call (m.serve isOpen now call) [.connect call 1 m.policy.maxWait]
      (.acquiring (m.first now call true))) := by
  unfold serve
  split
  · rename_i c hc
    refine .inl ⟨c, hc, ?_⟩
    exact (h.leaving hs).turns (fun _ _ => rfl) rfl rfl (fun x hx => List.mem_singleton.1 hx ▸ rfl) (.inl rfl)
  · rename_i hc
    obtain ⟨-, hh⟩ := of_granted hs
    exact .inr ⟨hc, h.turns_begin (fun hw => (h.waiting call hw).2 hh) now (by simp [hh])⟩

theorem Orderly.not_waiting (h : m.Orderly) (hf : m.find? call = some a) : call ∉ m.waiting := by
  intro hw
  rw [(h.waiting call hw).1] at hf
  cases hf

theorem Orderly.drop (h : m.Orderly) (call : CallId) : (m.drop call).Orderly := by
  refine ⟨h.nodup, fun other hw => ⟨?_, (h.waiting other hw).2⟩, fun other b hb => ?_⟩
  · rw [find?_drop, (h.waiting other hw).1, ite_self]
  · rw [find?_drop] at hb
    split at hb
    · cases hb
    · exact h.shared other b hb

theorem standing_drop_of_ne (m : Manager) (hne : other ≠ call) : (m.drop call).standing other = m.standing other :=
  standing_congr (find?_drop_of_ne m hne) Iff.rfl Iff.rfl

/-- An acquisition ends. -/
theorem Orderly.turns_conclude (h : m.Orderly) (hf : m.find? call = some a) (result : Except Error ConnectionId) :
    m.Turns call (m.conclude a result) [.finish call result] .absent := by
  obtain rfl := call_of_find? hf
  have hmine : ∀ x ∈ [Action.finish a.call result], x.call? = some a.call := fun x hx => List.mem_singleton.1 hx ▸ rfl
  unfold conclude
  cases hshared : a.shared with
  | false =>
    obtain ⟨hown, hother⟩ := own_of_forall hmine
    have hholder : m.holder ≠ some a.call := fun hh => by simp [(h.shared _ a hf).2 hh] at hshared
    exact ⟨h.drop _, standing_absent (find?_drop_self m _) hholder (h.not_waiting hf), hown,
      fun other hne => ⟨hother other hne, .inl (standing_drop_of_ne m hne)⟩, rfl, rfl, .inl rfl⟩
  | true =>
    have hholder : m.holder = some a.call := (h.shared _ a hf).1 hshared
    -- without its acquisition it only has the turn
    have hleaving := (h.drop a.call).leaving (standing_granted (find?_drop_self m _) hholder)
    have hsame (other : CallId) (hne : other ≠ a.call) := standing_drop_of_ne m hne
    cases result with
    | error e => exact hleaving.turns hsame rfl rfl hmine (.inl rfl)
    | ok c =>
      have hleaving : ({ m.drop a.call with current := some c } : Manager).Leaving a.call :=
        ⟨hleaving.holder, hleaving.gone, hleaving.nodup, hleaving.waiting, hleaving.apart⟩
      exact hleaving.turns hsame rfl rfl hmine (.inr ⟨hholder, c, rfl, rfl⟩)

/-- A call that goes away leaves everything that it had. -/
theorem Orderly.turns_abandon (h : m.Orderly) (call : CallId) : m.Turns call (m.abandon call) [] .absent := by
  let rest : Manager := { m with waiting := m.waiting.filter (· != call) }
  have hmem (other : CallId) : other ∈ (rest.drop call).waiting ↔ other ∈ m.waiting ∧ other ≠ call := by
    simp [rest, Manager.drop]
  have hrest : rest.Orderly :=
    ⟨h.nodup.filter _, fun other hw => h.waiting other (List.mem_filter.1 hw).1, h.shared⟩
  have hsame (other : CallId) (hne : other ≠ call) : (rest.drop call).standing other = m.standing other :=
    standing_congr (find?_drop_of_ne rest hne) Iff.rfl (by simp [hmem, hne])
  have hgone : (rest.drop call).find? call = none := find?_drop_self rest call
  have habandon : m.abandon call =
      if m.holder = some call then (rest.drop call).release else (rest.drop call, []) := rfl
  rw [habandon]
  split
  · rename_i hholder
    have hleaving := (hrest.drop call).leaving (standing_granted hgone hholder)
    have hturns : m.Turns call ((rest.drop call).release.1, (rest.drop call).release.2 ++ []) [] .absent :=
      hleaving.turns hsame rfl rfl (by simp) (.inl rfl)
    rwa [List.append_nil] at hturns
  · rename_i hholder
    have habsent := standing_absent hgone hholder (by simp [hmem])
    exact ⟨hrest.drop call, habsent, rfl, fun other hne => ⟨rfl, .inl (hsame other hne)⟩, rfl, rfl, .inl rfl⟩

theorem Turns.log {r : Effect} {actions : List Action} {s : Standing} (h : m.Turns call r actions s)
    (logs : List LogEntry) : m.Turns call (r.1, logs.map .log ++ r.2) actions s where
  orderly := h.orderly
  stands := h.stands
  does := by rw [own_append, own_logs, List.nil_append, h.does]
  spares other hne := by
    rw [own_append, own_logs, List.nil_append]
    exact h.spares other hne
  policy := h.policy
  generation := h.generation
  current := h.current

theorem Orderly.turns_nothing (h : m.Orderly) (call : CallId) : m.Turns call (m, []) [] (m.standing call) :=
  ⟨h, rfl, rfl, fun _ _ => ⟨rfl, .inl rfl⟩, rfl, rfl, .inl rfl⟩

/-! ## Every step -/

/-- The attempt of an acquisition ends. -/
theorem Orderly.goes_ended (h : m.Orderly) {i : Moment} {result : Attempt} (hf : m.find? a.call = some a)
    (ends : m.Ends i a result) : m.Goes i a.call (.acquiring a) (m.proceed a (a.retry.ended i.time result)) := by
  have hw := h.not_waiting hf
  have hs := h.shared _ a hf
  have hfailed (other : ∀ c, result ≠ .connected c) :
      m.Goes i a.call (.acquiring a) (m.proceed a (a.retry.ended i.time result)) := by
    have hended : a.retry.ended i.time result = ((a.retry.afterFailure i.time).1,
        a.retry.report result :: (a.retry.afterFailure i.time).2.1, (a.retry.afterFailure i.time).2.2) := by
      cases result with
      | connected c => exact absurd rfl (other c)
      | failed e => rfl
      | timedOut => rfl
    rw [hended]
    by_cases hlast : a.retry.policy.maxAttempts ≤ a.retry.attempts
    · rw [Retry.afterFailure, if_pos hlast]
      exact ⟨(h.turns_conclude hf _).log _, .exhausted ends other hlast⟩
    · rw [Retry.afterFailure, if_neg hlast]
      exact ⟨h.turns_keep (a := a.paused) hw hs _ rfl, .pause ends other (Nat.not_le.1 hlast)⟩
  cases result with
  | connected c => exact ⟨(h.turns_conclude hf _).log _, .connected ends⟩
  | failed e => exact hfailed (by simp)
  | timedOut => exact hfailed (by simp)

/-- The pause of an acquisition is over. -/
theorem Orderly.goes_resume (h : m.Orderly) {i : Moment} (hf : m.find? a.call = some a) (resumes : m.Resumes i a) :
    m.Goes i a.call (.acquiring a) (m.proceed a (a.retry.attempt i.time)) := by
  unfold Retry.attempt
  simp only
  split
  · rename_i hlate
    exact ⟨(h.turns_conclude hf _).log _, .late resumes hlate.2⟩
  · exact ⟨h.turns_keep (a := a.retried) (h.not_waiting hf) (h.shared _ a hf) _ rfl, .retry resumes⟩

theorem runs_ended {attempt : Nat} {result : Attempt} : a.Runs (.ended call attempt result) ↔
    a.call = call ∧ a.retry.attempts = attempt ∧ a.pausing = false := by
  constructor
  · rintro (⟨_, ⟨⟩, hp⟩ | ⟨⟨⟩, _⟩ | ⟨⟨⟩⟩)
    exact ⟨rfl, rfl, hp⟩
  · rintro ⟨rfl, rfl, hp⟩
    exact .inl ⟨result, rfl, hp⟩

theorem runs_resume {attempt : Nat} : a.Runs (.resume call attempt) ↔
    a.call = call ∧ a.retry.attempts = attempt ∧ a.pausing = true := by
  constructor
  · rintro (⟨_, ⟨⟩, _⟩ | ⟨⟨⟩, hp⟩ | ⟨⟨⟩⟩)
    exact ⟨rfl, rfl, hp⟩
  · rintro ⟨rfl, rfl, hp⟩
    exact .inr (.inl ⟨rfl, hp⟩)

theorem runs_noticed : a.Runs (.noticed call) ↔ a.call = call := by
  constructor
  · rintro (⟨_, ⟨⟩, _⟩ | ⟨⟨⟩, _⟩ | ⟨⟨⟩⟩)
    rfl
  · rintro rfl
    exact .inr (.inr rfl)

theorem call?_of_runs {e : Event} (h : a.Runs e) : e.call? = some a.call := by
  rcases h with ⟨_, rfl, _⟩ | ⟨rfl, _⟩ | rfl <;> rfl

/-- What happens to no acquisition, and is no turn and no new call, stirs no call. -/
theorem not_stirs {i : Moment} (hrequest : i.event.request? = none) (hturn : i.event ≠ .turn call)
    (hruns : ∀ a, m.find? call = some a → a.Runs i.event → i.event = .noticed call ∧ m.interrupted a = false) :
    ¬ m.Stirs i call (m.standing call) := by
  rcases standing_cases m call with ⟨hs, -⟩ | ⟨hs, -⟩ | ⟨hs, -⟩ | ⟨a, hs, hf⟩ <;> rw [hs]
  · simp [Stirs, hrequest]
  · exact id
  · exact hturn
  · rintro ⟨hr, hn⟩
    obtain ⟨he, hi⟩ := hruns a hf hr
    rw [hn he] at hi
    cases hi

/-- An attempt ended or a pause is over, of an acquisition that may be gone or interrupted. -/
theorem Orderly.goes_resumed (h : m.Orderly) {i : Moment} {attempt : Nat} {pausing : Bool}
    {f : Acquisition → Retry.Progress} (hrequest : i.event.request? = none) (hturn : i.event ≠ .turn call)
    (hruns : ∀ a : Acquisition, a.Runs i.event ↔ a.call = call ∧ a.retry.attempts = attempt ∧ a.pausing = pausing)
    (hgoes : ∀ a : Acquisition, m.find? a.call = some a → a.Runs i.event → m.interrupted a = false →
      m.Goes i a.call (.acquiring a) (m.proceed a (f a))) :
    m.Goes i call (m.standing call) (m.resumed call attempt pausing f) := by
  have hnothing (hnot : ∀ a, m.find? call = some a → ¬ a.Runs i.event) : m.Goes i call (m.standing call) (m, []) :=
    ⟨h.turns_nothing call, .rest (not_stirs hrequest hturn fun a hf hr => absurd hr (hnot a hf))⟩
  unfold resumed
  split
  · rename_i hf
    refine hnothing fun a ha => ?_
    rw [hf] at ha
    cases ha
  · rename_i a hf
    obtain rfl := call_of_find? hf
    split
    · rename_i hother
      refine hnothing fun b hb hr => ?_
      rw [hf] at hb
      cases hb
      obtain ⟨-, ha, hp⟩ := (hruns a).1 hr
      simp [ha, hp] at hother
    · rename_i hsame
      have hr : a.Runs i.event := (hruns a).2 ⟨rfl, by simpa using hsame⟩
      rw [standing_of_find? hf]
      split
      · rename_i hi
        exact ⟨h.turns_conclude hf _, .interrupted hr hi⟩
      · rename_i hi
        exact hgoes a hf hr (by simpa using hi)

theorem serve_current (m : Manager) (isOpen : ConnectionId → Bool) (now : Nat) (call : CallId) :
    (m.serve isOpen now call).1.current = m.current := by
  unfold serve
  split
  · exact (release_frame m).2.2
  · rw [begin_eq]
    exact (keep_frame m _).2.1

/-- A call that has the turn goes on, in the manager as it is then. -/
theorem Orderly.goes_serve (h : m'.Orderly) {i : Moment} {s₀ : Standing} (turn : Takes i call s₀)
    (hs : m'.standing call = .granted) (hsame : ∀ other, other ≠ call → m'.standing other = m.standing other)
    (hp : m'.policy = m.policy) (hg : m'.generation = m.generation) (hc : m'.current = m.current) :
    m.Goes i call s₀ (m'.serve i.isOpen i.time call) := by
  have hturns {actions : List Action} {s : Standing}
      (ht : m'.Turns call (m'.serve i.isOpen i.time call) actions s) :
      m.Turns call (m'.serve i.isOpen i.time call) actions s :=
    ⟨ht.orderly, ht.stands, ht.does, fun other hne => hsame other hne ▸ ht.spares other hne, ht.policy.trans hp,
      ht.generation.trans hg, .inl ((serve_current ..).trans hc)⟩
  rcases h.turns_serve hs i.isOpen i.time with ⟨c, hopen, ht⟩ | ⟨hnone, ht⟩
  · exact ⟨hturns ht, .hand turn (hc ▸ hopen)⟩
  · refine ⟨hturns ht, ?_⟩
    rw [hp, show m'.first i.time call true = m.first i.time call true by simp [first, hp, hg]]
    exact .begin (.inr ⟨turn, hc ▸ hnone, rfl⟩)

/-- Somebody takes the turn that nobody has. -/
theorem Orderly.take (h : m.Orderly) (hs : m.standing call = .absent) (hh : m.holder = none) :
    ({ m with holder := some call } : Manager).Orderly ∧
      ({ m with holder := some call } : Manager).standing call = .granted ∧
      ∀ other, other ≠ call → ({ m with holder := some call } : Manager).standing other = m.standing other := by
  obtain ⟨hf, -, hw⟩ := of_absent hs
  refine ⟨⟨h.nodup, fun other hm => ⟨(h.waiting other hm).1, ?_⟩, fun other b hb => ?_⟩, standing_granted hf rfl, ?_⟩
  · rintro ⟨⟩
    exact hw hm
  · have hne : call ≠ other := by
      rintro rfl
      rw [show m.find? call = some b from hb] at hf
      cases hf
    simpa [hh, hne] using h.shared other b hb
  · intro other hne
    exact standing_congr rfl (by simp [hh, hne.symm]) Iff.rfl

/-- A call that asks while another has the turn is queued. -/
theorem Orderly.turns_queue (h : m.Orderly) (hs : m.standing call = .absent) :
    m.Turns call ({ m with waiting := m.waiting ++ [call] }, []) [] .queued := by
  obtain ⟨hf, hholder, hw⟩ := of_absent hs
  have hmem (other : CallId) : other ∈ m.waiting ++ [call] ↔ other ∈ m.waiting ∨ other = call := by simp
  refine ⟨⟨?_, fun other hm => ?_, h.shared⟩, ?_, rfl, fun other hne => ⟨rfl, .inl ?_⟩, rfl, rfl, .inl rfl⟩
  · refine List.nodup_append.2 ⟨h.nodup, by simp, ?_⟩
    rintro a ha b hb rfl
    exact hw (List.mem_singleton.1 hb ▸ ha)
  · rcases (hmem other).1 hm with hm | rfl
    · exact h.waiting other hm
    · exact ⟨hf, hholder⟩
  · have hqueued : ({ m with waiting := m.waiting ++ [call] } : Manager).find? call = none := hf
    simp [standing, hqueued, hholder]
  · exact standing_congr rfl Iff.rfl (by simp [hne])

/-- Every step that is about one call moves that call. -/
theorem Orderly.goes_act (h : m.Orderly) (i : Moment) (hnew : ∀ c, i.event.request? = some c → m.standing c = .absent)
    (he : i.event.call? = some call) :
    m.Goes i call (m.standing call) (m.act i) := by
  rcases i with ⟨time, isOpen, e⟩
  cases e with
  | acquire c =>
    cases he
    have hs := hnew call rfl
    obtain ⟨-, hh, hw⟩ := of_absent hs
    rw [hs]
    exact ⟨h.turns_begin hw time (by simp [hh]), .begin (.inl ⟨rfl, rfl, rfl⟩)⟩
  | ask c =>
    cases he
    have hs := hnew call rfl
    obtain ⟨hf, hh, hw⟩ := of_absent hs
    rw [hs]
    simp only [act, step]
    split
    · exact ⟨h.turns_queue hs, .queue rfl⟩
    · rename_i hfree
      obtain ⟨horderly, hgranted, hsame⟩ := h.take hs (by simpa using hfree)
      exact horderly.goes_serve (i := ⟨time, isOpen, .ask call⟩) (.inl ⟨rfl, rfl⟩) hgranted hsame rfl rfl rfl
  | turn c =>
    cases he
    simp only [act, step]
    split
    · rename_i hturn
      have hs : m.standing call = .granted := standing_granted (Option.isNone_iff_eq_none.1 hturn.2) hturn.1
      rw [hs]
      exact h.goes_serve (i := ⟨time, isOpen, .turn call⟩) (.inr ⟨rfl, rfl⟩) hs (fun _ _ => rfl) rfl rfl rfl
    · rename_i hturn
      refine ⟨h.turns_nothing call, .rest fun hstirs => ?_⟩
      rcases standing_cases m call with ⟨hs, -⟩ | ⟨hs, -⟩ | ⟨-, hf, hh⟩ | ⟨a, hs, -⟩
      · rw [hs] at hstirs
        cases hstirs
      · rw [hs] at hstirs
        exact hstirs
      · exact hturn ⟨hh, by simp [hf]⟩
      · rw [hs] at hstirs
        rcases hstirs.1 with ⟨_, he, _⟩ | ⟨he, _⟩ | he <;> cases he
  | ended c attempt result =>
    cases he
    refine h.goes_resumed rfl (by simp) (fun a => runs_ended) fun a hf hr hi => ?_
    obtain ⟨rfl, rfl, hp⟩ := runs_ended.1 hr
    exact h.goes_ended hf ⟨rfl, hp, hi⟩
  | resume c attempt =>
    cases he
    refine h.goes_resumed rfl (by simp) (fun a => runs_resume) fun a hf hr hi => ?_
    obtain ⟨rfl, rfl, hp⟩ := runs_resume.1 hr
    exact h.goes_resume hf ⟨rfl, hp, hi⟩
  | interrupt => cases he
  | noticed c =>
    cases he
    simp only [act, step]
    split
    · rename_i a hf
      have hr : a.Runs (.noticed call) := runs_noticed.2 (call_of_find? hf)
      split
      · rename_i hi
        rw [standing_of_find? hf]
        exact ⟨h.turns_conclude hf _, .interrupted hr hi⟩
      · rename_i hi
        refine ⟨h.turns_nothing call, .rest (not_stirs rfl (by simp) fun b hb _ => ⟨rfl, ?_⟩)⟩
        rw [hf] at hb
        cases hb
        simpa using hi
    · rename_i hf
      refine ⟨h.turns_nothing call, .rest (not_stirs rfl (by simp) fun b hb _ => ?_)⟩
      rw [hf] at hb
      cases hb
  | abandon c =>
    cases he
    exact ⟨h.turns_abandon call, .leave rfl⟩

/-- Nothing stirs a call but what happens to it. -/
theorem not_stirs_of_call? {i : Moment} (he : i.event.call? ≠ some call) : ¬ m.Stirs i call (m.standing call) := by
  rcases standing_cases m call with ⟨hs, -⟩ | ⟨hs, -⟩ | ⟨hs, -⟩ | ⟨a, hs, hf⟩ <;> rw [hs]
  · intro hr
    refine he ?_
    cases hevent : i.event <;> simp_all [Event.request?, Event.call?, Stirs]
  · exact id
  · intro hturn
    exact he (by rw [show i.event = .turn call from hturn]; rfl)
  · rintro ⟨hr, -⟩
    exact he (call_of_find? hf ▸ call?_of_runs hr)

/-- An interrupt begins a generation, wakes every acquisition, and changes nothing else. -/
theorem act_interrupt {i : Moment} (hi : i.event = .interrupt) : m.act i =
    ({ m with generation := m.generation + 1 }, m.acquisitions.map fun a => .wake (.noticed a.call)) := by
  rw [act, hi]
  rfl

theorem interrupt_or_call? (e : Event) : e = .interrupt ∨ ∃ call, e.call? = some call := by
  cases e with
  | interrupt => exact .inl rfl
  | acquire c | ask c | turn c | ended c _ _ | resume c _ | noticed c | abandon c => exact .inr ⟨c, rfl⟩

/-- **Every step of an orderly manager moves each call as it may, if a call that comes is new, and the manager is
orderly again.** -/
theorem Orderly.act (h : m.Orderly) {i : Moment} (hnew : ∀ c, i.event.request? = some c → m.standing c = .absent) :
    (m.act i).1.Orderly ∧ (m.act i).1.policy = m.policy ∧
      ∀ call, m.Moves i call (m.standing call) (own call (m.act i).2) ((m.act i).1.standing call) := by
  rcases interrupt_or_call? i.event with hi | ⟨subject, he⟩
  · rw [act_interrupt hi]
    refine ⟨⟨h.nodup, h.waiting, h.shared⟩, rfl, fun call => ?_⟩
    rw [own_wakes]
    exact .rest (not_stirs_of_call? (by rw [hi]; nofun))
  · obtain ⟨hturns, hmoves⟩ := h.goes_act i hnew he
    refine ⟨hturns.orderly, hturns.policy, fun call => ?_⟩
    by_cases hne : call = subject
    · subst hne
      rwa [hturns.does, hturns.stands]
    · obtain ⟨hown, hsame | ⟨hqueued, hgranted⟩⟩ := hturns.spares call hne
      · rw [hown, hsame]
        exact .rest (not_stirs_of_call? (by rw [he]; simpa using Ne.symm hne))
      · rw [hown, hqueued, hgranted]
        exact .grant

/-- Only an interrupt begins a generation. -/
theorem Orderly.generation (h : m.Orderly) {i : Moment}
    (hnew : ∀ c, i.event.request? = some c → m.standing c = .absent) (hi : i.event ≠ .interrupt) :
    (m.act i).1.generation = m.generation := by
  obtain ⟨subject, he⟩ := (interrupt_or_call? i.event).resolve_left hi
  obtain ⟨hturns, -⟩ := h.goes_act i hnew he
  exact hturns.generation

/-- The connection that is shared changes only when the call whose turn it is ends with another. -/
theorem Orderly.current (h : m.Orderly) {i : Moment}
    (hnew : ∀ c, i.event.request? = some c → m.standing c = .absent) :
    (m.act i).1.current = m.current ∨ ∃ call c, m.holder = some call ∧ (m.act i).1.current = some c ∧
      own call (m.act i).2 = [.finish call (.ok c)] := by
  rcases interrupt_or_call? i.event with hi | ⟨subject, he⟩
  · rw [act_interrupt hi]
    exact .inl rfl
  · obtain ⟨hturns, -⟩ := h.goes_act i hnew he
    rcases hturns.current with hc | ⟨hh, c, hc, hactions⟩
    · exact .inl hc
    · exact .inr ⟨subject, c, hh, hc, hturns.does.trans hactions⟩

/-- Something is done only for the call that an event is about. -/
theorem Orderly.call?_of_own (h : m.Orderly) {i : Moment}
    (hnew : ∀ c, i.event.request? = some c → m.standing c = .absent) (hne : own call (m.act i).2 ≠ []) :
    i.event.call? = some call := by
  rcases interrupt_or_call? i.event with hi | ⟨subject, he⟩
  · rw [act_interrupt hi, own_wakes] at hne
    exact absurd rfl hne
  · obtain ⟨hturns, -⟩ := h.goes_act i hnew he
    by_cases hsubject : call = subject
    · rw [he, hsubject]
    · exact absurd (hturns.spares call hsubject).1 hne

/-- A call that moves was there before or is the one that comes. -/
theorem Moves.from_absent {i : Moment} {actions : List Action} {s : Standing} (h : m.Moves i call .absent actions s) :
    i.event.request? = some call ∨ actions = [] ∧ s = .absent := by
  cases h with
  | rest _ => exact .inr ⟨rfl, rfl⟩
  | leave _ => exact .inr ⟨rfl, rfl⟩
  | queue event => exact .inl (by rw [event]; rfl)
  | hand turn _ =>
    rcases turn with ⟨-, event⟩ | ⟨⟨⟩, -⟩
    exact .inl (by rw [event]; rfl)
  | begin begins =>
    rcases begins with ⟨-, event, -⟩ | ⟨⟨-, event⟩ | ⟨⟨⟩, -⟩, -⟩
    · exact .inl (by rw [event]; rfl)
    · exact .inl (by rw [event]; rfl)

/-- A call that waits for its turn waited before or is the one that comes, and nothing was done for it. -/
theorem Moves.to_waiting {i : Moment} {s s' : Standing} {actions : List Action} (h : m.Moves i call s actions s')
    (hs' : s' = .queued ∨ s' = .granted) :
    actions = [] ∧ (s = .queued ∨ s = .granted ∨ i.event.request? = some call) := by
  cases h with
  | rest _ => exact ⟨rfl, hs'.imp_right .inl⟩
  | queue event => exact ⟨rfl, .inr (.inr (by rw [event]; rfl))⟩
  | grant => exact ⟨rfl, .inl rfl⟩
  | _ => rcases hs' with ⟨⟨⟩⟩ | ⟨⟨⟩⟩

/-- What a step does for a call that goes on with an acquisition. -/
theorem Moves.to_acquiring {i : Moment} {b : Acquisition} {s : Standing} {actions : List Action}
    (h : m.Moves i call s actions (.acquiring b)) :
    (s = .acquiring b ∧ actions = []) ∨
    ((∀ a, s ≠ .acquiring a) ∧ actions = [.connect call 1 m.policy.maxWait] ∧
      ∃ shared, b = m.first i.time call shared) ∨
    (∃ a, s = .acquiring a ∧ a.pausing = false ∧
      actions = [.pause call a.retry.attempts (min a.retry.delay (a.retry.remaining i.time))] ∧
      b = a.paused) ∨
    ∃ a, s = .acquiring a ∧ a.pausing = true ∧
      actions = [.connect call (a.retry.attempts + 1) (a.retry.remaining i.time)] ∧
      b = a.retried := by
  cases h with
  | rest _ => exact .inl ⟨rfl, rfl⟩
  | begin begins => exact .inr (.inl ⟨fun _ => begins.ne_acquiring, rfl, _, rfl⟩)
  | pause ends _ _ => exact .inr (.inr (.inl ⟨_, rfl, ends.trying, rfl, rfl⟩))
  | retry resumes => exact .inr (.inr (.inr ⟨_, rfl, resumes.pausing, rfl, rfl⟩))

end

/-! ## Every chronicle -/

section

variable {policy : RetryPolicy} {is is' : List Moment} {i : Moment} {call : CallId}

theorem own_concat (policy : RetryPolicy) (is : List Moment) (i : Moment) (call : CallId) :
    (chronicle policy (is ++ [i])).own call =
      (chronicle policy is).own call ++ (own call ((chronicle policy is).now.act i).2).map (i.time, ·) := by
  rw [chronicle_concat, Chronicle.own_next]

/-- In every chronicle the manager is orderly, and nothing was done for a call that has not come. -/
theorem orderly_chronicle (policy : RetryPolicy) (hs : Schedule is) :
    (chronicle policy is).now.Orderly ∧ (chronicle policy is).now.policy = policy ∧ ∀ call, call ∉ requests is →
      (chronicle policy is).now.standing call = .absent ∧ (chronicle policy is).own call = [] := by
  induction is using List.reverseRecOn with
  | nil => exact ⟨⟨List.nodup_nil, nofun, nofun⟩, rfl, fun _ _ => ⟨rfl, rfl⟩⟩
  | append_singleton is i ih =>
    obtain ⟨horderly, hpolicy, habsent⟩ := ih hs.left
    obtain ⟨horderly', hpolicy', hmoves⟩ := horderly.act fun c hc => (habsent c (hs.new hc)).1
    rw [chronicle_concat]
    refine ⟨horderly', hpolicy'.trans hpolicy, fun call hcall => ?_⟩
    obtain ⟨hbefore, hnow⟩ : call ∉ requests is ∧ i.event.request? ≠ some call := by
      simpa [requests, not_or] using hcall
    obtain ⟨hstanding, hown⟩ := habsent call hbefore
    have hmove := hmoves call
    rw [hstanding] at hmove
    obtain ⟨hnone, hstays⟩ := hmove.from_absent.resolve_left hnow
    exact ⟨hstays, by rw [Chronicle.own_next, hown, hnone]; rfl⟩

theorem new_chronicle (policy : RetryPolicy) (hs : Schedule (is ++ [i])) (c : CallId) (hc : i.event.request? = some c) :
    (chronicle policy is).now.standing c = .absent :=
  ((orderly_chronicle policy hs.left).2.2 c (hs.new hc)).1

/-- What happens in a chronicle moves each call as it may. -/
theorem moves_chronicle (policy : RetryPolicy) (hs : Schedule (is ++ [i])) (call : CallId) :
    (chronicle policy is).now.Moves i call ((chronicle policy is).now.standing call)
      (own call ((chronicle policy is).now.act i).2) ((chronicle policy (is ++ [i])).now.standing call) := by
  rw [chronicle_concat]
  exact ((orderly_chronicle policy hs.left).1.act (new_chronicle policy hs)).2.2 call

/-- For a call that waits for its turn nothing was done yet. -/
theorem own_waiting (policy : RetryPolicy) (hs : Schedule is) (call : CallId)
    (hwaits : (chronicle policy is).now.standing call = .queued ∨ (chronicle policy is).now.standing call = .granted) :
    (chronicle policy is).own call = [] := by
  induction is using List.reverseRecOn with
  | nil => rfl
  | append_singleton is i ih =>
    obtain ⟨hnone, hbefore⟩ := (moves_chronicle policy hs call).to_waiting hwaits
    rw [own_concat, hnone, List.map_nil, List.append_nil]
    rcases hbefore with hqueued | hgranted | hnew
    · exact ih hs.left (.inl hqueued)
    · exact ih hs.left (.inr hgranted)
    · exact ((orderly_chronicle policy hs.left).2.2 call (hs.new hnew)).2

/-- For a call that only begins to acquire nothing was done yet. -/
theorem own_beginning (policy : RetryPolicy) (hs : Schedule (is ++ [i])) {a : Acquisition}
    (hnow : (chronicle policy (is ++ [i])).now.standing call = .acquiring a)
    (hbefore : ∀ b, (chronicle policy is).now.standing call ≠ .acquiring b) : (chronicle policy is).own call = [] := by
  rcases standing_cases (chronicle policy is).now call with ⟨habsent, -⟩ | ⟨hqueued, -⟩ | ⟨hgranted, -⟩ | ⟨b, hb, -⟩
  · have hmove := moves_chronicle policy hs call
    rw [habsent, hnow] at hmove
    obtain hnew | ⟨-, ⟨⟩⟩ := hmove.from_absent
    exact ((orderly_chronicle policy hs.left).2.2 call (hs.new hnew)).2
  · exact own_waiting policy hs.left call (.inl hqueued)
  · exact own_waiting policy hs.left call (.inr hgranted)
  · exact absurd hb (hbefore b)

/-- Once a call is over it stays so, and nothing more is done for it. -/
theorem over_chronicle (policy : RetryPolicy) (hs : Schedule (is ++ is')) (hcall : call ∈ requests is)
    (hover : (chronicle policy is).now.standing call = .absent) :
    (chronicle policy (is ++ is')).now.standing call = .absent ∧
      (chronicle policy (is ++ is')).own call = (chronicle policy is).own call := by
  induction is' using List.reverseRecOn with
  | nil => simpa using hover
  | append_singleton is' i ih =>
    rw [← List.append_assoc] at hs ⊢
    obtain ⟨hstanding, hown⟩ := ih hs.left
    have hmove := moves_chronicle policy hs call
    rw [hstanding] at hmove
    have hold : i.event.request? ≠ some call := by
      intro hnew
      exact hs.new hnew (by simp [hcall])
    obtain ⟨hnone, hstays⟩ := hmove.from_absent.resolve_left hold
    exact ⟨hstays, by rw [own_concat, hnone, hown, List.map_nil, List.append_nil]⟩

end

end BrokerClient.Manager
