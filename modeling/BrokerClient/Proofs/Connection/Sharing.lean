import BrokerClient.Proofs.Connection.Interrupting

/-!
# Who gets which connection

A call that asks for the connection that is shared looks at it when its turn comes (`looking?`). It takes what it finds
open; if it finds nothing open, it misses (`missing?`) and begins to acquire another connection. Every acquisition for
the calls that ask begins with such a miss (`starts_asked`), and there is one at a time (`shared_le_one`). The
connection that is shared changes only when such an acquisition ends with another one (`current_step`), and so it stays
while nobody misses (`current_while_found`). `shares` puts this together.
-/

namespace BrokerClient.Manager

/-! ## Looking at the connection that is shared -/

/-- The call that an event begins for the connection that is shared. -/
def Event.ask? : Event → Option CallId
  | .ask call => some call
  | .acquire _ | .turn _ | .ended .. | .resume .. | .interrupt | .noticed _ | .abandon _ => none

/-- The calls of a schedule that ask for the connection that is shared. -/
def asked (is : List Moment) : List CallId := is.filterMap (·.event.ask?)

/-- The call whose turn comes, and which looks at the connection that is shared then. -/
def looking? (m : Manager) (i : Moment) : Option CallId :=
  match i.event with
  | .ask call => if m.holder = none then some call else none
  | .turn call => if m.holder = some call ∧ m.find? call = none then some call else none
  | .acquire _ | .ended .. | .resume .. | .interrupt | .noticed _ | .abandon _ => none

/-- The call that looks at the connection that is shared and finds none that is open. -/
def missing? (m : Manager) (i : Moment) : Option CallId :=
  match m.current.filter i.isOpen with
  | none => m.looking? i
  | some _ => none

/-- The calls that miss, from a manager on. -/
def missesFrom (m : Manager) : List Moment → List CallId
  | [] => []
  | i :: is => (m.missing? i).toList ++ missesFrom (m.act i).1 is

/-- The calls that miss in a schedule, in this order. -/
def misses (policy : RetryPolicy) (is : List Moment) : List CallId := missesFrom { policy } is

/-- The call that an action starts an acquisition for, with its first attempt. -/
def Action.starts? : Action → Option CallId
  | .connect call 1 _ => some call
  | _ => none

/-- The calls for which an acquisition was started, in this order. -/
def starts (policy : RetryPolicy) (is : List Moment) : List CallId :=
  (chronicle policy is).done.filterMap (·.2.starts?)

/-- How a call comes by a connection that is shared: it looks and finds it open, or an attempt of its own makes it. -/
def Gets (m : Manager) (i : Moment) (call : CallId) (c : ConnectionId) : Prop :=
  (m.looking? i = some call ∧ m.current = some c ∧ i.isOpen c = true) ∨
    ∃ a, m.find? call = some a ∧ a.shared = true ∧ m.Ends i a (.connected c)

/-- No acquisition for the calls that ask is in progress. -/
def Idle (m : Manager) : Prop := ∀ call a, m.standing call = .acquiring a → a.shared = false

/-! ## What one step does -/

section

variable {m : Manager} {i : Moment} {call : CallId} {a : Acquisition} {c : ConnectionId}

theorem looking?_eq_some (h : m.looking? i = some call) :
    (i.event = .ask call ∧ m.holder = none) ∨ (i.event = .turn call ∧ m.holder = some call ∧ m.find? call = none) := by
  unfold looking? at h
  split at h
  · rename_i event
    split at h
    · rename_i free
      cases h
      exact .inl ⟨event, free⟩
    · cases h
  · rename_i event
    split at h
    · rename_i turn
      cases h
      exact .inr ⟨event, turn⟩
    · cases h
  all_goals cases h

/-- The call that looks is served, by the manager as it is when it has the turn. -/
theorem act_looking (h : m.looking? i = some call) : ∃ m' : Manager, m'.current = m.current ∧ m'.policy = m.policy ∧
    m.act i = m'.serve i.isOpen i.time call := by
  rcases looking?_eq_some h with ⟨event, free⟩ | ⟨event, turn, gone⟩
  · refine ⟨{ m with holder := some call }, rfl, rfl, ?_⟩
    simp [act, event, step, free]
  · refine ⟨m, rfl, rfl, ?_⟩
    simp [act, event, step, turn, gone]

/-- A call that misses begins to acquire a connection, and that is all that is done. -/
theorem act_missing (h : m.missing? i = some call) : (m.act i).2 = [.connect call 1 m.policy.maxWait] := by
  unfold missing? at h
  split at h
  · rename_i nothing
    obtain ⟨m', current, policy, serves⟩ := act_looking h
    rw [serves, serve, current, nothing, begin_eq, policy]
  · cases h

/-- Nothing is done for a call that asks while another has the turn, or whose turn it is not. -/
theorem act_not_looking (event : i.event = .ask call ∨ i.event = .turn call) (h : m.looking? i ≠ some call) :
    (m.act i).2 = [] := by
  rcases event with event | event
  · have taken : m.holder ≠ none := fun free => h (by simp [looking?, event, free])
    have queues : m.holder.isSome = true := Option.isSome_iff_ne_none.2 taken
    simp [act, event, step, queues]
  · have other : ¬ (m.holder = some call ∧ m.find? call = none) := fun turn => h (by simp [looking?, event, turn])
    simp [act, event, step, other]

/-- Who is served looks at the connection that is shared. -/
theorem looking_of_takes {s : Standing} (turn : Takes i call s) (does : own call (m.act i).2 ≠ []) :
    m.looking? i = some call := by
  by_contra h
  have event : i.event = .ask call ∨ i.event = .turn call := turn.imp (·.2) (·.2)
  rw [act_not_looking event h] at does
  exact does rfl

/-- An attempt of an acquisition that is shared makes a connection, which is shared from then on. -/
theorem current_of_ends (h : m.find? call = some a) (shared : a.shared = true) (ends : m.Ends i a (.connected c)) :
    (m.act i).1.current = some c := by
  obtain rfl := call_of_find? h
  have concludes : (m.act i).1 = (m.conclude a (.ok c)).1 := by
    simp [act, ends.event, step, resumed, h, ends.trying, ends.undisturbed, Retry.ended, proceed]
  have current := (release_frame { m.drop a.call with current := some c }).2.2
  rw [concludes, conclude, if_pos shared]
  exact current

theorem Moves.of_starts {s s' : Standing} {actions : List Action} (h : m.Moves i call s actions s')
    (counted : ∀ a, s = .acquiring a → 1 ≤ a.retry.attempts) (hp : ∃ x ∈ actions, x.starts? = some call) :
    ∃ shared, m.Begins i call s shared := by
  obtain ⟨x, hx, starts⟩ := hp
  cases h with
  | begin begins => exact ⟨_, begins⟩
  | retry resumes =>
    -- a later attempt has a higher number
    have later := counted _ rfl
    obtain rfl := List.mem_singleton.1 hx
    rename_i a
    obtain ⟨k, hk⟩ := Nat.exists_eq_add_of_le' later
    simp [hk, Action.starts?] at starts
  | _ => simp_all [Action.starts?]

end

/-! ## Acquisitions in progress -/

/-- No call has two acquisitions. -/
def Distinct (m : Manager) : Prop := (m.acquisitions.map (·.call)).Nodup

namespace Distinct

variable {m : Manager} {a b : Acquisition}

theorem keep (h : m.Distinct) (a : Acquisition) : (m.keep a).Distinct := by
  unfold Manager.keep
  split
  · -- an acquisition that is replaced keeps its place and its call
    have calls : (m.acquisitions.map fun b => if b.call = a.call then a else b).map (·.call) =
        m.acquisitions.map (·.call) := by
      rw [List.map_map]
      refine List.map_congr_left fun b _ => ?_
      by_cases same : b.call = a.call <;> simp [same]
    rw [Distinct, calls]
    exact h
  · rename_i new
    exact Keyed.nodup_concat h (by simpa using new)

theorem drop (h : m.Distinct) (call : CallId) : (m.drop call).Distinct :=
  List.Nodup.sublist (List.filter_sublist.map _) h

theorem release (h : m.Distinct) : m.release.1.Distinct := by
  unfold Manager.release
  split <;> exact h

theorem conclude (h : m.Distinct) (a : Acquisition) (result : Except Error ConnectionId) :
    (m.conclude a result).1.Distinct := by
  have rest := h.drop a.call
  unfold Manager.conclude
  split
  · cases result with
    | ok c => exact release (m := { m.drop a.call with current := some c }) rest
    | error e => exact rest.release
  · exact rest

theorem proceed (h : m.Distinct) (a : Acquisition) (p : Retry.Progress) : (m.proceed a p).1.Distinct := by
  obtain ⟨retry, logs, next⟩ := p
  cases next with
  | connect budget => exact h.keep _
  | pause ms => exact h.keep _
  | finish result => exact h.conclude a result

theorem serve (h : m.Distinct) (isOpen : ConnectionId → Bool) (now : Nat) (call : CallId) :
    (m.serve isOpen now call).1.Distinct := by
  unfold Manager.serve
  split
  · exact h.release
  · exact h.proceed _ _

theorem resumed (h : m.Distinct) (call : CallId) (attempt : Nat) (pausing : Bool) (f : Acquisition → Retry.Progress) :
    (m.resumed call attempt pausing f).1.Distinct := by
  unfold Manager.resumed
  split
  · exact h
  · split
    · exact h
    · split
      · exact h.conclude _ _
      · exact h.proceed _ _

theorem act (h : m.Distinct) (i : Moment) : (m.act i).1.Distinct := by
  rcases i with ⟨time, isOpen, e⟩
  cases e with
  | acquire call => exact h.proceed _ _
  | ask call =>
    simp only [Manager.act, step]
    split
    · exact h
    · exact serve (m := { m with holder := some call }) h isOpen time call
  | turn call =>
    simp only [Manager.act, step]
    split
    · exact h.serve isOpen time call
    · exact h
  | ended call attempt result => exact h.resumed _ _ _ _
  | resume call attempt => exact h.resumed _ _ _ _
  | interrupt => exact h
  | noticed call =>
    simp only [Manager.act, step]
    split
    · split
      · exact h.conclude _ _
      · exact h
    · exact h
  | abandon call =>
    have rest : ({ m with waiting := m.waiting.filter (· != call) } : Manager).Distinct := h
    simp only [Manager.act, step, abandon]
    split
    · exact (rest.drop call).release
    · exact rest.drop call

theorem find?_of_mem (h : m.Distinct) (ha : a ∈ m.acquisitions) : m.find? a.call = some a := by
  obtain ⟨before, after, split, apart, -⟩ := Keyed.exists_apart h ha
  rw [Manager.find?, split, List.find?_append, List.find?_eq_none.2 (by simpa using apart)]
  simp

/-- At most one acquisition is shared, as who acquires the connection that is shared has the turn. -/
theorem shared_le_one (h : m.Distinct) (horderly : m.Orderly) : (m.acquisitions.filter (·.shared)).length ≤ 1 := by
  have turn : ∀ a ∈ m.acquisitions.filter (·.shared), m.holder = some a.call := by
    intro a ha
    obtain ⟨hmem, hshared⟩ := List.mem_filter.1 ha
    exact (horderly.shared _ a (h.find?_of_mem hmem)).1 hshared
  have calls : ((m.acquisitions.filter (·.shared)).map (·.call)).Nodup :=
    List.Nodup.sublist (List.filter_sublist.map _) h
  generalize m.acquisitions.filter (·.shared) = l at turn calls ⊢
  rcases l with _ | ⟨a, _ | ⟨b, rest⟩⟩
  · exact Nat.zero_le 1
  · exact Nat.le_refl 1
  · have same : a.call = b.call := Option.some.inj ((turn a (by simp)).symm.trans (turn b (by simp)))
    simp [same] at calls

end Distinct

/-! ## Every chronicle -/

section

variable {policy : RetryPolicy} {is is' : List Moment} {i : Moment} {call : CallId} {a : Acquisition}
  {c : ConnectionId}

theorem request?_of_ask? {e : Event} (h : e.ask? = some call) : e.request? = some call := by
  cases e <;> cases h
  rfl

/-- Who asks next has not come before. -/
theorem ask?_ne_some (hs : Schedule (is ++ [i])) (hcall : call ∈ requests is) : i.event.ask? ≠ some call :=
  fun h => hs.new (request?_of_ask? h) hcall

theorem mem_asked_concat : call ∈ asked (is ++ [i]) ↔ call ∈ asked is ∨ i.event.ask? = some call := by
  simp [asked]

theorem mem_requests_of_asked (h : call ∈ asked is) : call ∈ requests is := by
  obtain ⟨i, hi, hcall⟩ := List.mem_filterMap.1 h
  exact List.mem_filterMap.2 ⟨i, hi, request?_of_ask? hcall⟩

theorem distinct_chronicle (policy : RetryPolicy) (is : List Moment) : (chronicle policy is).now.Distinct := by
  induction is using List.reverseRecOn with
  | nil => exact List.nodup_nil
  | append_singleton is i ih =>
    rw [chronicle_concat]
    exact ih.act i

/-- A call for which something was done has come. -/
theorem mem_requests_of_own (policy : RetryPolicy) (hs : Schedule is) (h : (chronicle policy is).own call ≠ []) :
    call ∈ requests is := by
  by_contra hnew
  exact h ((orderly_chronicle policy hs).2.2 call hnew).2

/-- An acquisition has made an attempt. -/
theorem attempts_pos (policy : RetryPolicy) (hs : Schedule is)
    (ha : (chronicle policy is).now.standing call = .acquiring a) : 1 ≤ a.retry.attempts := by
  induction is using List.reverseRecOn generalizing a with
  | nil => cases ha
  | append_singleton is i ih =>
    have hmove := moves_chronicle policy hs call
    rw [ha] at hmove
    rcases hmove.to_acquiring with ⟨hb, -⟩ | ⟨-, -, shared, rfl⟩ | ⟨b, hb, -, -, rfl⟩ | ⟨b, hb, -, -, rfl⟩
    · exact ih hs.left hb
    · exact Nat.le_refl 1
    · exact (ih hs.left hb :)
    · exact Nat.le_add_left 1 _

/-- A call that waits for the connection that is shared has asked for it, and a call that acquires a connection acquires
the shared one if it has asked. -/
theorem asked_chronicle (policy : RetryPolicy) (hs : Schedule is) (call : CallId) :
    (((chronicle policy is).now.standing call = .queued ∨ (chronicle policy is).now.standing call = .granted) →
      call ∈ asked is) ∧
    ∀ a, (chronicle policy is).now.standing call = .acquiring a → (a.shared = true ↔ call ∈ asked is) := by
  induction is using List.reverseRecOn with
  | nil => exact ⟨by rintro (⟨⟨⟩⟩ | ⟨⟨⟩⟩), by rintro _ ⟨⟩⟩
  | append_singleton is i ih =>
    obtain ⟨hwaits, hacquires⟩ := ih hs.left
    have hmove := moves_chronicle policy hs call
    -- whoever stands somewhere has come before, and does not ask again
    have hold (h : (chronicle policy is).now.standing call ≠ .absent) : call ∈ asked (is ++ [i]) ↔ call ∈ asked is := by
      rw [mem_asked_concat, or_iff_left_iff_imp]
      exact fun hask => absurd (new_chronicle policy hs call (request?_of_ask? hask)) h
    generalize (chronicle policy is).now.standing call = s at *
    generalize (chronicle policy (is ++ [i])).now.standing call = s' at *
    generalize own call ((chronicle policy is).now.act i).2 = actions at hmove
    cases hmove with
    | rest _ =>
      refine ⟨fun hs' => ?_, fun a ha => ?_⟩
      · exact (hold (by rintro rfl; simp at hs')).2 (hwaits hs')
      · rw [hold (by rintro rfl; cases ha)]
        exact hacquires a ha
    | queue event => exact ⟨fun _ => mem_asked_concat.2 (.inr (by rw [event]; rfl)), by rintro _ ⟨⟩⟩
    | grant => exact ⟨fun _ => (hold (by simp)).2 (hwaits (.inl rfl)), by rintro _ ⟨⟩⟩
    | begin begins =>
      refine ⟨by simp, ?_⟩
      rintro _ ⟨⟩
      rcases begins with ⟨-, event, rfl⟩ | ⟨⟨-, event⟩ | ⟨rfl, -⟩, -, rfl⟩
      · have hnew : call ∉ asked is := fun h => hs.new (by rw [event]; rfl) (mem_requests_of_asked h)
        simp [first, mem_asked_concat, hnew, event, Event.ask?]
      · simp [first, mem_asked_concat, event, Event.ask?]
      · simp [first, hold (by simp), hwaits (.inr rfl)]
    | pause _ _ _ | retry _ =>
      refine ⟨by simp, ?_⟩
      rintro _ ⟨⟩
      exact (hacquires _ rfl).trans (hold (by simp)).symm
    | leave _ | hand _ _ | interrupted _ _ | connected _ | exhausted _ _ _ | late _ _ => exact ⟨by simp, by rintro _ ⟨⟩⟩

/-! ## How many acquisitions there are -/

theorem missesFrom_concat (m : Manager) (done : List (Nat × Action)) (is : List Moment) (i : Moment) :
    missesFrom m (is ++ [i]) = missesFrom m is ++ ((Chronicle.run ⟨m, done⟩ is).now.missing? i).toList := by
  induction is generalizing m done with
  | nil => simp [missesFrom, Chronicle.run]
  | cons j is ih =>
    rw [List.cons_append, missesFrom, missesFrom, ih _ (done ++ (m.act j).2.map (j.time, ·)), List.append_assoc]
    rfl

theorem misses_concat (policy : RetryPolicy) (is : List Moment) (i : Moment) :
    misses policy (is ++ [i]) = misses policy is ++ ((chronicle policy is).now.missing? i).toList :=
  missesFrom_concat ..

theorem starts_concat (policy : RetryPolicy) (is : List Moment) (i : Moment) :
    starts policy (is ++ [i]) = starts policy is ++ ((chronicle policy is).now.act i).2.filterMap Action.starts? := by
  rw [starts, chronicle_concat]
  simp [starts, Chronicle.next, List.filterMap_append, List.filterMap_map]

/-- The call of an action that starts an acquisition. -/
theorem call?_of_starts? {x : Action} (h : x.starts? = some call) : x.call? = some call := by
  unfold Action.starts? at h
  split at h <;> cases h
  rfl

theorem own_of_starts (h : call ∈ starts policy is) : (chronicle policy is).own call ≠ [] := by
  obtain ⟨x, hx, hstarts⟩ := List.mem_filterMap.1 h
  exact List.ne_nil_of_mem (List.mem_filter.2 ⟨hx, by simp [call?_of_starts? hstarts]⟩)

/-- Who looks at the connection that is shared has asked for it, and nothing was done for it before. -/
theorem looking_chronicle (policy : RetryPolicy) (hs : Schedule (is ++ [i]))
    (h : (chronicle policy is).now.looking? i = some call) :
    call ∈ asked (is ++ [i]) ∧ (chronicle policy is).own call = [] := by
  rcases looking?_eq_some h with ⟨event, -⟩ | ⟨-, turn, gone⟩
  · have hask : i.event.ask? = some call := by rw [event]; rfl
    exact ⟨mem_asked_concat.2 (.inr hask),
      ((orderly_chronicle policy hs.left).2.2 call (hs.new (request?_of_ask? hask))).2⟩
  · have hgranted := standing_granted gone turn
    exact ⟨mem_asked_concat.2 (.inl ((asked_chronicle policy hs.left call).1 (.inr hgranted))),
      own_waiting policy hs.left call (.inr hgranted)⟩

theorem looking_of_missing {m : Manager} (h : m.missing? i = some call) : m.looking? i = some call := by
  unfold missing? at h
  split at h
  · exact h
  · cases h

/-- An acquisition of a call that has asked is started only if it misses. -/
theorem missing_of_starts (policy : RetryPolicy) (hs : Schedule (is ++ [i])) (hasked : call ∈ asked (is ++ [i]))
    (h : call ∈ ((chronicle policy is).now.act i).2.filterMap Action.starts?) :
    (chronicle policy is).now.missing? i = some call := by
  obtain ⟨x, hx, hstarts⟩ := List.mem_filterMap.1 h
  have hown := mem_own.2 ⟨hx, call?_of_starts? hstarts⟩
  obtain ⟨shared, begins⟩ := (moves_chronicle policy hs call).of_starts
    (fun a ha => attempts_pos policy hs.left ha) ⟨x, hown, hstarts⟩
  rcases begins with ⟨-, event, -⟩ | ⟨turn, nothing, -⟩
  · have hnew : call ∉ requests is := hs.new (by rw [event]; rfl)
    rcases mem_asked_concat.1 hasked with hold | hask
    · exact absurd (mem_requests_of_asked hold) hnew
    · rw [event] at hask
      cases hask
  · rw [missing?, nothing]
    exact looking_of_takes turn (List.ne_nil_of_mem hown)

/-- **The acquisitions of the calls that ask are started when these miss.** -/
theorem starts_asked (policy : RetryPolicy) (hs : Schedule is) :
    (starts policy is).filter (· ∈ asked is) = misses policy is := by
  induction is using List.reverseRecOn with
  | nil => rfl
  | append_singleton is i ih =>
    have hold : (starts policy is).filter (· ∈ asked (is ++ [i])) = misses policy is := by
      rw [← ih hs.left]
      refine List.filter_congr fun call hcall => ?_
      have hask := ask?_ne_some hs (mem_requests_of_own policy hs.left (own_of_starts hcall))
      simp [mem_asked_concat, hask]
    rw [starts_concat, List.filter_append, hold, misses_concat]
    congr 1
    cases hmiss : (chronicle policy is).now.missing? i with
    | some call =>
      have hasked := (looking_chronicle policy hs (looking_of_missing hmiss)).1
      simp [act_missing hmiss, Action.starts?, hasked]
    | none =>
      refine List.filter_eq_nil_iff.2 fun call hcall => ?_
      rw [decide_eq_true_eq]
      intro hasked
      rw [missing_of_starts policy hs hasked hcall] at hmiss
      cases hmiss

/-- No call misses twice. -/
theorem misses_nodup (policy : RetryPolicy) (hs : Schedule is) : (misses policy is).Nodup := by
  induction is using List.reverseRecOn with
  | nil => exact List.nodup_nil
  | append_singleton is i ih =>
    rw [misses_concat]
    cases hmiss : (chronicle policy is).now.missing? i with
    | none => simpa using ih hs.left
    | some call =>
      refine List.nodup_append.2 ⟨ih hs.left, by simp, ?_⟩
      rintro other hother _ hcall rfl
      obtain rfl : other = call := by simpa using hcall
      rw [← starts_asked policy hs.left] at hother
      exact own_of_starts (List.mem_filter.1 hother).1 (looking_chronicle policy hs (looking_of_missing hmiss)).2

/-! ## The connection that is shared -/

/-- An acquisition that is shared is in progress since its call missed. -/
theorem acquiring_step (policy : RetryPolicy) (hs : Schedule (is ++ [i])) (hshared : a.shared = true)
    (ha : (chronicle policy (is ++ [i])).now.standing call = .acquiring a) :
    (∃ b, (chronicle policy is).now.standing call = .acquiring b ∧ b.shared = true) ∨
      (chronicle policy is).now.missing? i = some call := by
  have hmove := moves_chronicle policy hs call
  rw [ha] at hmove
  rcases hmove.to_acquiring with ⟨hb, -⟩ | ⟨hbefore, hactions, -⟩ | ⟨b, hb, -, -, rfl⟩ | ⟨b, hb, -, -, rfl⟩
  · exact .inl ⟨a, hb, hshared⟩
  · refine .inr (missing_of_starts policy hs (((asked_chronicle policy hs call).2 a ha).1 hshared) ?_)
    have hconnect : Action.connect call 1 (chronicle policy is).now.policy.maxWait ∈
        own call ((chronicle policy is).now.act i).2 := hactions ▸ List.mem_singleton_self _
    exact List.mem_filterMap.2 ⟨_, (mem_own.1 hconnect).1, rfl⟩
  · exact .inl ⟨b, hb, hshared⟩
  · exact .inl ⟨b, hb, hshared⟩

/-- What tells a call of a connection. -/
theorem Moves.of_connection {m : Manager} {s s' : Standing} {actions : List Action} (h : m.Moves i call s actions s')
    (hp : .finish call (.ok c) ∈ actions) :
    (Takes i call s ∧ m.current.filter i.isOpen = some c) ∨ ∃ a, s = .acquiring a ∧ m.Ends i a (.connected c) := by
  cases h with
  | hand turn found =>
    obtain ⟨⟩ := List.mem_singleton.1 hp
    exact .inl ⟨turn, found⟩
  | connected ends =>
    obtain ⟨⟩ := List.mem_singleton.1 hp
    exact .inr ⟨_, rfl, ends⟩
  | _ => simp at hp

/-- A call that is told that there is no connection acquired one. -/
theorem Moves.of_failure {m : Manager} {s s' : Standing} {actions : List Action} {e : Error}
    (h : m.Moves i call s actions s') (hp : .finish call (.error e) ∈ actions) : ∃ a, s = .acquiring a := by
  cases h with
  | interrupted _ _ | exhausted _ _ _ | late _ _ => exact ⟨_, rfl⟩
  | _ => simp at hp

/-- Looking at the connection that is shared does not change it. -/
theorem current_of_looking {m : Manager} (h : m.looking? i = some call) : (m.act i).1.current = m.current := by
  obtain ⟨m', hcurrent, -, hserve⟩ := act_looking h
  rw [hserve, serve_current, hcurrent]

/-- A call that has asked gets the connection that is shared then. -/
theorem gets_chronicle (policy : RetryPolicy) (hs : Schedule (is ++ [i])) (hasked : call ∈ asked (is ++ [i]))
    (hp : .finish call (.ok c) ∈ ((chronicle policy is).now.act i).2) :
    (chronicle policy is).now.Gets i call c ∧ (chronicle policy (is ++ [i])).now.current = some c := by
  have hown := mem_own.2 ⟨hp, rfl⟩
  rw [chronicle_concat]
  rcases (moves_chronicle policy hs call).of_connection hown with ⟨turn, found⟩ | ⟨a, ha, ends⟩
  · have looking := looking_of_takes turn (List.ne_nil_of_mem hown)
    obtain ⟨held, isOpen⟩ := Option.filter_eq_some_iff.1 found
    exact ⟨.inl ⟨looking, held, isOpen⟩, (current_of_looking looking).trans held⟩
  · have hfound := find?_of_standing ha
    have hbefore : call ∈ asked is := by
      refine (mem_asked_concat.1 hasked).resolve_right ?_
      rw [ends.event]
      nofun
    have hshared := ((asked_chronicle policy hs.left call).2 a ha).2 hbefore
    exact ⟨.inr ⟨a, hfound, hshared, ends⟩, current_of_ends hfound hshared ends⟩

/-- A call that fails leaves the connection that is shared as it was, ever since it had the turn. -/
theorem current_of_failure (policy : RetryPolicy) (hs : Schedule (is ++ [i])) {e : Error}
    (hp : .finish call (.error e) ∈ ((chronicle policy is).now.act i).2) :
    (chronicle policy (is ++ [i])).now.current = (chronicle policy is).now.current ∧
      ∀ before after, is = before ++ after → (chronicle policy before).now.holder = some call →
        (chronicle policy is).now.current = (chronicle policy before).now.current := by
  have horderly := (orderly_chronicle policy hs.left).1
  have hnew := new_chronicle policy hs
  have hown := mem_own.2 ⟨hp, rfl⟩
  obtain ⟨a, ha⟩ := (moves_chronicle policy hs call).of_failure hown
  refine ⟨?_, ?_⟩
  · rw [chronicle_concat]
    refine (horderly.current hnew).resolve_right ?_
    rintro ⟨other, c, -, -, hother⟩
    -- something is done for one call only
    have hmine := horderly.call?_of_own hnew (List.ne_nil_of_mem hown)
    have htheirs := horderly.call?_of_own hnew (hother ▸ List.cons_ne_nil _ _)
    obtain rfl : call = other := Option.some.inj (hmine.symm.trans htheirs)
    rw [hother] at hown
    cases List.mem_singleton.1 hown
  · rintro before after rfl hh
    refine ((current_while_turn policy hs.left hh).resolve_right fun habsent => ?_).2
    cases ha.symm.trans habsent

/-- The connection that is shared changes only when an acquisition that is shared ends with another. -/
theorem current_step (policy : RetryPolicy) (hs : Schedule (is ++ [i])) :
    (chronicle policy (is ++ [i])).now.current = (chronicle policy is).now.current ∨
      ∃ call a c, (chronicle policy is).now.standing call = .acquiring a ∧ a.shared = true ∧
        .finish call (.ok c) ∈ ((chronicle policy is).now.act i).2 ∧
        (chronicle policy (is ++ [i])).now.current = some c := by
  have horderly := (orderly_chronicle policy hs.left).1
  rw [chronicle_concat]
  rcases horderly.current (new_chronicle policy hs) with hsame | ⟨call, c, hholder, hcurrent, hactions⟩
  · exact .inl hsame
  · have hown : .finish call (.ok c) ∈ own call ((chronicle policy is).now.act i).2 :=
      hactions ▸ List.mem_singleton_self _
    rcases (moves_chronicle policy hs call).of_connection hown with ⟨turn, -⟩ | ⟨a, ha, -⟩
    · exact .inl (current_of_looking (looking_of_takes turn (List.ne_nil_of_mem hown)))
    · exact .inr ⟨call, a, c, ha, (horderly.shared call a (find?_of_standing ha)).2 hholder, (mem_own.1 hown).1,
        hcurrent⟩

/-- When a call that has asked gets a connection, no acquisition for such calls is in progress any more. -/
theorem idle_of_gets (policy : RetryPolicy) (hs : Schedule (is ++ [i])) (hasked : call ∈ asked (is ++ [i]))
    (hp : .finish call (.ok c) ∈ ((chronicle policy is).now.act i).2) : (chronicle policy (is ++ [i])).now.Idle := by
  intro other b hb
  by_contra hshared
  rw [Bool.not_eq_false] at hshared
  rcases acquiring_step policy hs hshared hb with ⟨b', hb', hshared'⟩ | hmiss
  · have hfound := find?_of_standing hb'
    have hholder := ((orderly_chronicle policy hs.left).1.shared other b' hfound).1 hshared'
    rcases (gets_chronicle policy hs hasked hp).1 with ⟨looking, -⟩ | ⟨a, ha, hmine, -⟩
    · rcases looking?_eq_some looking with ⟨-, free⟩ | ⟨-, turn, gone⟩
      · cases hholder.symm.trans free
      · obtain rfl : other = call := Option.some.inj (hholder.symm.trans turn)
        cases hfound.symm.trans gone
    · have hturn := ((orderly_chronicle policy hs.left).1.shared call a ha).1 hmine
      obtain rfl : other = call := Option.some.inj (hholder.symm.trans hturn)
      cases hb.symm.trans ((moves_chronicle policy hs other).of_finish (mem_own.2 ⟨hp, rfl⟩))
  · rw [act_missing hmiss] at hp
    cases List.mem_singleton.1 hp

/-- While nobody misses, the connection that is shared stays. -/
theorem current_while_found (policy : RetryPolicy) (hs : Schedule (is ++ is'))
    (hidle : (chronicle policy is).now.Idle) (hfound : missesFrom (chronicle policy is).now is' = []) :
    (chronicle policy (is ++ is')).now.Idle ∧
      (chronicle policy (is ++ is')).now.current = (chronicle policy is).now.current := by
  induction is' using List.reverseRecOn with
  | nil => simpa using hidle
  | append_singleton is' i ih =>
    rw [missesFrom_concat _ (chronicle policy is).done, List.append_eq_nil_iff] at hfound
    rw [← List.append_assoc] at hs ⊢
    obtain ⟨hstill, hsame⟩ := ih hs.left hfound.1
    have hnone : (chronicle policy (is ++ is')).now.missing? i = none := by
      rw [chronicle_append]
      simpa using hfound.2
    refine ⟨fun call a ha => ?_, ?_⟩
    · by_contra hshared
      rw [Bool.not_eq_false] at hshared
      rcases acquiring_step policy hs hshared ha with ⟨b, hb, hbshared⟩ | hmiss
      · rw [hstill call b hb] at hbshared
        cases hbshared
      · rw [hnone] at hmiss
        cases hmiss
    · rw [← hsame]
      refine (current_step policy hs).resolve_right ?_
      rintro ⟨call, a, -, ha, hshared, -, -⟩
      rw [hstill call a ha] at hshared
      cases hshared

end

/-- **Whatever calls come and go, however attempts end, and whenever connections are lost: at most one acquisition for
the calls that ask for the shared connection is in progress, and such acquisitions are started exactly when a call looks
and finds no connection open, at most once for each call. A call that has asked gets the connection that is shared,
which it finds open when it looks, or one that it has just acquired, which is shared from then on. A call that fails
leaves the connection that is shared as it was since its turn, and nothing but an acquisition of a call that has asked
ever changes it. So of two calls that get a connection, with none in between that finds no connection open, the second
gets the same as the first.** -/
theorem shares (policy : RetryPolicy) :
    (∀ is, Schedule is → ((chronicle policy is).now.acquisitions.filter (·.shared)).length ≤ 1 ∧
      (starts policy is).filter (· ∈ asked is) = misses policy is ∧ (misses policy is).Nodup) ∧
    (∀ before i, Schedule (before ++ [i]) →
      (∀ call c, call ∈ asked (before ++ [i]) → .finish call (.ok c) ∈ ((chronicle policy before).now.act i).2 →
        (chronicle policy before).now.Gets i call c ∧ (chronicle policy (before ++ [i])).now.current = some c) ∧
      (∀ call e, .finish call (.error e) ∈ ((chronicle policy before).now.act i).2 →
        (chronicle policy (before ++ [i])).now.current = (chronicle policy before).now.current ∧
        ∀ earlier later, before = earlier ++ later → (chronicle policy earlier).now.holder = some call →
          (chronicle policy before).now.current = (chronicle policy earlier).now.current) ∧
      ((chronicle policy (before ++ [i])).now.current = (chronicle policy before).now.current ∨
        ∃ call c, call ∈ asked before ∧ .finish call (.ok c) ∈ ((chronicle policy before).now.act i).2 ∧
          (chronicle policy (before ++ [i])).now.current = some c)) ∧
    ∀ before i between j call other c d, Schedule (before ++ i :: (between ++ [j])) →
      call ∈ asked (before ++ [i]) → .finish call (.ok c) ∈ ((chronicle policy before).now.act i).2 →
      other ∈ asked (before ++ i :: (between ++ [j])) →
      .finish other (.ok d) ∈ ((chronicle policy (before ++ i :: between)).now.act j).2 →
      missesFrom (chronicle policy (before ++ [i])).now (between ++ [j]) = [] → c = d := by
  refine ⟨fun is hs => ?_, fun before i hs => ⟨fun call c => ?_, fun call e => ?_, ?_⟩, ?_⟩
  · exact ⟨(distinct_chronicle policy is).shared_le_one (orderly_chronicle policy hs).1, starts_asked policy hs,
      misses_nodup policy hs⟩
  · exact gets_chronicle policy hs
  · exact current_of_failure policy hs
  · rcases current_step policy hs with hsame | ⟨call, a, c, ha, hshared, hp, hcurrent⟩
    · exact .inl hsame
    · exact .inr ⟨call, c, ((asked_chronicle policy hs.left call).2 a ha).1 hshared, hp, hcurrent⟩
  · intro before i between j call other c d hs hcall hp hother hq hfound
    have hsplit : before ++ i :: (between ++ [j]) = before ++ [i] ++ between ++ [j] := by simp
    have hbetween : before ++ i :: between = before ++ [i] ++ between := by simp
    rw [hsplit] at hs hother
    rw [hbetween] at hq
    rw [missesFrom_concat _ (chronicle policy (before ++ [i])).done, List.append_eq_nil_iff] at hfound
    have hshared := (gets_chronicle policy hs.left.left hcall hp).2
    obtain ⟨hidle, hsame⟩ := current_while_found policy hs.left (idle_of_gets policy hs.left.left hcall hp) hfound.1
    rcases (gets_chronicle policy hs hother hq).1 with ⟨-, held, -⟩ | ⟨a, ha, hacquires, -⟩
    · exact Option.some.inj (hshared.symm.trans (hsame.symm.trans held))
    · rw [hidle other a (standing_of_find? ha)] at hacquires
      cases hacquires

/-- Two calls ask for the connection that is shared, and the first attempt fails. -/
def company : List Moment :=
  [⟨0, fun _ => true, .ask 1⟩, ⟨5, fun _ => true, .ask 2⟩,
    ⟨10, fun _ => true, .ended 1 1 (.failed (.connection "refused"))⟩, ⟨110, fun _ => true, .resume 1 1⟩]

/-- The second attempt makes a connection. -/
def succeeds : Moment := ⟨120, fun _ => true, .ended 1 2 (.connected 3)⟩

/-- The turn of the call that was queued. -/
def follows : Moment := ⟨120, fun _ => true, .turn 2⟩

/-- A call that asks when the connection that is shared was lost. -/
def afterLoss : Moment := ⟨500, fun _ => false, .ask 4⟩

/-- The second call gets what the first one acquired; a third one acquires another. -/
theorem shares_company :
    Schedule (company ++ succeeds :: [follows, afterLoss]) ∧
      (starts {} (company ++ succeeds :: [follows, afterLoss])).filter
        (· ∈ asked (company ++ succeeds :: [follows, afterLoss])) = [1, 4] ∧
      .finish 1 (.ok 3) ∈ ((chronicle {} company).now.act succeeds).2 ∧
      (chronicle {} (company ++ [succeeds])).now.current = some 3 ∧
      ∃ d, .finish 2 (.ok d) ∈ ((chronicle {} (company ++ succeeds :: [])).now.act follows).2 ∧ 3 = d := by
  obtain ⟨hstarts, hends, hsame⟩ := shares {}
  have hs : Schedule (company ++ succeeds :: [follows, afterLoss]) := by decide
  have hfirst : .finish 1 (.ok 3) ∈ ((chronicle {} company).now.act succeeds).2 := .tail _ (.tail _ (.head _))
  have hsecond : .finish 2 (.ok 3) ∈ ((chronicle {} (company ++ succeeds :: [])).now.act follows).2 := .head _
  obtain ⟨-, hasked, -⟩ := hstarts _ hs
  obtain ⟨-, hcurrent⟩ := (hends company succeeds (by decide)).1 1 3 (by decide) hfirst
  exact ⟨hs, hasked.trans rfl, hfirst, hcurrent, 3, hsecond,
    hsame company succeeds [] follows 1 2 3 3 (by decide) (by decide) hfirst (by decide) hsecond rfl⟩

end BrokerClient.Manager
