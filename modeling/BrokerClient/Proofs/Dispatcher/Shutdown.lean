import BrokerClient.Proofs.Dispatcher.Course

/-!
# The connection shuts down

A shutdown stops the dispatcher at once, and it takes a start that succeeds to start it again. A start looks at the
status when its turn comes and sets it when it is done, and nothing in between: so one that was in flight when the
connection shut down can still start the dispatcher (`restarted_by_start_in_flight`). No other start can that was asked
before (`stopped_by_shutdown`).
-/

namespace BrokerClient.Dispatcher

variable {κ α : Type}

/-- The calls that have come and not returned. -/
def inFlight (d : Dispatcher κ) : List RequestId := (d.current.map (·.1)).toList ++ d.waiting.map (·.1)

theorem mem_inFlight {d : Dispatcher κ} {id : RequestId} :
    id ∈ d.inFlight ↔ d.HeldBy id ∨ id ∈ d.waiting.map (·.1) := by
  simp [inFlight, HeldBy]

/-- A call that is done is no longer in flight, and no other comes to be. -/
theorem inFlight_finish {d : Dispatcher κ} {id i : RequestId} {result : Outcome}
    (hi : i ∈ (d.finish id result : Effect κ α).1.inFlight) : i ∈ d.inFlight := by
  rw [mem_inFlight]
  right
  unfold finish at hi
  split at hi
  · rename_i hw
    simp [inFlight, hw] at hi
  · rename_i hw
    simpa [inFlight, hw] using hi

/-- The call that has the turn goes on. -/
theorem inFlight_turn {d d' : Dispatcher κ} {id i : RequestId} {phase : Phase} (hi : i ∈ d'.inFlight) (h : d.HeldBy id)
    (hc : d'.current = some (id, phase)) (hw : d'.waiting = d.waiting) : i ∈ d.inFlight := by
  rw [mem_inFlight] at hi ⊢
  rcases hi with ⟨phase', hc'⟩ | hi
  · rw [hc] at hc'
    cases hc'
    exact .inl h
  · exact .inr (hw ▸ hi)

theorem Eases.inFlight {e : Event κ} {d d' : Dispatcher κ} (h : Eases e d d') {i : RequestId} (hi : i ∈ d'.inFlight) :
    i ∈ d.inFlight ∨ ∃ r, e.request? = some (i, r) := by
  rw [mem_inFlight] at hi ⊢
  rcases hi with ⟨phase, hc⟩ | hw
  · rcases h.current i phase hc with hc | ⟨r, rfl, -⟩
    · exact .inl (.inl ⟨phase, hc⟩)
    · exact .inr ⟨r, rfl⟩
  · obtain ⟨x, hx, rfl⟩ := List.mem_map.1 hw
    rcases h.queue x hx with hx | rfl
    · exact .inl (.inr (List.mem_map_of_mem hx))
    · exact .inr ⟨x.2, rfl⟩

section Steps

variable [DecidableEq κ] {s : Setup α} {e : Event κ} {d₀ d d' : Dispatcher κ} {a : List (Action κ α)}

theorem Acts.inFlight (h : Acts s e d₀ d a d') {i : RequestId} (hi : i ∈ d'.inFlight) : i ∈ d.inFlight := by
  induction h with
  | append _ _ ih ih' => exact ih (ih' hi)
  | say _ | loopWait _ | loopClose _ _ _ _ | loopEnd _ => exact hi
  | pass _ _ => exact inFlight_finish hi
  | start _ _ _ => exact inFlight_finish (d := Dispatcher.run _ _) hi
  | create h | cancel h _ _ | wait h _ _ _ | close h _ _ _ _ => exact inFlight_turn hi h rfl rfl
  | first h _ _ _ _ | next h _ _ => exact inFlight_turn hi ⟨_, h⟩ rfl rfl

/-- Only a start that succeeds leads to a started dispatcher. -/
theorem Acts.started (h : Acts s e d₀ d a d') (hs : d'.status = .started) : d.status = .started ∨
    ∃ id channel c, d₀.current = some (id, .subscribing channel c []) ∧ .finish id (.ok ()) ∈ a := by
  induction h with
  | append _ _ ih ih' =>
    rcases ih' hs with hs | ⟨id, channel, c, hc, hm⟩
    · rcases ih hs with hs | ⟨id, channel, c, hc, hm⟩
      · exact .inl hs
      · exact .inr ⟨id, channel, c, hc, List.mem_append_left _ hm⟩
    · exact .inr ⟨id, channel, c, hc, List.mem_append_right _ hm⟩
  | say _ | loopWait _ | loopClose _ _ _ _ | loopEnd _ | create _ | wait _ _ _ _ | close _ _ _ _ _ => exact .inl hs
  | first _ _ _ _ _ | next _ _ _ => exact .inl hs
  | @pass d id _ result =>
    rw [(finish_frame (α := α) d id result).1] at hs
    exact .inl hs
  | cancel _ _ _ => cases hs
  | start h hsame _ =>
    refine .inr ⟨_, _, _, hsame.trans h, ?_⟩
    unfold finish
    split <;> simp

variable {h : Past κ α} {isOpen : ChannelId → Bool}

theorem inFlight_step (hi : Inv h d) {i : RequestId} (hm : i ∈ (d.step s isOpen e).1.inFlight) :
    i ∈ d.inFlight ∨ ∃ r, e.request? = some (i, r) := by
  obtain ⟨d₁, hease, hacts⟩ := course s isOpen hi e
  exact hease.inFlight (hacts.inFlight hm)

/-- A step that starts a stopped dispatcher ends a start that was in flight, which succeeds. -/
theorem started_step (hi : Inv h d) (hs : d.status = .stopped) (hs' : (d.step s isOpen e).1.status = .started) :
    ∃ id, (id, .start) ∈ h.requests ∧ id ∈ d.inFlight ∧ .finish id (.ok ()) ∈ (d.step s isOpen e).2 := by
  obtain ⟨d₁, hease, hacts⟩ := course s isOpen hi e
  rcases hacts.started hs' with hs₁ | ⟨id, channel, c, hc, hm⟩
  · rw [hease.status hs₁] at hs
    cases hs
  · have hq : (id, .start) ∈ h.requests := (hi.booksOf hc).queue.subset (List.mem_cons_self ..)
    exact ⟨id, hq, mem_inFlight.2 (.inl ⟨_, hc⟩), hm⟩

end Steps

/-! ## Runs -/

section Runs

variable [DecidableEq κ] (s : Setup α)

/-- A call that is in flight was so before, or has come since. -/
theorem inFlight_run (before after : List (Moment κ)) (hs : Schedule (before ++ after)) {i : RequestId}
    (hi : i ∈ (chronicle s (before ++ after) : Chronicle κ α).now.inFlight) :
    i ∈ (chronicle s before : Chronicle κ α).now.inFlight ∨ ∃ r, (i, r) ∈ requests after := by
  induction after using List.reverseRecOn with
  | nil =>
    rw [List.append_nil] at hi
    exact .inl hi
  | append_singleton after m ih =>
    rw [← List.append_assoc] at hs hi
    rw [chronicle_append_cons] at hi
    have hrequests : requests (after ++ [m]) = requests after ++ m.event.request?.toList := by
      rw [requests, requests, List.filterMap_append]
      cases hr : m.event.request? <;> simp [hr]
    rw [hrequests]
    rcases inFlight_step (inv_chronicle s _ hs.left) hi with hi | ⟨r, hr⟩
    · rcases ih hs.left hi with hi | ⟨r, hr⟩
      · exact .inl hi
      · exact .inr ⟨r, List.mem_append_left _ hr⟩
    · exact .inr ⟨r, List.mem_append_right _ (by simp [hr])⟩

/-- **A shutdown stops the dispatcher.** Whenever the connection shuts down, the dispatcher is stopped then, and if it is
started at any later point, a start has succeeded since: one that was asked after the shutdown, or was in flight when it
came. -/
theorem stopped_by_shutdown (before : List (Moment κ)) (signal : Moment κ) (after : List (Moment κ))
    (hs : Schedule (before ++ signal :: after)) (he : signal.event = .shutdown) :
    (chronicle s (before ++ [signal]) : Chronicle κ α).now.status = .stopped ∧
    ∀ a b, after = a ++ b → (chronicle s (before ++ signal :: a) : Chronicle κ α).now.status = .started →
      ∃ a₁ m a₂ id, a = a₁ ++ m :: a₂ ∧ (chronicle s (before ++ signal :: a₁) : Chronicle κ α).Ends s m id (.ok ()) ∧
        ((id, .start) ∈ requests a₁ ∨ id ∈ (chronicle s before : Chronicle κ α).now.inFlight) := by
  have hstopped : (chronicle s (before ++ [signal]) : Chronicle κ α).now.status = .stopped := by
    rw [chronicle_append_cons]
    simp only [Chronicle.run, List.foldl_nil, Chronicle.next, he, step]
  refine ⟨hstopped, ?_⟩
  rintro a b rfl hstarted
  have hsplit (x : List (Moment κ)) : before ++ signal :: x = (before ++ [signal]) ++ x := List.append_cons ..
  rw [hsplit, chronicle_append] at hstarted
  obtain ⟨a₁, m, a₂, rfl, h₁, h₂⟩ := exists_change s (by decide) _ a hstopped hstarted
  rw [← chronicle_append, ← hsplit] at h₁
  rw [← chronicle_append, ← hsplit, ← List.cons_append, ← List.append_assoc, chronicle_append_cons] at h₂
  have hs₁ : Schedule (before ++ signal :: a₁) := by
    have hall : before ++ signal :: (a₁ ++ m :: a₂ ++ b) = (before ++ signal :: a₁) ++ (m :: a₂ ++ b) := by simp
    rw [hall] at hs
    exact hs.left
  have hi := inv_chronicle (α := α) s _ hs₁
  obtain ⟨id, hid, hflight, hfinish⟩ := started_step hi h₁ h₂
  refine ⟨a₁, m, a₂, id, rfl, ⟨List.mem_append_left _ hid, hfinish⟩, ?_⟩
  rcases inFlight_run s before (signal :: a₁) hs₁ hflight with hflight | ⟨r, hr⟩
  · exact .inr hflight
  · left
    have hr₁ : (id, r) ∈ requests a₁ := by simpa [requests, he, Event.request?] using hr
    have hr' : (id, r) ∈ (chronicle s (before ++ signal :: a₁) : Chronicle κ α).past.requests := by
      rw [requests_chronicle, requests, List.filterMap_append]
      exact List.mem_append_right _ hr
    rwa [eq_of_names hi.books.names hr' hid] at hr₁

end Runs

/-- The connection shuts down while a consumer runs, and another start is asked. -/
def restart : List (Moment Nat) := [
  ⟨fun _ => true, .call 0 .start⟩, ⟨fun _ => true, .created 0 (.ok 5)⟩, ⟨fun _ => true, .answered (.call 0) (.ok ())⟩,
  ⟨fun _ => true, .answered (.call 0) (.ok ())⟩, ⟨fun _ => false, .shutdown⟩, ⟨fun _ => false, .call 1 .start⟩,
  ⟨fun _ => true, .created 1 (.ok 6)⟩, ⟨fun _ => true, .answered (.call 1) (.ok ())⟩,
  ⟨fun _ => true, .answered (.call 1) (.ok ())⟩]

theorem stopped_by_shutdown_restart :
    Schedule restart ∧ (chronicle jobs restart : Chronicle Nat Bytes).now.status = .started ∧
      ∃ a₁ m a₂ id, restart.drop 5 = a₁ ++ m :: a₂ ∧
        (chronicle jobs (restart.take 5 ++ a₁) : Chronicle Nat Bytes).Ends jobs m id (.ok ()) ∧
        (id, .start) ∈ requests a₁ := by
  have hs : Schedule restart := by decide
  have hstarted : (chronicle jobs restart : Chronicle Nat Bytes).now.status = .started := rfl
  obtain ⟨-, hlater⟩ :=
    stopped_by_shutdown (α := Bytes) jobs (restart.take 4) ⟨fun _ => false, .shutdown⟩ (restart.drop 5) hs rfl
  obtain ⟨a₁, m, a₂, id, ha, hends, hid⟩ := hlater _ [] (List.append_nil _).symm hstarted
  exact ⟨hs, hstarted, a₁, m, a₂, id, ha, hends, hid.resolve_right List.not_mem_nil⟩

/-- The connection shuts down while a start waits for its channel. -/
def shutdownInBetween : List (Moment Nat) := [
  ⟨fun _ => true, .call 0 .start⟩, ⟨fun _ => true, .shutdown⟩, ⟨fun _ => true, .created 0 (.ok 0)⟩,
  ⟨fun _ => true, .answered (.call 0) (.ok ())⟩, ⟨fun _ => true, .answered (.call 0) (.ok ())⟩]

/-- The only start was asked before the shutdown, it has returned, and the dispatcher is started. -/
theorem restarted_by_start_in_flight :
    Schedule shutdownInBetween ∧ requests (shutdownInBetween.take 1) = [(0, .start)] ∧
      requests (shutdownInBetween.drop 1) = [] ∧
      .finish 0 (.ok ()) ∈ (chronicle jobs shutdownInBetween : Chronicle Nat Bytes).past.done ∧
      (chronicle jobs shutdownInBetween : Chronicle Nat Bytes).now.status = .started := by
  refine ⟨by decide, rfl, rfl, ?_, rfl⟩
  exact List.mem_of_getElem? (i := 4) rfl

end BrokerClient.Dispatcher
