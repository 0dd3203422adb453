import BrokerClient.Proofs.Connection.Moving

/-!
# What an interrupt reaches

An interrupt begins a generation. An acquisition saw the generation in which it began, and none after it: so it is
interrupted if and only if an interrupt came while it was in progress (`seen_chronicle`). From then on it does nothing
but end with that error when it runs again (`interrupted_after`). While a call has the turn for the connection that is
shared, that connection stays, unless the call ends with another (`current_while_turn`).
-/

namespace BrokerClient.Manager

section

variable {m : Manager} {i : Moment} {call : CallId} {a : Acquisition} {s s' : Standing} {actions : List Action}

/-- An interrupted acquisition does nothing but end, when it runs again. -/
theorem Moves.of_disturbed (h : m.Moves i call (.acquiring a) actions s) (hd : m.interrupted a = true) :
    (¬ a.Runs i.event ∧ actions = [] ∧ (s = .acquiring a ∨ s = .absent)) ∨
      (actions = [.finish call (.error .interrupted)] ∧ s = .absent) := by
  have hundisturbed (hu : m.interrupted a = false) : False := by simp [hd] at hu
  cases h with
  | rest still => exact .inl ⟨fun hr => still ⟨hr, fun _ => hd⟩, rfl, .inl rfl⟩
  | leave event =>
    refine .inl ⟨fun hr => ?_, rfl, .inr rfl⟩
    rcases event ▸ hr with ⟨_, he, _⟩ | ⟨he, _⟩ | he <;> cases he
  | interrupted _ _ => exact .inr ⟨rfl, rfl⟩
  | hand turn _ => exact absurd rfl turn.ne_acquiring
  | begin begins => exact absurd rfl begins.ne_acquiring
  | connected ends => exact (hundisturbed ends.undisturbed).elim
  | exhausted ends _ _ => exact (hundisturbed ends.undisturbed).elim
  | pause ends _ _ => exact (hundisturbed ends.undisturbed).elim
  | late resumes _ => exact (hundisturbed resumes.undisturbed).elim
  | retry resumes => exact (hundisturbed resumes.undisturbed).elim

/-- Only an interrupted acquisition ends with that error. -/
theorem Moves.of_interrupted (h : m.Moves i call s actions s') (hp : .finish call (.error .interrupted) ∈ actions) :
    ∃ a, s = .acquiring a ∧ m.interrupted a = true := by
  cases h with
  | interrupted _ disturbed => exact ⟨_, rfl, disturbed⟩
  | _ => simp at hp

/-- A call to which something is told is over. -/
theorem Moves.of_finish (h : m.Moves i call s actions s') {result : Except Error ConnectionId}
    (hp : .finish call result ∈ actions) : s' = .absent := by
  cases h with
  | rest _ => simp at hp
  | queue _ => simp at hp
  | grant => simp at hp
  | begin _ => simp at hp
  | pause _ _ _ => simp at hp
  | retry _ => simp at hp
  | _ => rfl

/-- A call that has the turn keeps it until it is over. -/
def Standing.HasTurn : Standing → Prop
  | .granted => True
  | .acquiring a => a.shared = true
  | .absent | .queued => False

theorem Orderly.holder_iff (h : m.Orderly) : m.holder = some call ↔ (m.standing call).HasTurn := by
  rcases standing_cases m call with ⟨hs, -, hh, -⟩ | ⟨hs, -, hh, -⟩ | ⟨hs, -, hh⟩ | ⟨a, hs, hf⟩ <;> rw [hs]
  · simp [Standing.HasTurn, hh]
  · simp [Standing.HasTurn, hh]
  · simp [Standing.HasTurn, hh]
  · exact (h.shared call a hf).symm

theorem Moves.keeps_turn (h : m.Moves i call s actions s') (hs : s.HasTurn) : s'.HasTurn ∨ s' = .absent := by
  cases h with
  | rest _ => exact .inl hs
  | queue _ => cases hs
  | grant => cases hs
  | begin begins =>
    rcases begins with ⟨rfl, -⟩ | ⟨-, -, rfl⟩
    · cases hs
    · exact .inl rfl
  | pause _ _ _ => exact .inl hs
  | retry _ => exact .inl hs
  | _ => exact .inr rfl

end

section

variable {policy : RetryPolicy} {is before after : List Moment} {i : Moment} {call : CallId} {a : Acquisition}

theorem generation_concat (policy : RetryPolicy) (hs : Schedule (is ++ [i])) :
    (i.event = .interrupt ∧
        (chronicle policy (is ++ [i])).now.generation = (chronicle policy is).now.generation + 1) ∨
      (i.event ≠ .interrupt ∧
        (chronicle policy (is ++ [i])).now.generation = (chronicle policy is).now.generation) := by
  rw [chronicle_concat]
  by_cases hi : i.event = .interrupt
  · exact .inl ⟨hi, by rw [Chronicle.next, act_interrupt hi]⟩
  · exact .inr ⟨hi, (orderly_chronicle policy hs.left).1.generation (new_chronicle policy hs) hi⟩

/-- Nothing moves when an interrupt comes. -/
theorem standing_interrupt (policy : RetryPolicy) (is : List Moment) (hi : i.event = .interrupt) (call : CallId) :
    (chronicle policy (is ++ [i])).now.standing call = (chronicle policy is).now.standing call := by
  rw [chronicle_concat, Chronicle.next, act_interrupt hi]
  exact standing_congr rfl Iff.rfl Iff.rfl

/-- An acquisition saw no later generation than the present one, and that one unless an interrupt came while it was in
progress. -/
theorem seen_chronicle (policy : RetryPolicy) (hs : Schedule is)
    (ha : (chronicle policy is).now.standing call = .acquiring a) :
    a.seen ≤ (chronicle policy is).now.generation ∧ (a.seen = (chronicle policy is).now.generation ∨
      ∃ before i after b, is = before ++ i :: after ∧ i.event = .interrupt ∧
        (chronicle policy before).now.find? call = some b) := by
  induction is using List.reverseRecOn generalizing a with
  | nil => cases ha
  | append_singleton is i ih =>
    rcases generation_concat policy hs with ⟨hi, hgeneration⟩ | ⟨hi, hgeneration⟩
    · -- the interrupt finds the acquisition in progress
      rw [standing_interrupt policy is hi] at ha
      obtain ⟨hle, -⟩ := ih hs.left ha
      exact ⟨by omega, .inr ⟨is, i, [], a, rfl, hi, find?_of_standing ha⟩⟩
    · rw [hgeneration]
      have hold {b : Acquisition} (hb : (chronicle policy is).now.standing call = .acquiring b) :
          b.seen ≤ (chronicle policy is).now.generation ∧ (b.seen = (chronicle policy is).now.generation ∨
            ∃ before j after c, is ++ [i] = before ++ j :: after ∧ j.event = .interrupt ∧
              (chronicle policy before).now.find? call = some c) := by
        obtain ⟨hle, hseen⟩ := ih hs.left hb
        refine ⟨hle, hseen.imp_right ?_⟩
        rintro ⟨before, j, after, c, rfl, hj, hc⟩
        exact ⟨before, j, after ++ [i], c, by simp, hj, hc⟩
      have hmove := moves_chronicle policy hs call
      rw [ha] at hmove
      rcases hmove.to_acquiring with ⟨hb, -⟩ | ⟨-, -, shared, rfl⟩ | ⟨b, hb, -, -, rfl⟩ | ⟨b, hb, -, -, rfl⟩
      · exact hold hb
      · exact ⟨Nat.le_refl _, .inl rfl⟩
      · exact (hold hb :)
      · exact (hold hb :)

theorem interrupted_of_lt {m : Manager} (h : a.seen < m.generation) : m.interrupted a = true := by
  simpa [interrupted] using Nat.ne_of_lt h

/-- Once an interrupt came, an acquisition that was in progress then stays as it is or is over, and nothing is done for
it but that it ends with that error. -/
theorem interrupted_after (policy : RetryPolicy) (hs : Schedule (before ++ i :: after)) (hi : i.event = .interrupt)
    (ha : (chronicle policy before).now.standing call = .acquiring a) :
    ((chronicle policy (before ++ i :: after)).now.standing call = .acquiring a ∧
      a.seen < (chronicle policy (before ++ i :: after)).now.generation ∧
      (chronicle policy (before ++ i :: after)).own call = (chronicle policy before).own call) ∨
    ((chronicle policy (before ++ i :: after)).now.standing call = .absent ∧
      ((chronicle policy (before ++ i :: after)).own call = (chronicle policy before).own call ∨
        ∃ t, (chronicle policy (before ++ i :: after)).own call =
          (chronicle policy before).own call ++ [(t, .finish call (.error .interrupted))])) := by
  have hcall : call ∈ requests before := by
    by_contra hnew
    cases ha.symm.trans ((orderly_chronicle policy hs.left).2.2 call hnew).1
  induction after using List.reverseRecOn with
  | nil =>
    obtain ⟨hle, -⟩ := seen_chronicle policy hs.left ha
    have hgeneration := (generation_concat policy hs).resolve_right fun h => h.1 hi
    refine .inl ⟨(standing_interrupt policy before hi call).trans ha, by omega, ?_⟩
    rw [own_concat, act_interrupt hi, own_wakes, List.map_nil, List.append_nil]
  | append_singleton after j ih =>
    have hsplit : before ++ i :: (after ++ [j]) = before ++ i :: after ++ [j] := by simp
    rw [hsplit] at hs ⊢
    rcases ih hs.left with ⟨hstanding, hseen, hown⟩ | ⟨habsent, hown⟩
    · -- generations only grow, so the acquisition stays interrupted
      have hmove := moves_chronicle policy hs call
      rw [hstanding] at hmove
      rcases hmove.of_disturbed (interrupted_of_lt hseen) with ⟨-, hnone, hstays | hgone⟩ | ⟨hactions, hgone⟩
      · refine .inl ⟨hstays, ?_, by rw [own_concat, hnone, hown, List.map_nil, List.append_nil]⟩
        rcases generation_concat policy hs with ⟨-, hgeneration⟩ | ⟨-, hgeneration⟩ <;> omega
      · exact .inr ⟨hgone, .inl (by rw [own_concat, hnone, hown, List.map_nil, List.append_nil])⟩
      · exact .inr ⟨hgone, .inr ⟨j.time, by rw [own_concat, hactions, hown]; rfl⟩⟩
    · obtain ⟨hstays, hsame⟩ := over_chronicle policy hs (by simp [hcall]) habsent
      exact .inr ⟨hstays, hsame ▸ hown⟩

/-- While a call has the turn for the connection that is shared, that connection stays. -/
theorem current_while_turn (policy : RetryPolicy) (hs : Schedule (before ++ after))
    (hh : (chronicle policy before).now.holder = some call) :
    ((chronicle policy (before ++ after)).now.holder = some call ∧
      (chronicle policy (before ++ after)).now.current = (chronicle policy before).now.current) ∨
    (chronicle policy (before ++ after)).now.standing call = .absent := by
  have hcall : call ∈ requests before := by
    by_contra hnew
    obtain ⟨-, hholder, -⟩ := of_absent ((orderly_chronicle policy hs.left).2.2 call hnew).1
    exact hholder hh
  induction after using List.reverseRecOn with
  | nil => exact .inl (by simpa using hh)
  | append_singleton after j ih =>
    rw [← List.append_assoc] at hs ⊢
    rcases ih hs.left with ⟨hholder, hcurrent⟩ | habsent
    · have horderly := (orderly_chronicle policy hs.left).1
      have hmove := moves_chronicle policy hs call
      rcases hmove.keeps_turn (horderly.holder_iff.1 hholder) with hturn | hgone
      · refine .inl ⟨(orderly_chronicle policy hs).1.holder_iff.2 hturn, ?_⟩
        rw [chronicle_concat, Chronicle.next, ← hcurrent]
        refine (horderly.current (new_chronicle policy hs)).resolve_right ?_
        rintro ⟨other, c, hother, -, hown⟩
        -- who ends with another connection has the turn, and is over then
        obtain rfl : call = other := by simpa [hholder] using hother
        have hgone := hmove.of_finish (hown ▸ List.mem_singleton_self _)
        rw [hgone] at hturn
        exact hturn
      · exact .inr hgone
    · exact .inr (over_chronicle policy hs (by simp [hcall]) habsent).1

end

/-- **Whatever calls come and go, and whenever interrupts come: an interrupt wakes every acquisition that is in progress
then, in an attempt or in a pause. Such an acquisition makes no more attempts, and nothing else is done for it either,
but that it ends with that error when it runs again, also when its attempt ended or its pause was over meanwhile. And
only those end so: who ends with that error was in progress when an interrupt came. The connection that is shared is
then as it was, ever since the call had the turn for it.** -/
theorem interrupts (policy : RetryPolicy) (call : CallId) :
    (∀ before i after a, Schedule (before ++ i :: after) → i.event = .interrupt →
      (chronicle policy before).now.find? call = some a →
      .wake (.noticed call) ∈ ((chronicle policy before).now.act i).2 ∧
      ((chronicle policy (before ++ i :: after)).own call = (chronicle policy before).own call ∨
        ∃ t, (chronicle policy (before ++ i :: after)).own call =
          (chronicle policy before).own call ++ [(t, .finish call (.error .interrupted))]) ∧
      ∀ during j rest b, after = during ++ j :: rest →
        (chronicle policy (before ++ i :: during)).now.find? call = some b → b.Runs j.event →
        own call ((chronicle policy (before ++ i :: during)).now.act j).2 = [.finish call (.error .interrupted)]) ∧
    ∀ before j, Schedule (before ++ [j]) →
      .finish call (.error .interrupted) ∈ ((chronicle policy before).now.act j).2 →
      (∃ earlier i later a, before = earlier ++ i :: later ∧ i.event = .interrupt ∧
        (chronicle policy earlier).now.find? call = some a) ∧
      (chronicle policy (before ++ [j])).now.current = (chronicle policy before).now.current ∧
      ∀ earlier later, before = earlier ++ later → (chronicle policy earlier).now.holder = some call →
        (chronicle policy (before ++ [j])).now.current = (chronicle policy earlier).now.current := by
  constructor
  · intro before i after a hs hi hf
    have ha := standing_of_find? hf
    refine ⟨?_, ?_, ?_⟩
    · rw [act_interrupt hi]
      obtain rfl := call_of_find? hf
      exact List.mem_map.2 ⟨a, List.mem_of_find?_eq_some hf, rfl⟩
    · rcases interrupted_after policy hs hi ha with ⟨-, -, hsame⟩ | ⟨-, hown⟩
      · exact .inl hsame
      · exact hown
    · rintro during j rest b rfl hb hr
      have hsplit : before ++ i :: (during ++ j :: rest) = before ++ i :: during ++ [j] ++ rest := by simp
      rw [hsplit] at hs
      have hmove := moves_chronicle policy hs.left call
      rw [standing_of_find? hb] at hmove
      rcases interrupted_after policy hs.left.left hi ha with ⟨hstanding, hseen, -⟩ | ⟨habsent, -⟩
      · cases hstanding.symm.trans (standing_of_find? hb)
        rcases hmove.of_disturbed (interrupted_of_lt hseen) with ⟨hidle, -⟩ | ⟨hactions, -⟩
        · exact absurd hr hidle
        · exact hactions
      · cases habsent.symm.trans (standing_of_find? hb)
  · intro before j hs hp
    have hmove := moves_chronicle policy hs call
    have hown := mem_own.2 ⟨hp, rfl⟩
    obtain ⟨a, ha, hdisturbed⟩ := hmove.of_interrupted hown
    rw [ha] at hmove
    obtain ⟨hactions, -⟩ := (hmove.of_disturbed hdisturbed).resolve_left fun h => by simp [h.2.1] at hown
    have horderly := (orderly_chronicle policy hs.left).1
    have hnew := new_chronicle policy hs
    have hkeeps : (chronicle policy (before ++ [j])).now.current = (chronicle policy before).now.current := by
      rw [chronicle_concat]
      refine (horderly.current hnew).resolve_right ?_
      rintro ⟨other, c, -, -, hother⟩
      have hmine := horderly.call?_of_own hnew (hactions ▸ List.cons_ne_nil _ _)
      have hothers := horderly.call?_of_own hnew (hother ▸ List.cons_ne_nil _ _)
      cases hmine.symm.trans hothers
      cases hactions.symm.trans hother
    refine ⟨?_, hkeeps, ?_⟩
    · obtain ⟨-, hseen | hlater⟩ := seen_chronicle policy hs.left ha
      · simp [interrupted, hseen] at hdisturbed
      · obtain ⟨earlier, i, later, b, hsplit, hi, hb⟩ := hlater
        exact ⟨earlier, i, later, b, hsplit, hi, hb⟩
    · rintro earlier later rfl hh
      rcases current_while_turn policy hs.left hh with ⟨-, hcurrent⟩ | habsent
      · exact hkeeps.trans hcurrent
      · cases ha.symm.trans habsent

def asks : Moment := ⟨0, fun _ => true, .ask 7⟩

def interrupt : Moment := ⟨50, fun _ => true, .interrupt⟩

def connects : Moment := ⟨50, fun _ => true, .ended 7 1 (.connected 3)⟩

/-- The first attempt for the connection that is shared, after an interrupt. -/
def attempting : Acquisition := { call := 7, retry := ⟨{}, 0, 100, 1⟩, shared := true, seen := 0 }

/-- An attempt makes a connection just when an interrupt comes: the caller is told of the interrupt, and no connection
is shared. -/
theorem interrupts_connected :
    Schedule [asks, interrupt, connects] ∧ (chronicle {} [asks, interrupt]).now.find? 7 = some attempting ∧
      attempting.Runs connects.event ∧
      own 7 ((chronicle {} [asks, interrupt]).now.act connects).2 = [.finish 7 (.error .interrupted)] ∧
      (chronicle {} [asks, interrupt, connects]).now.current = (chronicle {} [asks]).now.current := by
  have hs : Schedule ([asks] ++ interrupt :: [connects]) := by decide
  have hruns : attempting.Runs connects.event := .inl ⟨_, rfl, rfl⟩
  obtain ⟨hreached, honly⟩ := interrupts {} 7
  obtain ⟨-, -, hends⟩ := hreached [asks] interrupt [connects] attempting hs rfl rfl
  have hown : own 7 ((chronicle {} [asks, interrupt]).now.act connects).2 = [.finish 7 (.error .interrupted)] :=
    hends [] connects [] attempting rfl rfl hruns
  obtain ⟨-, -, hcurrent⟩ := honly [asks, interrupt] connects hs (mem_own.1 (hown ▸ List.mem_singleton_self _)).1
  exact ⟨hs, rfl, hruns, hown, hcurrent [asks] [interrupt] rfl rfl⟩

end BrokerClient.Manager
