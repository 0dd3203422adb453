import BrokerClient.Proofs.Publisher.Relaying

/-!
# Publishing a message

A message that was encoded is an errand of the pool, and in every run its errand stands in one of two ways
(`Standing`): it is under way, with one call sent if it has a channel and none if it has not, or it is over. What a
step does to an errand under way is `Proceeds`; what is left at the end of one is `Ends`. From the steps follow the
runs, and from the runs that a message is sent at most once, with what publishing returns, what is logged about it
and what becomes of its permit and its channel.
-/

namespace BrokerClient.Publisher

/-! ## Endings -/

namespace Errand

/-- The report about the failure of an errand. -/
def report (x : Errand) (e : Error) : LogEntry :=
  if x.background then .error "pooled task failed" [("error", e.message)] else x.publication.failureReport e

/-- A failure is reported once, and success is not reported. -/
def reports (x : Errand) : Outcome → List LogEntry
  | .ok _ => []
  | .error e => [x.report e]

end Errand

/-- How publishing a message ends, what it returns, and which errors are logged before its own. -/
inductive Ends (id : BorrowId) (s : Publisher) (m : Moment) (t : Effect) : Outcome → List LogEntry → Prop
  /-- The broker answered the call. The channel is idle again if it is open; if the pool was closed meanwhile it is
  handed over to be closed. -/
  | answered {c : ChannelId} {answer : Outcome} (hlent : s.pool.phase? id = some (.lent c))
      (he : m.event = .pool (.worked id answer))
      (hidle : t.1.pool.idle = if s.pool.isClosed = false ∧ m.isOpen c = true then c :: s.pool.idle else s.pool.idle)
      (hclose : s.pool.isClosed = true → .closeChannel .nobody c ∈ t.2) : Ends id s m t answer []
  /-- No channel could be made. -/
  | unmade {error : Error} (hcreating : s.pool.phase? id = some .creating)
      (he : m.event = .pool (.created id (.error error))) (hidle : t.1.pool.idle = s.pool.idle) :
      Ends id s m t (.error error) []
  /-- The pool was closed while a channel was made, which was closed or could not be. -/
  | discarded {c : ChannelId} {closing : Outcome} (hclosed : s.pool.isClosed = true)
      (hdiscarding : s.pool.phase? id = some (.discarding c))
      (he : m.event = .pool (.itemClosed (.borrower id) closing)) (hidle : t.1.pool.idle = s.pool.idle) :
      Ends id s m t (.error .poolClosed) (Pool.errors (Pool.closeReport closing : List (Pool.Action ChannelId)))
  /-- The pool was closed before. -/
  | shut (hclosed : s.pool.isClosed = true) (hidle : t.1.pool.idle = s.pool.idle) :
      Ends id s m t (.error .poolClosed) []

section Concluding

variable {p : Publisher} {x : Errand} {as : List (Pool.Action ChannelId)}

theorem errors_errandReport (x : Errand) (result : Outcome) :
    Pool.errors (Pool.errandReport (.errand x.background) result : List (Pool.Action ChannelId)) =
      if x.background then x.reports result else [] := by
  cases result with
  | ok _ => exact (ite_self []).symm
  | error e =>
    cases hb : x.background
    · rfl
    · simp [Errand.reports, Errand.report, hb]
      rfl

theorem errors_conclude (hx : p.find? x.id = some x) (result : Outcome) :
    errors (p.conclude x.id result).2 = if x.background then [] else x.reports result := by
  cases result with
  | ok _ => simp [conclude, hx, Errand.reports, errors, Action.error?]
  | error e =>
    cases hb : x.background
    · simp [conclude, hx, hb, Errand.reports, Errand.report]
      rfl
    · simp [conclude, hx, hb]
      rfl

/-- The last thing that an errand is told. -/
inductive LastWord (id : BorrowId) : Outcome → Pool.Action ChannelId → Prop
  | finish (result : Outcome) : LastWord id result (.finish id result)
  | refuse (error : Error) : LastWord id (.error error) (.refuse id error)

/-- An errand is told of its end after nobody was told anything. A failure is reported once, by the pool or by the
publisher. -/
structure Ending (x : Errand) (as : List (Pool.Action ChannelId)) (result : Outcome) (actions : List Action) : Prop where
  sends : sends x.id actions = []
  results : results x.id actions = [result]
  errors : errors actions = Pool.errors as ++ x.reports result
  closings : ∀ closer c, .closeItem closer c ∈ as → .closeChannel closer c ∈ actions

theorem ending_actAll (hx : p.find? x.id = some x) (hs : Pool.Silent as) {result : Outcome}
    {word : Pool.Action ChannelId} (hword : LastWord x.id result word) :
    Ending x as result (p.actAll (as ++ Pool.errandReport (.errand x.background) result ++ [word])).2 := by
  have hact : p.act word = p.conclude x.id result := by cases hword <;> rfl
  have hr : (p.actAll (as ++ Pool.errandReport (.errand x.background) result ++ [word])).2 =
      as.filterMap relay? ++ (Pool.errandReport (.errand x.background) result).filterMap relay? ++
        (p.conclude x.id result).2 := by
    simp [actAll_append, actAll_of_silent hs, actAll_of_silent (Pool.silent_errandReport _ _), actAll, hact]
  have hverdict : verdicts x.id [word] = [result] := by cases hword <;> simp [verdicts, verdict?]
  refine ⟨?_, ?_, ?_, ?_⟩
  · rw [hr, sends_append, sends_append, sends_relay, sends_relay, sends_conclude]
    rfl
  · rw [results_actAll, verdicts_append, verdicts_of_untold ((hs.append (Pool.silent_errandReport _ _)).untold _),
      hverdict]
    rfl
  · rw [hr, errors_append, errors_append, errors_relay, errors_relay, errors_errandReport, errors_conclude hx]
    cases x.background <;> simp
  · intro closer c hc
    rw [hr, List.append_assoc]
    exact List.mem_append_left _ (closeChannel_mem_relay hc)

theorem loans_ending (hs : Pool.Silent as) {result : Outcome} {word : Pool.Action ChannelId}
    (hword : LastWord x.id result word) (purpose : Purpose) :
    Pool.loans x.id (as ++ Pool.errandReport purpose result ++ [word]) = [] := by
  rw [Pool.loans_append, Pool.loans_of_untold ((hs.append (Pool.silent_errandReport _ _)).untold _)]
  cases hword <;> rfl

end Concluding

/-! ## One step -/

/-- The errors that are logged in a step about a message. -/
def errorsAbout (id : BorrowId) (m : Moment) (t : Effect) : List LogEntry :=
  if m.event.borrower? = some id then errors t.2 else []

/-- What a step does to an errand under way: it goes on, and a call is sent when it gets a channel; or it ends, or it
goes away. -/
inductive Proceeds (x : Errand) (s : Publisher) (phase : Pool.Phase ChannelId) (m : Moment) (t : Effect) : Prop
  | goesOn {next : Pool.Phase ChannelId} (hborrow : t.1.pool.find? x.id = some ⟨x.id, .errand x.background, next⟩)
      (herrand : t.1.find? x.id = some x)
      (hsends : phase.lent?.toList.map (·, x.publication.call) ++ sends x.id t.2 =
        next.lent?.toList.map (·, x.publication.call))
      (hresults : results x.id t.2 = []) (herrors : errorsAbout x.id m t = [])
      (hdiscarding : ∀ c, next = .discarding c →
        phase = .discarding c ∨ s.pool.isClosed = true ∧ .closeChannel (.borrower x.id) c ∈ t.2)
  | ends {result : Outcome} {reported : List LogEntry} (hgone : t.1.pool.find? x.id = none)
      (hsends : sends x.id t.2 = []) (hresults : results x.id t.2 = [result])
      (hends : Ends x.id s m t result reported) (herrors : errors t.2 = reported ++ x.reports result)
  | leaves (hgone : t.1.pool.find? x.id = none) (hsends : sends x.id t.2 = []) (hresults : results x.id t.2 = [])

section Step

variable {x : Errand} {s : Publisher} {m : Moment} {phase : Pool.Phase ChannelId} {e : Pool.Event ChannelId}

/-- The publisher follows what the pool does to its errand. -/
theorem proceeds_of_fares (he : m.event.pool? = some e) (hx : (s.enter m.event).find? x.id = some x)
    (hphase : s.pool.phase? x.id = some phase ∨ e.newcomer? = some x.id)
    (hf : Pool.Fares s.pool m.isOpen x.id x.background phase e (s.pool.step m.isOpen e)) :
    Proceeds x s phase m (s.step m.isOpen m.event) ∧
      sends x.id (s.step m.isOpen m.event).2 =
        (Pool.loans x.id (s.pool.step m.isOpen e).2).map (·, x.publication.call) := by
  rw [step_of_pool? he]
  generalize s.pool.step m.isOpen e = r at hf ⊢
  obtain ⟨q, as⟩ := r
  -- the errand is there when the publisher follows the pool
  have hfind : ({ s.enter m.event with pool := q } : Publisher).find? x.id = some x := hx
  generalize hentered : ({ s.enter m.event with pool := q } : Publisher) = entered at hfind ⊢
  have hpool (as : List (Pool.Action ChannelId)) : (entered.actAll as).1.pool = q := by
    rw [actAll_pool, ← hentered]
  have hat (hnew : e.newcomer? = none) : s.pool.phase? x.id = some phase :=
    hphase.resolve_right fun h => by rw [hnew] at h; cases h
  cases hf with
  | @goesOn _ _ next hq hlent hdiscarding hsilent herrors =>
    have hsends : sends x.id (entered.actAll as).2 = [] := by rw [actAll_of_silent hsilent, sends_relay]
    have hborrow : (entered.actAll as).1.pool.find? x.id = some ⟨x.id, .errand x.background, next⟩ := by
      rw [hpool]
      exact hq
    refine ⟨.goesOn hborrow ?_ ?_ ?_ ?_ ?_, ?_⟩
    · rw [actAll_of_silent hsilent]
      exact hfind
    · rw [hsends, hlent, List.append_nil]
    · rw [results_actAll, verdicts_of_untold (hsilent.untold _)]
    · rw [errorsAbout, actAll_of_silent hsilent, errors_relay, herrors, ite_self]
    · intro c hc
      refine (hdiscarding c hc).imp_right (And.imp_right fun hmem => ?_)
      rw [actAll_of_silent hsilent]
      exact closeChannel_mem_relay hmem
    · rw [hsends, Pool.loans_of_untold (hsilent.untold _), List.map_nil]
  | @lent _ c hnone hq =>
    have hact : entered.actAll [.work x.id c] = (entered, [.send x.id c x.publication.call]) := by
      simp [actAll, act, hfind]
    have hsends : sends x.id [.send x.id c x.publication.call] = [(c, x.publication.call)] := by
      simp [sends, Action.send?]
    have hborrow : entered.pool.find? x.id = some ⟨x.id, .errand x.background, .lent c⟩ := by
      rw [← hentered]
      exact hq
    rw [hact]
    refine ⟨.goesOn hborrow hfind ?_ rfl ?_ (fun _ h => by cases h), ?_⟩
    · rw [hsends, hnone]
      rfl
    · exact ite_self _
    · rw [hsends]
      simp [Pool.loans, Pool.Action.loan?]
  | @worked _ as c result hp hevent hq hidle hclose hsilent herrors =>
    have hending := ending_actAll hfind hsilent (.finish result)
    have hm : m.event = .pool (.worked x.id result) := Event.eq_pool (hevent ▸ he) rfl
    have hlent : s.pool.phase? x.id = some (.lent c) := hp ▸ hat (by rw [hevent]; rfl)
    rw [loans_ending hsilent (.finish result), List.map_nil]
    refine ⟨.ends ((hpool _).symm ▸ hq) hending.sends hending.results (.answered hlent hm ?_ ?_) ?_, hending.sends⟩
    · rw [hpool]
      exact hidle
    · exact fun hc => hending.closings _ _ (hclose hc)
    · rw [hending.errors, herrors]
  | @refused _ as error hq hidle hwhy hsilent =>
    have hending := ending_actAll hfind hsilent (.refuse error)
    rw [loans_ending hsilent (.refuse error), List.map_nil]
    refine ⟨.ends ((hpool _).symm ▸ hq) hending.sends hending.results ?_ hending.errors, hending.sends⟩
    have hleft (as : List (Pool.Action ChannelId)) : (entered.actAll as).1.pool.idle = s.pool.idle := by
      rw [hpool, hidle]
    generalize Pool.errors as = reported at hwhy
    cases hwhy with
    | unmade error => exact .unmade (hat rfl) (Event.eq_pool he rfl) (hleft _)
    | discarded hc item closing => exact .discarded hc (hat rfl) (Event.eq_pool he rfl) (hleft _)
    | shut hc hp e => exact .shut hc (hleft _)
  | @leaves _ _ hq hsilent herrors =>
    have hsends : sends x.id (entered.actAll as).2 = [] := by rw [actAll_of_silent hsilent, sends_relay]
    refine ⟨.leaves ((hpool _).symm ▸ hq) hsends ?_, ?_⟩
    · rw [results_actAll, verdicts_of_untold (hsilent.untold _)]
    · rw [hsends, Pool.loans_of_untold (hsilent.untold _), List.map_nil]

/-- What a step does that is about others. -/
structure Bypasses (id : BorrowId) (s : Publisher) (m : Moment) (t : Effect) : Prop extends Untold id s t where
  steady : Pool.Steady id s.pool t.1.pool
  results : results id t.2 = []
  loans : Pool.loans id (s.poolEffect m).2 = []

theorem bypasses_step {id : BorrowId} (hids : (s.pool.borrows.map (·.id)).Nodup)
    (hm : ∀ e, m.event.pool? = some e → s.pool.Admits e) (hname : m.event.name? ≠ some id)
    (hother : ∀ e, m.event.pool? = some e → e.borrower? ≠ some id) :
    Bypasses id s m (s.step m.isOpen m.event) := by
  cases he : m.event.pool? with
  | none =>
    obtain ⟨i, background, error, hevent, hstep⟩ := step_of_not_encoded he (p := s) m.isOpen
    have hi : i ≠ id := fun hi => hname (by rw [hevent, hi]; rfl)
    rw [hstep]
    refine ⟨⟨rfl, rfl⟩, .same rfl, ?_, ?_⟩
    · simp [results, Action.result?, hi]
    · simp [poolEffect, he, Pool.loans]
  | some e =>
    have hspares : Pool.Spares id s.pool (s.pool.step m.isOpen e) := Pool.spares_step hids (hm e he) (hother e he)
    have huntold := untold_actAll (p := { s.enter m.event with pool := (s.pool.step m.isOpen e).1 }) hspares.untold
    refine ⟨⟨?_, ?_⟩, ?_, ?_, ?_⟩
    · rw [step_of_pool? he]
      exact huntold.errand.trans (find?_enter hname)
    · rw [step_of_pool? he]
      exact huntold.sends
    · rw [pool_step he]
      exact hspares.steady
    · rw [results_step he, verdicts_of_untold hspares.untold]
    · simp only [poolEffect, he]
      exact Pool.loans_of_untold hspares.untold

/-- Nothing is done for a message whose errand is not there. -/
theorem bypasses_gone {id : BorrowId} (hids : (s.pool.borrows.map (·.id)).Nodup)
    (hm : ∀ e, m.event.pool? = some e → s.pool.Admits e) (hname : m.event.name? ≠ some id)
    (hgone : s.pool.find? id = none) : Bypasses id s m (s.step m.isOpen m.event) := by
  by_cases hother : ∀ e, m.event.pool? = some e → e.borrower? ≠ some id
  · exact bypasses_step hids hm hname hother
  · simp only [not_forall, not_not] at hother
    obtain ⟨e, he, hown⟩ := hother
    have hnothing : s.pool.step m.isOpen e = (s.pool, []) :=
      Pool.step_of_find?_none hgone hown (Event.name?_eq he ▸ hname)
    have hstep : s.step m.isOpen m.event = (s.enter m.event, []) := by
      rw [step_of_pool? he, hnothing, ← s.pool_enter m.event]
      rfl
    rw [hstep]
    refine ⟨⟨find?_enter hname, rfl⟩, .same ?_, rfl, ?_⟩
    · rw [pool_enter]
    · simp [poolEffect, he, hnothing, Pool.loans]

/-- **What a step does to an errand under way.** -/
theorem proceeds_step (hids : (s.pool.borrows.map (·.id)).Nodup)
    (hm : ∀ e, m.event.pool? = some e → s.pool.Admits e) (hname : m.event.name? ≠ some x.id)
    (hborrow : s.pool.find? x.id = some ⟨x.id, .errand x.background, phase⟩) (hx : s.find? x.id = some x)
    (hdiscarding : ∀ c, phase = .discarding c → s.pool.isClosed = true) :
    Proceeds x s phase m (s.step m.isOpen m.event) ∧
      sends x.id (s.step m.isOpen m.event).2 =
        (Pool.loans x.id (s.poolEffect m).2).map (·, x.publication.call) := by
  have hphase : s.pool.phase? x.id = some phase := by rw [Pool.phase?, hborrow]; rfl
  by_cases hother : ∀ e, m.event.pool? = some e → e.borrower? ≠ some x.id
  · have h := bypasses_step hids hm hname hother
    have hnotAbout : errorsAbout x.id m (s.step m.isOpen m.event) = [] := by
      refine if_neg fun hown => ?_
      cases he : m.event.pool? with
      | none =>
        obtain ⟨i, background, error, hevent, -⟩ := step_of_not_encoded he (p := s) m.isOpen
        rw [hevent] at hown hname
        exact hname hown
      | some e => exact hother e he (Event.borrower?_eq he ▸ hown)
    refine ⟨?_, by rw [h.sends, h.loans]; rfl⟩
    cases h.steady with
    | same hsame =>
      refine .goesOn (hsame.trans hborrow) (h.errand.trans hx) ?_ h.results hnotAbout fun c hc => .inl hc
      rw [h.sends, List.append_nil]
    | granted purpose hwaits hgranted =>
      obtain ⟨rfl, rfl⟩ : purpose = .errand x.background ∧ phase = .waiting := by
        rw [hborrow] at hwaits
        cases hwaits
        exact ⟨rfl, rfl⟩
      exact .goesOn hgranted (h.errand.trans hx) (by rw [h.sends]; rfl) h.results hnotAbout fun _ h => by cases h
  · simp only [not_forall, not_not] at hother
    obtain ⟨e, he, hown⟩ := hother
    have hfares : Pool.Fares s.pool m.isOpen x.id x.background phase e (s.pool.step m.isOpen e) :=
      Pool.fares_step hids hborrow hdiscarding hown (Event.name?_eq he ▸ hname)
    simp only [poolEffect, he]
    exact proceeds_of_fares he ((find?_enter hname).trans hx) (.inl hphase) hfares

end Step

/-! ## Runs -/

/-- The errors that are logged about a message in a run. -/
def errorsIn (id : BorrowId) (s : Publisher) : List Moment → List LogEntry
  | [] => []
  | m :: ms => errorsAbout id m (s.step m.isOpen m.event) ++ errorsIn id (s.step m.isOpen m.event).1 ms

/-- How an errand stands after what was done and logged about it. -/
inductive Standing (x : Errand) (s : Publisher) (done : List Action) : List LogEntry → Prop
  /-- It is under way: its call was sent if it has a channel, nothing was returned or reported, and a channel that was
  made for a closed pool was handed over to be closed. -/
  | underWay {phase : Pool.Phase ChannelId} (hborrow : s.pool.find? x.id = some ⟨x.id, .errand x.background, phase⟩)
      (herrand : s.find? x.id = some x) (hsends : sends x.id done = phase.lent?.toList.map (·, x.publication.call))
      (hresults : results x.id done = [])
      (hdiscarding : ∀ c, phase = .discarding c →
        s.pool.isClosed = true ∧ .closeChannel (.borrower x.id) c ∈ done) : Standing x s done []
  /-- It is over. -/
  | finished {reported : List LogEntry} (hgone : s.pool.find? x.id = none) (hsends : (sends x.id done).length ≤ 1)
      (hresults : (results x.id done).length ≤ 1) : Standing x s done reported

theorem length_lent?_le {ι β : Type} (phase : Pool.Phase ι) (f : ι → β) : (phase.lent?.toList.map f).length ≤ 1 := by
  cases phase <;> simp [Pool.Phase.lent?]

section Run

variable {x : Errand} {s : Publisher} {done : List Action} {reported : List LogEntry} {capacity : Nat}

/-- What a step does to an errand under way is how it stands next. -/
theorem Proceeds.standing {m : Moment} {phase : Pool.Phase ChannelId} {t : Effect} (h : Proceeds x s phase m t)
    (hsends : sends x.id done = phase.lent?.toList.map (·, x.publication.call)) (hresults : results x.id done = [])
    (hdiscarding : ∀ c, phase = .discarding c → s.pool.isClosed = true ∧ .closeChannel (.borrower x.id) c ∈ done)
    (hclosed : s.pool.isClosed = true → t.1.pool.isClosed = true) :
    Standing x t.1 (done ++ t.2) (errorsAbout x.id m t) := by
  have hover (hgone : t.1.pool.find? x.id = none) (hnone : sends x.id t.2 = [])
      (hle : (results x.id t.2).length ≤ 1) : Standing x t.1 (done ++ t.2) (errorsAbout x.id m t) := by
    refine .finished hgone ?_ ?_
    · rw [sends_append, hnone, List.append_nil, hsends]
      exact length_lent?_le phase _
    · rwa [results_append, hresults, List.nil_append]
  cases h with
  | goesOn hborrow herrand hsent hunfinished hquiet hnext =>
    rw [hquiet]
    refine .underWay hborrow herrand ?_ ?_ ?_
    · rw [sends_append, hsends, hsent]
    · rw [results_append, hresults, hunfinished]
      rfl
    · intro c hc
      rcases hnext c hc with hbefore | ⟨hc, hmem⟩
      · obtain ⟨hc, hmem⟩ := hdiscarding c hbefore
        exact ⟨hclosed hc, List.mem_append_left _ hmem⟩
      · exact ⟨hclosed hc, List.mem_append_right _ hmem⟩
  | ends hgone hnone hreturned => exact hover hgone hnone (by rw [hreturned]; exact Nat.le_refl 1)
  | leaves hgone hnone hunfinished => exact hover hgone hnone (by rw [hunfinished]; exact Nat.zero_le 1)

theorem Standing.atMostOnce (h : Standing x s done reported) :
    (sends x.id done).length ≤ 1 ∧ (results x.id done).length ≤ 1 := by
  cases h with
  | underWay _ _ hsends hresults =>
    rw [hsends, hresults]
    exact ⟨length_lent?_le _ _, Nat.zero_le 1⟩
  | finished _ hsends hresults => exact ⟨hsends, hresults⟩

/-- What a step does about an errand that stands somehow. -/
theorem Standing.step {m : Moment} (h : Standing x s done reported) (ha : Pool.Accounted capacity s.pool 0)
    (hm : ∀ e, m.event.pool? = some e → s.pool.Admits e) (hname : m.event.name? ≠ some x.id) :
    Standing x (s.step m.isOpen m.event).1 (done ++ (s.step m.isOpen m.event).2)
        (reported ++ errorsAbout x.id m (s.step m.isOpen m.event)) ∧
      sends x.id (s.step m.isOpen m.event).2 =
        (Pool.loans x.id (s.poolEffect m).2).map (·, x.publication.call) := by
  cases h with
  | underWay hborrow herrand hsends hresults hdiscarding =>
    obtain ⟨hproceeds, hloans⟩ := proceeds_step ha.ids hm hname hborrow herrand fun c hc => (hdiscarding c hc).1
    exact ⟨hproceeds.standing hsends hresults hdiscarding (isClosed_step ha.ids), hloans⟩
  | finished hgone hsends hresults =>
    have h := bypasses_gone ha.ids hm hname hgone
    refine ⟨.finished (h.steady.none hgone) ?_ ?_, by rw [h.sends, h.loans]; rfl⟩
    · rwa [sends_append, h.sends, List.append_nil]
    · rwa [results_append, h.results, List.append_nil]

/-- **Every run.** As an errand stood, so it stands after a run that does not bring its name again; what was sent for
it is what the pool lent it. -/
theorem Standing.run {ms : List Moment} (h : Standing x s done reported) (ha : Pool.Accounted capacity s.pool 0)
    (hs : s.pool.Schedule (poolMoments ms)) (hnames : x.id ∉ names ms) :
    Standing x (s.run ms).1 (done ++ (s.run ms).2) (reported ++ errorsIn x.id s ms) ∧
      sends x.id (s.run ms).2 =
        (Pool.loans x.id (s.pool.run (poolMoments ms)).2).map (·, x.publication.call) := by
  induction ms generalizing s done reported with
  | nil => simpa [Publisher.run, errorsIn, sends, poolMoments, Pool.run, Pool.loans] using h
  | cons m ms ih =>
    obtain ⟨hm, hrest⟩ := schedule_cons.1 hs
    obtain ⟨hname, hlater⟩ := notMem_names_cons.1 hnames
    obtain ⟨hstep, hloans⟩ := h.step ha hm hname
    obtain ⟨hrun, hothers⟩ := ih hstep (accounted_step ha hm) hrest hlater
    refine ⟨?_, ?_⟩
    · simpa [Publisher.run, errorsIn, List.append_assoc] using hrun
    · simp only [Publisher.run, sends_append, poolRun_cons, Pool.loans_append, List.map_append, hloans, hothers]

end Run

/-! ## From the start -/

section Start

variable {s : Publisher} {x : Errand} {id : BorrowId} {capacity : Nat} {ms : List Moment}

/-- Nothing is done about a name that does not come. -/
theorem gone_run (ha : Pool.Accounted capacity s.pool 0) (hs : s.pool.Schedule (poolMoments ms))
    (hnames : id ∉ names ms) (hgone : s.pool.find? id = none) :
    (s.run ms).1.pool.find? id = none ∧ (s.run ms).1.find? id = s.find? id ∧ sends id (s.run ms).2 = [] ∧
      results id (s.run ms).2 = [] := by
  induction ms generalizing s with
  | nil => exact ⟨hgone, rfl, rfl, rfl⟩
  | cons m ms ih =>
    obtain ⟨hm, hrest⟩ := schedule_cons.1 hs
    obtain ⟨hname, hlater⟩ := notMem_names_cons.1 hnames
    have h := bypasses_gone ha.ids hm hname hgone
    obtain ⟨hgone', herrand, hsends, hresults⟩ := ih (accounted_step ha hm) hrest hlater (h.steady.none hgone)
    refine ⟨hgone', herrand.trans h.errand, ?_, ?_⟩
    · simp only [run, sends_append, h.sends, hsends, List.append_nil]
    · simp only [run, results_append, h.results, hresults, List.append_nil]

/-- Before its name comes, a message is neither with the publisher nor with the pool. -/
theorem Schedule.unnamed {before after : List Moment} {m : Moment} (hs : Schedule capacity (before ++ m :: after))
    (hname : m.event.name? = some id) :
    let p := ((ofCapacity capacity).run before).1
    Pool.Accounted (Pool.ofCapacity capacity : Pool ChannelId).capacity p.pool 0 ∧
      p.pool.Schedule (poolMoments (m :: after)) ∧ p.pool.find? id = none ∧ p.find? id = none ∧ id ∉ names after := by
  intro p
  obtain ⟨hpool, hnames⟩ := hs
  have hstart := Pool.accounted_ofCapacity (ι := ChannelId) capacity
  obtain ⟨hbefore, ha, -, hafter⟩ := schedule_cut (p := ofCapacity capacity) hstart hpool
  have hsplit : names (before ++ m :: after) = names before ++ id :: names after := by
    have hcons : names (m :: after) = id :: names after := List.filterMap_cons_some hname
    rw [names_append, hcons]
  rw [hsplit] at hnames
  obtain ⟨-, hrest, hapart⟩ := List.nodup_append.1 hnames
  have hnew : id ∉ names before := fun h => hapart id h id (List.mem_cons_self ..) rfl
  obtain ⟨hgone, herrand, -, -⟩ := gone_run (s := ofCapacity capacity) hstart hbefore hnew rfl
  exact ⟨ha, hafter, hgone, herrand, (List.nodup_cons.1 hrest).1⟩

/-- A message that was encoded comes in. -/
theorem proceeds_publish (hids : (s.pool.borrows.map (·.id)).Nodup) (hgone : s.pool.find? x.id = none)
    (hnew : s.find? x.id = none) (isOpen : ChannelId → Bool) :
    let m : Moment := ⟨isOpen, .publish x.id x.background (.ok x.publication)⟩
    Proceeds x s .waiting m (s.step m.isOpen m.event) ∧
      sends x.id (s.step m.isOpen m.event).2 =
        (Pool.loans x.id (s.poolEffect m).2).map (·, x.publication.call) := by
  intro m
  have hx : (s.enter m.event).find? x.id = some x := by
    simp only [find?] at hnew
    simp only [m, enter, find?]
    rw [List.find?_append, hnew, Option.none_or, List.find?_cons_of_pos (by simp)]
  have hb : ∀ y ∈ s.pool.borrows, y.id ≠ x.id := by
    intro y hy
    simpa using List.find?_eq_none.1 hgone y hy
  exact proceeds_of_fares (e := .borrow x.id (.errand x.background)) rfl hx (.inr rfl)
    (Pool.fares_borrow hids hb)

theorem Proceeds.ended {m : Moment} {phase : Pool.Phase ChannelId} {t : Effect} (h : Proceeds x s phase m t)
    {result : Outcome} (hr : .finish x.id result ∈ t.2) :
    ∃ failures, Ends x.id s m t result failures ∧ errors t.2 = failures ++ x.reports result ∧
      t.1.pool.find? x.id = none := by
  have hmem : result ∈ results x.id t.2 := mem_results.2 hr
  cases h with
  | goesOn _ _ _ hnone => rw [hnone] at hmem; cases hmem
  | leaves _ _ hnone => rw [hnone] at hmem; cases hmem
  | ends hgone _ hreturned hends herrors =>
    rw [hreturned, List.mem_singleton] at hmem
    subst hmem
    exact ⟨_, hends, herrors, hgone⟩

/-- Where publishing returns, it has just ended. Nothing was reported before, and its call was sent if it had a
channel. -/
theorem Standing.ended {m : Moment} {done : List Action} {reported : List LogEntry} (h : Standing x s done reported)
    (ha : Pool.Accounted capacity s.pool 0) (hm : ∀ e, m.event.pool? = some e → s.pool.Admits e)
    (hname : m.event.name? ≠ some x.id) {result : Outcome} (hr : .finish x.id result ∈ (s.step m.isOpen m.event).2) :
    (∃ failures, Ends x.id s m (s.step m.isOpen m.event) result failures ∧
      errors (s.step m.isOpen m.event).2 = failures ++ x.reports result ∧
      (s.step m.isOpen m.event).1.pool.find? x.id = none) ∧ reported = [] ∧
    (∀ c, s.pool.phase? x.id = some (.lent c) → sends x.id done = [(c, x.publication.call)]) ∧
    ∀ c, s.pool.phase? x.id = some (.discarding c) → .closeChannel (.borrower x.id) c ∈ done := by
  cases h with
  | @underWay phase hborrow herrand hsends hresults hdiscarding =>
    have hproceeds := (proceeds_step ha.ids hm hname hborrow herrand fun c hc => (hdiscarding c hc).1).1
    have hphase : s.pool.phase? x.id = some phase := by rw [Pool.phase?, hborrow]; rfl
    refine ⟨hproceeds.ended hr, rfl, ?_, ?_⟩
    · intro c hc
      obtain rfl : phase = .lent c := Option.some.inj (hphase.symm.trans hc)
      exact hsends
    · intro c hc
      exact (hdiscarding c (Option.some.inj (hphase.symm.trans hc))).2
  | finished hgone hsends hresults =>
    have hmem := mem_results.2 hr
    rw [(bypasses_gone ha.ids hm hname hgone).results] at hmem
    cases hmem

/-- What publishing an encoded message returns is what the pool tells its errand at the end. -/
theorem results_run (hencoded : ∀ m ∈ ms, ∀ background error, m.event ≠ .publish id background (.error error)) :
    results id (s.run ms).2 = verdicts id (s.pool.run (poolMoments ms)).2 := by
  induction ms generalizing s with
  | nil => rfl
  | cons m ms ih =>
    obtain ⟨hm, hms⟩ := List.forall_mem_cons.1 hencoded
    have hstep : results id (s.step m.isOpen m.event).2 = verdicts id (s.poolEffect m).2 := by
      cases he : m.event.pool? with
      | some e => simp only [results_step he, poolEffect, he]
      | none =>
        obtain ⟨i, background, error, hevent, hstep⟩ := step_of_not_encoded he (p := s) m.isOpen
        have hi : i ≠ id := fun hi => hm background error (hi ▸ hevent)
        simp [hstep, results, Action.result?, hi, poolEffect, he, verdicts]
    simp only [run, results_append, poolRun_cons, verdicts_append, hstep, ih hms]

/-- From where it comes in, an encoded message stands somehow. -/
theorem standing_run (ha : Pool.Accounted capacity s.pool 0) (hgone : s.pool.find? x.id = none)
    (hnew : s.find? x.id = none) (isOpen : ChannelId → Bool) :
    let m : Moment := ⟨isOpen, .publish x.id x.background (.ok x.publication)⟩
    s.pool.Schedule (poolMoments (m :: ms)) → x.id ∉ names ms →
      Standing x (s.run (m :: ms)).1 (s.run (m :: ms)).2 (errorsIn x.id s (m :: ms)) ∧
        sends x.id (s.run (m :: ms)).2 =
          (Pool.loans x.id (s.pool.run (poolMoments (m :: ms))).2).map (·, x.publication.call) := by
  intro m hs hnames
  obtain ⟨hm, hrest⟩ := schedule_cons.1 hs
  obtain ⟨hproceeds, hloans⟩ := proceeds_publish ha.ids hgone hnew isOpen
  have hfirst : Standing x (s.step m.isOpen m.event).1 ([] ++ (s.step m.isOpen m.event).2)
      (errorsAbout x.id m (s.step m.isOpen m.event)) :=
    hproceeds.standing rfl rfl (fun _ h => by cases h) (isClosed_step ha.ids)
  obtain ⟨hstanding, hothers⟩ := hfirst.run (accounted_step ha hm) hrest hnames
  refine ⟨hstanding, ?_⟩
  simp only [run, sends_append, poolRun_cons, Pool.loans_append, List.map_append, hothers]
  rw [hloans]

/-- Where publishing an encoded message returns. -/
theorem ended_of_finish (ha : Pool.Accounted capacity s.pool 0) (hgone : s.pool.find? x.id = none)
    (hnew : s.find? x.id = none) (isOpen : ChannelId → Bool) :
    let m : Moment := ⟨isOpen, .publish x.id x.background (.ok x.publication)⟩
    s.pool.Schedule (poolMoments (m :: ms)) → x.id ∉ names ms →
      ∀ course last rest, m :: ms = course ++ last :: rest →
        ∀ result, .finish x.id result ∈ ((s.run course).1.step last.isOpen last.event).2 →
          (∃ failures, Ends x.id (s.run course).1 last ((s.run course).1.step last.isOpen last.event) result failures ∧
            errors ((s.run course).1.step last.isOpen last.event).2 = failures ++ x.reports result ∧
            ((s.run course).1.step last.isOpen last.event).1.pool.find? x.id = none) ∧
          errorsIn x.id s course = [] ∧
          (∀ c, (s.run course).1.pool.phase? x.id = some (.lent c) →
            sends x.id (s.run course).2 = [(c, x.publication.call)]) ∧
          ∀ c, (s.run course).1.pool.phase? x.id = some (.discarding c) →
            .closeChannel (.borrower x.id) c ∈ (s.run course).2 := by
  intro m hs hnames course last rest hcut result hr
  cases course with
  | nil =>
    obtain ⟨rfl, rfl⟩ := List.cons.inj hcut
    have hnone : s.pool.phase? x.id = none := by rw [Pool.phase?, hgone]; rfl
    refine ⟨(proceeds_publish ha.ids hgone hnew isOpen).1.ended hr, rfl, ?_, ?_⟩ <;>
    · intro c hc
      rw [run, hnone] at hc
      cases hc
  | cons m' course =>
    rw [hcut] at hs
    rw [List.cons_append] at hcut
    obtain ⟨rfl, hafter⟩ := List.cons.inj hcut
    obtain ⟨hcourse, hthere, hm, -⟩ := schedule_cut ha hs
    rw [hafter, names_append, List.mem_append, not_or] at hnames
    obtain ⟨hname, -⟩ := notMem_names_cons.1 hnames.2
    exact (standing_run ha hgone hnew isOpen hcourse hnames.1).1.ended hthere hm hname hr

end Start

/-! ## At most once -/

/-- **A message is published at most once, and the pool stays whole.** Let a message come at any point of any schedule,
to be published by a caller that waits or in the background. If it could not be encoded, that failure is returned at
once, nothing is borrowed and nothing is sent. Otherwise the call with the exchange, the routing key and the content of
the encoded message is sent just once on the channel that the pool lends, and not at all if it lends none; only the
identifier in it is made for the occasion. What is returned is what the pool tells the errand at its end, which `Ends`
says: the broker's answer to that call, or the failure to get a channel. A failure is logged once then, after the
failure to close a channel that was made for a pool closed meanwhile if that failed too, and nothing was logged before.
Whatever the end is, the borrower is gone, all permits are accounted for, and its channel is idle again if it is open,
or handed over to be closed if the pool was closed meanwhile. -/
theorem published_once (capacity : Nat) (before after : List Moment) (isOpen : ChannelId → Bool) (id : BorrowId)
    (background : Bool) (context : TraceContext) (messageId : String) (message : Except Error (Outgoing Bytes))
    (hs : Schedule capacity (before ++ ⟨isOpen, .ofMessage id background context messageId message⟩ :: after)) :
    let m : Moment := ⟨isOpen, .ofMessage id background context messageId message⟩
    let p := ((ofCapacity capacity).run before).1
    let r := p.run (m :: after)
    (∀ {α : Type} (n : Negotiator α) (content : Outgoing α) (e : CodecError),
      message = encode n content → n.encode content = .error e →
        p.step m.isOpen m.event = (p, [.finish id (.error (.codec e))]) ∧ sends id r.2 = [] ∧
          results id r.2 = [.error (.codec e)]) ∧
    ∀ encoded, message = .ok encoded →
      let call : ChannelCall := .publish encoded.envelope.exchange encoded.envelope.routingKey encoded.content
        { (TraceContext.inject context encoded.properties).toWire with messageId := some messageId }
      let x : Errand := ⟨id, background, .prepare context messageId encoded⟩
      let lent := p.pool.run (poolMoments (m :: after))
      (sends id r.2 = (Pool.loans id lent.2).map (·, call) ∧ (Pool.loans id lent.2).length ≤ 1) ∧
      (results id r.2 = verdicts id lent.2 ∧ (results id r.2).length ≤ 1) ∧
      ∀ course last rest, m :: after = course ++ last :: rest →
        let s := (p.run course).1
        let t := s.step last.isOpen last.event
        (∀ c answer, s.pool.phase? id = some (.lent c) → last.event = .pool (.worked id answer) →
          .finish id answer ∈ t.2) ∧
        ∀ result, .finish id result ∈ t.2 →
          (∃ failures, Ends id s last t result failures ∧ errors t.2 = failures ++ x.reports result ∧
            errorsIn id p course = []) ∧
          (∀ c, s.pool.phase? id = some (.lent c) → sends id (p.run course).2 = [(c, call)]) ∧
          (∀ c, s.pool.phase? id = some (.discarding c) → .closeChannel (.borrower id) c ∈ (p.run course).2) ∧
          t.1.pool.find? id = none ∧
          t.1.pool.free + t.1.pool.unfinished + t.1.pool.lentItems.length =
            (Pool.ofCapacity capacity : Pool ChannelId).capacity := by
  intro m p r
  obtain ⟨ha, hschedule, hgone, hnew, hnames⟩ := hs.unnamed rfl
  refine ⟨?_, ?_⟩
  · intro α n content e hmessage hencode
    have hstep : p.step m.isOpen m.event = (p, [.finish id (.error (.codec e))]) := by
      simp only [m, Event.ofMessage, hmessage, encode, hencode]
      rfl
    have hrest : p.pool.Schedule (poolMoments after) := by
      have hlater := (schedule_cons.1 hschedule).2
      rwa [hstep] at hlater
    obtain ⟨-, -, hsends, hresults⟩ := gone_run ha hrest hnames hgone
    have hr : r.2 = [.finish id (.error (.codec e))] ++ (p.run after).2 := by simp only [r, run, hstep]
    refine ⟨hstep, ?_, ?_⟩
    · rw [hr, sends_append, hsends]
      rfl
    · rw [hr, results_append, hresults, List.append_nil]
      simp [results, Action.result?]
  · rintro encoded rfl call x lent
    obtain ⟨hstanding, hloans⟩ := standing_run (x := x) ha hgone hnew isOpen hschedule hnames
    have hended := ended_of_finish (x := x) ha hgone hnew isOpen hschedule hnames
    obtain ⟨hsent, hreturned⟩ := hstanding.atMostOnce
    have hencoded : ∀ m' ∈ m :: after, ∀ background error, m'.event ≠ .publish id background (.error error) := by
      intro m' hm' background error hevent
      rcases List.mem_cons.1 hm' with rfl | hm'
      · cases hevent
      · exact hnames (List.mem_filterMap.2 ⟨m', hm', by rw [hevent]; rfl⟩)
    refine ⟨⟨hloans, ?_⟩, ⟨results_run hencoded, hreturned⟩, ?_⟩
    · rw [hloans, List.length_map] at hsent
      exact hsent
    · intro course last rest hcut s t
      obtain ⟨-, hthere, hm, -⟩ := schedule_cut ha (hcut ▸ hschedule)
      refine ⟨?_, ?_⟩
      · intro c answer hlent hevent
        have hpool : last.event.pool? = some (.worked id answer) := by rw [hevent]; rfl
        rw [← mem_results, results_step hpool]
        exact List.mem_filterMap.2 ⟨_, Pool.finish_mem_step hlent answer, if_pos rfl⟩
      · intro result hr
        obtain ⟨⟨failures, hends, herrors, hleft⟩, hquiet, hsent, hhanded⟩ := hended course last rest hcut result hr
        refine ⟨⟨failures, hends, herrors, hquiet⟩, hsent, hhanded, hleft, ?_⟩
        have hpermits := (accounted_step hthere hm).permits
        rwa [Nat.add_zero, ← Pool.unfinished_add_lentItems, ← Nat.add_assoc] at hpermits

/-- A greeting as it was encoded. -/
def greeting : Outgoing Bytes :=
  .cast ⟨"shop", "order.created", { contentType := some "text/plain" }, [0x68, 0x69]⟩

/-- A channel is made, and the broker refuses the call. -/
def refusedCall : List Moment := [
  ⟨fun _ => true, .pool (.created 0 (.ok 7))⟩, ⟨fun _ => true, .pool (.worked 0 (.error (.publishing "no route")))⟩]

theorem published_once_refusedCall :
    let m : Moment := ⟨fun _ => true, .ofMessage 0 false [] "m-1" (.ok greeting)⟩
    let r := (ofCapacity 1).run (m :: refusedCall)
    let s := ((ofCapacity 1).run [m, ⟨fun _ => true, .pool (.created 0 (.ok 7))⟩]).1
    Schedule 1 ([] ++ m :: refusedCall) ∧
    (∃ call, sends 0 r.2 = [(7, call)]) ∧ results 0 r.2 = [.error (.publishing "no route")] ∧
    (∃ failures, Ends 0 s ⟨fun _ => true, .pool (.worked 0 (.error (.publishing "no route")))⟩
      (s.step (fun _ => true) (.pool (.worked 0 (.error (.publishing "no route"))))) (.error (.publishing "no route"))
      failures) ∧
    r.1.pool.idle = [7] ∧ r.1.pool.free = 1 := by
  intro m r s
  have hs : Schedule 1 ([] ++ m :: refusedCall) := by decide
  obtain ⟨⟨hsends, -⟩, ⟨hresults, -⟩, hcut⟩ :=
    (published_once 1 [] refusedCall (fun _ => true) 0 false [] "m-1" (.ok greeting) hs).2 greeting rfl
  obtain ⟨hanswered, hended⟩ := hcut [m, ⟨fun _ => true, .pool (.created 0 (.ok 7))⟩]
    ⟨fun _ => true, .pool (.worked 0 (.error (.publishing "no route")))⟩ [] rfl
  obtain ⟨⟨failures, hends, -⟩, -⟩ := hended _ (hanswered 7 _ rfl rfl)
  exact ⟨hs, ⟨_, hsends⟩, hresults, ⟨failures, hends⟩, rfl, rfl⟩

/-- The pool is closed while a channel is made, and the broker refuses to close that one. -/
def refusedClose : List Moment := [
  ⟨fun _ => true, .pool (.close 1)⟩, ⟨fun _ => true, .pool (.created 0 (.ok 7))⟩,
  ⟨fun _ => true, .pool (.itemClosed (.borrower 0) (.error (.channel "boom")))⟩]

/-- Publishing returns one failure, and two errors are logged about it: a channel is left that is neither idle nor
closed. -/
theorem two_errors_refusedClose :
    let m : Moment := ⟨fun _ => true, .ofMessage 0 false [] "m-1" (.ok greeting)⟩
    let r := (ofCapacity 1).run (m :: refusedClose)
    Schedule 1 (m :: refusedClose) ∧ results 0 r.2 = [.error .poolClosed] ∧
    errorsIn 0 (ofCapacity 1) (m :: refusedClose) = [
      .error "failure to close pooled channel" [("error", "failure to create a channel: boom")],
      .error "error publishing message" [("error", "channel pool is closed"), ("exchange", "shop"),
        ("routing_key", "order.created"), ("correlation_id", "")]] ∧
    r.1.pool.idle = [] := by
  refine ⟨by decide, rfl, rfl, rfl⟩

end BrokerClient.Publisher
