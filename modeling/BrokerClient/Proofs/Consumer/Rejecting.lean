import BrokerClient.Codec.Plain
import BrokerClient.Proofs.Consumer.Stages

/-!
# A failed delivery is settled once

The stage that a delivery is at tells what was done about it, and three events bring it to the last one. Whatever the
application does in the meantime, a task that fails either makes the one call that settles its delivery, or finds that
the application has made it (`failed_settled`).
-/

namespace BrokerClient.Consumer

variable {κ α : Type} [DecidableEq κ]

section

variable {n : Negotiator α} {queue : String} {x y : Diary κ α} {e : Event κ} {i : TaskId} {D : Consignment}

/-! ## Every delivery comes to its end -/

/-- Who works on an event. -/
theorem Work.id_eq {t : Task} (h : Work n queue x t e y) :
    e = .run t.id ∨ (∃ result, e = .returned t.id result) ∨ ∃ result, e = .answered (.task t.id) result := by
  cases h with
  | hands m spawned read => exact .inl rfl
  | succeeds handling => exact .inr (.inl ⟨_, rfl⟩)
  | rejects _ cause said h z failing ack handle pending => exact failing.event_eq.imp_right .inl
  | skips _ cause said failing settled => exact failing.event_eq.imp_right .inl
  | ends cause result s flight rejecting => exact .inr (.inr ⟨_, rfl⟩)

/-- A task that has worked is further than before, or has ended. -/
theorem Work.further {t u : Task} (found : x.now.find? t.id = some t) (h : Work n queue x t e y)
    (hu : y.now.find? t.id = some u) :
    t.phase = .spawned ∧ u.phase = .handling ∨
      (∀ cause, t.phase ≠ .rejecting cause) ∧ ∃ cause, u.phase = .rejecting cause := by
  cases h with
  | hands m spawned read =>
    simp only [find?_hand, find?_moveTo, found] at hu
    cases hu
    exact .inl ⟨spawned, by simp⟩
  | succeeds handling => simp [find?_leave_self] at hu
  | rejects _ cause said h z failing ack handle pending =>
    change (x.now.moveTo t.id _).find? t.id = _ at hu
    simp only [find?_moveTo, found] at hu
    cases hu
    exact .inr ⟨failing.not_rejecting, cause, by simp⟩
  | skips _ cause said failing settled => simp [find?_leave_self] at hu
  | ends cause result s flight rejecting => simp [find?_leave_self] at hu

theorem find?_run (x : Diary κ α) {u : Task} (hu : (x.next n queue (.run i)).now.find? i = some u) :
    u.phase ≠ .spawned := by
  have h := turn n queue x (.run i)
  generalize x.next n queue (.run i) = y at h hu
  cases h with
  | still _ waiting idle => exact idle u hu
  | works _ _ t found work =>
    obtain rfl : i = t.id := by simpa using work.id_eq
    rcases work.further found hu with ⟨-, hphase⟩ | ⟨-, cause, hphase⟩ <;> simp [hphase]

theorem find?_returned (x : Diary κ α) (result : Outcome) (hx : ∀ t, x.now.find? i = some t → t.phase ≠ .spawned)
    {u : Task} (hu : (x.next n queue (.returned i result)).now.find? i = some u) :
    ∃ cause, u.phase = .rejecting cause := by
  have h := turn n queue x (.returned i result)
  generalize x.next n queue (.returned i result) = y at h hu
  cases h with
  | still _ waiting idle =>
    have hspawned := hx u hu
    have hhandling := idle u hu
    cases hphase : u.phase with
    | spawned => exact absurd hphase hspawned
    | handling => exact absurd hphase hhandling
    | rejecting cause => exact ⟨cause, rfl⟩
  | works _ _ t found work =>
    obtain rfl : i = t.id := by simpa using work.id_eq
    rcases work.further found hu with ⟨hphase, -⟩ | ⟨-, hrejecting⟩
    · exact absurd hphase (hx t found)
    · exact hrejecting

theorem find?_answered (hx : Told n queue x) (hD : x.delivered[i]? = some D) (answer : Outcome)
    (hrejecting : ∀ t, x.now.find? i = some t → ∃ cause, t.phase = .rejecting cause) :
    (x.next n queue (.answered (.task i) answer)).now.find? i = none := by
  have h := turn n queue x (.answered (.task i) answer)
  generalize x.next n queue (.answered (.task i) answer) = y at h
  cases hu : y.now.find? i with
  | none => rfl
  | some u =>
    exfalso
    cases h with
    | still _ waiting idle =>
      -- its call is in flight
      obtain ⟨phase, found, hs⟩ := hx.staged i D hD
      obtain ⟨phase, rfl, rfl⟩ := Option.map_eq_some_iff.mp (found.symm.trans hu)
      obtain ⟨cause, hphase⟩ := hrejecting _ hu
      obtain rfl : phase = .rejecting cause := hphase
      cases hs with | rejecting _ handled said fails page settled flight =>
      rw [show x.now.acks.settlement? (.task i) = none from idle] at flight
      cases flight
    | works _ _ t found work =>
      obtain rfl : i = t.id := by simpa using work.id_eq
      obtain ⟨cause, hphase⟩ := hrejecting t found
      rcases work.further found hu with ⟨hspawned, -⟩ | ⟨hnot, -⟩
      · rw [hspawned] at hphase
        cases hphase
      · exact hnot cause hphase
    | answered _ _ s flight other =>
      obtain ⟨cause, hphase⟩ := hrejecting u hu
      obtain rfl := find?_id hu
      exact other u cause hu hphase rfl

theorem delivered_next (n : Negotiator α) (queue : String) (hD : x.delivered[i]? = some D) (e : Event κ) :
    (x.next n queue e).delivered[i]? = some D := by
  have hlt := (List.getElem?_eq_some_iff.mp hD).1
  simp only [Diary.next, Diary.write, Diary.note]
  rw [List.getElem?_append_left hlt, hD]

/-- **Three events bring the work on a delivery to its end.** -/
theorem Told.ends (hx : Told n queue x) (hD : x.delivered[i]? = some D) (result answer : Outcome) :
    ((x.run n queue [.run i, .returned i result, .answered (.task i) answer]).page i).consumed ≠ [] := by
  have hrun := hx.turn (e := .run i) trivial (Consumer.turn n queue x _)
  have hreturned := hrun.turn (e := .returned i result) trivial (Consumer.turn n queue _ _)
  have hanswered := hreturned.turn (e := .answered (.task i) answer) trivial (Consumer.turn n queue _ _)
  have hD' := delivered_next n queue (delivered_next n queue hD (.run i)) (.returned i result)
  have hnone := find?_answered hreturned hD' answer fun t found => find?_returned _ result (fun u => find?_run x) found
  obtain ⟨phase, found, hs⟩ := hanswered.staged i D (delivered_next n queue hD' _)
  rw [hnone] at found
  cases phase with
  | some _ => cases found
  | none =>
    show Page.consumed (Diary.page (Diary.next ..) i) ≠ []
    cases hs <;> simp [*]

/-! ## A failed delivery is settled once -/

theorem Fails.handled_eq {cause : Error} {handled : List (Incoming α)} {said : List Outcome}
    (h : Fails n queue D cause handled said) : handled = (D.delivery.read n queue D.fresh).toOption.toList := by
  cases h with
  | unread read => simp [read, Except.toOption]
  | handler m read => simp [read, Except.toOption]

theorem Fails.returned_ne {cause : Error} {handled : List (Incoming α)} {said : List Outcome}
    (h : Fails n queue D cause handled said) : said ≠ [.ok ()] := by
  cases h <;> simp

theorem Fails.cause_eq {cause cause' : Error} {handled : List (Incoming α)} {said : List Outcome}
    (h : Fails n queue D cause handled said) (h' : Fails n queue D cause' handled said) : cause = cause' := by
  cases h with
  | unread read =>
    cases h' with | unread read' =>
    exact Except.error.inj (read.symm.trans read')
  | handler m read =>
    cases h'
    rfl

/-- What holds of a delivery at any time. -/
structure Orderly (n : Negotiator α) (queue : String) (x : Diary κ α) (i : TaskId) (D : Consignment) : Prop where
  /-- It is handed over at most once, as it is read. -/
  handled : (x.page i).handled.length ≤ 1 ∧ ∀ m ∈ (x.page i).handled, D.delivery.read n queue D.fresh = .ok m
  consumed : (x.page i).consumed.length ≤ 1
  settled : (settlings D x.called).length ≤ 1
  /-- Its task calls the broker only to reject it for good. -/
  called : ∀ c ∈ (x.page i).called, c = (D.channel, D.rejection)
  auto : D.ack = .auto → settlings D x.called = [] ∧ (x.page i).called = []

/-- What holds of a delivery when the work on it has ended with a result. -/
structure Concluded (n : Negotiator α) (queue : String) (x : Diary κ α) (i : TaskId) (D : Consignment)
    (result : Outcome) : Prop where
  /-- It was handed over just if it could be read. -/
  handled : (x.page i).handled = (D.delivery.read n queue D.fresh).toOption.toList
  returned : (∃ cause, Fails n queue D cause (x.page i).handled (x.page i).returned) ∨ (x.page i).returned = [.ok ()]
  /-- If it failed, one call settled it: the rejection, unless the application came first. -/
  settled : ∀ cause, Fails n queue D cause (x.page i).handled (x.page i).returned → D.ack ≠ .auto →
    settlings D x.called = [(.task i, D.rejection)] ∨ (x.page i).handled ≠ [] ∧
      ∃ (k : κ) (v : Verdict), settlings D x.called = [(.application k, v.call D.delivery.tag)]
  /-- It ends with the error of the rejection, or else with its own. -/
  failed : ∀ cause, Fails n queue D cause (x.page i).handled (x.page i).returned →
    (∀ e, .error e ∈ (x.page i).answered → result = .error e) ∧
      ((∀ e, .error e ∉ (x.page i).answered) → result = .error cause)
  succeeded : (x.page i).returned = [.ok ()] → result = .ok () ∧ (x.page i).called = []

namespace Stage

variable {phase : Option Phase}

theorem handled (hs : Stage n queue x i D phase) : (x.page i).handled = [] ∨
    (x.page i).handled = (D.delivery.read n queue D.fresh).toOption.toList := by
  cases hs with
  | spawned page _ _ => exact .inl (by rw [page])
  | handling m read page _ | succeeded m read page _ => exact .inr (by simp [page, read, Except.toOption])
  | rejecting _ _ _ fails page _ _ | rejected _ _ _ _ fails page _ | skipped _ _ _ fails page _ =>
    rw [page]
    exact .inr fails.handled_eq

theorem called (hs : Stage n queue x i D phase) : (x.page i).called = [] ∨
    (x.page i).called = [(D.channel, D.rejection)] ∧ settlings D x.called = [(.task i, D.rejection)] := by
  cases hs with
  | spawned page _ _ | handling _ _ page _ | succeeded _ _ page _ | skipped _ _ _ _ page _ => exact .inl (by rw [page])
  | rejecting _ _ _ _ page settled _ | rejected _ _ _ _ _ page settled => exact .inr ⟨by rw [page], settled⟩

theorem orderly (hs : Stage n queue x i D phase) (hfate : Fate x.now.acks D (settlings D x.called)) :
    Orderly n queue x i D where
  handled := by
    rcases hs.handled with heq | heq
    · simp [heq]
    · rw [heq]
      cases D.delivery.read n queue D.fresh <;> simp [Except.toOption]
  consumed := by cases hs <;> simp [*]
  settled := hfate.length_le
  called := by
    rcases hs.called with heq | ⟨heq, -⟩ <;> simp [heq]
  auto hack := by
    have hnil : settlings D x.called = [] := by simpa [Fate, hack] using hfate
    rcases hs.called with heq | ⟨-, heq⟩
    · exact ⟨hnil, heq⟩
    · rw [hnil] at heq
      cases heq

theorem concluded (hs : Stage n queue x i D phase) {result : Outcome} (hr : result ∈ (x.page i).consumed) :
    Concluded n queue x i D result := by
  cases hs with
  | spawned page _ _ | handling _ _ page _ | rejecting _ _ _ _ page _ _ => simp [page] at hr
  | succeeded m read page spared =>
    have hnot (cause : Error) (hf : Fails n queue D cause (x.page i).handled (x.page i).returned) : False :=
      hf.returned_ne (by rw [page])
    refine ⟨by simp [page, read, Except.toOption], .inr (by rw [page]), fun cause hf => (hnot cause hf).elim,
      fun cause hf => (hnot cause hf).elim, fun _ => ?_⟩
    simpa [page] using hr
  | rejected cause handled said answer fails page settled =>
    rw [page] at hr
    obtain rfl := List.mem_singleton.mp hr
    constructor
    · rw [page]
      exact fails.handled_eq
    · rw [page]
      exact .inl ⟨cause, fails⟩
    · exact fun _ _ _ => .inl settled
    · rw [page]
      intro cause' hf
      obtain rfl := fails.cause_eq hf
      cases answer <;> simp [verdict]
    · rw [page]
      exact fun hok => (fails.returned_ne hok).elim
  | skipped cause handled said fails page settled =>
    rw [page] at hr
    obtain rfl := List.mem_singleton.mp hr
    constructor
    · rw [page]
      exact fails.handled_eq
    · rw [page]
      exact .inl ⟨cause, fails⟩
    · rw [page]
      intro _ _ hmanual
      cases hack : D.ack with
      | auto => exact absurd hack hmanual
      | manual h => exact .inr (settled h hack)
    · rw [page]
      intro cause' hf
      obtain rfl := fails.cause_eq hf
      simp
    · rw [page]
      exact fun hok => (fails.returned_ne hok).elim

end Stage

end

/-- **A failed delivery is settled once, and for good.** In every run, whatever the application does with the handles,
each delivery is handed over at most once and settled at most once, and every call settles a delivery that has a handle;
three events bring the work on a delivery to its end, and what holds then is `Concluded`. -/
theorem failed_settled (n : Negotiator α) (queue : String) (es : List (Event κ))
    (hes : ({} : Diary κ α).Schedule n queue es) (x : Diary κ α) (hx : x = ({} : Diary κ α).run n queue es) :
    (∀ c ∈ x.called, ∃ D ∈ x.delivered, D.ack ≠ .auto ∧ c.2.1 = D.channel ∧ settled? c.2.2 = some D.delivery.tag) ∧
    ∀ i D, x.delivered[i]? = some D →
      Orderly n queue x i D ∧ (∀ result ∈ (x.page i).consumed, Concluded n queue x i D result) ∧
      ∀ result answer,
        ((x.run n queue [.run i, .returned i result, .answered (.task i) answer]).page i).consumed ≠ [] := by
  have hx : Told n queue x := hx ▸ (told_nil n queue).run es hes
  constructor
  · rintro ⟨p, channel, call⟩ hc
    obtain ⟨D, hD, hchannel, htag⟩ := hx.kept.filed.meant _ hc
    refine ⟨D, hD, fun hack => ?_, hchannel, htag⟩
    have hfate := hx.kept.filed.fates D hD
    simp only [Fate, hack] at hfate
    have hmem : (p, call) ∈ settlings D x.called := List.mem_filterMap.mpr ⟨_, hc, if_pos ⟨hchannel, htag⟩⟩
    rw [hfate] at hmem
    cases hmem
  · intro i D hD
    obtain ⟨phase, -, hs⟩ := hx.staged i D hD
    exact ⟨hs.orderly (hx.kept.filed.fates D (List.mem_of_getElem? hD)), fun result => hs.concluded, hx.ends hD⟩

/-- A negotiator that reads texts. -/
def texts : Negotiator String where
  payload := "String"
  readers := [TextCodec.reader]

/-- Of two deliveries the application settles the first one before its handler fails; the second one cannot be read, and
its rejection fails. -/
def mishap : List (Event Nat) := [
  .deliver 3 .manual "f-1" ⟨7, "", "jobs", false, { contentType := some "text/plain" }, [0x68, 0x69]⟩,
  .deliver 3 .manual "f-2" ⟨8, "", "jobs", false, { deliveryMode := some 9 }, []⟩,
  .run 0, .settle 5 (.manual 0) .ack, .returned 0 (.error .interrupted), .run 1,
  .answered (.application 5) (.ok ()), .answered (.task 1) (.error .reject)]

theorem failed_settled_mishap : ({} : Diary Nat String).Schedule texts "jobs" mishap ∧
    ∃ (x : Diary Nat String) (D E : Consignment), x = ({} : Diary Nat String).run texts "jobs" mishap ∧
      x.delivered = [D, E] ∧ settlings D x.called = [(.application 5, .ack 7)] ∧
      settlings E x.called = [(.task 1, .reject 8 false)] ∧ Concluded texts "jobs" x 0 D (.error .interrupted) ∧
      Concluded texts "jobs" x 1 E (.error .reject) := by
  have hs : ({} : Diary Nat String).Schedule texts "jobs" mishap := by decide +kernel
  have hinterrupted : ((({} : Diary Nat String).run texts "jobs" mishap).page 0).consumed = [.error .interrupted] := by
    with_unfolding_all rfl
  have hrefused : ((({} : Diary Nat String).run texts "jobs" mishap).page 1).consumed = [.error .reject] := by
    with_unfolding_all rfl
  obtain ⟨-, hall⟩ := failed_settled texts "jobs" mishap hs _ rfl
  obtain ⟨-, hfirst, -⟩ := hall 0 _ (by with_unfolding_all rfl)
  obtain ⟨-, hsecond, -⟩ := hall 1 _ (by with_unfolding_all rfl)
  refine ⟨hs, _, _, _, rfl, ?_, ?_, ?_, hfirst _ (by simp [hinterrupted]), hsecond _ (by simp [hrefused])⟩ <;>
    with_unfolding_all rfl

end BrokerClient.Consumer
