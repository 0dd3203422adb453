import BrokerClient.Proofs.Consumer.Custody

/-!
# The stages of the work on a delivery

What a diary says about one task is a `Page`. A page grows only by the work of its task, which goes through stages;
`Stage` says what stands on the page at each of them and who has settled the delivery so far. Whatever others do leaves
the page alone, but that the application may settle the delivery (`Apart`). So every delivery of a run is at a stage
(`Told.run`).
-/

namespace BrokerClient.Consumer

open Keyed

variable {κ α : Type} [DecidableEq κ]

/-! ## Pages -/

/-- What a diary says about a task. -/
structure Page (α : Type) where
  handled : List (Incoming α) := []
  returned : List Outcome := []
  called : List (ChannelId × ChannelCall) := []
  answered : List Outcome := []
  consumed : List Outcome := []

def Diary.page (x : Diary κ α) (i : TaskId) : Page α where
  handled := under i x.handled
  returned := under i x.returned
  called := under (.task i) x.called
  answered := under (.task i) x.answered
  consumed := under i x.consumed

/-- The call that rejects a delivery for good. -/
def Consignment.rejection (D : Consignment) : ChannelCall := .reject D.delivery.tag false

/-- Why the work on a delivery failed: the delivery cannot be read, or its handler returned the failure. -/
inductive Fails (n : Negotiator α) (queue : String) (D : Consignment) (cause : Error) :
    List (Incoming α) → List Outcome → Prop where
  | unread (read : D.delivery.read n queue D.fresh = .error cause) : Fails n queue D cause [] []
  | handler (m : Incoming α) (read : D.delivery.read n queue D.fresh = .ok m) : Fails n queue D cause [m] [.error cause]

/-- Nobody but the application has settled a delivery. -/
def Spared (D : Consignment) (x : Diary κ α) : Prop := ∀ c ∈ settlings D x.called, ∃ k, c.1 = .application k

/-- The application has no clone of a delivery's handle. -/
def Unheld (D : Consignment) (x : Diary κ α) : Prop := ∀ h, D.ack = .manual h → h ∉ x.now.held

/-- What is known of a delivery whose task is at a phase, or has ended. -/
inductive Stage (n : Negotiator α) (queue : String) (x : Diary κ α) (i : TaskId) (D : Consignment) :
    Option Phase → Prop where
  | spawned (page : x.page i = {}) (settled : settlings D x.called = []) (unheld : Unheld D x) :
    Stage n queue x i D (some .spawned)
  | handling (m : Incoming α) (read : D.delivery.read n queue D.fresh = .ok m) (page : x.page i = { handled := [m] })
    (spared : Spared D x) : Stage n queue x i D (some .handling)
  | rejecting (cause : Error) (handled : List (Incoming α)) (said : List Outcome)
    (fails : Fails n queue D cause handled said)
    (page : x.page i = { handled, returned := said, called := [(D.channel, D.rejection)] })
    (settled : settlings D x.called = [(.task i, D.rejection)])
    (flight : (x.now.acks.settlement? (.task i)).isSome) : Stage n queue x i D (some (.rejecting cause))
  | succeeded (m : Incoming α) (read : D.delivery.read n queue D.fresh = .ok m)
    (page : x.page i = { handled := [m], returned := [.ok ()], consumed := [.ok ()] }) (spared : Spared D x) :
    Stage n queue x i D none
  | rejected (cause : Error) (handled : List (Incoming α)) (said : List Outcome) (answer : Outcome)
    (fails : Fails n queue D cause handled said)
    (page : x.page i =
      { handled, returned := said, called := [(D.channel, D.rejection)], answered := [answer],
        consumed := [verdict cause answer] })
    (settled : settlings D x.called = [(.task i, D.rejection)]) : Stage n queue x i D none
  | skipped (cause : Error) (handled : List (Incoming α)) (said : List Outcome)
    (fails : Fails n queue D cause handled said)
    (page : x.page i = { handled, returned := said, consumed := [.error cause] })
    (settled : ∀ h, D.ack = .manual h → handled ≠ [] ∧
      ∃ (k : κ) (v : Verdict), settlings D x.called = [(.application k, v.call D.delivery.tag)]) :
    Stage n queue x i D none

/-! ## What others do -/

/-- A delivery is left alone, but that the application may settle it by a clone that it has. -/
structure Apart (i : TaskId) (D : Consignment) (x y : Diary κ α) : Prop where
  task : y.now.find? i = x.now.find? i
  page : y.page i = x.page i
  flight : y.now.acks.settlement? (.task i) = x.now.acks.settlement? (.task i)
  held : Unheld D x → Unheld D y
  settled : settlings D y.called = settlings D x.called ∨ ¬ Unheld D x ∧
    ∃ (k : κ) (v : Verdict), settlings D y.called = settlings D x.called ++ [(.application k, v.call D.delivery.tag)]

namespace Apart

variable {n : Negotiator α} {queue : String} {i : TaskId} {D : Consignment} {x y : Diary κ α} {phase : Option Phase}

theorem spared (h : Apart i D x y) (hx : Spared D x) : Spared D y := by
  rcases h.settled with heq | ⟨-, k, v, heq⟩
  · rwa [Spared, heq]
  · rw [Spared, heq]
    intro c hc
    rcases List.mem_append.mp hc with hc | hc
    · exact hx c hc
    · exact ⟨k, by rw [List.mem_singleton.mp hc]⟩

/-- What has been settled is not settled again. -/
theorem settlings_eq (h : Apart i D x y) (hle : (settlings D y.called).length ≤ 1) {c : Party κ × ChannelCall}
    (hx : settlings D x.called = [c]) : settlings D y.called = [c] := by
  rcases h.settled with heq | ⟨-, k, v, heq⟩
  · rw [heq, hx]
  · rw [heq, hx] at hle
    simp at hle

theorem stage (h : Apart i D x y) (hle : (settlings D y.called).length ≤ 1) (hs : Stage n queue x i D phase) :
    Stage n queue y i D phase := by
  cases hs with
  | spawned page settled unheld =>
    refine .spawned (h.page.trans page) ?_ (h.held unheld)
    rcases h.settled with heq | ⟨hheld, -⟩
    · rw [heq, settled]
    · exact absurd unheld hheld
  | handling m read page spared => exact .handling m read (h.page.trans page) (h.spared spared)
  | rejecting cause handled said fails page settled flight =>
    exact .rejecting cause handled said fails (h.page.trans page) (h.settlings_eq hle settled) (h.flight ▸ flight)
  | succeeded m read page spared => exact .succeeded m read (h.page.trans page) (h.spared spared)
  | rejected cause handled said answer fails page settled =>
    exact .rejected cause handled said answer fails (h.page.trans page) (h.settlings_eq hle settled)
  | skipped cause handled said fails page settled =>
    refine .skipped cause handled said fails (h.page.trans page) fun h' hack => ?_
    obtain ⟨hhandled, k, v, heq⟩ := settled h' hack
    exact ⟨hhandled, k, v, h.settlings_eq hle heq⟩

/-- A task leaves that is not on the delivery. -/
theorem of_leave {t : Task} {c : Consumer κ} (hi : t.id ≠ i) (hpage : y.page i = x.page i) (hnow : y.now = c.leave t)
    (htasks : c.tasks = x.now.tasks) (hheld : c.held = x.now.held)
    (hflight : c.acks.settlement? (.task i) = x.now.acks.settlement? (.task i)) (hcalled : y.called = x.called) :
    Apart i D x y where
  task := by
    rw [hnow, find?_leave, if_neg hi.symm, find?, htasks]
    rfl
  page := hpage
  flight := by rw [hnow, Acks.settlement?_congr (inFlight_leave c t), hflight]
  held hunheld := by rwa [Unheld, hnow, held_leave, hheld]
  settled := .inl (by rw [hcalled])

end Apart

section

variable {n : Negotiator α} {queue : String} {x y : Diary κ α} {e : Event κ} {i : TaskId} {D : Consignment} {t : Task}

/-- The work of a task is written on its own page. -/
theorem Work.page_of_ne (h : Work n queue x t e y) (hi : t.id ≠ i) : y.page i = x.page i := by
  cases h with
  | hands m spawned read => simp [Diary.page, hi]
  | succeeds handling => simp [Diary.page, hi]
  | rejects _ cause said h z failing ack handle pending => cases failing <;> simp [Diary.page, hi]
  | skips _ cause said failing settled => cases failing <;> simp [Diary.page, hi]
  | ends cause result s flight rejecting => simp [Diary.page, hi]

/-- A task leaves the deliveries of others alone. -/
theorem Work.apart (hx : Kept x.now x.delivered x.called) (hD : x.delivered[i]? = some D)
    (found : x.now.find? t.id = some t) (h : Work n queue x t e y) (hi : t.id ≠ i) : Apart i D x y := by
  have hpage := h.page_of_ne hi
  obtain ⟨E, hE, heq⟩ := hx.staffed.named t (Staffed.mem_of_find? found)
  have hdistinct : Distinct D E := hx.filed.distinct_of_ne hD hE hi.symm
  have hack : t.ack = E.ack := by rw [heq]; rfl
  cases h with
  | hands m spawned read =>
    refine ⟨by simp [find?_hand, find?_moveTo, hi.symm], hpage,
      Acks.settlement?_congr (inFlight_hand _ _) _, fun hunheld h hackD hheld => ?_, .inl rfl⟩
    rcases mem_held_hand.mp hheld with hheld | hhand
    · exact hunheld h hackD hheld
    · exact hdistinct.ack h hackD (hack.symm.trans hhand)
  | succeeds handling => exact .of_leave hi hpage rfl rfl rfl rfl rfl
  | rejects _ cause said h z failing ack handle pending =>
    refine ⟨?_, hpage, Acks.settlement?_settle handle pending _ (by simpa using hi), id, .inl ?_⟩
    · show (x.now.moveTo t.id _).find? i = _
      simp [find?_moveTo, hi.symm]
    · -- the handle is for a delivery with another tag or on another channel
      obtain ⟨hchannel, htag⟩ := hx.filed.key_of_find? (List.mem_of_getElem? hE) (hack.symm.trans ack) handle
      have hother : ¬ (z.channel = D.channel ∧ z.tag = D.delivery.tag) := by
        rintro ⟨hc, ht⟩
        exact hdistinct.key (Prod.ext (hc.symm.trans hchannel.symm) (ht.symm.trans htag.symm))
      have hconcat := settlings_concat D x.called (.task t.id) z.channel (.reject false) z.tag
      rwa [if_neg hother, List.append_nil] at hconcat
  | skips _ cause said failing settled => exact .of_leave hi hpage rfl rfl rfl rfl rfl
  | ends cause result s flight rejecting =>
    have hcaller := (Acks.Accounted.mem_of_settlement? flight).2
    exact .of_leave hi hpage rfl rfl rfl (Acks.settlement?_conclude (by simpa [hcaller] using hi)) rfl

theorem ne_task_of_answered (hx : Staffed x.now x.delivered) {p : Party κ} {s : Acks.Settlement (Party κ)}
    (flight : x.now.acks.settlement? p = some s)
    (other : ∀ t cause, x.now.find? t.id = some t → t.phase = .rejecting cause → p ≠ .task t.id) : p ≠ .task i := by
  intro hp
  obtain ⟨hs, hcaller⟩ := Acks.Accounted.mem_of_settlement? flight
  obtain ⟨t, cause, found, hphase⟩ := hx.flights s hs i (hcaller.trans hp)
  obtain rfl := find?_id found
  exact other t cause found hphase hp

theorem Turn.page_eq (hx : Staffed x.now x.delivered) (h : Turn n queue x e y)
    (hi : ∀ t, x.now.find? t.id = some t → Work n queue x t e y → t.id ≠ i) : y.page i = x.page i := by
  cases h with
  | still _ _ _ | auto _ _ _ | manual _ _ _ | clones _ _ | drops _ _ => rfl
  | works _ _ t found work => exact work.page_of_ne (hi t found work)
  | settles k h v z held handle pending => simp [Diary.page]
  | answered p result s flight other => simp [Diary.page, ne_task_of_answered (i := i) hx flight other]

theorem Turn.apart (hx : Kept x.now x.delivered x.called) (hD : x.delivered[i]? = some D) (h : Turn n queue x e y)
    (hi : ∀ t, x.now.find? t.id = some t → Work n queue x t e y → t.id ≠ i) : Apart i D x y := by
  have hpage := h.page_eq hx.staffed hi
  have hlt : i < x.now.next := by
    rw [hx.staffed.next]
    exact (List.getElem?_eq_some_iff.mp hD).1
  cases h with
  | still _ waiting idle => exact ⟨rfl, hpage, rfl, id, .inl rfl⟩
  | auto channel fresh d | manual channel fresh d =>
    refine ⟨?_, hpage, rfl, id, .inl rfl⟩
    simp [find?, List.find?_append, Nat.ne_of_gt hlt]
  | works _ _ t found work => exact work.apart hx hD found (hi t found work)
  | clones h held =>
    refine ⟨find?_hand _ _ _, hpage, Acks.settlement?_congr (inFlight_hand _ _) _, fun hunheld k hack hheld => ?_,
      .inl rfl⟩
    rcases mem_held_hand.mp hheld with hheld | hsame
    · exact hunheld k hack hheld
    · exact hunheld k hack (Acknowledger.manual.inj hsame ▸ held)
  | drops h held =>
    refine ⟨rfl, hpage, Acks.settlement?_congr (Acks.inFlight_drop _ _) _, fun hunheld k hack hheld => ?_, .inl rfl⟩
    exact hunheld k hack (List.mem_of_mem_erase hheld)
  | settles k h v z held handle pending =>
    refine ⟨rfl, hpage, Acks.settlement?_settle handle pending _ (by simp), id, ?_⟩
    have hconcat := settlings_concat D x.called (.application k) z.channel v z.tag
    by_cases hsame : z.channel = D.channel ∧ z.tag = D.delivery.tag
    · obtain ⟨E, hE, hack, hchannel, htag⟩ := hx.filed.known h z handle
      obtain rfl := hx.filed.eq_of_key hE (List.mem_of_getElem? hD) ⟨hchannel.trans hsame.1, htag.trans hsame.2⟩
      rw [if_pos hsame, hsame.2] at hconcat
      exact .inr ⟨fun hunheld => hunheld h hack held, k, v, hsame.2 ▸ hconcat⟩
    · rw [if_neg hsame, List.append_nil] at hconcat
      exact .inl hconcat
  | answered p result s flight other =>
    have hp := ne_task_of_answered (i := i) hx.staffed flight other
    have hcaller := (Acks.Accounted.mem_of_settlement? flight).2
    exact ⟨rfl, hpage, Acks.settlement?_conclude (by rwa [hcaller]), id, .inl rfl⟩

end

/-! ## What the task does -/

section

variable {n : Negotiator α} {queue : String} {x y : Diary κ α} {e : Event κ} {i : TaskId} {D : Consignment}
  {phase : Phase}

omit [DecidableEq κ] in
/-- If a task finds its handle settled, then by the application. -/
theorem settled_of_not_isPending (hx : Kept x.now x.delivered x.called) (hD : D ∈ x.delivered) {t : Task}
    (found : x.now.find? t.id = some t) (hack : t.ack = D.ack) (settled : x.now.acks.isPending t.ack = false)
    (hspared : Spared D x) {h : HandleId} (hh : D.ack = .manual h) :
    ∃ (k : κ) (v : Verdict), settlings D x.called = [(.application k, v.call D.delivery.tag)] := by
  have hfate := hx.filed.fates D hD
  have hmanual := hack.trans hh
  obtain ⟨z, hz, -⟩ := Acks.exists_of_clonesOf (hx.balanced.clonesOf_pos
    (Balanced.users_pos_of_mem (Staffed.mem_of_find? found) hmanual))
  simp only [Fate, hh] at hfate
  rcases hfate with ⟨⟨-, z', hz', hpending, -⟩ | hgone, -⟩ | ⟨-, p, v, heq⟩
  · simp [hmanual, Acks.isPending, hz', hpending] at settled
  · rw [hgone.gone] at hz
    cases hz
  · obtain ⟨k, rfl⟩ := hspared _ (heq ▸ List.mem_singleton_self _)
    exact ⟨k, v, heq⟩

/-- A task fails before its delivery is rejected. -/
theorem Stage.fails {cause : Error} {said : List Outcome} (hs : Stage n queue x i D (some phase))
    (failing : Failing n queue (D.task i phase) cause e said) : ∃ handled, Fails n queue D cause handled said ∧
      x.page i = { handled } ∧ Spared D x ∧ (handled = [] → settlings D x.called = []) := by
  cases failing with
  | unread spawned read =>
    obtain rfl : phase = .spawned := spawned
    cases hs with | spawned page settled unheld =>
    exact ⟨[], .unread read, page, by simp [Spared, settled], fun _ => settled⟩
  | handler handling =>
    obtain rfl : phase = .handling := handling
    cases hs with | handling m read page spared =>
    exact ⟨[m], .handler m read, page, spared, by simp⟩

theorem Stage.work (hx : Kept x.now x.delivered x.called) (hD : x.delivered[i]? = some D)
    (hs : Stage n queue x i D (some phase)) (found : x.now.find? i = some (D.task i phase))
    (h : Work n queue x (D.task i phase) e y) :
    ∃ phase, y.now.find? i = phase.map (D.task i) ∧ Stage n queue y i D phase := by
  have hmem : D ∈ x.delivered := List.mem_of_getElem? hD
  cases h with
  | hands m spawned read =>
    obtain rfl : phase = .spawned := spawned
    cases hs with | spawned page settled unheld =>
    refine ⟨some .handling, ?_, .handling m read ?_ ?_⟩
    · simp [find?_hand, find?_moveTo, found, Consignment.task]
    · simp only [Diary.page, Page.mk.injEq] at page ⊢
      simp [page, Consignment.task]
    · simp [Spared, settled]
  | succeeds handling =>
    obtain rfl : phase = .handling := handling
    cases hs with | handling m read page spared =>
    refine ⟨none, find?_leave_self _ _, .succeeded m read ?_ spared⟩
    simp only [Diary.page, Page.mk.injEq] at page ⊢
    simp [page, Consignment.task]
  | rejects _ cause said h z failing ack handle pending =>
    obtain ⟨handled, hfails, page, -⟩ := hs.fails failing
    obtain ⟨hchannel, htag⟩ := hx.filed.key_of_find? hmem ack handle
    have hconcat := settlings_concat D x.called (.task i) z.channel (.reject false) z.tag
    rw [if_pos ⟨hchannel.symm, htag.symm⟩, hx.filed.settlings_of_pending hmem ack handle pending] at hconcat
    refine ⟨some (.rejecting cause), ?_, .rejecting cause handled said hfails ?_ ?_ ?_⟩
    · show (x.now.moveTo i _).find? i = _
      simp [find?_moveTo, found, Consignment.task]
    · simp only [Diary.page, Page.mk.injEq] at page ⊢
      simp [page, Consignment.task, Consignment.rejection, hchannel, htag]
    · rw [Consignment.rejection, htag]
      exact hconcat
    · exact Acks.settlement?_settle_self handle pending _
  | skips _ cause said failing settled =>
    obtain ⟨handled, hfails, page, spared, hnone⟩ := hs.fails failing
    refine ⟨none, find?_leave_self _ _, .skipped cause handled said hfails ?_ fun h hack => ?_⟩
    · simp only [Diary.page, Page.mk.injEq] at page ⊢
      simp [page, Consignment.task]
    · obtain ⟨k, v, heq⟩ := settled_of_not_isPending hx hmem found rfl settled spared hack
      refine ⟨fun hhandled => ?_, k, v, heq⟩
      rw [hnone hhandled] at heq
      cases heq
  | ends cause result s flight rejecting =>
    obtain rfl : phase = .rejecting cause := rejecting
    cases hs with | rejecting _ handled said fails page settled flight =>
    refine ⟨none, find?_leave_self _ _, .rejected cause handled said result fails ?_ settled⟩
    simp only [Diary.page, Page.mk.injEq] at page ⊢
    simp [page, Consignment.task]

end

/-! ## What is known of every delivery -/

section

variable {n : Negotiator α} {queue : String} {x y : Diary κ α} {e : Event κ} {i : TaskId} {D : Consignment}

/-- Every delivery is at a stage, and of those to come nothing is said. -/
structure Told (n : Negotiator α) (queue : String) (x : Diary κ α) : Prop where
  kept : Kept x.now x.delivered x.called
  blank : ∀ i, x.delivered[i]? = none → x.page i = {}
  staged : ∀ i D, x.delivered[i]? = some D →
    ∃ phase, x.now.find? i = phase.map (D.task i) ∧ Stage n queue x i D phase

/-- A delivery that comes is at the first stage. -/
theorem Told.spawned (hx : Told n queue x)
    (he : ∀ E ∈ x.delivered, (E.channel, E.delivery.tag) ≠ (D.channel, D.delivery.tag))
    (hack : ∀ h, D.ack = .manual h → x.now.acks.next ≤ h) (hcalled : y.called = x.called)
    (hheld : y.now.held = x.now.held) (hpage : y.page x.delivered.length = x.page x.delivered.length) :
    Stage n queue y x.delivered.length D (some .spawned) := by
  refine .spawned (hpage.trans (hx.blank _ (by simp))) ?_ fun h hackD hin => ?_
  · rw [hcalled]
    exact hx.kept.filed.settlings_eq_nil he
  · rw [hheld] at hin
    exact Nat.not_lt.mpr (hack h hackD) (hx.kept.held_lt hin)

/-- At most one delivery comes, behind the others. -/
theorem Turn.delivers (hx : Told n queue x) (he : x.Admits e) (h : Turn n queue x e y) :
    y.delivered = x.delivered ∨ ∃ D, y.delivered = x.delivered ++ [D] ∧
      y.now.find? x.delivered.length = some (D.task x.delivered.length .spawned) ∧
      Stage n queue y x.delivered.length D (some .spawned) := by
  have hnone : x.now.find? x.delivered.length = none := hx.kept.staffed.find?_eq_none (by simp)
  have hnext := hx.kept.staffed.next
  cases h with
  | still _ _ _ | clones _ _ | drops _ _ | settles _ _ _ _ _ _ _ | answered _ _ _ _ _ => exact .inl rfl
  | works _ _ t found work => cases work <;> exact .inl rfl
  | auto channel fresh d =>
    refine .inr ⟨⟨channel, fresh, d, .auto⟩, rfl, ?_, hx.spawned he nofun rfl rfl rfl⟩
    rw [find?] at hnone ⊢
    simp [List.find?_append, hnone, hnext, Consignment.task]
  | manual channel fresh d =>
    refine .inr ⟨⟨channel, fresh, d, .manual x.now.acks.next⟩, rfl, ?_, hx.spawned he ?_ rfl rfl rfl⟩
    · rw [find?] at hnone ⊢
      simp [List.find?_append, hnone, hnext, Consignment.task]
    · rintro h ⟨⟩
      exact Nat.le_refl _

/-- A delivery that is there was there before, or it has just come. -/
theorem Turn.old_or_new (hx : Told n queue x) (he : x.Admits e) (h : Turn n queue x e y)
    (hD : y.delivered[i]? = some D) : x.delivered[i]? = some D ∨
      y.now.find? i = some (D.task i .spawned) ∧ Stage n queue y i D (some .spawned) := by
  rcases h.delivers hx he with heq | ⟨E, heq, found, hstage⟩
  · exact .inl (heq ▸ hD)
  · by_cases hi : i < x.delivered.length
    · rw [heq, List.getElem?_append_left hi] at hD
      exact .inl hD
    · obtain rfl | hlt := Nat.eq_or_lt_of_not_lt hi
      · rw [heq, List.getElem?_concat_length] at hD
        obtain rfl := Option.some.inj hD
        exact .inr ⟨found, hstage⟩
      · rw [heq, List.getElem?_eq_none (by simpa using Nat.succ_le_of_lt hlt)] at hD
        cases hD

/-- **Every turn keeps what is known.** -/
theorem Told.turn (hx : Told n queue x) (he : x.Admits e) (h : Turn n queue x e y) : Told n queue y := by
  have hkept := hx.kept.turn he h
  refine ⟨hkept, fun i hi => ?_, fun i D hD => ?_⟩
  · have hnone : x.delivered[i]? = none := by
      rcases h.delivers hx he with heq | ⟨D, heq, -⟩
      · exact heq ▸ hi
      · have hle := List.getElem?_eq_none_iff.mp hi
        rw [heq, List.length_append, List.length_singleton] at hle
        exact List.getElem?_eq_none (Nat.le_of_succ_le hle)
    rw [h.page_eq hx.kept.staffed, hx.blank i hnone]
    rintro t found - rfl
    rw [hx.kept.staffed.find?_eq_none hnone] at found
    cases found
  · rcases h.old_or_new hx he hD with hold | ⟨found, hstage⟩
    · obtain ⟨phase, found, hstage⟩ := hx.staged i D hold
      by_cases hown : ∃ t, x.now.find? t.id = some t ∧ Work n queue x t e y ∧ t.id = i
      · obtain ⟨t, ht, hwork, hid⟩ := hown
        rw [hid, found] at ht
        obtain ⟨phase, rfl, rfl⟩ := Option.map_eq_some_iff.mp ht
        exact hstage.work hx.kept hold found hwork
      · have hapart := h.apart hx.kept hold fun t found work hid => hown ⟨t, found, work, hid⟩
        exact ⟨phase, hapart.task.trans found,
          hapart.stage (hkept.filed.fates D (List.mem_of_getElem? hD)).length_le hstage⟩
    · exact ⟨some .spawned, found, hstage⟩

theorem Told.run (hx : Told n queue x) (es : List (Event κ)) (hes : x.Schedule n queue es) :
    Told n queue (x.run n queue es) := by
  induction es generalizing x with
  | nil => exact hx
  | cons e es ih => exact ih (hx.turn hes.1 (Consumer.turn n queue x e)) hes.2

theorem told_nil (n : Negotiator α) (queue : String) : Told n queue ({} : Diary κ α) where
  kept := .nil
  blank i _ := rfl
  staged i D hD := by simp at hD

end

end BrokerClient.Consumer
