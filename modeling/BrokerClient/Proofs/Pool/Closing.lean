import BrokerClient.Proofs.Pool.Items

/-!
# Closing a pool

Once `close` was called a pool lends nothing. What it had then is handed over to be closed: the idle items one
after the other while the caller waits, a lent item as it comes back, valid or not, and an item that was being
made as soon as it is there. `Ebbs` relates what events are about to what they make the pool hand over and to
what is left in each of the three places; it holds of a closed pool that does nothing, of two courses one after
the other and of every step, hence of every run. Nothing was handed over before (`tends_run`), so that nothing is
handed over twice. Two ways out are left: a borrower that goes away while its item is being made takes it along,
and so does the caller of `close` with the idle items whose turn has not come.
-/

namespace BrokerClient.Pool

variable {ι : Type}

/-! ## Closed pools -/

/-- What a closed pool does: it lends nothing, it hands over what is due, and what leaves a place was due or is
lost. -/
structure Ebbs (p : Pool ι) (d : Dues ι) (r : Effect ι) : Prop where
  isClosed : r.1.isClosed = true
  idle : r.1.idle = p.idle
  unlent : ∀ a ∈ r.2, a.isLoan = false
  byCaller : handed (· == .caller) r.2 = d.next
  byNobody : handed (· == .nobody) r.2 = d.returned
  byBorrowers : handed Closer.isBorrower r.2 = d.made
  remaining : (d.next ++ d.left ++ r.1.remaining).Perm p.remaining
  lent : (d.returned ++ r.1.lentItems).Perm p.lentItems
  creating : (d.finished.map (·.1) ++ d.forsaken ++ r.1.creating).Perm p.creating

/-- What two parts of a course take out of a place, one after the other. -/
theorem perm_of_parts {α : Type} {a b a' b' l l' l'' : List α} (h : (a ++ b ++ l').Perm l)
    (h' : (a' ++ b' ++ l'').Perm l') : ((a ++ a') ++ (b ++ b') ++ l'').Perm l := by
  refine .trans ?_ ((h'.append_left (a ++ b)).trans h)
  simp only [List.append_assoc]
  exact (List.perm_append_comm_assoc a' b (b' ++ l'')).append_left a

theorem Ebbs.trans {p : Pool ι} {d d' : Dues ι} {r r' : Effect ι} (h : Ebbs p d r) (h' : Ebbs r.1 d' r') :
    Ebbs p (d.append d') (r'.1, r.2 ++ r'.2) where
  isClosed := h'.isClosed
  idle := h'.idle.trans h.idle
  unlent a ha := (List.mem_append.1 ha).elim (h.unlent a) (h'.unlent a)
  byCaller := by rw [handed_append, h.byCaller, h'.byCaller]; rfl
  byNobody := by rw [handed_append, h.byNobody, h'.byNobody]; rfl
  byBorrowers := by rw [handed_append, h.byBorrowers, h'.byBorrowers, Dues.made_append]
  remaining := perm_of_parts h.remaining h'.remaining
  lent := by
    have hrest := (h'.lent.append_left d.returned).trans h.lent
    rwa [← List.append_assoc] at hrest
  creating := by
    have hparts := perm_of_parts h.creating h'.creating
    rwa [← List.map_append] at hparts

section Closed

variable {p : Pool ι} {x : Borrow ι} {item : ι} {actions : List (Action ι)} {isValid : ι → Bool}

theorem ebbs_quiet (hc : p.isClosed = true) (hq : Quiet actions) : Ebbs p {} (p, actions) where
  isClosed := hc
  idle := rfl
  unlent := hq.isLoan
  byCaller := hq.handed _
  byNobody := hq.handed _
  byBorrowers := hq.handed _
  remaining := .refl _
  lent := .refl _
  creating := .refl _

theorem Ebbs.quiet {d : Dues ι} {r : Effect ι} (h : Ebbs p d r) (hq : Quiet actions) :
    Ebbs p d (r.1, r.2 ++ actions) := by
  have happend := h.trans (ebbs_quiet h.isClosed hq)
  rwa [Dues.append_empty] at happend

/-- A borrower without an item goes, and if one was being made for it that came to an end or is lost. -/
theorem ebbs_leave (hc : p.isClosed = true) (hids : (p.borrows.map (·.id)).Nodup) (hx : x ∈ p.borrows)
    (hl : x.phase.lent? = none) {finished : List (BorrowId × Except Error ι)} {forsaken : List BorrowId}
    (hm : finished.map (·.1) ++ forsaken = x.making?.toList) (hf : finished.filterMap (·.2.toOption) = [])
    (hq : Quiet actions) (free : Nat) : Ebbs p { finished, forsaken } ({ p.drop x.id with free }, actions) where
  isClosed := hc
  idle := rfl
  unlent := hq.isLoan
  byCaller := hq.handed _
  byNobody := hq.handed _
  byBorrowers := (hq.handed _).trans hf.symm
  remaining := .refl _
  lent := by
    have hdrop := filterMap_drop hids hx (·.phase.lent?)
    rwa [hl] at hdrop
  creating := by
    rw [hm]
    exact filterMap_drop hids hx Borrow.making?

/-- An item comes back. -/
theorem ebbs_return (hc : p.isClosed = true) (hids : (p.borrows.map (·.id)).Nodup) (hx : x ∈ p.borrows)
    (hl : x.phase = .lent item) (free : Nat) :
    Ebbs p { returned := [item] } ({ p.drop x.id with free }, [.closeItem .nobody item]) where
  isClosed := hc
  idle := rfl
  unlent := by simp [Action.isLoan]
  byCaller := rfl
  byNobody := rfl
  byBorrowers := rfl
  remaining := .refl _
  lent := by
    have hdrop := filterMap_drop hids hx (·.phase.lent?)
    rwa [hl] at hdrop
  creating := by
    have hdrop := filterMap_drop hids hx Borrow.making?
    rwa [Borrow.making?, hl] at hdrop

/-- An item was made. -/
theorem ebbs_discard (hc : p.isClosed = true) (hids : (p.borrows.map (·.id)).Nodup) (hx : x ∈ p.borrows)
    (hm : x.phase = .creating) :
    Ebbs p { finished := [(x.id, .ok item)] }
      (p.moveTo x.id (.discarding item), [.closeItem (.borrower x.id) item]) where
  isClosed := hc
  idle := rfl
  unlent := by simp [Action.isLoan]
  byCaller := rfl
  byNobody := rfl
  byBorrowers := rfl
  remaining := .refl _
  lent := by
    have hmove := filterMap_moveTo hids hx (.discarding item) (g := (·.phase.lent?)) rfl
    rwa [hm] at hmove
  creating := by
    have hmove := filterMap_moveTo hids hx (.discarding item) (g := Borrow.making?) rfl
    rwa [Borrow.making?, hm] at hmove

theorem returnPermit_closed (hc : p.isClosed = true) : p.returnPermit = ({ p with free := p.free + 1 }, []) := by
  unfold returnPermit
  rw [hc]

theorem giveBack_closed (hc : p.isClosed = true) (b : BorrowId) :
    p.giveBack isValid b item = ({ p.drop b with free := p.free + 1 }, [.closeItem .nobody item]) := by
  have hdrop : (p.drop b).isClosed = true := hc
  rw [giveBack, putBack, if_pos hdrop]
  simp only [returnPermit_closed hdrop]
  rfl

theorem refuse_closed (hc : p.isClosed = true) (e : Error) :
    p.refuse x e = ({ p.drop x.id with free := p.free + 1 }, refusal x e) := by
  have hdrop : (p.drop x.id).isClosed = true := hc
  rw [refuse, returnPermit_closed hdrop]
  rfl

/-- A borrower without an item is refused one. -/
theorem ebbs_refuse (hc : p.isClosed = true) (hids : (p.borrows.map (·.id)).Nodup) (hx : x ∈ p.borrows)
    (hl : x.phase.lent? = none) (hm : x.making? = none) (e : Error) : Ebbs p {} (p.refuse x e) := by
  rw [refuse_closed hc]
  exact ebbs_leave hc hids hx hl (by rw [hm]; rfl) rfl (quiet_refusal x e) _

theorem ebbs_turn (hc : p.isClosed = true) (hids : (p.borrows.map (·.id)).Nodup) (hx : x ∈ p.borrows) :
    Ebbs p {} (p.turn isValid x) := by
  unfold turn
  split
  · rename_i hg
    rw [serve, if_pos hc]
    exact ebbs_refuse hc hids hx (by rw [hg]; rfl) (by rw [Borrow.making?, hg]) closedError
  · rename_i hw
    rw [if_pos hc]
    have hnone : x.making? = none := by rw [Borrow.making?, hw]
    exact ebbs_leave hc hids hx (by rw [hw]; rfl) (by rw [hnone]; rfl) rfl (quiet_refusal x closedError) p.free
  · exact ebbs_quiet hc .nil

theorem ebbs_created (hc : p.isClosed = true) (hids : (p.borrows.map (·.id)).Nodup) (hx : x ∈ p.borrows)
    (hm : x.phase = .creating) (result : Except Error ι) :
    Ebbs p { finished := [(x.id, result)] } (p.created x result) := by
  cases result with
  | error e =>
    rw [created, refuse_closed hc]
    exact ebbs_leave hc hids hx (by rw [hm]; rfl) (by rw [Borrow.making?, hm]; rfl) rfl (quiet_refusal x e) _
  | ok item =>
    simp only [created]
    rw [if_pos hc]
    exact ebbs_discard hc hids hx hm

theorem ebbs_abandon (hc : p.isClosed = true) (hids : (p.borrows.map (·.id)).Nodup) (hx : x ∈ p.borrows)
    (hp : x.purpose ≠ .errand true) :
    Ebbs p { returned := x.phase.lent?.toList, forsaken := x.making?.toList } (p.abandon isValid x) := by
  have hdrop : (p.drop x.id).isClosed = true := hc
  have hleave (hl : x.phase.lent? = none) (free : Nat) :
      Ebbs p { returned := x.phase.lent?.toList, forsaken := x.making?.toList } ({ p.drop x.id with free }, []) := by
    rw [hl]
    exact ebbs_leave hc hids hx hl (List.nil_append _) rfl .nil free
  rw [abandon, if_neg hp]
  split
  · rename_i hw; exact hleave (by rw [hw]; rfl) p.free
  · rename_i hg; rw [returnPermit_closed hdrop]; exact hleave (by rw [hg]; rfl) _
  · rename_i hg; rw [returnPermit_closed hdrop]; exact hleave (by rw [hg]; rfl) _
  · rename_i hg; rw [returnPermit_closed hdrop]; exact hleave (by rw [hg]; rfl) _
  · rename_i item hl
    rw [giveBack_closed hc, hl, Borrow.making?, hl]
    exact ebbs_return hc hids hx hl _

theorem ebbs_closeNext (hc : p.isClosed = true) {call : Nat} {rest : List ι} (hs : p.closing = some (call, rest)) :
    Ebbs p { next := rest.take 1 } (p.closeNext call rest) := by
  have hremaining : p.remaining = rest := by simp [remaining, hs]
  cases rest with
  | nil =>
    refine ⟨hc, rfl, by simp [closeNext, Action.isLoan], rfl, rfl, rfl, ?_, .refl _, .refl _⟩
    rw [hremaining]
    exact .nil
  | cons item rest =>
    refine ⟨hc, rfl, by simp [closeNext, Action.isLoan], rfl, rfl, rfl, ?_, .refl _, .refl _⟩
    rw [hremaining]
    exact .refl _

theorem ebbs_left (hc : p.isClosed = true) {call : Nat} {rest : List ι} (hs : p.closing = some (call, rest)) :
    Ebbs p { left := rest } ({ p with closing := none }, []) :=
  ⟨hc, rfl, by simp, rfl, rfl, rfl, by simp [remaining, hs], .refl _, .refl _⟩

theorem ebbs_step (isValid : ι → Bool) (hc : p.isClosed = true) (hids : (p.borrows.map (·.id)).Nodup) (e : Event ι) :
    Ebbs p (p.dues e) (p.step isValid e) := by
  have hmeets := meets p isValid e
  generalize p.dues e = d, p.step isValid e = r at hmeets ⊢
  cases hmeets with
  | nothing _ hq => exact ebbs_quiet hc hq
  | borrow b purpose =>
    rw [borrow, if_pos hc]
    exact ebbs_quiet hc (quiet_refusal _ closedError)
  | turn hx => exact ebbs_turn hc hids hx
  | created hx hm result => exact ebbs_created hc hids hx hm result
  | returned hx hl _ hq =>
    rw [giveBack_closed hc]
    exact (ebbs_return hc hids hx hl _).quiet hq
  | abandoned hx hp => exact ebbs_abandon hc hids hx hp
  | close call =>
    rw [close, if_pos hc]
    exact ebbs_quiet hc (.closed call)
  | discarded hx hd result =>
    have hrefuse := ebbs_refuse hc hids hx (by rw [hd]; rfl) (by rw [Borrow.making?, hd]) closedError
    exact (ebbs_quiet hc (quiet_closeReport result)).trans hrefuse
  | closed hs result => exact (ebbs_quiet hc (quiet_closeReport result)).trans (ebbs_closeNext hc hs)
  | left hs => exact ebbs_left hc hs

/-- What holds of every step of a closed pool holds of every run. -/
theorem ebbs_run {capacity : Nat} {ms : List (Moment ι)} (hc : p.isClosed = true) (h : Accounted capacity p 0)
    (hs : p.Schedule ms) : Ebbs p (p.duesOf ms) (p.run ms) := by
  induction ms generalizing p with
  | nil => exact ebbs_quiet hc .nil
  | cons m ms ih =>
    have hstep := ebbs_step m.isValid hc h.ids m.event
    exact hstep.trans (ih hstep.isClosed (h.step m.isValid hs.1) hs.2)

/-- When every place is empty, nothing is handed over any more, and no borrower is there to go away. -/
theorem Ebbs.exhausted {d : Dues ι} {r : Effect ι} (h : Ebbs p d r) (hremaining : p.remaining = [])
    (hlent : p.lentItems = []) (hcreating : p.creating = []) :
    handed (fun _ => true) r.2 = [] ∧ d.forsaken = [] := by
  have hnext := List.perm_nil.1 (hremaining ▸ h.remaining)
  have hreturned := List.perm_nil.1 (hlent ▸ h.lent)
  have hfinished := List.perm_nil.1 (hcreating ▸ h.creating)
  simp only [List.append_eq_nil_iff, List.map_eq_nil_iff] at hnext hreturned hfinished
  have hmade : d.made = [] := by rw [Dues.made, hfinished.1.1, List.filterMap_nil]
  refine ⟨List.perm_nil.1 ((handed_perm r.2).trans ?_), hfinished.1.2⟩
  rw [h.byCaller, h.byNobody, h.byBorrowers, hnext.1.1, hreturned.1, hmade]
  exact .nil

end Closed

/-! ## The call of `close` -/

/-- The pool is closed, and the first item to come back is handed over. -/
structure Closes (p : Pool ι) (r : Effect ι) : Prop where
  isClosed : r.1.isClosed = true
  idle : r.1.idle = []
  borrows : r.1.borrows = p.borrows
  unlent : ∀ a ∈ r.2, a.isLoan = false
  byCaller : handed (· == .caller) r.2 = p.idle.reverse.take 1
  byNobody : handed (· == .nobody) r.2 = []
  byBorrowers : handed Closer.isBorrower r.2 = []
  remaining : r.1.remaining = p.idle.reverse.drop 1

theorem closes {p : Pool ι} (hc : p.isClosed = false) (call : Nat) : Closes p (p.close call) := by
  have hwakes : Quiet ((p.borrows.filter (·.phase.isWaiting)).map fun b => (.wake (.turn b.id) : Action ι)) := by
    intro a ha
    obtain ⟨b, -, rfl⟩ := List.mem_map.1 ha
    rfl
  have hskip (who : Closer → Bool) (as : List (Action ι)) :
      handed who ((p.borrows.filter (·.phase.isWaiting)).map (fun b => .wake (.turn b.id)) ++ as) = handed who as := by
    rw [handed_append, hwakes.handed, List.nil_append]
  rw [close, if_neg (by simp [hc])]
  rcases hi : p.idle.reverse with _ | ⟨item, rest⟩
  · refine ⟨rfl, rfl, rfl, ?_, (hskip _ _).trans (by rw [hi]; rfl), hskip _ _, hskip _ _, by rw [hi]; rfl⟩
    exact (hwakes.append (Quiet.closed call)).isLoan
  · refine ⟨rfl, rfl, rfl, ?_, (hskip _ _).trans (by rw [hi]; rfl), hskip _ _, hskip _ _, by rw [hi]; rfl⟩
    intro a ha
    rcases List.mem_append.1 ha with ha | ha
    · exact hwakes.isLoan a ha
    · rw [List.mem_singleton.1 ha]
      rfl

/-- What holds of every step of an open pool holds of every run that leaves it open, since no pool is opened again. -/
theorem tends_run {capacity : Nat} {p : Pool ι} {ms : List (Moment ι)} (h : Accounted capacity p 0) (hs : p.Schedule ms)
    (hc : p.isClosed = false) (hn : p.closing = none) (hend : (p.run ms).1.isClosed = false) :
    Tends p (p.duesOf ms).made (p.run ms) := by
  induction ms generalizing p with
  | nil => exact tends_quiet .nil
  | cons m ms ih =>
    have hnext : Accounted capacity (p.step m.isValid m.event).1 0 := h.step m.isValid hs.1
    have hclose : ∀ call, m.event ≠ .close call := by
      intro call he
      have hclosed : (p.step m.isValid m.event).1.isClosed = true := by
        rw [he]
        exact (closes hc call).isClosed
      have hrest : (p.run (m :: ms)).1.isClosed = true := (ebbs_run hclosed hnext hs.2).isClosed
      rw [hend] at hrest
      cases hrest
    have hstep := tends_step m.isValid hc hn hclose
    have hrun := hstep.trans (ih hnext hs.2 (hstep.isClosed.trans hc) (hstep.closing.trans hn) hend)
    rwa [← Dues.made_append] at hrun

/-! ## Every item once -/

/-- **A closed pool is closed down.** Let `close` be called at any point of any schedule, as the first call of it.
From then on no borrower gets an item, and no item is idle. The idle items are handed over while the caller waits,
the first at once and the next whenever one was closed, and each is handed over, or was left by the caller, or its
turn is to come. Each lent item is handed over when it comes back, whatever its validity, or is still lent. Each
creation that was under way ended, its item being handed over if it has one, or its borrower went away before that,
or it is still under way. Before the call nothing was handed over, and if no two items that were made are the same,
none is handed over twice. A further call of `close` returns at once and does nothing. -/
theorem closed_down (capacity : Nat) (before after : List (Moment ι)) (isValid : ι → Bool) (call : Nat)
    (hbefore : (ofCapacity capacity).Schedule before)
    (hafter : ((ofCapacity capacity).run before).1.Schedule (⟨isValid, .close call⟩ :: after))
    (hfirst : ((ofCapacity capacity).run before).1.isClosed = false) :
    let first := (ofCapacity capacity).run before
    let p := first.1
    let r := p.run (⟨isValid, .close call⟩ :: after)
    let d := p.duesOf (⟨isValid, .close call⟩ :: after)
    (∀ b item, .lend b item ∉ r.2 ∧ .work b item ∉ r.2) ∧
    r.1.idle = [] ∧
    (handed (· == .caller) r.2 = p.idle.reverse.take 1 ++ d.next ∧
      (handed (· == .caller) r.2 ++ d.left ++ r.1.remaining).Perm p.idle) ∧
    (handed (· == .nobody) r.2 = d.returned ∧ (d.returned ++ r.1.lentItems).Perm p.lentItems) ∧
    (handed Closer.isBorrower r.2 = d.made ∧
      (d.finished.map (·.1) ++ d.forsaken ++ r.1.creating).Perm p.creating) ∧
    handed (fun _ => true) first.2 = [] ∧
    ((((ofCapacity capacity).duesOf before).made ++ d.made).Nodup → (handed (fun _ => true) r.2).Nodup) ∧
    ∀ isValid' call', r.1.step isValid' (.close call') = (r.1, [.closed call']) := by
  intro first p r d
  have hp : Accounted _ p 0 := (accounted_ofCapacity capacity).run hbefore
  have htends : Tends _ ((ofCapacity capacity).duesOf before).made first :=
    tends_run (accounted_ofCapacity capacity) hbefore rfl rfl hfirst
  have hcloses := closes hfirst call
  have hq : Accounted _ (p.close call).1 0 := hp.close call
  have hebbs : Ebbs (p.close call).1 d ((p.close call).1.run after) := ebbs_run hcloses.isClosed hq hafter.2
  -- the places of the closed pool are those of the pool as the call finds it
  have hlent : (p.close call).1.lentItems = p.lentItems := by rw [lentItems, hcloses.borrows]; rfl
  have hcreating : (p.close call).1.creating = p.creating := by rw [creating, hcloses.borrows]; rfl
  have hhanded (who : Closer → Bool) :
      handed who r.2 = handed who (p.close call).2 ++ handed who ((p.close call).1.run after).2 := handed_append ..
  have hcaller : handed (· == .caller) r.2 = p.idle.reverse.take 1 ++ d.next := by
    rw [hhanded, hcloses.byCaller, hebbs.byCaller]
  have hnobody : handed (· == .nobody) r.2 = d.returned := by
    rw [hhanded, hcloses.byNobody, hebbs.byNobody, List.nil_append]
  have hborrowers : handed Closer.isBorrower r.2 = d.made := by
    rw [hhanded, hcloses.byBorrowers, hebbs.byBorrowers, List.nil_append]
  have hidle : (handed (· == .caller) r.2 ++ d.left ++ r.1.remaining).Perm p.idle := by
    have htail := (hcloses.remaining ▸ hebbs.remaining).append_left (p.idle.reverse.take 1)
    rw [List.take_append_drop, ← List.append_assoc, ← List.append_assoc, ← hcaller] at htail
    exact htail.trans p.idle.reverse_perm
  have hreturned : (d.returned ++ r.1.lentItems).Perm p.lentItems := hlent ▸ hebbs.lent
  refine ⟨?_, hebbs.idle.trans hcloses.idle, ⟨hcaller, hidle⟩, ⟨hnobody, hreturned⟩,
    ⟨hborrowers, hcreating ▸ hebbs.creating⟩, htends.unhanded, ?_, ?_⟩
  · have hunlent (a : Action ι) (ha : a ∈ r.2) : a.isLoan = false :=
      (List.mem_append.1 ha).elim (hcloses.unlent a) (hebbs.unlent a)
    intro b item
    exact ⟨fun h => (by cases hunlent _ h), fun h => (by cases hunlent _ h)⟩
  · intro hmade
    -- what was there at the call and what was made later are different items
    have hthere : (p.idle ++ p.lentItems ++ d.made).Nodup := by
      obtain ⟨-, hlater, hapart⟩ := List.nodup_append.1 hmade
      refine List.nodup_append.2 ⟨hp.items.sublist ((lentItems_sublist p).append_left _), hlater, ?_⟩
      intro i hi
      refine hapart i ?_
      have hheld := ((lentItems_sublist p).append_left p.idle).subset hi
      simpa [ofCapacity, held] using htends.items i hheld
    have hall := ((hidle.append hreturned).append_right d.made).nodup_iff.2 hthere
    refine (handed_perm r.2).nodup_iff.2 (hall.sublist ?_)
    rw [hnobody, hborrowers, ← List.append_assoc, List.append_assoc _ d.left]
    exact ((List.sublist_append_left ..).append (List.sublist_append_left ..)).append_right _
  · intro isValid' call'
    have hclosed : r.1.isClosed = true := hebbs.isClosed
    rw [step, close, if_pos hclosed]

/-- Three borrowers were there; one gave its channel back, one uses its own, one has it made, and a fourth was given
the free permit and has not run. -/
def busyPool : List (Moment ChannelId) := [
  ⟨fun _ => true, .borrow 0 .keep⟩, ⟨fun _ => true, .created 0 (.ok 7)⟩, ⟨fun _ => true, .borrow 1 (.errand false)⟩,
  ⟨fun _ => true, .created 1 (.ok 8)⟩, ⟨fun _ => true, .borrow 2 (.errand true)⟩, ⟨fun _ => true, .borrow 3 .keep⟩,
  ⟨fun _ => true, .giveBack 0⟩]

/-- The fourth borrower runs, the third gets its channel made, the second is done with a channel that is not valid
any more, and a close comes again. -/
def windingDown : List (Moment ChannelId) := [
  ⟨fun _ => true, .turn 3⟩, ⟨fun _ => true, .created 2 (.ok 9)⟩, ⟨fun _ => false, .worked 1 (.ok ())⟩,
  ⟨fun _ => true, .close 1⟩, ⟨fun _ => true, .itemClosed .caller (.ok ())⟩]

theorem closed_down_busyPool :
    let p := ((ofCapacity 3).run busyPool).1
    let ms : List (Moment ChannelId) := ⟨fun _ => true, .close 0⟩ :: windingDown
    ((ofCapacity 3).Schedule busyPool ∧ p.Schedule ms ∧ p.isClosed = false ∧
      p.idle = [7] ∧ p.lentItems = [8] ∧ p.creating = [2]) ∧
    (p.duesOf ms).left = [] ∧ (p.duesOf ms).forsaken = [] ∧
    (handed (· == .caller) (p.run ms).2 ++ (p.duesOf ms).left ++ (p.run ms).1.remaining).Perm p.idle ∧
    handed (· == .nobody) (p.run ms).2 = (p.duesOf ms).returned ∧
    handed Closer.isBorrower (p.run ms).2 = (p.duesOf ms).made ∧
    (handed (fun _ => true) (p.run ms).2).Nodup := by
  intro p ms
  have hbefore : (ofCapacity 3).Schedule busyPool := by decide
  have hafter : p.Schedule ms := by decide
  obtain ⟨-, -, ⟨-, hidle⟩, ⟨hreturned, -⟩, ⟨hmade, -⟩, -, honce, -⟩ :=
    closed_down 3 busyPool windingDown (fun _ => true) 0 hbefore hafter (by decide)
  exact ⟨⟨hbefore, hafter, by decide, by decide, by decide, by decide⟩, by decide, by decide, hidle, hreturned, hmade,
    honce (by decide)⟩

/-- Two channels are idle. -/
def idlePool : List (Moment ChannelId) := [
  ⟨fun _ => true, .borrow 0 .keep⟩, ⟨fun _ => true, .created 0 (.ok 0)⟩, ⟨fun _ => true, .borrow 1 .keep⟩,
  ⟨fun _ => true, .created 1 (.ok 1)⟩, ⟨fun _ => true, .giveBack 0⟩, ⟨fun _ => true, .giveBack 1⟩]

/-- If the caller of `close` goes away while the first of two idle channels is being closed, the second one is never
closed, whatever comes then, though no borrower ever went away. -/
theorem unclosed_after_abandonClose :
    let p := ((ofCapacity 2).run idlePool).1
    let ms : List (Moment ChannelId) := [⟨fun _ => true, .close 0⟩, ⟨fun _ => true, .abandonClose 0⟩]
    (ofCapacity 2).Schedule idlePool ∧ p.isClosed = false ∧ p.idle = [1, 0] ∧
      ((ofCapacity 2).duesOf idlePool).forsaken = [] ∧
      ∀ later, p.Schedule (ms ++ later) →
        (p.duesOf (ms ++ later)).forsaken = [] ∧ handed (fun _ => true) (p.run (ms ++ later)).2 = [0] := by
  intro p ms
  have hbefore : (ofCapacity 2).Schedule idlePool := by decide
  refine ⟨hbefore, by decide, by decide, by decide, ?_⟩
  intro later hlater
  have hq : Accounted _ (p.run ms).1 0 :=
    ((accounted_ofCapacity 2).run hbefore).run (p := p) (show p.Schedule ms by decide)
  have hebbs : Ebbs (p.run ms).1 ((p.run ms).1.duesOf later) ((p.run ms).1.run later) :=
    ebbs_run (by decide) hq hlater.2.2
  obtain ⟨hhanded, hforsaken⟩ := hebbs.exhausted (by decide) (by decide) (by decide)
  have hhandedLater : handed (fun _ => true) (p.run (ms ++ later)).2 =
      [0] ++ handed (fun _ => true) ((p.run ms).1.run later).2 := rfl
  refine ⟨hforsaken, ?_⟩
  rw [hhandedLater, hhanded]
  rfl

end BrokerClient.Pool
