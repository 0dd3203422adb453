import BrokerClient.Proofs.Pool.Accounting

/-!
# Where items are and what becomes of them

An item is idle, or lent, or waits for its turn to be closed, or is yet to be made for a borrower; it leaves its
place when an event is about it. What an event is about, in the state in which it finds the pool, is its `Dues`,
and `Meets` says which operation it sets off there. As long as a pool is open nothing is handed over to be closed,
and every item it has was made for one of its borrowers (`tends_step`).
-/

namespace BrokerClient.Pool

variable {ι : Type}

/-! ## Handing over -/

/-- The item that an action is about. -/
def Action.item? : Action ι → Option ι
  | .closeItem _ item | .lend _ item | .work _ item => some item
  | .log _ | .create _ | .wake _ | .refuse _ _ | .finish _ _ | .closed _ => none

/-- Whether a borrower gets an item. -/
def Action.isLoan : Action ι → Bool
  | .lend _ _ | .work _ _ => true
  | _ => false

/-- The item handed over to be closed, if such a one waits for that. -/
def Action.closing? (who : Closer → Bool) : Action ι → Option ι
  | .closeItem closer item => if who closer then some item else none
  | _ => none

/-- The items handed over to be closed for those who wait for that, in order. -/
def handed (who : Closer → Bool) (actions : List (Action ι)) : List ι := actions.filterMap (Action.closing? who)

theorem handed_append (who : Closer → Bool) (as bs : List (Action ι)) :
    handed who (as ++ bs) = handed who as ++ handed who bs := List.filterMap_append

def Closer.isBorrower : Closer → Bool
  | .borrower _ => true
  | .caller | .nobody => false

/-- Whoever waits is the caller, nobody, or a borrower. -/
theorem handed_perm (actions : List (Action ι)) :
    (handed (fun _ => true) actions).Perm
      (handed (· == .caller) actions ++ (handed (· == .nobody) actions ++ handed Closer.isBorrower actions)) := by
  induction actions with
  | nil => exact .nil
  | cons a as ih =>
    cases a with
    | closeItem closer item =>
      cases closer with
      | caller => exact ih.cons item
      | nobody => exact (ih.cons item).trans List.perm_middle.symm
      | borrower b =>
        refine (ih.cons item).trans ?_
        rw [← List.append_assoc, ← List.append_assoc]
        exact List.perm_middle.symm
    | log | create | wake | lend | work | refuse | finish | closed => exact ih

/-! ## Actions without an item -/

def Quiet (actions : List (Action ι)) : Prop := ∀ a ∈ actions, a.item? = none

theorem Quiet.nil : Quiet ([] : List (Action ι)) := by simp [Quiet]

theorem Quiet.append {as bs : List (Action ι)} (ha : Quiet as) (hb : Quiet bs) : Quiet (as ++ bs) := by
  intro a h
  exact (List.mem_append.1 h).elim (ha a) (hb a)

theorem Quiet.handed {as : List (Action ι)} (h : Quiet as) (who : Closer → Bool) : handed who as = [] := by
  refine List.filterMap_eq_nil_iff.2 ?_
  intro a ha
  have hi := h a ha
  cases a <;> first | rfl | cases hi

theorem Quiet.isLoan {as : List (Action ι)} (h : Quiet as) : ∀ a ∈ as, a.isLoan = false := by
  intro a ha
  have hi := h a ha
  cases a <;> first | rfl | cases hi

theorem Quiet.closed (call : Nat) : Quiet [(.closed call : Action ι)] := by simp [Quiet, Action.item?]

theorem quiet_returnPermit (p : Pool ι) : Quiet p.returnPermit.2 := by
  unfold returnPermit
  split <;> simp [Quiet, Action.item?]

theorem quiet_errandReport (purpose : Purpose) (result : Outcome) :
    Quiet (errandReport purpose result : List (Action ι)) := by
  cases result with
  | ok _ => exact .nil
  | error e =>
    unfold errandReport
    split <;> simp [Quiet, Action.item?]

theorem quiet_refusal (x : Borrow ι) (e : Error) : Quiet (refusal x e) :=
  (quiet_errandReport _ _).append (by simp [Quiet, Action.item?])

theorem quiet_closeReport (result : Outcome) : Quiet (closeReport result : List (Action ι)) := by
  cases result <;> simp [Quiet, closeReport, Action.item?]

/-! ## Places -/

/-- The borrower, if an item is being made for it. -/
def Borrow.making? (x : Borrow ι) : Option BorrowId :=
  match x.phase with
  | .creating => some x.id
  | _ => none

/-- The borrowers for which an item is being made. -/
def creating (p : Pool ι) : List BorrowId := p.borrows.filterMap (·.making?)

/-- The items that the caller of `close` still has to close. -/
def remaining (p : Pool ι) : List ι := (p.closing.map (·.2)).getD []

section Places

variable {p : Pool ι} {x : Borrow ι} {α : Type}

/-- What a borrower contributes goes with it. -/
theorem filterMap_drop (hids : (p.borrows.map (·.id)).Nodup) (hx : x ∈ p.borrows) (g : Borrow ι → Option α) :
    ((g x).toList ++ (p.drop x.id).borrows.filterMap g).Perm (p.borrows.filterMap g) := by
  refine .trans ?_ ((perm_of_mem hids hx).1.filterMap g).symm
  cases hg : g x with
  | none => rw [List.filterMap_cons_none hg]; exact .refl _
  | some a => rw [List.filterMap_cons_some hg]; exact .refl _

/-- What a borrower contributes is given up when it moves to a phase in which it contributes nothing. -/
theorem filterMap_moveTo (hids : (p.borrows.map (·.id)).Nodup) (hx : x ∈ p.borrows) (phase : Phase ι)
    {g : Borrow ι → Option α} (hg : g { x with phase } = none) :
    ((g x).toList ++ (p.moveTo x.id phase).borrows.filterMap g).Perm (p.borrows.filterMap g) := by
  refine .trans (.append_left _ ?_) (filterMap_drop hids hx g)
  have hmoved := ((perm_of_mem hids hx).2 phase).filterMap g
  rwa [List.filterMap_cons_none hg] at hmoved

theorem held_drop_subset (b : BorrowId) : (p.drop b).held ⊆ p.held := by
  intro i hi
  obtain ⟨y, hy, hi⟩ := List.mem_filterMap.1 hi
  exact List.mem_filterMap.2 ⟨y, (List.mem_filter.1 hy).1, hi⟩

theorem mem_held_moveTo {b : BorrowId} {phase : Phase ι} {i : ι} (hi : i ∈ (p.moveTo b phase).held) :
    i ∈ p.held ∨ phase.item? = some i := by
  obtain ⟨y, hy, hi⟩ := List.mem_filterMap.1 hi
  obtain ⟨z, hz, rfl⟩ := List.mem_map.1 hy
  split at hi
  · exact .inr hi
  · exact .inl (List.mem_filterMap.2 ⟨z, hz, hi⟩)

end Places

/-! ## Dues -/

/-- What events are about that concern the items of a pool. -/
structure Dues (ι : Type) where
  /-- Items that come back from their borrowers. -/
  returned : List ι := []
  /-- Creations that end. -/
  finished : List (BorrowId × Except Error ι) := []
  /-- Borrowers that go away while an item is being made for them. -/
  forsaken : List BorrowId := []
  /-- Items whose turn has come, since the one before was closed. -/
  next : List ι := []
  /-- Items whose turn never comes, since the caller of `close` goes away. -/
  left : List ι := []

namespace Dues

@[simps]
def append (d d' : Dues ι) : Dues ι where
  returned := d.returned ++ d'.returned
  finished := d.finished ++ d'.finished
  forsaken := d.forsaken ++ d'.forsaken
  next := d.next ++ d'.next
  left := d.left ++ d'.left

theorem append_empty (d : Dues ι) : d.append {} = d := by simp [append]

/-- The items that were made. -/
def made (d : Dues ι) : List ι := d.finished.filterMap (·.2.toOption)

@[simp] theorem made_finished (b : BorrowId) (result : Except Error ι) :
    ({ finished := [(b, result)] } : Dues ι).made = result.toOption.toList := by
  cases result <;> rfl

@[simp] theorem made_append (d d' : Dues ι) : (d.append d').made = d.made ++ d'.made := List.filterMap_append

end Dues

/-- An errand in the background never goes away. -/
def dues (p : Pool ι) : Event ι → Dues ι
  | .created b result => if p.awaitsItem b then { finished := [(b, result)] } else {}
  | .worked b _ | .giveBack b => { returned := ((p.find? b).bind (·.phase.lent?)).toList }
  | .abandon b => match p.find? b with
    | some x =>
      if x.purpose = .errand true then {}
      else { returned := x.phase.lent?.toList, forsaken := x.making?.toList }
    | none => {}
  | .itemClosed .caller _ => { next := p.remaining.take 1 }
  | .abandonClose call => match p.closing with
    | some (c, rest) => if c = call then { left := rest } else {}
    | none => {}
  | _ => {}

/-- What a run is about. -/
def duesOf (p : Pool ι) : List (Moment ι) → Dues ι
  | [] => {}
  | m :: ms => (p.dues m.event).append (duesOf (p.step m.isValid m.event).1 ms)

/-! ## What an event meets -/

/-- The state in which an event finds a pool, what it is about there, and what it sets off: nothing, or one of the
operations. -/
inductive Meets (p : Pool ι) (isValid : ι → Bool) : Event ι → Dues ι → Effect ι → Prop
  | nothing (e : Event ι) {actions : List (Action ι)} (hq : Quiet actions) : Meets p isValid e {} (p, actions)
  | borrow (b : BorrowId) (purpose : Purpose) : Meets p isValid (.borrow b purpose) {} (p.borrow isValid b purpose)
  | turn {x : Borrow ι} (hx : x ∈ p.borrows) : Meets p isValid (.turn x.id) {} (p.turn isValid x)
  | created {x : Borrow ι} (hx : x ∈ p.borrows) (hm : x.phase = .creating) (result : Except Error ι) :
      Meets p isValid (.created x.id result) { finished := [(x.id, result)] } (p.created x result)
  | returned {x : Borrow ι} (hx : x ∈ p.borrows) {item : ι} (hl : x.phase = .lent item) (e : Event ι)
      {actions : List (Action ι)} (hq : Quiet actions) :
      Meets p isValid e { returned := [item] }
        ((p.giveBack isValid x.id item).1, (p.giveBack isValid x.id item).2 ++ actions)
  | abandoned {x : Borrow ι} (hx : x ∈ p.borrows) (hp : x.purpose ≠ .errand true) :
      Meets p isValid (.abandon x.id) { returned := x.phase.lent?.toList, forsaken := x.making?.toList }
        (p.abandon isValid x)
  | close (call : Nat) : Meets p isValid (.close call) {} (p.close call)
  | discarded {x : Borrow ι} (hx : x ∈ p.borrows) {item : ι} (hd : x.phase = .discarding item) (result : Outcome) :
      Meets p isValid (.itemClosed (.borrower x.id) result) {}
        ((p.refuse x closedError).1, closeReport result ++ (p.refuse x closedError).2)
  | closed {call : Nat} {rest : List ι} (hc : p.closing = some (call, rest)) (result : Outcome) :
      Meets p isValid (.itemClosed .caller result) { next := rest.take 1 }
        ((p.closeNext call rest).1, closeReport result ++ (p.closeNext call rest).2)
  | left {call : Nat} {rest : List ι} (hc : p.closing = some (call, rest)) :
      Meets p isValid (.abandonClose call) { left := rest } ({ p with closing := none }, [])

theorem meets_created (p : Pool ι) (isValid : ι → Bool) (b : BorrowId) (result : Except Error ι) :
    Meets p isValid (.created b result) (p.dues (.created b result)) (p.step isValid (.created b result)) := by
  simp only [step]
  split
  · rename_i id purpose hf
    obtain ⟨hx, rfl⟩ := mem_of_find? hf
    have hdues : p.dues (.created id result) = { finished := [(id, result)] } := by simp [dues, awaitsItem, hf]
    rw [hdues]
    exact .created hx rfl result
  · rename_i hne
    have hnot : p.awaitsItem b = false := by
      unfold awaitsItem
      split
      · rename_i hf; exact absurd hf (hne _ _)
      · rfl
    simp only [dues, hnot]
    exact .nothing _ .nil

/-- An item comes back when its borrower gives it back or its errand ended. -/
theorem meets_returned (p : Pool ι) (isValid : ι → Bool) (b : BorrowId) :
    Meets p isValid (.giveBack b) (p.dues (.giveBack b)) (p.step isValid (.giveBack b)) ∧
      ∀ result, Meets p isValid (.worked b result) (p.dues (.worked b result)) (p.step isValid (.worked b result)) := by
  rcases hf : p.find? b with _ | ⟨id, purpose, phase⟩
  · simp only [step, dues, hf]
    exact ⟨.nothing _ .nil, fun _ => .nothing _ .nil⟩
  · obtain ⟨hx, rfl⟩ := mem_of_find? hf
    simp only [step, dues, hf, Option.bind_some]
    cases phase with
    | lent item =>
      have hback (e : Event ι) {actions : List (Action ι)} (hq : Quiet actions) :
          Meets p isValid e { returned := [item] }
            ((p.giveBack isValid id item).1, (p.giveBack isValid id item).2 ++ actions) := .returned hx rfl e hq
      have hgiven := hback (.giveBack id) .nil
      rw [List.append_nil] at hgiven
      refine ⟨hgiven, fun result => ?_⟩
      have hquiet : Quiet (errandReport purpose result ++ [(.finish id result : Action ι)]) :=
        (quiet_errandReport purpose result).append (by simp [Quiet, Action.item?])
      have hworked := hback (.worked id result) hquiet
      rwa [← List.append_assoc] at hworked
    | waiting | granted | creating | discarding => exact ⟨.nothing _ .nil, fun _ => .nothing _ .nil⟩

theorem meets_abandon (p : Pool ι) (isValid : ι → Bool) (b : BorrowId) :
    Meets p isValid (.abandon b) (p.dues (.abandon b)) (p.step isValid (.abandon b)) := by
  rcases hf : p.find? b with _ | x
  · simp only [step, dues, hf]
    exact .nothing _ .nil
  · obtain ⟨hx, rfl⟩ := mem_of_find? hf
    simp only [step, dues, hf]
    by_cases hp : x.purpose = .errand true
    · rw [if_pos hp, abandon, if_pos hp]
      exact .nothing _ .nil
    · rw [if_neg hp]
      exact .abandoned hx hp

theorem meets_itemClosed (p : Pool ι) (isValid : ι → Bool) (closer : Closer) (result : Outcome) :
    Meets p isValid (.itemClosed closer result) (p.dues (.itemClosed closer result))
      (p.step isValid (.itemClosed closer result)) := by
  cases closer with
  | nobody =>
    simp only [step, awaitsClose, afterClose, dues, if_true, List.append_nil]
    exact .nothing _ (quiet_closeReport result)
  | caller =>
    cases hc : p.closing with
    | none =>
      simp only [step, awaitsClose, dues, remaining, hc]
      exact .nothing _ .nil
    | some pending =>
      simp only [step, awaitsClose, afterClose, dues, remaining, hc, Option.isSome_some, if_true]
      exact .closed hc result
  | borrower b =>
    rcases hf : p.find? b with _ | ⟨id, purpose, phase⟩
    · simp only [step, awaitsClose, dues, hf]
      exact .nothing _ .nil
    · obtain ⟨hx, rfl⟩ := mem_of_find? hf
      cases phase with
      | discarding item =>
        simp only [step, awaitsClose, afterClose, dues, hf, if_true]
        exact .discarded hx rfl result
      | waiting | granted | creating | lent =>
        simp only [step, awaitsClose, dues, hf]
        exact .nothing _ .nil

/-- What an event is about, and what it sets off. -/
theorem meets (p : Pool ι) (isValid : ι → Bool) (e : Event ι) : Meets p isValid e (p.dues e) (p.step isValid e) := by
  cases e with
  | borrow b purpose => exact .borrow b purpose
  | turn b =>
    simp only [step]
    split
    · rename_i hf
      obtain ⟨hx, rfl⟩ := mem_of_find? hf
      exact .turn hx
    · exact .nothing _ .nil
  | created b result => exact meets_created p isValid b result
  | worked b result => exact (meets_returned p isValid b).2 result
  | giveBack b => exact (meets_returned p isValid b).1
  | abandon b => exact meets_abandon p isValid b
  | close call => exact .close call
  | itemClosed closer result => exact meets_itemClosed p isValid closer result
  | abandonClose call =>
    rcases hc : p.closing with _ | ⟨c, rest⟩
    · simp only [step, dues, hc]
      exact .nothing _ .nil
    · simp only [step, dues, hc]
      by_cases hcall : c = call
      · rw [if_pos hcall, if_pos hcall]
        exact .left (hcall ▸ hc)
      · rw [if_neg hcall, if_neg hcall]
        exact .nothing _ .nil

/-! ## Open pools -/

/-- Nothing is handed over, and what there is was there or was made. -/
structure Tends (p : Pool ι) (made : List ι) (r : Effect ι) : Prop where
  isClosed : r.1.isClosed = p.isClosed
  closing : r.1.closing = p.closing
  unhanded : handed (fun _ => true) r.2 = []
  items : ∀ i ∈ r.1.idle ++ r.1.held, i ∈ p.idle ++ p.held ++ made

theorem Tends.trans {p : Pool ι} {made made' : List ι} {r r' : Effect ι} (h : Tends p made r)
    (h' : Tends r.1 made' r') : Tends p (made ++ made') (r'.1, r.2 ++ r'.2) where
  isClosed := h'.isClosed.trans h.isClosed
  closing := h'.closing.trans h.closing
  unhanded := by rw [handed_append, h.unhanded, h'.unhanded, List.append_nil]
  items i hi := by
    rw [← List.append_assoc]
    rcases List.mem_append.1 (h'.items i hi) with hi | hi
    · exact List.mem_append_left _ (h.items i hi)
    · exact List.mem_append_right _ hi

section Open

variable {p : Pool ι} {made : List ι} {actions : List (Action ι)} {x : Borrow ι} {item : ι} {isValid : ι → Bool}

theorem tends_quiet (hq : Quiet actions) : Tends p [] (p, actions) := ⟨rfl, rfl, hq.handed _, by simp⟩

theorem tends_drop (b : BorrowId) : Tends p [] (p.drop b, []) where
  isClosed := rfl
  closing := rfl
  unhanded := rfl
  items i hi := by
    rw [List.append_nil]
    rcases List.mem_append.1 hi with hi | hi
    · exact List.mem_append_left _ hi
    · exact List.mem_append_right _ (held_drop_subset b hi)

/-- A borrower moves, and has no item that was not there or was made. -/
theorem tends_moveTo {b : BorrowId} {phase : Phase ι} (hp : ∀ i, phase.item? = some i → i ∈ p.idle ++ p.held ++ made)
    {idle : List ι} (hidle : idle ⊆ p.idle) (ha : handed (fun _ => true) actions = []) :
    Tends p made ({ p.moveTo b phase with idle }, actions) where
  isClosed := rfl
  closing := rfl
  unhanded := ha
  items i hi := by
    rcases List.mem_append.1 hi with hi | hi
    · exact List.mem_append_left _ (List.mem_append_left _ (hidle hi))
    · rcases mem_held_moveTo hi with hi | hi
      · exact List.mem_append_left _ (List.mem_append_right _ hi)
      · exact hp i hi

theorem tends_returnPermit : Tends p [] p.returnPermit := by
  have hq := quiet_returnPermit p
  unfold returnPermit at hq ⊢
  split at hq
  · exact tends_moveTo (by simp [Phase.item?]) (List.Subset.refl _) (hq.handed _)
  · exact ⟨rfl, rfl, rfl, by simp [held]⟩

theorem tends_giveBack (hc : p.isClosed = false) (hi : item ∈ p.held) (b : BorrowId) :
    Tends p [] (p.giveBack isValid b item) := by
  suffices Tends p [] ((p.drop b).putBack isValid item) from this.trans tends_returnPermit
  have hopen : ¬ (p.drop b).isClosed = true := by rw [show (p.drop b).isClosed = false from hc]; simp
  have hitems := (tends_drop (p := p) b).items
  rw [putBack, if_neg hopen]
  split
  · refine ⟨rfl, rfl, rfl, ?_⟩
    intro i h
    rcases List.mem_cons.1 h with rfl | h
    · simp [hi]
    · exact hitems i h
  · exact ⟨rfl, rfl, rfl, hitems⟩

theorem tends_refuse (e : Error) : Tends p [] (p.refuse x e) :=
  ((tends_drop x.id).trans tends_returnPermit).trans (tends_quiet (quiet_refusal x e))

theorem tends_lend (hi : item ∈ p.idle ++ p.held ++ made) {idle : List ι} (hidle : idle ⊆ p.idle) :
    Tends p made ({ p with idle }.lend x item) := by
  have hlent : ∀ i, (Phase.lent item).item? = some i → i ∈ p.idle ++ p.held ++ made := by
    rintro i ⟨⟩
    exact hi
  unfold lend
  split <;> exact tends_moveTo hlent hidle rfl

theorem tends_serve (isValid : ι → Bool) (x : Borrow ι) (hc : p.isClosed = false) : Tends p [] (p.serve isValid x) := by
  rw [serve, if_neg (by simp [hc])]
  split
  · rename_i item rest hd
    have hsub : item :: rest ⊆ p.idle := hd ▸ (List.dropWhile_sublist _).subset
    have hi : item ∈ p.idle ++ p.held ++ [] := by simp [hsub (List.mem_cons_self ..)]
    exact tends_lend hi (List.Subset.trans (List.subset_cons_self ..) hsub)
  · have hitem : ∀ i, (Phase.creating : Phase ι).item? = some i → i ∈ p.idle ++ p.held ++ [] := nofun
    exact tends_moveTo hitem (List.nil_subset _) rfl

theorem tends_borrow (hc : p.isClosed = false) (b : BorrowId) (purpose : Purpose) :
    Tends p [] (p.borrow isValid b purpose) := by
  -- a borrower that comes in has no item
  have henter (phase : Phase ι) (free : Nat) (hp : phase.item? = none) :
      Tends p [] ({ p with free, borrows := p.borrows ++ [⟨b, purpose, phase⟩] }, []) :=
    ⟨rfl, rfl, rfl, by simp [held, hp]⟩
  unfold borrow
  rw [if_neg (by simp [hc])]
  split
  · exact henter .waiting p.free rfl
  · exact (henter .granted (p.free - 1) rfl).trans (tends_serve isValid ⟨b, purpose, .granted⟩ hc)

theorem tends_turn (hc : p.isClosed = false) : Tends p [] (p.turn isValid x) := by
  unfold turn
  split
  · exact tends_serve isValid x hc
  · rw [if_neg (by simp [hc])]
    exact tends_quiet .nil
  · exact tends_quiet .nil

theorem tends_created (hc : p.isClosed = false) (result : Except Error ι) :
    Tends p result.toOption.toList (p.created x result) := by
  cases result with
  | error e => exact tends_refuse e
  | ok item =>
    simp only [created]
    rw [if_neg (by simp [hc])]
    exact tends_lend (by simp [Except.toOption]) (List.Subset.refl _)

theorem mem_held (hx : x ∈ p.borrows) (hl : x.phase = .lent item) : item ∈ p.held :=
  List.mem_filterMap.2 ⟨x, hx, by rw [hl]; rfl⟩

theorem tends_abandon (hc : p.isClosed = false) (hx : x ∈ p.borrows) : Tends p [] (p.abandon isValid x) := by
  unfold abandon
  split
  · exact tends_quiet .nil
  · split
    · exact tends_drop x.id
    · exact (tends_drop x.id).trans tends_returnPermit
    · exact (tends_drop x.id).trans tends_returnPermit
    · exact (tends_drop x.id).trans tends_returnPermit
    · rename_i item hl
      exact tends_giveBack hc (mem_held hx hl) x.id

/-- Of all events, only a call of `close` makes a difference to whether a pool is open. -/
theorem tends_step (isValid : ι → Bool) (hc : p.isClosed = false) (hn : p.closing = none) {e : Event ι}
    (he : ∀ call, e ≠ .close call) :
    Tends p (p.dues e).made (p.step isValid e) := by
  have hmeets := meets p isValid e
  generalize p.dues e = d, p.step isValid e = r at hmeets ⊢
  cases hmeets with
  | nothing _ hq => exact tends_quiet hq
  | borrow b purpose => exact tends_borrow hc b purpose
  | turn hx => exact tends_turn hc
  | created hx hm result =>
    rw [Dues.made_finished]
    exact tends_created hc result
  | returned hx hl _ hq => exact (tends_giveBack hc (mem_held hx hl) _).trans (tends_quiet hq)
  | abandoned hx hp => exact tends_abandon hc hx
  | close call => exact absurd rfl (he call)
  | discarded hx hd result => exact (tends_quiet (quiet_closeReport result)).trans (tends_refuse closedError)
  | closed hsome result => rw [hn] at hsome; cases hsome
  | left hsome => rw [hn] at hsome; cases hsome

end Open

end BrokerClient.Pool
