import BrokerClient.Proofs.Pool.Closing

/-!
# What becomes of a borrower

An event is about one borrower at most. A step tells nobody else anything, and of all others at most one that waits
is given a permit (`Spares`). For an errand that the event is about only a few things can happen (`Fares`): it goes on
without an item, or is lent one, or it comes to an end in one of four ways, or it goes away. Whichever it is, what the
pool reports and what is idle then is said there, so that nothing that uses a pool has to look into its steps.
-/

namespace BrokerClient.Pool

variable {ι : Type}

/-! ## Who is told, and what is reported -/

/-- The borrower that an event is about. -/
def Event.borrower? : Event ι → Option BorrowId
  | .borrow b _ | .turn b | .created b _ | .worked b _ | .giveBack b | .abandon b | .itemClosed (.borrower b) _ => some b
  | .close _ | .itemClosed .caller _ | .itemClosed .nobody _ | .abandonClose _ => none

/-- The borrower that comes with an event. -/
def Event.newcomer? : Event ι → Option BorrowId
  | .borrow b _ => some b
  | .turn _ | .created _ _ | .worked _ _ | .giveBack _ | .abandon _ | .close _ | .itemClosed _ _ | .abandonClose _ => none

/-- The borrower that is told something: that it has an item, or gets none, or is done. -/
def Action.told? : Action ι → Option BorrowId
  | .lend b _ | .work b _ | .refuse b _ | .finish b _ => some b
  | .log _ | .create _ | .closeItem _ _ | .wake _ | .closed _ => none

def Action.error? : Action ι → Option LogEntry
  | .log entry => if entry.level = .error then some entry else none
  | _ => none

/-- The errors that are reported. -/
def errors (actions : List (Action ι)) : List LogEntry := actions.filterMap Action.error?

/-- The item that an errand gets to work with. -/
def Action.loan? (b : BorrowId) : Action ι → Option ι
  | .work c item => if c = b then some item else none
  | _ => none

/-- The items that an errand gets to work with. -/
def loans (b : BorrowId) (actions : List (Action ι)) : List ι := actions.filterMap (Action.loan? b)

@[simp] theorem errors_append (as bs : List (Action ι)) : errors (as ++ bs) = errors as ++ errors bs :=
  List.filterMap_append

@[simp] theorem loans_append (b : BorrowId) (as bs : List (Action ι)) :
    loans b (as ++ bs) = loans b as ++ loans b bs := List.filterMap_append

theorem loans_of_untold {b : BorrowId} {actions : List (Action ι)} (h : ∀ a ∈ actions, a.told? ≠ some b) :
    loans b actions = [] := by
  refine List.filterMap_eq_nil_iff.2 ?_
  intro a ha
  cases a with
  | work c item => exact if_neg fun hc => h _ ha (congrArg some hc)
  | _ => rfl

/-- Nobody is told anything. -/
def Silent (actions : List (Action ι)) : Prop := ∀ a ∈ actions, a.told? = none

theorem Silent.nil : Silent ([] : List (Action ι)) := by simp [Silent]

theorem Silent.append {as bs : List (Action ι)} (ha : Silent as) (hb : Silent bs) : Silent (as ++ bs) := by
  intro a h
  exact (List.mem_append.1 h).elim (ha a) (hb a)

theorem Silent.untold {as : List (Action ι)} (h : Silent as) (b : BorrowId) : ∀ a ∈ as, a.told? ≠ some b := by
  intro a ha
  rw [h a ha]
  exact nofun

theorem silent_returnPermit (p : Pool ι) : Silent p.returnPermit.2 := by
  unfold returnPermit
  split <;> simp [Silent, Action.told?]

theorem silent_putBack (p : Pool ι) (isValid : ι → Bool) (item : ι) : Silent (p.putBack isValid item).2 := by
  unfold putBack
  split
  · simp [Silent, Action.told?]
  · split <;> simp [Silent, Action.told?]

theorem silent_giveBack (p : Pool ι) (isValid : ι → Bool) (b : BorrowId) (item : ι) :
    Silent (p.giveBack isValid b item).2 := (silent_putBack _ _ _).append (silent_returnPermit _)

theorem silent_errandReport (purpose : Purpose) (result : Outcome) :
    Silent (errandReport purpose result : List (Action ι)) := by
  cases result with
  | ok _ => exact .nil
  | error e =>
    unfold errandReport
    split <;> simp [Silent, Action.told?]

theorem silent_closeReport (result : Outcome) : Silent (closeReport result : List (Action ι)) := by
  cases result <;> simp [Silent, closeReport, Action.told?]

theorem errors_returnPermit (p : Pool ι) : errors p.returnPermit.2 = [] := by
  unfold returnPermit
  split <;> rfl

theorem errors_putBack (p : Pool ι) (isValid : ι → Bool) (item : ι) : errors (p.putBack isValid item).2 = [] := by
  unfold putBack
  split
  · rfl
  · split <;> rfl

theorem errors_giveBack (p : Pool ι) (isValid : ι → Bool) (b : BorrowId) (item : ι) :
    errors (p.giveBack isValid b item).2 = [] :=
  (errors_append _ _).trans (List.append_eq_nil_iff.2 ⟨errors_putBack _ _ _, errors_returnPermit _⟩)

theorem borrows_putBack (p : Pool ι) (isValid : ι → Bool) (item : ι) :
    (p.putBack isValid item).1.borrows = p.borrows := by
  unfold putBack
  split
  · rfl
  · split <;> rfl

theorem idle_returnPermit (p : Pool ι) : p.returnPermit.1.idle = p.idle := by
  unfold returnPermit
  split <;> rfl

theorem idle_giveBack (p : Pool ι) (isValid : ι → Bool) (b : BorrowId) (item : ι) :
    (p.giveBack isValid b item).1.idle =
      if p.isClosed = false ∧ isValid item = true then item :: p.idle else p.idle := by
  have hback : ((p.drop b).putBack isValid item).1.idle =
      if p.isClosed = false ∧ isValid item = true then item :: p.idle else p.idle := by
    unfold putBack
    cases hc : p.isClosed <;> cases hv : isValid item <;> simp [drop, hc]
  exact (idle_returnPermit _).trans hback

theorem closeItem_mem_giveBack {p : Pool ι} (hc : p.isClosed = true) (isValid : ι → Bool) (b : BorrowId) (item : ι) :
    .closeItem .nobody item ∈ (p.giveBack isValid b item).2 := by
  have hback : (.closeItem .nobody item) ∈ ((p.drop b).putBack isValid item).2 := by
    rw [putBack, if_pos (show (p.drop b).isClosed = true from hc)]
    exact List.mem_singleton_self _
  exact List.mem_append_left _ hback

/-! ## Looking up -/

/-- How far a borrower has come, if it is there. -/
def phase? (p : Pool ι) (b : BorrowId) : Option (Phase ι) := (p.find? b).map (·.phase)

section Find

variable {p q r : Pool ι} {b c : BorrowId}

theorem find?_drop : (p.drop c).find? b = if b = c then none else p.find? b := Keyed.find?_others c b p.borrows

theorem find?_moveTo (phase : Phase ι) :
    (p.moveTo c phase).find? b = if b = c then (p.find? b).map fun x => { x with phase } else p.find? b := by
  have hid : ((fun y : Borrow ι => y.id == b) ∘ fun x => if x.id = c then { x with phase } else x) = (·.id == b) := by
    funext x
    by_cases hx : x.id = c <;> simp [hx]
  rw [find?, moveTo, List.find?_map, hid, ← find?]
  rcases hf : p.find? b with _ | x
  · simp
  · obtain rfl := (mem_of_find? hf).2
    by_cases hx : x.id = c <;> simp [hx]

theorem find?_of_mem (hids : (p.borrows.map (·.id)).Nodup) {x : Borrow ι} (hx : x ∈ p.borrows) :
    p.find? x.id = some x := by
  obtain ⟨as, bs, hp, has, -⟩ := Keyed.exists_apart hids hx
  have hnone : as.find? (·.id == x.id) = none := by
    rw [List.find?_eq_none]
    intro y hy
    simpa using has y hy
  rw [find?, hp, List.find?_append, hnone, Option.none_or, List.find?_cons_of_pos (by simp)]

theorem nodup_drop (hids : (p.borrows.map (·.id)).Nodup) : ((p.drop c).borrows.map (·.id)).Nodup :=
  hids.sublist (List.filter_sublist.map _)

/-- A borrower is where it was, or it waited and was given a permit. -/
inductive Steady (b : BorrowId) (p q : Pool ι) : Prop
  | same (h : q.find? b = p.find? b)
  | granted (purpose : Purpose) (hp : p.find? b = some ⟨b, purpose, .waiting⟩)
      (hq : q.find? b = some ⟨b, purpose, .granted⟩)

theorem Steady.trans (h : Steady b p q) (h' : Steady b q r) : Steady b p r := by
  cases h with
  | same h =>
    cases h' with
    | same h' => exact .same (h'.trans h)
    | granted purpose hp hq => exact .granted purpose (h ▸ hp) hq
  | granted purpose hp hq =>
    cases h' with
    | same h' => exact .granted purpose hp (h'.trans hq)
    | granted purpose' hp' hq' => rw [hq] at hp'; cases hp'

theorem Steady.none (h : Steady b p q) (hp : p.find? b = none) : q.find? b = none := by
  cases h with
  | same h => exact h.trans hp
  | granted purpose hw _ => rw [hp] at hw; cases hw

theorem steady_drop (h : b ≠ c) : Steady b p (p.drop c) := .same (by rw [find?_drop, if_neg h])

theorem steady_moveTo (h : b ≠ c) (phase : Phase ι) (idle : List ι) : Steady b p ({ p with idle }.moveTo c phase) :=
  .same ((find?_moveTo phase).trans (if_neg h))

theorem steady_returnPermit (hids : (p.borrows.map (·.id)).Nodup) (b : BorrowId) : Steady b p p.returnPermit.1 := by
  unfold returnPermit
  split
  · rename_i x _ hf
    by_cases hb : b = x.id
    · subst hb
      have hx := find?_of_mem hids (List.mem_of_find?_eq_some hf)
      have hw : x.phase = .waiting := by
        have := List.find?_some hf
        cases hp : x.phase <;> simp_all [Phase.isWaiting]
      refine .granted x.purpose (by rw [hx, ← hw]) ?_
      rw [find?_moveTo, if_pos rfl, hx]
      rfl
    · exact steady_moveTo hb _ p.idle
  · exact .same rfl

end Find

/-! ## The others -/

/-- A borrower is told nothing, and is where it was or was given a permit. -/
structure Spares (b : BorrowId) (p : Pool ι) (r : Effect ι) : Prop where
  steady : Steady b p r.1
  untold : ∀ a ∈ r.2, a.told? ≠ some b

section Others

variable {p : Pool ι} {b c : BorrowId} {x : Borrow ι} {item : ι} {isValid : ι → Bool}

theorem spares_silent {actions : List (Action ι)} (h : Silent actions) : Spares b p (p, actions) :=
  ⟨.same rfl, h.untold b⟩

/-- What is done before nobody is told, and what is done then tells others. -/
theorem Spares.trans {r r' : Effect ι} (h : Spares b p r) (h' : Spares b r.1 r') :
    Spares b p (r'.1, r.2 ++ r'.2) where
  steady := h.steady.trans h'.steady
  untold a ha := (List.mem_append.1 ha).elim (h.untold a) (h'.untold a)

theorem spares_returnPermit (hids : (p.borrows.map (·.id)).Nodup) : Spares b p p.returnPermit :=
  ⟨steady_returnPermit hids b, (silent_returnPermit p).untold b⟩

theorem spares_drop (h : b ≠ c) : Spares b p (p.drop c, []) := ⟨steady_drop h, by simp⟩

theorem spares_giveBack (hids : (p.borrows.map (·.id)).Nodup) (h : b ≠ c) :
    Spares b p (p.giveBack isValid c item) where
  steady := by
    have hborrows := borrows_putBack (p.drop c) isValid item
    have hback : Steady b (p.drop c) ((p.drop c).putBack isValid item).1 := .same (by rw [find?, hborrows, find?])
    have hreturn := steady_returnPermit (hborrows.symm ▸ nodup_drop hids) b
    exact ((steady_drop h).trans hback).trans hreturn
  untold := (silent_giveBack p isValid c item).untold b

theorem untold_refusal (h : b ≠ x.id) (e : Error) : ∀ a ∈ refusal x e, a.told? ≠ some b := by
  intro a ha
  rcases List.mem_append.1 ha with ha | ha
  · exact (silent_errandReport _ _).untold b a ha
  · rw [List.mem_singleton.1 ha]
    exact fun hb => h (Option.some.inj hb).symm

theorem spares_refuse (hids : (p.borrows.map (·.id)).Nodup) (h : b ≠ x.id) (e : Error) :
    Spares b p (p.refuse x e) := by
  have hreturn : Spares b p (p.drop x.id).returnPermit :=
    (spares_drop h).trans (spares_returnPermit (nodup_drop hids))
  have htold : Spares b (p.drop x.id).returnPermit.1 ((p.drop x.id).returnPermit.1, refusal x e) :=
    ⟨.same rfl, untold_refusal h e⟩
  exact hreturn.trans htold

theorem spares_lend (h : b ≠ x.id) (idle : List ι) : Spares b p ({ p with idle }.lend x item) where
  steady := steady_moveTo h _ idle
  untold a ha := by
    have hne : some x.id ≠ some b := fun hb => h (Option.some.inj hb).symm
    unfold lend at ha
    split at ha <;> rw [List.mem_singleton.1 ha] <;> exact hne

theorem spares_serve (hids : (p.borrows.map (·.id)).Nodup) (h : b ≠ x.id) : Spares b p (p.serve isValid x) := by
  unfold serve
  split
  · exact spares_refuse hids h _
  · split
    · exact spares_lend h _
    · exact ⟨steady_moveTo h .creating [], by simp [Action.told?]⟩

theorem spares_borrow (hids : (p.borrows.map (·.id)).Nodup) (hc : ∀ y ∈ p.borrows, y.id ≠ c) (h : b ≠ c)
    (purpose : Purpose) : Spares b p (p.borrow isValid c purpose) := by
  -- the one who comes in is not the one who is looked up
  have henter (phase : Phase ι) (free : Nat) :
      Spares b p ({ p with free, borrows := p.borrows ++ [⟨c, purpose, phase⟩] }, []) := by
    refine ⟨.same ?_, by simp⟩
    simp only [find?]
    rw [List.find?_append, List.find?_cons_of_neg (by simpa using h.symm), List.find?_nil, Option.or_none]
  unfold borrow
  split
  · exact ⟨.same rfl, untold_refusal h _⟩
  · split
    · exact henter .waiting p.free
    · exact (henter .granted (p.free - 1)).trans (spares_serve (Keyed.nodup_concat hids hc) h)

theorem spares_turn (hids : (p.borrows.map (·.id)).Nodup) (h : b ≠ x.id) : Spares b p (p.turn isValid x) := by
  unfold turn
  split
  · exact spares_serve hids h
  · split
    · exact ⟨steady_drop h, untold_refusal h _⟩
    · exact spares_silent .nil
  · exact spares_silent .nil

theorem spares_created (hids : (p.borrows.map (·.id)).Nodup) (h : b ≠ x.id) (result : Except Error ι) :
    Spares b p (p.created x result) := by
  cases result with
  | error e => exact spares_refuse hids h e
  | ok item =>
    simp only [created]
    split
    · exact ⟨steady_moveTo h _ p.idle, by simp [Action.told?]⟩
    · exact spares_lend h p.idle

theorem spares_abandon (hids : (p.borrows.map (·.id)).Nodup) (h : b ≠ x.id) : Spares b p (p.abandon isValid x) := by
  have hreturn : Spares b p (p.drop x.id).returnPermit :=
    (spares_drop h).trans (spares_returnPermit (nodup_drop hids))
  unfold abandon
  split
  · exact spares_silent .nil
  · split
    · exact spares_drop h
    · exact hreturn
    · exact hreturn
    · exact hreturn
    · exact spares_giveBack hids h

theorem spares_closeNext (call : Nat) (items : List ι) : Spares b p (p.closeNext call items) := by
  cases items <;> exact ⟨.same rfl, by simp [closeNext, Action.told?]⟩

theorem spares_close (call : Nat) : Spares b p (p.close call) := by
  unfold close
  split
  · exact spares_silent (by simp [Silent, Action.told?])
  · have hwakes : Silent ((p.borrows.filter (·.phase.isWaiting)).map fun y => (.wake (.turn y.id) : Action ι)) := by
      intro a ha
      obtain ⟨y, -, rfl⟩ := List.mem_map.1 ha
      rfl
    have hshut : Spares b p ({ p with isClosed := true, idle := [] }, []) := ⟨.same rfl, by simp⟩
    have hnext := hshut.trans (spares_closeNext call p.idle.reverse)
    exact (spares_silent hwakes).trans hnext

/-- **A step leaves everybody alone whom its event is not about.** -/
theorem spares_step (hids : (p.borrows.map (·.id)).Nodup) {e : Event ι} (he : p.Admits e) (h : e.borrower? ≠ some b) :
    Spares b p (p.step isValid e) := by
  have hne {c : BorrowId} (hc : some c ≠ some b) : b ≠ c := fun hb => hc (congrArg some hb.symm)
  cases e with
  | borrow c purpose => exact spares_borrow hids he (hne h) purpose
  | turn c =>
    simp only [step]
    split
    · rename_i hf
      exact spares_turn hids ((mem_of_find? hf).2 ▸ hne h)
    · exact spares_silent .nil
  | created c result =>
    simp only [step]
    split
    · rename_i hf
      exact spares_created hids ((mem_of_find? hf).2 ▸ hne h) result
    · exact spares_silent .nil
  | worked c result =>
    simp only [step]
    split
    · rename_i purpose item hf
      have hback : Spares b p (p.giveBack isValid c item) := spares_giveBack hids (hne h)
      have hdone : Spares b (p.giveBack isValid c item).1 ((p.giveBack isValid c item).1, [.finish c result]) :=
        ⟨.same rfl, by simpa [Action.told?] using (hne h).symm⟩
      exact (hback.trans (spares_silent (silent_errandReport purpose result))).trans hdone
    · exact spares_silent .nil
  | giveBack c =>
    simp only [step]
    split
    · exact spares_giveBack hids (hne h)
    · exact spares_silent .nil
  | abandon c =>
    simp only [step]
    split
    · rename_i hf
      exact spares_abandon hids ((mem_of_find? hf).2 ▸ hne h)
    · exact spares_silent .nil
  | close call => exact spares_close call
  | itemClosed closer result =>
    simp only [step]
    split
    · refine (spares_silent (silent_closeReport result)).trans ?_
      cases closer with
      | nobody => exact spares_silent .nil
      | caller =>
        simp only [afterClose]
        split
        · exact spares_closeNext _ _
        · exact spares_silent .nil
      | borrower c =>
        simp only [afterClose]
        split
        · rename_i hf
          exact spares_refuse hids ((mem_of_find? hf).2 ▸ hne h) _
        · exact spares_silent .nil
    · exact spares_silent .nil
  | abandonClose call =>
    simp only [step]
    split
    · split <;> exact ⟨.same rfl, by simp⟩
    · exact spares_silent .nil

end Others

/-! ## The errand itself -/

/-- Why an errand gets no item, and the errors that are reported about it first. -/
inductive Refused (p : Pool ι) (b : BorrowId) : Phase ι → Event ι → Error → List LogEntry → Prop
  /-- It could not be made. -/
  | unmade (error : Error) : Refused p b .creating (.created b (.error error)) error []
  /-- It was made for a closed pool, and was closed or could not be. -/
  | discarded (hc : p.isClosed = true) (item : ι) (closing : Outcome) :
      Refused p b (.discarding item) (.itemClosed (.borrower b) closing) closedError
        (errors (closeReport closing : List (Action ι)))
  /-- The pool was closed before. -/
  | shut (hc : p.isClosed = true) {phase : Phase ι} (hp : phase.hasItem = false) (e : Event ι) :
      Refused p b phase e closedError []

/-- What happens to an errand in a phase when an event is about it. -/
inductive Fares (p : Pool ι) (isValid : ι → Bool) (b : BorrowId) (background : Bool) (phase : Phase ι) (e : Event ι) :
    Effect ι → Prop
  /-- It goes on as it is or without an item. One that was made for a closed pool is being closed. -/
  | goesOn {q : Pool ι} {as : List (Action ι)} {next : Phase ι}
      (hq : q.find? b = some ⟨b, .errand background, next⟩) (hlent : next.lent? = phase.lent?)
      (hdiscarding : ∀ item, next = .discarding item →
        phase = .discarding item ∨ p.isClosed = true ∧ .closeItem (.borrower b) item ∈ as)
      (hsilent : Silent as) (herrors : errors as = []) : Fares p isValid b background phase e (q, as)
  /-- It is lent an item. -/
  | lent {q : Pool ι} {item : ι} (hnone : phase.lent? = none)
      (hq : q.find? b = some ⟨b, .errand background, .lent item⟩) :
      Fares p isValid b background phase e (q, [.work b item])
  /-- Its work ended. The item is idle again if it is valid, or it is to be closed. -/
  | worked {q : Pool ι} {as : List (Action ι)} {item : ι} {result : Outcome} (hp : phase = .lent item)
      (he : e = .worked b result) (hq : q.find? b = none)
      (hidle : q.idle = if p.isClosed = false ∧ isValid item = true then item :: p.idle else p.idle)
      (hclose : p.isClosed = true → .closeItem .nobody item ∈ as) (hsilent : Silent as) (herrors : errors as = []) :
      Fares p isValid b background phase e (q, as ++ errandReport (.errand background) result ++ [.finish b result])
  /-- It gets no item. -/
  | refused {q : Pool ι} (as : List (Action ι)) {error : Error} (hq : q.find? b = none) (hidle : q.idle = p.idle)
      (hwhy : Refused p b phase e error (errors as)) (hsilent : Silent as) :
      Fares p isValid b background phase e
        (q, as ++ errandReport (.errand background) (.error error) ++ [.refuse b error])
  /-- It goes away. -/
  | leaves {q : Pool ι} {as : List (Action ι)} (hq : q.find? b = none) (hsilent : Silent as) (herrors : errors as = []) :
      Fares p isValid b background phase e (q, as)

section Errand

variable {p : Pool ι} {b : BorrowId} {background : Bool} {phase : Phase ι} {e : Event ι} {isValid : ι → Bool}

theorem find?_returnPermit_drop (hids : (p.borrows.map (·.id)).Nodup) (b : BorrowId) :
    (p.drop b).returnPermit.1.find? b = none :=
  (steady_returnPermit (nodup_drop hids) b).none (by rw [find?_drop, if_pos rfl])

theorem find?_giveBack (hids : (p.borrows.map (·.id)).Nodup) (b : BorrowId) (item : ι) :
    (p.giveBack isValid b item).1.find? b = none := by
  have hborrows := borrows_putBack (p.drop b) isValid item
  have hback : ((p.drop b).putBack isValid item).1.find? b = none := by
    rw [find?, hborrows, ← find?, find?_drop, if_pos rfl]
  have hreturn := steady_returnPermit (hborrows.symm ▸ nodup_drop hids) b
  exact hreturn.none hback

theorem fares_refuse (hids : (p.borrows.map (·.id)).Nodup) {error : Error} (reports : List (Action ι))
    (hwhy : Refused p b phase e error (errors reports)) (hsilent : Silent reports) :
    Fares p isValid b background phase e
      ((p.refuse ⟨b, .errand background, phase⟩ error).1,
        reports ++ (p.refuse ⟨b, .errand background, phase⟩ error).2) := by
  have hreported : errors (reports ++ (p.drop b).returnPermit.2) = errors reports := by
    rw [errors_append, errors_returnPermit, List.append_nil]
  have hrefused : Fares p isValid b background phase e _ :=
    .refused _ (find?_returnPermit_drop hids b) (idle_returnPermit _) (hreported ▸ hwhy)
      (hsilent.append (silent_returnPermit _))
  simpa [refuse, refusal] using hrefused

/-- An errand with a permit is served by a pool that differs only in its permits and borrowers. -/
theorem fares_serve {q : Pool ι} (hids : (q.borrows.map (·.id)).Nodup) (hidle : q.idle = p.idle)
    (hclosed : q.isClosed = p.isClosed) (hf : q.find? b = some ⟨b, .errand background, .granted⟩)
    (hp : phase.hasItem = false) :
    Fares p isValid b background phase e (q.serve isValid ⟨b, .errand background, .granted⟩) := by
  have hnone : phase.lent? = none := by cases phase <;> first | rfl | cases hp
  have hmoved (next : Phase ι) (idle : List ι) :
      ({ q with idle }.moveTo b next).find? b = some ⟨b, .errand background, next⟩ := by
    rw [find?_moveTo, if_pos rfl]
    exact congrArg (Option.map _) hf
  unfold serve
  split
  · rename_i hc
    have hshut : Refused p b phase e closedError (errors (q.drop b).returnPermit.2) := by
      rw [errors_returnPermit]
      exact .shut (hclosed ▸ hc) hp e
    have hrefused : Fares p isValid b background phase e _ :=
      .refused _ (find?_returnPermit_drop hids b) ((idle_returnPermit _).trans hidle) hshut (silent_returnPermit _)
    simpa [refuse, refusal] using hrefused
  · split
    · exact .lent hnone (hmoved _ _)
    · exact .goesOn (hmoved .creating []) hnone.symm (fun _ h => by cases h) (by simp [Silent, Action.told?]) rfl

theorem fares_borrow (hids : (p.borrows.map (·.id)).Nodup) (hb : ∀ y ∈ p.borrows, y.id ≠ b) :
    Fares p isValid b background .waiting e (p.borrow isValid b (.errand background)) := by
  have hnone : p.find? b = none := by
    rw [find?, List.find?_eq_none]
    intro y hy
    simpa using hb y hy
  have henter (phase : Phase ι) (free : Nat) :
      ({ p with free, borrows := p.borrows ++ [⟨b, .errand background, phase⟩] } : Pool ι).find? b =
        some ⟨b, .errand background, phase⟩ := by
    simp only [find?] at hnone ⊢
    rw [List.find?_append, hnone, Option.none_or, List.find?_cons_of_pos (by simp)]
  unfold borrow
  split
  · rename_i hc
    exact .refused [] hnone rfl (.shut hc rfl e) .nil
  · split
    · exact .goesOn (henter .waiting p.free) rfl (fun _ h => by cases h) .nil rfl
    · exact fares_serve (Keyed.nodup_concat hids hb) rfl rfl (henter .granted (p.free - 1)) rfl

theorem fares_turn (hids : (p.borrows.map (·.id)).Nodup) (hf : p.find? b = some ⟨b, .errand background, phase⟩) :
    Fares p isValid b background phase e (p.turn isValid ⟨b, .errand background, phase⟩) := by
  have hstays : Fares p isValid b background phase e (p, []) := .goesOn hf rfl (fun _ h => .inl h) .nil rfl
  unfold turn
  cases phase with
  | granted => exact fares_serve hids rfl rfl hf rfl
  | waiting =>
    simp only
    split
    · rename_i hc
      exact .refused [] (by rw [find?_drop, if_pos rfl]) rfl (.shut hc rfl e) .nil
    · exact hstays
  | creating | discarding | lent => exact hstays

theorem fares_created (hids : (p.borrows.map (·.id)).Nodup) (hf : p.find? b = some ⟨b, .errand background, .creating⟩)
    (result : Except Error ι) :
    Fares p isValid b background .creating (.created b result) (p.created ⟨b, .errand background, .creating⟩ result) := by
  have hmoved (next : Phase ι) : (p.moveTo b next).find? b = some ⟨b, .errand background, next⟩ := by
    rw [find?_moveTo, if_pos rfl, hf]
    rfl
  cases result with
  | error error => exact fares_refuse hids [] (.unmade error) .nil
  | ok item =>
    simp only [created]
    split
    · rename_i hc
      refine .goesOn (hmoved (.discarding item)) rfl ?_ (by simp [Silent, Action.told?]) rfl
      rintro _ ⟨⟩
      exact .inr ⟨hc, List.mem_singleton_self _⟩
    · exact .lent rfl (hmoved (.lent item))

theorem fares_abandon (hids : (p.borrows.map (·.id)).Nodup) (hf : p.find? b = some ⟨b, .errand background, phase⟩) :
    Fares p isValid b background phase e (p.abandon isValid ⟨b, .errand background, phase⟩) := by
  have hreturn : Fares p isValid b background phase e (p.drop b).returnPermit :=
    .leaves (find?_returnPermit_drop hids b) (silent_returnPermit _) (errors_returnPermit _)
  unfold abandon
  split
  · exact .goesOn hf rfl (fun _ h => .inl h) .nil rfl
  · cases phase with
    | waiting => exact .leaves (by rw [find?_drop, if_pos rfl]) .nil rfl
    | granted | creating | discarding => exact hreturn
    | lent item =>
      exact .leaves (find?_giveBack hids b item) (silent_giveBack p isValid b item) (errors_giveBack p isValid b item)

/-- **What an event does to the errand that it is about.** -/
theorem fares_step (hids : (p.borrows.map (·.id)).Nodup) (hf : p.find? b = some ⟨b, .errand background, phase⟩)
    (hdiscarding : ∀ item, phase = .discarding item → p.isClosed = true) (he : e.borrower? = some b)
    (hnew : e.newcomer? ≠ some b) : Fares p isValid b background phase e (p.step isValid e) := by
  have hstays : Fares p isValid b background phase e (p, []) := .goesOn hf rfl (fun _ h => .inl h) .nil rfl
  cases e with
  | borrow c purpose => exact absurd he hnew
  | turn c =>
    obtain rfl := Option.some.inj he
    simp only [step, hf]
    exact fares_turn hids hf
  | created c result =>
    obtain rfl := Option.some.inj he
    simp only [step, hf]
    cases phase with
    | creating => exact fares_created hids hf result
    | waiting | granted | discarding | lent => exact hstays
  | worked c result =>
    obtain rfl := Option.some.inj he
    simp only [step, hf]
    cases phase with
    | lent item =>
      exact .worked rfl rfl (find?_giveBack hids c item) (idle_giveBack p isValid c item)
        (fun hc => closeItem_mem_giveBack hc isValid c item) (silent_giveBack p isValid c item)
        (errors_giveBack p isValid c item)
    | waiting | granted | creating | discarding => exact hstays
  | giveBack c =>
    obtain rfl := Option.some.inj he
    simp only [step, hf]
    cases phase with
    | lent item =>
      exact .leaves (find?_giveBack hids c item) (silent_giveBack p isValid c item) (errors_giveBack p isValid c item)
    | waiting | granted | creating | discarding => exact hstays
  | abandon c =>
    obtain rfl := Option.some.inj he
    simp only [step, hf]
    exact fares_abandon hids hf
  | close call => cases he
  | itemClosed closer result =>
    cases closer with
    | nobody => cases he
    | caller => cases he
    | borrower c =>
      obtain rfl := Option.some.inj he
      simp only [step, awaitsClose, afterClose, hf]
      cases phase with
      | discarding item =>
        exact fares_refuse hids _ (.discarded (hdiscarding item rfl) item result) (silent_closeReport result)
      | waiting | granted | creating | lent => exact hstays
  | abandonClose call => cases he

/-- An errand that has an item is told when its work ended. -/
theorem finish_mem_step {item : ι} (hf : p.phase? b = some (.lent item)) (result : Outcome) :
    .finish b result ∈ (p.step isValid (.worked b result)).2 := by
  obtain ⟨⟨id, purpose, phase⟩, hx, rfl⟩ := Option.map_eq_some_iff.1 hf
  simp [step, hx]

/-- An event about a borrower that is not there does nothing. -/
theorem step_of_find?_none (hf : p.find? b = none) (he : e.borrower? = some b) (hnew : e.newcomer? ≠ some b) :
    p.step isValid e = (p, []) := by
  cases e with
  | borrow c purpose => exact absurd he hnew
  | turn c | created c | worked c | giveBack c | abandon c =>
    obtain rfl := Option.some.inj he
    simp only [step, hf]
  | itemClosed closer result =>
    cases closer with
    | borrower c =>
      obtain rfl := Option.some.inj he
      simp [step, awaitsClose, hf]
    | nobody | caller => cases he
  | close call => cases he
  | abandonClose call => cases he

end Errand

end BrokerClient.Pool
