import Mathlib.Data.List.TakeWhile
import BrokerClient.Proofs.List.Keyed
import BrokerClient.Proofs.Pool.Schedule

/-!
# Permits and items are accounted for

The permit, the item and the list of idle items live in three places and change at different points of a
borrow. A `Ledger` relates them: the free permits, those that borrowers have, and the spare ones that are
just changing hands are as many as the capacity; the idle items and those that borrowers have or wait for
are never more; and no item is in two of these places. What an operation does to one borrower is an entry
in the ledger, whatever the order of the others; every step keeps it (`Accounted.step`), which gives
`accounting` for every schedule.
-/

namespace BrokerClient.Pool

variable {ι : Type}

/-! ## Counting -/

/-- Whether a borrower in this phase has a permit. -/
def Phase.hasPermit : Phase ι → Bool
  | .waiting => false
  | .granted | .creating | .discarding _ | .lent _ => true

/-- Whether a borrower in this phase has an item or has one made. -/
def Phase.hasItem : Phase ι → Bool
  | .waiting | .granted => false
  | .creating | .discarding _ | .lent _ => true

/-- The accounts of a pool in which `spare` permits are neither free nor with a borrower. -/
structure Ledger (capacity free spare : Nat) (idle : List ι) (borrows : List (Borrow ι)) : Prop where
  ids : (borrows.map (·.id)).Nodup
  permits : free + spare + borrows.countP (·.phase.hasPermit) = capacity
  bound : idle.length + borrows.countP (·.phase.hasItem) ≤ capacity
  items : (idle ++ borrows.filterMap (·.phase.item?)).Nodup

/-- The accounts of a pool of a capacity. -/
def Accounted (capacity : Nat) (p : Pool ι) (spare : Nat) : Prop := Ledger capacity p.free spare p.idle p.borrows

theorem accounted_ofCapacity (capacity : Nat) :
    Accounted (ofCapacity capacity : Pool ι).capacity (ofCapacity capacity : Pool ι) 0 :=
  ⟨.nil, by simp [ofCapacity], by simp [ofCapacity], by simp [ofCapacity]⟩

/-- Whoever has an item has a permit. -/
theorem countP_hasItem_le (bs : List (Borrow ι)) :
    bs.countP (·.phase.hasItem) ≤ bs.countP (·.phase.hasPermit) := by
  apply List.countP_mono_left
  intro x _ hx
  cases hp : x.phase <;> simp_all [Phase.hasItem, Phase.hasPermit]

/-! ## Entries -/

namespace Ledger

variable {capacity free spare : Nat} {idle : List ι} {bs bs' : List (Borrow ι)} {x : Borrow ι}

theorem perm (h : Ledger capacity free spare idle bs) (hp : bs.Perm bs') : Ledger capacity free spare idle bs' where
  ids := (hp.map _).nodup_iff.1 h.ids
  permits := by rw [← hp.countP_eq]; exact h.permits
  bound := by rw [← hp.countP_eq]; exact h.bound
  items := ((hp.filterMap _).append_left idle).nodup_iff.1 h.items

/-- Idle items are forgotten. -/
theorem forget (h : Ledger capacity free spare idle bs) {idle' : List ι} (hs : idle'.Sublist idle) :
    Ledger capacity free spare idle' bs where
  ids := h.ids
  permits := h.permits
  bound := by have := h.bound; have := hs.length_le; omega
  items := h.items.sublist (hs.append_right _)

/-- A spare permit becomes free. -/
theorem release (h : Ledger capacity free (spare + 1) idle bs) : Ledger capacity (free + 1) spare idle bs where
  ids := h.ids
  permits := by have := h.permits; omega
  bound := h.bound
  items := h.items

/-- A borrower enters, for now without a permit. -/
theorem enter (h : Ledger capacity free spare idle bs) {b : BorrowId} (hb : ∀ y ∈ bs, y.id ≠ b) (purpose : Purpose) :
    Ledger capacity free spare idle (⟨b, purpose, .waiting⟩ :: bs) where
  ids := by
    rw [List.map_cons, List.nodup_cons]
    refine ⟨?_, h.ids⟩
    rintro hm
    obtain ⟨y, hy, he⟩ := List.mem_map.1 hm
    exact hb y hy he
  permits := by rw [List.countP_cons]; exact h.permits
  bound := by rw [List.countP_cons]; exact h.bound
  items := h.items

/-- A borrower that waits is given a spare permit. -/
theorem grant (h : Ledger capacity free (spare + 1) idle (x :: bs)) (hx : x.phase = .waiting) :
    Ledger capacity free spare idle ({ x with phase := .granted } :: bs) where
  ids := h.ids
  permits := by
    have := h.permits
    rw [List.countP_cons_of_neg (by simp [hx, Phase.hasPermit])] at this
    rw [List.countP_cons_of_pos rfl]
    omega
  bound := by
    have := h.bound
    rw [List.countP_cons_of_neg (by simp [hx, Phase.hasItem])] at this
    rwa [List.countP_cons_of_neg (by simp [Phase.hasItem])]
  items := by
    have := h.items
    rw [List.filterMap_cons_none (by simp [hx, Phase.item?])] at this
    rwa [List.filterMap_cons_none rfl]

/-- A borrower leaves, and its permit is spare. -/
theorem leave (h : Ledger capacity free spare idle (x :: bs)) (hx : x.phase.hasPermit = true) :
    Ledger capacity free (spare + 1) idle bs where
  ids := (List.nodup_cons.1 h.ids).2
  permits := by
    have := h.permits
    rw [List.countP_cons_of_pos (by simpa using hx)] at this
    omega
  bound := by have := h.bound; rw [List.countP_cons] at this; omega
  items := h.items.sublist ((List.Sublist.filterMap _ (List.sublist_cons_self x bs)).append_left idle)

/-- A borrower without a permit leaves. -/
theorem giveUp (h : Ledger capacity free spare idle (x :: bs)) (hx : x.phase = .waiting) :
    Ledger capacity free spare idle bs where
  ids := (List.nodup_cons.1 h.ids).2
  permits := by
    have := h.permits
    rwa [List.countP_cons_of_neg (by simp [hx, Phase.hasPermit])] at this
  bound := by have := h.bound; rw [List.countP_cons] at this; omega
  items := h.items.sublist ((List.Sublist.filterMap _ (List.sublist_cons_self x bs)).append_left idle)

/-- A borrower leaves its item behind. -/
theorem leaveIdle (h : Ledger capacity free spare idle (x :: bs)) {item : ι} (hx : x.phase = .lent item) :
    Ledger capacity free (spare + 1) (item :: idle) bs where
  ids := (List.nodup_cons.1 h.ids).2
  permits := (h.leave (by rw [hx]; rfl)).permits
  bound := by
    have := h.bound
    rw [List.countP_cons_of_pos (by simp [hx, Phase.hasItem])] at this
    rw [List.length_cons]
    omega
  items := by
    have := h.items
    rw [List.filterMap_cons_some (b := item) (by simp [hx, Phase.item?])] at this
    exact List.perm_middle.nodup_iff.1 this

/-- An idle item goes to a borrower that has a permit. -/
theorem lendIdle {item : ι} (h : Ledger capacity free spare (item :: idle) (x :: bs)) (hx : x.phase = .granted) :
    Ledger capacity free spare idle ({ x with phase := .lent item } :: bs) where
  ids := h.ids
  permits := by
    have := h.permits
    rw [List.countP_cons_of_pos (by simp [hx, Phase.hasPermit])] at this
    rwa [List.countP_cons_of_pos rfl]
  bound := by
    have := h.bound
    rw [List.countP_cons_of_neg (by simp [hx, Phase.hasItem]), List.length_cons] at this
    rw [List.countP_cons_of_pos rfl]
    omega
  items := by
    have := h.items
    rw [List.filterMap_cons_none (by simp [hx, Phase.item?])] at this
    rw [List.filterMap_cons_some (b := item) (by simp [Phase.item?])]
    exact List.perm_middle.nodup_iff.2 this

/-- No item is idle, and one is to be made for a borrower that has a permit. Since whoever has an item has a
permit, there is room for it. -/
theorem make (h : Ledger capacity free spare [] (x :: bs)) (hx : x.phase = .granted) :
    Ledger capacity free spare [] ({ x with phase := .creating } :: bs) where
  ids := h.ids
  permits := by
    have := h.permits
    rw [List.countP_cons_of_pos (by simp [hx, Phase.hasPermit])] at this
    rwa [List.countP_cons_of_pos rfl]
  bound := by
    have hp := h.permits
    have hle := countP_hasItem_le bs
    rw [List.countP_cons_of_pos (by simp [hx, Phase.hasPermit])] at hp
    rw [List.countP_cons_of_pos rfl, List.length_nil]
    omega
  items := by
    have := h.items
    rw [List.filterMap_cons_none (by simp [hx, Phase.item?])] at this
    rwa [List.filterMap_cons_none rfl]

/-- The item that was made for a borrower is there. -/
theorem made (h : Ledger capacity free spare idle (x :: bs)) (hx : x.phase = .creating) {item : ι}
    (hi : item ∉ idle ++ (x :: bs).filterMap (·.phase.item?)) {phase : Phase ι}
    (hp : phase = .lent item ∨ phase = .discarding item) :
    Ledger capacity free spare idle ({ x with phase } :: bs) where
  ids := h.ids
  permits := by
    have := h.permits
    rw [List.countP_cons_of_pos (by simp [hx, Phase.hasPermit])] at this
    rwa [List.countP_cons_of_pos (by rcases hp with rfl | rfl <;> rfl)]
  bound := by
    have := h.bound
    rw [List.countP_cons_of_pos (by simp [hx, Phase.hasItem])] at this
    rwa [List.countP_cons_of_pos (by rcases hp with rfl | rfl <;> rfl)]
  items := by
    have hn := h.items
    rw [List.filterMap_cons_none (by simp [hx, Phase.item?])] at hn hi
    rw [List.filterMap_cons_some (b := item) (by rcases hp with rfl | rfl <;> rfl)]
    exact List.perm_middle.nodup_iff.2 (List.nodup_cons.2 ⟨hi, hn⟩)

end Ledger

/-! ## One borrower among the others -/

/-- Since names are unique, an operation on one borrower leaves the others as they are. -/
theorem perm_of_mem {p : Pool ι} (hids : (p.borrows.map (·.id)).Nodup) {x : Borrow ι} (hx : x ∈ p.borrows) :
    p.borrows.Perm (x :: (p.drop x.id).borrows) ∧
      ∀ phase, (p.moveTo x.id phase).borrows.Perm ({ x with phase } :: (p.drop x.id).borrows) := by
  refine ⟨Keyed.perm_cons_others hids hx, ?_⟩
  intro phase
  exact Keyed.map_perm_cons_others hids hx fun y => { y with phase }

theorem mem_of_find? {p : Pool ι} {b : BorrowId} {x : Borrow ι} (hf : p.find? b = some x) :
    x ∈ p.borrows ∧ x.id = b :=
  ⟨List.mem_of_find?_eq_some hf, by simpa using List.find?_some hf⟩

/-! ## Operations -/

namespace Accounted

variable {capacity : Nat} {p : Pool ι} {x : Borrow ι} {item : ι}

/-- The accounts with one borrower at the head. -/
theorem headed {spare : Nat} (h : Accounted capacity p spare) (hx : x ∈ p.borrows) :
    Ledger capacity p.free spare p.idle (x :: (p.drop x.id).borrows) :=
  Ledger.perm h (perm_of_mem h.ids hx).1

/-- A borrower is moved as its entry says. -/
theorem moved {spare : Nat} (h : Accounted capacity p spare) (hx : x ∈ p.borrows) {phase : Phase ι} {q : Pool ι} {spare' : Nat}
    (hq : q.borrows = (p.moveTo x.id phase).borrows)
    (hl : Ledger capacity q.free spare' q.idle ({ x with phase } :: (p.drop x.id).borrows)) :
    Accounted capacity q spare' := by
  rw [Accounted, hq]
  exact hl.perm ((perm_of_mem h.ids hx).2 phase).symm

theorem returnPermit (h : Accounted capacity p 1) : Accounted capacity p.returnPermit.1 0 := by
  unfold Pool.returnPermit
  split
  · rename_i b _ hf
    have hb : b ∈ p.borrows := List.mem_of_find?_eq_some hf
    have hw : b.phase = .waiting := by
      have := List.find?_some hf
      cases hp : b.phase <;> simp_all [Phase.isWaiting]
    exact h.moved hb rfl ((h.headed hb).grant hw)
  · exact h.release

/-- The item comes back, or does not, and the permit is passed on. -/
theorem giveBack (h : Accounted capacity p 0) (hx : x ∈ p.borrows) (hl : x.phase = .lent item) (isValid : ι → Bool) :
    Accounted capacity (p.giveBack isValid x.id item).1 0 := by
  have hleave : Accounted capacity (p.drop x.id) 1 := (h.headed hx).leave (by rw [hl]; rfl)
  suffices Accounted capacity ((p.drop x.id).putBack isValid item).1 1 from this.returnPermit
  unfold putBack
  split
  · exact hleave
  · split
    · exact (h.headed hx).leaveIdle hl
    · exact hleave

theorem refuse (h : Accounted capacity p 0) (hx : x ∈ p.borrows) (hp : x.phase.hasPermit = true) (e : Error) :
    Accounted capacity (p.refuse x e).1 0 := by
  have hleave : Accounted capacity (p.drop x.id) 1 := (h.headed hx).leave hp
  exact hleave.returnPermit

theorem serve (h : Accounted capacity p 0) (hx : x ∈ p.borrows) (hg : x.phase = .granted) (isValid : ι → Bool) :
    Accounted capacity (p.serve isValid x).1 0 := by
  unfold Pool.serve
  split
  · exact h.refuse hx (by rw [hg]; rfl) _
  · have hsub : (p.idle.dropWhile (!isValid ·)).Sublist p.idle := List.dropWhile_sublist _
    split
    · rename_i item rest hd
      exact h.moved hx rfl (((h.headed hx).forget (hd ▸ hsub)).lendIdle hg)
    · exact h.moved hx rfl (((h.headed hx).forget (List.nil_sublist _)).make hg)

theorem borrow (h : Accounted capacity p 0) {b : BorrowId} (hb : ∀ y ∈ p.borrows, y.id ≠ b) (isValid : ι → Bool)
    (purpose : Purpose) : Accounted capacity (p.borrow isValid b purpose).1 0 := by
  have henter := Ledger.enter h hb purpose
  unfold Pool.borrow
  split
  · exact h
  · split
    · exact henter.perm (List.perm_append_singleton _ _).symm
    · rename_i hfree
      -- the permit is taken before the borrower is served
      have hspare : Ledger capacity (p.free - 1) 1 p.idle (⟨b, purpose, .waiting⟩ :: p.borrows) :=
        { henter with permits := by have := henter.permits; omega }
      refine serve ?_ (by simp) rfl isValid
      exact (hspare.grant rfl).perm (List.perm_append_singleton _ _).symm

theorem turn (h : Accounted capacity p 0) (hx : x ∈ p.borrows) (isValid : ι → Bool) : Accounted capacity (p.turn isValid x).1 0 := by
  unfold Pool.turn
  split
  · rename_i hg; exact h.serve hx hg isValid
  · rename_i hw
    split
    · exact (h.headed hx).giveUp hw
    · exact h
  · exact h

theorem created (h : Accounted capacity p 0) (hx : x ∈ p.borrows) (hc : x.phase = .creating) (result : Except Error ι)
    (hi : ∀ item, result = .ok item → item ∉ p.idle ++ p.held) : Accounted capacity (p.created x result).1 0 := by
  cases result with
  | error e => exact h.refuse hx (by rw [hc]; rfl) e
  | ok item =>
    have hnew : item ∉ p.idle ++ (x :: (p.drop x.id).borrows).filterMap (·.phase.item?) := by
      rw [List.mem_append, ← ((perm_of_mem h.ids hx).1.filterMap _).mem_iff, ← List.mem_append]
      exact hi item rfl
    simp only [Pool.created]
    split
    · exact h.moved hx rfl ((h.headed hx).made hc hnew (.inr rfl))
    · exact h.moved hx rfl ((h.headed hx).made hc hnew (.inl rfl))

theorem abandon (h : Accounted capacity p 0) (hx : x ∈ p.borrows) (isValid : ι → Bool) :
    Accounted capacity (p.abandon isValid x).1 0 := by
  have hreturn (hp : x.phase.hasPermit = true) : Accounted capacity (p.drop x.id).returnPermit.1 0 :=
    returnPermit ((h.headed hx).leave hp)
  unfold Pool.abandon
  split
  · exact h
  · split
    · rename_i hw; exact (h.headed hx).giveUp hw
    · rename_i hg; exact hreturn (by rw [hg]; rfl)
    · rename_i hg; exact hreturn (by rw [hg]; rfl)
    · rename_i hg; exact hreturn (by rw [hg]; rfl)
    · rename_i hl; exact h.giveBack hx hl isValid

theorem closeNext (h : Accounted capacity p 0) (call : Nat) (items : List ι) : Accounted capacity (p.closeNext call items).1 0 := by
  cases items with
  | nil => exact h
  | cons item rest => exact h

theorem close (h : Accounted capacity p 0) (call : Nat) : Accounted capacity (p.close call).1 0 := by
  unfold Pool.close
  split
  · exact h
  · have hempty : Accounted capacity { p with isClosed := true, idle := [] } 0 := h.forget (List.nil_sublist _)
    exact hempty.closeNext call _

theorem afterClose (h : Accounted capacity p 0) {closer : Closer} (hc : p.awaitsClose closer = true) :
    Accounted capacity (p.afterClose closer).1 0 := by
  cases closer with
  | nobody => exact h
  | caller =>
    simp only [Pool.afterClose]
    split
    · exact h.closeNext _ _
    · exact h
  | borrower b =>
    simp only [Pool.afterClose]
    split
    · rename_i x hf
      refine h.refuse (mem_of_find? hf).1 ?_ _
      obtain ⟨id, purpose, phase⟩ := x
      cases phase <;> simp_all [awaitsClose, Phase.hasPermit]
    · exact h

theorem step (h : Accounted capacity p 0) (isValid : ι → Bool) {e : Event ι} (he : p.Admits e) :
    Accounted capacity (p.step isValid e).1 0 := by
  cases e with
  | borrow b purpose => exact h.borrow he isValid purpose
  | turn b =>
    simp only [Pool.step]
    split
    · rename_i hf; exact h.turn (mem_of_find? hf).1 isValid
    · exact h
  | created b result =>
    simp only [Pool.step]
    split
    · rename_i id purpose hf
      refine h.created (mem_of_find? hf).1 rfl result ?_
      rintro item rfl
      exact he
    · exact h
  | worked b result =>
    simp only [Pool.step]
    split
    · rename_i hf
      obtain ⟨hm, rfl⟩ := mem_of_find? hf
      exact h.giveBack hm rfl isValid
    · exact h
  | giveBack b =>
    simp only [Pool.step]
    split
    · rename_i hf
      obtain ⟨hm, rfl⟩ := mem_of_find? hf
      exact h.giveBack hm rfl isValid
    · exact h
  | abandon b =>
    simp only [Pool.step]
    split
    · rename_i hf; exact h.abandon (mem_of_find? hf).1 isValid
    · exact h
  | close call => exact h.close call
  | itemClosed closer result =>
    simp only [Pool.step]
    split
    · rename_i hc; exact h.afterClose hc
    · exact h
  | abandonClose call =>
    simp only [Pool.step]
    split
    · split <;> exact h
    · exact h

theorem run (h : Accounted capacity p 0) {ms : List (Moment ι)} (hs : p.Schedule ms) : Accounted capacity (p.run ms).1 0 :=
  run_induction (P := fun p => Accounted capacity p 0) (fun _ isValid _ h he => h.step isValid he) p h ms hs

end Accounted

/-! ## When items are made -/

theorem create_notMem_returnPermit (p : Pool ι) (b : BorrowId) : .create b ∉ p.returnPermit.2 := by
  unfold returnPermit
  split <;> simp

theorem create_notMem_errandReport (purpose : Purpose) (result : Outcome) (b : BorrowId) :
    (.create b : Action ι) ∉ errandReport purpose result := by
  cases result with
  | ok _ => exact List.not_mem_nil
  | error e =>
    unfold errandReport
    split <;> simp

theorem create_notMem_refusal (x : Borrow ι) (e : Error) (b : BorrowId) : .create b ∉ refusal x e := by
  simp only [refusal, List.mem_append, not_or]
  exact ⟨create_notMem_errandReport _ _ b, by simp⟩

theorem create_notMem_refuse (p : Pool ι) (x : Borrow ι) (e : Error) (b : BorrowId) :
    .create b ∉ (p.refuse x e).2 := by
  simp only [refuse, List.mem_append, not_or]
  exact ⟨create_notMem_returnPermit _ b, create_notMem_refusal x e b⟩

theorem create_notMem_lend (p : Pool ι) (x : Borrow ι) (item : ι) (b : BorrowId) : .create b ∉ (p.lend x item).2 := by
  simp only [lend]
  split <;> simp

theorem create_notMem_giveBack (p : Pool ι) (isValid : ι → Bool) (c b : BorrowId) (item : ι) :
    .create b ∉ (p.giveBack isValid c item).2 := by
  simp only [giveBack, List.mem_append, not_or]
  refine ⟨?_, create_notMem_returnPermit _ b⟩
  unfold putBack
  split
  · simp
  · split <;> simp

theorem create_notMem_closeNext (p : Pool ι) (call : Nat) (items : List ι) (b : BorrowId) :
    .create b ∉ (p.closeNext call items).2 := by
  cases items <;> simp [closeNext]

theorem create_notMem_created (p : Pool ι) (x : Borrow ι) (result : Except Error ι) (b : BorrowId) :
    .create b ∉ (p.created x result).2 := by
  cases result with
  | error e => exact create_notMem_refuse p x e b
  | ok item =>
    simp only [created]
    split
    · simp
    · exact create_notMem_lend p x item b

theorem create_notMem_abandon (p : Pool ι) (isValid : ι → Bool) (x : Borrow ι) (b : BorrowId) :
    .create b ∉ (p.abandon isValid x).2 := by
  unfold abandon
  split
  · exact List.not_mem_nil
  · split
    · exact List.not_mem_nil
    · exact create_notMem_returnPermit _ b
    · exact create_notMem_returnPermit _ b
    · exact create_notMem_returnPermit _ b
    · exact create_notMem_giveBack p isValid x.id b _

theorem create_notMem_close (p : Pool ι) (call : Nat) (b : BorrowId) : .create b ∉ (p.close call).2 := by
  simp only [close]
  split
  · simp
  · simp only [List.mem_append, List.mem_map, not_or]
    refine ⟨?_, create_notMem_closeNext _ call _ b⟩
    rintro ⟨y, -, hy⟩
    cases hy

theorem create_notMem_afterClose (p : Pool ι) (closer : Closer) (b : BorrowId) :
    .create b ∉ (p.afterClose closer).2 := by
  cases closer with
  | nobody => exact List.not_mem_nil
  | caller =>
    simp only [afterClose]
    split
    · exact create_notMem_closeNext p _ _ b
    · exact List.not_mem_nil
  | borrower c =>
    simp only [afterClose]
    split
    · exact create_notMem_refuse p _ _ b
    · exact List.not_mem_nil

section Invalid

variable {p : Pool ι} {isValid : ι → Bool} {b : BorrowId}

/-- An item is made only after every idle one was found invalid. -/
theorem invalid_of_create_mem_serve {x : Borrow ι} (h : .create b ∈ (p.serve isValid x).2) :
    ∀ item ∈ p.idle, isValid item = false := by
  unfold serve at h
  split at h
  · exact absurd h (create_notMem_refuse p x _ b)
  · split at h
    · exact absurd h (create_notMem_lend _ x _ b)
    · rename_i hd
      intro item hi
      simpa using List.dropWhile_eq_nil_iff.1 hd item hi

theorem invalid_of_create_mem_borrow {c : BorrowId} {purpose : Purpose}
    (h : .create b ∈ (p.borrow isValid c purpose).2) : ∀ item ∈ p.idle, isValid item = false := by
  simp only [borrow] at h
  split at h
  · exact absurd h (create_notMem_refusal _ _ b)
  · split at h
    · cases h
    · have hserved := invalid_of_create_mem_serve h
      exact hserved

theorem invalid_of_create_mem_turn {x : Borrow ι} (h : .create b ∈ (p.turn isValid x).2) :
    ∀ item ∈ p.idle, isValid item = false := by
  unfold turn at h
  split at h
  · exact invalid_of_create_mem_serve h
  · split at h
    · exact absurd h (create_notMem_refusal _ _ b)
    · cases h
  · cases h

/-- Of all events, only a borrower that is served has an item made. -/
theorem invalid_of_create_mem_step {e : Event ι} (h : .create b ∈ (p.step isValid e).2) :
    ∀ item ∈ p.idle, isValid item = false := by
  cases e with
  | borrow c purpose => exact invalid_of_create_mem_borrow h
  | turn c =>
    simp only [step] at h
    split at h
    · exact invalid_of_create_mem_turn h
    · cases h
  | created c result =>
    simp only [step] at h
    split at h
    · exact absurd h (create_notMem_created p _ result b)
    · cases h
  | worked c result =>
    simp only [step] at h
    split at h
    · rcases List.mem_append.1 h with h | h
      · rcases List.mem_append.1 h with h | h
        · exact absurd h (create_notMem_giveBack p isValid c b _)
        · exact absurd h (create_notMem_errandReport _ result b)
      · simp at h
    · cases h
  | giveBack c =>
    simp only [step] at h
    split at h
    · exact absurd h (create_notMem_giveBack p isValid c b _)
    · cases h
  | abandon c =>
    simp only [step] at h
    split at h
    · exact absurd h (create_notMem_abandon p isValid _ b)
    · cases h
  | close call => exact absurd h (create_notMem_close p call b)
  | itemClosed closer result =>
    simp only [step] at h
    split at h
    · rcases List.mem_append.1 h with h | h
      · cases result <;> simp [closeReport] at h
      · exact absurd h (create_notMem_afterClose p closer b)
    · cases h
  | abandonClose call =>
    simp only [step] at h
    split at h
    · split at h <;> cases h
    · cases h

end Invalid

/-! ## The accounts of every schedule -/

def Phase.lent? : Phase ι → Option ι
  | .lent item => some item
  | _ => none

/-- The items that are lent. -/
def lentItems (p : Pool ι) : List ι := p.borrows.filterMap (·.phase.lent?)

/-- How many items are being made. -/
def underCreation (p : Pool ι) : Nat := p.borrows.countP fun x => x.phase matches .creating

/-- How many borrowers were given a permit and have neither an item to use nor been refused one. -/
def unfinished (p : Pool ι) : Nat :=
  p.borrows.countP fun x => x.phase matches .granted | .creating | .discarding _

theorem unfinished_add_lentItems (p : Pool ι) :
    p.unfinished + p.lentItems.length = p.borrows.countP (·.phase.hasPermit) := by
  simp only [unfinished, lentItems]
  induction p.borrows with
  | nil => rfl
  | cons x bs ih =>
    obtain ⟨id, purpose, phase⟩ := x
    cases phase <;> simp [Phase.lent?, Phase.hasPermit] at ih ⊢ <;> omega

theorem lentItems_add_underCreation_le (p : Pool ι) :
    p.lentItems.length + p.underCreation ≤ p.borrows.countP (·.phase.hasItem) := by
  simp only [underCreation, lentItems]
  induction p.borrows with
  | nil => exact Nat.le_refl 0
  | cons x bs ih =>
    obtain ⟨id, purpose, phase⟩ := x
    cases phase <;> simp [Phase.lent?, Phase.hasItem] at ih ⊢ <;> omega

theorem lentItems_sublist (p : Pool ι) : p.lentItems.Sublist p.held := by
  simp only [lentItems, held]
  induction p.borrows with
  | nil => exact .slnil
  | cons x bs ih =>
    obtain ⟨id, purpose, phase⟩ := x
    cases phase with
    | lent item => exact ih.cons_cons item
    | discarding item => exact ih.cons item
    | waiting | granted | creating => exact ih

/-- **Permits and items are accounted for.** After every schedule the free permits, the borrowers that were
given one and have not finished, and the lent items are as many as the capacity; the items that are lent,
idle or being made are never more than that, nor than the channels that a connection allows; no item is in
two places; and from there no step has an item made while a valid one is idle. -/
theorem accounting :
    (∀ (capacity : Nat) (ms : List (Moment ι)), (ofCapacity capacity).Schedule ms →
      let p := ((ofCapacity capacity).run ms).1
      p.free + p.unfinished + p.lentItems.length = (ofCapacity capacity : Pool ι).capacity ∧
      p.lentItems.length + p.idle.length + p.underCreation ≤ (ofCapacity capacity : Pool ι).capacity ∧
      (p.idle ++ p.lentItems).Nodup ∧
      ∀ isValid e b, .create b ∈ (p.step isValid e).2 → ∀ item ∈ p.idle, isValid item = false) ∧
    ∀ (channelMax capacity : Nat) (ms : List (Moment ChannelId)), channelMax ≠ 0 →
      (forConnection channelMax capacity).Schedule ms →
      let p := ((forConnection channelMax capacity).run ms).1
      p.lentItems.length + p.idle.length + p.underCreation ≤ channelMax := by
  have hbound {κ : Type} (capacity : Nat) (ms : List (Moment κ)) (hs : (ofCapacity capacity).Schedule ms) :
      let p := ((ofCapacity capacity).run ms).1
      p.lentItems.length + p.idle.length + p.underCreation ≤ (ofCapacity capacity : Pool κ).capacity := by
    intro p
    have h : Accounted _ p 0 := (accounted_ofCapacity capacity).run hs
    have := h.bound
    have := p.lentItems_add_underCreation_le
    omega
  refine ⟨fun capacity ms hs => ?_, fun channelMax capacity ms hmax hs => ?_⟩
  · have h : Accounted _ ((ofCapacity capacity).run ms).1 0 := (accounted_ofCapacity capacity).run hs
    refine ⟨?_, hbound capacity ms hs, ?_, fun _ _ _ => invalid_of_create_mem_step⟩
    · have := h.permits
      have := unfinished_add_lentItems ((ofCapacity capacity).run ms).1
      omega
    · exact h.items.sublist ((lentItems_sublist _).append_left _)
  · refine (hbound (channelCapacity channelMax capacity) ms hs).trans ?_
    simp only [ofCapacity, channelCapacity, if_neg hmax]
    omega

/-- One channel goes from a borrower to the next, who waited for it while a third went away; then it is invalid
and another one is being made. -/
def handOver : List (Moment ChannelId) := [
  ⟨fun _ => true, .borrow 0 .keep⟩, ⟨fun _ => true, .created 0 (.ok 7)⟩, ⟨fun _ => true, .borrow 1 .keep⟩,
  ⟨fun _ => true, .borrow 2 (.errand false)⟩, ⟨fun _ => true, .abandon 1⟩, ⟨fun _ => true, .giveBack 0⟩,
  ⟨fun _ => false, .turn 2⟩]

theorem accounting_handOver :
    ((forConnection 1 3).Schedule handOver ∧ ((forConnection 1 3).run handOver).1.underCreation = 1) ∧
      ((forConnection 1 3).run handOver).1.lentItems.length + ((forConnection 1 3).run handOver).1.idle.length +
          ((forConnection 1 3).run handOver).1.underCreation ≤ 1 ∧
      (((forConnection 1 3).run handOver).1.idle ++ ((forConnection 1 3).run handOver).1.lentItems).Nodup :=
  have hs : (forConnection 1 3).Schedule handOver := by decide
  have h := @accounting ChannelId
  ⟨⟨hs, by decide⟩, h.2 1 3 handOver (by decide) hs, (h.1 1 handOver hs).2.2.1⟩

end BrokerClient.Pool
