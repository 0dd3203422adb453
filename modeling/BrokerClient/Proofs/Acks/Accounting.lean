import BrokerClient.Proofs.Acks.Schedule
import BrokerClient.Proofs.List.Keyed

/-!
# Registrations are accounted for

A handle is registered from when it is made until it is dropped unsettled or the call that settles it has ended. On
the way its registration goes from the handle to the call. The counter is kept apart from both; every step changes it
by just as many registrations as come and go (`Accounted.step`), so that it never falls short of them.
-/

namespace BrokerClient.Acks

open Keyed

variable {κ : Type}

/-! ## Registrations -/

/-- The handles of these that are still to be settled. -/
def unsettled (handles : List Handle) : List HandleId := (handles.filter (·.pending)).map (·.id)

theorem unsettled_cons (x : Handle) (handles : List Handle) :
    unsettled (x :: handles) = (if x.pending then [x.id] else []) ++ unsettled handles := by
  unfold unsettled
  cases hp : x.pending <;> simp [hp]

theorem perm_unsettled {handles handles' : List Handle} (h : handles.Perm handles') :
    (unsettled handles).Perm (unsettled handles') := (h.filter _).map _

/-- The handles whose registration lasts: they are still to be settled, or the call that settles them is in flight. -/
def registered (s : Acks κ) : List HandleId := unsettled s.handles ++ s.inFlight.map (·.handle)

theorem length_registered (s : Acks κ) :
    s.registered.length = s.handles.countP (·.pending) + s.inFlight.length := by
  simp [registered, unsettled, List.countP_eq_length_filter]

/-- The counter is the number of registrations; handles have different names, which are not those to come, and at least
one clone; callers have one call each. -/
structure Accounted (s : Acks κ) : Prop where
  counted : s.outstanding = s.registered.length
  ids : (s.handles.map (·.id)).Nodup
  live : ∀ x ∈ s.handles, x.id < s.next ∧ 0 < x.clones
  callers : (s.inFlight.map (·.caller)).Nodup

/-- On the way from one state to another some registrations went and some came, and the counter changed by just as
many. -/
structure Moves (s s' : Acks κ) (gone new : List HandleId) : Prop where
  accounted : Accounted s'
  moved : (gone ++ s'.registered).Perm (s.registered ++ new)
  counted : s'.outstanding + gone.length = s.outstanding + new.length

namespace Moves

variable {s s' s'' : Acks κ} {gone gone' new : List HandleId}

theorem refl (h : Accounted s) : Moves s s [] [] := ⟨h, by simp, rfl⟩

/-- The counter is right again when it changed by the registrations that went and came. -/
theorem intro (h : Accounted s) (ids : (s'.handles.map (·.id)).Nodup)
    (live : ∀ x ∈ s'.handles, x.id < s'.next ∧ 0 < x.clones) (callers : (s'.inFlight.map (·.caller)).Nodup)
    (moved : (gone ++ s'.registered).Perm (s.registered ++ new))
    (counted : s'.outstanding + gone.length = s.outstanding + new.length) : Moves s s' gone new := by
  have hlen := moved.length_eq
  have hs := h.counted
  simp only [List.length_append] at hlen
  exact ⟨⟨by omega, ids, live, callers⟩, moved, counted⟩

theorem trans (h : Moves s s' gone new) (h' : Moves s' s'' gone' []) : Moves s s'' (gone ++ gone') new := by
  refine ⟨h'.accounted, ?_, ?_⟩
  · have hmoved := h'.moved.append_left gone
    rw [List.append_nil] at hmoved
    rw [List.append_assoc]
    exact hmoved.trans h.moved
  · have := h.counted
    have := h'.counted
    simp only [List.length_append, List.length_nil] at *
    omega

end Moves

/-- A handle that is settled by a call, which keeps a clone of it. -/
def Handle.taken (x : Handle) : Handle := { x with pending := false, clones := x.clones + 1 }

/-- The registration that comes with an event. -/
def new (s : Acks κ) : Event κ → List HandleId
  | .register _ _ => [s.next]
  | _ => []

/-- The registrations but for those of one handle. -/
def apart (s : Acks κ) (h : HandleId) : List HandleId :=
  unsettled (others (·.id) h s.handles) ++ s.inFlight.map (·.handle)

theorem mem_of_find? {s : Acks κ} {h : HandleId} {x : Handle} (hf : s.find? h = some x) : x ∈ s.handles ∧ x.id = h :=
  ⟨List.mem_of_find?_eq_some hf, by simpa using List.find?_some hf⟩

namespace Accounted

variable {s : Acks κ} {x : Handle}

/-- The registrations with that of one handle, if it has one, at the head. -/
theorem headed (h : Accounted s) (hx : x ∈ s.handles) :
    s.registered.Perm ((if x.pending then [x.id] else []) ++ s.apart x.id) := by
  have hperm := perm_unsettled (perm_cons_others h.ids hx)
  rw [unsettled_cons] at hperm
  rw [apart, ← List.append_assoc]
  exact hperm.append_right _

/-- Changing a handle, but for its name, changes at most its own registration. -/
theorem modified (h : Accounted s) (hx : x ∈ s.handles) {f : Handle → Handle} (hid : (f x).id = x.id)
    (hclones : 0 < (f x).clones) :
    (s.modify x.id f).registered.Perm ((if (f x).pending then [x.id] else []) ++ s.apart x.id) ∧
      ((s.modify x.id f).handles.map (·.id)).Nodup ∧
      ∀ y ∈ (s.modify x.id f).handles, y.id < s.next ∧ 0 < y.clones := by
  have hperm : (s.modify x.id f).handles.Perm (f x :: others (·.id) x.id s.handles) := map_perm_cons_others h.ids hx f
  refine ⟨?_, ?_, ?_⟩
  · have hunsettled := perm_unsettled hperm
    rw [unsettled_cons, hid] at hunsettled
    rw [apart, ← List.append_assoc]
    exact hunsettled.append_right _
  · rw [(hperm.map _).nodup_iff, List.map_cons, hid, ← List.map_cons,
      ← ((perm_cons_others h.ids hx).map _).nodup_iff]
    exact h.ids
  · intro y hy
    rcases List.mem_cons.1 (hperm.mem_iff.1 hy) with rfl | hy
    · rw [hid]
      exact ⟨(h.live x hx).1, hclones⟩
    · exact h.live y (List.mem_filter.1 hy).1

theorem register (h : Accounted s) (channel : ChannelId) (tag : Nat) :
    Moves s (s.register channel tag).1 [] [s.next] := by
  refine .intro h ?_ ?_ h.callers ?_ rfl
  · exact nodup_concat h.ids fun y hy => Nat.ne_of_lt (h.live y hy).1
  · intro y hy
    rcases List.mem_append.1 hy with hy | hy
    · exact ⟨Nat.lt_succ_of_lt (h.live y hy).1, (h.live y hy).2⟩
    · rw [List.mem_singleton.1 hy]
      exact ⟨Nat.lt_succ_self _, Nat.one_pos⟩
  · have hregistered : (s.register channel tag).1.registered =
        unsettled s.handles ++ ([s.next] ++ s.inFlight.map (·.handle)) := by
      simp [registered, unsettled, Acks.register]
    rw [hregistered, registered, List.nil_append, List.append_assoc]
    exact List.perm_append_comm.append_left _

theorem clone (h : Accounted s) (k : HandleId) :
    Moves s (s.modify k fun x => { x with clones := x.clones + 1 }) [] [] := by
  by_cases hk : ∃ x ∈ s.handles, x.id = k
  · obtain ⟨x, hx, rfl⟩ := hk
    obtain ⟨hperm, hids, hlive⟩ :=
      h.modified hx (f := fun x => { x with clones := x.clones + 1 }) rfl (Nat.succ_pos _)
    refine .intro h hids hlive h.callers ?_ rfl
    rw [List.append_nil]
    exact hperm.trans (h.headed hx).symm
  · have hmap : s.handles.map (fun x => if x.id = k then { x with clones := x.clones + 1 } else x) = s.handles := by
      refine (List.map_congr_left ?_).trans (List.map_id _)
      intro x hx
      exact if_neg fun he => hk ⟨x, hx, he⟩
    have hsame : s.modify k (fun x => { x with clones := x.clones + 1 }) = s := by simp only [modify, hmap]
    rw [hsame]
    exact .refl h

/-- A handle that is dropped for good takes its registration with it. -/
theorem drop (h : Accounted s) (k : HandleId) : ∃ gone, Moves s (s.drop k).1 gone [] := by
  unfold Acks.drop
  split
  · exact ⟨[], .refl h⟩
  · rename_i x hf
    obtain ⟨hx, rfl⟩ := mem_of_find? hf
    have hhead := h.headed hx
    split
    · rename_i hclones
      obtain ⟨hperm, hids, hlive⟩ :=
        h.modified hx (f := fun x => { x with clones := x.clones - 1 }) rfl (Nat.sub_pos_of_lt hclones)
      refine ⟨[], .intro h hids hlive h.callers ?_ rfl⟩
      rw [List.append_nil]
      exact hperm.trans hhead.symm
    · have hids : ((others (·.id) x.id s.handles).map (·.id)).Nodup := h.ids.sublist (List.filter_sublist.map _)
      have hlive : ∀ y ∈ others (·.id) x.id s.handles, y.id < s.next ∧ 0 < y.clones :=
        fun y hy => h.live y (List.mem_filter.1 hy).1
      split
      · rename_i hp
        rw [if_pos hp] at hhead
        refine ⟨[x.id], .intro h hids hlive h.callers ?_ ?_⟩
        · rw [List.append_nil]
          exact hhead.symm
        · -- the registration that goes is one of those counted
          have hlen := hhead.length_eq
          rw [← h.counted, List.singleton_append, List.length_cons] at hlen
          show s.outstanding - 1 + 1 = s.outstanding
          omega
      · rename_i hp
        rw [if_neg hp] at hhead
        refine ⟨[], .intro h hids hlive h.callers ?_ rfl⟩
        rw [List.append_nil]
        exact hhead.symm

theorem waiting (h : Accounted s) (waiting : List κ) : Moves s { s with waiting } [] [] := by
  refine .intro h h.ids h.live h.callers ?_ rfl
  rw [List.append_nil]
  exact .refl _

/-- A registration goes from a handle to the call that settles it. -/
theorem settle (h : Accounted s) {caller : κ} (hc : ∀ c ∈ s.inFlight, c.caller ≠ caller) (v : Verdict)
    (a : Acknowledger) : Moves s (s.settle caller v a).1 [] [] := by
  cases a with
  | auto => exact .refl h
  | manual k =>
    simp only [Acks.settle]
    split
    · exact .refl h
    · rename_i x hf
      obtain ⟨hx, rfl⟩ := mem_of_find? hf
      split
      · rename_i hp
        obtain ⟨hperm, hids, hlive⟩ := h.modified hx (f := Handle.taken) rfl (Nat.succ_pos _)
        refine .intro h hids hlive (nodup_concat h.callers hc) ?_ rfl
        have hhead := h.headed hx
        rw [if_pos hp] at hhead
        have hregistered : registered { s.modify x.id Handle.taken with inFlight := s.inFlight ++ [⟨caller, x.id⟩] } =
            (s.modify x.id Handle.taken).registered ++ [x.id] := by
          simp [registered, modify]
        rw [List.append_nil]
        show (registered { s.modify x.id Handle.taken with inFlight := s.inFlight ++ [⟨caller, x.id⟩] }).Perm _
        rw [hregistered]
        exact ((hperm.append_right [x.id]).trans (List.perm_append_singleton _ _)).trans hhead.symm
      · exact .refl h

section Calls

variable [DecidableEq κ]

theorem mem_of_settlement? {caller : κ} {c : Settlement κ} (hf : s.settlement? caller = some c) :
    c ∈ s.inFlight ∧ c.caller = caller :=
  ⟨List.mem_of_find?_eq_some hf, by simpa using List.find?_some hf⟩

/-- A call that ends takes the registration with it that it has from its handle. -/
theorem conclude (h : Accounted s) {c : Settlement κ} (hc : c ∈ s.inFlight) :
    ∃ gone, Moves s (s.conclude c).1 gone [] := by
  have hperm : s.inFlight.Perm (c :: others (·.caller) c.caller s.inFlight) := perm_cons_others h.callers hc
  have hends : Moves s ({ s with inFlight := others (·.caller) c.caller s.inFlight }.release).1 [c.handle] [] := by
    have hmoved : s.registered.Perm
        (c.handle :: (unsettled s.handles ++ (others (·.caller) c.caller s.inFlight).map (·.handle))) :=
      ((hperm.map _).append_left _).trans List.perm_middle
    refine .intro h h.ids h.live (h.callers.sublist (List.filter_sublist.map _)) ?_ ?_
    · rw [List.append_nil]
      exact hmoved.symm
    · have hlen := hmoved.length_eq
      rw [← h.counted, List.length_cons] at hlen
      show s.outstanding - 1 + 1 = s.outstanding
      omega
  obtain ⟨gone, hdrop⟩ := hends.accounted.drop c.handle
  exact ⟨_, hends.trans hdrop⟩

theorem look (h : Accounted s) (caller : κ) : Moves s (s.look caller).1 [] [] := by
  unfold Acks.look
  split
  · exact h.waiting _
  · exact .refl h

/-- Every step moves registrations. -/
theorem step (h : Accounted s) {e : Event κ} (he : s.Admits e) : ∃ gone, Moves s (s.step e).1 gone (s.new e) := by
  cases e with
  | register channel tag => exact ⟨[], h.register channel tag⟩
  | clone k => exact ⟨[], h.clone k⟩
  | drop k => exact h.drop k
  | settle caller a v => exact ⟨[], h.settle he v a⟩
  | answered caller result =>
    simp only [Acks.step]
    split
    · exact ⟨[], .refl h⟩
    · rename_i c hc
      exact h.conclude (mem_of_settlement? hc).1
  | await caller =>
    exact ⟨[], (h.waiting _).trans ((h.waiting _).accounted.look caller)⟩
  | look caller => exact ⟨[], h.look caller⟩
  | abandon caller =>
    have hwaiting := h.waiting (s.waiting.filter (· != caller))
    simp only [Acks.step]
    split
    · exact ⟨[], hwaiting⟩
    · rename_i c hc
      obtain ⟨gone, hconclude⟩ := hwaiting.accounted.conclude (mem_of_settlement? hc).1
      exact ⟨_, hwaiting.trans hconclude⟩

end Calls

end Accounted
end BrokerClient.Acks
