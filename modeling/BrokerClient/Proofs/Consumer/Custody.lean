import BrokerClient.Proofs.Consumer.Clones
import Mathlib.Data.List.Pairwise

/-!
# What becomes of a delivery

A task finds its handle as long as it lasts, so that the fate of the handle is the fate of its delivery: nothing was
done about it, or one call was made that settles it (`Fate`). `Filed` says so of all deliveries, and `Kept` collects
what every turn keeps.
-/

namespace BrokerClient.Consumer

variable {κ α : Type}

/-! ## Fates -/

/-- The delivery that a call settles. -/
def settled? : ChannelCall → Option Nat
  | .ack tag | .reject tag _ => some tag
  | _ => none

theorem settled?_call (v : Verdict) (tag : Nat) : settled? (v.call tag) = some tag := by cases v <;> rfl

/-- The calls that settle a delivery, each with the party that made it. -/
def settlings (D : Consignment) (called : List (Party κ × ChannelId × ChannelCall)) : List (Party κ × ChannelCall) :=
  called.filterMap fun (p, channel, call) =>
    if channel = D.channel ∧ settled? call = some D.delivery.tag then some (p, call) else none

theorem settlings_concat (D : Consignment) (called : List (Party κ × ChannelId × ChannelCall)) (p : Party κ)
    (channel : ChannelId) (v : Verdict) (tag : Nat) : settlings D (called ++ [(p, channel, v.call tag)]) =
      settlings D called ++ if channel = D.channel ∧ tag = D.delivery.tag then [(p, v.call tag)] else [] := by
  rw [settlings, List.filterMap_append, ← settlings]
  by_cases h : channel = D.channel ∧ tag = D.delivery.tag <;> simp [List.filterMap, settled?_call, h]

/-- What became of a delivery: nothing was done about it, or one call was made that settles it. -/
def Fate (s : Acks (Party κ)) (D : Consignment) (l : List (Party κ × ChannelCall)) : Prop :=
  match D.ack with
  | .auto => l = []
  | .manual h => (s.Unsettled h D.channel D.delivery.tag ∨ s.Gone h) ∧ l = [] ∨
    s.Settled h ∧ ∃ (p : Party κ) (v : Verdict), l = [(p, v.call D.delivery.tag)]

theorem Fate.length_le {s : Acks (Party κ)} {D : Consignment} {l : List (Party κ × ChannelCall)} (hf : Fate s D l) :
    l.length ≤ 1 := by
  unfold Fate at hf
  split at hf
  · simp [hf]
  · rcases hf with ⟨-, rfl⟩ | ⟨-, p, v, rfl⟩ <;> simp

/-- Different deliveries have different tags or came on different channels, and have different handles. -/
structure Distinct (D D' : Consignment) : Prop where
  key : (D.channel, D.delivery.tag) ≠ (D'.channel, D'.delivery.tag)
  ack : ∀ h, D.ack = .manual h → D'.ack ≠ .manual h

instance : Std.Symm Distinct := ⟨fun _ _ h => ⟨h.key.symm, fun k hk hk' => h.ack k hk' hk⟩⟩

/-- The handles are those of deliveries, and what became of each delivery is known. -/
structure Filed (s : Acks (Party κ)) (delivered : List Consignment)
    (called : List (Party κ × ChannelId × ChannelCall)) : Prop where
  accounted : s.Accounted
  distinct : delivered.Pairwise Distinct
  numbered : ∀ D ∈ delivered, ∀ h, D.ack = .manual h → h < s.next
  known : ∀ h y, s.find? h = some y →
    ∃ D ∈ delivered, D.ack = .manual h ∧ D.channel = y.channel ∧ D.delivery.tag = y.tag
  meant : ∀ x ∈ called, ∃ D ∈ delivered, x.2.1 = D.channel ∧ settled? x.2.2 = some D.delivery.tag
  fates : ∀ D ∈ delivered, Fate s D (settlings D called)

section

variable {s s' : Acks (Party κ)} {delivered : List Consignment} {called : List (Party κ × ChannelId × ChannelCall)}

theorem Fate.keeps {D : Consignment} {l : List (Party κ × ChannelCall)} (hf : Fate s D l)
    (hkeeps : ∀ h, D.ack = .manual h → Acks.Keeps s s' h) : Fate s' D l := by
  unfold Fate at hf ⊢
  split
  · simpa [*] using hf
  · rename_i h hack
    simp only [hack] at hf
    have hk := hkeeps h hack
    rcases hf with ⟨⟨hlt, y, hy, hp, hchannel, htag⟩ | hgone, rfl⟩ | ⟨hsettled, hl⟩
    · refine .inl ⟨?_, rfl⟩
      cases hy' : s'.find? h with
      | none => exact .inr ⟨Nat.lt_of_lt_of_le hlt hk.next_le, hy'⟩
      | some y' =>
        obtain ⟨z, hz, heq⟩ := hk.find y' hy'
        obtain rfl : y = z := Option.some.inj (hy.symm.trans hz)
        refine .inl ⟨Nat.lt_of_lt_of_le hlt hk.next_le, y', hy', ?_⟩
        rw [heq]
        exact ⟨hp, hchannel, htag⟩
    · exact .inl ⟨.inr (hk.gone hgone.known hgone.gone), rfl⟩
    · refine .inr ⟨⟨Nat.lt_of_lt_of_le hsettled.known hk.next_le, fun y' hy' => ?_⟩, hl⟩
      obtain ⟨y, hy, heq⟩ := hk.find y' hy'
      rw [heq]
      exact hsettled.settled y hy

namespace Filed

/-- A change of the clones. -/
theorem keeps (hf : Filed s delivered called) (haccounted : s'.Accounted) (hkeeps : ∀ h, Acks.Keeps s s' h) :
    Filed s' delivered called where
  accounted := haccounted
  distinct := hf.distinct
  numbered D hD h hack := Nat.lt_of_lt_of_le (hf.numbered D hD h hack) (hkeeps h).next_le
  known h y' hy' := by
    obtain ⟨y, hy, heq⟩ := (hkeeps h).find y' hy'
    rw [heq]
    exact hf.known h y hy
  meant := hf.meant
  fates D hD := (hf.fates D hD).keeps fun h _ => hkeeps h

theorem drop (hf : Filed s delivered called) (k : HandleId) : Filed (s.drop k).1 delivered called := by
  obtain ⟨_, hmoves⟩ := hf.accounted.drop k
  exact hf.keeps hmoves.accounted fun _ => .drop _ k

theorem eq_of_ack (hf : Filed s delivered called) {D D' : Consignment} (hD : D ∈ delivered) (hD' : D' ∈ delivered)
    {h : HandleId} (hack : D.ack = .manual h) (hack' : D'.ack = .manual h) : D = D' := by
  by_contra hne
  exact (hf.distinct.forall hD hD' hne).ack h hack hack'

/-- A handle is for the delivery that it came with. -/
theorem key_of_find? (hf : Filed s delivered called) {D : Consignment} (hD : D ∈ delivered) {h : HandleId}
    (hack : D.ack = .manual h) {y : Acks.Handle} (hy : s.find? h = some y) :
    D.channel = y.channel ∧ D.delivery.tag = y.tag := by
  obtain ⟨D', hD', hack', hkey⟩ := hf.known h y hy
  obtain rfl := hf.eq_of_ack hD hD' hack hack'
  exact hkey

theorem distinct_of_ne (hf : Filed s delivered called) {i j : Nat} {D E : Consignment} (hD : delivered[i]? = some D)
    (hE : delivered[j]? = some E) (hne : i ≠ j) : Distinct D E := by
  obtain ⟨hi, rfl⟩ := List.getElem?_eq_some_iff.mp hD
  obtain ⟨hj, rfl⟩ := List.getElem?_eq_some_iff.mp hE
  rcases Nat.lt_or_gt_of_ne hne with hlt | hlt
  · exact List.pairwise_iff_getElem.mp hf.distinct i j hi hj hlt
  · exact Std.Symm.symm _ _ (List.pairwise_iff_getElem.mp hf.distinct j i hj hi hlt)

theorem eq_of_key (hf : Filed s delivered called) {D D' : Consignment} (hD : D ∈ delivered) (hD' : D' ∈ delivered)
    (hkey : D.channel = D'.channel ∧ D.delivery.tag = D'.delivery.tag) : D = D' := by
  by_contra hne
  exact (hf.distinct.forall hD hD' hne).key (Prod.ext hkey.1 hkey.2)

/-- As long as a handle is to be settled, nothing has settled its delivery. -/
theorem settlings_of_pending (hf : Filed s delivered called) {D : Consignment} (hD : D ∈ delivered) {h : HandleId}
    (hack : D.ack = .manual h) {y : Acks.Handle} (hy : s.find? h = some y) (hp : y.pending = true) :
    settlings D called = [] := by
  have hfate := hf.fates D hD
  simp only [Fate, hack] at hfate
  rcases hfate with ⟨-, hnil⟩ | ⟨hsettled, -⟩
  · exact hnil
  · rw [hsettled.settled y hy] at hp
    cases hp

/-- A call is made that settles a handle that was to be settled. -/
theorem settle [DecidableEq κ] (hf : Filed s delivered called) {k : HandleId} {y : Acks.Handle}
    (hy : s.find? k = some y) (hp : y.pending = true) {p : Party κ}
    (hfree : ∀ c ∈ s.inFlight, c.caller ≠ p) (v : Verdict) :
    Filed (s.settle p v (.manual k)).1 delivered (called ++ [(p, y.channel, v.call y.tag)]) := by
  obtain ⟨D₀, hD₀, hack₀, hchannel₀, htag₀⟩ := hf.known k y hy
  have hnext : (s.settle p v (.manual k)).1.next = s.next := by
    simp only [Acks.settle, hy, if_pos hp, Acks.modify]
  have hfind (h : HandleId) : (s.settle p v (.manual k)).1.find? h =
      (s.find? h).map fun x => if h = k then x.taken else x := by
    simp only [Acks.settle, hy, if_pos hp]
    exact Acks.find?_modify s k h (f := Acks.Handle.taken) fun _ => rfl
  refine ⟨(hf.accounted.settle hfree v (.manual k)).accounted, hf.distinct, ?_, ?_, ?_, ?_⟩
  · rw [hnext]
    exact hf.numbered
  · intro h y' hy'
    rw [hfind] at hy'
    obtain ⟨z, hz, rfl⟩ := Option.map_eq_some_iff.mp hy'
    obtain ⟨D, hD, hack, hchannel, htag⟩ := hf.known h z hz
    refine ⟨D, hD, hack, ?_⟩
    split <;> exact ⟨hchannel, htag⟩
  · intro x hx
    rcases List.mem_append.mp hx with hx | hx
    · exact hf.meant x hx
    · rw [List.mem_singleton.mp hx]
      exact ⟨D₀, hD₀, hchannel₀.symm, by rw [settled?_call, htag₀]⟩
  · intro D hD
    rw [settlings_concat]
    by_cases hsame : y.channel = D.channel ∧ y.tag = D.delivery.tag
    · -- it is the delivery that the handle is for
      obtain rfl : D = D₀ := hf.eq_of_key hD hD₀ ⟨hsame.1.symm.trans hchannel₀.symm, hsame.2.symm.trans htag₀.symm⟩
      rw [if_pos hsame, hf.settlings_of_pending hD hack₀ hy hp, ← htag₀]
      simp only [Fate, hack₀]
      refine .inr ⟨⟨hnext ▸ hf.numbered D hD k hack₀, fun y' hy' => ?_⟩, p, v, rfl⟩
      rw [hfind, hy] at hy'
      rw [← Option.some.inj hy']
      simp [Acks.Handle.taken]
    · rw [if_neg hsame, List.append_nil]
      refine (hf.fates D hD).keeps fun h hack => ⟨Nat.le_of_eq hnext.symm, fun y' hy' => ?_⟩
      rw [hfind] at hy'
      obtain ⟨z, hz, rfl⟩ := Option.map_eq_some_iff.mp hy'
      refine ⟨z, hz, ?_⟩
      have hne : h ≠ k := by
        rintro rfl
        obtain rfl := hf.eq_of_ack hD hD₀ hack hack₀
        exact hsame ⟨hchannel₀.symm, htag₀.symm⟩
      rw [if_neg hne]

/-- Nothing has settled a delivery that is still to come. -/
theorem settlings_eq_nil (hf : Filed s delivered called) {D : Consignment}
    (hnew : ∀ D' ∈ delivered, (D'.channel, D'.delivery.tag) ≠ (D.channel, D.delivery.tag)) :
    settlings D called = [] := by
  refine List.filterMap_eq_nil_iff.mpr ?_
  rintro ⟨p, channel, call⟩ hx
  obtain ⟨D', hD', hchannel, htag⟩ := hf.meant _ hx
  refine if_neg ?_
  rintro ⟨rfl, hcall⟩
  exact hnew D' hD' (Prod.ext hchannel.symm (Option.some.inj (htag.symm.trans hcall)))

/-- A delivery comes, perhaps with a handle of its own. -/
theorem concat (hf : Filed s delivered called) {D : Consignment} (haccounted : s'.Accounted)
    (hnew : ∀ D' ∈ delivered, (D'.channel, D'.delivery.tag) ≠ (D.channel, D.delivery.tag))
    (hack : ∀ h, D.ack = .manual h → s.next ≤ h ∧ h < s'.next) (hkeeps : ∀ h < s.next, Acks.Keeps s s' h)
    (hnext : s.next ≤ s'.next)
    (hfind : ∀ h y, s'.find? h = some y →
      s.find? h = some y ∨ D.ack = .manual h ∧ D.channel = y.channel ∧ D.delivery.tag = y.tag)
    (hfate : Fate s' D []) : Filed s' (delivered ++ [D]) called where
  accounted := haccounted
  distinct := by
    refine List.pairwise_append.mpr ⟨hf.distinct, List.pairwise_singleton .., fun D' hD' E hE => ?_⟩
    obtain rfl := List.mem_singleton.mp hE
    exact ⟨hnew D' hD', fun h hack' hackE => Nat.not_lt.mpr (hack h hackE).1 (hf.numbered D' hD' h hack')⟩
  numbered := by
    intro E hE h hackE
    rcases List.mem_append.mp hE with hE | hE
    · exact Nat.lt_of_lt_of_le (hf.numbered E hE h hackE) hnext
    · obtain rfl := List.mem_singleton.mp hE
      exact (hack h hackE).2
  known := by
    intro h y hy
    rcases hfind h y hy with hy | ⟨hackD, hkey⟩
    · obtain ⟨E, hE, h⟩ := hf.known h y hy
      exact ⟨E, List.mem_append_left _ hE, h⟩
    · exact ⟨D, List.mem_append_right _ (List.mem_singleton_self D), hackD, hkey⟩
  meant := by
    intro x hx
    obtain ⟨E, hE, h⟩ := hf.meant x hx
    exact ⟨E, List.mem_append_left _ hE, h⟩
  fates := by
    intro E hE
    rcases List.mem_append.mp hE with hE | hE
    · exact (hf.fates E hE).keeps fun h hackE => hkeeps h (hf.numbered E hE h hackE)
    · obtain rfl := List.mem_singleton.mp hE
      rw [hf.settlings_eq_nil hnew]
      exact hfate

theorem auto (hf : Filed s delivered called) {D : Consignment} (hack : D.ack = .auto)
    (hnew : ∀ D' ∈ delivered, (D'.channel, D'.delivery.tag) ≠ (D.channel, D.delivery.tag)) :
    Filed s (delivered ++ [D]) called := by
  refine hf.concat hf.accounted hnew (by simp [hack]) (fun h _ => .of_handles rfl (Nat.le_refl _)) (Nat.le_refl _)
    (fun h y hy => .inl hy) ?_
  rw [Fate, hack]

theorem manual [DecidableEq κ] (hf : Filed s delivered called) {D : Consignment} (hack : D.ack = .manual s.next)
    (hnew : ∀ D' ∈ delivered, (D'.channel, D'.delivery.tag) ≠ (D.channel, D.delivery.tag)) :
    Filed (s.register D.channel D.delivery.tag).1 (delivered ++ [D]) called := by
  have haccounted := hf.accounted.register D.channel D.delivery.tag
  refine hf.concat haccounted.accounted hnew ?_ (fun h hlt => .register hlt _ _) (Nat.le_succ _) ?_ ?_
  · rw [hack]
    rintro h ⟨⟩
    exact ⟨Nat.le_refl _, Nat.lt_succ_self _⟩
  · intro h y hy
    rw [Acks.find?_register hf.accounted] at hy
    split at hy
    · cases hy
      rename_i hh
      exact .inr ⟨by rw [hack, hh], rfl, rfl⟩
    · exact .inl hy
  · simp only [Fate, hack]
    exact .inl ⟨.inl (Acks.unsettled_register hf.accounted _ _), trivial⟩

end Filed
end

/-! ## What every turn keeps -/

/-- The task on a delivery. -/
def Consignment.task (D : Consignment) (id : TaskId) (phase : Phase) : Task := ⟨id, D.delivery, D.fresh, D.ack, phase⟩

/-- The tasks are those on deliveries, and whoever has a rejection in flight is a task that rejects. -/
structure Staffed (c : Consumer κ) (delivered : List Consignment) : Prop where
  ids : (c.tasks.map (·.id)).Nodup
  next : c.next = delivered.length
  named : ∀ t ∈ c.tasks, ∃ D, delivered[t.id]? = some D ∧ t = D.task t.id t.phase
  flights : ∀ s ∈ c.acks.inFlight, ∀ id, s.caller = .task id →
    ∃ t cause, c.find? id = some t ∧ t.phase = .rejecting cause

namespace Staffed

variable {c c' : Consumer κ} {delivered : List Consignment}

theorem mem_of_find? {id : TaskId} {t : Task} (h : c.find? id = some t) : t ∈ c.tasks := List.mem_of_find?_eq_some h

theorem id_lt (hc : Staffed c delivered) {t : Task} (ht : t ∈ c.tasks) : t.id < delivered.length := by
  obtain ⟨D, hD, -⟩ := hc.named t ht
  exact (List.getElem?_eq_some_iff.mp hD).1

theorem find?_eq_none (hc : Staffed c delivered) {id : TaskId} (hid : delivered[id]? = none) : c.find? id = none := by
  cases found : c.find? id with
  | none => rfl
  | some t =>
    obtain ⟨D, hD, -⟩ := hc.named t (mem_of_find? found)
    rw [find?_id found, hid] at hD
    cases hD

/-- The calls change, and whoever begins one is not a task or is one that rejects. -/
theorem acks (hc : Staffed c delivered) {s : Acks (Party κ)}
    (hflights : ∀ f ∈ s.inFlight, f ∈ c.acks.inFlight ∨
      ∀ id, f.caller = .task id → ∃ t cause, c.find? id = some t ∧ t.phase = .rejecting cause) :
    Staffed { c with acks := s } delivered := by
  refine ⟨hc.ids, hc.next, hc.named, fun f hf id hid => ?_⟩
  rcases hflights f hf with hf | hf
  · exact hc.flights f hf id hid
  · exact hf id hid

theorem held (hc : Staffed c delivered) (held : List HandleId) : Staffed { c with held } delivered :=
  ⟨hc.ids, hc.next, hc.named, hc.flights⟩

theorem deliver (hc : Staffed c delivered) {D : Consignment} {s : Acks (Party κ)}
    (hflights : s.inFlight = c.acks.inFlight) : Staffed { c with
      acks := s, tasks := c.tasks ++ [D.task c.next .spawned], next := c.next + 1 } (delivered ++ [D]) := by
  refine ⟨Keyed.nodup_concat hc.ids fun t ht => ?_, by simp [hc.next], ?_, ?_⟩
  · show t.id ≠ c.next
    rw [hc.next]
    exact Nat.ne_of_lt (hc.id_lt ht)
  · intro t ht
    rcases List.mem_append.mp ht with ht | ht
    · obtain ⟨E, hE, heq⟩ := hc.named t ht
      exact ⟨E, by rw [List.getElem?_append_left (hc.id_lt ht), hE], heq⟩
    · rw [List.mem_singleton.mp ht]
      exact ⟨D, by simp [Consignment.task, hc.next], rfl⟩
  · intro f hf id hid
    obtain ⟨t, cause, found, hphase⟩ := hc.flights f (hflights ▸ hf) id hid
    refine ⟨t, cause, ?_, hphase⟩
    rw [find?] at found ⊢
    rw [List.find?_append, found, Option.some_or]

theorem moveTo (hc : Staffed c delivered) {t : Task} (found : c.find? t.id = some t)
    (hphase : ∀ cause, t.phase ≠ .rejecting cause) (phase : Phase) : Staffed (c.moveTo t.id phase) delivered := by
  refine ⟨?_, hc.next, ?_, ?_⟩
  · have hids : (c.moveTo t.id phase).tasks.map (·.id) = c.tasks.map (·.id) := by
      rw [Consumer.moveTo, List.map_map]
      refine List.map_congr_left fun u _ => ?_
      by_cases hu : u.id = t.id <;> simp [hu]
    rw [hids]
    exact hc.ids
  · intro u hu
    obtain ⟨v, hv, rfl⟩ := List.mem_map.mp hu
    obtain ⟨D, hD, heq⟩ := hc.named v hv
    by_cases hid : v.id = t.id
    · rw [if_pos hid]
      exact ⟨D, hD, by rw [heq]; rfl⟩
    · rw [if_neg hid]
      exact ⟨D, hD, heq⟩
  · intro f hf id hid
    obtain ⟨u, cause, hu, hrejecting⟩ := hc.flights f hf id hid
    have hne : id ≠ t.id := by
      rintro rfl
      rw [found] at hu
      cases hu
      exact hphase cause hrejecting
    exact ⟨u, cause, by simp [find?_moveTo, hu, hne], hrejecting⟩

theorem leave (hc : Staffed c delivered) {t : Task} (hfree : ∀ f ∈ c.acks.inFlight, f.caller ≠ .task t.id) :
    Staffed (c.leave t) delivered := by
  refine ⟨?_, c.next_leave t ▸ hc.next, ?_, ?_⟩
  · rw [tasks_leave]
    exact hc.ids.sublist (List.filter_sublist.map _)
  · intro u hu
    rw [tasks_leave] at hu
    exact hc.named u (List.mem_filter.mp hu).1
  · intro f hf id hid
    rw [inFlight_leave] at hf
    obtain ⟨u, cause, hu, hrejecting⟩ := hc.flights f hf id hid
    have hne : id ≠ t.id := by
      rintro rfl
      exact hfree f hf hid
    exact ⟨u, cause, by rw [find?_leave, if_neg hne, hu], hrejecting⟩

/-- A task that does not reject has no call in flight. -/
theorem free (hc : Staffed c delivered) {t : Task} (found : c.find? t.id = some t)
    (hphase : ∀ cause, t.phase ≠ .rejecting cause) : ∀ f ∈ c.acks.inFlight, f.caller ≠ .task t.id := by
  intro f hf hid
  obtain ⟨u, cause, hu, hrejecting⟩ := hc.flights f hf t.id hid
  rw [found] at hu
  cases hu
  exact hphase cause hrejecting

end Staffed

/-- What every turn keeps. -/
structure Kept (c : Consumer κ) (delivered : List Consignment) (called : List (Party κ × ChannelId × ChannelCall)) :
    Prop where
  filed : Filed c.acks delivered called
  balanced : c.Balanced
  staffed : Staffed c delivered

namespace Kept

variable [DecidableEq κ] {c : Consumer κ} {delivered : List Consignment}
  {called : List (Party κ × ChannelId × ChannelCall)}

omit [DecidableEq κ] in
theorem moveTo (hc : Kept c delivered called) {t : Task} (found : c.find? t.id = some t)
    (hphase : ∀ cause, t.phase ≠ .rejecting cause) (phase : Phase) : Kept (c.moveTo t.id phase) delivered called :=
  ⟨hc.filed, hc.balanced.moveTo t.id phase, hc.staffed.moveTo found hphase phase⟩

theorem hand (hc : Kept c delivered called) {a : Acknowledger} (ha : ∀ h, a = .manual h → 0 < c.users h) :
    Kept (c.hand a) delivered called := by
  refine ⟨?_, hc.balanced.hand ha, ?_⟩
  · cases a with
    | auto => exact hc.filed
    | manual k =>
      exact hc.filed.keeps (hc.filed.accounted.clone k).accounted fun _ => .modify (fun _ => rfl) (.inr fun _ => rfl)
  · cases a with
    | auto => exact hc.staffed
    | manual k => exact (hc.staffed.acks (s := (c.acks.step (.clone k)).1) fun f hf => .inl hf).held (k :: c.held)

omit [DecidableEq κ] in
theorem leave (hc : Kept c delivered called) {t : Task} (found : c.find? t.id = some t)
    (hfree : ∀ f ∈ c.acks.inFlight, f.caller ≠ .task t.id) : Kept (c.leave t) delivered called := by
  refine ⟨?_, hc.balanced.leave hc.staffed.ids (Staffed.mem_of_find? found), hc.staffed.leave hfree⟩
  unfold Consumer.leave
  cases t.ack with
  | auto => exact hc.filed
  | manual k => exact hc.filed.drop k

omit [DecidableEq κ] in
theorem release (hc : Kept c delivered called) {k : HandleId} (hk : k ∈ c.held) :
    Kept { c with held := c.held.erase k, acks := (c.acks.drop k).1 } delivered called := by
  refine ⟨hc.filed.drop k, hc.balanced.release hk, ?_⟩
  refine (hc.staffed.acks (s := (c.acks.drop k).1) fun f hf => .inl ?_).held _
  rwa [Acks.inFlight_drop c.acks k] at hf

theorem settle (hc : Kept c delivered called) {k : HandleId} {y : Acks.Handle} (hy : c.acks.find? k = some y)
    (hp : y.pending = true) (hk : 0 < c.users k) {p : Party κ} (hfree : ∀ f ∈ c.acks.inFlight, f.caller ≠ p)
    (hrejecting : ∀ id, p = .task id → ∃ t cause, c.find? id = some t ∧ t.phase = .rejecting cause) (v : Verdict) :
    Kept { c with acks := (c.acks.settle p v (.manual k)).1 } delivered
      (called ++ [(p, y.channel, v.call y.tag)]) := by
  refine ⟨hc.filed.settle hy hp hfree v, hc.balanced.settle hy hp hk p v, hc.staffed.acks fun f hf => ?_⟩
  rw [Acks.inFlight_settle hy hp] at hf
  rcases List.mem_append.mp hf with hf | hf
  · exact .inl hf
  · rw [List.mem_singleton.mp hf]
    exact .inr hrejecting

theorem conclude (hc : Kept c delivered called) {s : Acks.Settlement (Party κ)} (hs : s ∈ c.acks.inFlight) :
    Kept { c with acks := (c.acks.conclude s).1 } delivered called := by
  obtain ⟨_, hmoves⟩ := hc.filed.accounted.conclude hs
  refine ⟨hc.filed.keeps hmoves.accounted fun _ => .conclude _ s, hc.balanced.conclude hc.filed.accounted hs,
    hc.staffed.acks fun f hf => .inl ?_⟩
  rw [Acks.inFlight_conclude c.acks s] at hf
  exact (List.mem_filter.mp hf).1

variable {n : Negotiator α} {queue : String} {x y : Diary κ α} {e : Event κ}

omit [DecidableEq κ] in
theorem held_lt (hc : Kept c delivered called) {h : HandleId} (hh : h ∈ c.held) : h < c.acks.next := by
  obtain ⟨y, hy, -⟩ := Acks.exists_of_clonesOf (hc.balanced.clonesOf_pos (Balanced.users_pos_of_held hh))
  obtain ⟨hmem, rfl⟩ := Acks.mem_of_find? hy
  exact (hc.filed.accounted.live y hmem).1

theorem work (hx : Kept x.now x.delivered x.called) {t : Task} (found : x.now.find? t.id = some t)
    (h : Work n queue x t e y) : Kept y.now y.delivered y.called := by
  have husers (h : HandleId) (hack : t.ack = .manual h) : 0 < x.now.users h :=
    Balanced.users_pos_of_mem (Staffed.mem_of_find? found) hack
  cases h with
  | hands m spawned read =>
    refine (hx.moveTo found (by simp [spawned]) .handling).hand fun h hack => ?_
    rw [Balanced.users_moveTo]
    exact husers h hack
  | succeeds handling => exact hx.leave found (hx.staffed.free found (by simp [handling]))
  | rejects _ cause said h z failing ack handle pending =>
    have hmoved := hx.moveTo found failing.not_rejecting (.rejecting cause)
    refine hmoved.settle handle pending ?_ (hx.staffed.free found failing.not_rejecting) ?_ (.reject false)
    · rw [Balanced.users_moveTo]
      exact husers h ack
    · rintro id ⟨⟩
      exact ⟨{ t with phase := .rejecting cause }, cause, by simp [find?_moveTo, found], rfl⟩
  | skips _ cause said failing settled => exact hx.leave found (hx.staffed.free found failing.not_rejecting)
  | ends cause result s flight rejecting =>
    obtain ⟨hs, hcaller⟩ := Acks.Accounted.mem_of_settlement? flight
    refine (hx.conclude hs).leave found ?_
    -- its call was the last one in flight
    intro f hf
    rw [Acks.inFlight_conclude x.now.acks s] at hf
    simpa [hcaller] using (List.mem_filter.mp hf).2

/-- **Every turn keeps the custody of the handles.** -/
theorem turn (hx : Kept x.now x.delivered x.called) (he : x.Admits e) (h : Turn n queue x e y) :
    Kept y.now y.delivered y.called := by
  cases h with
  | still _ waiting idle =>
    refine ⟨?_, hx.balanced, hx.staffed.acks fun f hf => .inl hf⟩
    exact hx.filed.keeps (hx.filed.accounted.waiting waiting).accounted fun _ => .of_handles rfl (Nat.le_refl _)
  | auto channel fresh d =>
    refine ⟨hx.filed.auto rfl he, fun h => ?_, hx.staffed.deliver (D := ⟨channel, fresh, d, .auto⟩) rfl⟩
    simpa [users] using hx.balanced h
  | manual channel fresh d =>
    exact ⟨hx.filed.manual (D := ⟨channel, fresh, d, .manual x.now.acks.next⟩) rfl he,
      hx.balanced.register hx.filed.accounted channel d.tag _ rfl,
      hx.staffed.deliver (D := ⟨channel, fresh, d, .manual x.now.acks.next⟩) rfl⟩
  | works _ _ t found work => exact hx.work found work
  | clones h held =>
    refine hx.hand (a := .manual h) ?_
    rintro _ ⟨⟩
    exact Balanced.users_pos_of_held held
  | drops h held => exact hx.release held
  | settles k h v z held handle pending =>
    exact hx.settle handle pending (Balanced.users_pos_of_held held) he (by simp) v
  | answered p result s flight other => exact hx.conclude (Acks.Accounted.mem_of_settlement? flight).1

omit [DecidableEq κ] in
theorem nil : Kept ({} : Consumer κ) [] [] where
  filed := ⟨⟨rfl, .nil, by simp, .nil⟩, .nil, by simp, by simp [Acks.find?], by simp, by simp⟩
  balanced _ := rfl
  staffed := ⟨.nil, rfl, by simp, by simp⟩

end Kept
end BrokerClient.Consumer
