import BrokerClient.Proofs.Dispatcher.Course

/-!
# The calls on a channel

A dispatcher's own calls on a channel come in one order: what the queue needs is declared, the prefetch count is set,
consuming begins; then it may end, and then the channel may be asked to close, perhaps more than once. `Orderly` says
which of these a channel has got, from what the dispatcher has to do with it: one that is subscribed has got the calls
up to the one in flight, and one that is consumed has got them all and no other. So a call to end consuming comes right
behind the last of them, and a dispatcher that closes a channel has done with it (`orderly_chronicle`).
-/

namespace BrokerClient.Dispatcher

variable {κ α : Type}

/-! ## Calls in order -/

/-- A dispatcher's own calls on a channel. -/
def ownCalls (channel : ChannelId) (actions : List (Action κ α)) : List ChannelCall := actions.filterMap fun
  | .call p c call => if p.dispatches && c == channel then some call else none
  | _ => none

@[simp] theorem ownCalls_append (channel : ChannelId) (a b : List (Action κ α)) :
    ownCalls channel (a ++ b) = ownCalls channel a ++ ownCalls channel b := List.filterMap_append

theorem ownCalls_call {p : Party κ} (hp : p.dispatches = true) (c channel : ChannelId) (call : ChannelCall) :
    ownCalls channel ([.call p c call] : List (Action κ α)) = if c = channel then [call] else [] := by
  by_cases h : c = channel <;> simp [ownCalls, hp, h]

theorem ownCalls_eq_nil {a : List (Action κ α)} (ha : ∀ x ∈ a, x.isOwn = false) (channel : ChannelId) :
    ownCalls channel a = [] := by
  refine List.filterMap_eq_nil_iff.2 ?_
  intro x hx
  have hown := ha x hx
  cases x with
  | call p c call => simp [show p.dispatches = false from hown]
  | _ => rfl

/-- Some calls of a subscription from its beginning; after all of them perhaps the call that ends it; and perhaps calls
that close the channel. -/
def InOrder (s : Setup α) (calls : List ChannelCall) : Prop :=
  ∃ begun ended closes, calls = begun ++ ended ++ closes ∧ begun <+: s.subscription ∧
    (ended = [] ∨ begun = s.subscription ∧ ended = [.cancel s.tag]) ∧ ∀ c ∈ closes, c = .close

theorem InOrder.begun {s : Setup α} {calls : List ChannelCall} (h : calls <+: s.subscription) : InOrder s calls :=
  ⟨calls, [], [], by simp, h, .inl rfl, fun _ hc => absurd hc List.not_mem_nil⟩

theorem InOrder.cancel (s : Setup α) : InOrder s (s.subscription ++ [.cancel s.tag]) :=
  ⟨s.subscription, [.cancel s.tag], [], by simp, List.prefix_refl _, .inr ⟨rfl, rfl⟩,
    fun _ hc => absurd hc List.not_mem_nil⟩

theorem InOrder.close {s : Setup α} {calls : List ChannelCall} (h : InOrder s calls) : InOrder s (calls ++ [.close]) := by
  obtain ⟨begun, ended, closes, rfl, hb, he, hc⟩ := h
  refine ⟨begun, ended, closes ++ [.close], by simp, hb, he, ?_⟩
  intro c hm
  rcases List.mem_append.1 hm with hm | hm
  · exact hc c hm
  · exact List.mem_singleton.1 hm

/-! ## What a channel has got -/

/-- The channels that were created for a call. -/
def Past.openedChannels (h : Past κ α) : List ChannelId := h.opened.map (·.2)

structure Orderly (s : Setup α) (h : Past κ α) (d : Dispatcher κ) : Prop where
  inOrder : ∀ channel, InOrder s (ownCalls channel h.done)
  unopened : ∀ channel, channel ∉ h.openedChannels → ownCalls channel h.done = []
  known : ∀ channel ∈ d.channels, channel ∈ h.openedChannels
  subscribing : ∀ id channel c rest, d.current = some (id, .subscribing channel c rest) →
    ∃ begun, ownCalls channel h.done = begun ++ [c] ∧ begun ++ c :: rest = s.subscription
  started : d.status = .started → ∀ run, d.running = some run → ownCalls run.channel h.done = s.subscription

namespace Orderly

variable {s : Setup α} {h : Past κ α} {d d' : Dispatcher κ}

theorem initial (s : Setup α) : Orderly s ({} : Past κ α) ({} : Dispatcher κ) where
  inOrder _ := .begun List.nil_prefix
  unopened _ _ := rfl
  known _ hc := absurd hc List.not_mem_nil
  subscribing _ _ _ _ hc := nomatch hc
  started hs := nomatch hs

/-- The channel of the call that has the turn is known. -/
theorem known_current (ho : Orderly s h d) {id : RequestId} {phase : Phase} (hc : d.current = some (id, phase))
    {channel : ChannelId} (hp : phase.channel? = some channel) : channel ∈ h.openedChannels :=
  ho.known channel (mem_channels.2 (.inl ⟨id, phase, hc, hp⟩))

/-- Nothing was done, and what was opened is still opened. -/
theorem mono {h' : Past κ α} (ho : Orderly s h d) (hdone : h'.done = h.done)
    (hopened : ∀ channel ∈ h.openedChannels, channel ∈ h'.openedChannels) : Orderly s h' d where
  inOrder := hdone ▸ ho.inOrder
  unopened channel hc := by
    rw [hdone]
    exact ho.unopened channel fun hm => hc (hopened channel hm)
  known channel hc := hopened channel (ho.known channel hc)
  subscribing := hdone ▸ ho.subscribing
  started := hdone ▸ ho.started

theorem eases {e : Event κ} (ho : Orderly s h d) (he : Eases e d d') : Orderly s h d' where
  inOrder := ho.inOrder
  unopened := ho.unopened
  known channel hc := ho.known channel (he.channels hc)
  subscribing id channel c rest hc := by
    rcases he.current _ _ hc with hc | ⟨r, -, hr⟩
    · exact ho.subscribing id channel c rest hc
    · cases hr
  started hs run hr := ho.started (he.status hs) run (he.running run hr)

/-- No channel is called, and nothing new is begun. -/
theorem quiet (ho : Orderly s h d) {a : List (Action κ α)} (ha : ∀ x ∈ a, x.isOwn = false)
    (hk : ∀ channel ∈ d'.channels, channel ∈ h.openedChannels)
    (hsub : ∀ id channel c rest, d'.current = some (id, .subscribing channel c rest) →
      d.current = some (id, .subscribing channel c rest))
    (hst : d'.status = .started → ∀ run, d'.running = some run → ownCalls run.channel h.done = s.subscription) :
    Orderly s (h.log a) d' := by
  have hsame (channel : ChannelId) : ownCalls channel (h.log a).done = ownCalls channel h.done := by
    simp only [Past.log, ownCalls_append, ownCalls_eq_nil ha, List.append_nil]
  refine ⟨fun channel => ?_, fun channel hc => ?_, hk, fun id channel c rest hc => ?_, fun hs run hr => ?_⟩
  · rw [hsame]; exact ho.inOrder channel
  · rw [hsame]; exact ho.unopened channel hc
  · rw [hsame]; exact ho.subscribing id channel c rest (hsub id channel c rest hc)
  · rw [hsame]; exact hst hs run hr

/-- A channel is called by a dispatcher that is not started. -/
theorem call (ho : Orderly s h d) {p : Party κ} (hp : p.dispatches = true) {channel : ChannelId} {c : ChannelCall}
    (hin : InOrder s (ownCalls channel h.done ++ [c])) (hch : channel ∈ h.openedChannels)
    (hk : ∀ x ∈ d'.channels, x ∈ h.openedChannels)
    (hsub : ∀ id x c' rest, d'.current = some (id, .subscribing x c' rest) →
      x ≠ channel ∧ d.current = some (id, .subscribing x c' rest) ∨
      x = channel ∧ c' = c ∧ ownCalls channel h.done ++ c :: rest = s.subscription)
    (hs : d'.status = .stopped) : Orderly s (h.log [.call p channel c]) d' := by
  have hown (x : ChannelId) : ownCalls x (h.log [.call p channel c]).done =
      ownCalls x h.done ++ if channel = x then [c] else [] := by
    rw [Past.log, ownCalls_append, ownCalls_call hp]
  refine ⟨fun x => ?_, fun x hx => ?_, hk, fun id x c' rest hc => ?_, fun hst => ?_⟩
  · rw [hown]
    by_cases hx : channel = x
    · rw [if_pos hx, ← hx]
      exact hin
    · rw [if_neg hx, List.append_nil]
      exact ho.inOrder x
  · have hne : channel ≠ x := by
      rintro rfl
      exact hx hch
    rw [hown, if_neg hne, List.append_nil]
    exact ho.unopened x hx
  · rcases hsub id x c' rest hc with ⟨hne, hc⟩ | ⟨rfl, rfl, heq⟩
    · rw [hown, if_neg hne.symm, List.append_nil]
      exact ho.subscribing id x c' rest hc
    · exact ⟨_, by rw [hown, if_pos rfl], heq⟩
  · rw [hs] at hst
    cases hst

end Orderly

/-! ## Steps -/

section Steps

variable {s : Setup α} {e : Event κ} {h : Past κ α} {d₀ d d' : Dispatcher κ}

/-- A call that goes on deals with one channel at most. -/
theorem mem_channels_turn {id : RequestId} {phase : Phase} {channel : ChannelId} (hm : channel ∈ d'.channels)
    (hc : d'.current = some (id, phase)) (hr : ∀ run, d'.running = some run → d.running = some run)
    (hl : d'.loops = d.loops) : channel ∈ d.channels ∨ phase.channel? = some channel := by
  rw [mem_channels] at hm
  rcases hm with ⟨i, p, hc', hp⟩ | ⟨run, hrun, hch⟩ | ⟨l, hm, hch⟩
  · rw [hc] at hc'
    cases hc'
    exact .inr hp
  · exact .inl (mem_channels.2 (.inr (.inl ⟨run, hr run hrun, hch⟩)))
  · exact .inl (mem_channels.2 (.inr (.inr ⟨l, hl ▸ hm, hch⟩)))

/-- A call that is done deals with no channel, and neither does the next yet. -/
theorem mem_channels_finish {id : RequestId} {result : Outcome} {channel : ChannelId}
    (hm : channel ∈ (d.finish id result : Effect κ α).1.channels) : channel ∈ d.channels := by
  unfold finish at hm
  split at hm
  · rw [mem_channels] at hm ⊢
    rcases hm with ⟨_, _, hc, -⟩ | hm
    · cases hc
    · exact .inr hm
  · exact (mem_channels_turn (d := d) hm rfl (fun _ hr => hr) rfl).resolve_right (by simp [Phase.channel?])

theorem not_subscribing_finish {id i : RequestId} {result : Outcome} {channel : ChannelId} {c : ChannelCall}
    {rest : List ChannelCall} :
    (d.finish id result : Effect κ α).1.current ≠ some (i, .subscribing channel c rest) := by
  unfold finish
  split <;> simp

theorem isOwn_finish {id : RequestId} {result : Outcome} :
    ∀ x ∈ (d.finish id result : Effect κ α).2, x.isOwn = false := by
  unfold finish
  split <;> simp [Action.isOwn]

theorem channels_moveLoop (d : Dispatcher κ) (id : LoopId) (phase : LoopPhase) :
    (d.moveLoop id phase).channels = d.channels := by
  have hsame : (d.moveLoop id phase).loops.map (·.channel) = d.loops.map (·.channel) := by
    rw [moveLoop, List.map_map]
    refine List.map_congr_left ?_
    intro l _
    by_cases hl : l.id = id <;> simp [hl]
  rw [channels, hsame]
  rfl

variable [DecidableEq κ]

/-- What a dispatcher does on an event that gives it no channel is in order. -/
theorem Acts.orderly {a : List (Action κ α)} (hacts : Acts s e d₀ d a d') (hno : d₀.opening? e = none)
    (hk : ∀ channel ∈ d₀.channels, channel ∈ h.openedChannels) (ho : Orderly s h d) : Orderly s (h.log a) d' := by
  induction hacts generalizing h with
  | append _ _ ih ih' =>
    rw [← Past.log_log]
    exact ih' hk (ih hk ho)
  | say ha => exact ho.quiet ha ho.known (fun _ _ _ _ hc => hc) ho.started
  | @pass d id _ result =>
    obtain ⟨hstatus, hrunning⟩ := finish_frame (α := α) d id result
    refine ho.quiet isOwn_finish (fun _ hm => ho.known _ (mem_channels_finish hm))
      (fun _ _ _ _ hc => absurd hc not_subscribing_finish) ?_
    rw [hstatus, hrunning]
    exact ho.started
  | @create d _ _ =>
    refine ho.quiet (by simp [Action.isOwn]) (fun _ hm => ho.known _ ?_) (by simp) ho.started
    exact (mem_channels_turn (d := d) hm rfl (fun _ hr => hr) rfl).resolve_right (by simp [Phase.channel?])
  | first hc hsame _ he _ =>
    rw [he] at hno
    simp [opening?, hsame, hc] at hno
  | @next d id channel c c' rest hc _ hs =>
    obtain ⟨begun, hbegun, hsub⟩ := ho.subscribing _ _ _ _ hc
    have hch := ho.known_current hc rfl
    have hall : ownCalls channel h.done ++ c' :: rest = s.subscription := by rw [hbegun, ← hsub]; simp
    refine ho.call rfl (.begun ⟨rest, by rw [← hall]; simp⟩) hch (fun x hm => ?_) (fun i x c'' rest' hc' => ?_) hs
    · rcases mem_channels_turn (d := d) hm rfl (fun _ hr => hr) rfl with hm | hm
      · exact ho.known x hm
      · cases hm
        exact hch
    · cases hc'
      exact .inr ⟨rfl, rfl, hall⟩
  | @start d id channel c hc _ _ =>
    have hch := ho.known_current hc rfl
    refine ho.quiet isOwn_finish (fun x hm => ?_) (fun _ _ _ _ hc => absurd hc not_subscribing_finish) ?_
    · have hm := mem_channels_finish hm
      rw [mem_channels] at hm
      rcases hm with hm | ⟨run, hrun, hx⟩ | ⟨l, hl, hx⟩
      · exact ho.known x (mem_channels.2 (.inl hm))
      · cases hrun
        exact hx ▸ hch
      · rcases List.mem_append.1 hl with hl | hl
        · exact ho.known x (mem_channels.2 (.inr (.inr ⟨l, hl, hx⟩)))
        · cases List.mem_singleton.1 hl
          exact hx ▸ hch
    · rw [(finish_frame (α := α) (d.run channel) id (.ok ())).2]
      rintro - run hrun
      cases hrun
      obtain ⟨begun, hbegun, hsub⟩ := ho.subscribing _ _ _ _ hc
      rw [← hsub]
      exact hbegun
  | @cancel d id run _ hs hr =>
    have hall := ho.started hs run hr
    have hch : run.channel ∈ h.openedChannels := ho.known _ (mem_channels.2 (.inr (.inl ⟨run, hr, rfl⟩)))
    refine ho.call rfl (by rw [hall]; exact .cancel s) hch (fun x hm => ?_) (by simp) rfl
    rcases mem_channels_turn (d := d) hm rfl (by simp) rfl with hm | hm
    · exact ho.known x hm
    · cases hm
      exact hch
  | @wait d id channel next _ _ hch _ =>
    refine ho.quiet (by simp [Action.isOwn]) (fun x hm => ?_) (by simp) ho.started
    rcases mem_channels_turn (d := d) hm rfl (fun _ hr => hr) rfl with hm | hm
    · exact ho.known x hm
    · cases hm
      exact hk _ hch
  | @close d id channel next _ _ hs hch _ =>
    refine ho.call rfl (ho.inOrder channel).close (hk _ hch) (fun x hm => ?_) (by simp) hs
    rcases mem_channels_turn (d := d) hm rfl (fun _ hr => hr) rfl with hm | hm
    · exact ho.known x hm
    · cases hm
      exact hk _ hch
  | @loopWait d l _ =>
    refine ho.quiet (by simp [Action.isOwn]) (fun x hm => ho.known x ?_) (fun _ _ _ _ hc => hc) ho.started
    rw [← channels_moveLoop d l.id .draining]
    exact hm
  | @loopClose d l hs hch hnot _ =>
    refine ho.call rfl (ho.inOrder l.channel).close (hk _ hch) (fun x hm => ho.known x ?_) (fun i x c rest hc => ?_) hs
    · rwa [channels_moveLoop] at hm
    · refine .inl ⟨?_, hc⟩
      rintro rfl
      exact hnot i c rest hc
  | @loopEnd d id =>
    refine ho.quiet (by simp) (fun x hm => ho.known x ?_) (fun _ _ _ _ hc => hc) ho.started
    rw [mem_channels] at hm ⊢
    refine hm.imp_right (.imp_right ?_)
    rintro ⟨l, hl, hx⟩
    exact ⟨l, List.mem_of_mem_filter hl, hx⟩

variable {isOpen : ChannelId → Bool}

omit [DecidableEq κ] in
theorem opening?_eq_some {x : RequestId × ChannelId} :
    d.opening? e = some x ↔ e = .created x.1 (.ok x.2) ∧ d.current = some (x.1, .opening) := by
  constructor
  · intro hx
    unfold opening? at hx
    split at hx
    · split at hx
      · rename_i hc
        split at hx
        · rename_i heq
          subst heq
          cases hx
          exact ⟨rfl, hc⟩
        · cases hx
      · cases hx
    · cases hx
  · rintro ⟨rfl, hc⟩
    simp [opening?, hc]

/-- The first call on a channel that was just created. -/
theorem Orderly.first (ho : Orderly s h d) {id : RequestId} {channel : ChannelId} (hc : d.current = some (id, .opening))
    (hs : d.status = .stopped) (hch : channel ∈ h.openedChannels) (hnone : ownCalls channel h.done = []) :
    Orderly s (h.log (d.step s isOpen (.created id (.ok channel))).2) (d.step s isOpen (.created id (.ok channel))).1 := by
  cases hsub : s.subscription with
  | nil => simp [Setup.subscription] at hsub
  | cons c rest =>
    have hstep : (d.step s isOpen (.created id (.ok channel)) : Effect κ α) =
        ({ d with current := some (id, .subscribing channel c rest) }, [.call (.call id) channel c]) := by
      simp only [Dispatcher.step, hc, if_true, hsub, subscribe]
    rw [hstep]
    refine ho.call rfl (.begun ?_) hch (fun x hm => ?_) (fun i x c' rest' hc' => ?_) hs
    · rw [hnone, hsub]
      exact ⟨rest, rfl⟩
    · rcases mem_channels_turn (d := d) hm rfl (fun _ hr => hr) rfl with hm | hm
      · exact ho.known x hm
      · cases hm
        exact hch
    · cases hc'
      exact .inr ⟨rfl, rfl, by rw [hnone, hsub]; rfl⟩

/-- **Every step calls its channels in order**, if a channel that is created is a new one. -/
theorem Orderly.step (ho : Orderly s h d) (hi : Inv h d) (e : Event κ)
    (hnew : ∀ x, d.opening? e = some x → x.2 ∉ h.openedChannels) :
    Orderly s ((h.notice d e).log (d.step s isOpen e).2) (d.step s isOpen e).1 := by
  have hmono : Orderly s (h.notice d e) d := by
    refine ho.mono rfl ?_
    intro channel hm
    simp only [Past.notice, Past.openedChannels, List.map_append, List.mem_append]
    exact .inl hm
  cases hopen : d.opening? e with
  | some x =>
    obtain ⟨rfl, hc⟩ := opening?_eq_some.1 hopen
    refine hmono.first hc (hi.holds x.1 _ hc).1.1 ?_ (ho.unopened x.2 (hnew x hopen))
    simp [Past.notice, Past.openedChannels, hopen]
  | none =>
    obtain ⟨d₁, hease, hacts⟩ := course s isOpen hi e
    exact hacts.orderly hopen hmono.known (hmono.eases hease)

end Steps

/-! ## Runs -/

section Runs

variable [DecidableEq κ] (s : Setup α)

/-- Every channel that is created in a run is a new one. -/
def NewChannels (ms : List (Moment κ)) : Prop := (chronicle s ms : Chronicle κ α).past.openedChannels.Nodup

instance decidableNewChannels (ms : List (Moment κ)) : Decidable (NewChannels s ms) :=
  inferInstanceAs (Decidable (List.Nodup _))

variable {s}

theorem openedChannels_next (c : Chronicle κ α) (m : Moment κ) :
    (c.next s m).past.openedChannels = c.past.openedChannels ++ (c.now.opening? m.event).toList.map (·.2) :=
  List.map_append

theorem NewChannels.left {ms ms' : List (Moment κ)} (h : NewChannels s (ms ++ ms')) : NewChannels s ms := by
  induction ms' using List.reverseRecOn with
  | nil => rwa [List.append_nil] at h
  | append_singleton ms' m ih =>
    rw [← List.append_assoc, NewChannels, chronicle_append_cons] at h
    have hnext : ((chronicle s (ms ++ ms') : Chronicle κ α).next s m).past.openedChannels.Nodup := h
    rw [openedChannels_next, List.nodup_append] at hnext
    exact ih hnext.1

/-- A channel that is created was not there before. -/
theorem NewChannels.not_mem {ms : List (Moment κ)} {m : Moment κ} (h : NewChannels s (ms ++ [m]))
    (x : RequestId × ChannelId) (hx : (chronicle s ms : Chronicle κ α).now.opening? m.event = some x) :
    x.2 ∉ (chronicle s ms : Chronicle κ α).past.openedChannels := by
  rw [NewChannels, chronicle_append_cons] at h
  have hnext : ((chronicle s ms : Chronicle κ α).next s m).past.openedChannels.Nodup := h
  rw [openedChannels_next, List.nodup_append] at hnext
  intro hm
  exact hnext.2.2 x.2 hm x.2 (by simp [hx]) rfl

/-- After every run in which the channels are new ones, the calls on every channel are in order. -/
theorem orderly_chronicle (ms : List (Moment κ)) (hs : Schedule ms) (hnew : NewChannels s ms) :
    Orderly s (chronicle s ms : Chronicle κ α).past (chronicle s ms : Chronicle κ α).now := by
  induction ms using List.reverseRecOn with
  | nil => exact .initial s
  | append_singleton ms m ih =>
    rw [chronicle_append_cons]
    exact (ih hs.left hnew.left).step (inv_chronicle s ms hs.left) m.event hnew.not_mem

end Runs

end BrokerClient.Dispatcher
