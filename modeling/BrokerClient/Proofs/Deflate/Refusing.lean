import BrokerClient.Proofs.Deflate.Packing

/-!
# Refused bytes are kept

A packer passes on what its sink says: a step succeeds just when no write of it is refused (`Passes`). One that was
refused a piece is `Stuck`: the header, or what is pending, is the first thing to go to the sink at every later
request, and does not fit. So the packer satisfies the law `Packing.Keeps` (`keeps`). Where there is room for all that
it makes of bytes in one piece, nothing is refused (`run_write_new`, `run_finish_taken`).
-/

namespace BrokerClient.Deflate

open ByteStream

namespace Packer

variable {p q : Packer} {s s' : BoundedSink} {e : IoError}

/-! ## What is passed on -/

/-- The step succeeds just when no write of it is refused. -/
def Passes (step : Step) : Prop := ∀ s : BoundedSink, (step.run s).1.1 = .ok () ↔ step.emitted? s ≠ none

theorem passes_ready (p : Packer) : Passes (ready p) := fun s => by simp [ready, Writing.run, Writing.emitted?]

theorem passes_put (p : Packer) (bytes : Bytes) : Passes (p.put bytes) := by
  intro s
  rw [run_put]
  by_cases hfull : s.max < s.content.length + bytes.length
  · have hrefused : ByteSink.write s bytes = _ := BoundedSink.write_refused hfull
    rw [BoundedSink.write_refused hfull, put, Writing.emitted?, hrefused]
    simp
  · have hfits : ByteSink.write s bytes = _ := BoundedSink.write_fits (Nat.not_lt.1 hfull)
    rw [BoundedSink.write_fits (Nat.not_lt.1 hfull), put, Writing.emitted?, hfits]
    simp [Writing.emitted?]

theorem Passes.andThen {step : Step} {next : Packer → Step} (h : Passes step) (hnext : ∀ p, Passes (next p)) :
    Passes (andThen step next) := by
  intro s
  have hs := h s
  rw [Packer.andThen, Writing.run_bind, Writing.emitted?_bind]
  generalize step.run s = r at hs
  obtain ⟨⟨answer, p⟩, s₁⟩ := r
  cases answer with
  | error e =>
    have hnone : step.emitted? s = none := by simpa using hs
    simp [hnone, Writing.run]
  | ok u =>
    obtain ⟨written, hwritten⟩ := Option.ne_none_iff_exists'.1 (hs.1 rfl)
    rw [hwritten]
    refine (hnext p s₁).trans ?_
    simp

theorem passes_head (p : Packer) : Passes p.head := by
  unfold head
  split
  · exact (passes_put p gzipHeader).andThen fun _ => passes_ready _
  · exact passes_ready p

theorem passes_dump (p : Packer) : Passes p.dump := by
  unfold dump
  split
  · exact passes_ready p
  · exact (passes_put p p.pending).andThen fun _ => passes_ready _

theorem passes_trailer (p : Packer) : Passes p.trailer := by
  unfold trailer
  split
  · exact passes_put p _
  · exact passes_ready p

theorem passes_write (p : Packer) (bytes : Bytes) : Passes (p.write bytes) :=
  (passes_head p).andThen fun p => (passes_dump p).andThen fun _ => passes_ready _

theorem passes_flush (p : Packer) : Passes p.flush := (passes_head p).andThen fun _ => passes_dump _

theorem passes_finish (p : Packer) : Passes p.finish :=
  (passes_head p).andThen fun p => (passes_dump p).andThen fun _ => (passes_dump _).andThen passes_trailer

/-! ## What is kept -/

theorem put_error {bytes : Bytes} (h : (p.put bytes).run s = ((.error e, q), s')) :
    s.max < s.content.length + bytes.length ∧ q = p ∧ s' = { s with overflowed := true } := by
  rw [run_put] at h
  obtain ⟨hanswer, rfl⟩ := Prod.mk.inj h
  obtain ⟨herror, rfl⟩ := Prod.mk.inj hanswer
  obtain ⟨hfull, hs⟩ := BoundedSink.write_error (Prod.ext herror rfl)
  exact ⟨hfull, rfl, hs⟩

theorem put_refused {bytes : Bytes} (h : s.max < s.content.length + bytes.length) :
    ∃ e q s', (p.put bytes).run s = ((.error e, q), s') := by
  rw [run_put, BoundedSink.write_refused h]
  exact ⟨_, _, _, rfl⟩

/-- The first thing that has to go to the sink: the long container's header, or what is pending. -/
def due (p : Packer) : Bytes := if p.container = .gzip ∧ p.headed = false then gzipHeader else p.pending

/-- What has to go to the sink first was refused, and does not fit. -/
structure Stuck (p : Packer) (s : BoundedSink) : Prop where
  due_ne : p.due ≠ []
  full : s.max < s.content.length + p.due.length

/-- The header of the long container is out of the way. -/
def Begun (p : Packer) : Prop := ¬(p.container = .gzip ∧ p.headed = false)

theorem due_of_begun (h : p.Begun) : p.due = p.pending := if_neg h

theorem head_of_begun (h : p.Begun) : p.head = ready p := by
  unfold head
  split
  · rename_i hgzip hheaded
    exact absurd ⟨hgzip, hheaded⟩ h
  · rfl

theorem head_of_not_begun (h : p.container = .gzip ∧ p.headed = false) :
    p.head = andThen (p.put gzipHeader) fun p => ready { p with headed := true } := by
  unfold head
  rw [h.1, h.2]

theorem head_ok (h : p.head.run s = ((.ok (), q), s')) : q.Begun ∧ s'.overflowed = s.overflowed := by
  by_cases hb : p.container = .gzip ∧ p.headed = false
  · rw [head_of_not_begun hb] at h
    obtain ⟨r, s₁, hput, hr⟩ := andThen_ok h
    obtain ⟨rfl, rfl⟩ := put_ok hput
    obtain ⟨rfl, rfl⟩ := ready_ok hr
    exact ⟨by simp [Begun], rfl⟩
  · rw [head_of_begun hb] at h
    obtain ⟨rfl, rfl⟩ := ready_ok h
    exact ⟨hb, rfl⟩

theorem head_error (h : p.head.run s = ((.error e, q), s')) : q.Stuck s' := by
  by_cases hb : p.container = .gzip ∧ p.headed = false
  · rw [head_of_not_begun hb] at h
    rcases andThen_error h with hput | ⟨r, s₁, -, hr⟩
    · obtain ⟨hfull, rfl, rfl⟩ := put_error hput
      have hdue : q.due = gzipHeader := if_pos hb
      exact ⟨by rw [hdue]; decide, by rwa [hdue]⟩
    · cases hr
  · rw [head_of_begun hb] at h
    cases h

theorem dump_error (hb : p.Begun) (h : p.dump.run s = ((.error e, q), s')) : q.Stuck s' := by
  unfold dump at h
  by_cases hp : p.pending = []
  · rw [hp, List.isEmpty_nil, if_pos rfl] at h
    cases h
  · rw [if_neg (by rwa [List.isEmpty_iff])] at h
    rcases andThen_error h with hput | ⟨r, s₁, -, hr⟩
    · obtain ⟨hfull, rfl, rfl⟩ := put_error hput
      rw [← due_of_begun hb] at hp hfull
      exact ⟨hp, hfull⟩
    · cases hr

theorem dump_full (hp : p.pending ≠ []) (h : s.max < s.content.length + p.pending.length) :
    ∃ e q s', p.dump.run s = ((.error e, q), s') := by
  obtain ⟨e, q, s', hput⟩ := put_refused h
  refine ⟨e, q, s', ?_⟩
  rw [dump, if_neg (by rwa [List.isEmpty_iff]), andThen, Writing.run_bind, hput]
  rfl

/-! ### Failures -/

theorem write_error {bytes : Bytes} (h : (p.write bytes).run s = ((.error e, q), s')) : q.Stuck s' := by
  rcases andThen_error h with h₁ | ⟨p₁, s₁, h₁, h⟩
  · exact head_error h₁
  · rcases andThen_error h with h₂ | ⟨p₂, s₂, -, h⟩
    · exact dump_error (head_ok h₁).1 h₂
    · cases h

theorem flush_error (h : p.flush.run s = ((.error e, q), s')) : q.Stuck s' := by
  rcases andThen_error h with h₁ | ⟨p₁, s₁, h₁, h⟩
  · exact head_error h₁
  · refine dump_error ?_ h
    simp [Begun, append]

/-! ### No way out -/

/-- A stuck packer fails at the header, or else at what is pending. -/
theorem Stuck.head (h : p.Stuck s) : (∃ e q s', p.head.run s = ((.error e, q), s')) ∨
    (p.head = ready p ∧ p.pending ≠ [] ∧ s.max < s.content.length + p.pending.length) := by
  by_cases hb : p.container = .gzip ∧ p.headed = false
  · have hdue : p.due = gzipHeader := if_pos hb
    have hfull := h.full
    rw [hdue] at hfull
    obtain ⟨e, q, s', hput⟩ := put_refused hfull
    refine .inl ⟨e, q, s', ?_⟩
    rw [head_of_not_begun hb, andThen, Writing.run_bind, hput]
    rfl
  · rw [← due_of_begun hb]
    exact .inr ⟨head_of_begun hb, h.due_ne, h.full⟩

/-- A step that begins with the header and goes on with what is pending fails. -/
theorem Stuck.first {next : Packer → Step} (h : p.Stuck s)
    (hnext : p.pending ≠ [] → s.max < s.content.length + p.pending.length →
      ∃ e q s', (next p).run s = ((.error e, q), s')) :
    ((andThen p.head next).run s).1.1 ≠ .ok () := by
  rw [andThen, Writing.run_bind]
  rcases h.head with ⟨e, q, s', hhead⟩ | ⟨hhead, hp, hfull⟩
  · rw [hhead]
    simp [Writing.run]
  · obtain ⟨e, q, s', hfailed⟩ := hnext hp hfull
    rw [hhead]
    show ((next p).run s).1.1 ≠ _
    rw [hfailed]
    simp

/-- What goes on behind the pending bytes is not reached. -/
theorem dump_first {next : Packer → Step} (hp : p.pending ≠ []) (hfull : s.max < s.content.length + p.pending.length) :
    ∃ e q s', (andThen p.dump next).run s = ((.error e, q), s') := by
  obtain ⟨e, q, s', hdump⟩ := dump_full hp hfull
  refine ⟨e, q, s', ?_⟩
  rw [andThen, Writing.run_bind, hdump]
  rfl

theorem Stuck.write (h : p.Stuck s) (bytes : Bytes) : ((p.write bytes).run s).1.1 ≠ .ok () := h.first dump_first

theorem Stuck.finish (h : p.Stuck s) : (p.finish.run s).1.1 ≠ .ok () := h.first dump_first

/-- A flush makes what is pending longer before it puts it. -/
theorem Stuck.flush (h : p.Stuck s) : (p.flush.run s).1.1 ≠ .ok () := by
  refine h.first fun hp hfull => dump_full ?_ ?_
  · simp [append, hp]
  · simp only [append, List.length_append]
    omega

/-! ### Successes -/

theorem write_ok {bytes : Bytes} (h : (p.write bytes).run s = ((.ok (), q), s')) : s'.overflowed = s.overflowed := by
  obtain ⟨p₁, s₁, h₁, h⟩ := andThen_ok h
  obtain ⟨p₂, s₂, h₂, h⟩ := andThen_ok h
  rw [(ready_ok h).2, (dump_ok h₂).2]
  exact (head_ok h₁).2

theorem flush_ok (h : p.flush.run s = ((.ok (), q), s')) : s'.overflowed = s.overflowed := by
  obtain ⟨p₁, s₁, h₁, h⟩ := andThen_ok h
  rw [(dump_ok h).2]
  exact (head_ok h₁).2

end Packer

/-! ## The laws -/

/-- A packer whose sink refused a write is stuck. -/
theorem stuck_of_reached {p : packing.Packer} {s : BoundedSink} (h : packing.Reached p s) (hs : s.overflowed = true) :
    Packer.Stuck p s := by
  induction h with
  | start => cases hs
  | @next p s r _ ih =>
    cases hr : (packing.serve p r).run s with
    | mk result s' =>
      obtain ⟨answer, q⟩ := result
      rw [hr] at hs
      cases r with
      | write bytes =>
        cases answer with
        | error e => exact Packer.write_error hr
        | ok u =>
          have hbefore := ih ((Packer.write_ok hr).symm.trans hs)
          exact absurd (congrArg (·.1.1) hr) (hbefore.write bytes)
      | flush =>
        cases answer with
        | error e => exact Packer.flush_error hr
        | ok u =>
          have hbefore := ih ((Packer.flush_ok hr).symm.trans hs)
          exact absurd (congrArg (·.1.1) hr) hbefore.flush

theorem run_finish (p : packing.Packer) (s : BoundedSink) :
    (packing.finish p).run s = (((Packer.finish p).run s).1.1, ((Packer.finish p).run s).2) :=
  Writing.run_bind (Packer.finish p) (fun r => .done r.1) s

theorem emitted?_finish (p : packing.Packer) (s : BoundedSink) :
    (packing.finish p).emitted? s = (Packer.finish p).emitted? s := by
  refine (Writing.emitted?_bind (Packer.finish p) (fun r => .done r.1) s).trans ?_
  cases (Packer.finish p).emitted? s <;> simp [Writing.emitted?]

theorem passes_serve (p : packing.Packer) (r : Packing.Request) : Packer.Passes (packing.serve p r) := by
  cases r with
  | write bytes => exact Packer.passes_write p bytes
  | flush => exact Packer.passes_flush p

theorem finish_ok_iff (p : packing.Packer) (s : BoundedSink) :
    ((packing.finish p).run s).1 = .ok () ↔ (packing.finish p).emitted? s ≠ none := by
  rw [run_finish, emitted?_finish]
  exact Packer.passes_finish p s

/-- **Refused bytes are kept.** -/
theorem keeps : packing.Keeps where
  serve_ok_iff _ r := passes_serve _ r _
  finish_ok_iff _ := finish_ok_iff _ _
  serve_refused {p s} h hs r := by
    have hstuck := stuck_of_reached h hs
    refine Classical.byContradiction fun hne => ?_
    have hok := (passes_serve p r s).2 hne
    cases r with
    | write bytes => exact hstuck.write bytes hok
    | flush => exact hstuck.flush hok
  finish_refused {p s} h hs := by
    refine Classical.byContradiction fun hne => ?_
    have hok := (finish_ok_iff p s).2 hne
    rw [run_finish] at hok
    exact (stuck_of_reached h hs).finish hok

theorem finishesOnDrop : packing.FinishesOnDrop := by
  intro p s _
  rw [run_finish]
  exact congrArg Prod.snd (Writing.run_bind (Packer.finish p) (fun _ => .done ()) s)

/-! ## Room -/

namespace Packer

variable {p q : Packer} {s s' : BoundedSink}

theorem run_andThen {step : Step} {next : Packer → Step} (h : step.run s = ((.ok (), q), s')) :
    (andThen step next).run s = (next q).run s' := by
  rw [andThen, Writing.run_bind, h]

theorem put_fits {bytes : Bytes} (h : s.content.length + bytes.length ≤ s.max) :
    (p.put bytes).run s = ((.ok (), p), { s with content := s.content ++ bytes }) := by
  rw [run_put, BoundedSink.write_fits h]

theorem dump_fits (h : (p.made s).length ≤ s.max) :
    p.dump.run s = ((.ok (), { p with pending := [] }), { s with content := p.made s }) := by
  unfold dump
  by_cases hp : p.pending = []
  · have hmade : p.made s = s.content := by rw [made, hp, List.append_nil]
    rw [hp, List.isEmpty_nil, if_pos rfl, hmade, ← hp]
    rfl
  · rw [if_neg (by rwa [List.isEmpty_iff]), run_andThen (put_fits (by rwa [← List.length_append]))]
    rfl

/-- A packer that has taken in some bytes and put nothing but its header. -/
def taken (bytes : Bytes) : Packer where
  container := .gzip
  headed := true
  compressor := ({} : Compressor).push bytes

end Packer

/-- The compressed form of bytes that are written in one piece. -/
def gzipped (bytes : Bytes) : Bytes :=
  gzipHeader ++ (({} : Compressor).push bytes).finish ++ gzipTrailer bytes

theorem length_gzipHeader_le {max : Nat} {bytes : Bytes} (h : (gzipped bytes).length ≤ max) :
    gzipHeader.length ≤ max := by
  simp only [gzipped, List.length_append] at h
  omega

/-- A sink that some bytes have been put into. -/
def filled (max : Nat) (content : Bytes) : BoundedSink := { max, content }

theorem run_write_new {max : Nat} {bytes : Bytes} (h : gzipHeader.length ≤ max) :
    (packing.write (packing.pack .gzip) bytes).run (filled max []) =
      ((.ok (), Packer.taken bytes), filled max gzipHeader) := by
  have hroom : ([] : Bytes).length + gzipHeader.length ≤ max := by simpa using h
  have hhead : (Packer.head { container := .gzip }).run (filled max []) =
      ((.ok (), { container := .gzip, headed := true }), filled max gzipHeader) :=
    Packer.run_andThen (Packer.put_fits (s := filled max []) hroom)
  exact Packer.run_andThen hhead

theorem run_finish_taken {max : Nat} {bytes : Bytes} (h : (gzipped bytes).length ≤ max) :
    (packing.finish (Packer.taken bytes)).run (filled max gzipHeader) = (.ok (), filled max (gzipped bytes)) := by
  let last := (Packer.taken bytes).compressor.finish
  let full := (Packer.taken bytes).append (last ++ (Packer.taken bytes).sums)
  let emptied : Packer := { full with pending := [] }
  have hdata : (Packer.taken bytes).compressor.data.toList = bytes := by
    show (({} : Compressor).push bytes).data.toList = bytes
    simp [Compressor.data_push]
  have hmade : full.made (filled max gzipHeader) = gzipHeader ++ last := by
    simp [full, filled, Packer.made, Packer.append, Packer.taken, Packer.sums]
  have hlength : (gzipHeader ++ last).length + (gzipTrailer bytes).length ≤ max := by
    rw [← List.length_append]
    exact h
  have hdump : full.dump.run (filled max gzipHeader) = ((.ok (), emptied), filled max (gzipHeader ++ last)) := by
    rw [← hmade] at hlength
    rw [Packer.dump_fits (Nat.le_of_add_right_le hlength), hmade]
    rfl
  have htrailer : emptied.trailer.run (filled max (gzipHeader ++ last)) =
      ((.ok (), emptied), filled max (gzipped bytes)) := by
    show (emptied.put (gzipTrailer (Packer.taken bytes).compressor.data.toList)).run _ = _
    rw [hdata]
    exact Packer.put_fits hlength
  have hfinish : (Packer.finish (.taken bytes)).run (filled max gzipHeader) = _ :=
    (Packer.run_andThen hdump).trans htrailer
  exact (run_finish (Packer.taken bytes) _).trans (by rw [hfinish])

end BrokerClient.Deflate
