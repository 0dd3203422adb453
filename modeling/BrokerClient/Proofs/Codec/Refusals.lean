import BrokerClient.Proofs.Codec.Packing

/-!
# Refused writes

What becomes of content when its sink is full. Under the law `Packing.Keeps` a packer that was refused a piece fails
from then on, so the flag of the sink tells whether a program was refused a request (`ContentSink.overflowed_run`), and
compressed content is not completed once something was refused (`ContentSink.finish_refused`). Without compression there
is nothing that keeps a refused piece, and a shorter one may still fit behind it: only the flag tells.
-/

namespace BrokerClient

open ByteStream

variable {z : Packing}

namespace Packing

variable {p : z.Packer} {sink : BoundedSink}

/-- The flag is set by the requests that fail, and by no others. -/
theorem Keeps.overflowed_serve (hz : z.Keeps) (h : z.Reached p sink) (r : Request) :
    ((z.serve p r).run sink).2.overflowed = true ↔ ((z.serve p r).run sink).1.1 ≠ .ok () := by
  rw [BoundedSink.overflowed_run, Ne, hz.serve_ok_iff h r, Classical.not_not]
  exact or_iff_right_of_imp fun hflag => hz.serve_refused h hflag r

theorem Keeps.overflowed_finish (hz : z.Keeps) (h : z.Reached p sink) :
    ((z.finish p).run sink).2.overflowed = true ↔ ((z.finish p).run sink).1 ≠ .ok () := by
  rw [BoundedSink.overflowed_run, Ne, hz.finish_ok_iff h, Classical.not_not]
  exact or_iff_right_of_imp fun hflag => hz.finish_refused h hflag

end Packing

namespace ContentSink

variable {s s' : ContentSink z} {P : BoundedSink → Prop}

/-! ## What writes to the sink keep -/

theorem write_kept (hP : BoundedSink.Kept P) (bytes : Bytes) (h : P s.target) :
    P (ByteSink.write s bytes).2.target := by
  cases s with
  | plain sink => exact hP sink bytes h
  | packed p sink => exact BoundedSink.run_kept hP (z.write p bytes) h

theorem flush_kept (hP : BoundedSink.Kept P) (h : P s.target) : P (ByteSink.flush s).2.target := by
  cases s with
  | plain sink => exact h
  | packed p sink => exact BoundedSink.run_kept hP (z.flush p) h

theorem finish_kept (hP : BoundedSink.Kept P) (h : P s.target) : P s.finish.2 := by
  cases s with
  | plain sink => exact h
  | packed p sink => exact BoundedSink.run_kept hP (z.finish p) h

theorem drop_kept (hP : BoundedSink.Kept P) (h : P s.target) : P s.drop := by
  cases s with
  | plain sink => exact h
  | packed p sink => exact BoundedSink.run_kept hP (z.drop p) h

theorem run_kept {α : Type} (hP : BoundedSink.Kept P) (program : Writing α) (h : P s.target) :
    P (program.run s).2.target :=
  Writing.run_kept (fun s : ContentSink z => P s.target) (write_kept hP) (flush_kept hP) program h

/-! ## What was refused -/

/-- The sink has come to be as it is by requests. -/
def Reached : ContentSink z → Prop
  | .plain _ => True
  | .packed p sink => z.Reached p sink

theorem reached_ofEncoding (max : Nat) (encoding : ContentEncoding) :
    (ofEncoding { max } encoding : ContentSink z).Reached := by
  cases encoding with
  | identity => trivial
  | gzip => exact .start .gzip max
  | deflate => exact .start .zlib max

theorem Reached.write (h : s.Reached) (bytes : Bytes) : (ByteSink.write s bytes).2.Reached := by
  cases s with
  | plain sink => trivial
  | packed p sink => exact Packing.Reached.next (.write bytes) h

theorem Reached.flush (h : s.Reached) : (ByteSink.flush s).2.Reached := by
  cases s with
  | plain sink => trivial
  | packed p sink => exact Packing.Reached.next .flush h

theorem Reached.run {α : Type} (program : Writing α) (h : s.Reached) : (program.run s).2.Reached :=
  Writing.run_kept (fun s : ContentSink z => s.Reached) (fun bytes h => h.write bytes) Reached.flush program h

/-- A write that fails sets the flag, and one that succeeds leaves it as it was. -/
theorem overflowed_write (hz : z.Keeps) (hs : s.Reached) (h : s.target.overflowed = false) (bytes : Bytes) :
    (ByteSink.write s bytes).2.target.overflowed = true ↔ (ByteSink.write s bytes).1 ≠ .ok () := by
  cases s with
  | plain sink =>
    change (sink.write bytes).2.overflowed = true ↔ (sink.write bytes).1 ≠ .ok ()
    by_cases hfull : sink.max < sink.content.length + bytes.length
    · simp [BoundedSink.write_refused hfull]
    · rw [BoundedSink.write_fits (Nat.not_lt.1 hfull)]
      exact iff_of_false (fun hflag => Bool.false_ne_true (h.symm.trans hflag)) (not_not_intro rfl)
  | packed p sink => exact hz.overflowed_serve hs (.write bytes)

theorem overflowed_flush (hz : z.Keeps) (hs : s.Reached) (h : s.target.overflowed = false) :
    (ByteSink.flush s).2.target.overflowed = true ↔ (ByteSink.flush s).1 ≠ .ok () := by
  cases s with
  | plain sink => exact iff_of_false (fun hflag => Bool.false_ne_true (h.symm.trans hflag)) (not_not_intro rfl)
  | packed p sink => exact hz.overflowed_serve hs .flush

/-- The flag tells whether a program was refused a request. -/
theorem overflowed_run {α : Type} (hz : z.Keeps) (program : Writing α) (hs : s.Reached)
    (h : s.target.overflowed = false) : (program.run s).2.target.overflowed = true ↔ program.emitted? s = none := by
  induction program generalizing s with
  | done result => simp [Writing.run, Writing.emitted?, h]
  | write bytes next ih =>
    have hrequest := overflowed_write hz hs h bytes
    have hreached := hs.write bytes
    rw [Writing.run, Writing.emitted?]
    generalize ByteSink.write s bytes = r at hrequest hreached ⊢
    obtain ⟨answer, s'⟩ := r
    cases answer with
    | error e => exact iff_of_true (run_kept BoundedSink.kept_overflowed _ (hrequest.2 (fun h => by cases h))) rfl
    | ok u =>
      have hflag := Bool.eq_false_iff.2 (mt hrequest.1 (not_not_intro rfl))
      simpa using ih (.ok u) hreached hflag
  | flush next ih =>
    have hrequest := overflowed_flush hz hs h
    have hreached := hs.flush
    rw [Writing.run, Writing.emitted?]
    generalize ByteSink.flush s = r at hrequest hreached ⊢
    obtain ⟨answer, s'⟩ := r
    cases answer with
    | error e => exact iff_of_true (run_kept BoundedSink.kept_overflowed _ (hrequest.2 (fun h => by cases h))) rfl
    | ok u => exact ih (.ok u) hreached (Bool.eq_false_iff.2 (mt hrequest.1 (not_not_intro rfl)))

/-! ## Completing -/

/-- Content is compressed. -/
def Packs : ContentSink z → Prop
  | .plain _ => False
  | .packed _ _ => True

theorem run_packs {α : Type} (program : Writing α) : (program.run s).2.Packs ↔ s.Packs := by
  let Same : ContentSink z → Prop := fun s' => s'.Packs ↔ s.Packs
  refine Writing.run_kept Same (fun {s'} bytes h => ?_) (fun {s'} h => ?_) program Iff.rfl
  · cases s' <;> exact h
  · cases s' <;> exact h

theorem finish_plain (h : ¬s.Packs) : s.finish = (.ok (), s.target) := by
  cases s with
  | plain sink => rfl
  | packed p sink => exact absurd trivial h

/-- The flag at the end: it was set before, or the content was not completed. -/
theorem overflowed_finish (hz : z.Keeps) (hs : s.Reached) :
    s.finish.2.overflowed = true ↔ s.target.overflowed = true ∨ s.finish.1 ≠ .ok () := by
  cases s with
  | plain sink => simp [finish, target]
  | packed p sink =>
    have hflag : (ContentSink.packed p sink).finish.2.overflowed = true ↔ _ := hz.overflowed_finish hs
    rw [hflag]
    refine (or_iff_right_of_imp fun hbefore => ?_).symm
    exact hflag.1 (BoundedSink.run_kept BoundedSink.kept_overflowed (z.finish p) hbefore)

/-- Compressed content is not completed once something was refused. -/
theorem finish_refused (hz : z.Keeps) (hs : s.Reached) (hp : s.Packs) (h : s.target.overflowed = true) :
    s.finish.1 ≠ .ok () := by
  cases s with
  | plain sink => cases hp
  | packed p sink => exact (hz.overflowed_finish hs).1 (finish_kept BoundedSink.kept_overflowed h)

/-- A packer that is dropped leaves what a completed one leaves. -/
theorem drop_eq (hz : z.FinishesOnDrop) (hs : s.Reached) : s.drop = s.finish.2 := by
  cases s with
  | plain sink => rfl
  | packed p sink => exact hz hs

end ContentSink
end BrokerClient
