import BrokerClient.ByteStream.Program

/-!
# What a program writes

`Writing.emitted?` is what a program writes to a sink, if no request of it fails. What successful requests keep holds at
the end of such a program (`run_emitted`), and what every request keeps at the end of every one (`run_kept`). A bounded
sink refuses a piece whole and remembers that it did, so its flag tells afterwards whether the program was refused a
request (`BoundedSink.overflowed_run`).
-/

namespace BrokerClient.ByteStream

namespace Writing

variable {α β σ : Type} [ByteSink σ]

/-- The bytes that a program writes to a sink, if no request of it fails. -/
def emitted? : Writing α → σ → Option Bytes
  | .done _, _ => some []
  | .write bytes next, s => match ByteSink.write s bytes with
    | (.ok _, s) => ((next (.ok ())).emitted? s).map (bytes ++ ·)
    | (.error _, _) => none
  | .flush next, s => match ByteSink.flush s with
    | (.ok _, s) => (next (.ok ())).emitted? s
    | (.error _, _) => none

/-- What is kept by writes and flushes that succeed holds at the end of a program. -/
theorem run_emitted (Holds : σ → Bytes → Prop)
    (hwrite : ∀ {s s' written bytes}, Holds s written → ByteSink.write s bytes = (.ok (), s') →
      Holds s' (written ++ bytes))
    (hflush : ∀ {s s' written}, Holds s written → ByteSink.flush s = (.ok (), s') → Holds s' written)
    (p : Writing α) {s : σ} {written more : Bytes} (h : Holds s written) (he : p.emitted? s = some more) :
    Holds (p.run s).2 (written ++ more) := by
  induction p generalizing s written more with
  | done result =>
    obtain rfl : [] = more := Option.some.inj he
    rwa [List.append_nil]
  | write bytes next ih =>
    cases hw : ByteSink.write s bytes with
    | mk answer s' =>
      cases answer with
      | error e => simp [emitted?, hw] at he
      | ok u =>
        simp only [emitted?, hw, Option.map_eq_some_iff] at he
        obtain ⟨rest, hrest, rfl⟩ := he
        rw [run, hw, ← List.append_assoc]
        exact ih (.ok u) (hwrite h hw) hrest
  | flush next ih =>
    cases hf : ByteSink.flush s with
    | mk answer s' =>
      cases answer with
      | error e => simp [emitted?, hf] at he
      | ok u =>
        simp only [emitted?, hf] at he
        rw [run, hf]
        exact ih (.ok u) (hflush h hf) he

/-- What is kept by every request, whatever the answer, is kept by a program. -/
theorem run_kept (Kept : σ → Prop) (hwrite : ∀ {s} bytes, Kept s → Kept (ByteSink.write s bytes).2)
    (hflush : ∀ {s}, Kept s → Kept (ByteSink.flush s).2) (p : Writing α) {s : σ} (h : Kept s) : Kept (p.run s).2 := by
  induction p generalizing s with
  | done result => exact h
  | write bytes next ih => exact ih _ (hwrite bytes h)
  | flush next ih => exact ih _ (hflush h)

/-- One program after another is refused nothing if neither of them is. -/
theorem emitted?_bind (p : Writing α) (f : α → Writing β) (s : σ) : (p.bind f).emitted? s =
    (p.emitted? s).bind fun written => ((f (p.run s).1).emitted? (p.run s).2).map (written ++ ·) := by
  induction p generalizing s with
  | done result => simp [bind, emitted?, run]
  | write bytes next ih =>
    cases hw : ByteSink.write s bytes with
    | mk answer s' =>
      cases answer with
      | error e => simp [bind, emitted?, hw]
      | ok u =>
        simp only [bind, emitted?, hw, run, ih]
        cases (next (.ok u)).emitted? s' <;> simp [Function.comp_def]
  | flush next ih =>
    cases hf : ByteSink.flush s with
    | mk answer s' =>
      cases answer with
      | error e => simp [bind, emitted?, hf]
      | ok u => simp only [bind, emitted?, hf, run, ih]

/-- Some bytes are written in one request. -/
theorem writeAll_of_ne {form : Bytes} (h : form ≠ []) (f : Except IoError Unit → β) :
    (do return f (← writeAll form) : Writing β) = .write form fun answer => .done (f answer) := by
  rw [writeAll, if_neg (by rwa [List.isEmpty_iff])]
  rfl

end Writing

/-! ## Bounded sinks -/

namespace BoundedSink

variable {s s' : BoundedSink} {bytes : Bytes}

theorem write_refused (h : s.max < s.content.length + bytes.length) :
    s.write bytes = (.error (tooLargeSink s.max), { s with overflowed := true }) := if_pos h

theorem write_fits (h : s.content.length + bytes.length ≤ s.max) :
    s.write bytes = (.ok (), { s with content := s.content ++ bytes }) := if_neg (Nat.not_lt.2 h)

theorem write_ok (h : s.write bytes = (.ok (), s')) : s' = { s with content := s.content ++ bytes } := by
  by_cases hfull : s.max < s.content.length + bytes.length
  · rw [write_refused hfull] at h
    cases h
  · rw [write_fits (Nat.not_lt.1 hfull)] at h
    exact (Prod.mk.inj h).2.symm

theorem write_error {e : IoError} (h : s.write bytes = (.error e, s')) :
    s.max < s.content.length + bytes.length ∧ s' = { s with overflowed := true } := by
  by_cases hfull : s.max < s.content.length + bytes.length
  · rw [write_refused hfull] at h
    exact ⟨hfull, (Prod.mk.inj h).2.symm⟩
  · rw [write_fits (Nat.not_lt.1 hfull)] at h
    cases h

/-- What no write ends. -/
def Kept (P : BoundedSink → Prop) : Prop := ∀ s bytes, P s → P (s.write bytes).2

/-- A write is never forgotten to have been refused. -/
theorem kept_overflowed : Kept (·.overflowed = true) := by
  intro s bytes h
  unfold BoundedSink.write
  split
  · rfl
  · exact h

/-- The content stays within the bound. -/
theorem kept_within (max : Nat) : Kept fun s => s.max = max ∧ s.content.length ≤ max := by
  rintro s bytes ⟨rfl, h⟩
  refine ⟨?_, ?_⟩
  · unfold BoundedSink.write
    split <;> rfl
  · have hle := length_write_le h bytes
    unfold BoundedSink.write at hle ⊢
    split <;> simp_all

theorem run_kept {α : Type} {P : BoundedSink → Prop} (hP : Kept P) (p : Writing α) (h : P s) : P (p.run s).2 :=
  Writing.run_kept P (fun bytes => hP _ bytes) id p h

/-- The flag after a program: it was set before, or the program was refused a request. -/
theorem overflowed_run {α : Type} (p : Writing α) :
    (p.run s).2.overflowed = true ↔ s.overflowed = true ∨ p.emitted? s = none := by
  induction p generalizing s with
  | done result => simp [Writing.run, Writing.emitted?]
  | write bytes next ih =>
    by_cases hfull : s.max < s.content.length + bytes.length
    · have hrefused : ByteSink.write s bytes = _ := write_refused hfull
      rw [Writing.run, Writing.emitted?, hrefused]
      simp [ih]
    · have hfits : ByteSink.write s bytes = _ := write_fits (Nat.not_lt.1 hfull)
      rw [Writing.run, Writing.emitted?, hfits]
      simp [ih]
  | flush next ih => exact ih _

end BoundedSink
end BrokerClient.ByteStream
