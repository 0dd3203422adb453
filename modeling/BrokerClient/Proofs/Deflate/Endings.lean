import BrokerClient.Deflate.Container
import BrokerClient.Proofs.ByteStream.Dialogue
import BrokerClient.Proofs.Deflate.Blocks

/-!
# How unpacking ends

Data of any kind, whole or damaged, comes out in portions with an end or a failure behind them. `Unpacked.Candid` says
what keeps a reader from taking a failure for the end: bytes are lost only in front of a failure that is met from then
on (`Lasts`), so the end, where there is one, is behind all bytes. Everything that is unpacked is so
(`candid_unpackGzip`, `candid_unpackZlib`).
-/

namespace BrokerClient.Deflate

open ByteStream (Fault IoError tooLargeSource)

/-! ## Outlets -/

namespace Outlet

theorem Clean.putBytes {o : Outlet} (h : o.Clean) (taken : Nat) (bytes : Bytes) : (putBytes taken o bytes).Clean := by
  induction bytes generalizing taken o with
  | nil => exact h
  | cons b bytes ih => exact ih ((h.await (taken + 8)).push taken b) (taken + 8)

end Outlet

variable {o : Outlet}

theorem clean_failed (h : o.Clean) (d : Defect) (s : BitSource) : (Inflated.failed o d s).outlet.Clean := by
  cases d with
  | corrupt => exact h.await s.taken
  | truncated => exact h.await (o.total + 1)

theorem clean_tokens (codes : Codes) (fuel : Nat) (h : o.Clean) (s : BitSource) :
    (tokens codes fuel o s).outlet.Clean := by
  induction fuel generalizing o s with
  | zero => exact h
  | succ fuel ih =>
    unfold tokens
    split
    · exact clean_failed h _ _
    · exact h
    · exact ih (h.put _ _) _

theorem clean_stored (h : o.Clean) (s : BitSource) : (stored o s).outlet.Clean := by
  unfold stored
  split
  · exact clean_failed h _ _
  · split
    · exact clean_failed h _ _
    · dsimp only
      split
      · exact clean_failed (h.putBytes _ _) _ _
      · exact h.putBytes _ _

theorem clean_block (fuel type : Nat) (h : o.Clean) (s : BitSource) : (block fuel type o s).outlet.Clean := by
  unfold block
  split
  · exact clean_stored h s
  · exact clean_tokens fixedCodes fuel h s
  · split
    · exact clean_failed h _ _
    · exact clean_tokens _ fuel h _
  · exact clean_failed h _ _

theorem clean_blocks (symbols fuel : Nat) (h : o.Clean) (s : BitSource) : (blocks symbols fuel o s).outlet.Clean := by
  induction fuel generalizing o s with
  | zero => exact h
  | succ fuel ih =>
    unfold blocks
    split
    · exact clean_failed h _ _
    · rename_i final type s₁ _
      have hblock := clean_block symbols type h s₁
      split
      · rename_i hb
        rwa [hb] at hblock
      · rename_i hb
        rw [hb] at hblock
        split
        · exact hblock
        · exact ih hblock _

theorem clean_inflate (h : o.Clean) (s : BitSource) : (inflate s o).outlet.Clean := clean_blocks _ _ h s

/-! ## Portions -/

/-- Another failure is behind this one, and so on. -/
def Lasts (fault : Option Fault) : Prop := ∃ f, fault = some f ∧ f.after ≠ none

/-- A decoder that does not rest behind a portion has another one, or no byte that it loses there is missed. -/
def Orderly (lasts : Prop) : List Portion → Prop
  | [] => True
  | p :: rest => (p.after = .rests ∨ p.after = .goesOn ∧ rest ≠ [] ∨ rest = [] ∧ lasts) ∧ Orderly lasts rest

theorem portionsAt_ne_nil (last : After) (size : Nat) (pauses : List Pause) (bytes : Bytes) :
    portionsAt last size pauses bytes ≠ [] := by
  cases pauses <;> exact List.cons_ne_nil _ _

theorem orderly_portionsAt {lasts : Prop} {last : After} (hlast : last = .rests ∨ lasts) (size : Nat)
    {pauses : List Pause} (h : ∀ p ∈ pauses, p.after ≠ .givesUp) (bytes : Bytes) :
    Orderly lasts (portionsAt last size pauses bytes) := by
  induction pauses generalizing size bytes with
  | nil =>
    refine ⟨?_, trivial⟩
    rcases hlast with hrests | hlasts
    · exact .inl hrests
    · exact .inr (.inr ⟨rfl, hlasts⟩)
  | cons pause pauses ih =>
    refine ⟨?_, ih pause.size (fun q hq => h q (List.mem_cons_of_mem _ hq)) _⟩
    have hkept := h pause (List.mem_cons_self ..)
    cases hafter : pause.after with
    | rests => exact .inl rfl
    | goesOn => exact .inr (.inl ⟨rfl, portionsAt_ne_nil _ _ _ _⟩)
    | givesUp => exact absurd hafter hkept

theorem orderly_portions {lasts : Prop} {last : After} (hlast : last = .rests ∨ lasts) (h : o.Clean) :
    Orderly lasts (o.portions last) :=
  orderly_portionsAt hlast 0 (fun p hp => h p (List.mem_reverse.1 hp)) _

/-- The last portion may be left out before a failure that lasts. -/
theorem Orderly.dropLast {lasts : Prop} (hlasts : lasts) {portions : List Portion} (h : Orderly lasts portions) :
    Orderly lasts portions.dropLast := by
  induction portions with
  | nil => trivial
  | cons p rest ih =>
    cases rest with
    | nil => trivial
    | cons q rest =>
      refine ⟨?_, ih h.2⟩
      by_cases hnil : (q :: rest).dropLast = []
      · exact .inr (.inr ⟨hnil, hlasts⟩)
      · rcases h.1 with hrests | ⟨hgoesOn, -⟩ | ⟨hcons, -⟩
        · exact .inl hrests
        · exact .inr (.inl ⟨hgoesOn, hnil⟩)
        · cases hcons

/-! ## What is unpacked -/

/-- The end is behind all bytes, and what fails is the data. -/
structure Unpacked.Candid (u : Unpacked) : Prop where
  orderly : Orderly (Lasts u.fault) u.portions
  own : ∀ f, u.fault = some f → f.Own

theorem candid_corrupt (h : o.Clean) : (Unpacked.corrupt o).Candid where
  orderly := (orderly_portions (.inl rfl) h).dropLast ⟨_, rfl, nofun⟩
  own := by rintro f ⟨⟩; exact ⟨by decide, by decide⟩

theorem candid_incomplete (h : o.Clean) : (Unpacked.incomplete o).Candid where
  orderly := orderly_portions (.inr ⟨_, rfl, nofun⟩) h
  own := by rintro f ⟨⟩; exact ⟨by decide, by decide⟩

theorem candid_portions (h : o.Clean) {fault : Option Fault} (hown : ∀ f, fault = some f → f.Own) :
    Unpacked.Candid ⟨o.portions .rests, fault⟩ where
  orderly := orderly_portions (.inl rfl) h
  own := hown

theorem candid_closeZlib (h : o.Clean) (s : BitSource) : (closeZlib o s).Candid := by
  unfold closeZlib
  dsimp only
  split
  · exact candid_incomplete (h.await _)
  · split
    · exact candid_portions (h.await _) nofun
    · exact candid_corrupt (h.await _)

theorem candid_closeGzip (h : o.Clean) (s : BitSource) : (closeGzip o s).Candid := by
  refine candid_portions h fun f hf => ?_
  split at hf
  · cases hf
    exact ⟨by decide, by decide⟩
  · split at hf
    · cases hf
    · cases hf
      exact ⟨by decide, by decide⟩

theorem candid_unpackWith {close : Outlet → BitSource → Unpacked} (hclose : ∀ o s, o.Clean → (close o s).Candid)
    (h : o.Clean) (s : BitSource) : (unpackWith close s o).Candid := by
  have hinflate := clean_inflate h s
  unfold unpackWith
  split <;> rename_i hi <;> rw [hi] at hinflate
  · exact candid_corrupt hinflate
  · exact candid_incomplete hinflate
  · exact hclose _ _ hinflate

theorem candid_unpackZlib (data : Bytes) : (unpackZlib data).Candid := by
  have hstart := Outlet.clean_start (8 * data.length) 0 0
  unfold unpackZlib
  dsimp only
  split
  · split
    · exact candid_unpackWith (fun o s h => candid_closeZlib h s) hstart _
    · exact candid_corrupt hstart
  · exact candid_incomplete hstart

/-! ## Headers -/

/-- A step fails only for what is wrong with the header. -/
def HeaderStep.Candid {α : Type} (step : HeaderStep α) : Prop := ∀ s e, step s = .error e → e ≠ tooLargeSource

namespace HeaderStep

variable {α β : Type}

theorem candid_pure (a : α) : Candid (pure a) := nofun

theorem candid_get : Candid get := nofun

theorem candid_throw {e : IoError} (h : e ≠ tooLargeSource) : Candid (throw e : HeaderStep α) := by
  rintro s _ ⟨⟩
  exact h

theorem Candid.bind {step : HeaderStep α} {next : α → HeaderStep β} (h : step.Candid) (hnext : ∀ a, (next a).Candid) :
    Candid (step >>= next) := by
  intro s e he
  change Except.bind (step s) (fun r => next r.1 r.2) = .error e at he
  cases hs : step s with
  | error e' =>
    rw [hs] at he
    cases he
    exact h s e hs
  | ok r =>
    rw [hs] at he
    exact hnext r.1 r.2 e he

variable {c : Prop} [Decidable c]

theorem Candid.ite {a b : HeaderStep α} (ha : a.Candid) (hb : b.Candid) : Candid (if c then a else b) := by
  split
  · exact ha
  · exact hb

/-- A step that is made under a condition, and what follows in either case. -/
theorem Candid.optional {step : HeaderStep Unit} {next : HeaderStep α} (h : step.Candid) (hnext : next.Candid) :
    Candid (if c then step >>= fun _ => next else next) :=
  .ite (h.bind fun _ => hnext) hnext

end HeaderStep

open HeaderStep

theorem candid_headerBytes (n : Nat) : (headerBytes n).Candid := by
  intro s e he
  unfold headerBytes at he
  dsimp only at he
  split at he
  · cases he
    decide
  · cases he

theorem candid_headerText : headerText.Candid := by
  intro s e he
  unfold headerText at he
  dsimp only at he
  split at he
  · cases he
    decide
  · split at he
    · cases he
      decide
    · cases he

theorem candid_headerNumber : headerNumber.Candid :=
  (candid_headerBytes 2).bind fun _ => candid_pure _

theorem candid_headerCheck : headerCheck.Candid :=
  candid_get.bind fun _ => candid_headerNumber.bind fun _ => .ite (candid_throw (by decide)) (candid_pure _)

theorem candid_headerField : headerField.Candid :=
  candid_headerNumber.bind fun n => ((candid_headerBytes n).bind fun _ => candid_pure _).bind fun _ =>
    candid_get.bind fun _ => candid_pure _

theorem candid_gzipHead : gzipHead.Candid := by
  refine (candid_headerBytes 10).bind fun fixed => .optional (candid_throw (by decide)) ?_
  have hrest (origin : Nat) {a b c : Prop} [Decidable a] [Decidable b] [Decidable c] :=
    Candid.optional (c := a) candid_headerText (Candid.optional (c := b) candid_headerText
      (Candid.optional (c := c) candid_headerCheck (candid_pure origin)))
  exact .ite (candid_headerField.bind fun origin => hrest origin) ((candid_pure 0).bind fun origin => hrest origin)

theorem candid_unpackGzip (data : Bytes) : (unpackGzip data).Candid := by
  unfold unpackGzip
  split
  · rename_i e he
    refine ⟨trivial, ?_⟩
    rintro f ⟨⟩
    have hother : some otherError ≠ some tooLargeSource := by decide
    exact ⟨candid_gzipHead _ e he, hother⟩
  · exact candid_unpackWith (fun o s h => candid_closeGzip h s) (Outlet.clean_start _ _ _) _

end BrokerClient.Deflate
