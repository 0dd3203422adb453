import BrokerClient.ByteStream.Program

/-!
# Sources that hand on some bytes and then their end

`Streams s b` says of a source that, whatever is asked of it and for however long, it hands on the bytes `b` and
then nothing more, without a failure and without an end before the end. A guard leaves the stream as it is, and never
overflows, when the bytes are within its bound (`Streams.bounded`, `overflowed_run`). Reading to the end gives the bytes
(`run_toEnd`), or overruns the bound when they are more (`overflow_toEnd`).
-/

namespace BrokerClient.ByteStream

/-- Every request is answered with the next of these bytes, and with none only if none were asked for or none are
left; `Left` holds of what is left. -/
def Answers {σ : Type} [ByteSource σ] (Left : σ → Bytes → Prop) (s : σ) (bytes : Bytes) : Prop :=
  ∀ n, ∃ piece rest s', read s n = (.ok piece, s') ∧ bytes = piece ++ rest ∧ (piece = [] → n = 0 ∨ bytes = []) ∧
    Left s' rest

/-- The source hands on these bytes and then its end: it answers one request after the other, however many there are.
This is the greatest predicate that leads to itself, so whatever leads to itself implies it (`Streams.coinduct`). -/
def Streams {σ : Type} [ByteSource σ] (s : σ) (bytes : Bytes) : Prop :=
  ∃ Left : σ → Bytes → Prop, Left s bytes ∧ ∀ s bytes, Left s bytes → Answers Left s bytes

section Sources

variable {σ : Type} [ByteSource σ]

theorem Streams.read {s : σ} {bytes : Bytes} (h : Streams s bytes) (n : Nat) :
    ∃ piece rest s', ByteStream.read s n = (.ok piece, s') ∧ bytes = piece ++ rest ∧
      (piece = [] → n = 0 ∨ bytes = []) ∧ Streams s' rest := by
  obtain ⟨Left, hleft, hanswers⟩ := h
  obtain ⟨piece, rest, s', hread, hsplit, hempty, hrest⟩ := hanswers s bytes hleft n
  exact ⟨piece, rest, s', hread, hsplit, hempty, Left, hrest, hanswers⟩

theorem Streams.coinduct (Left : σ → Bytes → Prop) (hanswers : ∀ s bytes, Left s bytes → Answers Left s bytes) (s : σ)
    (bytes : Bytes) (h : Left s bytes) : Streams s bytes := ⟨Left, h, hanswers⟩

/-- Plain bytes are a stream. -/
theorem streams_bytes (bytes : Bytes) : Streams bytes bytes := by
  refine Streams.coinduct (fun s bytes => s = bytes) ?_ bytes bytes rfl
  rintro s _ rfl n
  refine ⟨s.take n, s.drop n, s.drop n, rfl, (List.take_append_drop n s).symm, fun htake => ?_, rfl⟩
  exact List.take_eq_nil_iff.1 htake

/-- A source that answers as another one does hands on the same stream. -/
theorem Streams.map {τ : Type} [ByteSource τ] (f : σ → τ)
    (hf : ∀ s n, ByteStream.read (f s) n = ((ByteStream.read s n).1, f (ByteStream.read s n).2)) {s : σ} {bytes : Bytes}
    (h : Streams s bytes) : Streams (f s) bytes := by
  refine Streams.coinduct (fun t bytes => ∃ s, t = f s ∧ Streams s bytes) ?_ _ bytes ⟨s, rfl, h⟩
  rintro _ bytes ⟨s, rfl, h⟩ n
  obtain ⟨piece, rest, s', hread, hsplit, hempty, hrest⟩ := h.read n
  exact ⟨piece, rest, f s', by rw [hf, hread], hsplit, hempty, s', rfl, hrest⟩

/-! ## Guards -/

/-- What a guard within its bound does at a request: it passes it on, or finds the end. -/
theorem Streams.readUpTo {s : BoundedSource σ} {bytes : Bytes} (h : Streams s.inner bytes)
    (hb : bytes.length ≤ s.remaining) (n : Nat) :
    ∃ piece rest s', s.readUpTo n = (.ok piece, s') ∧ bytes = piece ++ rest ∧ (piece = [] → n = 0 ∨ bytes = []) ∧
      Streams s'.inner rest ∧ rest.length ≤ s'.remaining ∧ s'.overflowed = s.overflowed := by
  by_cases hn : n = 0
  · exact ⟨[], bytes, s, by rw [BoundedSource.readUpTo, if_pos hn], rfl, fun _ => .inl hn, h, hb, rfl⟩
  by_cases hr : s.remaining = 0
  · obtain rfl : bytes = [] := List.length_eq_zero_iff.1 (by omega)
    obtain ⟨piece, rest, inner, hread, hsplit, -, hrest⟩ := h.read 1
    obtain ⟨rfl, rfl⟩ := List.append_eq_nil_iff.1 hsplit.symm
    refine ⟨[], [], { s with inner }, ?_, rfl, fun _ => .inr rfl, hrest, Nat.zero_le _, rfl⟩
    rw [BoundedSource.readUpTo, if_neg hn, if_pos hr, BoundedSource.probe, hread]
  · obtain ⟨piece, rest, inner, hread, hsplit, hempty, hrest⟩ := h.read (min n s.remaining)
    refine ⟨piece, rest, { s with inner, remaining := s.remaining - piece.length }, ?_, hsplit, ?_, hrest, ?_, rfl⟩
    · rw [BoundedSource.readUpTo, if_neg hn, if_neg hr, BoundedSource.forward, hread]
    · intro hp
      rcases hempty hp with hmin | hend
      · omega
      · exact .inr hend
    · rw [hsplit, List.length_append] at hb
      show rest.length ≤ s.remaining - piece.length
      omega

/-- A guard leaves a stream within its bound as it is. -/
theorem Streams.bounded {s : BoundedSource σ} {bytes : Bytes} (h : Streams s.inner bytes)
    (hb : bytes.length ≤ s.remaining) : Streams s bytes := by
  refine Streams.coinduct (fun s bytes => Streams s.inner bytes ∧ bytes.length ≤ s.remaining) ?_ s bytes ⟨h, hb⟩
  rintro s bytes ⟨h, hb⟩ n
  obtain ⟨piece, rest, s', hread, hsplit, hempty, hrest, hlen, -⟩ := h.readUpTo hb n
  exact ⟨piece, rest, s', hread, hsplit, hempty, hrest, hlen⟩

/-- No program overruns the bound of a guard whose stream is within it. -/
theorem overflowed_run {α : Type} (p : Reading α) {s : BoundedSource σ} {bytes : Bytes} (h : Streams s.inner bytes)
    (hb : bytes.length ≤ s.remaining) : (p.run s).2.overflowed = s.overflowed := by
  induction p generalizing s bytes with
  | done result => rfl
  | read n next ih =>
    obtain ⟨piece, rest, s', hread, -, -, hrest, hlen, hover⟩ := h.readUpTo hb n
    have hrun : (Reading.read n next).run s = (next (.ok piece)).run s' := by
      rw [Reading.run, show ByteStream.read s n = (.ok piece, s') from hread]
    rw [hrun, ih _ hrest hlen, hover]

/-! ## Reading to the end -/

/-- Reading to the end gives all bytes. -/
theorem run_toEnd {size : Nat} (hsize : 0 < size) {fuel : Nat} (pieces : List Bytes) {s : σ} {bytes : Bytes}
    (h : Streams s bytes) (hf : bytes.length < fuel) :
    ((Reading.toEnd size fuel pieces).run s).1 = .ok (pieces.reverse.flatten ++ bytes) := by
  induction fuel generalizing pieces s bytes with
  | zero => exact absurd hf (Nat.not_lt_zero _)
  | succ fuel ih =>
    obtain ⟨piece, rest, s', hread, hsplit, hempty, hrest⟩ := h.read size
    rw [Reading.toEnd, Reading.run, hread]
    cases piece with
    | nil =>
      have hend : bytes = [] := (hempty rfl).resolve_left (Nat.ne_of_gt hsize)
      rw [hend, List.append_nil]
      rfl
    | cons b piece =>
      rw [hsplit, List.length_append, List.length_cons] at hf
      show ((Reading.toEnd size fuel ((b :: piece) :: pieces)).run s').1 = _
      rw [ih _ hrest (by omega), hsplit, List.reverse_cons, List.flatten_append, List.flatten_singleton,
        List.append_assoc]

/-- Reading to the end of a stream that is longer than the bound overruns it. -/
theorem overflow_toEnd {size : Nat} (hsize : 0 < size)
    {fuel : Nat} (pieces : List Bytes) {s : BoundedSource σ} {bytes : Bytes} (h : Streams s.inner bytes)
    (hlong : s.remaining < bytes.length) (hfuel : s.remaining < fuel) :
    ((Reading.toEnd size fuel pieces).run s).1 = .error tooLargeSource ∧
      ((Reading.toEnd size fuel pieces).run s).2.overflowed = true := by
  induction fuel generalizing pieces s bytes with
  | zero => exact absurd hfuel (Nat.not_lt_zero _)
  | succ fuel ih =>
    by_cases hr : s.remaining = 0
    · obtain ⟨piece, rest, inner, hread, rfl, hempty, hrest⟩ := h.read 1
      have hprobe : s.readUpTo size = (.error tooLargeSource, { s with inner, overflowed := true }) := by
        rw [BoundedSource.readUpTo, if_neg (Nat.ne_of_gt hsize), if_pos hr, BoundedSource.probe, hread]
        cases piece with
        | nil =>
          have hend : [] ++ rest = [] := (hempty rfl).resolve_left Nat.one_ne_zero
          rw [hend] at hlong
          exact absurd hlong (Nat.not_lt_zero _)
        | cons b piece => rfl
      rw [Reading.toEnd, Reading.run, show ByteStream.read s size = _ from hprobe]
      exact ⟨rfl, rfl⟩
    · obtain ⟨piece, rest, inner, hread, rfl, hempty, hrest⟩ := h.read (min size s.remaining)
      have hlength : piece.length ≤ min size s.remaining := ByteSource.length_read_le (congrArg Prod.fst hread)
      have hforward : s.readUpTo size =
          (.ok piece, { s with inner, remaining := s.remaining - piece.length }) := by
        rw [BoundedSource.readUpTo, if_neg (Nat.ne_of_gt hsize), if_neg hr, BoundedSource.forward, hread]
      rw [List.length_append] at hlong
      rw [Reading.toEnd, Reading.run, show ByteStream.read s size = _ from hforward]
      cases piece with
      | nil =>
        rcases hempty rfl with hzero | hend
        · omega
        · rw [List.nil_append] at hend
          rw [hend] at hlong
          exact absurd hlong (Nat.not_lt_zero _)
      | cons b piece =>
        rw [List.length_cons] at hlong hlength
        exact ih ((b :: piece) :: pieces) hrest (by dsimp only [List.length_cons]; omega)
          (by dsimp only [List.length_cons]; omega)

end Sources

end BrokerClient.ByteStream
