import BrokerClient.Proofs.Deflate.Matching

/-!
# Blocks read back

What a compressor hands on at a time are whole bytes: a block in the fixed code and, unless it is the last,
an empty block that fills up the last byte. `Continues` and `Ends` say of such bytes that reading them, from
a place where no byte is begun, turns what came out before into what comes out after; `Continues.append` puts
pieces one behind the other. No bound of a loop is reached, since every token and every block takes at least
one bit. `inflate_pieces` is the result for whole data.
-/

namespace BrokerClient.Deflate

/-! ## Outlets that do not give up -/

namespace Outlet

/-- No pause is one at which bytes are lost. -/
def Clean (o : Outlet) : Prop := ∀ p ∈ o.pauses, p.after ≠ .givesUp

theorem clean_start (total origin bit : Nat) : (start total origin bit).Clean := fun _ hp => absurd hp List.not_mem_nil

theorem Clean.pause {o : Outlet} (h : o.Clean) {after : After} (ha : after ≠ .givesUp) : (o.pause after).Clean := by
  intro p hp
  rcases List.mem_cons.1 hp with rfl | hp
  · exact ha
  · exact h p hp

theorem Clean.await {o : Outlet} (h : o.Clean) (bit : Nat) : (o.await bit).Clean := by
  unfold Outlet.await
  split
  · exact h
  · exact h.pause (show After.rests ≠ .givesUp by decide)

theorem Clean.makeRoom {o : Outlet} (h : o.Clean) (taken : Nat) : (o.makeRoom taken).Clean := by
  unfold Outlet.makeRoom
  split
  · exact h
  · split
    · exact h.pause (by decide)
    · exact h.pause (show After.rests ≠ .givesUp by decide)

theorem Clean.push {o : Outlet} (h : o.Clean) (taken : Nat) (b : UInt8) : (o.push taken b).Clean :=
  h.makeRoom taken

theorem Clean.pushCopy {o : Outlet} (h : o.Clean) (taken distance n : Nat) : (o.pushCopy taken distance n).Clean := by
  induction n generalizing o with
  | zero => exact h
  | succ n ih => exact ih (h.push taken _)

theorem Clean.put {o : Outlet} (h : o.Clean) (taken : Nat) (t : Token) : (o.put taken t).Clean := by
  cases t with
  | literal b => exact (h.await taken).push taken b
  | copy length distance => exact (h.await taken).pushCopy taken distance length

end Outlet

/-! ## Tokens -/

theorem length_flatMap_toBits {ts : List Token} (h : ∀ t ∈ ts, t.Valid) :
    ts.length ≤ (ts.flatMap Token.toBits).length := by
  induction ts with
  | nil => exact Nat.le_refl 0
  | cons t ts ih =>
    have hpos := List.length_pos_iff.2 (yields_token (h t (List.mem_cons_self ..))).1
    have hrest := ih fun t ht => h t (List.mem_cons_of_mem _ ht)
    rw [List.flatMap_cons, List.length_append, List.length_cons]
    omega

/-- The tokens of a block come out as what they say. -/
theorem tokens_fixedCodes {ts : List Token} (hv : ∀ t ∈ ts, t.Valid) {fuel : Nat} (hf : ts.length < fuel) {o : Outlet}
    (ho : o.Clean) {s : BitSource} (hs : s.Tidy) {rest : List Bool}
    (hb : s.toBits = ts.flatMap Token.toBits ++ (fixedLiterals.getD endOfBlock [] ++ rest)) :
    ∃ o' s', tokens fixedCodes fuel o s = ⟨o', .ok s'⟩ ∧ o'.Clean ∧ o'.out = expand ts o.out ∧ s'.Tidy ∧
      s'.toBits = rest := by
  induction ts generalizing fuel o s with
  | nil =>
    obtain ⟨fuel, rfl⟩ : ∃ n, fuel = n + 1 := ⟨fuel - 1, by omega⟩
    rw [List.flatMap_nil, List.nil_append] at hb
    obtain ⟨s', h', hr⟩ := yields_endOfBlock s rest hs hb
    refine ⟨o, s', ?_, ho, rfl, hr⟩
    simp only [tokens, h']
  | cons t ts ih =>
    obtain ⟨fuel, rfl⟩ : ∃ n, fuel = n + 1 := ⟨fuel - 1, by omega⟩
    rw [List.flatMap_cons, List.append_assoc] at hb
    obtain ⟨s₁, h₁, ht₁, hb₁⟩ := (yields_token (hv t (List.mem_cons_self ..))).2 s _ hs hb
    obtain ⟨o', s', h', hc, hout, hr⟩ := ih (fun t ht => hv t (List.mem_cons_of_mem _ ht))
      (show ts.length < fuel by simpa using hf) (ho.put s₁.taken t) ht₁ hb₁
    refine ⟨o', s', ?_, hc, ?_, hr⟩
    · simp only [tokens, h₁, h']
    · rw [hout, Outlet.out_put]; rfl

/-! ## Blocks -/

/-- The source is before these bytes, and none of them is begun. -/
def BitSource.At (s : BitSource) (bytes : Bytes) : Prop := s.begun = [] ∧ s.bytes = bytes

theorem BitSource.At.tidy {s : BitSource} {bytes : Bytes} (h : s.At bytes) : s.Tidy := by
  rw [BitSource.Tidy, h.1]; decide

theorem BitSource.At.toBits {s : BitSource} {bytes : Bytes} (h : s.At bytes) : s.toBits = bytesBits bytes := by
  rw [s.toBits_eq, h.1, h.2, List.nil_append]

/-- What is left of a byte is dropped, and the bytes behind it come next. -/
theorem BitSource.at_align {s : BitSource} (hs : s.Tidy) {pad : List Bool} {bytes : Bytes} (hp : pad.length < 8)
    (h : s.toBits = pad ++ bytesBits bytes) : s.align.At bytes := ⟨rfl, (s.eq_of_toBits hs hp h).2⟩

/-- Two numbers one behind the other. -/
theorem yields_pair {m n a b : Nat} (ha : a < 2 ^ m) (hb : b < 2 ^ n) :
    Scan.Yields (do return (← bits m, ← bits n) : Scan (Nat × Nat)) (bitsOf m a ++ bitsOf n b) (a, b) := by
  rw [← List.append_nil (bitsOf n b)]
  exact (yields_bits ha).bind ((yields_bits hb).bind (.pure _))

/-- A block in the fixed code: reading goes on behind it, or ends if it was the last. -/
theorem blocks_fixedBlock (final : Bool) {ts : List Token} (hv : ∀ t ∈ ts, t.Valid) {symbols : Nat}
    (hf : ts.length < symbols) {o : Outlet} (ho : o.Clean) {s : BitSource} (hs : s.Tidy) {rest : List Bool}
    (hb : s.toBits = fixedBlock final ts ++ rest) :
    ∃ o' s', (∀ fuel, blocks symbols (fuel + 1) o s =
        if final = true then ⟨o', .ok s'⟩ else blocks symbols fuel o' s') ∧
      o'.Clean ∧ o'.out = expand ts o.out ∧ s'.Tidy ∧ s'.toBits = rest := by
  have hsplit : s.toBits = (bitsOf 1 final.toNat ++ bitsOf 2 1) ++
      (ts.flatMap Token.toBits ++ (fixedLiterals.getD endOfBlock [] ++ rest)) := by
    rw [hb, fixedBlock]
    cases final <;> simp [bitsOf]
  obtain ⟨s₁, h₁, ht₁, hb₁⟩ := yields_pair (by cases final <;> decide) (by decide) s _ hs hsplit
  obtain ⟨o', s', h', hc, hout, hr⟩ := tokens_fixedCodes hv hf ho ht₁ hb₁
  refine ⟨o', s', fun fuel => ?_, hc, hout, hr⟩
  simp only [blocks, h₁, block, h']
  cases final <;> rfl

/-- An empty block of bytes as they are fills up the byte begun. -/
theorem blocks_storedNothing (symbols : Nat) (o : Outlet) {s : BitSource} (hs : s.Tidy) {pad : List Bool} {rest : Bytes}
    (hp : pad.length < 8) (hb : s.toBits = storedStart ++ (pad ++ bytesBits (storedNothing ++ rest))) :
    ∃ s', (∀ fuel, blocks symbols (fuel + 1) o s = blocks symbols fuel o s') ∧ s'.At rest := by
  obtain ⟨s₁, h₁, ht₁, hb₁⟩ := yields_pair (m := 1) (n := 2) (a := 0) (b := 0) (by decide) (by decide) s _ hs hb
  have hat : s₁.align.At (storedNothing ++ rest) := BitSource.at_align ht₁ hp hb₁
  have hnumbers : s₁.align.toBits = (bitsOf 16 0 ++ bitsOf 16 65535) ++ bytesBits rest := by
    rw [hat.toBits, bytesBits_append]
    rfl
  obtain ⟨s₂, h₂, ht₂, hb₂⟩ := yields_pair (by decide) (by decide) s₁.align _ hat.tidy hnumbers
  obtain ⟨hbegun, hbytes⟩ := s₂.eq_of_toBits ht₂ (show ([] : List Bool).length < 8 by decide) hb₂
  refine ⟨s₂.dropBytes 0, fun fuel => ?_, hbegun, hbytes⟩
  simp only [blocks, h₁, block, stored, h₂]
  rfl

/-! ## Pieces -/

/-- Reading these bytes turns what came out before into what came out after, and goes on. -/
def Continues (piece : Bytes) (before after : Array UInt8) : Prop :=
  ∃ count ≤ piece.length, ∀ symbols o s rest, 8 * piece.length ≤ symbols → s.At (piece ++ rest) → o.Clean →
    o.out = before → ∃ o' s', (∀ fuel, blocks symbols (fuel + count) o s = blocks symbols fuel o' s') ∧
      s'.At rest ∧ o'.Clean ∧ o'.out = after

/-- Reading these bytes turns what came out before into what came out after, and ends. -/
def Ends (piece : Bytes) (before after : Array UInt8) : Prop :=
  ∀ symbols o s rest, 8 * piece.length ≤ symbols → s.At (piece ++ rest) → o.Clean → o.out = before →
    ∃ o' s', (∀ fuel, blocks symbols (fuel + 1) o s = ⟨o', .ok s'⟩) ∧ s'.align.At rest ∧ o'.Clean ∧ o'.out = after

theorem Continues.nil (out : Array UInt8) : Continues [] out out :=
  ⟨0, Nat.le_refl 0, fun _ o s _ _ hs ho hout => ⟨o, s, fun _ => rfl, hs, ho, hout⟩⟩

theorem Continues.append {a b : Bytes} {before between after : Array UInt8} (ha : Continues a before between)
    (hb : Continues b between after) : Continues (a ++ b) before after := by
  obtain ⟨n, hn, ha⟩ := ha
  obtain ⟨m, hm, hb⟩ := hb
  refine ⟨m + n, by rw [List.length_append]; omega, fun symbols o s rest hsym hs ho hout => ?_⟩
  rw [List.length_append] at hsym
  rw [List.append_assoc] at hs
  obtain ⟨o₁, s₁, h₁, hs₁, ho₁, hout₁⟩ := ha symbols o s (b ++ rest) (by omega) hs ho hout
  obtain ⟨o₂, s₂, h₂, hr⟩ := hb symbols o₁ s₁ rest (by omega) hs₁ ho₁ hout₁
  exact ⟨o₂, s₂, fun fuel => by rw [← Nat.add_assoc, h₁, h₂], hr⟩

/-- Tokens make fewer symbols than their block has bits. -/
theorem length_lt_of_pack {ts : List Token} (hv : ∀ t ∈ ts, t.Valid) (final : Bool) (behind : List Bool) {symbols : Nat}
    (h : 8 * (pack (fixedBlock final ts ++ behind)).length ≤ symbols) : ts.length < symbols := by
  obtain ⟨pad, -, hpad⟩ := bytesBits_pack (fixedBlock final ts ++ behind)
  have hlen := congrArg List.length hpad
  have htokens := length_flatMap_toBits hv
  have hblock : (ts.flatMap Token.toBits).length < (fixedBlock final ts).length := by
    simp only [fixedBlock, List.length_append, List.length_cons]
    omega
  rw [length_bytesBits, List.length_append, List.length_append] at hlen
  omega

theorem continues_sync {c : Compressor} (h : c.Coherent) :
    Continues c.sync.1 (c.data.extract 0 c.said) c.data := by
  obtain ⟨hv, hexp⟩ := c.expand_say h
  obtain ⟨pad, hp, hpad⟩ := bytesBits_pack (fixedBlock false c.say.1 ++ storedStart)
  have hsync : c.sync.1 = pack (fixedBlock false c.say.1 ++ storedStart) ++ storedNothing := rfl
  refine ⟨2, ?_, fun symbols o s rest hsym hs ho hout => ?_⟩
  · rw [hsync, List.length_append]
    exact Nat.le_add_left_of_le (by decide)
  · rw [hsync, List.length_append] at hsym
    have hbits : s.toBits = fixedBlock false c.say.1 ++
        (storedStart ++ (pad ++ bytesBits (storedNothing ++ rest))) := by
      rw [hs.toBits, hsync, List.append_assoc, bytesBits_append, hpad, List.append_assoc, List.append_assoc]
    have hlt : c.say.1.length < symbols := length_lt_of_pack hv false storedStart (by omega)
    obtain ⟨o₁, s₁, h₁, ho₁, hout₁, ht₁, hb₁⟩ := blocks_fixedBlock false hv hlt ho hs.tidy hbits
    obtain ⟨s₂, h₂, hs₂⟩ := blocks_storedNothing symbols o₁ ht₁ hp hb₁
    refine ⟨o₁, s₂, fun fuel => ?_, hs₂, ho₁, ?_⟩
    · exact (h₁ (fuel + 1)).trans (h₂ fuel)
    · rw [hout₁, hout, hexp]

theorem ends_finish {c : Compressor} (h : c.Coherent) : Ends c.finish (c.data.extract 0 c.said) c.data := by
  obtain ⟨hv, hexp⟩ := c.expand_say h
  obtain ⟨pad, hp, hpad⟩ := bytesBits_pack (fixedBlock true c.say.1)
  intro symbols o s rest hsym hs ho hout
  have hbits : s.toBits = fixedBlock true c.say.1 ++ (pad ++ bytesBits rest) := by
    rw [hs.toBits, Compressor.finish, bytesBits_append, hpad, List.append_assoc]
  have hlt : c.say.1.length < symbols := length_lt_of_pack hv true [] (by rwa [List.append_nil])
  obtain ⟨o₁, s₁, h₁, ho₁, hout₁, ht₁, hb₁⟩ := blocks_fixedBlock true hv hlt ho hs.tidy hbits
  exact ⟨o₁, s₁, h₁, BitSource.at_align ht₁ hp hb₁, ho₁, by rw [hout₁, hout, hexp]⟩

/-- **Inflating inverts compressing.** Pieces and then the last one come out as the data. -/
theorem inflate_pieces {pieces last : Bytes} {between data : Array UInt8} (hc : Continues pieces #[] between)
    (he : Ends last between data) {s : BitSource} {rest : Bytes} (hs : s.At (pieces ++ last ++ rest)) {o : Outlet}
    (ho : o.Clean) (hout : o.out = #[]) :
    ∃ o' s', inflate s o = ⟨o', .ok s'⟩ ∧ s'.align.At rest ∧ o'.Clean ∧ o'.out = data := by
  obtain ⟨count, hcount, hc⟩ := hc
  have hlen : s.bytes.length = pieces.length + last.length + rest.length := by
    rw [hs.2, List.length_append, List.length_append]
  rw [List.append_assoc] at hs
  obtain ⟨o₁, s₁, h₁, hs₁, ho₁, hout₁⟩ := hc (8 * s.bytes.length + 1) o s (last ++ rest) (by omega) hs ho hout
  obtain ⟨o₂, s₂, h₂, hr⟩ := he (8 * s.bytes.length + 1) o₁ s₁ rest (by omega) hs₁ ho₁ hout₁
  refine ⟨o₂, s₂, ?_, hr⟩
  obtain ⟨fuel, hfuel⟩ : ∃ fuel, 8 * s.bytes.length + 1 = fuel + 1 + count := ⟨8 * s.bytes.length - count, by omega⟩
  have hblocks := (h₁ (fuel + 1)).trans (h₂ fuel)
  rw [← hfuel] at hblocks
  exact hblocks

end BrokerClient.Deflate
