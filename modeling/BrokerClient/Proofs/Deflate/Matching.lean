import BrokerClient.Proofs.Deflate.Symbols

/-!
# Tokens say the bytes they were made of

A copy is made only of bytes that were compared (`agreement_spec`), so repeating them gives the next bytes of
the data (`copyBack_extract`). Token by token, `tokensFrom` extends what is said from one place of the data
to its end: `expand_say` states that for a compressor, whatever it remembers.
-/

namespace BrokerClient.Deflate

variable {data : Array UInt8}

/-- One more byte of the data. -/
theorem extract_push_getD {i : Nat} (h : i < data.size) :
    (data.extract 0 i).push (data.getD i 0) = data.extract 0 (i + 1) := by
  rw [Array.extract_succ_right (Nat.succ_pos i) h, Array.getD_eq_getD_getElem?, Array.getElem?_eq_getElem h,
    Option.getD_some]

theorem agreement_spec (data : Array UInt8) (a b limit : Nat) :
    agreement data a b limit ≤ limit ∧ ∀ k < agreement data a b limit,
      b + k < data.size ∧ data.getD (a + k) 0 = data.getD (b + k) 0 := by
  induction limit generalizing a b with
  | zero => exact ⟨Nat.le_refl 0, fun k hk => absurd hk (Nat.not_lt_zero k)⟩
  | succ limit ih =>
    unfold agreement
    split
    · rename_i hb
      obtain ⟨hle, hall⟩ := ih (a + 1) (b + 1)
      refine ⟨Nat.succ_le_succ hle, fun k hk => ?_⟩
      cases k with
      | zero => exact hb
      | succ k =>
        have := hall k (by omega)
        rwa [Nat.add_assoc, Nat.add_assoc, Nat.add_comm 1 k] at this
    · exact ⟨Nat.zero_le _, fun k hk => absurd hk (Nat.not_lt_zero k)⟩

/-- Repeating bytes that were compared gives the next bytes of the data. -/
theorem copyBack_extract {e i : Nat} (he : e < i) (length : Nat)
    (h : ∀ k < length, i + k < data.size ∧ data.getD (e + k) 0 = data.getD (i + k) 0) :
    copyBack (i - e) length (data.extract 0 i) = data.extract 0 (i + length) := by
  induction length generalizing e i with
  | zero => rfl
  | succ n ih =>
    obtain ⟨hi, heq⟩ := h 0 (Nat.succ_pos n)
    rw [Nat.add_zero, Nat.add_zero] at heq
    rw [Nat.add_zero] at hi
    have hsize : (data.extract 0 i).size = i := by rw [Array.size_extract]; omega
    have hback : byteBack (data.extract 0 i) (i - e) = data.getD i 0 := by
      rw [byteBack, hsize, if_pos (Nat.sub_le i e), show i - (i - e) = e by omega, ← heq]
      simp only [Array.getD_eq_getD_getElem?]
      rw [Array.getElem?_extract, if_pos (by omega), Nat.zero_add]
    rw [copyBack, hback, extract_push_getD hi, show i - e = i + 1 - (e + 1) by omega, ih (by omega) fun k hk => ?_]
    · rw [Nat.add_right_comm, Nat.add_assoc]
    · have := h (k + 1) (by omega)
      rwa [← Nat.add_assoc, ← Nat.add_assoc, Nat.add_right_comm, Nat.add_right_comm e] at this

/-- A copy is one that can be written, and says the bytes from its place on. -/
theorem copyAt?_spec {places : Places} {i : Nat} {t : Token} (h : copyAt? data places i = some t) :
    t.Valid ∧ 0 < t.size ∧ i + t.size ≤ data.size ∧ t.apply (data.extract 0 i) = data.extract 0 (i + t.size) := by
  unfold copyAt? at h
  split at h
  · cases h
  · rename_i e _
    dsimp only at h
    split at h
    · rename_i hc
      cases h
      obtain ⟨he, hdist, hmin⟩ := hc
      obtain ⟨hmax, hall⟩ := agreement_spec data e i maxCopy
      have hlast := (hall (agreement data e i maxCopy - 1) (by omega)).1
      refine ⟨⟨hmin, hmax, by omega, hdist⟩, ?_, ?_, copyBack_extract he _ hall⟩
      · simp only [Token.size]; omega
      · simp only [Token.size]; omega
    · cases h

theorem tokenAt_spec (places : Places) {i : Nat} (hi : i < data.size) :
    (tokenAt data places i).Valid ∧ 0 < (tokenAt data places i).size ∧
      i + (tokenAt data places i).size ≤ data.size ∧
      (tokenAt data places i).apply (data.extract 0 i) = data.extract 0 (i + (tokenAt data places i).size) := by
  unfold tokenAt
  cases hc : copyAt? data places i with
  | some t => exact copyAt?_spec hc
  | none => exact ⟨trivial, Nat.one_pos, hi, extract_push_getD hi⟩

/-- The tokens that are made extend what was said up to a place to the end of the data. -/
theorem tokensFrom_spec (data : Array UInt8) (fuel : Nat) {i : Nat} (places : Places) (said : List Token) (hi : i ≤ data.size)
    (hfuel : data.size ≤ i + fuel) :
    ∃ made, (tokensFrom data fuel i places said).1 = made.reverse ++ said ∧ (∀ t ∈ made, t.Valid) ∧
      expand made (data.extract 0 i) = data := by
  induction fuel generalizing i places said with
  | zero =>
    refine ⟨[], rfl, fun t ht => absurd ht List.not_mem_nil, ?_⟩
    rw [expand, List.foldl_nil, show i = data.size by omega, Array.extract_size]
  | succ fuel ih =>
    unfold tokensFrom
    split
    · rename_i hlt
      obtain ⟨hvalid, hpos, hle, happly⟩ := tokenAt_spec places hlt
      obtain ⟨made, hmade, hall, hexp⟩ := ih (remember data (tokenAt data places i).size i places)
        (tokenAt data places i :: said) hle (by omega)
      refine ⟨tokenAt data places i :: made, ?_, ?_, ?_⟩
      · rw [hmade, List.reverse_cons, List.append_assoc]; rfl
      · rintro t ht
        rcases List.mem_cons.1 ht with rfl | ht
        · exact hvalid
        · exact hall t ht
      · exact (congrArg (expand made) happly).trans hexp
    · refine ⟨[], rfl, fun t ht => absurd ht List.not_mem_nil, ?_⟩
      rw [expand, List.foldl_nil, show i = data.size by omega, Array.extract_size]

/-! ## Compressors -/

namespace Compressor

/-- What was said is part of the data. -/
def Coherent (c : Compressor) : Prop := c.said ≤ c.data.size

theorem data_push (c : Compressor) (bytes : Bytes) : (c.push bytes).data = c.data ++ bytes.toArray := by
  simp only [push]
  induction bytes generalizing c with
  | nil => simp
  | cons b bytes ih =>
    rw [List.foldl_cons, ih ⟨c.data.push b, c.said, c.places⟩]
    simp

theorem coherent_push {c : Compressor} (h : c.Coherent) (bytes : Bytes) : (c.push bytes).Coherent := by
  have hdata := congrArg Array.size (c.data_push bytes)
  rw [Array.size_append] at hdata
  show c.said ≤ (c.push bytes).data.size
  have : c.said ≤ c.data.size := h
  omega

/-- **What is said is the data.** The tokens turn the bytes said before into all of them. -/
theorem expand_say {c : Compressor} (h : c.Coherent) :
    (∀ t ∈ c.say.1, t.Valid) ∧ expand c.say.1 (c.data.extract 0 c.said) = c.data := by
  have hle : c.said ≤ c.data.size := h
  obtain ⟨made, hmade, hall, hexp⟩ :=
    tokensFrom_spec c.data (c.data.size - c.said) c.places [] hle (by omega)
  have hsay : c.say.1 = made := by
    simp only [say, hmade, List.append_nil, List.reverse_reverse]
  rw [hsay]
  exact ⟨hall, hexp⟩

end Compressor

end BrokerClient.Deflate
