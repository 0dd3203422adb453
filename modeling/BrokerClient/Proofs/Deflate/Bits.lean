import Mathlib.Algebra.Group.Nat.Defs
import BrokerClient.Deflate.Inflate

/-!
# Bits read back

`pack` puts bits into bytes and only adds zeros at the end (`bytesBits_pack`). A source that has begun at
most one byte is known by the bits still to come: their number says where the bytes begin (`eq_of_toBits`).
`Scan.Yields` says of a step of reading which bits it takes and what it makes of them, whatever comes
behind; steps are put together by `Yields.bind`.
-/

namespace BrokerClient.Deflate

/-! ## Bits of numbers and bytes -/

/-- The bits of bytes, the lowest of each first. -/
def bytesBits (bytes : Bytes) : List Bool := bytes.flatMap fun b => bitsOf 8 b.toNat

@[simp] theorem bytesBits_nil : bytesBits [] = [] := rfl

@[simp] theorem bytesBits_cons (b : UInt8) (bytes : Bytes) :
    bytesBits (b :: bytes) = bitsOf 8 b.toNat ++ bytesBits bytes := rfl

@[simp] theorem bytesBits_append (a b : Bytes) : bytesBits (a ++ b) = bytesBits a ++ bytesBits b := by
  simp [bytesBits]

theorem length_bytesBits (bytes : Bytes) : (bytesBits bytes).length = 8 * bytes.length := by
  induction bytes with
  | nil => rfl
  | cons b bytes ih => rw [bytesBits_cons, List.length_append, length_bitsOf, ih, List.length_cons]; omega

theorem ofBits_lt (bits : List Bool) : ofBits bits < 2 ^ bits.length := by
  induction bits with
  | nil => exact Nat.one_pos
  | cons b bits ih =>
    rw [ofBits, List.length_cons, Nat.pow_succ]
    have := Bool.toNat_le b
    omega

/-- A number has the bits that spell it, and zeros above. -/
theorem bitsOf_ofBits (bits : List Bool) (n : Nat) (h : bits.length ≤ n) :
    bitsOf n (ofBits bits) = bits ++ List.replicate (n - bits.length) false := by
  induction n generalizing bits with
  | zero => rw [List.length_eq_zero_iff.1 (Nat.le_zero.1 h)]; rfl
  | succ n ih =>
    cases bits with
    | nil =>
      have := ih [] (Nat.zero_le n)
      simp only [ofBits, List.nil_append, List.length_nil, Nat.sub_zero] at this ⊢
      rw [bitsOf, List.replicate_succ, Nat.zero_div, this]
      rfl
    | cons b bits =>
      have hle := Bool.toNat_le b
      have hmod : (b.toNat + 2 * ofBits bits) % 2 = b.toNat := by omega
      have hdiv : (b.toNat + 2 * ofBits bits) / 2 = ofBits bits := by omega
      rw [List.length_cons] at h ⊢
      rw [ofBits, bitsOf, hmod, hdiv, ih bits (by omega), Nat.add_sub_add_right, List.cons_append]
      cases b <;> rfl

/-- A byte made of at most eight bits has these bits, and zeros above. -/
theorem bitsOf_toUInt8 (bits : List Bool) (h : bits.length ≤ 8) :
    bitsOf 8 (ofBits bits).toUInt8.toNat = bits ++ List.replicate (8 - bits.length) false := by
  have hlt : ofBits bits < 256 := Nat.lt_of_lt_of_le (ofBits_lt bits) (Nat.pow_le_pow_right (by decide) h)
  rw [Nat.toUInt8_eq, UInt8.toNat_ofNat', Nat.mod_eq_of_lt hlt, bitsOf_ofBits bits 8 h]

/-- A list that does not begin with eight elements is shorter. -/
theorem length_lt_eight {α : Type} :
    (l : List α) → (∀ a b c d e f g h rest, l = a :: b :: c :: d :: e :: f :: g :: h :: rest → False) → l.length < 8
  | [], _ | [_], _ | [_, _], _ | [_, _, _], _ | [_, _, _, _], _ | [_, _, _, _, _], _ | [_, _, _, _, _, _], _
  | [_, _, _, _, _, _, _], _ => by simp
  | _ :: _ :: _ :: _ :: _ :: _ :: _ :: _ :: _, hl => (hl _ _ _ _ _ _ _ _ _ rfl).elim

theorem pack_go (bits : List Bool) (out : Array UInt8) :
    ∃ pad, pad.length < 8 ∧ bytesBits (pack.go bits out).toList = bytesBits out.toList ++ bits ++ pad := by
  fun_induction pack.go bits out with
  | case1 a b c d e f g h rest out ih =>
    obtain ⟨pad, hlen, hpad⟩ := ih
    refine ⟨pad, hlen, ?_⟩
    rw [hpad, Array.toList_push, bytesBits_append, bytesBits_cons, bytesBits_nil, bitsOf_toUInt8 _ (by simp)]
    simp
  | case2 out => exact ⟨[], by simp, by simp⟩
  | case3 last out hlast hne =>
    have hlen : last.length < 8 := length_lt_eight last hlast
    have hpos : 0 < last.length := List.length_pos_iff.2 hne
    refine ⟨List.replicate (8 - last.length) false, by rw [List.length_replicate]; omega, ?_⟩
    rw [Array.toList_push, bytesBits_append, bytesBits_cons, bytesBits_nil, bitsOf_toUInt8 _ (by omega)]
    simp

theorem bytesBits_pack (bits : List Bool) : ∃ pad, pad.length < 8 ∧ bytesBits (pack bits) = bits ++ pad := by
  obtain ⟨pad, hlen, h⟩ := pack_go bits #[]
  exact ⟨pad, hlen, by simpa [pack] using h⟩

theorem bytesBits_injective {a b : Bytes} (h : bytesBits a = bytesBits b) : a = b := by
  induction a generalizing b with
  | nil =>
    have := congrArg List.length h
    rw [length_bytesBits, length_bytesBits, List.length_nil] at this
    exact (List.length_eq_zero_iff.1 (by omega)).symm
  | cons x a ih =>
    cases b with
    | nil =>
      have := congrArg List.length h
      rw [length_bytesBits, length_bytesBits, List.length_cons, List.length_nil] at this
      omega
    | cons y b =>
      rw [bytesBits_cons, bytesBits_cons] at h
      obtain ⟨hx, ht⟩ := List.append_inj h (by simp)
      have hxy : x.toNat = y.toNat := by
        have := congrArg ofBits hx
        rw [ofBits_bitsOf, ofBits_bitsOf] at this
        have hx := x.toNat_lt
        have hy := y.toNat_lt
        rwa [Nat.mod_eq_of_lt hx, Nat.mod_eq_of_lt hy] at this
      rw [UInt8.toNat_inj.1 hxy, ih ht]

/-! ## Sources -/

namespace BitSource

/-- No more than one byte is begun. -/
def Tidy (s : BitSource) : Prop := s.begun.length < 8

theorem toBits_eq (s : BitSource) : s.toBits = s.begun ++ bytesBits s.bytes := rfl

theorem next?_of_toBits {s : BitSource} (hs : s.Tidy) {bit : Bool} {rest : List Bool} (h : s.toBits = bit :: rest) :
    ∃ s', s.next? = some (bit, s') ∧ s'.Tidy ∧ s'.toBits = rest := by
  have hnext := s.next?_eq
  rw [h] at hnext
  obtain ⟨⟨bit', s'⟩, hs', he⟩ := Option.map_eq_some_iff.1 hnext
  cases he
  refine ⟨s', hs', ?_, rfl⟩
  unfold next? at hs'
  split at hs'
  · rename_i hb
    cases hs'
    simp only [Tidy, hb, List.length_cons] at hs ⊢
    omega
  · split at hs'
    · cases hs'
    · cases hs'
      simp [Tidy]

/-- The number of bits still to come says where the bytes begin. -/
theorem eq_of_toBits {s : BitSource} (hs : s.Tidy) {pad : List Bool} {bytes : Bytes} (hp : pad.length < 8)
    (h : s.toBits = pad ++ bytesBits bytes) : s.begun = pad ∧ s.bytes = bytes := by
  have hlen := congrArg List.length h
  rw [toBits_eq, List.length_append, List.length_append, length_bytesBits, length_bytesBits] at hlen
  obtain ⟨hb, ht⟩ := List.append_inj h (by unfold Tidy at hs; omega)
  exact ⟨hb, bytesBits_injective ht⟩

end BitSource

/-! ## Steps of reading -/

/-- A step takes just these bits and makes this of them, whatever comes behind. -/
def Scan.Yields {α : Type} (m : Scan α) (bits : List Bool) (a : α) : Prop :=
  ∀ (s : BitSource) (rest : List Bool), s.Tidy → s.toBits = bits ++ rest →
    ∃ s', m s = (.ok a, s') ∧ s'.Tidy ∧ s'.toBits = rest

namespace Scan

variable {α β : Type}

theorem bind_apply {m : Scan α} {f : α → Scan β} {s s' : BitSource} {a : α} (h : m s = (.ok a, s')) :
    (m >>= f) s = f a s' := by
  show (ExceptT.bind m f) s = _
  simp only [ExceptT.bind, ExceptT.mk, bind, StateT.bind]
  rw [h]
  rfl

theorem Yields.pure (a : α) : Yields (Pure.pure a : Scan α) [] a := fun s _ hs h => ⟨s, rfl, hs, h⟩

theorem Yields.bind {m : Scan α} {f : α → Scan β} {bits bits' : List Bool} {a : α} {b : β} (hm : Yields m bits a)
    (hf : Yields (f a) bits' b) : Yields (m >>= f) (bits ++ bits') b := by
  intro s rest hs h
  obtain ⟨s₁, h₁, ht₁, hb₁⟩ := hm s (bits' ++ rest) hs (by rw [h, List.append_assoc])
  obtain ⟨s₂, h₂, ht₂, hb₂⟩ := hf s₁ rest ht₁ hb₁
  exact ⟨s₂, (bind_apply h₁).trans h₂, ht₂, hb₂⟩

/-- A step behind which something is done with the result only. -/
theorem Yields.map {m : Scan α} {bits : List Bool} {a : α} (hm : Yields m bits a) (f : α → β) :
    Yields (do return f (← m)) bits (f a) := by
  have := hm.bind (f := fun a => Pure.pure (f a)) (Yields.pure (f a))
  rwa [List.append_nil] at this

end Scan

theorem take?_of_toBits {s : BitSource} (hs : s.Tidy) (n value : Nat) {rest : List Bool}
    (h : s.toBits = bitsOf n value ++ rest) :
    ∃ s', s.take? n = some (value % 2 ^ n, s') ∧ s'.Tidy ∧ s'.toBits = rest := by
  induction n generalizing s value with
  | zero => exact ⟨s, by rw [Nat.pow_zero, Nat.mod_one]; rfl, hs, h⟩
  | succ n ih =>
    obtain ⟨s₁, h₁, ht₁, hb₁⟩ := s.next?_of_toBits hs h
    obtain ⟨s₂, h₂, ht₂, hb₂⟩ := ih ht₁ (value / 2) hb₁
    refine ⟨s₂, ?_, ht₂, hb₂⟩
    have hbit : (value % 2 == 1).toNat = value % 2 := by
      rcases Nat.mod_two_eq_zero_or_one value with h | h <;> rw [h] <;> rfl
    simp only [BitSource.take?, h₁, h₂, Option.bind_eq_bind, Option.bind_some, hbit]
    rw [Nat.pow_succ', Nat.mod_mul]
    rfl

/-- Reading a number of so many bits. -/
theorem yields_bits {n value : Nat} (h : value < 2 ^ n) : Scan.Yields (bits n) (bitsOf n value) value := by
  intro s rest hs hb
  obtain ⟨s', h', ht, hr⟩ := take?_of_toBits hs n value hb
  rw [Nat.mod_eq_of_lt h] at h'
  exact ⟨s', by simp only [bits, h'], ht, hr⟩

end BrokerClient.Deflate
