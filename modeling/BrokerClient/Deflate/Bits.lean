import BrokerClient.Text.Utf8

/-!
# Bits

Compressed data is a string of bits, the lowest bit of each byte first. `pack` puts bits into bytes,
`BitSource` takes them out again one at a time, and can drop what is left of a byte. The bits still to
come are `toBits`; `next?_eq` says that taking one takes the first of these.
-/

namespace BrokerClient.Deflate

/-- The lowest `n` bits of a number, lowest first. -/
def bitsOf : Nat → Nat → List Bool
  | 0, _ => []
  | n + 1, value => (value % 2 == 1) :: bitsOf n (value / 2)

/-- The lowest `n` bits of a number, highest first. -/
def codeBits (n value : Nat) : List Bool := (bitsOf n value).reverse

/-- The number that bits spell, lowest first. -/
def ofBits : List Bool → Nat
  | [] => 0
  | b :: bits => b.toNat + 2 * ofBits bits

@[simp] theorem length_bitsOf (n value : Nat) : (bitsOf n value).length = n := by
  induction n generalizing value with
  | zero => rfl
  | succ n ih => simp [bitsOf, ih]

theorem ofBits_bitsOf (n value : Nat) : ofBits (bitsOf n value) = value % Nat.pow 2 n := by
  induction n generalizing value with
  | zero => exact (Nat.mod_one value).symm
  | succ n ih =>
    rw [bitsOf, ofBits, ih, show Nat.pow 2 (n + 1) = 2 * Nat.pow 2 n from Nat.mul_comm _ _, Nat.mod_mul]
    congr 1
    rcases Nat.mod_two_eq_zero_or_one value with h | h <;> simp [h]

/-! ## Taking bits out -/

/-- Bytes of which the first may be partly taken. -/
structure BitSource where
  /-- What is left of the byte begun. -/
  begun : List Bool
  bytes : Bytes
  /-- How many bits have been taken. -/
  taken : Nat

namespace BitSource

def ofBytes (bytes : Bytes) : BitSource := ⟨[], bytes, 0⟩

/-- Takes whole bytes, when none is begun. -/
def dropBytes (n : Nat) (s : BitSource) : BitSource := ⟨s.begun, s.bytes.drop n, s.taken + 8 * n⟩

/-- The bits still to come. -/
def toBits (s : BitSource) : List Bool := s.begun ++ s.bytes.flatMap fun b => bitsOf 8 b.toNat

/-- The next bit. -/
def next? (s : BitSource) : Option (Bool × BitSource) :=
  match s.begun with
  | bit :: begun => some (bit, ⟨begun, s.bytes, s.taken + 1⟩)
  | [] => match s.bytes with
    | [] => none
    | b :: bytes => some (b.toNat % 2 == 1, ⟨bitsOf 7 (b.toNat / 2), bytes, s.taken + 1⟩)

/-- The number that the next `n` bits spell. -/
def take? : Nat → BitSource → Option (Nat × BitSource)
  | 0, s => some (0, s)
  | n + 1, s => do
    let (bit, s) ← s.next?
    let (value, s) ← s.take? n
    return (bit.toNat + 2 * value, s)

/-- Drops what is left of the byte begun. -/
def align (s : BitSource) : BitSource := ⟨[], s.bytes, s.taken + s.begun.length⟩

theorem next?_eq (s : BitSource) :
    s.next?.map (fun r => (r.1, r.2.toBits)) = s.toBits.head?.map fun b => (b, s.toBits.tail) := by
  rcases s with ⟨_ | ⟨b, begun⟩, _ | ⟨x, bytes⟩, taken⟩ <;> simp [next?, toBits, bitsOf]

end BitSource

/-! ## Putting bits into bytes -/

/-- The bytes that bits fill, with zeros up to the end of the last one. -/
def pack (bits : List Bool) : Bytes :=
  let rec go : List Bool → Array UInt8 → Array UInt8
    | a :: b :: c :: d :: e :: f :: g :: h :: rest, out =>
      go rest (out.push (ofBits [a, b, c, d, e, f, g, h]).toUInt8)
    | [], out => out
    | last, out => out.push (ofBits last).toUInt8
  (go bits #[]).toList

end BrokerClient.Deflate
