import BrokerClient.Deflate.Container

/-!
# Handing out what was unpacked

`Unpacker` hands out the bytes that a container stands for, portion by portion, and then the failure that reading
it meets, if it meets one.
-/

namespace BrokerClient.Deflate

open ByteStream (ByteSource IoError Fault)

/-- Unpacked bytes to be handed out. -/
structure Unpacker where
  /-- The bytes that can be had at once. -/
  ready : Bytes
  /-- The portions behind them. -/
  portions : List Portion := []
  /-- The failure behind all bytes. -/
  fault : Option Fault := none
deriving DecidableEq, Repr

namespace Unpacker

def ofUnpacked (u : Unpacked) : Unpacker := { ready := [], portions := u.portions, fault := u.fault }

/-- Fills an answer that has room for `n` more bytes from portions. It ends where the decoder rests, but
not as long as it is empty; a failure on the way takes its place. -/
def fill (fault : Option Fault) (n : Nat) (answer : Bytes) : List Portion → Except IoError Bytes × Unpacker
  | [] => match fault with
    | none => (.ok answer, { ready := [] })
    | some f => (.error f.error, { ready := [], fault := f.next })
  | p :: rest =>
    let answer := answer ++ p.bytes.take n
    if (p.after = .goesOn ∧ p.bytes.length < n) ∨ answer.isEmpty then fill fault (n - p.bytes.length) answer rest
    else
      let kept := if p.after = .givesUp then [] else p.bytes.drop n
      (.ok answer, { ready := kept, portions := rest, fault })

/-- The answer to a request for up to `n` bytes. -/
def readUpTo (s : Unpacker) (n : Nat) : Except IoError Bytes × Unpacker :=
  if n = 0 then (.ok [], s)
  else if s.ready.isEmpty then fill s.fault n [] s.portions
  else (.ok (s.ready.take n), { s with ready := s.ready.drop n })

theorem length_fill_le {fault : Option Fault} {n : Nat} {answer bytes : Bytes} {portions : List Portion}
    (h : (fill fault n answer portions).1 = .ok bytes) : bytes.length ≤ answer.length + n := by
  induction portions generalizing n answer with
  | nil =>
    unfold fill at h
    split at h <;> cases h
    exact Nat.le_add_right ..
  | cons p rest ih =>
    simp only [fill] at h
    split at h
    · have := ih h
      simp only [List.length_append, List.length_take] at this
      omega
    · cases h
      simp only [List.length_append, List.length_take]
      omega

instance : ByteSource Unpacker where
  read := readUpTo
  length_read_le {s n bytes} h := by
    unfold readUpTo at h
    split at h
    · cases h; exact Nat.zero_le _
    · split at h
      · simpa using length_fill_le h
      · cases h; exact List.length_take_le ..

end Unpacker
end BrokerClient.Deflate
