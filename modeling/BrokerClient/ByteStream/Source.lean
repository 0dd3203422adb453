import BrokerClient.Text.Utf8

/-!
# Sources of bytes

A source answers a request for up to `n` bytes with some of them, with no bytes at its end, or with a
failure. `BoundedSource` guards any source: it hands on at most a set number of bytes and fails once a
further byte shows, remembering that it did. `length_readUpTo_le` says that the guard never hands on more
than is left of its bound.
-/

namespace BrokerClient.ByteStream

/-! ## Failures -/

inductive IoErrorKind where
  | other
  | invalidInput
  | invalidData
  | unexpectedEof
deriving DecidableEq, Repr

namespace IoErrorKind

def name : IoErrorKind → String
  | .other => "Other"
  | .invalidInput => "InvalidInput"
  | .invalidData => "InvalidData"
  | .unexpectedEof => "UnexpectedEof"

end IoErrorKind

/-- A failure of a source or a sink. -/
structure IoError where
  kind : IoErrorKind
  message : String
deriving DecidableEq, Repr

/-- A failure behind some bytes, and the one that is met from then on, or else the end. -/
structure Fault where
  error : IoError
  after : Option IoError := none
deriving DecidableEq, Repr

namespace Fault

/-- A failure that is met whenever one reads on. -/
def lasting (e : IoError) : Fault := ⟨e, some e⟩

/-- The failure that is met next. -/
def next (f : Fault) : Option Fault := f.after.map lasting

end Fault

/-! ## Sources -/

/-- States from which bytes can be read: the answer to a request for up to `n` bytes, which is never
longer than that, and the state after it. -/
class ByteSource (σ : Type) where
  read : σ → Nat → Except IoError Bytes × σ
  length_read_le : ∀ {s n bytes}, (read s n).1 = .ok bytes → bytes.length ≤ n

export ByteSource (read)

/-- Plain bytes. -/
instance : ByteSource Bytes where
  read bytes n := (.ok (bytes.take n), bytes.drop n)
  length_read_le := by rintro s n bytes ⟨⟩; exact List.length_take_le n s

/-! ## The guard -/

/-- A source of which at most `remaining` more bytes are handed on, as a `BoundedSource` over its inner reader. -/
structure BoundedSource (σ : Type) where
  inner : σ
  remaining : Nat
  overflowed : Bool := false

/-- The failure of a guard whose source has more bytes than it may hand on. -/
def tooLargeSource : IoError := ⟨.other, "message too large"⟩

namespace BoundedSource

variable {σ : Type} [ByteSource σ]

/-- A request at the end of the bound looks for one more byte, which must not be there. -/
def probe (s : BoundedSource σ) : Except IoError Bytes × BoundedSource σ :=
  match read s.inner 1 with
  | (.error e, inner) => (.error e, { s with inner })
  | (.ok [], inner) => (.ok [], { s with inner })
  | (.ok (_ :: _), inner) => (.error tooLargeSource, { s with inner, overflowed := true })

/-- A request within the bound. -/
def forward (s : BoundedSource σ) (n : Nat) : Except IoError Bytes × BoundedSource σ :=
  match read s.inner (min n s.remaining) with
  | (.error e, inner) => (.error e, { s with inner })
  | (.ok bytes, inner) => (.ok bytes, { s with inner, remaining := s.remaining - bytes.length })

/-- The answer to a request for up to `n` bytes (`BoundedSource::read`). -/
def readUpTo (s : BoundedSource σ) (n : Nat) : Except IoError Bytes × BoundedSource σ :=
  if n = 0 then (.ok [], s) else if s.remaining = 0 then s.probe else s.forward n

theorem length_probe {s : BoundedSource σ} {bytes : Bytes} (h : s.probe.1 = .ok bytes) : bytes = [] := by
  unfold probe at h; split at h <;> simp_all

theorem length_forward_le {s : BoundedSource σ} {n : Nat} {bytes : Bytes} (h : (s.forward n).1 = .ok bytes) :
    bytes.length ≤ min n s.remaining := by
  unfold forward at h
  split at h
  · simp at h
  · rename_i found inner hr
    cases h
    exact ByteSource.length_read_le (by rw [hr])

theorem length_readUpTo_le {s : BoundedSource σ} {n : Nat} {bytes : Bytes}
    (h : (s.readUpTo n).1 = .ok bytes) : bytes.length ≤ min n s.remaining := by
  unfold readUpTo at h
  split at h
  · cases h; simp
  · split at h
    · simp [length_probe h]
    · exact length_forward_le h

instance : ByteSource (BoundedSource σ) where
  read := readUpTo
  length_read_le h := Nat.le_trans (length_readUpTo_le h) (Nat.min_le_left ..)

end BoundedSource
end BrokerClient.ByteStream
