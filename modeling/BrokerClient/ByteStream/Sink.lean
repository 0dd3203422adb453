import BrokerClient.Codec.Error
import BrokerClient.ByteStream.Source

/-!
# Sinks for bytes

A sink takes each piece of bytes whole or refuses it. `BoundedSink` keeps what it takes in memory and
refuses every piece that would take it past its bound, remembering that it did; a refused piece leaves
no trace in the content, which therefore never grows past the bound (`length_write_le`).
-/

namespace BrokerClient.ByteStream

/-- States to which bytes can be written. -/
class ByteSink (σ : Type) where
  write : σ → Bytes → Except IoError Unit × σ
  flush : σ → Except IoError Unit × σ

/-- An output in memory of at most `max` bytes (`BoundedSink`). -/
structure BoundedSink where
  max : Nat
  content : Bytes := []
  overflowed : Bool := false
deriving DecidableEq, Repr

/-- The failure of a sink that would grow past `max` bytes. -/
def tooLargeSink (max : Nat) : IoError := ⟨.other, tooLargeText max⟩

namespace BoundedSink

/-- Takes in some bytes, or refuses them all and notes it (`BoundedSink::write`). -/
def write (s : BoundedSink) (bytes : Bytes) : Except IoError Unit × BoundedSink :=
  if s.max < s.content.length + bytes.length then (.error (tooLargeSink s.max), { s with overflowed := true })
  else (.ok (), { s with content := s.content ++ bytes })

/-- There is nothing to flush. -/
def flush (s : BoundedSink) : Except IoError Unit × BoundedSink := (.ok (), s)

instance : ByteSink BoundedSink := ⟨write, flush⟩

theorem length_write_le {s : BoundedSink} (h : s.content.length ≤ s.max) (bytes : Bytes) :
    (s.write bytes).2.content.length ≤ s.max := by
  unfold write; split <;> simp <;> omega

end BoundedSink
end BrokerClient.ByteStream
