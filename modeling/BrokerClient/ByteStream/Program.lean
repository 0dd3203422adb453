import BrokerClient.ByteStream.Sink

/-!
# Programs that read and write

What a reader or a writer of a message does with its stream, as a tree of requests in which every
possible answer has a continuation. The same tree runs against any source or sink, so that what holds of
all trees holds of all readers and writers. `run_bind` says that running a sequence is running its parts
one after the other.
-/

namespace BrokerClient.ByteStream

/-! ## Reading -/

/-- A program that reads and ends with a result. -/
inductive Reading (α : Type) where
  | done (result : α)
  | read (n : Nat) (next : Except IoError Bytes → Reading α)

namespace Reading

variable {α β σ : Type}

def bind : Reading α → (α → Reading β) → Reading β
  | .done a, f => f a
  | .read n next, f => .read n fun answer => (next answer).bind f

instance : Monad Reading where
  pure := .done
  bind := bind

/-- Runs a program on a source. -/
def run [ByteSource σ] : Reading α → σ → α × σ
  | .done a, s => (a, s)
  | .read n next, s =>
    let (answer, s) := ByteStream.read s n
    (next answer).run s

/-- One request. -/
def request (n : Nat) : Reading (Except IoError Bytes) := .read n .done

/-- Reads pieces of some size up to the end of the source or a failure. `fuel` bounds the number of
requests; a source that hands on at most `fuel` bytes ends before it is used up. -/
def toEnd (size : Nat) : Nat → List Bytes → Reading (Except IoError Bytes)
  | 0, pieces => .done (.ok pieces.reverse.flatten)
  | fuel + 1, pieces => .read size fun
    | .error e => .done (.error e)
    | .ok [] => .done (.ok pieces.reverse.flatten)
    | .ok piece => toEnd size fuel (piece :: pieces)

theorem run_bind [ByteSource σ] (m : Reading α) (f : α → Reading β) (s : σ) :
    (m.bind f).run s = (f (m.run s).1).run (m.run s).2 := by
  induction m generalizing s with
  | done => rfl
  | read n next ih => simp [bind, run, ih]

end Reading

/-! ## Writing -/

/-- A program that writes and ends with a result. -/
inductive Writing (α : Type) where
  | done (result : α)
  | write (bytes : Bytes) (next : Except IoError Unit → Writing α)
  | flush (next : Except IoError Unit → Writing α)

namespace Writing

variable {α β σ : Type}

def bind : Writing α → (α → Writing β) → Writing β
  | .done a, f => f a
  | .write bytes next, f => .write bytes fun answer => (next answer).bind f
  | .flush next, f => .flush fun answer => (next answer).bind f

instance : Monad Writing where
  pure := .done
  bind := bind

/-- Runs a program on a sink. -/
def run [ByteSink σ] : Writing α → σ → α × σ
  | .done a, s => (a, s)
  | .write bytes next, s =>
    let (answer, s) := ByteSink.write s bytes
    (next answer).run s
  | .flush next, s =>
    let (answer, s) := ByteSink.flush s
    (next answer).run s

/-- Writes bytes; no bytes make no request. -/
def writeAll (bytes : Bytes) : Writing (Except IoError Unit) :=
  if bytes.isEmpty then .done (.ok ()) else .write bytes .done

def flushAll : Writing (Except IoError Unit) := .flush .done

theorem run_bind [ByteSink σ] (m : Writing α) (f : α → Writing β) (s : σ) :
    (m.bind f).run s = (f (m.run s).1).run (m.run s).2 := by
  induction m generalizing s with
  | done => rfl
  | write bytes next ih => simp [bind, run, ih]
  | flush next ih => simp [bind, run, ih]

end Writing
end BrokerClient.ByteStream
