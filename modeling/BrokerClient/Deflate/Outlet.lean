import BrokerClient.Deflate.Token

/-!
# Bytes on their way out

A decoder is handed its data a piece at a time, and makes bytes of it until it would need the next piece
or until the window it fills is full. There it pauses, and only then can the bytes be had. `Outlet` takes
the bytes in and marks the pauses; `portions` cuts the bytes up at them. No byte is lost or moved by
that: `flatten_portions` puts the portions together again.
-/

namespace BrokerClient.Deflate

/-- How many bytes are handed over at once, and how many a window holds. -/
def windowSize : Nat := 32768

/-- The end of the piece that a bit lies in, when the first piece begins at `origin`. -/
def pieceEnd (origin bit : Nat) : Nat :=
  origin + ((bit - origin) / (8 * windowSize) + 1) * (8 * windowSize)

/-- What a decoder does once the bytes made so far are gone. -/
inductive After where
  /-- It rests until more is asked for. -/
  | rests
  /-- It goes on at once, with what it has been handed. -/
  | goesOn
  /-- It has given up, and does not keep bytes that nobody took. -/
  | givesUp
deriving DecidableEq, Repr

/-- A pause, when so many bytes are out. -/
structure Pause where
  size : Nat
  after : After
deriving DecidableEq, Repr

/-- The bytes that came out, and the pauses that were made. -/
structure Outlet where
  out : Array UInt8 := #[]
  /-- The last one first. -/
  pauses : List Pause := []
  /-- The bit at which the first piece begins. -/
  origin : Nat
  /-- How many bits of data there are. -/
  total : Nat
  /-- How many of them have been handed over. -/
  handed : Nat
  /-- Whether the end of the data is known. -/
  told : Bool := false

namespace Outlet

/-- The outlet for data that is read from some bit on, in pieces that begin at `origin`. -/
def start (total origin bit : Nat) : Outlet := { origin, total, handed := min total (pieceEnd origin bit) }

/-- How many bytes were out when the window at hand was begun. -/
def begun (o : Outlet) : Nat :=
  match o.pauses with
  | [] => 0
  | p :: _ => p.size

def pause (after : After) (o : Outlet) : Outlet := { o with pauses := ⟨o.out.size, after⟩ :: o.pauses }

/-- Waits until the bits before a place have been handed over. -/
def await (bit : Nat) (o : Outlet) : Outlet :=
  if o.told ∨ bit ≤ o.handed then o
  else { o.pause .rests with handed := min o.total (pieceEnd o.origin (bit - 1)), told := o.total < bit }

/-- Waits for more than there is. -/
def exhaust (o : Outlet) : Outlet := o.await (o.total + 1)

/-- Makes room for a byte, when so many bits have been taken. -/
def makeRoom (taken : Nat) (o : Outlet) : Outlet :=
  if o.out.size % windowSize ≠ 0 ∨ o.out.size = o.begun then o
  else if o.told ∨ (taken + 7) / 8 * 8 < o.handed then o.pause .goesOn
  else { o.pause .rests with handed := min o.total (o.handed + 8 * windowSize), told := o.handed = o.total }

/-- Takes in a byte, when so many bits have been taken. -/
def push (taken : Nat) (o : Outlet) (b : UInt8) : Outlet :=
  let o := o.makeRoom taken
  { o with out := o.out.push b }

/-- Repeats bytes from `distance` back. -/
def pushCopy (taken distance : Nat) : Nat → Outlet → Outlet
  | 0, o => o
  | n + 1, o => pushCopy taken distance n (o.push taken (byteBack o.out distance))

/-- Takes in what a token says, when so many bits have been taken. -/
def put (taken : Nat) (o : Outlet) : Token → Outlet
  | .literal b => (o.await taken).push taken b
  | .copy length distance => (o.await taken).pushCopy taken distance length

/-- Takes in bytes as they are. -/
def putBytes : Nat → Outlet → Bytes → Outlet
  | _, o, [] => o
  | taken, o, b :: bytes => putBytes (taken + 8) ((o.await (taken + 8)).push taken b) bytes

@[simp] theorem out_pause (after : After) (o : Outlet) : (o.pause after).out = o.out := rfl

@[simp] theorem out_await (bit : Nat) (o : Outlet) : (o.await bit).out = o.out := by
  unfold await; split <;> rfl

@[simp] theorem out_makeRoom (taken : Nat) (o : Outlet) : (o.makeRoom taken).out = o.out := by
  unfold makeRoom; split
  · rfl
  · split <;> rfl

@[simp] theorem out_push (taken : Nat) (o : Outlet) (b : UInt8) : (o.push taken b).out = o.out.push b := by
  simp [push]

theorem out_pushCopy (taken distance n : Nat) (o : Outlet) :
    (o.pushCopy taken distance n).out = copyBack distance n o.out := by
  induction n generalizing o with
  | zero => rfl
  | succ n ih => simp [pushCopy, copyBack, ih]

@[simp] theorem out_put (taken : Nat) (o : Outlet) (t : Token) : (o.put taken t).out = t.apply o.out := by
  cases t <;> simp [put, Token.apply, out_pushCopy]

end Outlet

/-! ## Portions -/

/-- Bytes that come out together, and what the decoder does behind them. -/
structure Portion where
  bytes : Bytes
  after : After
deriving DecidableEq, Repr

/-- Cuts bytes up at pauses, the first one first, when so many bytes are out already. -/
def portionsAt (last : After) : Nat → List Pause → Bytes → List Portion
  | _, [], bytes => [⟨bytes, last⟩]
  | size, p :: pauses, bytes =>
    ⟨bytes.take (p.size - size), p.after⟩ :: portionsAt last p.size pauses (bytes.drop (p.size - size))

/-- The bytes that came out, by portions. -/
def Outlet.portions (last : After) (o : Outlet) : List Portion :=
  portionsAt last 0 o.pauses.reverse o.out.toList

theorem flatten_portionsAt (last : After) (size : Nat) (pauses : List Pause) (bytes : Bytes) :
    ((portionsAt last size pauses bytes).map (·.bytes)).flatten = bytes := by
  induction pauses generalizing size bytes with
  | nil => simp [portionsAt]
  | cons p pauses ih => simp [portionsAt, ih]

theorem flatten_portions (last : After) (o : Outlet) :
    ((o.portions last).map (·.bytes)).flatten = o.out.toList := flatten_portionsAt ..

end BrokerClient.Deflate
