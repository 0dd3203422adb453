import BrokerClient.Deflate.Checksum
import BrokerClient.Deflate.Inflate
import Std.Data.HashMap

/-!
# Compressing

`Compressor` collects bytes and turns those not yet said into tokens, copying from where the next three
bytes were last seen, and the tokens into a block in the fixed code. What is remembered about earlier
places is only a hint: a copy is made of bytes that were compared, so that expanding the tokens gives the
bytes whatever the hints are.
-/

namespace BrokerClient.Deflate

/-! ## Tokens -/

/-- Where each group of three bytes was last seen. -/
abbrev Places := Std.HashMap Nat Nat

/-- The three bytes from a place on, as a number. -/
def groupAt (data : Array UInt8) (i : Nat) : Nat :=
  (data.getD i 0).toNat * 65536 + (data.getD (i + 1) 0).toNat * 256 + (data.getD (i + 2) 0).toNat

/-- Remembers the places from `i` on, `n` of them. -/
def remember (data : Array UInt8) : Nat → Nat → Places → Places
  | 0, _, places => places
  | n + 1, i, places =>
    remember data n (i + 1) (if i + 2 < data.size then places.insert (groupAt data i) i else places)

/-- How many bytes from `a` and from `b` on agree, up to a limit and the end of the data. -/
def agreement (data : Array UInt8) (a b : Nat) : Nat → Nat
  | 0 => 0
  | limit + 1 =>
    if b < data.size ∧ data.getD a 0 = data.getD b 0 then agreement data (a + 1) (b + 1) limit + 1 else 0

/-- A copy that says the bytes from a place on, if an earlier place is known from which at least three
of them can be had. -/
def copyAt? (data : Array UInt8) (places : Places) (i : Nat) : Option Token :=
  match places.get? (groupAt data i) with
  | none => none
  | some earlier =>
    let length := agreement data earlier i maxCopy
    if earlier < i ∧ i - earlier ≤ maxDistance ∧ 3 ≤ length then some (.copy length (i - earlier)) else none

/-- How many bytes a token says. -/
def Token.size : Token → Nat
  | .literal _ => 1
  | .copy length _ => length

/-- The token for the bytes from a place on. -/
def tokenAt (data : Array UInt8) (places : Places) (i : Nat) : Token :=
  (copyAt? data places i).getD (.literal (data.getD i 0))

/-- The tokens for the bytes from a place on, last first, and the places seen. -/
def tokensFrom (data : Array UInt8) : Nat → Nat → Places → List Token → List Token × Places
  | 0, _, places, said => (said, places)
  | fuel + 1, i, places, said =>
    if i < data.size then
      let t := tokenAt data places i
      tokensFrom data fuel (i + t.size) (remember data t.size i places) (t :: said)
    else (said, places)

/-! ## Bits -/

/-- The string of each symbol of a code. -/
def codeTable (lengths : Lengths) : Array (List Bool) :=
  let strings := canonical lengths
  ((List.range lengths.length).map fun n => (strings.lookup n).getD []).toArray

def fixedLiterals : Array (List Bool) := codeTable fixedLiteralLengths

def fixedDistances : Array (List Bool) := codeTable fixedDistanceLengths

/-- A number of a table: its symbol's string and the bits behind it. -/
def rangedBits (strings : Array (List Bool)) (first : Nat) (rows : List Row) (n : Nat) : List Bool :=
  match place? rows n with
  | none => []
  | some p => strings.getD (first + p.symbol) [] ++ bitsOf p.extra p.value

def Token.toBits : Token → List Bool
  | .literal b => fixedLiterals.getD b.toNat []
  | .copy length distance =>
    rangedBits fixedLiterals (endOfBlock + 1) lengthRows length ++ rangedBits fixedDistances 0 distanceRows distance

/-- A block in the fixed code. -/
def fixedBlock (final : Bool) (tokens : List Token) : List Bool :=
  final :: true :: false :: tokens.flatMap Token.toBits ++ fixedLiterals.getD endOfBlock []

/-- The start of a block of bytes as they are, which is not the last one. -/
def storedStart : List Bool := [false, false, false]

/-- The numbers of a block of no bytes. -/
def storedNothing : Bytes := [0, 0, 0xFF, 0xFF]

/-! ## The compressor -/

/-- Bytes to compress, how many of them blocks have said already, and what is remembered of these. -/
structure Compressor where
  data : Array UInt8 := #[]
  said : Nat := 0
  places : Places := {}

namespace Compressor

def push (c : Compressor) (bytes : Bytes) : Compressor := { c with data := bytes.foldl Array.push c.data }

/-- The tokens for what has not been said, and the compressor that has said it. -/
def say (c : Compressor) : List Token × Compressor :=
  let (said, places) := tokensFrom c.data (c.data.size - c.said) c.said c.places []
  (said.reverse, { c with said := c.data.size, places })

/-- Says everything so far in whole bytes and leaves the data open. -/
def sync (c : Compressor) : Bytes × Compressor :=
  let (tokens, c) := c.say
  (pack (fixedBlock false tokens ++ storedStart) ++ storedNothing, c)

/-- Says everything and closes the data. -/
def finish (c : Compressor) : Bytes := pack (fixedBlock true c.say.1)

end Compressor
end BrokerClient.Deflate
