import BrokerClient.Deflate.Code

/-!
# Tokens

Compressed data says a byte, or that some bytes from further back come again. `expand` gives the bytes
that tokens say. In the bits, the length and the distance of a copy are each a symbol with a few more
bits behind it: a row of a table that says where the symbol's range starts and how many bits it has.
-/

namespace BrokerClient.Deflate

inductive Token where
  | literal (b : UInt8)
  /-- `length` bytes, from `distance` bytes back. -/
  | copy (length distance : Nat)
deriving DecidableEq, Repr

/-! ## What tokens say -/

/-- The byte `distance` back from the end; there are zeros before the beginning. -/
def byteBack (out : Array UInt8) (distance : Nat) : UInt8 :=
  if distance ≤ out.size then out.getD (out.size - distance) 0 else 0

/-- Repeats bytes from `distance` back, which may overlap what they make. -/
def copyBack (distance : Nat) : Nat → Array UInt8 → Array UInt8
  | 0, out => out
  | n + 1, out => copyBack distance n (out.push (byteBack out distance))

def Token.apply (out : Array UInt8) : Token → Array UInt8
  | .literal b => out.push b
  | .copy length distance => copyBack distance length out

/-- The bytes that tokens say after some that are there. -/
def expand (tokens : List Token) (out : Array UInt8) : Array UInt8 := tokens.foldl Token.apply out

/-! ## Symbols for lengths and distances -/

/-- The numbers from `base` on, told apart by `extra` bits. -/
structure Row where
  base : Nat
  extra : Nat
deriving DecidableEq, Repr, Inhabited

/-- Rows of rising ranges that leave no gap, with `extra` for each from `base` on. -/
def rowsFrom (base : Nat) : List Nat → List Row
  | [] => []
  | extra :: rest => ⟨base, extra⟩ :: rowsFrom (base + Nat.pow 2 extra) rest

/-- The symbol that ends a block; the lengths' symbols follow it. -/
def endOfBlock : Nat := 256

/-- The longest copy. It has a row of its own, though the row before could say it too. -/
def maxCopy : Nat := 258

def lengthRows : List Row :=
  rowsFrom 3 [0, 0, 0, 0, 0, 0, 0, 0, 1, 1, 1, 1, 2, 2, 2, 2, 3, 3, 3, 3, 4, 4, 4, 4, 5, 5, 5, 5] ++
    [⟨maxCopy, 0⟩]

/-- The furthest distance. -/
def maxDistance : Nat := 32768

def distanceRows : List Row :=
  rowsFrom 1 [0, 0, 0, 0, 1, 1, 2, 2, 3, 3, 4, 4, 5, 5, 6, 6, 7, 7, 8, 8, 9, 9, 10, 10, 11, 11, 12, 12, 13, 13]

/-- The last row that starts at a number or before, its place in the table, and what is left over. -/
structure Place where
  symbol : Nat
  extra : Nat
  value : Nat
deriving DecidableEq, Repr

def placeFrom (n : Nat) : Nat → List Row → Option Place → Option Place
  | _, [], found => found
  | symbol, row :: rows, found =>
    if row.base ≤ n then placeFrom n (symbol + 1) rows (some ⟨symbol, row.extra, n - row.base⟩) else found

def place? (rows : List Row) (n : Nat) : Option Place := placeFrom n 0 rows none

end BrokerClient.Deflate
