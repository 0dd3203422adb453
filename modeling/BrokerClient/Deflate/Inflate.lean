import BrokerClient.Deflate.Outlet

/-!
# Inflating

Compressed data is a list of blocks, the last of which says so: bytes as they are, tokens in a fixed
code, or tokens in a code that the block brings with it. `inflate` reads blocks until the last one ends
or something is wrong, and gives what came out up to there. Every symbol and every block takes at least
one bit, so the number of bits bounds every loop.
-/

namespace BrokerClient.Deflate

/-- A step of reading that only looks at the source. -/
abbrev Scan (α : Type) := ExceptT Defect (StateM BitSource) α

/-- The number that the next `n` bits spell. -/
def bits (n : Nat) : Scan Nat := fun s => match s.take? n with
  | some (value, s) => (.ok value, s)
  | none => (.error .truncated, s)

/-- The symbol that the next bits stand for. -/
def symbol (t : Tree) : Scan Nat := t.decode

def fault {α : Type} (d : Defect) : Scan α := fun s => (.error d, s)

/-! ## Tokens -/

/-- The codes of a block: one for bytes, lengths and the end, one for distances. -/
structure Codes where
  literals : Tree
  distances : Tree

/-- The number that a symbol of a table stands for, with the bits behind it. -/
def ranged (rows : List Row) (n : Nat) : Scan Nat :=
  match rows[n]? with
  | none => fault .corrupt
  | some row => do return row.base + (← bits row.extra)

/-- The next token, or `none` at the end of the block. -/
def token (codes : Codes) : Scan (Option Token) := do
  let n ← symbol codes.literals
  if n < endOfBlock then return some (.literal n.toUInt8)
  if n = endOfBlock then return none
  let length ← ranged lengthRows (n - endOfBlock - 1)
  let distance ← ranged distanceRows (← symbol codes.distances)
  return some (.copy length distance)

/-- What came out so far, and the source or what is wrong with it. -/
structure Inflated where
  outlet : Outlet
  ending : Except Defect BitSource

/-- The end of reading at a defect, which shows once the bits before it have been handed over, or never. -/
def Inflated.failed (o : Outlet) (d : Defect) (s : BitSource) : Inflated :=
  match d with
  | .corrupt => ⟨o.await s.taken, .error d⟩
  | .truncated => ⟨o.exhaust, .error d⟩

/-- The tokens up to the end of a block. -/
def tokens (codes : Codes) : Nat → Outlet → BitSource → Inflated
  | 0, o, _ => ⟨o, .error .truncated⟩
  | fuel + 1, o, s => match token codes s with
    | (.error d, s) => .failed o d s
    | (.ok none, s) => ⟨o, .ok s⟩
    | (.ok (some t), s) => tokens codes fuel (o.put s.taken t) s

/-! ## Codes -/

/-- The fixed code for bytes and lengths. -/
def fixedLiteralLengths : Lengths :=
  List.replicate 144 8 ++ List.replicate 112 9 ++ List.replicate 24 7 ++ List.replicate 8 8

def fixedDistanceLengths : Lengths := List.replicate 32 5

def fixedCodes : Codes := ⟨Tree.ofLengths fixedLiteralLengths, Tree.ofLengths fixedDistanceLengths⟩

/-- The order in which the lengths of the code for lengths are given. -/
def lengthOrder : List Nat := [16, 17, 18, 0, 8, 7, 9, 6, 10, 5, 11, 4, 12, 3, 13, 2, 14, 1, 15]

/-- The lengths given in an order, sorted by symbol. -/
def reorder (given : List Nat) : Lengths :=
  let pairs := lengthOrder.zip given
  (List.range lengthOrder.length).map fun n => (pairs.lookup n).getD 0

/-- The lengths up to a number of them, last first. A symbol up to 15 is a length, 16 repeats the last
one, 17 and 18 are runs of zeros. -/
def lengthsUpTo (t : Tree) (total : Nat) : Nat → List Nat → Nat → Scan (List Nat)
  | 0, given, _ => return given
  | fuel + 1, given, count =>
    if total ≤ count then (if total < count then fault .corrupt else return given)
    else do
      let n ← symbol t
      if n < 16 then lengthsUpTo t total fuel (n :: given) (count + 1)
      else
        let value ← match n, given with
          | 16, [] => fault .corrupt
          | 16, last :: _ => pure last
          | _, _ => pure 0
        let more ← if n = 16 then (· + 3) <$> bits 2 else if n = 17 then (· + 3) <$> bits 3 else (· + 11) <$> bits 7
        lengthsUpTo t total fuel (List.replicate more value ++ given) (count + more)

/-- A code that covers everything, or hardly anything where `partly` allows that. -/
def codeOf (partly : Bool) (lengths : Lengths) : Scan Tree :=
  if isComplete lengths || (partly && isSingle lengths) then return Tree.ofLengths lengths
  else fault .corrupt

/-- The codes that a block brings with it. -/
def ownCodes : Scan Codes := do
  let literals := (← bits 5) + 257
  let distances := (← bits 5) + 1
  let given := (← bits 4) + 4
  if 286 < literals || 30 < distances then fault .corrupt
  let lengths ← (List.replicate given 3).mapM bits
  let t ← codeOf false (reorder lengths)
  let total := literals + distances
  let all := (← lengthsUpTo t total total [] 0).reverse
  return ⟨← codeOf true (all.take literals), ← codeOf true (all.drop literals)⟩

/-! ## Blocks -/

/-- Bytes as they are: their number twice, the second time with every bit turned, then the bytes. -/
def stored (o : Outlet) (s : BitSource) : Inflated :=
  match (do return (← bits 16, ← bits 16) : Scan (Nat × Nat)) s.align with
  | (.error d, s) => .failed o d s
  | (.ok (n, turned), s) =>
    if n + turned ≠ 65535 then .failed o .corrupt s
    else
      let given := s.bytes.take n
      let o := o.putBytes s.taken given
      if given.length < n then .failed o .truncated s else ⟨o, .ok (s.dropBytes n)⟩

/-- A block of one of the three types. -/
def block (fuel type : Nat) (o : Outlet) (s : BitSource) : Inflated :=
  match type with
  | 0 => stored o s
  | 1 => tokens fixedCodes fuel o s
  | 2 => match ownCodes s with
    | (.error d, s) => .failed o d s
    | (.ok codes, s) => tokens codes fuel o s
  | _ => .failed o .corrupt s

/-- The blocks up to the last one. -/
def blocks (symbols : Nat) : Nat → Outlet → BitSource → Inflated
  | 0, o, _ => ⟨o, .error .truncated⟩
  | fuel + 1, o, s => match (do return (← bits 1, ← bits 2) : Scan (Nat × Nat)) s with
    | (.error d, s) => .failed o d s
    | (.ok (final, type), s) => match block symbols type o s with
      | ⟨o, .error d⟩ => ⟨o, .error d⟩
      | ⟨o, .ok s⟩ => if final = 1 then ⟨o, .ok s⟩ else blocks symbols fuel o s

/-- What compressed data says, as far as it can be read, and how reading it ends: with the source behind
the last block, or in a defect. -/
def inflate (s : BitSource) (o : Outlet) : Inflated :=
  let bound := 8 * s.bytes.length + 1
  blocks bound bound o s

end BrokerClient.Deflate
