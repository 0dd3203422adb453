import BrokerClient.Deflate.Bits

/-!
# Canonical codes

A code gives each symbol a string of bits, none the start of another. It is fixed by the lengths of
these strings alone: shorter strings come first, and among those of one length the symbols follow in
their own order. `canonical` makes the strings, `Tree` reads them, a bit at a time.
-/

namespace BrokerClient.Deflate

/-- The length of each symbol's string; symbols of length 0 have none. -/
abbrev Lengths := List Nat

/-- A symbol, and the string of bits that stands for it. -/
abbrev Assignment := Nat × List Bool

/-- The longest string that a code may use. -/
def maxLength : Nat := 15

/-- Gives the symbols of one length their strings, counting up from `first`. -/
def assignFrom (length first : Nat) : List Nat → List Assignment
  | [] => []
  | symbol :: rest => (symbol, codeBits length first) :: assignFrom length (first + 1) rest

/-- The symbols of one length, in order. -/
def symbolsOf (lengths : Lengths) (length : Nat) : List Nat :=
  (lengths.zipIdx.filter (·.1 == length)).map (·.2)

/-- The strings of `n` lengths from `length` on, the first of which is `first`. -/
def canonicalFrom (lengths : Lengths) : Nat → Nat → Nat → List Assignment
  | 0, _, _ => []
  | n + 1, length, first =>
    let symbols := symbolsOf lengths length
    assignFrom length first symbols ++ canonicalFrom lengths n (length + 1) (2 * (first + symbols.length))

/-- The string of every symbol that has one. -/
def canonical (lengths : Lengths) : List Assignment := canonicalFrom lengths maxLength 1 0

/-- How much of all strings of `maxLength + 1` bits start with a string of the code. -/
def covered (lengths : Lengths) : Nat :=
  (lengths.filter (0 < ·)).foldl (fun n length => n + Nat.pow 2 (maxLength + 1 - length)) 0

/-- Whether every long enough string of bits starts with exactly one string of the code. -/
def isComplete (lengths : Lengths) : Bool := covered lengths == Nat.pow 2 (maxLength + 1)

/-- Whether a code has no string, or just one, of one bit. -/
def isSingle (lengths : Lengths) : Bool :=
  match lengths.filter (0 < ·) with
  | [] => true
  | [length] => length == 1
  | _ => false

/-! ## Reading -/

/-- Why data cannot be read to its end: there is too little of it, or it is wrong. -/
inductive Defect where
  | truncated
  | corrupt
deriving DecidableEq, Repr

/-- A code for reading: each bit chooses a branch, each leaf is a symbol. -/
inductive Tree where
  | empty
  | leaf (symbol : Nat)
  | node (zero one : Tree)
deriving Inhabited

namespace Tree

/-- Adds one symbol. -/
def insert (symbol : Nat) : List Bool → Tree → Tree
  | [], _ => .leaf symbol
  | false :: bits, .node zero one => .node (insert symbol bits zero) one
  | true :: bits, .node zero one => .node zero (insert symbol bits one)
  | false :: bits, _ => .node (insert symbol bits .empty) .empty
  | true :: bits, _ => .node .empty (insert symbol bits .empty)

/-- The tree of a code. It asks for a bit even when it has no symbol. -/
def ofLengths (lengths : Lengths) : Tree :=
  (canonical lengths).foldl (fun t a => t.insert a.1 a.2) (.node .empty .empty)

/-- The symbol that the next bits stand for, and the source behind the bits that tell. -/
def decode : Tree → BitSource → Except Defect Nat × BitSource
  | .leaf symbol, s => (.ok symbol, s)
  | .empty, s => (.error .corrupt, s)
  | .node zero one, s => match s.next? with
    | none => (.error .truncated, s)
    | some (false, s) => zero.decode s
    | some (true, s) => one.decode s

end Tree
end BrokerClient.Deflate
