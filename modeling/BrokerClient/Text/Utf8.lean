/-!
# UTF-8

Text as bytes and bytes as text. `encode` writes a character in one to four bytes. `decode` reads
any byte list: each well-formed sequence gives its character, and each longest ill-formed piece gives
one `none`. Reading strictly refuses a text with a `none` in it, reading leniently puts U+FFFD there,
so both readings agree wherever the bytes are well formed.
-/

namespace BrokerClient

/-- A string of bytes. -/
abbrev Bytes := List UInt8

namespace Text.Utf8

/-! ## Writing -/

/-- The bytes of one character, the shortest form. -/
def encodeChar (c : Char) : Bytes :=
  let n := c.toNat
  if n < 0x80 then [n.toUInt8]
  else if n < 0x800 then [(0xC0 + n / 64).toUInt8, (0x80 + n % 64).toUInt8]
  else if n < 0x10000 then
    [(0xE0 + n / 4096).toUInt8, (0x80 + n / 64 % 64).toUInt8, (0x80 + n % 64).toUInt8]
  else
    [(0xF0 + n / 262144).toUInt8, (0x80 + n / 4096 % 64).toUInt8, (0x80 + n / 64 % 64).toUInt8,
      (0x80 + n % 64).toUInt8]

def encode (cs : List Char) : Bytes := cs.flatMap encodeChar

/-- The bytes of a text. -/
def ofString (s : String) : Bytes := encode s.toList

/-- The length of a text in bytes. -/
def size (s : String) : Nat := (ofString s).length

@[simp] theorem encode_nil : encode [] = [] := rfl

@[simp] theorem encode_cons (c : Char) (cs : List Char) : encode (c :: cs) = encodeChar c ++ encode cs := rfl

@[simp] theorem encode_append (a b : List Char) : encode (a ++ b) = encode a ++ encode b := by
  simp [encode]

/-! ## Reading -/

/-- An unfinished sequence: the bytes still owed, the least and the greatest value the next one may
have, the bits and the number of bytes read so far. The range narrows only the second byte, where
overlong forms, surrogates and values past U+10FFFF show. -/
structure Partial where
  owed : Nat
  low : Nat
  high : Nat
  bits : Nat
  taken : Nat

/-- What a byte means between sequences. -/
inductive Start where
  | whole (c : Char)
  | opens (p : Partial)
  | illFormed

def start (b : Nat) : Start :=
  if b < 0x80 then .whole (Char.ofNat b)
  else if b < 0xC2 then .illFormed
  else if b < 0xE0 then .opens ⟨1, 0x80, 0xBF, b - 0xC0, 1⟩
  else if b = 0xE0 then .opens ⟨2, 0xA0, 0xBF, 0, 1⟩
  else if b = 0xED then .opens ⟨2, 0x80, 0x9F, 0xD, 1⟩
  else if b < 0xF0 then .opens ⟨2, 0x80, 0xBF, b - 0xE0, 1⟩
  else if b = 0xF0 then .opens ⟨3, 0x90, 0xBF, 0, 1⟩
  else if b < 0xF4 then .opens ⟨3, 0x80, 0xBF, b - 0xF0, 1⟩
  else if b = 0xF4 then .opens ⟨3, 0x80, 0x8F, 4, 1⟩
  else .illFormed

/-- What one piece of input turned out to be: a character, or an ill-formed piece of some bytes. -/
inductive Piece where
  | char (c : Char)
  | illFormed (bytes : Nat)

/-- A byte between sequences: the piece it completes, if any, and the sequence it opens, if any. -/
def stepStart (b : Nat) : List Piece × Option Partial :=
  match start b with
  | .whole c => ([.char c], none)
  | .opens p => ([], some p)
  | .illFormed => ([.illFormed 1], none)

/-- One byte, outside any sequence (`none`) or inside one. A byte that cannot continue the sequence
ends it as ill formed and is read again as the start of the next. -/
def step : Option Partial → Nat → List Piece × Option Partial
  | none, b => stepStart b
  | some p, b =>
    if p.low ≤ b ∧ b ≤ p.high then
      let bits := p.bits * 64 + (b - 0x80)
      if p.owed ≤ 1 then ([.char (Char.ofNat bits)], none)
      else ([], some ⟨p.owed - 1, 0x80, 0xBF, bits, p.taken + 1⟩)
    else
      let (pieces, q) := stepStart b
      (.illFormed p.taken :: pieces, q)

/-- The pieces found so far, last first, and the unfinished sequence. -/
structure Scan where
  found : List Piece := []
  unfinished : Option Partial := none

def Scan.next (s : Scan) (b : UInt8) : Scan :=
  let (pieces, p) := step s.unfinished b.toNat
  ⟨pieces.reverse ++ s.found, p⟩

def scan (bytes : Bytes) : Scan := bytes.foldl Scan.next {}

/-- The pieces of a byte list, where a sequence that the end cuts short is ill formed. -/
def pieces (bytes : Bytes) : List Piece :=
  let s := scan bytes
  let found := match s.unfinished with
    | none => s.found
    | some p => .illFormed p.taken :: s.found
  found.reverse

def Piece.char? : Piece → Option Char
  | .char c => some c
  | .illFormed _ => none

/-- The characters of a byte list, `none` for each longest ill-formed piece. -/
def decode (bytes : Bytes) : List (Option Char) := (pieces bytes).map Piece.char?

/-- The text of well-formed bytes. -/
def toString? (bytes : Bytes) : Option String :=
  let cs := decode bytes
  if cs.all Option.isSome then some (String.ofList (cs.filterMap id)) else none

/-- The text of any bytes, with U+FFFD for each ill-formed piece. -/
def toStringLossy (bytes : Bytes) : String :=
  String.ofList ((decode bytes).map (·.getD '\uFFFD'))

/-- Where bytes stop being well formed: how many come before, and how long the ill-formed piece is,
or `none` for a sequence that the end cuts short. -/
structure Defect where
  validUpTo : Nat
  length : Option Nat

/-- The first ill-formed piece of a byte list. -/
def defect? (bytes : Bytes) : Option Defect :=
  let s := scan bytes
  let whole := s.found.reverse
  let validUpTo := (whole.takeWhile (·.char?.isSome)).foldl
    (fun n p => n + (p.char?.map fun c => (encodeChar c).length).getD 0) 0
  match whole.dropWhile (·.char?.isSome), s.unfinished with
  | .illFormed n :: _, _ => some ⟨validUpTo, some n⟩
  | _, some _ => some ⟨validUpTo, none⟩
  | _, none => none

end Text.Utf8
end BrokerClient
