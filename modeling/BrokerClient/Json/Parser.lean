import BrokerClient.ByteStream.Program
import BrokerClient.Json.Error
import BrokerClient.Text.Ascii
import BrokerClient.Text.Hex

/-!
# Reading JSON tokens

A parser asks its source for one byte at a time and looks at most one byte ahead, so that it never takes
more from the source than it needs to decide. It works under a bound on the number of bytes, which also
bounds its loops. The state is kept when a parser fails, so that what follows can go on from there.
-/

namespace BrokerClient.Json

open ByteStream (Reading)

/-- The byte that has been looked at and not yet taken. -/
structure Cursor where
  ahead : Option UInt8 := none

/-- A parser, given the bound on the number of bytes. -/
abbrev Parser := ReaderT Nat (ExceptT Error (StateT Cursor Reading))

namespace Parser

variable {α : Type}

/-- How often a loop that takes a byte each time can go round. -/
def rounds : Parser Nat := fun bound => pure (bound + 1)

/-- Runs a parser on a source of at most `bound` bytes. -/
def toReading (p : Parser α) (bound : Nat) : Reading (Except Error α) := do
  return (← (p bound).run.run {}).1

/-! ## Single bytes -/

/-- The next byte of the source. -/
def fetch : Parser (Option UInt8) := do
  match ← (Reading.request 1 : Reading _) with
  | .error e => throw (.input e)
  | .ok [] => return none
  | .ok (b :: _) => return some b

/-- The next byte, left where it is. -/
def peekByte : Parser (Option UInt8) := do
  match (← get).ahead with
  | some b => return some b
  | none =>
    let b ← fetch
    set (Cursor.mk b)
    return b

/-- The next byte. -/
def nextByte : Parser (Option UInt8) := do
  match (← get).ahead with
  | some b =>
    set (Cursor.mk none)
    return some b
  | none => fetch

/-- Takes the byte that has been looked at. -/
def skip : Parser Unit := set (Cursor.mk none)

/-- A byte as the character with its number. -/
def asChar (b : UInt8) : Char := Char.ofNat b.toNat

def peek : Parser (Option Char) := do return (← peekByte).map asChar

def next : Parser (Option Char) := do return (← nextByte).map asChar

/-- The next byte, which must be there. -/
def nextOf (c : Construct) : Parser UInt8 := do
  match ← nextByte with
  | some b => return b
  | none => throw (.unfinished c)

def isSpace (c : Char) : Bool := c == ' ' || c == '\n' || c == '\t' || c == '\r'

def skipSpaces : Nat → Parser (Option Char)
  | 0 => peek
  | fuel + 1 => do
    match ← peek with
    | some c => if isSpace c then skip; skipSpaces fuel else return some c
    | none => return none

/-- The next character that is not blank, left where it is. -/
def significant : Parser (Option Char) := do skipSpaces (← rounds)

/-- The start of a value. -/
def valueStart : Parser Char := do
  match ← significant with
  | some c => return c
  | none => throw (.unfinished .value)

/-- The rest of a word that is the only one with its first letter. -/
def word : List Char → Parser Unit
  | [] => return ()
  | c :: rest => do
    if asChar (← nextOf .value) = c then word rest else throw .expectedWord

/-- Tries a parser and goes on either way. -/
def attempt (p : Parser α) : Parser (Except Error α) :=
  tryCatch (Except.ok <$> p) fun e => pure (.error e)

/-- Runs what is inside brackets and then looks for the closing one, also after a failure inside, which
is the one that counts. -/
def enclosed (inside : Parser α) (close : Parser Unit) : Parser α := do
  let result ← attempt inside
  let closed ← attempt close
  match result, closed with
  | .error e, _ => throw e
  | .ok _, .error e => throw e
  | .ok a, .ok _ => return a

/-! ## Texts -/

/-- Four hexadecimal digits. -/
def hexNumber : Parser Nat := do
  let a ← nextOf .string
  let b ← nextOf .string
  let c ← nextOf .string
  let d ← nextOf .string
  match [a, b, c, d].mapM fun b => Text.Hex.digit? (asChar b) with
  | some digits => return digits.foldl (fun n d => 16 * n + d) 0
  | none => throw .invalidEscape

/-- One character that must follow a leading surrogate. -/
def surrogateLink (expected : Char) : Parser Unit := do
  match ← peek with
  | none => throw (.unfinished .string)
  | some c =>
    skip
    if c ≠ expected then throw .unfinishedEscape

/-- The character behind `\u`: one number, or a pair of surrogates. -/
def unicodeEscape : Parser Char := do
  let n ← hexNumber
  if 0xDC00 ≤ n ∧ n ≤ 0xDFFF then throw .loneSurrogate
  if n < 0xD800 ∨ 0xDBFF < n then return Char.ofNat n
  surrogateLink '\\'
  surrogateLink 'u'
  let m ← hexNumber
  if m < 0xDC00 ∨ 0xDFFF < m then throw .loneSurrogate
  return Char.ofNat ((n - 0xD800) * 1024 + (m - 0xDC00) + 0x10000)

/-- The character that a letter stands for behind a backslash. -/
def simpleEscape? : Char → Option Char
  | '"' => some '"'
  | '\\' => some '\\'
  | '/' => some '/'
  | 'b' => some (Char.ofNat 8)
  | 'f' => some (Char.ofNat 12)
  | 'n' => some '\n'
  | 'r' => some '\r'
  | 't' => some '\t'
  | _ => none

/-- The character that an escape stands for, from behind the backslash. -/
def escape : Parser Char := do
  let c := asChar (← nextOf .string)
  if c = 'u' then unicodeEscape
  else match simpleEscape? c with
    | some c => return c
    | none => throw .invalidEscape

/-- The bytes of a text from behind the opening quote, given those before them, last first. -/
def stringBytes : Nat → Bytes → Parser Bytes
  | 0, found => return found.reverse
  | fuel + 1, found => do
    let b ← nextOf .string
    let c := asChar b
    if c = '"' then return found.reverse
    else if c = '\\' then
      let c ← escape
      stringBytes fuel ((Text.Utf8.encodeChar c).reverse ++ found)
    else if b < 0x20 then throw .controlCharacter
    else stringBytes fuel (b :: found)

/-- A text, from behind the opening quote. -/
def stringRest : Parser String := do
  match Text.Utf8.toString? (← stringBytes (← rounds) []) with
  | some s => return s
  | none => throw .invalidCodePoint

/-! ## Numbers -/

/-- The least integer that is too large for an integer. -/
def integerBound : Nat := Nat.pow 2 64

/-- The largest exponent that is read as a number. -/
def maxExponent : Nat := Nat.pow 2 31 - 1

/-- Takes digits, and counts them. -/
def skipDigits : Nat → Nat → Parser Nat
  | 0, count => return count
  | fuel + 1, count => do
    match ← peek with
    | some c => if Text.Ascii.isDigit c then skip; skipDigits fuel (count + 1) else return count
    | none => return count

/-- Digits taken into a number while it stays below a bound. -/
structure Digits where
  value : Nat
  count : Nat
  /-- Whether a further digit would not fit. -/
  full : Bool

def digitsBelow (bound : Nat) : Nat → Nat → Nat → Parser Digits
  | 0, value, count => return ⟨value, count, false⟩
  | fuel + 1, value, count => do
    match ← peek with
    | some c =>
      if Text.Ascii.isDigit c then
        let value' := 10 * value + (c.toNat - '0'.toNat)
        if bound ≤ value' then return ⟨value, count, true⟩
        else skip; digitsBelow bound fuel value' (count + 1)
      else return ⟨value, count, false⟩
    | none => return ⟨value, count, false⟩

/-- A power of ten as a double, which is a natural number. -/
def powerOfTen (k : Nat) : Nat :=
  let (num, den) := BrokerClient.Number.double.toQuotient (BrokerClient.Number.double.nearest (Nat.pow 10 k) 1)
  num / den

/-- The largest exponent of a power of ten that is a double. -/
def maxPower : Nat := 308

/-- A magnitude scaled by a power of ten, in steps that each round, or `none` past the largest double. -/
def scaled : Nat → Nat → Int → Option Nat
  | 0, magnitude, _ => some magnitude
  | steps + 1, magnitude, exponent =>
    let f := BrokerClient.Number.double
    if exponent.natAbs ≤ maxPower then
      if 0 ≤ exponent then
        let product := f.mul magnitude (powerOfTen exponent.natAbs)
        if product = f.infinity then none else some product
      else some (f.div magnitude (powerOfTen exponent.natAbs))
    else if magnitude = 0 then some 0
    else if 0 ≤ exponent then none
    else scaled steps (f.div magnitude (powerOfTen maxPower)) (exponent + maxPower)

/-- A double with a sign. -/
def signed (positive : Bool) (magnitude : Nat) : Number :=
  .double (if positive then magnitude else magnitude + Nat.pow 2 63)

/-- The double for digits and an exponent. Three steps reach zero from any digits. -/
def fromParts (positive : Bool) (significand : Nat) (exponent : Int) : Parser Number :=
  match scaled 4 (BrokerClient.Number.double.nearest significand 1) exponent with
  | some magnitude => return signed positive magnitude
  | none => throw .numberOutOfRange

/-- An exponent within the range of exponents. -/
def clampExponent (e : Int) : Int := max (-(maxExponent : Int) - 1) (min maxExponent e)

/-- A number from its exponent's mark on. -/
def exponentPart (positive : Bool) (significand : Nat) (start : Int) : Parser Number := do
  skip
  let rising ← match ← peek with
    | some '+' => skip; pure true
    | some '-' => skip; pure false
    | _ => pure true
  let first := asChar (← nextOf .value)
  if !Text.Ascii.isDigit first then throw .invalidNumber
  let digits ← digitsBelow (maxExponent + 1) (← rounds) (first.toNat - '0'.toNat) 1
  if digits.full then
    skip
    if significand ≠ 0 ∧ rising then throw .numberOutOfRange
    discard (skipDigits (← rounds) 0)
    return signed positive 0
  fromParts positive significand
    (clampExponent (if rising then start + digits.value else start - digits.value))

/-- A number behind its digits, where an exponent may follow. -/
def withExponent (positive : Bool) (significand : Nat) (exponent : Int) : Parser Number := do
  match ← peek with
  | some 'e' | some 'E' => exponentPart positive significand exponent
  | _ => fromParts positive significand exponent

/-- A number from its point on. Digits that no longer fit are dropped. -/
def fractionPart (positive : Bool) (significand : Nat) (start : Int) : Parser Number := do
  skip
  let digits ← digitsBelow integerBound (← rounds) significand 0
  let exponent := start - digits.count
  if digits.full then
    discard (skipDigits (← rounds) 0)
    withExponent positive digits.value exponent
  else if digits.count = 0 then
    match ← peek with
    | some _ => throw .invalidNumber
    | none => throw (.unfinished .value)
  else withExponent positive digits.value exponent

/-- The number that digits without a point or an exponent are. Only a negative zero and an integer below
the least one are doubles. -/
def wholeNumber (positive : Bool) (n : Nat) : Number :=
  if positive then .integer n
  else if 0 < n ∧ n ≤ Nat.pow 2 63 then .integer (-n)
  else signed false (BrokerClient.Number.double.nearest n 1)

/-- A number behind its first digits. -/
def afterDigits (positive : Bool) (n : Nat) : Parser Number := do
  match ← peek with
  | some '.' => fractionPart positive n 0
  | some 'e' | some 'E' => exponentPart positive n 0
  | _ => return wholeNumber positive n

/-- A number whose integer part does not fit: the digits beyond count as powers of ten. -/
def longNumber (positive : Bool) (n : Nat) : Parser Number := do
  let dropped ← skipDigits (← rounds) 0
  match ← peek with
  | some '.' => fractionPart positive n dropped
  | _ => withExponent positive n dropped

/-- A number, from behind its sign. -/
def unsignedNumber (positive : Bool) : Parser Number := do
  let first := asChar (← nextOf .value)
  if first = '0' then
    match ← peek with
    | some c => if Text.Ascii.isDigit c then throw .invalidNumber else afterDigits positive 0
    | none => afterDigits positive 0
  else if Text.Ascii.isDigit first then
    let digits ← digitsBelow integerBound (← rounds) (first.toNat - '0'.toNat) 1
    if digits.full then longNumber positive digits.value else afterDigits positive digits.value
  else throw .invalidNumber

/-- A number that starts with a character which has been looked at. -/
def number (start : Char) : Parser Number := do
  if start = '-' then skip; unsignedNumber false
  else unsignedNumber true

/-- Whether a number can start with a character. -/
def startsNumber (c : Char) : Bool := c == '-' || Text.Ascii.isDigit c

end Parser
end BrokerClient.Json
