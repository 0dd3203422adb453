import BrokerClient.Json.Parser

/-!
# Passing over a value

A member that nobody asks for is passed over without being kept: its brackets must match and its tokens
must be well formed, but its texts need not be, and it may be nested to any depth. The open brackets are
a list, innermost first.
-/

namespace BrokerClient.Json.Parser

inductive Bracket where
  | list
  | object
deriving DecidableEq, Repr

namespace Bracket

def construct : Bracket → Construct
  | .list => .list
  | .object => .object

def closing : Bracket → Char
  | .list => ']'
  | .object => '\x7d'

/-- The failure where neither a comma nor the closing bracket follows. -/
def unclosed : Bracket → Error
  | .list => .expectedCommaOrBracket
  | .object => .expectedCommaOrBrace

end Bracket

/-! ## Tokens -/

def skipEscape : Parser Unit := do
  let c := asChar (← nextOf .string)
  if c = 'u' then discard hexNumber
  else if (simpleEscape? c).isNone then throw .invalidEscape

/-- Passes over a text from behind the opening quote. -/
def skipString : Nat → Parser Unit
  | 0 => return ()
  | fuel + 1 => do
    let b ← nextOf .string
    let c := asChar b
    if c = '"' then return ()
    else if c = '\\' then
      skipEscape
      skipString fuel
    else if b < 0x20 then throw .controlCharacter
    else skipString fuel

/-- The next character, or a zero at the end. -/
def nextOrNul : Parser Char := do return (← next).getD (Char.ofNat 0)

def skipExponent : Parser Unit := do
  skip
  match ← peek with
  | some '+' | some '-' => skip
  | _ => pure ()
  if !Text.Ascii.isDigit (← nextOrNul) then throw .invalidNumber
  discard (skipDigits (← rounds) 0)

def skipNumberEnd : Parser Unit := do
  match ← peek with
  | some 'e' | some 'E' => skipExponent
  | _ => return ()

def skipFraction : Parser Unit := do
  skip
  if (← skipDigits (← rounds) 0) = 0 then throw .invalidNumber
  skipNumberEnd

/-- Passes over a number from behind its sign. -/
def skipNumber : Parser Unit := do
  let first ← nextOrNul
  if first = '0' then
    match ← peek with
    | some c => if Text.Ascii.isDigit c then throw .invalidNumber
    | none => pure ()
  else if Text.Ascii.isDigit first then discard (skipDigits (← rounds) 0)
  else throw .invalidNumber
  match ← peek with
  | some '.' => skipFraction
  | _ => skipNumberEnd

/-- Passes over a value without brackets, or opens one. -/
def skipStart : Parser (Option Bracket) := do
  let c ← valueStart
  match c with
  | '[' => skip; return some .list
  | '\x7b' => skip; return some .object
  | 'n' => skip; word "ull".toList; return none
  | 't' => skip; word "rue".toList; return none
  | 'f' => skip; word "alse".toList; return none
  | '"' => skip; skipString (← rounds); return none
  | _ =>
    if c = '-' then skip; skipNumber; return none
    else if Text.Ascii.isDigit c then skipNumber; return none
    else throw .expectedValue

/-! ## Brackets -/

/-- Goes on after a value, or after an opening bracket, up to the next value: the brackets that are then
open, or none of them when the outermost is closed. A comma is due after a value only. -/
def skipToNext : Nat → Bool → List Bracket → Parser (List Bracket)
  | 0, _, _ => return []
  | _, _, [] => return []
  | fuel + 1, afterValue, b :: outer => do
    match ← significant with
    | none => throw (.unfinished b.construct)
    | some c =>
      if c = ',' ∧ afterValue then skip; return b :: outer
      else if c = b.closing then skip; skipToNext fuel true outer
      else if afterValue then throw b.unclosed
      else return b :: outer

/-- Passes over the key of a member and its colon. -/
def skipKey : Parser Unit := do
  match ← significant with
  | some '"' => skip
  | some _ => throw .keyNotString
  | none => throw (.unfinished .object)
  skipString (← rounds)
  match ← significant with
  | some ':' => skip
  | some _ => throw .expectedColon
  | none => throw (.unfinished .object)

/-- Passes over the rest of the values in open brackets. -/
def skipValues : Nat → List Bracket → Parser Unit
  | 0, _ => return ()
  | fuel + 1, opened => do
    let brackets ← match ← skipStart with
      | some b => skipToNext (← rounds) false (b :: opened)
      | none => skipToNext (← rounds) true opened
    match brackets with
    | [] => return ()
    | b :: _ =>
      if b = .object then skipKey
      skipValues fuel brackets

/-- Passes over a value. -/
def skipValue : Parser Unit := do skipValues (← rounds) []

end BrokerClient.Json.Parser
