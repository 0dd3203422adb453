/-!
# Labels written in ASCII

A label of a domain name is written in ASCII as its ASCII characters, a hyphen, and numbers that say which
other characters stand where. Each number is written in digits of a base that depends on the numbers before
it, the lowest digit first. `decode?` reads such a label, without the four characters that announce it.
-/

namespace BrokerClient.Url.Punycode

def base : Nat := 36
def leastThreshold : Nat := 1
def mostThreshold : Nat := 26

/-- The value of a digit: letters, then decimal digits. -/
def digit? (c : Char) : Option Nat :=
  if 'a' ≤ c ∧ c ≤ 'z' then some (c.toNat - 'a'.toNat)
  else if '0' ≤ c ∧ c ≤ '9' then some (c.toNat - '0'.toNat + 26)
  else none

/-- The least value of the last digit of a number that goes on, where `k` counts the digits by `base`. -/
def threshold (k bias : Nat) : Nat := min (max (k - bias) leastThreshold) mostThreshold

/-- Divides until a bound is met, and counts the divisions by `base`. -/
def shrink (delta k : Nat) : Nat × Nat :=
  if 455 < delta then shrink (delta / 35) (k + base) else (delta, k)
termination_by delta
decreasing_by omega

/-- The bias for the number behind one, which put a character into a text of `size`. -/
def adapt (delta size : Nat) (first : Bool) : Nat :=
  let delta := if first then delta / 700 else delta / 2
  let (delta, k) := shrink (delta + delta / size) 0
  k + base * delta / (delta + 38)

/-- The bound on numbers and on the weights of their digits. -/
def bound : Nat := Nat.pow 2 32

/-- A number on top of another, from its digits, and what follows them. -/
def number? (bias : Nat) (k weight sum : Nat) : List Char → Option (Nat × List Char)
  | [] => none
  | c :: rest => do
    let d ← digit? c
    let sum := sum + d * weight
    let t := threshold k bias
    if bound ≤ sum then none
    else if d < t then some (sum, rest)
    else if bound ≤ weight * (base - t) then none
    else number? bias (k + base) (weight * (base - t)) sum rest

/-- The text so far, the next character's number, the place behind the last one put in, and the bias. -/
structure State where
  text : List Char
  code : Nat := 0x80
  place : Nat := 0
  bias : Nat := 72

def validChar? (n : Nat) : Option Char := if n.isValidChar then some (Char.ofNat n) else none

/-- Puts in the character that the next number says. -/
def insertNext (s : State) (input : List Char) : Option (State × List Char) := do
  let (sum, rest) ← number? s.bias base 1 s.place input
  let size := s.text.length + 1
  let code := s.code + sum / size
  let c ← validChar? code
  let place := sum % size
  let text := s.text.take place ++ c :: s.text.drop place
  return (⟨text, code, place + 1, adapt (sum - s.place) size (s.place = 0)⟩, rest)

def insertAll : Nat → State → List Char → Option (List Char)
  | 0, _, _ => none
  | _ + 1, s, [] => some s.text
  | fuel + 1, s, input => do
    let (s, rest) ← insertNext s input
    insertAll fuel s rest

/-- The label that small letters, digits and hyphens stand for. Nothing stands before a hyphen at the
start. -/
def decode? (input : List Char) : Option (List Char) :=
  let behind := (input.reverse.takeWhile (· ≠ '-')).reverse
  let before := input.take (input.length - behind.length - 1)
  let (text, numbers) := if before.isEmpty then ([], input) else (before, behind)
  insertAll (input.length + 1) { text } numbers

end BrokerClient.Url.Punycode
