import BrokerClient.Text.Utf8

/-!
# Hexadecimal text

Bytes as pairs of lower-case hexadecimal digits, and numbers with a fixed count of digits.
-/

namespace BrokerClient.Text.Hex

def isDigit (c : Char) : Bool := ('0' ≤ c && c ≤ '9') || ('a' ≤ c && c ≤ 'f')

/-- The two digits of a byte. -/
def ofByte (b : UInt8) : List Char := [Nat.digitChar (b.toNat / 16), Nat.digitChar (b.toNat % 16)]

def encode (b : Bytes) : String := String.ofList (b.flatMap ofByte)

/-- The value of a digit, of either case. -/
def value (c : Char) : Nat := if c.isDigit then c.toNat - 48 else c.toLower.toNat - 87

/-- The bytes that pairs of digits stand for. -/
def decode : List Char → Bytes
  | a :: b :: rest => (value a * 16 + value b).toUInt8 :: decode rest
  | _ => []

/-- The value of a digit of either case, if a character is one. -/
def digit? (c : Char) : Option Nat := if isDigit c || ('A' ≤ c && c ≤ 'F') then some (value c) else none

/-- The number that digits stand for. -/
def number (digits : String) : Nat := digits.toList.foldl (fun n c => 16 * n + value c) 0

/-- The last `n` digits of a number. -/
def padded (n value : Nat) : String :=
  let digits := Nat.toDigits 16 (value % Nat.pow 16 n)
  String.ofList (List.replicate (n - digits.length) '0' ++ digits)

end BrokerClient.Text.Hex
