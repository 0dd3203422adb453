import BrokerClient.Url.Domain
import BrokerClient.Url.Percent

/-!
# Hosts in addresses

A host is a name, or a number in one of two forms: four bytes with dots between them, or sixteen bytes by
pairs in brackets. Where the scheme calls for a domain name, the four bytes may also be fewer and larger
numbers, and in other bases; elsewhere a name is any text without certain signs.
-/

namespace BrokerClient.Url

/-- What makes a text no address. -/
inductive Error where
  | relative
  | emptyHost
  | serviceNumber
  | ipv4
  | ipv6
  | hostCharacter
  | domain
deriving DecidableEq, Repr

namespace Error

def message : Error → String
  | .relative => "relative URL without a base"
  | .emptyHost => "empty host"
  | .serviceNumber => "invalid port number"
  | .ipv4 => "invalid IPv4 address"
  | .ipv6 => "invalid IPv6 address"
  | .hostCharacter => "invalid domain character"
  | .domain => "invalid international domain name"

end Error

inductive Host where
  /-- A text that only its scheme can make sense of. -/
  | name (text : List Char)
  | domain (labels : List Label)
  | ipv4 (address : Nat)
  /-- The text between the brackets. -/
  | ipv6 (text : List Char)
deriving DecidableEq, Repr

/-! ## Four bytes -/

/-- The number that digits of a base stand for. -/
def digitsValue? (base : Nat) (digits : List Char) : Option Nat :=
  digits.foldlM (fun n c => do
    let d ← Text.Hex.digit? c
    if d < base then some (base * n + d) else none) 0

/-- A number by itself or behind the sign of its base. The sign alone is zero. -/
def number? : List Char → Option Nat
  | [] => none
  | '0' :: 'x' :: digits | '0' :: 'X' :: digits => digitsValue? 16 digits
  | '0' :: digits => digitsValue? 8 digits
  | digits => digitsValue? 10 digits

/-- The labels without an empty one at the end. -/
def withoutRoot (labels : List Label) : List Label :=
  if 2 ≤ labels.length ∧ labels.getLast? = some [] then labels.dropLast else labels

/-- Whether a name is meant as an address: its last label is a number. -/
def endsInNumber (labels : List Label) : Bool :=
  match (withoutRoot labels).getLast? with
  | none => false
  | some last => (!last.isEmpty && last.all Text.Ascii.isDigit) || (number? last).isSome

/-- The address of numbers, of which all but the last are bytes. -/
def ofNumbers? (numbers : List Nat) : Option Nat := do
  let last ← numbers.getLast?
  let bytes := numbers.dropLast
  if 4 < numbers.length ∨ bytes.any (255 < ·) ∨ Nat.pow 256 (4 - bytes.length) ≤ last then none
  else some (bytes.foldl (fun n b => 256 * n + b) 0 * Nat.pow 256 (4 - bytes.length) + last)

def ipv4? (labels : List Label) : Option Nat := do ofNumbers? (← (withoutRoot labels).mapM number?)

/-! ## Sixteen bytes -/

/-- A byte in decimal digits without a needless zero. -/
def isByte (cs : List Char) : Bool :=
  match cs with
  | [] => false
  | ['0'] => true
  | '0' :: _ => false
  | _ => cs.all Text.Ascii.isDigit && (digitsValue? 10 cs).any (· ≤ 255)

def isFourBytes (cs : List Char) : Bool :=
  let pieces := Text.splitChars '.' cs
  pieces.length == 4 && pieces.all isByte

/-- Up to four hexadecimal digits. -/
def isGroup (cs : List Char) : Bool := !cs.isEmpty && cs.length ≤ 4 && cs.all (Text.Hex.digit? · |>.isSome)

/-- How many pairs of bytes stand in a row of groups, of which the last may be four bytes in decimal where
the row ends the address. -/
def groupCount? (atEnd : Bool) (cs : List Char) : Option Nat :=
  if cs.isEmpty then some 0
  else
    let pieces := Text.splitChars ':' cs
    if pieces.all isGroup then some pieces.length
    else if atEnd && pieces.dropLast.all isGroup && pieces.getLast?.any isFourBytes then some (pieces.length + 1)
    else none

/-- What stands before and after the first two colons in a row, given what was passed over in reverse. -/
def splitGap (before : List Char) : List Char → Option (List Char × List Char)
  | ':' :: ':' :: rest => some (before.reverse, rest)
  | c :: rest => splitGap (c :: before) rest
  | [] => none

/-- Whether a text is eight pairs of bytes, where one run of zeros may be left out. -/
def isIpv6 (cs : List Char) : Bool :=
  match splitGap [] cs with
  | none => groupCount? true cs == some 8
  | some (a, b) => match groupCount? false a, groupCount? true b with
    | some m, some n => m + n ≤ 7
    | _, _ => false

/-! ## Hosts -/

/-- An address in brackets, from behind the first. -/
def bracketed (inner : List Char) : Except Error Host :=
  if inner.getLast? = some ']' ∧ isIpv6 inner.dropLast then .ok (.ipv6 inner.dropLast) else .error .ipv6

/-- Signs that no host has in it. -/
def deniedInHost : List Char :=
  [Char.ofNat 0, '\t', '\n', '\r', ' ', '#', '/', ':', '<', '>', '?', '@', '[', '\\', ']', '^', '|']

/-- A host whose name is any text. -/
def plainHost : List Char → Except Error Host
  | '[' :: inner => bracketed inner
  | cs => if cs.any deniedInHost.contains then .error .hostCharacter else .ok (.name cs)

/-- A host whose name is a domain name. -/
def domainHost : List Char → Except Error Host
  | '[' :: inner => bracketed inner
  | cs => match domain? (percentDecoded cs) with
    | none => .error .domain
    | some [[]] => .error .emptyHost
    | some labels =>
      if endsInNumber labels then
        match ipv4? labels with
        | some address => .ok (.ipv4 address)
        | none => .error .ipv4
      else .ok (.domain labels)

end BrokerClient.Url
