import BrokerClient.Text.Blank
import BrokerClient.Text.Joining
import BrokerClient.Text.Normal
import BrokerClient.Text.Utf8
import BrokerClient.Url.Mapping
import BrokerClient.Url.Punycode

/-!
# Domain names

A domain name is a row of labels with dots between them, in any script. `domain?` brings it into one form:
each character is mapped, the whole is put in normal form, and labels written in ASCII are read. It refuses
a name in which a character has no place, a label starts with a mark, letters would be joined that cannot
be, or texts of both directions are mixed up.
-/

namespace BrokerClient.Url

abbrev Label := List Char

namespace Label

/-- The characters past control characters and blanks that no name has in it. -/
def deniedSigns : List Char := "%#/:<>?@[\\]^|".toList

def isDenied (c : Char) : Bool := c.toNat ≤ 0x20 || c.toNat == 0x7F || deniedSigns.contains c

def isAscii (label : Label) : Bool := label.all (·.toNat < 0x80)

/-! ## Labels written in ASCII -/

/-- What announces a label written in ASCII. -/
def announcement : List Char := ['x', 'n', '-', '-']

/-- The longest label that is read, and the longest one that can be written, in ASCII. -/
def maxRead : Nat := 2000
def maxWritten : Nat := 1000

/-- Whether a label is as mapping and normal form would leave it. -/
def isSettled (label : Label) : Bool :=
  label.all (fun c => Mapping.mapChar? c == some [c] && c != '.') && Text.normalForm label == label

/-- The label that one written in ASCII stands for. -/
def read? (written : List Char) : Option Label :=
  if written.length ≤ maxRead ∧ isAscii written ∧ written.getLast?.any (· != '-') then
    (Punycode.decode? written).filter isSettled
  else none

/-- A label, which is read if it is announced. -/
def resolve? (label : Label) : Option Label :=
  if announcement.isPrefixOf label then read? (label.drop announcement.length) else some label

/-! ## Joining -/

/-- Whether the joiners in a label stand where they change how it is written. Both may follow a sign that
takes off a vowel; the one that parts letters may stand between two that would join. -/
def joinersFit (before : List Char) : List Char → Bool
  | [] => true
  | c :: rest =>
    let fits :=
      if c = '\u200C' ∨ c = '\u200D' then
        match before with
        | [] => false
        | b :: _ => Text.combiningClass b == Text.vowelKiller || (c == '\u200C' && Text.joinsAcross before rest)
      else true
    fits && joinersFit (c :: before) rest

def isWellFormed (label : Label) : Bool :=
  !label.any isDenied && !label.head?.any Text.isMark && joinersFit [] label &&
    (isAscii label || label.length ≤ maxWritten)

/-! ## Direction -/

/-- Whether a character makes the direction of a whole name matter. -/
def turns (c : Char) : Bool := [.right, .arabic, .arabicNumber].contains (Text.directionOf c)

/-- What a label from left to right may have in it, and at its end. -/
def leftInside : List Text.Direction :=
  [.left, .number, .plusMinus, .separator, .unit, .neutral, .boundary, .nonspacing]
def leftEnd : List Text.Direction := [.left, .number]

/-- What a label from right to left may have in it, and at its end. -/
def rightInside : List Text.Direction :=
  [.right, .arabic, .arabicNumber, .number, .plusMinus, .separator, .unit, .neutral, .boundary, .nonspacing]
def rightEnd : List Text.Direction := [.right, .arabic, .arabicNumber, .number]

/-- Whether a label goes one way: that of its first character, which is a letter. Digits of two kinds are
not mixed from right to left. -/
def goesOneWay (label : Label) : Bool :=
  let directions := label.map Text.directionOf
  let last := (directions.reverse.dropWhile (· == .nonspacing)).head?
  match directions with
  | [] => true
  | .left :: _ => directions.all leftInside.contains && last.any leftEnd.contains
  | .right :: _ | .arabic :: _ =>
    directions.all rightInside.contains && last.any rightEnd.contains &&
      !(directions.contains .number && directions.contains .arabicNumber)
  | _ => false

end Label

/-- The labels of a domain name, read and checked, or `none` if the bytes are no domain name. -/
def domain? (bytes : Bytes) : Option (List Label) := do
  let text ← Text.Utf8.toString? bytes
  let mapped ← text.toList.mapM Mapping.mapChar?
  let labels ← (Text.splitChars '.' (Text.normalForm mapped.flatten)).mapM Label.resolve?
  if labels.all Label.isWellFormed && (labels.all Label.goesOneWay || !labels.any (·.any Label.turns)) then
    some labels
  else none

end BrokerClient.Url
