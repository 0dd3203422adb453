import BrokerClient.Text.Blank
import BrokerClient.Text.Hex

/-!
# Percent signs in addresses

A percent sign and two hexadecimal digits stand for one byte; any other percent sign stands for itself.
Parameters are such texts in pairs, in which a plus sign stands for a blank.
-/

namespace BrokerClient.Url

/-- The byte that two hexadecimal digits stand for. -/
def byteOf? (a b : Char) : Option UInt8 := do
  let a ← Text.Hex.digit? a
  let b ← Text.Hex.digit? b
  return (a * 16 + b).toUInt8

/-- The bytes of a text in which a percent sign and two digits stand for one. -/
def percentDecoded : List Char → Bytes
  | '%' :: a :: b :: rest => match byteOf? a b with
    | some byte => byte :: percentDecoded rest
    | none => 37 :: percentDecoded (a :: b :: rest)
  | c :: rest => Text.Utf8.encodeChar c ++ percentDecoded rest
  | [] => []

/-- A name or a value of a parameter. Bytes that are no text become U+FFFD. -/
def formText (cs : List Char) : String :=
  Text.Utf8.toStringLossy (percentDecoded (cs.map fun c => if c = '+' then ' ' else c))

/-- The parameters of an address, each with its value; without an equals sign that is empty. -/
def parameters (query : List Char) : List (String × String) :=
  ((Text.splitChars '&' query).filter (!·.isEmpty)).map fun pair =>
    match Text.splitOnce '=' pair with
    | some (name, value) => (formText name, formText value)
    | none => (formText pair, "")

end BrokerClient.Url
