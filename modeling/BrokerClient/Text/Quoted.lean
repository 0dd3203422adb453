import BrokerClient.Text.Unprintable

/-!
# Quoted text

A text between double quotes in which the quote, the backslash and every character without a shape of
its own are escaped, so that what is printed shows each character of the text.
-/

namespace BrokerClient.Text

def hexDigits (n : Nat) : String := String.ofList (Nat.toDigits 16 n)

def escapeChar (c : Char) : String :=
  if c = '"' then "\\\""
  else if c = '\\' then "\\\\"
  else if c = '\n' then "\\n"
  else if c = '\r' then "\\r"
  else if c = '\t' then "\\t"
  else if c.toNat = 0 then "\\0"
  else if c.toNat < 0x20 || (0x7F ≤ c.toNat && isUnprintable c) then
    "\\u\x7b" ++ hexDigits c.toNat ++ "\x7d"
  else c.toString

/-- The text as it is printed between quotes. -/
def quoted (s : String) : String := "\"" ++ String.join (s.toList.map escapeChar) ++ "\""

end BrokerClient.Text
