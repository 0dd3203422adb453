/-!
# Spans of time in text

A span given in milliseconds, in the largest unit of which it holds at least one: seconds with the
fraction that is needed, milliseconds, or nothing at all as `0ns`.
-/

namespace BrokerClient.Text

/-- The digits of a count of thousandths, without the zeros at the end. -/
def thousandths (n : Nat) : List Char :=
  let digits := Nat.toDigits 10 n
  ((List.replicate (3 - digits.length) '0' ++ digits).reverse.dropWhile (· == '0')).reverse

/-- The text of a span of `ms` milliseconds. -/
def duration (ms : Nat) : String :=
  if ms = 0 then "0ns"
  else if ms < 1000 then toString ms ++ "ms"
  else
    let fraction := thousandths (ms % 1000)
    toString (ms / 1000) ++ (if fraction.isEmpty then "" else "." ++ String.ofList fraction) ++ "s"

end BrokerClient.Text
