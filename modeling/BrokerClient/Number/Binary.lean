/-!
# Binary floating-point numbers

A format is the width of the fraction and of the exponent. A magnitude is its bit pattern without the
sign, which orders the same way as its value. `nearest` rounds a quotient of natural numbers to the
format, a half to the even neighbour, and to infinity past the largest finite magnitude; a pattern
stands for `mantissa · 2 ^ scale`.
-/

namespace BrokerClient.Number

/-- A binary interchange format. -/
structure Format where
  fraction : Nat
  exponent : Nat

/-- Four bytes: 23 bits of fraction, 8 of exponent. -/
def single : Format := ⟨23, 8⟩

/-- Eight bytes: 52 bits of fraction, 11 of exponent. -/
def double : Format := ⟨52, 11⟩

/-- The quotient rounded to the nearest natural number, a half to the even one. -/
def roundHalfEven (num den : Nat) : Nat :=
  let q := num / den
  let r := num % den
  if 2 * r < den then q
  else if den < 2 * r then q + 1
  else q + q % 2

/-- The largest `l` with `2 ^ l ≤ num / den`, for positive `num` and `den`. -/
def log2Quotient (num den : Nat) : Int :=
  let guess : Int := (Nat.log2 num : Int) - Nat.log2 den
  let reached := if 0 ≤ guess then den * Nat.pow 2 guess.toNat ≤ num else den ≤ num * Nat.pow 2 (-guess).toNat
  if reached then guess else guess - 1

namespace Format

/-- The exponent of the last place of the smallest magnitudes. -/
def leastScale (f : Format) : Int := 2 - Nat.pow 2 (f.exponent - 1) - f.fraction

/-- The pattern of infinity, one above the largest finite magnitude. -/
def infinity (f : Format) : Nat := (Nat.pow 2 f.exponent - 1) * Nat.pow 2 f.fraction

/-- The pattern of the magnitude nearest to `num / den`, a half to the even neighbour. -/
def nearest (f : Format) (num den : Nat) : Nat :=
  if num = 0 then 0
  else
    let scale := max (log2Quotient num den - f.fraction) f.leastScale
    let mantissa :=
      if 0 ≤ scale then roundHalfEven num (den * Nat.pow 2 scale.toNat)
      else roundHalfEven (num * Nat.pow 2 (-scale).toNat) den
    min ((scale - f.leastScale).toNat * Nat.pow 2 f.fraction + mantissa) f.infinity

/-- The mantissa of a finite magnitude. -/
def mantissa (f : Format) (bits : Nat) : Nat :=
  if bits < Nat.pow 2 f.fraction then bits else bits % Nat.pow 2 f.fraction + Nat.pow 2 f.fraction

/-- The exponent of the last place of a finite magnitude. -/
def scale (f : Format) (bits : Nat) : Int := f.leastScale + (bits / Nat.pow 2 f.fraction - 1 : Nat)

/-- A finite magnitude as a quotient of natural numbers. -/
def toQuotient (f : Format) (bits : Nat) : Nat × Nat :=
  let m := f.mantissa bits
  let s := f.scale bits
  if 0 ≤ s then (m * Nat.pow 2 s.toNat, 1) else (m, Nat.pow 2 (-s).toNat)

/-- The rounded product of a finite magnitude and a natural number. -/
def mul (f : Format) (bits n : Nat) : Nat :=
  let (num, den) := f.toQuotient bits
  f.nearest (num * n) den

/-- The rounded quotient of a finite magnitude and a natural number. -/
def div (f : Format) (bits n : Nat) : Nat :=
  let (num, den) := f.toQuotient bits
  f.nearest num (den * n)

end Format
end BrokerClient.Number
