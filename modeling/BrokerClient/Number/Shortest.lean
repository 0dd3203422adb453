import BrokerClient.Number.Binary

/-!
# Shortest decimals

`shortest` gives the fewest decimal digits that read back as a magnitude: the magnitudes of a format
are the centres of intervals of reals that round to them, and of each decimal grid, coarsest first,
only the two neighbours of the magnitude need testing. `Style.render` writes the digits out, with a
point among them or with an exponent behind them.
-/

namespace BrokerClient.Number

/-- `digits · 10 ^ exponent`. -/
structure Decimal where
  digits : Nat
  exponent : Int

/-- The reals that round to a magnitude, in units of a quarter of its last place, and whether the
ends belong to them. -/
structure Interval where
  low : Nat
  high : Nat
  closed : Bool

/-- The interval of a magnitude. Below a power of two the places are half as wide. -/
def Format.interval (f : Format) (bits : Nat) : Interval :=
  let m := f.mantissa bits
  let narrow := bits % Nat.pow 2 f.fraction = 0 ∧ Nat.pow 2 f.fraction < bits
  ⟨4 * m - (if narrow then 1 else 2), 4 * m + 2, m % 2 = 0⟩

/-- `x ≤ y`, or `x < y` where the ends do not belong. -/
def within (closed : Bool) (x y : Nat) : Bool := if closed then x ≤ y else x < y

/-- A natural number as often as an integer power of a base asks, on the side of the numerator or of
the denominator. -/
def powers (base : Nat) (e : Int) : Nat × Nat :=
  if 0 ≤ e then (Nat.pow base e.toNat, 1) else (1, Nat.pow base (-e).toNat)

/-- Drops the zeros at the end of the digits. -/
def Decimal.trimmed (fuel : Nat) (d : Decimal) : Decimal :=
  match fuel with
  | 0 => d
  | fuel + 1 => if d.digits ≠ 0 ∧ d.digits % 10 = 0 then trimmed fuel ⟨d.digits / 10, d.exponent + 1⟩ else d

/-- Which of two points a magnitude goes to that lies halfway between them. -/
inductive Tie where
  | even
  | up

/-- Whether a magnitude halfway between a number and the next goes to the lower one. -/
def Tie.keeps (below : Nat) : Tie → Bool
  | .even => below % 2 = 0
  | .up => false

/-- The nearest point of the grid `10 ^ k` that rounds to the magnitude, if there is one. -/
def Format.onGrid (f : Format) (tie : Tie) (bits : Nat) (k : Int) : Option Decimal :=
  let i := f.interval bits
  -- with u = 2 ^ (scale - 2), the magnitude is 4 * mantissa * u
  let (pn, pd) := powers 2 (f.scale bits - 2)
  let (tn, td) := powers 10 k
  let value := 4 * f.mantissa bits * pn * td
  let step := pd * tn
  let below := value / step
  let fits (n : Nat) : Bool :=
    within i.closed (i.low * pn * td) (n * step) && within i.closed (n * step) (i.high * pn * td)
  match fits below, fits (below + 1) with
  | true, true =>
    let twice := 2 * (value % step)
    if twice < step ∨ (twice = step ∧ tie.keeps below) then some ⟨below, k⟩ else some ⟨below + 1, k⟩
  | true, false => some ⟨below, k⟩
  | false, true => some ⟨below + 1, k⟩
  | false, false => none

/-- The largest `e` with `10 ^ e ≤ num / den`, from a guess that is not too small. -/
def log10From (num den : Nat) : Nat → Int → Int
  | 0, e => e
  | fuel + 1, e =>
    let (tn, td) := powers 10 e
    if den * tn ≤ num * td then e else log10From num den fuel (e - 1)

/-- The fewest digits that read back as a positive finite magnitude. -/
def Format.shortest (f : Format) (tie : Tie) (bits : Nat) : Decimal :=
  let (num, den) := f.toQuotient bits
  let lead := log10From num den 3 ((log2Quotient num den + 1) * 30103 / 100000 + 1)
  let rec search : Nat → Int → Decimal
    | 0, k => (f.onGrid tie bits k).getD ⟨num / den, 0⟩
    | fuel + 1, k => match f.onGrid tie bits k with
      | some d => d
      | none => search fuel (k - 1)
  (search 20 lead).trimmed 400

/-- How a decimal is written: the least exponent of the first digit that is still written with a
point, the least one that no longer is, whether a positive exponent has a sign, and which of two
decimals as short and as near is taken. -/
structure Style where
  pointFrom : Int
  pointBelow : Int
  plus : Bool
  tie : Tie

def digitsOf (n : Nat) : List Char := Nat.toDigits 10 n

/-- The text of a positive decimal. A point has a digit on both sides. -/
def Style.render (s : Style) (d : Decimal) : String :=
  let ds := digitsOf d.digits
  let lead : Int := d.exponent + ds.length - 1
  if s.pointFrom ≤ lead ∧ lead < s.pointBelow then
    if 0 ≤ d.exponent then String.ofList (ds ++ List.replicate d.exponent.toNat '0' ++ ['.', '0'])
    else if 0 ≤ lead then
      String.ofList (ds.take (lead.toNat + 1) ++ '.' :: ds.drop (lead.toNat + 1))
    else String.ofList ('0' :: '.' :: List.replicate (-lead - 1).toNat '0' ++ ds)
  else
    let head := match ds with
      | c :: rest => c :: (if rest.isEmpty then [] else '.' :: rest)
      | [] => []
    let sign := if lead < 0 then "-" else if s.plus then "+" else ""
    String.ofList head ++ "e" ++ sign ++ toString lead.natAbs

/-- The text of a pattern with its sign bit. -/
def Style.text (s : Style) (f : Format) (pattern : Nat) : String :=
  let signBit := Nat.pow 2 (f.exponent + f.fraction)
  let bits := pattern % signBit
  let sign := if signBit ≤ pattern then "-" else ""
  if f.infinity < bits then "NaN"
  else if bits = f.infinity then sign ++ "inf"
  else if bits = 0 then sign ++ "0.0"
  else sign ++ s.render (f.shortest s.tie bits)

end BrokerClient.Number
