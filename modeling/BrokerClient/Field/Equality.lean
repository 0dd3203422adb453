import BrokerClient.Field.Value
import BrokerClient.Number.Binary

/-!
# When two values are the same

Declarations are compared by value. Two floating-point values are the same when they are the same
number: a value that is not a number differs from itself, and the two zeros are equal. Everything else
is compared part by part.
-/

namespace BrokerClient

/-- Equality of the numbers that two bit patterns stand for. -/
def Number.Format.sameNumber (f : Number.Format) (a b : Nat) : Bool :=
  let signBit := Nat.pow 2 (f.exponent + f.fraction)
  let magnitude (n : Nat) := n % signBit
  let isNumber (n : Nat) := magnitude n ≤ f.infinity
  isNumber a && isNumber b && (a == b || (magnitude a == 0 && magnitude b == 0))

mutual

def FieldValue.same : FieldValue → FieldValue → Bool
  | .boolean a, .boolean b => a == b
  | .shortShortInt a, .shortShortInt b => a == b
  | .shortShortUInt a, .shortShortUInt b => a == b
  | .shortInt a, .shortInt b => a == b
  | .shortUInt a, .shortUInt b => a == b
  | .longInt a, .longInt b => a == b
  | .longUInt a, .longUInt b => a == b
  | .longLongInt a, .longLongInt b => a == b
  | .float a, .float b => Number.single.sameNumber a.toNat b.toNat
  | .double a, .double b => Number.double.sameNumber a.toNat b.toNat
  | .decimal s v, .decimal s' v' => s == s' && v == v'
  | .shortString a, .shortString b => a == b
  | .longString a, .longString b => a == b
  | .array a, .array b => FieldValue.sameItems a b
  | .timestamp a, .timestamp b => a == b
  | .table a, .table b => FieldValue.sameEntries a b
  | .byteArray a, .byteArray b => a == b
  | .void, .void => true
  | _, _ => false

def FieldValue.sameItems : List FieldValue → List FieldValue → Bool
  | [], [] => true
  | a :: as, b :: bs => FieldValue.same a b && FieldValue.sameItems as bs
  | _, _ => false

def FieldValue.sameEntries {bound bound' : Option String} :
    Entries FieldValue bound → Entries FieldValue bound' → Bool
  | .nil, .nil => true
  | .cons k _ a as, .cons l _ b bs => k == l && FieldValue.same a b && FieldValue.sameEntries as bs
  | _, _ => false

end

/-- Two tables with the same keys and the same values under them. -/
def Table.same (a b : Table) : Bool := FieldValue.sameEntries a b

end BrokerClient
