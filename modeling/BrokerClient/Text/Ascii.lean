/-!
# ASCII letters

Tokens of the messaging protocols are compared without regard to the case of ASCII letters only;
every other character stands for itself. Digits and letters are those that the core library calls so
(`isDigit_eq`, `isAlphanumeric_eq`).
-/

namespace BrokerClient.Text.Ascii

def lowerChar (c : Char) : Char :=
  if 'A' ≤ c ∧ c ≤ 'Z' then Char.ofNat (c.toNat + 32) else c

/-- The text with its ASCII capitals lowered. -/
def lower (s : String) : String := s.map lowerChar

/-- Equality up to the case of ASCII letters. -/
def sameLetters (a b : String) : Bool := lower a == lower b

def isDigit (c : Char) : Bool := '0' ≤ c && c ≤ '9'

def isAlphanumeric (c : Char) : Bool :=
  isDigit c || ('a' ≤ c && c ≤ 'z') || ('A' ≤ c && c ≤ 'Z')

theorem isDigit_eq (c : Char) : isDigit c = c.isDigit := by
  rw [Bool.eq_iff_iff]
  simp [isDigit, Char.isDigit, Char.le_def]

theorem isAlphanumeric_eq (c : Char) : isAlphanumeric c = c.isAlphanum := by
  have hupper : c.isUpper = decide ('A' ≤ c ∧ c ≤ 'Z') := rfl
  have hlower : c.isLower = (decide ('a' ≤ c) && decide (c ≤ 'z')) := rfl
  show _ = (c.isUpper || c.isLower || c.isDigit)
  rw [hupper, hlower, ← isDigit_eq, isAlphanumeric, Bool.eq_iff_iff]
  simp only [Bool.or_eq_true, Bool.and_eq_true, decide_eq_true_eq]
  grind

end BrokerClient.Text.Ascii
