/-!
Digits of numbers that are written to a base up to sixteen.
-/

namespace PageBundle.Text

def hexDigit? (c : Char) : Option Nat :=
  if c.isDigit then some (c.toNat - 48)
  else if 'a' ≤ c ∧ c ≤ 'f' then some (c.toNat - 87)
  else if 'A' ≤ c ∧ c ≤ 'F' then some (c.toNat - 55)
  else none

def digit? (base : Nat) (c : Char) : Option Nat := (hexDigit? c).filter (· < base)

/-- The value of digits to a base; none if a character is no digit to it. -/
def digits? (base : Nat) (s : List Char) : Option Nat :=
  s.foldlM (fun n c => (digit? base c).map (n * base + ·)) 0

/-- The value of digits to a base, or a limit if the value is above it, however many digits there are. -/
def digitsUpTo? (limit base : Nat) (s : List Char) : Option Nat :=
  s.foldlM (fun n c => (digit? base c).map fun d => min limit (n * base + d)) 0

end PageBundle.Text
