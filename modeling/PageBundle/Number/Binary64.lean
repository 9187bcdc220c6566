/-!
Whole numbers in binary floating point with 53 significant bits. Sizes are divided by a power of two
before they are compared, which moves no bit, so rounding whole numbers is all the arithmetic there is.
-/

namespace PageBundle.Binary64

def precision : Nat := 53

/-- The multiple of `unit` nearest to `n`, in units; a tie goes to the even one. -/
def nearest (n unit : Nat) : Nat :=
  let q := n / unit
  let r := n % unit
  if unit < 2 * r || (unit == 2 * r && q % 2 == 1) then q + 1 else q

/-- The floating-point number nearest to `n`; a tie goes to the one whose last bit is zero. -/
def round (n : Nat) : Nat :=
  let unit := Nat.pow 2 (n.log2 + 1 - precision)
  nearest n unit * unit

/-- The least number that rounds to infinity. -/
def overflow : Nat := Nat.pow 2 1024 - Nat.pow 2 970

/-- Small numbers are exact. -/
theorem round_of_lt {n : Nat} (h : n < Nat.pow 2 53) : round n = n := by
  have hl : n.log2 + 1 - precision = 0 := by
    by_cases hn : n = 0
    · subst hn; decide
    · have := (Nat.log2_lt hn).2 h
      simp only [precision]; omega
  simp [round, hl, nearest, Nat.mod_one]

end PageBundle.Binary64
