/-!
The code for names with other than ASCII letters: the ASCII characters as they are, then the places and
values of the others as differences in digits to the base 36. The weight of a digit adapts to the
differences before it.
-/

namespace PageBundle.Url.Punycode

def digit? (c : Char) : Option Nat :=
  if 'a' ≤ c ∧ c ≤ 'z' then some (c.toNat - 97)
  else if c.isDigit then some (c.toNat - 48 + 26)
  else none

/-- The value from which on a digit is not the last of its number. -/
def threshold (k bias : Nat) : Nat := if k ≤ bias then 1 else if bias + 26 ≤ k then 26 else k - bias

/-- Brings a difference down to the range in which the bias is read off. -/
def settle (delta k : Nat) : Nat :=
  if 455 < delta then settle (delta / 35) (k + 36) else k + 36 * delta / (delta + 38)
termination_by delta

/-- The bias after a difference, with the number of characters so far. -/
def adapt (delta count : Nat) (first : Bool) : Nat :=
  let d := if first then delta / 700 else delta / 2
  settle (d + d / count) 0

def maxNumber : Nat := Nat.pow 2 32 - 1

/-- Reads a number: the sum so far, the weight of the next digit, and its place. -/
def number? (bias : Nat) : Nat → Nat → Nat → List Char → Option (Nat × List Char)
  | _, _, _, [] => none
  | sum, weight, k, c :: s => do
    let d ← digit? c
    let t := threshold k bias
    let sum := sum + d * weight
    if maxNumber < sum then none
    else if d < t then some (sum, s)
    else if maxNumber < weight * (36 - t) then none
    else number? bias sum (weight * (36 - t)) (k + 36) s

def insertAll : Nat → List Char → Nat → Nat → Nat → List Char → Option (List Char)
  | 0, _, _, _, _, _ => none
  | _ + 1, out, _, _, _, [] => some out
  | fuel + 1, out, n, i, bias, s => do
    let (place, s) ← number? bias i 1 36 s
    let count := out.length + 1
    let n := n + place / count
    if n.isValidChar then
      insertAll fuel (out.insertIdx (place % count) (Char.ofNat n)) n (place % count + 1)
        (adapt (place - i) count (i == 0)) s
    else none

/-- The text that a code stands for. All before the last hyphen is text already, unless nothing is. -/
def decode? (code : List Char) : Option (List Char) :=
  let tail := (code.reverse.takeWhile (· ≠ '-')).reverse
  let head := (code.take (code.length - tail.length)).dropLast
  let tail := if head.isEmpty then code else tail
  if head.all (·.toNat < 128) then insertAll (code.length + 1) head 128 0 72 tail else none

end PageBundle.Url.Punycode
