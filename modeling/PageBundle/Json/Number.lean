import PageBundle.Number.Binary64

/-!
JSON numbers. A number is refused if it is too large for floating point. Its size is judged by the product
of two rounded factors: the leading digits that fit in 64 bits, and a power of ten; digits past those only
count towards the power.
-/

namespace PageBundle.Json

/-- What is known of a number while its digits are read. -/
structure Magnitude where
  /-- The leading digits. -/
  significand : Nat := 0
  /-- The power of ten that they are to be multiplied with. -/
  exponent : Int := 0
  /-- Whether a digit has been left out, and with it all after it on its side of the point. -/
  full : Bool := false

/-- Takes in one more digit, before the point or after it. -/
def Magnitude.push (m : Magnitude) (fraction : Bool) (d : Nat) : Magnitude :=
  let n := m.significand * 10 + d
  if m.full || Nat.pow 2 64 ≤ n then
    { m with full := true, exponent := if fraction then m.exponent else m.exponent + 1 }
  else { m with significand := n, exponent := if fraction then m.exponent - 1 else m.exponent }

/-- Takes in the digits before the point, or those after it. -/
def Magnitude.pushAll (m : Magnitude) (fraction : Bool) (ds : List Char) : Magnitude :=
  ds.foldl (fun m c => m.push fraction (c.toNat - 48)) { m with full := false }

def Magnitude.isFinite (m : Magnitude) : Bool :=
  m.exponent ≤ 0 || m.significand == 0 ||
    (m.exponent ≤ 308 &&
      Binary64.round m.significand * Binary64.round (Nat.pow 10 m.exponent.toNat) < Binary64.overflow)

/-- Reads the whole part: a zero alone, or digits that do not start with one. -/
def whole? (s : List Char) : Option (List Char × List Char) :=
  match s with
  | '0' :: r => if r.head?.any Char.isDigit then none else some (['0'], r)
  | s =>
    let ds := s.takeWhile Char.isDigit
    if ds.isEmpty then none else some (ds, s.dropWhile Char.isDigit)

/-- Reads the fraction, if there is a point; its digits may not be missing then. -/
def fraction? : List Char → Option (List Char × List Char)
  | '.' :: r =>
    let ds := r.takeWhile Char.isDigit
    if ds.isEmpty then none else some (ds, r.dropWhile Char.isDigit)
  | s => some ([], s)

def exponentSign : List Char → Bool × List Char
  | '+' :: r => (false, r)
  | '-' :: r => (true, r)
  | r => (false, r)

/-- Reads the exponent, if there is its mark; its digits may not be missing then. -/
def exponent? (s : List Char) : Option (Int × List Char) :=
  match s with
  | [] => some (0, [])
  | c :: r =>
    if c == 'e' || c == 'E' then
      let (negative, r) := exponentSign r
      let ds := r.takeWhile Char.isDigit
      let n : Int := Nat.ofDigitChars 10 ds 0
      if ds.isEmpty then none else some (if negative then -n else n, r.dropWhile Char.isDigit)
    else some (0, s)

def number? (s : List Char) : Option (List Char) := do
  let s := match s with
    | '-' :: r => r
    | s => s
  let (ds, s) ← whole? s
  let (fs, s) ← fraction? s
  let (e, s) ← exponent? s
  let m := (Magnitude.pushAll {} false ds).pushAll true fs
  if { m with exponent := m.exponent + e }.isFinite then some s else none

end PageBundle.Json
