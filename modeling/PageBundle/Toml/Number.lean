import PageBundle.Number.Binary64
import PageBundle.Toml.Quoted
import PageBundle.Toml.Value

/-!
Numbers, dates and times in TOML. Each reader takes the longest piece that fits its own rule; that nothing
is left over is for the reader of the whole value to see.
-/

namespace PageBundle.Toml

/-- Reads `n` digits whose number lies between two bounds. -/
def digits? (n least most : Nat) (s : List Char) : Option (Nat × List Char) :=
  let ds := s.take n
  let x := Nat.ofDigitChars 10 ds 0
  if ds.length = n ∧ ds.all Char.isDigit ∧ least ≤ x ∧ x ≤ most then some (x, s.drop n) else none

def char? (c : Char) : List Char → Option (List Char)
  | d :: s => if d = c then some s else none
  | [] => none

def daysInMonth (year month : Nat) : Nat :=
  if month = 2 then
    if year % 4 = 0 ∧ (year % 100 ≠ 0 ∨ year % 400 = 0) then 29 else 28
  else if month = 4 ∨ month = 6 ∨ month = 9 ∨ month = 11 then 30
  else 31

def date? (s : List Char) : Option (List Char) := do
  let (year, s) ← digits? 4 0 9999 s
  let (month, s) ← digits? 2 1 12 (← char? '-' s)
  let (_, s) ← digits? 2 1 (daysInMonth year month) (← char? '-' s)
  some s

/-- The text without the fraction of a second at its start. -/
def skipFraction : List Char → List Char
  | '.' :: s => if s.head?.any Char.isDigit then s.dropWhile Char.isDigit else '.' :: s
  | s => s

/-- Reads a time of day. The second may be one that is put in between. -/
def time? (s : List Char) : Option (List Char) := do
  let (_, s) ← digits? 2 0 23 s
  let (_, s) ← digits? 2 0 59 (← char? ':' s)
  let (_, s) ← digits? 2 0 60 (← char? ':' s)
  some (skipFraction s)

def offset? : List Char → Option (List Char)
  | [] => none
  | c :: s => do
    if c == 'Z' || c == 'z' then some s
    else if c == '+' || c == '-' then do
      let (_, s) ← digits? 2 0 23 s
      let (_, s) ← digits? 2 0 59 (← char? ':' s)
      some s
    else none

/-- Reads what may follow a date: a time, and its distance from universal time. -/
def timeOfDate? : List Char → Option (List Char)
  | [] => none
  | c :: s => do
    if c == 'T' || c == 't' || c == ' ' then do
      let s ← time? s
      some ((offset? s).getD s)
    else none

/-- Reads a date, a time, or both. -/
def dateTime? (s : List Char) : Option (Toml × List Char) :=
  match date? s with
  | some s => some (.dateTime, (timeOfDate? s).getD s)
  | none => (time? s).map fun s => (.dateTime, s)

/-- Reads the digits of a run after those seen so far in reverse. Underscores stand between two digits. -/
def digitRunFrom (isDigit : Char → Bool) (seen : List Char) : List Char → List Char × List Char
  | '_' :: c :: s =>
    if isDigit c then digitRunFrom isDigit (c :: seen) s else (seen.reverse, '_' :: c :: s)
  | c :: s => if isDigit c then digitRunFrom isDigit (c :: seen) s else (seen.reverse, c :: s)
  | [] => (seen.reverse, [])

/-- Reads a run of at least one digit; the digits, and what follows them. -/
def digitRun? (isDigit : Char → Bool) : List Char → Option (List Char × List Char)
  | c :: s => if isDigit c then some (digitRunFrom isDigit [c] s) else none
  | [] => none

def sign : List Char → Bool × List Char
  | '+' :: s => (false, s)
  | '-' :: s => (true, s)
  | s => (false, s)

/-- Reads the decimal digits of a whole number: a zero alone, or digits that do not start with one. -/
def whole? : List Char → Option (List Char × List Char)
  | '0' :: s => some (['0'], s)
  | s => digitRun? Char.isDigit s

/-- The whole number with these digits in a base, if it fits in 64 bits with a sign. -/
def ofDigits? (negative : Bool) (base : Nat) (ds : List Char) : Option Toml := do
  let n := (← ds.mapM Text.hexDigit?).foldl (fun a d => base * a + d) 0
  if n < Nat.pow 2 63 ∨ (negative ∧ n = Nat.pow 2 63) then some (.integer (if negative then -n else n)) else none

def based? (base : Nat) (s : List Char) : Option (Toml × List Char) := do
  let (ds, s) ← digitRun? (fun c => (Text.hexDigit? c).any (· < base)) s
  some (← ofDigits? false base ds, s)

def integer? : List Char → Option (Toml × List Char)
  | '0' :: 'x' :: s => based? 16 s
  | '0' :: 'o' :: s => based? 8 s
  | '0' :: 'b' :: s => based? 2 s
  | s => do
    let (negative, s) := sign s
    let (ds, s) ← whole? s
    some (← ofDigits? negative 10 ds, s)

def exponent? : List Char → Option (Int × List Char)
  | [] => none
  | c :: s => do
    if c == 'e' || c == 'E' then do
      let (negative, s) := sign s
      let (ds, s) ← digitRun? Char.isDigit s
      let n : Int := Nat.ofDigitChars 10 ds 0
      some (if negative then -n else n, s)
    else none

/-- Reads a fraction and an exponent, of which one may be missing. -/
def fraction? : List Char → Option (List Char × Int × List Char)
  | '.' :: s => do
    let (ds, s) ← digitRun? Char.isDigit s
    let (e, s) := (exponent? s).getD (0, s)
    some (ds, e, s)
  | s => (exponent? s).map fun (e, s) => ([], e, s)

/-- Whether digits times a power of ten are too large for floating point. -/
def overflows (ds : List Char) (exponent : Int) : Bool :=
  let n := Nat.ofDigitChars 10 ds 0
  let size := exponent + (Nat.toDigits 10 n).length
  if n = 0 ∨ size < 300 then false
  else if 400 < size then true
  else Binary64.overflow * Nat.pow 10 (-exponent).toNat ≤ n * Nat.pow 10 exponent.toNat

/-- Reads a number with a fraction or an exponent. One that is too large is refused unless it is negative. -/
def decimal? (s : List Char) : Option (Toml × List Char) := do
  let (negative, s) := sign s
  let (ds, s) ← whole? s
  let (fs, e, s) ← fraction? s
  if !negative && overflows (ds ++ fs) (e - fs.length) then none else some (.float, s)

/-- Reads a word for infinity or for what is no number. -/
def special? (s : List Char) : Option (Toml × List Char) :=
  match (sign s).2 with
  | 'i' :: 'n' :: 'f' :: s => some (.float, s)
  | 'n' :: 'a' :: 'n' :: s => some (.float, s)
  | _ => none

/-- Reads a number, a date or a time. -/
def number? (s : List Char) : Option (Toml × List Char) :=
  match dateTime? s with
  | some x => some x
  | none =>
    match decimal? s with
    | some x => some x
    | none =>
      match special? s with
      | some x => some x
      | none => integer? s

end PageBundle.Toml
