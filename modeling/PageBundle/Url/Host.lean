import PageBundle.Url.Basic
import PageBundle.Url.Domain
import PageBundle.Url.Percent
import PageBundle.Text.Scan

/-!
The host of an address: a domain name, or the number of a machine in one of two notations.
-/

namespace PageBundle.Url

/-- The value of digits to a base, or one that is no machine's if theirs is above all of those. -/
def ipv4Digits? (base : Nat) (s : List Char) : Option Nat := Text.digitsUpTo? (Nat.pow 256 4) base s

/-- A number in the notation of addresses: decimal, octal behind a zero, or hexadecimal. -/
def ipv4Number? : List Char → Option Nat
  | [] => none
  | '0' :: 'x' :: s => ipv4Digits? 16 s
  | '0' :: 'X' :: s => ipv4Digits? 16 s
  | ['0'] => some 0
  | '0' :: s => ipv4Digits? 8 s
  | s => ipv4Digits? 10 s

/-- The parts between the dots; a dot at the end counts for nothing. -/
def dotted (s : List Char) : List (List Char) :=
  let parts := s.splitOn '.'
  if 2 ≤ parts.length && parts.getLast? == some [] then parts.dropLast else parts

/-- Whether a name is to be read as a number. -/
def endsInNumber (s : List Char) : Bool :=
  match (dotted s).getLast? with
  | some part => !part.isEmpty && (part.all Char.isDigit || (ipv4Number? part).isSome)
  | none => false

/-- The number of a machine: up to three bytes, then a number for the bytes that are left. -/
def ipv4? (s : List Char) : Option Nat := do
  let parts := dotted s
  let numbers ← parts.mapM ipv4Number?
  let last ← numbers.getLast?
  let bytes := numbers.dropLast
  if parts.length ≤ 4 && bytes.all (· ≤ 255) && last < Nat.pow 256 (4 - bytes.length) then
    some (bytes.zipIdx.foldl (fun n (b, i) => n + b * Nat.pow 256 (3 - i)) last)
  else none

/-- Whether a text is a byte of the dotted end of a longer address: no zero in front. -/
def isPlainByte (s : List Char) : Bool :=
  match s with
  | [] => false
  | '0' :: _ :: _ => false
  | s => s.length ≤ 3 && (Text.digits? 10 s).any (· ≤ 255)

/-- How many 16-bit pieces some text between colons is; none if it is not made of pieces. -/
def pieceCount? (atEnd : Bool) (s : List Char) : Option Nat :=
  let parts := s.splitOn ':'
  let isPiece (p : List Char) : Bool := !p.isEmpty && p.length ≤ 4 && (Text.digits? 16 p).isSome
  let isDotted (p : List Char) : Bool :=
    let bytes := p.splitOn '.'
    bytes.length == 4 && bytes.all isPlainByte
  if s.isEmpty then some 0
  else if parts.all isPiece then some parts.length
  else if atEnd && parts.dropLast.all isPiece && parts.getLast?.any isDotted then some (parts.length + 1)
  else none

def isIpv6 (s : List Char) : Bool :=
  match Text.breakAt (Text.dropLiteral? "::".toList) s with
  | none => pieceCount? true s == some 8
  | some (before, after) =>
    match pieceCount? false before, pieceCount? true after with
    | some m, some n => m + n ≤ 7
    | _, _ => false

def bracketed? (s : List Char) : Except Fault Host :=
  let inside := s.tail.dropLast
  if s.getLast? == some ']' && 2 ≤ s.length && isIpv6 inside then .ok (.ipv6 inside) else .error .ipv6

/-- The host of an address of the web or of a file. -/
def Host.ofSpecial (s : List Char) : Except Fault Host :=
  if s.head? == some '[' then bracketed? s
  else
    match domain? (decode s) with
    | none => .error .domain
    | some [] => .error .emptyHost
    | some name =>
      if endsInNumber name then
        match ipv4? name with
        | some n => .ok (.ipv4 n)
        | none => .error .ipv4
      else .ok (.domain name)

/-- Whether a character may not stand in the host of other schemes. -/
def isForbiddenHostChar (c : Char) : Bool := "\x00\t\n\r #/:<>?@[\\]^|".toList.contains c

/-- The host of an address of another scheme, which keeps its letters; an empty one is none. -/
def Host.ofOther (s : List Char) : Except Fault (Option Host) :=
  if s.isEmpty then .ok none
  else if s.head? == some '[' then (bracketed? s).map some
  else if s.any isForbiddenHostChar then .error .hostCharacter
  else .ok (some (.domain (encode isControl s)))

end PageBundle.Url
