import PageBundle.Text.CodePage
import PageBundle.Text.Hexadecimal

/-!
Characters of an address written as percent signs and two hexadecimal digits for each byte of UTF-8.
-/

namespace PageBundle.Url

/-- Two capital hexadecimal digits behind a percent sign. -/
def percentByte (b : UInt8) : List Char :=
  let digit (n : Nat) : Char := Char.ofNat (if n < 10 then 48 + n else 55 + n)
  ['%', digit (b.toNat / 16), digit (b.toNat % 16)]

def percentChar (c : Char) : List Char := (String.singleton c).toUTF8.toList.flatMap percentByte

/-- Characters that no part of an address holds as they are. -/
def isControl (c : Char) : Bool := c.toNat < 32 || 127 ≤ c.toNat

def encodedInPath (c : Char) : Bool := isControl c || " \"#<>?\x60\x7b\x7d".toList.contains c

/-- Characters that are encoded in a query; a single quote only where the scheme is one of the web. -/
def encodedInQuery (k : Bool) (c : Char) : Bool :=
  isControl c || " \"#<>".toList.contains c || (k && c == '\'')

/-- The text with some characters encoded. -/
def encode (encoded : Char → Bool) (s : List Char) : List Char :=
  s.flatMap fun c => if encoded c then percentChar c else [c]

/-- The bytes of a text with what is encoded decoded; a percent sign that encodes nothing stays. -/
def decodeBytes : List Char → List UInt8
  | '%' :: a :: b :: s =>
    match Text.hexDigit? a, Text.hexDigit? b with
    | some x, some y => (16 * x + y).toUInt8 :: decodeBytes s
    | _, _ => 0x25 :: decodeBytes (a :: b :: s)
  | c :: s => (String.singleton c).toUTF8.toList ++ decodeBytes s
  | [] => []

def decode (s : List Char) : List Char := Text.decodeLossy (decodeBytes s)

end PageBundle.Url
