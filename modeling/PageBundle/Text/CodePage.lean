/-!
The code page of names in archives that do not say they are UTF-8, and UTF-8 with faults passed over.
-/

namespace PageBundle.Text

/-- The characters of the upper half of code page 437. -/
def codePageUpper : List Char :=
  ("ÇüéâäàåçêëèïîìÄÅÉæÆôöòûùÿÖÜ¢£¥₧ƒ" ++
    "áíóúñÑªº¿⌐¬½¼¡«»░▒▓│┤╡╢╖╕╣║╗╝╜╛┐" ++
    "└┴┬├─┼╞╟╚╔╩╦╠═╬╧╨╤╥╙╘╒╓╫╪┘┌█▄▌▐▀" ++
    "αßΓπΣσµτΦΘΩδ∞φε∩≡±≥≤⌠⌡÷≈°∙·√ⁿ²■ ").toList

def decodeCodePage (b : List UInt8) : List Char :=
  b.map fun x => if x < 128 then Char.ofNat x.toNat else codePageUpper.getD (x.toNat - 128) ' '

def replacement : Char := '\uFFFD'

def isContinuation (x : UInt8) : Bool := 0x80 ≤ x && x ≤ 0xBF

/-- Whether a byte may be the second of a character that starts with `first`. -/
def isSecond (first x : UInt8) : Bool :=
  if first == 0xE0 then 0xA0 ≤ x && x ≤ 0xBF
  else if first == 0xED then 0x80 ≤ x && x ≤ 0x9F
  else if first == 0xF0 then 0x90 ≤ x && x ≤ 0xBF
  else if first == 0xF4 then 0x80 ≤ x && x ≤ 0x8F
  else isContinuation x

/-- How many bytes a character has that starts with the byte; none if no character does. -/
def sequenceLength (first : UInt8) : Nat :=
  if first < 0x80 then 1
  else if 0xC2 ≤ first && first ≤ 0xDF then 2
  else if 0xE0 ≤ first && first ≤ 0xEF then 3
  else if 0xF0 ≤ first && first ≤ 0xF4 then 4
  else 0

/-- The bytes after `first` that can belong to its character. -/
def following (first : UInt8) (n : Nat) : List UInt8 → List UInt8
  | [] => []
  | x :: r =>
    if n ≥ 2 && isSecond first x then x :: (r.take (n - 2)).takeWhile isContinuation else []

/-- The text of bytes in UTF-8; the longest start of a character that breaks off becomes one replacement
character, and so does a byte that starts none. -/
def decodeLossyFrom : Nat → List Char → List UInt8 → List Char
  | 0, seen, _ => seen.reverse
  | _ + 1, seen, [] => seen.reverse
  | fuel + 1, seen, x :: r =>
    let n := sequenceLength x
    let more := following x n r
    let c :=
      if n == 0 || more.length + 1 < n then replacement
      else
        let lead := if n == 1 then x.toNat else x.toNat % Nat.pow 2 (7 - n)
        Char.ofNat (more.foldl (fun v y => v * 64 + y.toNat % 64) lead)
    decodeLossyFrom fuel (c :: seen) (r.drop more.length)

def decodeLossy (b : List UInt8) : List Char := decodeLossyFrom (b.length + 1) [] b

end PageBundle.Text
