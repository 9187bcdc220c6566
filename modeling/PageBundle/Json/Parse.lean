import PageBundle.Json.Number
import PageBundle.Json.Value
import PageBundle.Text.Hexadecimal

/-!
Reading JSON text. Arrays and objects may stand in one another up to a fixed depth. A step of the reader
either reads a character or opens a value after one, so twice the length of the text bounds the steps.
-/

namespace PageBundle.Json

/-- How many arrays and objects may stand in one another. -/
def maxDepth : Nat := 127

def isSpace (c : Char) : Bool := c == ' ' || c == '\t' || c == '\n' || c == '\r'

def skipSpace (s : List Char) : List Char := s.dropWhile isSpace

/-- Reads four hexadecimal digits. -/
def unit? : List Char → Option (Nat × List Char)
  | a :: b :: c :: d :: s => do
    let a ← Text.hexDigit? a
    let b ← Text.hexDigit? b
    let c ← Text.hexDigit? c
    let d ← Text.hexDigit? d
    some (((a * 16 + b) * 16 + c) * 16 + d, s)
  | _ => none

/-- Reads what follows the mark of a code unit: a character, or the first half of one and its second half. -/
def codeUnits? (s : List Char) : Option (Char × List Char) := do
  let (hi, s) ← unit? s
  if 0xDC00 ≤ hi ∧ hi ≤ 0xDFFF then none
  else if 0xD800 ≤ hi ∧ hi ≤ 0xDBFF then
    match s with
    | '\\' :: 'u' :: s => do
      let (lo, s) ← unit? s
      if 0xDC00 ≤ lo ∧ lo ≤ 0xDFFF then
        some (Char.ofNat (0x10000 + (hi - 0xD800) * 1024 + (lo - 0xDC00)), s)
      else none
    | _ => none
  else some (Char.ofNat hi, s)

def escape? : List Char → Option (Char × List Char)
  | '"' :: s => some ('"', s)
  | '\\' :: s => some ('\\', s)
  | '/' :: s => some ('/', s)
  | 'b' :: s => some ('\x08', s)
  | 'f' :: s => some ('\x0c', s)
  | 'n' :: s => some ('\n', s)
  | 'r' :: s => some ('\r', s)
  | 't' :: s => some ('\t', s)
  | 'u' :: s => codeUnits? s
  | _ => none

/-- Reads the rest of a string, after the characters read so far in reverse. -/
def stringFrom? : Nat → List Char → List Char → Option (List Char × List Char)
  | 0, _, _ => none
  | _ + 1, _, [] => none
  | fuel + 1, seen, c :: s =>
    if c = '"' then some (seen.reverse, s)
    else if c = '\\' then
      match escape? s with
      | some (d, s) => stringFrom? fuel (d :: seen) s
      | none => none
    else if c.toNat < 32 then none
    else stringFrom? fuel (c :: seen) s

def string? (s : List Char) : Option (List Char × List Char) := stringFrom? (s.length + 1) [] s

def key? (s : List Char) : Option (List Char × List Char) :=
  match s with
  | '"' :: s => do
    let (k, s) ← string? s
    match skipSpace s with
    | ':' :: s => some (k, s)
    | _ => none
  | _ => none

mutual

/-- Reads a value that starts at once. -/
def readValue? (fuel depth : Nat) (s : List Char) : Option (Json × List Char) :=
  match fuel with
  | 0 => none
  | fuel + 1 =>
    match s with
    | 'n' :: 'u' :: 'l' :: 'l' :: s => some (.null, s)
    | 't' :: 'r' :: 'u' :: 'e' :: s => some (.bool true, s)
    | 'f' :: 'a' :: 'l' :: 's' :: 'e' :: s => some (.bool false, s)
    | '"' :: s => (string? s).map fun (t, s) => (.string t, s)
    | '[' :: s =>
      match depth with
      | 0 => none
      | depth + 1 =>
        match skipSpace s with
        | ']' :: s => some (.array [], s)
        | s => readItems? fuel depth [] s
    | '{' :: s =>
      match depth with
      | 0 => none
      | depth + 1 =>
        match skipSpace s with
        | '}' :: s => some (.object [], s)
        | s => readMembers? fuel depth [] s
    | s => (number? s).map fun s => (.number, s)

/-- Reads the items of an array from the next one on, after those read so far in reverse. -/
def readItems? (fuel depth : Nat) (seen : List Json) (s : List Char) : Option (Json × List Char) :=
  match fuel with
  | 0 => none
  | fuel + 1 =>
    match readValue? fuel depth s with
    | none => none
    | some (v, s) =>
      match skipSpace s with
      | ',' :: s => readItems? fuel depth (v :: seen) (skipSpace s)
      | ']' :: s => some (.array (v :: seen).reverse, s)
      | _ => none

/-- Reads the members of an object from the next one on, after those read so far in reverse. -/
def readMembers? (fuel depth : Nat) (seen : List (List Char × Json)) (s : List Char) :
    Option (Json × List Char) :=
  match fuel with
  | 0 => none
  | fuel + 1 =>
    match key? s with
    | none => none
    | some (k, s) =>
      match readValue? fuel depth (skipSpace s) with
      | none => none
      | some (v, s) =>
        match skipSpace s with
        | ',' :: s => readMembers? fuel depth ((k, v) :: seen) (skipSpace s)
        | '}' :: s => some (.object ((k, v) :: seen).reverse, s)
        | _ => none

end

/-- The value that a text spells, if it is JSON and nothing else. -/
def parse? (text : String) : Option Json := do
  let s := text.toList
  let (v, rest) ← readValue? (2 * s.length + 2) maxDepth (skipSpace s)
  if (skipSpace rest).isEmpty then some v else none

end PageBundle.Json
