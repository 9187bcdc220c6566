import PageBundle.Toml.Number
import PageBundle.Toml.Table

/-!
Reading TOML text. Lists and tables between braces may stand in one another up to a fixed depth. Every step
of a reader takes a character or opens a value after one, so twice the length of the text bounds the steps.
-/

namespace PageBundle.Toml

/-- How many lists and tables may stand in one another, and how many parts a key may have. -/
def maxDepth : Nat := 79

def isKeyChar (c : Char) : Bool := c.isAlphanum || c == '_' || c == '-'

def keyPart? (s : List Char) : Option (String × List Char) :=
  if s.head?.any fun c => c == '"' || c == '\'' then quotedLine? s
  else
    let part := s.takeWhile isKeyChar
    if part.isEmpty then none else some (String.ofList part, s.dropWhile isKeyChar)

/-- Reads the parts of a key, after those read so far in reverse. -/
def keyPartsFrom? : Nat → List String → List Char → Option (List String × String × List Char)
  | 0, _, _ => none
  | fuel + 1, seen, s => do
    let (part, s) ← keyPart? (skipBlanks s)
    match skipBlanks s with
    | '.' :: s => keyPartsFrom? fuel (part :: seen) s
    | s => some (seen.reverse, part, s)

/-- Reads a key with the blanks around its parts: the parts before the last one, and the last one. -/
def key? (s : List Char) : Option (List String × String × List Char) := keyPartsFrom? maxDepth [] s

/-- The text without blanks, ends of lines and comments at its start. -/
def skipFree (inComment : Bool) : List Char → List Char
  | [] => []
  | '\n' :: s => skipFree false s
  | '\r' :: '\n' :: s => skipFree false s
  | c :: s =>
    if inComment then if isPrintable c then skipFree true s else c :: s
    else if isBlank c then skipFree false s
    else if c = '#' then skipFree true s
    else c :: s

/-- Reads what may stand after a statement: blanks, a comment, and the end of the line or of the text. -/
def lineEnd? (s : List Char) : Option (List Char) :=
  let rest := match skipBlanks s with
    | '#' :: s => s.dropWhile isPrintable
    | s => s
  if rest.isEmpty then some [] else newline? rest

mutual

/-- Reads a value that starts at once. -/
def value? (fuel depth : Nat) (s : List Char) : Option (Toml × List Char) :=
  match fuel with
  | 0 => none
  | fuel + 1 =>
    match s with
    | 't' :: 'r' :: 'u' :: 'e' :: s => some (.boolean true, s)
    | 'f' :: 'a' :: 'l' :: 's' :: 'e' :: s => some (.boolean false, s)
    | '[' :: s =>
      match depth with
      | 0 => none
      | depth + 1 => items? fuel depth [] s
    | '{' :: s =>
      match depth with
      | 0 => none
      | depth + 1 =>
        match skipBlanks s with
        | '}' :: s => some (.table .inline [], s)
        | s => pairs? fuel depth [] s
    | s =>
      if s.head?.any fun c => c == '"' || c == '\'' then
        (quoted? s).map fun (t, s) => (.string t, s)
      else number? s

/-- Reads the items of a list from the next one on, after those read so far in reverse. A comma may stand
after the last. -/
def items? (fuel depth : Nat) (seen : List Toml) (s : List Char) : Option (Toml × List Char) :=
  match fuel with
  | 0 => none
  | fuel + 1 =>
    match skipFree false s with
    | ']' :: s => some (.array seen.reverse, s)
    | s =>
      match value? fuel depth s with
      | none => none
      | some (v, s) =>
        match skipFree false s with
        | ',' :: s => items? fuel depth (v :: seen) s
        | ']' :: s => some (.array (v :: seen).reverse, s)
        | _ => none

/-- Reads the pairs of a table between braces from the next one on, after those read so far in reverse. -/
def pairs? (fuel depth : Nat) (seen : List (List String × String × Toml)) (s : List Char) :
    Option (Toml × List Char) :=
  match fuel with
  | 0 => none
  | fuel + 1 =>
    match key? s with
    | some (path, key, '=' :: s) =>
      match value? fuel depth (skipBlanks s) with
      | none => none
      | some (v, s) =>
        let seen := (path, key, v) :: seen
        match skipBlanks s with
        | ',' :: s => pairs? fuel depth seen s
        | '}' :: s => (inline? seen.reverse).map fun t => (t, s)
        | _ => none
    | _ => none

end

def header? (s : List Char) : Option (Statement × List Char) :=
  match s with
  | '[' :: s =>
    match key? s with
    | some (path, key, ']' :: ']' :: s) => some (.element path key, s)
    | _ => none
  | s =>
    match key? s with
    | some (path, key, ']' :: s) => some (.header path key, s)
    | _ => none

def assignment? (s : List Char) : Option (Statement × List Char) :=
  match key? s with
  | some (path, key, '=' :: s) =>
    (value? (2 * s.length + 2) maxDepth (skipBlanks s)).map fun (v, s) => (.assign path key v, s)
  | _ => none

def statement? : List Char → Option (Statement × List Char)
  | '[' :: s => header? s
  | s => assignment? s

/-- Reads the statements of a text, after those read so far in reverse. -/
def statementsFrom? : Nat → List Statement → List Char → Option (List Statement)
  | 0, _, _ => none
  | fuel + 1, seen, s =>
    match skipBlanks s with
    | [] => some seen.reverse
    | c :: s =>
      if c == '#' || c == '\n' || c == '\r' then
        (lineEnd? (c :: s)).bind fun s => statementsFrom? fuel seen s
      else
        match statement? (c :: s) with
        | some (x, s) => (lineEnd? s).bind fun s => statementsFrom? fuel (x :: seen) s
        | none => none

/-- The document that a text spells. A byte order mark at its start does not count. -/
def parse? (text : String) : Option Toml :=
  let s := match text.toList with
    | '\uFEFF' :: s => s
    | s => s
  (statementsFrom? (s.length + 1) [] s).bind ofStatements?

end PageBundle.Toml
