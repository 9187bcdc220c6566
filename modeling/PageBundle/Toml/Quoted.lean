import PageBundle.Text.Hexadecimal

/-!
Text between quotes in TOML. There are four forms: with escapes or without, on one line or on several. A
text is written in the first form that needs no escape but the one for a tab.
-/

namespace PageBundle.Toml

/-- A way to put a text between quotes. -/
inductive Form where
  | basic
  | literal
  | basicLines
  | literalLines
deriving DecidableEq, Repr

namespace Form

def quote : Form → Char
  | basic | basicLines => '"'
  | literal | literalLines => '\''

def isLines : Form → Bool
  | basicLines | literalLines => true
  | basic | literal => false

/-- Whether a backslash starts an escape. -/
def hasEscapes : Form → Bool
  | basic | basicLines => true
  | literal | literalLines => false

def delimiter (f : Form) : List Char := List.replicate (if f.isLines then 3 else 1) f.quote

end Form

/-- Blank space inside a line. -/
def isBlank (c : Char) : Bool := c == ' ' || c == '\t'

def skipBlanks (s : List Char) : List Char := s.dropWhile isBlank

/-- A character that may stand in a comment, or between quotes as itself. -/
def isPrintable (c : Char) : Bool := c == '\t' || (32 ≤ c.toNat && c.toNat ≠ 127)

def newline? : List Char → Option (List Char)
  | '\n' :: s => some s
  | '\r' :: '\n' :: s => some s
  | _ => none

/-- Reads the number of a character in `n` hexadecimal digits. -/
def codePoint? (n : Nat) (s : List Char) : Option (Char × List Char) := do
  let digits ← (s.take n).mapM Text.hexDigit?
  let code := digits.foldl (fun a d => 16 * a + d) 0
  if digits.length = n ∧ code.isValidChar then some (Char.ofNat code, s.drop n) else none

/-- Reads what follows the backslash of an escape. -/
def escape? : List Char → Option (Char × List Char)
  | 'b' :: s => some ('\x08', s)
  | 't' :: s => some ('\t', s)
  | 'n' :: s => some ('\n', s)
  | 'f' :: s => some ('\x0c', s)
  | 'r' :: s => some ('\r', s)
  | '"' :: s => some ('"', s)
  | '\\' :: s => some ('\\', s)
  | 'u' :: s => codePoint? 4 s
  | 'U' :: s => codePoint? 8 s
  | _ => none

/-- The text without the blanks and ends of lines at its start. -/
def skipLines : List Char → List Char
  | '\r' :: '\n' :: s => skipLines s
  | c :: s => if isBlank c || c == '\n' then skipLines s else c :: s
  | [] => []

/-- Reads what follows a backslash at the end of a line, up to the next character that is not blank. -/
def joinedLine? (s : List Char) : Option (List Char) := (newline? (skipBlanks s)).map skipLines

/-- Reads the rest of a quoted text, after the characters read so far in reverse. On several lines, up to
two quotes stand for themselves, also right before the closing three. -/
def bodyFrom? (f : Form) : Nat → List Char → List Char → Option (List Char × List Char)
  | 0, _, _ => none
  | _ + 1, _, [] => none
  | fuel + 1, seen, c :: s =>
    if c = f.quote then
      if f.isLines then
        let quotes := 1 + (s.takeWhile (· == c)).length
        if quotes < 3 then bodyFrom? f fuel (List.replicate quotes c ++ seen) (s.drop (quotes - 1))
        else
          let extra := min (quotes - 3) 2
          some ((List.replicate extra c ++ seen).reverse, s.drop (extra + 2))
      else some (seen.reverse, s)
    else if f.hasEscapes && c == '\\' then
      match if f.isLines then joinedLine? s else none with
      | some s => bodyFrom? f fuel seen s
      | none =>
        match escape? s with
        | some (d, s) => bodyFrom? f fuel (d :: seen) s
        | none => none
    else
      match if f.isLines then newline? (c :: s) else none with
      | some s => bodyFrom? f fuel ('\n' :: seen) s
      | none => if isPrintable c then bodyFrom? f fuel (c :: seen) s else none

/-- Reads a quoted text after its opening quotes. -/
def body? (f : Form) (s : List Char) : Option (String × List Char) :=
  let s := if f.isLines then (newline? s).getD s else s
  (bodyFrom? f (s.length + 1) [] s).map fun (t, s) => (String.ofList t, s)

def quotedLine? : List Char → Option (String × List Char)
  | '"' :: s => body? .basic s
  | '\'' :: s => body? .literal s
  | _ => none

def quoted? : List Char → Option (String × List Char)
  | '"' :: '"' :: '"' :: s => body? .basicLines s
  | '\'' :: '\'' :: '\'' :: s => body? .literalLines s
  | s => quotedLine? s

/-- The length of the longest run of a character. -/
def longestRun (c : Char) (s : List Char) : Nat :=
  (s.foldl (fun (best, run) d => if d = c then (max best (run + 1), run + 1) else (best, 0)) (0, 0)).1

/-- Whether a text can stand between the quotes of a form with no escape but the one for a tab. -/
def Form.suits (f : Form) (s : List Char) : Bool :=
  longestRun f.quote s ≤ (if f.isLines then 2 else 0) && !(f.hasEscapes && s.contains '\\') &&
    (f.isLines || !s.contains '\n') && s.all fun c => isPrintable c || c == '\n'

/-- The form in which a text is written. -/
def Form.ofText (s : List Char) : Form :=
  match [basic, literal, basicLines, literalLines].find? fun f => f.suits s with
  | some f => f
  | none => if s.contains '\n' then basicLines else basic

def hex4 (n : Nat) : List Char :=
  let ds := (Nat.toDigits 16 n).map Char.toUpper
  List.replicate (4 - ds.length) '0' ++ ds

/-- A character in a form with escapes. `inRun` says that two quotes stand right before it. -/
def escapeChar (lines inRun : Bool) (c : Char) : List Char :=
  match c with
  | '\x08' => ['\\', 'b']
  | '\t' => ['\\', 't']
  | '\n' => if lines then ['\n'] else ['\\', 'n']
  | '\x0c' => ['\\', 'f']
  | '\r' => ['\\', 'r']
  | '"' => if lines && !inRun then ['"'] else ['\\', '"']
  | '\\' => ['\\', '\\']
  | c => if isPrintable c then [c] else '\\' :: 'u' :: hex4 c.toNat

/-- A text in a form with escapes. On several lines every third quote of a run is escaped. -/
def escaped (lines : Bool) (s : List Char) : List Char :=
  (s.foldl (fun (out, run) c =>
    ((escapeChar lines (run == 2) c).reverse ++ out, if c = '"' ∧ run < 2 then run + 1 else 0))
    (([] : List Char), 0)).1.reverse

def quoted (text : String) : String :=
  let s := text.toList
  let f := Form.ofText s
  let lead := if f.isLines && s.contains '\n' then ['\n'] else []
  String.ofList
    (f.delimiter ++ lead ++ (if f.hasEscapes then escaped f.isLines s else s) ++ f.delimiter)

end PageBundle.Toml
