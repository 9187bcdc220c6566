import PageBundle.Markup.Comment
import PageBundle.Text.Blank

/-!
Shrinking a document, pass by pass. The passes look at characters only: `//` starts a comment wherever it
stands, be it in an address, and every double quote becomes a single one.

Each pass over blanks is a fold from the right, so the part of the text that a step looks at is already
in its final form.
-/

namespace PageBundle.Minify

open Text Markup

/-- Removes `//` and what follows it on its line; `skipping` says that a comment has been opened. -/
def lineCommentsFrom (skipping : Bool) (kept : List Char) : List Char → List Char
  | [] => kept.reverse
  | c :: s =>
    if skipping && c ≠ '\n' then lineCommentsFrom true kept s
    else if c == '/' && s.head? == some '/' then lineCommentsFrom true kept s
    else lineCommentsFrom false (c :: kept) s

/-- The text without line comments; the ends of their lines stay. -/
def eraseLineComments (s : List Char) : List Char := lineCommentsFrom false [] s

/-- Makes one space of every run of blanks. -/
def collapseBlanks (s : List Char) : List Char :=
  s.foldr (fun c r => if isBlank c then (if r.head? == some ' ' then r else ' ' :: r) else c :: r) []

/-- Removes the blanks between a `>` and the `<` after it. -/
def closeGaps (s : List Char) : List Char :=
  s.foldr (fun c r =>
    if c == '>' && (r.dropWhile isBlank).head? == some '<' then '>' :: r.dropWhile isBlank else c :: r) []

/-- Removes the blanks before `/>`. -/
def tightenSelfClosing (s : List Char) : List Char :=
  s.foldr (fun c r => if isBlank c && "/>".toList.isPrefixOf r then r else c :: r) []

def singleQuotes (s : List Char) : List Char := s.map fun c => if c = '"' then '\'' else c

/-- Shrinks an assembled document, comments of styles and scripts included. -/
def document (s : List Char) : List Char :=
  singleQuotes (trim (closeGaps (collapseBlanks (eraseLineComments (tightenSelfClosing
    (blockComments.erase (htmlComments.erase s)))))))

/-- Shrinks markup and leaves the comments of its styles and scripts alone. -/
def markup (s : List Char) : List Char :=
  singleQuotes (trim (tightenSelfClosing (closeGaps (collapseBlanks (htmlComments.erase s)))))

end PageBundle.Minify

namespace PageBundle

def minify (page : String) : String := String.ofList (Minify.document page.toList)

/-- The shrunk form of a document that stands on its own. -/
def minifyMarkup (page : String) : String := String.ofList (Minify.markup page.toList)

end PageBundle
