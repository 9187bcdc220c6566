import PageBundle.Failure
import PageBundle.Markup.Tag
import PageBundle.Minify

/-!
Saved pages. A saved page wraps its document in mail headers; the document runs from the first opening
`html` tag to the last closing one, so that pages inside pages stay whole.
-/

namespace PageBundle.Mhtml

open Text Markup

def document? (page : List Char) : Option (List Char) := do
  let (_, o) ← (openTags .word "html".toList).first? page
  let (body, c) ← breakAtLast (closeTag? "html".toList) o.rest
  some (o.text ++ body ++ c.text)

/-- The document inside a saved page, or the failure of one that holds none. -/
def extract (page : String) : Except Failure String :=
  match document? page.toList with
  | some d => .ok (String.ofList d)
  | none => .error .malformedMhtml

def process (page : String) : Except Failure String := (extract page).map minifyMarkup

end PageBundle.Mhtml
