import PageBundle.Asset.Attribute
import PageBundle.Markup.Tag

/-!
References to style sheets and scripts, as the markup spells them.
-/

namespace PageBundle.Asset

open Text Markup

/-- What can be put into a page in place of a reference. -/
inductive Kind where
  | stylesheet
  | script
deriving DecidableEq, Repr

/-- How the paths of files of the kind end. -/
def Kind.suffix : Kind → String
  | stylesheet => ".css"
  | script => ".js"

def Kind.label : Kind → String
  | stylesheet => "stylesheet"
  | script => "script"

/-- A reference: its kind, and where it points in the page's own words. -/
structure Reference where
  kind : Kind
  locator : String
deriving DecidableEq, Repr

/-- A reference with the path of the file it stands for, if there is one. -/
structure Resolved where
  reference : Reference
  path : Option String
deriving DecidableEq, Repr

def Resolved.isResolved (r : Resolved) : Bool := r.path.isSome

def linkTags : Recogniser (List Char) := openTags .word "link".toList

def scriptElements : Recogniser Element := elements .word "script".toList

/-- Where a `link` points if it asks for a style sheet. -/
def stylesheetHref? (attrs : List Char) : Option (List Char) := do
  let rel ← Attribute.lookup? attrs "rel"
  if eqIgnoringCase (trim rel) "stylesheet".toList then Attribute.lookup? attrs "href" else none

def ofLink? (attrs : List Char) : Option Reference :=
  (stylesheetHref? attrs).map fun l => ⟨.stylesheet, String.ofList l⟩

def ofScript? (e : Element) : Option Reference :=
  (Attribute.lookup? e.attrs "src").map fun l => ⟨.script, String.ofList l⟩

/-- The references of a text: those to style sheets in order, then those to scripts in order. -/
def references (markup : String) : List Reference :=
  (linkTags.findAll markup.toList).filterMap ofLink? ++
    (scriptElements.findAll markup.toList).filterMap ofScript?

end PageBundle.Asset
