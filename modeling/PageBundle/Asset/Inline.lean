import PageBundle.Asset.Locator

/-!
Putting files in the place of references. First every style sheet link is replaced over the whole text,
then every script, in the text that results. A reference without a file is left as it is. Each reference
met is noted in the log.
-/

namespace PageBundle.Asset

open Text Markup

def styleElement (f : File) : String :=
  "<style>\n/* " ++ f.path ++ " */\n" ++ f.content ++ "\n</style>"

/-- A file that replaces a script. A type that is not empty is kept, for a module stays a module. -/
def scriptElement (f : File) (type? : Option (List Char)) : String :=
  let opening :=
    match type? with
    | some (c :: t) => "<script type=\"" ++ String.ofList (c :: t) ++ "\">"
    | _ => "<script>"
  opening ++ "\n// " ++ f.path ++ "\n" ++ f.content ++ "\n</script>"

/-- A part of a text after inlining: what is written, and the reference met there. -/
structure Written where
  text : List Char
  seen : Option Resolved

/-- Writes a tag that makes a reference: the file's own element, or the tag as it was. -/
def writeReference (files : FileSet) (text : List Char) (r : Reference) (element : File → String) :
    Written :=
  match resolve? files r.locator with
  | some f => ⟨(element f).toList, some ⟨r, some f.path⟩⟩
  | none => ⟨text, some ⟨r, none⟩⟩

def writeLink (files : FileSet) : Piece (List Char) → Written
  | .plain c => ⟨[c], none⟩
  | .found text attrs =>
    match ofLink? attrs with
    | some r => writeReference files text r styleElement
    | none => ⟨text, none⟩

def writeScript (files : FileSet) : Piece Element → Written
  | .plain c => ⟨[c], none⟩
  | .found text e =>
    match ofScript? e with
    | some r =>
      writeReference files text r fun f => scriptElement f (Attribute.lookup? e.attrs "type")
    | none => ⟨text, none⟩

/-- A text after inlining, with the references met so far. -/
structure Inlined where
  html : String
  log : List Resolved
deriving DecidableEq

/-- Puts the parts together and adds what was met to the log. -/
def Inlined.ofParts (log : List Resolved) (parts : List Written) : Inlined :=
  ⟨String.ofList (parts.flatMap Written.text), log ++ parts.filterMap Written.seen⟩

def inlineStyles (files : FileSet) (log : List Resolved) (markup : String) : Inlined :=
  .ofParts log ((linkTags.pieces markup.toList).map (writeLink files))

def inlineScripts (files : FileSet) (log : List Resolved) (markup : String) : Inlined :=
  .ofParts log ((scriptElements.pieces markup.toList).map (writeScript files))

/-- Replaces the style sheet links, then the scripts of the text that results. -/
def inlineAssets (files : FileSet) (log : List Resolved) (markup : String) : Inlined :=
  let styled := inlineStyles files log markup
  inlineScripts files styled.log styled.html

/-- The files of a kind whose content is in none of the texts. Installed dependencies are left out. -/
def unconsumed (files : FileSet) (kind : Kind) (sections : List String) : List File :=
  let texts := sections.map String.toList
  (files.withSuffix kind.suffix).filter fun f =>
    !f.isDependency && !(texts.any fun t => contains t f.content.toList)

end PageBundle.Asset
