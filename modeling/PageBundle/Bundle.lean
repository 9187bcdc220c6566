import PageBundle.Asset.Inline
import PageBundle.Document
import PageBundle.Entry
import PageBundle.Failure
import PageBundle.Minify
import PageBundle.Options
import PageBundle.Project

/-!
From a set of files to one document. `bundle` makes the document, `analyze` says what would go into it.
-/

namespace PageBundle

open Asset Markup

structure Bundle where
  /-- The document, shrunk unless that was not wanted. -/
  html : String
  /-- The path of the entry page; none if the page was synthesized. -/
  entry : Option String
  /-- The title of the document. -/
  title : String
  /-- The references of the entry page, with their files. -/
  assets : List Resolved
  /-- The paths of the files that were added because nothing referred to them. -/
  appended : List String
  /-- The kind of the project. -/
  kind : ProjectKind
deriving DecidableEq

namespace Bundle

def isSynthetic (b : Bundle) : Bool := b.entry.isNone

/-- The locators that are left in the document because they name no file. -/
def unresolved (b : Bundle) : List String :=
  (b.assets.filter fun a => !a.isResolved).map fun a => a.reference.locator

end Bundle

/-- The bundle around an entry page, not shrunk. The page's own titles are removed from its head, for the
prologue has one; the log runs over the head, then over the body. -/
def bundleEntry (files : FileSet) (entry : String) (opts : BundleOptions) (kind : ProjectKind) :
    Bundle :=
  let sections := Sections.ofPage ((files.get? entry).getD "")
  let title := sections.title.getD opts.defaultTitle
  let head := inlineAssets files [] (stripTitle sections.head)
  let body := inlineAssets files head.log sections.body
  let styles := unconsumed files .stylesheet [head.html, body.html]
  let scripts := unconsumed files .script [head.html, body.html]
  { html := Document.assemble ⟨title, head.html, body.html, styles, scripts⟩
    entry := some entry
    title := title
    assets := body.log
    appended := (styles ++ scripts).map File.path
    kind := kind }

/-- The bundle of a project without a page, not shrunk. -/
def bundleSynthetic (files : FileSet) (opts : BundleOptions) (kind : ProjectKind) : Bundle :=
  let styles := unconsumed files .stylesheet []
  let scripts := unconsumed files .script []
  { html := Document.synthesize opts.defaultTitle styles scripts
    entry := none
    title := opts.defaultTitle
    assets := []
    appended := (styles ++ scripts).map File.path
    kind := kind }

def bundleFull (files : FileSet) (opts : BundleOptions) : Bundle :=
  let kind := ProjectKind.detect files
  match Entry.select? files with
  | some entry => bundleEntry files entry opts kind
  | none => bundleSynthetic files opts kind

/-- The bundle of some files. It fails only if there are none. -/
def bundle (files : FileSet) (opts : BundleOptions) : Except Failure Bundle :=
  if files.isEmpty then .error .emptyInput
  else
    let b := bundleFull files opts
    .ok (if opts.minify then { b with html := minify b.html } else b)

/-- What a set of files would be bundled from. -/
structure Analysis where
  /-- The path of the entry page. -/
  entry : Option String
  /-- The kind of the project. -/
  kind : ProjectKind
  /-- The references in the entry page's head, then those in its body, with their files. -/
  references : List Resolved
deriving DecidableEq

/-- The references of a page, with their files. -/
def pageReferences (files : FileSet) (page : String) : List Resolved :=
  let sections := Sections.ofPage page
  (references sections.head ++ references sections.body).map (Reference.resolve files)

def analyze (files : FileSet) : Analysis :=
  let entry := Entry.select? files
  { entry := entry
    kind := ProjectKind.detect files
    references := ((entry.bind files.get?).map (pageReferences files)).getD [] }

end PageBundle
