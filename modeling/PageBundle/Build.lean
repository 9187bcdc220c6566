import PageBundle.Bundle
import PageBundle.Digest
import PageBundle.Mhtml
import PageBundle.Repository.Download
import PageBundle.Size
import PageBundle.Source.Basic

/-!
From a source to a finished document: collect the files, make the document, hold it against the ceiling. A
build records the phases it enters, so that the last one tells where it failed.
-/

namespace PageBundle

/-- What a run can see of the world. -/
structure World where
  disk : Disk
  /-- The home directory of the user. -/
  home : Option String := none
  network : Http.Network := .offline

structure BuildOptions where
  bundle : BundleOptions := {}
  hosting : Hosting := {}
deriving DecidableEq, Repr

inductive Phase where
  | download
  | extract
  | readDirectory
  | readDocument
  | minify
  | bundle
  | checkSize
deriving DecidableEq, Repr

def Phase.label : Phase → String
  | download => "Downloading repository"
  | extract => "Extracting archive"
  | readDirectory => "Reading directory"
  | readDocument => "Reading document"
  | minify => "Minifying document"
  | bundle => "Bundling project"
  | checkSize => "Checking size"

/-- What is reported while a build goes on. -/
inductive Progress where
  | entered (phase : Phase)
  | done
deriving DecidableEq, Repr

def Progress.label : Progress → String
  | entered phase => phase.label
  | done => "(done)"

/-- How a document came about. -/
inductive Method where
  /-- Around an entry page. -/
  | entry
  /-- There was no page. -/
  | synthetic
  /-- From one document. -/
  | html
  /-- From a saved page. -/
  | mhtml
deriving DecidableEq, Repr

def Method.label : Method → String
  | entry => "entry"
  | synthetic => "synthetic"
  | html => "html"
  | mhtml => "mhtml"

/-- A document before it is held against the ceiling. -/
structure Draft where
  html : String
  /-- The path of the page that it was made from. -/
  entry : Option String
  method : Method
  kind : ProjectKind
  /-- The locators that name no file. -/
  unresolved : List String
  /-- The paths of the files that were added because nothing referred to them. -/
  appended : List String
deriving DecidableEq

structure Product extends Draft where
  size : Size
  /-- The digest of the document. -/
  sha256 : String
  /-- Whether the size is above the one at which to warn. -/
  nearLimit : Bool
deriving DecidableEq

/-- A build: what was reported, how it ended, and the requests that were answered. -/
structure Build where
  progress : List Progress
  result : Except Failure Product
  requests : List Http.Request

namespace Source

def collectPhase : Source → Phase
  | repository _ => .download
  | archive _ => .extract
  | directory _ => .readDirectory
  | html _ | mhtml _ => .readDocument

def makePhase : Source → Phase
  | html _ | mhtml _ => .minify
  | repository _ | archive _ | directory _ => .bundle

def read (w : World) (hosting : Hosting) : Source → Fetched FileSet
  | archive path => ⟨readArchive w.disk path, []⟩
  | directory path => ⟨readDirectory w.disk path, []⟩
  | html path | mhtml path => ⟨readDocument w.disk path, []⟩
  | repository address => Repository.fetch w.network hosting address

end Source

/-- A document that stands by itself. -/
def Draft.ofDocument (path : String) (method : Method) (html : String) : Draft :=
  { html, entry := some path, method, kind := .static, unresolved := [], appended := [] }

/-- A document that bundles a project. -/
def Draft.ofBundle (b : Bundle) : Draft :=
  { html := b.html
    entry := b.entry
    method := if b.isSynthetic then .synthetic else .entry
    kind := b.kind
    unresolved := b.unresolved
    appended := b.appended }

def Source.make (s : Source) (files : FileSet) (opts : BundleOptions) : Except Failure Draft :=
  match s with
  | .html _ =>
    match files.toList with
    | page :: _ => .ok (.ofDocument page.path .html (minifyMarkup page.content))
    | [] => .error .emptyInput
  | .mhtml _ =>
    match files.toList with
    | page :: _ => (Mhtml.process page.content).map (.ofDocument page.path .mhtml)
    | [] => .error .emptyInput
  | _ => (bundle files opts).map .ofBundle

/-- Holds a document against the ceiling. -/
def Draft.finish (d : Draft) (opts : BundleOptions) : Except Failure Product :=
  (Size.check d.html opts.maxSizeKb).map fun size =>
    { d with size, sha256 := digest d.html, nearLimit := size.exceeds opts.warnSizeKb }

def Source.collectFiles (w : World) (opts : BuildOptions) (s : Source) : Fetched FileSet :=
  let x := s.read w opts.hosting
  ⟨x.result.bind fun files => if files.isEmpty then .error .emptyInput else .ok files, x.requests⟩

def build (w : World) (opts : BuildOptions) (s : Source) : Build :=
  let collected := s.collectFiles w opts
  let first := [Progress.entered s.collectPhase]
  match collected.result with
  | .error why => ⟨first, .error why, collected.requests⟩
  | .ok files =>
    let second := first ++ [.entered s.makePhase]
    match s.make files opts.bundle with
    | .error why => ⟨second, .error why, collected.requests⟩
    | .ok draft =>
      let third := second ++ [.entered .checkSize]
      match draft.finish opts.bundle with
      | .error why => ⟨third, .error why, collected.requests⟩
      | .ok product => ⟨third ++ [.done], .ok product, collected.requests⟩

/-- What a source holds, and what it would be bundled from. -/
structure Inspection where
  /-- The paths of the files, with the lengths of their contents in bytes. -/
  files : List (String × Nat)
  analysis : Analysis

/-- Says what a source holds, without bundling it. -/
def inspect (w : World) (opts : BuildOptions) (s : Source) : Fetched Inspection :=
  let x := s.read w opts.hosting
  ⟨x.result.map fun files =>
    ⟨files.toList.map fun f => (f.path, f.content.utf8ByteSize), analyze files⟩, x.requests⟩

end PageBundle
