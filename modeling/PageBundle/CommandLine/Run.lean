import PageBundle.Build
import PageBundle.CommandLine.Arguments

/-!
Running commands. A run is a function of the world; it says what the user reads, and how the file system looks
afterwards. Each command writes at most one file, after all that can fail.
-/

namespace PageBundle.CommandLine

inductive RunFault where
  | failure (why : Failure)
  | cannotWrite (path : String)
deriving DecidableEq, Repr

def RunFault.message : RunFault → String
  | failure why => why.message
  | cannotWrite path => "failed to write " ++ path

structure Outcome where
  disk : Disk
  stdout : String := ""
  stderr : String := ""
  fault : Option RunFault := none

/-- The end of a run that fails: nothing is written, and nothing is said. -/
def Outcome.failed (w : World) (why : RunFault) : Outcome := { disk := w.disk, fault := some why }

/-- The choices for a build: what the command line says, then the settings. The size at which to warn is
lowered to the ceiling if it would be above it. -/
def options (s : Settings) (o : Overrides) : BuildOptions where
  hosting := s.hosting
  bundle := {
    defaultTitle := o.title.getD s.bundle.defaultTitle
    maxSizeKb := o.maxSizeKb.getD s.bundle.maxSizeKb
    warnSizeKb :=
      match o.maxSizeKb with
      | some limit => min s.bundle.warnSizeKb limit
      | none => s.bundle.warnSizeKb
    minify := s.bundle.minify && !o.noMinify }

/-- Lines with a heading, or nothing if there are no lines. -/
def listing (heading : String) (l : List String) : List String :=
  if l.isEmpty then [] else ("  " ++ heading ++ ":") :: l.map fun x => "    " ++ x

/-- What the user reads about a finished document. -/
def summary (p : Product) (limitKb : Nat) (output : Option String) : List String :=
  let near := if p.nearLimit then " (approaching " ++ toString limitKb ++ "KB limit)" else ""
  ["",
    "  Bundle created successfully!",
    "  Entry:   " ++ p.entry.getD "(synthesized)",
    "  Method:  " ++ p.method.label,
    "  Project: " ++ p.kind.label,
    "  Size:    " ++ Failure.kilobytes p.size.bytes ++ "KB" ++ near,
    "  SHA-256: " ++ p.sha256] ++
  listing "Appended" p.appended ++
  listing "Unresolved references" p.unresolved ++
  (match output with
    | some path => ["  Output:  " ++ path]
    | none => []) ++
  [""]

def unlines (l : List String) : String := String.join (l.flatMap fun x => [x, "\n"])

/-- Hands over a finished document: to a file if one is named, or else to the standard output. -/
def deliver (w : World) (p : Product) (limitKb : Nat) (output : Option String) : Outcome :=
  let stderr := unlines (summary p limitKb output)
  match output with
  | none => { disk := w.disk, stdout := p.html ++ "\n", stderr }
  | some path =>
    match w.disk.writeFile path p.html.toUTF8 with
    | .ok disk => { disk, stderr }
    | .error _ => .failed w (.cannotWrite path)

/-- Builds the document that the arguments ask for, with the ceiling it was held against. -/
def prepare (w : World) (source : String) (o : Overrides) : Except Failure (Product × Nat) := do
  let settings ← Settings.load w.disk w.home
  let opts := options settings o
  let source ← Source.detect w.disk source
  let product ← (build w opts source).result
  .ok (product, opts.bundle.maxSizeKb)

def runBundle (w : World) (source : String) (output : Option String) (o : Overrides) : Outcome :=
  match prepare w source o with
  | .ok (product, limitKb) => deliver w product limitKb output
  | .error why => .failed w (.failure why)

/-- A text with blanks in front of it up to a width. -/
def padLeft (width : Nat) (s : String) : String :=
  String.ofList (List.replicate (width - s.length) ' ') ++ s

def padRight (width : Nat) (s : String) : String :=
  s ++ String.ofList (List.replicate (width - s.length) ' ')

def referenceLine (a : Asset.Resolved) : String :=
  "  " ++ padRight 10 a.reference.kind.label ++ " " ++ a.reference.locator ++
    match a.path with
    | some path => " -> " ++ path
    | none => " (unresolved)"

def description (s : Source) (i : Inspection) : List String :=
  ["Source:  " ++ s.display, "Files (" ++ toString i.files.length ++ "):"] ++
  i.files.map (fun (path, bytes) => "  " ++ padLeft 8 (toString bytes) ++ "  " ++ path) ++
  ["Entry:   " ++ i.analysis.entry.getD "(none, a document will be synthesized)",
    "Project: " ++ i.analysis.kind.label] ++
  if i.analysis.references.isEmpty then ["References: none"]
  else "References:" :: i.analysis.references.map referenceLine

def runInspect (w : World) (source : String) : Outcome :=
  let lines : Except Failure (List String) := do
    let settings ← Settings.load w.disk w.home
    let source ← Source.detect w.disk source
    let inspection ← (inspect w (options settings {}) source).result
    .ok (description source inspection)
  match lines with
  | .ok l => { disk := w.disk, stdout := unlines l }
  | .error why => .failed w (.failure why)

def runWriteSettings (w : World) : Outcome :=
  match Settings.writeDefaults w.disk w.home with
  | .ok (disk, path) => { disk, stdout := "Config initialized at: " ++ path ++ "\n" }
  | .error why => .failed w (.failure why)

def runShowSettings (w : World) : Outcome :=
  match Settings.load w.disk w.home with
  | .ok s => { disk := w.disk, stdout := s.render ++ "\n" }
  | .error why => .failed w (.failure why)

def run (w : World) : Command → Outcome
  | .bundle source output overrides => runBundle w source output overrides
  | .inspect source => runInspect w source
  | .writeSettings => runWriteSettings w
  | .showSettings => runShowSettings w

end PageBundle.CommandLine
