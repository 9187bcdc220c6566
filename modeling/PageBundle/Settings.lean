import PageBundle.Options
import PageBundle.Source.Local
import PageBundle.Toml.Parse

/-!
Settings of a user. They live in a file in the home directory; what the file does not say has a default, and
what it says that has no meaning here is passed over.
-/

namespace PageBundle

/-- How repositories are fetched. -/
structure Hosting where
  /-- The address that requests start with. -/
  apiBase : String := "https://api.github.com"
  /-- How many seconds a request may take. -/
  timeoutSecs : Nat := 30
deriving DecidableEq, Repr

structure Settings where
  bundle : BundleOptions := {}
  hosting : Hosting := {}
deriving DecidableEq, Repr

namespace Settings

/-- The value of a field, or its default if it is missing; none if it is of the wrong kind. -/
def field? {α : Type} (read : Toml → Option α) (default : α) : Option Toml → Option α
  | some t => read t
  | none => some default

def bundleOf? (t : Toml) : Option BundleOptions := do
  let d : BundleOptions := {}
  match ← t.fields? ["default_title", "max_size_kb", "warn_size_kb", "minify"] with
  | [title, most, warn, minify] =>
    some {
      defaultTitle := ← field? Toml.string? d.defaultTitle title
      maxSizeKb := ← field? Toml.nat? d.maxSizeKb most
      warnSizeKb := ← field? Toml.nat? d.warnSizeKb warn
      minify := ← field? Toml.boolean? d.minify minify }
  | _ => none

def hostingOf? (t : Toml) : Option Hosting := do
  let d : Hosting := {}
  match ← t.fields? ["api_base", "timeout_secs"] with
  | [base, timeout] =>
    some {
      apiBase := ← field? Toml.string? d.apiBase base
      timeoutSecs := ← field? Toml.nat? d.timeoutSecs timeout }
  | _ => none

def ofToml? (t : Toml) : Option Settings := do
  match ← t.fields? ["bundle", "github"] with
  | [bundle, hosting] =>
    some { bundle := ← field? bundleOf? {} bundle, hosting := ← field? hostingOf? {} hosting }
  | _ => none

/-- The text of settings, with every field. -/
def render (s : Settings) : String :=
  String.join [
    "[bundle]\n",
    "default_title = ", Toml.quoted s.bundle.defaultTitle, "\n",
    "max_size_kb = ", toString s.bundle.maxSizeKb, "\n",
    "warn_size_kb = ", toString s.bundle.warnSizeKb, "\n",
    "minify = ", toString s.bundle.minify, "\n",
    "\n",
    "[github]\n",
    "api_base = ", Toml.quoted s.hosting.apiBase, "\n",
    "timeout_secs = ", toString s.hosting.timeoutSecs, "\n"]

inductive Fault where
  | noHome
  | unreadable (path : String)
  | thresholds (warn most : Nat)
deriving DecidableEq, Repr

def Fault.message : Fault → String
  | noHome => "could not determine home directory"
  | unreadable path => "failed to parse " ++ path ++ ": invalid settings"
  | thresholds warn most =>
    "warn_size_kb (" ++ toString warn ++ ") must not exceed max_size_kb (" ++ toString most ++ ")"

/-- The failure of a run whose settings cannot be used. -/
def refused (why : Fault) : Failure := .config why.message

def directory (home : Option String) : Except Failure String :=
  match home with
  | some home => .ok (Path.join home ".htmlpack")
  | none => .error (refused .noHome)

def file (home : Option String) : Except Failure String :=
  (directory home).map fun d => Path.join d "htmlpack.toml"

/-- The settings in a file. A size at which to warn may not be above the ceiling. -/
def loadFrom (d : Disk) (path : String) : Except Failure Settings := do
  let text ← (d.readText path).mapError (Source.refused path)
  match (Toml.parse? text).bind ofToml? with
  | none => .error (refused (.unreadable path))
  | some s =>
    if s.bundle.maxSizeKb < s.bundle.warnSizeKb then
      .error (refused (.thresholds s.bundle.warnSizeKb s.bundle.maxSizeKb))
    else .ok s

/-- The settings of a user: the defaults if there is no file for them. -/
def load (d : Disk) (home : Option String) : Except Failure Settings := do
  let path ← file home
  if d.isThere path then loadFrom d path else .ok {}

/-- Writes a file with all defaults; the file system after that, and the path of the file. -/
def writeDefaults (d : Disk) (home : Option String) : Except Failure (Disk × String) := do
  let directory ← directory home
  let d ← (d.makeDirectories directory).mapError (Source.refused directory)
  let path ← file home
  let d ← (d.writeFile path (render {}).toUTF8).mapError (Source.refused path)
  .ok (d, path)

end Settings

end PageBundle
