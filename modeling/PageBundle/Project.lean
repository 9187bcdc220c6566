import PageBundle.FileSet
import PageBundle.Json.Parse

/-!
What kind of project a set of files is. The dependencies in its manifest decide, or else the name of a
framework's configuration file. Any kind but a static site is built before it is served, which is not done
here.
-/

namespace PageBundle

inductive ProjectKind where
  | nextJs
  | react
  | vue
  | vite
  | static
deriving DecidableEq, Repr

namespace ProjectKind

def label : ProjectKind → String
  | nextJs => "nextjs"
  | react => "react"
  | vue => "vue"
  | vite => "vite"
  | static => "static"

/-- Whether projects of the kind are built before they are served. -/
def needsBuild (k : ProjectKind) : Bool := k != static

/-- Dependencies that tell a kind, the one that counts first at the head. -/
def byDependency : List (String × ProjectKind) := [("next", nextJs), ("react", react), ("vue", vue)]

/-- The first manifest that is not that of a dependency. -/
def manifest? (files : FileSet) : Option File :=
  files.toList.find? fun f => f.hasSuffix "package.json" && !f.isDependency

/-- The kind that a manifest tells by its dependencies; one that is not JSON tells none. -/
def ofManifest? (content : String) : Option ProjectKind := do
  let deps ← (← Json.parse? content).get? "dependencies"
  let members ← deps.members?
  (byDependency.find? fun (name, _) => members.any fun m => m.1 == name.toList).map Prod.snd

def somePathHas (files : FileSet) (text : String) : Bool :=
  files.paths.any fun p => Text.contains p.toList text.toList

def ofPaths (files : FileSet) : ProjectKind :=
  if somePathHas files "next.config" then nextJs
  else if somePathHas files "vite.config" then vite
  else static

def detect (files : FileSet) : ProjectKind :=
  ((manifest? files).bind fun f => ofManifest? f.content).getD (ofPaths files)

end ProjectKind

end PageBundle
