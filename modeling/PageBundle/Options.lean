/-!
The choices that govern one bundle.
-/

namespace PageBundle

def defaultTitle : String := "Deployed Project"

def defaultMaxSizeKb : Nat := 100

/-- The size in KB above which a document is said to be near its ceiling. -/
def defaultWarnSizeKb : Nat := 90

structure BundleOptions where
  /-- The title given to a page that has none. -/
  defaultTitle : String := PageBundle.defaultTitle
  /-- The ceiling for a finished document in KB. -/
  maxSizeKb : Nat := defaultMaxSizeKb
  /-- The size in KB above which a document is said to be near its ceiling. -/
  warnSizeKb : Nat := defaultWarnSizeKb
  /-- Whether an assembled document is shrunk. -/
  minify : Bool := true
deriving DecidableEq, Repr

end PageBundle
