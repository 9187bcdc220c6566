import PageBundle.Asset.Reference
import PageBundle.FileSet

/-!
From a locator to a file. Four kinds of match are tried one after the other over the whole set, and the
first file of the first kind that matches at all is taken.
-/

namespace PageBundle.Asset

open Text

namespace Locator

/-- The part of a locator that may name a file: no blanks around it, no query, no fragment. -/
def clean (locator : String) : List Char :=
  (trim locator.toList).takeWhile fun c => c ≠ '?' && c ≠ '#'

/-- Whether a clean locator names something outside the project. -/
def isRemote (l : List Char) : Bool :=
  contains l "://".toList || "//".toList.isPrefixOf l || "data:".toList.isPrefixOf l

/-- The locator without the `./` and `/` at its start. -/
def rootRelative : List Char → List Char
  | '.' :: '/' :: l => rootRelative l
  | '/' :: l => rootRelative l
  | l => l

/-- The locator without the `./` at its start. -/
def bare : List Char → List Char
  | '.' :: '/' :: l => bare l
  | l => l

/-- The path without its first part; a path of one part is left as it is. -/
def belowRoot (path : List Char) : List Char :=
  match path.dropWhile (· ≠ '/') with
  | [] => path
  | _ :: rest => rest

end Locator

open Locator

/-- The file that a clean locator names. In order: the file at this very path, the first file whose path
below its root is the locator, the first whose path ends with it, the first whose path holds it. -/
def resolveClean? (files : FileSet) (l : List Char) : Option File :=
  (files.find? (String.ofList (rootRelative l)))
    |>.or (files.toList.find? fun f => belowRoot f.path.toList == l)
    |>.or (files.toList.find? fun f => l.isSuffixOf f.path.toList)
    |>.or (if (bare l).isEmpty then none
      else files.toList.find? fun f => contains f.path.toList (bare l))

/-- The file that a locator names; one that is empty or remote names none. -/
def resolve? (files : FileSet) (locator : String) : Option File :=
  let l := clean locator
  if l.isEmpty || isRemote l then none else resolveClean? files l

def Reference.resolve (files : FileSet) (r : Reference) : Resolved :=
  ⟨r, (resolve? files r.locator).map File.path⟩

end PageBundle.Asset
