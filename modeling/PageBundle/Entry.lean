import PageBundle.FileSet
import PageBundle.Text.Letter

/-!
The page that a bundle starts from.
-/

namespace PageBundle.Entry

open Text

def isPage (path : String) : Bool :=
  ".html".toList.isSuffixOf path.toList || ".htm".toList.isSuffixOf path.toList

def lastPart (path : List Char) : List Char := (path.reverse.takeWhile (· ≠ '/')).reverse

def isIndex (path : String) : Bool := lastPart path.toList == "index.html".toList

/-- Whether the path has `index` somewhere, in any case. -/
def mentionsIndex (path : String) : Bool := contains (lower path.toList) "index".toList

/-- The page to start from: the first `index.html`, else the first page with `index` in its path, else the
first page. -/
def select? (files : FileSet) : Option String :=
  let pages := files.paths.filter isPage
  (pages.find? isIndex).or (pages.find? mentionsIndex) |>.or pages.head?

end PageBundle.Entry
