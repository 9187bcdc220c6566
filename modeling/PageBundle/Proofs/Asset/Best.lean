import PageBundle.Proofs.Asset.Resolve
import PageBundle.Proofs.FileSet.Insert
import PageBundle.Proofs.FileSet.Tier

/-! The best match of a locator. The four kinds of match are the tiers of one search among the paths of the set, so the file
that a locator resolves to is the least one by its tier and then by its place. It depends on the paths alone, and a new
file takes the place of another one only if it is of a strictly better tier. -/

namespace PageBundle.Asset

open Text Locator Tiers

variable {F : FileSet} {f : File} {locator p : String} {l : List Char} {test : String → Bool}

theorem belowRoot_suffix (path : List Char) : belowRoot path <:+ path := by
  unfold belowRoot
  split
  · exact List.suffix_refl path
  · rename_i c rest h
    have hd : c :: rest <:+ path := by
      rw [← h]
      exact List.dropWhile_suffix _
    exact (List.suffix_cons c rest).trans hd

/-- The path of the file that a locator resolves to. -/
def resolvedPath? (F : FileSet) (locator : String) : Option String := (resolve? F locator).map File.path

end PageBundle.Asset
