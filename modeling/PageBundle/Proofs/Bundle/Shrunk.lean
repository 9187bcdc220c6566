import PageBundle.Proofs.Bundle.Basic
import PageBundle.Proofs.Minify.Iteration

/-! Shrunk documents and shrunk bundles. What the minifier makes of a text has the form of a shrunk text and takes no
more bytes than the text. A bundle is shrunk as a whole and last of all, so this carries over to it. -/

namespace PageBundle

open Text Markup Minify

variable {files : FileSet}

theorem isShrunk_minify (x : String) : IsShrunk (minify x).toList := by
  rw [minify, String.toList_ofList]
  exact isShrunk_document x.toList

/-- The minifier never adds a byte. -/
theorem utf8ByteSize_minify_le (x : String) : (minify x).utf8ByteSize ≤ x.utf8ByteSize := by
  rw [minify, String.utf8ByteSize_ofList, ← String.utf8Len_toList x]
  calc String.utf8Len (document x.toList)
    _ ≤ String.utf8Len (blockComments.erase (htmlComments.erase x.toList)) := utf8Len_document_le _
    _ ≤ String.utf8Len (htmlComments.erase x.toList) := String.utf8Len_le_of_sublist (Recogniser.erase_sublist _)
    _ ≤ String.utf8Len x.toList := String.utf8Len_le_of_sublist (Recogniser.erase_sublist _)

/-- Of two bundles that differ in whether they are shrunk, one is what the minifier makes of the other. -/
theorem bundle_minify (h : files.isEmpty = false) (opts : BundleOptions) :
    ∃ b, bundle files { opts with minify := false } = .ok b ∧
      bundle files { opts with minify := true } = .ok { b with html := minify b.html } :=
  ⟨bundleFull files opts, bundle_eq_ok h, bundle_eq_ok h⟩

/-- What the minifier makes of a text has the form of a shrunk text and takes no more bytes. The same holds of the bundle
of some files that is to be shrunk, in comparison with the one that is not. -/
theorem minified_isShrunk : (∀ x : String, IsShrunk (minify x).toList ∧ (minify x).utf8ByteSize ≤ x.utf8ByteSize) ∧
    ∀ (files : FileSet) (opts : BundleOptions), files.isEmpty = false →
      ∃ full b, bundle files { opts with minify := false } = .ok full ∧
        bundle files { opts with minify := true } = .ok b ∧
        IsShrunk b.html.toList ∧ b.html.utf8ByteSize ≤ full.html.utf8ByteSize := by
  refine ⟨fun x => ⟨isShrunk_minify x, utf8ByteSize_minify_le x⟩, fun files opts h => ?_⟩
  obtain ⟨full, hfull, hb⟩ := bundle_minify h opts
  exact ⟨full, _, hfull, hb, isShrunk_minify full.html, utf8ByteSize_minify_le full.html⟩

/-- A page with quotes, an address, a gap between tags and a tag that closes itself. -/
def roomyPage : FileSet := .ofList [("index.html", "<p class=\"a\">\n\t<br\n/></p> \u2003<a href=\"http://a\">b</a>\n")]

theorem minified_isShrunk_roomyPage : roomyPage.isEmpty = false ∧
    ∃ full b, bundle roomyPage { minify := false } = .ok full ∧ bundle roomyPage { minify := true } = .ok b ∧
      IsShrunk b.html.toList ∧ b.html.utf8ByteSize ≤ full.html.utf8ByteSize := by
  have hfiles : roomyPage.isEmpty = false := by decide +kernel
  exact ⟨hfiles, minified_isShrunk.2 roomyPage {} hfiles⟩

end PageBundle
