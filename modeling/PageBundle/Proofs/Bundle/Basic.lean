import PageBundle.Bundle
import PageBundle.Proofs.FileSet.Lookup

/-! The parts of a bundle by name: the entry page, its two sections after inlining, and the fields of the
result in these terms. A set that is not empty always has a bundle. -/

namespace PageBundle
open Asset Markup

variable {files : FileSet} {opts : BundleOptions} {entry page : String} {b : Bundle}

/-! ## The entry page -/

theorem Entry.mem_of_select? (h : Entry.select? files = some entry) :
    entry ∈ files.paths ∧ Entry.isPage entry = true := by
  rw [← List.mem_filter]
  unfold Entry.select? at h
  rcases Option.or_eq_some_iff.1 h with h | ⟨-, h⟩
  · rcases Option.or_eq_some_iff.1 h with h | ⟨-, h⟩
    · exact List.mem_of_find?_eq_some h
    · exact List.mem_of_find?_eq_some h
  · exact List.mem_of_mem_head? (Option.mem_def.2 h)

theorem exists_get?_of_select? (h : Entry.select? files = some entry) : ∃ page, files.get? entry = some page := by
  obtain ⟨f, hf, rfl⟩ := List.mem_map.1 (Entry.mem_of_select? h).1
  exact ⟨f.content, FileSet.get?_path hf⟩

def entryPage? (files : FileSet) : Option String := (Entry.select? files).bind files.get?

theorem entryPage?_eq_some_iff : entryPage? files = some page ↔
    ∃ entry, Entry.select? files = some entry ∧ files.get? entry = some page := Option.bind_eq_some_iff

/-- The page to start from is always there when one is named. -/
theorem entryPage?_eq_none_iff : entryPage? files = none ↔ Entry.select? files = none := by
  constructor
  · intro h
    cases he : Entry.select? files with
    | none => rfl
    | some entry =>
      obtain ⟨page, hp⟩ := exists_get?_of_select? he
      rw [entryPage?_eq_some_iff.2 ⟨entry, he, hp⟩] at h
      cases h
  · intro h
    rw [entryPage?, h]
    rfl

/-- The analysis of a page has the references of its head and then those of its body, as they stand. -/
theorem references_analyze (h : entryPage? files = some page) : (analyze files).references =
    (references (Sections.ofPage page).head ++ references (Sections.ofPage page).body).map
      (Reference.resolve files) := by
  change ((entryPage? files).map (pageReferences files)).getD [] = _
  rw [h]
  rfl

theorem references_analyze_none (h : entryPage? files = none) : (analyze files).references = [] := by
  change ((entryPage? files).map (pageReferences files)).getD [] = _
  rw [h]
  rfl

/-! ## The sections after inlining -/

def keptHead (page : String) : String := stripTitle (Sections.ofPage page).head

def inlinedHead (files : FileSet) (page : String) : Inlined := inlineAssets files [] (keptHead page)

/-- The body of a page after inlining; its log goes on where that of the head ends. -/
def inlinedBody (files : FileSet) (page : String) : Inlined :=
  inlineAssets files (inlinedHead files page).log (Sections.ofPage page).body

/-- The texts that are searched for the contents of files. -/
def inlinedTexts (files : FileSet) (page : String) : List String :=
  [(inlinedHead files page).html, (inlinedBody files page).html]

/-- The pieces of the document around an entry page. -/
def entryParts (files : FileSet) (opts : BundleOptions) (page : String) : Document.Parts where
  title := (Sections.ofPage page).title.getD opts.defaultTitle
  head := (inlinedHead files page).html
  body := (inlinedBody files page).html
  styles := unconsumed files .stylesheet (inlinedTexts files page)
  scripts := unconsumed files .script (inlinedTexts files page)

/-! ## The bundle -/

def finish (opts : BundleOptions) (b : Bundle) : Bundle :=
  if opts.minify then { b with html := minify b.html } else b

@[simp] theorem finish_assets : (finish opts b).assets = b.assets := by
  unfold finish
  split <;> rfl

theorem finish_of_not_minify (h : opts.minify = false) (b : Bundle) : finish opts b = b := by
  rw [finish, h, if_neg Bool.false_ne_true]

/-- Bundling succeeds for every set that has a file in it. -/
theorem bundle_eq_ok (h : files.isEmpty = false) :
    bundle files opts = .ok (finish opts (bundleFull files opts)) := by
  rw [bundle, h]
  rfl

theorem bundleFull_of_select? (he : Entry.select? files = some entry) (hp : files.get? entry = some page) :
    bundleFull files opts =
      { html := Document.assemble (entryParts files opts page)
        entry := some entry
        title := (entryParts files opts page).title
        assets := (inlinedBody files page).log
        appended := ((entryParts files opts page).styles ++ (entryParts files opts page).scripts).map File.path
        kind := ProjectKind.detect files } := by
  rw [bundleFull, he]
  simp only [bundleEntry, hp, Option.getD_some]
  rfl

theorem bundleFull_of_select?_none (he : Entry.select? files = none) :
    bundleFull files opts = bundleSynthetic files opts (ProjectKind.detect files) := by
  rw [bundleFull, he]

/-- A set with an entry page is not empty. -/
theorem isEmpty_of_select? (he : Entry.select? files = some entry) : files.isEmpty = false := by
  obtain ⟨f, hf, -⟩ := List.mem_map.1 (Entry.mem_of_select? he).1
  cases h : files.isEmpty with
  | false => rfl
  | true =>
    rw [FileSet.isEmpty, Array.isEmpty_iff] at h
    rw [FileSet.toList, h] at hf
    cases hf

end PageBundle
