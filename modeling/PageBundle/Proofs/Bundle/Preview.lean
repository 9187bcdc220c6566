import PageBundle.Proofs.Asset.Styled
import PageBundle.Proofs.Bundle.Basic

/-! When the analysis of a set of files foretells the log of its bundle. The analysis reads the sections as they
stand in the page; the bundle reads a head without titles, and looks for scripts in text that has the sheets
put in. So a reference in a title is foretold and not met, and one in a sheet is met and not foretold. The two
lists are the same exactly if neither makes a difference, and on tidy pages with quiet sheets none does. -/

namespace PageBundle

open Asset Markup Text

variable {files : FileSet} {opts : BundleOptions} {page : String} {a b : List Reference}

/-- Whether the text that the bundle searches makes the references of the sections as they stand in the page. -/
structure SameReferences (files : FileSet) (page : String) : Prop where
  sheets : sheetsIn (keptHead page).toList = sheetsIn (Sections.ofPage page).head.toList
  scripts : scriptsIn (styled files (keptHead page)).toList ++
      (sheetsIn (Sections.ofPage page).body.toList ++ scriptsIn (styled files (Sections.ofPage page).body).toList) =
    scriptsIn (Sections.ofPage page).head.toList ++
      (sheetsIn (Sections.ofPage page).body.toList ++ scriptsIn (Sections.ofPage page).body.toList)

/-- Whether no tag of a text holds a `<` and no sheet that it asks for mentions a script tag. -/
structure Quiet (files : FileSet) (s : List Char) : Prop where
  links : Tidy .word "link".toList s
  scripts : Tidy .word "script".toList s
  sheets : SheetsQuiet files s

instance (files : FileSet) (s : List Char) : Decidable (Quiet files s) :=
  decidable_of_iff (_ ∧ _ ∧ _) ⟨fun h => ⟨h.1, h.2.1, h.2.2⟩, fun h => ⟨h.1, h.2, h.3⟩⟩

/-- Whether the titles of a page make no reference and its sections are quiet. -/
structure QuietPage (files : FileSet) (page : String) : Prop where
  titles : references (keptHead page) = references (Sections.ofPage page).head
  head : Quiet files (keptHead page).toList
  body : Quiet files (Sections.ofPage page).body.toList

instance (files : FileSet) (page : String) : Decidable (QuietPage files page) :=
  decidable_of_iff (_ ∧ _ ∧ _) ⟨fun h => ⟨h.1, h.2.1, h.2.2⟩, fun h => ⟨h.1, h.2, h.3⟩⟩

/-! ## Lists of references -/

theorem filter_sheetsIn (s : List Char) : (sheetsIn s).filter (·.kind = .stylesheet) = sheetsIn s := by
  rw [List.filter_eq_self]
  intro r hr
  rw [kind_of_mem_sheetsIn hr]
  rfl

theorem filter_scriptsIn (s : List Char) : (scriptsIn s).filter (·.kind = .stylesheet) = [] := by
  rw [List.filter_eq_nil_iff]
  intro r hr
  rw [kind_of_mem_scriptsIn hr]
  decide

/-- The first links of two lists can be told by what kind they are, if the last links are the same. -/
theorem sheetsIn_eq_of_append {s s' t u u' v v' : List Char}
    (h : sheetsIn s ++ (scriptsIn u ++ (sheetsIn t ++ scriptsIn v)) =
      sheetsIn s' ++ (scriptsIn u' ++ (sheetsIn t ++ scriptsIn v'))) : sheetsIn s = sheetsIn s' := by
  have hf := congrArg (List.filter (·.kind = .stylesheet)) h
  simp only [List.filter_append, filter_sheetsIn, filter_scriptsIn, List.nil_append, List.append_nil] at hf
  exact List.append_cancel_right hf

/-! ## The log -/

/-- The references that a bundle logs, by the four searches that find them. -/
theorem log_inlinedBody (files : FileSet) (page : String) : (inlinedBody files page).log =
    (sheetsIn (keptHead page).toList ++ (scriptsIn (styled files (keptHead page)).toList ++
      (sheetsIn (Sections.ofPage page).body.toList ++
        scriptsIn (styled files (Sections.ofPage page).body).toList))).map (Reference.resolve files) := by
  rw [inlinedBody, log_inlineAssets, inlinedHead, log_inlineAssets, List.nil_append, ← List.map_append,
    List.append_assoc]

theorem map_resolve_inj : a.map (Reference.resolve files) = b.map (Reference.resolve files) ↔ a = b := by
  constructor
  · intro h
    have h' := congrArg (List.map Resolved.reference) h
    rwa [map_reference_resolve, map_reference_resolve] at h'
  · rintro rfl
    rfl

/-- The log is the analysis exactly if the searched text makes the references of the sections. -/
theorem log_eq_references_iff (hp : entryPage? files = some page) :
    (inlinedBody files page).log = (analyze files).references ↔ SameReferences files page := by
  rw [log_inlinedBody, references_analyze hp, map_resolve_inj, references_eq, references_eq, List.append_assoc]
  constructor
  · intro h
    have hs := sheetsIn_eq_of_append h
    rw [hs] at h
    exact ⟨hs, List.append_cancel_left h⟩
  · intro h
    rw [h.sheets, h.scripts]

theorem QuietPage.sameReferences (h : QuietPage files page) : SameReferences files page := by
  have ht := h.titles
  rw [references_eq, references_eq] at ht
  have hs : sheetsIn (keptHead page).toList = sheetsIn (Sections.ofPage page).head.toList := by
    have hf := congrArg (List.filter (·.kind = .stylesheet)) ht
    simpa only [List.filter_append, filter_sheetsIn, filter_scriptsIn, List.append_nil] using hf
  rw [hs] at ht
  refine ⟨hs, ?_⟩
  rw [scriptsIn_styled h.head.links h.head.scripts h.head.sheets,
    scriptsIn_styled h.body.links h.body.scripts h.body.sheets, List.append_cancel_left ht]

/-! ## The analysis and the bundle -/

/-- The log of a bundle is the list of the analysis exactly if the text that the bundle searches makes the same
references as the page, and on a quiet page it does. -/
theorem assets_eq_references_iff (files : FileSet) (opts : BundleOptions) (h : files.isEmpty = false) :
    ∃ b, bundle files opts = .ok b ∧
      (b.assets = (analyze files).references ↔ ∀ page ∈ entryPage? files, SameReferences files page) ∧
      ((∀ page ∈ entryPage? files, QuietPage files page) → b.assets = (analyze files).references) := by
  refine ⟨finish opts (bundleFull files opts), bundle_eq_ok h, ?_⟩
  have hiff : (bundleFull files opts).assets = (analyze files).references ↔
      ∀ page ∈ entryPage? files, SameReferences files page := by
    cases hp : entryPage? files with
    | none =>
      rw [bundleFull_of_select?_none (entryPage?_eq_none_iff.1 hp), references_analyze_none hp]
      constructor
      · intro _ page hm
        cases hm
      · intro _
        rfl
    | some page =>
      obtain ⟨entry, he, hpage⟩ := entryPage?_eq_some_iff.1 hp
      rw [bundleFull_of_select? he hpage, log_eq_references_iff hp]
      constructor
      · intro hs page' hm
        cases hm
        exact hs
      · intro hs
        exact hs page rfl
  rw [finish_assets]
  exact ⟨hiff, fun hq => hiff.2 fun page hm => (hq page hm).sameReferences⟩

/-- A page with a title, a sheet with a combinator and two scripts. -/
def quietSite : FileSet :=
  FileSet.ofList [("index.html", "<head><title>Site</title><link rel=stylesheet href=a.css></head>" ++
      "<body><script src=b.js></script><script src=gone.js></script></body>"),
    ("a.css", "ul > li { margin: 0 }"), ("b.js", "if (1 < 2) start()")]

theorem assets_eq_references_quietSite :
    ∃ b, bundle quietSite {} = .ok b ∧ b.assets = (analyze quietSite).references := by
  obtain ⟨b, hb, -, hq⟩ := assets_eq_references_iff quietSite {} (by decide +kernel)
  exact ⟨b, hb, hq (by decide +kernel)⟩

def scriptInSheet : FileSet :=
  FileSet.ofList [("index.html", "<head><link rel=stylesheet href=a.css></head><body></body>"),
    ("a.css", "/* <script src=b.js></script> */"), ("b.js", "start()")]

def linkInTitle : FileSet :=
  FileSet.ofList [("index.html", "<head><title><link rel=stylesheet href=a.css></title></head><body></body>")]

/-- The bundle logs a script that only a sheet speaks of, and not the link that only a title speaks of. -/
theorem assets_ne_references :
    (∃ b, bundle scriptInSheet {} = .ok b ∧ b.assets ≠ (analyze scriptInSheet).references) ∧
      ∃ b, bundle linkInTitle {} = .ok b ∧ b.assets ≠ (analyze linkInTitle).references := by
  have h : ∀ files : FileSet, files.isEmpty = false →
      (bundleFull files {}).assets ≠ (analyze files).references →
      ∃ b, bundle files {} = .ok b ∧ b.assets ≠ (analyze files).references := by
    intro files hf hne
    exact ⟨_, bundle_eq_ok hf, by rwa [finish_assets]⟩
  exact ⟨h scriptInSheet (by decide +kernel) (by decide +kernel),
    h linkInTitle (by decide +kernel) (by decide +kernel)⟩

end PageBundle
