import Mathlib.Data.List.Infix
import Mathlib.Data.List.Nodup
import PageBundle.Proofs.Asset.Unconsumed
import PageBundle.Proofs.Bundle.Basic
import PageBundle.Proofs.FileSet.Insert

/-! The files that a bundle appends. With and without an entry page they are the project's own style sheets, then
its scripts, each in the order of the set, whose contents the bundle does not find in the sections that it has
put together. Their entries stand unbroken in the document: the style sheets before all that the page brings,
the scripts after it. -/

namespace PageBundle

open Asset Markup Text

variable {files : FileSet} {f g : File} {k k' : Kind} {styles scripts : List File}

/-! ## Two kinds of files -/

theorem Asset.Kind.eq_of_hasSuffix (h : f.hasSuffix k.suffix = true) (h' : f.hasSuffix k'.suffix = true) : k = k' := by
  have hcase : ∀ k k' : Kind, k ≠ k' → ¬ k.suffix.toList <:+ k'.suffix.toList := by
    intro k k'
    cases k <;> cases k' <;> decide +kernel
  rw [File.hasSuffix, List.isSuffixOf_iff_suffix] at h h'
  by_contra hne
  rcases List.suffix_or_suffix_of_suffix h h' with hs | hs
  · exact hcase k k' hne hs
  · exact hcase k' k (Ne.symm hne) hs

/-! ## What is left over -/

/-- Whether there is an entry page and the content of the file stands in one of its sections after inlining. -/
def InSections (files : FileSet) (f : File) : Prop :=
  ∃ page ∈ entryPage? files, f.content.toList <:+: (inlinedHead files page).html.toList ∨
    f.content.toList <:+: (inlinedBody files page).html.toList

instance (files : FileSet) (f : File) : Decidable (InSections files f) :=
  inferInstanceAs (Decidable (∃ page ∈ entryPage? files, _ ∨ _))

/-- The texts in which a bundle looks for contents. -/
def searchedTexts (files : FileSet) : List String := ((entryPage? files).map (inlinedTexts files)).getD []

theorem inSections_iff : InSections files f ↔ ∃ t ∈ searchedTexts files, f.content.toList <:+: t.toList := by
  unfold InSections searchedTexts
  cases entryPage? files with
  | none => simp
  | some page => simp [inlinedTexts]

/-- Whether some files are those of a kind that the bundle of a set is to append, in the order of the set. -/
structure IsLeftover (files : FileSet) (k : Kind) (fs : List File) : Prop where
  inOrder : fs.Sublist files.toList
  mem_iff : ∀ f ∈ files.toList,
    f ∈ fs ↔ f.hasSuffix k.suffix = true ∧ f.isDependency = false ∧ ¬ InSections files f

/-- The files that a bundle appends are those that it is to append. -/
theorem isLeftover_unconsumed (files : FileSet) (k : Kind) :
    IsLeftover files k (unconsumed files k (searchedTexts files)) where
  inOrder := List.filter_sublist.trans List.filter_sublist
  mem_iff := by
    intro f hf
    rw [mem_unconsumed, and_iff_right hf]
    refine and_congr_right fun _ => and_congr_right fun _ => ?_
    rw [inSections_iff, not_exists]
    exact forall_congr' fun t => not_and.symm

theorem IsLeftover.mem (h : IsLeftover files k styles) (hf : f ∈ styles) :
    f ∈ files.toList ∧ f.hasSuffix k.suffix = true ∧ f.isDependency = false := by
  have hm := h.inOrder.subset hf
  obtain ⟨hs, hd, -⟩ := (h.mem_iff f hm).1 hf
  exact ⟨hm, hs, hd⟩

theorem mem_of_mem_append (hs : IsLeftover files .stylesheet styles) (hc : IsLeftover files .script scripts)
    (hf : f ∈ styles ++ scripts) : f ∈ files.toList ∧ f.isDependency = false := by
  rcases List.mem_append.1 hf with hf | hf
  · exact ⟨(hs.mem hf).1, (hs.mem hf).2.2⟩
  · exact ⟨(hc.mem hf).1, (hc.mem hf).2.2⟩

/-- No file is appended as a sheet and as a script. -/
theorem nodup_paths_append (hs : IsLeftover files .stylesheet styles) (hc : IsLeftover files .script scripts) :
    ((styles ++ scripts).map File.path).Nodup := by
  have hnodup : ∀ {fs : List File}, fs.Sublist files.toList → (fs.map File.path).Nodup :=
    fun h => (FileSet.nodup_paths files).sublist (h.map File.path)
  rw [List.map_append, List.nodup_append]
  refine ⟨hnodup hs.inOrder, hnodup hc.inOrder, ?_⟩
  -- A path that stands in both lists would be that of one file, and would end like both kinds.
  intro p hp q hq he
  obtain ⟨f, hf, rfl⟩ := List.mem_map.1 hp
  obtain ⟨g, hg, rfl⟩ := List.mem_map.1 hq
  obtain rfl := FileSet.eq_of_path (hs.mem hf).1 (hc.mem hg).1 he
  exact absurd (Kind.eq_of_hasSuffix (hs.mem hf).2.1 (hc.mem hg).2.1) (by decide)

/-- A style sheet or script is appended exactly if its content stands in no section. -/
theorem path_mem_append_iff (hs : IsLeftover files .stylesheet styles) (hc : IsLeftover files .script scripts)
    (hf : f ∈ files.toList) :
    f.path ∈ (styles ++ scripts).map File.path ↔ f.isAsset = true ∧ ¬ InSections files f := by
  have hmem : f.path ∈ (styles ++ scripts).map File.path ↔ f ∈ styles ∨ f ∈ scripts := by
    rw [← List.mem_append]
    refine ⟨fun h => ?_, List.mem_map_of_mem⟩
    obtain ⟨g, hg, he⟩ := List.mem_map.1 h
    rwa [← FileSet.eq_of_path (mem_of_mem_append hs hc hg).1 hf he]
  rw [hmem, hs.mem_iff f hf, hc.mem_iff f hf, File.isAsset, Bool.and_eq_true, Bool.or_eq_true, Bool.not_eq_true',
    ← or_and_right, and_assoc]
  exact and_left_comm

/-! ## Where it stands -/

namespace Document

def notice (title : String) : String :=
  "  <div id=\"app\">\n" ++ "    <h1>" ++ title ++ "</h1>\n" ++ "    <p>" ++ placeholder ++ "</p>\n" ++ "  </div>\n\n"

/-- The entries of some style sheets: a comment with the path, a line feed, the content and an empty line each. -/
def styleEntries (styles : List File) : String :=
  String.join (styles.map fun f => "/* " ++ f.path ++ " */\n" ++ f.content ++ "\n\n")

def scriptEntries (scripts : List File) : String :=
  String.join (scripts.map fun f => "// " ++ f.path ++ "\n" ++ f.content ++ "\n\n")

/-- Whether a document has the entries of some style sheets, then a head, the tags between head and body, a body and
the entries of some scripts. -/
def HasLayout (html head body : String) (styles scripts : List File) : Prop :=
  ∃ start beforeHead afterHead afterBody finish,
    html = start ++ styleEntries styles ++ beforeHead ++ head ++ afterHead ++ "</head>\n<body>\n" ++
      body ++ afterBody ++ scriptEntries scripts ++ finish

theorem exists_block_eq (indent tag : String) (entry : File → String) (fs : List File) :
    ∃ a b, block indent tag entry fs = a ++ String.join (fs.map entry) ++ b := by
  cases fs with
  | nil => exact ⟨"", "", rfl⟩
  | cons f fs =>
    refine ⟨indent ++ "<" ++ tag ++ ">\n", indent ++ "</" ++ tag ++ ">\n", ?_⟩
    rw [block, List.isEmpty_cons]
    simp only [Bool.false_eq_true, if_false, String.append_assoc]

theorem exists_styleBlock_eq (styles : List File) : ∃ a b, styleBlock styles = a ++ styleEntries styles ++ b :=
  exists_block_eq "  " "style" styleEntry styles

theorem exists_scriptBlock_eq (indent : String) (scripts : List File) :
    ∃ a b, scriptBlock indent scripts = a ++ scriptEntries scripts ++ b :=
  exists_block_eq indent "script" scriptEntry scripts

theorem hasLayout_assemble (p : Parts) :
    HasLayout (assemble p) (stripStructure p.head) (stripStructure p.body) p.styles p.scripts := by
  obtain ⟨a, b, hs⟩ := exists_styleBlock_eq p.styles
  obtain ⟨c, d, hc⟩ := exists_scriptBlock_eq "" p.scripts
  have htags : "\n</head>\n<body>\n" = "\n" ++ "</head>\n<body>\n" := rfl
  refine ⟨prologue p.title ++ a, b, "\n", "\n" ++ c, d ++ epilogue, ?_⟩
  rw [assemble, hs, hc, htags]
  simp only [String.append_assoc]

theorem hasLayout_synthesize (title : String) (styles scripts : List File) :
    HasLayout (synthesize title styles scripts) "" (notice title) styles scripts := by
  obtain ⟨a, b, hs⟩ := exists_styleBlock_eq styles
  obtain ⟨c, d, hc⟩ := exists_scriptBlock_eq "  " scripts
  refine ⟨prologue title ++ a, b, "", c, d ++ epilogue, ?_⟩
  unfold synthesize notice
  rw [hs, hc, String.append_empty, String.append_empty]
  simp only [String.append_assoc]

end Document

/-! ## The bundle -/

def shownHead (files : FileSet) : String :=
  ((entryPage? files).map fun page => stripStructure (inlinedHead files page).html).getD ""

/-- What a bundle takes from the page for its body, or that there was no page. -/
def shownBody (files : FileSet) (opts : BundleOptions) : String :=
  ((entryPage? files).map fun page => stripStructure (inlinedBody files page).html).getD
    (Document.notice opts.defaultTitle)

/-- The two cases of a bundle in one: the paths that it appends and the layout of its document. -/
theorem bundleFull_appends (files : FileSet) (opts : BundleOptions) :
    let styles := unconsumed files .stylesheet (searchedTexts files)
    let scripts := unconsumed files .script (searchedTexts files)
    (bundleFull files opts).appended = (styles ++ scripts).map File.path ∧
      Document.HasLayout (bundleFull files opts).html (shownHead files) (shownBody files opts) styles scripts := by
  cases he : Entry.select? files with
  | some entry =>
    obtain ⟨page, hp⟩ := exists_get?_of_select? he
    have hpage : entryPage? files = some page := entryPage?_eq_some_iff.2 ⟨entry, he, hp⟩
    rw [searchedTexts, shownHead, shownBody, hpage, bundleFull_of_select? he hp]
    exact ⟨rfl, Document.hasLayout_assemble (entryParts files opts page)⟩
  | none =>
    rw [searchedTexts, shownHead, shownBody, entryPage?_eq_none_iff.2 he, bundleFull_of_select?_none he]
    exact ⟨rfl, Document.hasLayout_synthesize opts.defaultTitle _ _⟩

/-- A set that is not empty has a bundle. What it appends is the style sheets and then the scripts that are left
over, no path twice, none of a dependency. An asset is appended exactly if the sections of the entry page do not
hold its content; all are without an entry page. The document has the entries of the style sheets before its head
and those of the scripts after its body. -/
theorem bundle_appends (files : FileSet) (opts : BundleOptions) (hne : files.isEmpty = false) (hm : opts.minify = false) :
    ∃ b styles scripts, bundle files opts = .ok b ∧
      b.appended = (styles ++ scripts).map File.path ∧
      IsLeftover files .stylesheet styles ∧ IsLeftover files .script scripts ∧
      b.appended.Nodup ∧
      (∀ p ∈ b.appended, p ∈ files.paths ∧ ¬ File.cacheMarker.toList <:+: p.toList) ∧
      (∀ f ∈ files.toList, f.path ∈ b.appended ↔ f.isAsset = true ∧ ¬ InSections files f) ∧
      Document.HasLayout b.html (shownHead files) (shownBody files opts) styles scripts := by
  have hb : bundle files opts = .ok (bundleFull files opts) := by
    rw [bundle_eq_ok hne, finish, hm]
    rfl
  have hs := isLeftover_unconsumed files .stylesheet
  have hc := isLeftover_unconsumed files .script
  obtain ⟨happ, hlay⟩ := bundleFull_appends files opts
  refine ⟨bundleFull files opts, _, _, hb, happ, hs, hc, ?_, ?_, ?_, hlay⟩
  · rw [happ]
    exact nodup_paths_append hs hc
  · intro p hp
    rw [happ] at hp
    obtain ⟨f, hf, rfl⟩ := List.mem_map.1 hp
    obtain ⟨hm, hd⟩ := mem_of_mem_append hs hc hf
    refine ⟨List.mem_map.2 ⟨f, hm, rfl⟩, ?_⟩
    rw [← contains_iff_isInfix, ← File.isDependency, hd]
    decide
  · intro f hf
    rw [happ]
    exact path_mem_append_iff hs hc hf

/-- A site with a sheet that its page asks for, two scripts and a sheet that it does not ask for, and a dependency. -/
def unaskedAssets : FileSet :=
  FileSet.ofList [("b.js", "g()"), ("index.html", "<head><link rel=stylesheet href=a.css></head><body></body>"),
    ("a.css", "p{}"), ("node_modules/x.js", "x()"), ("c.css", "q{}"), ("a.js", "h()")]

theorem bundle_appends_unaskedAssets : ∃ b, bundle unaskedAssets { minify := false } = .ok b ∧ b.appended.Nodup ∧
    ∀ f ∈ unaskedAssets.toList, f.path ∈ b.appended ↔ f.path ∈ ["c.css", "b.js", "a.js"] := by
  obtain ⟨b, _, _, hb, -, -, -, hnodup, -, hmem, -⟩ := bundle_appends unaskedAssets { minify := false }
    (by decide +kernel) rfl
  refine ⟨b, hb, hnodup, fun f hf => (hmem f hf).trans ?_⟩
  have hall : ∀ f ∈ unaskedAssets.toList, (f.isAsset = true ∧ ¬ InSections unaskedAssets f) ↔
      f.path ∈ ["c.css", "b.js", "a.js"] := by decide +kernel
  exact hall f hf

end PageBundle
