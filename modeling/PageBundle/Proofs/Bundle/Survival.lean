import Mathlib.Data.List.Infix
import PageBundle.Proofs.Asset.Unconsumed
import PageBundle.Proofs.Bundle.Basic

/-! What becomes of the contents of a project's own style sheets and scripts. A content that stands in neither
section after inlining is appended as it is. One that stands there is not appended, and then the tags of
document structure are removed from the sections: it is in the document unless one of these tags touches it
wherever it stands. -/

namespace PageBundle

open Asset Markup Text

theorem infix_join {l : List String} {s : String} (h : s ∈ l) : s.toList <:+: (String.join l).toList := by
  rw [String.toList_join, List.flatMap_def]
  exact List.infix_of_mem_flatten (List.mem_map_of_mem h)

namespace Text

variable {α : Type} {R : Recogniser α} {s c : List Char}

/-- Whether some characters stand together in a text outside of all occurrences. -/
def Recogniser.Keeps (R : Recogniser α) (s c : List Char) : Prop :=
  ∃ ps qs, R.pieces s = ps ++ (c.map .plain ++ qs)

/-- Without an occurrence all characters are kept. -/
theorem Recogniser.keeps_of_findAll_eq_nil (h : R.findAll s = []) (hc : c <:+: s) : R.Keeps s c := by
  have hp : ∀ ps : List (Piece α), ps.filterMap Piece.value? = [] → ps = (ps.flatMap Piece.text).map .plain := by
    intro ps
    induction ps with
    | nil => exact fun _ => rfl
    | cons q ps ih =>
      intro hq
      cases q with
      | plain c => exact congrArg _ (ih hq)
      | found => cases hq
  have hs := hp (R.pieces s) h
  rw [R.flatMap_text_pieces] at hs
  obtain ⟨x, y, rfl⟩ := hc
  refine ⟨x.map .plain, y.map .plain, ?_⟩
  rw [hs, List.map_append, List.map_append, List.append_assoc]

theorem Recogniser.Keeps.infix_erase (h : R.Keeps s c) : c <:+: R.erase s := by
  obtain ⟨ps, qs, h⟩ := h
  rw [Recogniser.erase, h, List.flatMap_append, List.flatMap_append, List.flatMap_map]
  simp only [List.flatMap_singleton']
  rw [← List.append_assoc]
  exact List.infix_append _ c _

end Text

namespace Document

variable {f : File} {fs : List File} {p : Parts} {entry : File → String} {indent tag : String} {c : List Char}

theorem infix_block (hf : f ∈ fs) (h : c <:+: (entry f).toList) : c <:+: (block indent tag entry fs).toList := by
  have hne : fs.isEmpty = false := by
    cases fs with
    | nil => cases hf
    | cons => rfl
  have hj : c <:+: (String.join (fs.map entry)).toList := h.trans (infix_join (List.mem_map_of_mem hf))
  rw [block, hne]
  simp only [Bool.false_eq_true, if_false, String.toList_append]
  refine hj.trans ⟨(indent ++ "<" ++ tag ++ ">\n").toList, (indent ++ "</" ++ tag ++ ">\n").toList, ?_⟩
  simp only [String.toList_append, List.append_assoc]

theorem assemble_eq_join (p : Parts) : assemble p = String.join [prologue p.title, styleBlock p.styles,
    stripStructure p.head, "\n</head>\n<body>\n", stripStructure p.body, "\n", scriptBlock "" p.scripts, epilogue] := by
  simp [assemble, String.join_cons, String.append_assoc]

theorem content_infix_styleEntry (f : File) : f.content.toList <:+: (styleEntry f).toList :=
  f.content_infix_between _ _

theorem content_infix_scriptEntry (f : File) : f.content.toList <:+: (scriptEntry f).toList :=
  f.content_infix_between _ _

/-- A file that is to be added is in the document. -/
theorem content_infix_assemble (h : f ∈ p.styles ∨ f ∈ p.scripts) : f.content.toList <:+: (assemble p).toList := by
  rw [assemble_eq_join]
  rcases h with h | h
  · exact (infix_block h (content_infix_styleEntry f)).trans (infix_join (s := styleBlock p.styles) (by simp))
  · exact (infix_block h (content_infix_scriptEntry f)).trans (infix_join (s := scriptBlock "" p.scripts) (by simp))

/-- What the removal of structural tags keeps of a section is in the document. -/
theorem infix_assemble_of_keeps {t : String} (ht : t = p.head ∨ t = p.body)
    (h : structuralTags.Keeps t.toList c) : c <:+: (assemble p).toList := by
  have hs : c <:+: (stripStructure t).toList := by
    rw [stripStructure, String.toList_ofList]
    exact h.infix_erase
  rw [assemble_eq_join]
  rcases ht with rfl | rfl
  · exact hs.trans (infix_join (s := stripStructure p.head) (by simp))
  · exact hs.trans (infix_join (s := stripStructure p.body) (by simp))

end Document

variable {files : FileSet} {opts : BundleOptions} {entry page : String} {f : File}

/-- A content that stands in no section is appended. -/
theorem content_infix_of_unconsumed (hf : f ∈ files.toList) (ha : f.isAsset = true)
    (h : ∀ t ∈ inlinedTexts files page, ¬ f.content.toList <:+: t.toList) :
    f.content.toList <:+: (Document.assemble (entryParts files opts page)).toList := by
  obtain ⟨k, hk⟩ := mem_unconsumed_of_isAsset hf ha h
  cases k with
  | stylesheet => exact Document.content_infix_assemble (.inl hk)
  | script => exact Document.content_infix_assemble (.inr hk)

/-- A content that stands in a section outside of all structural tags stays. -/
theorem content_infix_of_keeps {t : String} (ht : t ∈ inlinedTexts files page)
    (hk : structuralTags.Keeps t.toList f.content.toList) :
    f.content.toList <:+: (Document.assemble (entryParts files opts page)).toList := by
  simp only [inlinedTexts, List.mem_cons, List.not_mem_nil, or_false] at ht
  exact Document.infix_assemble_of_keeps ht hk

/-- Whether the content of a file stands in a section after inlining, so that it is not appended, and a tag
that is removed touches it wherever it stands. -/
structure Touched (files : FileSet) (page : String) (f : File) : Prop where
  consumed : ∃ t ∈ inlinedTexts files page, f.content.toList <:+: t.toList
  not_kept : ∀ t ∈ inlinedTexts files page, ¬ structuralTags.Keeps t.toList f.content.toList

theorem not_touched_of_findAll_eq_nil (h : ∀ t ∈ inlinedTexts files page, structuralTags.findAll t.toList = []) :
    ¬ Touched files page f := by
  intro hl
  obtain ⟨t, ht, hi⟩ := hl.consumed
  exact hl.not_kept t ht (Recogniser.keeps_of_findAll_eq_nil (h t ht) hi)

/-- A content is in the document, unless a tag that is removed touches it wherever it stands. -/
theorem content_infix_or_touched (hf : f ∈ files.toList) (ha : f.isAsset = true) :
    f.content.toList <:+: (Document.assemble (entryParts files opts page)).toList ∨ Touched files page f := by
  by_cases hc : ∃ t ∈ inlinedTexts files page, f.content.toList <:+: t.toList
  · by_cases hk : ∃ t ∈ inlinedTexts files page, structuralTags.Keeps t.toList f.content.toList
    · obtain ⟨t, ht, hk⟩ := hk
      exact .inl (content_infix_of_keeps ht hk)
    · exact .inr ⟨hc, fun t ht h => hk ⟨t, ht, h⟩⟩
  · exact .inl (content_infix_of_unconsumed hf ha fun t ht hi => hc ⟨t, ht, hi⟩)

/-- The content of a style sheet or script of the project is in the document that is not shrunk, unless a
structural tag touches it wherever it stands in the sections. It is always there if they have no such tag. -/
theorem content_infix_html (files : FileSet) (opts : BundleOptions) (entry : String)
    (he : Entry.select? files = some entry) (hm : opts.minify = false) :
    ∃ page b, files.get? entry = some page ∧ bundle files opts = .ok b ∧
      ∀ f ∈ files.toList, f.isAsset = true →
        (f.content.toList <:+: b.html.toList ∨ Touched files page f) ∧
        ((∀ t ∈ inlinedTexts files page, structuralTags.findAll t.toList = []) →
          f.content.toList <:+: b.html.toList) := by
  obtain ⟨page, hp⟩ := exists_get?_of_select? he
  have hb : bundle files opts = .ok (finish opts (bundleFull files opts)) := bundle_eq_ok (isEmpty_of_select? he)
  rw [finish, hm, bundleFull_of_select? he hp] at hb
  refine ⟨page, _, hp, hb, fun f hf ha => ?_⟩
  have hor : f.content.toList <:+: (Document.assemble (entryParts files opts page)).toList ∨ Touched files page f :=
    content_infix_or_touched hf ha
  refine ⟨hor, fun ht => ?_⟩
  rcases hor with hi | hl
  · exact hi
  · exact absurd hl (not_touched_of_findAll_eq_nil ht)

/-- A site with a sheet in its head, a script in its body and a script that no page asks for. -/
def threeAssets : FileSet :=
  FileSet.ofList [("index.html", "<head><link rel=stylesheet href=a.css></head><body><script src=b.js></script></body>"),
    ("a.css", "p{}"), ("b.js", "0<1"), ("c.js", "f()")]

theorem content_infix_html_threeAssets : ∃ b, bundle threeAssets { minify := false } = .ok b ∧
    ∀ f ∈ threeAssets.toList, f.isAsset = true → f.content.toList <:+: b.html.toList := by
  obtain ⟨page, b, hp, hb, h⟩ := content_infix_html threeAssets { minify := false } "index.html"
    (by decide +kernel) rfl
  have htags : ∀ page ∈ threeAssets.get? "index.html", ∀ t ∈ inlinedTexts threeAssets page,
      (structuralTags.findAll t.toList).isEmpty = true := by decide +kernel
  refine ⟨b, hb, fun f hf ha => (h f hf ha).2 fun t ht => ?_⟩
  exact List.isEmpty_iff.1 (htags page hp t ht)

def bodyInSheet : FileSet :=
  FileSet.ofList [("index.html", "<link rel=stylesheet href=a.css>"), ("a.css", "/*<body>*/")]

/-- A page without a complete body, with a script that happens to stand in the tag of the body. -/
def scriptInTag : FileSet := FileSet.ofList [("index.html", "<body onload=go()>"), ("a.js", "go()")]

/-- The content of a sheet that was put in is altered, and that of a script that was taken for one is gone. -/
theorem content_not_infix_html :
    (∃ b, bundle bodyInSheet { minify := false } = .ok b ∧
      ∃ f ∈ bodyInSheet.toList, f.isAsset = true ∧ ¬ f.content.toList <:+: b.html.toList) ∧
    ∃ b, bundle scriptInTag { minify := false } = .ok b ∧
      ∃ f ∈ scriptInTag.toList, f.isAsset = true ∧ ¬ f.content.toList <:+: b.html.toList := by
  constructor
  · exact ⟨_, bundle_eq_ok (by decide +kernel), by decide +kernel⟩
  · exact ⟨_, bundle_eq_ok (by decide +kernel), by decide +kernel⟩

end PageBundle
