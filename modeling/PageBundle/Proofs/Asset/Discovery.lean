import PageBundle.Proofs.Asset.Fragment

/-! Which references are found on a well-formed page: those of its links to style sheets and those of its scripts,
each as its attributes spell it, and nothing that only looks like one. -/

namespace PageBundle.Asset

open Text Markup Attribute

variable {attrs : List Spelled}

/-- A fragment makes a reference to a sheet just if it is a link that has one. -/
theorem filterMap_linkPieces (p : Fragment) :
    (p.linkPieces.filterMap Piece.value?).filterMap ofLink? = p.sheet?.toList := by
  cases p with
  | link attrs =>
    change [spell attrs].filterMap ofLink? = _
    rw [List.filterMap_cons, ofLink?_spell]
    cases (Fragment.link attrs).sheet? <;> rfl
  | text | tag | script => exact congrArg (List.filterMap ofLink?) (Recogniser.filterMap_value?_map_plain _)

/-- A fragment makes a reference to a script just if it is a script that has one. -/
theorem filterMap_elementPieces (p : Fragment) :
    (p.elementPieces.filterMap Piece.value?).filterMap ofScript? = p.script?.toList := by
  cases p with
  | script attrs body hbody =>
    change [(⟨spell attrs, body⟩ : Element)].filterMap ofScript? = _
    rw [List.filterMap_cons, ofScript?_spell hbody]
    cases (Fragment.script attrs body hbody).script? <;> rfl
  | text | tag | link => exact congrArg (List.filterMap ofScript?) (Recogniser.filterMap_value?_map_plain _)

/-- The references of a well-formed page are those of its links to style sheets, in order, and those of its scripts, in
order. -/
theorem references_flatMap_markup (doc : List Fragment) :
    references (String.ofList (doc.flatMap Fragment.markup)) =
      doc.filterMap Fragment.sheet? ++ doc.filterMap Fragment.script? := by
  rw [references, String.toList_ofList, Recogniser.findAll_flatMap fun p _ => scans_linkTags p,
    Recogniser.findAll_flatMap fun p _ => scans_elementPieces p, List.filterMap_flatMap, List.filterMap_flatMap]
  simp only [filterMap_linkPieces, filterMap_elementPieces, ← List.filterMap_eq_flatMap_toList]

theorem references_flatMap_markup_galleryPage :
    references ("<link REL=\"\tStyleSheet \" Href=a.css href=b.css><p rel=stylesheet href=c.css>" ++
        "<script\nsrc src=d.js>;</script><link rel=icon href=e.png><link href='f.css'\trel=stylesheet>") =
      [⟨.stylesheet, "a.css"⟩, ⟨.stylesheet, "f.css"⟩, ⟨.script, ""⟩] := by
  have hall := references_flatMap_markup galleryPage
  have hpage : String.ofList (galleryPage.flatMap Fragment.markup) =
      "<link REL=\"\tStyleSheet \" Href=a.css href=b.css><p rel=stylesheet href=c.css>" ++
        "<script\nsrc src=d.js>;</script><link rel=icon href=e.png><link href='f.css'\trel=stylesheet>" := by decide +kernel
  rw [hpage] at hall
  rw [hall]
  decide +kernel

end PageBundle.Asset
