import PageBundle.Proofs.Bundle.Basic
import PageBundle.Proofs.Markup.Severed

/-! The structure of a document. The removal of structural tags keeps the head and the body from opening or closing an
element of the document again, unless it puts a tag together or a tag is left that has no end of its own. -/

namespace PageBundle

open Markup Text

namespace Markup

variable {s x y : List Char} {ps : List (Piece Unit)}

def tagText? : Piece Unit → Option (List Char)
  | .plain _ => none
  | .found text _ => some text

def structureOf (s : List Char) : List (List Char) := (structuralTags.pieces s).filterMap tagText?

theorem structureOf_append (h : structuralTags.CutsAt x y) : structureOf (x ++ y) = structureOf x ++ structureOf y := by
  rw [structureOf, h, List.filterMap_append]
  rfl

theorem structureOf_append_of_scans (h : structuralTags.Scans x ps) :
    structureOf (x ++ y) = ps.filterMap tagText? ++ structureOf y := by
  rw [structureOf, h, List.filterMap_append]
  rfl

theorem structureOf_append_of_isPlain (h : structuralTags.IsPlain x) : structureOf (x ++ y) = structureOf y := by
  have hnone : (x.map Piece.plain).filterMap tagText? = [] := by
    rw [List.filterMap_map]
    exact List.filterMap_eq_nil_iff.2 fun c _ => rfl
  rw [structureOf_append_of_scans h, hnone, List.nil_append]

theorem newline_isPlain : structuralTags.IsPlain ['\n'] := fun _ => pieces_cons_of_ne (by decide)

/-- No tag runs out of a text that ends with a line break behind a `>`. -/
theorem structureOf_lines_append (h : ['>', '\n'] <:+ x) : structureOf (x ++ y) = structureOf x ++ structureOf y := by
  obtain ⟨v, rfl⟩ := h
  have hcut : ∀ w, structureOf (v ++ ['>', '\n'] ++ w) = structureOf (v ++ ['>']) ++ structureOf w := by
    intro w
    have happ : v ++ ['>', '\n'] ++ w = v ++ ['>'] ++ (['\n'] ++ w) := by simp
    rw [happ, structureOf_append (structuralTags_endsAt.cutsAt v _), structureOf_append_of_isPlain newline_isPlain]
  have hnil : structureOf [] = [] := by
    rw [structureOf, structuralTags.pieces_nil]
    rfl
  rw [hcut, ← List.append_nil (v ++ ['>', '\n']), hcut, hnil, List.append_nil]

/-- Whether a text that is put into a document keeps out of its structure: removing the structural tags from it puts none
together and leaves none open. -/
def IsInert (t : String) : Prop := ¬ Severed t.toList ∧ ¬ LeavesOpen (stripStructure t).toList

/-- A structural tag is left exactly if the removal of others puts it together. -/
theorem hasStructure_stripStructure_iff {t : String} : HasStructure (stripStructure t).toList ↔ Severed t.toList := by
  rw [stripStructure, String.toList_ofList, hasStructure_erase_iff]

theorem not_beginsStructure_iff {t : String} : ¬ BeginsStructure (stripStructure t).toList ↔ IsInert t := by
  rw [beginsStructure_iff, not_or, IsInert, hasStructure_stripStructure_iff]

theorem isPlain_stripStructure_iff {t : String} : structuralTags.IsPlain ((stripStructure t).toList ++ ['\n']) ↔ IsInert t := by
  rw [isPlain_newline_iff, not_beginsStructure_iff]

/-- Whether a text keeps out of the structure shows when it is stripped once more with an end of a tag behind it. -/
theorem isInert_iff {t : String} : IsInert t ↔
    structuralTags.erase ((stripStructure t).toList ++ ['>']) = (stripStructure t).toList ++ ['>'] := by
  rw [erase_eq_self_iff, hasStructure_append_gt_iff, not_beginsStructure_iff]

instance (t : String) : Decidable (IsInert t) := decidable_of_iff _ isInert_iff.symm

theorem read_closing_head : structuralTags.read "</head>".toList = some ⟨(), "</head>".toList, []⟩ := by rfl

theorem read_opening_body : structuralTags.read "<body>".toList = some ⟨(), "<body>".toList, []⟩ := by rfl

/-- The tags between the head and the body. -/
theorem structureOf_middle :
    structureOf ("</head>\n<body>\n".toList ++ y) = "</head>".toList :: "<body>".toList :: structureOf y := by
  have hlocal : structuralTags.Local := structuralTags_endsAt.local
  have hhead := hlocal.scans_found read_closing_head rfl
  have hbody := hlocal.scans_found read_opening_body rfl
  exact structureOf_append_of_scans ((hhead.append newline_isPlain).append (hbody.append newline_isPlain))

end Markup

namespace Document

variable {p : Parts}

/-- What stands in front of the head ends with a tag and a line break. -/
theorem lines_suffix_front (title : String) (styles : List File) :
    ['>', '\n'] <:+ (prologue title ++ styleBlock styles).toList := by
  have hlines : ∀ s u : String, ['>', '\n'] <:+ u.toList → ['>', '\n'] <:+ (s ++ u).toList := by
    intro s u h
    rw [String.toList_append]
    exact h.trans (List.suffix_append _ _)
  by_cases h : styles.isEmpty = true
  · rw [styleBlock, block, if_pos h, String.append_empty]
    exact hlines _ "</title>\n" (by decide)
  · rw [styleBlock, block, if_neg h]
    exact hlines _ _ (hlines _ ">\n" (by decide))

/-- Around a head and a body that keep out of it the structure of a document is its own. -/
theorem structureOf_assemble (hh : IsInert p.head) (hb : IsInert p.body) :
    structureOf (assemble p).toList = structureOf (prologue p.title ++ styleBlock p.styles).toList ++
      "</head>".toList :: "<body>".toList :: structureOf (scriptBlock "" p.scripts ++ epilogue).toList := by
  have happ : (assemble p).toList = (prologue p.title ++ styleBlock p.styles).toList ++
      ((stripStructure p.head).toList ++ ['\n'] ++ ("</head>\n<body>\n".toList ++
        ((stripStructure p.body).toList ++ ['\n'] ++ (scriptBlock "" p.scripts ++ epilogue).toList))) := by
    simp [assemble, String.toList_append]
  rw [happ, structureOf_lines_append (lines_suffix_front _ _), structureOf_append_of_isPlain (isPlain_stripStructure_iff.2 hh),
    structureOf_middle, structureOf_append_of_isPlain (isPlain_stripStructure_iff.2 hb)]

end Document

/-- One pass over a text leaves a tag of document structure exactly if it puts one together, and only then a second pass has
something to remove. In a document the text opens and closes nothing, whatever comes behind it, exactly if no tag is left
open in it either; and a document around such a head and body has no tags but its own and those of its title, styles and
scripts. -/
theorem stripStructure_seals_iff (t : String) :
    (HasStructure (stripStructure t).toList ↔ Severed t.toList) ∧
    (stripStructure (stripStructure t) = stripStructure t ↔ ¬ Severed t.toList) ∧
    (structuralTags.IsPlain ((stripStructure t).toList ++ ['\n']) ↔ IsInert t) ∧
    ∀ p : Document.Parts, IsInert p.head → IsInert p.body →
      structureOf (Document.assemble p).toList =
        structureOf (Document.prologue p.title ++ Document.styleBlock p.styles).toList ++
          "</head>".toList :: "<body>".toList ::
            structureOf (Document.scriptBlock "" p.scripts ++ Document.epilogue).toList := by
  refine ⟨hasStructure_stripStructure_iff, ?_, isPlain_stripStructure_iff, fun p => Document.structureOf_assemble⟩
  rw [← hasStructure_stripStructure_iff, ← erase_eq_self_iff, ← String.toList_inj]
  rw [stripStructure, String.toList_ofList]

def nestedParts : Document.Parts where
  title := "x"
  head := "<head><meta charset=utf-8></HEAD>"
  body := "<header>a</header></body><body class=b><p>c</p>"
  styles := []
  scripts := [⟨"a.js", "go()"⟩]

theorem stripStructure_seals_nestedParts :
    stripStructure (stripStructure nestedParts.body) = stripStructure nestedParts.body ∧
    (structureOf (Document.assemble nestedParts).toList).map String.ofList =
      ["<html lang=\"en\">", "<head>", "</head>", "<body>", "</body>", "</html>"] := by
  obtain ⟨-, hagain, -, hdoc⟩ := stripStructure_seals_iff nestedParts.body
  have hb : IsInert nestedParts.body := by decide +kernel
  refine ⟨hagain.2 hb.1, ?_⟩
  rw [hdoc nestedParts (by decide +kernel) hb]
  decide +kernel

/-- A page whose body has a tag inside the name of another one. -/
def tornTag : FileSet := FileSet.ofList [("index.html", "<head></head><body><he<head>ad></body>")]

/-- A page without a complete body, in which the tag of the body has lost its end. -/
def openBody : FileSet := FileSet.ofList [("index.html", "<head><meta><body</head>")]

/-- The removal of tags makes a tag that a second run removes, and a document that opens its head twice. A tag that is left
open closes with the end of the head. -/
theorem structure_not_once :
    HasStructure (stripStructure "<he<head>ad>").toList ∧
    stripStructure (stripStructure "<he<head>ad>") ≠ stripStructure "<he<head>ad>" ∧
    (∃ b, bundle tornTag { minify := false } = .ok b ∧ (structureOf b.html.toList).count "<head>".toList = 2) ∧
    ∃ b, bundle openBody { minify := false } = .ok b ∧ (structureOf b.html.toList).count "</head>".toList = 0 := by
  refine ⟨⟨"<head>".toList, by decide +kernel, structuralTag?_isSome_iff.1 rfl⟩, by decide +kernel, ?_, ?_⟩
  · exact ⟨_, bundle_eq_ok (by decide +kernel), by decide +kernel⟩
  · exact ⟨_, bundle_eq_ok (by decide +kernel), by decide +kernel⟩

end PageBundle
