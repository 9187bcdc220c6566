import PageBundle.Proofs.Bundle.Basic
import PageBundle.Proofs.Markup.Closing
import PageBundle.Proofs.Text.Trim

/-! The title of a document is read back from it. In front of the title no tag of a title begins, and what was read as the
title of a page holds no closing tag. Put between two tags it may end in the beginning of a closing tag, but this cannot run
into the `<` behind it. So what follows the title has no say in it. -/

namespace PageBundle

open Markup Text

variable {files : FileSet} {page t : String} {s rest : List Char}

namespace Markup

/-- What the title of a page can be: blank neither as a whole nor at its ends, and without a closing tag of a title. -/
structure IsTitle (s : List Char) : Prop where
  ne_nil : s ≠ []
  trim_eq : trim s = s
  not_hasEndTag : ¬ HasEndTag Section.title.name.toList s

/-- The title of a page has the form of one. -/
theorem isTitle_of_title? {page : List Char} (h : title? page = some s) : IsTitle s := by
  obtain ⟨hm, hne⟩ := Option.filter_eq_some_iff.1 h
  obtain ⟨body, hb, rfl⟩ := Option.map_eq_some_iff.1 hm
  refine ⟨by simpa using hne, trim_trim body, fun hend => ?_⟩
  obtain ⟨c, hc, hi⟩ := hend
  exact (section?_bounds hb).1 c (Section.title.isClosing_iff.2 hc) (hi.trans (trim_isInfix body))

/-- What has the form of a title is read back as it is. -/
theorem title?_of_section? {page : List Char} (h : section? .title page = some s) (hs : IsTitle s) :
    title? page = some s := by
  rw [title?, h, Option.map_some, hs.trim_eq, Option.filter_some]
  simp [hs.ne_nil]

end Markup

namespace Document

def beforeTitle : String :=
  "<!DOCTYPE html>\n<html lang=\"en\">\n<head>\n" ++
  "  <meta charset=\"UTF-8\">\n" ++
  "  <meta name=\"viewport\" content=\"width=device-width, initial-scale=1.0\">\n"

theorem prologue_eq (title : String) : prologue title = beforeTitle ++ "  <title>" ++ title ++ "</title>\n" := rfl

theorem toList_prologue (title : String) : (prologue title).toList = beforeTitle.toList ++ [' '] ++ [' '] ++
    (opening Section.title.name.toList [] ++ (title.toList ++ (closing Section.title.name.toList ++ ['\n']))) := by
  have hopen : "  <title>".toList = [' '] ++ ([' '] ++ opening Section.title.name.toList []) := by decide +kernel
  have hclose : "</title>\n".toList = closing Section.title.name.toList ++ ['\n'] := by decide +kernel
  simp only [prologue_eq, String.toList_append, hopen, hclose, List.append_assoc]

theorem not_mentionsOpening_beforeTitle :
    ¬ MentionsOpening Section.title.name.toList (beforeTitle.toList ++ [' ']) := by decide +kernel

/-- The first title of a document is its own. -/
theorem title?_prologue {title : String} (h : IsTitle title.toList) (rest : List Char) :
    title? ((prologue title).toList ++ rest) = some title.toList := by
  have hname : Spells Section.title.name.toList Section.title.name.toList := spells_self (by decide +kernel)
  have hgt : '>' ∉ ([] : List Char) := List.not_mem_nil
  have hread := element?_of_not_hasEndTag (e := .blank) (x := '\n' :: rest) hname Section.title.hasNoAngle hgt rfl
    h.not_hasEndTag
  refine title?_of_section? ?_ h
  rw [section?, Recogniser.first?_eq_breakAt, Option.map_eq_some_iff]
  refine ⟨(beforeTitle.toList ++ [' '] ++ [' '], _), breakAt_eq_some_iff.2 ⟨_, ?_, hread, fun u v huv hv => ?_⟩, rfl⟩
  · simp only [toList_prologue, List.append_assoc, List.cons_append, List.nil_append]
  · cases hr : element? .blank Section.title.name.toList (v ++ _) with
    | none => exact hr
    | some r =>
      obtain ⟨w, hw, hp⟩ := elements_opens (e := .blank) hr
      have hspace : Text.Parts Section.title.name.toList ' ' := by decide +kernel
      have hi := infix_of_prefix_append ⟨u, huv.symm⟩ hv hp (hspace.notMem ⟨w, hw, .inl rfl⟩)
      exact absurd ⟨w, hw, hi⟩ not_mentionsOpening_beforeTitle

theorem toList_assemble (p : Parts) : ∃ rest, (assemble p).toList = (prologue p.title).toList ++ rest := by
  simp only [assemble, String.toList_append, List.append_assoc]
  exact ⟨_, rfl⟩

end Document

theorem title_ofPage (page : String) : (Sections.ofPage page).title = (title? page.toList).map String.ofList := rfl

theorem isTitle_of_title_eq (h : (Sections.ofPage page).title = some t) : IsTitle t.toList := by
  rw [title_ofPage] at h
  obtain ⟨s, hs, rfl⟩ := Option.map_eq_some_iff.1 h
  rw [String.toList_ofList]
  exact isTitle_of_title? hs

/-- The title of the entry page is the title of the bundle, and it is the title that is read from the document. -/
theorem title_survives {opts : BundleOptions} (hpage : entryPage? files = some page)
    (htitle : (Sections.ofPage page).title = some t) (hopts : opts.minify = false) :
    ∃ b, bundle files opts = .ok b ∧ b.title = t ∧ (Sections.ofPage b.html).title = some t := by
  obtain ⟨entry, he, hp⟩ := entryPage?_eq_some_iff.1 hpage
  have hparts : (entryParts files opts page).title = t := by
    rw [entryParts, htitle, Option.getD_some]
  obtain ⟨rest, hrest⟩ := Document.toList_assemble (entryParts files opts page)
  refine ⟨_, bundle_eq_ok (isEmpty_of_select? he), ?_⟩
  rw [finish_of_not_minify hopts, bundleFull_of_select? he hp]
  refine ⟨hparts, ?_⟩
  rw [title_ofPage, hrest, hparts, Document.title?_prologue (isTitle_of_title_eq htitle), Option.map_some,
    String.ofList_toList]

/-- A page whose title ends in the beginning of a closing tag, and a sheet with a title of its own. -/
def tornTitle : FileSet := FileSet.ofList [
  ("index.html", "<body><TITLE\tid=x>\n a & <b> </title \n</TITLE ><link rel=stylesheet href=a.css>"),
  ("a.css", "/* <title>b</title> */")]

theorem title_survives_tornTitle : ∃ b, bundle tornTitle { minify := false } = .ok b ∧ b.title = "a & <b> </title" ∧
    (Sections.ofPage b.html).title = some "a & <b> </title" := by
  have hpage : entryPage? tornTitle =
      some "<body><TITLE\tid=x>\n a & <b> </title \n</TITLE ><link rel=stylesheet href=a.css>" := by decide +kernel
  exact title_survives hpage (by decide +kernel) rfl

end PageBundle
