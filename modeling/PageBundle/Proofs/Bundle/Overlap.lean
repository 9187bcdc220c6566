import PageBundle.Proofs.Asset.Log
import PageBundle.Proofs.Bundle.Basic
import PageBundle.Proofs.Markup.Local
import PageBundle.Proofs.Markup.Span

/-! How often a reference of the entry page is taken. The head and the body are looked for one apart from the
other, so they may have text in common: one may lie within the other, and a page without a complete body is
all body. What stands in the common text is taken twice; nothing else is. For scripts this needs that a section
does not begin inside of a script element, for a section is read as if its start were that of a page. -/

namespace PageBundle

open Asset Markup Text

variable {files : FileSet} {entry page : String}

theorem linkTags_local : linkTags.Local := openTags_local hasNoAngle_link

theorem scriptElements_local : scriptElements.Local := elements_local hasNoAngle_script

/-- References are counted as the scan of their kind meets them. -/
theorem count_references (r : Reference) (s : String) :
    (references s).count r = match r.kind with
      | .stylesheet => linkTags.tally ofLink? r s.toList
      | .script => scriptElements.tally ofScript? r s.toList := by
  rw [references_eq, List.count_append]
  cases hk : r.kind with
  | stylesheet =>
    have : (scriptsIn s.toList).count r = 0 := List.count_eq_zero.2 fun hm => by
      rw [kind_of_mem_scriptsIn hm] at hk
      cases hk
    rw [this]
    rfl
  | script =>
    have : (sheetsIn s.toList).count r = 0 := List.count_eq_zero.2 fun hm => by
      rw [kind_of_mem_sheetsIn hm] at hk
      cases hk
    rw [this, Nat.zero_add]
    rfl

theorem count_analyze (h : entryPage? files = some page) (r : Reference) :
    ((analyze files).references.map Resolved.reference).count r =
      (references (Sections.ofPage page).head).count r + (references (Sections.ofPage page).body).count r := by
  rw [references_analyze h, map_reference_resolve, List.count_append]

/-! ## Where the sections begin -/

deriving instance DecidableEq for Element

deriving instance DecidableEq for Piece

/-- Whether no script element of the page begins before a place and ends after it. -/
def ScriptsStopAt (page : String) (i : Nat) : Prop :=
  scriptElements.CutsAt (page.toList.take i) (page.toList.drop i)

instance (page : String) (i : Nat) : Decidable (ScriptsStopAt page i) :=
  inferInstanceAs (Decidable (_ = _))

/-- A section begins after a `>`, and there every scan for links stops. -/
theorem linkTags_cutsAt_span {t : Section} {w : List Char} {i j : Nat} (h : span? t w = some (i, j)) :
    linkTags.CutsAt (w.take i) (w.drop i) := by
  obtain ⟨x, body, y, rfl, rfl, -, -⟩ := of_span? h
  rw [List.append_assoc _ body, List.take_left, List.drop_left]
  exact openTags_cutsAt hasNoAngle_link x _

theorem linkTags_cutsAt_headSpan (page : String) :
    linkTags.CutsAt (page.toList.take (headSpan page).1) (page.toList.drop (headSpan page).1) := by
  rw [headSpan]
  cases h : span? .head page.toList with
  | none => exact Recogniser.cutsAt_nil
  | some p => exact linkTags_cutsAt_span h

theorem linkTags_cutsAt_bodySpan (page : String) :
    linkTags.CutsAt (page.toList.take (bodySpan page).1) (page.toList.drop (bodySpan page).1) := by
  rw [bodySpan]
  cases h : span? .body page.toList with
  | none => exact Recogniser.cutsAt_nil
  | some p => exact linkTags_cutsAt_span h

/-- What is found in head and body is found in the page, or in both of them. -/
theorem count_sections_le (page : String) (r : Reference)
    (hr : r.kind = .script → ScriptsStopAt page (headSpan page).1 ∧ ScriptsStopAt page (bodySpan page).1) :
    (references (Sections.ofPage page).head).count r + (references (Sections.ofPage page).body).count r ≤
      (references page).count r + (references (sharedText page)).count r := by
  rw [count_references, count_references, count_references, count_references, toList_head, toList_body,
    sharedText, String.toList_ofList]
  cases hk : r.kind with
  | stylesheet =>
    exact linkTags_local.tally_extract_add_le _ _ (linkTags_cutsAt_headSpan page) (linkTags_cutsAt_bodySpan page)
  | script => exact scriptElements_local.tally_extract_add_le _ _ (hr hk).1 (hr hk).2

/-- A reference of the entry page is taken at most as often as it stands in the page and in the text that head
and body have in common; for one to a script, where no script element runs over the beginning of a section.
On a page without a complete body the text in common is the head, and the two numbers are equal. -/
theorem count_analyze_le (h : Entry.select? files = some entry) : ∃ page, files.get? entry = some page ∧
    (∀ r : Reference,
      (r.kind = .script → ScriptsStopAt page (headSpan page).1 ∧ ScriptsStopAt page (bodySpan page).1) →
      ((analyze files).references.map Resolved.reference).count r ≤
        (references page).count r + (references (sharedText page)).count r) ∧
    (extractSection? page .body = none → ∀ r : Reference,
      ((analyze files).references.map Resolved.reference).count r =
        (references page).count r + (references (Sections.ofPage page).head).count r) := by
  obtain ⟨page, hp⟩ := exists_get?_of_select? h
  have hpage : entryPage? files = some page := entryPage?_eq_some_iff.2 ⟨entry, h, hp⟩
  refine ⟨page, hp, fun r hr => ?_, fun hb r => ?_⟩
  · rw [count_analyze hpage]
    exact count_sections_le page r hr
  · have hbody : (Sections.ofPage page).body = page := by
      rw [Sections.ofPage, hb]
      rfl
    rw [count_analyze hpage, hbody, Nat.add_comm]

def loadedTwice : FileSet :=
  FileSet.ofList [("index.html", "<head><script src=a.js></script></head><body><script src=a.js></script></body>")]

theorem count_analyze_le_loadedTwice : ∃ page, loadedTwice.get? "index.html" = some page ∧
    ((analyze loadedTwice).references.map Resolved.reference).count ⟨.script, "a.js"⟩ ≤
      (references page).count ⟨.script, "a.js"⟩ + (references (sharedText page)).count ⟨.script, "a.js"⟩ := by
  have he : Entry.select? loadedTwice = some "index.html" := by decide +kernel
  obtain ⟨page, hp, hle, -⟩ := count_analyze_le he
  have hstop : ∀ page ∈ loadedTwice.get? "index.html",
      ScriptsStopAt page (headSpan page).1 ∧ ScriptsStopAt page (bodySpan page).1 := by decide +kernel
  exact ⟨page, hp, hle _ fun _ => hstop page hp⟩

def headOnly : FileSet := FileSet.ofList [("index.html", "<head><link rel=stylesheet href=a.css></head>")]

/-- A page whose head begins inside of a script element. -/
def headInScript : FileSet :=
  FileSet.ofList [("index.html", "<script><head><script src=a.js></script></head><body></body>")]

/-- References can be taken more often than they stand in the page: twice if the page has no body, and also in
text that head and body do not share, if the head begins inside of a script element. -/
theorem not_count_analyze_le :
    (¬ ∀ (files : FileSet) (entry page : String), Entry.select? files = some entry →
      files.get? entry = some page → ∀ r : Reference,
        ((analyze files).references.map Resolved.reference).count r ≤ (references page).count r) ∧
    (¬ ∀ (files : FileSet) (entry page : String), Entry.select? files = some entry →
      files.get? entry = some page → sharedText page = "" → ∀ r : Reference,
        ((analyze files).references.map Resolved.reference).count r ≤ (references page).count r) := by
  refine ⟨fun h => ?_, fun h => ?_⟩
  · have := h headOnly "index.html" "<head><link rel=stylesheet href=a.css></head>" (by decide +kernel)
      (by decide +kernel) ⟨.stylesheet, "a.css"⟩
    exact absurd this (by decide +kernel)
  · have := h headInScript "index.html" "<script><head><script src=a.js></script></head><body></body>"
      (by decide +kernel) (by decide +kernel) (by decide +kernel) ⟨.script, "a.js"⟩
    exact absurd this (by decide +kernel)

end PageBundle
