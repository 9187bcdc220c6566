import PageBundle.Markup.Section
import PageBundle.Proofs.Markup.Shape

/-! Where the sections of a page lie in it. A section is the stretch of the page between its opening and its
closing tag, so it begins right after a `>`; a page without a body is its own body from end to end. -/

namespace PageBundle.Markup

open Text

variable {t : Section} {page : List Char} {i j : Nat}

/-- Where the text inside the first element of a section begins and ends. -/
def span? (t : Section) (page : List Char) : Option (Nat × Nat) :=
  (t.elements.first? page).map fun (before, e) =>
    let start := before.length + t.name.toList.length + e.value.attrs.length + 2
    (start, start + e.value.body.length)

theorem of_span? (h : span? t page = some (i, j)) : ∃ x body y, page = x ++ ['>'] ++ body ++ y ∧
    i = (x ++ ['>']).length ∧ j = i + body.length ∧ section? t page = some body := by
  obtain ⟨⟨before, e⟩, hf, he⟩ := Option.map_eq_some_iff.1 h
  obtain ⟨rfl, rfl⟩ := Prod.mk.inj he
  have hs : section? t page = some e.value.body := by rw [section?, hf]; rfl
  rw [Recogniser.first?_eq_breakAt] at hf
  obtain ⟨r, rfl, hr⟩ := of_breakAt hf
  have happ := (append_of_element? hr).1
  simp only [Section.elements, elements, element?, Option.bind_eq_bind, Option.bind_eq_some_iff] at hr
  obtain ⟨o, ho, ⟨body, c⟩, -, hr⟩ := hr
  cases hr
  obtain ⟨w, hw, -, -, ht, -⟩ := openTag?_eq_some_iff.1 ho
  refine ⟨before ++ '<' :: (w ++ o.value), body, c.text ++ c.rest, ?_, ?_, rfl, hs⟩
  · rw [← happ, ht]
    simp
  · simp only [List.length_append, List.length_cons, List.length_nil, hw.length_eq]
    omega

theorem map_extract_span? (t : Section) (page : List Char) :
    (span? t page).map (fun (i, j) => page.extract i j) = section? t page := by
  cases h : span? t page with
  | none =>
    rw [section?, Option.map_eq_none_iff.1 h]
    rfl
  | some p =>
    obtain ⟨x, body, y, hpage, hi, hj, hs⟩ := of_span? h
    rw [hs, Option.map_some, hpage]
    change some (((x ++ ['>'] ++ body ++ y).drop p.1).take (p.2 - p.1)) = some body
    rw [hi, hj, hi, Nat.add_sub_cancel_left, List.append_assoc _ body, List.drop_left, List.take_left]

/-- The stretch of the head; an empty one if the page has none. -/
def headSpan (page : String) : Nat × Nat := (span? .head page.toList).getD (0, 0)

def bodySpan (page : String) : Nat × Nat := (span? .body page.toList).getD (0, page.toList.length)

theorem toList_head (page : String) :
    (Sections.ofPage page).head.toList = page.toList.extract (headSpan page).1 (headSpan page).2 := by
  change ((extractSection? page .head).getD "").toList = _
  rw [extractSection?, ← map_extract_span?, headSpan]
  cases span? .head page.toList with
  | none => simp
  | some p => exact String.toList_ofList

/-- The body of a page is the stretch that is told for it. -/
theorem toList_body (page : String) :
    (Sections.ofPage page).body.toList = page.toList.extract (bodySpan page).1 (bodySpan page).2 := by
  change ((extractSection? page .body).getD page).toList = _
  rw [extractSection?, ← map_extract_span?, bodySpan]
  cases span? .body page.toList with
  | none => simp
  | some p => exact String.toList_ofList

/-- The text that belongs to the head as well as to the body. -/
def sharedText (page : String) : String :=
  String.ofList (page.toList.extract (max (headSpan page).1 (bodySpan page).1)
    (min (headSpan page).2 (bodySpan page).2))

end PageBundle.Markup
