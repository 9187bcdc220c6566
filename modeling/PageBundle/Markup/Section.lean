import PageBundle.Markup.Tag

/-!
The sections of a page. The first complete element of a name is the section; a page without a body is all
body. Tags of document structure are removed from what is put into a new document, which has its own.
-/

namespace PageBundle.Markup

open Text

/-- The parts of a page that are looked for. -/
inductive Section where
  | head
  | body
  | title
deriving DecidableEq, Repr

def Section.name : Section → String
  | head => "head"
  | body => "body"
  | title => "title"

def Section.elements (t : Section) : Recogniser Element := Markup.elements .blank t.name.toList

def section? (t : Section) (page : List Char) : Option (List Char) :=
  (t.elements.first? page).map fun (_, element) => element.value.body

/-- The text inside the first element of the section. -/
def extractSection? (page : String) (t : Section) : Option String :=
  (section? t page.toList).map String.ofList

/-- A page cut into its sections. -/
structure Sections where
  /-- The text inside the head; empty if there is none. -/
  head : String
  /-- The text inside the body; the whole page if there is none. -/
  body : String
  /-- The title without blanks at its ends, if there is one and it is not blank. -/
  title : Option String
deriving DecidableEq

/-- The title of a page, trimmed; a blank one counts as none. -/
def title? (page : List Char) : Option (List Char) :=
  ((section? .title page).map trim).filter (!·.isEmpty)

def Sections.ofPage (page : String) : Sections where
  head := (extractSection? page .head).getD ""
  body := (extractSection? page .body).getD page
  title := (title? page.toList).map String.ofList

def structuralNames : List String := ["html", "head", "body"]

/-- Reads an opening or closing tag of document structure. -/
def structuralTag? (s : List Char) : Option (Reading Unit) :=
  structuralNames.findSome? fun name =>
    match s with
    | '<' :: '/' :: r =>
      (openTag? .word name.toList ('<' :: r)).map fun t => ⟨(), '<' :: '/' :: t.text.tail, t.rest⟩
    | s => (openTag? .word name.toList s).map fun t => ⟨(), t.text, t.rest⟩

theorem append_of_structuralTag? {s : List Char} {r : Reading Unit} (h : structuralTag? s = some r) :
    r.text ++ r.rest = s ∧ r.text ≠ [] := by
  obtain ⟨name, -, h⟩ := List.exists_of_findSome?_eq_some h
  split at h
  · obtain ⟨t, ht, rfl⟩ := Option.map_eq_some_iff.1 h
    obtain ⟨ha, hn⟩ := append_of_openTag? ht
    cases hx : t.text with
    | nil => exact absurd hx hn
    | cons c x =>
      rw [hx] at ha
      simp at ha
      simp [← ha.2]
  · obtain ⟨t, ht, rfl⟩ := Option.map_eq_some_iff.1 h
    exact append_of_openTag? ht

/-- Whether a tag of document structure starts here and never ends, so that no later one does either. -/
def isUnclosedStructure (s : List Char) : Bool :=
  structuralNames.any fun name =>
    match s with
    | '<' :: '/' :: r => isUnclosedTag .word name.toList ('<' :: r)
    | s => isUnclosedTag .word name.toList s

theorem structuralTag?_of_isUnclosedStructure {s t : List Char} (h : isUnclosedStructure s = true)
    (ht : t <:+ s) : structuralTag? t = none := by
  have hs : '>' ∉ s := by
    obtain ⟨name, -, h⟩ := List.any_eq_true.1 h
    split at h <;> simp_all [isUnclosedTag]
  have ht : '>' ∉ t := fun hm => hs (ht.mem hm)
  refine List.findSome?_eq_none_iff.2 fun name _ => ?_
  split
  · rw [openTag?_of_not_mem (by simp_all)]; rfl
  · rw [openTag?_of_not_mem ht]; rfl

def structuralTags : Recogniser Unit where
  read := structuralTag?
  append_of_read h := (append_of_structuralTag? h).1
  text_ne_nil h := (append_of_structuralTag? h).2
  isHopeless := isUnclosedStructure
  read_of_isHopeless := structuralTag?_of_isUnclosedStructure

def stripStructure (s : String) : String := String.ofList (structuralTags.erase s.toList)

def stripTitle (s : String) : String := String.ofList (Section.title.elements.erase s.toList)

end PageBundle.Markup
