import PageBundle.Proofs.Markup.Extraction
import PageBundle.Proofs.Markup.Plain

/-! What ends an element is the first closing tag of its name, wherever it comes from. A text that holds none is all that
stands in front of one that is put after it: a closing tag has no `<` but its first character, so the end of the text cannot
begin one that runs into it. -/

namespace PageBundle.Markup

open Text

variable {e : NameEnd} {name attrs s x c : List Char}

theorem IsEndTag.exists_cons (h : IsEndTag name c) : ∃ v, c = '<' :: v := by
  obtain ⟨w, blanks, -, -, rfl⟩ := h
  exact ⟨_, rfl⟩

theorem IsEndTag.exists_concat (h : IsEndTag name c) : ∃ v, c = v ++ ['>'] := by
  obtain ⟨w, blanks, -, -, rfl⟩ := h
  exact ⟨'<' :: '/' :: (w ++ blanks), rfl⟩

def HasEndTag (name s : List Char) : Prop := ∃ c, IsEndTag name c ∧ c <:+: s

/-- A search for a closing tag finds one exactly if there is one. -/
theorem breakAt_closeTag?_isSome_iff : (breakAt (closeTag? name) s).isSome = true ↔ HasEndTag name s := by
  rw [breakAt_isSome_iff]
  constructor
  · intro h
    obtain ⟨t, ht, hs⟩ := h
    obtain ⟨r, hr⟩ := Option.isSome_iff_exists.1 hs
    obtain ⟨hend, rfl⟩ := (accepts_endTag name).sound hr
    exact ⟨r.text, hend, (List.prefix_append _ _).isInfix.trans ht.isInfix⟩
  · intro h
    obtain ⟨c, hc, u, v, rfl⟩ := h
    obtain ⟨x, hx⟩ := (accepts_endTag name).complete v hc
    exact ⟨c ++ v, ⟨u, (List.append_assoc _ _ _).symm⟩, Option.isSome_iff_exists.2 ⟨_, hx⟩⟩

instance (name s : List Char) : Decidable (HasEndTag name s) := decidable_of_iff _ breakAt_closeTag?_isSome_iff

/-- A text without a closing tag is all that stands before one that is put after it. -/
theorem breakAt_closing (hname : Spells name name) (hn : HasNoAngle name) (h : ¬ HasEndTag name s) :
    breakAt (closeTag? name) (s ++ closing name) = some (s, ⟨(), closing name, []⟩) := by
  refine breakAt_eq_some_iff.2 ⟨closing name, rfl, closeTag?_closing hname, fun u v huv hv => ?_⟩
  cases hr : closeTag? name (v ++ closing name) with
  | none => rfl
  | some r =>
    have hv := closeTag?_of_append hn hr hv
    exact absurd (breakAt_closeTag?_isSome_iff.1 (breakAt_isSome_iff.2 ⟨v, ⟨u, huv.symm⟩, hv⟩)) h

/-- A text without a closing tag is all that an element holds whose tags are put around it. -/
theorem element?_of_not_hasEndTag (hname : Spells name name) (hn : HasNoAngle name) (hgt : '>' ∉ attrs)
    (he : e.holds (attrs ++ ['>']) = true) (h : ¬ HasEndTag name s) :
    element? e name (opening name attrs ++ (s ++ (closing name ++ x))) =
      some ⟨⟨attrs, s⟩, opening name attrs ++ s ++ closing name, x⟩ := by
  have hclose := breakAt_closeTag?_append (u := x) hn (breakAt_closing hname hn h)
  rw [List.append_assoc] at hclose
  exact element?_of_breakAt (openTag?_opening hname hgt he) hclose

/-- All that stands before the first closing tag has none. -/
theorem not_hasEndTag_of_breakAt {r : Reading Unit} (h : breakAt (closeTag? name) (s ++ x) = some (s, r)) :
    ¬ HasEndTag name s := by
  intro hs
  obtain ⟨c, hc, u, v, rfl⟩ := hs
  obtain ⟨y, -, -, hleast⟩ := breakAt_eq_some_iff.1 h
  obtain ⟨d, hd⟩ := hc.exists_cons
  have hnone := hleast u (c ++ v) (List.append_assoc _ _ _) (by simp [hd])
  obtain ⟨z, hz⟩ := (accepts_endTag name).complete (v ++ y) hc
  rw [List.append_assoc, hz] at hnone
  cases hnone

end PageBundle.Markup
