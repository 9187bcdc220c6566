import PageBundle.Text.Scan

/-!
Comments with an opening and a closing mark. A comment ends at the first closing mark after its opening
mark; without one it is no comment.
-/

namespace PageBundle.Markup

open Text

/-- Reads an opening mark, and all up to the first closing mark after it. -/
def delimited? (opening closing s : List Char) : Option (Reading Unit) := do
  let inside ← dropLiteral? opening s
  let (body, rest) ← breakAt (dropLiteral? closing) inside
  some ⟨(), opening ++ body ++ closing, rest⟩

theorem append_of_delimited? {opening closing s : List Char} {r : Reading Unit}
    (h : delimited? opening closing s = some r) : r.text ++ r.rest = s := by
  simp only [delimited?, Option.bind_eq_bind, Option.bind_eq_some_iff] at h
  obtain ⟨inside, hi, ⟨body, rest⟩, hb, h⟩ := h
  cases h
  obtain ⟨t, ht, hr⟩ := of_breakAt hb
  rw [← dropLiteral?_eq_some_iff.1 hi, ht, ← dropLiteral?_eq_some_iff.1 hr]
  simp

/-- Whether an opening mark stands here and no closing mark after it, so that no later one has one either. -/
def isUnclosed (opening closing s : List Char) : Bool :=
  (dropLiteral? opening s).any fun inside => (breakAt (dropLiteral? closing) inside).isNone

/-- No comment begins behind an opening mark that is never closed. -/
theorem delimited?_of_isUnclosed {opening closing s t : List Char}
    (h : isUnclosed opening closing s = true) (ht : t <:+ s) : delimited? opening closing t = none := by
  cases hi : dropLiteral? opening s with
  | none => simp [isUnclosed, hi] at h
  | some inside =>
    simp only [isUnclosed, hi, Option.any_some, Option.isNone_iff_eq_none] at h
    cases hi' : dropLiteral? opening t with
    | none => simp [delimited?, hi']
    | some inside' =>
      have hs := dropLiteral?_eq_some_iff.1 hi
      have ht' := dropLiteral?_eq_some_iff.1 hi'
      have hl : inside'.length ≤ inside.length := by
        have := ht.length_le
        simp only [← hs, ← ht', List.length_append] at this
        omega
      have : inside' <:+ inside :=
        List.suffix_of_suffix_length_le (List.IsSuffix.trans ⟨opening, ht'⟩ ht) ⟨opening, hs⟩ hl
      simp [delimited?, hi', breakAt_eq_none_of_suffix h this]

/-- The comments between two marks. -/
def comments (opening closing : List Char) (h : opening ≠ []) : Recogniser Unit where
  read := delimited? opening closing
  append_of_read := append_of_delimited?
  text_ne_nil := by
    intro s r hr
    simp only [delimited?, Option.bind_eq_bind, Option.bind_eq_some_iff] at hr
    obtain ⟨_, _, _, _, hr⟩ := hr
    cases hr
    simp [h]
  isHopeless := isUnclosed opening closing
  read_of_isHopeless := delimited?_of_isUnclosed

def htmlComments : Recogniser Unit := comments "<!--".toList "-->".toList (by decide)

/-- Comments of style sheets and scripts that may run over several lines. -/
def blockComments : Recogniser Unit := comments "/*".toList "*/".toList (by decide)

end PageBundle.Markup
