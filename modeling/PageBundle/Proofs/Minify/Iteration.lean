import Mathlib.Data.String.Basic
import Mathlib.Logic.Function.Iterate
import PageBundle.Proofs.Minify.Fixpoint

/-! Running the minifiers again and again. No pass takes more bytes than it is given, and one that finds a comment gives
back fewer. What a minifier has made is changed by a further run only if it still holds a comment, so every further run
that changes it makes it shorter, and at some point there is nothing left to change. -/

namespace PageBundle.Minify

open Text Markup String

variable {c : Char} {s t : List Char}

/-! ## Bytes -/

theorem utf8Len_lt_of_sublist (h : t.Sublist s) (hl : t.length < s.length) : utf8Len t < utf8Len s := by
  induction h with
  | slnil => exact absurd hl (Nat.lt_irrefl _)
  | @cons t s c h ih =>
    have := utf8Len_le_of_sublist h
    have := c.utf8Size_pos
    rw [utf8Len_cons]
    omega
  | @cons_cons t s c h ih =>
    have := ih (by simpa using hl)
    rw [utf8Len_cons, utf8Len_cons]
    omega

/-- A space takes one byte, and no blank takes less. -/
theorem utf8Len_collapseBlanks_le (s : List Char) : utf8Len (collapseBlanks s) ≤ utf8Len s := by
  induction s with
  | nil => exact Nat.le_refl _
  | cons c s ih =>
    have hspace : (' ').utf8Size = 1 := by decide
    have := c.utf8Size_pos
    rw [collapseBlanks_cons]
    split
    · split <;> simp only [utf8Len_cons] <;> omega
    · simp only [utf8Len_cons]
      omega

theorem utf8Size_singleQuote (c : Char) : (singleQuote c).utf8Size = c.utf8Size := by
  unfold singleQuote
  split
  · rename_i h
    rw [h]
    decide
  · rfl

theorem utf8Len_singleQuotes (s : List Char) : utf8Len (singleQuotes s) = utf8Len s := by
  rw [singleQuotes_eq]
  induction s with
  | nil => rfl
  | cons c s ih => rw [List.map_cons, utf8Len_cons, utf8Len_cons, ih, utf8Size_singleQuote]

theorem utf8Len_trim_le (s : List Char) : utf8Len (trim s) ≤ utf8Len s := utf8Len_le_of_infix (trim_isInfix s)

theorem utf8Len_document_le (s : List Char) :
    utf8Len (document s) ≤ utf8Len (blockComments.erase (htmlComments.erase s)) := by
  rw [document_eq, withoutComments, utf8Len_singleQuotes]
  generalize blockComments.erase (htmlComments.erase s) = t
  calc utf8Len (trim (closeGaps (collapseBlanks (eraseLineComments (tightenSelfClosing t)))))
    _ ≤ utf8Len (closeGaps (collapseBlanks (eraseLineComments (tightenSelfClosing t)))) := utf8Len_trim_le _
    _ ≤ utf8Len (collapseBlanks (eraseLineComments (tightenSelfClosing t))) :=
      utf8Len_le_of_sublist (closeGaps_sublist _)
    _ ≤ utf8Len (eraseLineComments (tightenSelfClosing t)) := utf8Len_collapseBlanks_le _
    _ ≤ utf8Len t := utf8Len_le_of_sublist ((eraseLineComments_sublist _).trans (tightenSelfClosing_sublist _))

theorem utf8Len_markup_le (s : List Char) : utf8Len (markup s) ≤ utf8Len (htmlComments.erase s) := by
  rw [markup, utf8Len_singleQuotes]
  generalize htmlComments.erase s = t
  calc utf8Len (trim (tightenSelfClosing (closeGaps (collapseBlanks t))))
    _ ≤ utf8Len (tightenSelfClosing (closeGaps (collapseBlanks t))) := utf8Len_trim_le _
    _ ≤ utf8Len (collapseBlanks t) :=
      utf8Len_le_of_sublist ((tightenSelfClosing_sublist _).trans (closeGaps_sublist _))
    _ ≤ utf8Len t := utf8Len_collapseBlanks_le t

theorem utf8Len_erase_comments_lt {o k : List Char} (hne : o ≠ []) (h : HasComment o k s) :
    utf8Len ((comments o k hne).erase s) < utf8Len s :=
  utf8Len_lt_of_sublist (Recogniser.erase_sublist s) (length_erase_comments_lt hne h)

def HasMarkupComment (s : List Char) : Prop := HasComment "<!--".toList "-->".toList s

/-- A text with a comment loses bytes. -/
theorem utf8Len_document_lt (hc : HasAnyComment s) : utf8Len (document s) < utf8Len s := by
  refine Nat.lt_of_le_of_lt (utf8Len_document_le s) ?_
  have hle := utf8Len_le_of_sublist (Recogniser.erase_sublist (R := blockComments) (htmlComments.erase s))
  by_cases hm : HasMarkupComment s
  · exact Nat.lt_of_le_of_lt hle (utf8Len_erase_comments_lt (by decide) hm)
  · rw [htmlComments, erase_comments_eq_self _ hm]
    exact utf8Len_erase_comments_lt (by decide) (hc.resolve_left hm)

theorem utf8Len_markup_lt (hc : HasMarkupComment s) : utf8Len (markup s) < utf8Len s :=
  Nat.lt_of_le_of_lt (utf8Len_markup_le s) (utf8Len_erase_comments_lt (by decide) hc)

/-! ## Fixpoints of the milder minifier -/

/-- Whatever text the milder minifier is given, the result is compact. -/
theorem isCompact_markup (s : List Char) : IsCompact (markup s) := by
  rw [markup]
  generalize htmlComments.erase s = t
  have hs := spaced_closeGaps (spaced_collapseBlanks t)
  have hg := not_infix_closeGaps (collapseBlanks t)
  generalize closeGaps (collapseBlanks t) = u at hs hg
  -- The blanks in front of `/>` go last, and what goes stands next to a slash: it brings no blanks together.
  have back : ∀ {x : List Char}, '/' ∉ x.tail → x <:+: tightenSelfClosing u → x <:+: u :=
    infix_of_infix_tightenSelfClosing
  refine isCompact_singleQuotes_trim ⟨fun c hc => ?_, fun hi => hs.runs (back (by decide) hi)⟩
    (fun hi => hg (back (by decide) hi)) (tight_tightenSelfClosing u ' ' (by decide))
  exact hs.blanks c ((tightenSelfClosing_sublist u).subset hc)

/-- A compact text without a comment is a fixpoint of the milder minifier. -/
theorem markup_eq_self (h : IsCompact s) (hc : ¬ HasMarkupComment s) : markup s = s := by
  rw [markup, htmlComments, erase_comments_eq_self _ hc, collapseBlanks_eq_self h.toSpaced,
    closeGaps_eq_self h.toSpaced h.gaps, tightenSelfClosing_eq_self h.tight, trim_eq_self h.first h.last]
  exact map_singleQuote_eq_self h.quotes

/-! ## Iteration -/

/-- A pass that either leaves its own results as they are or takes bytes from them comes to an end. -/
theorem exists_iterate_eq_self {f : String → String}
    (h : ∀ x, f (f x) = f x ∨ (f (f x)).utf8ByteSize < (f x).utf8ByteSize) (x : String) :
    ∃ n, f (f^[n] x) = f^[n] x := by
  induction hn : (f x).utf8ByteSize using Nat.strongRecOn generalizing x with
  | ind n ih =>
    by_cases he : f (f x) = f x
    · exact ⟨1, he⟩
    · obtain ⟨m, hm⟩ := ih _ (hn ▸ (h x).resolve_left he) (f x) rfl
      exact ⟨m + 1, hm⟩

/-- What a run of a minifier makes of a text of a certain form, if it leaves such a text alone but for its comments. -/
theorem fixed_or_shorter {f : String → String} {P : List Char → Prop} {y : String}
    (hself : ¬ P y.toList → f y = y) (hlt : P y.toList → (f y).utf8ByteSize < y.utf8ByteSize) :
    (f y = y ↔ ¬ P y.toList) ∧ (f y ≠ y → (f y).utf8ByteSize < y.utf8ByteSize) := by
  refine ⟨⟨fun he hc => ?_, hself⟩, fun hne => hlt (by_contra fun hc => hne (hself hc))⟩
  have := hlt hc
  rw [he] at this
  exact Nat.lt_irrefl _ this

end PageBundle.Minify

namespace PageBundle

open Markup Minify

theorem minify_minify_cases (x : String) :
    (minify (minify x) = minify x ↔ ¬ HasAnyComment (minify x).toList) ∧
      (minify (minify x) ≠ minify x → (minify (minify x)).utf8ByteSize < (minify x).utf8ByteSize) := by
  refine fixed_or_shorter (fun hc => ?_) (fun hc => ?_)
  · have hs := isShrunk_document x.toList
    rw [minify, String.toList_ofList] at hc
    rw [minify_minify_eq_ofList, document_eq_self hs hc, minify]
  · rw [minify, String.utf8ByteSize_ofList, ← String.utf8Len_toList (minify x)]
    exact utf8Len_document_lt hc

theorem minifyMarkup_minifyMarkup_cases (x : String) :
    (minifyMarkup (minifyMarkup x) = minifyMarkup x ↔ ¬ HasMarkupComment (minifyMarkup x).toList) ∧
      (minifyMarkup (minifyMarkup x) ≠ minifyMarkup x →
        (minifyMarkup (minifyMarkup x)).utf8ByteSize < (minifyMarkup x).utf8ByteSize) := by
  refine fixed_or_shorter (fun hc => ?_) (fun hc => ?_)
  · have hs := isCompact_markup x.toList
    rw [minifyMarkup, String.toList_ofList] at hc
    rw [minifyMarkup, minifyMarkup, String.toList_ofList, markup_eq_self hs hc]
  · rw [minifyMarkup, String.utf8ByteSize_ofList, ← String.utf8Len_toList (minifyMarkup x)]
    exact utf8Len_markup_lt hc

/-- What a minifier has made of a text is a fixpoint exactly if it has no comment of the sorts that the minifier takes
for comments, and otherwise a further run takes bytes from it. So running either of them again and again comes to an
end. -/
theorem minify_iterate_stops (x : String) :
    ((minify (minify x) = minify x ↔ ¬ HasComment "<!--".toList "-->".toList (minify x).toList ∧
        ¬ HasComment "/*".toList "*/".toList (minify x).toList) ∧
      (minify (minify x) ≠ minify x → (minify (minify x)).utf8ByteSize < (minify x).utf8ByteSize) ∧
      ∃ n, minify (minify^[n] x) = minify^[n] x) ∧
    (minifyMarkup (minifyMarkup x) = minifyMarkup x ↔
        ¬ HasComment "<!--".toList "-->".toList (minifyMarkup x).toList) ∧
      (minifyMarkup (minifyMarkup x) ≠ minifyMarkup x →
        (minifyMarkup (minifyMarkup x)).utf8ByteSize < (minifyMarkup x).utf8ByteSize) ∧
      ∃ n, minifyMarkup (minifyMarkup^[n] x) = minifyMarkup^[n] x := by
  obtain ⟨hfix, hlt⟩ := minify_minify_cases x
  obtain ⟨hfix', hlt'⟩ := minifyMarkup_minifyMarkup_cases x
  rw [HasAnyComment, not_or] at hfix
  refine ⟨⟨hfix, hlt, ?_⟩, hfix', hlt', ?_⟩
  · exact exists_iterate_eq_self (fun y => or_iff_not_imp_left.2 (minify_minify_cases y).2) x
  · exact exists_iterate_eq_self (fun y => or_iff_not_imp_left.2 (minifyMarkup_minifyMarkup_cases y).2) x

end PageBundle
