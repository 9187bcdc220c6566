import PageBundle.Proofs.Minify.Spacing

/-! Texts that the minifier leaves as they are. Whatever it makes of a text has the blanks, tags and quotes of a
shrunk text and no comment that ends with its line. What it may still hold is a comment between two marks,
for the removal of one comment may bring the marks of another together. So a second run changes nothing
exactly if none has come about. That is settled once the last comment is removed: the passes after that move
blanks and exchange quotes, and no mark has any. -/

namespace PageBundle.Minify

open Text Markup

variable {b c : Char} {s t x : List Char}

/-! ## Ends of the text -/

theorem hasComment_trim_iff {o : List Char} (hb : o.head? = some b) (hb' : isBlank b = false)
    (hc : isBlank c = false) : HasComment o (x ++ [c]) (trim s) ↔ HasComment o (x ++ [c]) s := by
  constructor
  · rintro ⟨y, hy⟩
    exact ⟨y, hy.trans (trim_isInfix s)⟩
  · rintro ⟨y, hy⟩
    refine ⟨y, isInfix_trim hy (b := b) (c := c) ?_ hb' ?_ hc⟩
    · rw [List.head?_append, hb]
      rfl
    · rw [← List.append_assoc, ← List.append_assoc, List.getLast?_concat]

/-! ## Quotes -/

def singleQuote (c : Char) : Char := if c = '"' then '\'' else c

theorem singleQuotes_eq (s : List Char) : singleQuotes s = s.map singleQuote := rfl

theorem map_singleQuote_eq_self (h : '"' ∉ s) : s.map singleQuote = s := by
  have hid : ∀ c ∈ s, singleQuote c = id c := by
    intro c hc
    refine if_neg ?_
    rintro rfl
    exact h hc
  rw [List.map_congr_left hid, List.map_id]

/-- What has no single quote in the end is as it was. -/
theorem eq_of_map_singleQuote (hx : '\'' ∉ x) (h : s.map singleQuote = x) : s = x := by
  rw [← h]
  symm
  refine map_singleQuote_eq_self fun hs => hx ?_
  rw [← h]
  exact List.mem_map.2 ⟨'"', hs, rfl⟩

theorem infix_of_infix_singleQuotes (hx : '\'' ∉ x) (h : x <:+: singleQuotes s) : x <:+: s := by
  obtain ⟨u, v, h⟩ := h
  obtain ⟨ux, v', rfl, hux, -⟩ := List.map_eq_append_iff.1 h.symm
  obtain ⟨u', x', rfl, -, hx'⟩ := List.map_eq_append_iff.1 hux
  rw [eq_of_map_singleQuote hx hx']
  exact List.infix_append u' x v'

/-- Exchanging quotes neither makes a comment nor undoes one, for no mark has a quote. -/
theorem hasComment_singleQuotes_iff {o k : List Char} (ho : '\'' ∉ o ∧ '"' ∉ o) (hk : '\'' ∉ k ∧ '"' ∉ k) :
    HasComment o k (singleQuotes s) ↔ HasComment o k s := by
  constructor
  · rintro ⟨y, u, v, h⟩
    obtain ⟨uy, v', rfl, huy, -⟩ := List.map_eq_append_iff.1 h.symm
    obtain ⟨u', r, rfl, -, hr⟩ := List.map_eq_append_iff.1 huy
    obtain ⟨o', r, rfl, ho', hr⟩ := List.map_eq_append_iff.1 hr
    obtain ⟨y', k', rfl, -, hk'⟩ := List.map_eq_append_iff.1 hr
    rw [eq_of_map_singleQuote ho.1 ho', eq_of_map_singleQuote hk.1 hk']
    exact ⟨y', List.infix_append u' _ v'⟩
  · rintro ⟨y, u, v, rfl⟩
    refine ⟨y.map singleQuote, u.map singleQuote, v.map singleQuote, ?_⟩
    rw [singleQuotes_eq, List.map_append, List.map_append, List.map_append, List.map_append,
      map_singleQuote_eq_self ho.2, map_singleQuote_eq_self hk.2]

theorem isBlank_singleQuote (c : Char) : isBlank (singleQuote c) = isBlank c := by
  unfold singleQuote
  split
  · rename_i h
    rw [h]
    decide
  · rfl

theorem isBlank_of_map_singleQuote {o : Option Char} (h : ∀ d, o = some d → isBlank d = false)
    (hc : o.map singleQuote = some c) : isBlank c = false := by
  obtain ⟨d, hd, rfl⟩ := Option.map_eq_some_iff.1 hc
  rw [isBlank_singleQuote]
  exact h d hd

theorem not_mem_singleQuotes (s : List Char) : '"' ∉ singleQuotes s := by
  intro h
  obtain ⟨c, -, hc⟩ := List.mem_map.1 h
  split at hc
  · cases hc
  · contradiction

/-! ## Shrunk texts -/

/-- The form of a text that either minifier has been through. -/
structure IsCompact (s : List Char) : Prop extends Spaced s where
  gaps : ¬ ['>', ' ', '<'] <:+: s
  closings : ¬ [' ', '/', '>'] <:+: s
  quotes : '"' ∉ s
  first : ∀ c, s.head? = some c → isBlank c = false
  last : ∀ c, s.getLast? = some c → isBlank c = false

theorem isCompact_singleQuotes_trim (hs : Spaced s) (hg : ¬ ['>', ' ', '<'] <:+: s) (hc : ¬ [' ', '/', '>'] <:+: s) :
    IsCompact (singleQuotes (trim s)) := by
  -- What is not in the text is not in what the last two passes make of it.
  have back : ∀ {x : List Char}, '\'' ∉ x → x <:+: singleQuotes (trim s) → x <:+: s :=
    fun hx hi => (infix_of_infix_singleQuotes hx hi).trans (trim_isInfix _)
  refine ⟨⟨fun c hc hb => ?_, fun hi => hs.runs (back (by decide) hi)⟩, fun hi => hg (back (by decide) hi),
    fun hi => hc (back (by decide) hi), not_mem_singleQuotes _, fun c hc => ?_, fun c hc => ?_⟩
  · have hq : c ≠ '\'' := by
      rintro rfl
      exact absurd hb (by decide)
    exact hs.blanks c ((List.singleton_infix_iff c _).1 (back (x := [c]) (by simpa using Ne.symm hq)
      ((List.singleton_infix_iff c _).2 hc))) hb
  · rw [singleQuotes_eq, List.head?_map] at hc
    exact isBlank_of_map_singleQuote (fun d => head?_trim) hc
  · rw [singleQuotes_eq, List.getLast?_map] at hc
    exact isBlank_of_map_singleQuote (fun d => getLast?_trim) hc

theorem IsCompact.tight (h : IsCompact s) : Tight s := by
  intro b hb hi
  have hm : b ∈ s := hi.mem List.mem_cons_self
  rw [h.blanks b hm hb] at hi
  exact h.closings hi

/-- The form of a text that the minifier has been through. -/
structure IsShrunk (s : List Char) : Prop extends IsCompact s where
  lines : ¬ ['/', '/'] <:+: s

/-- The text without its comments: those of markup, those over several lines, and those that end with their
line. Before the last of these go, the blanks in front of `/>` do. -/
def withoutComments (s : List Char) : List Char :=
  eraseLineComments (tightenSelfClosing (blockComments.erase (htmlComments.erase s)))

theorem document_eq (s : List Char) :
    document s = singleQuotes (trim (closeGaps (collapseBlanks (withoutComments s)))) := rfl

/-- Whatever text the minifier is given, the result is shrunk. -/
theorem isShrunk_document (s : List Char) : IsShrunk (document s) := by
  rw [document_eq, withoutComments]
  have htight := tight_tightenSelfClosing (blockComments.erase (htmlComments.erase s))
  generalize tightenSelfClosing (blockComments.erase (htmlComments.erase s)) = t at htight
  have hclosings := not_infix_collapseBlanks (tight_eraseLineComments htight)
  have hlines : ¬ ['/', '/'] <:+: collapseBlanks (eraseLineComments t) := by
    intro hi
    have hslash : ∀ c ∈ ['/'], Solid c := solid_of_all (by decide)
    exact not_infix_eraseLineComments t ((respaces_collapseBlanks.infix_iff hslash (by decide)).1 hi)
  have hspaced := spaced_collapseBlanks (eraseLineComments t)
  generalize collapseBlanks (eraseLineComments t) = u at hclosings hlines hspaced
  have h := isCompact_singleQuotes_trim (spaced_closeGaps hspaced) (not_infix_closeGaps u)
    fun hi => hclosings (infix_of_infix_closeGaps (by decide) hi)
  refine ⟨h, fun hi => ?_⟩
  have hi : ['/', '/'] <:+: closeGaps u := (infix_of_infix_singleQuotes (by decide) hi).trans (trim_isInfix _)
  exact hlines (infix_of_infix_closeGaps (by decide) hi)

/-! ## Fixpoints -/

/-- Whether a text has a comment of markup, or one of style sheets and scripts that may run over several lines. -/
def HasAnyComment (s : List Char) : Prop :=
  HasComment "<!--".toList "-->".toList s ∨ HasComment "/*".toList "*/".toList s

/-- A shrunk text without a comment is a fixpoint. -/
theorem document_eq_self (h : IsShrunk s) (hc : ¬ HasAnyComment s) : document s = s := by
  obtain ⟨hm, hb⟩ := not_or.1 hc
  rw [document_eq, withoutComments, htmlComments, erase_comments_eq_self _ hm, blockComments,
    erase_comments_eq_self _ hb, tightenSelfClosing_eq_self h.tight, eraseLineComments_eq_self h.lines,
    collapseBlanks_eq_self h.toSpaced, closeGaps_eq_self h.toSpaced h.gaps, trim_eq_self h.first h.last]
  exact map_singleQuote_eq_self h.quotes

theorem length_document_le (s : List Char) :
    (document s).length ≤ (blockComments.erase (htmlComments.erase s)).length := by
  rw [document_eq, withoutComments, singleQuotes, List.length_map]
  generalize blockComments.erase (htmlComments.erase s) = t
  calc (trim (closeGaps (collapseBlanks (eraseLineComments (tightenSelfClosing t))))).length
    _ ≤ (closeGaps (collapseBlanks (eraseLineComments (tightenSelfClosing t)))).length := (trim_isInfix _).length_le
    _ ≤ (collapseBlanks (eraseLineComments (tightenSelfClosing t))).length := (closeGaps_sublist _).length_le
    _ ≤ (eraseLineComments (tightenSelfClosing t)).length := length_collapseBlanks_le _
    _ ≤ (tightenSelfClosing t).length := (eraseLineComments_sublist _).length_le
    _ ≤ t.length := (tightenSelfClosing_sublist _).length_le

/-- A text with a comment gets shorter. -/
theorem length_document_lt (hc : HasAnyComment s) : (document s).length < s.length := by
  refine Nat.lt_of_le_of_lt (length_document_le s) ?_
  have hle := (Recogniser.erase_sublist (R := blockComments) (htmlComments.erase s)).length_le
  by_cases hm : HasComment "<!--".toList "-->".toList s
  · have hlt := length_erase_comments_lt (by decide) hm
    exact Nat.lt_of_le_of_lt hle hlt
  · rw [htmlComments, erase_comments_eq_self _ hm]
    exact length_erase_comments_lt (by decide) (hc.resolve_left hm)

/-- The passes after the removal of comments neither make a comment nor undo one. -/
theorem hasAnyComment_document_iff : HasAnyComment (document s) ↔ HasAnyComment (withoutComments s) := by
  have h : ∀ {o x : List Char} {b c : Char}, o.head? = some b → (∀ d ∈ o, Solid d) → (∀ d ∈ x, Solid d) →
      isBlank c = false → ('\'' ∉ o ∧ '"' ∉ o) → ('\'' ∉ x ++ [c] ∧ '"' ∉ x ++ [c]) →
      (HasComment o (x ++ [c]) (document s) ↔ HasComment o (x ++ [c]) (withoutComments s)) := by
    intro o x b c hb ho hx hc hqo hqx
    have hne : o ≠ [] := by rintro rfl; cases hb
    rw [document_eq, hasComment_singleQuotes_iff hqo hqx,
      hasComment_trim_iff hb (ho b (List.mem_of_mem_head? hb)).1 hc,
      respaces_closeGaps.hasComment_iff hne ho hx hc, respaces_collapseBlanks.hasComment_iff hne ho hx hc]
  have hm := h (o := "<!--".toList) (x := "--".toList) (b := '<') (c := '>') (by decide +kernel)
    (solid_of_all (by decide +kernel)) (solid_of_all (by decide +kernel)) (by decide +kernel) (by decide +kernel)
    (by decide +kernel)
  have hb := h (o := "/*".toList) (x := "*".toList) (b := '/') (c := '/') (by decide +kernel)
    (solid_of_all (by decide +kernel)) (solid_of_all (by decide +kernel)) (by decide +kernel) (by decide +kernel)
    (by decide +kernel)
  exact or_congr hm hb

theorem document_document_eq_iff : document (document s) = document s ↔ ¬ HasAnyComment (withoutComments s) := by
  rw [← hasAnyComment_document_iff]
  constructor
  · intro he hc
    have := length_document_lt hc
    rw [he] at this
    exact Nat.lt_irrefl _ this
  · exact document_eq_self (isShrunk_document s)

end PageBundle.Minify

namespace PageBundle

open Minify

theorem minify_minify_eq_ofList (x : String) :
    minify (minify x) = String.ofList (document (document x.toList)) := by
  rw [minify, minify, String.toList_ofList]

/-- A second run of the minifier changes nothing exactly if the removal of all comments has left none in the
text; otherwise it makes the text shorter. -/
theorem minify_minify_eq_iff (x : String) :
    (minify (minify x) = minify x ↔ ¬ HasAnyComment (withoutComments x.toList)) ∧
      ((minify (minify x)).length < (minify x).length ↔ HasAnyComment (withoutComments x.toList)) := by
  rw [minify_minify_eq_ofList, minify, String.ofList_inj, String.length_ofList, String.length_ofList]
  refine ⟨document_document_eq_iff, ?_⟩
  constructor
  · intro hl
    by_contra hc
    rw [document_document_eq_iff.2 hc] at hl
    exact Nat.lt_irrefl _ hl
  · intro hc
    exact length_document_lt (hasAnyComment_document_iff.2 hc)

/-- A comment inside the opening mark of another one: without it the mark is whole. -/
theorem minify_minify_ne_commentInMark :
    minify (minify "<!-<!-- -->- a -->") ≠ minify "<!-<!-- -->- a -->" := by decide +kernel

end PageBundle
